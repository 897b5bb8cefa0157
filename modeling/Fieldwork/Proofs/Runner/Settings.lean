import Fieldwork.Proofs.Except
import Fieldwork.Proofs.Trimming
import Fieldwork.Runner.Console

namespace Fieldwork

/-!
# Settings that hold together

The settings of a run are looked up one by one, and the checks between them decide that
a service comes with a task and with a web address.  Loose settings are what is looked up
before anything is known of such ties: any address may stand in them and the task may be
missing.  Reading loose settings with the checks comes to reading the settings, so that
who takes loose settings up never finds the task of a service missing.
-/

/-! ## Lookups -/

namespace Lookup

variable {names : List String} {lookup other : Lookup} {name : String}

end Lookup

namespace Settings

variable {lookup other : Lookup} {settings : Settings}

/-! ## What the settings depend on -/

end Settings

/-! ## Loose settings -/

/-- The scheme of an address in small letters. -/
def Url.scheme :
    Url →
    String
  | .web address => address.scheme
  | .foreign scheme => scheme

/-- Whether an address is one of the web, by its scheme. -/
def Url.IsWeb
    (address : Url) :
    Prop :=
  address.scheme = "http" ∨ address.scheme = "https"

instance
    (address : Url) :
    Decidable address.IsWeb :=
  inferInstanceAs (Decidable (_ ∨ _))

theorem Url.isWeb_web
    (address : WebAddress) :
    (Url.web address).IsWeb := by
  cases secure : address.secure <;> simp [IsWeb, scheme, WebAddress.scheme, secure]

/-- An address that is read is not foreign where its scheme is one of the web. -/
theorem Url.not_isWeb_of_read
    {text scheme : String}
    (reads : Url.read text = .ok (.foreign scheme)) :
    ¬ (Url.foreign scheme).IsWeb := by
  unfold Url.read at reads
  split at reads
  · cases reads
  · rename_i found rest _
    have ofCheck {α : Type} {other : String} {check : Except Fault α}
        (comesTo : check.map (fun _ => Url.foreign other) = .ok (.foreign scheme)) :
        other = scheme := by
      obtain ⟨_, _, same⟩ := Except.map_eq_ok_iff.mp comesTo
      exact Url.foreign.inj same
    split at reads
    · obtain ⟨_, _, isWeb⟩ := Except.map_eq_ok_iff.mp reads
      cases isWeb
    · obtain ⟨_, _, isWeb⟩ := Except.map_eq_ok_iff.mp reads
      cases isWeb
    · exact ofCheck reads ▸ by decide
    · exact ofCheck reads ▸ by decide
    · exact ofCheck reads ▸ by decide
    · exact ofCheck reads ▸ by decide
    · rename_i notHttp notHttps _ _ _ _
      have same : found = scheme := by
        split at reads
        · exact ofCheck reads
        · exact Url.foreign.inj (Except.ok.inj reads)
      rintro (http | https)
      · exact notHttp (same.trans http)
      · exact notHttps (same.trans https)

/-- A source of tasks, at any address, which does not tell the task to work on. -/
inductive LooseSource where
  | service (address : Url) (token : Option String)
  | file (path performer : String)

/-- Settings with nothing known of how the source and the task go together. -/
structure LooseSettings where
  source : LooseSource
  task : Option Int64
  timeoutSeconds : Nat
  attempts : Nat
  backoffMillis : Nat

def TaskSource.loose :
    TaskSource →
    LooseSource
  | .service address token _ => .service (.web address) token
  | .file path performer _ => .file path performer

def Settings.loose
    (settings : Settings) :
    LooseSettings where
  source := settings.source.loose
  task := settings.task?
  timeoutSeconds := settings.timeoutSeconds
  attempts := settings.attempts
  backoffMillis := settings.backoffMillis

/-- Why loose settings name no owner of tasks. -/
inductive OwnerFault where
  /-- A service is there to be asked, but no task to ask it for. -/
  | taskMissing
  /-- The service cannot be asked over the web. -/
  | foreignScheme (scheme : String)
  | run (fault : RunFault)

namespace LooseSettings

open Settings (taskName fileName performerName addressName tokenName timeoutName attemptsName
  backoffName usualAddress usualPerformer requirePositive)

/-- Refuse an address by its scheme. -/
def requireWeb
    (address : Url) :
    Except SettingsFault Unit :=
  if address.IsWeb then .ok () else .error (.foreignScheme address.scheme)

/-- The source of the tasks; that of a service is read where the task is named. -/
def readSource
    (lookup : Lookup)
    (task : Option Int64) :
    Except SettingsFault LooseSource :=
  match lookup fileName with
  | some path =>
      .ok (.file path ((lookup performerName).getD usualPerformer))
  | none => do
      if task.isNone then throw .taskRequired
      let value := (lookup addressName).getD usualAddress
      let address ← (Url.read value).mapError (.badAddress value)
      requireWeb address
      return .service address (lookup tokenName)

def readSolid
    (lookup : Lookup) :
    Except SettingsFault LooseSettings := do
  let named ← lookup.integer? taskName leastInt64 greatestInt64
  let task := named.map Int64.ofInt
  let source ← readSource lookup task
  let timeoutSeconds ← lookup.natural timeoutName greatestNat64 15
  let attempts ← lookup.natural attemptsName greatestNat8 3
  let backoffMillis ← lookup.natural backoffName greatestNat64 250
  requirePositive timeoutName timeoutSeconds
  requirePositive attemptsName attempts
  return { source, task, timeoutSeconds, attempts, backoffMillis }

def read
    (lookup : Lookup) :
    Except SettingsFault LooseSettings :=
  readSolid lookup.solid

/-- The owner that loose settings name, and the task to work on. -/
def owner
    (settings : LooseSettings)
    (fileAt : String → Option String) :
    Except OwnerFault (TaskOwner × Int64) :=
  match settings.source, settings.task with
  | .service _ _, none =>
      .error .taskMissing
  | .service (.foreign scheme) _, some _ =>
      .error (.foreignScheme scheme)
  | .service (.web address) token, some task =>
      let service := RemoteService.build address.text token settings.attempts
      .ok (.remote (service.withBackoff settings.backoffMillis), task)
  | .file path performer, named =>
      (TaskOwner.ofFile path performer named (fileAt path)).mapError fun fault =>
        .run (.taskFile fault)

variable {lookup : Lookup} {task : Option Int64}

/-! ## Loose settings come to the settings -/

/-- The source that is read is the one of the settings. -/
theorem readSource_eq
    (lookup : Lookup)
    (task : Option Int64) :
    readSource lookup task = (Settings.readSource lookup task).map TaskSource.loose := by
  unfold readSource Settings.readSource
  cases lookup fileName with
  | some path =>
      rfl
  | none =>
      cases task with
      | none =>
          rfl
      | some task =>
          simp only [Settings.readAddress]
          cases reads : Url.read ((lookup addressName).getD usualAddress) with
          | error fault =>
              rfl
          | ok address =>
              cases address with
              | web address =>
                  have isWeb : requireWeb (.web address) = .ok () :=
                    if_pos (Url.isWeb_web address)
                  simp [isWeb, TaskSource.loose, bind, Except.bind, Except.map, pure, Except.pure]
              | foreign scheme =>
                  have notWeb : requireWeb (.foreign scheme) = .error (.foreignScheme scheme) :=
                    if_neg (Url.not_isWeb_of_read reads)
                  simp [notWeb, bind, Except.bind, Except.map]

/-- The settings name the task for which their source was read. -/
theorem task?_of_readSource
    {settings : Settings}
    (reads : Settings.readSource lookup task = .ok settings.source) :
    settings.task? = task := by
  unfold Settings.readSource at reads
  unfold Settings.task?
  split at reads
  · rw [← Except.ok.inj reads]
  · cases reads
  · obtain ⟨address, _, isService⟩ := Except.map_eq_ok_iff.mp reads
    rw [← isService]

theorem readSolid_eq
    (lookup : Lookup) :
    readSolid lookup = (Settings.readSolid lookup).map Settings.loose := by
  unfold readSolid Settings.readSolid
  -- after the source the same values are read, so only what is returned is to be compared
  simp only [bind, Except.map_bind, Except.bind_map, readSource_eq]
  refine Except.bind_congr_ok fun named _ => Except.bind_congr_ok fun source reads => ?_
  have finishes (timeoutSeconds attempts backoffMillis : Nat) :
      (pure ⟨source, timeoutSeconds, attempts, backoffMillis⟩ :
          Except SettingsFault Settings).map Settings.loose =
        pure ⟨source.loose, named.map Int64.ofInt, timeoutSeconds, attempts, backoffMillis⟩ := by
    have sameTask :
        (⟨source, timeoutSeconds, attempts, backoffMillis⟩ : Settings).task? =
          named.map Int64.ofInt :=
      task?_of_readSource reads
    rw [← sameTask]
    rfl
  simp only [finishes]

/-- Loose settings that are read are the parts of settings that are read. -/
theorem read_eq
    (lookup : Lookup) :
    read lookup = (Settings.read lookup).map Settings.loose :=
  readSolid_eq lookup.solid

end LooseSettings

namespace Settings

end Settings

end Fieldwork
