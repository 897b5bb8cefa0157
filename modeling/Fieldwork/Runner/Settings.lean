import Fieldwork.FailureKind
import Fieldwork.Number.Width
import Fieldwork.Url.Basic

namespace Fieldwork

/-!
# Settings of the runner

The settings are looked up under names.  A value counts without the blanks
around it, and a value of blanks alone counts as missing.  The settings are
checked in the order of their fields; the two that may not be zero are compared
with zero after all of them can be read.
-/

inductive TaskSource where
  /-- A task service, and the task to work on. -/
  | service (address : WebAddress) (token : Option String) (task : Int64)
  /-- A file, who works on its tasks, and the task to work on, if it is not the first. -/
  | file (path performer : String) (task : Option Int64)
  deriving DecidableEq, Repr

structure Settings where
  source : TaskSource
  timeoutSeconds : Nat
  attempts : Nat
  backoffMillis : Nat
  deriving DecidableEq, Repr

inductive SettingsFault where
  | notInteger (name value : String) (fault : IntegerFault)
  | taskRequired
  | badAddress (value : String) (fault : Url.Fault)
  | foreignScheme (scheme : String)
  | zero (name : String)
  deriving DecidableEq, Repr

namespace Settings

/-- The name of the task to work on. -/
def taskName : String :=
  "FIELDOPS_TASK_ID"

def fileName : String :=
  "FIELDOPS_TASK_FILE"

/-- The name of who works on the tasks of a file. -/
def performerName : String :=
  "FIELDOPS_PERFORMED_BY"

/-- The name of the address of the task service. -/
def addressName : String :=
  "FIELDOPS_API_BASE_URL"

/-- The name of the token for the task service. -/
def tokenName : String :=
  "FIELDOPS_API_TOKEN"

/-- The name of the time after which a request is given up. -/
def timeoutName : String :=
  "FIELDOPS_HTTP_TIMEOUT_SECONDS"

/-- The name of how often a request is attempted. -/
def attemptsName : String :=
  "FIELDOPS_HTTP_MAX_ATTEMPTS"

/-- The name of the time to wait before the second attempt. -/
def backoffName : String :=
  "FIELDOPS_HTTP_RETRY_BACKOFF_MS"

def names : List String :=
  [taskName, fileName, performerName, addressName, tokenName, timeoutName,
    attemptsName, backoffName]

/-- The address of the task service where none is given. -/
def usualAddress : String :=
  "http://127.0.0.1:3001"

/-- Who works on the tasks of a file where nobody is named. -/
def usualPerformer : String :=
  "field-technician"

end Settings

namespace SettingsFault

def kind :
    SettingsFault →
    FailureKind :=
  fun _ => .configuration

def detail :
    SettingsFault →
    String
  | notInteger name value fault =>
      "invalid " ++ name ++ " value '" ++ value ++ "': " ++ fault.message
  | taskRequired =>
      Settings.taskName ++ " is required unless " ++ Settings.fileName ++ " is set"
  | badAddress value fault =>
      "invalid " ++ Settings.addressName ++ " value '" ++ value ++ "': " ++ fault.message
  | foreignScheme scheme =>
      Settings.addressName ++ " must use http or https, got '" ++ scheme ++ "'"
  | zero name => name ++ " must be greater than zero"

end SettingsFault

abbrev Lookup : Type :=
  String → Option String

namespace Lookup

/-- Every value without the blanks around it, and none that is blank. -/
def solid
    (lookup : Lookup) :
    Lookup :=
  fun name => ((lookup name).map Text.trim).filter fun value => !value.isEmpty

/-- An integer between two bounds under a name, if a value is there. -/
def integer?
    (lookup : Lookup)
    (name : String)
    (least greatest : Int) :
    Except SettingsFault (Option Int) :=
  match lookup name with
  | none => .ok none
  | some value =>
      match readInteger least greatest value.toList with
      | .ok integer => .ok (some integer)
      | .error fault => .error (.notInteger name value fault)

/-- A natural up to a bound under a name, and a usual one elsewhere. -/
def natural
    (lookup : Lookup)
    (name : String)
    (greatest usual : Nat) :
    Except SettingsFault Nat :=
  (lookup.integer? name 0 greatest).map fun integer =>
    (integer.map Int.toNat).getD usual

end Lookup

namespace Settings

/-- The web address of the task service. -/
def readAddress
    (value : String) :
    Except SettingsFault WebAddress :=
  match Url.read value with
  | .error fault => .error (.badAddress value fault)
  | .ok (.foreign scheme) => .error (.foreignScheme scheme)
  | .ok (.web address) => .ok address

/-- The source of the tasks, given the task to work on. -/
def readSource
    (lookup : Lookup)
    (task : Option Int64) :
    Except SettingsFault TaskSource :=
  match lookup fileName, task with
  | some path, task =>
      .ok (.file path ((lookup performerName).getD usualPerformer) task)
  | none, none => .error .taskRequired
  | none, some task =>
      (readAddress ((lookup addressName).getD usualAddress)).map fun address =>
        .service address (lookup tokenName) task

def requirePositive
    (name : String)
    (value : Nat) :
    Except SettingsFault Unit :=
  if value = 0 then .error (.zero name) else .ok ()

def readSolid
    (lookup : Lookup) :
    Except SettingsFault Settings := do
  let task ← lookup.integer? taskName leastInt64 greatestInt64
  let source ← readSource lookup (task.map Int64.ofInt)
  let timeoutSeconds ← lookup.natural timeoutName greatestNat64 15
  let attempts ← lookup.natural attemptsName greatestNat8 3
  let backoffMillis ← lookup.natural backoffName greatestNat64 250
  requirePositive timeoutName timeoutSeconds
  requirePositive attemptsName attempts
  return { source, timeoutSeconds, attempts, backoffMillis }

def read
    (lookup : Lookup) :
    Except SettingsFault Settings :=
  readSolid lookup.solid

/-- The task to work on, if it is named. -/
def task?
    (settings : Settings) :
    Option Int64 :=
  match settings.source with
  | .service _ _ task => some task
  | .file _ _ task => task

end Settings

end Fieldwork
