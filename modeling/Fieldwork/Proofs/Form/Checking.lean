import Mathlib.Data.List.Nodup
import Fieldwork.Form.Schema

namespace Fieldwork

/-!
# How a form is checked

A form is free of faults where it is sound, and otherwise has a first fault: that of the
first element that fails a check, by the first check that it fails, and only where no
element fails one, that of the first condition on a field without an element.
-/

theorem findSome?_cons_eq_or
    {gives : α → Option β}
    {item : α}
    {rest : List α} :
    (item :: rest).findSome? gives = (gives item).or (rest.findSome? gives) := by
  cases found : gives item <;> simp [found]

/-- The first result of a search is that of the item of the least rank that has one. -/
theorem findSome?_eq_some_iff_of_ranked
    {rank : α → Nat}
    {gives : α → Option β}
    {items : List α}
    {result : β}
    (ranked : items.Pairwise fun left right => rank left < rank right) :
    items.findSome? gives = some result ↔
      ∃ item ∈ items,
        gives item = some result ∧
          ∀ other ∈ items, (gives other).isSome = true → rank item ≤ rank other := by
  rw [List.findSome?_eq_some_iff]
  constructor
  · rintro ⟨before, item, after, rfl, found, noneBefore⟩
    refine ⟨item, by simp, found, ?_⟩
    intro other member given
    rw [List.pairwise_append, List.pairwise_cons] at ranked
    rcases List.mem_append.mp member with inFront | behind
    · simp [noneBefore other inFront] at given
    · rcases List.mem_cons.mp behind with rfl | later
      · exact Nat.le_refl _
      · exact Nat.le_of_lt (ranked.2.1.1 other later)
  · rintro ⟨item, member, found, least⟩
    obtain ⟨before, after, rfl⟩ := List.append_of_mem member
    refine ⟨before, item, after, rfl, found, ?_⟩
    intro other inFront
    rw [List.pairwise_append] at ranked
    have lower := ranked.2.2 other inFront item (by simp)
    cases given : gives other with
    | none =>
        rfl
    | some early =>
        have notBefore := least other (by simp [inFront]) (by simp [given])
        omega

/-- The checks of an element. -/
inductive ElementCheck where
  | hasId
  | ownId
  | hasName
  | ownName
  | freeName
  | hasOptions
  | bounds
  | lengths
  | pattern
  deriving DecidableEq, Repr

namespace ElementCheck

/-- The checks in their order. -/
def all : List ElementCheck :=
  [hasId, ownId, hasName, ownName, freeName, hasOptions, bounds, lengths, pattern]

/-- The place of a check in the order. -/
def rank
    (check : ElementCheck) :
    Nat :=
  all.idxOf check

theorem pairwise_all :
    all.Pairwise fun left right => left.rank < right.rank := by
  decide

theorem mem_all
    (check : ElementCheck) :
    check ∈ all := by
  cases check <;> decide

end ElementCheck

/--
How an element fails a check behind earlier elements, and the fault that this is.  Limits
are finite numbers, as a form can only write these.
-/
inductive Element.Fails
    (earlier : List Element)
    (element : Element) :
    ElementCheck → FormFault → Prop where
  | hasId
      (blank : Text.isBlank element.id = true) :
      Fails earlier element .hasId (.missingId earlier.length)
  | ownId
      {other : Element}
      (before : other ∈ earlier)
      (same : other.id = element.id) :
      Fails earlier element .ownId (.duplicateId element.id)
  | hasName
      (blank : Text.isBlank element.name = true) :
      Fails earlier element .hasName (.missingName element.id)
  | ownName
      {other : Element}
      (before : other ∈ earlier)
      (same : other.name = element.name) :
      Fails earlier element .ownName (.duplicateName element.name)
  | freeName
      (reserved : element.name = "_gps_location" ∨ element.name = "_form_metadata") :
      Fails earlier element .freeName (.reservedName element.name)
  | hasOptions
      (isChoice : element.type = .select ∨ element.type = .radio)
      (noOptions : element.options = []) :
      Fails earlier element .hasOptions (.missingOptions element.type element.name)
  | bounds
      {limits : Limits}
      {least greatest : Binary64}
      (limited : element.limits = some limits)
      (atLeast : limits.least = some least)
      (atMost : limits.greatest = some greatest)
      (crossed : greatest.steps < least.steps) :
      Fails earlier element .bounds (.leastAboveGreatest element.name least greatest)
  | lengths
      {limits : Limits}
      {least greatest : UInt64}
      (limited : element.limits = some limits)
      (atLeast : limits.leastLength = some least)
      (atMost : limits.greatestLength = some greatest)
      (crossed : greatest < least) :
      Fails earlier element .lengths (.leastLengthAboveGreatest element.name least greatest)
  | pattern
      {limits : Limits}
      {written : String}
      {fault : Pattern.Fault}
      (limited : element.limits = some limits)
      (declared : limits.pattern = some written)
      (unread : Pattern.read written = .error fault) :
      Fails earlier element .pattern (.badPattern element.name fault)

/-- The fault of the limits of an element by one check. -/
def Limits.failure?
    (limits : Limits)
    (element : String) :
    ElementCheck →
    Option FormFault
  | .bounds =>
      limits.least.bind fun least => limits.greatest.bind fun greatest =>
        if greatest.below least then some (.leastAboveGreatest element least greatest) else none
  | .lengths =>
      limits.leastLength.bind fun least => limits.greatestLength.bind fun greatest =>
        if greatest < least then some (.leastLengthAboveGreatest element least greatest) else none
  | .pattern =>
      limits.pattern.bind fun written =>
        match Pattern.read written with
        | .error fault => some (.badPattern element fault)
        | .ok _ => none
  | _ => none

/-- The fault of an element behind earlier ones by one check. -/
def Element.failure?
    (earlier : List Element)
    (element : Element) :
    ElementCheck →
    Option FormFault
  | .hasId =>
      if Text.isBlank element.id then some (.missingId earlier.length) else none
  | .ownId =>
      if (earlier.map Element.id).contains element.id then some (.duplicateId element.id) else none
  | .hasName =>
      if Text.isBlank element.name then some (.missingName element.id) else none
  | .ownName =>
      if (earlier.map Element.name).contains element.name then
        some (.duplicateName element.name)
      else none
  | .freeName =>
      if isReservedName element.name then some (.reservedName element.name) else none
  | .hasOptions =>
      if element.type.isChoice && element.options.isEmpty then
        some (.missingOptions element.type element.name)
      else none
  | check =>
      element.limits.bind fun limits => limits.failure? element.name check

variable {earlier : List Element} {element : Element} {limits : Limits} {check : ElementCheck}
  {fault : FormFault}

theorem Limits.bounds?_eq_some_iff :
    limits.failure? element.name .bounds = some fault ↔
      ∃ least greatest,
        limits.least = some least ∧ limits.greatest = some greatest ∧
          greatest.steps < least.steps ∧
          .leastAboveGreatest element.name least greatest = fault := by
  simp only [failure?, Option.bind_eq_some_iff, Binary64.below, decide_eq_true_eq,
    Option.ite_none_right_eq_some, Option.some.injEq, exists_and_left]

theorem Limits.lengths?_eq_some_iff :
    limits.failure? element.name .lengths = some fault ↔
      ∃ least greatest,
        limits.leastLength = some least ∧ limits.greatestLength = some greatest ∧
          greatest < least ∧ .leastLengthAboveGreatest element.name least greatest = fault := by
  simp only [failure?, Option.bind_eq_some_iff, Option.ite_none_right_eq_some,
    Option.some.injEq, exists_and_left]

theorem Limits.pattern?_eq_some_iff :
    limits.failure? element.name .pattern = some fault ↔
      ∃ written cause,
        limits.pattern = some written ∧ Pattern.read written = .error cause ∧
          .badPattern element.name cause = fault := by
  simp only [failure?, Option.bind_eq_some_iff]
  refine exists_congr fun written => ?_
  cases Pattern.read written <;> simp

theorem ElementType.isChoice_iff
    {type : ElementType} :
    type.isChoice = true ↔ type = .select ∨ type = .radio := by
  simp [isChoice]

theorem isReservedName_iff
    {name : String} :
    isReservedName name = true ↔ name = "_gps_location" ∨ name = "_form_metadata" := by
  simp [isReservedName, gpsLocationName, formMetadataName]

theorem contains_map_iff
    {key : Element → String}
    {text : String} :
    (earlier.map key).contains text = true ↔ ∃ other ∈ earlier, key other = text := by
  rw [List.contains_iff_mem, List.mem_map]

theorem Element.fails_of_failure?
    (failed : element.failure? earlier check = some fault) :
    element.Fails earlier check fault := by
  cases check with
  | hasId =>
      obtain ⟨blank, ⟨⟩⟩ := Option.ite_none_right_eq_some.mp failed
      exact .hasId blank
  | ownId =>
      obtain ⟨taken, ⟨⟩⟩ := Option.ite_none_right_eq_some.mp failed
      obtain ⟨other, before, same⟩ := contains_map_iff.mp taken
      exact .ownId before same
  | hasName =>
      obtain ⟨blank, ⟨⟩⟩ := Option.ite_none_right_eq_some.mp failed
      exact .hasName blank
  | ownName =>
      obtain ⟨taken, ⟨⟩⟩ := Option.ite_none_right_eq_some.mp failed
      obtain ⟨other, before, same⟩ := contains_map_iff.mp taken
      exact .ownName before same
  | freeName =>
      obtain ⟨reserved, ⟨⟩⟩ := Option.ite_none_right_eq_some.mp failed
      exact .freeName (isReservedName_iff.mp reserved)
  | hasOptions =>
      obtain ⟨lacks, ⟨⟩⟩ := Option.ite_none_right_eq_some.mp failed
      obtain ⟨isChoice, noOptions⟩ := Bool.and_eq_true_iff.mp lacks
      exact .hasOptions (ElementType.isChoice_iff.mp isChoice) (List.isEmpty_iff.mp noOptions)
  | bounds =>
      obtain ⟨limits, limited, failed⟩ := Option.bind_eq_some_iff.mp failed
      obtain ⟨least, greatest, atLeast, atMost, crossed, rfl⟩ :=
        Limits.bounds?_eq_some_iff.mp failed
      exact .bounds limited atLeast atMost crossed
  | lengths =>
      obtain ⟨limits, limited, failed⟩ := Option.bind_eq_some_iff.mp failed
      obtain ⟨least, greatest, atLeast, atMost, crossed, rfl⟩ :=
        Limits.lengths?_eq_some_iff.mp failed
      exact .lengths limited atLeast atMost crossed
  | pattern =>
      obtain ⟨limits, limited, failed⟩ := Option.bind_eq_some_iff.mp failed
      obtain ⟨written, cause, declared, unread, rfl⟩ := Limits.pattern?_eq_some_iff.mp failed
      exact .pattern limited declared unread

theorem Element.Fails.failure?_eq
    (fails : element.Fails earlier check fault) :
    element.failure? earlier check = some fault := by
  cases fails with
  | hasId blank =>
      exact if_pos blank
  | ownId before same =>
      exact if_pos (contains_map_iff.mpr ⟨_, before, same⟩)
  | hasName blank =>
      exact if_pos blank
  | ownName before same =>
      exact if_pos (contains_map_iff.mpr ⟨_, before, same⟩)
  | freeName reserved =>
      exact if_pos (isReservedName_iff.mpr reserved)
  | hasOptions isChoice noOptions =>
      refine if_pos (Bool.and_eq_true_iff.mpr ⟨?_, List.isEmpty_iff.mpr noOptions⟩)
      exact ElementType.isChoice_iff.mpr isChoice
  | bounds limited atLeast atMost crossed =>
      refine Option.bind_eq_some_iff.mpr ⟨_, limited, ?_⟩
      exact Limits.bounds?_eq_some_iff.mpr ⟨_, _, atLeast, atMost, crossed, rfl⟩
  | lengths limited atLeast atMost crossed =>
      refine Option.bind_eq_some_iff.mpr ⟨_, limited, ?_⟩
      exact Limits.lengths?_eq_some_iff.mpr ⟨_, _, atLeast, atMost, crossed, rfl⟩
  | pattern limited declared unread =>
      refine Option.bind_eq_some_iff.mpr ⟨_, limited, ?_⟩
      exact Limits.pattern?_eq_some_iff.mpr ⟨_, _, declared, unread, rfl⟩

theorem Element.failure?_eq_some_iff :
    element.failure? earlier check = some fault ↔ element.Fails earlier check fault :=
  ⟨fails_of_failure?, Fails.failure?_eq⟩

/-- The limits are checked in the order of the checks. -/
theorem Limits.fault?_eq
    (limits : Limits)
    (element : String) :
    limits.fault? element =
      (limits.failure? element .bounds).or
        ((limits.failure? element .lengths).or (limits.failure? element .pattern)) := by
  have patterns : fault?.patternFault? limits element = limits.failure? element .pattern := by
    unfold fault?.patternFault? failure?
    cases limits.pattern with
    | none =>
        rfl
    | some written =>
        cases reads : Pattern.read written <;> simp [reads]
  have lengths :
      fault?.lengthFault? limits element =
        (limits.failure? element .lengths).or (limits.failure? element .pattern) := by
    unfold fault?.lengthFault?
    rw [patterns]
    cases atLeast : limits.leastLength <;> cases atMost : limits.greatestLength <;>
      simp only [failure?, atLeast, atMost, Option.bind_none, Option.bind_some, Option.none_or]
    split <;> rfl
  unfold fault?
  rw [lengths]
  cases atLeast : limits.least <;> cases atMost : limits.greatest <;>
    simp only [failure?, atLeast, atMost, Option.bind_none, Option.bind_some, Option.none_or]
  split <;> rfl

/-- No name is both reserved and taken by an earlier element that passed its checks. -/
theorem Element.freeName?_or_comm
    (unreserved : ∀ other ∈ earlier, isReservedName other.name = false) :
    (element.failure? earlier .freeName).or (element.failure? earlier .ownName) =
      (element.failure? earlier .ownName).or (element.failure? earlier .freeName) := by
  cases free : element.failure? earlier .freeName with
  | none =>
      simp
  | some fault =>
      have notTaken : element.failure? earlier .ownName = none := by
        refine if_neg fun taken => ?_
        obtain ⟨other, before, same⟩ := contains_map_iff.mp taken
        have reserved := (Option.ite_none_right_eq_some.mp free).1
        rw [← same, unreserved other before] at reserved
        cases reserved
      rw [notTaken]
      rfl

/-- An element is checked in the order of the checks, but for the two of its name. -/
theorem Element.fault?_eq
    (earlier : List Element)
    (element : Element) :
    element.fault? earlier.length earlier =
      (element.failure? earlier .hasId).or
        ((element.failure? earlier .ownId).or
          ((element.failure? earlier .hasName).or
            (((element.failure? earlier .freeName).or (element.failure? earlier .ownName)).or
              ((element.failure? earlier .hasOptions).or
                ((element.failure? earlier .bounds).or
                  ((element.failure? earlier .lengths).or
                    (element.failure? earlier .pattern))))))) := by
  have checkFirst :
      ∀ (fails : Bool) (fault : FormFault) (rest : Option FormFault),
        (if fails then some fault else none).or rest = if fails then some fault else rest := by
    intro fails fault rest
    cases fails <;> rfl
  have limited :
      (element.failure? earlier .bounds).or
          ((element.failure? earlier .lengths).or (element.failure? earlier .pattern)) =
        element.limits.bind fun limits => limits.fault? element.name := by
    cases isLimits : element.limits <;> simp [failure?, isLimits, Limits.fault?_eq]
  rw [limited, Option.or_assoc]
  simp only [failure?, checkFirst, fault?]

theorem Element.fault?_eq_none_iff :
    element.fault? earlier.length earlier = none ↔
      ∀ check fault, ¬ element.Fails earlier check fault := by
  simp only [← failure?_eq_some_iff, ← Option.eq_none_iff_forall_ne_some, fault?_eq,
    Option.or_eq_none_iff]
  constructor
  · rintro ⟨hasId, ownId, hasName, ⟨freeName, ownName⟩, hasOptions, bounds, lengths, pattern⟩
    rintro (_ | _) <;> assumption
  · intro passes
    simp only [passes, and_self]

/--
An element that fails is refused by the first check that it fails.  Its name is held
against the reserved ones before the names of earlier elements, which is no difference
where these passed.
-/
theorem Element.fault?_eq_some_iff
    (unreserved : ∀ other ∈ earlier, isReservedName other.name = false) :
    element.fault? earlier.length earlier = some fault ↔
      ∃ check,
        element.Fails earlier check fault ∧
          ∀ other otherFault,
            element.Fails earlier other otherFault → check.rank ≤ other.rank := by
  have inOrder :
      element.fault? earlier.length earlier =
        ElementCheck.all.findSome? (element.failure? earlier) := by
    rw [fault?_eq, freeName?_or_comm unreserved, Option.or_assoc]
    simp only [ElementCheck.all, findSome?_cons_eq_or, List.findSome?_nil, Option.or_none]
  rw [inOrder, findSome?_eq_some_iff_of_ranked ElementCheck.pairwise_all]
  simp only [ElementCheck.mem_all, true_and, true_implies, Option.isSome_iff_exists,
    failure?_eq_some_iff, forall_exists_index]

namespace FormDraft

variable {elements before after rest : List Element}

/-- Whether every element passes its checks behind those before it. -/
def NoneFails
    (elements : List Element) :
    Prop :=
  ∀ before element after,
    elements = before ++ element :: after →
    ∀ check fault, ¬ Element.Fails before element check fault

theorem elementFault?_append :
    elementFault? earlier (before ++ rest) =
      (elementFault? earlier before).or (elementFault? (earlier ++ before) rest) := by
  induction before generalizing earlier with
  | nil =>
      simp [elementFault?]
  | cons head tail inductionHypothesis =>
      simp only [List.cons_append, elementFault?]
      cases head.fault? earlier.length earlier with
      | some fault =>
          rfl
      | none =>
          simp [inductionHypothesis]

/-- The first fault of elements is that of the first one that is not passed. -/
theorem elementFault?_eq_some_iff :
    elementFault? earlier rest = some fault ↔
      ∃ before element after,
        rest = before ++ element :: after ∧
          elementFault? earlier before = none ∧
          element.fault? (earlier ++ before).length (earlier ++ before) = some fault := by
  constructor
  · -- An element that passes joins the earlier ones, so these vary along the induction.
    intro found
    induction rest generalizing earlier with
    | nil =>
        cases found
    | cons head tail inductionHypothesis =>
        unfold elementFault? at found
        cases ofHead : head.fault? earlier.length earlier with
        | some early =>
            rw [ofHead] at found
            exact ⟨[], head, tail, rfl, rfl, by simpa [ofHead] using found⟩
        | none =>
            rw [ofHead] at found
            obtain ⟨before, element, after, rfl, passed, failed⟩ := inductionHypothesis found
            refine ⟨head :: before, element, after, rfl, ?_, by simpa using failed⟩
            simpa only [elementFault?, ofHead] using passed
  · rintro ⟨before, element, after, rfl, passed, failed⟩
    rw [elementFault?_append, passed, Option.none_or, elementFault?, failed]

theorem elementFault?_eq_none_iff :
    elementFault? [] elements = none ↔ NoneFails elements := by
  constructor
  · intro faultless before element after here
    rw [here, elementFault?_append, Option.or_eq_none_iff, elementFault?] at faultless
    refine Element.fault?_eq_none_iff.mp ?_
    cases failed : element.fault? before.length before with
    | none =>
        rfl
    | some fault =>
        simp [failed] at faultless
  · intro noneFails
    rw [Option.eq_none_iff_forall_ne_some]
    intro fault found
    obtain ⟨before, element, after, here, -, failed⟩ := elementFault?_eq_some_iff.mp found
    have passes := Element.fault?_eq_none_iff.mpr (noneFails before element after here)
    rw [List.nil_append, passes] at failed
    cases failed

theorem NoneFails.passes
    (noneFails : NoneFails elements)
    (member : element ∈ elements) :
    ∃ before, ∀ check fault, ¬ element.Fails before check fault := by
  obtain ⟨before, after, here⟩ := List.append_of_mem member
  exact ⟨before, noneFails before element after here⟩

/-- Elements that pass their checks have no reserved names. -/
theorem NoneFails.unreserved
    (noneFails : NoneFails elements) :
    ∀ element ∈ elements, isReservedName element.name = false := by
  intro element member
  obtain ⟨before, passes⟩ := noneFails.passes member
  refine Bool.eq_false_iff.mpr fun reserved => ?_
  exact passes _ _ (.freeName (isReservedName_iff.mp reserved))

/-- What an element may not share with an earlier one is distinct where all pass. -/
theorem NoneFails.nodup
    (noneFails : NoneFails elements)
    {key : Element → String}
    (differs :
      ∀ {before element other},
        other ∈ before →
        key other = key element → ∃ check fault, Element.Fails before element check fault) :
    (elements.map key).Nodup := by
  rw [List.Nodup, List.pairwise_map, List.pairwise_iff_forall_sublist]
  intro other element inOrder same
  obtain ⟨upTo, behind, rfl, inFront, later⟩ := List.cons_sublist_iff.mp inOrder
  obtain ⟨between, after, rfl⟩ := List.append_of_mem (List.singleton_sublist.mp later)
  obtain ⟨check, fault, fails⟩ := differs (List.mem_append_left between inFront) same
  exact noneFails (upTo ++ between) element after (by simp) check fault fails

/-- An element is refused first where those before it pass, by the first check that it fails. -/
theorem elementFault?_eq_some_iff_fails :
    elementFault? [] elements = some fault ↔
      ∃ before element after check,
        elements = before ++ element :: after ∧
          NoneFails before ∧
          element.Fails before check fault ∧
          ∀ other otherFault,
            element.Fails before other otherFault → check.rank ≤ other.rank := by
  simp only [elementFault?_eq_some_iff, elementFault?_eq_none_iff, List.nil_append]
  constructor
  · rintro ⟨before, element, after, here, passed, failed⟩
    obtain ⟨check, fails, first⟩ := (Element.fault?_eq_some_iff passed.unreserved).mp failed
    exact ⟨before, element, after, check, here, passed, fails, first⟩
  · rintro ⟨before, element, after, check, here, passed, fails, first⟩
    exact ⟨before, element, after, here, passed,
      (Element.fault?_eq_some_iff passed.unreserved).mpr ⟨check, fails, first⟩⟩

end FormDraft

/-! ## The fields of conditions -/

/-- Whether an element is named after a field. -/
def Condition.IsKnownAmong
    (elements : List Element)
    (condition : Condition) :
    Prop :=
  ∃ element ∈ elements, element.name = condition.field

/-- Whether all conditions of an element are on fields that some element is named after. -/
def Element.RefersAmong
    (elements : List Element)
    (element : Element) :
    Prop :=
  ∀ rule,
    element.rule = some rule →
    ∀ condition ∈ rule.conditions, condition.IsKnownAmong elements

variable {elements : List Element} {condition : Condition}

theorem Condition.isKnownAmong_iff :
    condition.IsKnownAmong elements ↔ condition.field ∈ elements.map Element.name := by
  simp only [IsKnownAmong, List.mem_map]

theorem Element.conditions_eq_append_iff
    {earlier later : List Condition} :
    element.conditions = earlier ++ condition :: later ↔
      ∃ rule, element.rule = some rule ∧ rule.conditions = earlier ++ condition :: later := by
  unfold conditions
  cases element.rule <;> simp

theorem Element.conditionFault?_eq_none_iff :
    element.conditionFault? (elements.map Element.name) = none ↔
      element.RefersAmong elements := by
  unfold conditionFault? conditions RefersAmong
  cases element.rule <;> simp [Condition.isKnownAmong_iff]

/-- The first condition on a field that no element is named after is the one that counts. -/
theorem Element.conditionFault?_eq_some_iff :
    element.conditionFault? (elements.map Element.name) = some fault ↔
      ∃ rule earlier condition later,
        element.rule = some rule ∧
          rule.conditions = earlier ++ condition :: later ∧
          (∀ other ∈ earlier, other.IsKnownAmong elements) ∧
          ¬ condition.IsKnownAmong elements ∧
          .unknownConditionField element.name condition.field = fault := by
  simp only [conditionFault?, Option.map_eq_some_iff, List.find?_eq_some_iff_append,
    Condition.isKnownAmong_iff]
  constructor
  · rintro ⟨condition, ⟨unknown, earlier, later, isSplit, known⟩, isFault⟩
    obtain ⟨rule, isRule, isSplit⟩ := Element.conditions_eq_append_iff.mp isSplit
    refine ⟨rule, earlier, condition, later, isRule, isSplit, ?_, by simpa using unknown, isFault⟩
    intro other inFront
    simpa using known other inFront
  · rintro ⟨rule, earlier, condition, later, isRule, isSplit, known, unknown, isFault⟩
    refine ⟨condition, ⟨by simpa using unknown, earlier, later, ?_, ?_⟩, isFault⟩
    · exact Element.conditions_eq_append_iff.mpr ⟨rule, isRule, isSplit⟩
    · intro other inFront
      simpa using known other inFront

namespace FormDraft

variable {draft : FormDraft}

/-- The fault with which a form is refused. -/
inductive FirstFault
    (draft : FormDraft) :
    FormFault → Prop where
  | ofElement
      {before after : List Element}
      {element : Element}
      {check : ElementCheck}
      {fault : FormFault}
      (here : draft.elements = before ++ element :: after)
      (passed : NoneFails before)
      (fails : element.Fails before check fault)
      (first :
        ∀ other otherFault,
          element.Fails before other otherFault → check.rank ≤ other.rank) :
      FirstFault draft fault
  | ofCondition
      {before after : List Element}
      {element : Element}
      {rule : VisibilityRule}
      {earlier later : List Condition}
      {condition : Condition}
      (passed : NoneFails draft.elements)
      (here : draft.elements = before ++ element :: after)
      (referBefore : ∀ other ∈ before, other.RefersAmong draft.elements)
      (isRule : element.rule = some rule)
      (conditions : rule.conditions = earlier ++ condition :: later)
      (knownEarlier : ∀ other ∈ earlier, other.IsKnownAmong draft.elements)
      (unknown : ¬ condition.IsKnownAmong draft.elements) :
      FirstFault draft (.unknownConditionField element.name condition.field)

theorem fault?_eq_some_iff :
    draft.fault? = some fault ↔ draft.FirstFault fault := by
  rw [fault?, Option.or_eq_some_iff, elementFault?_eq_none_iff, elementFault?_eq_some_iff_fails,
    List.findSome?_eq_some_iff]
  simp only [Element.conditionFault?_eq_none_iff, Element.conditionFault?_eq_some_iff]
  constructor
  · rintro (failed | ⟨passed, before, element, after, here, failed, referBefore⟩)
    · obtain ⟨before, element, after, check, here, passed, fails, first⟩ := failed
      exact .ofElement here passed fails first
    · obtain ⟨rule, earlier, condition, later, isRule, isSplit, known, unknown, rfl⟩ := failed
      exact .ofCondition passed here referBefore isRule isSplit known unknown
  · rintro (⟨here, passed, fails, first⟩ |
      ⟨passed, here, referBefore, isRule, isSplit, known, unknown⟩)
    · exact .inl ⟨_, _, _, _, here, passed, fails, first⟩
    · exact .inr ⟨passed, _, _, _, here,
        ⟨_, _, _, _, isRule, isSplit, known, unknown, rfl⟩, referBefore⟩

/-- What a form has to keep to. -/
structure IsSound
    (draft : FormDraft) :
    Prop where
  idsGiven : ∀ element ∈ draft.elements, Text.isBlank element.id = false
  idsApart : (draft.elements.map Element.id).Nodup
  namesGiven : ∀ element ∈ draft.elements, Text.isBlank element.name = false
  namesApart : (draft.elements.map Element.name).Nodup
  namesFree :
    ∀ element ∈ draft.elements,
      element.name ≠ "_gps_location" ∧ element.name ≠ "_form_metadata"
  optionsGiven :
    ∀ element ∈ draft.elements,
      element.type = .select ∨ element.type = .radio → element.options ≠ []
  boundsMeet :
    ∀ element ∈ draft.elements, ∀ limits least greatest,
      element.limits = some limits →
      limits.least = some least →
      limits.greatest = some greatest → least.steps ≤ greatest.steps
  lengthsMeet :
    ∀ element ∈ draft.elements, ∀ limits least greatest,
      element.limits = some limits →
      limits.leastLength = some least →
      limits.greatestLength = some greatest → least ≤ greatest
  patternsRead :
    ∀ element ∈ draft.elements, ∀ limits written,
      element.limits = some limits →
      limits.pattern = some written → ∃ pattern, Pattern.read written = .ok pattern
  fieldsKnown : ∀ element ∈ draft.elements, element.RefersAmong draft.elements

/-- A form of which no element fails a check and each condition is on a field is sound. -/
theorem isSound_of_noneFails
    (noneFails : NoneFails draft.elements)
    (refer : ∀ element ∈ draft.elements, element.RefersAmong draft.elements) :
    draft.IsSound where
  idsGiven element member := by
    obtain ⟨before, passes⟩ := noneFails.passes member
    exact Bool.eq_false_iff.mpr fun blank => passes _ _ (.hasId blank)
  idsApart := noneFails.nodup fun inFront same => ⟨_, _, .ownId inFront same⟩
  namesGiven element member := by
    obtain ⟨before, passes⟩ := noneFails.passes member
    exact Bool.eq_false_iff.mpr fun blank => passes _ _ (.hasName blank)
  namesApart := noneFails.nodup fun inFront same => ⟨_, _, .ownName inFront same⟩
  namesFree element member := by
    obtain ⟨before, passes⟩ := noneFails.passes member
    exact not_or.mp fun reserved => passes _ _ (.freeName reserved)
  optionsGiven element member isChoice noOptions := by
    obtain ⟨before, passes⟩ := noneFails.passes member
    exact passes _ _ (.hasOptions isChoice noOptions)
  boundsMeet element member limits least greatest limited atLeast atMost := by
    obtain ⟨before, passes⟩ := noneFails.passes member
    exact Int.not_lt.mp fun crossed => passes _ _ (.bounds limited atLeast atMost crossed)
  lengthsMeet element member limits least greatest limited atLeast atMost := by
    obtain ⟨before, passes⟩ := noneFails.passes member
    exact UInt64.not_lt.mp fun crossed => passes _ _ (.lengths limited atLeast atMost crossed)
  patternsRead element member limits written limited declared := by
    obtain ⟨before, passes⟩ := noneFails.passes member
    cases reads : Pattern.read written with
    | error fault => exact (passes _ _ (.pattern limited declared reads)).elim
    | ok pattern => exact ⟨pattern, rfl⟩
  fieldsKnown := refer

/-- No element of a sound form fails a check. -/
theorem IsSound.noneFails
    (sound : draft.IsSound) :
    NoneFails draft.elements := by
  intro before element after here check fault fails
  have member : element ∈ draft.elements := by
    simp [here]
  have apart :
      ∀ key : Element → String,
        (draft.elements.map key).Nodup → ∀ other ∈ before, key other ≠ key element := by
    intro key nodup other inFront
    rw [here, List.map_append, List.nodup_append] at nodup
    exact nodup.2.2 _ (List.mem_map_of_mem inFront) _ (by simp)
  cases fails with
  | hasId blank =>
      exact Bool.eq_false_iff.mp (sound.idsGiven element member) blank
  | ownId inFront same =>
      exact apart Element.id sound.idsApart _ inFront same
  | hasName blank =>
      exact Bool.eq_false_iff.mp (sound.namesGiven element member) blank
  | ownName inFront same =>
      exact apart Element.name sound.namesApart _ inFront same
  | freeName reserved =>
      exact not_or.mpr (sound.namesFree element member) reserved
  | hasOptions isChoice noOptions =>
      exact sound.optionsGiven element member isChoice noOptions
  | bounds limited atLeast atMost crossed =>
      exact Int.not_lt.mpr (sound.boundsMeet element member _ _ _ limited atLeast atMost) crossed
  | lengths limited atLeast atMost crossed =>
      exact UInt64.not_lt.mpr
        (sound.lengthsMeet element member _ _ _ limited atLeast atMost) crossed
  | pattern limited declared unread =>
      obtain ⟨pattern, reads⟩ := sound.patternsRead element member _ _ limited declared
      rw [reads] at unread
      cases unread

/-- A form is free of faults exactly where it is sound. -/
theorem fault?_eq_none_iff :
    draft.fault? = none ↔ draft.IsSound := by
  rw [fault?, Option.or_eq_none_iff, elementFault?_eq_none_iff, List.findSome?_eq_none_iff]
  simp only [Element.conditionFault?_eq_none_iff]
  constructor
  · rintro ⟨noneFails, refer⟩
    exact isSound_of_noneFails noneFails refer
  · intro sound
    exact ⟨sound.noneFails, sound.fieldsKnown⟩

end FormDraft

end Fieldwork
