import Fieldwork.Pattern.Basic

namespace Fieldwork.Pattern

/-!
# Putting patterns together

Patterns are built by operations that keep them plain: the parts of a sequence
are no sequences, none of them is empty and no two texts stand side by side;
the branches of a choice are no choices, and what they begin with in common
stands before the choice; a set with one member is a text.
-/

def nowhere : Pattern :=
  oneOf true Text.CharSet.nothing

def ofSet
    (ascii : Bool)
    (set : Text.CharSet) :
    Pattern :=
  if set.ranges.isEmpty then nowhere
  else
    match set.only? with
    | some c => literal [c]
    | none => oneOf ascii set

/-- The length of the shortest part that a pattern describes, if each has one. -/
def shortest? :
    Pattern →
    Option Nat
  | empty => some 0
  | literal chars => some chars.length
  | oneOf _ set => if set.ranges.isEmpty then none else some 1
  | assert _ _ => some 0
  | group _ body => shortest? body
  | sequence first rest =>
      match shortest? first, shortest? rest with
      | some length, some other => some (length + other)
      | _, _ => none
  | either first rest =>
      match shortest? first, shortest? rest with
      | some length, some other => some (min length other)
      | _, _ => none
  | repeated least _ _ body => (shortest? body).map (· * least)

/-- Whether a pattern describes the empty part and no other. -/
def isVoid :
    Pattern →
    Bool
  | empty => true
  | literal chars => chars.isEmpty
  | oneOf _ _ => false
  | assert _ _ => true
  | group _ body => isVoid body
  | sequence first rest => isVoid first && isVoid rest
  | either first rest => isVoid first && isVoid rest
  | repeated _ greatest _ body => greatest = some 0 || (greatest.isSome && isVoid body)

/-- The parts of a sequence; anything else is its only part. -/
def parts :
    Pattern →
    List Pattern
  | sequence first rest => first :: parts rest
  | empty => []
  | other => [other]

/-- The branches of a choice; anything else is its only branch. -/
def branches :
    Pattern →
    List Pattern
  | either first rest => first :: branches rest
  | other => [other]

def ofParts :
    List Pattern →
    Pattern
  | [] => empty
  | [part] => part
  | part :: rest => sequence part (ofParts rest)

def ofBranches :
    List Pattern →
    Pattern
  | [] => nowhere
  | [branch] => branch
  | branch :: rest => either branch (ofBranches rest)

/-- Parts in which texts that stand side by side are one. -/
def joinTexts :
    List Pattern →
    List Pattern
  | [] => []
  | literal chars :: rest =>
      match joinTexts rest with
      | literal more :: rest => literal (chars ++ more) :: rest
      | rest => literal chars :: rest
  | part :: rest => part :: joinTexts rest

/-- Patterns one behind the other. -/
def concat
    (patterns : List Pattern) :
    Pattern :=
  ofParts (joinTexts (patterns.flatMap parts))

/-- The only character of a pattern that is a text of one. -/
def char? :
    Pattern →
    Option Char
  | literal [c] => some c
  | _ => none

/-- The set of a pattern that is one. -/
def set? :
    Pattern →
    Option Text.CharSet
  | oneOf _ set => some set
  | _ => none

/-- The set that branches of single characters, or branches of sets, stand for. -/
def setOfBranches?
    (branches : List Pattern) :
    Option Text.CharSet :=
  match branches.mapM char? with
  | some chars => some (Text.CharSet.unions (chars.map Text.CharSet.single))
  | none => (branches.mapM set?).map Text.CharSet.unions

/-- The beginning that two lists of parts share. -/
def sharedParts :
    List Pattern →
    List Pattern →
    List Pattern
  | part :: rest, other :: more =>
      if part = other then part :: sharedParts rest more else []
  | _, _ => []

/-- The beginning that all branches share, if each of them is a sequence. -/
def sharedBeginning :
    List Pattern →
    List Pattern
  | [] => []
  | branch :: rest =>
      if (branch :: rest).all fun branch => 2 ≤ (parts branch).length then
        rest.foldl (fun shared other => sharedParts shared (parts other)) (parts branch)
      else
        []

/-- The choice between several patterns, with as many steps as they have parts. -/
def choiceWith :
    (steps : Nat) →
    List Pattern →
    Pattern
  | 0, patterns => ofBranches patterns
  | steps + 1, patterns =>
      let flat := patterns.flatMap branches
      if flat.length < 2 then ofBranches flat
      else
        match setOfBranches? flat with
        | some set => ofSet false set
        | none =>
            match sharedBeginning flat with
            | [] => ofBranches flat
            | shared =>
                concat (shared ++
                  [choiceWith steps
                    (flat.map fun branch => ofParts ((parts branch).drop shared.length))])

def choice
    (patterns : List Pattern) :
    Pattern :=
  choiceWith (((patterns.flatMap branches).flatMap parts).length + 1) patterns

/--
A pattern under repetition.  One that describes only the empty part need not be
repeated, none at all is the empty pattern, and exactly one is the pattern.
-/
def repetition
    (least : Nat)
    (greatest : Option Nat)
    (reluctant : Bool)
    (body : Pattern) :
    Pattern :=
  let least := if isVoid body then min least 1 else least
  let greatest := if isVoid body then some (min (greatest.getD 1) 1) else greatest
  if greatest = some 0 then empty
  else if least = 1 ∧ greatest = some 1 then body
  else repeated least greatest reluctant body

/-- Branches that begin alike share their beginning. -/
example :
    choice
        [concat [literal ['a'], oneOf false ⟨#[(48, 57)]⟩],
          concat [literal ['a'], assert .wordEdge false]] =
      sequence (literal ['a']) (either (oneOf false ⟨#[(48, 57)]⟩) (assert .wordEdge false)) := by
  decide

end Fieldwork.Pattern
