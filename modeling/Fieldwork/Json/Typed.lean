import Fieldwork.Json.Document

namespace Fieldwork.Json

/-!
# Typed reading

A typed reader walks through a document in its order and stops at the first
fault.  A fault is either malformed data or a value that its own type refuses,
with the cause of the refusal.

A record is read from an object, whose members are visited as they stand, or
from an array, whose items are the record's fields in the order of their
declaration.  A known field may not be repeated; an unknown one is skipped,
provided that it is complete.
-/

/-- Why a document does not hold a value of a type. -/
inductive ReadFault (ε : Type) where
  | malformed
  | refused (cause : ε)
  deriving DecidableEq, Repr

/-- The result of reading a value whose type refuses with causes of type `ε`. -/
abbrev Reading (ε α : Type) : Type :=
  Except (ReadFault ε) α

namespace Document

/-- A present value, and a malformed document in place of a missing one. -/
def demand :
    Option α →
    Reading ε α
  | some value => .ok value
  | none => .error .malformed

def readString :
    Document →
    Reading ε String
  | .string content => demand content
  | _ => .error .malformed

def readBool :
    Document →
    Reading ε Bool
  | .bool value => .ok value
  | _ => .error .malformed

/-- An integer between two bounds, written without fraction and exponent. -/
def readInt
    (least greatest : Int) :
    Document →
    Reading ε Int
  | .number (some (.integer value _)) =>
      if least ≤ value ∧ value ≤ greatest then .ok value
      else .error .malformed
  | _ => .error .malformed

/-- An integer of 64 bits with a sign. -/
def readInt64
    (document : Document) :
    Reading ε Int64 :=
  (document.readInt leastInt64 greatestInt64).map Int64.ofInt

/-- An integer of 32 bits with a sign. -/
def readInt32
    (document : Document) :
    Reading ε Int32 :=
  (document.readInt leastInt32 greatestInt32).map Int32.ofInt

def readNat
    (document : Document) :
    Reading ε Nat :=
  (document.readInt 0 greatestNat64).map Int.toNat

/-- A real, which an integer may write too. -/
def readReal :
    Document →
    Reading ε Binary64
  | .number (some value) => demand value.real?
  | _ => .error .malformed

def readJson
    (document : Document) :
    Reading ε Json :=
  demand document.json?

/-- An optional value, missing where null stands. -/
def readOptional
    (read : Document → Reading ε α) :
    Document →
    Reading ε (Option α)
  | .null => .ok none
  | document => (read document).map some

/-- A value that null stands for the default of. -/
def readOrDefault
    (default : α)
    (read : Document → Reading ε α)
    (document : Document) :
    Reading ε α :=
  (document.readOptional read).map fun value => value.getD default

def readList
    (read : Document → Reading ε α) :
    Document →
    Reading ε (List α)
  | .array items => items.mapM read
  | _ => .error .malformed

/--
A choice by name.  The name may also be the only member of an object, with
null as its value.
-/
def readChoice
    (decode : String → Option α) :
    Document →
    Reading ε α
  | .string content => demand (content.bind decode)
  | .object [(some name, .null)] => demand (decode name)
  | _ => .error .malformed

/-- The members of a record, taken one after the other. -/
def readMembersOf
    (names : List String)
    (take : δ → String → Document → Reading ε δ)
    (seen : List String)
    (draft : δ) :
    List (Option String × Document) →
    Reading ε δ
  | [] =>
      .ok draft
  | (none, _) :: _ =>
      .error .malformed
  | (some name, value) :: rest =>
      if name ∈ names then
        if name ∈ seen then
          .error .malformed
        else
          match take draft name value with
          | .ok draft => readMembersOf names take (name :: seen) draft rest
          | .error fault => .error fault
      else if value.complete then
        readMembersOf names take seen draft rest
      else
        .error .malformed

/-- The items of a record, taken one after the other. -/
def readSlotsOf
    (take : δ → String → Document → Reading ε δ)
    (draft : δ) :
    (names : List String) →
    List Document →
    Reading ε δ
  | _, [] =>
      .ok draft
  | [], _ :: _ =>
      .error .malformed
  | name :: names, item :: rest =>
      match take draft name item with
      | .ok draft => readSlotsOf take draft names rest
      | .error fault => .error fault

/--
A record with the given fields, collected into a draft.  What a field is, and
which fields may be missing, is up to the draft.
-/
def readRecord
    (names : List String)
    (take : δ → String → Document → Reading ε δ)
    (draft : δ) :
    Document →
    Reading ε δ
  | .object members => readMembersOf names take [] draft members
  | .array items => readSlotsOf take draft names items
  | _ => .error .malformed

end Document

end Fieldwork.Json
