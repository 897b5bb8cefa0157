import Fieldwork.Json.Number

namespace Fieldwork

/-!
# JSON values

The values that forms and steps record.  An object keeps its fields in
ascending order of their names, each name once; `Json.ofFields` establishes
that order for fields given in any order.
-/

inductive Json where
  | null
  | bool (value : Bool)
  | number (value : Json.Number)
  | string (value : String)
  | array (items : List Json)
  | object (fields : List (String × Json))
  deriving Repr, Inhabited

namespace Json

/--
Put a field at its place in ascending order; a field of the same name is
replaced.
-/
def insertField
    (name : String)
    (value : α) :
    List (String × α) →
    List (String × α)
  | [] =>
      [(name, value)]
  | (other, kept) :: rest =>
      if name < other then
        (name, value) :: (other, kept) :: rest
      else if name = other then
        (name, value) :: rest
      else
        (other, kept) :: insertField name value rest

/-- Fields in ascending order; of fields with one name the last one stays. -/
def sortFields
    (fields : List (String × α)) :
    List (String × α) :=
  fields.foldl (fun sorted field => insertField field.1 field.2 sorted) []

def ofFields
    (fields : List (String × Json)) :
    Json :=
  .object (sortFields fields)

/-- An integer of at most 64 bits as a value. -/
def ofInt
    (value : Int) :
    Json :=
  match Number.ofInt? value with
  | some value => .number value
  | none => .null

def ofOption
    (encode : α → Json) :
    Option α →
    Json
  | none => .null
  | some value => encode value

def ofReal
    (value : Binary64) :
    Json :=
  .number (.real value)

/-- The field of an optional value: no field where the value is absent. -/
def optionalField
    (name : String)
    (encode : α → Json) :
    Option α →
    List (String × Json)
  | some value => [(name, encode value)]
  | none => []

def field?
    (name : String) :
    Json →
    Option Json
  | .object fields => (fields.find? fun field => field.1 = name).map Prod.snd
  | _ => none

mutual

/--
Sameness of values, item by item and field by field, with numbers compared by
`Number.same`.
-/
def same :
    Json →
    Json →
    Bool
  | .null, .null => true
  | .bool left, .bool right => left == right
  | .number left, .number right => left.same right
  | .string left, .string right => left == right
  | .array left, .array right => sameItems left right
  | .object left, .object right => sameFields left right
  | _, _ => false

def sameItems :
    List Json →
    List Json →
    Bool
  | [], [] => true
  | left :: moreLeft, right :: moreRight =>
      same left right && sameItems moreLeft moreRight
  | _, _ => false

def sameFields :
    List (String × Json) →
    List (String × Json) →
    Bool
  | [], [] => true
  | (leftName, left) :: moreLeft, (rightName, right) :: moreRight =>
      leftName == rightName && same left right && sameFields moreLeft moreRight
  | _, _ => false

end

end Json

end Fieldwork
