import Fieldwork.Json.Basic

namespace Fieldwork.Json

/-!
# Documents

A document is what a reader of typed data walks through.  It keeps what a JSON
value forgets: the order of an object's fields as written, repeated names, and
the place where a text stops being JSON.  Some parts may be skipped although
they cannot be read: a number beyond the finite reals, a text whose escapes
form no character, and a container nested deeper than `greatestDepth`.

A JSON value is a document too, with its fields in ascending order.
-/

/-- A document, possibly broken off. -/
inductive Document where
  | null
  | bool (value : Bool)
  /-- A number; `none` when it is beyond the finite reals. -/
  | number (value : Option Number)
  /-- A text; `none` when its escapes form no character. -/
  | string (content : Option String)
  | array (items : List Document)
  | object (members : List (Option String × Document))
  /-- A well-formed container that is nested too deeply to be read. -/
  | buried
  /-- The place where the text stops being JSON; nothing follows it. -/
  | broken
  deriving Repr, Inhabited

namespace Document

/-- How many containers may be nested in one another. -/
def greatestDepth : Nat :=
  127

mutual

def ofJson :
    Json →
    Document
  | .null => .null
  | .bool value => .bool value
  | .number value => .number (some value)
  | .string value => .string (some value)
  | .array items => .array (ofItems items)
  | .object fields => .object (ofFields fields)

/-- The items of a value as documents. -/
def ofItems :
    List Json →
    List Document
  | [] => []
  | item :: rest => ofJson item :: ofItems rest

/-- The fields of a value as members. -/
def ofFields :
    List (String × Json) →
    List (Option String × Document)
  | [] => []
  | (name, value) :: rest => (some name, ofJson value) :: ofFields rest

end

mutual

/-- Whether a document is JSON to its end, so that it can be skipped. -/
def complete :
    Document →
    Bool
  | .array items => completeItems items
  | .object members => completeMembers members
  | .broken => false
  | _ => true

def completeItems :
    List Document →
    Bool
  | [] => true
  | item :: rest => complete item && completeItems rest

def completeMembers :
    List (Option String × Document) →
    Bool
  | [] => true
  | (_, value) :: rest => complete value && completeMembers rest

end

mutual

/--
The JSON value of a document, if all of it can be read.  Of members with one
name the last one stays.
-/
def json? :
    Document →
    Option Json
  | .null => some .null
  | .bool value => some (.bool value)
  | .number value => value.map .number
  | .string content => content.map .string
  | .array items => (jsonItems? items).map .array
  | .object members =>
      (jsonFields? members).map fun fields => .object (sortFields fields)
  | .buried => none
  | .broken => none

def jsonItems? :
    List Document →
    Option (List Json)
  | [] => some []
  | item :: rest =>
      match json? item, jsonItems? rest with
      | some value, some values => some (value :: values)
      | _, _ => none

/-- The names and JSON values of members, in their order. -/
def jsonFields? :
    List (Option String × Document) →
    Option (List (String × Json))
  | [] => some []
  | (name, item) :: rest =>
      match name, json? item, jsonFields? rest with
      | some name, some value, some fields => some ((name, value) :: fields)
      | _, _, _ => none

end

end Document

end Fieldwork.Json
