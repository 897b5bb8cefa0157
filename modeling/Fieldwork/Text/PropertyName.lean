import Fieldwork.Text.Age
import Fieldwork.Text.Script
import Fieldwork.Text.Segment

namespace Fieldwork.Text

/-!
# Names of properties

A class of characters is selected by the name of a property, of a general
category or of a script, or by a property together with one of its values.
Names are compared in a plain form.
-/

namespace PropertyName

/--
The form of a name that comparison looks at: ASCII without capital letters,
spaces, hyphens and low lines.  A leading `is` does not count, except where
only a `c` would be left, since `isc` is a name of its own.
-/
def plain
    (name : List Char) :
    String :=
  let plainOf (text : List Char) : List Char :=
    (text.filter fun c => c.toNat < 128 && c ≠ ' ' && c ≠ '_' && c ≠ '-').map Char.toLower
  match name with
  | i :: s :: rest =>
      if i.toLower = 'i' ∧ s.toLower = 's' then
        if plainOf rest = ['c'] then "isc" else String.ofList (plainOf rest)
      else
        String.ofList (plainOf name)
  | _ => String.ofList (plainOf name)

/-- The entry of a table under a plain name. -/
def find?
    (table : List (List String × α))
    (name : String) :
    Option α :=
  (table.find? fun entry => entry.1.contains name).map Prod.snd

/-- The characters of a general category, or of a union of some, by its plain name. -/
def category?
    (name : String) :
    Option CharSet :=
  if name = "any" then some CharSet.all
  else if name = "ascii" then some ⟨#[(0, 0x7F)]⟩
  else if name = "assigned" then some (ofCategories ["Cn"]).complement
  else (find? categoryNames name).map ofCategories

/-- The number of a version, by its plain form or behind a `v` and without its point. -/
def versionNumber?
    (name : String) :
    Option String :=
  (versions.find? fun entry =>
      entry.1 = name ||
        name.toList = 'v' :: entry.1.toList.filter (· ≠ '.')).map Prod.fst

/--
The characters that a single name selects.  Three abbreviations are those of
general categories, although properties share them.
-/
def single?
    (name : List Char) :
    Option CharSet :=
  let name := plain name
  ((find? propertyNames name).or (category? name)).or ((find? scriptNames name).map ofScript)

/-- The characters that a property has the given value for. -/
def valued?
    (name value : List Char) :
    Option CharSet :=
  let value := plain value
  match plain name with
  | "gc" | "generalcategory" => category? value
  | "sc" | "script" => (find? scriptNames value).map ofScript
  | "scx" | "scriptextensions" => (find? scriptNames value).map withScript
  | "age" => (versionNumber? value).bind ofAge?
  | "gcb" | "graphemeclusterbreak" => find? graphemeBreaks value
  | "wb" | "wordbreak" => find? wordBreaks value
  | "sb" | "sentencebreak" => find? sentenceBreaks value
  | _ => none

end PropertyName

end Fieldwork.Text
