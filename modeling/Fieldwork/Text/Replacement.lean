import Fieldwork.Number.Hexadecimal
import Fieldwork.Text.Blank
import Std.Data.HashMap

namespace Fieldwork.Text

/-!
# Tables of replacements

A table says what stands for single characters.  Its text is a list of words.
An entry is a code point and, behind a colon, the code points that replace it
with dots between them; an entry without a first code point continues the one
before it.  A run gives its first and last code point and then, behind a sign,
what replaces the first of them: the replacements of the others ascend with them
behind `+`, every second code point is meant behind `/`, and one code point
replaces them all behind `=`.  All numbers are hexadecimal.
-/

/-- The code points that replace a code point. -/
abbrev Replacements :=
  Std.HashMap Nat (List Nat)

/-- Replacements that were read, and the code point behind the last single entry. -/
structure ReplacementReader where
  table : Replacements := ∅
  next : Nat := 0

namespace ReplacementReader

/-- A hexadecimal number, which a table always has where one is read. -/
def number
    (digits : List Char) :
    Nat :=
  (naturalInBase? 16 digits).getD 0

def numbers
    (text : List Char) :
    List Nat :=
  (text.splitOn '.').map number

/-- The sign of a run in two parts: its step, and how far replacements advance. -/
def advance? :
    Char →
    Option (Nat × Nat)
  | '+' => some (1, 1)
  | '/' => some (2, 2)
  | '=' => some (1, 0)
  | _ => none

/-- Enter a run whose first code point and whose remaining text are known. -/
def enterRun
    (reader : ReplacementReader)
    (first : Nat)
    (text : List Char) :
    ReplacementReader :=
  match text.span fun c => (advance? c).isNone with
  | (last, sign :: target) =>
      match advance? sign with
      | some (step, gain) =>
          let start := number target
          let table :=
            (List.range ((number last - first) / step + 1)).foldl
              (fun table place => table.insert (first + step * place) [start + gain * place])
              reader.table
          { reader with table }
      | none => reader
  | _ => reader

def enter
    (reader : ReplacementReader)
    (word : List Char) :
    ReplacementReader :=
  match word.span fun c => c ≠ ':' ∧ c ≠ '-' with
  | (source, ':' :: targets) =>
      let code := if source.isEmpty then reader.next else number source
      { table := reader.table.insert code (numbers targets)
        next := code + 1 }
  | (first, '-' :: text) => reader.enterRun (number first) text
  | _ => reader

end ReplacementReader

/-- The table that lines of text write. -/
def readReplacements
    (lines : List String) :
    Replacements :=
  (lines.foldl
    (fun reader line => (wordsOf line.toList).foldl ReplacementReader.enter reader)
    ({} : ReplacementReader)).table

end Fieldwork.Text
