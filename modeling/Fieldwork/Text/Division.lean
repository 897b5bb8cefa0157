import Fieldwork.Number.Decimal
import Fieldwork.Text.CharSet

namespace Fieldwork.Text

/-!
# Divisions of all characters

A property with one value for each code point divides them into runs with the
same value.  The text of a division gives the runs in ascending order, each as
a label of a fixed number of letters and, where the run is longer than one, its
length.
-/

/-- A run of code points with the same value of a property. -/
structure Run where
  first : Nat
  last : Nat
  label : String
  deriving DecidableEq, Repr

/-- The runs that were read, and the one being read. -/
structure RunReader where
  /-- The runs so far, last one first. -/
  done : List Run := []
  first : Nat := 0
  /-- The letters of the current label, last one first. -/
  label : List Char := []
  length : Nat := 0

namespace RunReader

/-- The runs together with the one that ends here, if one has begun. -/
def close
    (reader : RunReader) :
    RunReader :=
  if reader.label.isEmpty then reader
  else
    let next := reader.first + max reader.length 1
    { done := ⟨reader.first, next - 1, String.ofList reader.label.reverse⟩ :: reader.done
      first := next }

/-- Read one character of a text whose labels have `width` letters. -/
def step
    (width : Nat)
    (reader : RunReader)
    (c : Char) :
    RunReader :=
  if isDigit c then
    { reader with length := reader.length * 10 + (c.toNat - 48) }
  else if reader.length = 0 ∧ reader.label.length < width then
    { reader with label := c :: reader.label }
  else
    { reader.close with label := [c] }

end RunReader

/-- A division of the code points into runs. -/
structure Division where
  runs : List Run
  deriving Repr

namespace Division

/-- The division that lines of text write with labels of a fixed width. -/
def read
    (width : Nat)
    (lines : List String) :
    Division :=
  let reader :=
    lines.foldl (fun reader line => line.toList.foldl (RunReader.step width) reader)
      ({} : RunReader)
  ⟨reader.close.done.reverse⟩

/-- The characters with one of several labels. -/
def members
    (division : Division)
    (labels : List String) :
    CharSet :=
  (CharSet.ofRanges
    (division.runs.filterMap fun run =>
      if labels.contains run.label then some (run.first, run.last) else none)).intersection
    CharSet.all

def labelOf?
    (division : Division)
    (code : Nat) :
    Option String :=
  (division.runs.find? fun run => run.first ≤ code && code ≤ run.last).map Run.label

/-- A length belongs to the label before it, and one is not written. -/
example :
    (read 1 ["a3b", "c2"]).runs = [⟨0, 2, "a"⟩, ⟨3, 3, "b"⟩, ⟨4, 5, "c"⟩] := by
  cbv

end Division

end Fieldwork.Text
