import Fieldwork.Number.Hexadecimal
import Fieldwork.Text.Blank

namespace Fieldwork.Text

/-!
# Sets of characters

A set of characters is kept as its ranges of code points, ascending and with at
least one code point between two of them.  The operations keep that form, so
two sets with the same members are equal.
-/

/-- A set of characters, as ascending ranges that do not touch. -/
structure CharSet where
  ranges : Array (Nat × Nat)
  deriving DecidableEq, Repr, Inhabited

namespace CharSet

/--
Whether a code point lies in one of the ranges from `low` up to `high`.  Each
step halves the section that is left.
-/
def search
    (ranges : Array (Nat × Nat))
    (code : Nat) :
    (fuel low high : Nat) →
    Bool
  | 0, _, _ => false
  | fuel + 1, low, high =>
      if high ≤ low then
        false
      else
        let middle := (low + high) / 2
        match ranges[middle]? with
        | none => false
        | some (first, last) =>
            if code < first then search ranges code fuel low middle
            else if last < code then search ranges code fuel (middle + 1) high
            else true

/-- Whether a code point is in a set. -/
def containsCode
    (set : CharSet)
    (code : Nat) :
    Bool :=
  search set.ranges code (set.ranges.size + 1) 0 set.ranges.size

/-- Whether a character is in a set. -/
def contains
    (set : CharSet)
    (c : Char) :
    Bool :=
  set.containsCode c.toNat

/-- Ranges in ascending order of their first code points, joined where they touch. -/
def joined :
    List (Nat × Nat) →
    List (Nat × Nat)
  | [] => []
  | [range] => [range]
  | (first, last) :: (next, end_) :: rest =>
      if next ≤ last + 1 then joined ((first, max last end_) :: rest)
      else (first, last) :: joined ((next, end_) :: rest)
termination_by ranges => ranges.length

/-- The set of the code points in one of several ranges, which come in any order. -/
def ofRanges
    (ranges : List (Nat × Nat)) :
    CharSet :=
  ⟨(joined (ranges.mergeSort fun left right => left.1 ≤ right.1)).toArray⟩

def nothing : CharSet :=
  ⟨#[]⟩

def single
    (c : Char) :
    CharSet :=
  ⟨#[(c.toNat, c.toNat)]⟩

/-- The set of all characters, which leaves out the surrogates. -/
def all : CharSet :=
  ⟨#[(0, 0xD7FF), (0xE000, 0x10FFFF)]⟩

/-- The characters in one set or another. -/
def union
    (left right : CharSet) :
    CharSet :=
  if left.ranges.isEmpty then right
  else if right.ranges.isEmpty then left
  else ofRanges (left.ranges.toList ++ right.ranges.toList)

/-- The characters in one of several sets. -/
def unions
    (sets : List CharSet) :
    CharSet :=
  ofRanges (sets.flatMap fun set => set.ranges.toList)

/-- Ranges without the parts that lie in others; both ascend and do not touch. -/
def subtract :
    List (Nat × Nat) →
    List (Nat × Nat) →
    List (Nat × Nat)
  | [], _ => []
  | ranges, [] => ranges
  | (first, last) :: ranges, (start, stop) :: others =>
      if stop < first then
        subtract ((first, last) :: ranges) others
      else if last < start then
        (first, last) :: subtract ranges ((start, stop) :: others)
      else
        let front := if first < start then [(first, start - 1)] else []
        if stop < last then
          front ++ subtract ((stop + 1, last) :: ranges) others
        else
          front ++ subtract ranges ((start, stop) :: others)
termination_by ranges others => ranges.length + others.length

/-- The characters in one set and not in another. -/
def difference
    (left right : CharSet) :
    CharSet :=
  ⟨(subtract left.ranges.toList right.ranges.toList).toArray⟩

/-- The characters that are not in a set. -/
def complement
    (set : CharSet) :
    CharSet :=
  all.difference set

/-- The characters in both of two sets. -/
def intersection
    (left right : CharSet) :
    CharSet :=
  left.difference (left.difference right)

/-- The characters in exactly one of two sets. -/
def symmetricDifference
    (left right : CharSet) :
    CharSet :=
  (left.difference right).union (right.difference left)

/-- The set of the characters between two, both of them included. -/
def between
    (first last : Char) :
    CharSet :=
  (CharSet.mk #[(first.toNat, last.toNat)]).intersection all

/-- The only member of a set that has just one. -/
def only?
    (set : CharSet) :
    Option Char :=
  match set.ranges.toList with
  | [(first, last)] => if first = last then some (Char.ofNat first) else none
  | _ => none

/-- Whether all members of a set are in ASCII. -/
def isAscii
    (set : CharSet) :
    Bool :=
  set.ranges.all fun range => range.2 < 128

/-- A range from its text: two code points with a hyphen between them, or one. -/
def readRange
    (text : List Char) :
    Option (Nat × Nat) :=
  match splitFirst (· == '-') text with
  | none => (naturalInBase? 16 text).map fun code => (code, code)
  | some (first, last) =>
      match naturalInBase? 16 first, naturalInBase? 16 last with
      | some first, some last => some (first, last)
      | _, _ => none

/-- A set from a text that lists its ranges, with hexadecimal code points. -/
def read
    (text : String) :
    CharSet :=
  ofRanges ((wordsOf text.toList).filterMap readRange)

/-- A set from the lines of a longer list of ranges. -/
def readLines
    (lines : List String) :
    CharSet :=
  ofRanges (lines.flatMap fun line => (wordsOf line.toList).filterMap readRange)

/-- Ranges that touch become one. -/
example : read "61-7A 30-39 3A" = ⟨#[(0x30, 0x3A), (0x61, 0x7A)]⟩ := by cbv

end CharSet

end Fieldwork.Text
