import Fieldwork.Text.CharSet

namespace Fieldwork.Pattern

/-!
# Sets of characters as sequences of bytes

A character is encoded in one to four bytes.  A set of characters is the union
of sequences of byte ranges: a range of code points is split until all its
members have the same number of bytes and the bytes behind the first that
differs run through all their values.
-/

abbrev ByteRange : Type :=
  Nat × Nat

/-- The bytes that encode a code point. -/
def encodeCode
    (code : Nat) :
    List Nat :=
  if code ≤ 0x7F then [code]
  else if code ≤ 0x7FF then [0xC0 + code / 64, 0x80 + code % 64]
  else if code ≤ 0xFFFF then
    [0xE0 + code / 4096, 0x80 + code / 64 % 64, 0x80 + code % 64]
  else
    [0xF0 + code / 262144, 0x80 + code / 4096 % 64, 0x80 + code / 64 % 64,
      0x80 + code % 64]

/--
Where a range that keeps the number of bytes is split, if it has to be: behind
the returned code point.  `block` is the number of code points that share all
bytes but the last one, two or three.
-/
def splitAtBlock?
    (first last : Nat) :
    (blocks : List Nat) →
    Option Nat
  | [] => none
  | block :: blocks =>
      if first / block = last / block then splitAtBlock? first last blocks
      else if first % block ≠ 0 then some (first / block * block + block - 1)
      else if last % block ≠ block - 1 then some (last / block * block - 1)
      else splitAtBlock? first last blocks

/-- Where a range of code points is split, if it has to be. -/
def splitPoint?
    (first last : Nat) :
    Option Nat :=
  match [0x7F, 0x7FF, 0xFFFF].find? fun greatest => first ≤ greatest && greatest < last with
  | some greatest => some greatest
  | none => if last ≤ 0x7F then none else splitAtBlock? first last [64, 4096, 262144]

/-- The sequences of a range of code points; `depth` bounds the splits. -/
def sequencesOfRange :
    (depth : Nat) →
    (first last : Nat) →
    List (List ByteRange)
  | 0, _, _ => []
  | depth + 1, first, last =>
      if last < first then []
      else
        match splitPoint? first last with
        | some cut =>
            sequencesOfRange depth first cut ++ sequencesOfRange depth (cut + 1) last
        | none => [(encodeCode first).zip (encodeCode last)]

/-- The sequences of a set, in ascending order. -/
def sequencesOf
    (set : Text.CharSet) :
    List (List ByteRange) :=
  set.ranges.toList.flatMap fun range => sequencesOfRange 24 range.1 range.2

/-- All characters take nine sequences. -/
example :
    sequencesOf Text.CharSet.all =
      [[(0, 0x7F)],
        [(0xC2, 0xDF), (0x80, 0xBF)],
        [(0xE0, 0xE0), (0xA0, 0xBF), (0x80, 0xBF)],
        [(0xE1, 0xEC), (0x80, 0xBF), (0x80, 0xBF)],
        [(0xED, 0xED), (0x80, 0x9F), (0x80, 0xBF)],
        [(0xEE, 0xEF), (0x80, 0xBF), (0x80, 0xBF)],
        [(0xF0, 0xF0), (0x90, 0xBF), (0x80, 0xBF), (0x80, 0xBF)],
        [(0xF1, 0xF3), (0x80, 0xBF), (0x80, 0xBF), (0x80, 0xBF)],
        [(0xF4, 0xF4), (0x80, 0x8F), (0x80, 0xBF), (0x80, 0xBF)]] := by
  decide

end Fieldwork.Pattern
