import Fieldwork.Text.Category
import Fieldwork.Text.Composition
import Fieldwork.Text.Direction
import Fieldwork.Text.Joining
import Fieldwork.Url.Mapping
import Fieldwork.Url.Numeric
import Fieldwork.Url.Punycode

namespace Fieldwork.Url

/-!
# Labels of domains

A domain is a list of labels with dots between them.  A label beyond ASCII must
not begin with a mark, and the two characters that make letters join or part
have their place in it.  Where one label of a domain is written from the right,
the characters of every label keep to one direction.
-/

/-- A label: its characters, and how it is written in ASCII. -/
structure Label where
  codes : List Nat
  written : List Char

/-- Marks in version 17 of the standard. -/
def marks : Text.CharSet :=
  (Text.ofCategories ["Mn", "Mc", "Me"]).union
    (.read "1ACF-1ADD 1AE0-1AEB 10EFA-10EFB 11B60-11B67 1E6E3 1E6E6 1E6EE-1E6EF 1E6F5")

/-- Whether a code point is a mark that makes the letter before it silent at its end. -/
def isSilencer
    (code : Nat) :
    Bool :=
  Text.combiningClass code = 9

/-- The first code point that letters do not join through. -/
def nextJoining?
    (codes : List Nat) :
    Option Nat :=
  (codes.dropWhile Text.joiningThrough.containsCode).head?

/--
Whether letters would join over a place; what stands before it is listed from
the place to the front.
-/
def wouldJoin
    (before behind : List Nat) :
    Bool :=
  (nextJoining? before).any
      (fun code =>
        Text.joiningBehind.containsCode code || Text.joiningBoth.containsCode code) &&
    (nextJoining? behind).any
      (fun code =>
        Text.joiningBefore.containsCode code || Text.joiningBoth.containsCode code)

/--
Whether the characters that make letters part (200C) or join (200D) stand behind
a silencer, and the former else only where letters would join.  What was passed
is listed from the place to the front.
-/
def joinersFit
    (passed : List Nat) :
    List Nat →
    Bool
  | [] => true
  | code :: rest =>
      (if code = 0x200C then passed.head?.any isSilencer || wouldJoin passed rest
        else if code = 0x200D then passed.head?.any isSilencer
        else true) &&
        joinersFit (code :: passed) rest

/-- Whether a label of these characters is well formed. -/
def isLabel
    (codes : List Nat) :
    Bool :=
  !codes.head?.any marks.containsCode && joinersFit [] codes

/-- What a label written in ASCII begins with if it stands for one beyond ASCII. -/
def asciiMark : List Char :=
  "xn--".toList

/-- The characters of a label from what follows the mark in its ASCII form. -/
def readAsciiLabel?
    (text : List Char) :
    Option (List Nat) :=
  if text.isEmpty ∨ text.getLast? = some '-' ∨ 2000 < text.length then none
  else
    (labelCodes? text).filter fun codes =>
      codes.all keptChars.containsCode && Text.composed codes = codes &&
        !asciiMark.isPrefixOf (codes.map Char.ofNat) && isLabel codes

/-- The label of a domain that was mapped and composed. -/
def readLabel?
    (text : List Char) :
    Option Label :=
  if text.all fun c => c.toNat < 128 then
    if asciiMark.isPrefixOf text then
      (readAsciiLabel? (text.drop 4)).map fun codes => ⟨codes, text⟩
    else
      some ⟨text.map Char.toNat, text⟩
  else
    let codes := text.map Char.toNat
    if !asciiMark.isPrefixOf text && isLabel codes && text.length ≤ 1000 then
      some ⟨codes, asciiLabel text⟩
    else
      none

namespace Label

/-- The directions of the characters of a label. -/
def directions
    (label : Label) :
    List Text.Direction :=
  label.codes.map Text.Direction.ofCode

/-- Whether a label has characters that are written from the right. -/
def isFromRight
    (label : Label) :
    Bool :=
  label.directions.any fun direction => direction = .right || direction = .arabicNumber

/-- Whether the characters of a label keep to the direction of its first letter. -/
def keepsDirection
    (label : Label) :
    Bool :=
  match label.directions with
  | [] => true
  | first :: rest =>
      match first, (rest.reverse.dropWhile (· = .mark)) with
      | .left, [] => true
      | .right, [] => true
      | .left, last :: middle =>
          [.left, .number].contains last &&
            middle.all ([.left, .number, .neutral, .mark] : List Text.Direction).contains
      | .right, last :: middle =>
          [.right, .number, .arabicNumber].contains last &&
            middle.all
              ([.right, .number, .arabicNumber, .neutral, .mark] :
                List Text.Direction).contains &&
            !(rest.contains .number && rest.contains .arabicNumber)
      | _, _ => false

end Label

/-- The labels of a domain whose characters are kept, replaced or left out. -/
def labelsOf?
    (domain : List Nat) :
    Option (List Label) :=
  ((dotted (domain.map Char.ofNat)).mapM readLabel?).filter fun labels =>
    !labels.any Label.isFromRight || labels.all Label.keepsDirection

end Fieldwork.Url
