import Fieldwork.Json.Document
import Fieldwork.Number.Hexadecimal

namespace Fieldwork.Json

/-!
# Reading JSON text

The reader turns a text into a document and returns what follows it, or `none`
where the text broke off.  It never fails: a break is a node of the document,
so a reader of typed data still sees everything before it.

Every recursive call is given one unit of fuel less, and the fuel at the start
exceeds the length of the text, of which each call consumes a character.
-/

/-- The four blank characters between the tokens of a document. -/
def isSpace
    (c : Char) :
    Bool :=
  c = ' ' || c = '\n' || c = '\t' || c = '\r'

/-- A text without the blank characters at its front. -/
def skipSpaces
    (text : List Char) :
    List Char :=
  text.dropWhile isSpace

/-- The value of four hexadecimal digits at the front, and what follows. -/
def readHex4 :
    List Char →
    Option (Nat × List Char)
  | a :: b :: c :: d :: rest =>
      match hexValue? a, hexValue? b, hexValue? c, hexValue? d with
      | some a, some b, some c, some d =>
          some (((a * 16 + b) * 16 + c) * 16 + d, rest)
      | _, _, _, _ => none
  | _ => none

/-- Whether a unit opens a pair that writes one character. -/
def isHighUnit
    (unit : Nat) :
    Bool :=
  0xD800 ≤ unit && unit ≤ 0xDBFF

/-- Whether a unit closes a pair that writes one character. -/
def isLowUnit
    (unit : Nat) :
    Bool :=
  0xDC00 ≤ unit && unit ≤ 0xDFFF

/-- The character that an escape letter writes. -/
def escapedChar? :
    Char →
    Option Char
  | '"' => some '"'
  | '\\' => some '\\'
  | '/' => some '/'
  | 'b' => some (Char.ofNat 8)
  | 'f' => some (Char.ofNat 12)
  | 'n' => some '\n'
  | 'r' => some '\r'
  | 't' => some '\t'
  | _ => none

/--
One character of a quoted text, and what follows: the character, or `none`
inside the result for an escape that forms no character.  The result itself is
`none` where the text is no JSON.
-/
def readTextChar :
    List Char →
    Option (Option Char × List Char)
  | '\\' :: 'u' :: rest =>
      match readHex4 rest with
      | none => none
      | some (unit, afterUnit) =>
          if isHighUnit unit then
            match afterUnit with
            | '\\' :: 'u' :: more =>
                match readHex4 more with
                | none => none
                | some (low, afterLow) =>
                    if isLowUnit low then
                      some
                        (some (Char.ofNat
                          (0x10000 + (unit - 0xD800) * 0x400 + (low - 0xDC00))),
                          afterLow)
                    else
                      some (none, afterUnit)
            | _ => some (none, afterUnit)
          else if isLowUnit unit then
            some (none, afterUnit)
          else
            some (some (Char.ofNat unit), afterUnit)
  | '\\' :: letter :: rest =>
      (escapedChar? letter).map fun c => (some c, rest)
  | c :: rest =>
      if c = '\\' ∨ c.toNat < 0x20 then none else some (some c, rest)
  | [] => none

/--
A quoted text from behind its opening quote to behind its closing one.  The
characters read so far are in `collected`, last one first; `sound` says whether
every escape formed a character.
-/
def readText
    (fuel : Nat)
    (collected : List Char)
    (sound : Bool) :
    List Char →
    Option (Option String × List Char)
  | '"' :: rest =>
      some (if sound then some (String.ofList collected.reverse) else none, rest)
  | text =>
      match fuel with
      | 0 => none
      | fuel + 1 =>
          match readTextChar text with
          | none => none
          | some (some c, rest) => readText fuel (c :: collected) sound rest
          | some (none, rest) => readText fuel collected false rest

/-- An exponent part at the front: sign and digits, and what follows. -/
def readLiteralExponent
    (text : List Char) :
    Option (Option (Bool × List Char) × List Char) :=
  match text with
  | letter :: rest =>
      if letter = 'e' ∨ letter = 'E' then
        let (negative, digits) := splitSign rest
        let written := digits.takeWhile isDigit
        if written = [] then none
        else some (some (negative, written), digits.dropWhile isDigit)
      else
        some (none, text)
  | [] => some (none, text)

/-- A fraction part at the front: its digits, and what follows. -/
def readLiteralFraction
    (text : List Char) :
    Option (Option (List Char) × List Char) :=
  match text with
  | '.' :: rest =>
      let digits := rest.takeWhile isDigit
      if digits = [] then none else some (some digits, rest.dropWhile isDigit)
  | _ => some (none, text)

/-- A text without the minus sign at its front, and whether there was one. -/
def splitMinus :
    List Char →
    Bool × List Char
  | '-' :: rest => (true, rest)
  | text => (false, text)

/--
A number at the front, and what follows.  The integer part has no superfluous
zero, and a point or an exponent letter has a digit after it.
-/
def readLiteral
    (text : List Char) :
    Option (Literal × List Char) :=
  let (negative, unsigned) := splitMinus text
  let whole := unsigned.takeWhile isDigit
  if whole = [] ∨ (whole.head? = some '0' ∧ 1 < whole.length) then
    none
  else
    match readLiteralFraction (unsigned.dropWhile isDigit) with
    | none => none
    | some (fraction, afterFraction) =>
        (readLiteralExponent afterFraction).map fun (exponent, rest) =>
          (⟨negative, whole, fraction, exponent⟩, rest)

namespace Document

/-- A container where there is room for one, and a buried one elsewhere. -/
def contain
    (room : Nat)
    (container : Document)
    (rest : Option (List Char)) :
    Document × Option (List Char) :=
  if room = 0 then
    (if rest.isSome then .buried else .broken, rest)
  else
    (container, rest)

mutual

/--
The document at the front of a text, with `room` for that many nested
containers, and what follows.
-/
def readValue
    (fuel room : Nat)
    (text : List Char) :
    Document × Option (List Char) :=
  match fuel with
  | 0 => (.broken, none)
  | fuel + 1 =>
      match skipSpaces text with
      | 'n' :: 'u' :: 'l' :: 'l' :: rest => (.null, some rest)
      | 't' :: 'r' :: 'u' :: 'e' :: rest => (.bool true, some rest)
      | 'f' :: 'a' :: 'l' :: 's' :: 'e' :: rest => (.bool false, some rest)
      | '"' :: rest =>
          match readText rest.length [] true rest with
          | none => (.broken, none)
          | some (content, rest) => (.string content, some rest)
      | '[' :: rest =>
          match skipSpaces rest with
          | ']' :: rest => contain room (.array []) (some rest)
          | rest =>
              let (items, rest) := readItems fuel (room - 1) rest
              contain room (.array items) rest
      | '\x7b' :: rest =>
          match skipSpaces rest with
          | '\x7d' :: rest => contain room (.object []) (some rest)
          | rest =>
              let (members, rest) := readMembers fuel (room - 1) rest
              contain room (.object members) rest
      | text =>
          match readLiteral text with
          | none => (.broken, none)
          | some (literal, rest) => (.number literal.value?, some rest)

/-- The items from here to behind the closing bracket. -/
def readItems
    (fuel room : Nat)
    (text : List Char) :
    List Document × Option (List Char) :=
  match fuel with
  | 0 => ([.broken], none)
  | fuel + 1 =>
      match readValue fuel room text with
      | (item, none) => ([item], none)
      | (item, some rest) =>
          match skipSpaces rest with
          | ']' :: rest => ([item], some rest)
          | ',' :: rest =>
              let (items, rest) := readItems fuel room rest
              (item :: items, rest)
          | _ => ([item, .broken], none)

/-- The members from here to behind the closing brace. -/
def readMembers
    (fuel room : Nat)
    (text : List Char) :
    List (Option String × Document) × Option (List Char) :=
  match fuel with
  | 0 => ([(none, .broken)], none)
  | fuel + 1 =>
      match skipSpaces text with
      | '"' :: rest =>
          match readText rest.length [] true rest with
          | none => ([(none, .broken)], none)
          | some (name, rest) =>
              match skipSpaces rest with
              | ':' :: rest =>
                  match readValue fuel room rest with
                  | (value, none) => ([(name, value)], none)
                  | (value, some rest) =>
                      match skipSpaces rest with
                      | '\x7d' :: rest => ([(name, value)], some rest)
                      | ',' :: rest =>
                          let (members, rest) := readMembers fuel room rest
                          ((name, value) :: members, rest)
                      | _ => ([(name, value), (none, .broken)], none)
              | _ => ([(name, .broken)], none)
      | _ => ([(none, .broken)], none)

end

/--
The document that a text begins with, and whether nothing but blank characters
follows it.
-/
def ofText
    (text : String) :
    Document × Bool :=
  let characters := text.toList
  let (document, rest) :=
    readValue (2 * characters.length + 2) greatestDepth characters
  (document, rest.any fun rest => (skipSpaces rest).isEmpty)

end Document

/-- The JSON value of a text, if the whole text is one. -/
def ofText?
    (text : String) :
    Option Json :=
  match Document.ofText text with
  | (document, true) => document.json?
  | (_, false) => none

end Fieldwork.Json
