import Fieldwork.Number.Decimal
import Fieldwork.Pattern.Build
import Fieldwork.Text.PropertyName

namespace Fieldwork.Pattern

/-!
# Reading escapes and classes

The parts of a pattern that stand for one character or one place: escapes and
bracketed classes.  Each reader returns what it read and what follows it.
-/

inductive Fault where
  | nothingToRepeat
  | unclosedRepetition
  | badRepetition
  | unclosedGroup
  | unopenedGroup
  | badGroupName
  | badFlag
  | lookAround
  | unclosedClass
  | badRange
  | badEscape
  | backReference
  | unknownProperty
  | notText
  | tooDeep
  | tooLarge
  deriving DecidableEq, Repr

def Fault.message :
    Fault →
    String
  | nothingToRepeat => "repetition operator missing expression"
  | unclosedRepetition => "unclosed counted repetition"
  | badRepetition => "invalid repetition count"
  | unclosedGroup => "unclosed group"
  | unopenedGroup => "unopened group"
  | badGroupName => "invalid capture group name"
  | badFlag => "invalid flag"
  | lookAround => "look-around is not supported"
  | unclosedClass => "unclosed character class"
  | badRange => "invalid character class range"
  | badEscape => "invalid escape sequence"
  | backReference => "backreferences are not supported"
  | unknownProperty => "unknown character property"
  | notText => "pattern can match text that is not valid"
  | tooDeep => "pattern is nested too deeply"
  | tooLarge => "pattern is too large"

/-- The settings that flags change from their place on. -/
structure Flags where
  caseless : Bool
  multiLine : Bool
  dotAll : Bool
  anyLineEnd : Bool
  extended : Bool
  ascii : Bool
  /-- Whether repetition is reluctant without a mark and eager with it. -/
  reluctant : Bool
  deriving DecidableEq, Repr

namespace Flags

/-- The settings at the start of a pattern. -/
def initial : Flags :=
  ⟨false, false, false, false, false, false, false⟩

/-- A text behind the blank characters and comments that its setting ignores. -/
def skipExtended :
    (inComment : Bool) →
    List Char →
    List Char
  | _, [] => []
  | true, c :: rest => skipExtended (c ≠ '\n') rest
  | false, c :: rest =>
      if Text.isBlankChar c then skipExtended false rest
      else if c = '#' then skipExtended true rest
      else c :: rest

/-- A text behind what the settings ignore. -/
def skip
    (flags : Flags)
    (text : List Char) :
    List Char :=
  if flags.extended then skipExtended false text else text

/--
The leading characters that satisfy a test, at most `limit` of them if there is a
limit, and what follows them.  What the settings ignore may stand between them
and behind them.
-/
def span
    (flags : Flags)
    (test : Char → Bool) :
    (limit : Option Nat) →
    (inComment : Bool) →
    List Char →
    List Char × List Char
  | _, _, [] => ([], [])
  | limit, true, c :: rest => span flags test limit (c ≠ '\n') rest
  | limit, false, c :: rest =>
      if flags.extended && Text.isBlankChar c then span flags test limit false rest
      else if flags.extended && c = '#' then span flags test limit true rest
      else if limit = some 0 || !test c then
        ([], c :: rest)
      else
        let (taken, after) := span flags test (limit.map (· - 1)) false rest
        (c :: taken, after)

/-- All leading characters that satisfy a test, as `span` reads them. -/
def spanAll
    (flags : Flags)
    (test : Char → Bool)
    (text : List Char) :
    List Char × List Char :=
  flags.span test none false text

end Flags

/-- What an escape or a plain character stands for. -/
inductive Piece where
  | literal (c : Char)
  | oneOf (set : Text.CharSet)
  | assertion (assertion : Assertion)
  deriving DecidableEq, Repr

/-- The result of a reader: a value and what follows it. -/
abbrev Read (α : Type) : Type :=
  Except Fault (α × List Char)

def negateIf
    (negated : Bool)
    (set : Text.CharSet) :
    Text.CharSet :=
  if negated then set.complement else set

/--
A set negated on request.  Where only ASCII counts, the complement of a set
would hold what is no whole character, so it is refused.
-/
def negateFor
    (flags : Flags)
    (negated : Bool)
    (set : Text.CharSet) :
    Except Fault Text.CharSet :=
  if negated && flags.ascii then .error .notText
  else .ok (negateIf negated set)

def asciiChars : Text.CharSet :=
  ⟨#[(0, 0x7F)]⟩

/--
A set closed under letter case where the settings ask for it.  Where only ASCII
counts, only ASCII letters have another case.
-/
def foldIf
    (flags : Flags)
    (set : Text.CharSet) :
    Text.CharSet :=
  if !flags.caseless then set
  else if flags.ascii then
    set.union ((set.intersection asciiChars).anyCase.intersection asciiChars)
  else set.anyCase

/-- The character with a code, if there is one. -/
def charOfCode
    (code : Nat) :
    Except Fault Char :=
  if valid : code.isValidChar then .ok (Char.ofNatAux code valid)
  else .error .badEscape

/-- Whether a character is a hexadecimal digit. -/
def isHexDigit
    (c : Char) :
    Bool :=
  (hexValue? c).isSome

/--
A character by its code, with a fixed number of digits or in braces.  Where only
ASCII counts, two digits write a byte, which is a character only up to 127.
-/
def readHexEscape
    (flags : Flags)
    (width : Nat)
    (text : List Char) :
    Read Piece :=
  let isByte := flags.ascii && width = 2 && text.head? != some '\x7b'
  let digitsAndRest :=
    match text with
    | '\x7b' :: rest =>
        match flags.spanAll isHexDigit rest with
        | (digits, '\x7d' :: rest) => if digits = [] then none else some (digits, rest)
        | _ => none
    | _ =>
        let (digits, rest) := flags.span isHexDigit (some width) false text
        if digits.length = width then some (digits, rest) else none
  match digitsAndRest with
  | none => .error .badEscape
  | some (digits, rest) =>
      match naturalInBase? 16 digits with
      | none => .error .badEscape
      | some code =>
          if isByte && 127 < code then .error .notText
          else (charOfCode code).map fun c => (.literal c, rest)

/-- The name and the value of a property in braces. -/
def splitProperty
    (text : List Char) :
    List Char × Option (List Char) :=
  let rec notEqual : List Char → Option (List Char × List Char)
    | '!' :: '=' :: rest => some ([], rest)
    | c :: rest => (notEqual rest).map fun parts => (c :: parts.1, parts.2)
    | [] => none
  match notEqual text with
  | some (name, value) => (name, some value)
  | none =>
      match Text.splitFirst (· == ':') text with
      | some (name, value) => (name, some value)
      | none =>
          match Text.splitFirst (· == '=') text with
          | some (name, value) => (name, some value)
          | none => (text, none)

/-- The characters that a name, or a name with a value, selects. -/
def namedSet
    (name : List Char)
    (value : Option (List Char)) :
    Except Fault Text.CharSet :=
  let found :=
    match value with
    | none => Text.PropertyName.single? name
    | some value => Text.PropertyName.valued? name value
  match found with
  | some set => .ok set
  | none => .error .unknownProperty

/-- The set of a property that is named by one letter or in braces. -/
def readProperty
    (flags : Flags)
    (negated : Bool)
    (text : List Char) :
    Read Piece :=
  if flags.ascii then
    .error .notText
  else
    let finish (rest : List Char) (set : Text.CharSet) : Piece × List Char :=
      (.oneOf (negateIf negated (foldIf flags set)), rest)
    match flags.skip text with
    | '\x7b' :: rest =>
        match flags.spanAll (· ≠ '\x7d') rest with
        | (inside, '\x7d' :: rest) =>
            let (name, value) := splitProperty inside
            (namedSet name value).map (finish rest)
        | _ => .error .badEscape
    | '\\' :: _ => .error .badEscape
    | c :: rest => (namedSet [c] none).map (finish rest)
    | [] => .error .badEscape

def asciiWord : Text.CharSet :=
  .ofRanges [(0x30, 0x39), (0x41, 0x5A), (0x5F, 0x5F), (0x61, 0x7A)]

def letterClass
    (flags : Flags)
    (letter : Char) :
    Except Fault Piece :=
  let set :=
    if flags.ascii then
      if letter.toLower = 'd' then .between '0' '9'
      else if letter.toLower = 's' then .ofRanges [(0x09, 0x0D), (0x20, 0x20)]
      else asciiWord
    else if letter.toLower = 'd' then Text.decimalDigits
    else if letter.toLower = 's' then Text.whiteSpace
    else Text.wordChars
  (negateFor flags letter.isUpper set).map .oneOf

/-- The character that a letter escape writes. -/
def controlChar? :
    Char →
    Option Char
  | 'a' => some (Char.ofNat 0x07)
  | 'f' => some (Char.ofNat 0x0C)
  | 't' => some '\t'
  | 'n' => some '\n'
  | 'r' => some '\r'
  | 'v' => some (Char.ofNat 0x0B)
  | _ => none

/-- The assertion in braces behind a word edge, by its name. -/
def braceAssertion? :
    String →
    Option Assertion
  | "start" => some .wordStart
  | "end" => some .wordEnd
  | "start-half" => some .noWordBefore
  | "end-half" => some .noWordAfter
  | _ => none

/--
A word edge.  Letters or hyphens in braces behind it name a special one, and
other braces are left to be read as a repetition.
-/
def readWordEdge
    (flags : Flags)
    (text : List Char) :
    Read Piece :=
  let isNameChar (c : Char) : Bool := c.isAlpha || c == '-'
  match text with
  | '\x7b' :: rest =>
      match flags.skip rest with
      | [] => .error .badEscape
      | c :: more =>
          if isNameChar c then
            match flags.spanAll isNameChar (c :: more) with
            | (name, '\x7d' :: rest) =>
                match braceAssertion? (String.ofList name) with
                | some assertion => .ok (.assertion assertion, rest)
                | none => .error .badEscape
            | _ => .error .badEscape
          else
            .ok (.assertion .wordEdge, text)
  | _ => .ok (.assertion .wordEdge, text)

/-- Whether an ASCII character that is no letter or digit may be escaped. -/
def isEscapable
    (c : Char) :
    Bool :=
  c.toNat < 128 && !c.isAlphanum && c != '<' && c != '>'

def readEscape
    (flags : Flags) :
    List Char →
    Read Piece
  | [] => .error .badEscape
  | c :: rest =>
      if c.isDigit then .error .backReference
      else if c = 'x' then readHexEscape flags 2 (flags.skip rest)
      else if c = 'u' then readHexEscape flags 4 (flags.skip rest)
      else if c = 'U' then readHexEscape flags 8 (flags.skip rest)
      else if c = 'p' then readProperty flags false rest
      else if c = 'P' then readProperty flags true rest
      else if ['d', 's', 'w', 'D', 'S', 'W'].contains c then
        (letterClass flags c).map fun piece => (piece, rest)
      else if isEscapable c then .ok (.literal c, rest)
      else if c = 'A' then .ok (.assertion .textStart, rest)
      else if c = 'z' then .ok (.assertion .textEnd, rest)
      else if c = 'b' then readWordEdge flags rest
      else if c = 'B' then .ok (.assertion .notWordEdge, rest)
      else if c = '<' then .ok (.assertion .wordStart, rest)
      else if c = '>' then .ok (.assertion .wordEnd, rest)
      else
        match controlChar? c with
        | some written => .ok (.literal written, rest)
        | none => .error .badEscape

/-- One end of a range, or a whole item, inside a class. -/
def readClassPiece
    (flags : Flags) :
    List Char →
    Read Piece
  | '\\' :: rest => readEscape flags rest
  | c :: rest => .ok (.literal c, rest)
  | [] => .error .unclosedClass

/-- The set of the characters between two, as an item of a class. -/
def rangeSet
    (flags : Flags)
    (low high : Char) :
    Except Fault Text.CharSet :=
  if flags.ascii && 127 < high.toNat then .error .notText
  else if low ≤ high then .ok (.between low high)
  else .error .badRange

/-- The set of a single item of a class. -/
def pieceSet
    (flags : Flags) :
    Piece →
    Except Fault Text.CharSet
  | .literal c => rangeSet flags c c
  | .oneOf set => .ok set
  | .assertion _ => .error .badEscape

/-- An item of a class: a single piece, or a range of two characters. -/
def readClassItem
    (flags : Flags)
    (text : List Char) :
    Read Text.CharSet :=
  match readClassPiece flags text with
  | .error fault => .error fault
  | .ok (first, rest) =>
      match flags.skip rest with
      | [] => .error .unclosedClass
      | '-' :: more =>
          match flags.skip more with
          | [] => .error .unclosedClass
          | c :: afterHyphen =>
              if c = ']' ∨ c = '-' then
                (pieceSet flags first).map fun set => (set, '-' :: more)
              else
                match readClassPiece flags (c :: afterHyphen) with
                | .error fault => .error fault
                | .ok (last, rest) =>
                    match first, last with
                    | .literal low, .literal high =>
                        (rangeSet flags low high).map fun set => (set, rest)
                    | _, _ => .error .badRange
      | rest => (pieceSet flags first).map fun set => (set, rest)

/-- The ASCII classes that have a name. -/
def asciiClass? :
    String →
    Option (List (Nat × Nat))
  | "alnum" => some [(0x30, 0x39), (0x41, 0x5A), (0x61, 0x7A)]
  | "alpha" => some [(0x41, 0x5A), (0x61, 0x7A)]
  | "ascii" => some [(0x00, 0x7F)]
  | "blank" => some [(0x09, 0x09), (0x20, 0x20)]
  | "cntrl" => some [(0x00, 0x1F), (0x7F, 0x7F)]
  | "digit" => some [(0x30, 0x39)]
  | "graph" => some [(0x21, 0x7E)]
  | "lower" => some [(0x61, 0x7A)]
  | "print" => some [(0x20, 0x7E)]
  | "punct" => some [(0x21, 0x2F), (0x3A, 0x40), (0x5B, 0x60), (0x7B, 0x7E)]
  | "space" => some [(0x09, 0x0D), (0x20, 0x20)]
  | "upper" => some [(0x41, 0x5A)]
  | "word" => some [(0x30, 0x39), (0x41, 0x5A), (0x5F, 0x5F), (0x61, 0x7A)]
  | "xdigit" => some [(0x30, 0x39), (0x41, 0x46), (0x61, 0x66)]
  | _ => none

/-- A named ASCII class, from behind its opening bracket, if there is one. -/
def readAsciiClass?
    (flags : Flags) :
    List Char →
    Option (Read Text.CharSet)
  | ':' :: rest =>
      let (negated, rest) :=
        match rest with
        | '^' :: rest => (true, rest)
        | rest => (false, rest)
      match Text.splitFirst (· == ':') rest with
      | some (name, ']' :: rest) =>
          (asciiClass? (String.ofList name)).map fun ranges =>
            (negateFor flags negated (foldIf flags (.ofRanges ranges))).map
              fun set => (set, rest)
      | _ => none
  | _ => none

/-- An operation between the parts of a class. -/
inductive ClassOperation where
  | intersection
  | difference
  | symmetricDifference
  deriving DecidableEq, Repr

/-- A set that a class writes, and how deeply its brackets and operations are nested. -/
structure Nested where
  set : Text.CharSet
  depth : Nat
  deriving Repr

/-- The items of a class that were read so far. -/
structure Items where
  /-- The sets of the items, last one first. -/
  sets : List Text.CharSet
  count : Nat
  depth : Nat
  deriving Repr

namespace Items

def none : Items :=
  ⟨[], 0, 0⟩

def push
    (items : Items)
    (set : Text.CharSet)
    (depth : Nat) :
    Items :=
  ⟨set :: items.sets, items.count + 1, max items.depth depth⟩

/-- The union of items; two or more of them are a level of nesting. -/
def close
    (items : Items) :
    Nested :=
  ⟨.unions items.sets, if items.count < 2 then items.depth else items.depth + 1⟩

end Items

/-- The left side of an operation, if there is one, with its right side. -/
def combine
    (flags : Flags)
    (pending : Option (Nested × ClassOperation))
    (items : Items) :
    Nested :=
  let current := items.close
  match pending with
  | none => current
  | some (left, operation) =>
      let first := foldIf flags left.set
      let second := foldIf flags current.set
      let set :=
        match operation with
        | .intersection => first.intersection second
        | .difference => first.difference second
        | .symmetricDifference => first.symmetricDifference second
      ⟨set, max left.depth current.depth + 1⟩

/-- The operation at the front of a text, and what follows it. -/
def classOperation? :
    List Char →
    Option (ClassOperation × List Char)
  | '&' :: '&' :: rest => some (.intersection, rest)
  | '-' :: '-' :: rest => some (.difference, rest)
  | '~' :: '~' :: rest => some (.symmetricDifference, rest)
  | _ => none

/-- The hyphens at the start of a class, which stand for themselves. -/
def leadingHyphens
    (flags : Flags) :
    (fuel : Nat) →
    Items →
    List Char →
    Items × List Char
  | 0, items, text => (items, text)
  | fuel + 1, items, text =>
      match text with
      | '-' :: rest =>
          leadingHyphens flags fuel (items.push (.single '-') 0) (flags.skip rest)
      | _ => (items, text)

/--
The hyphens, and in their absence the closing bracket, that stand for
themselves at the start of a class.
-/
def leadingLiterals
    (fuel : Nat)
    (flags : Flags)
    (text : List Char) :
    Items × List Char :=
  match text with
  | ']' :: rest => (Items.none.push (.single ']') 0, rest)
  | _ => leadingHyphens flags fuel .none text

/-- Whether a class is negated, and what stands behind its opening. -/
def classNegation
    (flags : Flags)
    (text : List Char) :
    Bool × List Char :=
  match flags.skip text with
  | '^' :: rest => (true, flags.skip rest)
  | rest => (false, rest)

/--
The rest of a class up to its closing bracket.  `pending` is the left side of
an operation, and `items` what was read since then.
-/
def readClassRest
    (fuel : Nat)
    (flags : Flags)
    (negated : Bool)
    (pending : Option (Nested × ClassOperation))
    (items : Items)
    (text : List Char) :
    Read Nested :=
  match fuel with
  | 0 => .error .unclosedClass
  | fuel + 1 =>
      let text := flags.skip text
      match classOperation? text with
      | some (operation, rest) =>
          readClassRest fuel flags negated
            (some (combine flags pending items, operation)) .none rest
      | none =>
          match text with
          | [] => .error .unclosedClass
          | ']' :: rest =>
              let whole := combine flags pending items
              (negateFor flags negated (foldIf flags whole.set)).map
                fun set => (⟨set, whole.depth + 1⟩, rest)
          | '[' :: rest =>
              match readAsciiClass? flags rest with
              | some (.error fault) => .error fault
              | some (.ok (set, rest)) =>
                  readClassRest fuel flags negated pending (items.push set 0) rest
              | none =>
                  let (innerNegated, opened) := classNegation flags rest
                  let (first, opened) := leadingLiterals fuel flags opened
                  match readClassRest fuel flags innerNegated none first opened with
                  | .error fault => .error fault
                  | .ok (inner, rest) =>
                      readClassRest fuel flags negated pending
                        (items.push inner.set inner.depth) rest
          | text =>
              match readClassItem flags text with
              | .error fault => .error fault
              | .ok (set, rest) =>
                  readClassRest fuel flags negated pending (items.push set 0) rest

/-- A class, from behind its opening bracket; `fuel` exceeds the length of the text. -/
def readClass
    (fuel : Nat)
    (flags : Flags)
    (text : List Char) :
    Read Nested :=
  let (negated, opened) := classNegation flags text
  let (first, opened) := leadingLiterals fuel flags opened
  readClassRest fuel flags negated none first opened

end Fieldwork.Pattern
