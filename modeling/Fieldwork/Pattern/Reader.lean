import Fieldwork.Number.Width
import Fieldwork.Pattern.Automaton
import Fieldwork.Pattern.Class

namespace Fieldwork.Pattern

/-!
# Reading patterns

A pattern is a list of branches, each a sequence of items.  An item is a
character, a class, an assertion, a group, or one of these under repetition
marks.  Flags that stand alone in a group apply from their place to the end of
the group around them.
-/

/-- A pattern that was read, and how deeply it is nested. -/
structure Level where
  pattern : Pattern
  depth : Nat
  deriving Repr

/-- An item of a branch, and whether a repetition mark may follow it. -/
structure Item where
  pattern : Pattern
  depth : Nat
  repeatable : Bool
  deriving Repr

/-- The greatest of several depths, one deeper where there are two or more. -/
def depthOf
    (depths : List Nat) :
    Nat :=
  let deepest := depths.foldl max 0
  if depths.length < 2 then deepest else deepest + 1

/-- The sequence of items, which are given last one first. -/
def sequenceOf
    (items : List Item) :
    Level :=
  ⟨concat (items.reverse.map Item.pattern), depthOf (items.map Item.depth)⟩

/-- The choice between branches, which are given last one first. -/
def choiceOf
    (branches : List Level)
    (last : Level) :
    Level :=
  match branches with
  | [] => last
  | _ =>
      ⟨choice ((last :: branches).reverse.map Level.pattern),
        depthOf ((last :: branches).map Level.depth)⟩

/-- The pattern of a single piece under the settings. -/
def piecePattern
    (flags : Flags) :
    Piece →
    Pattern
  | .literal c => ofSet flags.ascii (foldIf flags (.single c))
  | .oneOf set => ofSet flags.ascii set
  | .assertion assertion => .assert assertion (flags.ascii && assertion.isAboutWords)

def dotSet
    (flags : Flags) :
    Text.CharSet :=
  if flags.dotAll then .all
  else if flags.anyLineEnd then
    ((Text.CharSet.single '\n').union (.single '\r')).complement
  else (Text.CharSet.single '\n').complement

def startAssertion
    (flags : Flags) :
    Assertion :=
  if !flags.multiLine then .textStart
  else if flags.anyLineEnd then .anyLineStart
  else .lineStart

def endAssertion
    (flags : Flags) :
    Assertion :=
  if !flags.multiLine then .textEnd
  else if flags.anyLineEnd then .anyLineEnd
  else .lineEnd

/-- A count between optional blanks, if digits stand there, and what follows. -/
def readCount
    (flags : Flags)
    (text : List Char) :
    Option Nat × List Char :=
  let (digits, rest) := flags.spanAll isDigit (text.dropWhile Text.isBlankChar)
  (if digits = [] then none else some (naturalOf digits),
    flags.skip (rest.dropWhile Text.isBlankChar))

/-- The greatest count that a repetition can have. -/
def greatestCount : Nat :=
  greatestNat32

/-- The counts of a repetition, from behind its opening brace. -/
def readCounts
    (flags : Flags)
    (text : List Char) :
    Read (Nat × Option Nat) :=
  match readCount flags (flags.skip text) with
  | (_, []) => .error .unclosedRepetition
  | (none, _) => .error .badRepetition
  | (some least, ',' :: rest) =>
      match flags.skip rest with
      | '\x7d' :: rest =>
          if least ≤ greatestCount then .ok ((least, none), rest)
          else .error .badRepetition
      | text =>
          match readCount flags text with
          | (some greatest, '\x7d' :: rest) =>
              if least ≤ greatest ∧ greatest ≤ greatestCount then
                .ok ((least, some greatest), rest)
              else
                .error .badRepetition
          | _ => .error .unclosedRepetition
  | (some least, '\x7d' :: rest) =>
      if least ≤ greatestCount then .ok ((least, some least), rest)
      else .error .badRepetition
  | _ => .error .unclosedRepetition

/-- Whether the mark of a reluctant repetition is in front, and what follows it. -/
def readReluctance :
    List Char →
    Bool × List Char
  | '?' :: rest => (true, rest)
  | text => (false, text)

def repeatLatest
    (least : Nat)
    (greatest : Option Nat)
    (reluctant : Bool) :
    List Item →
    Except Fault (List Item)
  | [] => .error .nothingToRepeat
  | item :: earlier =>
      if item.repeatable then
        .ok (⟨repetition least greatest reluctant item.pattern, item.depth + 1, true⟩ ::
          earlier)
      else
        .error .nothingToRepeat

/-- Letters that version 17 of the standard adds. -/
def laterLetters : Text.CharSet :=
  .readLines
    [ "88F C5C CDC A7CE-A7CF A7D2 A7D4 A7F1 10940-10959 10EC5-10EC7 10EFA-10EFB 11B60-11B67"
    , "11DB0-11DDB 16EA0-16EB8 16EBB-16ED3 16FF2-16FF6 187F8-187FF 18D09-18D1E 18D80-18DF2"
    , "1E6C0-1E6DE 1E6E0-1E6F5 1E6FE-1E6FF 2B73A-2B73F 2CEA2-2CEAD 323B0-33479"
    ]

/-- Numbers that version 17 of the standard adds. -/
def laterNumbers : Text.CharSet :=
  .read "11DE0-11DE9"

/-- Digits and other numbers. -/
def numbers : Text.CharSet :=
  Text.ofCategories ["Nd", "Nl", "No"]

/--
Whether a character may stand in the name of a group.  Names know the letters
and numbers of a later version of the standard than the classes of patterns.
-/
def isNameChar
    (first : Bool)
    (c : Char) :
    Bool :=
  let isLetter := Text.alphabetic.contains c || laterLetters.contains c
  let isNumber := numbers.contains c || laterNumbers.contains c
  if first then c == '_' || isLetter
  else c == '_' || c == '.' || c == '[' || c == ']' || isLetter || isNumber

/-- The name of a group, from behind its opening angle bracket. -/
def readGroupName
    (taken : List String)
    (text : List Char) :
    Read String :=
  match Text.splitFirst (· == '>') text with
  | none => .error .badGroupName
  | some (name, rest) =>
      let valid :=
        match name with
        | [] => false
        | c :: more => isNameChar true c && more.all (isNameChar false)
      if valid && !taken.contains (String.ofList name) then
        .ok (String.ofList name, rest)
      else
        .error .badGroupName

def Flags.switch
    (flags : Flags)
    (letter : Char)
    (on : Bool) :
    Option Flags :=
  match letter with
  | 'i' => some { flags with caseless := on }
  | 'm' => some { flags with multiLine := on }
  | 's' => some { flags with dotAll := on }
  | 'R' => some { flags with anyLineEnd := on }
  | 'x' => some { flags with extended := on }
  | 'u' => some { flags with ascii := !on }
  | 'U' => some { flags with reluctant := on }
  | _ => none

/--
Flag letters up to a colon or a closing parenthesis.  A flag may stand there
once, a hyphen once and not at the end.  The result says which of the two
signs ended the letters, and whether there were any.
-/
def readFlags
    (seen : List Char)
    (flags : Flags) :
    List Char →
    Read (Flags × Bool × Bool)
  | [] => .error .badFlag
  | c :: rest =>
      if c = ':' ∨ c = ')' then
        if seen.head? = some '-' then .error .badFlag
        else .ok ((flags, c = ':', !seen.isEmpty), rest)
      else if seen.contains c then
        .error .badFlag
      else if c = '-' then
        readFlags ('-' :: seen) flags rest
      else
        match flags.switch c (!seen.contains '-') with
        | some flags => readFlags (c :: seen) flags rest
        | none => .error .badFlag

/-- The groups that were numbered so far. -/
structure Groups where
  count : Nat
  names : List String
  deriving Repr

inductive Opening where
  /-- A group with its settings, and its number if it has one. -/
  | group (flags : Flags) (number : Option Nat) (groups : Groups)
  /-- Settings for the rest of the surrounding group. -/
  | settings (flags : Flags)
  deriving Repr

/-- The opening of a group, from behind its parenthesis. -/
def readOpening
    (flags : Flags)
    (groups : Groups)
    (text : List Char) :
    Read Opening :=
  let number := groups.count + 1
  let named (rest : List Char) : Read Opening :=
    (readGroupName groups.names rest).map fun (name, rest) =>
      (.group flags (some number) ⟨number, name :: groups.names⟩, rest)
  match flags.skip text with
  | '?' :: '=' :: _ => .error .lookAround
  | '?' :: '!' :: _ => .error .lookAround
  | '?' :: '<' :: '=' :: _ => .error .lookAround
  | '?' :: '<' :: '!' :: _ => .error .lookAround
  | '?' :: 'P' :: '<' :: rest => named rest
  | '?' :: '<' :: rest => named rest
  | '?' :: rest =>
      match readFlags [] flags rest with
      | .error fault => .error fault
      | .ok ((switched, isGroup, hasFlags), rest) =>
          if isGroup then .ok (.group switched none groups, rest)
          else if hasFlags then .ok (.settings switched, rest)
          else .error .nothingToRepeat
  | rest => .ok (.group flags (some number) ⟨number, groups.names⟩, rest)

/-- The pattern of a group with a number or without one. -/
def groupPattern
    (number : Option Nat)
    (body : Pattern) :
    Pattern :=
  match number with
  | some number => .group number body
  | none => body

/--
The branches of a group up to its end, which is a closing parenthesis or the
end of the text.  `branches` and `items` hold what was read so far, last one
first.  The result carries the groups that are numbered by then.
-/
def readBranches
    (fuel : Nat)
    (flags : Flags)
    (groups : Groups)
    (branches : List Level)
    (items : List Item)
    (text : List Char) :
    Read (Level × Groups) :=
  match fuel with
  | 0 => .error .unclosedGroup
  | fuel + 1 =>
      let push (pattern : Pattern) (depth : Nat) (rest : List Char) :=
        readBranches fuel flags groups branches (⟨pattern, depth, true⟩ :: items) rest
      let again (least : Nat) (greatest : Option Nat) (rest : List Char) :=
        let (marked, rest) := readReluctance rest
        match repeatLatest least greatest (marked != flags.reluctant) items with
        | .error fault => .error fault
        | .ok items => readBranches fuel flags groups branches items rest
      match flags.skip text with
      | [] => .ok ((choiceOf branches (sequenceOf items), groups), [])
      | ')' :: rest =>
          .ok ((choiceOf branches (sequenceOf items), groups), ')' :: rest)
      | '|' :: rest =>
          readBranches fuel flags groups (sequenceOf items :: branches) [] rest
      | '(' :: rest =>
          match readOpening flags groups rest with
          | .error fault => .error fault
          | .ok (.settings switched, rest) =>
              readBranches fuel switched groups branches
                (⟨.empty, 0, false⟩ :: items) rest
          | .ok (.group inner number groups, rest) =>
              match readBranches fuel inner groups [] [] rest with
              | .error fault => .error fault
              | .ok ((body, groups), ')' :: rest) =>
                  readBranches fuel flags groups branches
                    (⟨groupPattern number body.pattern, body.depth + 1, true⟩ :: items)
                    rest
              | .ok _ => .error .unclosedGroup
      | '*' :: rest => again 0 none rest
      | '+' :: rest => again 1 none rest
      | '?' :: rest => again 0 (some 1) rest
      | '\x7b' :: rest =>
          if (repeatLatest 0 none false items).toOption.isNone then
            .error .nothingToRepeat
          else
            match readCounts flags rest with
            | .error fault => .error fault
            | .ok ((least, greatest), rest) => again least greatest (flags.skip rest)
      | '[' :: rest =>
          match readClass fuel flags rest with
          | .error fault => .error fault
          | .ok (inner, rest) => push (ofSet flags.ascii inner.set) inner.depth rest
      | '.' :: rest =>
          if flags.ascii then .error .notText
          else push (ofSet false (dotSet flags)) 0 rest
      | '^' :: rest => push (.assert (startAssertion flags) false) 0 rest
      | '$' :: rest => push (.assert (endAssertion flags) false) 0 rest
      | '\\' :: rest =>
          match readEscape flags rest with
          | .error fault => .error fault
          | .ok (piece, rest) => push (piecePattern flags piece) 0 rest
      | c :: rest => push (piecePattern flags (.literal c)) 0 rest

/-- How deeply the parts of a pattern may be nested. -/
def greatestDepth : Nat :=
  250

def read
    (text : String) :
    Except Fault Pattern :=
  match readBranches (text.length + 1) .initial ⟨0, []⟩ [] [] text.toList with
  | .error fault => .error fault
  | .ok ((whole, _), []) =>
      if greatestDepth < whole.depth then .error .tooDeep
      else if whole.pattern.fits then .ok whole.pattern
      else .error .tooLarge
  | .ok _ => .error .unopenedGroup

end Fieldwork.Pattern
