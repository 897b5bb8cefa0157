namespace Fieldwork.Text

/-!
# Blank characters, trimming and words

A character is blank when it has the Unicode property `White_Space`.  The
table below is the whole property: the control characters from tab to carriage
return, the space, the next-line and no-break spaces, the typographic spaces,
the line and paragraph separators and the ideographic space.  Zero-width
characters and the information separators are not in it.

All functions work on character lists; the string forms at the end wrap them.
-/

/-- The characters with the Unicode property `White_Space`. -/
def isBlankChar
    (c : Char) :
    Bool :=
  let code := c.toNat
  (9 ≤ code && code ≤ 13) || code == 0x20 || code == 0x85 || code == 0xA0 ||
    code == 0x1680 || (0x2000 ≤ code && code ≤ 0x200A) || code == 0x2028 ||
    code == 0x2029 || code == 0x202F || code == 0x205F || code == 0x3000

/-- Every character that core calls white space is blank. -/
theorem isBlankChar_of_isWhitespace
    {c : Char}
    (space : c.isWhitespace = true) :
    isBlankChar c = true := by
  simp only [Char.isWhitespace, Bool.or_eq_true, decide_eq_true_eq] at space
  rcases space with ((space | space) | space) | space <;> subst space <;> decide

/-- Drop the blank characters at the front. -/
def trimFront
    (text : List Char) :
    List Char :=
  text.dropWhile isBlankChar

/-- Drop the blank characters at the end. -/
def trimBack
    (text : List Char) :
    List Char :=
  (text.reverse.dropWhile isBlankChar).reverse

/-- Drop the blank characters at both ends. -/
def trimChars
    (text : List Char) :
    List Char :=
  trimBack (trimFront text)

/--
The maximal runs of characters that are not blank, in order.  The pending run
is kept in `current`, last character first.
-/
def wordsFrom
    (current : List Char) :
    List Char →
    List (List Char)
  | [] =>
      if current.isEmpty then [] else [current.reverse]
  | c :: rest =>
      if isBlankChar c then
        if current.isEmpty then wordsFrom [] rest
        else current.reverse :: wordsFrom [] rest
      else
        wordsFrom (c :: current) rest

/-- The maximal runs of characters that are not blank, in order. -/
def wordsOf
    (text : List Char) :
    List (List Char) :=
  wordsFrom [] text

/--
What stands before and after the first character that satisfies `mark`, or
`none` when no character does.
-/
def splitFirst
    (mark : Char → Bool) :
    List Char →
    Option (List Char × List Char)
  | [] =>
      none
  | c :: rest =>
      if mark c then
        some ([], rest)
      else
        (splitFirst mark rest).map fun parts => (c :: parts.1, parts.2)

/-- Whether `needle` stands somewhere inside the text, without gaps. -/
def occursIn
    (needle : List Char) :
    List Char →
    Bool
  | [] =>
      needle.isEmpty
  | c :: rest =>
      needle.isPrefixOf (c :: rest) || occursIn needle rest

/--
The lines of a text.  A line ends at a line feed, and a carriage return right
before that line feed belongs to the ending.  No empty line follows the last
ending.  The line being read is kept in `current`, last character first.
-/
def linesFrom
    (current : List Char) :
    List Char →
    List (List Char)
  | [] =>
      if current.isEmpty then [] else [current.reverse]
  | c :: rest =>
      if c = '\n' then
        let line :=
          match current with
          | '\r' :: earlier => earlier
          | whole => whole
        line.reverse :: linesFrom [] rest
      else
        linesFrom (c :: current) rest

/-- A string without the blank characters at its ends. -/
def trim
    (text : String) :
    String :=
  String.ofList (trimChars text.toList)

/-- Whether a string holds blank characters only. -/
def isBlank
    (text : String) :
    Bool :=
  text.toList.all isBlankChar

def words
    (text : String) :
    List String :=
  (wordsOf text.toList).map String.ofList

def lines
    (text : String) :
    List String :=
  (linesFrom [] text.toList).map String.ofList

/-- A string with the ASCII capital letters made small and all else kept. -/
def lowerAscii
    (text : String) :
    String :=
  String.ofList (text.toList.map Char.toLower)

/-- Whether `needle` is a substring of `text`. -/
def contains
    (text needle : String) :
    Bool :=
  occursIn needle.toList text.toList

/-- A text filled up with spaces on its left to at least `width` characters. -/
def alignRight
    (width : Nat)
    (text : String) :
    String :=
  String.ofList (List.replicate (width - text.length) ' ') ++ text

/-- A text filled up with spaces on its right to at least `width` characters. -/
def alignLeft
    (width : Nat)
    (text : String) :
    String :=
  text ++ String.ofList (List.replicate (width - text.length) ' ')

end Fieldwork.Text
