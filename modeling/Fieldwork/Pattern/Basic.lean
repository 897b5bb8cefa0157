import Fieldwork.Text.Property

namespace Fieldwork

/-!
# Patterns

A pattern matches a text when some part of the text, possibly empty, is one
that the pattern describes.  Which part is found plays no role, so the
difference between eager and reluctant repetition, and that between groups that
are numbered and those that are not, plays none either.  Assertions look at the
characters on both sides of a place.
-/

/-- An assertion about a place in a text. -/
inductive Pattern.Assertion where
  | textStart
  | textEnd
  | lineStart
  | lineEnd
  /-- Line starts where carriage returns end lines as well. -/
  | anyLineStart
  | anyLineEnd
  | wordEdge
  | notWordEdge
  | wordStart
  | wordEnd
  | noWordBefore
  | noWordAfter
  deriving DecidableEq, Repr

inductive Pattern where
  | empty
  /-- The given characters, one behind the other. -/
  | literal (chars : List Char)
  /-- One character of a set, which was read where all characters or only ASCII counts. -/
  | oneOf (ascii : Bool) (set : Text.CharSet)
  /-- An assertion, with words of all scripts or of ASCII only. -/
  | assert (assertion : Pattern.Assertion) (ascii : Bool)
  /-- A numbered group. -/
  | group (number : Nat) (body : Pattern)
  | sequence (first rest : Pattern)
  | either (first rest : Pattern)
  /-- At least `least` and at most `greatest` repetitions. -/
  | repeated (least : Nat) (greatest : Option Nat) (reluctant : Bool) (body : Pattern)
  deriving DecidableEq, Repr, Inhabited

namespace Pattern

/-- A place in a text: the character before it and the one after it. -/
structure Place where
  before : Option Char
  after : Option Char
  deriving DecidableEq, Repr

/-- Whether a character of a word stands on one side of a place. -/
def isWordSide
    (ascii : Bool)
    (side : Option Char) :
    Bool :=
  side.any fun c =>
    if ascii then c.isAlphanum || c == '_' else Text.wordChars.contains c

namespace Assertion

/-- Whether an assertion holds at a place. -/
def holds
    (assertion : Assertion)
    (ascii : Bool)
    (place : Place) :
    Bool :=
  let wordBefore := isWordSide ascii place.before
  let wordAfter := isWordSide ascii place.after
  match assertion with
  | textStart => place.before.isNone
  | textEnd => place.after.isNone
  | lineStart => place.before.all (· == '\n')
  | lineEnd => place.after.all (· == '\n')
  | anyLineStart =>
      place.before.all fun c =>
        c == '\n' || (c == '\r' && place.after != some '\n')
  | anyLineEnd =>
      place.after.all fun c =>
        c == '\r' || (c == '\n' && place.before != some '\r')
  | wordEdge => wordBefore != wordAfter
  | notWordEdge => wordBefore == wordAfter
  | wordStart => !wordBefore && wordAfter
  | wordEnd => wordBefore && !wordAfter
  | noWordBefore => !wordBefore
  | noWordAfter => !wordAfter

/-- Whether an assertion looks for words. -/
def isAboutWords :
    Assertion →
    Bool
  | wordEdge | notWordEdge | wordStart | wordEnd | noWordBefore | noWordAfter => true
  | _ => false

end Assertion

end Pattern

end Fieldwork
