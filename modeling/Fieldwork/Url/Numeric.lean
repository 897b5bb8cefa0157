import Fieldwork.Number.Decimal
import Fieldwork.Number.Hexadecimal
import Fieldwork.Text.Blank

namespace Fieldwork.Url

/-!
# Numeric hosts

A host may be an address of the Internet Protocol: of version four, as one to
four numbers, or of version six, as groups of hexadecimal digits in brackets.
-/

/-- The parts of a text between the characters that satisfy a test. -/
def splitAll
    (mark : Char → Bool) :
    List Char →
    List (List Char)
  | [] => [[]]
  | c :: rest =>
      if mark c then
        [] :: splitAll mark rest
      else
        match splitAll mark rest with
        | [] => [[c]]
        | part :: parts => (c :: part) :: parts

def dotted
    (text : List Char) :
    List (List Char) :=
  splitAll (· = '.') text

/--
A number of an address: hexadecimal behind `0x`, octal behind a zero, and
decimal otherwise.  Nothing behind `0x` is zero.
-/
def readHostNumber :
    List Char →
    Option Nat
  | [] => none
  | '0' :: 'x' :: digits => naturalInBase? 16 digits
  | '0' :: 'X' :: digits => naturalInBase? 16 digits
  | '0' :: digit :: digits => naturalInBase? 8 (digit :: digits)
  | digits => naturalInBase? 10 digits

/-- Parts without an empty one at the end, which a final dot leaves. -/
def withoutFinalEmpty
    (parts : List (List Char)) :
    List (List Char) :=
  if parts.length ≠ 1 ∧ parts.getLast? = some [] then parts.dropLast else parts

/-- Whether the last part of a host is a number, so that all of it has to be. -/
def endsInNumber
    (host : List Char) :
    Bool :=
  match (withoutFinalEmpty (dotted host)).getLast? with
  | none => false
  | some last =>
      (!last.isEmpty && last.all isDigit) || (readHostNumber last).isSome

/--
The address that one to four numbers write: all but the last are one byte each,
and the last one fills what is left.
-/
def joinNumbers :
    (bytesLeft : Nat) →
    List Nat →
    Option Nat
  | _, [] => none
  | bytesLeft, [last] => if last < Nat.pow 256 bytesLeft then some last else none
  | bytesLeft, number :: rest =>
      if bytesLeft < 2 ∨ 255 < number then none
      else
        (joinNumbers (bytesLeft - 1) rest).map fun address =>
          number * Nat.pow 256 (bytesLeft - 1) + address

/-- An address of version four as the value of its four bytes. -/
def readIpv4
    (host : List Char) :
    Option Nat :=
  ((withoutFinalEmpty (dotted host)).mapM readHostNumber).bind (joinNumbers 4)

/-- The text of an address of version four. -/
def ipv4Text
    (address : Nat) :
    List Char :=
  (List.intersperse ['.']
    ([3, 2, 1, 0].map fun place => digitsOf (address / Nat.pow 256 place % 256))).flatten

/-- A byte of an address of version four inside one of version six. -/
def readPlainByte
    (digits : List Char) :
    Option Nat :=
  match digits with
  | ['0'] => some 0
  | '0' :: _ => none
  | [] => none
  | _ => if digits.length ≤ 3 then (naturalInBase? 10 digits).filter (· ≤ 255) else none

def readByteGroups
    (text : List Char) :
    Option (List Nat) :=
  match (dotted text).mapM readPlainByte with
  | some [a, b, c, d] => some [a * 256 + b, c * 256 + d]
  | _ => none

/-- One group of at most four hexadecimal digits. -/
def readGroup
    (digits : List Char) :
    Option Nat :=
  if digits.isEmpty || 4 < digits.length then none else naturalInBase? 16 digits

/-- Groups between colons; the last one may be written as four bytes. -/
def readGroupParts
    (bytesAllowed : Bool) :
    List (List Char) →
    Option (List Nat)
  | [] => some []
  | [last] =>
      if bytesAllowed && last.contains '.' then readByteGroups last
      else (readGroup last).map fun group => [group]
  | part :: rest =>
      match readGroup part, readGroupParts bytesAllowed rest with
      | some group, some groups => some (group :: groups)
      | _, _ => none

/-- Groups of a text, none where it is empty. -/
def readGroups
    (bytesAllowed : Bool)
    (text : List Char) :
    Option (List Nat) :=
  if text.isEmpty then some []
  else readGroupParts bytesAllowed (splitAll (· = ':') text)

/-- What stands before and after the first double colon. -/
def splitDoubleColon :
    List Char →
    Option (List Char × List Char)
  | ':' :: ':' :: rest => some ([], rest)
  | c :: rest => (splitDoubleColon rest).map fun parts => (c :: parts.1, parts.2)
  | [] => none

/--
The eight groups of an address of version six.  A double colon stands for one
zero group or more.
-/
def readIpv6
    (text : List Char) :
    Option (List Nat) :=
  match splitDoubleColon text with
  | none => (readGroups true text).filter fun groups => groups.length = 8
  | some (front, back) =>
      match readGroups false front, readGroups true back with
      | some front, some back =>
          if front.length + back.length < 8 then
            some (front ++ List.replicate (8 - front.length - back.length) 0 ++ back)
          else
            none
      | _, _ => none

/-- How many zeros a list of groups begins with. -/
def zerosAhead
    (groups : List Nat) :
    Nat :=
  (groups.takeWhile (· = 0)).length

/-- The first place of the longest run of zeros, and its length. -/
def longestZeros
    (groups : List Nat) :
    Nat × Nat :=
  (List.range groups.length).foldl
    (fun best place =>
      let length := zerosAhead (groups.drop place)
      if best.2 < length then (place, length) else best)
    (0, 0)

def groupText
    (group : Nat) :
    List Char :=
  Nat.toDigits 16 group

def groupsText
    (groups : List Nat) :
    List Char :=
  (List.intersperse [':'] (groups.map groupText)).flatten

/--
The text of an address of version six: the first of its longest runs of two
zero groups or more is written as a double colon.
-/
def ipv6Text
    (groups : List Nat) :
    List Char :=
  let (place, length) := longestZeros groups
  if length < 2 then groupsText groups
  else
    groupsText (groups.take place) ++ [':', ':'] ++
      groupsText (groups.drop (place + length))

/-- The loopback address. -/
example : (readIpv6 "::1".toList).map ipv6Text = some "::1".toList := by decide

/-- A number may stand for several bytes. -/
example : (readIpv4 "127.1".toList).map ipv4Text = some "127.0.0.1".toList := by decide

end Fieldwork.Url
