import Fieldwork.Number.Hexadecimal

namespace Fieldwork.Url

/-!
# Percent encoding

A byte is written as a percent sign and two hexadecimal digits in capital
letters.  Which characters are encoded depends on the part of an address that
they stand in; characters beyond ASCII and control characters always are.
-/

/-- A hexadecimal digit as a capital letter. -/
def capitalDigit
    (value : Nat) :
    Char :=
  (hexDigit value).toUpper

def encodeByte
    (byte : UInt8) :
    List Char :=
  ['%', capitalDigit (byte.toNat / 16), capitalDigit (byte.toNat % 16)]

def bytesOf
    (c : Char) :
    List UInt8 :=
  (String.singleton c).toUTF8.toList

/-- A character as it stands in a part where the listed characters are encoded. -/
def encodeChar
    (encoded : List Char)
    (c : Char) :
    List Char :=
  if c.toNat < 0x20 || 0x7E < c.toNat || encoded.contains c then
    (bytesOf c).flatMap encodeByte
  else
    [c]

def fragmentSet : List Char :=
  [' ', '"', '<', '>', '`']

/-- What is encoded in a query of a web address. -/
def querySet : List Char :=
  [' ', '"', '#', '<', '>', '\'']

def pathSet : List Char :=
  fragmentSet ++ ['#', '?', '^', '\x7b', '\x7d']

/-- What is encoded in the name and the password of a user. -/
def userSet : List Char :=
  pathSet ++ ['/', ':', ';', '=', '@', '[', '\\', ']', '|']

/--
The bytes of a text whose percent signs are read where two hexadecimal digits
follow them.
-/
def decodedBytes :
    List Char →
    List UInt8
  | '%' :: high :: low :: rest =>
      match hexValue? high, hexValue? low with
      | some first, some second =>
          (first * 16 + second).toUInt8 :: decodedBytes rest
      | _, _ => bytesOf '%' ++ decodedBytes (high :: low :: rest)
  | c :: rest => bytesOf c ++ decodedBytes rest
  | [] => []
termination_by text => text.length

/-- The text that is percent-encoded, if its bytes are characters. -/
def decode?
    (text : List Char) :
    Option (List Char) :=
  (String.fromUTF8? ⟨(decodedBytes text).toArray⟩).map String.toList

end Fieldwork.Url
