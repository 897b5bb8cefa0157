import Fieldwork.Number.Hexadecimal

namespace Fieldwork

/-!
# Keys of requests

A key is made of sixteen random bytes.  Six of their bits are fixed, which
marks the key as a random one of its standard.
-/

namespace CompletionKey

def byteDigits
    (byte : UInt8) :
    List Char :=
  [hexDigit (byte.toNat / 16), hexDigit (byte.toNat % 16)]

/-- The byte at a place with its fixed bits set. -/
def marked
    (place : Nat)
    (byte : UInt8) :
    UInt8 :=
  if place = 6 then byte % 16 + 0x40
  else if place = 8 then byte % 64 + 0x80
  else byte

/-- The dash that stands before the byte at a place. -/
def dashBefore
    (place : Nat) :
    List Char :=
  if [4, 6, 8, 10].contains place then ['-'] else []

/-- The text of a key: five groups of digits between dashes. -/
def ofBytes
    (bytes : List UInt8) :
    String :=
  String.ofList
    ((bytes.zipIdx.map fun (byte, place) =>
      dashBefore place ++ byteDigits (marked place byte)).flatten)

/-- The key of sixteen zero bytes. -/
example :
    ofBytes (List.replicate 16 0) = "00000000-0000-4000-8000-000000000000" := by
  decide

end CompletionKey

end Fieldwork
