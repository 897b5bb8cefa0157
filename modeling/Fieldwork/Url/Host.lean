import Fieldwork.Url.Label
import Fieldwork.Url.Percent

namespace Fieldwork.Url

/-!
# Hosts

The host of an address is a domain, whose letters are small and whose labels
are ASCII, or a numeric address.
-/

/-- Why a text is not an absolute address. -/
inductive Fault where
  | relative
  | emptyHost
  | badNumber
  | badIpv4
  | badIpv6
  | badDomain
  | badCharacter
  deriving DecidableEq, Repr

namespace Fault

def message :
    Fault →
    String
  | relative => "relative URL without a base"
  | emptyHost => "empty host"
  | badNumber => "invalid port number"
  | badIpv4 => "invalid IPv4 address"
  | badIpv6 => "invalid IPv6 address"
  | badDomain => "invalid international domain name"
  | badCharacter => "invalid domain character"

end Fault

/-- Whether a character may not stand in the host of any address. -/
def isForbiddenInHost
    (c : Char) :
    Bool :=
  c.toNat = 0 ||
    ['\t', '\n', '\r', ' ', '#', '/', ':', '<', '>', '?', '@', '[', '\\', ']', '^',
      '|'].contains c

/-- Whether a character may not stand in a domain. -/
def isForbiddenInDomain
    (c : Char) :
    Bool :=
  isForbiddenInHost c || c.toNat < 0x20 || c = '%' || c.toNat = 0x7F

def readBracketed
    (host : List Char) :
    Except Fault (List Char) :=
  match host.reverse with
  | ']' :: inner =>
      match readIpv6 inner.reverse with
      | some groups => .ok ('[' :: (ipv6Text groups ++ [']']))
      | none => .error .badIpv6
  | _ => .error .badIpv6

/-- A domain in ASCII, unless it has a character or a label that it may not have. -/
def asciiDomain?
    (domain : List Char) :
    Option (List Char) :=
  (mapDomain? domain).bind fun mapped =>
    let codes := Text.composed mapped
    if codes.any fun code => isForbiddenInDomain (Char.ofNat code) then none
    else
      (labelsOf? codes).map fun labels =>
        ['.'].intercalate (labels.map Label.written)

/-- A domain, which is a numeric address where it ends in a number. -/
def readDomain
    (host : List Char) :
    Except Fault (List Char) :=
  match (decode? host).bind asciiDomain? with
  | none => .error .badDomain
  | some domain =>
      if domain.isEmpty then .error .emptyHost
      else if endsInNumber domain then
        match readIpv4 domain with
        | some address => .ok (ipv4Text address)
        | none => .error .badIpv4
      else .ok domain

def readWebHost
    (host : List Char) :
    Except Fault (List Char) :=
  match host with
  | [] => .error .emptyHost
  | '[' :: inner => readBracketed inner
  | _ => readDomain host

/-- The host of any other address, which is only checked. -/
def checkForeignHost
    (host : List Char) :
    Except Fault Unit :=
  match host with
  | '[' :: inner => (readBracketed inner).map fun _ => ()
  | _ => if host.any isForbiddenInHost then .error .badCharacter else .ok ()

end Fieldwork.Url
