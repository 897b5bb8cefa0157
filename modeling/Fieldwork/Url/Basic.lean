import Fieldwork.Url.Host

namespace Fieldwork

/-!
# Addresses

An absolute address begins with a scheme.  A web address has one written form:
the scheme and the host in small letters, no number behind the host where it is
the usual one, and a path without dot segments.  Of an address of another
scheme only the scheme is kept.
-/

structure WebAddress where
  secure : Bool
  /-- The name and the password of a user, with the sign that ends them. -/
  credentials : String
  host : String
  /-- The number behind the host, where it is not the usual one. -/
  number : Option Nat
  path : List String
  query : Option String
  fragment : Option String
  deriving DecidableEq, Repr

namespace WebAddress

def scheme
    (address : WebAddress) :
    String :=
  if address.secure then "https" else "http"

/-- The written form of a web address. -/
def text
    (address : WebAddress) :
    String :=
  address.scheme ++ "://" ++ address.credentials ++ address.host ++
    (match address.number with
      | some number => ":" ++ integerText number
      | none => "") ++
    String.join (address.path.map fun segment => "/" ++ segment) ++
    (match address.query with
      | some query => "?" ++ query
      | none => "") ++
    (match address.fragment with
      | some fragment => "#" ++ fragment
      | none => "")

end WebAddress

/-- An absolute address. -/
inductive Url where
  | web (address : WebAddress)
  | foreign (scheme : String)
  deriving DecidableEq, Repr

namespace Url

/-- Whether a character may stand in a scheme behind its first letter. -/
def isSchemeChar
    (c : Char) :
    Bool :=
  c.isAlphanum || c = '+' || c = '-' || c = '.'

/-- The scheme at the front in small letters, and what follows its colon. -/
def readScheme
    (text : List Char) :
    Option (String × List Char) :=
  match text.span isSchemeChar with
  | (letter :: rest, ':' :: after) =>
      if letter.isAlpha then
        some (String.ofList ((letter :: rest).map Char.toLower), after)
      else
        none
  | _ => none

/-- Control characters and spaces. -/
def isEdgeChar
    (c : Char) :
    Bool :=
  c.toNat ≤ 0x20

/-- A text as an address is read from it: without edges, tabs and line ends. -/
def cleaned
    (text : List Char) :
    List Char :=
  ((((text.dropWhile isEdgeChar).reverse.dropWhile isEdgeChar).reverse).filter
    fun c => c ≠ '\t' && c ≠ '\n' && c ≠ '\r')

/-- Whether a character ends the part of an address that names the host. -/
def endsAuthority
    (slashes : List Char)
    (c : Char) :
    Bool :=
  slashes.contains c || c = '?' || c = '#'

/-- What stands before and after the last at sign. -/
def splitUser
    (authority : List Char) :
    Option (List Char × List Char) :=
  (Text.splitFirst (· = '@') authority.reverse).map fun parts =>
    (parts.2.reverse, parts.1.reverse)

/-- The name and the password of a user, with the sign that ends them. -/
def userText
    (user : List Char) :
    List Char :=
  let (name, password) := (Text.splitFirst (· = ':') user).getD (user, [])
  let written :=
    name.flatMap (encodeChar userSet) ++
      (if password.isEmpty then [] else ':' :: password.flatMap (encodeChar userSet))
  if written.isEmpty then [] else written ++ ['@']

/-- The host and what follows it; a colon inside brackets belongs to the host. -/
def spanHost
    (bracketed : Bool) :
    List Char →
    List Char × List Char
  | [] => ([], [])
  | c :: rest =>
      if c = ':' && !bracketed then ([], c :: rest)
      else
        let (host, after) :=
          spanHost (if c = '[' then true else if c = ']' then false else bracketed) rest
        (c :: host, after)

/-- The number behind the colon that follows a host, if digits are there. -/
def readNumber
    (digits : List Char) :
    Except Fault (Option Nat) :=
  if !digits.all isDigit || 65535 < naturalOf digits then .error .badNumber
  else if digits.isEmpty then .ok none
  else .ok (some (naturalOf digits))

/-- The parts of an authority: user, host, and the number behind the host. -/
structure Authority where
  user : Option (List Char)
  host : List Char
  number : Option (List Char)

def splitAuthority
    (text : List Char) :
    Authority :=
  let (user, rest) :=
    match splitUser text with
    | some (user, rest) => (some user, rest)
    | none => (none, text)
  match spanHost false rest with
  | (host, _ :: digits) => ⟨user, host, some digits⟩
  | (host, []) => ⟨user, host, none⟩

/-- The number of an authority, which a backslash ends. -/
def Authority.readNumber?
    (authority : Authority) :
    Except Fault (Option Nat) :=
  match authority.number with
  | some digits => readNumber (digits.takeWhile (· ≠ '\\'))
  | none => .ok none

/-- The spellings of the segment that stays at its place. -/
def isSingleDot
    (segment : List Char) :
    Bool :=
  [".", "%2e"].contains (Text.lowerAscii (String.ofList segment))

/-- The spellings of the segment that goes one up. -/
def isDoubleDot
    (segment : List Char) :
    Bool :=
  ["..", "%2e%2e", "%2e.", ".%2e"].contains (Text.lowerAscii (String.ofList segment))

/--
The segments of a path, last one first, with dot segments carried out.  A dot
segment at the end leaves an empty segment there.
-/
def resolveSegments
    (done : List (List Char)) :
    List (List Char) →
    List (List Char)
  | [] => done
  | segment :: rest =>
      let kept :=
        if isDoubleDot segment then done.drop 1
        else if isSingleDot segment then done
        else segment :: done
      let isDots := isDoubleDot segment || isSingleDot segment
      if isDots && rest.isEmpty then [] :: kept
      else resolveSegments kept rest

/-- The path of a web address, in which a backslash is a slash. -/
def readPath
    (text : List Char) :
    List String :=
  let isSlash (c : Char) : Bool := c = '/' || c = '\\'
  let segments :=
    match splitAll isSlash text with
    | [] :: rest => if rest.isEmpty then [[]] else rest
    | parts => parts
  (resolveSegments []
    (segments.map fun segment => segment.flatMap (encodeChar pathSet))).reverse.map
      String.ofList

/-- The text before a mark, and the text behind it if the mark is there. -/
def cutAt
    (mark : Char)
    (text : List Char) :
    List Char × Option (List Char) :=
  match Text.splitFirst (· = mark) text with
  | some (before, after) => (before, some after)
  | none => (text, none)

/-- The web address that follows the slashes behind its scheme. -/
def readWeb
    (usual : Nat)
    (secure : Bool)
    (text : List Char) :
    Except Fault WebAddress :=
  let (authority, rest) := text.span fun c => !endsAuthority ['/', '\\'] c
  let parts := splitAuthority authority
  (readWebHost parts.host).bind fun host =>
    parts.readNumber?.map fun number =>
      let (beforeFragment, fragment) := cutAt '#' rest
      let (path, query) := cutAt '?' beforeFragment
      { secure
        credentials := String.ofList ((parts.user.map userText).getD [])
        host := String.ofList host
        number := number.filter (· ≠ usual)
        path := readPath path
        query :=
          query.map fun text => String.ofList (text.flatMap (encodeChar querySet))
        fragment :=
          fragment.map fun text => String.ofList (text.flatMap (encodeChar fragmentSet)) }

/-- Check the authority of an address that is no web address. -/
def checkForeign
    (text : List Char) :
    Except Fault Unit :=
  let (authority, rest) := text.span fun c => !endsAuthority ['/'] c
  let parts := splitAuthority authority
  if parts.host.isEmpty then
    if parts.number.isSome then .error .emptyHost
    else
      match parts.user with
      | none => .ok ()
      | some [] => if rest.isEmpty then .ok () else .error .emptyHost
      | some user => if (userText user).isEmpty then .ok () else .error .emptyHost
  else
    (checkForeignHost parts.host).bind fun _ => parts.readNumber?.map fun _ => ()

/-- A text without the slashes and backslashes at its front. -/
def withoutSlashes
    (text : List Char) :
    List Char :=
  text.dropWhile fun c => c = '/' || c = '\\'

/-- Whether a text names a drive: a letter with a colon or a bar behind it. -/
def isDrive :
    List Char →
    Bool
  | [letter, sign] => letter.isAlpha && (sign = ':' || sign = '|')
  | _ => false

/-- Check the host in the address of a file, which only two slashes announce. -/
def checkFile
    (text : List Char) :
    Except Fault Unit :=
  let isSlash (c : Char) : Bool := c = '/' || c = '\\'
  match text with
  | first :: second :: rest =>
      if isSlash first && isSlash second then
        let host := rest.takeWhile fun c => !endsAuthority ['/', '\\'] c
        if host.isEmpty || isDrive host then .ok ()
        else (readWebHost host).map fun _ => ()
      else
        .ok ()
  | _ => .ok ()

/-- An absolute address. -/
def read
    (text : String) :
    Except Fault Url :=
  match readScheme (cleaned text.toList) with
  | none => .error .relative
  | some (scheme, rest) =>
      match scheme with
      | "http" => (readWeb 80 false (withoutSlashes rest)).map .web
      | "https" => (readWeb 443 true (withoutSlashes rest)).map .web
      | "ftp" | "ws" | "wss" =>
          (readWeb 0 false (withoutSlashes rest)).map fun _ => .foreign scheme
      | "file" => (checkFile rest).map fun _ => .foreign scheme
      | _ =>
          match rest with
          | '/' :: '/' :: authority =>
              (checkForeign authority).map fun _ => .foreign scheme
          | _ => .ok (.foreign scheme)

end Url

end Fieldwork
