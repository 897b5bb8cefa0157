import Fieldwork.Json.Basic
import Fieldwork.Number.Hexadecimal

namespace Fieldwork.Json

/-!
# Writing JSON values

Values are written without spaces.  Inside a text the quote, the backslash and
the control characters are escaped, the five common control characters by a
letter and the others by four hexadecimal digits; every other character stands
for itself.
-/

def escapeChar
    (c : Char) :
    List Char :=
  let code := c.toNat
  if code = 0x22 then ['\\', '"']
  else if code = 0x5C then ['\\', '\\']
  else if code = 0x08 then ['\\', 'b']
  else if code = 0x09 then ['\\', 't']
  else if code = 0x0A then ['\\', 'n']
  else if code = 0x0C then ['\\', 'f']
  else if code = 0x0D then ['\\', 'r']
  else if code < 0x20 then
    ['\\', 'u', '0', '0', hexDigit (code / 16), hexDigit (code % 16)]
  else [c]

def quote
    (text : String) :
    List Char :=
  '"' :: (text.toList.flatMap escapeChar ++ ['"'])

mutual

def written :
    Json →
    List Char
  | .null => ['n', 'u', 'l', 'l']
  | .bool true => ['t', 'r', 'u', 'e']
  | .bool false => ['f', 'a', 'l', 's', 'e']
  | .number value => value.text
  | .string value => quote value
  | .array items => '[' :: (writtenItems items ++ [']'])
  | .object fields => '\x7b' :: (writtenFields fields ++ ['\x7d'])

def writtenItems :
    List Json →
    List Char
  | [] => []
  | [item] => written item
  | item :: rest => written item ++ ',' :: writtenItems rest

def writtenFields :
    List (String × Json) →
    List Char
  | [] => []
  | [(name, value)] => quote name ++ ':' :: written value
  | (name, value) :: rest =>
      quote name ++ ':' :: (written value ++ ',' :: writtenFields rest)

end

def render
    (value : Json) :
    String :=
  String.ofList (written value)

end Fieldwork.Json
