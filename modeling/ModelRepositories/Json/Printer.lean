import ModelRepositories.Json.Fault

/-!
Compact JSON: no blanks, members in the order of the value, and in a text only the quote, the
backslash and the control characters below U+0020 are escaped.
-/

namespace ModelRepositories.Json

def escapeChar (c : Char) : List Char :=
  if c = '"' then ['\\', '"']
  else if c = '\\' then ['\\', '\\']
  else if c = '\x08' then ['\\', 'b']
  else if c = '\t' then ['\\', 't']
  else if c = '\n' then ['\\', 'n']
  else if c = '\x0c' then ['\\', 'f']
  else if c = '\r' then ['\\', 'r']
  else if c.toNat < 0x20 then
    ['\\', 'u', '0', '0', Text.hexDigit (c.toNat / 16), Text.hexDigit (c.toNat % 16)]
  else [c]

def printText (text : String) : List Char :=
  '"' :: text.toList.flatMap escapeChar ++ ['"']

/-- JSON has no numeral for a double that is not finite. -/
def printFloat (x : Float) : List Char :=
  if x.isFinite then (numberLayout.floatText x).toList else ['n', 'u', 'l', 'l']

mutual

def printValue : Value → List Char
  | .null => ['n', 'u', 'l', 'l']
  | .bool true => ['t', 'r', 'u', 'e']
  | .bool false => ['f', 'a', 'l', 's', 'e']
  | .int n => (toString n).toList
  | .float x => printFloat x
  | .str text => printText text
  | .arr [] => ['[', ']']
  | .arr (item :: items) => '[' :: printValue item ++ printItems items
  | .obj [] => ['\x7b', '\x7d']
  | .obj ((key, value) :: members) =>
    '\x7b' :: printText key ++ ':' :: printValue value ++ printMembers members

def printItems : List Value → List Char
  | [] => [']']
  | item :: items => ',' :: printValue item ++ printItems items

def printMembers : List (String × Value) → List Char
  | [] => ['\x7d']
  | (key, value) :: members =>
    ',' :: printText key ++ ':' :: printValue value ++ printMembers members

end

def print (value : Value) : String :=
  String.ofList (printValue value)

end ModelRepositories.Json
