import ModelRepositories.Json.Numeral

/-!
Reading a JSON text as a value. Lists and objects nest less than 128 deep; of members with the same
key the last one counts. Every turn of a loop takes a character of the text, so the loops are given
a `bound` that is more than the number of characters that are left.
-/

namespace ModelRepositories.Json

def hexValue? (c : Char) : Option Nat :=
  if isDigit c then some (digitValue c)
  else if decide ('a' ≤ c) && decide (c ≤ 'f') then some (c.toNat - 87)
  else if decide ('A' ≤ c) && decide (c ≤ 'F') then some (c.toNat - 55)
  else none

/-- Four hexadecimal digits; the text is asked for four bytes before they are looked at. -/
def readHex (text : List Char) : Except Stop (Nat × List Char) :=
  match text with
  | a :: b :: c :: d :: rest =>
    match hexValue? a, hexValue? b, hexValue? c, hexValue? d with
    | some a, some b, some c, some d => .ok (((a * 16 + b) * 16 + c) * 16 + d, rest)
    | _, _, _, _ => .error ⟨.malformedEscape, text, 4⟩
  | _ =>
    if byteLength text < 4 then stopAt .endInString []
    else .error ⟨.malformedEscape, text, 4⟩

def isHighSurrogate (n : Nat) : Bool :=
  decide (0xD800 ≤ n) && decide (n ≤ 0xDBFF)

def isLowSurrogate (n : Nat) : Bool :=
  decide (0xDC00 ≤ n) && decide (n ≤ 0xDFFF)

def readLowSurrogate (high : Nat) : Reader Char
  | '\\' :: 'u' :: rest => do
    let (low, rest) ← readHex rest
    if isLowSurrogate low then
      return (Char.ofNat (0x10000 + (high - 0xD800) * 0x400 + (low - 0xDC00)), rest)
    else stopBefore .loneSurrogate rest
  | '\\' :: c :: rest => stopAt .missingSurrogate (c :: rest)
  | [] => stopAt .endInString []
  | ['\\'] => stopAt .endInString []
  | rest => stopAt .missingSurrogate rest

def readCodePoint (text : List Char) : Except Stop (Char × List Char) := do
  let (n, rest) ← readHex text
  if isLowSurrogate n then stopBefore .loneSurrogate rest
  else if isHighSurrogate n then readLowSurrogate n rest
  else return (Char.ofNat n, rest)

def shortEscape? : Char → Option Char
  | '"' => some '"'
  | '\\' => some '\\'
  | '/' => some '/'
  | 'b' => some '\x08'
  | 'f' => some '\x0c'
  | 'n' => some '\n'
  | 'r' => some '\r'
  | 't' => some '\t'
  | _ => none

def readEscape : Reader Char
  | [] => stopAt .endInString []
  | 'u' :: rest => readCodePoint rest
  | c :: rest =>
    match shortEscape? c with
    | some meant => .ok (meant, rest)
    | none => stopAt .malformedEscape (c :: rest)

def readCharacters : Nat → Reader (List Char)
  | 0, _ => stopAt .endInString []
  | _ + 1, [] => stopAt .endInString []
  | bound + 1, c :: rest =>
    if c = '"' then .ok ([], rest)
    else if c = '\\' then do
      let (meant, rest) ← readEscape rest
      let (others, rest) ← readCharacters bound rest
      return (meant :: others, rest)
    else if c.toNat < 0x20 then stopAt .controlCharacter (c :: rest)
    else do
      let (others, rest) ← readCharacters bound rest
      return (c :: others, rest)

def readText (bound : Nat) (text : List Char) : Except Stop (String × List Char) := do
  let (characters, rest) ← readCharacters bound text
  return (String.ofList characters, rest)

def readScalar (bound : Nat) : Reader Value
  | 'n' :: rest => do return (.null, ← readLetters ['u', 'l', 'l'] rest)
  | 't' :: rest => do return (.bool true, ← readLetters ['r', 'u', 'e'] rest)
  | 'f' :: rest => do return (.bool false, ← readLetters ['a', 'l', 's', 'e'] rest)
  | '"' :: rest => do
    let (text, rest) ← readText bound rest
    return (.str text, rest)
  | c :: rest =>
    if c = '-' ∨ isDigit c then do
      let (numeral, rest) ← readNumeral .keep (c :: rest)
      return (← numeral.value rest, rest)
    else stopAt .expectedValue (c :: rest)
  | [] => stopAt .endInValue []

/-- One value; a list or object is refused once `levels` others are open around it. -/
def readValue (bound : Nat) : (levels : Nat) → Reader Value
  | levels, text =>
    match dropSpace text, levels with
    | '[' :: rest, levels + 1 => do
      let item (items : List Value) (rest : List Char) := do
        let (value, rest) ← readValue bound levels rest
        return (value :: items, rest)
      let (items, rest) ← readItems .keep item bound true [] rest
      return (.arr items.reverse, rest)
    | '\x7b' :: rest, levels + 1 => do
      let member (members : Members) (key : String) (rest : List Char) := do
        let (value, rest) ← readValue bound levels (← readColon rest)
        return (Members.put key value members, rest)
      let (members, rest) ← readMembers .keep (readText bound) member bound true [] rest
      return (.obj members, rest)
    | '[' :: rest, 0 => stopAt .nestedTooDeep ('[' :: rest)
    | '\x7b' :: rest, 0 => stopAt .nestedTooDeep ('\x7b' :: rest)
    | text, _ => readScalar bound text

def maxLevels : Nat := 127

def readAll {α : Type} (read : (bound : Nat) → Reader α) (text : String) : Except Error α :=
  let characters := text.toList
  let outcome := do
    let (a, rest) ← read (characters.length + 1) characters
    match dropSpace rest with
    | [] => return a
    | rest => stopAt .trailingText rest
  outcome.mapError (Stop.toError characters)

def parse (text : String) : Except Error Value :=
  readAll (readValue · maxLevels) text

end ModelRepositories.Json
