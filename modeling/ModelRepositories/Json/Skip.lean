import ModelRepositories.Json.Reader

/-!
Passing over a JSON value that nobody asks for. Its form is checked, but it may nest to any depth,
its numbers may be out of range and its escapes need not denote characters.
-/

namespace ModelRepositories.Json

def skipEscape : List Char → Except Stop (List Char)
  | [] => stopAt .endInString []
  | 'u' :: rest => do return (← readHex rest).2
  | c :: rest =>
    if (shortEscape? c).isSome then .ok rest else stopAt .malformedEscape (c :: rest)

def skipCharacters : Nat → List Char → Except Stop (List Char)
  | 0, _ => stopAt .endInString []
  | _ + 1, [] => stopAt .endInString []
  | bound + 1, c :: rest =>
    if c = '"' then .ok rest
    else if c = '\\' then do skipCharacters bound (← skipEscape rest)
    else if c.toNat < 0x20 then stopBefore .controlCharacter (c :: rest)
    else skipCharacters bound rest

def skipText (bound : Nat) (text : List Char) : Except Stop (Unit × List Char) := do
  return ((), ← skipCharacters bound text)

def skipScalar (bound : Nat) : Reader Unit
  | 'n' :: rest => do return ((), ← readLetters ['u', 'l', 'l'] rest)
  | 't' :: rest => do return ((), ← readLetters ['r', 'u', 'e'] rest)
  | 'f' :: rest => do return ((), ← readLetters ['a', 'l', 's', 'e'] rest)
  | '"' :: rest => skipText bound rest
  | c :: rest =>
    if c = '-' ∨ isDigit c then do return ((), (← readNumeral .skip (c :: rest)).2)
    else stopAt .expectedValue (c :: rest)
  | [] => stopAt .endInValue []

/-- Each level takes a character too, so the bound is also one of the levels. -/
def skipNested (bound : Nat) : (levels : Nat) → Reader Unit
  | levels, text =>
    match dropSpace text, levels with
    | '[' :: rest, levels + 1 =>
      readItems .skip (fun _ rest => skipNested bound levels rest) bound true () rest
    | '\x7b' :: rest, levels + 1 =>
      let member (_ _ : Unit) (rest : List Char) := do
        skipNested bound levels (← readColon rest)
      readMembers .skip (skipText bound) member bound true () rest
    | text, _ => skipScalar bound text

def skipValue (bound : Nat) (text : List Char) : Except Stop (Unit × List Char) :=
  skipNested bound bound text

end ModelRepositories.Json
