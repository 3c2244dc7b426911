import ModelRepositories.Json.Fault

/-!
The steps of a JSON reader. A step takes the rest of the text and hands back what it read with the
new rest, or a `Stop`. Steps that keep a value and steps that skip one share these; where the two
differ in what they report, they say which of them they are with a `Care`.
-/

namespace ModelRepositories.Json

/-- Reading stopped `ahead` bytes into `rest`; past its end counts as the end. -/
structure Stop where
  fault : Fault
  rest : List Char
  ahead : Nat

abbrev Reader (α : Type) := List Char → Except Stop (α × List Char)

def stopAt {α : Type} (fault : Fault) (rest : List Char) : Except Stop α :=
  .error ⟨fault, rest, 1⟩

def stopBefore {α : Type} (fault : Fault) (rest : List Char) : Except Stop α :=
  .error ⟨fault, rest, 0⟩

def byteLength (text : List Char) : Nat :=
  text.foldl (fun n c => n + c.utf8Size) 0

/-- The position after the first `bytes` bytes of a text, which may fall inside a character. -/
def positionAfter (bytes : Nat) (text : List Char) (start : Position) : Position :=
  match text with
  | [] => start
  | c :: rest =>
    if bytes = 0 then start
    else
      positionAfter (bytes - c.utf8Size) rest
        (if c = '\n' then ⟨start.line + 1, 0⟩
         else ⟨start.line, start.column + min bytes c.utf8Size⟩)

def Stop.toError (text : List Char) (stop : Stop) : Error :=
  let length := byteLength text
  let bytes := min length (length - byteLength stop.rest + stop.ahead)
  ⟨stop.fault, some (positionAfter bytes text ⟨1, 0⟩)⟩

def isSpace (c : Char) : Bool :=
  c == ' ' || c == '\t' || c == '\n' || c == '\r'

def dropSpace (text : List Char) : List Char :=
  text.dropWhile isSpace

def readLetters : List Char → List Char → Except Stop (List Char)
  | [], text => .ok text
  | _ :: _, [] => stopAt .endInValue []
  | letter :: letters, c :: rest =>
    if c = letter then readLetters letters rest else stopAt .expectedLiteral (c :: rest)

/-- Whether a value is read to be kept or only to be passed over. -/
inductive Care
  | keep
  | skip
  deriving DecidableEq

inductive Next
  | item (rest : List Char)
  | done (rest : List Char)

def nextItem (care : Care) (first : Bool) (text : List Char) : Except Stop Next :=
  match dropSpace text with
  | [] => stopAt .endInList []
  | ']' :: rest => .ok (.done rest)
  | c :: rest =>
    if first then .ok (.item (c :: rest))
    else if c = ',' then
      match dropSpace rest with
      | [] => stopAt .endInValue []
      | ']' :: rest => stopAt (if care = .keep then .danglingComma else .expectedValue) (']' :: rest)
      | rest => .ok (.item rest)
    else stopAt .expectedCommaOrBracket (c :: rest)

def nextKey (care : Care) (first : Bool) (text : List Char) : Except Stop Next :=
  match dropSpace text with
  | [] => stopAt .endInObject []
  | '\x7d' :: rest => .ok (.done rest)
  | c :: rest =>
    if first then
      if c = '"' then .ok (.item rest) else stopAt .expectedKey (c :: rest)
    else if c = ',' then
      match dropSpace rest with
      | [] => stopAt (if care = .keep then .endInValue else .endInObject) []
      | '"' :: rest => .ok (.item rest)
      | '\x7d' :: rest =>
        stopAt (if care = .keep then .danglingComma else .expectedKey) ('\x7d' :: rest)
      | rest => stopAt .expectedKey rest
    else stopAt .expectedCommaOrBrace (c :: rest)

def readColon (text : List Char) : Except Stop (List Char) :=
  match dropSpace text with
  | [] => stopAt .endInObject []
  | ':' :: rest => .ok rest
  | rest => stopAt .expectedColon rest

def readItems {σ : Type} (care : Care) (item : σ → Reader σ) : Nat → Bool → σ → Reader σ
  | 0, _, _, _ => stopAt .endInList []
  | bound + 1, first, state, text => do
    match ← nextItem care first text with
    | .done rest => return (state, rest)
    | .item rest =>
      let (state, rest) ← item state rest
      readItems care item bound false state rest

def readMembers {σ κ : Type} (care : Care) (key : Reader κ) (member : σ → κ → Reader σ) :
    Nat → Bool → σ → Reader σ
  | 0, _, _, _ => stopAt .endInObject []
  | bound + 1, first, state, text => do
    match ← nextKey care first text with
    | .done rest => return (state, rest)
    | .item rest =>
      let (k, rest) ← key rest
      let (state, rest) ← member state k rest
      readMembers care key member bound false state rest

end ModelRepositories.Json
