import ModelRepositories.Json.Skip

/-!
A request of the host. It is read straight from its text: members are taken in the order in which
they stand there, a declared member may not be repeated, and undeclared ones are passed over.
-/

namespace ModelRepositories.Protocol

open Json

structure Request where
  method : String
  params : Value := .null
  id : Value

structure Draft where
  method : Option String := none
  params : Option Value := none
  id : Option Value := none

def recordName : String := "Request"

/-- A value that does not fit is read before it is refused, unless it is a list or an object. -/
def refuse {α : Type} (expected : Expected) (bound : Nat) (text : List Char) : Except Stop α :=
  match text with
  | '[' :: _ => stopBefore (.wrongType .sequence expected) text
  | '\x7b' :: _ => stopBefore (.wrongType .map expected) text
  | _ => do
    let (value, rest) ← readScalar bound text
    stopBefore (.wrongType value.found expected) rest

def readMethod (bound : Nat) (text : List Char) : Except Stop (String × List Char) :=
  match dropSpace text with
  | '"' :: rest => readText bound rest
  | rest => refuse .string bound rest

def readPayload (bound : Nat) (text : List Char) : Except Stop (Value × List Char) :=
  readValue bound (maxLevels - 1) text

/-- A repeated member is noticed behind its key; a brace that closes the object there is passed. -/
def refuseRepeated {α : Type} (key : String) (text : List Char) : Except Stop α :=
  stopBefore (.duplicateMember key) <|
    match dropSpace text with
    | '\x7d' :: rest => rest
    | rest => rest

def readMember (bound : Nat) (draft : Draft) (key : String) (text : List Char) :
    Except Stop (Draft × List Char) :=
  if key = "method" then
    if draft.method.isSome then refuseRepeated key text
    else do
      let (method, rest) ← readMethod bound (← readColon text)
      return ({ draft with method := some method }, rest)
  else if key = "params" then
    if draft.params.isSome then refuseRepeated key text
    else do
      let (params, rest) ← readPayload bound (← readColon text)
      return ({ draft with params := some params }, rest)
  else if key = "id" then
    if draft.id.isSome then refuseRepeated key text
    else do
      let (id, rest) ← readPayload bound (← readColon text)
      return ({ draft with id := some id }, rest)
  else do
    let (_, rest) ← skipValue bound (← readColon text)
    return (draft, rest)

def Draft.finish (draft : Draft) (rest : List Char) : Except Stop Request :=
  match draft.method, draft.id with
  | none, _ => stopBefore (.missingMember "method") rest
  | some _, none => stopBefore (.missingMember "id") rest
  | some method, some id => .ok ⟨method, draft.params.getD .null, id⟩

def closeList (text : List Char) : Except Stop (List Char) :=
  match dropSpace text with
  | [] => stopAt .endInList []
  | ']' :: rest => .ok rest
  | ',' :: rest =>
    match dropSpace rest with
    | ']' :: rest => stopAt .danglingComma (']' :: rest)
    | rest => stopAt .trailingText rest
  | rest => stopAt .trailingText rest

def expectItem (first : Bool) (count : Nat) (text : List Char) : Except Stop (List Char) := do
  match ← nextItem .keep first text with
  | .item rest => return rest
  | .done rest => stopBefore (.tooFewItems count recordName 3) rest

/-- The method, the parameters and the id; the parameters are only left out at the end. -/
def readList (bound : Nat) (text : List Char) : Except Stop (Request × List Char) := do
  let (method, rest) ← readMethod bound (← expectItem true 0 text)
  let (params, rest) ← readPayload bound (← expectItem false 2 rest)
  let (id, rest) ← readPayload bound (← expectItem false 2 rest)
  return (⟨method, params, id⟩, ← closeList rest)

def readRequest (bound : Nat) (text : List Char) : Except Stop (Request × List Char) :=
  match dropSpace text with
  | '\x7b' :: rest => do
    let (draft, rest) ←
      readMembers .keep (readText bound) (readMember bound) bound true {} rest
    return (← draft.finish rest, rest)
  | '[' :: rest => readList bound rest
  | rest => refuse (.record recordName) bound rest

def Request.parse (text : String) : Except Error Request :=
  readAll readRequest text

end ModelRepositories.Protocol
