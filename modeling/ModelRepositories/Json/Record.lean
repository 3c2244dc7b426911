import ModelRepositories.Json.Fault

/-!
Reading a record out of a JSON value. A record is an object of named members or a list of the same
things in the order of their declaration. Members that are not declared are passed over; the first
member that does not fit is reported, and a missing one only if all that are there fit.
-/

namespace ModelRepositories.Json

abbrev Decoder (α : Type) := Value → Except Fault α

def mismatch {α : Type} (value : Value) (expected : Expected) : Except Fault α :=
  .error (.wrongType value.found expected)

def decodeText : Decoder String
  | .str text => .ok text
  | value => mismatch value .string

def decodeBool : Decoder Bool
  | .bool b => .ok b
  | value => mismatch value .boolean

def decodeList {α : Type} (item : Decoder α) : Decoder (List α)
  | .arr items => items.mapM item
  | value => mismatch value .sequence

def decodeMembers : Decoder Members
  | .obj members => .ok members
  | value => mismatch value .map

def decodeRaw : Decoder Value := .ok

def decodeOption {α : Type} (present : Decoder α) : Decoder (Option α)
  | .null => .ok none
  | value => some <$> present value

/-- A declared member of a record: where it is put in the record once it has been read. -/
structure Slot (σ : Type) where
  key : String
  required : Bool
  put : σ → Value → Except Fault σ

def Slot.require {σ α : Type} (key : String) (decode : Decoder α) (set : σ → α → σ) : Slot σ :=
  ⟨key, true, fun record value => set record <$> decode value⟩

def Slot.default {σ α : Type} (key : String) (decode : Decoder α) (set : σ → α → σ) : Slot σ :=
  ⟨key, false, fun record value => set record <$> decode value⟩

structure Record (σ : Type) where
  name : String
  blank : σ
  slots : List (Slot σ)

namespace Record

variable {σ : Type}

def visit (r : Record σ) (record : σ) (member : String × Value) : Except Fault σ :=
  match r.slots.find? (·.key == member.1) with
  | some slot => slot.put record member.2
  | none => .ok record

def missing? (r : Record σ) (members : Members) : Option (Slot σ) :=
  r.slots.find? fun slot => slot.required && (members.get? slot.key).isNone

def ofMembers (r : Record σ) (members : Members) : Except Fault σ := do
  let record ← members.foldlM r.visit r.blank
  match r.missing? members with
  | some slot => .error (.missingMember slot.key)
  | none => .ok record

def fill (r : Record σ) (index : Nat) (record : σ) : List (Slot σ) → List Value → Except Fault σ
  | [], _ => .ok record
  | slot :: slots, value :: values => do fill r (index + 1) (← slot.put record value) slots values
  | slot :: slots, [] =>
    if slot.required then .error (.tooFewItems index r.name r.slots.length)
    else fill r (index + 1) record slots []

def ofItems (r : Record σ) (items : List Value) : Except Fault σ := do
  let record ← r.fill 0 r.blank r.slots items
  if r.slots.length < items.length then .error (.tooManyItems items.length) else .ok record

def decode (r : Record σ) : Decoder σ
  | .obj members => r.ofMembers members
  | .arr items => r.ofItems items
  | value => mismatch value (.record r.name)

end Record

end ModelRepositories.Json
