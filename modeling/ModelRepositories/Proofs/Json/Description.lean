import Mathlib.Data.List.Forall2
import Mathlib.Data.List.Nodup
import ModelRepositories.Proofs.Json.Stored

/-!
What values say, apart from any reader. A description relates a value to the content that it stands
for. A record is described part by part; in which order an object has its members plays no role.
A reader of a record goes through the members as they come, so its slots must not disturb each
other.
-/

namespace ModelRepositories.Json

/-- No object in the value has two members of one key. -/
inductive Distinct : Value → Prop
  | null : Distinct .null
  | bool (b : Bool) : Distinct (.bool b)
  | int (n : Int) : Distinct (.int n)
  | float (x : Float) : Distinct (.float x)
  | str (text : String) : Distinct (.str text)
  | arr {items : List Value} (parts : ∀ item ∈ items, Distinct item) : Distinct (.arr items)
  | obj {members : Members} (keys : (members.map Prod.fst).Nodup)
    (parts : ∀ member ∈ members, Distinct member.2) : Distinct (.obj members)

abbrev Description (α : Type) := Value → α → Prop

inductive DescribesText : Description String
  | text (text : String) : DescribesText (.str text) text

inductive DescribesFlag : Description Bool
  | flag (b : Bool) : DescribesFlag (.bool b) b

inductive DescribesList {α : Type} (item : Description α) : Description (List α)
  | list {items : List Value} {list : List α} (itemwise : List.Forall₂ item items list) :
    DescribesList item (.arr items) list

/-- Null stands for nothing at all. -/
inductive DescribesOption {α : Type} (describes : Description α) : Description (Option α)
  | null : DescribesOption describes .null none
  | present {value : Value} {a : α} (described : describes value a) :
    DescribesOption describes value (some a)

inductive Required {α : Type} (describes : Description α) : Option Value → α → Prop
  | present {value : Value} {a : α} (described : describes value a) :
    Required describes (some value) a

inductive Defaulted {α : Type} (describes : Description α) (blank : α) : Option Value → α → Prop
  | present {value : Value} {a : α} (described : describes value a) :
    Defaulted describes blank (some value) a
  | absent : Defaulted describes blank none blank

/-- An object, or a list that is not longer than the declaration. -/
inductive Shaped (keys : List String) : Value → Prop
  | object (members : Members) : Shaped keys (.obj members)
  | list {items : List Value} (fits : items.length ≤ keys.length) : Shaped keys (.arr items)

/-- The part of a value that is declared under a key: the member of that key, or the item that
stands where the key stands in the declaration. -/
def declaredPart (keys : List String) : Value → String → Option Value
  | .obj members, key => Members.get? key members
  | .arr items, key => items[keys.idxOf key]?
  | _, _ => none

/-- A record is what its parts say. -/
def DescribesRecord {σ : Type} (keys : List String)
    (describes : (String → Option Value) → σ → Prop) : Description σ :=
  fun value record => Shaped keys value ∧ describes (declaredPart keys value) record

/-- A reader accepts what the description allows, and reads what is described. -/
def Matches {α : Type} (decode : Decoder α) (describes : Description α) : Prop :=
  ∀ value, Distinct value → ∀ a, decode value = .ok a ↔ describes value a

theorem Stored.distinct {levels : Nat} {value : Value} (stored : Stored levels value) :
    Distinct value := by
  induction stored with
  | null => exact .null
  | bool b => exact .bool b
  | int exact => exact .int _
  | float x => exact .float x
  | str text => exact .str text
  | arr stored ih => exact .arr ih
  | obj sorted stored ih =>
    refine .obj ?_ ih
    apply List.pairwise_map.mpr
    apply sorted.imp
    intro left right before same
    rw [same] at before
    exact String.lt_irrefl _ before

theorem distinct_parse {text : String} {value : Value} (read : parse text = .ok value) :
    Distinct value :=
  (stored_parse read).distinct

theorem Distinct.items {items : List Value} (distinct : Distinct (.arr items)) :
    ∀ item ∈ items, Distinct item := by
  cases distinct with
  | arr parts => exact parts

theorem Distinct.keys {members : Members} (distinct : Distinct (.obj members)) :
    (members.map Prod.fst).Nodup := by
  cases distinct with
  | obj keys parts => exact keys

theorem Distinct.part {value part : Value} (distinct : Distinct value) {keys : List String}
    {key : String} (found : declaredPart keys value key = some part) : Distinct part := by
  cases distinct with
  | arr parts => exact parts part (List.mem_of_getElem? found)
  | obj _ parts =>
    obtain ⟨before, after, whole, -⟩ := List.lookup_eq_some_iff.mp found
    exact parts (key, part) (by simp [whole])
  | _ => cases found

theorem not_describesRecord_null {σ : Type} {keys : List String}
    {describes : (String → Option Value) → σ → Prop} (record : σ) :
    ¬ DescribesRecord keys describes .null record := by
  rintro ⟨shaped, -⟩
  cases shaped

section Parts

variable {α : Type} {decode : Decoder α} {describes : Description α}

theorem matches_text : Matches decodeText DescribesText := by
  intro value distinct text
  constructor
  · intro read
    cases value with
    | str given =>
      cases read
      exact .text _
    | _ => cases read
  · rintro ⟨given⟩
    rfl

theorem matches_flag : Matches decodeBool DescribesFlag := by
  intro value distinct b
  constructor
  · intro read
    cases value with
    | bool given =>
      cases read
      exact .flag _
    | _ => cases read
  · rintro ⟨given⟩
    rfl

theorem mapM_eq_ok_iff (matched : Matches decode describes) {items : List Value}
    (distinct : ∀ item ∈ items, Distinct item) (list : List α) :
    items.mapM decode = .ok list ↔ List.Forall₂ describes items list := by
  induction items generalizing list with
  | nil =>
    rw [List.mapM_nil, List.forall₂_nil_left_iff]
    exact ⟨fun read => (Except.ok.inj read).symm, fun empty => empty ▸ rfl⟩
  | cons item items ih =>
    have first := matched item (distinct item List.mem_cons_self)
    have rest := ih fun other member => distinct other (List.mem_cons_of_mem item member)
    rw [List.mapM_cons, bind_eq_ok, List.forall₂_cons_left_iff]
    constructor
    · rintro ⟨a, read, others⟩
      obtain ⟨as, later, same⟩ := bind_eq_ok.mp others
      cases same
      exact ⟨a, as, (first a).mp read, (rest as).mp later, rfl⟩
    · rintro ⟨a, as, described, later, rfl⟩
      exact ⟨a, (first a).mpr described, bind_eq_ok.mpr ⟨as, (rest as).mpr later, rfl⟩⟩

theorem matches_list (matched : Matches decode describes) :
    Matches (decodeList decode) (DescribesList describes) := by
  intro value distinct list
  constructor
  · intro read
    cases value with
    | arr items => exact .list ((mapM_eq_ok_iff matched distinct.items list).mp read)
    | _ => cases read
  · rintro ⟨itemwise⟩
    exact (mapM_eq_ok_iff matched distinct.items list).mpr itemwise

theorem decodeOption_of_ne_null {value : Value} (present : value ≠ .null) :
    decodeOption decode value = Option.some <$> decode value := by
  cases value with
  | null => exact absurd rfl present
  | _ => rfl

theorem matches_option (matched : Matches decode describes) (bare : ∀ a, ¬ describes .null a) :
    Matches (decodeOption decode) (DescribesOption describes) := by
  intro value distinct a?
  constructor
  · intro read
    by_cases null : value = .null
    · subst null
      cases read
      exact .null
    · rw [decodeOption_of_ne_null null, map_eq_ok] at read
      obtain ⟨a, read, rfl⟩ := read
      exact .present ((matched value distinct a).mp read)
  · rintro (_ | described)
    · rfl
    · next a =>
      have present : value ≠ .null := by
        rintro rfl
        exact bare a described
      rw [decodeOption_of_ne_null present, map_eq_ok]
      exact ⟨a, (matched value distinct a).mpr described, rfl⟩

end Parts

section Slots

variable {σ α β : Type}

namespace Slot

def Commutes (first second : Slot σ) : Prop :=
  ∀ record value other after,
    (∃ between, first.put record value = .ok between ∧ second.put between other = .ok after) ↔
      ∃ between, second.put record other = .ok between ∧ first.put between value = .ok after

theorem commutes_of_put {first second : Slot σ} {decodeFirst : Decoder α}
    {decodeSecond : Decoder β} {set : σ → α → σ} {setOther : σ → β → σ}
    (put : first.put = fun record value => set record <$> decodeFirst value)
    (putOther : second.put = fun record value => setOther record <$> decodeSecond value)
    (apart : ∀ record a b, setOther (set record a) b = set (setOther record b) a) :
    first.Commutes second := by
  intro record value other after
  simp only [put, putOther, map_eq_ok]
  constructor
  · rintro ⟨_, ⟨a, read, rfl⟩, b, later, rfl⟩
    exact ⟨_, ⟨b, later, rfl⟩, a, read, (apart record a b).symm⟩
  · rintro ⟨_, ⟨b, later, rfl⟩, a, read, rfl⟩
    exact ⟨_, ⟨a, read, rfl⟩, b, later, apart record a b⟩

def Takes (slot : Slot σ) (part : Option Value) (record after : σ) : Prop :=
  match part with
  | some value => slot.put record value = .ok after
  | none => after = record

end Slot

namespace Record

variable {r : Record σ} {slot : Slot σ} {slots : List (Slot σ)}

structure Lawful (r : Record σ) : Prop where
  distinct : (r.slots.map (·.key)).Nodup
  commutes : r.slots.Pairwise Slot.Commutes

def Filled (part : String → Option Value) : List (Slot σ) → σ → σ → Prop
  | [], record, after => after = record
  | slot :: slots, record, after =>
    (slot.required = true → (part slot.key).isSome = true) ∧
      ∃ between, slot.Takes (part slot.key) record between ∧ Filled part slots between after

def visitWith (slots : List (Slot σ)) (record : σ) (member : String × Value) : Except Fault σ :=
  match slots.find? (·.key == member.1) with
  | some slot => slot.put record member.2
  | none => .ok record

theorem visit_eq (r : Record σ) : r.visit = visitWith r.slots := rfl

theorem visitWith_here (slot : Slot σ) (slots : List (Slot σ)) (record : σ) (value : Value) :
    visitWith (slot :: slots) record (slot.key, value) = slot.put record value := by
  rw [visitWith, List.find?_cons_of_pos (by simp)]

theorem visitWith_away {key : String} (away : slot.key ≠ key) (record : σ) (value : Value) :
    visitWith (slot :: slots) record (key, value) = visitWith slots record (key, value) := by
  rw [visitWith, visitWith, List.find?_cons_of_neg (by simp [away])]

theorem visitWith_undeclared {key : String} (free : key ∉ slots.map (·.key)) (record : σ)
    (value : Value) : visitWith slots record (key, value) = .ok record := by
  have undeclared : slots.find? (·.key == key) = none := by
    apply List.find?_eq_none.mpr
    intro slot member same
    exact free (List.mem_map.mpr ⟨slot, member, by simpa using same⟩)
  rw [visitWith, undeclared]

theorem foldlM_visitWith_away {members : Members} (absent : slot.key ∉ members.map Prod.fst)
    (record : σ) :
    members.foldlM (visitWith (slot :: slots)) record =
      members.foldlM (visitWith slots) record := by
  induction members generalizing record with
  | nil => rfl
  | cons member members ih =>
    obtain ⟨key, value⟩ := member
    obtain ⟨away, absent⟩ := not_or.mp (mt List.mem_cons.mpr absent)
    rw [List.foldlM_cons, List.foldlM_cons, visitWith_away away]
    exact bind_congr fun visited => ih absent visited

theorem takes_visitWith (commutes : ∀ other ∈ slots, slot.Commutes other) (part : Option Value)
    (record after : σ) (member : String × Value) :
    (∃ between, visitWith slots record member = .ok between ∧ slot.Takes part between after) ↔
      ∃ between, slot.Takes part record between ∧ visitWith slots between member = .ok after := by
  cases found : slots.find? (·.key == member.1) with
  | none =>
    simp only [visitWith, found, Except.ok.injEq]
    constructor
    · rintro ⟨_, rfl, taken⟩
      exact ⟨after, taken, rfl⟩
    · rintro ⟨_, taken, rfl⟩
      exact ⟨record, rfl, taken⟩
  | some other =>
    simp only [visitWith, found]
    cases part with
    | none =>
      constructor
      · rintro ⟨_, visited, rfl⟩
        exact ⟨record, rfl, visited⟩
      · rintro ⟨_, rfl, visited⟩
        exact ⟨after, visited, rfl⟩
    | some value =>
      exact (commutes other (List.mem_of_find?_eq_some found) record value member.2 after).symm

/-- Whatever the order of the members is, the first slot may be filled before all others. -/
theorem foldlM_visitWith_first (free : slot.key ∉ slots.map (·.key))
    (commutes : ∀ other ∈ slots, slot.Commutes other) {members : Members}
    (distinct : (members.map Prod.fst).Nodup) (record after : σ) :
    members.foldlM (visitWith (slot :: slots)) record = .ok after ↔
      ∃ between, slot.Takes (Members.get? slot.key members) record between ∧
        members.foldlM (visitWith slots) between = .ok after := by
  induction members generalizing record with
  | nil =>
    constructor
    · intro same
      exact ⟨record, rfl, same⟩
    · rintro ⟨_, rfl, same⟩
      exact same
  | cons member members ih =>
    obtain ⟨key, value⟩ := member
    obtain ⟨fresh, distinct⟩ := List.nodup_cons.mp distinct
    rw [Members.get?_cons]
    by_cases here : slot.key = key
    · subst here
      simp only [List.foldlM_cons, visitWith_here, visitWith_undeclared free,
        foldlM_visitWith_away fresh, if_pos, bind_eq_ok, Except.ok.injEq, exists_eq_left',
        Slot.Takes]
    · rw [if_neg here, List.foldlM_cons, visitWith_away here, bind_eq_ok]
      -- The member is for another slot, and the two change places.
      calc
        (∃ visited, visitWith slots record (key, value) = .ok visited ∧
            members.foldlM (visitWith (slot :: slots)) visited = .ok after) ↔
          ∃ visited, visitWith slots record (key, value) = .ok visited ∧
            ∃ between, slot.Takes (Members.get? slot.key members) visited between ∧
              members.foldlM (visitWith slots) between = .ok after := by
          simp only [ih distinct]
        _ ↔ ∃ between,
            (∃ visited, visitWith slots record (key, value) = .ok visited ∧
              slot.Takes (Members.get? slot.key members) visited between) ∧
            members.foldlM (visitWith slots) between = .ok after := by
          grind
        _ ↔ ∃ between,
            (∃ taken, slot.Takes (Members.get? slot.key members) record taken ∧
              visitWith slots taken (key, value) = .ok between) ∧
            members.foldlM (visitWith slots) between = .ok after := by
          simp only [takes_visitWith commutes]
        _ ↔ ∃ taken, slot.Takes (Members.get? slot.key members) record taken ∧
            ((key, value) :: members).foldlM (visitWith slots) taken = .ok after := by
          simp only [List.foldlM_cons, bind_eq_ok]
          grind

theorem foldlM_visitWith_iff (distinct : (slots.map (·.key)).Nodup)
    (commutes : slots.Pairwise Slot.Commutes) {members : Members}
    (keys : (members.map Prod.fst).Nodup) (record after : σ) :
    (members.foldlM (visitWith slots) record = .ok after ∧
      ∀ slot ∈ slots, slot.required = true → (Members.get? slot.key members).isSome = true) ↔
      Filled (Members.get? · members) slots record after := by
  induction slots generalizing record with
  | nil =>
    have unvisited : members.foldlM (visitWith []) record = .ok record := by
      clear keys
      induction members with
      | nil => rfl
      | cons member members ih => rwa [List.foldlM_cons]
    rw [unvisited, Except.ok.injEq]
    exact ⟨fun same => same.1.symm, fun same => ⟨same.symm, List.forall_mem_nil _⟩⟩
  | cons slot slots ih =>
    obtain ⟨free, distinct⟩ := List.nodup_cons.mp distinct
    obtain ⟨first, commutes⟩ := List.pairwise_cons.mp commutes
    rw [foldlM_visitWith_first free first keys, List.forall_mem_cons, Filled]
    simp only [← ih distinct commutes]
    grind

theorem missing?_eq_none {members : Members} :
    r.missing? members = none ↔
      ∀ slot ∈ r.slots, slot.required = true → (Members.get? slot.key members).isSome = true := by
  rw [missing?, List.find?_eq_none]
  apply forall₂_congr
  intro slot member
  cases slot.required <;> cases Members.get? slot.key members <;> simp

theorem ofMembers_iff (lawful : r.Lawful) {members : Members}
    (keys : (members.map Prod.fst).Nodup) (record : σ) :
    r.ofMembers members = .ok record ↔ Filled (Members.get? · members) r.slots r.blank record := by
  rw [← foldlM_visitWith_iff lawful.distinct lawful.commutes keys, ← visit_eq, ← missing?_eq_none,
    ofMembers, bind_eq_ok]
  constructor
  · rintro ⟨visited, fold, checked⟩
    split at checked
    · cases checked
    · next missing =>
      cases checked
      exact ⟨fold, missing⟩
  · rintro ⟨fold, missing⟩
    exact ⟨record, fold, by rw [missing]⟩

theorem fill_iff {part : String → Option Value} {items : List Value}
    (placed : ∀ (place : Nat) (slot : Slot σ),
      slots[place]? = some slot → part slot.key = items[place]?)
    (index : Nat) (record after : σ) :
    r.fill index record slots items = .ok after ↔ Filled part slots record after := by
  induction slots generalizing index items record with
  | nil =>
    rw [fill, Filled, Except.ok.injEq]
    exact eq_comm
  | cons slot slots ih =>
    have here : part slot.key = items[0]? := placed 0 slot List.getElem?_cons_zero
    have later (place : Nat) (other : Slot σ) (found : slots[place]? = some other) :
        part other.key = items.tail[place]? := by
      rw [placed (place + 1) other found, List.getElem?_tail]
    rw [Filled, here]
    cases items with
    | nil =>
      have rest := ih later (index + 1) record
      rw [List.tail_nil] at rest
      rw [fill]
      cases slot.required with
      | true => simp
      | false => simpa [Slot.Takes] using rest
    | cons value items =>
      have rest := ih later (index + 1)
      simp only [List.tail_cons] at rest
      rw [fill, bind_eq_ok]
      simp only [Slot.Takes, List.getElem?_cons_zero, Option.isSome_some, implies_true, true_and,
        rest]

theorem ofItems_iff (lawful : r.Lawful) (items : List Value) (record : σ) :
    r.ofItems items = .ok record ↔
      items.length ≤ r.slots.length ∧
        Filled (declaredPart (r.slots.map (·.key)) (.arr items)) r.slots r.blank record := by
  have placed (place : Nat) (slot : Slot σ) (found : r.slots[place]? = some slot) :
      declaredPart (r.slots.map (·.key)) (.arr items) slot.key = items[place]? := by
    obtain ⟨bound, rfl⟩ := List.getElem?_eq_some_iff.mp found
    have inside : place < (r.slots.map (·.key)).length := by rwa [List.length_map]
    have key := lawful.distinct.idxOf_getElem place inside
    rw [List.getElem_map] at key
    rw [declaredPart, key]
  rw [← fill_iff placed 0, ofItems, bind_eq_ok]
  constructor
  · rintro ⟨filled, fill, checked⟩
    split at checked
    · cases checked
    · next fits =>
      cases checked
      exact ⟨Nat.le_of_not_lt fits, fill⟩
  · rintro ⟨fits, fill⟩
    exact ⟨record, fill, by rw [if_neg (Nat.not_lt.mpr fits)]⟩

theorem decode_iff (lawful : r.Lawful) {value : Value} (distinct : Distinct value) (record : σ) :
    r.decode value = .ok record ↔
      DescribesRecord (r.slots.map (·.key))
        (fun part record => Filled part r.slots r.blank record) value record := by
  cases value with
  | obj members =>
    rw [decode, ofMembers_iff lawful distinct.keys]
    exact ⟨fun filled => ⟨.object members, filled⟩, fun described => described.2⟩
  | arr items =>
    rw [decode, ofItems_iff lawful]
    constructor
    · rintro ⟨fits, filled⟩
      exact ⟨.list (by rwa [List.length_map]), filled⟩
    · rintro ⟨shaped, filled⟩
      cases shaped with
      | list fits => exact ⟨by rwa [List.length_map] at fits, filled⟩
  | _ =>
    constructor
    · intro read
      cases read
    · rintro ⟨shaped, -⟩
      cases shaped

theorem matches_record (lawful : r.Lawful) {keys : List String} (named : r.slots.map (·.key) = keys)
    {describes : (String → Option Value) → σ → Prop}
    (filled : ∀ part : String → Option Value,
      (∀ key value, part key = some value → Distinct value) →
        ∀ record, Filled part r.slots r.blank record ↔ describes part record) :
    Matches r.decode (DescribesRecord keys describes) := by
  subst named
  intro value distinct record
  rw [decode_iff lawful distinct]
  exact and_congr_right fun _ => filled _ (fun key part found => distinct.part found) record

section Parts

variable {part : String → Option Value} {decodePart : Decoder α} {describes : Description α}

theorem filled_require (parts : ∀ key value, part key = some value → Distinct value)
    (matched : Matches decodePart describes) {key : String} {set : σ → α → σ} {record after : σ} :
    Filled part (.require key decodePart set :: slots) record after ↔
      ∃ a, Required describes (part key) a ∧ Filled part slots (set record a) after := by
  have found : (Slot.require key decodePart set).key = key := rfl
  have needed : (Slot.require key decodePart set).required = true := rfl
  rw [Filled, found, needed]
  cases held : part key with
  | none =>
    constructor
    · rintro ⟨present, -⟩
      cases present rfl
    · rintro ⟨a, ⟨⟩, -⟩
  | some value =>
    have read := matched value (parts key value held)
    simp only [Slot.Takes, Slot.require, map_eq_ok, read]
    constructor
    · rintro ⟨-, _, ⟨a, described, rfl⟩, filled⟩
      exact ⟨a, .present described, filled⟩
    · rintro ⟨a, ⟨described⟩, filled⟩
      exact ⟨fun _ => rfl, _, ⟨a, described, rfl⟩, filled⟩

theorem filled_default (parts : ∀ key value, part key = some value → Distinct value)
    (matched : Matches decodePart describes) {key : String} {set : σ → α → σ} {record after : σ}
    {blank : α} (unset : set record blank = record) :
    Filled part (.default key decodePart set :: slots) record after ↔
      ∃ a, Defaulted describes blank (part key) a ∧ Filled part slots (set record a) after := by
  have found : (Slot.default key decodePart set).key = key := rfl
  have free : (Slot.default key decodePart set).required = false := rfl
  rw [Filled, found, free]
  cases held : part key with
  | none =>
    simp only [Slot.Takes]
    constructor
    · rintro ⟨-, _, rfl, filled⟩
      exact ⟨blank, .absent, by rwa [unset]⟩
    · rintro ⟨a, ⟨⟩, filled⟩
      exact ⟨fun needed => absurd needed Bool.false_ne_true, record, rfl, by rwa [unset] at filled⟩
  | some value =>
    have read := matched value (parts key value held)
    simp only [Slot.Takes, Slot.default, map_eq_ok, read]
    constructor
    · rintro ⟨-, _, ⟨a, described, rfl⟩, filled⟩
      exact ⟨a, .present described, filled⟩
    · rintro ⟨a, ⟨described⟩, filled⟩
      exact ⟨fun _ => rfl, _, ⟨a, described, rfl⟩, filled⟩

end Parts

end Record

end Slots

end ModelRepositories.Json
