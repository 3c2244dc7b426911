import ModelRepositories.Json.Record

/-!
What a record says about the value it was read from. Each of its slots holds what the value's part
for that slot decodes to, and its blank value where the value has no such part.
-/

namespace ModelRepositories.Json

theorem bind_eq_ok {ε α β : Type} {first : Except ε α} {next : α → Except ε β} {b : β} :
    first >>= next = .ok b ↔ ∃ a, first = .ok a ∧ next a = .ok b := by
  cases first with
  | error fault => simp [bind, Except.bind]
  | ok a => simp [bind, Except.bind]

theorem map_eq_ok {ε α β : Type} {first : Except ε α} {change : α → β} {b : β} :
    change <$> first = .ok b ↔ ∃ a, first = .ok a ∧ change a = b := by
  cases first with
  | error fault => simp [Functor.map, Except.map]
  | ok a => simp [Functor.map, Except.map]

namespace Slot

variable {σ α β : Type} {decodePart : Decoder α} {get : σ → α}

def Sets (slot : Slot σ) (decodePart : Decoder α) (get : σ → α) : Prop :=
  ∀ record value after, slot.put record value = .ok after → decodePart value = .ok (get after)

def Leaves (slot : Slot σ) (get : σ → α) : Prop :=
  ∀ record value after, slot.put record value = .ok after → get after = get record

theorem sets_of_put {slot : Slot σ} {set : σ → α → σ}
    (put : slot.put = fun record value => set record <$> decodePart value)
    (taken : ∀ record a, get (set record a) = a) : slot.Sets decodePart get := by
  intro record value after done
  rw [put] at done
  obtain ⟨a, decoded, rfl⟩ := map_eq_ok.mp done
  rw [decoded, taken]

theorem leaves_of_put {slot : Slot σ} {decodeOther : Decoder β} {set : σ → β → σ}
    (put : slot.put = fun record value => set record <$> decodeOther value)
    (kept : ∀ record b, get (set record b) = get record) : slot.Leaves get := by
  intro record value after done
  rw [put] at done
  obtain ⟨b, -, rfl⟩ := map_eq_ok.mp done
  exact kept record b

end Slot

namespace Record

variable {σ α : Type} {r : Record σ} {key : String} {decodePart : Decoder α} {get : σ → α}

/-- The part of a value for a slot: the last member of that key, or the item at the slot's index. -/
def part? (r : Record σ) (key : String) : Value → Option Value
  | .obj members => List.lookup key members.reverse
  | .arr items => items[r.slots.findIdx (·.key == key)]?
  | _ => none

/-- One slot of the record, and no other, sets what `get` reads. -/
structure Keeps (r : Record σ) (key : String) (decodePart : Decoder α) (get : σ → α) : Prop where
  distinct : (r.slots.map (·.key)).Nodup
  own : ∀ slot ∈ r.slots, slot.key = key → slot.Sets decodePart get
  others : ∀ slot ∈ r.slots, slot.key ≠ key → slot.Leaves get

def Reads (decodePart : Decoder α) (part : Option Value) (before after : α) : Prop :=
  match part with
  | some value => decodePart value = .ok after
  | none => after = before

theorem foldlM_visit (keeps : Keeps r key decodePart get)
    (declared : key ∈ r.slots.map (·.key)) {members : Members} {before after : σ}
    (visited : members.foldlM r.visit before = .ok after) :
    Reads decodePart (List.lookup key members.reverse) (get before) (get after) := by
  induction members generalizing before with
  | nil =>
    cases visited
    rfl
  | cons member rest ih =>
    rw [List.foldlM_cons, bind_eq_ok] at visited
    obtain ⟨between, first, later⟩ := visited
    have held := ih later
    rw [List.reverse_cons, List.lookup_append]
    -- A later member of the same key hides this one.
    cases found : List.lookup key rest.reverse with
    | some value =>
      rw [found] at held
      exact held
    | none =>
      rw [found] at held
      obtain ⟨name, value⟩ := member
      by_cases here : key = name
      · subst here
        obtain ⟨slot, present, same⟩ := List.mem_map.mp declared
        unfold visit at first
        split at first
        · next slot found =>
          have own := keeps.own slot (List.mem_of_find?_eq_some found)
            (by simpa using List.find?_some found) _ _ _ first
          have unchanged : get after = get between := held
          simpa [Reads, unchanged] using own
        · next missing =>
          have apart := List.find?_eq_none.mp missing slot present
          simp [same] at apart
      · have unchanged : get between = get before := by
          unfold visit at first
          split at first
          · next slot found =>
            have named : slot.key = name := by simpa using List.find?_some found
            exact keeps.others slot (List.mem_of_find?_eq_some found)
              (fun same => here (same.symm.trans named)) _ _ _ first
          · cases first
            rfl
        have whole : get after = get between := held
        simp [Reads, List.lookup_cons, beq_false_of_ne here, whole, unchanged]

theorem fill_others {slots : List (Slot σ)} (keeps : Keeps r key decodePart get)
    (declared : ∀ slot ∈ slots, slot ∈ r.slots) (apart : key ∉ slots.map (·.key)) {index : Nat}
    {items : List Value} {before after : σ}
    (filled : r.fill index before slots items = .ok after) : get after = get before := by
  induction slots generalizing index items before with
  | nil =>
    cases filled
    rfl
  | cons slot rest ih =>
    have rest_declared := fun other member => declared other (List.mem_cons_of_mem slot member)
    have rest_apart : key ∉ rest.map (·.key) := fun member => apart (List.mem_cons_of_mem _ member)
    cases items with
    | nil =>
      rw [fill] at filled
      split at filled
      · cases filled
      · exact ih rest_declared rest_apart filled
    | cons value items =>
      rw [fill, bind_eq_ok] at filled
      obtain ⟨between, first, later⟩ := filled
      have different : slot.key ≠ key := by
        intro same
        exact apart (same ▸ List.mem_cons_self)
      rw [ih rest_declared rest_apart later]
      exact keeps.others slot (declared slot List.mem_cons_self) different _ _ _ first

theorem fill_reads {slots : List (Slot σ)} (keeps : Keeps r key decodePart get)
    (declared : ∀ slot ∈ slots, slot ∈ r.slots) (distinct : (slots.map (·.key)).Nodup)
    {index : Nat} {items : List Value} {before after : σ}
    (filled : r.fill index before slots items = .ok after) (present : key ∈ slots.map (·.key)) :
    Reads decodePart items[slots.findIdx (·.key == key)]? (get before) (get after) := by
  induction slots generalizing index items before with
  | nil => cases present
  | cons slot rest ih =>
    have rest_declared := fun other member => declared other (List.mem_cons_of_mem slot member)
    obtain ⟨fresh, rest_distinct⟩ := List.nodup_cons.mp distinct
    by_cases here : slot.key = key
    -- The slots behind it have other keys and leave alone what it sets.
    · rw [List.findIdx_cons, here, BEq.rfl, cond_true]
      have fresh : key ∉ rest.map (·.key) := here ▸ fresh
      cases items with
      | nil =>
        rw [fill] at filled
        split at filled
        · cases filled
        · exact fill_others keeps rest_declared fresh filled
      | cons value items =>
        rw [fill, bind_eq_ok] at filled
        obtain ⟨between, first, later⟩ := filled
        have own := keeps.own slot (declared slot List.mem_cons_self) here _ _ _ first
        rw [← fill_others keeps rest_declared fresh later] at own
        exact own
    · rw [List.findIdx_cons, beq_false_of_ne here, cond_false]
      have inside : key ∈ rest.map (·.key) := by
        rcases List.mem_cons.mp present with same | inside
        · exact absurd same.symm here
        · exact inside
      cases items with
      | nil =>
        rw [fill] at filled
        split at filled
        · cases filled
        · simpa using ih rest_declared rest_distinct filled inside
      | cons value items =>
        rw [fill, bind_eq_ok] at filled
        obtain ⟨between, first, later⟩ := filled
        have unchanged := keeps.others slot (declared slot List.mem_cons_self) here _ _ _ first
        have held := ih rest_declared rest_distinct later inside
        rw [unchanged] at held
        simpa using held

theorem decode_reads (keeps : Keeps r key decodePart get)
    (declared : key ∈ r.slots.map (·.key)) {value : Value} {record : σ}
    (decoded : r.decode value = .ok record) :
    Reads decodePart (r.part? key value) (get r.blank) (get record) := by
  cases value with
  | obj members =>
    rw [decode, ofMembers, bind_eq_ok] at decoded
    obtain ⟨visited, fold, checked⟩ := decoded
    split at checked
    · cases checked
    · cases checked
      exact foldlM_visit keeps declared fold
  | arr items =>
    rw [decode, ofItems, bind_eq_ok] at decoded
    obtain ⟨filled, fill, checked⟩ := decoded
    split at checked
    · cases checked
    · cases checked
      exact fill_reads keeps (fun _ member => member) keeps.distinct fill declared
  | _ => cases decoded

end Record

end ModelRepositories.Json
