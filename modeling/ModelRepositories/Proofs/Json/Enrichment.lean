import Mathlib.Data.List.Find
import Mathlib.Data.List.Forall2
import ModelRepositories.Json.Record
import ModelRepositories.Proofs.Json.Members

/-!
Values with more in them than their reader asks for. Where an object stands for a record, it may
gain members of keys that the record does not declare, at every depth at which the reader knows what
stands there. A record reads the same from both values, down to the fault that is found first.
-/

namespace ModelRepositories.Json

abbrev Enrichment := Value → Value → Prop

/-- Reading takes no notice of an enrichment. -/
def Ignores {α : Type} (decode : Decoder α) (enriched : Enrichment) : Prop :=
  ∀ value other, enriched value other → decode other = decode value

inductive InItems (item : Enrichment) : Enrichment
  | list {items others : List Value} (itemwise : List.Forall₂ item items others) :
    InItems item (.arr items) (.arr others)
  | same (value : Value) : InItems item value value

/-- Members that gained more of keys that are not declared. What is declared stays in its order and
is enriched as its part may be; what is not declared may hold anything. -/
inductive Gained (parts : List (String × Enrichment)) : Members → Members → Prop
  | nil : Gained parts [] []
  | declared {key : String} {part : Enrichment} {value other : Value} {members gained : Members}
    (found : parts.lookup key = some part) (enriched : part value other)
    (rest : Gained parts members gained) :
    Gained parts ((key, value) :: members) ((key, other) :: gained)
  | undeclared {key : String} {members gained : Members} (free : parts.lookup key = none)
    (value other : Value) (rest : Gained parts members gained) :
    Gained parts ((key, value) :: members) ((key, other) :: gained)
  | added {key : String} {members gained : Members} (free : parts.lookup key = none)
    (value : Value) (rest : Gained parts members gained) :
    Gained parts members ((key, value) :: gained)

inductive InOrder : List (String × Enrichment) → List Value → List Value → Prop
  | beyond (items : List Value) : InOrder [] items items
  | nil {parts : List (String × Enrichment)} : InOrder parts [] []
  | cons {key : String} {part : Enrichment} {parts : List (String × Enrichment)}
    {value other : Value} {items others : List Value} (enriched : part value other)
    (rest : InOrder parts items others) :
    InOrder ((key, part) :: parts) (value :: items) (other :: others)

inductive InRecord (parts : List (String × Enrichment)) : Enrichment
  | object {members gained : Members} (gains : Gained parts members gained) :
    InRecord parts (.obj members) (.obj gained)
  | list {items others : List Value} (inOrder : InOrder parts items others) :
    InRecord parts (.arr items) (.arr others)
  | same (value : Value) : InRecord parts value value

def flatParts (keys : List String) : List (String × Enrichment) :=
  keys.map fun key => (key, Eq)

section Members

variable {parts : List (String × Enrichment)} {key : String}

theorem Gained.refl (keeps : ∀ entry ∈ parts, ∀ value, entry.2 value value) (members : Members) :
    Gained parts members members := by
  induction members with
  | nil => exact .nil
  | cons member members ih =>
    obtain ⟨name, value⟩ := member
    cases found : parts.lookup name with
    | none => exact .undeclared found value value ih
    | some part =>
      obtain ⟨before, after, whole, -⟩ := List.lookup_eq_some_iff.mp found
      have listed : (name, part) ∈ parts := by simp [whole]
      exact .declared found (keeps (name, part) listed value) ih

theorem Gained.put (keeps : ∀ entry ∈ parts, ∀ value, entry.2 value value)
    (free : parts.lookup key = none) (value : Value) (members : Members) :
    Gained parts members (members.put key value) := by
  induction members with
  | nil => exact .added free value .nil
  | cons member members ih =>
    obtain ⟨name, present⟩ := member
    unfold Members.put
    split
    · exact .added free value (Gained.refl keeps _)
    · split
      · next same =>
        subst same
        exact .undeclared free present value (Gained.refl keeps members)
      · cases found : parts.lookup name with
        | none => exact .undeclared found present present ih
        | some part =>
          obtain ⟨before, after, whole, -⟩ := List.lookup_eq_some_iff.mp found
          have listed : (name, part) ∈ parts := by simp [whole]
          exact .declared found (keeps (name, part) listed present) ih

theorem Gained.isNone_get? {part : Enrichment} {members gained : Members}
    (gains : Gained parts members gained) (declared : parts.lookup key = some part) :
    (gained.get? key).isNone = (members.get? key).isNone := by
  induction gains with
  | nil => rfl
  | declared found enriched rest ih =>
    rw [Members.get?_cons, Members.get?_cons]
    split
    · rfl
    · exact ih
  | undeclared free value other rest ih =>
    rw [Members.get?_cons, Members.get?_cons]
    split
    · rfl
    · exact ih
  | @added name members gained free value rest ih =>
    have other : key ≠ name := by
      rintro rfl
      rw [free] at declared
      cases declared
    rw [Members.get?_cons, if_neg other, ih]

theorem InOrder.length_eq {items others : List Value} (inOrder : InOrder parts items others) :
    others.length = items.length := by
  induction inOrder with
  | beyond items => rfl
  | nil => rfl
  | cons enriched rest ih => exact congrArg Nat.succ ih

end Members

section Parts

variable {σ α : Type}

theorem ignores_eq (decode : Decoder α) : Ignores decode Eq := by
  rintro value other rfl
  rfl

theorem mapM_ignores {decode : Decoder α} {enriched : Enrichment}
    (ignores : Ignores decode enriched) {items others : List Value}
    (itemwise : List.Forall₂ enriched items others) : others.mapM decode = items.mapM decode := by
  induction itemwise with
  | nil => rfl
  | cons first rest ih => rw [List.mapM_cons, List.mapM_cons, ignores _ _ first, ih]

theorem ignores_list {decode : Decoder α} {enriched : Enrichment}
    (ignores : Ignores decode enriched) : Ignores (decodeList decode) (InItems enriched) := by
  intro value other changed
  cases changed with
  | list itemwise => exact mapM_ignores ignores itemwise
  | same value => rfl

theorem ignores_option {decode : Decoder α} {parts : List (String × Enrichment)}
    (ignores : Ignores decode (InRecord parts)) :
    Ignores (decodeOption decode) (InRecord parts) := by
  intro value other changed
  have unchanged := ignores value other changed
  cases changed with
  | object gains => simp only [decodeOption, unchanged]
  | list inOrder => simp only [decodeOption, unchanged]
  | same value => rfl

structure Slot.Ignores (slot : Slot σ) (part : String × Enrichment) : Prop where
  key : slot.key = part.1
  put : ∀ record value other, part.2 value other → slot.put record other = slot.put record value

theorem Slot.ignores_require {decode : Decoder α} {enriched : Enrichment} (key : String)
    (set : σ → α → σ) (ignores : Json.Ignores decode enriched) :
    (Slot.require key decode set).Ignores (key, enriched) where
  key := rfl
  put := by
    intro record value other changed
    simp only [Slot.require, ignores value other changed]

theorem Slot.ignores_default {decode : Decoder α} {enriched : Enrichment} (key : String)
    (set : σ → α → σ) (ignores : Json.Ignores decode enriched) :
    (Slot.default key decode set).Ignores (key, enriched) where
  key := rfl
  put := by
    intro record value other changed
    simp only [Slot.default, ignores value other changed]

end Parts

namespace Record

variable {σ : Type} {r : Record σ} {slots : List (Slot σ)} {parts : List (String × Enrichment)}

theorem find_aligned (aligned : List.Forall₂ Slot.Ignores slots parts) (key : String) :
    (slots.find? (·.key == key) = none ∧ parts.lookup key = none) ∨
      ∃ slot part, slots.find? (·.key == key) = some slot ∧ parts.lookup key = some part ∧
        slot.Ignores (key, part) := by
  induction aligned with
  | nil => exact Or.inl ⟨rfl, rfl⟩
  | @cons slot entry slots parts first rest ih =>
    obtain ⟨name, part⟩ := entry
    have named : slot.key = name := first.key
    by_cases here : slot.key = key
    · have same : name = key := named.symm.trans here
      subst same
      refine Or.inr ⟨slot, part, ?_, ?_, first⟩
      · rw [List.find?_cons_of_pos (by simp [here])]
      · simp
    · have away : name ≠ key := fun same => here (named.trans same)
      rw [List.find?_cons_of_neg (by simp [here]), List.lookup_cons,
        beq_false_of_ne (Ne.symm away)]
      exact ih

theorem foldlM_visit_gained (aligned : List.Forall₂ Slot.Ignores r.slots parts)
    {members gained : Members} (gains : Gained parts members gained) (record : σ) :
    gained.foldlM r.visit record = members.foldlM r.visit record := by
  induction gains generalizing record with
  | nil => rfl
  | @declared key part value other members gained found enriched rest ih =>
    have visited : r.visit record (key, other) = r.visit record (key, value) := by
      rcases find_aligned aligned key with
        ⟨-, undeclared⟩ | ⟨slot, held, slotFound, partFound, ignores⟩
      · rw [found] at undeclared
        cases undeclared
      · rw [found] at partFound
        cases partFound
        simp only [visit, slotFound, ignores.put record value other enriched]
    rw [List.foldlM_cons, List.foldlM_cons, visited]
    exact bind_congr ih
  | @undeclared key members gained free value other rest ih =>
    have passed (held : Value) : r.visit record (key, held) = .ok record := by
      rcases find_aligned aligned key with ⟨undeclared, -⟩ | ⟨slot, held, -, partFound, -⟩
      · simp only [visit, undeclared]
      · rw [free] at partFound
        cases partFound
    rw [List.foldlM_cons, List.foldlM_cons, passed, passed]
    exact ih record
  | @added key members gained free value rest ih =>
    have passed : r.visit record (key, value) = .ok record := by
      rcases find_aligned aligned key with ⟨undeclared, -⟩ | ⟨slot, held, -, partFound, -⟩
      · simp only [visit, undeclared]
      · rw [free] at partFound
        cases partFound
    rw [List.foldlM_cons, passed]
    exact ih record

theorem lookup_of_mem (aligned : List.Forall₂ Slot.Ignores slots parts) {slot : Slot σ}
    (member : slot ∈ slots) : ∃ part, parts.lookup slot.key = some part := by
  rcases find_aligned aligned slot.key with ⟨undeclared, -⟩ | ⟨found, part, -, partFound, -⟩
  · have apart := List.find?_eq_none.mp undeclared slot member
    simp at apart
  · exact ⟨part, partFound⟩

theorem missing?_gained (aligned : List.Forall₂ Slot.Ignores r.slots parts)
    {members gained : Members} (gains : Gained parts members gained) :
    r.missing? gained = r.missing? members := by
  unfold missing?
  apply List.find?_congr
  intro slot member
  obtain ⟨part, declared⟩ := lookup_of_mem aligned member
  rw [gains.isNone_get? declared]

theorem ofMembers_gained (aligned : List.Forall₂ Slot.Ignores r.slots parts)
    {members gained : Members} (gains : Gained parts members gained) :
    r.ofMembers gained = r.ofMembers members := by
  rw [ofMembers, ofMembers, foldlM_visit_gained aligned gains, missing?_gained aligned gains]

theorem fill_inOrder (aligned : List.Forall₂ Slot.Ignores slots parts)
    {items others : List Value} (inOrder : InOrder parts items others) (index : Nat) (record : σ) :
    r.fill index record slots others = r.fill index record slots items := by
  induction aligned generalizing index record items others with
  | nil => rfl
  | @cons slot entry slots parts first rest ih =>
    cases inOrder with
    | nil => rfl
    | cons enriched later =>
      rw [fill, fill, first.put record _ _ enriched]
      exact bind_congr fun filled => ih later (index + 1) filled

/-- A record reads the same, content or fault, from a value that is enriched where its slots say. -/
theorem ignores_record (aligned : List.Forall₂ Slot.Ignores r.slots parts) :
    Ignores r.decode (InRecord parts) := by
  intro value other changed
  cases changed with
  | object gains =>
    exact ofMembers_gained aligned gains
  | list inOrder =>
    rw [decode, decode, ofItems, ofItems, fill_inOrder aligned inOrder, inOrder.length_eq]
  | same value => rfl

theorem aligned_flat (slots : List (Slot σ)) :
    List.Forall₂ Slot.Ignores slots (flatParts (slots.map (·.key))) := by
  induction slots with
  | nil => exact .nil
  | cons slot slots ih =>
    refine .cons ⟨rfl, ?_⟩ ih
    rintro record value other rfl
    rfl

end Record

end ModelRepositories.Json
