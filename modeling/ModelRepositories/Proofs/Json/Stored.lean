import ModelRepositories.Proofs.Json.Members
import ModelRepositories.Proofs.Json.Record
import ModelRepositories.Proofs.Json.RoundTrip

/-!
What a reader makes of a text: whole numbers that fit, members sorted by key, and no more lists and
objects in each other than it has levels. Such a value is the same after it has been written and
read again, if there is no double in it.
-/

namespace ModelRepositories.Json

mutual

def Value.hasFloat : Value → Bool
  | .float _ => true
  | .arr items => itemsHaveFloat items
  | .obj members => membersHaveFloat members
  | _ => false

def itemsHaveFloat : List Value → Bool
  | [] => false
  | item :: items => item.hasFloat || itemsHaveFloat items

def membersHaveFloat : List (String × Value) → Bool
  | [] => false
  | (_, value) :: members => value.hasFloat || membersHaveFloat members

end

inductive Stored : (levels : Nat) → Value → Prop
  | null {levels : Nat} : Stored levels .null
  | bool {levels : Nat} (b : Bool) : Stored levels (.bool b)
  | int {levels : Nat} {n : Int} (exact : Exact n) : Stored levels (.int n)
  | float {levels : Nat} (x : Float) : Stored levels (.float x)
  | str {levels : Nat} (text : String) : Stored levels (.str text)
  | arr {levels : Nat} {items : List Value} (stored : ∀ item ∈ items, Stored levels item) :
    Stored (levels + 1) (.arr items)
  | obj {levels : Nat} {members : Members} (sorted : members.Sorted)
    (stored : ∀ member ∈ members, Stored levels member.2) : Stored (levels + 1) (.obj members)

theorem Stored.fits {levels : Nat} {value : Value} (stored : Stored levels value) :
    Fits levels value := by
  induction stored with
  | null => exact .null
  | bool b => exact .bool b
  | int exact => exact .int exact
  | float x => exact .float x
  | str text => exact .str text
  | arr stored ih => exact .arr ih
  | obj sorted stored ih => exact .obj ih

theorem rereadItems_eq {items : List Value}
    (stays : ∀ item ∈ items, item.hasFloat = false → item.reread = item)
    (exact : itemsHaveFloat items = false) : rereadItems items = items := by
  induction items with
  | nil => rfl
  | cons item items ih =>
    obtain ⟨first, others⟩ := Bool.or_eq_false_iff.mp exact
    rw [rereadItems, stays item List.mem_cons_self first,
      ih (fun other member => stays other (List.mem_cons_of_mem item member)) others]

theorem rereadMembers_eq {present members : Members} (sorted : Members.Sorted (present ++ members))
    (stays : ∀ member ∈ members, member.2.hasFloat = false → member.2.reread = member.2)
    (exact : membersHaveFloat members = false) :
    rereadMembers present members = present ++ members := by
  induction members generalizing present with
  | nil => exact (List.append_nil present).symm
  | cons member members ih =>
    obtain ⟨key, value⟩ := member
    obtain ⟨first, others⟩ := Bool.or_eq_false_iff.mp exact
    have last : ∀ member ∈ present, member.1 < key := fun member there =>
      (List.pairwise_append.mp sorted).2.2 member there (key, value) List.mem_cons_self
    have regroup : present ++ (key, value) :: members =
      (present ++ [(key, value)]) ++ members := by simp
    rw [rereadMembers, stays (key, value) List.mem_cons_self first, Members.put_last last, regroup]
    exact ih (regroup ▸ sorted)
      (fun other member => stays other (List.mem_cons_of_mem _ member)) others

theorem get?_rereadMembers {members : Members} (distinct : (members.map Prod.fst).Nodup)
    (present : Members) (name : String) :
    (rereadMembers present members).get? name =
      ((members.get? name).map Value.reread).or (present.get? name) := by
  induction members generalizing present with
  | nil => rfl
  | cons member members ih =>
    obtain ⟨key, value⟩ := member
    obtain ⟨fresh, distinct⟩ := List.nodup_cons.mp distinct
    rw [rereadMembers, ih distinct, Members.get?_put, Members.get?_cons]
    by_cases same : name = key
    · subst same
      rw [if_pos rfl, if_pos rfl, Members.get?_eq_none fresh]
      rfl
    · rw [if_neg same, if_neg same]

theorem get?_reread {members : Members} (distinct : (members.map Prod.fst).Nodup) (name : String) :
    (rereadMembers [] members).get? name = (members.get? name).map Value.reread := by
  rw [get?_rereadMembers distinct]
  exact Option.or_none

theorem Stored.reread_eq {levels : Nat} {value : Value} (stored : Stored levels value)
    (exact : value.hasFloat = false) : value.reread = value := by
  induction stored with
  | null => rfl
  | bool b => rfl
  | int exact => rfl
  | float x => cases exact
  | str text => rfl
  | arr stored ih => exact congrArg Value.arr (rereadItems_eq ih exact)
  | obj sorted stored ih => exact congrArg Value.obj (rereadMembers_eq sorted ih exact)

theorem appendWithin_le {limit n : Nat} (within : n ≤ limit) (digits : List Char) :
    (appendWithin limit n digits).1 ≤ limit := by
  induction digits generalizing n with
  | nil => exact within
  | cons d digits ih =>
    unfold appendWithin
    split
    · next fits => exact ih fits
    · exact within

theorem stored_wholeNumber {levels : Nat} {negative : Bool} {n : Nat} (fits : n ≤ maxSignificand) :
    Stored levels (wholeNumber negative n) := by
  have limit : maxSignificand = 0xFFFFFFFFFFFFFFFF := rfl
  unfold wholeNumber
  split
  · exact .int ⟨by omega, by omega⟩
  split
  · exact .int ⟨by omega, by omega⟩
  · exact .float _

theorem stored_value {levels : Nat} {numeral : Numeral} {rest : List Char} {value : Value}
    (read : numeral.value rest = .ok value) : Stored levels value := by
  have fits : (appendWithin maxSignificand 0 numeral.whole).1 ≤ maxSignificand :=
    appendWithin_le (Nat.zero_le _) numeral.whole
  unfold Numeral.value at read
  generalize appendWithin maxSignificand 0 numeral.whole = whole at fits read
  dsimp only at read
  split at read
  · split at read
    · cases read
      exact stored_wholeNumber fits
    · split at read <;> cases read
      exact .float _
  · split at read
    · split at read <;> cases read
      exact .float _
    · split at read
      · cases read
      · cases read
        exact .float _

theorem stored_readScalar {levels bound : Nat} {text rest : List Char} {value : Value}
    (read : readScalar bound text = .ok (value, rest)) : Stored levels value := by
  cases scalarRead read with
  | null letters => exact .null
  | yes letters => exact .bool true
  | no letters => exact .bool false
  | text inner => exact .str _
  | number first digits valued => exact stored_value valued

theorem readItems_keeps {σ : Type} {care : Care} {item : σ → Reader σ} {P : σ → Prop}
    (step : ∀ state text after rest, P state → item state text = .ok (after, rest) → P after)
    {turns : Nat} {first : Bool} {state final : σ} {text rest : List Char} (start : P state)
    (read : readItems care item turns first state text = .ok (final, rest)) : P final := by
  induction turns generalizing first state text with
  | zero => cases read
  | succ turns ih =>
    obtain ⟨next, -, read⟩ := bind_eq_ok.mp read
    cases next with
    | done rest =>
      cases read
      exact start
    | item rest =>
      obtain ⟨⟨after, behind⟩, one, read⟩ := bind_eq_ok.mp read
      exact ih (step state rest after behind start one) read

theorem readMembers_keeps {σ κ : Type} {care : Care} {key : Reader κ} {member : σ → κ → Reader σ}
    {P : σ → Prop} (step : ∀ state name text after rest, P state →
      member state name text = .ok (after, rest) → P after)
    {turns : Nat} {first : Bool} {state final : σ} {text rest : List Char} (start : P state)
    (read : readMembers care key member turns first state text = .ok (final, rest)) : P final := by
  induction turns generalizing first state text with
  | zero => cases read
  | succ turns ih =>
    obtain ⟨next, -, read⟩ := bind_eq_ok.mp read
    cases next with
    | done rest =>
      cases read
      exact start
    | item rest =>
      obtain ⟨⟨name, value⟩, -, read⟩ := bind_eq_ok.mp read
      obtain ⟨⟨after, behind⟩, one, read⟩ := bind_eq_ok.mp read
      exact ih (step state name value after behind start one) read

section Levels

variable {bound levels : Nat}
  (deeper : ∀ text rest value,
    readValue bound levels text = .ok (value, rest) → Stored levels value)
include deeper

theorem stored_items {turns : Nat} {first : Bool} {text rest : List Char} {items : List Value}
    (read : readItems .keep (readOneMore bound levels) turns first [] text = .ok (items, rest)) :
    ∀ item ∈ items, Stored levels item := by
  refine readItems_keeps (P := fun items => ∀ item ∈ items, Stored levels item) ?_
    (List.forall_mem_nil _) read
  intro state text after rest kept one other member
  obtain ⟨⟨value, behind⟩, here, done⟩ := bind_eq_ok.mp one
  cases done
  rcases List.mem_cons.mp member with rfl | member
  · exact deeper _ _ _ here
  · exact kept other member

theorem stored_members {turns : Nat} {first : Bool} {text rest : List Char} {members : Members}
    (read : readMembers .keep (readText bound) (readOnePut bound levels) turns first [] text =
      .ok (members, rest)) :
    members.Sorted ∧ ∀ member ∈ members, Stored levels member.2 := by
  refine readMembers_keeps
    (P := fun members : Members => members.Sorted ∧ ∀ member ∈ members, Stored levels member.2) ?_
    ⟨List.Pairwise.nil, List.forall_mem_nil _⟩ read
  intro state name text after rest kept one
  obtain ⟨colon, -, one⟩ := bind_eq_ok.mp one
  obtain ⟨⟨value, behind⟩, here, done⟩ := bind_eq_ok.mp one
  cases done
  refine ⟨Members.sorted_put kept.1, fun other member => ?_⟩
  rcases Members.mem_put member with rfl | member
  · exact deeper _ _ _ here
  · exact kept.2 other member

end Levels

/-- What is read with some levels to go has no more of them. -/
theorem stored_readValue {bound levels : Nat} {text rest : List Char} {value : Value}
    (read : readValue bound levels text = .ok (value, rest)) : Stored levels value := by
  induction levels using Nat.strongRecOn generalizing text rest value with
  | ind levels ih =>
    rcases readValue_cases read with ⟨fewer, more, items, rfl, -, loop, rfl⟩ |
      ⟨fewer, more, members, rfl, -, loop, rfl⟩ | scalar
    · have deeper := fun text rest value => @ih fewer (Nat.lt_succ_self fewer) text rest value
      exact .arr fun item member => stored_items deeper loop item (List.mem_reverse.mp member)
    · have deeper := fun text rest value => @ih fewer (Nat.lt_succ_self fewer) text rest value
      obtain ⟨sorted, stored⟩ := stored_members deeper loop
      exact .obj sorted stored
    · exact stored_readScalar scalar

theorem readAll_eq_ok {α : Type} {read : Nat → Reader α} {text : String} {a : α} :
    readAll read text = .ok a ↔
      ∃ rest, read (text.toList.length + 1) text.toList = .ok (a, rest) ∧ dropSpace rest = [] := by
  unfold readAll
  dsimp only
  cases outcome : read (text.toList.length + 1) text.toList with
  | error stop =>
    constructor
    · intro whole
      cases whole
    · rintro ⟨rest, found, -⟩
      cases found
  | ok found =>
    obtain ⟨value, rest⟩ := found
    cases blank : dropSpace rest with
    | nil =>
      simp only [bind, Except.bind, blank]
      constructor
      · intro whole
        cases whole
        exact ⟨rest, rfl, blank⟩
      · rintro ⟨other, same, -⟩
        cases same
        rfl
    | cons c more =>
      simp only [bind, Except.bind, blank]
      constructor
      · intro whole
        cases whole
      · rintro ⟨other, same, blankOther⟩
        cases same
        rw [blank] at blankOther
        cases blankOther

theorem stored_parse {text : String} {value : Value} (read : parse text = .ok value) :
    Stored maxLevels value := by
  obtain ⟨rest, read, -⟩ := readAll_eq_ok.mp read
  exact stored_readValue read

end ModelRepositories.Json
