/-!
Reading back what was written into the middle of a text: writings that tell where they end. Texts
and lists of lines are both lists here.
-/

namespace ModelRepositories.Text

/-- Whatever follows, the written list tells where it ends and what was written. -/
def Delimited {ι α : Type} (proper : ι → Prop) (follows : List α → Prop) (write : ι → List α) :
    Prop :=
  ∀ i j rest others, proper i → proper j → follows rest → follows others →
    write i ++ rest = write j ++ others → i = j ∧ rest = others

def Stops {α : Type} (belongs : α → Prop) (rest : List α) : Prop :=
  ∃ a later, rest = a :: later ∧ ¬ belongs a

theorem stops_cons {α : Type} {belongs : α → Prop} {a : α} {later : List α}
    (foreign : ¬ belongs a) : Stops belongs (a :: later) :=
  ⟨a, later, rfl, foreign⟩

theorem delimited_stretch {α : Type} (belongs : α → Prop) :
    Delimited (fun stretch => ∀ a ∈ stretch, belongs a) (Stops belongs) id := by
  intro first
  induction first with
  | nil =>
    rintro second rest others - right ⟨a, later, rfl, foreign⟩ - same
    cases second with
    | nil => exact ⟨rfl, same⟩
    | cons b second =>
      obtain ⟨rfl, -⟩ := List.cons.inj same
      exact absurd (right a List.mem_cons_self) foreign
  | cons a first ih =>
    intro second rest others left right stops ending same
    cases second with
    | nil =>
      obtain ⟨b, later, rfl, foreign⟩ := ending
      obtain ⟨rfl, -⟩ := List.cons.inj same
      exact absurd (left a List.mem_cons_self) foreign
    | cons b second =>
      obtain ⟨rfl, tails⟩ := List.cons.inj same
      obtain ⟨rfl, ended⟩ := ih second rest others (List.forall_mem_cons.mp left).2
        (List.forall_mem_cons.mp right).2 stops ending tails
      exact ⟨rfl, ended⟩

section Lists

variable {ι α : Type} {proper : ι → Prop} {follows ends : List α → Prop} {write : ι → List α}
  {separator : List α}

def chained (separator : List α) (write : ι → List α) : List ι → List α
  | [] => []
  | i :: later => separator ++ (write i ++ chained separator write later)

/-- Members with a separator between each two of them. -/
def joined (separator : List α) (write : ι → List α) : List ι → List α
  | [] => []
  | i :: later => write i ++ chained separator write later

theorem intercalate_map (separator : List α) (write : ι → List α) (members : List ι) :
    separator.intercalate (members.map write) = joined separator write members := by
  cases members with
  | nil => rfl
  | cons i later =>
    induction later generalizing i with
    | nil => simp [joined, chained]
    | cons j later ih =>
      rw [List.map_cons, List.map_cons, List.intercalate_cons_cons, ← List.map_cons, ih,
        List.append_assoc]
      rfl

theorem mem_chained {members : List ι} {a : α} (inside : a ∈ chained separator write members) :
    a ∈ separator ∨ ∃ i ∈ members, a ∈ write i := by
  induction members with
  | nil => cases inside
  | cons i later ih =>
    rcases List.mem_append.mp inside with between | inside
    · exact Or.inl between
    · rcases List.mem_append.mp inside with written | after
      · exact Or.inr ⟨i, List.mem_cons_self, written⟩
      · exact (ih after).imp_right fun ⟨j, member, written⟩ =>
          ⟨j, List.mem_cons_of_mem i member, written⟩

theorem mem_joined {members : List ι} {a : α} (inside : a ∈ joined separator write members) :
    a ∈ separator ∨ ∃ i ∈ members, a ∈ write i := by
  cases members with
  | nil => cases inside
  | cons i later => exact mem_chained (List.mem_append_right separator inside)

theorem Delimited.chained (delimited : Delimited proper follows write)
    (goes : ∀ rest, follows (separator ++ rest)) (stops : ∀ rest, ends rest → follows rest)
    (noSeparator : ∀ rest others, ends others → separator ++ rest ≠ others) :
    Delimited (∀ i ∈ ·, proper i) ends (chained separator write) := by
  have further (members : List ι) {rest : List α} (ending : ends rest) :
      follows (Text.chained separator write members ++ rest) := by
    cases members with
    | nil => exact stops rest ending
    | cons i members =>
      rw [Text.chained, List.append_assoc]
      exact goes _
  -- What follows a member is a separator or the end, so the first members end at one place.
  intro first
  induction first with
  | nil =>
    intro second rest others left right ending stopping same
    cases second with
    | nil => exact ⟨rfl, same⟩
    | cons j second =>
      rw [Text.chained, Text.chained, List.append_assoc] at same
      exact absurd same.symm (noSeparator _ rest ending)
  | cons i first ih =>
    intro second rest others left right ending stopping same
    cases second with
    | nil =>
      rw [Text.chained, Text.chained, List.append_assoc] at same
      exact absurd same (noSeparator _ others stopping)
    | cons j second =>
      simp only [Text.chained, List.append_assoc, List.append_cancel_left_eq] at same
      obtain ⟨rfl, tails⟩ := delimited i j _ _ (left i List.mem_cons_self)
        (right j List.mem_cons_self) (further first ending) (further second stopping) same
      obtain ⟨rfl, ended⟩ := ih second rest others (List.forall_mem_cons.mp left).2
        (List.forall_mem_cons.mp right).2 ending stopping tails
      exact ⟨rfl, ended⟩

/-- The end of the list is neither a separator nor the beginning of a member. -/
theorem Delimited.joined (delimited : Delimited proper follows write)
    (goes : ∀ rest, follows (separator ++ rest)) (stops : ∀ rest, ends rest → follows rest)
    (noSeparator : ∀ rest others, ends others → separator ++ rest ≠ others)
    (noMember : ∀ i rest others, proper i → ends others → write i ++ rest ≠ others) :
    Delimited (∀ i ∈ ·, proper i) ends (joined separator write) := by
  intro first second rest others left right ending stopping same
  cases first with
  | nil =>
    cases second with
    | nil => exact ⟨rfl, same⟩
    | cons j second =>
      rw [Text.joined, Text.joined, List.append_assoc] at same
      exact absurd same.symm (noMember j _ rest (right j List.mem_cons_self) ending)
  | cons i first =>
    cases second with
    | nil =>
      rw [Text.joined, Text.joined, List.append_assoc] at same
      exact absurd same (noMember i _ others (left i List.mem_cons_self) stopping)
    | cons j second =>
      -- With a separator before both lists they are chains.
      have chains : Text.chained separator write (i :: first) ++ rest =
          Text.chained separator write (j :: second) ++ others := by
        simpa [Text.chained, Text.joined] using same
      exact delimited.chained goes stops noSeparator _ _ _ _ left right ending stopping chains

end Lists

end ModelRepositories.Text
