/-!
Cutting a list at separators. `splitWhere` keeps empty stretches, so a list with `n` separators has
`n + 1` of them; separators belong to no stretch.
-/

namespace ModelRepositories.Text

def splitWhere {α : Type} (separates : α → Bool) : List α → List (List α)
  | [] => [[]]
  | a :: rest =>
    if separates a then [] :: splitWhere separates rest
    else
      match splitWhere separates rest with
      | [] => [[a]]
      | piece :: pieces => (a :: piece) :: pieces

theorem splitWhere_ne_nil {α : Type} (separates : α → Bool) (list : List α) :
    splitWhere separates list ≠ [] := by
  cases list with
  | nil => simp [splitWhere]
  | cons a rest =>
    simp only [splitWhere]
    split
    · simp
    · split <;> simp

theorem splitWhere_eq_splitOnP {α : Type} (separates : α → Bool) (list : List α) :
    splitWhere separates list = list.splitOnP separates := by
  induction list with
  | nil => rfl
  | cons a rest ih =>
    rw [List.splitOnP_cons_eq_if_modifyHead, ← ih, splitWhere]
    cases cut : splitWhere separates rest with
    | nil => exact absurd cut (splitWhere_ne_nil separates rest)
    | cons piece pieces => rfl

theorem splitWhere_append_cons {α : Type} (separates : α → Bool) {a : α}
    (separator : separates a = true) (front rest : List α) :
    splitWhere separates (front ++ a :: rest) =
      splitWhere separates front ++ splitWhere separates rest := by
  simp only [splitWhere_eq_splitOnP]
  exact List.splitOnP_append_cons _ _ separator

theorem splitWhere_of_free {α : Type} [BEq α] [LawfulBEq α] {separator : α} {list : List α}
    (free : separator ∉ list) : splitWhere (· == separator) list = [list] := by
  rw [splitWhere_eq_splitOnP, List.splitOnP_eq_singleton]
  intro a member
  rw [beq_eq_false_iff_ne]
  rintro rfl
  exact free member

theorem splitWhere_free {α : Type} (separates : α → Bool) (list : List α) :
    ∀ piece ∈ splitWhere separates list, ∀ a ∈ piece, separates a = false := by
  induction list with
  | nil => simp [splitWhere]
  | cons a rest ih =>
    by_cases found : separates a = true
    · simpa [splitWhere, found] using ih
    · cases cut : splitWhere separates rest with
      | nil => exact absurd cut (splitWhere_ne_nil separates rest)
      | cons piece pieces =>
        rw [cut] at ih
        simp only [splitWhere, found, cut]
        intro stretch member b inside
        rcases List.mem_cons.mp member with rfl | member
        · rcases List.mem_cons.mp inside with rfl | inside
          · simpa using found
          · exact ih piece (by simp) b inside
        · exact ih stretch (by simp [member]) b inside

end ModelRepositories.Text
