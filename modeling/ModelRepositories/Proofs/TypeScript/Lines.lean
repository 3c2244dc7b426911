import Mathlib.Algebra.GroupWithZero.Nat
import ModelRepositories.Proofs.TypeScript.Plain
import ModelRepositories.Text.Split

/-!
Printed lines. A text tells its lines, and blocks of lines with empty lines between them tell where
those are: between two blocks, or within one.
-/

namespace ModelRepositories.TypeScript

open Text

def textOf (lines : List String) : String :=
  String.join (lines.map (· ++ "\n"))

/-- The lines of a text. What stands behind the last line feed is no line. -/
def linesOf (text : String) : List String :=
  (splitWhere (· == '\n') text.toList).dropLast.map String.ofList

theorem render_eq (file : SourceFile) : file.render = textOf file.lines := rfl

theorem textOf_append (first second : List String) :
    textOf (first ++ second) = textOf first ++ textOf second := by
  rw [textOf, List.map_append, String.join_append]
  rfl

theorem toList_textOf_cons (line : String) (lines : List String) :
    (textOf (line :: lines)).toList = line.toList ++ '\n' :: (textOf lines).toList := by
  simp [textOf, String.join_cons, String.toList_append]

theorem linesOf_textOf {lines : List String} (oneLine : ∀ line ∈ lines, OneLine line) :
    linesOf (textOf lines) = lines := by
  induction lines with
  | nil => rfl
  | cons line rest ih =>
    obtain ⟨first, later⟩ := List.forall_mem_cons.mp oneLine
    have cut : splitWhere (· == '\n') (textOf (line :: rest)).toList =
        line.toList :: splitWhere (· == '\n') (textOf rest).toList := by
      rw [toList_textOf_cons, splitWhere_append_cons _ (by rfl), splitWhere_of_free first]
      rfl
    rw [linesOf, cut, List.dropLast_cons_of_ne_nil (splitWhere_ne_nil _ _), List.map_cons,
      String.ofList_toList]
    exact congrArg (line :: ·) (ih later)

def leading (blocks : List (List String)) : List String :=
  blocks.flatMap (· ++ [""])

def trailing (blocks : List (List String)) : List String :=
  chained [""] id blocks

theorem spaced_cons (block : List String) (rest : List (List String)) :
    spaced (block :: rest) = block ++ trailing rest := by
  have joining := intercalate_map [""] id (block :: rest)
  rwa [List.map_id] at joining

theorem trailing_eq {blocks : List (List String)} (nonempty : blocks ≠ []) :
    trailing blocks = "" :: spaced blocks := by
  cases blocks with
  | nil => exact absurd rfl nonempty
  | cons block rest =>
    rw [spaced_cons]
    rfl

theorem leading_cons (block : List String) (rest : List (List String)) :
    leading (block :: rest) = block ++ "" :: leading rest := by
  rw [leading, List.flatMap_cons, List.append_assoc]
  rfl

theorem spaced_at (before after : List (List String)) (block : List String) :
    spaced (before ++ block :: after) = leading before ++ block ++ trailing after := by
  induction before with
  | nil => exact spaced_cons block after
  | cons first rest ih =>
    have followed : rest ++ block :: after ≠ [] := by simp
    rw [List.cons_append, spaced_cons, trailing_eq followed, ih, leading_cons]
    simp only [List.append_assoc, List.cons_append]

theorem spaced_append {before after : List (List String)} (preceded : before ≠ [])
    (followed : after ≠ []) : spaced (before ++ after) = spaced before ++ "" :: spaced after := by
  obtain ⟨front, last, rfl⟩ : ∃ front last, before = front ++ [last] :=
    ⟨_, _, (List.dropLast_concat_getLast preceded).symm⟩
  calc
    spaced (front ++ [last] ++ after) = leading front ++ last ++ trailing after := by
      rw [List.append_assoc, List.singleton_append, spaced_at]
    _ = spaced (front ++ [last]) ++ "" :: spaced after := by
      rw [trailing_eq followed, spaced_at]
      simp [trailing, chained]

/-- An empty line of spaced blocks, by what stands above it and below it. -/
inductive Seam : List (List String) → List String → List String → Prop
  | between {before after : List (List String)} (preceded : before ≠ []) (followed : after ≠ []) :
    Seam (before ++ after) (spaced before) (spaced after)
  | within (before after : List (List String)) (upper lower : List String) :
    Seam (before ++ (upper ++ "" :: lower) :: after) (leading before ++ upper)
      (lower ++ trailing after)

theorem Seam.behind (first : List String) {blocks : List (List String)} {above below : List String}
    (seam : Seam blocks above below) : Seam (first :: blocks) (first ++ "" :: above) below := by
  cases seam with
  | @between before after preceded followed =>
    have further := Seam.between (List.cons_ne_nil first before) followed
    rwa [spaced_cons, trailing_eq preceded, List.cons_append] at further
  | within before after upper lower =>
    have further := Seam.within (first :: before) after upper lower
    rwa [leading_cons, List.cons_append, List.append_assoc, List.cons_append] at further

theorem trailing_eq_cons {rest : List (List String)} {line : String} {lines : List String}
    (behind : trailing rest = line :: lines) : rest ≠ [] ∧ line = "" ∧ lines = spaced rest := by
  cases rest with
  | nil => cases behind
  | cons second rest =>
    rw [trailing_eq (List.cons_ne_nil second rest)] at behind
    obtain ⟨empty, tail⟩ := List.cons.inj behind
    exact ⟨List.cons_ne_nil second rest, empty.symm, tail.symm⟩

theorem seam_behind_first (first : List String) {rest : List (List String)} (followed : rest ≠ []) :
    Seam (first :: rest) first (spaced rest) := by
  have seam := Seam.between (List.cons_ne_nil first []) followed
  rwa [spaced_cons, show trailing [] = [] from rfl, List.append_nil] at seam

theorem seam_of_spaced {blocks : List (List String)} {above below : List String}
    (cut : spaced blocks = above ++ "" :: below) : Seam blocks above below := by
  induction blocks generalizing above with
  | nil => simp [spaced] at cut
  | cons first rest ih =>
    rw [spaced_cons] at cut
    -- The line belongs to the first block, or stands right behind it, or belongs to the rest.
    rcases List.append_eq_append_iff.mp cut with ⟨inside, rfl, tail⟩ | ⟨inside, rfl, tail⟩
    · cases inside with
      | nil =>
        obtain ⟨followed, -, rfl⟩ := trailing_eq_cons tail
        rw [List.append_nil]
        exact seam_behind_first first followed
      | cons line inside =>
        obtain ⟨-, rfl, later⟩ := trailing_eq_cons tail
        exact (ih later.symm).behind first
    · cases inside with
      | nil =>
        obtain ⟨followed, -, rfl⟩ := trailing_eq_cons tail.symm
        rw [List.append_nil]
        exact seam_behind_first above followed
      | cons line inside =>
        obtain ⟨rfl, rfl⟩ := List.cons.inj tail
        exact Seam.within [] rest above inside

theorem count_spaced (blocks : List (List String)) :
    (spaced blocks).count "" = (blocks.length - 1) + (blocks.map (·.count "")).sum := by
  induction blocks with
  | nil => rfl
  | cons first rest ih =>
    cases rest with
    | nil => simp [spaced_cons, trailing, chained]
    | cons second rest =>
      rw [spaced_cons, trailing_eq (List.cons_ne_nil second rest), List.count_append,
        List.count_cons_self, ih]
      simp only [List.length_cons, List.map_cons, List.sum_cons]
      omega

end ModelRepositories.TypeScript
