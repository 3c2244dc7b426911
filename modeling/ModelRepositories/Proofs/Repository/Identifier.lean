import ModelRepositories.Proofs.Repository.MethodList

/-!
Model names as a schema writes them, and the text of a repository, which tells the name of its
model: the name comes second among what the file imports.
-/

namespace ModelRepositories

open Schema TypeScript

/-- A letter, then letters, digits and underscores. -/
def isIdentifier (name : String) : Bool :=
  match name.toList with
  | [] => false
  | c :: rest => c.isAlpha && rest.all fun c => c.isAlphanum || c == '_'

theorem isIdentifier_chars {name : String} (identifier : isIdentifier name = true) :
    ∀ c ∈ name.toList, (c.isAlphanum || c == '_') = true := by
  unfold isIdentifier at identifier
  split at identifier
  · cases identifier
  · next first rest chars =>
    rw [Bool.and_eq_true, List.all_eq_true] at identifier
    rw [chars]
    intro c member
    rcases List.mem_cons.mp member with rfl | later
    · simp [Char.isAlphanum, identifier.1]
    · exact identifier.2 c later

namespace Repository

def opening : String :=
  "import \x7b " ++ clientType ++ ", "

theorem exists_lines (repository : Repository) :
    ∃ lines, repository.sourceFile.lines =
      ("import \x7b " ++ ", ".intercalate repository.imports ++ " \x7d from \"" ++ clientModule ++
        "\";") :: lines :=
  ⟨_, rfl⟩

theorem text_names_model (model : Model) :
    ∃ c rest, (c.isAlphanum || c == '_') = false ∧
      (ofModel model).text.toList = opening.toList ++ model.name.toList ++ c :: rest := by
  obtain ⟨lines, written⟩ := exists_lines (ofModel model)
  rw [text, SourceFile.render, written, imports_eq, List.map_cons, String.join_cons]
  cases ((model.relations.map (·.typeName)).filter (· ∉ [clientType, model.name])).eraseDups with
  | nil => exact ⟨' ', _, by decide, by simp [opening]; rfl⟩
  | cons name names => exact ⟨',', _, by decide, by simp [opening]; rfl⟩

theorem takeWhile_front {α : Type} {holds : α → Bool} {front rest : List α} {a : α}
    (all : ∀ b ∈ front, holds b = true) (ends : holds a = false) :
    (front ++ a :: rest).takeWhile holds = front := by
  rw [List.takeWhile_append_of_pos all, List.takeWhile_cons_of_neg (by simp [ends])]
  simp

theorem name_of_text {first second : Model} (left : isIdentifier first.name = true)
    (right : isIdentifier second.name = true)
    (same : (ofModel first).text = (ofModel second).text) : first.name = second.name := by
  obtain ⟨c, rest, ends, text⟩ := text_names_model first
  obtain ⟨d, others, stops, words⟩ := text_names_model second
  rw [same, words, List.append_assoc, List.append_assoc, List.append_cancel_left_eq] at text
  have cut := congrArg (List.takeWhile fun c => c.isAlphanum || c == '_') text
  rw [takeWhile_front (isIdentifier_chars right) stops,
    takeWhile_front (isIdentifier_chars left) ends] at cut
  exact (String.toList_inj.mp cut).symm

end Repository

end ModelRepositories
