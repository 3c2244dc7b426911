import ModelRepositories.Proofs.FileTree.Components
import ModelRepositories.Proofs.Repository.Place

/-!
The files of repositories stay below the output directory, whatever models are called: a path of a
repository is the output, the handle of the model, unless it is empty, and the name of the file.
-/

namespace ModelRepositories

open Schema ModelRepositories.Path

def holderPath (output : Path) (model : Model) : Path :=
  if handleOf model = "" then output else output.join ⟨handleOf model⟩

theorem repositoryPath_eq (output : Path) (model : Model) :
    repositoryPath output model = (holderPath output model).join ⟨fileName (handleOf model)⟩ := by
  rw [repositoryPath, path_eq, pathText, holderPath]
  split
  · rfl
  · next named => exact join_slash (isName_fileName model) output (isName_handleOf named)

theorem components_holderPath (output : Path) (model : Model) :
    (holderPath output model).components = output.components ++ holderAt (handleOf model) := by
  unfold holderPath holderAt
  split
  · rw [List.append_nil]
  · next named => exact components_join (isName_handleOf named) output

theorem components_repositoryPath (output : Path) (model : Model) :
    (repositoryPath output model).components = output.components ++ fileAt (handleOf model) := by
  rw [repositoryPath_eq, components_join (isName_fileName model), components_holderPath,
    List.append_assoc, ← fileAt_eq]

theorem components_path (model : Model) :
    (Repository.ofModel model).path.components = fileAt (handleOf model) := by
  have alone : repositoryPath ⟨""⟩ model = (Repository.ofModel model).path := by
    simp [repositoryPath, join, isAbsolute_path, isEmpty]
  rw [← alone, components_repositoryPath]
  rfl

/-- Where a repository is kept in an output directory. No file is where another repository has its
directory. -/
structure PlacedIn (output : Path) (model : Model) : Prop where
  below : output.components <+: (repositoryPath output model).components
  deeper : output.components ≠ (repositoryPath output model).components
  holder : ∃ parent, (repositoryPath output model).parent? = some parent ∧
    parent.components =
      (if handleOf model = "" then output else output.join ⟨handleOf model⟩).components
  apart : ∀ other parent, (repositoryPath output other).parent? = some parent →
    parent.components ≠ (repositoryPath output model).components

theorem placedIn (output : Path) (model : Model) : PlacedIn output model where
  below := by
    rw [components_repositoryPath]
    exact List.prefix_append _ _
  deeper := by
    obtain ⟨name, rest, first⟩ := exists_fileAt (handleOf model)
    simp [components_repositoryPath, first]
  holder := by
    rw [repositoryPath_eq]
    exact components_parent (isName_fileName model) (holderPath output model)
  apart := by
    intro other parent above same
    obtain ⟨holder, found, consists⟩ :=
      components_parent (isName_fileName other) (holderPath output other)
    rw [repositoryPath_eq output other, found] at above
    rw [← Option.some.inj above, consists, components_holderPath, components_repositoryPath,
      List.append_cancel_left_eq] at same
    exact fileAt_ne_holderAt _ other same.symm

/-- Any name of a model, any output directory. -/
theorem repository_confined (model : Model) :
    (∀ c ∈ (handleOf model).toList, c.toNat < 0x80 → c.isAlphanum = true) ∧
      (Repository.ofModel model).path.isAbsolute = false ∧
      (Repository.ofModel model).path.components =
        (if handleOf model = "" then [".repository.ts"]
        else [handleOf model, handleOf model ++ ".repository.ts"]) ∧
      (∀ name ∈ (Repository.ofModel model).path.components, isName name = true) ∧
      ∀ output, PlacedIn output model := by
  refine ⟨?_, isAbsolute_path model, ?_, ?_, fun output => placedIn output model⟩
  · intro c member ascii
    have proper := Text.isWordChar_camelCase model.name c member
    simpa [Text.isWordChar, Nat.not_le.mpr ascii] using proper
  · rw [components_path, fileAt]
    by_cases nameless : handleOf model = "" <;> simp [nameless, fileName]
  · rw [components_path]
    exact fun name => isName_of_mem_fileAt

theorem repository_confined_climbing :
    let model : Model := { name := "../\u0130/etc\x00" }
    let nameless : Model := { name := "../" }
    let output : Path := ⟨"./gen//."⟩
    handleOf model = "i\u0307Etc" ∧ 'E' ∈ (handleOf model).toList ∧ 'E'.isAlphanum = true ∧
      (repositoryPath output model).text = "./gen//./i\u0307Etc/i\u0307Etc.repository.ts" ∧
      "i\u0307Etc" ∈ (Repository.ofModel model).path.components ∧ isName "i\u0307Etc" = true ∧
      (repositoryPath output nameless).parent? = some ⟨"./gen"⟩ ∧
      (Path.mk "./gen").components ≠ (repositoryPath output model).components := by
  intro model nameless output
  obtain ⟨letters, -, -, names, placed⟩ := repository_confined model
  have handle : handleOf model = "i\u0307Etc" := by decide +kernel
  have inside : 'E' ∈ (handleOf model).toList := by
    rw [handle]
    decide
  have part : "i\u0307Etc" ∈ (Repository.ofModel model).path.components := by decide +kernel
  have above : (repositoryPath output nameless).parent? = some ⟨"./gen"⟩ := by decide +kernel
  exact ⟨handle, inside, letters 'E' inside (by decide), by decide +kernel, part, names _ part,
    above, (placed output).apart nameless _ above⟩

end ModelRepositories
