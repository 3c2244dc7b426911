import ModelRepositories.Generation.Write
import ModelRepositories.Proofs.FileTree.PathNames
import ModelRepositories.Proofs.Text.CamelCase

/-!
Where the repository of a model is written. Whatever the model is called, its path leads one or two
names down from the output directory: the handle holds no slash and no dot, so neither it nor the
name of the file can be absolute, climb out or stand still.
-/

namespace ModelRepositories

open Schema ModelRepositories.Path

/-- The model name in lower camel case, which everything that is written for it is called by. -/
def handleOf (model : Model) : String :=
  (Repository.ofModel model).handle

def fileName (handle : String) : String :=
  handle ++ ".repository.ts"

/-- The names that lead to a repository from the output directory. -/
def fileAt (handle : String) : Location :=
  if handle = "" then [fileName handle] else [handle, fileName handle]

/-- The names that lead to the directory of a repository. -/
def holderAt (handle : String) : Location :=
  if handle = "" then [] else [handle]

theorem fileAt_eq (handle : String) : fileAt handle = holderAt handle ++ [fileName handle] := by
  unfold fileAt holderAt
  split <;> rfl

theorem exists_fileAt (handle : String) : ∃ name rest, fileAt handle = name :: rest := by
  unfold fileAt
  split <;> exact ⟨_, _, rfl⟩

theorem fileName_injective {first second : String} (same : fileName first = fileName second) :
    first = second := by
  have same := congrArg String.toList same
  simp only [fileName, String.toList_append, List.append_cancel_right_eq] at same
  exact String.toList_inj.mp same

theorem fileAt_injective {first second : String} (same : fileAt first = fileAt second) :
    first = second := by
  rw [fileAt_eq, fileAt_eq] at same
  obtain ⟨-, last⟩ := List.append_inj' same rfl
  exact fileName_injective (List.singleton_inj.mp last)

theorem notWordChar_of_mem_handleOf {model : Model} {c : Char}
    (foreign : Text.isWordChar c = false) : c ∉ (handleOf model).toList := by
  intro member
  have proper := Text.isWordChar_camelCase model.name c member
  rw [foreign] at proper
  cases proper

theorem isName_handleOf {model : Model} (named : handleOf model ≠ "") :
    isName (handleOf model) = true := by
  have dotless : '.' ∉ (handleOf model).toList := notWordChar_of_mem_handleOf (by decide)
  refine isName_iff.mpr ⟨named, notWordChar_of_mem_handleOf (by decide), ?_, ?_⟩
  · intro here
    exact dotless (by rw [here]; decide)
  · intro above
    exact dotless (by rw [above]; decide)

theorem isName_fileName (model : Model) : isName (fileName (handleOf model)) = true := by
  have free : '/' ∉ (handleOf model).toList := notWordChar_of_mem_handleOf (by decide)
  have long : ∀ short : String, short.length < 14 → fileName (handleOf model) ≠ short := by
    intro short bound same
    have length := congrArg String.length same
    simp only [fileName, String.length_append] at length
    have suffix : ".repository.ts".length = 14 := by decide
    omega
  refine isName_iff.mpr ⟨long "" (by decide), ?_, long "." (by decide), long ".." (by decide)⟩
  simp only [fileName, String.toList_append, List.mem_append, not_or]
  exact ⟨free, by decide⟩

theorem isName_of_mem_fileAt {model : Model} {name : String}
    (member : name ∈ fileAt (handleOf model)) : isName name = true := by
  have file := isName_fileName model
  unfold fileAt at member
  split at member
  · rwa [List.mem_singleton.mp member]
  · next named =>
    rcases List.mem_cons.mp member with rfl | last
    · exact isName_handleOf named
    · rwa [List.mem_singleton.mp last]

theorem fileAt_ne_holderAt (first : String) (model : Model) :
    fileAt first ≠ holderAt (handleOf model) := by
  intro same
  have dotless : '.' ∉ (handleOf model).toList := notWordChar_of_mem_handleOf (by decide)
  have dotted : '.' ∈ (fileName first).toList := by
    rw [fileName, String.toList_append, List.mem_append]
    exact Or.inr (by decide)
  unfold fileAt holderAt at same
  -- Where both have one name, the dot in that of the file tells them apart.
  split at same
  · split at same
    · cases same
    · rw [List.singleton_inj.mp same] at dotted
      exact dotless dotted
  · split at same <;> simp at same

def pathText (handle : String) : String :=
  if handle = "" then fileName handle else handle ++ "/" ++ fileName handle

theorem path_eq (model : Model) :
    (Repository.ofModel model).path = ⟨pathText (handleOf model)⟩ := by
  have relative := isAbsolute_of_isName (isName_fileName model)
  rw [Repository.path, pathText]
  change (Path.mk (handleOf model)).join ⟨fileName (handleOf model)⟩ = _
  by_cases nameless : handleOf model = ""
  · rw [if_pos nameless, join, relative, nameless]
    rfl
  · have ending := endsInSlash_of_isName "" (isName_handleOf nameless)
    rw [String.empty_append] at ending
    rw [if_neg nameless, join, relative, ending]
    simp [isEmpty, nameless]

theorem isAbsolute_path (model : Model) : (Repository.ofModel model).path.isAbsolute = false := by
  rw [path_eq, pathText]
  split
  · exact isAbsolute_of_isName (isName_fileName model)
  · next named => exact isAbsolute_slash (isName_handleOf named) _

theorem pieces_path (model : Model) :
    (Repository.ofModel model).path.pieces = fileAt (handleOf model) := by
  have file := pieces_of_isName (isName_fileName model)
  rw [path_eq, pathText, fileAt]
  split
  · exact file
  · next named => rw [pieces_slash, file, pieces_of_isName (isName_handleOf named)]; rfl

section Output

variable {output : Path}

theorem pieces_repositoryPath (written : output.isEmpty = false) (model : Model) :
    (repositoryPath output model).pieces = output.pieces ++ fileAt (handleOf model) := by
  rw [repositoryPath, pieces_join written (isAbsolute_path model), pieces_path]

theorem isAbsolute_repositoryPath (written : output.isEmpty = false) (model : Model) :
    (repositoryPath output model).isAbsolute = output.isAbsolute :=
  isAbsolute_join written (isAbsolute_path model)

theorem proper_fileAt (model : Model) :
    proper (fileAt (handleOf model)) = fileAt (handleOf model) := by
  apply List.filter_eq_self.mpr
  intro name member
  simpa using (isName_iff.mp (isName_of_mem_fileAt member)).2.2.1

theorem proper_holderAt (model : Model) :
    proper (holderAt (handleOf model)) = holderAt (handleOf model) := by
  have whole := proper_fileAt model
  obtain ⟨-, -, notHere, -⟩ := isName_iff.mp (isName_fileName model)
  rw [fileAt_eq, proper_append, proper_cons notHere, proper_nil] at whole
  exact List.append_cancel_right whole

/-- It does not end in a slash, so it is looked up by its pieces. -/
theorem steps_repositoryPath (written : output.isEmpty = false) (model : Model) :
    (repositoryPath output model).steps = output.pieces ++ fileAt (handleOf model) := by
  obtain ⟨start, -, joined⟩ := join_eq written
  have last : (repositoryPath output model).endsInSlash = false := by
    have suffix : ∃ front, pathText (handleOf model) = front ++ ".repository.ts" := by
      unfold pathText fileName
      split
      · exact ⟨handleOf model, rfl⟩
      · exact ⟨handleOf model ++ "/" ++ handleOf model, (String.append_assoc ..).symm⟩
    obtain ⟨front, suffix⟩ := suffix
    have letter : ".repository.ts".toList.getLast? = some 's' := by decide
    rw [repositoryPath, joined _ (isAbsolute_path model), path_eq, suffix, endsInSlash]
    simp only [String.toList_append, List.getLast?_append, letter, Option.some_or]
    decide
  rw [steps, last, pieces_repositoryPath written]
  rfl

structure HolderPath (output : Path) (model : Model) (parent : Path) : Prop where
  above : (repositoryPath output model).parent? = some parent
  names : parent.names = output.names ++ holderAt (handleOf model)
  isAbsolute : parent.isAbsolute = output.isAbsolute
  written : parent.isEmpty = false
  longer : ∃ back, (repositoryPath output model).text = parent.text ++ back
  pieces : handleOf model ≠ "" → parent.pieces = output.pieces ++ [handleOf model]

theorem exists_holderPath (written : output.isEmpty = false) (model : Model) :
    ∃ parent, HolderPath output model parent := by
  have whole : repositoryPath output model = output.join ⟨pathText (handleOf model)⟩ := by
    rw [repositoryPath, path_eq]
  by_cases nameless : handleOf model = ""
  · obtain ⟨parent, above, names, start, opened, longer⟩ :=
      parent?_join written (isName_fileName model)
    rw [pathText, if_pos nameless] at whole
    refine ⟨parent, ?_, ?_, start, opened, ?_, fun named => absurd nameless named⟩
    · rw [whole]
      exact above
    · rw [names, holderAt, if_pos nameless, List.append_nil]
    · rw [whole]
      exact longer
  · have dir := isName_handleOf nameless
    have relative := isAbsolute_of_isName dir
    obtain ⟨above, longer⟩ := parent?_join_slash written dir (isName_fileName model)
    rw [pathText, if_neg nameless] at whole
    have pieces : (output.join ⟨handleOf model⟩).pieces = output.pieces ++ [handleOf model] := by
      rw [pieces_join written relative, pieces_of_isName dir]
    refine ⟨output.join ⟨handleOf model⟩, ?_, ?_, isAbsolute_join written relative,
      isEmpty_join written relative, ?_, fun _ => pieces⟩
    · rw [whole]
      exact above
    · obtain ⟨-, -, notHere, -⟩ := isName_iff.mp dir
      rw [Path.names, pieces, proper_append, proper_cons notHere, holderAt, if_neg nameless]
      rfl
    · rw [whole]
      exact ⟨_, longer⟩

theorem check_entry (written : output.isEmpty = false) {model : Model} {name : String}
    {rest : List String} (first : fileAt (handleOf model) = name :: rest)
    (passed : (repositoryPath output model).check = .ok ()) :
    (output.join ⟨name⟩).check = .ok () := by
  obtain ⟨start, -, joined⟩ := join_eq written
  have called : isName name = true := isName_of_mem_fileAt (by rw [first]; simp)
  have begins : ∃ back, pathText (handleOf model) = name ++ back := by
    unfold fileAt at first
    unfold pathText
    split at first
    · next nameless =>
      obtain ⟨rfl, -⟩ := List.cons.inj first
      exact ⟨"", by rw [if_pos nameless, String.append_empty]⟩
    · next named =>
      obtain ⟨rfl, -⟩ := List.cons.inj first
      exact ⟨"/" ++ fileName (handleOf model), by rw [if_neg named, String.append_assoc]⟩
  obtain ⟨back, text⟩ := begins
  have whole : repositoryPath output model = ⟨start ++ "/" ++ name ++ back⟩ := by
    rw [repositoryPath, joined _ (isAbsolute_path model), path_eq, text]
    simp only [String.append_assoc]
  rw [joined _ (isAbsolute_of_isName called)]
  rw [whole] at passed
  exact check_of_longer back passed

end Output

end ModelRepositories
