import ModelRepositories.Proofs.Generation.Frame

/-!
What a run that succeeds leaves in its output directory. It is a function of the models alone: every
handle has its directory with its file, the last model with a handle has written it, and there is
nothing else. A second run therefore finds everything as it leaves it.
-/

namespace ModelRepositories

open Schema World FileTree ModelRepositories.Path

/--
What lies in the output directory once the models are written. At a place where files were written
is the file of the last of their models; a directory is the output itself, and what holds a file.
-/
def repositoryTree (models : List Model) (place : Location) : Option Entry :=
  match models.reverse.find? fun model => fileAt (handleOf model) = place with
  | some model => some (.file (content model))
  | none =>
    if place = [] ∨ place ∈ models.map (holderAt <| handleOf ·) then some .directory else none

theorem repositoryTree_nil (place : Location) :
    repositoryTree [] place = if place = [] then some .directory else none := by
  simp [repositoryTree]

theorem repositoryTree_concat (models : List Model) (model : Model) (place : Location) :
    repositoryTree (models ++ [model]) place =
      if place = fileAt (handleOf model) then some (.file (content model))
      else if place = holderAt (handleOf model) then some .directory
      else repositoryTree models place := by
  have reversed : (models ++ [model]).reverse = model :: models.reverse := by simp
  unfold repositoryTree
  rw [reversed, List.find?_cons]
  by_cases file : place = fileAt (handleOf model)
  · simp [file]
  · have other : ¬ fileAt (handleOf model) = place := fun same => file same.symm
    simp only [other, decide_false, if_neg file]
    cases found : models.reverse.find? fun model => decide (fileAt (handleOf model) = place) with
    | some earlier =>
      have here : fileAt (handleOf earlier) = place := by simpa using List.find?_some found
      have apart : ¬ place = holderAt (handleOf model) := by
        rw [← here]
        exact fileAt_ne_holderAt _ model
      simp [apart]
    | none =>
      by_cases holder : place = holderAt (handleOf model)
      · simp [holder]
      · simp [holder, List.map_append]

/-- What a place of a repository tree can hold. -/
inductive RepositoryEntry (models : List Model) (place : Location) : Option Entry → Prop
  | file {model : Model} (member : model ∈ models) (here : fileAt (handleOf model) = place) :
    RepositoryEntry models place (some (.file (content model)))
  | directory (held : place = [] ∨ ∃ model ∈ models, holderAt (handleOf model) = place) :
    RepositoryEntry models place (some .directory)
  | absent (fileless : ∀ model ∈ models, fileAt (handleOf model) ≠ place) (inside : place ≠ [])
    (holderless : ∀ model ∈ models, holderAt (handleOf model) ≠ place) :
    RepositoryEntry models place none

theorem repositoryEntry (models : List Model) (place : Location) :
    RepositoryEntry models place (repositoryTree models place) := by
  unfold repositoryTree
  split
  · next model found =>
    have member := List.mem_reverse.mp (List.mem_of_find?_eq_some found)
    exact .file member (by simpa using List.find?_some found)
  · next missing =>
    split
    · next held => exact .directory (by simpa using held)
    · next gap =>
      rw [not_or] at gap
      refine .absent ?_ gap.1 ?_
      · simpa using missing
      · simpa using gap.2

theorem repositoryTree_linkless (models : List Model) (place : Location) (target : Path) :
    repositoryTree models place ≠ some (.link target) := by
  intro same
  have entry := repositoryEntry models place
  rw [same] at entry
  cases entry

theorem repositoryTree_fileAt (models : List Model) (handle : String) :
    repositoryTree models (fileAt handle) ≠ some .directory := by
  intro same
  have entry := repositoryEntry models (fileAt handle)
  rw [same] at entry
  cases entry with
  | directory held =>
    rcases held with root | ⟨model, -, here⟩
    · obtain ⟨name, rest, first⟩ := exists_fileAt handle
      rw [first] at root
      cases root
    · exact fileAt_ne_holderAt handle model here.symm

theorem repositoryTree_holderAt (models : List Model) (model : Model) :
    repositoryTree models (holderAt (handleOf model)) = some .directory ∨
      repositoryTree models (holderAt (handleOf model)) = none ∧ handleOf model ≠ "" := by
  have entry := repositoryEntry models (holderAt (handleOf model))
  generalize repositoryTree models (holderAt (handleOf model)) = found at entry ⊢
  cases entry with
  | file member here => exact absurd here (fileAt_ne_holderAt _ model)
  | directory held => exact Or.inl rfl
  | absent fileless inside holderless =>
    exact Or.inr ⟨rfl, fun nameless => inside (by rw [holderAt, if_pos nameless])⟩

theorem repositoryTree_of_mem {models : List Model} {model : Model} (member : model ∈ models) :
    (repositoryTree models (fileAt (handleOf model))).isSome = true ∧
      repositoryTree models (holderAt (handleOf model)) = some .directory := by
  constructor
  · have entry := repositoryEntry models (fileAt (handleOf model))
    generalize repositoryTree models (fileAt (handleOf model)) = found at entry ⊢
    cases entry with
    | absent fileless inside holderless => exact absurd rfl (fileless model member)
    | _ => rfl
  · have entry := repositoryEntry models (holderAt (handleOf model))
    generalize repositoryTree models (holderAt (handleOf model)) = found at entry ⊢
    cases entry with
    | file other here => exact absurd here (fileAt_ne_holderAt _ model)
    | directory held => rfl
    | absent fileless inside holderless => exact absurd rfl (holderless model member)

theorem exists_of_repositoryTree {models : List Model} {name : String}
    (there : repositoryTree models [name] ≠ none) :
    ∃ model ∈ models, ∃ rest, fileAt (handleOf model) = name :: rest := by
  have entry := repositoryEntry models [name]
  generalize repositoryTree models [name] = found at entry there
  cases entry with
  | @file model member here => exact ⟨model, member, [], here⟩
  | directory held =>
    rcases held with root | ⟨model, member, here⟩
    · cases root
    · refine ⟨model, member, [fileName (handleOf model)], ?_⟩
      rw [fileAt_eq, here]
      rfl
  | absent => exact absurd rfl there

/-- The output directory of a tree holds the repositories of the models and nothing else. -/
structure HoldsRepositories (output : Path) (models : List Model) (tree : FileTree) : Prop where
  opens : tree.Opens (tree.start output) output.names
  exact : ∀ rest, tree.get? (tree.site output ++ rest) = repositoryTree models rest

theorem HoldsRepositories.linkless {output : Path} {models : List Model} {tree : FileTree}
    (holds : HoldsRepositories output models tree) : tree.Linkless output := by
  intro place inside target
  obtain ⟨name, rest, rfl⟩ := strictlyWithin_iff.mp inside
  rw [holds.exact]
  exact repositoryTree_linkless models _ target

def Writable (output : Path) (model : Model) : Prop :=
  (repositoryPath output model).check = .ok () ∧
    (fileName (handleOf model)).utf8ByteSize ≤ maxNameBytes

section Models

variable {output : Path} {world after : World} {model : Model} {done models : List Model}

theorem holds_writeRepository (written : output.isEmpty = false)
    (holds : HoldsRepositories output done world.tree)
    (ran : world.performAll (writeRepository output model) = (after, .ok ())) :
    HoldsRepositories output (done ++ [model]) after.tree ∧ Writable output model := by
  obtain ⟨parent, holder⟩ := exists_holderPath written model
  have grown := grown_writeRepository written holds.opens holds.linkless ran
  rcases performAll_writeRepository holder ran with ⟨-, failure, failed⟩ | ⟨made, first, wrote, -⟩
  · cases failed
  · have holding := makeDirectories_holder holder holds.opens holds.linkless first
    obtain ⟨passed, short, room, put⟩ :=
      write_repository written holding.opens (holding.linkless holds.linkless) wrote
    refine ⟨⟨grown.opens holds.opens, ?_⟩, passed, short⟩
    intro rest
    rw [grown.site, repositoryTree_concat, put, get?_put room, holding.site, holding.reached]
    simp only [List.append_cancel_left_eq]
    rw [holds.exact]

theorem check_holder {parent : Path} (holder : HolderPath output model parent)
    (passed : (repositoryPath output model).check = .ok ()) : parent.check = .ok () := by
  obtain ⟨back, longer⟩ := holder.longer
  have whole : repositoryPath output model = ⟨parent.text ++ back⟩ := by rw [← longer]
  rw [whole] at passed
  exact check_of_longer back passed

theorem short_holderAt (writable : Writable output model) :
    ∀ name ∈ holderAt (handleOf model), name.utf8ByteSize ≤ maxNameBytes := by
  intro name member
  have whole := writable.2
  rw [fileName, String.utf8ByteSize_append] at whole
  unfold holderAt at member
  split at member
  · cases member
  · rw [List.mem_singleton.mp member]
    omega

theorem HoldsRepositories.opens_holder {tree : FileTree}
    (holds : HoldsRepositories output done tree) (writable : Writable output model)
    (directory : repositoryTree done (holderAt (handleOf model)) = some .directory) :
    tree.Opens (tree.start output) (output.names ++ holderAt (handleOf model)) := by
  have opens := holds.opens
  refine ⟨opens.surfaced, ?_, ?_, ?_⟩
  · rw [List.mem_append]
    exact not_or.mpr ⟨opens.climbless, climbless_holderAt model⟩
  · intro name member
    rcases List.mem_append.mp member with above | last
    · exact opens.short name above
    · exact short_holderAt writable name last
  · rw [isDirectory_iff, ← List.append_assoc]
    exact (holds.exact _).trans directory

theorem makeDirectories_succeeds {parent : Path} (holder : HolderPath output model parent)
    {tree : FileTree} (holds : HoldsRepositories output done tree)
    (writable : Writable output model) :
    ∃ made, tree.makeDirectories parent = (made, .ok ()) := by
  have passed := check_holder holder writable.1
  have opens := holds.opens
  rcases repositoryTree_holderAt done model with directory | ⟨gap, named⟩
  · refine ⟨tree, makeDirectories_opens passed ?_⟩
    rw [start_holder holder, holder.names]
    exact holds.opens_holder writable directory
  · have single : holderAt (handleOf model) = [handleOf model] := if_neg named
    have start : tree.start parent = tree.start output := start_holder holder
    refine ⟨_, makeDirectories_vacant passed (holder.pieces named) ?_ (isName_handleOf named) ?_ ?_⟩
    · rw [start]
      exact opens
    · exact short_holderAt writable _ (by simp [single])
    · rw [start, ← single]
      exact (holds.exact _).trans gap

theorem writeRepository_succeeds (written : output.isEmpty = false)
    (holds : HoldsRepositories output done world.tree) (writable : Writable output model) :
    ∃ after, world.performAll (writeRepository output model) = (after, .ok ()) := by
  obtain ⟨parent, holder⟩ := exists_holderPath written model
  obtain ⟨made, first⟩ := makeDirectories_succeeds holder holds writable
  have holding := makeDirectories_holder holder holds.opens holds.linkless first
  have second := write_repository_eq written writable.1 holding.opens
    (holding.linkless holds.linkless) (content model)
  rw [if_neg (Nat.not_lt.mpr writable.2), if_neg] at second
  · obtain ⟨after, ran, -⟩ := performAll_writeRepository_ok holder first second
    exact ⟨after, ran⟩
  · rw [isDirectory_iff, holding.site, holding.reached, if_neg]
    · rw [holds.exact]
      exact repositoryTree_fileAt done _
    · rw [List.append_cancel_left_eq]
      exact fileAt_ne_holderAt _ model

theorem holds_writeRepositories (written : output.isEmpty = false)
    (holds : HoldsRepositories output done world.tree)
    (ran : world.performAll (models.flatMap (writeRepository output)) = (after, .ok ())) :
    HoldsRepositories output (done ++ models) after.tree ∧
      ∀ model ∈ models, Writable output model := by
  -- `done` are the models that were written before; every step moves one of the others to them.
  induction models generalizing done world with
  | nil =>
    rw [List.flatMap_nil, performAll_nil] at ran
    cases ran
    simpa using holds
  | cons model rest ih =>
    rw [List.flatMap_cons, performAll_append] at ran
    rcases first : world.performAll (writeRepository output model) with ⟨next, failure | ⟨⟩⟩
    · rw [first] at ran
      cases ran
    · rw [first] at ran
      obtain ⟨holding, writable⟩ := holds_writeRepository written holds first
      obtain ⟨whole, others⟩ := ih holding ran
      rw [List.append_assoc] at whole
      exact ⟨whole, List.forall_mem_cons.mpr ⟨writable, others⟩⟩

theorem writeRepositories_succeeds (written : output.isEmpty = false)
    (holds : HoldsRepositories output done world.tree)
    (writable : ∀ model ∈ models, Writable output model) :
    ∃ after, world.performAll (models.flatMap (writeRepository output)) = (after, .ok ()) := by
  induction models generalizing done world with
  | nil => exact ⟨world, rfl⟩
  | cons model rest ih =>
    obtain ⟨next, first⟩ := writeRepository_succeeds written holds (writable model (by simp))
    obtain ⟨holding, -⟩ := holds_writeRepository written holds first
    rw [List.flatMap_cons, performAll_append, first]
    exact ih holding fun other member => writable other (List.mem_cons_of_mem model member)

end Models

theorem holds_emptyDirectory {tree emptied : FileTree} {output : Path}
    (written : output.isEmpty = false) (passed : output.check = .ok ())
    (opens : tree.Opens (tree.start output) output.names)
    (done : tree.emptyDirectory output = (emptied, .ok ())) :
    HoldsRepositories output [] emptied ∧ Thinned output tree emptied := by
  obtain ⟨thinned, empties⟩ := emptyDirectory_thinned written passed opens
  rw [done] at thinned empties
  have opened := thinned.opens opens
  refine ⟨⟨opened, ?_⟩, thinned⟩
  intro rest
  rw [repositoryTree_nil]
  cases rest with
  | nil =>
    rw [if_pos rfl, List.append_nil]
    exact (isDirectory_iff emptied _).mp opened.directory
  | cons name rest =>
    rw [if_neg (by simp), thinned.site]
    exact empties rfl _ (strictlyWithin_iff.mpr ⟨name, rest, rfl⟩)

theorem holds_preparation {world prepared : World} {output : Path}
    (direct : world.tree.Direct output) (surfaced : (world.tree.start output).removed = 0)
    (written : output.isEmpty = false)
    (ran : world.performAll (preparation output) = (prepared, .ok ())) :
    output.check = .ok () ∧ HoldsRepositories output [] prepared.tree := by
  rcases performAll_preparation ran with ⟨-, failure, failed⟩ | ⟨made, first, reached, settled⟩
  · cases failed
  · have paved := makeDirectories_paved direct surfaced
    rw [first] at paved
    obtain ⟨passed, opens⟩ := makeDirectories_ok direct surfaced written first
    rw [← start_eq output paved.home] at opens
    constructor
    · exact passed
    · rw [reached]
      exact (holds_emptyDirectory written passed opens (Prod.ext rfl (settled.mp rfl))).1

/-- Where a run has been, another one comes through as well, and leaves all as it finds it. -/
theorem run_again {world : World} {models : List Model} {output : Path}
    (written : output.isEmpty = false) (passed : output.check = .ok ())
    (holds : HoldsRepositories output models world.tree)
    (writable : ∀ model ∈ models, Writable output model) :
    ∃ after, world.run (writeRepositories models output) =
        (after, .ok (models.map (repositoryPath output))) ∧
      ∀ place, after.tree.get? place = world.tree.get? place := by
  have first := makeDirectories_opens passed holds.opens
  -- Entries can be removed if their paths are short enough; those of the repositories are longer.
  have short : ∀ name ∈ world.tree.children (world.tree.site output),
      (output.join ⟨name⟩).check = .ok () := by
    intro name member
    have there := (mem_children _ _ name).mp member
    rw [holds.exact] at there
    obtain ⟨model, known, rest, names⟩ := exists_of_repositoryTree there
    exact check_entry written names (writable model known).1
  have emptied : world.tree.emptyDirectory output =
      ((world.tree.emptyDirectory output).1, .ok ()) :=
    Prod.ext rfl (emptyDirectory_succeeds written passed holds.opens short)
  obtain ⟨empty, thinned⟩ := holds_emptyDirectory written passed holds.opens emptied
  have prepared := performAll_preparation_ok first emptied
  let reported := World.report { world with tree := (world.tree.emptyDirectory output).1 }
    (.generating output models.length)
  have empty : HoldsRepositories output [] reported.tree := empty
  obtain ⟨after, ran⟩ := writeRepositories_succeeds written empty writable
  obtain ⟨whole, -⟩ := holds_writeRepositories written empty ran
  have grown := grown_writeRepositories written models empty.opens empty.linkless
  rw [ran] at grown
  have site : after.tree.site output = world.tree.site output := grown.site.trans thinned.site
  refine ⟨after, run_ok_iff.mpr ⟨performAll_actions_ok_iff.mpr ⟨_, prepared, ran⟩, rfl⟩, ?_⟩
  intro place
  by_cases inside : strictlyWithin (world.tree.site output) place = true
  · obtain ⟨name, rest, rfl⟩ := strictlyWithin_iff.mp inside
    rw [holds.exact, ← site, whole.exact]
    rfl
  · have apart : strictlyWithin (world.tree.site output) place = false := by simpa using inside
    calc
      after.tree.get? place = reported.tree.get? place := by
        apply grown.outside
        rw [← apart]
        exact congrArg (strictlyWithin · place) thinned.site
      _ = world.tree.get? place := thinned.outside apart

namespace FileTree

def entryBelow (tree : FileTree) (path : Path) (rest : Location) : Option Entry :=
  match tree.resolve path with
  | .ok (.present place) => tree.get? (place ++ rest)
  | .ok .removed => if rest = [] then some .directory else none
  | _ => none

end FileTree

theorem run_holds {world after : World} {models : List Model} {output : Path}
    (direct : world.tree.Direct output) (surfaced : (world.tree.start output).removed = 0)
    (ran : world.performAll (writeRepositories models output).actions = (after, .ok ())) :
    output.check = .ok () ∧ HoldsRepositories output models after.tree ∧
      ∀ model ∈ models, Writable output model := by
  obtain ⟨prepared, first, second⟩ := performAll_actions_ok_iff.mp ran
  have written := isEmpty_of_run first
  obtain ⟨passed, empty⟩ := holds_preparation direct surfaced written first
  have empty :
      HoldsRepositories output [] (prepared.report (.generating output models.length)).tree := empty
  exact ⟨passed, holds_writeRepositories written empty second⟩

/-- A run that succeeds leaves the repositories of its models and nothing else in its output,
whatever was there; the paths it gives are those of the models in their order, and another run
after it succeeds as well and changes nothing. -/
theorem run_output_exact (world after : World) (models : List Model) (output : Path)
    (files : List Path) (direct : world.tree.Direct output)
    (ran : world.run (writeRepositories models output) = (after, .ok files)) :
    files = models.map (repositoryPath output) ∧
    (∀ place, after.tree.entryBelow output place = repositoryTree models place) ∧
    ∃ again, after.run (writeRepositories models output) = (again, .ok files) ∧
      ∀ place, again.tree.get? place = after.tree.get? place := by
  obtain ⟨done, rfl⟩ := run_ok_iff.mp ran
  obtain ⟨prepared, first, -⟩ := performAll_actions_ok_iff.mp done
  have written := isEmpty_of_run first
  refine ⟨rfl, ?_⟩
  by_cases surfaced : (world.tree.start output).removed = 0
  · obtain ⟨passed, whole, writable⟩ := run_holds direct surfaced done
    constructor
    · intro place
      rw [entryBelow, resolve_opens written passed whole.opens]
      exact whole.exact place
    · exact run_again written passed whole writable
  · obtain ⟨rfl, removed, same⟩ :=
      stranded_ok written direct.climbless (Nat.pos_of_ne_zero surfaced) done
    constructor
    · intro place
      rw [entryBelow, same, removed, repositoryTree_nil]
    · obtain ⟨outcome, reached⟩ :=
        performAll_of_tree same (writeRepositories [] output).actions
      rw [done] at outcome reached
      refine ⟨(after.performAll (writeRepositories [] output).actions).1,
        run_ok_iff.mpr ⟨Prod.ext rfl outcome, rfl⟩, fun place => ?_⟩
      rw [reached]

theorem run_output_exact_over_link :
    let models : List Model := [{ name := "User" }, { name := "Post" }, { name := "user" }]
    let ran := (World.mk linkedTree []).run (writeRepositories models ⟨"out"⟩)
    linkedTree.Direct ⟨"out"⟩ ∧
      ran.2.toOption = some [⟨"out/user/user.repository.ts"⟩, ⟨"out/post/post.repository.ts"⟩,
        ⟨"out/user/user.repository.ts"⟩] ∧
      ∀ place, ran.1.tree.entryBelow ⟨"out"⟩ place = repositoryTree models place := by
  intro models ran
  have direct : linkedTree.Direct ⟨"out"⟩ := by decide +kernel
  have files : ran.2.toOption = some [⟨"out/user/user.repository.ts"⟩,
      ⟨"out/post/post.repository.ts"⟩, ⟨"out/user/user.repository.ts"⟩] := by decide +kernel
  exact ⟨direct, files, (run_output_exact _ _ models _ _ direct (eq_of_toOption files)).2.1⟩

end ModelRepositories
