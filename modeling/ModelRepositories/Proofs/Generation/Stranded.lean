import ModelRepositories.Proofs.Generation.Steps

/-!
Runs in a directory that was removed. Nothing can be made, emptied or written from there, so such a
run changes nothing, and it comes through only if there is nothing to write.
-/

namespace ModelRepositories

open Schema World FileTree ModelRepositories.Path

def Action.path? : Action → Option Path
  | .report _ => none
  | .makeDirectories path => some path
  | .emptyDirectory path => some path
  | .write path _ => some path

theorem perform_stranded {world : World} {action : Action}
    (stranded : ∀ path ∈ action.path?,
      0 < (world.tree.start path).removed ∧ ".." ∉ path.names) :
    (world.perform action).1.tree = world.tree := by
  cases action with
  | report event => rfl
  | makeDirectories path =>
    obtain ⟨gone, climbless⟩ := stranded path rfl
    exact makeDirectories_stranded gone climbless
  | emptyDirectory path =>
    obtain ⟨gone, climbless⟩ := stranded path rfl
    exact emptyDirectory_stranded gone climbless
  | write path text =>
    obtain ⟨gone, climbless⟩ := stranded path rfl
    obtain ⟨fault, refused⟩ := write_stranded gone climbless text.toUTF8
    simp only [perform_write, refused]

theorem performAll_stranded {world : World} {actions : List Action}
    (stranded : ∀ action ∈ actions, ∀ path ∈ action.path?,
      0 < (world.tree.start path).removed ∧ ".." ∉ path.names) :
    (world.performAll actions).1.tree = world.tree := by
  induction actions generalizing world with
  | nil => rfl
  | cons action rest ih =>
    have same := perform_stranded (stranded action (by simp))
    rw [performAll_cons]
    split
    · next after performed =>
      rw [performed] at same
      refine (ih ?_).trans same
      intro other member path named
      rw [same]
      exact stranded other (List.mem_cons_of_mem action member) path named
    · next after failure performed =>
      rw [performed] at same
      exact same

/-- Every path of the script starts where the output does, and climbs no more than it does. -/
theorem path_of_mem_actions {models : List Model} {output : Path} (written : output.isEmpty = false)
    (climbless : ".." ∉ output.names) {action : Action}
    (member : action ∈ (writeRepositories models output).actions) {path : Path}
    (named : path ∈ action.path?) :
    path.isAbsolute = output.isAbsolute ∧ ".." ∉ path.names := by
  simp only [writeRepositories, List.mem_append, List.mem_cons, List.not_mem_nil, or_false,
    List.mem_flatMap] at member
  rcases member with (rfl | rfl | rfl) | ⟨model, -, member⟩
  · cases named
    exact ⟨rfl, climbless⟩
  · cases named
    exact ⟨rfl, climbless⟩
  · cases named
  · obtain ⟨parent, holder⟩ := exists_holderPath written model
    simp only [writeRepository, makeParent, holder.above, Option.map_some, Option.toList_some,
      List.cons_append, List.nil_append, List.mem_cons, List.not_mem_nil, or_false] at member
    rcases member with rfl | rfl | rfl | rfl
    · cases named
    · cases named
      exact ⟨holder.isAbsolute, climbless_holder holder climbless⟩
    · obtain rfl : repositoryPath output model = path := Option.some.inj named
      exact ⟨isAbsolute_repositoryPath written model,
        climbless_repositoryPath written climbless model⟩
    · cases named

theorem run_stranded {world : World} {output : Path} (models : List Model)
    (climbless : ".." ∉ output.names) (gone : 0 < (world.tree.start output).removed)
    (written : output.isEmpty = false) :
    (world.run (writeRepositories models output)).1.tree = world.tree := by
  rw [run_fst]
  apply performAll_stranded
  intro action member path named
  obtain ⟨start, descends⟩ := path_of_mem_actions written climbless member named
  constructor
  · rwa [FileTree.start, start]
  · exact descends

theorem writeRepository_stranded {world after : World} {output : Path} {model : Model}
    (written : output.isEmpty = false) (climbless : ".." ∉ output.names)
    (gone : 0 < (world.tree.start output).removed) :
    world.performAll (writeRepository output model) ≠ (after, .ok ()) := by
  intro ran
  obtain ⟨parent, holder⟩ := exists_holderPath written model
  rcases performAll_writeRepository holder ran with ⟨-, failure, failed⟩ | ⟨made, first, wrote, -⟩
  · cases failed
  · have descends : ".." ∉ parent.names := by
      rw [holder.names, List.mem_append]
      exact not_or.mpr ⟨climbless, climbless_holderAt model⟩
    have same : (world.tree.makeDirectories parent).1 = world.tree :=
      makeDirectories_stranded (by rwa [start_holder holder]) descends
    rw [first] at same
    have same : made = world.tree := same
    have below := climbless_repositoryPath written climbless model
    have begins : world.tree.start (repositoryPath output model) = world.tree.start output :=
      start_join written (isAbsolute_path model)
    rw [same] at wrote
    obtain ⟨fault, refused⟩ := write_stranded (by rwa [begins]) below (content model)
    rw [refused] at wrote
    cases wrote

theorem stranded_ok {world after : World} {models : List Model} {output : Path}
    (written : output.isEmpty = false) (climbless : ".." ∉ output.names)
    (gone : 0 < (world.tree.start output).removed)
    (ran : world.performAll (writeRepositories models output).actions = (after, .ok ())) :
    models = [] ∧ world.tree.resolve output = .ok .removed ∧ after.tree = world.tree := by
  have same := run_stranded models climbless gone written
  rw [run_fst, ran] at same
  obtain ⟨prepared, first, second⟩ := performAll_actions_ok_iff.mp ran
  have untouched : prepared.tree = world.tree := by
    have kept : (world.performAll (preparation output)).1.tree = world.tree := by
      apply performAll_stranded
      intro action member path named
      simp only [preparation, List.mem_cons, List.not_mem_nil, or_false] at member
      rcases member with rfl | rfl
      · cases named
        exact ⟨gone, climbless⟩
      · cases named
        exact ⟨gone, climbless⟩
    rwa [first] at kept
  -- A file needs a directory, and none can be made: a run that succeeds writes no file.
  refine ⟨?_, ?_, same⟩
  · cases models with
    | nil => rfl
    | cons model rest =>
      rw [List.flatMap_cons, performAll_append] at second
      rcases wrote : World.performAll (prepared.report (.generating output (model :: rest).length))
        (writeRepository output model) with ⟨next, failure | ⟨⟩⟩
      · rw [wrote] at second
        cases second
      · rw [← untouched] at gone
        exact absurd wrote (writeRepository_stranded written climbless gone)
  · rcases performAll_preparation first with ⟨-, failure, failed⟩ | ⟨made, done, -, settled⟩
    · cases failed
    · have here := makeDirectories_stranded gone climbless
      rw [done] at here
      have here : made = world.tree := here
      have emptied := settled.mp rfl
      rw [here] at emptied
      rcases resolve_stranded gone climbless with removed | ⟨fault, refused⟩
      · exact removed
      · rw [emptyDirectory_eq, listDirectory, refused] at emptied
        cases emptied

end ModelRepositories
