import ModelRepositories.Proofs.FileTree.Writing
import ModelRepositories.Proofs.Repository.Place

/-!
What the parts of the script do to the tree: the output directory is made and emptied, then every
model has its directory made and its file written. Where a part fails, the tree is what was reached.
-/

namespace ModelRepositories

open Schema World FileTree ModelRepositories.Path

namespace FileTree

def Linkless (tree : FileTree) (path : Path) : Prop :=
  ∀ place, strictlyWithin (tree.site path) place = true →
    ∀ target, tree.get? place ≠ some (.link target)

end FileTree

def preparation (output : Path) : List Action :=
  [.makeDirectories output, .emptyDirectory output]

def content (model : Model) : ByteArray :=
  (Repository.ofModel model).text.toUTF8

theorem mapError_ok {ε δ α : Type} (rename : ε → δ) (result : α) :
    (Except.ok result : Except ε α).mapError rename = .ok result := rfl

theorem mapError_error {ε δ α : Type} (rename : ε → δ) (fault : ε) :
    (Except.error fault : Except ε α).mapError rename = .error (rename fault) := rfl

theorem performAll_preparation {world after : World} {outcome : Except Failure Unit}
    {output : Path} (ran : world.performAll (preparation output) = (after, outcome)) :
    (after.tree = (world.tree.makeDirectories output).1 ∧ ∃ failure, outcome = .error failure) ∨
    ∃ made, world.tree.makeDirectories output = (made, .ok ()) ∧
      after.tree = (made.emptyDirectory output).1 ∧
      (outcome = .ok () ↔ (made.emptyDirectory output).2 = .ok ()) := by
  rw [preparation, performAll_cons, perform_makeDirectories] at ran
  rcases first : world.tree.makeDirectories output with ⟨made, fault | ⟨⟩⟩
  · rw [first] at ran
    cases ran
    exact Or.inl ⟨rfl, _, rfl⟩
  · rw [first] at ran
    simp only [mapError_ok, performAll_cons, performAll_nil, perform_emptyDirectory] at ran
    refine Or.inr ⟨made, rfl, ?_⟩
    rcases second : made.emptyDirectory output with ⟨emptied, fault | ⟨⟩⟩
    · rw [second] at ran
      cases ran
      simp
    · rw [second] at ran
      cases ran
      simp

theorem performAll_preparation_ok {world : World} {made emptied : FileTree} {output : Path}
    (first : world.tree.makeDirectories output = (made, .ok ()))
    (second : made.emptyDirectory output = (emptied, .ok ())) :
    world.performAll (preparation output) = ({ world with tree := emptied }, .ok ()) := by
  simp only [preparation, performAll_cons, performAll_nil, perform_makeDirectories,
    perform_emptyDirectory, first, second, mapError_ok]

theorem performAll_writeRepository {world after : World} {outcome : Except Failure Unit}
    {output parent : Path} {model : Model} (holder : HolderPath output model parent)
    (ran : world.performAll (writeRepository output model) = (after, outcome)) :
    (after.tree = (world.tree.makeDirectories parent).1 ∧ ∃ failure, outcome = .error failure) ∨
    ∃ made, world.tree.makeDirectories parent = (made, .ok ()) ∧
      made.write (repositoryPath output model) (content model) = .ok after.tree ∧
      outcome = .ok () := by
  simp only [writeRepository, makeParent, holder.above, Option.map_some, Option.toList_some,
    List.cons_append, List.nil_append, performAll_cons, performAll_nil, perform_report,
    perform_makeDirectories, perform_write] at ran
  rcases first : world.tree.makeDirectories parent with ⟨made, fault | ⟨⟩⟩
  · simp only [report, first, mapError_error] at ran
    cases ran
    exact Or.inl ⟨rfl, _, rfl⟩
  · simp only [report, first, mapError_ok] at ran
    cases wrote :
        made.write (repositoryPath output model) (Repository.ofModel model).text.toUTF8 with
    | error fault =>
      rw [wrote] at ran
      cases ran
      exact Or.inl ⟨rfl, _, rfl⟩
    | ok tree =>
      rw [wrote] at ran
      cases ran
      exact Or.inr ⟨made, rfl, wrote, rfl⟩

theorem performAll_writeRepository_ok {world : World} {output parent : Path} {model : Model}
    (holder : HolderPath output model parent) {made wrote : FileTree}
    (first : world.tree.makeDirectories parent = (made, .ok ()))
    (second : made.write (repositoryPath output model) (content model) = .ok wrote) :
    ∃ after, world.performAll (writeRepository output model) = (after, .ok ()) ∧
      after.tree = wrote := by
  have second : made.write (repositoryPath output model)
      (Repository.ofModel model).text.toUTF8 = .ok wrote := second
  simp only [writeRepository, makeParent, holder.above, Option.map_some, Option.toList_some,
    List.cons_append, List.nil_append, performAll_cons, performAll_nil, perform_report,
    perform_makeDirectories, perform_write, report, first, second, mapError_ok]
  exact ⟨_, rfl, rfl⟩

section Repository

variable {tree : FileTree} {output parent : Path} {model : Model}

theorem climbless_holderAt (model : Model) : ".." ∉ holderAt (handleOf model) := by
  intro member
  have held : ".." ∈ fileAt (handleOf model) := by
    rw [fileAt_eq]
    exact List.mem_append_left _ member
  exact absurd (isName_of_mem_fileAt held) (by decide)

theorem climbless_holder (holder : HolderPath output model parent)
    (climbless : ".." ∉ output.names) : ".." ∉ parent.names := by
  rw [holder.names, List.mem_append]
  exact not_or.mpr ⟨climbless, climbless_holderAt model⟩

theorem climbless_repositoryPath (written : output.isEmpty = false)
    (climbless : ".." ∉ output.names) (model : Model) :
    ".." ∉ (repositoryPath output model).names := by
  rw [Path.names, pieces_repositoryPath written, proper_append, proper_fileAt, List.mem_append]
  apply not_or.mpr
  constructor
  · exact climbless
  · intro climbs
    exact absurd (isName_of_mem_fileAt climbs) (by decide)

theorem start_holder (holder : HolderPath output model parent) :
    tree.start parent = tree.start output := by
  rw [start, start, holder.isAbsolute]

theorem site_holder (holder : HolderPath output model parent) :
    tree.site parent = tree.site output ++ holderAt (handleOf model) := by
  rw [site, site, start_holder holder, holder.names, List.append_assoc]

theorem direct_holder (holder : HolderPath output model parent)
    (opens : tree.Opens (tree.start output) output.names) (linkless : tree.Linkless output) :
    tree.Direct parent := by
  refine ⟨climbless_holder holder opens.climbless, ?_⟩
  intro _
  rw [start_holder holder, holder.names]
  intro front prefixed target
  have whole : (tree.start output).place ++ front <+:
      tree.site output ++ holderAt (handleOf model) := by
    rw [site, List.append_assoc]
    exact (List.prefix_append_right_inj _).mpr prefixed
  rcases prefix_or_strictlyWithin whole with above | inside
  · rw [get?_front opens.directory above]
    simp
  · exact linkless _ inside target

theorem steps_holder (written : output.isEmpty = false) (model : Model) :
    (repositoryPath output model).steps =
      (output.pieces ++ holderAt (handleOf model)) ++ [fileName (handleOf model)] := by
  rw [steps_repositoryPath written, fileAt_eq, List.append_assoc]

theorem prefix_of_prefix_holderAt {place site : Location} {handle : String}
    (prefixed : place <+: site ++ holderAt handle) :
    place = site ++ holderAt handle ∨ place <+: site := by
  unfold holderAt at prefixed ⊢
  by_cases nameless : handle = ""
  · rw [if_pos nameless, List.append_nil] at prefixed
    exact Or.inr prefixed
  · rw [if_neg nameless] at prefixed ⊢
    exact List.prefix_concat_iff.mp prefixed

/-- The directory of a repository is there and opens, and nothing else is new. -/
structure HolderMade (output : Path) (model : Model) (tree made : FileTree) : Prop where
  start : made.start output = tree.start output
  opens : made.Opens (made.start output) (output.names ++ holderAt (handleOf model))
  reached : ∀ place, made.get? place =
    if place = tree.site output ++ holderAt (handleOf model) then some .directory
    else tree.get? place

theorem HolderMade.site {made : FileTree} (holds : HolderMade output model tree made) :
    made.site output = tree.site output := by
  rw [FileTree.site, FileTree.site, holds.start]

theorem HolderMade.linkless {made : FileTree} (holds : HolderMade output model tree made)
    (linkless : tree.Linkless output) : made.Linkless output := by
  intro place inside target
  rw [holds.reached]
  split
  · simp
  · rw [holds.site] at inside
    exact linkless place inside target

theorem makeDirectories_holder (holder : HolderPath output model parent)
    (opens : tree.Opens (tree.start output) output.names) (linkless : tree.Linkless output)
    {made : FileTree} (done : tree.makeDirectories parent = (made, .ok ())) :
    HolderMade output model tree made := by
  have direct := direct_holder holder opens linkless
  have surfaced : (tree.start parent).removed = 0 := by
    rw [start_holder holder]
    exact opens.surfaced
  have paved := makeDirectories_paved direct surfaced
  rw [done] at paved
  have kept := start_eq output paved.home
  have opened := (makeDirectories_ok direct surfaced holder.written done).2
  rw [start_holder holder, holder.names] at opened
  refine ⟨kept, kept ▸ opened, ?_⟩
  intro place
  split
  · next here =>
    rw [here, site, List.append_assoc]
    exact (isDirectory_iff made _).mp opened.directory
  · next other =>
    rcases paved.paved place with same | ⟨gap, prefixed, -⟩
    · exact same
    · rw [site_holder holder] at prefixed
      rcases prefix_of_prefix_holderAt prefixed with here | above
      · exact absurd here other
      · rw [get?_front opens.directory above] at gap
        cases gap

theorem proper_holder_pieces (output : Path) (model : Model) :
    proper (output.pieces ++ holderAt (handleOf model)) =
      output.names ++ holderAt (handleOf model) := by
  rw [proper_append, proper_holderAt]
  rfl

theorem place_repository (written : output.isEmpty = false) (tree : FileTree) (model : Model) :
    (tree.start (repositoryPath output model)).place ++
        proper (output.pieces ++ holderAt (handleOf model)) ++ [fileName (handleOf model)] =
      tree.site output ++ fileAt (handleOf model) := by
  rw [repositoryPath, start_join written (isAbsolute_path model), proper_holder_pieces, site,
    fileAt_eq]
  simp only [List.append_assoc]

theorem opens_repository (written : output.isEmpty = false)
    (opens : tree.Opens (tree.start output) (output.names ++ holderAt (handleOf model))) :
    tree.Opens (tree.start (repositoryPath output model))
      (proper (output.pieces ++ holderAt (handleOf model))) := by
  rwa [repositoryPath, start_join written (isAbsolute_path model), proper_holder_pieces]

theorem unlinked_repository (linkless : tree.Linkless output) (model : Model) (target : Path) :
    tree.get? (tree.site output ++ fileAt (handleOf model)) ≠ some (.link target) := by
  obtain ⟨name, rest, first⟩ := exists_fileAt (handleOf model)
  apply linkless
  rw [first]
  exact strictlyWithin_iff.mpr ⟨name, rest, rfl⟩

theorem resolve_repository (written : output.isEmpty = false)
    (passed : (repositoryPath output model).check = .ok ())
    (opens : tree.Opens (tree.start output) (output.names ++ holderAt (handleOf model)))
    (linkless : tree.Linkless output) :
    tree.resolve (repositoryPath output model) =
      if maxNameBytes < (fileName (handleOf model)).utf8ByteSize then .error .nameTooLong
      else if (tree.get? (tree.site output ++ fileAt (handleOf model))).isSome then
        .ok (.present (tree.site output ++ fileAt (handleOf model)))
      else .ok (.absent (tree.site output ++ fileAt (handleOf model))) := by
  have unlinked := unlinked_repository linkless model
  rw [← place_repository written] at unlinked ⊢
  exact resolve_entry passed (steps_holder written model) (opens_repository written opens)
    (isName_fileName model) unlinked

theorem write_repository_eq (written : output.isEmpty = false)
    (passed : (repositoryPath output model).check = .ok ())
    (opens : tree.Opens (tree.start output) (output.names ++ holderAt (handleOf model)))
    (linkless : tree.Linkless output) (bytes : ByteArray) :
    tree.write (repositoryPath output model) bytes =
      if maxNameBytes < (fileName (handleOf model)).utf8ByteSize then .error .nameTooLong
      else if tree.isDirectory (tree.site output ++ fileAt (handleOf model)) then
        .error .isDirectory
      else .ok (tree.put (tree.site output ++ fileAt (handleOf model)) (.file bytes)) := by
  have unlinked := unlinked_repository linkless model
  rw [← place_repository written] at unlinked ⊢
  exact write_entry passed (steps_holder written model) (opens_repository written opens)
    (isName_fileName model) unlinked bytes

theorem write_repository (written : output.isEmpty = false)
    (opens : tree.Opens (tree.start output) (output.names ++ holderAt (handleOf model)))
    (linkless : tree.Linkless output) {bytes : ByteArray} {after : FileTree}
    (wrote : tree.write (repositoryPath output model) bytes = .ok after) :
    (repositoryPath output model).check = .ok () ∧
      (fileName (handleOf model)).utf8ByteSize ≤ maxNameBytes ∧
      tree.canHold (tree.site output ++ fileAt (handleOf model)) = true ∧
      after = tree.put (tree.site output ++ fileAt (handleOf model)) (.file bytes) := by
  have passed := check_of_write wrote
  rw [write_repository_eq written passed opens linkless] at wrote
  split at wrote
  · cases wrote
  · next bounded =>
    split at wrote
    · cases wrote
    · next free =>
      cases wrote
      refine ⟨passed, Nat.le_of_not_lt bounded, ?_, rfl⟩
      have directory := opens.directory
      rw [isDirectory_iff] at free
      rw [← List.append_assoc] at directory
      rw [fileAt_eq, ← List.append_assoc] at free ⊢
      exact canHold_concat (isName_fileName model) directory free

end Repository

theorem run_fst {α : Type} (world : World) (script : Script α) :
    (world.run script).1 = (world.performAll script.actions).1 := by
  rw [run_eq]
  rcases world.performAll script.actions with ⟨after, failure | ⟨⟩⟩ <;> rfl

theorem eq_of_toOption {α : Type} {ran : World × Except Failure α} {result : α}
    (succeeded : ran.2.toOption = some result) : ran = (ran.1, .ok result) := by
  rcases ran with ⟨after, failure | reached⟩
  · cases succeeded
  · cases succeeded
    rfl

theorem performAll_actions (world : World) (models : List Model) (output : Path) :
    world.performAll (writeRepositories models output).actions =
      match world.performAll (preparation output) with
      | (after, .ok ()) =>
        (after.report (.generating output models.length)).performAll
          (models.flatMap (writeRepository output))
      | (after, .error failure) => (after, .error failure) :=
  performAll_append world (preparation output) _

theorem run_ok_iff {world after : World} {models : List Model} {output : Path} {files : List Path} :
    world.run (writeRepositories models output) = (after, .ok files) ↔
      world.performAll (writeRepositories models output).actions = (after, .ok ()) ∧
        files = models.map (repositoryPath output) := by
  rw [run_eq]
  rcases world.performAll (writeRepositories models output).actions with ⟨reached, failure | ⟨⟩⟩
  · simp
  · simp [writeRepositories, eq_comm]

/-- A run that succeeds has emptied its output, and written the models from there. -/
theorem performAll_actions_ok_iff {world after : World} {models : List Model} {output : Path} :
    world.performAll (writeRepositories models output).actions = (after, .ok ()) ↔
      ∃ prepared, world.performAll (preparation output) = (prepared, .ok ()) ∧
        (prepared.report (.generating output models.length)).performAll
          (models.flatMap (writeRepository output)) = (after, .ok ()) := by
  rw [performAll_actions]
  rcases world.performAll (preparation output) with ⟨prepared, failure | ⟨⟩⟩
  · simp
  · simp

theorem run_unwritten (world : World) {output : Path} (models : List Model)
    (empty : output.isEmpty = true) :
    (world.run (writeRepositories models output)).1.tree = world.tree ∧
      (world.performAll (preparation output)).2 ≠ .ok () := by
  have unnamed : output = ⟨""⟩ := by
    rcases output with ⟨text⟩
    simpa [Path.isEmpty] using empty
  subst unnamed
  have passed : (Path.mk "").check = .ok () := check_iff.mpr (by decide)
  have written : (Path.mk "").isEmpty = true := by decide
  have made : world.tree.makeDirectories ⟨""⟩ = (world.tree, .ok ()) := by
    rw [makeDirectories_eq, passed]
    simp only [written, if_true]
  have listed : world.tree.listDirectory ⟨""⟩ = .error .notFound := by
    rw [listDirectory, resolve, passed, written]
    rfl
  have emptied : world.tree.emptyDirectory ⟨""⟩ = (world.tree, .error (⟨""⟩, .notFound)) := by
    rw [emptyDirectory_eq, listed]
  have ran : world.performAll (preparation ⟨""⟩) =
      (world, .error (.access ⟨""⟩ .notFound)) := by
    simp only [preparation, performAll_cons, perform_makeDirectories, perform_emptyDirectory, made,
      emptied, mapError_ok, mapError_error]
  rw [run_fst, performAll_actions, ran]
  exact ⟨rfl, by simp⟩

theorem isEmpty_of_run {world prepared : World} {output : Path}
    (first : world.performAll (preparation output) = (prepared, .ok ())) :
    output.isEmpty = false := by
  rw [Bool.eq_false_iff]
  intro empty
  exact (run_unwritten world [] empty).2 (by rw [first])

namespace World

def preceded (earlier : List Event) (world : World) : World :=
  { world with events := earlier ++ world.events }

theorem preceded_nil (tree : FileTree) (events : List Event) :
    preceded events ⟨tree, []⟩ = ⟨tree, events⟩ := by
  rw [preceded, List.append_nil]

theorem perform_preceded (earlier : List Event) (world : World) (action : Action) :
    (world.preceded earlier).perform action =
      ((world.perform action).1.preceded earlier, (world.perform action).2) := by
  cases action with
  | report event => simp only [perform_report, report, preceded, List.append_assoc]
  | makeDirectories path => rfl
  | emptyDirectory path => rfl
  | write path content =>
    simp only [perform_write, preceded]
    cases world.tree.write path content.toUTF8 with
    | ok tree => rfl
    | error fault => rfl

theorem performAll_preceded (earlier : List Event) (world : World) (actions : List Action) :
    (world.preceded earlier).performAll actions =
      ((world.performAll actions).1.preceded earlier, (world.performAll actions).2) := by
  induction actions generalizing world with
  | nil => rfl
  | cons action rest ih =>
    rw [performAll_cons, performAll_cons, perform_preceded]
    rcases world.perform action with ⟨after, failure | ⟨⟩⟩
    · rfl
    · exact ih after

theorem run_preceded {α : Type} (earlier : List Event) (world : World) (script : Script α) :
    (world.preceded earlier).run script =
      ((world.run script).1.preceded earlier, (world.run script).2) := by
  rw [run_eq, run_eq, performAll_preceded]
  rcases world.performAll script.actions with ⟨after, failure | ⟨⟩⟩
  · rfl
  · rfl

end World

theorem performAll_of_tree {left right : World} (same : left.tree = right.tree)
    (actions : List Action) :
    (left.performAll actions).2 = (right.performAll actions).2 ∧
      (left.performAll actions).1.tree = (right.performAll actions).1.tree := by
  rcases left with ⟨tree, events⟩
  rcases right with ⟨_, others⟩
  cases same
  rw [← preceded_nil tree events, ← preceded_nil tree others, performAll_preceded,
    performAll_preceded]
  exact ⟨rfl, rfl⟩

theorem run_of_tree {α : Type} {left right : World} (same : left.tree = right.tree)
    (script : Script α) :
    (left.run script).2 = (right.run script).2 ∧
      (left.run script).1.tree = (right.run script).1.tree := by
  rcases left with ⟨tree, events⟩
  rcases right with ⟨_, others⟩
  cases same
  rw [← preceded_nil tree events, ← preceded_nil tree others, run_preceded, run_preceded]
  exact ⟨rfl, rfl⟩

end ModelRepositories
