import ModelRepositories.Proofs.FileTree.Growth
import ModelRepositories.Proofs.Generation.OutputTree
import ModelRepositories.Proofs.Repository.Identifier

/-!
When every model of a run keeps a file of its own. Paths of the same run can lead to one place,
since different names can have one handle; the later of the models then writes over the earlier one,
and the run succeeds all the same. That is the only way in which a repository is lost.
-/

namespace ModelRepositories

open Schema World FileTree ModelRepositories.Path

/-- Every model has a path of its own, and its repository is what is read there. -/
structure Kept (tree : FileTree) (models : List Model) (files : List Path) : Prop where
  distinct : files.Nodup
  texts : files.map tree.readText = models.map fun model => .ok (Repository.ofModel model).text

theorem readText_congr {tree : FileTree} {first second : Path}
    (same : tree.resolve first = tree.resolve second) :
    tree.readText first = tree.readText second := by
  rw [readText, readText, same]

/-- The path of every model leads to a file that one of the models with a path there has written. -/
def Recorded (output : Path) (models : List Model) (tree : FileTree) : Prop :=
  ∀ model ∈ models, ∃ place, tree.resolve (repositoryPath output model) = .ok (.present place) ∧
    ∃ writer ∈ models, tree.resolve (repositoryPath output writer) = .ok (.present place) ∧
      tree.get? place = some (.file (content writer))

section Run

variable {output : Path} {world after : World} {model : Model} {done models : List Model}

theorem recorded_writeRepository (written : output.isEmpty = false)
    (recorded : Recorded output done world.tree)
    (ran : world.performAll (writeRepository output model) = (after, .ok ())) :
    Recorded output (done ++ [model]) after.tree := by
  obtain ⟨parent, holder⟩ := exists_holderPath written model
  rcases performAll_writeRepository holder ran with ⟨-, failure, failed⟩ | ⟨made, first, wrote, -⟩
  · cases failed
  · have widens := makeDirectories_widens world.tree parent
    rw [first] at widens
    obtain ⟨grows, here, resolved, reached⟩ :=
      write_settles (steps_holder written model) (isName_fileName model) wrote
    have stays : ∀ path place, world.tree.resolve path = .ok (.present place) →
        after.tree.resolve path = .ok (.present place) := by
      intro path place known
      exact resolve_settles (widens.grows.trans grows) known (by simp)
    intro other member
    rcases List.mem_append.mp member with earlier | last
    · obtain ⟨place, known, writer, among, same, file⟩ := recorded other earlier
      refine ⟨place, stays _ _ known, ?_⟩
      -- The new file may have come over an earlier one; then the new model has written it.
      by_cases written : place = here
      · exact ⟨model, by simp, written ▸ resolved, by rw [reached, if_pos written]⟩
      · refine ⟨writer, List.mem_append_left _ among, stays _ _ same, ?_⟩
        rw [reached, if_neg written]
        rcases widens.widened place with gap | kept
        · rw [file] at gap
          cases gap
        · exact kept.trans file
    · rw [List.mem_singleton.mp last]
      exact ⟨here, resolved, model, by simp, resolved, by rw [reached, if_pos rfl]⟩

theorem recorded_writeRepositories (written : output.isEmpty = false)
    (recorded : Recorded output done world.tree)
    (ran : world.performAll (models.flatMap (writeRepository output)) = (after, .ok ())) :
    Recorded output (done ++ models) after.tree := by
  induction models generalizing done world with
  | nil =>
    rw [List.flatMap_nil, performAll_nil] at ran
    cases ran
    simpa using recorded
  | cons model rest ih =>
    rw [List.flatMap_cons, performAll_append] at ran
    rcases first : world.performAll (writeRepository output model) with ⟨next, failure | ⟨⟩⟩
    · rw [first] at ran
      cases ran
    · rw [first] at ran
      have whole := ih (recorded_writeRepository written recorded first) ran
      rwa [List.append_assoc] at whole

theorem recorded_run {files : List Path}
    (ran : world.run (writeRepositories models output) = (after, .ok files)) :
    files = models.map (repositoryPath output) ∧ Recorded output models after.tree := by
  obtain ⟨done, rfl⟩ := run_ok_iff.mp ran
  obtain ⟨prepared, first, second⟩ := performAll_actions_ok_iff.mp done
  have written := isEmpty_of_run first
  have nothing : Recorded output [] (prepared.report (.generating output models.length)).tree := by
    simp [Recorded]
  exact ⟨rfl, recorded_writeRepositories written nothing second⟩

end Run

theorem kept_iff_places {models : List Model} {output : Path} {tree : FileTree}
    (identifiers : ∀ model ∈ models, isIdentifier model.name = true)
    (distinct : (models.map (·.name)).Nodup) (recorded : Recorded output models tree) :
    Kept tree models (models.map (repositoryPath output)) ↔
      ((models.map (repositoryPath output)).map tree.resolve).Nodup := by
  constructor
  · intro kept
    have texts := kept.texts
    rw [List.map_map, List.map_inj_left] at texts
    rw [List.map_map]
    apply List.Nodup.map_on _ (List.Nodup.of_map _ distinct)
    intro first left second right same
    have read := readText_congr same
    have first_text := texts first left
    have second_text := texts second right
    simp only [Function.comp_apply] at first_text second_text
    rw [read, second_text] at first_text
    have name := Repository.name_of_text (identifiers second right) (identifiers first left)
      (Except.ok.inj first_text)
    exact List.inj_on_of_nodup_map distinct left right name.symm
  · intro places
    constructor
    · exact List.Nodup.of_map _ places
    · rw [List.map_map] at places
      rw [List.map_map, List.map_inj_left]
      intro model member
      obtain ⟨place, resolved, writer, among, same, file⟩ := recorded model member
      have own : model = writer :=
        List.inj_on_of_nodup_map places member among (resolved.trans same.symm)
      rw [← own] at file
      exact readText_of_resolve resolved file

theorem resolve_of_holds {tree : FileTree} {output : Path} {models : List Model} {model : Model}
    (written : output.isEmpty = false) (holds : HoldsRepositories output models tree)
    (member : model ∈ models) (writable : Writable output model) :
    tree.resolve (repositoryPath output model) =
      .ok (.present (tree.site output ++ fileAt (handleOf model))) := by
  obtain ⟨file, directory⟩ := repositoryTree_of_mem member
  have opens := holds.opens_holder writable directory
  rw [resolve_repository written writable.1 opens holds.linkless,
    if_neg (Nat.not_lt.mpr writable.2), holds.exact, if_pos file]

theorem places_iff_handles {world after : World} {models : List Model} {output : Path}
    {files : List Path} (direct : world.tree.Direct output)
    (ran : world.run (writeRepositories models output) = (after, .ok files)) :
    ((models.map (repositoryPath output)).map after.tree.resolve).Nodup ↔
      (models.map handleOf).Nodup := by
  obtain ⟨done, rfl⟩ := run_ok_iff.mp ran
  obtain ⟨prepared, first, -⟩ := performAll_actions_ok_iff.mp done
  have written := isEmpty_of_run first
  by_cases surfaced : (world.tree.start output).removed = 0
  · obtain ⟨-, holds, writable⟩ := run_holds direct surfaced done
    have places : (models.map (repositoryPath output)).map after.tree.resolve =
        (models.map handleOf).map fun handle =>
          .ok (.present (after.tree.site output ++ fileAt handle)) := by
      rw [List.map_map, List.map_map, List.map_inj_left]
      exact fun model member => resolve_of_holds written holds member (writable model member)
    rw [places]
    apply List.nodup_map_iff
    intro handle other same
    apply fileAt_injective
    simpa using same
  · obtain ⟨rfl, -⟩ := stranded_ok written direct.climbless (Nat.pos_of_ne_zero surfaced) done
    simp

/-- A run over models of different names keeps every repository if and only if the files lie at
different places; if nothing diverts the way to the output, that is if the handles differ. -/
theorem run_keeps_repositories_iff (world after : World) (models : List Model) (output : Path)
    (files : List Path) (identifiers : ∀ model ∈ models, isIdentifier model.name = true)
    (distinct : (models.map (·.name)).Nodup)
    (ran : world.run (writeRepositories models output) = (after, .ok files)) :
    (Kept after.tree models files ↔ (files.map after.tree.resolve).Nodup) ∧
      (world.tree.Direct output →
        (Kept after.tree models files ↔ (models.map handleOf).Nodup)) := by
  obtain ⟨rfl, recorded⟩ := recorded_run ran
  have kept := kept_iff_places identifiers distinct recorded
  exact ⟨kept, fun direct => kept.trans (places_iff_handles direct ran)⟩

theorem run_keeps_user_and_log :
    let models : List Model := [{ name := "User" }, { name := "AuditLog" }]
    let ran := (World.mk FileTree.empty []).run (writeRepositories models ⟨"out"⟩)
    ran.2.toOption =
        some [⟨"out/user/user.repository.ts"⟩, ⟨"out/auditLog/auditLog.repository.ts"⟩] ∧
      Kept ran.1.tree models
        [⟨"out/user/user.repository.ts"⟩, ⟨"out/auditLog/auditLog.repository.ts"⟩] := by
  intro models ran
  have files : ran.2.toOption = some [⟨"out/user/user.repository.ts"⟩,
      ⟨"out/auditLog/auditLog.repository.ts"⟩] := by decide +kernel
  have direct : FileTree.empty.Direct ⟨"out"⟩ := by decide +kernel
  obtain ⟨-, handles⟩ := run_keeps_repositories_iff ⟨FileTree.empty, []⟩ ran.1 models
    ⟨"out"⟩ _ (by decide +kernel)
    (by decide +kernel) (eq_of_toOption files)
  exact ⟨files, (handles direct).mpr (by decide +kernel)⟩

/-- Two names that differ in case alone: the run succeeds, and gives one path to both models. -/
theorem run_loses_repository_of_lower_case :
    let models : List Model := [{ name := "a" }, { name := "A" }]
    let ran := (World.mk FileTree.empty []).run (writeRepositories models ⟨"out"⟩)
    (∀ model ∈ models, isIdentifier model.name = true) ∧ (models.map (·.name)).Nodup ∧
      ran.2.toOption = some [⟨"out/a/a.repository.ts"⟩, ⟨"out/a/a.repository.ts"⟩] ∧
      ∀ files, ran.2.toOption = some files → ¬ Kept ran.1.tree models files := by
  intro models ran
  have files : ran.2.toOption = some [⟨"out/a/a.repository.ts"⟩, ⟨"out/a/a.repository.ts"⟩] := by
    decide +kernel
  refine ⟨by decide +kernel, by decide +kernel, files, ?_⟩
  intro paths same kept
  rw [files] at same
  obtain rfl := Option.some.inj same
  exact absurd kept.distinct (by decide +kernel)

end ModelRepositories
