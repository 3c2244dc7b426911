import ModelRepositories.Proofs.Generation.Stranded

/-!
What a run leaves alone, however far it comes. Outside the output directory nothing is lost and
nothing but directories on the way to it is new; inside it no link is made, and none is left once it
was emptied.
-/

namespace ModelRepositories

open Schema World FileTree ModelRepositories.Path

namespace FileTree

/-- Whether a place lies strictly below where a path leads. -/
def Below (tree : FileTree) (path : Path) (place : Location) : Prop :=
  (tree.start path).removed = 0 ∧ strictlyWithin (tree.site path) place = true

def UpTo (tree : FileTree) (path : Path) (place : Location) : Prop :=
  (tree.start path).removed = 0 ∧ place <+: tree.site path

abbrev GrownBelow (path : Path) (before after : FileTree) : Prop :=
  ChangedBelow (fun entry? => ∀ target, entry? ≠ some (.link target)) path before after

theorem GrownBelow.linkless {path : Path} {before after : FileTree}
    (grown : GrownBelow path before after) (linkless : before.Linkless path) :
    after.Linkless path := by
  intro place inside target
  rw [grown.site] at inside
  rcases grown.below place with same | ⟨-, plain⟩
  · rw [same]
    exact linkless place inside target
  · exact plain target

end FileTree

section Repository

variable {tree : FileTree} {output parent : Path} {model : Model}

theorem grown_of_paved (holder : HolderPath output model parent)
    (opens : tree.Opens (tree.start output) output.names) {made : FileTree}
    (paved : Paved (tree.site parent) tree made) : GrownBelow output tree made := by
  refine ⟨start_eq output paved.home, ?_⟩
  intro place
  rcases paved.paved place with same | ⟨gap, prefixed, directory⟩
  · exact Or.inl same
  · rw [site_holder holder] at prefixed
    rcases prefix_or_strictlyWithin prefixed with above | inside
    · rw [get?_front opens.directory above] at gap
      cases gap
    · refine Or.inr ⟨inside, ?_⟩
      intro target
      rw [directory]
      simp

theorem grown_put {bytes : ByteArray}
    (room : tree.canHold (tree.site output ++ fileAt (handleOf model)) = true) :
    GrownBelow output tree
      (tree.put (tree.site output ++ fileAt (handleOf model)) (.file bytes)) := by
  refine ⟨start_eq output (home_put tree _ _), ?_⟩
  intro place
  rw [get?_put room]
  split
  · next here =>
    refine Or.inr ⟨?_, by simp⟩
    obtain ⟨name, rest, names⟩ := exists_fileAt (handleOf model)
    rw [here, names]
    exact strictlyWithin_iff.mpr ⟨name, rest, rfl⟩
  · exact Or.inl rfl

theorem grown_writeRepository (written : output.isEmpty = false) {world after : World}
    {outcome : Except Failure Unit}
    (opens : world.tree.Opens (world.tree.start output) output.names)
    (linkless : world.tree.Linkless output)
    (ran : world.performAll (writeRepository output model) = (after, outcome)) :
    GrownBelow output world.tree after.tree := by
  obtain ⟨parent, holder⟩ := exists_holderPath written model
  have direct := direct_holder holder opens linkless
  have surfaced : (world.tree.start parent).removed = 0 := by
    rw [start_holder holder]
    exact opens.surfaced
  have paved := makeDirectories_paved direct surfaced
  rcases performAll_writeRepository holder ran with ⟨reached, -⟩ | ⟨made, done, wrote, -⟩
  · rw [reached]
    exact grown_of_paved holder opens paved
  · rw [done] at paved
    have grown := grown_of_paved holder opens paved
    have holds := makeDirectories_holder holder opens linkless done
    obtain ⟨-, -, room, put⟩ := write_repository written holds.opens (holds.linkless linkless) wrote
    rw [put]
    exact grown.trans (grown_put room)

theorem grown_writeRepositories (written : output.isEmpty = false) (models : List Model)
    {world : World} (opens : world.tree.Opens (world.tree.start output) output.names)
    (linkless : world.tree.Linkless output) :
    GrownBelow output world.tree
      (world.performAll (models.flatMap (writeRepository output))).1.tree := by
  induction models generalizing world with
  | nil => exact ChangedBelow.refl _ output world.tree
  | cons model rest ih =>
    rw [List.flatMap_cons, performAll_append]
    rcases ran : world.performAll (writeRepository output model) with ⟨after, failure | ⟨⟩⟩
    · exact grown_writeRepository written opens linkless ran
    · have grown := grown_writeRepository written opens linkless ran
      exact grown.trans (ih (grown.opens opens) (grown.linkless linkless))

end Repository

/-- A run makes the way to its output, thins out what is below it, and fills it again. -/
structure Stages (output : Path) (prepared : Prop) (tree after made emptied : FileTree) :
    Prop where
  paved : Paved (tree.site output) tree made
  thinned : Thinned output made emptied
  grown : GrownBelow output emptied after
  empties : prepared → ∀ place, strictlyWithin (tree.site output) place = true →
    emptied.get? place = none

theorem Stages.site {output : Path} {prepared : Prop} {tree after made emptied : FileTree}
    (stages : Stages output prepared tree after made emptied) :
    made.site output = tree.site output := by
  rw [FileTree.site, FileTree.site, start_eq output stages.paved.home]

theorem Stages.outside {output : Path} {prepared : Prop} {tree after made emptied : FileTree}
    (stages : Stages output prepared tree after made emptied) {place : Location}
    (apart : strictlyWithin (tree.site output) place = false) :
    after.get? place = tree.get? place ∨
      place <+: tree.site output ∧ tree.get? place = none ∧ after.get? place = some .directory := by
  have site := stages.site
  have kept : after.get? place = made.get? place := by
    calc
      after.get? place = emptied.get? place := by
        apply stages.grown.outside
        rw [stages.thinned.site, site, apart]
      _ = made.get? place := by
        apply stages.thinned.outside
        rw [site, apart]
  rw [kept]
  rcases stages.paved.paved place with same | ⟨gap, prefixed, directory⟩
  · exact Or.inl same
  · exact Or.inr ⟨prefixed, gap, directory⟩

theorem Stages.link {output : Path} {prepared : Prop} {tree after made emptied : FileTree}
    (stages : Stages output prepared tree after made emptied) {place : Location} {target : Path}
    (link : after.get? place = some (.link target)) :
    emptied.get? place = some (.link target) ∧ tree.get? place = some (.link target) := by
  have linked : emptied.get? place = some (.link target) := by
    rcases stages.grown.below place with same | ⟨-, plain⟩
    · exact same.symm.trans link
    · exact absurd link (plain target)
  have thinned : made.get? place = some (.link target) := by
    rcases stages.thinned.below place with same | ⟨-, nothing⟩
    · exact same.symm.trans linked
    · rw [linked] at nothing
      cases nothing
  constructor
  · exact linked
  · rcases stages.paved.paved place with same | ⟨-, -, directory⟩
    · exact same.symm.trans thinned
    · rw [thinned] at directory
      cases directory

theorem run_stages {world : World} {output : Path} (models : List Model)
    (direct : world.tree.Direct output) (surfaced : (world.tree.start output).removed = 0)
    (written : output.isEmpty = false) :
    ∃ made emptied, Stages output ((world.performAll (preparation output)).2 = .ok ()) world.tree
      (world.run (writeRepositories models output)).1.tree made emptied := by
  have paved := makeDirectories_paved direct surfaced
  rw [run_fst, performAll_actions]
  rcases ran : world.performAll (preparation output) with ⟨after, outcome⟩
  rcases performAll_preparation ran with ⟨reached, failure, failed⟩ | ⟨made, done, reached, settled⟩
  · subst failed
    refine ⟨after.tree, after.tree, ?_, ChangedBelow.refl _ _ _, ChangedBelow.refl _ _ _, by simp⟩
    rwa [reached]
  · rw [done] at paved
    obtain ⟨passed, opens⟩ := makeDirectories_ok direct surfaced written done
    rw [← start_eq output paved.home] at opens
    have site : made.site output = world.tree.site output := by
      rw [FileTree.site, FileTree.site, start_eq output paved.home]
    obtain ⟨thinned, empties⟩ := emptyDirectory_thinned written passed opens
    rw [← reached, ← settled, site] at empties
    rw [← reached] at thinned
    refine ⟨made, after.tree, paved, thinned, ?_, empties⟩
    -- No model is written if the output could not be emptied; if it could, no link is left in it.
    rcases outcome with failure | ⟨⟩
    · exact ChangedBelow.refl _ _ _
    · let reported := after.report (.generating output models.length)
      have opened : reported.tree.Opens (reported.tree.start output) output.names :=
        thinned.opens opens
      have linkless : reported.tree.Linkless output := by
        intro place inside target
        have inside : strictlyWithin (after.tree.site output) place = true := inside
        rw [thinned.site, site] at inside
        have nothing : reported.tree.get? place = none := empties rfl place inside
        simp [nothing]
      exact grown_writeRepositories written models opened linkless

/-- However a run ends: outside the output nothing changes but for directories on the way to it, and
below the output a link is one that was there, or none at all once the output was emptied. -/
theorem run_leaves_outside_alone (world : World) (models : List Model) (output : Path)
    (direct : world.tree.Direct output) :
    let after := (world.run (writeRepositories models output)).1.tree
    (∀ place, ¬ world.tree.Below output place →
      after.get? place = world.tree.get? place ∨
        world.tree.UpTo output place ∧ world.tree.get? place = none ∧
          after.get? place = some .directory) ∧
    (∀ place target, world.tree.Below output place →
      after.get? place = some (.link target) → world.tree.get? place = some (.link target)) ∧
    ((world.performAll (preparation output)).2 = .ok () → ∀ place target,
      world.tree.Below output place → after.get? place ≠ some (.link target)) := by
  intro after
  by_cases empty : output.isEmpty = true
  · obtain ⟨same, failed⟩ := run_unwritten world models empty
    have same : after = world.tree := same
    rw [same]
    exact ⟨fun _ _ => Or.inl rfl, fun _ _ _ => id, fun done => absurd done failed⟩
  have written : output.isEmpty = false := by simpa using empty
  by_cases gone : (world.tree.start output).removed = 0
  · obtain ⟨made, emptied, stages⟩ := run_stages models direct gone written
    refine ⟨?_, ?_, ?_⟩
    · intro place outside
      have apart : strictlyWithin (world.tree.site output) place = false := by
        rw [Bool.eq_false_iff]
        exact fun inside => outside ⟨gone, inside⟩
      rcases stages.outside apart with same | ⟨prefixed, made⟩
      · exact Or.inl same
      · exact Or.inr ⟨⟨gone, prefixed⟩, made⟩
    · intro place target _ link
      exact (stages.link link).2
    · intro done place target below link
      have held := (stages.link link).1
      rw [stages.empties done place below.2] at held
      cases held
  · have same : after = world.tree :=
      run_stranded models direct.climbless (Nat.pos_of_ne_zero gone) written
    rw [same]
    exact ⟨fun _ _ => Or.inl rfl, fun _ _ _ => id, fun _ _ _ below => absurd below.1 gone⟩

def linkedTree : FileTree :=
  ((FileTree.empty.put ["out"] .directory).put ["out", "link"] (.link ⟨"../kept"⟩)).put ["kept"]
    (.file "kept".toUTF8)

theorem run_removes_link_keeps_target :
    let after := ((World.mk linkedTree []).run
      (writeRepositories [{ name := "User" }] ⟨"out"⟩)).1.tree
    linkedTree.Direct ⟨"out"⟩ ∧ (linkedTree.get? ["out", "link"]).any Entry.isLink = true ∧
      after.get? ["kept"] = linkedTree.get? ["kept"] ∧
      ∀ target, after.get? ["out", "link"] ≠ some (.link target) := by
  have direct : linkedTree.Direct ⟨"out"⟩ := by decide +kernel
  have done : ((World.mk linkedTree []).performAll (preparation ⟨"out"⟩)).2.toOption =
      some () := by decide +kernel
  have prepared : ((World.mk linkedTree []).performAll (preparation ⟨"out"⟩)).2 = .ok () :=
    congrArg Prod.snd (eq_of_toOption done)
  obtain ⟨outside, -, emptied⟩ :=
    run_leaves_outside_alone ⟨linkedTree, []⟩ [{ name := "User" }] ⟨"out"⟩ direct
  refine ⟨direct, by decide +kernel, ?_, ?_⟩
  · rcases outside ["kept"] (fun below => absurd below.2 (by decide +kernel)) with
      same | ⟨above, -⟩
    · exact same
    · exact absurd above.2 (by decide +kernel)
  · exact fun target => emptied prepared ["out", "link"] target
      ⟨by decide +kernel, by decide +kernel⟩

end ModelRepositories
