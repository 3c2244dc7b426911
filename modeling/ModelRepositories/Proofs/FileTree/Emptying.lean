import ModelRepositories.Proofs.FileTree.Making

/-!
Emptying a directory that a path opens. Only what lies strictly below the directory goes, links
themselves and not what they lead to, however far it comes; if it comes to its end, nothing is left.
-/

namespace ModelRepositories.FileTree

open ModelRepositories.Path

theorem strictlyWithin_iff {place other : Location} :
    strictlyWithin place other = true ↔ ∃ name rest, other = place ++ name :: rest := by
  simp only [strictlyWithin, Bool.and_eq_true, List.isPrefixOf_iff_prefix, bne_iff_ne]
  constructor
  · rintro ⟨⟨rest, rfl⟩, longer⟩
    cases rest with
    | nil => simp at longer
    | cons name rest => exact ⟨name, rest, rfl⟩
  · rintro ⟨name, rest, rfl⟩
    exact ⟨List.prefix_append _ _, by simp⟩

theorem prefix_or_strictlyWithin {front place rest : Location}
    (prefixed : front <+: place ++ rest) :
    front <+: place ∨ strictlyWithin place front = true := by
  rcases List.prefix_or_prefix_of_prefix prefixed (List.prefix_append place rest) with
    short | ⟨back, rfl⟩
  · exact Or.inl short
  · cases back with
    | nil => exact Or.inl (by simp)
    | cons name back => exact Or.inr (strictlyWithin_iff.mpr ⟨name, back, rfl⟩)

theorem get?_front {tree : FileTree} {front place : Location}
    (directory : tree.isDirectory place = true) (prefixed : front <+: place) :
    tree.get? front = some .directory := by
  obtain ⟨rest, rfl⟩ := prefixed
  exact (isDirectory_iff tree front).mp (isDirectory_of_append tree front rest directory)

theorem get?_of_append_ne_none {tree : FileTree} {place rest : Location}
    (there : tree.get? (place ++ rest) ≠ none) : tree.get? place ≠ none := by
  rcases List.eq_nil_or_concat rest with rfl | ⟨front, name, rfl⟩
  · simpa using there
  · rw [List.concat_eq_append, ← List.append_assoc] at there
    have holder := isDirectory_of_present tree (place ++ front) name there
    have above := isDirectory_of_append tree place front holder
    rw [isDirectory_iff] at above
    simp [above]

theorem start_prune {tree : FileTree} {gone : Location → Bool} {path : Path}
    (downward : ∀ dir name, gone dir = true → gone (dir ++ [name]) = true)
    (stays : gone (tree.start path).place = false) :
    (tree.prune gone downward).start path = tree.start path := by
  unfold start at stays ⊢
  split
  · rfl
  · next relative =>
    rw [if_neg relative] at stays
    exact home_prune tree downward stays

theorem get?_erase_clear (tree : FileTree) {place : Location} (below : place ≠ [])
    (other : Location) :
    ((tree.clear place).erase place).get? other =
      if within place other then none else tree.get? other := by
  rw [get?_erase _ below, get?_clear, within]
  by_cases inside : place.isPrefixOf other = true
  · simp [inside]
  · simp [inside]

theorem not_within_front {place : Location} (names : List String) (name : String) :
    within (place ++ names ++ [name]) place = false := by
  rw [Bool.eq_false_iff, within, ne_eq, List.isPrefixOf_iff_prefix]
  intro shorter
  have length := shorter.length_le
  simp only [List.length_append, List.length_singleton] at length
  omega

/--
The path starts where it did, and what was changed lies strictly below where it leads and is now as
it may be.
-/
structure ChangedBelow (allowed : Option Entry → Prop) (path : Path) (before after : FileTree) :
    Prop where
  start : after.start path = before.start path
  below : ∀ place, after.get? place = before.get? place ∨
    strictlyWithin (before.site path) place = true ∧ allowed (after.get? place)

section ChangedBelow

variable {allowed : Option Entry → Prop} {path : Path} {before after : FileTree}

theorem ChangedBelow.refl (allowed : Option Entry → Prop) (path : Path) (tree : FileTree) :
    ChangedBelow allowed path tree tree :=
  ⟨rfl, fun _ => Or.inl rfl⟩

theorem ChangedBelow.site (changed : ChangedBelow allowed path before after) :
    after.site path = before.site path := by
  rw [FileTree.site, FileTree.site, changed.start]

theorem ChangedBelow.trans {first second third : FileTree}
    (left : ChangedBelow allowed path first second)
    (right : ChangedBelow allowed path second third) : ChangedBelow allowed path first third := by
  refine ⟨right.start.trans left.start, ?_⟩
  intro place
  rcases right.below place with same | ⟨inside, fits⟩
  · rw [same]
    exact left.below place
  · exact Or.inr ⟨left.site ▸ inside, fits⟩

theorem ChangedBelow.outside (changed : ChangedBelow allowed path before after) {place : Location}
    (apart : strictlyWithin (before.site path) place = false) :
    after.get? place = before.get? place := by
  rcases changed.below place with same | ⟨inside, -⟩
  · exact same
  · rw [apart] at inside
    cases inside

theorem ChangedBelow.opens (changed : ChangedBelow allowed path before after)
    (opens : before.Opens (before.start path) path.names) :
    after.Opens (after.start path) path.names := by
  obtain ⟨surfaced, climbless, short, directory⟩ := opens
  rw [changed.start]
  refine ⟨surfaced, climbless, short, ?_⟩
  rw [isDirectory_iff] at directory ⊢
  exact (changed.outside (by simp [strictlyWithin, FileTree.site])).trans directory

end ChangedBelow

abbrev Thinned (path : Path) (before after : FileTree) : Prop :=
  ChangedBelow (· = none) path before after

theorem Thinned.stays_missing {path : Path} {before after : FileTree}
    (thinned : Thinned path before after) {place : Location} (missing : before.get? place = none) :
    after.get? place = none := by
  rcases thinned.below place with same | ⟨-, gone⟩
  · exact same.trans missing
  · exact gone

section Entries

variable {tree : FileTree} {path : Path}

theorem start_join (written : path.isEmpty = false) {right : Path}
    (relative : right.isAbsolute = false) : tree.start (path.join right) = tree.start path := by
  rw [start, start, isAbsolute_join written relative]

theorem pieces_entry (written : path.isEmpty = false) {name : String}
    (called : isName name = true) :
    (path.join ⟨name⟩).pieces = path.pieces ++ [name] := by
  rw [pieces_join written (isAbsolute_of_isName called), pieces_of_isName called]

theorem placeOf_entry (written : path.isEmpty = false)
    (opens : tree.Opens (tree.start path) path.names) {name : String}
    (called : isName name = true) :
    tree.placeOf (path.join ⟨name⟩) =
      if (tree.get? (tree.site path ++ [name])).isSome then .ok (tree.site path ++ [name])
      else .error .notFound := by
  have held : tree.holder (tree.start path) (path.pieces ++ [name]) =
      .ok (some (tree.site path)) := holder_opens opens name
  rw [placeOf, pieces_entry written called, List.getLast?_concat,
    start_join written (isAbsolute_of_isName called)]
  simp only [held, bind, Except.bind]
  rfl

theorem thinned_prune {gone : Location → Bool} {name : String}
    (downward : ∀ dir name, gone dir = true → gone (dir ++ [name]) = true)
    (inside : ∀ place, gone place = true → within (tree.site path ++ [name]) place = true) :
    Thinned path tree (tree.prune gone downward) := by
  have outside : ∀ place, within (tree.site path ++ [name]) place = false → gone place = false := by
    intro place apart
    rw [Bool.eq_false_iff]
    intro left
    rw [inside place left] at apart
    cases apart
  refine ⟨start_prune downward (outside _ (not_within_front path.names name)), ?_⟩
  intro place
  have root : gone [] = false := by
    apply outside
    rw [Bool.eq_false_iff, within, ne_eq, List.isPrefixOf_iff_prefix, List.prefix_nil]
    simp
  rw [get?_prune tree downward root]
  split
  · next left =>
    obtain ⟨rest, rfl⟩ := List.isPrefixOf_iff_prefix.mp (inside place left)
    exact Or.inr ⟨strictlyWithin_iff.mpr ⟨name, rest, by simp⟩, rfl⟩
  · exact Or.inl rfl

theorem thinned_erase (path : Path) (tree : FileTree) (name : String) :
    Thinned path tree (tree.erase (tree.site path ++ [name])) :=
  thinned_prune _ fun _ => id

theorem thinned_clear (path : Path) (tree : FileTree) (name : String) :
    Thinned path tree (tree.clear (tree.site path ++ [name])) := by
  apply thinned_prune
  intro place left
  exact (Bool.and_eq_true_iff.mp left).1

theorem remove_entry (written : path.isEmpty = false)
    (opens : tree.Opens (tree.start path) path.names) {name : String}
    (called : isName name = true) (passed : (path.join ⟨name⟩).check = .ok ()) :
    tree.remove (path.join ⟨name⟩) =
      if (tree.get? (tree.site path ++ [name])).isSome then
        .ok ((tree.clear (tree.site path ++ [name])).erase (tree.site path ++ [name]))
      else .error .notFound := by
  have thinned := thinned_clear path tree name
  have again := placeOf_entry written (thinned.opens opens) called
  rw [thinned.site, get?_clear] at again
  rw [remove, passed, placeOf_entry written opens called]
  by_cases there : (tree.get? (tree.site path ++ [name])).isSome = true
  · simp only [there, if_true]
    simp only [bne_self_eq_false, Bool.and_false, Bool.false_eq_true, if_false, there,
      if_true] at again
    simp only [bind, Except.bind, again]
    rfl
  · simp only [there, bind, Except.bind]
    rfl

theorem remove_ok (written : path.isEmpty = false)
    (opens : tree.Opens (tree.start path) path.names) {name : String}
    (called : isName name = true) {after : FileTree}
    (removed : tree.remove (path.join ⟨name⟩) = .ok after) :
    Thinned path tree after ∧ after.get? (tree.site path ++ [name]) = none := by
  have passed : (path.join ⟨name⟩).check = .ok () := by
    cases checked : (path.join ⟨name⟩).check with
    | error fault =>
      rw [remove, checked] at removed
      cases removed
    | ok => rfl
  rw [remove_entry written opens called passed] at removed
  split at removed
  · cases removed
    have cleared := thinned_clear path tree name
    have erased := thinned_erase path (tree.clear (tree.site path ++ [name])) name
    rw [cleared.site] at erased
    constructor
    · exact cleared.trans erased
    · rw [get?_erase_clear tree (by simp), if_pos]
      exact List.isPrefixOf_iff_prefix.mpr List.prefix_rfl
  · cases removed

/-- However far the removal of entries comes, it stays below the directory; at its end they are
gone. -/
theorem removeAll_entries (written : path.isEmpty = false)
    (opens : tree.Opens (tree.start path) path.names) {entries : List String}
    (called : ∀ name ∈ entries, isName name = true) :
    Thinned path tree (tree.removeAll (entries.map fun name => path.join ⟨name⟩)).1 ∧
      ((tree.removeAll (entries.map fun name => path.join ⟨name⟩)).2 = .ok () →
        ∀ name ∈ entries, (tree.removeAll (entries.map fun name => path.join ⟨name⟩)).1.get?
          (tree.site path ++ [name]) = none) := by
  -- The path opens the thinned tree as it did the first one, so the next entry is found from there.
  induction entries generalizing tree with
  | nil => exact ⟨ChangedBelow.refl _ path tree, by simp⟩
  | cons name rest ih =>
    rw [List.map_cons, removeAll_cons]
    split
    · next after removed =>
      obtain ⟨thinned, gone⟩ := remove_ok written opens (called name (by simp)) removed
      obtain ⟨further, empties⟩ := ih (thinned.opens opens)
        fun other member => called other (List.mem_cons_of_mem name member)
      constructor
      · exact thinned.trans further
      · intro done other member
        rcases List.mem_cons.mp member with rfl | later
        · exact further.stays_missing gone
        · rw [← thinned.site]
          exact empties done other later
    · exact ⟨ChangedBelow.refl _ path tree, by simp⟩

theorem removeAll_succeeds (written : path.isEmpty = false)
    (opens : tree.Opens (tree.start path) path.names) {entries : List String}
    (called : ∀ name ∈ entries, isName name = true)
    (passed : ∀ name ∈ entries, (path.join ⟨name⟩).check = .ok ()) (distinct : entries.Nodup)
    (there : ∀ name ∈ entries, tree.get? (tree.site path ++ [name]) ≠ none) :
    (tree.removeAll (entries.map fun name => path.join ⟨name⟩)).2 = .ok () := by
  induction entries generalizing tree with
  | nil => rfl
  | cons name rest ih =>
    obtain ⟨new, distinct⟩ := List.nodup_cons.mp distinct
    have removed := remove_entry written opens (called name (by simp)) (passed name (by simp))
    rw [if_pos (Option.isSome_iff_ne_none.mpr (there name (by simp)))] at removed
    obtain ⟨thinned, -⟩ := remove_ok written opens (called name (by simp)) removed
    rw [List.map_cons, removeAll_cons, removed]
    apply ih (thinned.opens opens)
    · exact fun other member => called other (List.mem_cons_of_mem name member)
    · exact fun other member => passed other (List.mem_cons_of_mem name member)
    · exact distinct
    · intro other member
      have apart : within (tree.site path ++ [name]) (tree.site path ++ [other]) = false := by
        rw [Bool.eq_false_iff, within, ne_eq, List.isPrefixOf_iff_prefix,
          List.prefix_append_right_inj, List.cons_prefix_cons]
        rintro ⟨rfl, -⟩
        exact new member
      rw [thinned.site, get?_erase_clear tree (by simp), apart]
      exact there other (List.mem_cons_of_mem name member)

theorem isName_of_mem_children {place : Location} {name : String}
    (member : name ∈ tree.children place) : isName name = true := by
  have there := (mem_children tree place name).mp member
  rw [get?_of_ne_nil tree (by simp)] at there
  exact tree.named place name there

theorem nodup_children (tree : FileTree) (place : Location) : (tree.children place).Nodup := by
  refine List.Pairwise.filterMap _ ?_ tree.distinct
  intro first second apart name left other right same
  simp only [Option.ite_none_right_eq_some, List.getLast?_eq_some_iff] at left right
  obtain ⟨above, front, rfl⟩ := left
  obtain ⟨beside, back, rfl⟩ := right
  rw [List.dropLast_concat] at above beside
  exact apart (by rw [above, beside, same])

theorem resolve_opens (written : path.isEmpty = false) (passed : path.check = .ok ())
    (opens : tree.Opens (tree.start path) path.names) :
    tree.resolve path = .ok (.present (tree.site path)) := by
  have steps : ∃ rest, path.steps = path.pieces ++ rest ∧ (rest = [] ∨ rest = ["."]) := by
    unfold steps
    split
    · exact ⟨["."], rfl, Or.inr rfl⟩
    · exact ⟨[], by simp, Or.inl rfl⟩
  obtain ⟨rest, steps, shape⟩ := steps
  have resolved : tree.resolveNames (tree.start path) (path.pieces ++ rest) =
      tree.follow maxLinks (tree.site path) rest := resolveNames_opens opens rest
  rw [resolve, passed, written, steps]
  refine Eq.trans resolved ?_
  have directory : tree.isDirectory (tree.site path) = true := opens.directory
  rcases shape with rfl | rfl
  · rfl
  · simp [follow, walk, directory]

theorem emptyDirectory_opens (written : path.isEmpty = false) (passed : path.check = .ok ())
    (opens : tree.Opens (tree.start path) path.names) :
    tree.emptyDirectory path =
      tree.removeAll ((tree.children (tree.site path)).map fun name => path.join ⟨name⟩) := by
  have directory : tree.isDirectory (tree.site path) = true := opens.directory
  have listed : tree.listDirectory path = .ok (tree.children (tree.site path)) := by
    rw [listDirectory, resolve_opens written passed opens]
    simp only [bind, Except.bind, directory, if_true]
    rfl
  rw [emptyDirectory_eq, listed]

theorem emptyDirectory_thinned (written : path.isEmpty = false) (passed : path.check = .ok ())
    (opens : tree.Opens (tree.start path) path.names) :
    Thinned path tree (tree.emptyDirectory path).1 ∧
      ((tree.emptyDirectory path).2 = .ok () → ∀ place,
        strictlyWithin (tree.site path) place = true →
          (tree.emptyDirectory path).1.get? place = none) := by
  rw [emptyDirectory_opens written passed opens]
  have called : ∀ name ∈ tree.children (tree.site path), isName name = true :=
    fun _ member => isName_of_mem_children member
  obtain ⟨thinned, empties⟩ := removeAll_entries written opens called
  refine ⟨thinned, ?_⟩
  intro done place inside
  obtain ⟨name, rest, rfl⟩ := strictlyWithin_iff.mp inside
  by_cases child : name ∈ tree.children (tree.site path)
  · have gone := empties done name child
    apply Decidable.byContradiction
    intro there
    have below : tree.site path ++ name :: rest = tree.site path ++ [name] ++ rest := by simp
    rw [below] at there
    exact get?_of_append_ne_none there gone
  · apply thinned.stays_missing
    rw [mem_children, Decidable.not_not] at child
    apply Decidable.byContradiction
    intro there
    have below : tree.site path ++ name :: rest = tree.site path ++ [name] ++ rest := by simp
    rw [below] at there
    exact get?_of_append_ne_none there child

theorem emptyDirectory_succeeds (written : path.isEmpty = false) (passed : path.check = .ok ())
    (opens : tree.Opens (tree.start path) path.names)
    (short : ∀ name ∈ tree.children (tree.site path), (path.join ⟨name⟩).check = .ok ()) :
    (tree.emptyDirectory path).2 = .ok () := by
  rw [emptyDirectory_opens written passed opens]
  apply removeAll_succeeds written opens
  · exact fun name member => isName_of_mem_children member
  · exact short
  · exact nodup_children tree _
  · exact fun name member => (mem_children tree _ name).mp member

end Entries

end ModelRepositories.FileTree
