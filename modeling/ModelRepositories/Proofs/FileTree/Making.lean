import ModelRepositories.Proofs.FileTree.Descent

/-!
Making directories on a way down. What is made is missing directories on the way and nothing else,
whether the whole way can be made or not; once it is made, the path opens its site.
-/

namespace ModelRepositories.FileTree

open ModelRepositories.Path

/-- Only directories came, where nothing was on the way to a place. -/
structure Paved (site : Location) (before after : FileTree) : Prop where
  home : after.home = before.home
  paved : ∀ place, after.get? place = before.get? place ∨
    before.get? place = none ∧ place <+: site ∧ after.get? place = some .directory

theorem Paved.refl (site : Location) (tree : FileTree) : Paved site tree tree :=
  ⟨rfl, fun _ => Or.inl rfl⟩

theorem Paved.trans {site : Location} {first second third : FileTree}
    (left : Paved site first second) (right : Paved site second third) :
    Paved site first third := by
  refine ⟨right.home.trans left.home, ?_⟩
  intro place
  rcases left.paved place with same | ⟨gap, prefixed, made⟩
  · rw [← same]
    exact right.paved place
  · rcases right.paved place with same | ⟨missing, -, -⟩
    · exact Or.inr ⟨gap, prefixed, same.trans made⟩
    · rw [made] at missing
      cases missing

theorem Paved.unlinked {site place : Location} {names : List String} {before after : FileTree}
    (paved : Paved site before after) (unlinked : before.Unlinked place names) :
    after.Unlinked place names := by
  intro front prefixed target found
  rcases paved.paved (place ++ front) with same | ⟨-, -, made⟩
  · exact unlinked front prefixed target (same.symm.trans found)
  · rw [made] at found
    cases found

theorem Paved.put {tree : FileTree} {site place : Location} (room : tree.canHold place = true)
    (gap : tree.get? place = none) (prefixed : place <+: site) :
    Paved site tree (tree.put place .directory) := by
  refine ⟨home_put tree place .directory, ?_⟩
  intro other
  rw [get?_put room]
  by_cases here : other = place
  · subst here
    exact Or.inr ⟨gap, prefixed, by simp⟩
  · exact Or.inl (if_neg here)

theorem canHold_concat {tree : FileTree} {dir : Location} {name : String}
    (called : isName name = true) (holder : tree.isDirectory dir = true)
    (free : tree.get? (dir ++ [name]) ≠ some .directory) : tree.canHold (dir ++ [name]) = true := by
  have other : tree.isDirectory (dir ++ [name]) = false := by
    rw [Bool.eq_false_iff, ne_eq, isDirectory_iff]
    exact free
  rw [canHold, other, List.dropLast_concat, holder, List.getLast?_concat]
  simpa using called

theorem holder_ok {tree : FileTree} {start : Start} {names : List String} {dir : Location}
    (found : tree.holder start names = .ok (some dir)) :
    tree.resolveNames start (names.dropLast ++ ["."]) = .ok (.present dir) := by
  unfold holder at found
  cases resolved : tree.resolveNames start (names.dropLast ++ ["."]) with
  | error fault =>
    rw [resolved] at found
    cases found
  | ok landing =>
    rw [resolved] at found
    cases landing with
    | present place =>
      cases found
      rfl
    | absent place => cases found
    | removed => cases found

theorem vacancy_ok {tree : FileTree} {start : Start} {names : List String} {place : Location}
    (vacant : tree.vacancy start names = .ok place) :
    ∃ front name dir, names = front ++ [name] ∧
      tree.resolveNames start (front ++ ["."]) = .ok (.present dir) ∧
      name ≠ "." ∧ name ≠ ".." ∧ name.utf8ByteSize ≤ maxNameBytes ∧
      tree.get? (dir ++ [name]) = none ∧ place = dir ++ [name] := by
  unfold vacancy at vacant
  split at vacant
  · cases vacant
  · next name last =>
    obtain ⟨front, rfl⟩ := List.getLast?_eq_some_iff.mp last
    cases held : tree.holder start (front ++ [name]) with
    | error fault =>
      rw [held] at vacant
      cases vacant
    | ok dir? =>
      rw [held] at vacant
      simp only [bind, Except.bind] at vacant
      split at vacant
      · cases vacant
      · next busy =>
        split at vacant
        · cases vacant
        · next dir =>
          split at vacant
          · cases vacant
          · next bounded =>
            split at vacant
            · cases vacant
            · next free =>
              have resolved := holder_ok held
              rw [List.dropLast_concat] at resolved
              obtain ⟨notHere, notAbove⟩ := not_or.mp busy
              exact ⟨front, name, dir, rfl, resolved, notHere, notAbove, Nat.le_of_not_lt bounded,
                by simpa using free, (Except.ok.inj vacant).symm⟩

theorem makeDirectory_down {tree made : FileTree} {start : Start} {pieces : List String}
    (written : ∀ piece ∈ pieces, IsPiece piece) (climbless : ".." ∉ pieces)
    (unlinked : tree.Unlinked start.place (proper pieces))
    (done : tree.makeDirectory start pieces = .ok made) :
    Paved (start.place ++ proper pieces) tree made ∧ made.Opens start (proper pieces) := by
  cases vacant : tree.vacancy start pieces with
  | error fault =>
    rw [makeDirectory, vacant] at done
    cases done
  | ok place =>
    rw [makeDirectory, vacant] at done
    cases done
    obtain ⟨front, name, dir, rfl, resolved, notHere, notAbove, fits, gap, rfl⟩ := vacancy_ok vacant
    have names : proper (front ++ [name]) = proper front ++ [name] := by
      rw [proper_append, proper_cons notHere, proper_nil]
    -- The new name goes into the directory that the pieces in front of it lead to.
    have idle : proper (front ++ ["."]) = proper front := by
      rw [proper_append, proper_here, proper_nil, List.append_nil]
    rw [names] at unlinked ⊢
    have above : ".." ∉ front ++ ["."] := by simpa using fun member => climbless (by simp [member])
    have reached := resolveNames_down above
      (by rw [idle]; exact unlinked.front (List.prefix_append _ _)) resolved
    rcases reached with ⟨landed, -⟩ | ⟨surfaced, descent, short, last⟩
    · cases landed
    · rw [idle] at descent short last
      cases descent
      have directory := last (by simp)
      have called : isName name = true := (written name (by simp)).isName notHere notAbove
      have room : tree.canHold (start.place ++ proper front ++ [name]) = true :=
        canHold_concat called directory (by simp only [gap, ne_eq, reduceCtorEq, not_false_eq_true])
      have whole :
          start.place ++ (proper front ++ [name]) = start.place ++ proper front ++ [name] :=
        (List.append_assoc _ _ _).symm
      rw [whole]
      refine ⟨Paved.put room gap List.prefix_rfl, surfaced, ?_, ?_, ?_⟩
      · intro member
        rcases List.mem_append.mp member with member | member
        · exact climbless (by simp [(mem_proper.mp member).1])
        · exact notAbove (List.mem_singleton.mp member).symm
      · intro other member
        rcases List.mem_append.mp member with member | member
        · exact short other member
        · rwa [List.mem_singleton.mp member]
      · rw [whole, isDirectory_iff, get?_put room, if_pos rfl]

structure Down (tree : FileTree) (start : Start) (site : Location) (pieces : List String) :
    Prop where
  written : ∀ piece ∈ pieces, IsPiece piece
  climbless : ".." ∉ pieces
  unlinked : tree.Unlinked start.place (proper pieces)
  prefixed : start.place ++ proper pieces <+: site

theorem Down.after {before after : FileTree} {start : Start} {site : Location}
    {pieces : List String} (down : Down before start site pieces)
    (paved : Paved site before after) : Down after start site pieces :=
  ⟨down.written, down.climbless, paved.unlinked down.unlinked, down.prefixed⟩

theorem Paved.mono {front site : Location} {before after : FileTree}
    (paved : Paved front before after) (prefixed : front <+: site) : Paved site before after := by
  refine ⟨paved.home, ?_⟩
  intro place
  rcases paved.paved place with same | ⟨gap, shorter, made⟩
  · exact Or.inl same
  · exact Or.inr ⟨gap, shorter.trans prefixed, made⟩

theorem Down.made {tree made : FileTree} {start : Start} {site : Location} {pieces : List String}
    (down : Down tree start site pieces) (done : tree.makeDirectory start pieces = .ok made) :
    Paved site tree made ∧ made.Opens start (proper pieces) := by
  obtain ⟨paved, opens⟩ := makeDirectory_down down.written down.climbless down.unlinked done
  exact ⟨paved.mono down.prefixed, opens⟩

/-- What every directory that is made does to the tree, a chain of them does. -/
theorem makeChain_relates {relation : FileTree → FileTree → Prop}
    (refl : ∀ tree, relation tree tree)
    (trans : ∀ {first second third}, relation first second → relation second third →
      relation first third)
    {tree : FileTree} {start : Start} {chain : List (List String)}
    (step : ∀ reached, relation tree reached → ∀ pieces ∈ chain, ∀ made,
      reached.makeDirectory start pieces = .ok made → relation reached made) :
    relation tree (tree.makeChain start chain).1 := by
  -- The tree stays the one the chain began with: what is above is made from it, then `pieces`.
  induction chain with
  | nil => exact refl tree
  | cons pieces above ih =>
    have further := ih fun reached before other member =>
      step reached before other (List.mem_cons_of_mem pieces member)
    rw [makeChain_cons]
    split
    · next made done => exact step tree (refl tree) pieces (by simp) made done
    · split
      · next made fault chained => simpa [chained] using further
      · next made chained =>
        have further : relation tree made := by simpa [chained] using further
        split
        · next again done => exact trans further (step made further pieces (by simp) again done)
        · split <;> exact further
    · split <;> exact refl tree

theorem makeChain_paved {tree : FileTree} {start : Start} {site : Location}
    {chain : List (List String)} (ways : ∀ pieces ∈ chain, Down tree start site pieces) :
    Paved site tree (tree.makeChain start chain).1 := by
  apply makeChain_relates (Paved.refl site) Paved.trans
  intro reached paved pieces member made done
  exact (((ways pieces member).after paved).made done).1

theorem Opens.leads {tree : FileTree} {start : Start} {pieces : List String}
    (opens : tree.Opens start (proper pieces)) : tree.leadsToDirectory start pieces = true := by
  have resolved := resolveNames_opens opens []
  rw [List.append_nil] at resolved
  rw [leadsToDirectory, resolved]
  simpa [follow, walk] using opens.directory

theorem Down.opens {tree : FileTree} {start : Start} {site : Location} {pieces : List String}
    (down : Down tree start site pieces) (leads : tree.leadsToDirectory start pieces = true) :
    tree.Opens start (proper pieces) ∨ 0 < start.removed ∧ proper pieces = [] := by
  cases resolved : tree.resolveNames start pieces with
  | error fault => simp [leadsToDirectory, resolved] at leads
  | ok landing =>
    rcases resolveNames_down down.climbless down.unlinked resolved with ⟨-, gone⟩ | reached
    · exact Or.inr gone
    · rw [leadsToDirectory, resolved] at leads
      obtain ⟨surfaced, descent, short, -⟩ := reached
      cases descent with
      | present there =>
        refine Or.inl ⟨surfaced, ?_, short, leads⟩
        exact fun member => down.climbless (mem_proper.mp member).1
      | absent => cases leads

theorem makeChain_leads {tree after : FileTree} {start : Start} {site : Location}
    {pieces : List String} {above : List (List String)}
    (ways : ∀ other ∈ pieces :: above, Down tree start site other)
    (done : tree.makeChain start (pieces :: above) = (after, .ok ())) :
    after.leadsToDirectory start pieces = true := by
  have way := ways pieces (by simp)
  have further := makeChain_paved fun other member =>
    ways other (List.mem_cons_of_mem pieces member)
  rw [makeChain_cons] at done
  split at done
  · next made first =>
    cases done
    exact (way.made first).2.leads
  · split at done
    · next made fault chained => cases done
    · next made chained =>
      have further : Paved site tree made := by simpa [chained] using further
      split at done
      · next again second =>
        cases done
        exact ((way.after further).made second).2.leads
      · split at done
        · next there =>
          cases done
          exact there
        · cases done
  · split at done
    · next there =>
      cases done
      exact there
    · cases done

/-- A path that leads down, without `..` and without a link on its way. -/
structure Direct (tree : FileTree) (path : Path) : Prop where
  climbless : ".." ∉ path.names
  unlinked : (tree.start path).removed = 0 → tree.Unlinked (tree.start path).place path.names

theorem direct_iff {tree : FileTree} {path : Path} :
    tree.Direct path ↔ ".." ∉ path.names ∧
      ((tree.start path).removed = 0 → tree.Unlinked (tree.start path).place path.names) :=
  ⟨fun direct => ⟨direct.climbless, direct.unlinked⟩, fun ⟨climbless, unlinked⟩ =>
    ⟨climbless, unlinked⟩⟩

instance (tree : FileTree) (path : Path) : Decidable (tree.Direct path) :=
  decidable_of_iff _ direct_iff.symm

/-- Where a direct path leads, if it starts at a directory of the tree. -/
def site (tree : FileTree) (path : Path) : Location :=
  (tree.start path).place ++ path.names

theorem climbless_pieces {path : Path} (climbless : ".." ∉ path.names) : ".." ∉ path.pieces :=
  fun member => climbless (mem_proper.mpr ⟨member, by decide⟩)

theorem Direct.down {tree : FileTree} {path : Path} (direct : tree.Direct path)
    (surfaced : (tree.start path).removed = 0) {pieces : List String}
    (member : pieces ∈ path.pieces :: path.above) :
    Down tree (tree.start path) (tree.site path) pieces := by
  have inside : (∀ piece ∈ pieces, piece ∈ path.pieces) ∧ proper pieces <+: path.names := by
    rcases List.mem_cons.mp member with rfl | above
    · exact ⟨fun _ => id, List.prefix_rfl⟩
    · exact mem_above above
  refine ⟨?_, ?_, ?_, ?_⟩
  · exact fun piece present => isPiece_of_mem_pieces (inside.1 piece present)
  · exact fun climbs => climbless_pieces direct.climbless (inside.1 ".." climbs)
  · exact (direct.unlinked surfaced).front inside.2
  · exact (List.prefix_append_right_inj _).mpr inside.2

theorem makeDirectories_paved {tree : FileTree} {path : Path} (direct : tree.Direct path)
    (surfaced : (tree.start path).removed = 0) :
    Paved (tree.site path) tree (tree.makeDirectories path).1 := by
  rw [makeDirectories_eq]
  split
  · exact Paved.refl _ tree
  · split
    · exact Paved.refl _ tree
    · exact makeChain_paved fun pieces member => direct.down surfaced member

theorem start_eq {before after : FileTree} (path : Path) (home : after.home = before.home) :
    after.start path = before.start path := by
  rw [start, start, home]

theorem makeDirectories_ok {tree after : FileTree} {path : Path} (direct : tree.Direct path)
    (surfaced : (tree.start path).removed = 0) (written : path.isEmpty = false)
    (done : tree.makeDirectories path = (after, .ok ())) :
    path.check = .ok () ∧ after.Opens (tree.start path) path.names := by
  have paved := makeDirectories_paved direct surfaced
  rw [done] at paved
  rw [makeDirectories_eq] at done
  split at done
  · cases done
  · next passed =>
    rw [if_neg (by simp [written])] at done
    have ways : ∀ pieces ∈ path.pieces :: path.above,
        Down tree (tree.start path) (tree.site path) pieces :=
      fun _ member => direct.down surfaced member
    have leads := makeChain_leads ways done
    have way : Down after _ _ path.pieces := (ways path.pieces (by simp)).after paved
    rcases way.opens leads with opens | ⟨gone, -⟩
    · exact ⟨passed, opens⟩
    · omega

theorem Opens.front {tree : FileTree} {start : Start} {first second : List String}
    (opens : tree.Opens start (first ++ second)) : tree.Opens start first := by
  obtain ⟨surfaced, climbless, short, directory⟩ := opens
  rw [← List.append_assoc] at directory
  exact ⟨surfaced, fun member => climbless (List.mem_append_left second member),
    fun name member => short name (List.mem_append_left second member),
    isDirectory_of_append tree _ second directory⟩

theorem holder_opens {tree : FileTree} {start : Start} {front : List String}
    (opens : tree.Opens start (proper front)) (name : String) :
    tree.holder start (front ++ [name]) = .ok (some (start.place ++ proper front)) := by
  have resolved := resolveNames_opens opens ["."]
  have here : tree.follow maxLinks (start.place ++ proper front) ["."] =
      .ok (.present (start.place ++ proper front)) := by
    simp [follow, walk, opens.directory]
  rw [here] at resolved
  rw [holder, List.dropLast_concat, resolved]
  rfl

theorem makeDirectory_opens {tree : FileTree} {start : Start} {pieces : List String}
    (opens : tree.Opens start (proper pieces)) :
    tree.makeDirectory start pieces = .error .alreadyExists := by
  unfold makeDirectory vacancy
  cases last : pieces.getLast? with
  | none => rfl
  | some name =>
    obtain ⟨front, rfl⟩ := List.getLast?_eq_some_iff.mp last
    rw [proper_append] at opens
    have held := holder_opens opens.front name
    simp only [held, bind, Except.bind]
    by_cases busy : name = "." ∨ name = ".."
    · rw [if_pos busy]
    · have notHere : name ≠ "." := fun here => busy (Or.inl here)
      rw [proper_cons notHere, proper_nil] at opens
      have fits : ¬ maxNameBytes < name.utf8ByteSize :=
        Nat.not_lt.mpr (opens.short name (by simp))
      have there := (isDirectory_iff tree _).mp opens.directory
      simp [busy, fits, there]

theorem makeDirectories_opens {tree : FileTree} {path : Path} (passed : path.check = .ok ())
    (opens : tree.Opens (tree.start path) path.names) :
    tree.makeDirectories path = (tree, .ok ()) := by
  have leads : tree.leadsToDirectory (tree.start path) path.pieces = true := opens.leads
  have made : tree.makeDirectory (tree.start path) path.pieces = .error .alreadyExists :=
    makeDirectory_opens opens
  simp only [makeDirectories_eq, passed, makeChain_cons, made, leads, if_true, ite_self]

theorem makeDirectories_vacant {tree : FileTree} {path : Path} {front : List String}
    {name : String} (passed : path.check = .ok ()) (pieces : path.pieces = front ++ [name])
    (opens : tree.Opens (tree.start path) (proper front)) (called : isName name = true)
    (fits : name.utf8ByteSize ≤ maxNameBytes)
    (gap : tree.get? ((tree.start path).place ++ proper front ++ [name]) = none) :
    tree.makeDirectories path =
      (tree.put ((tree.start path).place ++ proper front ++ [name]) .directory, .ok ()) := by
  obtain ⟨-, -, notHere, notAbove⟩ := isName_iff.mp called
  have held := holder_opens opens name
  have made : tree.makeDirectory (tree.start path) path.pieces =
      .ok (tree.put ((tree.start path).place ++ proper front ++ [name]) .directory) := by
    rw [List.append_assoc] at gap ⊢
    rw [pieces, makeDirectory, vacancy, List.getLast?_concat]
    simp [held, bind, Except.bind, pure, Except.pure, notHere, notAbove, Nat.not_lt.mpr fits, gap]
  have written : path.isEmpty = false := by
    rw [Bool.eq_false_iff]
    intro empty
    have blank : path.text = "" := by simpa [Path.isEmpty] using empty
    simp [Path.pieces, blank, split, Text.splitWhere] at pieces
  rw [makeDirectories_eq, passed]
  simp only [written, Bool.false_eq_true, if_false, makeChain_cons, made]

end ModelRepositories.FileTree
