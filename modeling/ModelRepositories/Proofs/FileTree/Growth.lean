import ModelRepositories.Proofs.FileTree.Emptying

/-!
Trees that only grow. Where a path leads is not changed by entries that come where nothing was, nor
by files that are written over: a path that leads somewhere leads there from then on, over links
too.
-/

namespace ModelRepositories.FileTree

open ModelRepositories.Path

/-- Nothing went, and only files were written over. -/
structure Grows (before after : FileTree) : Prop where
  home : after.home = before.home
  grown : ∀ place, before.get? place = none ∨ after.get? place = before.get? place ∨
    ∃ old new, before.get? place = some (.file old) ∧ after.get? place = some (.file new)

theorem Grows.trans {first second third : FileTree} (left : Grows first second)
    (right : Grows second third) : Grows first third := by
  refine ⟨right.home.trans left.home, ?_⟩
  intro place
  rcases left.grown place with gap | same | ⟨old, new, before, after⟩
  · exact Or.inl gap
  · rw [← same]
    exact right.grown place
  · rcases right.grown place with gap | same | ⟨older, newer, -, written⟩
    · rw [after] at gap
      cases gap
    · exact Or.inr (Or.inr ⟨old, new, before, same.trans after⟩)
    · exact Or.inr (Or.inr ⟨old, newer, before, written⟩)

theorem Grows.directory {before after : FileTree} (grows : Grows before after) {place : Location}
    (directory : before.isDirectory place = true) : after.isDirectory place = true := by
  rw [isDirectory_iff] at directory ⊢
  rcases grows.grown place with gap | same | ⟨old, new, file, -⟩
  · rw [directory] at gap
    cases gap
  · exact same.trans directory
  · rw [directory] at file
    cases file

theorem Grows.link {before after : FileTree} (grows : Grows before after) {place : Location}
    {target : Path} (link : before.get? place = some (.link target)) :
    after.get? place = some (.link target) := by
  rcases grows.grown place with gap | same | ⟨old, new, file, -⟩
  · rw [link] at gap
    cases gap
  · exact same.trans link
  · rw [link] at file
    cases file

theorem Grows.seated {before after : FileTree} (grows : Grows before after) {place : Location}
    (seated : before.Seated place) : after.Seated place := by
  obtain ⟨entry, found, plain⟩ := seated
  rcases grows.grown place with gap | same | ⟨old, new, -, file⟩
  · rw [found] at gap
    cases gap
  · exact ⟨entry, same.trans found, plain⟩
  · exact ⟨.file new, file, rfl⟩

def Landing.settled : Landing → Landing
  | .absent place => .present place
  | landing => landing

def Walk.settled : Walk → Walk
  | .landed landing => .landed landing.settled
  | walk => walk

theorem walk_settles {before after : FileTree} (grows : Grows before after) {place : Location}
    {names : List String} {walk : Walk} (walked : before.walk place names = .ok walk)
    (filled : ∀ gap, walk = .landed (.absent gap) → after.Seated gap) :
    after.walk place names = .ok walk.settled := by
  fun_induction FileTree.walk before place names with
  | case1 place =>
    cases walked
    rfl
  | case2 place name rest notDirectory => cases walked
  | case3 place rest notFile ih =>
    rw [walk_here (grows.directory (by simpa using notFile))]
    exact ih walked
  | case4 place rest notFile notHere ih =>
    rw [walk_above (grows.directory (by simpa using notFile))]
    exact ih walked
  | case5 place name rest notFile notHere notAbove long => cases walked
  | case6 place name rest notFile notHere notAbove fits target found =>
    have here := grows.directory (by simpa using notFile)
    rw [walk_link here notHere notAbove (Nat.le_of_not_lt fits) (grows.link found)]
    cases walked
    rfl
  | case7 place name rest notFile notHere notAbove fits entry noLink found ih =>
    have here := grows.directory (by simpa using notFile)
    have seated := grows.seated (seated_of_entry noLink found)
    rw [walk_entry here notHere notAbove (Nat.le_of_not_lt fits) seated]
    exact ih walked
  | case8 place name rest notFile notHere notAbove fits found finished =>
    obtain rfl : rest = [] := by simpa using finished
    have here := grows.directory (by simpa using notFile)
    cases walked
    rw [walk_entry here notHere notAbove (Nat.le_of_not_lt fits) (filled _ rfl)]
    rfl
  | case9 place name rest notFile notHere notAbove fits found unfinished => cases walked

theorem follow_settles {before after : FileTree} (grows : Grows before after) {links : Nat}
    {place : Location} {names : List String} {landing : Landing}
    (followed : before.follow links place names = .ok landing)
    (filled : ∀ gap, landing = .absent gap → after.Seated gap) :
    after.follow links place names = .ok landing.settled := by
  fun_induction follow before links place names with
  | case1 links place names fault walked => cases followed
  | case2 links place names ended walked =>
    cases followed
    rw [follow, walk_settles grows walked (by simpa using filled)]
    rfl
  | case3 place names further others walked => cases followed
  | case4 place names further others walked links ih =>
    rw [follow, walk_settles grows walked (by simp)]
    exact ih followed

theorem resolve_settles {before after : FileTree} (grows : Grows before after) {path : Path}
    {landing : Landing} (resolved : before.resolve path = .ok landing)
    (filled : ∀ gap, landing = .absent gap → after.Seated gap) :
    after.resolve path = .ok landing.settled := by
  have start := start_eq path grows.home
  rw [resolve] at resolved ⊢
  cases checked : path.check with
  | error fault =>
    rw [checked] at resolved
    cases resolved
  | ok =>
    rw [checked] at resolved
    simp only [bind, Except.bind] at resolved ⊢
    split at resolved
    · cases resolved
    · next written =>
      rw [if_neg written, start]
      rw [resolveNames] at resolved ⊢
      cases surfaced : surface (before.start path).removed path.steps with
      | error fault =>
        rw [surfaced] at resolved
        cases resolved
      | ok below =>
        rw [surfaced] at resolved
        cases below with
        | none =>
          cases resolved
          rfl
        | some names =>
          simp only [bind, Except.bind, resolveFrom_eq] at resolved ⊢
          exact follow_settles grows resolved filled

/-- A landing at something that can be read or listed, or at a gap that can hold an entry. -/
def Landing.Sound (tree : FileTree) : Landing → Prop
  | .present place => tree.Seated place
  | .absent place => tree.get? place = none ∧ tree.canHold place = true
  | .removed => True

def Walk.Sound (tree : FileTree) : Walk → Prop
  | .landed landing => landing.Sound tree
  | .diverted place names => tree.isDirectory place = true ∧ ∀ name ∈ names, IsPiece name

theorem isPiece_of_mem_steps {path : Path} {piece : String} (member : piece ∈ path.steps) :
    IsPiece piece := by
  unfold steps at member
  split at member
  · rcases List.mem_append.mp member with member | last
    · exact isPiece_of_mem_pieces member
    · rw [List.mem_singleton.mp last]
      exact ⟨by decide, by decide⟩
  · exact isPiece_of_mem_pieces member

theorem walk_sound {tree : FileTree} {place : Location} {names : List String} {walk : Walk}
    (pieces : ∀ name ∈ names, IsPiece name) (start : names = [] → tree.Seated place)
    (walked : tree.walk place names = .ok walk) : walk.Sound tree := by
  fun_induction FileTree.walk tree place names with
  | case1 place =>
    cases walked
    exact start rfl
  | case2 place name rest notDirectory => cases walked
  | case3 place rest notFile ih =>
    have directory : tree.isDirectory place = true := by simpa using notFile
    apply ih
    · exact fun other member => pieces other (List.mem_cons_of_mem "." member)
    · exact fun _ => seated_of_directory directory
    · exact walked
  | case4 place rest notFile notHere ih =>
    have directory : tree.isDirectory place = true := by simpa using notFile
    apply ih
    · exact fun other member => pieces other (List.mem_cons_of_mem ".." member)
    · exact fun _ => ⟨.directory, get?_front directory (List.dropLast_prefix place), rfl⟩
    · exact walked
  | case5 place name rest notFile notHere notAbove long => cases walked
  | case6 place name rest notFile notHere notAbove fits target found =>
    have directory : tree.isDirectory place = true := by simpa using notFile
    cases walked
    -- A link starts at the root or in its directory, with its own names in front.
    constructor
    · split
      · simp [isDirectory, get?]
      · exact directory
    · intro other member
      rcases List.mem_append.mp member with step | later
      · exact isPiece_of_mem_steps step
      · exact pieces other (List.mem_cons_of_mem name later)
  | case7 place name rest notFile notHere notAbove fits entry noLink found ih =>
    apply ih
    · exact fun other member => pieces other (List.mem_cons_of_mem name member)
    · exact fun _ => seated_of_entry noLink found
    · exact walked
  | case8 place name rest notFile notHere notAbove fits found finished =>
    have directory : tree.isDirectory place = true := by simpa using notFile
    have called := (pieces name (by simp)).isName notHere notAbove
    cases walked
    exact ⟨found, canHold_concat called directory (by simp [found])⟩
  | case9 place name rest notFile notHere notAbove fits found unfinished => cases walked

theorem follow_sound {tree : FileTree} {links : Nat} {place : Location} {names : List String}
    {landing : Landing} (pieces : ∀ name ∈ names, IsPiece name)
    (start : names = [] → tree.Seated place)
    (followed : tree.follow links place names = .ok landing) : landing.Sound tree := by
  fun_induction follow tree links place names with
  | case1 links place names fault walked => cases followed
  | case2 links place names ended walked =>
    cases followed
    exact walk_sound pieces start walked
  | case3 place names further others walked => cases followed
  | case4 place names further others walked links ih =>
    obtain ⟨directory, further⟩ := walk_sound pieces start walked
    exact ih further (fun _ => seated_of_directory directory) followed

theorem surface_concat {removed : Nat} {front : List String} {name : String}
    (called : isName name = true) {below : Option (List String)}
    (surfaced : surface removed (front ++ [name]) = .ok below) :
    ∃ rest, below = some (rest ++ [name]) ∧ ∀ piece ∈ rest, piece ∈ front := by
  obtain ⟨-, -, notHere, notAbove⟩ := isName_iff.mp called
  induction front generalizing removed with
  | nil =>
    cases removed with
    | zero => exact ⟨[], (Except.ok.inj surfaced).symm, by simp⟩
    | succ removed => simp [surface, notHere, notAbove] at surfaced
  | cons first front ih =>
    cases removed with
    | zero => exact ⟨first :: front, (Except.ok.inj surfaced).symm, by simp⟩
    | succ removed =>
      rw [List.cons_append, surface] at surfaced
      split at surfaced
      · obtain ⟨rest, below, kept⟩ := ih surfaced
        exact ⟨rest, below, fun piece member => List.mem_cons_of_mem first (kept piece member)⟩
      · split at surfaced
        · obtain ⟨rest, below, kept⟩ := ih surfaced
          exact ⟨rest, below, fun piece member => List.mem_cons_of_mem first (kept piece member)⟩
        · cases surfaced

theorem resolve_sound {tree : FileTree} {path : Path} {front : List String} {name : String}
    (steps : path.steps = front ++ [name]) (called : isName name = true) {landing : Landing}
    (resolved : tree.resolve path = .ok landing) : landing.Sound tree := by
  rw [resolve] at resolved
  cases checked : path.check with
  | error fault =>
    rw [checked] at resolved
    cases resolved
  | ok =>
    rw [checked] at resolved
    simp only [bind, Except.bind] at resolved
    split at resolved
    · cases resolved
    · rw [resolveNames] at resolved
      cases surfaced : surface (tree.start path).removed path.steps with
      | error fault =>
        rw [surfaced] at resolved
        cases resolved
      | ok below =>
        rw [surfaced] at resolved
        -- The name of the file is still to go, so the walk cannot end where it starts.
        rw [steps] at surfaced
        obtain ⟨rest, rfl, kept⟩ := surface_concat called surfaced
        simp only [bind, Except.bind, resolveFrom_eq] at resolved
        refine follow_sound ?_ (by simp) resolved
        intro piece member
        have inside : piece ∈ path.steps → IsPiece piece := isPiece_of_mem_steps
        apply inside
        rw [steps]
        rcases List.mem_append.mp member with earlier | last
        · exact List.mem_append_left _ (kept piece earlier)
        · exact List.mem_append_right _ last

theorem canHold_of_file {tree : FileTree} {place : Location} {content : ByteArray}
    (file : tree.get? place = some (.file content)) : tree.canHold place = true := by
  rcases List.eq_nil_or_concat place with rfl | ⟨dir, name, rfl⟩
  · simp [get?] at file
  · rw [List.concat_eq_append] at file ⊢
    have there : tree.get? (dir ++ [name]) ≠ none := by simp [file]
    have holder := isDirectory_of_present tree dir name there
    rw [get?_of_ne_nil tree (by simp)] at there
    exact canHold_concat (tree.named dir name there) holder (by simp [file])

theorem grows_put {tree : FileTree} {place : Location} {entry : Entry}
    (room : tree.canHold place = true)
    (fits : tree.get? place = none ∨
      ∃ old new, tree.get? place = some (.file old) ∧ entry = .file new) :
    Grows tree (tree.put place entry) := by
  refine ⟨home_put tree place entry, ?_⟩
  intro other
  rw [get?_put room]
  split
  · next here =>
    rw [here]
    rcases fits with gap | ⟨old, new, file, rfl⟩
    · exact Or.inl gap
    · exact Or.inr (Or.inr ⟨old, new, file, rfl⟩)
  · exact Or.inr (Or.inl rfl)

theorem resolve_put {tree : FileTree} {path : Path} {landing : Landing} {place : Location}
    {content : ByteArray} (resolved : tree.resolve path = .ok landing)
    (leads : landing.settled = .present place) (room : tree.canHold place = true)
    (fits : tree.get? place = none ∨ ∃ old, tree.get? place = some (.file old)) :
    Grows tree (tree.put place (.file content)) ∧
      (tree.put place (.file content)).resolve path = .ok (.present place) := by
  have grows : Grows tree (tree.put place (.file content)) := by
    apply grows_put room
    rcases fits with gap | ⟨old, file⟩
    · exact Or.inl gap
    · exact Or.inr ⟨old, content, file, rfl⟩
  constructor
  · exact grows
  · rw [← leads]
    apply resolve_settles grows resolved
    rintro gap rfl
    cases leads
    exact ⟨.file content, by rw [get?_put room, if_pos rfl], rfl⟩

theorem write_settles {tree after : FileTree} {path : Path} {front : List String} {name : String}
    (steps : path.steps = front ++ [name]) (called : isName name = true) {content : ByteArray}
    (wrote : tree.write path content = .ok after) :
    Grows tree after ∧ ∃ place, after.resolve path = .ok (.present place) ∧
      ∀ other, after.get? other =
        if other = place then some (.file content) else tree.get? other := by
  unfold write at wrote
  cases resolved : tree.resolve path with
  | error fault =>
    rw [resolved] at wrote
    cases wrote
  | ok landing =>
    have sound := resolve_sound steps called resolved
    rw [resolved] at wrote
    cases landing with
    | removed => cases wrote
    | absent place =>
      obtain ⟨gap, room⟩ := sound
      cases wrote
      obtain ⟨grows, there⟩ := resolve_put resolved rfl room (Or.inl gap)
      exact ⟨grows, place, there, get?_put room _⟩
    | present place =>
      obtain ⟨entry, found, plain⟩ := sound
      simp only [bind, Except.bind] at wrote
      split at wrote
      · cases wrote
      · next notDirectory =>
        rw [isDirectory_iff] at notDirectory
        cases entry with
        | directory => exact absurd found notDirectory
        | link target => cases plain
        | file old =>
          cases wrote
          have room := canHold_of_file found
          obtain ⟨grows, there⟩ := resolve_put resolved rfl room (Or.inr ⟨old, found⟩)
          exact ⟨grows, place, there, get?_put room _⟩

structure Widens (before after : FileTree) : Prop where
  home : after.home = before.home
  widened : ∀ place, before.get? place = none ∨ after.get? place = before.get? place

theorem Widens.refl (tree : FileTree) : Widens tree tree :=
  ⟨rfl, fun _ => Or.inr rfl⟩

theorem Widens.trans {first second third : FileTree} (left : Widens first second)
    (right : Widens second third) : Widens first third := by
  refine ⟨right.home.trans left.home, ?_⟩
  intro place
  rcases left.widened place with gap | same
  · exact Or.inl gap
  · rw [← same]
    exact right.widened place

theorem Widens.grows {before after : FileTree} (widens : Widens before after) :
    Grows before after := by
  refine ⟨widens.home, ?_⟩
  intro place
  rcases widens.widened place with gap | same
  · exact Or.inl gap
  · exact Or.inr (Or.inl same)

theorem makeDirectory_widens {tree made : FileTree} {start : Start} {names : List String}
    (done : tree.makeDirectory start names = .ok made) : Widens tree made := by
  cases vacant : tree.vacancy start names with
  | error fault =>
    rw [makeDirectory, vacant] at done
    cases done
  | ok place =>
    rw [makeDirectory, vacant] at done
    cases done
    obtain ⟨front, name, dir, -, -, -, -, -, gap, rfl⟩ := vacancy_ok vacant
    refine ⟨home_put tree _ _, ?_⟩
    intro other
    by_cases room : tree.canHold (dir ++ [name]) = true
    · rw [get?_put room]
      split
      · next here =>
        rw [here]
        exact Or.inl gap
      · exact Or.inr rfl
    · rw [put, dif_neg room]
      exact Or.inr rfl

theorem makeDirectories_widens (tree : FileTree) (path : Path) :
    Widens tree (tree.makeDirectories path).1 := by
  rw [makeDirectories_eq]
  split
  · exact Widens.refl tree
  · split
    · exact Widens.refl tree
    · apply makeChain_relates Widens.refl Widens.trans
      intro reached _ names _ made done
      exact makeDirectory_widens done

end ModelRepositories.FileTree
