import ModelRepositories.FileTree.Operations
import ModelRepositories.Proofs.FileTree.PathNames

/-!
Paths that only lead down. Without `..` and without a link on its way a path can lead to one place
only, its site. If the site is a directory and no name is too long, the path opens it: what follows
behind the path is looked up from there.
-/

namespace ModelRepositories

def Entry.isLink : Entry → Bool
  | .link _ => true
  | _ => false

namespace FileTree

open ModelRepositories.Path

/-- No link stands at a place or on the way down from it. -/
def Unlinked (tree : FileTree) (place : Location) (names : List String) : Prop :=
  ∀ front, front <+: names → ∀ target, tree.get? (place ++ front) ≠ some (.link target)

theorem unlinked_iff {tree : FileTree} {place : Location} {names : List String} :
    tree.Unlinked place names ↔
      ∀ front ∈ [] :: beginnings names, (tree.get? (place ++ front)).any Entry.isLink = false := by
  have reached : ∀ front, front ∈ [] :: beginnings names ↔ front <+: names := by
    intro front
    rw [List.mem_cons, mem_beginnings]
    by_cases empty : front = []
    · simp [empty]
    · simp [empty]
  simp only [Unlinked, reached]
  refine forall₂_congr fun front _ => ?_
  cases tree.get? (place ++ front) with
  | none => simp
  | some entry => cases entry <;> simp [Entry.isLink]

instance (tree : FileTree) (place : Location) (names : List String) :
    Decidable (tree.Unlinked place names) :=
  decidable_of_iff _ unlinked_iff.symm

theorem Unlinked.front {tree : FileTree} {place : Location} {names front : List String}
    (unlinked : tree.Unlinked place names) (prefixed : front <+: names) :
    tree.Unlinked place front :=
  fun shorter before => unlinked shorter (before.trans prefixed)

theorem Unlinked.tail {tree : FileTree} {place : Location} {name : String} {names : List String}
    (unlinked : tree.Unlinked place (name :: names)) :
    tree.Unlinked (place ++ [name]) names := by
  intro front prefixed target
  have whole := unlinked (name :: front) (List.cons_prefix_cons.mpr ⟨rfl, prefixed⟩) target
  simpa using whole

def Seated (tree : FileTree) (place : Location) : Prop :=
  ∃ entry, tree.get? place = some entry ∧ entry.isLink = false

theorem seated_of_directory {tree : FileTree} {place : Location}
    (directory : tree.isDirectory place = true) : tree.Seated place :=
  ⟨.directory, (isDirectory_iff tree place).mp directory, rfl⟩

theorem seated_of_entry {tree : FileTree} {place : Location} {entry : Entry}
    (noLink : ∀ target, entry = .link target → False) (found : tree.get? place = some entry) :
    tree.Seated place := by
  refine ⟨entry, found, ?_⟩
  cases entry with
  | directory => rfl
  | file content => rfl
  | link target => exact (noLink target rfl).elim

section Walk

variable {tree : FileTree} {place : Location} {name : String}

theorem walk_here (directory : tree.isDirectory place = true) (rest : List String) :
    tree.walk place ("." :: rest) = tree.walk place rest := by
  simp [walk, directory]

theorem walk_above (directory : tree.isDirectory place = true) (rest : List String) :
    tree.walk place (".." :: rest) = tree.walk place.dropLast rest := by
  simp [walk, directory]

theorem walk_entry (directory : tree.isDirectory place = true) (notHere : name ≠ ".")
    (notAbove : name ≠ "..") (fits : name.utf8ByteSize ≤ maxNameBytes)
    (seated : tree.Seated (place ++ [name])) (rest : List String) :
    tree.walk place (name :: rest) = tree.walk (place ++ [name]) rest := by
  obtain ⟨entry, found, plain⟩ := seated
  rw [walk]
  simp only [directory, notHere, notAbove, Nat.not_lt.mpr fits, found, Bool.not_true,
    Bool.false_eq_true, if_false]
  cases entry with
  | directory => rfl
  | file content => rfl
  | link target => cases plain

theorem walk_link (directory : tree.isDirectory place = true) (notHere : name ≠ ".")
    (notAbove : name ≠ "..") (fits : name.utf8ByteSize ≤ maxNameBytes) {target : Path}
    (found : tree.get? (place ++ [name]) = some (.link target)) (rest : List String) :
    tree.walk place (name :: rest) =
      .ok (.diverted (if target.isAbsolute then [] else place) (target.steps ++ rest)) := by
  rw [walk]
  simp only [directory, notHere, notAbove, Nat.not_lt.mpr fits, found, Bool.not_true,
    Bool.false_eq_true, if_false]

end Walk

/-- Where a walk down can end: at a place that is there, or at a gap in a directory. -/
inductive Descent (tree : FileTree) (place : Location) (names : List String) : Landing → Prop
  | present (there : names ≠ [] → tree.get? (place ++ names) ≠ none) :
      Descent tree place names (.present (place ++ names))
  | absent (holder : tree.isDirectory (place ++ names.dropLast) = true) (nonempty : names ≠ [])
      (gap : tree.get? (place ++ names) = none) :
      Descent tree place names (.absent (place ++ names))

theorem Descent.cons {tree : FileTree} {place : Location} {name : String} {names : List String}
    {landing : Landing} (there : tree.get? (place ++ [name]) ≠ none)
    (descent : Descent tree (place ++ [name]) names landing) :
    Descent tree place (name :: names) landing := by
  have whole : place ++ [name] ++ names = place ++ name :: names := by simp
  cases descent with
  | present below =>
    rw [whole] at below ⊢
    apply Descent.present
    intro _
    cases names with
    | nil => simpa using there
    | cons next rest => exact below (by simp)
  | absent holder some gap =>
    rw [whole] at gap ⊢
    refine .absent ?_ (by simp) gap
    rw [List.dropLast_cons_of_ne_nil some]
    simpa using holder

theorem walk_down {tree : FileTree} {place : Location} {pieces : List String} {walk : Walk}
    (climbless : ".." ∉ pieces) (unlinked : tree.Unlinked place (proper pieces))
    (walked : tree.walk place pieces = .ok walk) :
    ∃ landing, walk = .landed landing ∧ Descent tree place (proper pieces) landing ∧
      (∀ name ∈ proper pieces, name.utf8ByteSize ≤ maxNameBytes) ∧
      (pieces.getLast? = some "." → tree.isDirectory (place ++ proper pieces) = true) := by
  -- Only `case4` goes up and only `case6` is diverted; the hypotheses rule out both.
  fun_induction FileTree.walk tree place pieces with
  | case1 place =>
    have here : Descent tree place [] (.present (place ++ [])) := .present (by simp)
    refine ⟨.present place, ?_, ?_, by simp, by simp⟩
    · simpa using walked.symm
    · simpa using here
  | case2 place name rest notDirectory => cases walked
  | case3 place rest notFile ih =>
    have onward : ".." ∉ rest := fun member => climbless (List.mem_cons_of_mem "." member)
    rw [proper_here] at unlinked ⊢
    obtain ⟨landing, ended, descent, short, last⟩ := ih onward unlinked walked
    refine ⟨landing, ended, descent, short, ?_⟩
    cases rest with
    | nil => simpa using notFile
    | cons next rest => simpa using last
  | case4 place rest notFile notHere ih => exact absurd (by simp) climbless
  | case5 place name rest notFile notHere notAbove long => cases walked
  | case6 place name rest notFile notHere notAbove fits target found =>
    rw [proper_cons notHere] at unlinked
    exact absurd found (unlinked [name] (by simp) target)
  | case7 place name rest notFile notHere notAbove fits entry noLink found ih =>
    have onward : ".." ∉ rest := fun member => climbless (List.mem_cons_of_mem name member)
    have there : tree.get? (place ++ [name]) ≠ none := by simp [found]
    rw [proper_cons notHere] at unlinked ⊢
    obtain ⟨landing, ended, descent, short, last⟩ := ih onward unlinked.tail walked
    refine ⟨landing, ended, descent.cons there, ?_, ?_⟩
    · simpa using ⟨Nat.le_of_not_lt fits, short⟩
    · cases rest with
      | nil => simp [notHere]
      | cons next rest => simpa using last
  | case8 place name rest notFile notHere notAbove fits found finished =>
    obtain rfl : rest = [] := by simpa using finished
    rw [proper_cons notHere, proper_nil]
    refine ⟨.absent (place ++ [name]), ?_, ?_, ?_, ?_⟩
    · simpa using walked.symm
    · exact .absent (by simpa using notFile) (by simp) found
    · simpa using Nat.le_of_not_lt fits
    · simp [notHere]
  | case9 place name rest notFile notHere notAbove fits found unfinished => cases walked

structure Reached (tree : FileTree) (start : Start) (pieces : List String) (landing : Landing) :
    Prop where
  surfaced : start.removed = 0
  descent : Descent tree start.place (proper pieces) landing
  short : ∀ name ∈ proper pieces, name.utf8ByteSize ≤ maxNameBytes
  last : pieces.getLast? = some "." → tree.isDirectory (start.place ++ proper pieces) = true

theorem surface_down {removed : Nat} {pieces : List String} {below : Option (List String)}
    (climbless : ".." ∉ pieces) (surfaced : surface (removed + 1) pieces = .ok below) :
    below = none ∧ proper pieces = [] := by
  induction pieces with
  | nil => simpa [surface] using surfaced.symm
  | cons name rest ih =>
    have onward : ".." ∉ rest := fun member => climbless (List.mem_cons_of_mem name member)
    have notAbove : name ≠ ".." := by
      rintro rfl
      exact climbless (by simp)
    by_cases idle : name = "."
    · subst idle
      rw [proper_here]
      exact ih onward (by simpa [surface] using surfaced)
    · simp [surface, idle, notAbove] at surfaced

theorem follow_down {tree : FileTree} {place : Location} {pieces : List String} {links : Nat}
    {landing : Landing} (climbless : ".." ∉ pieces)
    (unlinked : tree.Unlinked place (proper pieces))
    (followed : tree.follow links place pieces = .ok landing) :
    tree.walk place pieces = .ok (.landed landing) := by
  rw [follow] at followed
  split at followed
  · cases followed
  · next ended walked => rw [walked, Except.ok.inj followed]
  · next further names walked =>
    obtain ⟨ended, landed, -⟩ := walk_down climbless unlinked walked
    cases landed

theorem resolveNames_down {tree : FileTree} {start : Start} {pieces : List String}
    {landing : Landing} (climbless : ".." ∉ pieces)
    (unlinked : tree.Unlinked start.place (proper pieces))
    (resolved : tree.resolveNames start pieces = .ok landing) :
    (landing = .removed ∧ 0 < start.removed ∧ proper pieces = []) ∨
      Reached tree start pieces landing := by
  rcases start with ⟨place, removed⟩
  cases removed with
  | zero =>
    rw [resolveNames_of_present, resolveFrom_eq] at resolved
    obtain ⟨ended, landed, descent, short, last⟩ :=
      walk_down climbless unlinked (follow_down climbless unlinked resolved)
    cases landed
    exact Or.inr ⟨rfl, descent, short, last⟩
  | succ removed =>
    cases surfaced : surface (removed + 1) pieces with
    | error fault =>
      rw [resolveNames, surfaced] at resolved
      cases resolved
    | ok below =>
      obtain ⟨rfl, idle⟩ := surface_down climbless surfaced
      rw [resolveNames, surfaced] at resolved
      cases resolved
      exact Or.inl ⟨rfl, Nat.succ_pos removed, idle⟩

/-- A directory at the end of a way down that no name is too long for. -/
structure Opens (tree : FileTree) (start : Start) (names : List String) : Prop where
  surfaced : start.removed = 0
  climbless : ".." ∉ names
  short : ∀ name ∈ names, name.utf8ByteSize ≤ maxNameBytes
  directory : tree.isDirectory (start.place ++ names) = true

theorem walk_opens {tree : FileTree} {place : Location} {pieces : List String}
    (climbless : ".." ∉ pieces) (short : ∀ name ∈ proper pieces, name.utf8ByteSize ≤ maxNameBytes)
    (directory : tree.isDirectory (place ++ proper pieces) = true) (rest : List String) :
    tree.walk place (pieces ++ rest) = tree.walk (place ++ proper pieces) rest := by
  induction pieces generalizing place with
  | nil => simp
  | cons name pieces ih =>
    have onward : ".." ∉ pieces := fun member => climbless (List.mem_cons_of_mem name member)
    have notAbove : name ≠ ".." := by
      rintro rfl
      exact climbless (by simp)
    have here := isDirectory_of_append tree place _ directory
    rw [List.cons_append]
    by_cases idle : name = "."
    · subst idle
      rw [proper_here] at short directory ⊢
      rw [walk_here here]
      exact ih onward short directory
    · rw [proper_cons idle] at short directory ⊢
      have whole : place ++ name :: proper pieces = place ++ [name] ++ proper pieces := by simp
      rw [whole] at directory ⊢
      have next := seated_of_directory (isDirectory_of_append tree (place ++ [name]) _ directory)
      rw [walk_entry here idle notAbove (short name (by simp)) next]
      exact ih onward (fun other member => short other (List.mem_cons_of_mem name member)) directory

theorem resolveNames_opens {tree : FileTree} {start : Start} {pieces : List String}
    (opens : tree.Opens start (proper pieces)) (rest : List String) :
    tree.resolveNames start (pieces ++ rest) =
      tree.follow maxLinks (start.place ++ proper pieces) rest := by
  obtain ⟨surfaced, climbless, short, directory⟩ := opens
  rcases start with ⟨place, removed⟩
  subst surfaced
  have climbless : ".." ∉ pieces := fun member => climbless (mem_proper.mpr ⟨member, by decide⟩)
  rw [resolveNames_of_present, resolveFrom_eq, follow, follow,
    walk_opens climbless short directory rest]

end FileTree

end ModelRepositories
