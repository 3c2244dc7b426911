import Std.Data.ExtTreeMap
import ModelRepositories.FileTree.Path

/-!
Trees of directories, files and symbolic links. An entry is found by its location, the names on the
way to it from the root; the root is a directory without an entry of its own. The directory of every
entry is in the tree and every entry has a proper name, and every change keeps it so. A tree also
knows its home, where relative paths start; a home that is removed stays known by its depth below
what is left above it. And it knows in which order its entries came: a directory lists what it holds
with the latest first.
-/

namespace ModelRepositories

abbrev Location := List String

def isName (name : String) : Bool :=
  !name.isEmpty && !name.toList.contains '/' && name ≠ "." && name ≠ ".."

inductive Entry
  | directory
  | file (content : ByteArray)
  | link (target : Path)

/--
Where a path starts: at a directory of the tree, or so many removed directories below it, one in the
other.
-/
structure Start where
  place : Location
  removed : Nat := 0
  deriving DecidableEq, Repr

namespace Start

def retreat (gone : Location → Bool) : (backwards : List String) → (removed : Nat) → Start
  | [], removed => ⟨[], removed⟩
  | name :: above, removed =>
    if gone (name :: above).reverse then retreat gone above (removed + 1)
    else ⟨(name :: above).reverse, removed⟩

def without (gone : Location → Bool) (start : Start) : Start :=
  retreat gone start.place.reverse start.removed

theorem without_of_stays {gone : Location → Bool} {start : Start}
    (stays : gone start.place = false) : start.without gone = start := by
  rcases start with ⟨place, removed⟩
  unfold without
  cases reversed : place.reverse with
  | nil => simpa [retreat] using reversed.symm
  | cons name above =>
    have forwards : (name :: above).reverse = place := by rw [← reversed, List.reverse_reverse]
    rw [retreat, forwards, if_neg (by simpa using stays)]

end Start

/-- The arrivals are the places of the entries, the latest first. -/
structure FileTree where
  entries : Std.ExtTreeMap Location Entry
  arrivals : List Location
  home : Start
  rootless : entries[([] : Location)]? = none
  closed : ∀ (dir : Location) (name : String), dir ≠ [] →
    entries[dir ++ [name]]? ≠ none → entries[dir]? = some .directory
  named : ∀ (dir : Location) (name : String),
    entries[dir ++ [name]]? ≠ none → isName name = true
  listed : ∀ place : Location, place ∈ arrivals ↔ entries[place]? ≠ none
  distinct : arrivals.Nodup

namespace FileTree

def empty : FileTree where
  entries := ∅
  arrivals := []
  home := ⟨[], 0⟩
  rootless := by simp
  closed := by simp
  named := by simp
  listed := by simp
  distinct := List.nodup_nil

def get? (tree : FileTree) (place : Location) : Option Entry :=
  if place = [] then some .directory else tree.entries[place]?

def isDirectory (tree : FileTree) (place : Location) : Bool :=
  match tree.get? place with
  | some .directory => true
  | _ => false

theorem isDirectory_iff (tree : FileTree) (place : Location) :
    tree.isDirectory place = true ↔ tree.get? place = some .directory := by
  unfold isDirectory
  split <;> simp_all

def canHold (tree : FileTree) (place : Location) : Bool :=
  place.getLast?.any isName && tree.isDirectory place.dropLast && !tree.isDirectory place

theorem ne_nil_of_canHold {tree : FileTree} {place : Location} (room : tree.canHold place = true) :
    place ≠ [] := by
  rintro rfl
  simp [canHold] at room

theorem get?_of_ne_nil (tree : FileTree) {place : Location} (below : place ≠ []) :
    tree.get? place = tree.entries[place]? := by
  simp [get?, below]

/-- Puts an entry there, or leaves the tree alone if it cannot hold one. -/
def put (tree : FileTree) (place : Location) (entry : Entry) : FileTree :=
  if room : tree.canHold place then
    { entries := tree.entries.insert place entry
      arrivals :=
        if (tree.entries[place]?).isSome then tree.arrivals else place :: tree.arrivals
      home := tree.home
      rootless := by
        have below := ne_nil_of_canHold room
        rw [Std.ExtTreeMap.getElem?_insert]
        simp [below, tree.rootless]
      closed := by
        intro dir name below present
        have holder : tree.isDirectory place.dropLast = true := by
          simp only [canHold, Bool.and_eq_true] at room
          exact room.1.2
        have free : tree.isDirectory place = false := by
          simp only [canHold, Bool.and_eq_true, Bool.not_eq_true'] at room
          exact room.2
        rw [Std.ExtTreeMap.getElem?_insert] at present ⊢
        simp only [Std.compare_eq_iff_eq] at present ⊢
        by_cases here : place = dir ++ [name]
        · have apart : place ≠ dir := by
            rw [here]
            simp
          rw [if_neg apart]
          rw [here, List.dropLast_concat, isDirectory_iff, get?_of_ne_nil tree below] at holder
          exact holder
        · rw [if_neg here] at present
          have found := tree.closed dir name below present
          have apart : place ≠ dir := by
            rintro rfl
            simp [isDirectory, get?_of_ne_nil tree below, found] at free
          rw [if_neg apart]
          exact found
      named := by
        intro dir name present
        rw [Std.ExtTreeMap.getElem?_insert] at present
        simp only [Std.compare_eq_iff_eq] at present
        by_cases here : place = dir ++ [name]
        · simp only [canHold, here, Bool.and_eq_true] at room
          simpa using room.1.1
        · rw [if_neg here] at present
          exact tree.named dir name present
      listed := by
        intro other
        rw [Std.ExtTreeMap.getElem?_insert]
        simp only [Std.compare_eq_iff_eq]
        by_cases here : place = other
        · subst here
          have known := tree.listed place
          split <;> simp_all
        · rw [if_neg here, ← tree.listed other]
          split <;> simp [Ne.symm here]
      distinct := by
        split
        · exact tree.distinct
        · next new =>
          have fresh : place ∉ tree.arrivals := by
            rw [tree.listed]
            simpa using new
          exact List.nodup_cons.mpr ⟨fresh, tree.distinct⟩ }
  else tree

theorem getElem?_keep (entries : Std.ExtTreeMap Location Entry) (gone : Location → Bool)
    (other : Location) :
    (entries.filter fun other _ => !gone other)[other]? =
      if gone other then none else entries[other]? := by
  rw [Std.ExtTreeMap.getElem?_filter]
  simp only [Std.ExtTreeMap.getKey_eq, Option.pfilter_eq_filter]
  cases entries[other]? <;> by_cases left : gone other = true <;> simp [left]

def prune (tree : FileTree) (gone : Location → Bool)
    (downward : ∀ dir name, gone dir = true → gone (dir ++ [name]) = true) : FileTree where
  entries := tree.entries.filter fun other _ => !gone other
  arrivals := tree.arrivals.filter (!gone ·)
  home := tree.home.without gone
  rootless := by
    rw [getElem?_keep, tree.rootless]
    simp
  closed := by
    intro dir name below present
    rw [getElem?_keep] at present ⊢
    by_cases left : gone (dir ++ [name]) = true
    · simp [left] at present
    · rw [if_neg left] at present
      rw [if_neg fun above => left (downward dir name above)]
      exact tree.closed dir name below present
  named := by
    intro dir name present
    rw [getElem?_keep] at present
    by_cases left : gone (dir ++ [name]) = true
    · simp [left] at present
    · rw [if_neg left] at present
      exact tree.named dir name present
  listed := by
    intro other
    rw [getElem?_keep, List.mem_filter, tree.listed other]
    by_cases left : gone other = true <;> simp [left]
  distinct := tree.distinct.filter _

def within (place other : Location) : Bool :=
  place.isPrefixOf other

def strictlyWithin (place other : Location) : Bool :=
  place.isPrefixOf other && other != place

theorem within_append (place dir : Location) (name : String)
    (above : within place dir = true) : within place (dir ++ [name]) = true :=
  List.isPrefixOf_iff_prefix.mpr
    ((List.isPrefixOf_iff_prefix.mp above).trans (List.prefix_append dir [name]))

theorem strictlyWithin_append (place dir : Location) (name : String)
    (above : strictlyWithin place dir = true) : strictlyWithin place (dir ++ [name]) = true := by
  simp only [strictlyWithin, Bool.and_eq_true, bne_iff_ne] at above ⊢
  refine ⟨within_append place dir name above.1, ?_⟩
  intro whole
  have shorter := (List.isPrefixOf_iff_prefix.mp above.1).length_le
  have longer := congrArg List.length whole
  simp only [List.length_append, List.length_singleton] at longer
  omega

def erase (tree : FileTree) (place : Location) : FileTree :=
  tree.prune (within place) (within_append place)

def clear (tree : FileTree) (place : Location) : FileTree :=
  tree.prune (strictlyWithin place) (strictlyWithin_append place)

def enter (tree : FileTree) (place : Location) : FileTree :=
  { tree with home := ⟨place, 0⟩ }

theorem home_put (tree : FileTree) (place : Location) (entry : Entry) :
    (tree.put place entry).home = tree.home := by
  unfold put
  split <;> rfl

theorem home_prune (tree : FileTree) {gone : Location → Bool}
    (downward : ∀ dir name, gone dir = true → gone (dir ++ [name]) = true)
    (stays : gone tree.home.place = false) : (tree.prune gone downward).home = tree.home :=
  Start.without_of_stays stays

theorem get?_put {tree : FileTree} {place : Location} (room : tree.canHold place = true)
    (entry : Entry) (other : Location) :
    (tree.put place entry).get? other = if other = place then some entry else tree.get? other := by
  have below := ne_nil_of_canHold room
  by_cases root : other = []
  · subst root
    simp [get?, below.symm]
  · by_cases here : other = place
    · subst here
      simp [get?, put, room, root]
    · simp [get?, put, room, root, here, Std.ExtTreeMap.getElem?_insert, Ne.symm here]

theorem get?_prune (tree : FileTree) {gone : Location → Bool}
    (downward : ∀ dir name, gone dir = true → gone (dir ++ [name]) = true)
    (rootStays : gone [] = false) (other : Location) :
    (tree.prune gone downward).get? other = if gone other then none else tree.get? other := by
  by_cases root : other = []
  · subst root
    simp [get?, rootStays]
  · simp only [get?, prune, root, if_false]
    exact getElem?_keep tree.entries gone other

theorem get?_erase (tree : FileTree) {place : Location} (below : place ≠ []) (other : Location) :
    (tree.erase place).get? other =
      if place.isPrefixOf other then none else tree.get? other := by
  refine get?_prune tree (within_append place) ?_ other
  cases place with
  | nil => exact absurd rfl below
  | cons name rest => rfl

theorem get?_clear (tree : FileTree) (place other : Location) :
    (tree.clear place).get? other =
      if place.isPrefixOf other && other != place then none else tree.get? other := by
  refine get?_prune tree (strictlyWithin_append place) ?_ other
  cases place <;> rfl

def children (tree : FileTree) (place : Location) : List String :=
  tree.arrivals.filterMap fun other =>
    if other.dropLast = place then other.getLast? else none

theorem mem_children (tree : FileTree) (place : Location) (name : String) :
    name ∈ tree.children place ↔ tree.get? (place ++ [name]) ≠ none := by
  rw [get?_of_ne_nil tree (by simp), ← tree.listed]
  simp only [children, List.mem_filterMap, Option.ite_none_right_eq_some,
    List.getLast?_eq_some_iff]
  constructor
  · rintro ⟨other, member, rfl, front, rfl⟩
    simpa using member
  · exact fun member => ⟨place ++ [name], member, by simp, place, rfl⟩

/--
What lies below a directory, each entry with its way from there: a directory before what it holds,
names in ascending order.
-/
def below (tree : FileTree) (place : Location) : List (Location × Entry) :=
  tree.entries.toList.filterMap fun (other, entry) =>
    match place.isPrefixOf? other with
    | some (name :: rest) => some (name :: rest, entry)
    | _ => none

/-- What lies below the home; below a home that was removed there is nothing. -/
def belowHome (tree : FileTree) : List (Location × Entry) :=
  if tree.home.removed = 0 then tree.below tree.home.place else []

end FileTree

end ModelRepositories
