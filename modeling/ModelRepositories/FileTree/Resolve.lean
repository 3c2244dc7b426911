import ModelRepositories.FileTree.Access
import ModelRepositories.FileTree.Basic

/-!
Where a path leads in a tree. Every name but the last is looked up in a directory; `..` leads to the
directory above, which at the root is the root; a symbolic link is replaced by its target, at most
forty times on one way. A relative path starts at the home of the tree, an absolute one at the root.
A directory that was removed holds nothing, but `..` leads from it to the directory that held it.
-/

namespace ModelRepositories.FileTree

def maxLinks : Nat := 40

def maxNameBytes : Nat := 255

/--
The last name may be missing, if everything on the way to it is there. A removed directory is a
directory still for those who start from it.
-/
inductive Landing
  | present (place : Location)
  | absent (place : Location)
  | removed

inductive Walk
  | landed (landing : Landing)
  | diverted (place : Location) (names : List String)

def walk (tree : FileTree) (place : Location) : List String → Except AccessFault Walk
  | [] => .ok (.landed (.present place))
  | name :: rest =>
    if !tree.isDirectory place then .error .notDirectory
    else if name = "." then walk tree place rest
    else if name = ".." then walk tree place.dropLast rest
    else if maxNameBytes < name.utf8ByteSize then .error .nameTooLong
    else
      match tree.get? (place ++ [name]) with
      | some (.link target) =>
        .ok (.diverted (if target.isAbsolute then [] else place) (target.steps ++ rest))
      | some _ => walk tree (place ++ [name]) rest
      | none =>
        if rest.isEmpty then .ok (.landed (.absent (place ++ [name]))) else .error .notFound

def follow (tree : FileTree) :
    (links : Nat) → Location → List String → Except AccessFault Landing
  | links, place, names =>
    match tree.walk place names with
    | .error fault => .error fault
    | .ok (.landed landing) => .ok landing
    | .ok (.diverted place names) =>
      match links with
      | 0 => .error .tooManyLinks
      | links + 1 => follow tree links place names

def isPlain (name : String) : Bool :=
  name ≠ "." && name ≠ ".." && decide (name.utf8ByteSize ≤ maxNameBytes)

theorem isDirectory_of_present (tree : FileTree) (place : Location) (name : String)
    (present : tree.get? (place ++ [name]) ≠ none) : tree.isDirectory place = true := by
  rw [isDirectory_iff]
  by_cases root : place = []
  · simp [get?, root]
  · rw [get?_of_ne_nil tree root]
    rw [get?_of_ne_nil tree (by simp)] at present
    exact tree.closed place name root present

theorem isDirectory_of_append (tree : FileTree) (place rest : Location)
    (there : tree.isDirectory (place ++ rest) = true) : tree.isDirectory place = true := by
  induction rest generalizing place with
  | nil => simpa using there
  | cons name rest ih =>
    have next := ih (place ++ [name]) (by simpa using there)
    apply isDirectory_of_present tree place name
    rw [(isDirectory_iff tree _).mp next]
    simp

theorem walk_append (tree : FileTree) (place : Location) (names rest : List String)
    (plain : names.all isPlain = true) (there : tree.isDirectory (place ++ names) = true) :
    tree.walk place (names ++ rest) = tree.walk (place ++ names) rest := by
  induction names generalizing place with
  | nil => simp
  | cons name names ih =>
    simp only [List.all_cons, Bool.and_eq_true] at plain
    have here := isDirectory_of_append tree place (name :: names) there
    have onward : tree.isDirectory ((place ++ [name]) ++ names) = true := by simpa using there
    have next := (isDirectory_iff tree _).mp (isDirectory_of_append tree _ names onward)
    have proper := plain.1
    simp only [isPlain, Bool.and_eq_true, decide_eq_true_eq, ne_eq, decide_not,
      Bool.not_eq_true', decide_eq_false_iff_not] at proper
    obtain ⟨⟨notHere, notAbove⟩, short⟩ := proper
    have step := ih (place ++ [name]) plain.2 onward
    rw [List.cons_append, walk]
    simp only [here, notHere, notAbove, Nat.not_lt.mpr short, next, if_false, Bool.not_true,
      Bool.false_eq_true]
    simpa using step

/--
Where the names lead from a directory of the tree. If all but the last are names of directories, the
walk begins behind them; it would come there anyway, as `resolveFrom_eq` says.
-/
def resolveFrom (tree : FileTree) (start : Location) (names : List String) :
    Except AccessFault Landing :=
  let above := names.dropLast
  if above.all isPlain && tree.isDirectory (start ++ above) then
    tree.follow maxLinks (start ++ above) names.getLast?.toList
  else tree.follow maxLinks start names

theorem resolveFrom_eq (tree : FileTree) (start : Location) (names : List String) :
    tree.resolveFrom start names = tree.follow maxLinks start names := by
  simp only [resolveFrom]
  split
  · next direct =>
    rw [Bool.and_eq_true] at direct
    have whole : names.dropLast ++ names.getLast?.toList = names := by
      cases names with
      | nil => rfl
      | cons name rest =>
        rw [List.getLast?_eq_some_getLast (List.cons_ne_nil name rest)]
        exact List.dropLast_concat_getLast (List.cons_ne_nil name rest)
    have along := walk_append tree start names.dropLast names.getLast?.toList direct.1 direct.2
    rw [whole] at along
    rw [follow, follow, along]
  · rfl

/-- The names that are still to go from a directory of the tree; `none` if they end below it. -/
def surface : (removed : Nat) → List String → Except AccessFault (Option (List String))
  | 0, names => .ok (some names)
  | _ + 1, [] => .ok none
  | removed + 1, name :: rest =>
    if name = "." then surface (removed + 1) rest
    else if name = ".." then surface removed rest
    else .error .notFound

def resolveNames (tree : FileTree) (start : Start) (names : List String) :
    Except AccessFault Landing := do
  match ← surface start.removed names with
  | none => return .removed
  | some names => tree.resolveFrom start.place names

theorem resolveNames_of_present (tree : FileTree) (place : Location) (names : List String) :
    tree.resolveNames ⟨place, 0⟩ names = tree.resolveFrom place names := by
  cases names <;> rfl

def start (tree : FileTree) (path : Path) : Start :=
  if path.isAbsolute then ⟨[], 0⟩ else tree.home

def resolve (tree : FileTree) (path : Path) : Except AccessFault Landing := do
  path.check
  if path.isEmpty then .error .notFound else tree.resolveNames (tree.start path) path.steps

/-- The directory that holds the last of the names; `none` if it was removed and holds nothing. -/
def holder (tree : FileTree) (start : Start) (names : List String) :
    Except AccessFault (Option Location) := do
  match ← tree.resolveNames start (names.dropLast ++ ["."]) with
  | .present place => return some place
  | .absent _ => .error .notFound
  | .removed => return none

def leadsToDirectory (tree : FileTree) (start : Start) (names : List String) : Bool :=
  match tree.resolveNames start names with
  | .ok (.present place) => tree.isDirectory place
  | .ok .removed => true
  | _ => false

end ModelRepositories.FileTree
