import ModelRepositories.FileTree.Resolve

/-!
What a program does with a tree: it makes directories and links, writes and reads files, lists and
empties directories. An operation that fails says why and changes nothing, but for
`makeDirectories`, which may have made some of the directories above the one it fails at, and
`emptyDirectory`, which may have removed some entries. These two are written for any monad with the
steps that they consist of, so that they are the same on a tree and on the files of a machine.
-/

namespace ModelRepositories

section Steps

variable {m : Type → Type} [Monad m] {β : Type}

theorem bind_state {σ α γ : Type} (step : StateM σ α) (next : α → StateM σ γ) (state : σ) :
    (step >>= next) state = next (step state).1 (step state).2 := rfl

/-- The state that is left, and what came of it. -/
def runOn {σ γ : Type} (state : σ) (step : StateM σ γ) : σ × γ :=
  ((step state).2, (step state).1)

def unlessThere (isThere : m Bool) : Except AccessFault Unit → m (Except AccessFault Unit)
  | .ok () => return .ok ()
  | .error fault => return if ← isThere then .ok () else .error fault

/-- Each place lies in the next one; a missing one above is made first. -/
def makeNested (make : β → m (Except AccessFault Unit)) (isThere : β → m Bool) :
    List β → m (Except AccessFault Unit)
  | [] => return .ok ()
  | place :: above => do
    match ← make place with
    | .error .notFound =>
      match ← makeNested make isThere above with
      | .ok () => unlessThere (isThere place) (← make place)
      | .error fault => return .error fault
    | outcome => unlessThere (isThere place) outcome

def makeWhole (make : β → m (Except AccessFault Unit)) (isThere : β → m Bool) (chain : List β)
    (path : Path) : m (Except AccessFault Unit) :=
  match path.check with
  | .error fault => return .error fault
  | .ok () => if path.isEmpty then return .ok () else makeNested make isThere chain

def removeEach (remove : Path → m (Except AccessFault Unit)) :
    List Path → m (Except (Path × AccessFault) Unit)
  | [] => return .ok ()
  | path :: rest => do
    match ← remove path with
    | .ok () => removeEach remove rest
    | .error fault => return .error (path, fault)

/-- Removes what is in a directory; each entry is found by its own path. -/
def removeListed (list : Path → m (Except AccessFault (List String)))
    (remove : Path → m (Except AccessFault Unit)) (path : Path) :
    m (Except (Path × AccessFault) Unit) := do
  match ← list path with
  | .ok names => removeEach remove (names.map fun name => path.join ⟨name⟩)
  | .error fault => return .error (path, fault)

end Steps

namespace FileTree

def attempt (change : FileTree → Except AccessFault FileTree) :
    StateM FileTree (Except AccessFault Unit) := fun tree =>
  match change tree with
  | .ok after => (.ok (), after)
  | .error fault => (.error fault, tree)

def ask {α : Type} (question : FileTree → α) : StateM FileTree α := fun tree =>
  (question tree, tree)

theorem unlessThere_error (isThere : FileTree → Bool) (fault : AccessFault) (tree : FileTree) :
    unlessThere (ask isThere) (.error fault) tree =
      (if isThere tree then .ok () else .error fault, tree) := rfl

def vacancy (tree : FileTree) (start : Start) (names : List String) :
    Except AccessFault Location := do
  match names.getLast? with
  | none => .error .alreadyExists
  | some name =>
    let dir? ← tree.holder start names
    if name = "." ∨ name = ".." then .error .alreadyExists
    else
      match dir? with
      | none => .error .notFound
      | some dir =>
        if maxNameBytes < name.utf8ByteSize then .error .nameTooLong
        else if (tree.get? (dir ++ [name])).isSome then .error .alreadyExists
        else return dir ++ [name]

def makeDirectory (tree : FileTree) (start : Start) (names : List String) :
    Except AccessFault FileTree := do
  return tree.put (← tree.vacancy start names) .directory

def makeChain (tree : FileTree) (start : Start) (chain : List (List String)) :
    FileTree × Except AccessFault Unit :=
  runOn tree <| makeNested (fun names => attempt (·.makeDirectory start names))
    (fun names => ask (·.leadsToDirectory start names)) chain

theorem makeChain_cons (tree : FileTree) (start : Start) (names : List String)
    (above : List (List String)) :
    tree.makeChain start (names :: above) =
      match tree.makeDirectory start names with
      | .ok made => (made, .ok ())
      | .error .notFound =>
        match tree.makeChain start above with
        | (made, .error fault) => (made, .error fault)
        | (made, .ok ()) =>
          match made.makeDirectory start names with
          | .ok made => (made, .ok ())
          | .error fault =>
            if made.leadsToDirectory start names then (made, .ok ()) else (made, .error fault)
      | .error fault =>
        if tree.leadsToDirectory start names then (tree, .ok ()) else (tree, .error fault) := by
  rw [makeChain, makeNested, makeChain]
  generalize makeNested (m := StateM FileTree) _ _ above = higher
  simp only [runOn, bind_state, attempt]
  cases tree.makeDirectory start names with
  | ok made => rfl
  | error fault =>
    cases fault with
    | notFound =>
      simp only [bind_state]
      rcases higher tree with ⟨fault | ⟨⟩, made⟩
      · rfl
      · simp only [bind_state, attempt]
        cases made.makeDirectory start names with
        | ok again => rfl
        | error fault =>
          simp only [unlessThere_error]
          split <;> rfl
    | _ =>
      simp only [unlessThere_error]
      split <;> rfl

def makeDirectories (tree : FileTree) (path : Path) : FileTree × Except AccessFault Unit :=
  runOn tree <| makeWhole (fun names => attempt (·.makeDirectory (tree.start path) names))
    (fun names => ask (·.leadsToDirectory (tree.start path) names)) (path.pieces :: path.above) path

theorem makeDirectories_eq (tree : FileTree) (path : Path) :
    tree.makeDirectories path =
      match path.check with
      | .error fault => (tree, .error fault)
      | .ok () =>
        if path.isEmpty then (tree, .ok ())
        else tree.makeChain (tree.start path) (path.pieces :: path.above) := by
  unfold makeDirectories makeWhole
  cases path.check with
  | error fault => rfl
  | ok _ => by_cases empty : path.isEmpty = true <;> simp only [empty] <;> rfl

def listDirectory (tree : FileTree) (path : Path) : Except AccessFault (List String) := do
  match ← tree.resolve path with
  | .absent _ => .error .notFound
  | .present place =>
    if tree.isDirectory place then return tree.children place else .error .notDirectory
  | .removed => return []

def placeOf (tree : FileTree) (path : Path) : Except AccessFault Location := do
  match path.pieces.getLast? with
  | none => .error .isDirectory
  | some name =>
    match ← tree.holder (tree.start path) path.pieces with
    | none => .error .notFound
    | some dir =>
      if (tree.get? (dir ++ [name])).isSome then return dir ++ [name] else .error .notFound

/--
Removes what the path stands for: a link itself, a directory with its contents. The contents go
first; a directory that its own path no longer leads to without them stays, and stays empty.
-/
def remove (tree : FileTree) (path : Path) : Except AccessFault FileTree := do
  path.check
  let place ← tree.placeOf path
  let cleared := tree.clear place
  match cleared.placeOf path with
  | .ok place => return cleared.erase place
  | .error _ => return cleared

def removeAll (tree : FileTree) (paths : List Path) :
    FileTree × Except (Path × AccessFault) Unit :=
  runOn tree (removeEach (fun path => attempt (·.remove path)) paths)

theorem removeAll_cons (tree : FileTree) (path : Path) (rest : List Path) :
    tree.removeAll (path :: rest) =
      match tree.remove path with
      | .ok tree => tree.removeAll rest
      | .error fault => (tree, .error (path, fault)) := by
  rw [removeAll, removeEach]
  simp only [runOn, bind_state, attempt]
  cases tree.remove path <;> rfl

def emptyDirectory (tree : FileTree) (path : Path) :
    FileTree × Except (Path × AccessFault) Unit :=
  runOn tree <| removeListed (fun path => ask (·.listDirectory path))
    (fun path => attempt (·.remove path)) path

theorem emptyDirectory_eq (tree : FileTree) (path : Path) :
    tree.emptyDirectory path =
      match tree.listDirectory path with
      | .ok names => tree.removeAll (names.map fun name => path.join ⟨name⟩)
      | .error fault => (tree, .error (path, fault)) := by
  unfold emptyDirectory removeListed
  simp only [runOn, bind_state, ask]
  cases tree.listDirectory path <;> rfl

def write (tree : FileTree) (path : Path) (content : ByteArray) :
    Except AccessFault FileTree := do
  match ← tree.resolve path with
  | .absent place => return tree.put place (.file content)
  | .present place =>
    if tree.isDirectory place then .error .isDirectory
    else return tree.put place (.file content)
  | .removed => .error .isDirectory

def readText (tree : FileTree) (path : Path) : Except AccessFault String := do
  match ← tree.resolve path with
  | .absent _ => .error .notFound
  | .present place =>
    match tree.get? place with
    | some (.file content) =>
      match String.fromUTF8? content with
      | some text => return text
      | none => .error .notText
    | _ => .error .isDirectory
  | .removed => .error .isDirectory

def makeLink (tree : FileTree) (path target : Path) : Except AccessFault FileTree := do
  target.check
  path.check
  if target.isEmpty then .error .notFound
  else return tree.put (← tree.vacancy (tree.start path) path.steps) (.link target)

end FileTree

end ModelRepositories
