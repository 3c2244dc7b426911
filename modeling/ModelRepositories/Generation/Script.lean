import ModelRepositories.FileTree.Operations
import ModelRepositories.Generation.Event

/-!
Scripts: what a program is going to do with the files, written down before any of it is done. A
script is carried out action by action and ends at the first one that fails; what was done until
then stays. It is carried out by a machine, in any monad that has the operations: on a `World` it
changes a file tree and collects events.
-/

namespace ModelRepositories

inductive Action
  | report (event : Event)
  | makeDirectories (path : Path)
  | emptyDirectory (path : Path)
  | write (path : Path) (content : String)

/-- Actions, and what comes of them if all are carried out. -/
structure Script (α : Type) where
  actions : List Action
  result : Except Failure α

/-- What a program asks of whatever it runs on. -/
structure Machine (m : Type → Type) where
  report : Event → m Unit
  makeDirectories : Path → m (Except AccessFault Unit)
  emptyDirectory : Path → m (Except (Path × AccessFault) Unit)
  write : Path → String → m (Except AccessFault Unit)
  readText : Path → m (Except AccessFault String)

namespace Machine

variable {m : Type → Type} [Monad m] {α : Type}

def perform (machine : Machine m) : Action → m (Except Failure Unit)
  | .report event => do
    machine.report event
    return .ok ()
  | .makeDirectories path => return (← machine.makeDirectories path).mapError (.access path)
  | .emptyDirectory path =>
    return (← machine.emptyDirectory path).mapError fun (place, fault) => .access place fault
  | .write path content => return (← machine.write path content).mapError (.access path)

def performAll (machine : Machine m) : List Action → m (Except Failure Unit)
  | [] => return .ok ()
  | action :: rest => do
    match ← machine.perform action with
    | .ok () => performAll machine rest
    | .error failure => return .error failure

def run (machine : Machine m) (script : Script α) : m (Except Failure α) := do
  match ← machine.performAll script.actions with
  | .ok () => return script.result
  | .error failure => return .error failure

end Machine

structure World where
  tree : FileTree
  events : List Event := []

namespace World

def report (world : World) (event : Event) : World :=
  { world with events := world.events ++ [event] }

def onTree {α : Type} (operation : FileTree → FileTree × α) : StateM World α := fun world =>
  ((operation world.tree).2, { world with tree := (operation world.tree).1 })

def machine : Machine (StateM World) where
  report event := fun world => ((), world.report event)
  makeDirectories path := onTree (·.makeDirectories path)
  emptyDirectory path := onTree (·.emptyDirectory path)
  write path content := onTree fun tree =>
    runOn tree (FileTree.attempt (·.write path content.toUTF8))
  readText path := onTree fun tree => (tree, tree.readText path)

theorem machine_report (world : World) (event : Event) :
    machine.report event world = ((), world.report event) := rfl

def perform (world : World) (action : Action) : World × Except Failure Unit :=
  runOn world (machine.perform action)

theorem perform_report (world : World) (event : Event) :
    world.perform (.report event) = (world.report event, .ok ()) := rfl

theorem perform_makeDirectories (world : World) (path : Path) :
    world.perform (.makeDirectories path) =
      ({ world with tree := (world.tree.makeDirectories path).1 },
        (world.tree.makeDirectories path).2.mapError (.access path)) := rfl

theorem perform_emptyDirectory (world : World) (path : Path) :
    world.perform (.emptyDirectory path) =
      ({ world with tree := (world.tree.emptyDirectory path).1 },
        (world.tree.emptyDirectory path).2.mapError fun (place, fault) => .access place fault) :=
  rfl

theorem perform_write (world : World) (path : Path) (content : String) :
    world.perform (.write path content) =
      match world.tree.write path content.toUTF8 with
      | .ok tree => ({ world with tree }, .ok ())
      | .error fault => (world, .error (.access path fault)) := by
  simp only [perform, runOn, Machine.perform, machine, onTree, FileTree.attempt, bind_state]
  cases world.tree.write path content.toUTF8 <;> rfl

def performAll (world : World) (actions : List Action) : World × Except Failure Unit :=
  runOn world (machine.performAll actions)

theorem performAll_nil (world : World) : world.performAll [] = (world, .ok ()) := rfl

theorem performAll_cons (world : World) (action : Action) (rest : List Action) :
    world.performAll (action :: rest) =
      match world.perform action with
      | (after, .ok ()) => after.performAll rest
      | (after, .error failure) => (after, .error failure) := by
  rw [performAll, Machine.performAll, runOn, bind_state, perform, runOn]
  rcases machine.perform action world with ⟨failure | ⟨⟩, after⟩ <;> rfl

theorem performAll_append (world : World) (first second : List Action) :
    world.performAll (first ++ second) =
      match world.performAll first with
      | (after, .ok ()) => after.performAll second
      | (after, .error failure) => (after, .error failure) := by
  induction first generalizing world with
  | nil => rfl
  | cons action rest ih =>
    rw [List.cons_append, performAll_cons, performAll_cons]
    rcases world.perform action with ⟨after, _ | _⟩
    · rfl
    · exact ih after

def run {α : Type} (world : World) (script : Script α) : World × Except Failure α :=
  runOn world (machine.run script)

theorem run_eq {α : Type} (world : World) (script : Script α) :
    world.run script =
      match world.performAll script.actions with
      | (after, .ok ()) => (after, script.result)
      | (after, .error failure) => (after, .error failure) := by
  rw [run, Machine.run, runOn, bind_state, performAll, runOn]
  rcases machine.performAll script.actions world with ⟨failure | ⟨⟩, after⟩ <;> rfl

end World

end ModelRepositories
