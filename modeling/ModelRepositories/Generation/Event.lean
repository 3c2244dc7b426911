import ModelRepositories.Failure
import ModelRepositories.Json.Printer
import ModelRepositories.Options

/-!
What a run reports while it works: events with a level, the part of the program that they come from,
a message and named fields.
-/

namespace ModelRepositories

inductive Level
  | debug
  | info
  | error
  deriving DecidableEq, Repr

def Level.name : Level → String
  | .debug => "DEBUG"
  | .info => "INFO"
  | .error => "ERROR"

inductive Event
  | usingClient (generator : String) (previewFeatures : List String)
  | noClient
  | generating (output : Path) (models : Nat)
  | planned (model : String) (methods : List String) (aliasType : String)
  | wrote (path : Path)
  | request (method : String) (id : Json.Value)
  | failed (failure : Failure)

namespace Event

def level : Event → Level
  | .usingClient _ _ => .info
  | .noClient => .debug
  | .generating _ _ => .info
  | .planned _ _ _ => .debug
  | .wrote _ => .info
  | .request _ _ => .debug
  | .failed _ => .error

def scope : Event → String
  | .request _ _ => "rpc"
  | .failed _ => "rpc"
  | _ => "generator"

def message : Event → String
  | .usingClient _ _ => "using client generator"
  | .noClient => "no " ++ clientProvider ++ " generator declared"
  | .generating _ _ => "generating repositories"
  | .planned _ _ _ => "planned repository"
  | .wrote _ => "wrote repository"
  | .request _ _ => "request"
  | .failed _ => "generation failed"

def fields : Event → List (String × String)
  | .usingClient generator previewFeatures =>
    [("generator", generator), ("preview_features", Text.quotedList previewFeatures)]
  | .noClient => []
  | .generating output models => [("output", output.text), ("models", toString models)]
  | .planned model methods aliasType =>
    [("model", model), ("methods", Text.quotedList methods), ("alias", aliasType)]
  | .wrote path => [("path", path.text)]
  | .request method id => [("method", method), ("id", Json.print id)]
  | .failed failure => [("error", failure.message)]

end Event

end ModelRepositories
