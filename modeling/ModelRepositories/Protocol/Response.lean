import ModelRepositories.Generation.Write
import ModelRepositories.Protocol.Request

/-!
Answering a request. The generator describes itself, generates, or does not know the method; a
generation that fails is an answer too.
-/

namespace ModelRepositories.Protocol

open Json

inductive Reply
  | result (value : Value)
  | error (code : Int) (message : String) (data : Option Value)

structure Response where
  id : Value
  reply : Reply

def generationFailedCode : Int := -32000

def unknownMethodCode : Int := -32601

def manifest : Value :=
  .obj [("manifest", .obj [
    ("defaultOutput", .str "./generated"),
    ("prettyName", .str "Prisma Repository Generator"),
    ("requiresGenerators", .arr [.str clientProvider])])]

def Response.toJson (response : Response) : Value :=
  let reply :=
    match response.reply with
    | .result value => ("result", value)
    | .error code message none =>
      ("error", .obj [("code", .int code), ("message", .str message)])
    | .error code message (some data) =>
      ("error", .obj [("code", .int code), ("message", .str message), ("data", data)])
  .obj [("jsonrpc", .str "2.0"), reply, ("id", response.id)]

def Response.encode (response : Response) : List UInt8 :=
  (print response.toJson ++ "\n").toUTF8.toList

inductive Task
  | answer (reply : Reply)
  | generate (script : Script (List Path))

/-- Options that do not decode are a failure before the first action. -/
def scriptOfParams (environment : Environment) (params : Value) : Script (List Path) :=
  match Options.ofJson params with
  | .error failure => ⟨[], .error failure⟩
  | .ok options => options.script environment

def Request.task (environment : Environment) (request : Request) : Task :=
  if request.method = "getManifest" then .answer (.result manifest)
  else if request.method = "generate" then
    .generate (scriptOfParams environment request.params)
  else .answer (.error unknownMethodCode ("Method not found: " ++ request.method) none)

def generationReply {α : Type} : Except Failure α → Reply
  | .ok _ => .result .null
  | .error failure =>
    .error generationFailedCode failure.message (some (.obj [("stack", .str failure.debug)]))

/-- A failure is reported before it is answered. -/
def generationReports {α : Type} : Except Failure α → List Event
  | .ok _ => []
  | .error failure => [.failed failure]

def Request.variableNames (request : Request) : List String :=
  match Options.ofJson request.params with
  | .ok options => options.variableNames
  | .error _ => []

def Request.answer {m : Type → Type} [Monad m] (machine : Machine m) (environment : Environment)
    (request : Request) : m Response := do
  machine.report (.request request.method request.id)
  match request.task environment with
  | .answer reply => return ⟨request.id, reply⟩
  | .generate script =>
    let outcome ← machine.run script
    (generationReports outcome).forM machine.report
    return ⟨request.id, generationReply outcome⟩

def respond (environment : Environment) (world : World) (request : Request) :
    World × Response :=
  runOn world (request.answer World.machine environment)

theorem respond_eq (environment : Environment) (world : World) (request : Request) :
    respond environment world request =
      match request.task environment with
      | .answer reply => (world.report (.request request.method request.id), ⟨request.id, reply⟩)
      | .generate script =>
        let (after, outcome) := (world.report (.request request.method request.id)).run script
        ((generationReports outcome).foldl World.report after,
          ⟨request.id, generationReply outcome⟩) := by
  rw [respond, Request.answer, runOn, bind_state, World.machine_report]
  cases request.task environment with
  | answer reply => rfl
  | generate script =>
    simp only [bind_state, World.run, runOn]
    rcases World.machine.run script (world.report (.request request.method request.id)) with
      ⟨failure | files, after⟩
    · rfl
    · rfl

end ModelRepositories.Protocol
