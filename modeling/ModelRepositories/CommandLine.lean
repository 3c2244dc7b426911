import ModelRepositories.Json.Reader
import ModelRepositories.Protocol.Serve

/-!
The two commands. `runTool` generates the repositories of a schema file; `runPlugin` serves the
requests of a host.
-/

namespace ModelRepositories.CommandLine

open Json

structure Arguments where
  input : Path
  output : Path
  deriving DecidableEq, Repr

inductive Parsed
  | run (arguments : Arguments)
  | help
  | misuse
  deriving DecidableEq, Repr

structure Seen where
  input : Option String := none
  output : Option String := none

def defaultOutput : String := "generated"

def Seen.finish (seen : Seen) : Parsed :=
  match seen.input with
  | none => .misuse
  | some input => .run ⟨⟨input⟩, ⟨seen.output.getD defaultOutput⟩⟩

def Seen.addInput? (seen : Seen) (text : String) : Option Seen :=
  if text.isEmpty || seen.input.isSome then none else some { seen with input := some text }

def Seen.addOutput? (seen : Seen) (text : String) : Option Seen :=
  if text.isEmpty || seen.output.isSome then none else some { seen with output := some text }

/-- A lone dash is no option. -/
def isOption (text : List Char) : Bool :=
  text.head? == some '-' && decide (1 < text.length)

/-- Behind `--` nothing is an option. -/
def readInputs (seen : Seen) : List String → Parsed
  | [] => seen.finish
  | text :: rest =>
    match seen.addInput? text with
    | some seen => readInputs seen rest
    | none => .misuse

inductive Argument
  | input
  | separator
  | help
  | output (attached : Option String)
  | unknown

def classify (text : List Char) : Argument :=
  if text = ['-', '-'] then .separator
  else if text = "--help".toList then .help
  else if text = "--output".toList then .output none
  else if "--output=".toList.isPrefixOf text then
    .output (some (String.ofList (text.drop "--output=".length)))
  else
    match text with
    | '-' :: 'h' :: _ => .help
    | ['-', 'o'] => .output none
    | '-' :: 'o' :: '=' :: value => .output (some (String.ofList value))
    | '-' :: 'o' :: value => .output (some (String.ofList value))
    | _ => if isOption text then .unknown else .input

def readArguments (seen : Seen) : List String → Parsed
  | [] => seen.finish
  | text :: rest =>
    match classify text.toList with
    | .separator => readInputs seen rest
    | .help => .help
    | .unknown => .misuse
    | .input =>
      match seen.addInput? text with
      | some seen => readArguments seen rest
      | none => .misuse
    | .output (some value) =>
      match seen.addOutput? value with
      | some seen => readArguments seen rest
      | none => .misuse
    | .output none =>
      match rest with
      | [] => .misuse
      | value :: rest =>
        if isOption value.toList then .misuse
        else
          match seen.addOutput? value with
          | some seen => readArguments seen rest
          | none => .misuse

structure Finished where
  exitCode : Nat
  output : String
  errors : Protocol.Bytes

def helpText : String :=
  "Generate TypeScript repositories from a Prisma DMMF document\n\n" ++
  "Usage: repository-gen [OPTIONS] <INPUT>\n\n" ++
  "Arguments:\n  <INPUT>  DMMF JSON file, or generator options containing a `dmmf` key\n\n" ++
  "Options:\n  -o, --output <OUTPUT>  Output directory (its previous contents are removed) " ++
  "[default: " ++ defaultOutput ++ "]\n" ++
  "  -h, --help             Print help\n"

def Finished.withErrors (exitCode : Nat) (text : String) : Finished :=
  ⟨exitCode, "", text.toUTF8.toList⟩

def Finished.failed (diagnostic : String) : Finished :=
  .withErrors 1 ("Error: " ++ diagnostic ++ "\n")

/-- The document in a captured options payload, or the value itself. -/
def documentValue : Value → Value
  | .obj members => (Members.get? "dmmf" members).getD (.obj members)
  | value => value

def readDocument (text : String) : Except Finished Schema.Document := do
  let value ← (parse text).mapError fun error => .failed error.debug
  (Schema.Document.ofJson (documentValue value)).mapError fun failure => .failed failure.debug

def toolScript (arguments : Arguments) (content : Except AccessFault String) :
    Except Finished (Script (List Path)) := do
  let text ← content.mapError fun fault => .failed fault.debug
  let models := (← readDocument text).datamodel.models
  if models.isEmpty then
    .error (.withErrors 0 ("No models found in " ++ arguments.input.text ++ "\n"))
  else return writeRepositories models arguments.output

def toolFinished (arguments : Arguments) : Except Failure (List Path) → Finished
  | .error failure => .failed failure.debug
  | .ok files =>
    .withErrors 0 ("Generated " ++ toString files.length ++ " repositories in " ++
      arguments.output.text ++ "\n")

/-- The words in which the reader of the arguments refuses them are left out. -/
def misused : Finished := ⟨2, "", []⟩

def helped : Finished := ⟨0, helpText, []⟩

section Tool

variable {m : Type → Type} [Monad m]

def generateFile (machine : Machine m) (arguments : Arguments) : m Finished := do
  match toolScript arguments (← machine.readText arguments.input) with
  | .error finished => return finished
  | .ok script => return toolFinished arguments (← machine.run script)

def tool (machine : Machine m) (arguments : List String) : m Finished :=
  match readArguments {} arguments with
  | .misuse => return misused
  | .help => return helped
  | .run arguments => generateFile machine arguments

end Tool

def runTool (arguments : List String) (tree : FileTree) : FileTree × Finished :=
  let (finished, world) := tool World.machine arguments ⟨tree, []⟩
  (world.tree, finished)

/-- The plugin answers on its error stream, and its failure follows the answers there. -/
def pluginFinished (answers : Protocol.Bytes) : Except Failure Unit → Finished
  | .ok () => ⟨0, "", answers⟩
  | .error failure =>
    let finished := Finished.failed failure.debug
    { finished with errors := answers ++ finished.errors }

def runPlugin (environment : Environment) (input : Protocol.Bytes) (tree : FileTree) :
    FileTree × Finished :=
  let served := Protocol.serve environment none input ⟨tree, []⟩
  (served.world.tree, pluginFinished served.output served.ending)

end ModelRepositories.CommandLine
