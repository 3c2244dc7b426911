import ModelRepositories.FileTree.Access
import ModelRepositories.FileTree.Path
import ModelRepositories.Json.Fault

/-!
Why a run did not succeed. Each failure is kept as its cause; `message` is what a user reads,
`debug` the diagnostic form.
-/

namespace ModelRepositories

inductive SchemaCause
  | noDocument
  | malformed (fault : Json.Fault)

inductive OptionsCause
  | variableNotFound (name : String)
  | noValue
  | noOutput (generator : String)

inductive Failure
  | schema (cause : SchemaCause)
  | options (cause : OptionsCause)
  | access (path : Path) (fault : AccessFault)
  | json (error : Json.Error)

def SchemaCause.text : SchemaCause → String
  | .noDocument => "request carries no DMMF document"
  | .malformed fault => fault.text

def OptionsCause.text : OptionsCause → String
  | .variableNotFound name => "environment variable not found: " ++ name
  | .noValue => "value has neither a literal nor an environment variable"
  | .noOutput generator => "generator `" ++ generator ++ "` has no output directory"

namespace Failure

def kind : Failure → String
  | .schema _ => "SchemaExtraction"
  | .options _ => "Options"
  | .access _ _ => "Io"
  | .json _ => "Json"

def message : Failure → String
  | .schema cause => "schema extraction error: " ++ cause.text
  | .options cause => "options error: " ++ cause.text
  | .access path fault => path.text ++ ": " ++ fault.text
  | .json error => "json error: " ++ error.text

def debug : Failure → String
  | .schema cause => "SchemaExtraction(" ++ Text.quoted cause.text ++ ")"
  | .options cause => "Options(" ++ Text.quoted cause.text ++ ")"
  | .access path fault =>
    "Io \x7b path: " ++ Text.quoted path.text ++ ", source: " ++ fault.debug ++ " \x7d"
  | .json error => "Json(" ++ error.debug ++ ")"

end Failure

end ModelRepositories
