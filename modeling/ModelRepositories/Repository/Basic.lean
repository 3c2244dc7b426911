import ModelRepositories.FileTree.Path
import ModelRepositories.Repository.Subject
import ModelRepositories.TypeScript.Printer

/-!
The repository of a model: the methods of its class, the type that `create` takes, the types it
imports, and the file that all of it is written to. A repository depends on its model alone.
-/

namespace ModelRepositories

open Schema TypeScript

def clientModule : String := "@prisma/client"

structure Repository where
  modelName : String
  /-- The model name in lower camel case: directory, file stem and client accessor. -/
  handle : String
  aliasName : String
  aliasType : String
  imports : List String
  methods : List Method
  deriving DecidableEq, Repr

namespace Repository

def inputType (model : Model) : String :=
  match model.defaulted.map fun field => "'" ++ field.name ++ "'" with
  | [] => model.name
  | omitted => "Omit<" ++ model.name ++ ", " ++ " | ".intercalate omitted ++ ">"

/-- A later method of the same name takes the place of the earlier one. -/
def putMethod (methods : List Method) (method : Method) : List Method :=
  match methods with
  | [] => [method]
  | other :: rest =>
    if other.name = method.name then method :: rest else other :: putMethod rest method

def addName (names : List String) (name : String) : List String :=
  if name ∈ names then names else names ++ [name]

def ofModel (model : Model) : Repository :=
  let subject := Subject.ofModel model
  { modelName := model.name
    handle := subject.handle
    aliasName := subject.aliasName
    aliasType := inputType model
    imports := (model.relations.map (·.typeName)).foldl addName [clientType, model.name]
    methods := (model.relations.map subject.getter).foldl putMethod
      (subject.rowMethods model.identifier?.isSome) }

def className (repository : Repository) : String :=
  repository.modelName ++ "Repository"

def methodNames (repository : Repository) : List String :=
  repository.methods.map (·.name)

/-- A directory and a file in it, both named by the handle; an empty handle needs no directory. -/
def path (repository : Repository) : Path :=
  (Path.mk repository.handle).join ⟨repository.handle ++ ".repository.ts"⟩

def sourceFile (repository : Repository) : SourceFile where
  statements := [
    .importNames clientModule repository.imports,
    .constant clientName ("new " ++ clientType ++ "()") false,
    .typeAlias repository.aliasName repository.aliasType true,
    .classDeclaration ⟨repository.className, true, repository.methods⟩]

def text (repository : Repository) : String :=
  repository.sourceFile.render

end Repository

end ModelRepositories
