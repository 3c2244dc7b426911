import ModelRepositories.Generation.Script
import ModelRepositories.Repository.Basic

/-!
The script that writes the repositories of a schema. The output directory is made and emptied, then
the models are written one after another. The schema is read before a file is touched, so that one
that cannot be read changes nothing.
-/

namespace ModelRepositories

open Schema

def repositoryPath (output : Path) (model : Model) : Path :=
  output.join (Repository.ofModel model).path

def makeParent (path : Path) : List Action :=
  (path.parent?.map Action.makeDirectories).toList

def writeRepository (output : Path) (model : Model) : List Action :=
  let repository := Repository.ofModel model
  let path := repositoryPath output model
  .report (.planned model.name repository.methodNames repository.aliasType) ::
    makeParent path ++ [.write path repository.text, .report (.wrote path)]

def writeRepositories (models : List Model) (output : Path) : Script (List Path) where
  actions :=
    [.makeDirectories output, .emptyDirectory output,
      .report (.generating output models.length)] ++ models.flatMap (writeRepository output)
  result := .ok (models.map (repositoryPath output))

def reportClient (environment : Environment) (options : Options) : Action :=
  .report <|
    match options.clientBlock? environment with
    | some client => .usingClient client.name client.previewFeatures
    | none => .noClient

def Options.script (environment : Environment) (options : Options) : Script (List Path) :=
  match options.outputPath environment with
  | .error failure => ⟨[], .error failure⟩
  | .ok output =>
    match options.document with
    | .error failure => ⟨[reportClient environment options], .error failure⟩
    | .ok document =>
      let script := writeRepositories document.datamodel.models output
      { script with actions := reportClient environment options :: script.actions }

end ModelRepositories
