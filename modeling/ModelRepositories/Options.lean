import ModelRepositories.Environment
import ModelRepositories.Failure
import ModelRepositories.Schema.Decode

/-!
The options of a generation: the generator's own block of the schema, its sibling blocks and the
parsed schema, which stays raw until it is needed.
-/

namespace ModelRepositories

open Json

structure Setting where
  value : Option String := none
  variableName : Option String := none
  deriving DecidableEq, Repr

namespace Setting

def literal (text : String) : Setting := ⟨some text, none⟩

def record : Record Setting where
  name := "EnvValue"
  blank := {}
  slots := [
    .default "value" (decodeOption decodeText) ({ · with value := · }),
    .default "fromEnvVar" (decodeOption decodeText) ({ · with variableName := · })]

/-- A bare text or an object; what is wrong inside the object is not told. -/
def decode : Decoder Setting
  | .str text => .ok (literal text)
  | .obj members => (record.ofMembers members).mapError fun _ => .noSuchShape "RawEnvValue"
  | _ => .error (.noSuchShape "RawEnvValue")

/-- The literal counts if both are given. -/
def resolve (environment : Environment) (setting : Setting) : Except Failure String :=
  match setting.value, setting.variableName with
  | some text, _ => .ok text
  | none, some name =>
    match environment.get? name with
    | some text => .ok text
    | none => .error (.options (.variableNotFound name))
  | none, none => .error (.options .noValue)

end Setting

structure GeneratorBlock where
  name : String := ""
  provider : Setting := {}
  output : Option Setting := none
  config : Members := []
  previewFeatures : List String := []
  binaryTargets : List Value := []

def GeneratorBlock.record : Record GeneratorBlock where
  name := "GeneratorConfig"
  blank := {}
  slots := [
    .require "name" decodeText ({ · with name := · }),
    .require "provider" Setting.decode ({ · with provider := · }),
    .default "output" (decodeOption Setting.decode) ({ · with output := · }),
    .default "config" decodeMembers ({ · with config := · }),
    .default "previewFeatures" (decodeList decodeText) ({ · with previewFeatures := · }),
    .default "binaryTargets" (decodeList decodeRaw) ({ · with binaryTargets := · })]

structure Options where
  generator : GeneratorBlock := {}
  siblings : List GeneratorBlock := []
  schemaPath : Option String := none
  datamodel : String := ""
  dmmf : Option Value := none
  version : Option String := none

namespace Options

def record : Record Options where
  name := "GeneratorOptions"
  blank := {}
  slots := [
    .require "generator" GeneratorBlock.record.decode ({ · with generator := · }),
    .default "otherGenerators" (decodeList GeneratorBlock.record.decode)
      ({ · with siblings := · }),
    .default "schemaPath" (decodeOption decodeText) ({ · with schemaPath := · }),
    .default "datamodel" decodeText ({ · with datamodel := · }),
    .default "dmmf" (decodeOption decodeRaw) ({ · with dmmf := · }),
    .default "version" (decodeOption decodeText) ({ · with version := · })]

def ofJson (value : Value) : Except Failure Options :=
  (record.decode value).mapError fun fault => .json ⟨fault, none⟩

def outputPath (environment : Environment) (options : Options) : Except Failure Path :=
  match options.generator.output with
  | none => .error (.options (.noOutput options.generator.name))
  | some output => Path.mk <$> output.resolve environment

def variableNames (options : Options) : List String :=
  options.generator.output.toList.filterMap (·.variableName) ++
    options.siblings.filterMap (·.provider.variableName)

end Options

def clientProvider : String := "prisma-client-js"

def Setting.resolvesTo (environment : Environment) (text : String) (setting : Setting) : Bool :=
  match setting.resolve environment with
  | .ok resolved => resolved == text
  | .error _ => false

/-- The first sibling with the client's provider; one that cannot be resolved is no such sibling. -/
def Options.clientBlock? (environment : Environment) (options : Options) :
    Option GeneratorBlock :=
  options.siblings.find? (·.provider.resolvesTo environment clientProvider)

def Schema.Document.ofJson (value : Value) : Except Failure Schema.Document :=
  (Schema.Document.decode value).mapError fun fault => .schema (.malformed fault)

def Options.document (options : Options) : Except Failure Schema.Document :=
  match options.dmmf with
  | none => .error (.schema .noDocument)
  | some value => Schema.Document.ofJson value

end ModelRepositories
