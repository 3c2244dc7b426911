import ModelRepositories.Json.Record
import ModelRepositories.Schema.Basic

/-!
Reading a schema document out of a JSON value.
-/

namespace ModelRepositories.Schema

open Json

def FieldKind.name : FieldKind → String
  | .scalar => "scalar"
  | .object => "object"
  | .enumeration => "enum"
  | .unsupported => "unsupported"

def FieldKind.all : List FieldKind := [.scalar, .object, .enumeration, .unsupported]

def FieldKind.ofName (name : String) : Except Fault FieldKind :=
  match FieldKind.all.find? (·.name == name) with
  | some kind => .ok kind
  | none => .error (.unknownVariant name (FieldKind.all.map (·.name)))

/-- A kind is its name, or an object whose only member has that name and the value null. -/
def FieldKind.decode : Decoder FieldKind
  | .str name => FieldKind.ofName name
  | .obj [(name, value)] => do
    let kind ← FieldKind.ofName name
    match value with
    | .null => return kind
    | value => mismatch value .unit
  | .obj _ => .error .notOneMember
  | value => mismatch value .stringOrMap

def Field.record : Record Field where
  name := "Field"
  blank := {}
  slots := [
    .require "name" decodeText ({ · with name := · }),
    .default "kind" FieldKind.decode ({ · with kind := · }),
    .require "type" decodeText ({ · with typeName := · }),
    .default "isId" decodeBool ({ · with isId := · }),
    .default "isList" decodeBool ({ · with isList := · }),
    .default "isRequired" decodeBool ({ · with isRequired := · }),
    .default "hasDefaultValue" decodeBool ({ · with hasDefaultValue := · }),
    .default "isUpdatedAt" decodeBool ({ · with isUpdatedAt := · }),
    .default "relationName" (decodeOption decodeText) ({ · with relationName := · })]

def PrimaryKey.record : Record PrimaryKey where
  name := "PrimaryKey"
  blank := {}
  slots := [
    .default "name" (decodeOption decodeText) ({ · with name := · }),
    .default "fields" (decodeList decodeText) ({ · with fields := · })]

def Model.record : Record Model where
  name := "Model"
  blank := {}
  slots := [
    .require "name" decodeText ({ · with name := · }),
    .default "dbName" (decodeOption decodeText) ({ · with dbName := · }),
    .default "fields" (decodeList Field.record.decode) ({ · with fields := · }),
    .default "primaryKey" (decodeOption PrimaryKey.record.decode) ({ · with primaryKey := · }),
    .default "uniqueFields" (decodeList (decodeList decodeText)) ({ · with uniqueFields := · })]

def EnumValue.record : Record EnumValue where
  name := "EnumValue"
  blank := {}
  slots := [
    .require "name" decodeText ({ · with name := · }),
    .default "dbName" (decodeOption decodeText) ({ · with dbName := · })]

def Enumeration.record : Record Enumeration where
  name := "DatamodelEnum"
  blank := {}
  slots := [
    .require "name" decodeText ({ · with name := · }),
    .default "values" (decodeList EnumValue.record.decode) ({ · with values := · })]

def Datamodel.record : Record Datamodel where
  name := "Datamodel"
  blank := {}
  slots := [
    .default "models" (decodeList Model.record.decode) ({ · with models := · }),
    .default "enums" (decodeList Enumeration.record.decode) ({ · with enums := · })]

def Document.record : Record Document where
  name := "Document"
  blank := {}
  slots := [.require "datamodel" Datamodel.record.decode ({ · with datamodel := · })]

def Model.decode : Decoder Model := Model.record.decode

def Document.decode : Decoder Document := Document.record.decode

end ModelRepositories.Schema
