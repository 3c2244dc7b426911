/-!
The parsed description of a database schema: models with their fields, and enumerations.
-/

namespace ModelRepositories.Schema

inductive FieldKind
  | scalar
  | object
  | enumeration
  | unsupported
  deriving DecidableEq, Repr

structure Field where
  name : String := ""
  kind : FieldKind := .scalar
  typeName : String := ""
  isId : Bool := false
  isList : Bool := false
  isRequired : Bool := false
  hasDefaultValue : Bool := false
  isUpdatedAt : Bool := false
  relationName : Option String := none
  deriving DecidableEq, Repr

structure PrimaryKey where
  name : Option String := none
  fields : List String := []
  deriving DecidableEq, Repr

structure Model where
  name : String := ""
  dbName : Option String := none
  fields : List Field := []
  primaryKey : Option PrimaryKey := none
  uniqueFields : List (List String) := []
  deriving DecidableEq, Repr

structure EnumValue where
  name : String := ""
  dbName : Option String := none
  deriving DecidableEq, Repr

structure Enumeration where
  name : String := ""
  values : List EnumValue := []
  deriving DecidableEq, Repr

structure Datamodel where
  models : List Model := []
  enums : List Enumeration := []
  deriving DecidableEq, Repr

structure Document where
  datamodel : Datamodel := {}
  deriving DecidableEq, Repr

/-- A relation with an empty name does not make the field a relation. -/
def Field.isRelation (field : Field) : Bool :=
  match field.relationName with
  | none => false
  | some name => !name.isEmpty

def Field.isDefaulted (field : Field) : Bool :=
  field.hasDefaultValue || field.isUpdatedAt

/-- Only the first field that is marked as identifier counts. -/
def Model.identifier? (model : Model) : Option Field :=
  model.fields.find? (·.isId)

def Model.relations (model : Model) : List Field :=
  model.fields.filter (·.isRelation)

def Model.defaulted (model : Model) : List Field :=
  model.fields.filter (·.isDefaulted)

end ModelRepositories.Schema
