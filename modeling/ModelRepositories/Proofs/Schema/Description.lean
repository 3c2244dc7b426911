import ModelRepositories.Options
import ModelRepositories.Proofs.Json.Description

/-!
What describes a schema document: which parts a value has to have, which it may leave out, and what
each of them stands for. Main statement: a document is read from a value exactly if the value
describes it, and a value that describes none is a schema failure.
-/

namespace ModelRepositories.Schema

open Json

inductive NamesKind : String → FieldKind → Prop
  | scalar : NamesKind "scalar" .scalar
  | object : NamesKind "object" .object
  | enumeration : NamesKind "enum" .enumeration
  | unsupported : NamesKind "unsupported" .unsupported

inductive DescribesKind : Description FieldKind
  | name {name : String} {kind : FieldKind} (named : NamesKind name kind) :
    DescribesKind (.str name) kind
  | member {name : String} {kind : FieldKind} (named : NamesKind name kind) :
    DescribesKind (.obj [(name, .null)]) kind

structure FieldParts (part : String → Option Value) (field : Field) : Prop where
  name : Required DescribesText (part "name") field.name
  kind : Defaulted DescribesKind .scalar (part "kind") field.kind
  typeName : Required DescribesText (part "type") field.typeName
  isId : Defaulted DescribesFlag false (part "isId") field.isId
  isList : Defaulted DescribesFlag false (part "isList") field.isList
  isRequired : Defaulted DescribesFlag false (part "isRequired") field.isRequired
  hasDefaultValue : Defaulted DescribesFlag false (part "hasDefaultValue") field.hasDefaultValue
  isUpdatedAt : Defaulted DescribesFlag false (part "isUpdatedAt") field.isUpdatedAt
  relationName :
    Defaulted (DescribesOption DescribesText) none (part "relationName") field.relationName

def DescribesField : Description Field :=
  DescribesRecord ["name", "kind", "type", "isId", "isList", "isRequired", "hasDefaultValue",
    "isUpdatedAt", "relationName"] FieldParts

structure PrimaryKeyParts (part : String → Option Value) (key : PrimaryKey) : Prop where
  name : Defaulted (DescribesOption DescribesText) none (part "name") key.name
  fields : Defaulted (DescribesList DescribesText) [] (part "fields") key.fields

def DescribesPrimaryKey : Description PrimaryKey :=
  DescribesRecord ["name", "fields"] PrimaryKeyParts

structure ModelParts (part : String → Option Value) (model : Model) : Prop where
  name : Required DescribesText (part "name") model.name
  dbName : Defaulted (DescribesOption DescribesText) none (part "dbName") model.dbName
  fields : Defaulted (DescribesList DescribesField) [] (part "fields") model.fields
  primaryKey :
    Defaulted (DescribesOption DescribesPrimaryKey) none (part "primaryKey") model.primaryKey
  uniqueFields :
    Defaulted (DescribesList (DescribesList DescribesText)) [] (part "uniqueFields")
      model.uniqueFields

def DescribesModel : Description Model :=
  DescribesRecord ["name", "dbName", "fields", "primaryKey", "uniqueFields"] ModelParts

structure EnumValueParts (part : String → Option Value) (value : EnumValue) : Prop where
  name : Required DescribesText (part "name") value.name
  dbName : Defaulted (DescribesOption DescribesText) none (part "dbName") value.dbName

def DescribesEnumValue : Description EnumValue :=
  DescribesRecord ["name", "dbName"] EnumValueParts

structure EnumerationParts (part : String → Option Value) (enumeration : Enumeration) : Prop where
  name : Required DescribesText (part "name") enumeration.name
  values : Defaulted (DescribesList DescribesEnumValue) [] (part "values") enumeration.values

def DescribesEnumeration : Description Enumeration :=
  DescribesRecord ["name", "values"] EnumerationParts

structure DatamodelParts (part : String → Option Value) (datamodel : Datamodel) : Prop where
  models : Defaulted (DescribesList DescribesModel) [] (part "models") datamodel.models
  enums : Defaulted (DescribesList DescribesEnumeration) [] (part "enums") datamodel.enums

def DescribesDatamodel : Description Datamodel :=
  DescribesRecord ["models", "enums"] DatamodelParts

structure DocumentParts (part : String → Option Value) (document : Document) : Prop where
  datamodel : Required DescribesDatamodel (part "datamodel") document.datamodel

def DescribesDocument : Description Document :=
  DescribesRecord ["datamodel"] DocumentParts

theorem ofName_eq_ok {name : String} {kind : FieldKind} :
    FieldKind.ofName name = .ok kind ↔ NamesKind name kind := by
  constructor
  · intro read
    unfold FieldKind.ofName at read
    split at read
    · next found listed =>
      cases read
      have same : kind.name = name := by simpa using List.find?_some listed
      subst same
      cases kind with
      | scalar => exact .scalar
      | object => exact .object
      | enumeration => exact .enumeration
      | unsupported => exact .unsupported
    · cases read
  · rintro (_ | _ | _ | _) <;> rfl

theorem matches_kind : Matches FieldKind.decode DescribesKind := by
  intro value distinct kind
  constructor
  · intro read
    unfold FieldKind.decode at read
    split at read
    · exact .name (ofName_eq_ok.mp read)
    · next name held =>
      obtain ⟨named, first, checked⟩ := bind_eq_ok.mp read
      cases held with
      | null =>
        cases checked
        exact .member (ofName_eq_ok.mp first)
      | _ => cases checked
    · cases read
    · cases read
  · rintro (named | named)
    · exact ofName_eq_ok.mpr named
    · exact bind_eq_ok.mpr ⟨kind, ofName_eq_ok.mpr named, rfl⟩

theorem matches_text? : Matches (decodeOption decodeText) (DescribesOption DescribesText) :=
  matches_option matches_text fun _ described => nomatch described

theorem lawful_field : Field.record.Lawful where
  distinct := by decide
  commutes := by
    simp only [Field.record, List.pairwise_cons, List.forall_mem_cons, List.not_mem_nil,
      false_imp_iff, implies_true, List.Pairwise.nil, and_true]
    and_intros <;> exact Slot.commutes_of_put rfl rfl fun _ _ _ => rfl

theorem matches_field : Matches Field.record.decode DescribesField := by
  apply Record.matches_record lawful_field rfl
  intro part parts field
  constructor
  · intro filled
    obtain ⟨_, name, filled⟩ := (Record.filled_require parts matches_text).mp filled
    obtain ⟨_, kind, filled⟩ := (Record.filled_default parts matches_kind rfl).mp filled
    obtain ⟨_, typeName, filled⟩ := (Record.filled_require parts matches_text).mp filled
    obtain ⟨_, isId, filled⟩ := (Record.filled_default parts matches_flag rfl).mp filled
    obtain ⟨_, isList, filled⟩ := (Record.filled_default parts matches_flag rfl).mp filled
    obtain ⟨_, isRequired, filled⟩ := (Record.filled_default parts matches_flag rfl).mp filled
    obtain ⟨_, hasDefaultValue, filled⟩ := (Record.filled_default parts matches_flag rfl).mp filled
    obtain ⟨_, isUpdatedAt, filled⟩ := (Record.filled_default parts matches_flag rfl).mp filled
    obtain ⟨_, relationName, filled⟩ := (Record.filled_default parts matches_text? rfl).mp filled
    cases filled
    exact ⟨name, kind, typeName, isId, isList, isRequired, hasDefaultValue, isUpdatedAt,
      relationName⟩
  · intro described
    refine (Record.filled_require parts matches_text).mpr ⟨_, described.name, ?_⟩
    refine (Record.filled_default parts matches_kind rfl).mpr ⟨_, described.kind, ?_⟩
    refine (Record.filled_require parts matches_text).mpr ⟨_, described.typeName, ?_⟩
    refine (Record.filled_default parts matches_flag rfl).mpr ⟨_, described.isId, ?_⟩
    refine (Record.filled_default parts matches_flag rfl).mpr ⟨_, described.isList, ?_⟩
    refine (Record.filled_default parts matches_flag rfl).mpr ⟨_, described.isRequired, ?_⟩
    refine (Record.filled_default parts matches_flag rfl).mpr ⟨_, described.hasDefaultValue, ?_⟩
    refine (Record.filled_default parts matches_flag rfl).mpr ⟨_, described.isUpdatedAt, ?_⟩
    refine (Record.filled_default parts matches_text? rfl).mpr ⟨_, described.relationName, ?_⟩
    rfl

theorem lawful_primaryKey : PrimaryKey.record.Lawful where
  distinct := by decide
  commutes := List.pairwise_pair.mpr (Slot.commutes_of_put rfl rfl fun _ _ _ => rfl)

theorem matches_primaryKey : Matches PrimaryKey.record.decode DescribesPrimaryKey := by
  apply Record.matches_record lawful_primaryKey rfl
  intro part parts primaryKey
  constructor
  · intro filled
    obtain ⟨_, name, filled⟩ := (Record.filled_default parts matches_text? rfl).mp filled
    obtain ⟨_, fields, filled⟩ :=
      (Record.filled_default parts (matches_list matches_text) rfl).mp filled
    cases filled
    exact ⟨name, fields⟩
  · intro described
    refine (Record.filled_default parts matches_text? rfl).mpr ⟨_, described.name, ?_⟩
    refine (Record.filled_default parts (matches_list matches_text) rfl).mpr
      ⟨_, described.fields, ?_⟩
    rfl

theorem matches_primaryKey? :
    Matches (decodeOption PrimaryKey.record.decode) (DescribesOption DescribesPrimaryKey) :=
  matches_option matches_primaryKey not_describesRecord_null

theorem lawful_model : Model.record.Lawful where
  distinct := by decide
  commutes := by
    simp only [Model.record, List.pairwise_cons, List.forall_mem_cons, List.not_mem_nil,
      false_imp_iff, implies_true, List.Pairwise.nil, and_true]
    and_intros <;> exact Slot.commutes_of_put rfl rfl fun _ _ _ => rfl

theorem matches_model : Matches Model.record.decode DescribesModel := by
  apply Record.matches_record lawful_model rfl
  intro part parts model
  constructor
  · intro filled
    obtain ⟨_, name, filled⟩ := (Record.filled_require parts matches_text).mp filled
    obtain ⟨_, dbName, filled⟩ := (Record.filled_default parts matches_text? rfl).mp filled
    obtain ⟨_, fields, filled⟩ :=
      (Record.filled_default parts (matches_list matches_field) rfl).mp filled
    obtain ⟨_, primaryKey, filled⟩ :=
      (Record.filled_default parts matches_primaryKey? rfl).mp filled
    obtain ⟨_, uniqueFields, filled⟩ :=
      (Record.filled_default parts (matches_list (matches_list matches_text)) rfl).mp filled
    cases filled
    exact ⟨name, dbName, fields, primaryKey, uniqueFields⟩
  · intro described
    refine (Record.filled_require parts matches_text).mpr ⟨_, described.name, ?_⟩
    refine (Record.filled_default parts matches_text? rfl).mpr ⟨_, described.dbName, ?_⟩
    refine (Record.filled_default parts (matches_list matches_field) rfl).mpr
      ⟨_, described.fields, ?_⟩
    refine (Record.filled_default parts matches_primaryKey? rfl).mpr ⟨_, described.primaryKey, ?_⟩
    refine (Record.filled_default parts (matches_list (matches_list matches_text)) rfl).mpr
      ⟨_, described.uniqueFields, ?_⟩
    rfl

theorem lawful_enumValue : EnumValue.record.Lawful where
  distinct := by decide
  commutes := List.pairwise_pair.mpr (Slot.commutes_of_put rfl rfl fun _ _ _ => rfl)

theorem matches_enumValue : Matches EnumValue.record.decode DescribesEnumValue := by
  apply Record.matches_record lawful_enumValue rfl
  intro part parts enumValue
  constructor
  · intro filled
    obtain ⟨_, name, filled⟩ := (Record.filled_require parts matches_text).mp filled
    obtain ⟨_, dbName, filled⟩ := (Record.filled_default parts matches_text? rfl).mp filled
    cases filled
    exact ⟨name, dbName⟩
  · intro described
    refine (Record.filled_require parts matches_text).mpr ⟨_, described.name, ?_⟩
    refine (Record.filled_default parts matches_text? rfl).mpr ⟨_, described.dbName, ?_⟩
    rfl

theorem lawful_enumeration : Enumeration.record.Lawful where
  distinct := by decide
  commutes := List.pairwise_pair.mpr (Slot.commutes_of_put rfl rfl fun _ _ _ => rfl)

theorem matches_enumeration : Matches Enumeration.record.decode DescribesEnumeration := by
  apply Record.matches_record lawful_enumeration rfl
  intro part parts enumeration
  constructor
  · intro filled
    obtain ⟨_, name, filled⟩ := (Record.filled_require parts matches_text).mp filled
    obtain ⟨_, values, filled⟩ :=
      (Record.filled_default parts (matches_list matches_enumValue) rfl).mp filled
    cases filled
    exact ⟨name, values⟩
  · intro described
    refine (Record.filled_require parts matches_text).mpr ⟨_, described.name, ?_⟩
    refine (Record.filled_default parts (matches_list matches_enumValue) rfl).mpr
      ⟨_, described.values, ?_⟩
    rfl

theorem lawful_datamodel : Datamodel.record.Lawful where
  distinct := by decide
  commutes := List.pairwise_pair.mpr (Slot.commutes_of_put rfl rfl fun _ _ _ => rfl)

theorem matches_datamodel : Matches Datamodel.record.decode DescribesDatamodel := by
  apply Record.matches_record lawful_datamodel rfl
  intro part parts datamodel
  constructor
  · intro filled
    obtain ⟨_, models, filled⟩ :=
      (Record.filled_default parts (matches_list matches_model) rfl).mp filled
    obtain ⟨_, enums, filled⟩ :=
      (Record.filled_default parts (matches_list matches_enumeration) rfl).mp filled
    cases filled
    exact ⟨models, enums⟩
  · intro described
    refine (Record.filled_default parts (matches_list matches_model) rfl).mpr
      ⟨_, described.models, ?_⟩
    refine (Record.filled_default parts (matches_list matches_enumeration) rfl).mpr
      ⟨_, described.enums, ?_⟩
    rfl

theorem lawful_document : Document.record.Lawful where
  distinct := by decide
  commutes := List.pairwise_singleton _ _

theorem matches_document : Matches Document.record.decode DescribesDocument := by
  apply Record.matches_record lawful_document rfl
  intro part parts document
  constructor
  · intro filled
    obtain ⟨_, datamodel, filled⟩ := (Record.filled_require parts matches_datamodel).mp filled
    cases filled
    exact ⟨datamodel⟩
  · intro described
    refine (Record.filled_require parts matches_datamodel).mpr ⟨_, described.datamodel, ?_⟩
    rfl

/-- A document is read from a value exactly if the value describes it, and a value that describes
none is a failure of the schema. -/
theorem document_read_iff_described {value : Value} (distinct : Distinct value) :
    (∀ document, Document.ofJson value = .ok document ↔ DescribesDocument value document) ∧
      ((∀ document, ¬ DescribesDocument value document) →
        ∃ fault, Document.ofJson value = .error (.schema (.malformed fault))) := by
  have read := matches_document value distinct
  cases outcome : Document.record.decode value with
  | ok found =>
    have whole : Document.ofJson value = .ok found := by
      rw [Document.ofJson, Document.decode, outcome]
      rfl
    refine ⟨fun document => ?_,
      fun undescribed => absurd ((read found).mp outcome) (undescribed found)⟩
    rw [whole, ← read document, outcome, Except.ok.injEq, Except.ok.injEq]
  | error fault =>
    have whole : Document.ofJson value = .error (.schema (.malformed fault)) := by
      rw [Document.ofJson, Document.decode, outcome]
      rfl
    refine ⟨fun document => ?_, fun _ => ⟨fault, whole⟩⟩
    rw [whole, ← read document, outcome]
    exact ⟨nofun, nofun⟩

theorem document_read_in_two_spellings :
    let text := "\x7b\"datamodel\":[[[\"User\",null,[\x7b\"type\":\"Int\",\"name\":\"id\"," ++
      "\"kind\":\x7b\"enum\":null\x7d\x7d,[\"post\",\"object\",\"Post\"]]]]]\x7d"
    let value : Value := .obj [("datamodel", .arr [.arr [.arr [.str "User", .null, .arr [
      .obj [("kind", .obj [("enum", .null)]), ("name", .str "id"), ("type", .str "Int")],
      .arr [.str "post", .str "object", .str "Post"]]]]])]
    let document : Document := ⟨[⟨"User", none, [
      { name := "id", kind := .enumeration, typeName := "Int" },
      { name := "post", kind := .object, typeName := "Post" }], none, []⟩], []⟩
    let brief := "\x7b\"datamodel\":\x7b\"models\":[\x7b\"name\":\"User\"," ++
      "\"fields\":[[\"id\",\"scalar\"]]\x7d]\x7d\x7d"
    let untyped : Value := .obj [("datamodel", .obj [("models", .arr [.obj [
      ("fields", .arr [.arr [.str "id", .str "scalar"]]), ("name", .str "User")]])])]
    (parse text = .ok value ∧ Distinct value ∧ Document.ofJson value = .ok document ∧
      DescribesDocument value document) ∧
    (parse brief = .ok untyped ∧ Distinct untyped ∧
      (∀ document, ¬ DescribesDocument untyped document) ∧
      ∃ fault, Document.ofJson untyped = .error (.schema (.malformed fault))) := by
  intro text value document brief untyped
  constructor
  · have parsed : parse text = .ok value := by
      subst text
      rfl
    have distinct := distinct_parse parsed
    have read : Document.ofJson value = .ok document := rfl
    exact ⟨parsed, distinct, read, ((document_read_iff_described distinct).1 document).mp read⟩
  · have parsed : parse brief = .ok untyped := by
      subst brief
      rfl
    have distinct := distinct_parse parsed
    have fails : Document.ofJson untyped =
        .error (.schema (.malformed (.tooFewItems 2 "Field" 9))) := rfl
    have undescribed : ∀ other, ¬ DescribesDocument untyped other := by
      intro other described
      have accepted := ((document_read_iff_described distinct).1 other).mpr described
      rw [fails] at accepted
      cases accepted
    exact ⟨parsed, distinct, undescribed, (document_read_iff_described distinct).2 undescribed⟩

end ModelRepositories.Schema
