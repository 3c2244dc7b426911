import ModelRepositories.Options
import ModelRepositories.Proofs.Json.Enrichment

/-!
Payloads of a host that knows more than the reader. Wherever an object stands for a part of the
schema or of the options, it may have members that are not declared there; the payload reads the
same, and one that cannot be read fails in the same way.
-/

namespace ModelRepositories

open Json

namespace Schema

def Field.enriched : Enrichment :=
  InRecord (flatParts ["name", "kind", "type", "isId", "isList", "isRequired", "hasDefaultValue",
    "isUpdatedAt", "relationName"])

def PrimaryKey.enriched : Enrichment :=
  InRecord (flatParts ["name", "fields"])

def Model.enriched : Enrichment :=
  InRecord [("name", Eq), ("dbName", Eq), ("fields", InItems Field.enriched),
    ("primaryKey", PrimaryKey.enriched), ("uniqueFields", Eq)]

def EnumValue.enriched : Enrichment :=
  InRecord (flatParts ["name", "dbName"])

def Enumeration.enriched : Enrichment :=
  InRecord [("name", Eq), ("values", InItems EnumValue.enriched)]

def Datamodel.enriched : Enrichment :=
  InRecord [("models", InItems Model.enriched), ("enums", InItems Enumeration.enriched)]

def Document.enriched : Enrichment :=
  InRecord [("datamodel", Datamodel.enriched)]

theorem ignores_field : Ignores Field.record.decode Field.enriched :=
  Record.ignores_record (Record.aligned_flat Field.record.slots)

theorem ignores_primaryKey : Ignores PrimaryKey.record.decode PrimaryKey.enriched :=
  Record.ignores_record (Record.aligned_flat PrimaryKey.record.slots)

theorem ignores_model : Ignores Model.record.decode Model.enriched := by
  apply Record.ignores_record
  refine .cons ?_ (.cons ?_ (.cons ?_ (.cons ?_ (.cons ?_ .nil))))
  · exact Slot.ignores_require "name" _ (ignores_eq _)
  · exact Slot.ignores_default "dbName" _ (ignores_eq _)
  · exact Slot.ignores_default "fields" _ (ignores_list ignores_field)
  · exact Slot.ignores_default "primaryKey" _ (ignores_option ignores_primaryKey)
  · exact Slot.ignores_default "uniqueFields" _ (ignores_eq _)

theorem ignores_enumValue : Ignores EnumValue.record.decode EnumValue.enriched :=
  Record.ignores_record (Record.aligned_flat EnumValue.record.slots)

theorem ignores_enumeration : Ignores Enumeration.record.decode Enumeration.enriched := by
  apply Record.ignores_record
  refine .cons ?_ (.cons ?_ .nil)
  · exact Slot.ignores_require "name" _ (ignores_eq _)
  · exact Slot.ignores_default "values" _ (ignores_list ignores_enumValue)

theorem ignores_datamodel : Ignores Datamodel.record.decode Datamodel.enriched := by
  apply Record.ignores_record
  refine .cons ?_ (.cons ?_ .nil)
  · exact Slot.ignores_default "models" _ (ignores_list ignores_model)
  · exact Slot.ignores_default "enums" _ (ignores_list ignores_enumeration)

theorem ignores_document : Ignores Document.decode Document.enriched :=
  Record.ignores_record
    (.cons (Slot.ignores_require "datamodel" _ ignores_datamodel) .nil)

end Schema

def Setting.enriched : Enrichment :=
  InRecord (flatParts ["value", "fromEnvVar"])

def GeneratorBlock.enriched : Enrichment :=
  InRecord [("name", Eq), ("provider", Setting.enriched), ("output", Setting.enriched),
    ("config", Eq), ("previewFeatures", Eq), ("binaryTargets", Eq)]

def Options.enriched : Enrichment :=
  InRecord [("generator", GeneratorBlock.enriched),
    ("otherGenerators", InItems GeneratorBlock.enriched), ("schemaPath", Eq), ("datamodel", Eq),
    ("dmmf", Eq), ("version", Eq)]

theorem ignores_setting : Ignores Setting.decode Setting.enriched := by
  intro value other changed
  cases changed with
  | object gains =>
    rw [Setting.decode, Setting.decode,
      Record.ofMembers_gained (Record.aligned_flat Setting.record.slots) gains]
  | list inOrder => rfl
  | same value => rfl

theorem ignores_block : Ignores GeneratorBlock.record.decode GeneratorBlock.enriched := by
  apply Record.ignores_record
  refine .cons ?_ (.cons ?_ (.cons ?_ (.cons ?_ (.cons ?_ (.cons ?_ .nil)))))
  · exact Slot.ignores_require "name" _ (ignores_eq _)
  · exact Slot.ignores_require "provider" _ ignores_setting
  · exact Slot.ignores_default "output" _ (ignores_option ignores_setting)
  · exact Slot.ignores_default "config" _ (ignores_eq _)
  · exact Slot.ignores_default "previewFeatures" _ (ignores_eq _)
  · exact Slot.ignores_default "binaryTargets" _ (ignores_eq _)

theorem ignores_options : Ignores Options.record.decode Options.enriched := by
  apply Record.ignores_record
  refine .cons ?_ (.cons ?_ (.cons ?_ (.cons ?_ (.cons ?_ (.cons ?_ .nil)))))
  · exact Slot.ignores_require "generator" _ ignores_block
  · exact Slot.ignores_default "otherGenerators" _ (ignores_list ignores_block)
  · exact Slot.ignores_default "schemaPath" _ (ignores_eq _)
  · exact Slot.ignores_default "datamodel" _ (ignores_eq _)
  · exact Slot.ignores_default "dmmf" _ (ignores_eq _)
  · exact Slot.ignores_default "version" _ (ignores_eq _)

/-- A payload with more members than are declared comes to the same document, or the same options,
or the same failure. -/
theorem enriched_payloads_read_alike :
    (∀ value other, Schema.Document.enriched value other →
      Schema.Document.ofJson other = Schema.Document.ofJson value) ∧
    ∀ value other, Options.enriched value other → Options.ofJson other = Options.ofJson value := by
  constructor
  · intro value other changed
    rw [Schema.Document.ofJson, Schema.Document.ofJson, Schema.ignores_document value other changed]
  · intro value other changed
    rw [Options.ofJson, Options.ofJson, ignores_options value other changed]

theorem enriched_payloads_of_later_host :
    let field : Members := [("name", .str "id"), ("type", .int 1)]
    let model (fields : Value) : Members := [("fields", fields), ("name", .str "User")]
    let value : Value :=
      .obj [("datamodel", .obj [("models", .arr [.obj (model (.arr [.obj field]))])])]
    let other : Value :=
      .obj [("datamodel", .obj [("indexes", .arr []), ("models", .arr [.obj (
        ("documentation", .str "rows") ::
          model (.arr [.obj (("isGenerated", .bool false) :: field)]))])]), ("mappings", .null)]
    let fault : Fault := .wrongType (.int 1) .string
    let options : Members :=
      [("generator", .obj [("name", .str "g"), ("provider", .str "p")]), ("version", .str "1")]
    (Schema.Document.enriched value other ∧
      Schema.Document.ofJson value = .error (.schema (.malformed fault)) ∧
      Schema.Document.ofJson other = .error (.schema (.malformed fault))) ∧
    (Options.enriched (.obj options) (.obj (options.put "requestId" (.int 7))) ∧
      Options.ofJson (.obj (options.put "requestId" (.int 7))) =
        Options.ofJson (.obj options)) := by
  intro field model value other fault options
  have field_gains :
      Schema.Field.enriched (.obj field) (.obj (("isGenerated", .bool false) :: field)) :=
    .object (.added rfl _ (.declared rfl rfl (.declared rfl rfl .nil)))
  have fields_gain := InItems.list (.cons field_gains .nil)
  have model_gains : Schema.Model.enriched (.obj (model (.arr [.obj field])))
      (.obj (("documentation", .str "rows") ::
        model (.arr [.obj (("isGenerated", .bool false) :: field)]))) :=
    .object (.added rfl _ (.declared rfl fields_gain (.declared rfl rfl .nil)))
  have models_gain := InItems.list (.cons model_gains .nil)
  have document_gains : Schema.Document.enriched value other :=
    .object (.declared rfl (.object (.added rfl _ (.declared rfl models_gain .nil)))
      (.added rfl _ .nil))
  have options_gain :
      Options.enriched (.obj options) (.obj (options.put "requestId" (.int 7))) := by
    refine .object (.put ?_ rfl _ _)
    simp only [List.forall_mem_cons]
    exact ⟨fun _ => .same _, fun _ => .same _, by simp⟩
  have fails : Schema.Document.ofJson value = .error (.schema (.malformed fault)) := rfl
  obtain ⟨documents, requests⟩ := enriched_payloads_read_alike
  exact ⟨⟨document_gains, fails, (documents value other document_gains).trans fails⟩,
    options_gain, requests _ _ options_gain⟩

end ModelRepositories
