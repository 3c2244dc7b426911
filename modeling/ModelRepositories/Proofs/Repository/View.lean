import Mathlib.Logic.Relation
import ModelRepositories.Proofs.Repository.FieldReferences

/-!
What a repository sees of its model: the name, the name of the identifier, the names of the fields
that the database fills in, and the names and types of the relations. Models of one view have one
repository, so nothing that is done to a model behind its view reaches the generated file.
-/

namespace ModelRepositories

open Schema TypeScript

namespace Schema

/-- What a repository sees of a model. -/
structure View where
  name : String
  idName : Option String
  defaulted : List String
  relations : List (String × String)
  deriving DecidableEq, Repr

def Model.view (model : Model) : View where
  name := model.name
  idName := model.identifier?.map (·.name)
  defaulted := model.defaulted.map (·.name)
  relations := model.relations.map fun relation => (relation.name, relation.typeName)

def Field.isPlain (field : Field) : Bool :=
  !field.isId && !field.isDefaulted && !field.isRelation

/-- Fields with the same parts in a repository when they stand behind `front`. They may differ in
kind, in being lists or required, in what fills them in, in how a relation is called and in the type
if they are none, and in the mark of an identifier if a field before them has it. -/
structure Field.Alike (front : List Field) (field other : Field) : Prop where
  name : field.name = other.name
  typeName : field.isRelation = true → field.typeName = other.typeName
  defaulted : field.isDefaulted = other.isDefaulted
  relation : field.isRelation = other.isRelation
  marked : field.isId = other.isId ∨ front.any (·.isId) = true

/-- Fields that have no part in common. -/
structure Field.Apart (field other : Field) : Prop where
  marked : (field.isId && other.isId) = false
  defaulted : (field.isDefaulted && other.isDefaulted) = false
  relation : (field.isRelation && other.isRelation) = false

/-- A model is changed at one place that its repository does not see. -/
inductive Model.Edit : Model → Model → Prop
  | described (model : Model) (dbName : Option String) (primaryKey : Option PrimaryKey)
    (uniqueFields : List (List String)) :
    Edit model { model with dbName, primaryKey, uniqueFields }
  | inserted (model : Model) (front rest : List Field) {field : Field}
    (plain : field.isPlain = true) :
    Edit { model with fields := front ++ rest } { model with fields := front ++ field :: rest }
  | altered (model : Model) (front rest : List Field) {field other : Field}
    (alike : field.Alike front other) :
    Edit { model with fields := front ++ field :: rest }
      { model with fields := front ++ other :: rest }
  | exchanged (model : Model) (front rest : List Field) {field other : Field}
    (apart : field.Apart other) :
    Edit { model with fields := front ++ field :: other :: rest }
      { model with fields := front ++ other :: field :: rest }

def Model.SameView : Model → Model → Prop :=
  Relation.EqvGen Model.Edit

theorem Model.view_of_fields (model : Model) {first second : List Field}
    (idName : (first.find? (·.isId)).map (·.name) = (second.find? (·.isId)).map (·.name))
    (defaulted : (first.filter (·.isDefaulted)).map (·.name) =
      (second.filter (·.isDefaulted)).map (·.name))
    (relations : (first.filter (·.isRelation)).map (fun field => (field.name, field.typeName)) =
      (second.filter (·.isRelation)).map fun field => (field.name, field.typeName)) :
    Model.view { model with fields := first } = Model.view { model with fields := second } := by
  simp only [Model.view, Model.identifier?, Model.defaulted, Model.relations, idName, defaulted,
    relations]

theorem view_inserted (model : Model) (front rest : List Field) {field : Field}
    (plain : field.isPlain = true) :
    Model.view { model with fields := front ++ rest } =
      Model.view { model with fields := front ++ field :: rest } := by
  simp only [Field.isPlain, Bool.and_eq_true, Bool.not_eq_true'] at plain
  obtain ⟨⟨unmarked, given⟩, scalar⟩ := plain
  apply Model.view_of_fields
  · simp [List.find?_append, unmarked]
  · simp [given]
  · simp [scalar]

theorem view_altered (model : Model) (front rest : List Field) {field other : Field}
    (alike : field.Alike front other) :
    Model.view { model with fields := front ++ field :: rest } =
      Model.view { model with fields := front ++ other :: rest } := by
  apply Model.view_of_fields
  · rcases alike.marked with same | earlier
    · simp only [List.find?_append, List.find?_cons, Option.map_or, same]
      cases other.isId <;> simp [alike.name]
    · -- The identifier stands before both.
      obtain ⟨identifier, found⟩ := Option.isSome_iff_exists.mp
        (List.find?_isSome.mpr (List.any_eq_true.mp earlier))
      simp only [List.find?_append, found, Option.some_or]
  · simp only [List.filter_append, List.filter_cons, alike.defaulted]
    cases other.isDefaulted <;> simp [alike.name]
  · simp only [List.filter_append, List.filter_cons, ← alike.relation]
    cases related : field.isRelation with
    | false => rfl
    | true => simp [alike.name, alike.typeName related]

theorem view_exchanged (model : Model) (front rest : List Field) {field other : Field}
    (apart : field.Apart other) :
    Model.view { model with fields := front ++ field :: other :: rest } =
      Model.view { model with fields := front ++ other :: field :: rest } := by
  obtain ⟨marked, defaulted, relation⟩ := apart
  apply Model.view_of_fields
  · simp only [List.find?_append, List.find?_cons]
    cases first : field.isId <;> cases second : other.isId <;> simp_all
  · simp only [List.filter_append, List.filter_cons]
    cases first : field.isDefaulted <;> cases second : other.isDefaulted <;> simp_all
  · simp only [List.filter_append, List.filter_cons]
    cases first : field.isRelation <;> cases second : other.isRelation <;> simp_all

theorem Model.Edit.view {model edited : Model} (edit : Edit model edited) :
    model.view = edited.view := by
  cases edit with
  | described model dbName primaryKey uniqueFields => rfl
  | inserted model front rest plain => exact view_inserted model front rest plain
  | altered model front rest alike => exact view_altered model front rest alike
  | exchanged model front rest apart => exact view_exchanged model front rest apart

theorem Model.SameView.view {model edited : Model} (same : SameView model edited) :
    model.view = edited.view := by
  induction same with
  | rel model edited edit => exact edit.view
  | refl model => rfl
  | symm model edited _ ih => exact ih.symm
  | trans first second third _ _ left right => exact left.trans right

end Schema

namespace Repository

section View

variable (model : Model)

theorem subject_eq : Subject.ofModel model =
    ⟨model.view.name, Text.camelCase model.view.name, model.view.idName.getD "id"⟩ :=
  rfl

theorem identifier_eq : model.identifier?.isSome = model.view.idName.isSome :=
  Option.isSome_map.symm

theorem types_eq : model.relations.map (·.typeName) = model.view.relations.map (·.2) := by
  rw [Model.view, List.map_map]
  rfl

theorem getters_eq (subject : Subject) : model.relations.map subject.getter =
    model.view.relations.map fun related =>
      subject.getter { name := related.1, typeName := related.2 } := by
  rw [Model.view, List.map_map]
  rfl

theorem aliasType_eq : (ofModel model).aliasType =
    if model.view.defaulted = [] then model.view.name
    else "Omit<" ++ model.view.name ++ ", " ++
      " | ".intercalate (model.view.defaulted.map fun name => "'" ++ name ++ "'") ++ ">" :=
  inputType_eq model

end View

theorem ofModel_of_view {first second : Model} (same : first.view = second.view) :
    ofModel first = ofModel second := by
  have aliasType : inputType first = inputType second := by
    calc
      inputType first = _ := aliasType_eq first
      _ = _ := by rw [same]
      _ = inputType second := (aliasType_eq second).symm
  have name : first.name = second.name := congrArg View.name same
  simp only [ofModel, subject_eq, identifier_eq, types_eq, getters_eq, aliasType, name, same]

end Repository

/-- Models of one view have one repository, with one path and one text; and so have models that come
of one another by changes that no view shows. -/
theorem repository_told_by_view :
    (∀ first second : Model, first.view = second.view →
      Repository.ofModel first = Repository.ofModel second ∧
        (Repository.ofModel first).path = (Repository.ofModel second).path ∧
        (Repository.ofModel first).text = (Repository.ofModel second).text) ∧
    ∀ first second : Model, first.SameView second →
      Repository.ofModel first = Repository.ofModel second ∧
        (Repository.ofModel first).path = (Repository.ofModel second).path ∧
        (Repository.ofModel first).text = (Repository.ofModel second).text := by
  have told (first second : Model) (same : first.view = second.view) :
      Repository.ofModel first = Repository.ofModel second ∧
        (Repository.ofModel first).path = (Repository.ofModel second).path ∧
        (Repository.ofModel first).text = (Repository.ofModel second).text := by
    rw [Repository.ofModel_of_view same]
    exact ⟨rfl, rfl, rfl⟩
  constructor
  · exact told
  · intro first second same
    exact told first second same.view

theorem repository_told_by_view_of_post :
    let id : Field := ⟨"id", .scalar, "Int", true, false, true, true, false, none⟩
    let title : Field := ⟨"title", .scalar, "String", false, false, true, false, false, none⟩
    let author : Field := ⟨"author", .object, "User", false, false, true, false, false, some "by"⟩
    let updated : Field := { id with hasDefaultValue := false, isUpdatedAt := true }
    let renamed : Field := { author with isRequired := false, relationName := some "writer" }
    let first : Model := { name := "Post", fields := [id, title, author] }
    let second : Model := { name := "Post", dbName := some "posts", fields := [renamed, updated] }
    first.view = second.view ∧ first.SameView second ∧ first ≠ second ∧
      Repository.ofModel first = Repository.ofModel second ∧
      (Repository.ofModel first).text = (Repository.ofModel second).text := by
  intro id title author updated renamed first second
  obtain ⟨views, edits⟩ := repository_told_by_view
  have view : first.view = second.view := by decide +kernel
  have shorter : Model.Edit { name := "Post", fields := [id, author] } first :=
    .inserted { name := "Post" } [id] [author] (by decide +kernel)
  have turned : Model.Edit { name := "Post", fields := [id, author] }
      { name := "Post", fields := [author, id] } :=
    .exchanged { name := "Post" } [] [] ⟨rfl, rfl, rfl⟩
  have filled : Model.Edit { name := "Post", fields := [author, id] }
      { name := "Post", fields := [author, updated] } :=
    .altered { name := "Post" } [author] [] ⟨rfl, fun _ => rfl, rfl, rfl, .inl rfl⟩
  have called : Model.Edit { name := "Post", fields := [author, updated] }
      { name := "Post", fields := [renamed, updated] } :=
    .altered { name := "Post" } [] [updated] ⟨rfl, fun _ => rfl, rfl, rfl, .inl rfl⟩
  have stored : Model.Edit { name := "Post", fields := [renamed, updated] } second :=
    .described _ (some "posts") none []
  have same : first.SameView second :=
    .trans _ _ _ (.symm _ _ (.rel _ _ shorter)) (.trans _ _ _ (.rel _ _ turned)
      (.trans _ _ _ (.rel _ _ filled) (.trans _ _ _ (.rel _ _ called) (.rel _ _ stored))))
  exact ⟨view, same, by decide, (views _ _ view).1, (edits _ _ same).2.2⟩

end ModelRepositories
