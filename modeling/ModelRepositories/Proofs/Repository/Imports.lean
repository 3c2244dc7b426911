import ModelRepositories.Proofs.Repository.Identifier

/-!
The names of a generated file: those it imports, those it declares, and the types that its methods
speak of. A method speaks of imported types, of the declared type of input and of the types of
fields. What a file declares may meet the name of its model or the type of a relation, and nothing
else.
-/

namespace ModelRepositories

open Schema TypeScript

namespace TypeScript

def Statement.bound : Statement → List String
  | .importNames _ names => names
  | .constant name _ _ => [name]
  | .typeAlias name _ _ => [name]
  | .classDeclaration declared => [declared.name]

def SourceFile.bound (file : SourceFile) : List String :=
  file.statements.flatMap (·.bound)

end TypeScript

namespace Repository

theorem mem_imports {model : Model} {name : String} :
    name ∈ (ofModel model).imports ↔
      name = "PrismaClient" ∨ name = model.name ∨
        ∃ relation ∈ model.relations, relation.typeName = name := by
  rw [ofModel, mem_foldl_addName, List.mem_pair, List.mem_map, or_assoc, clientType]

/-- A promise of nothing, or of one, at most one or many values of a type that is at hand. -/
inductive Promised (types : List String) : String → Prop
  | nothing : Promised types "Promise<void>"
  | one {type : String} (present : type ∈ types) : Promised types ("Promise<" ++ type ++ ">")
  | optional {type : String} (present : type ∈ types) :
    Promised types ("Promise<" ++ type ++ " | null>")
  | many {type : String} (present : type ∈ types) : Promised types ("Promise<" ++ type ++ "[]>")

inductive Taken (model : Model) : String → Prop
  | input : Taken model (ofModel model).aliasName
  | field (name : String) : Taken model (model.name ++ "['" ++ name ++ "']")

structure SpeaksOf (types : List String) (model : Model) (method : Method) : Prop where
  returnType : Promised types method.returnType
  parameters : ∀ parameter ∈ method.parameters, Taken model parameter.typeText

section Types

variable {types : List String} {model : Model}

theorem promised_optional {type : String} (present : type ∈ types) :
    Promised types (promise (type ++ " | null")) := by
  rw [promise_append]
  exact .optional present

theorem promised_many {type : String} (present : type ∈ types) :
    Promised types (promise (type ++ "[]")) := by
  rw [promise_append]
  exact .many present

theorem taken_idParameter : Taken model (Subject.ofModel model).idParameter.typeText :=
  .field (Subject.ofModel model).idName

theorem taken_dataParameter : Taken model (Subject.ofModel model).dataParameter.typeText :=
  .input

theorem speaksOf_create (present : model.name ∈ types) :
    SpeaksOf types model (Subject.ofModel model).create where
  returnType := .one present
  parameters := List.forall_mem_singleton.mpr taken_dataParameter

theorem speaksOf_getAll (present : model.name ∈ types) :
    SpeaksOf types model (Subject.ofModel model).getAll where
  returnType := promised_many present
  parameters := nofun

theorem speaksOf_getById (present : model.name ∈ types) :
    SpeaksOf types model (Subject.ofModel model).getById where
  returnType := promised_optional present
  parameters := List.forall_mem_singleton.mpr taken_idParameter

theorem speaksOf_updateById (present : model.name ∈ types) :
    SpeaksOf types model (Subject.ofModel model).updateById where
  returnType := promised_optional present
  parameters := List.forall_mem_cons.mpr
    ⟨taken_idParameter, List.forall_mem_singleton.mpr taken_dataParameter⟩

theorem speaksOf_deleteById : SpeaksOf types model (Subject.ofModel model).deleteById where
  returnType := .nothing
  parameters := List.forall_mem_singleton.mpr taken_idParameter

theorem speaksOf_getter {relation : Field} (present : relation.typeName ∈ types) :
    SpeaksOf types model ((Subject.ofModel model).getter relation) where
  returnType := promised_many present
  parameters := List.forall_mem_singleton.mpr taken_idParameter

end Types

/-- What a file imports, and that its methods speak of no other types. -/
theorem imports_and_method_types (model : Model) :
    (ofModel model).imports = ["PrismaClient", model.name] ++
        ((model.relations.map (·.typeName)).filter (· ∉ ["PrismaClient", model.name])).eraseDups ∧
      ∀ method ∈ (ofModel model).methods, SpeaksOf (ofModel model).imports model method := by
  have own : model.name ∈ (ofModel model).imports := mem_imports.mpr (Or.inr (Or.inl rfl))
  have related (relation : Field) (member : relation ∈ model.relations) :
      relation.typeName ∈ (ofModel model).imports :=
    mem_imports.mpr (Or.inr (Or.inr ⟨relation, member, rfl⟩))
  refine ⟨imports_eq model, ?_⟩
  apply forall_methods (speaksOf_create own) (speaksOf_getAll own)
  · exact fun _ => ⟨speaksOf_getById own, speaksOf_updateById own, speaksOf_deleteById⟩
  · exact fun relation member => speaksOf_getter (related relation member)

theorem imports_and_method_types_of_user :
    let editors : Field := { name := "Posts", typeName := "Editor", relationName := some "edited" }
    let model : Model :=
      { name := "User"
        fields := [{ name := "id", typeName := "Int", isId := true },
          { name := "posts", typeName := "Post", relationName := some "written" },
          { name := "drafts", typeName := "Post", relationName := some "drafted" },
          { name := "manager", typeName := "User", relationName := some "managed" }, editors] }
    let getter := (Subject.ofModel model).getter editors
    (ofModel model).imports = ["PrismaClient", "User", "Post", "Editor"] ∧
      (ofModel model).methodNames = ["create", "getAll", "getById", "updateById", "deleteById",
        "getUserPosts", "getUserDrafts", "getUserManager"] ∧
      getter.returnType = "Promise<Editor[]>" ∧ getter ∈ (ofModel model).methods ∧
      SpeaksOf (ofModel model).imports model getter := by
  intro editors model getter
  obtain ⟨imports, speaks⟩ := imports_and_method_types model
  have member : getter ∈ (ofModel model).methods := by decide +kernel
  exact ⟨imports.trans (by decide), by decide +kernel, by decide, member, speaks getter member⟩

def declared (modelName : String) : List String :=
  ["prisma", "Required" ++ modelName ++ "Fields", modelName ++ "Repository"]

theorem bound_eq (model : Model) :
    (ofModel model).sourceFile.bound = (ofModel model).imports ++ declared model.name :=
  rfl

theorem lasts_declared (modelName : String) :
    (declared modelName).map (·.toList.getLast?) = [some 'a', some 's', some 'y'] := by
  have aliased (front : String) : (front ++ "Fields").toList.getLast? = some 's' := by simp
  have repository : (modelName ++ "Repository").toList.getLast? = some 'y' := by simp
  rw [declared, List.map_cons, List.map_cons, List.map_singleton, aliased, repository]
  rfl

theorem nodup_declared (modelName : String) : (declared modelName).Nodup := by
  apply List.Nodup.of_map (·.toList.getLast?)
  rw [lasts_declared]
  decide

theorem clientType_not_declared (modelName : String) : "PrismaClient" ∉ declared modelName := by
  intro member
  have last := List.mem_map_of_mem (f := (·.toList.getLast?)) member
  rw [lasts_declared] at last
  exact absurd last (by decide)

theorem self_declared_iff (modelName : String) :
    modelName ∈ declared modelName ↔ modelName = "prisma" := by
  have longer (front back : String) (nonempty : 0 < back.length) :
      modelName ≠ front ++ modelName ++ back := by
    intro same
    have lengths := congrArg String.length same
    simp only [String.length_append] at lengths
    omega
  have aliasName : modelName ≠ "Required" ++ modelName ++ "Fields" := longer _ _ (by decide)
  have className : modelName ≠ "" ++ modelName ++ "Repository" := longer _ _ (by decide)
  rw [String.empty_append] at className
  rw [declared, List.mem_cons, List.mem_pair]
  exact ⟨(·.resolve_right (not_or.mpr ⟨aliasName, className⟩)), Or.inl⟩

theorem nodup_imports {model : Model} (other : model.name ≠ "PrismaClient") :
    (ofModel model).imports.Nodup := by
  apply nodup_foldl_addName
  simpa [clientType] using other.symm

/-- A file binds each name once if what it declares is called neither like the model nor like the
type of a relation. -/
theorem nodup_bound_iff {model : Model} (other : model.name ≠ "PrismaClient") :
    (ofModel model).imports.Nodup ∧
      ((ofModel model).sourceFile.bound.Nodup ↔
        model.name ≠ "prisma" ∧
          ∀ relation ∈ model.relations, relation.typeName ∉ declared model.name) := by
  have imported := nodup_imports other
  have apart : (∀ name ∈ (ofModel model).imports, name ∉ declared model.name) ↔
      model.name ≠ "prisma" ∧
        ∀ relation ∈ model.relations, relation.typeName ∉ declared model.name := by
    simp [mem_imports, clientType_not_declared, self_declared_iff, or_imp, forall_and]
  refine ⟨imported, ?_⟩
  rw [bound_eq, List.nodup_append', ← apart]
  exact ⟨fun all name member => all.2.2 member,
    fun separate => ⟨imported, nodup_declared model.name, fun _ => separate _⟩⟩

theorem nodup_bound_post :
    let model : Model :=
      { name := "Post"
        fields := [{ name := "owner", typeName := "Prisma", relationName := some "owners" },
          { name := "store", typeName := "PostRepositories", relationName := some "stores" },
          { name := "next", typeName := "Post", relationName := some "following" }] }
    model.name ≠ "PrismaClient" ∧ (ofModel model).sourceFile.bound.Nodup ∧
      (ofModel model).sourceFile.bound = ["PrismaClient", "Post", "Prisma", "PostRepositories",
        "prisma", "RequiredPostFields", "PostRepository"] := by
  intro model
  have other : model.name ≠ "PrismaClient" := by decide
  exact ⟨other, (nodup_bound_iff other).2.mpr ⟨by decide, by decide⟩, by decide⟩

/-- The file of a user with a relation to `UserRepository` imports one and declares another. -/
theorem bound_twice_userRepository :
    let model : Model :=
      { name := "User"
        fields := [
          { name := "store", typeName := "UserRepository", relationName := some "stores" }] }
    isIdentifier model.name = true ∧
      (∀ field ∈ model.fields,
        isIdentifier field.name = true ∧ isIdentifier field.typeName = true) ∧
      (ofModel model).sourceFile.bound = ["PrismaClient", "User", "UserRepository", "prisma",
        "RequiredUserFields", "UserRepository"] ∧
      ¬ (ofModel model).sourceFile.bound.Nodup := by
  decide +kernel

end Repository

end ModelRepositories
