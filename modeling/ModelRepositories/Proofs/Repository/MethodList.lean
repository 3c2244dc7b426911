import Mathlib.Data.Finset.Card
import Mathlib.Data.List.Dedup
import ModelRepositories.Repository.Basic

/-!
Which methods a repository has. The list starts with the row methods; each relation puts its getter
over the method of the same name or behind the others. So a name keeps the place where it came
first, and its method is the one that came last.
-/

namespace ModelRepositories

open Schema TypeScript

namespace Repository

def namesOf (methods : List Method) : List String :=
  methods.map (·.name)

def named? (name : String) (methods : List Method) : Option Method :=
  methods.find? (·.name = name)

theorem namesOf_putMethod (methods : List Method) (method : Method) :
    namesOf (putMethod methods method) = addName (namesOf methods) method.name := by
  induction methods with
  | nil => rfl
  | cons other rest ih =>
    simp only [namesOf, addName] at ih
    by_cases same : other.name = method.name
    · simp [putMethod, addName, namesOf, same]
    · by_cases member : method.name ∈ rest.map (·.name)
      · simpa [putMethod, namesOf, addName, same, Ne.symm same, member] using ih
      · simpa [putMethod, namesOf, addName, same, Ne.symm same, member] using ih

theorem namesOf_foldl_putMethod (methods getters : List Method) :
    namesOf (getters.foldl putMethod methods) =
      (namesOf getters).foldl addName (namesOf methods) := by
  induction getters generalizing methods with
  | nil => rfl
  | cons getter rest ih =>
    rw [List.foldl_cons, ih, namesOf_putMethod]
    rfl

theorem foldl_addName (names added : List String) :
    added.foldl addName names = names ++ (added.filter (· ∉ names)).eraseDups := by
  induction added generalizing names with
  | nil => simp
  | cons name rest ih =>
    rw [List.foldl_cons, ih]
    by_cases known : name ∈ names
    · simp [addName, known]
    · -- What was added once is known to the rest, as `eraseDups` has it.
      have later : rest.filter (· ∉ names ++ [name]) =
          (rest.filter (· ∉ names)).filter (fun other => !other == name) := by
        rw [List.filter_filter]
        apply List.filter_congr
        intro other _
        by_cases same : other = name <;> simp [same]
      rw [addName, if_neg known, List.filter_cons_of_pos (by simpa using known),
        List.eraseDups_cons, later, List.append_assoc, List.singleton_append]

theorem mem_foldl_addName {names added : List String} {name : String} :
    name ∈ added.foldl addName names ↔ name ∈ names ∨ name ∈ added := by
  rw [foldl_addName, List.mem_append, List.mem_eraseDups, List.mem_filter]
  by_cases known : name ∈ names <;> simp [known]

theorem imports_eq (model : Model) :
    (ofModel model).imports = [clientType, model.name] ++
      ((model.relations.map (·.typeName)).filter (· ∉ [clientType, model.name])).eraseDups :=
  foldl_addName _ _

theorem nodup_addName {names : List String} (distinct : names.Nodup) (name : String) :
    (addName names name).Nodup := by
  unfold addName
  split
  · exact distinct
  · next fresh =>
    rw [List.nodup_append_comm]
    exact List.nodup_cons.mpr ⟨fresh, distinct⟩

theorem nodup_foldl_addName {names : List String} (distinct : names.Nodup)
    (added : List String) : (added.foldl addName names).Nodup := by
  induction added generalizing names with
  | nil => exact distinct
  | cons name rest ih => exact ih (nodup_addName distinct name)

theorem named?_putMethod (name : String) (methods : List Method) (method : Method) :
    named? name (putMethod methods method) =
      if method.name = name then some method else named? name methods := by
  induction methods with
  | nil => simp [putMethod, named?, List.find?_singleton]
  | cons other rest ih =>
    simp only [named?] at ih
    by_cases same : other.name = method.name
    · by_cases sought : method.name = name <;> simp [putMethod, named?, same, sought]
    · by_cases sought : other.name = name
      · have apart : method.name ≠ name := fun found => same (sought.trans found.symm)
        rw [putMethod, if_neg same]
        simp [named?, sought, apart]
      · simp [putMethod, named?, same, sought, ih]

/-- A name belongs to the last getter that has it, and to what was there before if none has it. -/
theorem named?_foldl_putMethod (name : String) (methods getters : List Method) :
    named? name (getters.foldl putMethod methods) =
      (named? name getters.reverse).or (named? name methods) := by
  induction getters generalizing methods with
  | nil => simp [named?]
  | cons getter rest ih =>
    rw [List.foldl_cons, ih, named?_putMethod, List.reverse_cons]
    simp only [named?, List.find?_append, List.find?_singleton, Option.or_assoc]
    by_cases sought : getter.name = name <;> simp [sought]

theorem named?_of_mem {methods : List Method} (distinct : (namesOf methods).Nodup)
    {method : Method} (member : method ∈ methods) :
    named? method.name methods = some method := by
  induction methods with
  | nil => cases member
  | cons other rest ih =>
    obtain ⟨apart, later⟩ := List.nodup_cons.mp distinct
    rcases List.mem_cons.mp member with rfl | member
    · simp [named?]
    · have different : other.name ≠ method.name := by
        intro same
        exact apart (List.mem_map.mpr ⟨method, member, same.symm⟩)
      simpa [named?, different] using ih later member

theorem forall_putMethod {P : Method → Prop} {methods : List Method} {method : Method}
    (all : ∀ other ∈ methods, P other) (fresh : P method) :
    ∀ other ∈ putMethod methods method, P other := by
  induction methods with
  | nil => exact List.forall_mem_singleton.mpr fresh
  | cons other rest ih =>
    obtain ⟨first, later⟩ := List.forall_mem_cons.mp all
    unfold putMethod
    split
    · exact List.forall_mem_cons.mpr ⟨fresh, later⟩
    · exact List.forall_mem_cons.mpr ⟨first, ih later⟩

theorem forall_foldl_putMethod {P : Method → Prop} {methods getters : List Method}
    (all : ∀ method ∈ methods, P method) (fresh : ∀ getter ∈ getters, P getter) :
    ∀ method ∈ getters.foldl putMethod methods, P method := by
  induction getters generalizing methods with
  | nil => exact all
  | cons getter rest ih =>
    obtain ⟨first, later⟩ := List.forall_mem_cons.mp fresh
    exact ih (forall_putMethod all first) later

/-- What holds of each method that a repository may be given holds of all that it has. -/
theorem forall_methods {model : Model} {P : Method → Prop}
    (create : P (Subject.ofModel model).create) (getAll : P (Subject.ofModel model).getAll)
    (single : model.identifier?.isSome = true → P (Subject.ofModel model).getById ∧
      P (Subject.ofModel model).updateById ∧ P (Subject.ofModel model).deleteById)
    (getters : ∀ relation ∈ model.relations, P ((Subject.ofModel model).getter relation)) :
    ∀ method ∈ (ofModel model).methods, P method := by
  apply forall_foldl_putMethod
  · cases marked : model.identifier?.isSome with
    | false => simpa [Subject.rowMethods] using ⟨create, getAll⟩
    | true => simpa [Subject.rowMethods] using ⟨create, getAll, single marked⟩
  · exact List.forall_mem_map.mpr getters

/-- The names that come before those of the getters. -/
def rowNames (model : Model) : List String :=
  ["create", "getAll"] ++
    if model.fields.any (·.isId) then ["getById", "updateById", "deleteById"] else []

def getterNames (model : Model) : List String :=
  model.relations.map fun relation => getterName (Text.camelCase model.name) relation.name

def lastRelation? (model : Model) (name : String) : Option Field :=
  model.relations.reverse.find? fun relation =>
    getterName (Text.camelCase model.name) relation.name = name

theorem identifier?_isSome (model : Model) :
    model.identifier?.isSome = model.fields.any (·.isId) := by
  rw [Bool.eq_iff_iff, Model.identifier?, List.find?_isSome, List.any_eq_true]

theorem namesOf_rowMethods (model : Model) :
    namesOf ((Subject.ofModel model).rowMethods model.identifier?.isSome) = rowNames model := by
  rw [identifier?_isSome, rowNames]
  cases model.fields.any (·.isId) <;> rfl

theorem nodup_rowNames (model : Model) : (rowNames model).Nodup := by
  unfold rowNames
  cases model.fields.any (·.isId) <;> decide

theorem namesOf_getters (model : Model) :
    namesOf (model.relations.map (Subject.ofModel model).getter) = getterNames model := by
  simp [namesOf, getterNames, Subject.getter, Subject.ofModel]

theorem namesOf_methods (model : Model) :
    namesOf (ofModel model).methods = (getterNames model).foldl addName (rowNames model) := by
  rw [ofModel, namesOf_foldl_putMethod, namesOf_getters, namesOf_rowMethods]

theorem nodup_namesOf_methods (model : Model) : (namesOf (ofModel model).methods).Nodup := by
  rw [namesOf_methods]
  exact nodup_foldl_addName (nodup_rowNames model) _

theorem named?_getters (model : Model) (name : String) :
    named? name (model.relations.map (Subject.ofModel model).getter).reverse =
      (lastRelation? model name).map (Subject.ofModel model).getter := by
  rw [named?, ← List.map_reverse, List.find?_map]
  rfl

theorem named?_methods (model : Model) (name : String) :
    named? name (ofModel model).methods =
      ((lastRelation? model name).map (Subject.ofModel model).getter).or
        (named? name ((Subject.ofModel model).rowMethods model.identifier?.isSome)) := by
  rw [ofModel, named?_foldl_putMethod, named?_getters]

theorem mem_namesOf_methods (model : Model) (name : String) :
    name ∈ namesOf (ofModel model).methods ↔ name ∈ rowNames model ∨ name ∈ getterNames model := by
  rw [namesOf_methods, mem_foldl_addName]

theorem eq_of_map_toList {lines others : List String}
    (same : lines.map String.toList = others.map String.toList) : lines = others :=
  List.map_injective_iff.mpr (fun _ _ => String.toList_inj.mp) same

theorem getter_returnType (subject : Subject) (relation : Field) :
    (subject.getter relation).returnType = "Promise<" ++ relation.typeName ++ "[]>" :=
  promise_append _ _

theorem getter_body (subject : Subject) (relation : Field) :
    (subject.getter relation).body = [
      "const data = await prisma." ++ subject.handle ++ ".findFirst(\x7b " ++ subject.filter ++
        ", select: \x7b " ++ relation.name ++ ": true \x7d \x7d)",
      "return data?." ++ relation.name ++ " ?? []"] := by
  apply eq_of_map_toList
  simp [Subject.getter, Subject.call, braced, clientName]

/-- The order of a list of methods, its content, and how many they are. -/
theorem methods_first_place_last_getter (model : Model) :
    (namesOf (ofModel model).methods).Nodup ∧
    namesOf (ofModel model).methods =
      rowNames model ++ ((getterNames model).filter (· ∉ rowNames model)).eraseDups ∧
    (∀ method ∈ (ofModel model).methods,
      match lastRelation? model method.name with
      | some relation =>
        method = (Subject.ofModel model).getter relation ∧
        method.returnType = "Promise<" ++ relation.typeName ++ "[]>" ∧
        method.body = [
          "const data = await prisma." ++ Text.camelCase model.name ++ ".findFirst(\x7b " ++
            (Subject.ofModel model).filter ++ ", select: \x7b " ++ relation.name ++
            ": true \x7d \x7d)",
          "return data?." ++ relation.name ++ " ?? []"]
      | none =>
        named? method.name ((Subject.ofModel model).rowMethods model.identifier?.isSome) =
          some method) ∧
    (∀ relation ∈ model.relations,
      (namesOf (ofModel model).methods).count
        (getterName (Text.camelCase model.name) relation.name) = 1) ∧
    (ofModel model).methods.length =
      (rowNames model).length + ((getterNames model).toFinset \ (rowNames model).toFinset).card := by
  have distinct := nodup_namesOf_methods model
  refine ⟨distinct, ?_, ?_, ?_, ?_⟩
  · rw [namesOf_methods, foldl_addName]
  · intro method member
    have found := named?_of_mem distinct member
    rw [named?_methods] at found
    cases last : lastRelation? model method.name with
    | some relation =>
      obtain rfl : (Subject.ofModel model).getter relation = method := by simpa [last] using found
      exact ⟨rfl, getter_returnType _ relation, getter_body _ relation⟩
    | none => simpa [last] using found
  · intro relation member
    apply List.count_eq_one_of_mem distinct
    rw [mem_namesOf_methods]
    exact Or.inr (List.mem_map_of_mem member)
  · have added : (namesOf (ofModel model).methods).toFinset =
        (rowNames model).toFinset ∪ (getterNames model).toFinset := by
      ext name
      simp [mem_namesOf_methods]
    calc
      (ofModel model).methods.length = (namesOf (ofModel model).methods).toFinset.card := by
        rw [List.toFinset_card_of_nodup distinct, namesOf, List.length_map]
      _ = ((rowNames model).toFinset ∪ (getterNames model).toFinset).card := by rw [added]
      _ = (rowNames model).toFinset.card +
          ((getterNames model).toFinset \ (rowNames model).toFinset).card := by
        rw [← Finset.union_sdiff_self_eq_union, Finset.card_union_of_disjoint Finset.disjoint_sdiff]
      _ = (rowNames model).length +
          ((getterNames model).toFinset \ (rowNames model).toFinset).card := by
        rw [List.toFinset_card_of_nodup (nodup_rowNames model)]

/-- Two relations with one getter, which keeps the place of the first and tells of the second. -/
theorem methods_of_colliding_relations :
    let model : Model :=
      { name := "user"
        fields := [{ name := "id", typeName := "Int", isId := true },
          { name := "posts", typeName := "Post", relationName := some "written" },
          { name := "notes", typeName := "Note", relationName := some "noted" },
          { name := "Posts", typeName := "Article", relationName := some "printed" }] }
    namesOf (ofModel model).methods =
        ["create", "getAll", "getById", "updateById", "deleteById", "getUserPosts",
          "getUserNotes"] ∧
      ∀ method ∈ (ofModel model).methods, method.name = "getUserPosts" →
        method.returnType = "Promise<Article[]>" ∧
        method.body = [
          "const data = await prisma.user.findFirst(\x7b where: \x7b id \x7d, " ++
            "select: \x7b Posts: true \x7d \x7d)",
          "return data?.Posts ?? []"] := by
  intro model
  obtain ⟨-, names, content, -⟩ := methods_first_place_last_getter model
  have last : lastRelation? model "getUserPosts" =
      some { name := "Posts", typeName := "Article", relationName := some "printed" } := by
    decide +kernel
  refine ⟨names.trans (by decide +kernel), ?_⟩
  intro method member called
  have told := content method member
  rw [called, last] at told
  exact ⟨told.2.1.trans (by decide), told.2.2.trans (by decide +kernel)⟩

end Repository

end ModelRepositories
