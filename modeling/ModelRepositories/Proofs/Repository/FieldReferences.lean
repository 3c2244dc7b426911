import ModelRepositories.Proofs.Repository.MethodList

/-!
Which fields of its model a repository refers to. The lines of a method tell what it asks the client
for, and so the fields that it names: the one that picks a row, the same in all methods, and the
relation that a getter reads. Both are fields of the model, save that getters pick rows by `id`
where the model marks no field.
-/

namespace ModelRepositories

open Schema TypeScript

/-- What a method asks of its table, with the fields that it names. -/
inductive Query
  | insert
  | list
  | find (key : String)
  | update (key : String)
  | delete (key : String)
  | follow (key relation : String)
  deriving DecidableEq, Repr

namespace Query

def key? : Query → Option String
  | insert => none
  | list => none
  | find key => some key
  | update key => some key
  | delete key => some key
  | follow key _ => some key

def names : Query → List String
  | insert => []
  | list => []
  | find key => [key]
  | update key => [key]
  | delete key => [key]
  | follow key relation => [key, relation]

def filter (key : String) : String :=
  if key = "id" then "\x7b id \x7d" else "\x7b " ++ key ++ ": id \x7d"

def lines (accessor : String) : Query → List String
  | insert => ["return await " ++ accessor ++ ".create(\x7b data \x7d)"]
  | list => ["return await " ++ accessor ++ ".findMany()"]
  | find key => ["return await " ++ accessor ++ ".findFirst(\x7b where: " ++ filter key ++ " \x7d)"]
  | update key =>
    ["return await " ++ accessor ++ ".update(\x7b where: " ++ filter key ++ ", data \x7d)"]
  | delete key => ["await " ++ accessor ++ ".delete(\x7b where: " ++ filter key ++ " \x7d)"]
  | follow key relation => [
    "const data = await " ++ accessor ++ ".findFirst(\x7b where: " ++ filter key ++
      ", select: \x7b " ++ relation ++ ": true \x7d \x7d)",
    "return data?." ++ relation ++ " ?? []"]

theorem filter_injective {first second : String} (same : filter first = filter second) :
    first = second := by
  have longer (key : String) : "\x7b id \x7d" ≠ "\x7b " ++ key ++ ": id \x7d" := by
    intro short
    have lengths := congrArg String.length short
    simp only [String.length_append] at lengths
    have left : "\x7b id \x7d".length = 6 := by decide
    have right : "\x7b ".length + ": id \x7d".length = 8 := by decide
    omega
  unfold filter at same
  split at same
  · split at same
    · simp_all
    · exact absurd same (longer second)
  · split at same
    · exact absurd same.symm (longer first)
    · simpa using same

/-- The lines of a method tell what it asks for. -/
theorem lines_injective (accessor : String) {first second : Query}
    (same : first.lines accessor = second.lines accessor) : first = second := by
  cases first <;> cases second
  case insert.insert => rfl
  case list.list => rfl
  case find.find key other =>
    have filters : filter key = filter other := by simpa [lines] using same
    rw [filter_injective filters]
  case update.update key other =>
    have filters : filter key = filter other := by simpa [lines] using same
    rw [filter_injective filters]
  case delete.delete key other =>
    have filters : filter key = filter other := by simpa [lines] using same
    rw [filter_injective filters]
  case follow.follow key relation other related =>
    obtain ⟨asked, read⟩ := List.cons.inj same
    have relations : relation = related := by simpa using read
    subst relations
    have filters : filter key = filter other := by simpa using asked
    rw [filter_injective filters]
  -- Lines of different queries part before either of them names a field.
  all_goals
    have chars := congrArg (List.map String.toList) same
    simp [lines] at chars

end Query

namespace Repository

def keyName (model : Model) : String :=
  match model.identifier? with
  | some field => field.name
  | none => "id"

def accessor (model : Model) : String :=
  "prisma." ++ (ofModel model).handle

def Asks (model : Model) (method : Method) (query : Query) : Prop :=
  method.body = query.lines (accessor model)

/-- A method names a field where it takes a value of the field's type, and in what it asks for. -/
inductive Mentions (model : Model) (method : Method) (name : String) : Prop
  | parameter {parameter : Parameter} (member : parameter ∈ method.parameters)
    (indexed : parameter.typeText = model.name ++ "['" ++ name ++ "']") :
    Mentions model method name
  | query {query : Query} (asks : Asks model method query) (member : name ∈ query.names) :
    Mentions model method name

section Key

variable {model : Model}

theorem keyName_of_marked (marked : model.identifier?.isSome) :
    ∃ field ∈ model.fields, field.name = keyName model := by
  obtain ⟨field, found⟩ := Option.isSome_iff_exists.mp marked
  exact ⟨field, List.mem_of_find?_eq_some found, by rw [keyName, found]⟩

theorem keyName_of_unmarked (unmarked : model.identifier? = none) :
    keyName model = "id" ∧ ∀ field ∈ model.fields, field.isId = false := by
  refine ⟨by rw [keyName, unmarked], ?_⟩
  intro field member
  simpa using List.find?_eq_none.mp unmarked field member

theorem idName_eq (model : Model) : (Subject.ofModel model).idName = keyName model := by
  unfold keyName Subject.ofModel
  cases model.identifier? <;> rfl

theorem filter_eq (model : Model) :
    (Subject.ofModel model).filter = "where: " ++ Query.filter (keyName model) := by
  rw [Subject.filter, idName_eq, Query.filter, braced]
  split
  · rfl
  · simp only [String.append_assoc]
    rfl

theorem call_eq (model : Model) (operation argument : String) :
    (Subject.ofModel model).call operation argument =
      "await " ++ accessor model ++ "." ++ operation ++ "(" ++ argument ++ ")" := by
  rw [← String.toList_inj]
  simp [Subject.call, accessor, clientName, Subject.ofModel, ofModel]

end Key

inductive Made (model : Model) : Method → Query → Prop
  | create : Made model (Subject.ofModel model).create .insert
  | getAll : Made model (Subject.ofModel model).getAll .list
  | getById (marked : model.identifier?.isSome) :
    Made model (Subject.ofModel model).getById (.find (keyName model))
  | updateById (marked : model.identifier?.isSome) :
    Made model (Subject.ofModel model).updateById (.update (keyName model))
  | deleteById (marked : model.identifier?.isSome) :
    Made model (Subject.ofModel model).deleteById (.delete (keyName model))
  | getter {relation : Field} (member : relation ∈ model.relations) :
    Made model ((Subject.ofModel model).getter relation) (.follow (keyName model) relation.name)

section Made

variable {model : Model} {method : Method} {query : Query}

theorem exists_made : ∀ method ∈ (ofModel model).methods, ∃ query, Made model method query := by
  apply forall_methods (P := fun method => ∃ query, Made model method query)
    ⟨_, .create⟩ ⟨_, .getAll⟩
  · exact fun marked => ⟨⟨_, .getById marked⟩, ⟨_, .updateById marked⟩, ⟨_, .deleteById marked⟩⟩
  · exact fun relation member => ⟨_, .getter member⟩

theorem Made.asks (made : Made model method query) : Asks model method query := by
  apply eq_of_map_toList
  cases made with
  | create => simp [Subject.create, call_eq, braced, Query.lines]
  | getAll => simp [Subject.getAll, call_eq, Query.lines]
  | getById => simp [Subject.getById, call_eq, braced, filter_eq, Query.lines]
  | updateById => simp [Subject.updateById, call_eq, braced, filter_eq, Query.lines]
  | deleteById => simp [Subject.deleteById, call_eq, braced, filter_eq, Query.lines]
  | getter => simp [Subject.getter, call_eq, braced, filter_eq, Query.lines]

theorem Made.unique (made : Made model method query) {other : Query}
    (asks : Asks model method other) : other = query :=
  Query.lines_injective (accessor model) (asks.symm.trans made.asks)

theorem Made.key (made : Made model method query) :
    query.key? = none ∧ (query = .insert ∧ method.name = "create" ∨
        query = .list ∧ method.name = "getAll") ∨
      query.key? = some (keyName model) ∧
        method.parameters.head? = some (Subject.ofModel model).idParameter := by
  cases made with
  | create => exact Or.inl ⟨rfl, Or.inl ⟨rfl, rfl⟩⟩
  | getAll => exact Or.inl ⟨rfl, Or.inr ⟨rfl, rfl⟩⟩
  | getById => exact Or.inr ⟨rfl, rfl⟩
  | updateById => exact Or.inr ⟨rfl, rfl⟩
  | deleteById => exact Or.inr ⟨rfl, rfl⟩
  | getter => exact Or.inr ⟨rfl, rfl⟩

theorem idParameter_eq (model : Model) :
    (Subject.ofModel model).idParameter = ⟨"id", model.name ++ "['" ++ keyName model ++ "']"⟩ := by
  rw [Subject.idParameter, idName_eq]
  rfl

theorem Made.parameters (made : Made model method query) :
    ∀ parameter ∈ method.parameters, parameter = (Subject.ofModel model).dataParameter ∨
      parameter = (Subject.ofModel model).idParameter ∧ keyName model ∈ query.names := by
  have id (others : List String) : (Subject.ofModel model).idParameter =
      (Subject.ofModel model).idParameter ∧ keyName model ∈ keyName model :: others :=
    ⟨rfl, List.mem_cons_self⟩
  cases made with
  | create => exact List.forall_mem_singleton.mpr (Or.inl rfl)
  | getAll => exact nofun
  | getById => exact List.forall_mem_singleton.mpr (Or.inr (id _))
  | updateById =>
    exact List.forall_mem_cons.mpr ⟨Or.inr (id _), List.forall_mem_singleton.mpr (Or.inl rfl)⟩
  | deleteById => exact List.forall_mem_singleton.mpr (Or.inr (id _))
  | getter => exact List.forall_mem_singleton.mpr (Or.inr (id _))

theorem aliasName_ne (model : Model) (name : String) :
    (Subject.ofModel model).aliasName ≠ model.name ++ "['" ++ name ++ "']" := by
  intro same
  have aliased (front : String) : (front ++ "Fields").toList.getLast? = some 's' := by simp
  have indexed (front : String) : (front ++ "']").toList.getLast? = some ']' := by simp
  have last := congrArg (·.toList.getLast?) same
  simp only [Subject.aliasName, aliased, indexed] at last
  exact absurd last (by decide)

theorem Made.mentions (made : Made model method query) {name : String}
    (mentions : Mentions model method name) : name ∈ query.names := by
  cases mentions with
  | parameter member indexed =>
    rcases made.parameters _ member with rfl | ⟨rfl, named⟩
    · exact absurd indexed (aliasName_ne model name)
    · rw [idParameter_eq] at indexed
      have same : keyName model = name := by simpa using indexed
      rwa [same] at named
  | query asks member => rwa [made.unique asks] at member

theorem Made.declared (made : Made model method query) {name : String}
    (member : name ∈ query.names) :
    (∃ field ∈ model.fields, field.name = name) ∨
      name = "id" ∧ (∀ field ∈ model.fields, field.isId = false) ∧
        ∃ key relation, query = .follow key relation := by
  cases made with
  | create => cases member
  | getAll => cases member
  | getById marked => exact Or.inl (List.mem_singleton.mp member ▸ keyName_of_marked marked)
  | updateById marked => exact Or.inl (List.mem_singleton.mp member ▸ keyName_of_marked marked)
  | deleteById marked => exact Or.inl (List.mem_singleton.mp member ▸ keyName_of_marked marked)
  | getter related =>
    rcases List.mem_pair.mp member with rfl | rfl
    · cases marked : model.identifier? with
      | some field => exact Or.inl (keyName_of_marked (by rw [marked]; rfl))
      | none =>
        obtain ⟨id, unmarked⟩ := keyName_of_unmarked marked
        exact Or.inr ⟨id, unmarked, _, _, rfl⟩
    · exact Or.inl ⟨_, List.mem_of_mem_filter related, rfl⟩

end Made

/-- How a repository refers to the fields of its model. Each method asks for one thing, all that
pick a row pick it by the same field, and a name that the model does not declare can only be the
`id` of a getter. -/
structure RefersToFields (model : Model) : Prop where
  asks : ∀ method ∈ (ofModel model).methods, ∃! query, Asks model method query
  keyless : ∀ method ∈ (ofModel model).methods, ∀ query, Asks model method query →
    query.key? = none →
      query = .insert ∧ method.name = "create" ∨ query = .list ∧ method.name = "getAll"
  keyed : ∀ method ∈ (ofModel model).methods, ∀ query key, Asks model method query →
    query.key? = some key → key = keyName model ∧
      method.parameters.head? = some ⟨"id", model.name ++ "['" ++ keyName model ++ "']"⟩
  followed : ∀ method ∈ (ofModel model).methods, ∀ key name,
    Asks model method (.follow key name) → ∃ relation ∈ model.relations,
      relation.name = name ∧ method.returnType = "Promise<" ++ relation.typeName ++ "[]>"
  omitted : ∃ names, names.Sublist (model.fields.map (·.name)) ∧
    (ofModel model).aliasType =
      if names = [] then model.name
      else "Omit<" ++ model.name ++ ", " ++
        " | ".intercalate (names.map fun name => "'" ++ name ++ "'") ++ ">"
  declared : ∀ method ∈ (ofModel model).methods, ∀ name, Mentions model method name →
    (∃ field ∈ model.fields, field.name = name) ∨
      name = "id" ∧ (∀ field ∈ model.fields, field.isId = false) ∧
        ∃ key relation, Asks model method (.follow key relation)

theorem inputType_eq (model : Model) :
    (ofModel model).aliasType =
      if model.defaulted.map (·.name) = [] then model.name
      else "Omit<" ++ model.name ++ ", " ++
        " | ".intercalate ((model.defaulted.map (·.name)).map fun name => "'" ++ name ++ "'") ++
          ">" := by
  change inputType model = _
  rw [inputType, List.map_map]
  cases model.defaulted with
  | nil => rfl
  | cons field rest => rfl

theorem refers_to_fields (model : Model) : RefersToFields model where
  asks := by
    intro method member
    obtain ⟨query, made⟩ := exists_made method member
    exact ⟨query, made.asks, fun other => made.unique⟩
  keyless := by
    intro method member query asks keyless
    obtain ⟨own, made⟩ := exists_made method member
    rw [made.unique asks] at keyless ⊢
    rcases made.key with ⟨-, known⟩ | ⟨keyed, -⟩
    · exact known
    · cases keyless.symm.trans keyed
  keyed := by
    intro method member query key asks keyed
    obtain ⟨own, made⟩ := exists_made method member
    rw [made.unique asks] at keyed
    rcases made.key with ⟨keyless, -⟩ | ⟨found, first⟩
    · cases keyless.symm.trans keyed
    · exact ⟨Option.some.inj (keyed.symm.trans found), idParameter_eq model ▸ first⟩
  followed := by
    intro method member key name asks
    obtain ⟨own, made⟩ := exists_made method member
    cases made.unique asks
    cases made with
    | getter related => exact ⟨_, related, rfl, promise_append _ _⟩
  omitted := by
    refine ⟨model.defaulted.map (·.name), ?_, inputType_eq model⟩
    exact List.filter_sublist.map _
  declared := by
    intro method member name mentions
    obtain ⟨query, made⟩ := exists_made method member
    rcases made.declared (made.mentions mentions) with found | ⟨id, unmarked, key, relation, rfl⟩
    · exact Or.inl found
    · exact Or.inr ⟨id, unmarked, key, relation, made.asks⟩

theorem refers_to_fields_of_entry_and_note :
    let code : Field :=
      { name := "code", typeName := "Key", isId := true, relationName := some "keys" }
    let entry : Model :=
      { name := "Entry"
        fields := [{ name := "stamp", typeName := "DateTime", isUpdatedAt := true }, code,
          { name := "id", typeName := "Int", isId := true }] }
    let author : Field := { name := "author", typeName := "Author", relationName := some "authors" }
    let note : Model := { name := "Note", fields := [author] }
    let create := (Subject.ofModel entry).create
    let getCode := (Subject.ofModel entry).getter code
    let getAuthor := (Subject.ofModel note).getter author
    (create ∈ (ofModel entry).methods ∧ Asks entry create .insert ∧ create.name = "create") ∧
    (getCode ∈ (ofModel entry).methods ∧ Asks entry getCode (.follow "code" "code") ∧
      getCode.parameters.head? = some ⟨"id", "Entry['code']"⟩ ∧
      ∃ relation ∈ entry.relations, relation.name = "code" ∧
        getCode.returnType = "Promise<" ++ relation.typeName ++ "[]>") ∧
    (getAuthor ∈ (ofModel note).methods ∧ Mentions note getAuthor "id" ∧
      ∀ field ∈ note.fields, field.isId = false) := by
  intro code entry author note create getCode getAuthor
  have entries := refers_to_fields entry
  have notes := refers_to_fields note
  have createAsks : Asks entry create .insert := by
    unfold Asks
    decide +kernel
  have codeAsks : Asks entry getCode (.follow "code" "code") := by
    unfold Asks
    decide +kernel
  have createMember : create ∈ (ofModel entry).methods := by decide +kernel
  have codeMember : getCode ∈ (ofModel entry).methods := by decide +kernel
  have authorMember : getAuthor ∈ (ofModel note).methods := by decide +kernel
  have parameter : ⟨"id", "Note['id']"⟩ ∈ getAuthor.parameters := by decide +kernel
  have mentions : Mentions note getAuthor "id" := .parameter parameter (by decide)
  refine ⟨⟨createMember, createAsks, ?_⟩, ⟨codeMember, codeAsks, ?_, ?_⟩,
    authorMember, mentions, ?_⟩
  · simpa using entries.keyless create createMember .insert createAsks rfl
  · exact (entries.keyed getCode codeMember _ _ codeAsks rfl).2
  · exact entries.followed getCode codeMember _ _ codeAsks
  · rcases notes.declared getAuthor authorMember "id" mentions with ⟨field, member, id⟩ | unmarked
    · rw [List.mem_singleton.mp member] at id
      exact absurd id (by decide)
    · exact unmarked.2.1

end Repository

end ModelRepositories
