import ModelRepositories.Proofs.Repository.Identifier
import ModelRepositories.Proofs.Text.Initial

/-!
Whether the row methods of a repository stay what they are. A getter of the same name would take the
place of one. The name of a getter is `get` and two capitalized names, so among the names of the row
methods it can only be `getById`: that of the relation `id` or `Id` of a model with the handle `by`.
-/

namespace ModelRepositories

open Schema TypeScript

theorem exists_letter {name : String} (identifier : isIdentifier name = true) :
    ∃ c rest, name.toList = c :: rest ∧ c.isAlpha = true := by
  unfold isIdentifier at identifier
  split at identifier
  · cases identifier
  · next c rest chars => exact ⟨c, rest, chars, (Bool.and_eq_true _ _ ▸ identifier).1⟩

section GetterName

variable {handle field : String} {h f : Char} {hs fs : List Char}

theorem toList_getterName (left : handle.toList = h :: hs) (right : field.toList = f :: fs)
    (small : h.isLower = true) (letter : f.isAlpha = true) :
    (getterName handle field).toList =
      'g' :: 'e' :: 't' :: h.toUpper :: (hs ++ f.toUpper :: fs) := by
  have leftLetter := Text.isAlpha_of_isLower small
  rw [getterName, String.toList_append, String.toList_append,
    Text.toList_capitalize (Text.ascii_of_isAlpha leftLetter) left,
    Text.toList_capitalize (Text.ascii_of_isAlpha letter) right]
  rfl

theorem getterName_ne (left : handle.toList = h :: hs) (right : field.toList = f :: fs)
    (small : h.isLower = true) (letter : f.isAlpha = true) :
    getterName handle field ∉ ["create", "getAll", "updateById", "deleteById"] := by
  intro member
  have capital := Text.isUpper_toUpper letter
  have chars : (getterName handle field).toList ∈
      ["create", "getAll", "updateById", "deleteById"].map String.toList :=
    List.mem_map_of_mem member
  rw [toList_getterName left right small letter] at chars
  obtain ⟨-, rest⟩ : h.toUpper = 'A' ∧ hs ++ f.toUpper :: fs = ['l', 'l'] := by simpa using chars
  have inside : f.toUpper ∈ ['l', 'l'] := rest ▸ List.mem_append_right hs List.mem_cons_self
  rw [show f.toUpper = 'l' by simpa using inside] at capital
  exact absurd capital (by decide)

theorem eq_b_of_toUpper {c : Char} (small : c.isLower = true) (upper : c.toUpper = 'B') :
    c = 'b' :=
  Text.forall_ascii (P := fun c => c.isLower = true → c.toUpper = 'B' → c = 'b')
    (by decide +kernel) (Text.ascii_of_isAlpha (Text.isAlpha_of_isLower small)) small upper

theorem eq_i_of_toUpper {c : Char} (letter : c.isAlpha = true) (upper : c.toUpper = 'I') :
    c = 'i' ∨ c = 'I' :=
  Text.forall_ascii (P := fun c => c.toUpper = 'I' → c = 'i' ∨ c = 'I') (by decide +kernel)
    (Text.ascii_of_isAlpha letter) upper

theorem getterName_eq_getById (left : handle.toList = h :: hs) (right : field.toList = f :: fs)
    (small : h.isLower = true) (letter : f.isAlpha = true) :
    getterName handle field = "getById" ↔ handle = "by" ∧ (field = "id" ∨ field = "Id") := by
  constructor
  · intro same
    have chars := congrArg String.toList same
    rw [toList_getterName left right small letter] at chars
    obtain ⟨first, rest⟩ : h.toUpper = 'B' ∧ hs ++ f.toUpper :: fs = ['y', 'I', 'd'] := by
      simpa using chars
    have capital := Text.isUpper_toUpper letter
    have begins := eq_b_of_toUpper small first
    -- The only capital behind the first letter is the `I`, so there the second name begins.
    match hs, rest with
    | [], rest =>
      obtain ⟨here, -⟩ := List.cons.inj rest
      rw [here] at capital
      exact absurd capital (by decide)
    | [y], rest =>
      obtain ⟨rfl, here, rfl⟩ : y = 'y' ∧ f.toUpper = 'I' ∧ fs = ['d'] := by simpa using rest
      refine ⟨String.toList_inj.mp (by rw [left, begins]; rfl), ?_⟩
      rcases eq_i_of_toUpper letter here with rfl | rfl
      · exact Or.inl (String.toList_inj.mp right)
      · exact Or.inr (String.toList_inj.mp right)
    | [y, i], rest =>
      obtain ⟨-, -, here, -⟩ : y = 'y' ∧ i = 'I' ∧ f.toUpper = 'd' ∧ fs = [] := by
        simpa using rest
      rw [here] at capital
      exact absurd capital (by decide)
    | _ :: _ :: _ :: _, rest => simp at rest
  · rintro ⟨rfl, rfl | rfl⟩
    · decide +kernel
    · decide +kernel

end GetterName

namespace Repository

/-- Under the name of a row method stands that method, or nothing where the model has no identifier
and the method needs one. -/
structure RowMethodsStand (model : Model) : Prop where
  create : named? "create" (ofModel model).methods = some (Subject.ofModel model).create
  getAll : named? "getAll" (ofModel model).methods = some (Subject.ofModel model).getAll
  getById : named? "getById" (ofModel model).methods =
    if model.fields.any (·.isId) then some (Subject.ofModel model).getById else none
  updateById : named? "updateById" (ofModel model).methods =
    if model.fields.any (·.isId) then some (Subject.ofModel model).updateById else none
  deleteById : named? "deleteById" (ofModel model).methods =
    if model.fields.any (·.isId) then some (Subject.ofModel model).deleteById else none

def displacing (model : Model) (relation : Field) : Prop :=
  Text.camelCase model.name = "by" ∧ (relation.name = "id" ∨ relation.name = "Id")

section Identifiers

variable {model : Model}

theorem getterName_relation (identifier : isIdentifier model.name = true)
    (fields : ∀ field ∈ model.fields, isIdentifier field.name = true) {relation : Field}
    (member : relation ∈ model.relations) :
    getterName (Text.camelCase model.name) relation.name ∉
        ["create", "getAll", "updateById", "deleteById"] ∧
      (getterName (Text.camelCase model.name) relation.name = "getById" ↔
        displacing model relation) := by
  obtain ⟨c, rest, begins, letter⟩ := exists_letter identifier
  obtain ⟨others, handle⟩ := Text.exists_camelCase letter begins
  obtain ⟨f, fs, field, fieldLetter⟩ :=
    exists_letter (fields relation (List.mem_of_mem_filter member))
  have small := Text.isLower_toLower letter
  exact ⟨getterName_ne handle field small fieldLetter,
    getterName_eq_getById handle field small fieldLetter⟩

theorem lastRelation?_eq_none {name : String} :
    lastRelation? model name = none ↔
      ∀ relation ∈ model.relations,
        getterName (Text.camelCase model.name) relation.name ≠ name := by
  simp [lastRelation?]

theorem named?_untouched {name : String}
    (apart : ∀ relation ∈ model.relations,
      getterName (Text.camelCase model.name) relation.name ≠ name) :
    named? name (ofModel model).methods =
      named? name ((Subject.ofModel model).rowMethods model.identifier?.isSome) := by
  rw [named?_methods, lastRelation?_eq_none.mpr apart]
  rfl

theorem getter_ne_getById (subject : Subject) (relation : Field) :
    subject.getter relation ≠ subject.getById := by
  intro same
  have lines := congrArg (fun method => method.body.length) same
  cases lines

/-- The row methods of a model stand unless it has the handle `by` and a relation `id` or `Id`. -/
theorem rowMethodsStand_iff (identifier : isIdentifier model.name = true)
    (fields : ∀ field ∈ model.fields, isIdentifier field.name = true) :
    RowMethodsStand model ↔ ∀ relation ∈ model.relations, ¬ displacing model relation := by
  have names (relation : Field) (member : relation ∈ model.relations) :=
    getterName_relation identifier fields member
  constructor
  · intro stand relation member displaces
    have taken : getterName (Text.camelCase model.name) relation.name = "getById" :=
      (names relation member).2.mpr displaces
    cases last : lastRelation? model "getById" with
    | none => exact lastRelation?_eq_none.mp last relation member taken
    | some other =>
      have found := stand.getById
      rw [named?_methods, last] at found
      split at found
      · exact getter_ne_getById _ _ (Option.some.inj found)
      · cases found
  · intro free
    have apart : ∀ name ∈ ["create", "getAll", "getById", "updateById", "deleteById"],
        named? name (ofModel model).methods =
          named? name ((Subject.ofModel model).rowMethods model.identifier?.isSome) := by
      intro name member
      apply named?_untouched
      rintro relation present rfl
      obtain ⟨others, getById⟩ := names relation present
      by_cases here : getterName (Text.camelCase model.name) relation.name = "getById"
      · exact free relation present (getById.mp here)
      · exact others (by simpa [here] using member)
    rw [identifier?_isSome] at apart
    constructor <;> rw [apart _ (by simp)] <;> cases model.fields.any (·.isId) <;> rfl

end Identifiers

theorem rowMethodsStand_user :
    let model : Model :=
      { name := "User"
        fields := [{ name := "key", typeName := "Int", isId := true },
          { name := "id", typeName := "Badge", relationName := some "badges" }] }
    isIdentifier model.name = true ∧ (∀ field ∈ model.fields, isIdentifier field.name = true) ∧
      RowMethodsStand model := by
  intro model
  have identifier : isIdentifier model.name = true := by decide
  have fields : ∀ field ∈ model.fields, isIdentifier field.name = true := by decide
  refine ⟨identifier, fields, (rowMethodsStand_iff identifier fields).mpr ?_⟩
  rintro relation - ⟨handle, -⟩
  exact absurd handle (by decide +kernel)

/-- In a model `By` the getter of the relation `id` displaces the method that finds a row. -/
theorem getById_displaced :
    let model : Model :=
      { name := "By"
        fields := [{ name := "key", typeName := "Int", isId := true },
          { name := "id", typeName := "Badge", relationName := some "badges" }] }
    isIdentifier model.name = true ∧ (∀ field ∈ model.fields, isIdentifier field.name = true) ∧
      (named? "getById" (ofModel model).methods).map (·.body) =
        some ["const data = await prisma.by.findFirst(\x7b where: \x7b key: id \x7d, " ++
          "select: \x7b id: true \x7d \x7d)", "return data?.id ?? []"] ∧
      ¬ RowMethodsStand model := by
  intro model
  refine ⟨by decide, by decide, by decide +kernel, ?_⟩
  intro stand
  exact absurd stand.getById (by decide +kernel)

end Repository

end ModelRepositories
