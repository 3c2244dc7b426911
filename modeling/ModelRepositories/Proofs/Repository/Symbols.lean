import ModelRepositories.Proofs.Repository.MethodList
import ModelRepositories.Proofs.TypeScript.Plain

/-!
Models whose names are symbols. What a repository names after its model or after a field is a symbol
then, too.
-/

namespace ModelRepositories

open Schema TypeScript

theorem isSymbolChar_lower (c : Char) (member : isSymbolChar c = true) :
    ∀ image ∈ Text.lower c, isSymbolChar image = true := by
  have ascii := ascii_of_isSymbolChar member
  have stays := Text.forall_ascii
    (P := fun c => isSymbolChar c = true → isSymbolChar c.toLower = true) (by decide +kernel) ascii
  rw [Text.lower_of_ascii ascii]
  exact List.forall_mem_singleton.mpr (stays member)

theorem isSymbolChar_upper (c : Char) (member : isSymbolChar c = true) :
    ∀ image ∈ Text.upper c, isSymbolChar image = true := by
  have ascii := ascii_of_isSymbolChar member
  have stays := Text.forall_ascii
    (P := fun c => isSymbolChar c = true → isSymbolChar c.toUpper = true) (by decide +kernel) ascii
  rw [Text.upper_of_ascii ascii]
  exact List.forall_mem_singleton.mpr (stays member)

theorem symbolic_camelCase {name : String} (symbol : isSymbol name = true) :
    Symbolic (Text.camelCase name) :=
  Text.forall_camelCase isSymbolChar_lower isSymbolChar_upper
    (fun sigma => absurd sigma (by decide)) fun c member _ => symbolic_of_isSymbol symbol c member

theorem symbolic_capitalize {name : String} (symbolic : Symbolic name) :
    Symbolic (Text.capitalize name) := by
  unfold Text.capitalize
  split
  · exact nofun
  · next c rest chars =>
    rw [Symbolic, chars] at symbolic
    rw [Symbolic, String.toList_ofList]
    exact List.forall_mem_append.mpr ⟨isSymbolChar_upper c (List.forall_mem_cons.mp symbolic).1,
      (List.forall_mem_cons.mp symbolic).2⟩

theorem isSymbol_getterName {handle field : String} (left : Symbolic handle)
    (right : isSymbol field = true) : isSymbol (getterName handle field) = true := by
  apply isSymbol_append
  · exact isSymbol_append (by decide) (symbolic_capitalize left)
  · exact symbolic_capitalize (symbolic_of_isSymbol right)

namespace Subject

structure Plain (subject : Subject) : Prop where
  modelName : isSymbol subject.modelName = true
  handle : Symbolic subject.handle
  idName : isSymbol subject.idName = true

theorem Plain.aliasName {subject : Subject} (plain : subject.Plain) :
    isSymbol subject.aliasName = true := by
  apply isSymbol_append
  · exact isSymbol_append (by decide) (symbolic_of_isSymbol plain.modelName)
  · exact symbolic_of_isSymbol (by decide)

end Subject

structure Symbols (model : Model) : Prop where
  name : isSymbol model.name = true
  fieldNames : ∀ field ∈ model.fields, isSymbol field.name = true
  fieldTypes : ∀ field ∈ model.fields, isSymbol field.typeName = true

instance (model : Model) : Decidable (Symbols model) :=
  decidable_of_iff (isSymbol model.name = true ∧
      (∀ field ∈ model.fields, isSymbol field.name = true) ∧
        ∀ field ∈ model.fields, isSymbol field.typeName = true)
    ⟨fun all => ⟨all.1, all.2.1, all.2.2⟩,
      fun symbols => ⟨symbols.name, symbols.fieldNames, symbols.fieldTypes⟩⟩

namespace Repository

section Models

variable {model : Model} (symbols : Symbols model)
include symbols

theorem plain_subject : (Subject.ofModel model).Plain where
  modelName := symbols.name
  handle := symbolic_camelCase symbols.name
  idName := by
    simp only [Subject.ofModel]
    cases found : model.identifier? with
    | none => exact (by decide : isSymbol "id" = true)
    | some field => exact symbols.fieldNames field (List.mem_of_find?_eq_some found)

theorem isSymbol_imports : ∀ name ∈ (ofModel model).imports, isSymbol name = true := by
  intro name member
  rw [imports_eq] at member
  rcases List.mem_append.mp member with listed | related
  · have own : ∀ name ∈ [clientType, model.name], isSymbol name = true :=
      List.forall_mem_cons.mpr ⟨by decide, List.forall_mem_singleton.mpr symbols.name⟩
    exact own name listed
  · obtain ⟨relation, inside, rfl⟩ :=
      List.mem_map.mp (List.mem_of_mem_filter (List.mem_eraseDups.mp related))
    exact symbols.fieldTypes relation (List.mem_of_mem_filter inside)

end Models

end Repository

end ModelRepositories
