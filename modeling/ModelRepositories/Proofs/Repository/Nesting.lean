import ModelRepositories.Proofs.Repository.Symbols
import ModelRepositories.Proofs.TypeScript.Nesting

/-!
The nesting of a repository's file. Every text about a model whose names are symbols is balanced, so
brackets match in the file, quotes end on their lines, and the braces of a class and of its methods
are open down to their ends.
-/

namespace ModelRepositories

open Schema TypeScript

theorem balanced_braced {text : String} (inside : Balanced (marksOf text)) :
    Balanced (marksOf (braced text)) := by
  rw [braced, marksOf_append, marksOf_append]
  exact inside.enclosed .curly

theorem balanced_promise {text : String} (inside : Balanced (marksOf text)) :
    Balanced (marksOf (promise text)) := by
  rw [promise, marksOf_append, marksOf_append]
  exact inside.enclosed .angle

namespace Subject

section Methods

variable {subject : Subject} (plain : subject.Plain)
include plain

theorem Plain.balanced_idParameter : Balanced (marksOf subject.idParameter.text) := by
  have quoted := (balanced_quoted .single).enclosed .square
  have model := marksOf_symbol plain.modelName
  have name := marksOf_symbol plain.idName
  simp only [Parameter.text, idParameter, marksOf_append, model, name, List.append_nil]
  exact quoted

theorem Plain.balanced_dataParameter : Balanced (marksOf subject.dataParameter.text) := by
  have word : Balanced (marksOf ("data" ++ ": ")) := balanced_nil
  exact balanced_append word (balanced_symbol plain.aliasName)

theorem Plain.balanced_filter : Balanced (marksOf subject.filter) := by
  have word : Balanced (marksOf "where: ") := balanced_nil
  have value : Balanced (marksOf ": id") := balanced_nil
  apply balanced_append word
  apply balanced_braced
  split
  · exact balanced_nil
  · exact balanced_append (balanced_symbol plain.idName) value

theorem Plain.balanced_call {operation argument : String} (bare : marksOf operation = [])
    (inside : Balanced (marksOf argument)) :
    Balanced (marksOf (subject.call operation argument)) := by
  have handle := marksOf_symbolic plain.handle
  simp only [call, marksOf_append, handle, bare, List.append_nil]
  exact inside.enclosed .round

theorem Plain.balanced_return {operation argument : String} (bare : marksOf operation = [])
    (inside : Balanced (marksOf argument)) :
    Balanced (marksOf ("return " ++ subject.call operation argument)) := by
  have word : Balanced (marksOf "return ") := balanced_nil
  exact balanced_append word (plain.balanced_call bare inside)

theorem Plain.balanced_result {ending : String} (balanced : Balanced (marksOf ending)) :
    Balanced (marksOf (promise (subject.modelName ++ ending))) :=
  balanced_promise (balanced_append (balanced_symbol plain.modelName) balanced)

theorem Plain.matched_create : subject.create.Matched where
  name := balanced_symbol (by decide : isSymbol "create" = true)
  parameters := List.forall_mem_singleton.mpr plain.balanced_dataParameter
  returnType := balanced_promise (balanced_symbol plain.modelName)
  body := by
    have data : Balanced (marksOf (braced "data")) := balanced_braced balanced_nil
    exact List.forall_mem_singleton.mpr (plain.balanced_return rfl data)

theorem Plain.matched_getAll : subject.getAll.Matched where
  name := balanced_symbol (by decide : isSymbol "getAll" = true)
  parameters := nofun
  returnType := plain.balanced_result (balanced_nil.enclosed .square)
  body := List.forall_mem_singleton.mpr (plain.balanced_return rfl balanced_nil)

theorem Plain.matched_getById : subject.getById.Matched where
  name := balanced_symbol (by decide : isSymbol "getById" = true)
  parameters := List.forall_mem_singleton.mpr plain.balanced_idParameter
  returnType := plain.balanced_result balanced_nil
  body := by
    have row := balanced_braced plain.balanced_filter
    exact List.forall_mem_singleton.mpr (plain.balanced_return rfl row)

theorem Plain.matched_updateById : subject.updateById.Matched where
  name := balanced_symbol (by decide : isSymbol "updateById" = true)
  parameters := List.forall_mem_cons.mpr
    ⟨plain.balanced_idParameter, List.forall_mem_singleton.mpr plain.balanced_dataParameter⟩
  returnType := plain.balanced_result balanced_nil
  body := by
    have data : Balanced (marksOf ", data") := balanced_nil
    have row := balanced_braced (balanced_append plain.balanced_filter data)
    exact List.forall_mem_singleton.mpr (plain.balanced_return rfl row)

theorem Plain.matched_deleteById : subject.deleteById.Matched where
  name := balanced_symbol (by decide : isSymbol "deleteById" = true)
  parameters := List.forall_mem_singleton.mpr plain.balanced_idParameter
  returnType := balanced_promise balanced_nil
  body := by
    have row := balanced_braced plain.balanced_filter
    exact List.forall_mem_singleton.mpr (plain.balanced_call rfl row)

theorem Plain.matched_getter {relation : Field} (named : isSymbol relation.name = true)
    (typed : isSymbol relation.typeName = true) : (subject.getter relation).Matched where
  name := balanced_symbol (isSymbol_getterName plain.handle named)
  parameters := List.forall_mem_singleton.mpr plain.balanced_idParameter
  returnType := by
    have many : Balanced (marksOf "[]") := balanced_nil.enclosed .square
    exact balanced_promise (balanced_append (balanced_symbol typed) many)
  body := by
    have name := balanced_symbol named
    have const : Balanced (marksOf "const data = ") := balanced_nil
    have select : Balanced (marksOf ", select: ") := balanced_nil
    have chosen : Balanced (marksOf ": true") := balanced_nil
    have back : Balanced (marksOf "return data?.") := balanced_nil
    have empty : Balanced (marksOf " ?? []") := balanced_nil.enclosed .square
    have selected := balanced_braced (balanced_append name chosen)
    have row := balanced_braced
      (balanced_append (balanced_append plain.balanced_filter select) selected)
    refine List.forall_mem_cons.mpr ⟨?_, List.forall_mem_singleton.mpr ?_⟩
    · exact balanced_append const (plain.balanced_call rfl row)
    · exact balanced_append (balanced_append back name) empty

end Methods

end Subject

namespace Repository

section Models

variable {model : Model} (symbols : Symbols model)
include symbols

theorem balanced_inputType : Balanced (marksOf (inputType model)) := by
  have name := balanced_symbol symbols.name
  have comma : Balanced (marksOf ", ") := balanced_nil
  have bar : Balanced (marksOf " | ") := balanced_nil
  have quoted : ∀ text ∈ model.defaulted.map (fun field => "'" ++ field.name ++ "'"),
      Balanced (marksOf text) := by
    intro text member
    obtain ⟨field, inside, rfl⟩ := List.mem_map.mp member
    have named := marksOf_symbol (symbols.fieldNames field (List.mem_of_mem_filter inside))
    rw [marksOf_append, marksOf_append, named]
    exact balanced_quoted .single
  unfold inputType
  split
  · exact name
  · have listed := balanced_intercalate bar quoted
    have inside := balanced_append (balanced_append name comma) listed
    simp only [marksOf_append] at inside ⊢
    exact inside.enclosed .angle

theorem matched_methods : ∀ method ∈ (ofModel model).methods, method.Matched := by
  have plain := plain_subject symbols
  apply forall_methods plain.matched_create plain.matched_getAll
  · exact fun _ => ⟨plain.matched_getById, plain.matched_updateById, plain.matched_deleteById⟩
  intro relation related
  have present := List.mem_of_mem_filter related
  exact plain.matched_getter (symbols.fieldNames relation present)
    (symbols.fieldTypes relation present)

theorem matched_sourceFile : (ofModel model).sourceFile.Matched := by
  have imported : ∀ name ∈ (ofModel model).imports, Balanced (marksOf name) :=
    fun name member => balanced_symbol (isSymbol_imports symbols name member)
  have client : Balanced (marksOf ("new " ++ clientType ++ "()")) := balanced_nil.enclosed .round
  have aliased := balanced_symbol (plain_subject symbols).aliasName
  have ending : Balanced (marksOf "Repository") := balanced_nil
  have named := balanced_append (balanced_symbol symbols.name) ending
  exact List.forall_mem_cons.mpr ⟨⟨rfl, imported⟩, List.forall_mem_cons.mpr
    ⟨⟨balanced_nil, client⟩, List.forall_mem_cons.mpr
      ⟨⟨aliased, balanced_inputType symbols⟩, List.forall_mem_singleton.mpr
        ⟨named, matched_methods symbols⟩⟩⟩⟩

end Models

end Repository

/-- What is written for a model whose names are symbols is nested. -/
theorem repository_nested {model : Model} (symbols : Symbols model) :
    (Repository.ofModel model).sourceFile.Nested :=
  (Repository.matched_sourceFile symbols).nested

theorem repository_nested_of_entry :
    let model : Model := { name := "$Entry_2", fields := [
      { name := "key", typeName := "Int", isId := true, hasDefaultValue := true },
      { name := "changed", typeName := "DateTime", isUpdatedAt := true },
      { name := "notes", typeName := "Note", relationName := some "EntryToNote" },
      { name := "Notes", typeName := "$Note", relationName := some "EntryToOldNote" }] }
    Symbols model ∧ (Repository.ofModel model).sourceFile.Nested ∧
      WellNested (marksOf (Repository.ofModel model).text) := by
  intro model
  have symbols : Symbols model := by decide +kernel
  have nested := repository_nested symbols
  exact ⟨symbols, nested, nested.whole⟩

end ModelRepositories
