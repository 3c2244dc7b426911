import ModelRepositories.Proofs.Repository.Nesting

/-!
The text of a repository tells the repository: files are told by their texts, and the file of a
model whose names are symbols is plain.
-/

namespace ModelRepositories

open Schema TypeScript

namespace Subject

section Methods

variable {subject : Subject} (plain : subject.Plain)
include plain

theorem Plain.idParameter : subject.idParameter.Plain where
  name := (by decide : isSymbol "id" = true)
  typeText := by
    have model := (symbolic_of_isSymbol plain.modelName).typed
    have name := (symbolic_of_isSymbol plain.idName).typed
    exact typed_append (typed_append (typed_append model (by decide)) name) (by decide)

theorem Plain.dataParameter : subject.dataParameter.Plain where
  name := (by decide : isSymbol "data" = true)
  typeText := (symbolic_of_isSymbol plain.aliasName).typed

theorem Plain.onId : ∀ parameter ∈ [subject.idParameter], parameter.Plain :=
  List.forall_mem_singleton.mpr plain.idParameter

theorem Plain.onData : ∀ parameter ∈ [subject.dataParameter], parameter.Plain :=
  List.forall_mem_singleton.mpr plain.dataParameter

theorem Plain.create : subject.create.Plain :=
  plain.matched_create.plain (by decide : isSymbol "create" = true) plain.onData

theorem Plain.getAll : subject.getAll.Plain :=
  plain.matched_getAll.plain (by decide : isSymbol "getAll" = true) nofun

theorem Plain.getById : subject.getById.Plain :=
  plain.matched_getById.plain (by decide : isSymbol "getById" = true) plain.onId

theorem Plain.updateById : subject.updateById.Plain :=
  plain.matched_updateById.plain (by decide : isSymbol "updateById" = true)
    (List.forall_mem_cons.mpr ⟨plain.idParameter, plain.onData⟩)

theorem Plain.deleteById : subject.deleteById.Plain :=
  plain.matched_deleteById.plain (by decide : isSymbol "deleteById" = true) plain.onId

theorem Plain.getter {relation : Field} (named : isSymbol relation.name = true)
    (typed : isSymbol relation.typeName = true) : (subject.getter relation).Plain :=
  (plain.matched_getter named typed).plain (isSymbol_getterName plain.handle named) plain.onId

end Methods

end Subject

namespace Repository

section Models

variable {model : Model} (symbols : Symbols model)
include symbols

theorem plain_methods : ∀ method ∈ (ofModel model).methods, method.Plain := by
  have plain := plain_subject symbols
  apply forall_methods plain.create plain.getAll
  · exact fun _ => ⟨plain.getById, plain.updateById, plain.deleteById⟩
  intro relation related
  have present := List.mem_of_mem_filter related
  exact plain.getter (symbols.fieldNames relation present) (symbols.fieldTypes relation present)

theorem plain_sourceFile : (ofModel model).sourceFile.Plain := by
  have aliased := (plain_subject symbols).aliasName
  refine List.forall_mem_cons.mpr ⟨⟨?_, isSymbol_imports symbols⟩, List.forall_mem_cons.mpr ⟨?_,
    List.forall_mem_cons.mpr ⟨⟨aliased, (balanced_inputType symbols).oneLine⟩,
      List.forall_mem_singleton.mpr ⟨?_, plain_methods symbols⟩⟩⟩⟩
  · decide
  · decide
  · exact isSymbol_append symbols.name (symbolic_of_isSymbol (by decide))

end Models

theorem eq_of_sourceFile {first second : Repository}
    (same : first.sourceFile = second.sourceFile) :
    first.modelName = second.modelName ∧ (first.handle = second.handle → first = second) := by
  have statements := congrArg SourceFile.statements same
  simp only [sourceFile, List.cons.injEq, Statement.importNames.injEq, Statement.typeAlias.injEq,
    Statement.classDeclaration.injEq, Class.mk.injEq] at statements
  obtain ⟨⟨-, imports⟩, -, ⟨aliasName, aliasType, -⟩, ⟨className, -, methods⟩, -⟩ := statements
  have modelName : first.modelName = second.modelName := (String.append_left_inj _).mp className
  refine ⟨modelName, fun handle => ?_⟩
  cases first
  cases second
  rw [mk.injEq]
  exact ⟨modelName, handle, aliasName, aliasType, imports, methods⟩

end Repository

/-- Plain files of the same text are the same file, and models with symbols for names whose
repositories read the same have the same repository. -/
theorem rendering_tells_file_and_repository :
    (∀ first second : SourceFile, first.Plain → second.Plain → first.render = second.render →
      first = second) ∧
    ∀ first second : Model, Symbols first → Symbols second →
      (Repository.ofModel first).text = (Repository.ofModel second).text →
        Repository.ofModel first = Repository.ofModel second := by
  constructor
  · intro first second left right same
    exact render_injective left right same
  · intro first second left right same
    obtain ⟨modelName, whole⟩ := Repository.eq_of_sourceFile <| render_injective
      (Repository.plain_sourceFile left) (Repository.plain_sourceFile right) same
    exact whole (congrArg Text.camelCase modelName)

theorem rendering_of_logs :
    let bare : Model := { name := "Log" }
    let noted : Model := { name := "Log", dbName := some "logs", fields := [
      { name := "note", typeName := "String" }] }
    let file : SourceFile := ⟨[
      .importNames "@prisma/client" ["PrismaClient", "Log"],
      .constant "prisma" "new PrismaClient()" false,
      .typeAlias "RequiredLogFields" "Log" true,
      .classDeclaration ⟨"LogRepository", true, [
        ⟨"create", true, [⟨"data", "RequiredLogFields"⟩], "Promise<Log>",
          ["return await prisma.log.create(\x7b data \x7d)"]⟩,
        ⟨"getAll", true, [], "Promise<Log[]>", ["return await prisma.log.findMany()"]⟩]⟩]⟩
    (file.Plain ∧ file.render = (Repository.ofModel bare).text ∧
      file = (Repository.ofModel bare).sourceFile) ∧
    (Symbols bare ∧ Symbols noted ∧ bare ≠ noted ∧
      (Repository.ofModel bare).text = (Repository.ofModel noted).text ∧
      Repository.ofModel bare = Repository.ofModel noted) := by
  intro bare noted file
  obtain ⟨files, models⟩ := rendering_tells_file_and_repository
  have plain : file.Plain := by decide +kernel
  have symbols : Symbols bare := by decide +kernel
  have others : Symbols noted := by decide +kernel
  have rendered : file.render = (Repository.ofModel bare).text := by decide +kernel
  have alike : (Repository.ofModel bare).text = (Repository.ofModel noted).text := by
    decide +kernel
  exact ⟨⟨plain, rendered, files _ _ plain (Repository.plain_sourceFile symbols) rendered⟩,
    symbols, others, by decide, alike, models _ _ symbols others alike⟩

end ModelRepositories
