import ModelRepositories.TypeScript.Printer
import ModelRepositories.Proofs.Text.Delimited
import ModelRepositories.Proofs.Text.Initial

/-!
Files whose names are symbols, whose lines are lines, and whose parameters have no types in which a
parameter could end. Every line of such a file is one line.
-/

namespace ModelRepositories.TypeScript

open Text

def isSymbolChar (c : Char) : Bool :=
  c.isAlphanum || c == '_' || c == '$'

/-- The empty text is symbolic, though it is no symbol. -/
def Symbolic (text : String) : Prop :=
  ∀ c ∈ text.toList, isSymbolChar c = true

def isSymbol (text : String) : Bool :=
  !text.toList.isEmpty && text.toList.all isSymbolChar

/-- What the type of a parameter is made of: neither what ends the line nor what ends the type. -/
def isTypeChar (c : Char) : Bool :=
  c != '\n' && c != ',' && c != ')'

def OneLine (text : String) : Prop :=
  '\n' ∉ text.toList

instance (text : String) : Decidable (OneLine text) :=
  inferInstanceAs (Decidable ('\n' ∉ text.toList))

structure Parameter.Plain (parameter : Parameter) : Prop where
  name : isSymbol parameter.name = true
  typeText : parameter.typeText.toList.all isTypeChar = true

instance (parameter : Parameter) : Decidable parameter.Plain :=
  decidable_of_iff
    (isSymbol parameter.name = true ∧ parameter.typeText.toList.all isTypeChar = true)
    ⟨fun both => ⟨both.1, both.2⟩, fun plain => ⟨plain.name, plain.typeText⟩⟩

structure Method.Plain (method : Method) : Prop where
  name : isSymbol method.name = true
  parameters : ∀ parameter ∈ method.parameters, parameter.Plain
  returnType : OneLine method.returnType
  body : ∀ line ∈ method.body, OneLine line

instance (method : Method) : Decidable method.Plain :=
  decidable_of_iff (isSymbol method.name = true ∧
      (∀ parameter ∈ method.parameters, parameter.Plain) ∧ OneLine method.returnType ∧
        ∀ line ∈ method.body, OneLine line)
    ⟨fun all => ⟨all.1, all.2.1, all.2.2.1, all.2.2.2⟩,
      fun plain => ⟨plain.name, plain.parameters, plain.returnType, plain.body⟩⟩

def Statement.Plain : Statement → Prop
  | .importNames source names => OneLine source ∧ ∀ name ∈ names, isSymbol name = true
  | .constant name initializer _ => isSymbol name = true ∧ OneLine initializer
  | .typeAlias name typeText _ => isSymbol name = true ∧ OneLine typeText
  | .classDeclaration declared =>
    isSymbol declared.name = true ∧ ∀ method ∈ declared.methods, method.Plain

instance : (statement : Statement) → Decidable statement.Plain
  | .importNames source names =>
    inferInstanceAs (Decidable (OneLine source ∧ ∀ name ∈ names, isSymbol name = true))
  | .constant name initializer _ =>
    inferInstanceAs (Decidable (isSymbol name = true ∧ OneLine initializer))
  | .typeAlias name typeText _ =>
    inferInstanceAs (Decidable (isSymbol name = true ∧ OneLine typeText))
  | .classDeclaration declared =>
    inferInstanceAs (Decidable (isSymbol declared.name = true ∧
      ∀ method ∈ declared.methods, method.Plain))

def SourceFile.Plain (file : SourceFile) : Prop :=
  ∀ statement ∈ file.statements, statement.Plain

instance (file : SourceFile) : Decidable file.Plain :=
  inferInstanceAs (Decidable (∀ statement ∈ file.statements, statement.Plain))

theorem ascii_of_isSymbolChar {c : Char} (member : isSymbolChar c = true) : c.toNat < 0x80 := by
  simp only [isSymbolChar, Char.isAlphanum, Bool.or_eq_true, beq_iff_eq] at member
  rcases member with ((letter | digit) | rfl) | rfl
  · exact ascii_of_isAlpha letter
  · have last : c.val ≤ '9'.val := of_decide_eq_true ((Bool.and_eq_true _ _).mp digit).2
    exact Nat.lt_of_le_of_lt (UInt32.le_iff_toNat_le.mp last) (by decide)
  · decide
  · decide

theorem Symbolic.append {first second : String} (left : Symbolic first) (right : Symbolic second) :
    Symbolic (first ++ second) := by
  rw [Symbolic, String.toList_append]
  exact List.forall_mem_append.mpr ⟨left, right⟩

theorem Symbolic.oneLine {text : String} (symbolic : Symbolic text) : OneLine text :=
  fun feed => absurd (symbolic _ feed) (by decide)

theorem Symbolic.typed {text : String} (symbolic : Symbolic text) :
    text.toList.all isTypeChar = true := by
  rw [List.all_eq_true]
  intro c member
  have differs {d : Char} (foreign : isSymbolChar d = false) : c ≠ d := by
    rintro rfl
    rw [symbolic c member] at foreign
    cases foreign
  simp only [isTypeChar, Bool.and_eq_true, bne_iff_ne]
  exact ⟨⟨differs (by decide), differs (by decide)⟩, differs (by decide)⟩

theorem typed_append {first second : String} (left : first.toList.all isTypeChar = true)
    (right : second.toList.all isTypeChar = true) :
    (first ++ second).toList.all isTypeChar = true := by
  rw [String.toList_append, List.all_append, left, right, Bool.and_self]

theorem symbolic_of_isSymbol {text : String} (symbol : isSymbol text = true) : Symbolic text :=
  List.all_eq_true.mp ((Bool.and_eq_true _ _).mp symbol).2

theorem exists_symbolChar {text : String} (symbol : isSymbol text = true) :
    ∃ c rest, text.toList = c :: rest ∧ isSymbolChar c = true := by
  cases chars : text.toList with
  | nil => simp [isSymbol, chars] at symbol
  | cons c rest => exact ⟨c, rest, rfl, symbolic_of_isSymbol symbol c (by simp [chars])⟩

theorem isSymbol_append {first second : String} (symbol : isSymbol first = true)
    (symbolic : Symbolic second) : isSymbol (first ++ second) = true := by
  obtain ⟨c, rest, chars, -⟩ := exists_symbolChar symbol
  have all : Symbolic (first ++ second) := (symbolic_of_isSymbol symbol).append symbolic
  rw [isSymbol, List.all_eq_true.mpr all, String.toList_append, chars]
  rfl

def Method.texts (method : Method) : List String :=
  method.name :: method.returnType ::
    (method.parameters.flatMap fun parameter => [parameter.name, parameter.typeText]) ++ method.body

def Statement.texts : Statement → List String
  | .importNames source names => source :: names
  | .constant name initializer _ => [name, initializer]
  | .typeAlias name typeText _ => [name, typeText]
  | .classDeclaration declared => declared.name :: declared.methods.flatMap (·.texts)

def SourceFile.texts (file : SourceFile) : List String :=
  file.statements.flatMap (·.texts)

theorem Method.forall_texts {method : Method} {P : String → Prop} :
    (∀ text ∈ method.texts, P text) ↔ P method.name ∧ P method.returnType ∧
      (∀ parameter ∈ method.parameters, P parameter.name ∧ P parameter.typeText) ∧
        ∀ line ∈ method.body, P line := by
  simp only [Method.texts, List.cons_append, List.forall_mem_cons, List.forall_mem_append,
    List.forall_mem_flatMap, List.not_mem_nil, false_implies, implies_true, and_true]

theorem oneLine_append {first second : String} :
    OneLine (first ++ second) ↔ OneLine first ∧ OneLine second := by
  simp only [OneLine, String.toList_append, List.mem_append, not_or]

theorem oneLine_symbol {name : String} (symbol : isSymbol name = true) : OneLine name :=
  (symbolic_of_isSymbol symbol).oneLine

theorem oneLine_intercalate {separator : String} {texts : List String} (between : OneLine separator)
    (oneLine : ∀ text ∈ texts, OneLine text) : OneLine (separator.intercalate texts) := by
  intro feed
  rw [String.toList_intercalate, intercalate_map] at feed
  rcases mem_joined feed with separated | ⟨text, member, inside⟩
  · exact between separated
  · exact oneLine text member inside

theorem oneLine_exportWord (exported : Bool) : OneLine (exportWord exported) := by
  cases exported <;> decide

theorem oneLine_asyncWord (isAsync : Bool) : OneLine (asyncWord isAsync) := by
  cases isAsync <;> decide

theorem oneLine_assignment {word name text : String} (exported : Bool) (worded : OneLine word)
    (named : OneLine name) (written : OneLine text) :
    OneLine (exportWord exported ++ word ++ name ++ " = " ++ text ++ ";") := by
  simp only [oneLine_append, and_assoc]
  exact ⟨oneLine_exportWord _, worded, named, by decide, written, by decide⟩

theorem Method.oneLine_lines {method : Method} (oneLine : ∀ text ∈ method.texts, OneLine text) :
    ∀ line ∈ method.lines, OneLine line := by
  obtain ⟨name, returnType, parameters, body⟩ := Method.forall_texts.mp oneLine
  have listed : OneLine (", ".intercalate (method.parameters.map (·.text))) := by
    apply oneLine_intercalate (by decide)
    rw [List.forall_mem_map]
    intro parameter member
    obtain ⟨named, typed⟩ := parameters parameter member
    simp only [Parameter.text, oneLine_append]
    exact ⟨⟨named, by decide⟩, typed⟩
  intro line member
  rcases List.mem_cons.mp member with rfl | member
  · simp only [Method.header, oneLine_append, and_assoc]
    exact ⟨by decide, oneLine_asyncWord _, name, by decide, listed, by decide, returnType,
      by decide⟩
  · rcases List.mem_append.mp member with inside | last
    · obtain ⟨written, present, rfl⟩ := List.mem_map.mp inside
      exact oneLine_append.mpr ⟨by decide, body written present⟩
    · rw [List.mem_singleton.mp last]
      decide

theorem oneLine_spaced {ι : Type} {blocks : List ι} {write : ι → List String}
    (oneLine : ∀ block ∈ blocks, ∀ line ∈ write block, OneLine line) :
    ∀ line ∈ spaced (blocks.map write), OneLine line := by
  intro line member
  rw [spaced, intercalate_map] at member
  rcases mem_joined member with between | ⟨block, present, written⟩
  · rw [List.mem_singleton.mp between]
    decide
  · exact oneLine block present line written

theorem Statement.oneLine_lines {statement : Statement}
    (oneLine : ∀ text ∈ statement.texts, OneLine text) :
    ∀ line ∈ statement.lines, OneLine line := by
  cases statement with
  | importNames source names =>
    obtain ⟨sourced, named⟩ := List.forall_mem_cons.mp oneLine
    simp only [Statement.lines, List.forall_mem_singleton, oneLine_append, and_assoc]
    exact ⟨by decide, oneLine_intercalate (by decide) named, by decide, sourced, by decide⟩
  | constant name initializer exported =>
    obtain ⟨named, initial⟩ := List.forall_mem_cons.mp oneLine
    exact List.forall_mem_singleton.mpr
      (oneLine_assignment exported (by decide) named (List.forall_mem_singleton.mp initial))
  | typeAlias name typeText exported =>
    obtain ⟨named, typed⟩ := List.forall_mem_cons.mp oneLine
    exact List.forall_mem_singleton.mpr
      (oneLine_assignment exported (by decide) named (List.forall_mem_singleton.mp typed))
  | classDeclaration declared =>
    obtain ⟨named, methods⟩ := List.forall_mem_cons.mp oneLine
    rw [List.forall_mem_flatMap] at methods
    rw [Statement.lines, Class.lines, List.cons_append, List.forall_mem_cons,
      List.forall_mem_append, List.forall_mem_singleton]
    refine ⟨?_, oneLine_spaced fun method member => Method.oneLine_lines (methods method member),
      by decide⟩
    simp only [oneLine_append, and_assoc]
    exact ⟨oneLine_exportWord _, by decide, named, by decide⟩

theorem SourceFile.oneLine_lines {file : SourceFile} (oneLine : ∀ text ∈ file.texts, OneLine text) :
    ∀ line ∈ file.lines, OneLine line := by
  simp only [SourceFile.texts, List.forall_mem_flatMap] at oneLine
  exact oneLine_spaced fun statement member => Statement.oneLine_lines (oneLine statement member)

theorem oneLine_typed {text : String} (typed : text.toList.all isTypeChar = true) : OneLine text :=
  fun feed => absurd (List.all_eq_true.mp typed _ feed) (by decide)

theorem Method.Plain.texts {method : Method} (plain : method.Plain) :
    ∀ text ∈ method.texts, OneLine text := by
  rw [Method.forall_texts]
  refine ⟨oneLine_symbol plain.name, plain.returnType, ?_, plain.body⟩
  intro parameter member
  obtain ⟨named, typed⟩ := plain.parameters parameter member
  exact ⟨oneLine_symbol named, oneLine_typed typed⟩

theorem Statement.Plain.texts {statement : Statement} (plain : statement.Plain) :
    ∀ text ∈ statement.texts, OneLine text := by
  cases statement with
  | importNames source names =>
    exact List.forall_mem_cons.mpr
      ⟨plain.1, fun name member => oneLine_symbol (plain.2 name member)⟩
  | constant name initializer exported =>
    exact List.forall_mem_cons.mpr ⟨oneLine_symbol plain.1, List.forall_mem_singleton.mpr plain.2⟩
  | typeAlias name typeText exported =>
    exact List.forall_mem_cons.mpr ⟨oneLine_symbol plain.1, List.forall_mem_singleton.mpr plain.2⟩
  | classDeclaration declared =>
    rw [Statement.texts, List.forall_mem_cons, List.forall_mem_flatMap]
    exact ⟨oneLine_symbol plain.1, fun method member => (plain.2 method member).texts⟩

theorem SourceFile.Plain.oneLine {file : SourceFile} (plain : file.Plain) :
    ∀ line ∈ file.lines, OneLine line := by
  apply SourceFile.oneLine_lines
  exact List.forall_mem_flatMap.mpr fun statement member => (plain statement member).texts

end ModelRepositories.TypeScript
