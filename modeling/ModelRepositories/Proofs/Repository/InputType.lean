import ModelRepositories.Proofs.Repository.FieldReferences
import ModelRepositories.Proofs.TypeScript.Plain
import ModelRepositories.Text.Split

/-!
The type that `create` takes, read back. What it leaves out stands in it in single quotes, so the
type tells which fields the database fills in: their names, in the order of the fields and once for
each of them.
-/

namespace ModelRepositories

open Schema TypeScript

namespace Text

def enclosedStretches {α : Type} : List α → List α
  | _ :: inside :: next :: later => inside :: enclosedStretches (next :: later)
  | _ => []

/-- A quote that is not closed encloses nothing. -/
def quotedStretches (text : List Char) : List (List Char) :=
  enclosedStretches (splitWhere (· == '\x27') text)

def quotedTexts (text : String) : List String :=
  (quotedStretches text.toList).map String.ofList

def Unquoted (text : List Char) : Prop :=
  '\x27' ∉ text

instance (text : List Char) : Decidable (Unquoted text) :=
  inferInstanceAs (Decidable ('\x27' ∉ text))

def inQuotes (text : List Char) : List Char :=
  '\x27' :: (text ++ ['\x27'])

theorem Unquoted.append {front rest : List Char} (left : Unquoted front) (right : Unquoted rest) :
    Unquoted (front ++ rest) := by
  rw [Unquoted, List.mem_append, not_or]
  exact ⟨left, right⟩

theorem quotedStretches_unquoted {text : List Char} (unquoted : Unquoted text) :
    quotedStretches text = [] := by
  rw [quotedStretches, splitWhere_of_free unquoted]
  rfl

theorem quotedStretches_inQuotes {front text : List Char} (before : Unquoted front)
    (unquoted : Unquoted text) (rest : List Char) :
    quotedStretches (front ++ (inQuotes text ++ rest)) = text :: quotedStretches rest := by
  obtain ⟨next, later, cut⟩ :=
    List.exists_cons_of_ne_nil (splitWhere_ne_nil (· == '\x27') rest)
  have whole : splitWhere (· == '\x27') (front ++ (inQuotes text ++ rest)) =
      front :: text :: next :: later := by
    rw [inQuotes, List.cons_append, List.append_assoc, List.singleton_append,
      splitWhere_append_cons _ rfl, splitWhere_append_cons _ rfl, splitWhere_of_free before,
      splitWhere_of_free unquoted, cut]
    rfl
  rw [quotedStretches, whole, quotedStretches, cut]
  rfl

example : quotedTexts "'a' | b'' 'c" = ["a", ""] := by decide

section Joined

variable {separator rest : List Char} (between : Unquoted separator) (ends : Unquoted rest)
include between ends

theorem quotedStretches_chained {texts : List (List Char)}
    (allUnquoted : ∀ text ∈ texts, Unquoted text) :
    quotedStretches (chained separator inQuotes texts ++ rest) = texts := by
  induction texts with
  | nil => exact quotedStretches_unquoted ends
  | cons text later ih =>
    obtain ⟨unquoted, others⟩ := List.forall_mem_cons.mp allUnquoted
    rw [chained, List.append_assoc, List.append_assoc, quotedStretches_inQuotes between unquoted,
      ih others]

theorem quotedStretches_joined {front : List Char} (before : Unquoted front)
    {texts : List (List Char)} (allUnquoted : ∀ text ∈ texts, Unquoted text) :
    quotedStretches (front ++ (joined separator inQuotes texts ++ rest)) = texts := by
  cases texts with
  | nil => exact quotedStretches_unquoted (before.append ends)
  | cons text later =>
    obtain ⟨unquoted, others⟩ := List.forall_mem_cons.mp allUnquoted
    rw [joined, List.append_assoc, quotedStretches_inQuotes before unquoted,
      quotedStretches_chained between ends others]

end Joined

end Text

namespace Schema

/-- The names of a model and of its fields are symbols, whatever the types of the fields are. -/
structure Model.SymbolNames (model : Model) : Prop where
  name : isSymbol model.name = true
  fieldNames : ∀ field ∈ model.fields, isSymbol field.name = true

instance (model : Model) : Decidable model.SymbolNames :=
  decidable_of_iff
    (isSymbol model.name = true ∧ ∀ field ∈ model.fields, isSymbol field.name = true)
    ⟨fun both => ⟨both.1, both.2⟩, fun symbols => ⟨symbols.name, symbols.fieldNames⟩⟩

/-- The names of the fields that the database fills in, by a default or by an update stamp: each
field in its turn, and once also if it has both. -/
inductive FilledIn : List Field → List String → Prop
  | nil : FilledIn [] []
  | given {field : Field} {rest : List Field} {names : List String}
    (plain : field.hasDefaultValue = false ∧ field.isUpdatedAt = false)
    (later : FilledIn rest names) : FilledIn (field :: rest) names
  | filled {field : Field} {rest : List Field} {names : List String}
    (flagged : field.hasDefaultValue = true ∨ field.isUpdatedAt = true)
    (later : FilledIn rest names) : FilledIn (field :: rest) (field.name :: names)

theorem isDefaulted_iff {field : Field} :
    field.isDefaulted = true ↔ field.hasDefaultValue = true ∨ field.isUpdatedAt = true :=
  Bool.or_eq_true_iff

theorem not_isDefaulted_iff {field : Field} :
    field.isDefaulted = false ↔ field.hasDefaultValue = false ∧ field.isUpdatedAt = false :=
  Bool.or_eq_false_iff

theorem filledIn_iff {fields : List Field} {names : List String} :
    FilledIn fields names ↔ names = (fields.filter (·.isDefaulted)).map (·.name) := by
  constructor
  · intro filledIn
    induction filledIn with
    | nil => rfl
    | given plain later ih =>
      rw [ih, List.filter_cons_of_neg (by simp [not_isDefaulted_iff.mpr plain])]
    | filled flagged later ih =>
      rw [ih, List.filter_cons_of_pos (isDefaulted_iff.mpr flagged), List.map_cons]
  · rintro rfl
    induction fields with
    | nil => exact .nil
    | cons field rest ih =>
      cases flag : field.isDefaulted with
      | false =>
        rw [List.filter_cons_of_neg (by simp [flag])]
        exact .given (not_isDefaulted_iff.mp flag) ih
      | true =>
        rw [List.filter_cons_of_pos flag]
        exact .filled (isDefaulted_iff.mp flag) ih

instance (fields : List Field) (names : List String) : Decidable (FilledIn fields names) :=
  decidable_of_iff _ filledIn_iff.symm

theorem Model.SymbolNames.defaulted {model : Model} (symbols : model.SymbolNames) :
    ∀ name ∈ model.defaulted.map (·.name), isSymbol name = true := by
  rw [List.forall_mem_map]
  exact fun field member => symbols.fieldNames field (List.mem_of_mem_filter member)

theorem Model.defaulted_eq_nil_iff {model : Model} : model.defaulted = [] ↔
    ∀ field ∈ model.fields, field.hasDefaultValue = false ∧ field.isUpdatedAt = false := by
  simp only [Model.defaulted, List.filter_eq_nil_iff, Bool.not_eq_true, not_isDefaulted_iff]

end Schema

namespace Repository

open Text

def omitting (typeText : String) (names : List String) : String :=
  if names = [] then typeText
  else "Omit<" ++ typeText ++ ", " ++
    " | ".intercalate (names.map fun name => "'" ++ name ++ "'") ++ ">"

theorem inputType_eq_omitting (model : Model) :
    inputType model = omitting model.name (model.defaulted.map (·.name)) :=
  inputType_eq model

theorem omitting_eq_self_iff {typeText : String} {names : List String} :
    omitting typeText names = typeText ↔ names = [] := by
  constructor
  · intro same
    by_contra nonempty
    rw [omitting, if_neg nonempty] at same
    have lengths := congrArg String.length same
    simp only [String.length_append] at lengths
    have longer : "Omit<".length = 5 := by decide
    omega
  · rintro rfl
    rfl

theorem toList_omitting {typeText : String} {names : List String} (nonempty : names ≠ []) :
    (omitting typeText names).toList = ("Omit<" ++ typeText ++ ", ").toList ++
      (joined " | ".toList inQuotes (names.map String.toList) ++ ['>']) := by
  rw [omitting, if_neg nonempty, String.toList_append, String.toList_append,
    String.toList_intercalate, ← intercalate_map, List.map_map, List.map_map, List.append_assoc]
  simp [inQuotes, Function.comp_def]

theorem unquoted_symbol {name : String} (symbol : isSymbol name = true) : Unquoted name.toList :=
  fun quote => absurd (symbolic_of_isSymbol symbol _ quote) (by decide)

section Names

variable {name other : String} {names others : List String}
  (symbol : isSymbol name = true) (symbols : ∀ member ∈ names, isSymbol member = true)
include symbol symbols

theorem quotedTexts_omitting : quotedTexts (omitting name names) = names := by
  have allUnquoted : ∀ text ∈ names.map String.toList, Unquoted text :=
    List.forall_mem_map.mpr fun member inside => unquoted_symbol (symbols member inside)
  have read : quotedStretches (omitting name names).toList = names.map String.toList := by
    by_cases unnamed : names = []
    · subst unnamed
      exact quotedStretches_unquoted (unquoted_symbol symbol)
    · have before : Unquoted ("Omit<" ++ name ++ ", ").toList := by
        have opening : Unquoted "Omit<".toList := by decide
        have comma : Unquoted ", ".toList := by decide
        rw [String.toList_append, String.toList_append]
        exact (opening.append (unquoted_symbol symbol)).append comma
      rw [toList_omitting unnamed]
      exact quotedStretches_joined (by decide) (by decide) before allUnquoted
  rw [quotedTexts, read, List.map_map]
  simp [Function.comp_def]

theorem omitting_inj (otherSymbol : isSymbol other = true)
    (otherSymbols : ∀ member ∈ others, isSymbol member = true) :
    omitting name names = omitting other others ↔ name = other ∧ names = others := by
  constructor
  · intro same
    have listed : names = others := by
      rw [← quotedTexts_omitting symbol symbols, same,
        quotedTexts_omitting otherSymbol otherSymbols]
    subst listed
    refine ⟨?_, rfl⟩
    -- What is left out is the same, so the texts can differ in the type alone.
    by_cases unnamed : names = []
    · subst unnamed
      exact same
    · simpa [omitting, unnamed] using same
  · rintro ⟨rfl, rfl⟩
    rfl

end Names

/-- The type that `create` takes is the model itself just where the database fills in no field. It
quotes the names of the fields that are filled in, and so two of these types are the same just where
the models have one name and those fields have the same names in the same order. -/
theorem inputType_tells_filled :
    (∀ model : Model, model.SymbolNames →
      (inputType model = model.name ↔
        ∀ field ∈ model.fields, field.hasDefaultValue = false ∧ field.isUpdatedAt = false) ∧
      FilledIn model.fields (quotedTexts (inputType model))) ∧
    ∀ first second : Model, first.SymbolNames → second.SymbolNames →
      ∀ names others, FilledIn first.fields names → FilledIn second.fields others →
        (inputType first = inputType second ↔ first.name = second.name ∧ names = others) := by
  constructor
  · intro model symbols
    rw [inputType_eq_omitting, quotedTexts_omitting symbols.name symbols.defaulted,
      omitting_eq_self_iff, List.map_eq_nil_iff]
    exact ⟨Model.defaulted_eq_nil_iff, filledIn_iff.mpr rfl⟩
  · intro first second left right names others filled otherFilled
    rw [filledIn_iff.mp filled, filledIn_iff.mp otherFilled, inputType_eq_omitting,
      inputType_eq_omitting]
    exact omitting_inj left.name left.defaulted right.name right.defaulted

theorem inputType_tells_filled_of_omit :
    let id : Field := { name := "$id", typeName := "Int", isId := true, hasDefaultValue := true }
    let label : Field := { name := "label", typeName := "it's" }
    let both : Field := { name := "at", hasDefaultValue := true, isUpdatedAt := true }
    let stamp : Field := { name := "$id", isUpdatedAt := true }
    let first : Model := { name := "Omit", fields := [id, both, stamp] }
    let second : Model := { name := "Omit", fields := [stamp, label, both, id] }
    let turned : Model := { name := "Omit", fields := [both, id, stamp] }
    let bare : Model := { name := "Omit", fields := [label] }
    first.SymbolNames ∧ second.SymbolNames ∧ turned.SymbolNames ∧ bare.SymbolNames ∧
      inputType first = "Omit<Omit, '$id' | 'at' | '$id'>" ∧
      FilledIn first.fields (quotedTexts (inputType first)) ∧ inputType first ≠ first.name ∧
      inputType first = inputType second ∧ inputType first ≠ inputType turned ∧
      inputType bare = bare.name := by
  intro id label both stamp first second turned bare
  obtain ⟨tells, two⟩ := inputType_tells_filled
  have firstSymbols : first.SymbolNames := by decide +kernel
  have secondSymbols : second.SymbolNames := by decide +kernel
  have turnedSymbols : turned.SymbolNames := by decide +kernel
  have bareSymbols : bare.SymbolNames := by decide +kernel
  have firstFilled : FilledIn first.fields ["$id", "at", "$id"] := by decide +kernel
  have secondFilled : FilledIn second.fields ["$id", "at", "$id"] := by decide +kernel
  have turnedFilled : FilledIn turned.fields ["at", "$id", "$id"] := by decide +kernel
  have changed : inputType first ≠ first.name := by
    intro same
    have plain := (tells first firstSymbols).1.mp same id List.mem_cons_self
    exact absurd plain.1 (by decide)
  have alike : inputType first = inputType second :=
    (two _ _ firstSymbols secondSymbols _ _ firstFilled secondFilled).mpr ⟨rfl, rfl⟩
  have apart : inputType first ≠ inputType turned := by
    intro same
    have names := (two _ _ firstSymbols turnedSymbols _ _ firstFilled turnedFilled).mp same
    exact absurd names.2 (by decide)
  have whole : inputType bare = bare.name :=
    (tells bare bareSymbols).1.mpr (List.forall_mem_singleton.mpr ⟨rfl, rfl⟩)
  exact ⟨firstSymbols, secondSymbols, turnedSymbols, bareSymbols, by decide +kernel,
    (tells first firstSymbols).2, changed, alike, apart, whole⟩

end Repository

end ModelRepositories
