import ModelRepositories.Proofs.TypeScript.Rendering

/-!
The layout of a printed file. Its text is its lines, each ended by a line feed; an empty line stands
between each two statements and between each two methods of a class, and nowhere else.
-/

namespace ModelRepositories.TypeScript

open Text

def Class.header (declared : Class) : String :=
  exportWord declared.exported ++ "class " ++ declared.name ++ " \x7b"

theorem Class.lines_eq (declared : Class) :
    declared.lines = declared.header :: (spaced (declared.methods.map (·.lines)) ++ ["\x7d"]) :=
  rfl

theorem empty_not_mem_method (method : Method) : "" ∉ method.lines := by
  simp [Method.lines, Method.header, indentation]

/-- An empty line of a file, by what stands above it and below it: statements on both sides, or
methods of a class and the statements around it. -/
inductive SourceFile.Seam (file : SourceFile) : List String → List String → Prop
  | statements {before after : List Statement} (parts : file.statements = before ++ after)
    (preceded : before ≠ []) (followed : after ≠ []) :
    Seam file (spaced (before.map (·.lines))) (spaced (after.map (·.lines)))
  | methods {before after : List Statement} {declared : Class} {former later : List Method}
    (parts : file.statements = before ++ .classDeclaration declared :: after)
    (methods : declared.methods = former ++ later)
    (preceded : former ≠ []) (followed : later ≠ []) :
    Seam file
      (leading (before.map (·.lines)) ++ declared.header :: spaced (former.map (·.lines)))
      (spaced (later.map (·.lines)) ++ "\x7d" :: trailing (after.map (·.lines)))

theorem methods_eq_iff {methods : List Method} {above below : List String} :
    spaced (methods.map (·.lines)) = above ++ "" :: below ↔
      ∃ former later, methods = former ++ later ∧ former ≠ [] ∧ later ≠ [] ∧
        above = spaced (former.map (·.lines)) ∧ below = spaced (later.map (·.lines)) := by
  constructor
  · intro cut
    generalize written : methods.map (·.lines) = blocks at cut
    cases seam_of_spaced cut with
    | between preceded followed =>
      obtain ⟨former, later, rfl, rfl, rfl⟩ := List.map_eq_append_iff.mp written
      exact ⟨former, later, rfl, by simpa using preceded, by simpa using followed, rfl, rfl⟩
    | within before after upper lower =>
      have inside : upper ++ "" :: lower ∈ methods.map (·.lines) := by simp [written]
      obtain ⟨method, -, lines⟩ := List.mem_map.mp inside
      exact absurd (by simp [lines]) (empty_not_mem_method method)
  · rintro ⟨former, later, rfl, preceded, followed, rfl, rfl⟩
    rw [List.map_append]
    exact spaced_append (by simpa using preceded) (by simpa using followed)

theorem framed_eq {first last : String} {inner above below : List String} (opens : first ≠ "")
    (closes : last ≠ "") (cut : first :: (inner ++ [last]) = above ++ "" :: below) :
    ∃ upper lower, inner = upper ++ "" :: lower ∧ above = first :: upper ∧
      below = lower ++ [last] := by
  cases above with
  | nil => exact absurd (List.cons.inj cut).1 opens
  | cons line upper =>
    obtain ⟨rfl, behind⟩ := List.cons.inj cut
    rcases List.append_eq_append_iff.mp behind with ⟨rest, -, tail⟩ | ⟨lower, inside, tail⟩
    · cases rest with
      | nil => exact absurd (List.cons.inj tail).1 closes
      | cons other rest => simp at tail
    · cases lower with
      | nil => exact absurd (List.cons.inj tail).1.symm closes
      | cons line lower =>
        obtain ⟨rfl, rfl⟩ := List.cons.inj tail
        exact ⟨upper, lower, inside, rfl, rfl⟩

theorem Class.lines_eq_iff {declared : Class} {above below : List String} :
    declared.lines = above ++ "" :: below ↔
      ∃ former later, declared.methods = former ++ later ∧ former ≠ [] ∧ later ≠ [] ∧
        above = declared.header :: spaced (former.map (·.lines)) ∧
        below = spaced (later.map (·.lines)) ++ ["\x7d"] := by
  constructor
  · intro cut
    have opens : declared.header ≠ "" := by simp [Class.header]
    obtain ⟨upper, lower, inside, rfl, rfl⟩ := framed_eq opens (by decide) cut
    obtain ⟨former, later, methods, preceded, followed, rfl, rfl⟩ := methods_eq_iff.mp inside
    exact ⟨former, later, methods, preceded, followed, rfl, rfl⟩
  · rintro ⟨former, later, methods, preceded, followed, rfl, rfl⟩
    have inner := methods_eq_iff.mpr ⟨former, later, methods, preceded, followed, rfl, rfl⟩
    rw [Class.lines_eq, inner]
    simp

/-- Of all statements only a class takes more than one line. -/
theorem Statement.class_of_empty {statement : Statement} {above below : List String}
    (cut : statement.lines = above ++ "" :: below) :
    ∃ declared, statement = .classDeclaration declared := by
  have single {line : String} (written : line ≠ "") : [line] ≠ above ++ "" :: below := by
    intro same
    have member : "" ∈ [line] := by simp [same]
    exact written (List.mem_singleton.mp member).symm
  cases statement with
  | importNames source names => exact absurd cut (single (by simp))
  | constant name initializer exported => exact absurd cut (single (by simp))
  | typeAlias name typeText exported => exact absurd cut (single (by simp))
  | classDeclaration declared => exact ⟨declared, rfl⟩

theorem SourceFile.lines_eq_iff {file : SourceFile} {above below : List String} :
    file.lines = above ++ "" :: below ↔ file.Seam above below := by
  constructor
  · intro cut
    generalize written : file.statements.map (·.lines) = blocks at cut
    rw [SourceFile.lines, written] at cut
    cases seam_of_spaced cut with
    | between preceded followed =>
      obtain ⟨before, after, parts, rfl, rfl⟩ := List.map_eq_append_iff.mp written
      exact .statements parts (by simpa using preceded) (by simpa using followed)
    | within front back upper lower =>
      obtain ⟨before, rest, parts, rfl, behind⟩ := List.map_eq_append_iff.mp written
      obtain ⟨statement, after, rfl, lines, rfl⟩ := List.map_eq_cons_iff.mp behind
      obtain ⟨declared, rfl⟩ := Statement.class_of_empty lines
      obtain ⟨former, later, methods, preceded, followed, rfl, rfl⟩ := Class.lines_eq_iff.mp lines
      rw [List.append_assoc]
      exact .methods parts methods preceded followed
  · intro seam
    cases seam with
    | statements parts preceded followed =>
      rw [SourceFile.lines, parts, List.map_append]
      exact spaced_append (by simpa using preceded) (by simpa using followed)
    | @methods before after declared former later parts methods preceded followed =>
      have inner := Class.lines_eq_iff.mpr ⟨former, later, methods, preceded, followed, rfl, rfl⟩
      have class_ : (Statement.classDeclaration declared).lines = declared.lines := rfl
      rw [SourceFile.lines, parts, List.map_append, List.map_cons, spaced_at, class_, inner]
      simp

theorem exists_first_line {ι : Type} {write : ι → List String} {members : List ι}
    (nonempty : members ≠ []) (begins : ∀ i, ∃ line rest, write i = line :: rest ∧ line ≠ "") :
    ∃ line rest, spaced (members.map write) = line :: rest ∧ line ≠ "" := by
  cases members with
  | nil => exact absurd rfl nonempty
  | cons i later =>
    obtain ⟨line, rest, written, full⟩ := begins i
    rw [List.map_cons, spaced_cons, written]
    exact ⟨line, _, rfl, full⟩

theorem Method.first_line (method : Method) :
    ∃ line rest, method.lines = line :: rest ∧ line ≠ "" :=
  ⟨_, _, rfl, by simp [indentation]⟩

theorem Statement.first_line (statement : Statement) :
    ∃ line rest, statement.lines = line :: rest ∧ line ≠ "" := by
  rw [statement.lines_eq]
  exact ⟨_, _, rfl, by simp⟩

theorem SourceFile.Seam.sides {file : SourceFile} {above below : List String}
    (seam : file.Seam above below) :
    above ≠ [] ∧ ∃ line rest, below = line :: rest ∧ line ≠ "" := by
  cases seam with
  | statements parts preceded followed =>
    obtain ⟨line, rest, written, -⟩ := exists_first_line preceded Statement.first_line
    exact ⟨by simp [written], exists_first_line followed Statement.first_line⟩
  | methods parts methods preceded followed =>
    obtain ⟨line, rest, written, full⟩ := exists_first_line followed Method.first_line
    rw [written]
    exact ⟨by simp, line, _, rfl, full⟩

/-- How many empty lines a statement has. -/
def Statement.gaps : Statement → Nat
  | .classDeclaration declared => declared.methods.length - 1
  | _ => 0

theorem Statement.count_empty (statement : Statement) :
    statement.lines.count "" = statement.gaps := by
  have single {line : String} (written : line ≠ "") : [line].count "" = 0 :=
    List.count_eq_zero_of_not_mem fun member => written (List.mem_singleton.mp member).symm
  cases statement with
  | importNames source names => exact single (by simp)
  | constant name initializer exported => exact single (by simp)
  | typeAlias name typeText exported => exact single (by simp)
  | classDeclaration declared =>
    have unbroken (method : Method) : method.lines.count "" = 0 :=
      List.count_eq_zero_of_not_mem (empty_not_mem_method method)
    have opens : declared.header ≠ "" := by simp [Class.header]
    rw [Statement.lines, Class.lines_eq, List.count_cons_of_ne opens, List.count_append,
      single (by decide), count_spaced, List.map_map]
    simp [Function.comp_def, unbroken, Statement.gaps, List.map_const']

theorem SourceFile.count_empty (file : SourceFile) :
    file.lines.count "" = (file.statements.length - 1) + (file.statements.map (·.gaps)).sum := by
  rw [SourceFile.lines, count_spaced, List.length_map, List.map_map]
  simp only [Function.comp_def, Statement.count_empty]

/-- How the text of a file is laid out: one line feed at its end, no empty line at its beginning, no
two in a row, and one at each seam of the file and nowhere else. -/
structure SourceFile.LaidOut (file : SourceFile) : Prop where
  ended : ∃ front c, file.render.toList = front ++ [c, '\n'] ∧ c ≠ '\n'
  begun : ∃ line rest, linesOf file.render = line :: rest ∧ line ≠ ""
  single : ∀ above below, linesOf file.render ≠ above ++ "" :: "" :: below
  seams : ∀ above below, linesOf file.render = above ++ "" :: below ↔ file.Seam above below
  number : (linesOf file.render).count "" =
    (file.statements.length - 1) + (file.statements.map (·.gaps)).sum

theorem last_char {line : String} (whole : OneLine line) (written : line ≠ "")
    (front : List String) :
    ∃ chars c, (textOf (front ++ [line])).toList = chars ++ [c, '\n'] ∧ c ≠ '\n' := by
  have chars : line.toList ≠ [] := by simpa using written
  obtain ⟨before, c, written⟩ : ∃ before c, line.toList = before ++ [c] :=
    ⟨_, _, (List.dropLast_concat_getLast chars).symm⟩
  refine ⟨(textOf front).toList ++ before, c, ?_, ?_⟩
  · have ended : textOf [line] = line ++ "\n" := by simp [textOf]
    rw [textOf_append, ended, String.toList_append, String.toList_append, written]
    simp
  · rintro rfl
    exact whole (by simp [written])

/-- The text of a file that is made of texts without line feeds is laid out so. -/
theorem render_laid_out (file : SourceFile) (nonempty : file.statements ≠ [])
    (oneLine : ∀ text ∈ file.texts, OneLine text) : file.LaidOut := by
  have whole := SourceFile.oneLine_lines oneLine
  have lines : linesOf file.render = file.lines := linesOf_textOf whole
  have begun : ∃ line rest, file.lines = line :: rest ∧ line ≠ "" :=
    exists_first_line nonempty Statement.first_line
  rw [← lines] at begun
  have seams (above below : List String) :
      linesOf file.render = above ++ "" :: below ↔ file.Seam above below := by
    rw [lines]
    exact SourceFile.lines_eq_iff
  refine ⟨?_, begun, ?_, seams, ?_⟩
  · obtain ⟨front, last, parted⟩ : ∃ front last, file.lines = front ++ [last] := by
      obtain ⟨line, rest, written, -⟩ := begun
      rw [lines] at written
      exact ⟨_, _, (List.dropLast_concat_getLast (by simp [written])).symm⟩
    have full : last ≠ "" := by
      rintro rfl
      obtain ⟨-, line, rest, below, -⟩ := ((seams front []).mp (by rw [lines, parted])).sides
      cases below
    rw [render_eq, parted]
    exact last_char (whole last (by simp [parted])) full front
  · intro above below cut
    obtain ⟨-, line, rest, next, full⟩ := ((seams above _).mp cut).sides
    exact full (List.cons.inj next).1.symm
  · rw [lines]
    exact file.count_empty

theorem render_laid_out_sparsely :
    let file : SourceFile := ⟨[
      .importNames "" [],
      .classDeclaration ⟨"Empty", false, []⟩,
      .classDeclaration ⟨"", true, [
        ⟨"", false, [], "", []⟩, ⟨"b", true, [⟨"", " "⟩], "", ["", "   "]⟩]⟩]⟩
    file.statements ≠ [] ∧ (∀ text ∈ file.texts, OneLine text) ∧ file.LaidOut ∧
      (linesOf file.render).count "" = 3 := by
  intro file
  have nonempty : file.statements ≠ [] := by simp [file]
  have oneLine : ∀ text ∈ file.texts, OneLine text := by decide
  have laidOut := render_laid_out file nonempty oneLine
  exact ⟨nonempty, oneLine, laidOut, laidOut.number⟩

end ModelRepositories.TypeScript
