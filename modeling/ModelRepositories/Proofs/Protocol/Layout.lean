import Mathlib.Logic.Relation
import ModelRepositories.Proofs.Protocol.Answers

/-!
How a stream is laid out in lines. A service depends on the lines that are not blank and on nothing
else: neither on how a line ends, nor on blank lines, nor on whether the last line ends at all.
-/

namespace ModelRepositories.Protocol

/-- Some layout of a stream is changed at one place. -/
inductive Edit : Bytes → Bytes → Prop
  | returned (front rest : Bytes) (plain : front.getLast? ≠ some carriageReturn) :
    Edit (front ++ lineFeed :: rest) (front ++ carriageReturn :: lineFeed :: rest)
  | blankLine (front blank rest : Bytes) (begins : front = [] ∨ front.getLast? = some lineFeed)
    (empty : isBlank blank = true) (single : lineFeed ∉ blank) :
    Edit (front ++ rest) (front ++ (blank ++ lineFeed :: rest))
  | ended (input : Bytes) (plain : input.getLast? ≠ some carriageReturn) :
    Edit input (input ++ [lineFeed])

/-- Streams that come of one another by changes of layout, made and undone. -/
def SameLayout : Bytes → Bytes → Prop :=
  Relation.EqvGen Edit

def withReturns (input : Bytes) : Bytes :=
  input.flatMap fun byte => if byte = lineFeed then [carriageReturn, lineFeed] else [byte]

theorem exists_last_line (input : Bytes) :
    ∃ above line, input = above ++ line ∧ (above = [] ∨ above.getLast? = some lineFeed) ∧
      lineFeed ∉ line := by
  induction input with
  | nil => exact ⟨[], [], rfl, Or.inl rfl, List.not_mem_nil⟩
  | cons byte rest ih =>
    obtain ⟨above, line, rfl, ended, free⟩ := ih
    rcases ended with rfl | ended
    · by_cases feed : byte = lineFeed
      · exact ⟨[byte], line, rfl, Or.inr (congrArg some feed), free⟩
      · exact ⟨[], byte :: line, rfl, Or.inl rfl, by simp [Ne.symm feed, free]⟩
    · refine ⟨byte :: above, line, rfl, Or.inr ?_, free⟩
      rw [List.getLast?_cons, ended]
      rfl

theorem dropReturn_plain {line : Bytes} (plain : line.getLast? ≠ some carriageReturn) :
    dropReturn line = line :=
  if_neg plain

theorem dropReturn_concat (line : Bytes) : dropReturn (line ++ [carriageReturn]) = line := by
  rw [dropReturn, List.getLast?_concat, if_pos rfl, List.dropLast_concat]

theorem plain_line {above line : Bytes}
    (plain : (above ++ line).getLast? ≠ some carriageReturn) :
    line.getLast? ≠ some carriageReturn := by
  intro last
  rw [List.getLast?_append, last] at plain
  exact plain rfl

theorem readLine_of_isBlank {line : Bytes} (blank : isBlank line = true) :
    readLine line = .ok none := by
  obtain ⟨text, whole, empty⟩ := (Option.any_eq_true _ _).mp blank
  exact readLine_blank whole empty

theorem isBlank_nil : isBlank [] = true := by
  decide +kernel

theorem isBlank_dropReturn {line : Bytes} (blank : isBlank line = true) :
    isBlank (dropReturn line) = true := by
  by_cases last : line.getLast? = some carriageReturn
  · obtain ⟨front, rfl⟩ := List.getLast?_eq_some_iff.mp last
    obtain ⟨text, whole, empty⟩ := (Option.any_eq_true _ _).mp blank
    have bytes := Text.fromUTF8?_eq_some.mp whole
    obtain ⟨chars, read, encoded⟩ := Text.exists_of_ends_ascii (by decide) bytes.symm
    have front : String.fromUTF8? ⟨front.toArray⟩ = some (String.ofList chars) := by
      rw [Text.fromUTF8?_eq_some, String.toList_ofList, encoded]
    rw [read, Text.isBlankLine_append, Bool.and_eq_true] at empty
    rw [dropReturn_concat, isBlank, front, Option.any_some, String.toList_ofList]
    exact empty.1
  · rwa [dropReturn_plain last]

def writtenLines (input : Bytes) : List Bytes :=
  (lines input).filter (!isBlank ·)

section Lines

variable (environment : Environment)

theorem serveLines_congr {line : Bytes} {first second : List Bytes}
    (same : ∀ room world, serveLines environment room world first =
      serveLines environment room world second) (room : Option Nat) (world : World) :
    serveLines environment room world (line :: first) =
      serveLines environment room world (line :: second) := by
  simp only [serveLines_cons, same]

theorem serveLines_written (served : List Bytes) (room : Option Nat) (world : World) :
    serveLines environment room world (served.filter (!isBlank ·)) =
      serveLines environment room world served := by
  induction served generalizing room world with
  | nil => rfl
  | cons line rest ih =>
    cases blank : isBlank line with
    | true =>
      rw [List.filter_cons_of_neg (by simp [blank]), ih,
        serveLines_blank environment world (readLine_of_isBlank blank)]
    | false =>
      rw [List.filter_cons_of_pos (by simp [blank])]
      exact serveLines_congr environment ih room world

theorem serve_of_writtenLines {input edited : Bytes}
    (same : writtenLines input = writtenLines edited) (room : Option Nat) (world : World) :
    serve environment room input world = serve environment room edited world := by
  rw [serve, serve, ← serveLines_written environment (lines input),
    ← serveLines_written environment (lines edited), ← writtenLines, same, writtenLines]

end Lines

theorem writtenLines_append {first : Bytes}
    (ended : first = [] ∨ first.getLast? = some lineFeed) (second : Bytes) :
    writtenLines (first ++ second) = writtenLines first ++ writtenLines second := by
  rw [writtenLines, lines_append ended, List.filter_append]
  rfl

theorem Edit.writtenLines {input edited : Bytes} (edit : Edit input edited) :
    writtenLines input = Protocol.writtenLines edited := by
  cases edit with
  | returned front rest plain =>
    obtain ⟨above, line, rfl, ended, free⟩ := exists_last_line front
    have opened : lineFeed ∉ line ++ [carriageReturn] := by
      simp only [List.mem_append, List.mem_singleton, not_or]
      exact ⟨free, by decide⟩
    have unchanged : lines (line ++ lineFeed :: rest) =
        lines (line ++ [carriageReturn] ++ lineFeed :: rest) := by
      rw [lines_line free, lines_line opened, dropReturn_concat,
        dropReturn_plain (plain_line plain)]
    rw [List.append_assoc, List.append_assoc, writtenLines_append ended, writtenLines_append ended]
    rw [List.append_assoc, List.singleton_append] at unchanged
    exact congrArg (_ ++ List.filter (!isBlank ·) ·) unchanged
  | blankLine front blank rest begins empty single =>
    have passed : Protocol.writtenLines (blank ++ lineFeed :: rest) =
        Protocol.writtenLines rest := by
      rw [Protocol.writtenLines, lines_line single,
        List.filter_cons_of_neg (by simp [isBlank_dropReturn empty])]
      rfl
    rw [writtenLines_append begins, writtenLines_append begins, passed]
  | ended input plain =>
    obtain ⟨above, line, rfl, ended, free⟩ := exists_last_line input
    have unchanged : Protocol.writtenLines line = Protocol.writtenLines (line ++ [lineFeed]) := by
      rw [Protocol.writtenLines, Protocol.writtenLines, lines_open_line free, lines_line free,
        dropReturn_plain (plain_line plain), lines_nil]
      split
      · next empty =>
        rw [empty, List.filter_cons_of_neg (by simp [isBlank_nil])]
      · rfl
    rw [List.append_assoc, writtenLines_append ended, writtenLines_append ended, unchanged]

theorem SameLayout.writtenLines {input edited : Bytes} (same : SameLayout input edited) :
    writtenLines input = Protocol.writtenLines edited := by
  induction same with
  | rel input edited edit => exact edit.writtenLines
  | refl input => rfl
  | symm input edited _ ih => exact ih.symm
  | trans first second third _ _ left right => exact left.trans right

theorem sameLayout_withReturns_behind (front : Bytes) {rest : Bytes}
    (before : carriageReturn ∉ front) (behind : carriageReturn ∉ rest) :
    SameLayout (front ++ rest) (front ++ withReturns rest) := by
  induction rest generalizing front with
  | nil => exact .refl _
  | cons byte rest ih =>
    obtain ⟨other, behind⟩ : carriageReturn ≠ byte ∧ carriageReturn ∉ rest := by
      simpa [not_or] using behind
    have onward := ih (front ++ [byte]) (by simp [before, other]) behind
    rw [List.append_assoc, List.append_assoc] at onward
    by_cases feed : byte = lineFeed
    · subst feed
      have plain : front.getLast? ≠ some carriageReturn :=
        fun last => before (List.mem_of_getLast? last)
      exact .trans _ _ _ onward (.rel _ _ (.returned front (withReturns rest) plain))
    · have kept : withReturns (byte :: rest) = byte :: withReturns rest := by
        rw [withReturns, List.flatMap_cons, if_neg feed]
        rfl
      rw [kept]
      exact onward

/-- A service does not tell apart streams that differ in their layout only; one without carriage
returns has the layout of the one with a carriage return before each line feed. -/
theorem serve_same_layout (environment : Environment) (room : Option Nat) (world : World) :
    (∀ input edited, SameLayout input edited →
      serve environment room input world = serve environment room edited world) ∧
    ∀ input, carriageReturn ∉ input → SameLayout input (withReturns input) := by
  constructor
  · intro input edited same
    exact serve_of_writtenLines environment same.writtenLines room world
  · intro input plain
    exact sameLayout_withReturns_behind [] List.not_mem_nil plain

/-- A request and a line that breaks off. With a blank line before them and a carriage return at
each line end the request is answered and the position of the error is told as without. -/
theorem serve_same_layout_broken :
    let line : Bytes := "[\"getManifest\",null,1]".toList.flatMap String.utf8EncodeChar
    let broken : Bytes := "[\"generate\"".toList.flatMap String.utf8EncodeChar
    let input := line ++ [lineFeed] ++ broken
    let edited := [0x20, lineFeed] ++ (withReturns input ++ [lineFeed])
    let world : World := ⟨FileTree.empty, []⟩
    let served := serve ⟨[]⟩ none input world
    served = serve ⟨[]⟩ none edited world ∧
      served = answered ⟨[]⟩ world [⟨"getManifest", .null, .int 1⟩]
        (.error (.json ⟨.endInList, some ⟨1, 11⟩⟩)) := by
  intro line broken input edited world served
  obtain ⟨alike, returned⟩ := serve_same_layout ⟨[]⟩ none world
  have ended : Edit (withReturns input) (withReturns input ++ [lineFeed]) :=
    .ended _ (by decide)
  have blank : Edit (withReturns input ++ [lineFeed]) edited :=
    .blankLine [] [0x20] (withReturns input ++ [lineFeed]) (Or.inl rfl) (by decide +kernel)
      (by decide)
  have same : SameLayout input edited :=
    .trans _ _ _ (returned input (by decide)) (.trans _ _ _ (.rel _ _ ended) (.rel _ _ blank))
  have read : readLine line = .ok (some ⟨"getManifest", .null, .int 1⟩) := by
    subst line
    rfl
  have refused : readLine broken = .error (.json ⟨.endInList, some ⟨1, 11⟩⟩) := by
    subst broken
    rfl
  have stopped := serveLines_stops ⟨[]⟩ world
    (List.forall_mem_singleton.mpr (readable_of_read read)) (readLine_error.mp refused) []
  rw [List.filterMap_cons_some (request?_of_read read)] at stopped
  exact ⟨alike input edited same, stopped⟩

end ModelRepositories.Protocol
