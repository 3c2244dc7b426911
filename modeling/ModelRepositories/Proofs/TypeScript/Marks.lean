import ModelRepositories.Proofs.TypeScript.Lines

/-!
Brackets and quotes. Of a text only its marks count: the brackets, the quotes and the ends of its
lines. They are read one by one with the brackets that are open; a closing bracket closes the
innermost one, and within quotes brackets are text.
-/

namespace ModelRepositories.TypeScript

inductive Bracket
  | round | square | curly | angle
  deriving DecidableEq, Repr

inductive Quote
  | single | double
  deriving DecidableEq, Repr

inductive Mark
  | opened (bracket : Bracket)
  | closed (bracket : Bracket)
  | quoted (quote : Quote)
  | ended
  deriving DecidableEq, Repr

def mark? : Char → Option Mark
  | '(' => some (.opened .round)
  | ')' => some (.closed .round)
  | '[' => some (.opened .square)
  | ']' => some (.closed .square)
  | '\x7b' => some (.opened .curly)
  | '\x7d' => some (.closed .curly)
  | '<' => some (.opened .angle)
  | '>' => some (.closed .angle)
  | '\x27' => some (.quoted .single)
  | '"' => some (.quoted .double)
  | '\n' => some .ended
  | _ => none

def marksOf (text : String) : List Mark :=
  text.toList.filterMap mark?

/-- Where the reading of a text is: the open brackets, the innermost first, and the quote that it is
in. -/
structure Nesting where
  brackets : List Bracket
  quote : Option Quote
  deriving DecidableEq, Repr

namespace Nesting

def close (bracket : Bracket) : List Bracket → Option Nesting
  | [] => none
  | innermost :: outer => if innermost = bracket then some ⟨outer, none⟩ else none

/-- No line ends within quotes. -/
def step (nesting : Nesting) (mark : Mark) : Option Nesting :=
  match nesting.quote, mark with
  | some _, .ended => none
  | some quote, .quoted other =>
    some ⟨nesting.brackets, if other = quote then none else some quote⟩
  | some _, _ => some nesting
  | none, .opened bracket => some ⟨bracket :: nesting.brackets, none⟩
  | none, .closed bracket => close bracket nesting.brackets
  | none, .quoted quote => some ⟨nesting.brackets, some quote⟩
  | none, .ended => some nesting

def read (nesting : Nesting) (marks : List Mark) : Option Nesting :=
  marks.foldlM step nesting

theorem read_append (nesting : Nesting) (first second : List Mark) :
    nesting.read (first ++ second) = (nesting.read first).bind (·.read second) :=
  List.foldlM_append

theorem read_cons (nesting : Nesting) (mark : Mark) (rest : List Mark) :
    nesting.read (mark :: rest) = (nesting.step mark).bind (·.read rest) :=
  List.foldlM_cons

theorem quote_of_ended {nesting after : Nesting} (ends : nesting.step .ended = some after) :
    nesting.quote = none := by
  cases inside : nesting.quote with
  | none => rfl
  | some quote => simp [step, inside] at ends

end Nesting

def Literal (quote : Quote) (marks : List Mark) : Prop :=
  ∀ mark ∈ marks, mark ≠ .quoted quote ∧ mark ≠ .ended

inductive WellNested : List Mark → Prop
  | nil : WellNested []
  | ended {rest : List Mark} (later : WellNested rest) : WellNested (.ended :: rest)
  | quoted (quote : Quote) {inside rest : List Mark} (literal : Literal quote inside)
    (later : WellNested rest) : WellNested (.quoted quote :: (inside ++ .quoted quote :: rest))
  | enclosed (bracket : Bracket) {inside rest : List Mark} (within : WellNested inside)
    (later : WellNested rest) : WellNested (.opened bracket :: (inside ++ .closed bracket :: rest))

theorem Nesting.step_literal {quote : Quote} {mark : Mark} (other : mark ≠ .quoted quote)
    (same : mark ≠ .ended) (brackets : List Bracket) :
    step ⟨brackets, some quote⟩ mark = some ⟨brackets, some quote⟩ := by
  cases mark with
  | opened bracket => rfl
  | closed bracket => rfl
  | quoted inner => simpa [step] using other
  | ended => exact absurd rfl same

theorem Literal.read {quote : Quote} {marks : List Mark} (literal : Literal quote marks)
    (brackets : List Bracket) :
    Nesting.read ⟨brackets, some quote⟩ marks = some ⟨brackets, some quote⟩ := by
  induction marks with
  | nil => rfl
  | cons mark rest ih =>
    obtain ⟨⟨other, same⟩, later⟩ := List.forall_mem_cons.mp literal
    rw [Nesting.read_cons, Nesting.step_literal other same]
    exact ih later

theorem WellNested.append {first second : List Mark} (left : WellNested first)
    (right : WellNested second) : WellNested (first ++ second) := by
  induction left with
  | nil => exact right
  | ended later ih => exact ih.ended
  | quoted quote literal later ih =>
    rw [List.cons_append, List.append_assoc]
    exact ih.quoted quote literal
  | enclosed bracket within later _ ih =>
    rw [List.cons_append, List.append_assoc]
    exact within.enclosed bracket ih

theorem WellNested.read {marks : List Mark} (nested : WellNested marks)
    (outer : List Bracket) : Nesting.read ⟨outer, none⟩ marks = some ⟨outer, none⟩ := by
  induction nested generalizing outer with
  | nil => rfl
  | ended later ih => exact ih outer
  | @quoted quote inside rest literal later ih =>
    have opens : Nesting.step ⟨outer, none⟩ (.quoted quote) = some ⟨outer, some quote⟩ := rfl
    have closes : Nesting.step ⟨outer, some quote⟩ (.quoted quote) = some ⟨outer, none⟩ := by
      simp [Nesting.step]
    rw [Nesting.read_cons, opens, Option.bind_some, Nesting.read_append, literal.read,
      Option.bind_some, Nesting.read_cons, closes, Option.bind_some, ih]
  | @enclosed bracket inside rest within later first second =>
    have opens : Nesting.step ⟨outer, none⟩ (.opened bracket) = some ⟨bracket :: outer, none⟩ := rfl
    have closes : Nesting.step ⟨bracket :: outer, none⟩ (.closed bracket) = some ⟨outer, none⟩ :=
      if_pos rfl
    rw [Nesting.read_cons, opens, Option.bind_some, Nesting.read_append, first, Option.bind_some,
      Nesting.read_cons, closes, Option.bind_some, second]

/-- Marks that close the brackets one after another and are well nested in between. -/
def Closing : List Bracket → List Mark → Prop
  | [], marks => WellNested marks
  | bracket :: outer, marks =>
    ∃ inside rest, marks = inside ++ .closed bracket :: rest ∧ WellNested inside ∧
      Closing outer rest

theorem Closing.behind (front : List Mark) {brackets : List Bracket} {marks : List Mark}
    (goesOn : ∀ rest, WellNested rest → WellNested (front ++ rest))
    (closing : Closing brackets marks) : Closing brackets (front ++ marks) := by
  cases brackets with
  | nil => exact goesOn marks closing
  | cons bracket outer =>
    obtain ⟨inside, rest, rfl, nested, later⟩ := closing
    exact ⟨front ++ inside, rest, (List.append_assoc _ _ _).symm, goesOn inside nested, later⟩

/-- What is left to read where the reading has come to: the quote ends, then the brackets do. -/
def Nesting.Settles (nesting : Nesting) (marks : List Mark) : Prop :=
  match nesting.quote with
  | none => Closing nesting.brackets marks
  | some quote =>
    ∃ inside rest, marks = inside ++ .quoted quote :: rest ∧ Literal quote inside ∧
      Closing nesting.brackets rest

theorem Nesting.settles_outside {brackets : List Bracket} {next : Nesting} {mark : Mark}
    {rest : List Mark} (goes : step ⟨brackets, none⟩ mark = some next)
    (settles : next.Settles rest) : Closing brackets (mark :: rest) := by
  cases mark with
  | opened bracket =>
    cases goes
    obtain ⟨inside, others, rfl, within, later⟩ := settles
    have closing := later.behind (.opened bracket :: (inside ++ [.closed bracket]))
      fun tail nested => by simpa using WellNested.enclosed bracket within nested
    simpa using closing
  | closed bracket =>
    cases brackets with
    | nil => cases goes
    | cons innermost outer =>
      simp only [step, close, Option.ite_none_right_eq_some] at goes
      obtain ⟨rfl, goes⟩ := goes
      cases goes
      exact ⟨[], rest, rfl, WellNested.nil, settles⟩
  | quoted quote =>
    cases goes
    obtain ⟨inside, others, rfl, literal, later⟩ := settles
    have closing := later.behind (.quoted quote :: (inside ++ [.quoted quote])) fun tail nested =>
      by simpa using WellNested.quoted quote literal nested
    simpa using closing
  | ended =>
    cases goes
    exact settles.behind [.ended] fun _ => WellNested.ended

theorem Nesting.settles_within {brackets : List Bracket} {quote : Quote} {next : Nesting}
    {mark : Mark} {rest : List Mark} (goes : step ⟨brackets, some quote⟩ mark = some next)
    (settles : next.Settles rest) : Settles ⟨brackets, some quote⟩ (mark :: rest) := by
  by_cases ends : mark = .quoted quote
  · subst ends
    simp only [step, if_true, Option.some.injEq] at goes
    subst goes
    exact ⟨[], rest, rfl, List.forall_mem_nil _, settles⟩
  · have stays : mark ≠ .ended := by
      rintro rfl
      cases goes
    rw [step_literal ends stays, Option.some.injEq] at goes
    subst goes
    obtain ⟨inside, others, rfl, literal, later⟩ := settles
    exact ⟨mark :: inside, others, rfl, List.forall_mem_cons.mpr ⟨⟨ends, stays⟩, literal⟩, later⟩

theorem Nesting.settles_of_read {nesting : Nesting} {marks : List Mark}
    (reads : nesting.read marks = some ⟨[], none⟩) : nesting.Settles marks := by
  induction marks generalizing nesting with
  | nil =>
    cases reads
    exact WellNested.nil
  | cons mark rest ih =>
    rw [read_cons, Option.bind_eq_some_iff] at reads
    obtain ⟨next, goes, later⟩ := reads
    rcases nesting with ⟨brackets, _ | quote⟩
    · exact settles_outside goes (ih later)
    · exact settles_within goes (ih later)

theorem wellNested_iff {marks : List Mark} :
    WellNested marks ↔ Nesting.read ⟨[], none⟩ marks = some ⟨[], none⟩ :=
  ⟨fun nested => nested.read [], Nesting.settles_of_read⟩

theorem marksOf_append (first second : String) :
    marksOf (first ++ second) = marksOf first ++ marksOf second := by
  rw [marksOf, String.toList_append, List.filterMap_append]
  rfl

theorem marksOf_symbolic {text : String} (symbolic : Symbolic text) : marksOf text = [] := by
  have unmarked : ∀ c, isSymbolChar c = true → mark? c = none := by
    intro c member
    exact Text.forall_ascii (P := fun c => isSymbolChar c = true → mark? c = none)
      (by decide +kernel) (ascii_of_isSymbolChar member) member
  exact List.filterMap_eq_nil_iff.mpr fun c member => unmarked c (symbolic c member)

theorem marksOf_symbol {name : String} (symbol : isSymbol name = true) : marksOf name = [] :=
  marksOf_symbolic (symbolic_of_isSymbol symbol)

theorem marksOf_textOf_cons (line : String) (lines : List String) :
    marksOf (textOf (line :: lines)) = marksOf line ++ .ended :: marksOf (textOf lines) := by
  rw [marksOf, toList_textOf_cons, List.filterMap_append, List.filterMap_cons]
  rfl

structure Balanced (marks : List Mark) : Prop where
  unbroken : .ended ∉ marks
  nested : WellNested marks

theorem balanced_nil : Balanced [] where
  unbroken := List.not_mem_nil
  nested := WellNested.nil

theorem Balanced.append {first second : List Mark} (left : Balanced first)
    (right : Balanced second) : Balanced (first ++ second) where
  unbroken := by
    rw [List.mem_append, not_or]
    exact ⟨left.unbroken, right.unbroken⟩
  nested := left.nested.append right.nested

theorem Balanced.enclosed {inside : List Mark} (bracket : Bracket) (balanced : Balanced inside) :
    Balanced (.opened bracket :: (inside ++ [.closed bracket])) where
  unbroken := by simp [balanced.unbroken]
  nested := balanced.nested.enclosed bracket WellNested.nil

theorem balanced_quoted (quote : Quote) : Balanced [.quoted quote, .quoted quote] where
  unbroken := by simp
  nested := WellNested.nil.quoted quote (List.forall_mem_nil _)

theorem Balanced.oneLine {text : String} (balanced : Balanced (marksOf text)) : OneLine text :=
  fun feed => balanced.unbroken (List.mem_filterMap.mpr ⟨_, feed, rfl⟩)

theorem balanced_symbol {name : String} (symbol : isSymbol name = true) :
    Balanced (marksOf name) := by
  rw [marksOf_symbol symbol]
  exact balanced_nil

theorem balanced_append {first second : String} (left : Balanced (marksOf first))
    (right : Balanced (marksOf second)) : Balanced (marksOf (first ++ second)) := by
  rw [marksOf_append]
  exact left.append right

theorem balanced_intercalate {separator : String} {texts : List String}
    (between : Balanced (marksOf separator)) (balanced : ∀ text ∈ texts, Balanced (marksOf text)) :
    Balanced (marksOf (separator.intercalate texts)) := by
  induction texts with
  | nil => exact balanced_nil
  | cons text later ih =>
    obtain ⟨first, others⟩ := List.forall_mem_cons.mp balanced
    cases later with
    | nil => rwa [String.intercalate_singleton]
    | cons second later =>
      rw [String.intercalate_cons_of_ne_nil (List.cons_ne_nil second later)]
      exact balanced_append (balanced_append first between) (ih others)

end ModelRepositories.TypeScript
