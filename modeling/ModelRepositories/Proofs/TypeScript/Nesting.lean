import ModelRepositories.Proofs.TypeScript.Layout
import ModelRepositories.Proofs.TypeScript.Marks

/-!
The nesting of a printed file. Where the texts that a file is made of are balanced, its text is, and
the braces that are open at the end of a statement, of a method or of a line of a method's body are
those around it.
-/

namespace ModelRepositories.TypeScript

structure Method.Matched (method : Method) : Prop where
  name : Balanced (marksOf method.name)
  parameters : ∀ parameter ∈ method.parameters, Balanced (marksOf parameter.text)
  returnType : Balanced (marksOf method.returnType)
  body : ∀ line ∈ method.body, Balanced (marksOf line)

def Statement.Matched : Statement → Prop
  | .importNames source names => marksOf source = [] ∧ ∀ name ∈ names, Balanced (marksOf name)
  | .constant name initializer _ => Balanced (marksOf name) ∧ Balanced (marksOf initializer)
  | .typeAlias name typeText _ => Balanced (marksOf name) ∧ Balanced (marksOf typeText)
  | .classDeclaration declared =>
    Balanced (marksOf declared.name) ∧ ∀ method ∈ declared.methods, method.Matched

def SourceFile.Matched (file : SourceFile) : Prop :=
  ∀ statement ∈ file.statements, statement.Matched

theorem Method.Matched.plain {method : Method} (matched : method.Matched)
    (name : isSymbol method.name = true)
    (parameters : ∀ parameter ∈ method.parameters, parameter.Plain) : method.Plain where
  name := name
  parameters := parameters
  returnType := matched.returnType.oneLine
  body line member := (matched.body line member).oneLine

/-- Reading the lines leads from one list of open brackets to another. -/
def Leads (lines : List String) (before after : List Bracket) : Prop :=
  Nesting.read ⟨before, none⟩ (marksOf (textOf lines)) = some ⟨after, none⟩

theorem leads_nil (brackets : List Bracket) : Leads [] brackets brackets :=
  rfl

theorem leads_append {first second : List String} {before between after : List Bracket}
    (left : Leads first before between) (right : Leads second between after) :
    Leads (first ++ second) before after := by
  rw [Leads, textOf_append, marksOf_append, Nesting.read_append, left]
  exact right

theorem leads_line {line : String} {before after : List Bracket}
    (reads : Nesting.read ⟨before, none⟩ (marksOf line) = some ⟨after, none⟩) :
    Leads [line] before after := by
  rw [Leads, marksOf_textOf_cons, Nesting.read_append, reads]
  rfl

theorem leads_cons {line : String} {lines : List String} {before between after : List Bracket}
    (first : Leads [line] before between) (later : Leads lines between after) :
    Leads (line :: lines) before after := by
  rw [← List.singleton_append]
  exact leads_append first later

theorem leads_lines {lines : List String} (balanced : ∀ line ∈ lines, Balanced (marksOf line))
    (brackets : List Bracket) : Leads lines brackets brackets := by
  induction lines with
  | nil => exact leads_nil brackets
  | cons line rest ih =>
    obtain ⟨first, later⟩ := List.forall_mem_cons.mp balanced
    exact leads_cons (leads_line (first.nested.read brackets)) (ih later)

section Blocks

variable {ι : Type} {write : ι → List String} {members : List ι} {brackets : List Bracket}

theorem leads_leading (leads : ∀ i ∈ members, Leads (write i) brackets brackets) :
    Leads (leading (members.map write)) brackets brackets := by
  induction members with
  | nil => exact leads_nil brackets
  | cons i rest ih =>
    obtain ⟨first, later⟩ := List.forall_mem_cons.mp leads
    have empty : Leads [""] brackets brackets := leads_line rfl
    rw [List.map_cons, leading_cons]
    exact leads_append first (leads_cons empty (ih later))

theorem leads_spaced (leads : ∀ i ∈ members, Leads (write i) brackets brackets) :
    Leads (spaced (members.map write)) brackets brackets := by
  rcases List.eq_nil_or_concat members with rfl | ⟨front, last, rfl⟩
  · exact leads_nil brackets
  · rw [List.concat_eq_append] at leads ⊢
    obtain ⟨former, final⟩ := List.forall_mem_append.mp leads
    rw [List.map_append, List.map_singleton, spaced_at]
    exact leads_append (leads_append (leads_leading former)
      (final last List.mem_cons_self)) (leads_nil brackets)

end Blocks

theorem Balanced.before_opened {marks : List Mark} (balanced : Balanced marks) (bracket : Bracket)
    (outer : List Bracket) :
    Nesting.read ⟨outer, none⟩ (marks ++ [.opened bracket]) = some ⟨bracket :: outer, none⟩ := by
  rw [Nesting.read_append, balanced.nested.read]
  rfl

theorem marksOf_exportWord (exported : Bool) : marksOf (exportWord exported) = [] := by
  cases exported <;> rfl

theorem marksOf_asyncWord (isAsync : Bool) : marksOf (asyncWord isAsync) = [] := by
  cases isAsync <;> rfl

theorem Method.marksOf_header (method : Method) :
    marksOf (indentation ++ method.header) =
      marksOf method.name ++ .opened .round ::
        (marksOf (", ".intercalate (method.parameters.map (·.text))) ++ [.closed .round]) ++
          marksOf method.returnType ++ [.opened .curly] := by
  have opens : marksOf "(" = [.opened .round] := rfl
  have closes : marksOf "): " = [.closed .round] := rfl
  have blank : marksOf indentation = [] := rfl
  have brace : marksOf " \x7b" = [.opened .curly] := rfl
  simp [Method.header, marksOf_append, marksOf_asyncWord, opens, closes, blank, brace]

theorem Method.Matched.leads_header {method : Method} (matched : method.Matched)
    (outer : List Bracket) : Leads [indentation ++ method.header] outer (.curly :: outer) := by
  have listed : Balanced (marksOf (", ".intercalate (method.parameters.map (·.text)))) :=
    balanced_intercalate balanced_nil (List.forall_mem_map.mpr matched.parameters)
  have signature := (matched.name.append (listed.enclosed .round)).append matched.returnType
  apply leads_line
  rw [Method.marksOf_header]
  exact signature.before_opened .curly outer

theorem Method.Matched.leads_body {method : Method} (matched : method.Matched)
    {lines : List String} (part : ∀ line ∈ lines, line ∈ method.body) (brackets : List Bracket) :
    Leads (lines.map (indentation ++ indentation ++ ·)) brackets brackets := by
  apply leads_lines
  rw [List.forall_mem_map]
  intro line member
  have blank : Balanced (marksOf (indentation ++ indentation)) := balanced_nil
  exact balanced_append blank (matched.body line (part line member))

theorem leads_brace (indent : String) (bare : marksOf indent = []) (outer : List Bracket) :
    Leads [indent ++ "\x7d"] (.curly :: outer) outer := by
  apply leads_line
  rw [marksOf_append, bare]
  rfl

theorem Method.Matched.leads_lines {method : Method} (matched : method.Matched)
    (outer : List Bracket) : Leads method.lines outer outer := by
  have body := matched.leads_body (fun _ member => member) (.curly :: outer)
  exact leads_cons (matched.leads_header outer)
    (leads_append body (leads_brace indentation rfl outer))

theorem leads_class_header {declared : Class} (named : Balanced (marksOf declared.name))
    (outer : List Bracket) : Leads [declared.header] outer (.curly :: outer) := by
  have marks : marksOf declared.header = marksOf declared.name ++ [.opened .curly] := by
    have word : marksOf "class " = [] := rfl
    have brace : marksOf " \x7b" = [.opened .curly] := rfl
    simp [Class.header, marksOf_append, marksOf_exportWord, word, brace]
  apply leads_line
  rw [marks]
  exact named.before_opened .curly outer

theorem balanced_assignment {word name text : String} (exported : Bool) (bare : marksOf word = [])
    (named : Balanced (marksOf name)) (written : Balanced (marksOf text)) :
    Balanced (marksOf (exportWord exported ++ word ++ name ++ " = " ++ text ++ ";")) := by
  have equals : marksOf " = " = [] := rfl
  have semicolon : marksOf ";" = [] := rfl
  simp only [marksOf_append, marksOf_exportWord, bare, equals, semicolon, List.nil_append,
    List.append_nil]
  exact named.append written

theorem balanced_import {source : String} {names : List String} (bare : marksOf source = [])
    (named : ∀ name ∈ names, Balanced (marksOf name)) :
    Balanced (marksOf ("import \x7b " ++ ", ".intercalate names ++ " \x7d from \"" ++ source ++
      "\";")) := by
  have listed : Balanced (marksOf (", ".intercalate names)) :=
    balanced_intercalate balanced_nil named
  have opens : marksOf "import \x7b " = [.opened .curly] := rfl
  have closes : marksOf " \x7d from \"" = [.closed .curly, .quoted .double] := rfl
  have ends : marksOf "\";" = [.quoted .double] := rfl
  have marks := (listed.enclosed .curly).append (balanced_quoted .double)
  simpa [marksOf_append, bare, opens, closes, ends] using marks

theorem Statement.Matched.leads_lines {statement : Statement} (matched : statement.Matched)
    (outer : List Bracket) : Leads statement.lines outer outer := by
  cases statement with
  | importNames source names =>
    exact leads_line ((balanced_import matched.1 matched.2).nested.read outer)
  | constant name initializer exported =>
    exact leads_line ((balanced_assignment exported rfl matched.1 matched.2).nested.read outer)
  | typeAlias name typeText exported =>
    exact leads_line ((balanced_assignment exported rfl matched.1 matched.2).nested.read outer)
  | classDeclaration declared =>
    obtain ⟨named, methods⟩ := matched
    have members : Leads (spaced (declared.methods.map (·.lines))) (.curly :: outer)
        (.curly :: outer) :=
      leads_spaced fun method member => (methods method member).leads_lines _
    rw [Statement.lines, Class.lines_eq]
    exact leads_cons (leads_class_header named outer)
      (leads_append members (leads_brace "" rfl outer))

/-- Where a statement, a method or a line of a method's body ends: the lines down to there, and how
many braces stand around what ends. -/
inductive SourceFile.Stop (file : SourceFile) : List String → Nat → Prop
  | statement {before after : List Statement} {statement : Statement}
    (parts : file.statements = before ++ statement :: after) :
    Stop file (leading (before.map (·.lines)) ++ statement.lines) 0
  | method {before after : List Statement} {declared : Class} {former later : List Method}
    {method : Method} (parts : file.statements = before ++ .classDeclaration declared :: after)
    (methods : declared.methods = former ++ method :: later) :
    Stop file
      (leading (before.map (·.lines)) ++
        declared.header :: (leading (former.map (·.lines)) ++ method.lines)) 1
  | line {before after : List Statement} {declared : Class} {former later : List Method}
    {method : Method} {above below : List String} {line : String}
    (parts : file.statements = before ++ .classDeclaration declared :: after)
    (methods : declared.methods = former ++ method :: later)
    (body : method.body = above ++ line :: below) :
    Stop file
      (leading (before.map (·.lines)) ++
        declared.header :: (leading (former.map (·.lines)) ++
          (indentation ++ method.header) ::
            (above ++ [line]).map (indentation ++ indentation ++ ·))) 2

theorem prefix_spaced {ι : Type} {write : ι → List String} (before after : List ι) {i : ι}
    {front : List String} (inside : front <+: write i) :
    leading (before.map write) ++ front <+: spaced ((before ++ i :: after).map write) := by
  rw [List.map_append, List.map_cons, spaced_at, List.append_assoc, List.prefix_append_right_inj]
  exact List.prefix_append_of_prefix inside

theorem Class.prefix_lines {declared : Class} {former later : List Method} {method : Method}
    {front : List String} (methods : declared.methods = former ++ method :: later)
    (inside : front <+: method.lines) :
    declared.header :: (leading (former.map (·.lines)) ++ front) <+: declared.lines := by
  rw [Class.lines_eq, methods, List.prefix_cons_inj]
  exact List.prefix_append_of_prefix (prefix_spaced former later inside)

theorem Method.prefix_lines {method : Method} {above below : List String}
    (body : method.body = above ++ below) :
    (indentation ++ method.header) :: above.map (indentation ++ indentation ++ ·) <+:
      method.lines := by
  rw [Method.lines, body, List.map_append, List.cons_append, List.prefix_cons_inj,
    List.append_assoc]
  exact List.prefix_append _ _

theorem SourceFile.Stop.prefix_lines {file : SourceFile} {lines : List String} {depth : Nat}
    (stop : file.Stop lines depth) : lines <+: file.lines := by
  cases stop with
  | @statement before after statement parts =>
    rw [SourceFile.lines, parts]
    exact prefix_spaced before after List.prefix_rfl
  | @method before after declared former later method parts methods =>
    rw [SourceFile.lines, parts]
    exact prefix_spaced before after (Class.prefix_lines methods List.prefix_rfl)
  | @line before after declared former later method above below line parts methods body =>
    rw [SourceFile.lines, parts]
    have inside := Method.prefix_lines (body.trans (List.append_cons above line below))
    exact prefix_spaced before after (Class.prefix_lines methods inside)

theorem SourceFile.Matched.declared {file : SourceFile} (matched : file.Matched)
    {before after : List Statement} {declared : Class}
    (parts : file.statements = before ++ .classDeclaration declared :: after) :
    Balanced (marksOf declared.name) ∧ ∀ method ∈ declared.methods, method.Matched :=
  matched (.classDeclaration declared) (by simp [parts])

theorem SourceFile.Matched.leads_before {file : SourceFile} (matched : file.Matched)
    {before after : List Statement} (parts : file.statements = before ++ after) :
    Leads (leading (before.map (·.lines))) [] [] := by
  apply leads_leading
  intro statement member
  exact (matched statement (by simp [parts, member])).leads_lines []

theorem SourceFile.Matched.leads_former {file : SourceFile} (matched : file.Matched)
    {before after : List Statement} {declared : Class} {former later : List Method}
    (parts : file.statements = before ++ .classDeclaration declared :: after)
    (methods : declared.methods = former ++ later) {lines : List String}
    {brackets : List Bracket} (goesOn : Leads lines [.curly] brackets) :
    Leads (leading (before.map (·.lines)) ++
      declared.header :: (leading (former.map (·.lines)) ++ lines)) [] brackets := by
  obtain ⟨named, matchedMethods⟩ := matched.declared parts
  have formers : Leads (leading (former.map (·.lines))) [.curly] [.curly] := by
    apply leads_leading
    intro method member
    exact (matchedMethods method (by simp [methods, member])).leads_lines _
  apply leads_append (matched.leads_before parts)
  exact leads_cons (leads_class_header named []) (leads_append formers goesOn)

theorem SourceFile.Matched.leads_stop {file : SourceFile} (matched : file.Matched)
    {lines : List String} {depth : Nat} (stop : file.Stop lines depth) :
    Leads lines [] (List.replicate depth .curly) := by
  cases stop with
  | @statement before after statement parts =>
    have own := matched statement (by simp [parts])
    exact leads_append (matched.leads_before parts) (own.leads_lines [])
  | @method before after declared former later method parts methods =>
    have own : method.Matched := (matched.declared parts).2 method (by simp [methods])
    exact matched.leads_former parts methods (own.leads_lines [.curly])
  | @line before after declared former later method above below line parts methods body =>
    have own : method.Matched := (matched.declared parts).2 method (by simp [methods])
    have upper : ∀ text ∈ above ++ [line], text ∈ method.body := by
      intro text member
      rw [body, List.append_cons]
      exact List.mem_append_left below member
    exact matched.leads_former parts methods
      (leads_cons (own.leads_header [.curly]) (own.leads_body upper _))

/-- How the brackets and quotes of a file are nested: its text is well nested, no quote is open
where a line ends, and where something of the file ends as many braces are open as are around it. -/
structure SourceFile.Nested (file : SourceFile) : Prop where
  whole : WellNested (marksOf file.render)
  quotes : ∀ front rest, file.render = front ++ "\n" ++ rest →
    ∃ brackets, Nesting.read ⟨[], none⟩ (marksOf front) = some ⟨brackets, none⟩
  stops : ∀ lines depth, file.Stop lines depth →
    (∃ rest, file.render = textOf lines ++ rest) ∧
      Nesting.read ⟨[], none⟩ (marksOf (textOf lines)) =
        some ⟨List.replicate depth .curly, none⟩

theorem quote_at_line_end {text front rest : String} {after : Nesting}
    (reads : Nesting.read ⟨[], none⟩ (marksOf text) = some after)
    (cut : text = front ++ "\n" ++ rest) :
    ∃ brackets, Nesting.read ⟨[], none⟩ (marksOf front) = some ⟨brackets, none⟩ := by
  have ends : marksOf "\n" = [.ended] := rfl
  rw [cut, marksOf_append, marksOf_append, ends, List.append_assoc, Nesting.read_append,
    Option.bind_eq_some_iff] at reads
  obtain ⟨nesting, upper, lower⟩ := reads
  rw [List.singleton_append, Nesting.read_cons, Option.bind_eq_some_iff] at lower
  obtain ⟨next, feeds, -⟩ := lower
  rw [upper, ← Nesting.quote_of_ended feeds]
  exact ⟨nesting.brackets, rfl⟩

theorem SourceFile.Matched.nested {file : SourceFile} (matched : file.Matched) : file.Nested := by
  have whole : Leads file.lines [] [] :=
    leads_spaced fun statement member => (matched statement member).leads_lines []
  refine ⟨wellNested_iff.mpr whole, fun front rest cut => quote_at_line_end whole cut, ?_⟩
  intro lines depth stop
  obtain ⟨rest, parted⟩ := stop.prefix_lines
  refine ⟨⟨textOf rest, ?_⟩, matched.leads_stop stop⟩
  rw [render_eq, ← parted, textOf_append]

end ModelRepositories.TypeScript
