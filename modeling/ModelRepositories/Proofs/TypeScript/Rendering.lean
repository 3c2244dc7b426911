import ModelRepositories.Proofs.TypeScript.Lines

/-!
The text of a plain file tells the file. Every part of a text is read back from what it begins with,
in front of whatever may follow: names and types, the lines of a method, the statements.
-/

namespace ModelRepositories.TypeScript

open Text

theorem delimited_text (belongs : Char → Prop) :
    Delimited (fun text => ∀ c ∈ text.toList, belongs c) (Stops belongs) String.toList := by
  intro first second rest others left right stops ending same
  obtain ⟨texts, ended⟩ := delimited_stretch belongs _ _ _ _ left right stops ending same
  exact ⟨String.toList_inj.mp texts, ended⟩

theorem lines_of_text {first second : List String} (left : ∀ line ∈ first, OneLine line)
    (right : ∀ line ∈ second, OneLine line) (same : textOf first = textOf second) :
    first = second := by
  rw [← linesOf_textOf left, same, linesOf_textOf right]

theorem delimited_symbol :
    Delimited (isSymbol · = true) (Stops (isSymbolChar · = true)) String.toList := by
  intro first second rest others left right
  exact delimited_text (isSymbolChar · = true) first second rest others
    (symbolic_of_isSymbol left) (symbolic_of_isSymbol right)

theorem eq_of_symbols {first second : String} {c d : Char} {rest others : List Char}
    (left : isSymbol first = true) (right : isSymbol second = true) (ends : isSymbolChar c = false)
    (stops : isSymbolChar d = false)
    (same : first.toList ++ c :: rest = second.toList ++ d :: others) :
    first = second ∧ c = d ∧ rest = others := by
  obtain ⟨symbols, ended⟩ := delimited_symbol _ _ _ _ left right
    (stops_cons (Bool.eq_false_iff.mp ends)) (stops_cons (Bool.eq_false_iff.mp stops)) same
  exact ⟨symbols, List.cons.inj ended⟩

theorem toList_parameter (parameter : Parameter) :
    parameter.text.toList =
      parameter.name.toList ++ ':' :: ' ' :: parameter.typeText.toList := by
  simp [Parameter.text, String.toList_append]

theorem delimited_parameter :
    Delimited Parameter.Plain (Stops (isTypeChar · = true)) (·.text.toList) := by
  intro first second rest others left right stops ending same
  simp only [toList_parameter, List.append_assoc, List.cons_append] at same
  obtain ⟨names, -, typed⟩ :=
    eq_of_symbols left.name right.name (by decide) (by decide) same
  obtain ⟨types, ended⟩ := delimited_text _ _ _ _ _ (List.all_eq_true.mp left.typeText)
    (List.all_eq_true.mp right.typeText) stops ending (List.cons.inj typed).2
  cases first
  cases second
  cases names
  cases types
  exact ⟨rfl, ended⟩

theorem delimited_listed {ι : Type} {proper : ι → Prop} {belongs : Char → Prop}
    {write : ι → List Char} {stop : Char} (delimited : Delimited proper (Stops belongs) write)
    (comma : ¬ belongs ',') (foreign : ¬ belongs stop) (differs : stop ≠ ',')
    (begins : ∀ i, proper i → ∃ c rest, write i = c :: rest ∧ c ≠ stop) :
    Delimited (∀ i ∈ ·, proper i) (fun rest => ∃ later, rest = stop :: later)
      (joined ", ".toList write) := by
  apply Delimited.joined delimited
  · exact fun rest => ⟨',', _, rfl, comma⟩
  · rintro rest ⟨later, rfl⟩
    exact stops_cons foreign
  · rintro rest others ⟨later, rfl⟩ same
    exact differs (List.cons.inj same).1.symm
  · rintro i rest others good ⟨later, rfl⟩ same
    obtain ⟨c, begun, chars, other⟩ := begins i good
    rw [chars] at same
    exact other (List.cons.inj same).1

theorem delimited_names :
    Delimited (∀ name ∈ ·, isSymbol name = true) (fun rest => ∃ later, rest = ' ' :: later)
      (joined ", ".toList String.toList) := by
  apply delimited_listed delimited_symbol (by decide) (by decide) (by decide)
  intro name symbol
  obtain ⟨c, begun, chars, letter⟩ := exists_symbolChar symbol
  exact ⟨c, begun, chars, fun blank => absurd (blank ▸ letter) (by decide)⟩

theorem delimited_parameters :
    Delimited (∀ parameter ∈ ·, Parameter.Plain parameter)
      (fun rest => ∃ later, rest = ')' :: later) (joined ", ".toList (·.text.toList)) := by
  apply delimited_listed delimited_parameter (by decide) (by decide) (by decide)
  intro parameter plain
  obtain ⟨c, begun, chars, letter⟩ := exists_symbolChar plain.name
  exact ⟨c, _, by rw [toList_parameter, chars, List.cons_append],
    fun closing => absurd (closing ▸ letter) (by decide)⟩

theorem flag_of_opening {word rest others : String} {first second : Bool}
    (left : ∀ later, rest ≠ word ++ later) (right : ∀ later, others ≠ word ++ later)
    (same : (if first then word else "") ++ rest = (if second then word else "") ++ others) :
    first = second ∧ rest = others := by
  cases first with
  | false =>
    cases second with
    | false => exact ⟨rfl, (String.append_right_inj _).mp same⟩
    | true => exact absurd (by simpa using same) (left others)
  | true =>
    cases second with
    | false => exact absurd (by simpa using same.symm) (right rest)
    | true => exact ⟨rfl, (String.append_right_inj _).mp same⟩

def Method.signature (method : Method) : String :=
  method.name ++ "(" ++ ", ".intercalate (method.parameters.map (·.text)) ++ "): " ++
    method.returnType ++ " \x7b"

theorem Method.header_eq (method : Method) :
    method.header = asyncWord method.isAsync ++ method.signature := by
  simp [header, signature, String.append_assoc]

theorem Method.toList_signature (method : Method) :
    method.signature.toList =
      method.name.toList ++ '(' ::
        (joined ", ".toList (fun parameter => parameter.text.toList) method.parameters ++
          ')' :: ':' :: ' ' :: (method.returnType.toList ++ " \x7b".toList)) := by
  rw [← intercalate_map]
  simp [signature, String.toList_append, String.toList_intercalate, Function.comp_def]

/-- A method that is called `async` has no blank behind its name. -/
theorem Method.signature_ne_async {method : Method} (plain : method.Plain) (later : String) :
    method.signature ≠ "async " ++ later := by
  intro same
  have chars := congrArg String.toList same
  have opening : "async ".toList = "async".toList ++ [' '] := rfl
  rw [toList_signature, String.toList_append, opening, List.append_assoc] at chars
  obtain ⟨-, bracket, -⟩ :=
    eq_of_symbols plain.name (by decide) (by decide) (by decide) chars
  exact absurd bracket (by decide)

theorem header_injective {first second : Method} (left : first.Plain) (right : second.Plain)
    (same : first.header = second.header) :
    first.name = second.name ∧ first.isAsync = second.isAsync ∧
      first.parameters = second.parameters ∧ first.returnType = second.returnType := by
  rw [Method.header_eq, Method.header_eq] at same
  obtain ⟨async, signatures⟩ :=
    flag_of_opening (Method.signature_ne_async left) (Method.signature_ne_async right) same
  have chars := congrArg String.toList signatures
  rw [Method.toList_signature, Method.toList_signature] at chars
  obtain ⟨names, -, listed⟩ :=
    eq_of_symbols left.name right.name (by decide) (by decide) chars
  obtain ⟨parameters, returned⟩ := delimited_parameters _ _ _ _ left.parameters right.parameters
    ⟨_, rfl⟩ ⟨_, rfl⟩ listed
  simp only [List.cons.injEq, true_and, List.append_cancel_right_eq] at returned
  exact ⟨names, async, parameters, String.toList_inj.mp returned⟩

theorem delimited_method : Delimited Method.Plain (fun _ => True) Method.lines := by
  intro first second rest others left right _ _ same
  simp only [Method.lines, List.cons_append, List.append_assoc] at same
  obtain ⟨headers, bodies⟩ := List.cons.inj same
  obtain ⟨names, async, parameters, returned⟩ :=
    header_injective left right ((String.append_right_inj _).mp headers)
  have indented (method : Method) : ∀ line ∈ method.body.map (indentation ++ indentation ++ ·),
      ∃ text, line = indentation ++ indentation ++ text := by
    intro line member
    obtain ⟨text, -, rfl⟩ := List.mem_map.mp member
    exact ⟨text, rfl⟩
  have closes : ¬ ∃ text, indentation ++ "\x7d" = indentation ++ indentation ++ text := by
    rintro ⟨text, brace⟩
    have chars := congrArg String.toList brace
    simp [indentation, String.toList_append] at chars
  obtain ⟨body, ended⟩ := delimited_stretch _ _ _ _ _ (indented first) (indented second)
    (stops_cons closes) (stops_cons closes) bodies
  have lines : first.body = second.body :=
    (List.map_inj_right fun _ _ => (String.append_right_inj _).mp).mp body
  cases first
  cases second
  cases names
  cases async
  cases parameters
  cases returned
  cases lines
  exact ⟨rfl, (List.cons.inj ended).2⟩

theorem delimited_methods :
    Delimited (∀ method ∈ ·, Method.Plain method) (fun rest => ∃ later, rest = "\x7d" :: later)
      (joined [""] Method.lines) := by
  apply Delimited.joined delimited_method
  · exact fun _ => trivial
  · exact fun _ _ => trivial
  · rintro rest others ⟨later, rfl⟩ same
    exact absurd (List.cons.inj same).1 (by decide)
  · rintro method rest others plain ⟨later, rfl⟩ same
    have chars := congrArg String.toList (List.cons.inj same).1
    simp [indentation, String.toList_append] at chars

namespace Statement

def keyword : Statement → String
  | .importNames .. => "import"
  | .constant .. => "const"
  | .typeAlias .. => "type"
  | .classDeclaration _ => "class"

def exported : Statement → Bool
  | .importNames .. => false
  | .constant _ _ exported => exported
  | .typeAlias _ _ exported => exported
  | .classDeclaration declared => declared.exported

def heading : Statement → String
  | .importNames source names =>
    "\x7b " ++ ", ".intercalate names ++ " \x7d from \"" ++ source ++ "\";"
  | .constant name initializer _ => name ++ " = " ++ initializer ++ ";"
  | .typeAlias name typeText _ => name ++ " = " ++ typeText ++ ";"
  | .classDeclaration declared => declared.name ++ " \x7b"

def remainder : Statement → List String
  | .classDeclaration declared => spaced (declared.methods.map (·.lines)) ++ ["\x7d"]
  | _ => []

theorem lines_eq (statement : Statement) :
    statement.lines =
      (exportWord statement.exported ++ (statement.keyword ++ " " ++ statement.heading)) ::
        statement.remainder := by
  cases statement with
  | importNames source names =>
    simp [lines, exported, exportWord, keyword, heading, remainder, ← String.toList_inj]
  | constant name initializer exported =>
    simp [lines, Statement.exported, keyword, heading, remainder, ← String.toList_inj]
  | typeAlias name typeText exported =>
    simp [lines, Statement.exported, keyword, heading, remainder, ← String.toList_inj]
  | classDeclaration declared =>
    simp [lines, Class.lines, exported, keyword, heading, remainder, ← String.toList_inj]

theorem keyword_proper (statement : Statement) :
    isSymbol statement.keyword = true ∧ statement.keyword ≠ "export" := by
  have proper : ∀ word ∈ ["import", "const", "type", "class"],
      isSymbol word = true ∧ word ≠ "export" := by decide
  apply proper
  cases statement <;> simp [keyword]

theorem toList_keyword (statement : Statement) :
    (statement.keyword ++ " " ++ statement.heading).toList =
      statement.keyword.toList ++ ' ' :: statement.heading.toList := by
  simp [String.toList_append]

theorem keyword_ne_export (statement : Statement) (later : String) :
    statement.keyword ++ " " ++ statement.heading ≠ "export " ++ later := by
  intro same
  have chars := congrArg String.toList same
  have opening : "export ".toList = "export".toList ++ [' '] := rfl
  rw [toList_keyword, String.toList_append, opening, List.append_assoc] at chars
  obtain ⟨word, -⟩ :=
    eq_of_symbols statement.keyword_proper.1 (by decide) (by decide) (by decide) chars
  exact statement.keyword_proper.2 word

theorem opening_injective {first second : Statement}
    (same : exportWord first.exported ++ (first.keyword ++ " " ++ first.heading) =
      exportWord second.exported ++ (second.keyword ++ " " ++ second.heading)) :
    first.exported = second.exported ∧ first.keyword = second.keyword ∧
      first.heading = second.heading := by
  obtain ⟨exported, openings⟩ :=
    flag_of_opening first.keyword_ne_export second.keyword_ne_export same
  have chars := congrArg String.toList openings
  rw [toList_keyword, toList_keyword] at chars
  obtain ⟨words, -, headings⟩ := eq_of_symbols first.keyword_proper.1 second.keyword_proper.1
    (by decide) (by decide) chars
  exact ⟨exported, words, String.toList_inj.mp headings⟩

theorem names_of_heading {source other : String} {names others : List String}
    (left : ∀ name ∈ names, isSymbol name = true) (right : ∀ name ∈ others, isSymbol name = true)
    (same : "\x7b " ++ ", ".intercalate names ++ " \x7d from \"" ++ source ++ "\";" =
      "\x7b " ++ ", ".intercalate others ++ " \x7d from \"" ++ other ++ "\";") :
    source = other ∧ names = others := by
  have chars := congrArg String.toList same
  simp only [String.toList_append, String.toList_intercalate, intercalate_map, List.append_assoc,
    List.append_cancel_left_eq] at chars
  have stops (rest : List Char) : ∃ later, " \x7d from \"".toList ++ rest = ' ' :: later := ⟨_, rfl⟩
  obtain ⟨named, sources⟩ := delimited_names _ _ _ _ left right (stops _) (stops _) chars
  rw [List.append_cancel_left_eq, List.append_cancel_right_eq] at sources
  exact ⟨String.toList_inj.mp sources, named⟩

theorem name_of_assignment {name other text value : String} (left : isSymbol name = true)
    (right : isSymbol other = true)
    (same : name ++ " = " ++ text ++ ";" = other ++ " = " ++ value ++ ";") :
    name = other ∧ text = value := by
  have chars := congrArg String.toList ((String.append_left_inj _).mp same)
  have equals : " = ".toList = [' ', '=', ' '] := rfl
  simp only [String.toList_append, equals, List.append_assoc, List.cons_append] at chars
  obtain ⟨named, -, texts⟩ := eq_of_symbols left right (by decide) (by decide) chars
  simp only [List.cons.injEq, true_and, List.nil_append] at texts
  exact ⟨named, String.toList_inj.mp texts⟩

end Statement

theorem delimited_statement : Delimited Statement.Plain (fun _ => True) Statement.lines := by
  intro first second rest others left right _ _ same
  simp only [Statement.lines_eq, List.cons_append, List.cons.injEq] at same
  obtain ⟨openings, remainders⟩ := same
  obtain ⟨exported, keywords, headings⟩ := Statement.opening_injective openings
  cases first with
  | importNames source names =>
    cases second with
    | importNames other listed =>
      obtain ⟨rfl, rfl⟩ := Statement.names_of_heading left.2 right.2 headings
      exact ⟨rfl, remainders⟩
    | _ => simp [Statement.keyword] at keywords
  | constant name initializer exported =>
    cases second with
    | constant other value _ =>
      obtain ⟨rfl, rfl⟩ := Statement.name_of_assignment left.1 right.1 headings
      cases exported
      exact ⟨rfl, remainders⟩
    | _ => simp [Statement.keyword] at keywords
  | typeAlias name typeText exported =>
    cases second with
    | typeAlias other text _ =>
      obtain ⟨rfl, rfl⟩ := Statement.name_of_assignment left.1 right.1 headings
      cases exported
      exact ⟨rfl, remainders⟩
    | _ => simp [Statement.keyword] at keywords
  | classDeclaration declared =>
    cases second with
    | classDeclaration other =>
      simp only [Statement.heading, String.append_left_inj] at headings
      simp only [Statement.remainder, spaced, intercalate_map, List.append_assoc,
        List.singleton_append] at remainders
      obtain ⟨methods, ended⟩ := delimited_methods _ _ _ _ left.2 right.2 ⟨_, rfl⟩ ⟨_, rfl⟩
        remainders
      cases declared
      cases other
      cases headings
      cases exported
      cases methods
      exact ⟨rfl, (List.cons.inj ended).2⟩
    | _ => simp [Statement.keyword] at keywords

/-- Statements with empty lines between them. Behind the last one there is nothing; a closing brace
may stand for that, as no statement begins with one. -/
theorem delimited_statements :
    Delimited (∀ statement ∈ ·, Statement.Plain statement) (fun rest => rest = ["\x7d"])
      (joined [""] Statement.lines) := by
  apply Delimited.joined delimited_statement
  · exact fun _ => trivial
  · exact fun _ _ => trivial
  · rintro rest others rfl same
    exact absurd (List.cons.inj same).1 (by decide)
  · rintro statement rest others plain rfl same
    rw [Statement.lines_eq, List.cons_append] at same
    have blank : ' ' ∈ "\x7d".toList := by
      rw [← (List.cons.inj same).1]
      simp [String.toList_append]
    exact absurd blank (by decide)

/-- The text of a plain file tells the file. -/
theorem render_injective {first second : SourceFile} (left : first.Plain) (right : second.Plain)
    (same : first.render = second.render) : first = second := by
  have lines : first.lines = second.lines := lines_of_text left.oneLine right.oneLine same
  rw [SourceFile.lines, SourceFile.lines, spaced, spaced, intercalate_map, intercalate_map] at lines
  obtain ⟨statements, -⟩ :=
    delimited_statements _ _ _ _ left right rfl rfl (congrArg (· ++ ["\x7d"]) lines)
  cases first
  cases second
  cases statements
  rfl

end ModelRepositories.TypeScript
