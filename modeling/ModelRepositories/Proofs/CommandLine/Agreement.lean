import ModelRepositories.CommandLine
import ModelRepositories.Proofs.Generation.Extraction

/-!
The tool beside a generation. Whatever its input file holds, a captured payload or a bare document,
the tool does with the document in it what a generation does that is asked for the same document and
the same output. Only without any models it leaves the output alone.
-/

namespace ModelRepositories.CommandLine

open Json Schema World

/-- Calls with the output behind `--output=`. An input that looks like an option stands behind a
separator. -/
inductive Calls (input output : String) : List String → Prop
  | outputFirst (plain : isOption input.toList = false) :
    Calls input output ["--output=" ++ output, input]
  | inputFirst (plain : isOption input.toList = false) :
    Calls input output [input, "--output=" ++ output]
  | separated : Calls input output ["--output=" ++ output, "--", input]

theorem classify_attached (value : List Char) :
    classify ("--output=".toList ++ value) = .output (some (String.ofList value)) := by
  have size : "--output=".toList.length = 9 := by decide
  have differs {other : List Char} (short : other.length < 9) :
      "--output=".toList ++ value ≠ other := by
    intro same
    rw [← same, List.length_append, size] at short
    omega
  have opening : "--output=".toList.isPrefixOf ("--output=".toList ++ value) = true :=
    List.isPrefixOf_iff_prefix.mpr (List.prefix_append _ _)
  unfold classify
  rw [if_neg (differs (by decide)), if_neg (differs (by decide)),
    if_neg (differs (by decide)), if_pos opening, ← String.length_toList, List.drop_left]

theorem classify_output (output : String) :
    classify ("--output=" ++ output).toList = .output (some output) := by
  rw [String.toList_append, classify_attached, String.ofList_toList]

theorem classify_input {text : List Char} (plain : isOption text = false) :
    classify text = .input := by
  have differs {other : List Char} (option : isOption other = true) : text ≠ other := by
    intro same
    rw [same, option] at plain
    cases plain
  have unattached : ¬ "--output=".toList.isPrefixOf text = true := by
    rw [List.isPrefixOf_iff_prefix]
    rintro ⟨rest, rfl⟩
    have dashes : "--output=".toList = '-' :: '-' :: "output=".toList := by decide
    rw [dashes] at plain
    simp [isOption] at plain
  unfold classify
  rw [if_neg (differs (by decide)), if_neg (differs (by decide)),
    if_neg (differs (by decide)), if_neg unattached]
  split
  · simp [isOption] at plain
  · simp [isOption] at plain
  · simp [isOption] at plain
  · simp [isOption] at plain
  · rw [if_neg (by rw [plain]; decide)]

theorem addInput?_some {seen : Seen} {input : String} (given : input ≠ "")
    (first : seen.input = none) :
    seen.addInput? input = some { seen with input := some input } := by
  simp [Seen.addInput?, given, first]

theorem addOutput?_some {seen : Seen} {output : String} (given : output ≠ "")
    (first : seen.output = none) :
    seen.addOutput? output = some { seen with output := some output } := by
  simp [Seen.addOutput?, given, first]

theorem readArguments_of_calls {input output : String} {arguments : List String}
    (called : Calls input output arguments) (given : input ≠ "") (written : output ≠ "") :
    readArguments {} arguments = .run ⟨⟨input⟩, ⟨output⟩⟩ := by
  cases called with
  | outputFirst plain =>
    simp only [readArguments, classify_output, classify_input plain,
      addOutput?_some written, addInput?_some given]
    rfl
  | inputFirst plain =>
    simp only [readArguments, classify_output, classify_input plain,
      addOutput?_some written, addInput?_some given]
    rfl
  | separated =>
    have separator : classify "--".toList = .separator := by rfl
    simp only [readArguments, classify_output, separator, readInputs,
      addOutput?_some written, addInput?_some given]
    rfl

theorem input_named {tree : FileTree} {input text : String}
    (readable : tree.readText ⟨input⟩ = .ok text) : input ≠ "" := by
  rintro rfl
  have nowhere : tree.readText ⟨""⟩ = .error .notFound := rfl
  rw [nowhere] at readable
  cases readable

/-- The document in a value: its member of that name, if it is an object that has one, and the value
itself otherwise. -/
inductive HoldsDocument : Value → Value → Prop
  | member {members : Members} {document : Value}
    (held : Members.get? "dmmf" members = some document) : HoldsDocument (.obj members) document
  | memberless {members : Members} (missing : Members.get? "dmmf" members = none) :
    HoldsDocument (.obj members) (.obj members)
  | other {value : Value} (different : ∀ members, value ≠ .obj members) : HoldsDocument value value

theorem documentValue_of_holds {value document : Value} (holds : HoldsDocument value document) :
    documentValue value = document := by
  cases holds with
  | member held => rw [documentValue, held, Option.getD_some]
  | memberless missing => rw [documentValue, missing, Option.getD_none]
  | other different =>
    cases value with
    | obj members => exact absurd rfl (different members)
    | _ => rfl

def exitCodeOf : Except Failure (List Path) → Nat
  | .ok _ => 0
  | .error _ => 1

theorem exitCodeOf_eq_zero {outcome : Except Failure (List Path)} :
    exitCodeOf outcome = 0 ↔ ∃ files, outcome = .ok files := by
  cases outcome with
  | ok files => simp [exitCodeOf]
  | error failure => simp [exitCodeOf]

theorem toolFinished_exitCode (arguments : Arguments) (outcome : Except Failure (List Path)) :
    (toolFinished arguments outcome).exitCode = exitCodeOf outcome := by
  cases outcome <;> rfl

/-- What the tool makes of a tree and the code it exits with, which depend on the document alone. -/
def settle (tree : FileTree) (output : Path) (document : Value) : FileTree × Nat :=
  match Document.ofJson document with
  | .error _ => (tree, 1)
  | .ok decoded =>
    if decoded.datamodel.models = [] then (tree, 0)
    else
      let ran := World.run ⟨tree, []⟩ (writeRepositories decoded.datamodel.models output)
      (ran.1.tree, exitCodeOf ran.2)

section Tool

variable {tree : FileTree} {text : String} {value document : Value} {arguments : Arguments}

theorem readDocument_of_holds (parsed : parse text = .ok value)
    (holds : HoldsDocument value document) :
    readDocument text =
      (Document.ofJson document).mapError fun failure => .failed failure.debug := by
  rw [readDocument, parsed, ← documentValue_of_holds holds]
  rfl

theorem toolScript_ok : toolScript arguments (.ok text) =
    (readDocument text).bind fun document =>
      if document.datamodel.models.isEmpty then
        .error (.withErrors 0 ("No models found in " ++ arguments.input.text ++ "\n"))
      else .ok (writeRepositories document.datamodel.models arguments.output) :=
  rfl

theorem toolScript_broken {finished : Finished} (read : readDocument text = .error finished) :
    toolScript arguments (.ok text) = .error finished := by
  rw [toolScript_ok, read]
  rfl

theorem toolScript_read {decoded : Document} (read : readDocument text = .ok decoded) :
    toolScript arguments (.ok text) =
      if decoded.datamodel.models = [] then
        .error (.withErrors 0 ("No models found in " ++ arguments.input.text ++ "\n"))
      else .ok (writeRepositories decoded.datamodel.models arguments.output) := by
  rw [toolScript_ok, read]
  simp only [← List.isEmpty_iff]
  rfl

theorem runTool_of_read {called : List String} (read : readArguments {} called = .run arguments) :
    runTool called tree =
      match toolScript arguments (tree.readText arguments.input) with
      | .error finished => (tree, finished)
      | .ok script =>
        ((World.run ⟨tree, []⟩ script).1.tree,
          toolFinished arguments (World.run ⟨tree, []⟩ script).2) := by
  have asked : World.machine.readText arguments.input ⟨tree, []⟩ =
      (tree.readText arguments.input, ⟨tree, []⟩) := rfl
  rw [runTool, tool, read]
  simp only [generateFile, bind_state, asked]
  cases toolScript arguments (tree.readText arguments.input) <;> rfl

theorem runTool_settles_of_read {called : List String}
    (read : readArguments {} called = .run arguments)
    (readable : tree.readText arguments.input = .ok text) (parsed : parse text = .ok value)
    (holds : HoldsDocument value document) :
    ((runTool called tree).1, (runTool called tree).2.exitCode) =
      settle tree arguments.output document := by
  rw [runTool_of_read read, readable]
  have read := readDocument_of_holds parsed holds
  cases decodes : Document.ofJson document with
  | error failure =>
    rw [decodes] at read
    simp only [toolScript_broken read, settle, decodes]
    rfl
  | ok decoded =>
    rw [decodes] at read
    by_cases empty : decoded.datamodel.models = []
    · simp only [toolScript_read read, settle, decodes, if_pos empty]
      rfl
    · simp only [toolScript_read read, settle, decodes, if_neg empty, toolFinished_exitCode]

theorem runTool_settles {input output : String} {called : List String}
    (calls : Calls input output called) (written : output ≠ "")
    (readable : tree.readText ⟨input⟩ = .ok text) (parsed : parse text = .ok value)
    (holds : HoldsDocument value document) :
    ((runTool called tree).1, (runTool called tree).2.exitCode) =
      settle tree ⟨output⟩ document := by
  have read := readArguments_of_calls calls (input_named readable) written
  have settles := runTool_settles_of_read read readable parsed holds
  exact settles

end Tool

/-- What the tool comes to, beside any generation with the same document and the same output: what
else the options of that generation hold and what was reported before makes no difference. -/
structure Agrees (tree : FileTree) (output : Path) (document : Value)
    (finished : FileTree × Finished) : Prop where
  broken : ∀ failure, Document.ofJson document = .error failure →
    finished.2.exitCode = 1 ∧ finished.1 = tree
  empty : ∀ decoded, Document.ofJson document = .ok decoded → decoded.datamodel.models = [] →
    finished.2.exitCode = 0 ∧ finished.1 = tree
  generated : ∀ decoded, Document.ofJson document = .ok decoded → decoded.datamodel.models ≠ [] →
    ∀ environment options events, Resolves environment options output →
      options.dmmf = some document →
        let ran := World.run ⟨tree, events⟩ (options.script environment)
        (finished.2.exitCode = 0 ↔ ∃ files, ran.2 = .ok files) ∧ finished.1 = ran.1.tree

theorem agrees_of_settles {tree : FileTree} {output : Path} {document : Value}
    {finished : FileTree × Finished}
    (settles : (finished.1, finished.2.exitCode) = settle tree output document) :
    Agrees tree output document finished where
  broken := by
    intro failure decodes
    simp only [settle, decodes, Prod.mk.injEq] at settles
    exact settles.symm
  empty := by
    intro decoded decodes empty
    simp only [settle, decodes, if_pos empty, Prod.mk.injEq] at settles
    exact settles.symm
  generated := by
    intro decoded decodes filled environment options events resolves held ran
    have read : options.document = .ok decoded := by rw [Options.document, held, ← decodes]
    obtain ⟨outcome, reached⟩ :=
      run_described ⟨tree, events⟩ (outputPath_of_resolves resolves) read
    have same : (World.mk tree events).tree = (World.mk tree []).tree := rfl
    obtain ⟨silent, left⟩ :=
      run_of_tree same (writeRepositories decoded.datamodel.models output)
    simp only [settle, decodes, if_neg filled, Prod.mk.injEq] at settles
    refine ⟨?_, settles.1.trans (left.symm.trans reached.symm)⟩
    rw [settles.2, exitCodeOf_eq_zero, outcome, silent]

/-- The tool agrees with every such generation, and all calls whose inputs hold one document come to
the same. -/
theorem tool_agrees_with_generation {input output text : String} {arguments : List String}
    {tree : FileTree} {value document : Value} (called : Calls input output arguments)
    (written : output ≠ "") (readable : tree.readText ⟨input⟩ = .ok text)
    (parsed : parse text = .ok value) (holds : HoldsDocument value document) :
    Agrees tree ⟨output⟩ document (runTool arguments tree) ∧
      ∀ other otherArguments otherText otherValue, Calls other output otherArguments →
        tree.readText ⟨other⟩ = .ok otherText → parse otherText = .ok otherValue →
          HoldsDocument otherValue document →
            (runTool otherArguments tree).2.exitCode = (runTool arguments tree).2.exitCode ∧
              (runTool otherArguments tree).1 = (runTool arguments tree).1 := by
  have settles := runTool_settles called written readable parsed holds
  refine ⟨agrees_of_settles settles, ?_⟩
  intro other otherArguments otherText otherValue otherCalled otherReadable otherParsed otherHolds
  have alike := runTool_settles otherCalled written otherReadable otherParsed otherHolds
  rw [← settles, Prod.mk.injEq] at alike
  exact ⟨alike.2, alike.1⟩

theorem agreement_of_nested_file :
    let bare := "\x7b\"datamodel\": \x7b\"models\": [\x7b\"name\": \"Log\"\x7d]\x7d\x7d"
    let nested := "\x7b\"dmmf\": " ++ bare ++ "\x7d"
    let tree := ((FileTree.empty.put ["log"] (.file bare.toUTF8)).put ["out"] .directory).put
      ["out", "log"] (.file nested.toUTF8)
    let document : Value :=
      .obj [("datamodel", .obj [("models", .arr [.obj [("name", .str "Log")]])])]
    Agrees tree ⟨"out"⟩ document (runTool ["log", "--output=out"] tree) ∧
      (runTool ["log", "--output=out"] tree).2.exitCode = 0 ∧
      (runTool ["--output=out", "--", "out/log"] tree).2.exitCode = 0 ∧
      (runTool ["--output=out", "--", "out/log"] tree).1 =
        (runTool ["log", "--output=out"] tree).1 := by
  intro bare nested tree document
  have held : HoldsDocument (.obj [("dmmf", document)]) document := .member rfl
  have itself : HoldsDocument document document := .memberless rfl
  have parsed : parse bare = .ok document := by
    subst bare
    rfl
  have wrapped : parse nested = .ok (.obj [("dmmf", document)]) := by
    subst nested bare
    rfl
  have outside : tree.resolve ⟨"log"⟩ = .ok (.present ["log"]) := rfl
  have inside : tree.resolve ⟨"out/log"⟩ = .ok (.present ["out", "log"]) := rfl
  obtain ⟨agrees, alike⟩ := tool_agrees_with_generation
    (.inputFirst (show isOption "log".toList = false by decide)) (show "out" ≠ "" by decide)
    (FileTree.readText_of_resolve outside rfl) parsed itself
  obtain ⟨code, left⟩ :=
    alike _ _ _ _ .separated (FileTree.readText_of_resolve inside rfl) wrapped held
  have spelled : "--output=" ++ "out" = "--output=out" := rfl
  rw [spelled] at agrees code left
  let options : Options :=
    { generator := { output := some (.literal "out") }, dmmf := some document }
  obtain ⟨succeeds, -⟩ := agrees.generated ⟨⟨[{ name := "Log" }], []⟩⟩ rfl (by decide) ⟨[]⟩
    options [] ⟨.literal "out", rfl, .literal rfl⟩ rfl
  have done : (World.run ⟨tree, []⟩ (options.script ⟨[]⟩)).2.toOption =
      some [⟨"out/log/log.repository.ts"⟩] := by
    decide +kernel
  have success : (runTool ["log", "--output=out"] tree).2.exitCode = 0 :=
    succeeds.mpr ⟨_, congrArg Prod.snd (eq_of_toOption done)⟩
  exact ⟨agrees, success, code.trans success, left⟩

end ModelRepositories.CommandLine
