import ModelRepositories.Proofs.Generation.Steps
import ModelRepositories.Proofs.Json.Record
import ModelRepositories.Protocol.Response

/-!
What comes before the files. A generation asks its options for an output and then for a document; it
touches the files only if it has both, and then it does what writing the models of the document
does. An output that stands where something else than a directory is ends it there.
-/

namespace ModelRepositories

open Json Schema World FileTree

theorem keeps_generator :
    Options.record.Keeps "generator" GeneratorBlock.record.decode Options.generator where
  distinct := by decide
  own := by
    simp only [Options.record, Slot.require, Slot.default, List.forall_mem_cons]
    refine ⟨fun _ => Slot.sets_of_put rfl fun _ _ => rfl, ?_⟩
    simp
  others := by
    simp only [Options.record, Slot.require, Slot.default, List.forall_mem_cons]
    refine ⟨fun other => absurd rfl other, ?_, ?_, ?_, ?_, ?_, by simp⟩ <;>
      exact fun _ => Slot.leaves_of_put rfl fun _ _ => rfl

theorem keeps_output :
    GeneratorBlock.record.Keeps "output" (decodeOption Setting.decode) GeneratorBlock.output where
  distinct := by decide
  own := by
    simp only [GeneratorBlock.record, Slot.require, Slot.default, List.forall_mem_cons]
    refine ⟨by simp, by simp, fun _ => Slot.sets_of_put rfl fun _ _ => rfl, ?_⟩
    simp
  others := by
    simp only [GeneratorBlock.record, Slot.require, Slot.default, List.forall_mem_cons]
    refine ⟨?_, ?_, fun other => absurd rfl other, ?_, ?_, ?_, by simp⟩ <;>
      exact fun _ => Slot.leaves_of_put rfl fun _ _ => rfl

theorem keeps_dmmf : Options.record.Keeps "dmmf" (decodeOption decodeRaw) Options.dmmf where
  distinct := by decide
  own := by
    simp only [Options.record, Slot.require, Slot.default, List.forall_mem_cons]
    refine ⟨by simp, by simp, by simp, by simp, fun _ => Slot.sets_of_put rfl fun _ _ => rfl, ?_⟩
    simp
  others := by
    simp only [Options.record, Slot.require, Slot.default, List.forall_mem_cons]
    refine ⟨?_, ?_, ?_, ?_, fun other => absurd rfl other, ?_, by simp⟩ <;>
      exact fun _ => Slot.leaves_of_put rfl fun _ _ => rfl

theorem decodeOption_eq_none {α : Type} {present : Decoder α} {value : Value} :
    decodeOption present value = .ok none ↔ value = .null := by
  cases value with
  | null => simp [decodeOption]
  | _ => simp [decodeOption, map_eq_ok]

theorem decodeOption_raw_eq_some {part value : Value} :
    decodeOption decodeRaw part = .ok (some value) ↔ part = value ∧ value ≠ .null := by
  cases part with
  | null =>
    constructor
    · intro empty
      cases empty
    · rintro ⟨rfl, present⟩
      exact absurd rfl present
  | _ =>
    simp only [decodeOption, decodeRaw, map_eq_ok, Except.ok.injEq, Option.some.injEq]
    constructor
    · rintro ⟨_, rfl, rfl⟩
      simp
    · rintro ⟨rfl, -⟩
      exact ⟨_, rfl, rfl⟩

/-- A part that is absent or null. -/
def Missing (part : Option Value) : Prop :=
  part = none ∨ part = some .null

theorem missing_of_reads {α : Type} {present : Decoder α} {part : Option Value}
    {after : Option α} (reads : Record.Reads (decodeOption present) part none after) :
    after = none ↔ Missing part := by
  cases part with
  | none =>
    have blank : after = none := reads
    simp [Missing, blank]
  | some value =>
    have decoded : decodeOption present value = .ok after := reads
    constructor
    · rintro rfl
      exact Or.inr (congrArg some (decodeOption_eq_none.mp decoded))
    · rintro (absent | null)
      · cases absent
      · rw [decodeOption_eq_none.mpr (Option.some.inj null)] at decoded
        exact (Except.ok.inj decoded).symm

section Payload

variable {payload : Value} {options : Options}

def outputPart? (payload : Value) : Option Value :=
  (Options.record.part? "generator" payload).bind (GeneratorBlock.record.part? "output")

theorem decode_of_ofJson (decoded : Options.ofJson payload = .ok options) :
    Options.record.decode payload = .ok options := by
  unfold Options.ofJson at decoded
  cases outcome : Options.record.decode payload with
  | error fault =>
    rw [outcome] at decoded
    cases decoded
  | ok other =>
    rw [outcome] at decoded
    cases decoded
    rfl

theorem output_missing (decoded : Options.ofJson payload = .ok options) :
    options.generator.output = none ↔ Missing (outputPart? payload) := by
  have block := Record.decode_reads keeps_generator (by decide) (decode_of_ofJson decoded)
  unfold outputPart?
  cases found : Options.record.part? "generator" payload with
  | none =>
    rw [found] at block
    have blank : options.generator = {} := block
    simp [blank, Missing]
  | some value =>
    rw [found] at block
    exact missing_of_reads (Record.decode_reads keeps_output (by decide) block)

theorem dmmf_missing (decoded : Options.ofJson payload = .ok options) :
    options.dmmf = none ↔ Missing (Options.record.part? "dmmf" payload) :=
  missing_of_reads (Record.decode_reads keeps_dmmf (by decide) (decode_of_ofJson decoded))

theorem dmmf_present (decoded : Options.ofJson payload = .ok options) (value : Value) :
    options.dmmf = some value ↔
      Options.record.part? "dmmf" payload = some value ∧ value ≠ .null := by
  have reads := Record.decode_reads keeps_dmmf (by decide) (decode_of_ofJson decoded)
  cases found : Options.record.part? "dmmf" payload with
  | none =>
    rw [found] at reads
    have unset : options.dmmf = none := reads
    simp [unset]
  | some part =>
    rw [found] at reads
    have read : decodeOption decodeRaw part = .ok options.dmmf := reads
    rw [Option.some.injEq, ← decodeOption_raw_eq_some, read, Except.ok.injEq]

end Payload

/-- The text of a setting: the literal, or what the variable holds. -/
inductive Setting.Gives (environment : Environment) (setting : Setting) (text : String) : Prop
  | literal (given : setting.value = some text)
  | variable {name : String} (absent : setting.value = none)
    (named : setting.variableName = some name) (held : environment.get? name = some text)

section Sources

variable {environment : Environment} {options : Options}

/-- There is no output, or its setting gives no text. -/
def Unresolved (environment : Environment) (options : Options) : Prop :=
  ∀ setting, options.generator.output = some setting →
    ∀ text, ¬ setting.Gives environment text

/-- There is no document, or it cannot be read. -/
def Undescribed (options : Options) : Prop :=
  ∀ value, options.dmmf = some value → ∃ fault, Document.decode value = .error fault

def Resolves (environment : Environment) (options : Options) (output : Path) : Prop :=
  ∃ setting, options.generator.output = some setting ∧ setting.Gives environment output.text

def Describes (options : Options) (document : Document) : Prop :=
  ∃ value, options.dmmf = some value ∧ Document.decode value = .ok document

theorem resolve_cases (environment : Environment) (setting : Setting) :
    (∃ text, setting.Gives environment text ∧ setting.resolve environment = .ok text) ∨
      (∀ text, ¬ setting.Gives environment text) ∧
        ∃ cause, setting.resolve environment = .error (.options cause) := by
  rcases setting with ⟨given | literal, variableName⟩
  · cases variableName with
    | none =>
      refine Or.inr ⟨?_, _, rfl⟩
      rintro text (given | ⟨-, named, -⟩)
      · cases given
      · cases named
    | some name =>
      cases held : environment.get? name with
      | some text =>
        refine Or.inl ⟨text, .variable rfl rfl held, ?_⟩
        simp only [Setting.resolve, held]
      | none =>
        refine Or.inr ⟨?_, .variableNotFound name, by simp only [Setting.resolve, held]⟩
        rintro text (given | ⟨-, named, found⟩)
        · cases given
        · cases named
          rw [held] at found
          cases found
  · exact Or.inl ⟨literal, .literal rfl, rfl⟩

theorem outputPath_cases (environment : Environment) (options : Options) :
    (∃ output, Resolves environment options output ∧
        options.outputPath environment = .ok output) ∨
      Unresolved environment options ∧
        ∃ cause, options.outputPath environment = .error (.options cause) := by
  cases asked : options.generator.output with
  | none =>
    refine Or.inr ⟨?_, _, by rw [Options.outputPath, asked]⟩
    intro setting given
    rw [asked] at given
    cases given
  | some setting =>
    rcases resolve_cases environment setting with ⟨text, gives, resolved⟩ | ⟨open_, cause, failed⟩
    · refine Or.inl ⟨⟨text⟩, ⟨setting, asked, gives⟩, ?_⟩
      simp only [Options.outputPath, asked, resolved]
      rfl
    · refine Or.inr ⟨?_, cause, ?_⟩
      · intro other same
        rw [asked] at same
        cases same
        exact open_
      · simp only [Options.outputPath, asked, failed]
        rfl

theorem outputPath_of_resolves {output : Path} (resolves : Resolves environment options output) :
    options.outputPath environment = .ok output := by
  obtain ⟨setting, asked, given | ⟨absent, named, held⟩⟩ := resolves
  · simp only [Options.outputPath, asked, Setting.resolve, given]
    rfl
  · simp only [Options.outputPath, asked, Setting.resolve, absent, named, held]
    rfl

theorem document_cases (options : Options) :
    (∃ document, Describes options document ∧ options.document = .ok document) ∨
      Undescribed options ∧ ∃ cause, options.document = .error (.schema cause) := by
  cases held : options.dmmf with
  | none =>
    refine Or.inr ⟨?_, _, by rw [Options.document, held]⟩
    intro value given
    rw [held] at given
    cases given
  | some value =>
    cases read : Document.decode value with
    | ok document =>
      refine Or.inl ⟨document, ⟨value, held, read⟩, ?_⟩
      simp only [Options.document, held, Document.ofJson, read]
      rfl
    | error fault =>
      refine Or.inr ⟨?_, .malformed fault, ?_⟩
      · intro other same
        rw [held] at same
        cases same
        exact ⟨fault, read⟩
      · simp only [Options.document, held, Document.ofJson, read]
        rfl

theorem not_unresolved {output : Path} (resolves : Resolves environment options output) :
    ¬ Unresolved environment options := by
  obtain ⟨setting, asked, gives⟩ := resolves
  exact fun unresolved => unresolved setting asked _ gives

theorem not_undescribed {document : Document} (describes : Describes options document) :
    ¬ Undescribed options := by
  obtain ⟨value, held, read⟩ := describes
  intro undescribed
  obtain ⟨fault, failed⟩ := undescribed value held
  rw [read] at failed
  cases failed

end Sources

theorem perform_failure {world : World} {action : Action} {failure : Failure}
    (failed : (world.perform action).2 = .error failure) :
    ∃ path fault, failure = .access path fault := by
  cases action with
  | report event => cases failed
  | makeDirectories path =>
    rw [perform_makeDirectories] at failed
    rcases made : world.tree.makeDirectories path with ⟨tree, fault | ⟨⟩⟩
    · rw [made] at failed
      exact ⟨path, fault, (Except.error.inj failed).symm⟩
    · rw [made] at failed
      cases failed
  | emptyDirectory path =>
    rw [perform_emptyDirectory] at failed
    rcases emptied : world.tree.emptyDirectory path with ⟨tree, ⟨place, fault⟩ | ⟨⟩⟩
    · rw [emptied] at failed
      exact ⟨place, fault, (Except.error.inj failed).symm⟩
    · rw [emptied] at failed
      cases failed
  | write path text =>
    rw [perform_write] at failed
    cases wrote : world.tree.write path text.toUTF8 with
    | error fault =>
      rw [wrote] at failed
      exact ⟨path, fault, (Except.error.inj failed).symm⟩
    | ok tree =>
      rw [wrote] at failed
      cases failed

theorem performAll_failure {world : World} {actions : List Action} {failure : Failure}
    (failed : (world.performAll actions).2 = .error failure) :
    ∃ path fault, failure = .access path fault := by
  induction actions generalizing world with
  | nil => cases failed
  | cons action rest ih =>
    rw [performAll_cons] at failed
    rcases performed : world.perform action with ⟨after, reason | ⟨⟩⟩
    · rw [performed] at failed
      cases failed
      exact perform_failure (by rw [performed])
    · rw [performed] at failed
      exact ih failed

theorem run_failure {world : World} {models : List Model} {output : Path} {failure : Failure}
    (failed : (world.run (writeRepositories models output)).2 = .error failure) :
    ∃ path fault, failure = .access path fault := by
  rw [run_eq] at failed
  rcases performed : world.performAll (writeRepositories models output).actions
    with ⟨after, reason | ⟨⟩⟩
  · rw [performed] at failed
    cases failed
    exact performAll_failure (by rw [performed])
  · rw [performed] at failed
    cases failed

theorem run_report {α : Type} (world : World) (event : Event) (script : Script α) :
    ((world.report event).run script).2 = (world.run script).2 ∧
      ((world.report event).run script).1.tree = (world.run script).1.tree :=
  have same : (world.report event).tree = world.tree := rfl
  run_of_tree same script

section Options

variable {environment : Environment} {options : Options} (world : World)

theorem run_unresolved (unresolved : Unresolved environment options) :
    ∃ cause, world.run (options.script environment) = (world, .error (.options cause)) := by
  rcases outputPath_cases environment options with ⟨output, resolves, -⟩ | ⟨-, cause, failed⟩
  · exact absurd unresolved (not_unresolved resolves)
  · exact ⟨cause, by rw [Options.script, failed]; rfl⟩

theorem run_undescribed {output : Path} (resolves : Resolves environment options output)
    (undescribed : Undescribed options) :
    ∃ cause, (world.run (options.script environment)).2 = .error (.schema cause) ∧
      (world.run (options.script environment)).1.tree = world.tree := by
  rcases outputPath_cases environment options with ⟨place, -, reached⟩ | ⟨unresolved, -⟩
  · rcases document_cases options with ⟨document, describes, -⟩ | ⟨-, cause, failed⟩
    · exact absurd undescribed (not_undescribed describes)
    · exact ⟨cause, by rw [Options.script, reached, failed]; exact ⟨rfl, rfl⟩⟩
  · exact absurd unresolved (not_unresolved resolves)

theorem run_described {output : Path} {document : Document}
    (reached : options.outputPath environment = .ok output)
    (read : options.document = .ok document) :
    (world.run (options.script environment)).2 =
        (world.run (writeRepositories document.datamodel.models output)).2 ∧
      (world.run (options.script environment)).1.tree =
        (world.run (writeRepositories document.datamodel.models output)).1.tree := by
  rw [Options.script, reached, read]
  exact run_report world _ (writeRepositories document.datamodel.models output)

end Options

theorem vacancy_over {tree : FileTree} {output : Path} {place : Location}
    (stands : tree.placeOf output = .ok place) :
    ∃ fault, fault ≠ .notFound ∧
      tree.vacancy (tree.start output) output.pieces = .error fault := by
  unfold placeOf at stands
  split at stands
  · cases stands
  · next name last =>
    cases held : tree.holder (tree.start output) output.pieces with
    | error fault =>
      rw [held] at stands
      cases stands
    | ok dir? =>
      rw [held] at stands
      cases dir? with
      | none => cases stands
      | some dir =>
        have present : (tree.get? (dir ++ [name])).isSome = true := by
          by_cases present : (tree.get? (dir ++ [name])).isSome = true
          · exact present
          · simp [bind, Except.bind, present] at stands
        simp only [vacancy, last, held, bind, Except.bind, present, if_true]
        split
        · exact ⟨.alreadyExists, by simp, rfl⟩
        · split
          · exact ⟨.nameTooLong, by simp, rfl⟩
          · exact ⟨.alreadyExists, by simp, rfl⟩

/-- Where something else than a directory stands, and no link leads to one, none is made. -/
theorem makeDirectories_over {tree : FileTree} {output : Path} {place : Location}
    (stands : tree.placeOf output = .ok place)
    (blocked : tree.leadsToDirectory (tree.start output) output.pieces = false) :
    ∃ fault, tree.makeDirectories output = (tree, .error fault) := by
  have written : output.isEmpty = false := by
    rw [Bool.eq_false_iff]
    intro empty
    have unnamed : output = ⟨""⟩ := by
      rcases output with ⟨text⟩
      simpa [Path.isEmpty] using empty
    subst unnamed
    cases stands
  obtain ⟨fault, other, taken⟩ := vacancy_over stands
  have refused : tree.makeDirectory (tree.start output) output.pieces = .error fault := by
    rw [makeDirectory, taken]
    rfl
  cases passed : output.check with
  | error early => exact ⟨early, by rw [makeDirectories_eq, passed]⟩
  | ok _ =>
    refine ⟨fault, ?_⟩
    simp only [makeDirectories_eq, passed, written, makeChain_cons, refused, blocked]
    cases fault with
    | notFound => exact absurd rfl other
    | _ => rfl

theorem run_over {world : World} {output : Path} {place : Location} (models : List Model)
    (stands : world.tree.placeOf output = .ok place)
    (blocked : world.tree.leadsToDirectory (world.tree.start output) output.pieces = false) :
    ∃ fault, (world.run (writeRepositories models output)).2 = .error (.access output fault) ∧
      (world.run (writeRepositories models output)).1.tree = world.tree := by
  obtain ⟨fault, refused⟩ := makeDirectories_over stands blocked
  refine ⟨fault, ?_⟩
  have ran : world.run (writeRepositories models output) =
      (world, .error (.access output fault)) := by
    simp only [run_eq, writeRepositories, List.cons_append, performAll_cons,
      perform_makeDirectories, refused, mapError_error]
  rw [ran]
  exact ⟨rfl, rfl⟩

section Requests

open Protocol

variable (environment : Environment) (world : World)

theorem respond_answer {request : Request} (other : request.method ≠ "generate") :
    (respond environment world request).1.tree = world.tree := by
  rw [respond_eq, Request.task]
  by_cases describes : request.method = "getManifest"
  · rw [if_pos describes]
    rfl
  · rw [if_neg describes, if_neg other]
    rfl

theorem tree_reports (world : World) (events : List Event) :
    (events.foldl World.report world).tree = world.tree := by
  induction events generalizing world with
  | nil => rfl
  | cons event rest ih => exact ih (world.report event)

theorem respond_generate {request : Request} (generates : request.method = "generate") :
    (respond environment world request).2.reply =
        generationReply (world.run (scriptOfParams environment request.params)).2 ∧
      (respond environment world request).1.tree =
        (world.run (scriptOfParams environment request.params)).1.tree := by
  have task : request.task environment =
      .generate (scriptOfParams environment request.params) := by
    rw [Request.task, generates]
    rfl
  obtain ⟨outcome, reached⟩ := run_report world (.request request.method request.id)
    (scriptOfParams environment request.params)
  rw [respond_eq, task]
  exact ⟨congrArg generationReply outcome, (tree_reports _ _).trans reached⟩

theorem respond_undecodable {request : Request} {failure : Failure}
    (generates : request.method = "generate")
    (broken : Options.ofJson request.params = .error failure) :
    (respond environment world request).2.reply =
        generationReply (.error failure : Except Failure Unit) ∧
      (respond environment world request).1.tree = world.tree := by
  obtain ⟨reply, reached⟩ := respond_generate environment world generates
  rw [scriptOfParams, broken] at reply reached
  exact ⟨reply, reached⟩

theorem json_of_ofJson {payload : Value} {failure : Failure}
    (broken : Options.ofJson payload = .error failure) : ∃ error, failure = .json error := by
  unfold Options.ofJson at broken
  cases outcome : Options.record.decode payload with
  | ok options =>
    rw [outcome] at broken
    cases broken
  | error fault =>
    rw [outcome] at broken
    cases broken
    exact ⟨_, rfl⟩

end Requests

/-- A generation fails for its output before it fails for its document, and for neither once it has
touched a file; without both, as for every request that does not get that far, the tree stays. -/
theorem generation_settled_before_files (environment : Environment) (world : World) :
    (∀ options : Options,
      let ran := world.run (options.script environment)
      ((∃ cause, ran.2 = .error (.options cause)) ↔ Unresolved environment options) ∧
      (¬ Unresolved environment options →
        ((∃ cause, ran.2 = .error (.schema cause)) ↔ Undescribed options)) ∧
      (Unresolved environment options ∨ Undescribed options → ran.1.tree = world.tree) ∧
      (¬ Unresolved environment options → ¬ Undescribed options →
        ∃ output document, Resolves environment options output ∧ Describes options document ∧
          ran.2 = (world.run (writeRepositories document.datamodel.models output)).2 ∧
          ran.1.tree =
            (world.run (writeRepositories document.datamodel.models output)).1.tree)) ∧
    (∀ payload options, Options.ofJson payload = .ok options →
      (options.generator.output = none ↔ Missing (outputPart? payload)) ∧
      (options.dmmf = none ↔ Missing (Options.record.part? "dmmf" payload)) ∧
      ∀ value, options.dmmf = some value ↔
        Options.record.part? "dmmf" payload = some value ∧ value ≠ .null) ∧
    (∀ request : Protocol.Request, request.method ≠ "generate" →
      (Protocol.respond environment world request).1.tree = world.tree) ∧
    (∀ request : Protocol.Request, request.method = "generate" → ∀ failure,
      Options.ofJson request.params = .error failure →
        (∃ error, failure = .json error) ∧
        (Protocol.respond environment world request).2.reply =
          Protocol.generationReply (.error failure : Except Failure Unit) ∧
        (Protocol.respond environment world request).1.tree = world.tree) ∧
    (∀ (models : List Model) (output : Path) (place : Location),
      world.tree.placeOf output = .ok place →
      world.tree.leadsToDirectory (world.tree.start output) output.pieces = false →
        ∃ fault, (world.run (writeRepositories models output)).2 = .error (.access output fault) ∧
          (world.run (writeRepositories models output)).1.tree = world.tree) := by
  refine ⟨?_, ?_, ?_, ?_, ?_⟩
  · intro options ran
    rcases outputPath_cases environment options with ⟨output, resolves, reached⟩ | ⟨unresolved, -⟩
    · have resolved := not_unresolved resolves
      rcases document_cases options with ⟨document, describes, read⟩ | ⟨undescribed, -⟩
      · obtain ⟨outcome, tree⟩ := run_described world reached read
        have described := not_undescribed describes
        refine ⟨⟨?_, (absurd · resolved)⟩, fun _ => ⟨?_, (absurd · described)⟩, ?_,
          fun _ _ => ⟨output, document, resolves, describes, outcome, tree⟩⟩
        · rintro ⟨cause, failed⟩
          obtain ⟨path, fault, access⟩ := run_failure (outcome.symm.trans failed)
          cases access
        · rintro ⟨cause, failed⟩
          obtain ⟨path, fault, access⟩ := run_failure (outcome.symm.trans failed)
          cases access
        · rintro (unresolved | undescribed)
          · exact absurd unresolved resolved
          · exact absurd undescribed described
      · obtain ⟨cause, failed, tree⟩ := run_undescribed world resolves undescribed
        refine ⟨⟨?_, (absurd · resolved)⟩,
          fun _ => ⟨fun _ => undescribed, fun _ => ⟨cause, failed⟩⟩,
          fun _ => tree, fun _ described => absurd undescribed described⟩
        rintro ⟨other, wrong⟩
        rw [show ran.2 = _ from failed] at wrong
        cases wrong
    · obtain ⟨cause, failed⟩ := run_unresolved world unresolved
      have whole : ran = (world, .error (.options cause)) := failed
      rw [whole]
      exact ⟨⟨fun _ => unresolved, fun _ => ⟨cause, rfl⟩⟩, (absurd unresolved ·), fun _ => rfl,
        (absurd unresolved ·)⟩
  · intro payload options decoded
    exact ⟨output_missing decoded, dmmf_missing decoded, dmmf_present decoded⟩
  · intro request other
    exact respond_answer environment world other
  · intro request generates failure broken
    exact ⟨json_of_ofJson broken, respond_undecodable environment world generates broken⟩
  · intro models output place stands blocked
    exact run_over models stands blocked

theorem generation_settled_with_file_at_output :
    let world : World := ⟨FileTree.empty.put ["out"] (.file ⟨#[]⟩), []⟩
    let payload : Value := .obj [("dmmf", .obj [("datamodel", .obj [])]),
      ("generator", .obj [("name", .str "g"), ("output", .str "out"), ("provider", .str "p")])]
    let block : GeneratorBlock :=
      { name := "g", provider := .literal "p", output := some (.literal "out") }
    let whole : Options := { generator := block, dmmf := some (.obj [("datamodel", .obj [])]) }
    let unknown : Protocol.Request := ⟨"shutdown", .null, .int 1⟩
    let empty : Protocol.Request := ⟨"generate", .null, .int 2⟩
    (Unresolved ⟨[]⟩ {} ∧ (world.run (Options.script ⟨[]⟩ {})).1.tree = world.tree) ∧
    (¬ Unresolved ⟨[]⟩ { generator := block } ∧ Undescribed { generator := block } ∧
      ∃ cause, (world.run (Options.script ⟨[]⟩ { generator := block })).2 =
        .error (.schema cause)) ∧
    (Options.ofJson payload = .ok whole ∧ ¬ Missing (outputPart? payload) ∧
      Options.record.part? "dmmf" payload = some (.obj [("datamodel", .obj [])])) ∧
    (¬ Unresolved ⟨[]⟩ whole ∧ ¬ Undescribed whole ∧
      ∃ output document, Resolves ⟨[]⟩ whole output ∧ Describes whole document ∧
        (world.run (whole.script ⟨[]⟩)).2 =
          (world.run (writeRepositories document.datamodel.models output)).2) ∧
    (world.tree.placeOf ⟨"out"⟩ = .ok ["out"] ∧
      world.tree.leadsToDirectory (world.tree.start ⟨"out"⟩) (Path.mk "out").pieces = false ∧
      ∃ fault, (world.run (writeRepositories [] ⟨"out"⟩)).2 = .error (.access ⟨"out"⟩ fault) ∧
        (world.run (writeRepositories [] ⟨"out"⟩)).1.tree = world.tree) ∧
    (unknown.method ≠ "generate" ∧
      (Protocol.respond ⟨[]⟩ world unknown).1.tree = world.tree) ∧
    (empty.method = "generate" ∧
      (Options.ofJson empty.params = .error
        (.json ⟨.wrongType .null (.record "GeneratorOptions"), none⟩)) ∧
      (Protocol.respond ⟨[]⟩ world empty).1.tree = world.tree) := by
  intro world payload block whole unknown empty
  obtain ⟨stages, parts, others, undecodable, blocks⟩ := generation_settled_before_files ⟨[]⟩ world
  have resolves (dmmf : Option Value) :
      ¬ Unresolved ⟨[]⟩ { generator := block, dmmf } :=
    fun unresolved => unresolved (.literal "out") rfl "out" (.literal rfl)
  have unresolved : Unresolved ⟨[]⟩ {} := fun setting given => nomatch given
  have undescribed : Undescribed { generator := block } := fun value given => nomatch given
  have reads : Describes whole ⟨⟨[], []⟩⟩ := ⟨.obj [("datamodel", .obj [])], rfl, rfl⟩
  have describes : ¬ Undescribed whole := not_undescribed reads
  have decoded : Options.ofJson payload = .ok whole := rfl
  obtain ⟨output, missing, present⟩ := parts payload whole decoded
  obtain ⟨path, document, resolved, described, outcome, -⟩ :=
    (stages whole).2.2.2 (resolves _) describes
  have blocked : world.tree.leadsToDirectory (world.tree.start ⟨"out"⟩) (Path.mk "out").pieces =
      false := rfl
  exact ⟨⟨unresolved, (stages {}).2.2.1 (Or.inl unresolved)⟩,
    ⟨resolves _, undescribed, ((stages _).2.1 (resolves _)).mpr undescribed⟩,
    ⟨decoded, (fun gone => nomatch output.mpr gone), ((present _).mp rfl).1⟩,
    ⟨resolves _, describes, path, document, resolved, described, outcome⟩,
    ⟨rfl, blocked, blocks [] ⟨"out"⟩ ["out"] rfl blocked⟩,
    ⟨by decide, others unknown (by decide)⟩,
    ⟨rfl, rfl, (undecodable empty rfl _ rfl).2.2⟩⟩

end ModelRepositories
