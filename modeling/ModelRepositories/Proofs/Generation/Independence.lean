import ModelRepositories.Proofs.Generation.Extraction

/-!
What a generation depends on: where the output goes, what the document says and what the tree holds.
Siblings, the other settings of the generator and the environment are heard of in the first event
that a run reports, and nowhere else.
-/

namespace ModelRepositories

open Schema

def settledScript (output : Path) : Except Failure Document → Script (List Path)
  | .error failure => ⟨[], .error failure⟩
  | .ok document => writeRepositories document.datamodel.models output

def clientEvent (environment : Environment) (options : Options) : Event :=
  match options.clientBlock? environment with
  | some client => .usingClient client.name client.previewFeatures
  | none => .noClient

section Options

variable {environment : Environment} {options : Options} {output : Path}

theorem script_eq (reached : options.outputPath environment = .ok output) :
    options.script environment =
      { settledScript output options.document with
        actions := .report (clientEvent environment options) ::
          (settledScript output options.document).actions } := by
  rw [Options.script, reached]
  cases options.document with
  | error failure => rfl
  | ok document => rfl

theorem run_script (reached : options.outputPath environment = .ok output) (tree : FileTree)
    (events : List Event) :
    World.run ⟨tree, events⟩ (options.script environment) =
      ((World.run ⟨tree, []⟩ (settledScript output options.document)).1.preceded
          (events ++ [clientEvent environment options]),
        (World.run ⟨tree, []⟩ (settledScript output options.document)).2) := by
  calc
    World.run ⟨tree, events⟩ (options.script environment) =
        (World.mk tree (events ++ [clientEvent environment options])).run
          (settledScript output options.document) := by
      rw [script_eq reached]
      rfl
    _ = ((World.mk tree []).preceded (events ++ [clientEvent environment options])).run
          (settledScript output options.document) := by
      rw [World.preceded_nil]
    _ = _ := World.run_preceded _ _ _

end Options

theorem document_of_dmmf {first second : Options} (same : first.dmmf = second.dmmf) :
    first.document = second.document := by
  rw [Options.document, Options.document, same]

/-- Two generations that have the same output and the same document before them come to the same
result and leave the same tree; of all that they report, they differ in the first event alone. -/
theorem run_depends_on_output_and_document (first second : Options)
    (environment later : Environment) (tree : FileTree) (events others : List Event)
    {output : Path} (left : first.outputPath environment = .ok output)
    (right : second.outputPath later = .ok output) (same : first.dmmf = second.dmmf) :
    let ran := World.run ⟨tree, events⟩ (first.script environment)
    let other := World.run ⟨tree, others⟩ (second.script later)
    ran.2 = other.2 ∧ ran.1.tree = other.1.tree ∧
      ∃ reported, ran.1.events = events ++ clientEvent environment first :: reported ∧
        other.1.events = others ++ clientEvent later second :: reported := by
  intro ran other
  have one : ran = _ := run_script left tree events
  have two : other = _ := run_script right tree others
  rw [← document_of_dmmf same] at two
  rw [one, two]
  let settled := World.run ⟨tree, []⟩ (settledScript output first.document)
  have told (earlier : List Event) (event : Event) :
      (settled.1.preceded (earlier ++ [event])).events =
        earlier ++ event :: settled.1.events := by
    simp only [World.preceded, List.append_assoc, List.singleton_append]
  exact ⟨rfl, rfl, settled.1.events, told events _, told others _⟩

theorem run_of_log_unmoved_by_siblings :
    let tree := FileTree.empty.put ["out"] .directory
    let dmmf : Json.Value := .obj [("datamodel", .obj [("models", .arr [
      .obj [("name", .str "Log")]])])]
    let first : Options := {
      generator := { name := "repository", output := some (.literal "out") }
      dmmf := some dmmf }
    let second : Options := {
      generator := {
        name := "other", output := some { variableName := some "OUT" }
        config := [("strict", .str "true")], previewFeatures := ["views"] }
      siblings := [
        { name := "lost", provider := { variableName := some "MISSING" } },
        { name := "client", provider := .literal "prisma-client-js" },
        { name := "again", provider := { variableName := some "CLIENT" } }]
      schemaPath := some "schema.prisma"
      datamodel := "model Log"
      dmmf := some dmmf
      version := some "6.1.0" }
    let later : Environment := ⟨[("OUT", "out"), ("CLIENT", "prisma-client-js")]⟩
    first.outputPath ⟨[]⟩ = .ok ⟨"out"⟩ ∧ second.outputPath later = .ok ⟨"out"⟩ ∧
      first.dmmf = second.dmmf ∧
      (World.run ⟨tree, []⟩ (first.script ⟨[]⟩)).2 =
        (World.run ⟨tree, []⟩ (second.script later)).2 ∧
      (World.run ⟨tree, []⟩ (first.script ⟨[]⟩)).1.tree =
        (World.run ⟨tree, []⟩ (second.script later)).1.tree ∧
      ∃ reported,
        (World.run ⟨tree, []⟩ (first.script ⟨[]⟩)).1.events = .noClient :: reported ∧
          (World.run ⟨tree, []⟩ (second.script later)).1.events =
            .usingClient "client" [] :: reported := by
  intro tree dmmf first second later
  have left : first.outputPath ⟨[]⟩ = .ok ⟨"out"⟩ := rfl
  have right : second.outputPath later = .ok ⟨"out"⟩ := rfl
  exact ⟨left, right, rfl,
    run_depends_on_output_and_document first second ⟨[]⟩ later tree [] [] left right rfl⟩

end ModelRepositories
