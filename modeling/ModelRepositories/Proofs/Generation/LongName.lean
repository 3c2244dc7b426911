import ModelRepositories.Proofs.Generation.OutputTree
import ModelRepositories.Proofs.Text.Initial

/-!
Where a run stops at a name that is too long. A file has fourteen bytes more in its name than the
directory that holds it, so there are two limits for a handle: up to 241 bytes the model is written,
up to 255 its directory is made and its file is not, and beyond that nothing is. Everything before
such a model is written as if the run ended there.
-/

namespace ModelRepositories

open Schema World FileTree ModelRepositories.Path

def Event.wrote? : Event → Option Path
  | .wrote path => some path
  | _ => none

/-- Some events came, and these files are what they say was written. -/
def Wrote (files : List Path) (before after : World) : Prop :=
  ∃ emitted, after.events = before.events ++ emitted ∧ emitted.filterMap Event.wrote? = files

theorem Wrote.trans {first second third : World} {earlier later : List Path}
    (left : Wrote earlier first second) (right : Wrote later second third) :
    Wrote (earlier ++ later) first third := by
  obtain ⟨emitted, events, files⟩ := left
  obtain ⟨more, onward, others⟩ := right
  refine ⟨emitted ++ more, ?_, ?_⟩
  · rw [onward, events, List.append_assoc]
  · rw [List.filterMap_append, files, others]

def Action.wrote? : Action → Option Path
  | .report event => event.wrote?
  | _ => none

theorem perform_wrote {world after : World} {action : Action}
    (done : world.perform action = (after, .ok ())) : Wrote action.wrote?.toList world after := by
  cases action with
  | report event =>
    cases done
    exact ⟨[event], rfl, by cases event <;> rfl⟩
  | makeDirectories path =>
    rw [perform_makeDirectories] at done
    exact ⟨[], by rw [← (Prod.mk.inj done).1, List.append_nil], rfl⟩
  | emptyDirectory path =>
    rw [perform_emptyDirectory] at done
    exact ⟨[], by rw [← (Prod.mk.inj done).1, List.append_nil], rfl⟩
  | write path text =>
    rw [perform_write] at done
    split at done
    · exact ⟨[], by rw [← (Prod.mk.inj done).1, List.append_nil], rfl⟩
    · cases done

theorem performAll_wrote {world after : World} {actions : List Action}
    (done : world.performAll actions = (after, .ok ())) :
    Wrote (actions.filterMap Action.wrote?) world after := by
  induction actions generalizing world with
  | nil =>
    cases done
    exact ⟨[], (List.append_nil _).symm, rfl⟩
  | cons action rest ih =>
    rw [performAll_cons] at done
    rcases first : world.perform action with ⟨between, failure | ⟨⟩⟩
    · rw [first] at done
      cases done
    · rw [first] at done
      have whole := (perform_wrote first).trans (ih done)
      rw [List.filterMap_cons]
      cases written : action.wrote? with
      | none => simpa [written] using whole
      | some path => simpa [written] using whole

theorem wrote_writeRepository (output : Path) (model : Model) :
    (writeRepository output model).filterMap Action.wrote? = [repositoryPath output model] := by
  rw [writeRepository, makeParent]
  cases (repositoryPath output model).parent? <;> rfl

theorem wrote_writeRepositories (output : Path) (models : List Model) :
    (models.flatMap (writeRepository output)).filterMap Action.wrote? =
      models.map (repositoryPath output) := by
  induction models with
  | nil => rfl
  | cons model rest ih =>
    rw [List.flatMap_cons, List.filterMap_append, wrote_writeRepository, ih]
    rfl

theorem check_of_nulFree {path : Path} (free : '\x00' ∉ path.text.toList) :
    path.check = .ok () ∨ path.check = .error .nameTooLong := by
  unfold check
  rw [if_neg (by simpa using free)]
  split
  · exact Or.inr rfl
  · exact Or.inl rfl

theorem nulFree_join {left right : Path} (written : left.isEmpty = false)
    (relative : right.isAbsolute = false) (front : '\x00' ∉ left.text.toList)
    (back : '\x00' ∉ right.text.toList) : '\x00' ∉ (left.join right).text.toList := by
  obtain ⟨start, shape, joined⟩ := join_eq written
  have begins : '\x00' ∉ start.toList := by
    rcases shape with ⟨same, -⟩ | longer
    · rwa [same] at front
    · rw [longer, String.toList_append, List.mem_append] at front
      exact fun member => front (Or.inl member)
  rw [joined right relative]
  simp only [String.toList_append, List.mem_append, not_or]
  exact ⟨⟨begins, by decide⟩, back⟩

theorem bytes_join (left : Path) {right : Path} (relative : right.isAbsolute = false) :
    (left.join right).text.utf8ByteSize ≤ left.text.utf8ByteSize + 1 + right.text.utf8ByteSize := by
  have slash : ("/" : String).utf8ByteSize = 1 := rfl
  rw [join, relative]
  split
  · contradiction
  · split <;> simp only [String.utf8ByteSize_append] <;> omega

namespace FileTree

variable {tree : FileTree} {path : Path} {front : List String} {name : String}

theorem makeDirectories_long (free : '\x00' ∉ path.text.toList)
    (pieces : path.pieces = front ++ [name])
    (opens : tree.Opens (tree.start path) (proper front)) (called : isName name = true)
    (long : maxNameBytes < name.utf8ByteSize) :
    tree.makeDirectories path = (tree, .error .nameTooLong) := by
  obtain ⟨-, -, notHere, notAbove⟩ := isName_iff.mp called
  rcases check_of_nulFree free with passed | refused
  · have held := holder_opens opens name
    have made : tree.makeDirectory (tree.start path) path.pieces = .error .nameTooLong := by
      rw [pieces, makeDirectory, vacancy, List.getLast?_concat]
      simp [held, bind, Except.bind, notHere, notAbove, long]
    have resolved := resolveNames_opens opens [name]
    have stopped : tree.follow maxLinks ((tree.start path).place ++ proper front) [name] =
        .error .nameTooLong := by
      simp [follow, walk, opens.directory, notHere, notAbove, long]
    have blocked : tree.leadsToDirectory (tree.start path) path.pieces = false := by
      rw [leadsToDirectory, pieces, resolved, stopped]
    have written : path.isEmpty = false := by
      rw [Bool.eq_false_iff]
      intro empty
      have blank : path.text = "" := by simpa [Path.isEmpty] using empty
      simp [Path.pieces, blank, split, Text.splitWhere] at pieces
    rw [makeDirectories_eq, passed]
    simp only [written, Bool.false_eq_true, if_false, makeChain_cons, made, blocked]
  · rw [makeDirectories_eq, refused]

end FileTree

def handleBytes (model : Model) : Nat :=
  (handleOf model).utf8ByteSize

theorem fileName_bytes (model : Model) :
    (fileName (handleOf model)).utf8ByteSize = handleBytes model + 14 := by
  rw [fileName, String.utf8ByteSize_append]
  rfl

theorem bytes_path (model : Model) :
    (Repository.ofModel model).path.text.utf8ByteSize ≤ 2 * handleBytes model + 15 := by
  have slash : ("/" : String).utf8ByteSize = 1 := rfl
  have name := fileName_bytes model
  rw [handleBytes] at name ⊢
  rw [path_eq, pathText]
  split
  · simp only [name]
    omega
  · simp only [String.utf8ByteSize_append, name]
    omega

theorem bytes_small {c : Char} (small : c.isLower = true) (amount : Nat) :
    handleBytes { name := String.ofList (List.replicate amount c) } = amount := by
  have handle : handleOf { name := String.ofList (List.replicate amount c) } =
      String.ofList (List.replicate amount c) := by
    apply Text.camelCase_small
    rw [String.toList_ofList]
    intro d member
    rwa [List.eq_of_mem_replicate member]
  have single : c.utf8Size = 1 := by
    have ascii := Text.ascii_of_isAlpha (Text.isAlpha_of_isLower small)
    exact Char.utf8Size_eq_one_iff.mpr (UInt32.le_iff_toNat_le.mpr (Nat.le_of_lt_succ ascii))
  rw [handleBytes, handle, ← String.size_toByteArray, String.toByteArray_ofList, List.utf8Encode,
    List.size_toByteArray, List.length_flatMap]
  simp [single]

/-- Nothing but a long name keeps an entry for the model from being made: the directory to start
from is there, and a path is not too long as a whole if its names are not. -/
structure Unhindered (tree : FileTree) (output : Path) (model : Model) : Prop where
  surfaced : (tree.start output).removed = 0
  directory : handleBytes model ≤ 255 → (output.join ⟨handleOf model⟩).check = .ok ()
  file : handleBytes model ≤ 241 → (repositoryPath output model).check = .ok ()

theorem Unhindered.writable {tree : FileTree} {output : Path} {model : Model}
    (unhindered : Unhindered tree output model) (short : handleBytes model ≤ 241) :
    Writable output model := by
  refine ⟨unhindered.file short, ?_⟩
  rw [fileName_bytes, maxNameBytes]
  omega

section Stop

variable {output parent : Path} {world : World} {model : Model} {done : List Model}

def announce (world : World) (model : Model) : World :=
  world.report (.planned model.name (Repository.ofModel model).methodNames
    (Repository.ofModel model).aliasType)

theorem announce_wrote (world : World) (model : Model) : Wrote [] world (announce world model) :=
  ⟨_, rfl, rfl⟩

theorem handleOf_ne_empty (long : 241 < handleBytes model) : handleOf model ≠ "" := by
  intro nameless
  rw [handleBytes, nameless] at long
  exact absurd long (by decide)

theorem exists_directoryPath (written : output.isEmpty = false) (named : handleOf model ≠ "") :
    HolderPath output model (output.join ⟨handleOf model⟩) := by
  obtain ⟨parent, holder⟩ := exists_holderPath written model
  have above := (parent?_join_slash written (isName_handleOf named) (isName_fileName model)).1
  have path : repositoryPath output model =
      output.join ⟨handleOf model ++ "/" ++ fileName (handleOf model)⟩ := by
    rw [repositoryPath, path_eq, pathText, if_neg named]
  rw [← path, holder.above, Option.some.injEq] at above
  exact above ▸ holder

theorem isAbsolute_handleOf (model : Model) : (Path.mk (handleOf model)).isAbsolute = false := by
  by_cases nameless : handleOf model = ""
  · rw [nameless]
    decide
  · exact isAbsolute_of_isName (isName_handleOf nameless)

theorem nulFree_directory (written : output.isEmpty = false) (free : '\x00' ∉ output.text.toList)
    (model : Model) : '\x00' ∉ (output.join ⟨handleOf model⟩).text.toList :=
  nulFree_join written (isAbsolute_handleOf model) free (notWordChar_of_mem_handleOf (by decide))

theorem nulFree_repositoryPath (written : output.isEmpty = false)
    (free : '\x00' ∉ output.text.toList) (model : Model) :
    '\x00' ∉ (repositoryPath output model).text.toList := by
  have name : '\x00' ∉ (handleOf model).toList := notWordChar_of_mem_handleOf (by decide)
  refine nulFree_join written (isAbsolute_path model) free ?_
  rw [path_eq, pathText, fileName]
  split
  · simp only [String.toList_append, List.mem_append, not_or]
    exact ⟨name, by decide⟩
  · simp only [String.toList_append, List.mem_append, not_or]
    exact ⟨⟨name, by decide⟩, name, by decide⟩

theorem unhindered_of_short {tree : FileTree} (surfaced : (tree.start output).removed = 0)
    (written : output.isEmpty = false) (free : '\x00' ∉ output.text.toList)
    (short : output.text.utf8ByteSize ≤ 3500) (model : Model) : Unhindered tree output model := by
  refine ⟨surfaced, fun bounded => check_iff.mpr ⟨nulFree_directory written free model, ?_⟩,
    fun bounded => check_iff.mpr ⟨nulFree_repositoryPath written free model, ?_⟩⟩
  · have longer := bytes_join output (isAbsolute_handleOf model)
    have name : (Path.mk (handleOf model)).text.utf8ByteSize = handleBytes model := rfl
    rw [maxBytes]
    omega
  · have longer := bytes_join output (isAbsolute_path model)
    have inner := bytes_path model
    rw [repositoryPath, maxBytes]
    omega

theorem performAll_refused_directory (holder : HolderPath output model parent) {made : FileTree}
    {fault : AccessFault} (first : world.tree.makeDirectories parent = (made, .error fault)) :
    world.performAll (writeRepository output model) =
      ({ announce world model with tree := made }, .error (.access parent fault)) := by
  simp only [writeRepository, makeParent, holder.above, Option.map_some, Option.toList_some,
    List.cons_append, List.nil_append, performAll_cons, perform_report, perform_makeDirectories,
    report, first, mapError_error]
  rfl

theorem performAll_refused_file (holder : HolderPath output model parent) {made : FileTree}
    {fault : AccessFault} (first : world.tree.makeDirectories parent = (made, .ok ()))
    (second : made.write (repositoryPath output model) (content model) = .error fault) :
    world.performAll (writeRepository output model) =
      ({ announce world model with tree := made },
        .error (.access (repositoryPath output model) fault)) := by
  have second : made.write (repositoryPath output model)
      (Repository.ofModel model).text.toUTF8 = .error fault := second
  simp only [writeRepository, makeParent, holder.above, Option.map_some, Option.toList_some,
    List.cons_append, List.nil_append, performAll_cons, perform_report, perform_makeDirectories,
    perform_write, report, first, second, mapError_ok]
  rfl

theorem HoldsRepositories.opens_above (holds : HoldsRepositories output done world.tree)
    (holder : HolderPath output model parent) :
    world.tree.Opens (world.tree.start parent) (proper output.pieces) := by
  rw [start_holder holder]
  exact holds.opens

theorem stops_at_directory (written : output.isEmpty = false) (passed : output.check = .ok ())
    (holds : HoldsRepositories output done world.tree) (long : 255 < handleBytes model) :
    world.performAll (writeRepository output model) =
      (announce world model, .error (.access (output.join ⟨handleOf model⟩) .nameTooLong)) := by
  have named : handleOf model ≠ "" := handleOf_ne_empty (by omega)
  have holder := exists_directoryPath written named
  have refused := makeDirectories_long (nulFree_directory written (check_iff.mp passed).1 model)
    (holder.pieces named) (holds.opens_above holder) (isName_handleOf named) long
  exact performAll_refused_directory holder refused

theorem write_long (written : output.isEmpty = false) (free : '\x00' ∉ output.text.toList)
    {made : FileTree}
    (opens : made.Opens (made.start output) (output.names ++ holderAt (handleOf model)))
    (linkless : made.Linkless output) (long : 241 < handleBytes model) (bytes : ByteArray) :
    made.write (repositoryPath output model) bytes = .error .nameTooLong := by
  rcases check_of_nulFree (nulFree_repositoryPath written free model) with short | refused
  · rw [write_repository_eq written short opens linkless, if_pos]
    rw [fileName_bytes, maxNameBytes]
    omega
  · rw [write, resolve, refused]
    rfl

theorem stops_at_file (written : output.isEmpty = false) (passed : output.check = .ok ())
    (holds : HoldsRepositories output done world.tree)
    (gap : repositoryTree done [handleOf model] = none)
    (room : (output.join ⟨handleOf model⟩).check = .ok ())
    (long : 241 < handleBytes model) (bounded : handleBytes model ≤ 255) :
    ∃ made, HolderMade output model world.tree made ∧
      world.performAll (writeRepository output model) =
        ({ announce world model with tree := made },
          .error (.access (repositoryPath output model) .nameTooLong)) := by
  have named : handleOf model ≠ "" := handleOf_ne_empty long
  have holder := exists_directoryPath written named
  have vacant : world.tree.get? ((world.tree.start (output.join ⟨handleOf model⟩)).place ++
      proper output.pieces ++ [handleOf model]) = none := by
    rw [start_holder holder]
    exact (holds.exact _).trans gap
  have first := makeDirectories_vacant room (holder.pieces named) (holds.opens_above holder)
    (isName_handleOf named) bounded vacant
  have holding := makeDirectories_holder holder holds.opens holds.linkless first
  have second := write_long written (check_iff.mp passed).1 holding.opens
    (holding.linkless holds.linkless) long (content model)
  exact ⟨_, holding, performAll_refused_file holder first second⟩

theorem repositoryTree_long (shorter : ∀ earlier ∈ done, handleBytes earlier ≤ 241)
    (long : 241 < handleBytes model) : repositoryTree done [handleOf model] = none := by
  apply Decidable.byContradiction
  intro there
  obtain ⟨earlier, member, rest, names⟩ := exists_of_repositoryTree there
  have short := shorter earlier member
  unfold fileAt at names
  split at names
  · next nameless =>
    have same := (List.cons.inj names).1
    rw [handleBytes, ← same, nameless] at long
    exact absurd long (by decide)
  · have same := (List.cons.inj names).1
    rw [handleBytes, ← same] at long
    exact absurd short (Nat.not_le.mpr long)

end Stop

section Run

variable {output : Path} {tree : FileTree} {models : List Model} {model : Model}

theorem HoldsRepositories.entryBelow (holds : HoldsRepositories output models tree)
    (written : output.isEmpty = false) (passed : output.check = .ok ()) (place : Location) :
    tree.entryBelow output place = repositoryTree models place := by
  rw [FileTree.entryBelow, resolve_opens written passed holds.opens]
  exact holds.exact place

theorem HolderMade.entryBelow {made : FileTree} (holding : HolderMade output model tree made)
    (holds : HoldsRepositories output models tree) (written : output.isEmpty = false)
    (passed : output.check = .ok ()) (place : Location) :
    made.entryBelow output place =
      if place = holderAt (handleOf model) then some .directory
      else repositoryTree models place := by
  rw [FileTree.entryBelow, resolve_opens written passed holding.opens.front]
  simp only [holding.site, holding.reached, List.append_cancel_left_eq]
  rw [holds.exact]

def stopPath (output : Path) (model : Model) : Path :=
  if 255 < handleBytes model then output.join ⟨handleOf model⟩ else repositoryPath output model

/-- A model whose handle is too long ends the script; at most its directory is new. -/
theorem stops_at_model {world : World} {done : List Model} (written : output.isEmpty = false)
    (passed : output.check = .ok ()) (holds : HoldsRepositories output done world.tree)
    (shorter : ∀ earlier ∈ done, handleBytes earlier ≤ 241) (long : 241 < handleBytes model)
    (room : handleBytes model ≤ 255 → (output.join ⟨handleOf model⟩).check = .ok ()) :
    ∃ stopped, world.performAll (writeRepository output model) =
        (stopped, .error (.access (stopPath output model) .nameTooLong)) ∧
      Wrote [] world stopped ∧
      ∀ place, stopped.tree.entryBelow output place =
        if handleBytes model ≤ 255 ∧ place = [handleOf model] then some .directory
        else repositoryTree done place := by
  by_cases bounded : handleBytes model ≤ 255
  · have gap := repositoryTree_long shorter long
    obtain ⟨made, holding, ran⟩ :=
      stops_at_file written passed holds gap (room bounded) long bounded
    refine ⟨{ announce world model with tree := made }, ?_, announce_wrote world model, ?_⟩
    · rw [ran, stopPath, if_neg (Nat.not_lt.mpr bounded)]
    · intro place
      have single : holderAt (handleOf model) = [handleOf model] :=
        if_neg (handleOf_ne_empty long)
      refine (holding.entryBelow holds written passed place).trans ?_
      simp only [single, bounded, true_and]
  · have beyond : 255 < handleBytes model := Nat.lt_of_not_le bounded
    refine ⟨_, ?_, announce_wrote world model, ?_⟩
    · rw [stops_at_directory written passed holds beyond, stopPath, if_pos beyond]
    · intro place
      rw [if_neg (fun both => bounded both.1)]
      exact holds.entryBelow written passed place

/-- A run ended at a model, as one that had only the models before it to write, but for a directory
of the model where nothing was. -/
structure StopsAt (output : Path) (before : List Model) (model : Model) (world : World)
    (ran : World × Except Failure (List Path)) : Prop where
  failure : ran.2 = .error (.access (stopPath output model) .nameTooLong)
  wrote : Wrote (before.map (repositoryPath output)) world ran.1
  leaves : ∃ reached, world.run (writeRepositories before output) =
      (reached, .ok (before.map (repositoryPath output))) ∧
    (∀ rest, reached.tree.entryBelow output (handleOf model :: rest) = none) ∧
    ∀ place, ran.1.tree.entryBelow output place =
      if handleBytes model ≤ 255 ∧ place = [handleOf model] then some .directory
      else reached.tree.entryBelow output place

theorem wrote_ready {world prepared : World} (amount : Nat)
    (first : world.performAll (preparation output) = (prepared, .ok ())) :
    Wrote [] world (prepared.report (.generating output amount)) := by
  have reported : Wrote [] prepared (prepared.report (.generating output amount)) :=
    ⟨_, rfl, rfl⟩
  exact (performAll_wrote first).trans reported

theorem repositoryTree_below_long {done : List Model}
    (shorter : ∀ earlier ∈ done, handleBytes earlier ≤ 241) (long : 241 < handleBytes model)
    (holds : HoldsRepositories output done tree) (rest : Location) :
    repositoryTree done (handleOf model :: rest) = none := by
  have gap := repositoryTree_long shorter long
  apply Decidable.byContradiction
  intro there
  rw [← holds.exact] at there gap
  have split : tree.site output ++ handleOf model :: rest =
      tree.site output ++ [handleOf model] ++ rest := by simp
  rw [split] at there
  exact get?_of_append_ne_none there gap

theorem run_stops_at {world prepared : World} {before after : List Model}
    (first : world.performAll (preparation output) = (prepared, .ok ()))
    (passed : output.check = .ok ()) (holds : HoldsRepositories output [] prepared.tree)
    (unhindered : ∀ other ∈ before ++ model :: after, Unhindered world.tree output other)
    (shorter : ∀ earlier ∈ before, handleBytes earlier ≤ 241) (long : 241 < handleBytes model) :
    StopsAt output before model world
      (world.run (writeRepositories (before ++ model :: after) output)) := by
  have written := isEmpty_of_run first
  have writable : ∀ earlier ∈ before, Writable output earlier := by
    intro earlier member
    exact (unhindered earlier (by simp [member])).writable (shorter earlier member)
  -- Whatever number of models is announced, those before are written.
  have comes : ∀ amount, ∃ reached,
      (prepared.report (.generating output amount)).performAll
        (before.flatMap (writeRepository output)) = (reached, .ok ()) ∧
      HoldsRepositories output before reached.tree := by
    intro amount
    have ready : HoldsRepositories output [] (prepared.report (.generating output amount)).tree :=
      holds
    obtain ⟨reached, ran⟩ := writeRepositories_succeeds written ready writable
    exact ⟨reached, ran, (holds_writeRepositories written ready ran).1⟩
  obtain ⟨reached, brief, reaching⟩ := comes before.length
  obtain ⟨between, full, holding⟩ := comes (before ++ model :: after).length
  obtain ⟨stopped, stop, silent, exact⟩ := stops_at_model written passed holding shorter long
    (unhindered model (by simp)).directory
  have ran : world.run (writeRepositories (before ++ model :: after) output) =
      (stopped, .error (.access (stopPath output model) .nameTooLong)) := by
    rw [World.run_eq, performAll_actions, first]
    simp only [List.flatMap_append, List.flatMap_cons, performAll_append, full, stop]
  rw [ran]
  refine ⟨rfl, ?_, reached, ?_, ?_, ?_⟩
  · have events := performAll_wrote full
    rw [wrote_writeRepositories] at events
    simpa using ((wrote_ready _ first).trans events).trans silent
  · exact run_ok_iff.mpr ⟨performAll_actions_ok_iff.mpr ⟨prepared, first, brief⟩, rfl⟩
  · intro rest
    rw [reaching.entryBelow written passed, repositoryTree_below_long shorter long reaching]
  · intro place
    rw [exact, reaching.entryBelow written passed]

/-- A run that can make and empty its output comes through if and only if all handles are short
enough. Otherwise it stops at the first that is not. -/
theorem run_stops_at_long_handle (world : World) (models : List Model) (output : Path)
    (direct : world.tree.Direct output)
    (prepared : (world.performAll (preparation output)).2 = .ok ())
    (unhindered : ∀ model ∈ models, Unhindered world.tree output model) :
    ((∃ files, (world.run (writeRepositories models output)).2 = .ok files) ↔
      ∀ model ∈ models, handleBytes model ≤ 241) ∧
    (∀ before model after, models = before ++ model :: after →
      (∀ earlier ∈ before, handleBytes earlier ≤ 241) → 241 < handleBytes model →
      StopsAt output before model world (world.run (writeRepositories models output))) ∧
    AccessFault.nameTooLong.code? = some 36 := by
  rcases first : world.performAll (preparation output) with ⟨ready, outcome⟩
  rw [first] at prepared
  cases prepared
  have written := isEmpty_of_run first
  have stops : ∀ before model after, models = before ++ model :: after →
      (∀ earlier ∈ before, handleBytes earlier ≤ 241) → 241 < handleBytes model →
      StopsAt output before model world (world.run (writeRepositories models output)) := by
    rintro before model after rfl shorter long
    have surfaced := (unhindered model (by simp)).surfaced
    obtain ⟨passed, holds⟩ := holds_preparation direct surfaced written first
    exact run_stops_at first passed holds unhindered shorter long
  refine ⟨⟨?_, ?_⟩, stops, rfl⟩
  · rintro ⟨files, succeeded⟩
    cases found : models.find? fun model => decide (241 < handleBytes model) with
    | none => simpa using found
    | some model =>
      obtain ⟨long, before, after, whole, shorter⟩ := List.find?_eq_some_iff_append.mp found
      have failure := (stops before model after whole (by simpa using shorter)
        (by simpa using long)).failure
      rw [failure] at succeeded
      cases succeeded
  · intro short
    have writable : ∀ model ∈ models, Writable output model :=
      fun model member => (unhindered model member).writable (short model member)
    have comes : ∃ after, (ready.report (.generating output models.length)).performAll
        (models.flatMap (writeRepository output)) = (after, .ok ()) := by
      cases models with
      | nil => exact ⟨_, rfl⟩
      | cons model rest =>
        have surfaced := (unhindered model (by simp)).surfaced
        exact writeRepositories_succeeds written
          (holds_preparation direct surfaced written first).2 writable
    obtain ⟨after, ran⟩ := comes
    have succeeded := run_ok_iff.mpr ⟨performAll_actions_ok_iff.mpr ⟨ready, first, ran⟩, rfl⟩
    exact ⟨_, by rw [succeeded]⟩

theorem run_stops_at_second_of_three :
    let long : Model := { name := String.ofList (List.replicate 250 'a') }
    let models : List Model := [{ name := "User" }, long, { name := "Post" }]
    StopsAt ⟨"out"⟩ [{ name := "User" }] long ⟨linkedTree, []⟩
      ((World.mk linkedTree []).run (writeRepositories models ⟨"out"⟩)) := by
  intro long models
  have direct : linkedTree.Direct ⟨"out"⟩ := by decide +kernel
  have done : ((World.mk linkedTree []).performAll (preparation ⟨"out"⟩)).2.toOption =
      some () := by decide +kernel
  have prepared : ((World.mk linkedTree []).performAll (preparation ⟨"out"⟩)).2 = .ok () := by
    rw [eq_of_toOption done]
  have unhindered : ∀ model ∈ models, Unhindered linkedTree ⟨"out"⟩ model :=
    fun model _ => unhindered_of_short rfl (by decide) (by decide) (by decide) model
  have first : ∀ earlier ∈ [({ name := "User" } : Model)], handleBytes earlier ≤ 241 := by
    decide +kernel
  have beyond : 241 < handleBytes long := by
    rw [bytes_small (by decide) 250]
    decide
  obtain ⟨-, stops, -⟩ :=
    run_stops_at_long_handle ⟨linkedTree, []⟩ models ⟨"out"⟩ direct prepared unhindered
  exact stops _ long [{ name := "Post" }] rfl first beyond

end Run

end ModelRepositories
