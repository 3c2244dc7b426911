import Mathlib.Data.List.Forall2
import ModelRepositories.Proofs.Generation.Extraction
import ModelRepositories.Proofs.Protocol.Framing
import ModelRepositories.Proofs.Protocol.Request
import ModelRepositories.Proofs.Protocol.Stream

/-!
What a reader finds in the output of a service: one line for each line of the input that is not
blank, and on it an object that tells whether the request succeeded and carries its id back.
-/

namespace ModelRepositories.Protocol

open Json

def generation (environment : Environment) (world : World) (params : Value) :
    Except Failure (List Path) := do
  let options ← Options.ofJson params
  (world.run (options.script environment)).2

def errorPart? (key : String) (members : Members) : Option Value :=
  match members.get? "error" with
  | some (.obj error) => Members.get? key error
  | _ => none

/-- The members of an answer to a request that arrives in a world. -/
structure Answer (environment : Environment) (world : World) (request : Request)
    (members : Members) : Prop where
  version : members.get? "jsonrpc" = some (.str "2.0")
  one : (members.get? "result").isNone = (members.get? "error").isSome
  id : request.id.hasFloat = false → members.get? "id" = some request.id
  unknown : errorPart? "code" members = some (.int (-32601)) ↔
    request.method ≠ "getManifest" ∧ request.method ≠ "generate"
  failed : errorPart? "code" members = some (.int (-32000)) ↔
    request.method = "generate" ∧
      ∃ failure, generation environment world request.params = .error failure
  message : request.method = "generate" → ∀ failure,
    generation environment world request.params = .error failure →
      errorPart? "message" members = some (.str failure.message)
  done : members.get? "result" = some .null ↔
    request.method = "generate" ∧
      ∃ paths, generation environment world request.params = .ok paths

/-- The bytes of an answer, without the line feed behind it. -/
structure Answers (environment : Environment) (world : World) (request : Request)
    (line : Bytes) : Prop where
  framed : lineFeed ∉ line
  parses : ∃ text members, String.fromUTF8? ⟨line.toArray⟩ = some text ∧
    Json.parse text = .ok (.obj members) ∧ Answer environment world request members

theorem fits_manifest : Fits (maxLevels - 1) manifest := by
  refine .obj fun member listed => ?_
  obtain rfl := List.mem_singleton.mp listed
  refine .obj fun member listed => ?_
  simp only [List.mem_cons, List.not_mem_nil, or_false] at listed
  rcases listed with rfl | rfl | rfl
  · exact .str _
  · exact .str _
  · refine .arr fun item listed => ?_
    obtain rfl := List.mem_singleton.mp listed
    exact .str _

inductive Reply.Legible : Reply → Prop
  | result {value : Value} (fits : Fits (maxLevels - 1) value) : Legible (.result value)
  | error {code : Int} (exact : Exact code) (message : String) : Legible (.error code message none)
  | traced {code : Int} (exact : Exact code) (message stack : String) :
    Legible (.error code message (some (.obj [("stack", .str stack)])))

theorem legible_generationReply {α : Type} (outcome : Except Failure α) :
    (generationReply outcome).Legible := by
  cases outcome with
  | ok result => exact .result .null
  | error failure => exact .traced ⟨by decide, by decide⟩ _ _

theorem legible_respond (environment : Environment) (world : World) (request : Request) :
    (respond environment world request).2.reply.Legible := by
  rw [respond_eq, Request.task]
  by_cases describes : request.method = "getManifest"
  · rw [if_pos describes]
    exact .result fits_manifest
  · rw [if_neg describes]
    by_cases generates : request.method = "generate"
    · rw [if_pos generates]
      exact legible_generationReply _
    · rw [if_neg generates]
      exact .error ⟨by decide, by decide⟩ _

inductive Reply.Found (members : Members) : Reply → Prop
  | result {value : Value} (held : members.get? "result" = some value.reread)
    (alone : members.get? "error" = none) : Found members (.result value)
  | error {code : Int} {message : String} {data : Option Value}
    (held : (members.get? "error").isSome = true) (alone : members.get? "result" = none)
    (number : errorPart? "code" members = some (.int code))
    (text : errorPart? "message" members = some (.str message)) :
    Found members (.error code message data)

theorem parse_members (key : String) {reply id : Value} (fits : Fits (maxLevels - 1) reply)
    (named : Fits (maxLevels - 1) id) (apart : ["jsonrpc", key, "id"].Nodup) :
    ∃ members : Members,
      Json.parse (print (.obj [("jsonrpc", .str "2.0"), (key, reply), ("id", id)])) =
        .ok (.obj members) ∧
      ∀ name, members.get? name = (Members.get? name
        [("jsonrpc", .str "2.0"), (key, reply), ("id", id)]).map Value.reread := by
  refine ⟨rereadMembers [] _, parse_print (.obj ?_), get?_reread apart⟩
  simp only [List.forall_mem_cons]
  exact ⟨.str _, fits, named, List.forall_mem_nil _⟩

theorem parse_error (error : Members) {id : Value} {code : Int} {message : String}
    {data : Option Value} (fits : ∀ member ∈ error, Fits (maxLevels - 2) member.2)
    (named : Fits (maxLevels - 1) id) (distinct : (error.map Prod.fst).Nodup)
    (number : error.get? "code" = some (.int code))
    (text : error.get? "message" = some (.str message)) :
    ∃ members : Members,
      Json.parse (print (.obj [("jsonrpc", .str "2.0"), ("error", .obj error), ("id", id)])) =
        .ok (.obj members) ∧
      members.get? "jsonrpc" = some (.str "2.0") ∧ members.get? "id" = some id.reread ∧
      Reply.Found members (.error code message data) := by
  obtain ⟨members, parsed, found⟩ := parse_members "error" (.obj fits) named (by decide)
  have held : members.get? "error" = some (.obj (rereadMembers [] error)) := found _
  have part (key : String) : errorPart? key members = (error.get? key).map Value.reread := by
    rw [errorPart?, held]
    exact get?_reread distinct key
  exact ⟨members, parsed, found _, found _, .error (by rw [held]; rfl) (found _)
    (by rw [part, number]; rfl) (by rw [part, text]; rfl)⟩

theorem parse_toJson {response : Response} (named : Fits (maxLevels - 1) response.id)
    (legible : response.reply.Legible) :
    ∃ members : Members, Json.parse (print response.toJson) = .ok (.obj members) ∧
      members.get? "jsonrpc" = some (.str "2.0") ∧
      members.get? "id" = some response.id.reread ∧ response.reply.Found members := by
  obtain ⟨id, reply⟩ := response
  cases legible with
  | result fits =>
    obtain ⟨members, parsed, found⟩ := parse_members "result" fits named (by decide)
    exact ⟨members, parsed, found _, found _, .result (found _) (found _)⟩
  | @error code exact message =>
    refine parse_error [("code", .int code), ("message", .str message)] ?_ named
      (show ["code", "message"].Nodup by decide) rfl rfl
    simp only [List.forall_mem_cons]
    exact ⟨.int exact, .str _, List.forall_mem_nil _⟩
  | @traced code exact message stack =>
    refine parse_error [("code", .int code), ("message", .str message),
      ("data", .obj [("stack", .str stack)])] ?_ named
      (show ["code", "message", "data"].Nodup by decide) rfl rfl
    simp only [List.forall_mem_cons]
    refine ⟨.int exact, .str _, .obj fun member listed => ?_, List.forall_mem_nil _⟩
    obtain rfl := List.mem_singleton.mp listed
    exact .str _

section Respond

variable (environment : Environment) (world : World) {request : Request}

theorem respond_id (request : Request) : (respond environment world request).2.id = request.id := by
  rw [respond_eq]
  split <;> rfl

theorem reply_describes (describes : request.method = "getManifest") :
    (respond environment world request).2.reply = .result manifest := by
  rw [respond_eq, Request.task]
  rw [if_pos describes]

theorem reply_generates (generates : request.method = "generate") :
    (respond environment world request).2.reply =
      generationReply (generation environment world request.params) := by
  rw [(respond_generate environment world generates).1]
  unfold scriptOfParams generation
  cases Options.ofJson request.params <;> rfl

theorem reply_unknown (describes : request.method ≠ "getManifest")
    (generates : request.method ≠ "generate") :
    (respond environment world request).2.reply =
      .error unknownMethodCode ("Method not found: " ++ request.method) none := by
  rw [respond_eq, Request.task]
  rw [if_neg describes, if_neg generates]

theorem errorPart?_eq_none {members : Members} (alone : members.get? "error" = none)
    (key : String) : errorPart? key members = none := by
  rw [errorPart?, alone]

theorem answer_describes {members : Members} (describes : request.method = "getManifest")
    (version : members.get? "jsonrpc" = some (.str "2.0"))
    (id : request.id.hasFloat = false → members.get? "id" = some request.id)
    (found : Reply.Found members (.result manifest)) :
    Answer environment world request members := by
  obtain ⟨held, alone⟩ := found
  have code := errorPart?_eq_none alone "code"
  have other : request.method ≠ "generate" := by
    rw [describes]
    decide
  refine ⟨version, by rw [held, alone]; rfl, id, ?_, ?_, (absurd · other), ?_⟩
  · rw [code]
    exact ⟨nofun, fun unknown => absurd describes unknown.1⟩
  · rw [code]
    exact ⟨nofun, fun failed => absurd failed.1 other⟩
  · rw [held]
    exact ⟨nofun, fun done => absurd done.1 other⟩

theorem answer_generates {members : Members} (generates : request.method = "generate")
    (version : members.get? "jsonrpc" = some (.str "2.0"))
    (id : request.id.hasFloat = false → members.get? "id" = some request.id)
    (found : Reply.Found members
      (generationReply (generation environment world request.params))) :
    Answer environment world request members := by
  have known : ¬ (request.method ≠ "getManifest" ∧ request.method ≠ "generate") :=
    fun unknown => unknown.2 generates
  cases outcome : generation environment world request.params with
  | ok paths =>
    rw [outcome] at found
    obtain ⟨held, alone⟩ := found
    have code := errorPart?_eq_none alone "code"
    refine ⟨version, by rw [held, alone]; rfl, id, ?_, ?_, ?_, ?_⟩
    · rw [code]
      exact ⟨nofun, (absurd · known)⟩
    · rw [code, outcome]
      exact ⟨nofun, nofun⟩
    · rw [outcome]
      exact fun _ failure failed => nomatch failed
    · rw [outcome]
      exact ⟨fun _ => ⟨generates, paths, rfl⟩, fun _ => held⟩
  | error failure =>
    rw [outcome] at found
    obtain _ | ⟨held, alone, number, text⟩ := found
    refine ⟨version, by rw [held, alone]; rfl, id, ?_, ?_, ?_, ?_⟩
    · rw [number]
      have apart : generationFailedCode ≠ -32601 := by decide
      exact ⟨fun same => absurd (Value.int.inj (Option.some.inj same)) apart, (absurd · known)⟩
    · rw [outcome]
      exact ⟨fun _ => ⟨generates, failure, rfl⟩, fun _ => number⟩
    · rw [outcome]
      rintro - other ⟨⟩
      exact text
    · rw [alone, outcome]
      exact ⟨nofun, nofun⟩

theorem answer_unknown {members : Members} {message : String}
    (describes : request.method ≠ "getManifest") (generates : request.method ≠ "generate")
    (version : members.get? "jsonrpc" = some (.str "2.0"))
    (id : request.id.hasFloat = false → members.get? "id" = some request.id)
    (found : Reply.Found members (.error unknownMethodCode message none)) :
    Answer environment world request members := by
  obtain _ | ⟨held, alone, number, -⟩ := found
  refine ⟨version, by rw [held, alone]; rfl, id, ?_, ?_, (absurd · generates), ?_⟩
  · exact ⟨fun _ => ⟨describes, generates⟩, fun _ => number⟩
  · rw [number]
    have apart : unknownMethodCode ≠ -32000 := by decide
    exact ⟨fun same => absurd (Value.int.inj (Option.some.inj same)) apart,
      fun failed => absurd failed.1 generates⟩
  · rw [alone]
    exact ⟨nofun, fun done => absurd done.1 generates⟩

theorem answers_respond (stored : Stored (maxLevels - 1) request.id) :
    Answers environment world request
      (printedBytes (respond environment world request).2.toJson) := by
  have named : Fits (maxLevels - 1) (respond environment world request).2.id :=
    (respond_id environment world request).symm ▸ stored.fits
  obtain ⟨members, parsed, version, id, found⟩ :=
    parse_toJson named (legible_respond environment world request)
  have same : request.id.hasFloat = false → members.get? "id" = some request.id := by
    intro whole
    rw [id, respond_id, stored.reread_eq whole]
  refine ⟨lineFeed_not_mem _, _, members, fromUTF8?_printedBytes _, parsed, ?_⟩
  by_cases describes : request.method = "getManifest"
  · rw [reply_describes environment world describes] at found
    exact answer_describes environment world describes version same found
  by_cases generates : request.method = "generate"
  · rw [reply_generates environment world generates] at found
    exact answer_generates environment world generates version same found
  · rw [reply_unknown environment world describes generates] at found
    exact answer_unknown environment world describes generates version same found

end Respond

def isBlank (line : Bytes) : Bool :=
  (String.fromUTF8? ⟨line.toArray⟩).any (Text.isBlankLine ·.toList)

def HoldsRequest (line : Bytes) (request : Request) : Prop :=
  ∃ text, String.fromUTF8? ⟨line.toArray⟩ = some text ∧ Request.parse text = .ok request

def reached (environment : Environment) (world : World) (requests : List Request) : World :=
  (respondAll environment world requests).1

theorem HoldsRequest.eq {line : Bytes} {request other : Request} (left : HoldsRequest line request)
    (right : HoldsRequest line other) : request = other := by
  obtain ⟨text, whole, parsed⟩ := left
  obtain ⟨again, same, reparsed⟩ := right
  obtain rfl : text = again := Option.some.inj (whole.symm.trans same)
  exact Except.ok.inj (parsed.symm.trans reparsed)

theorem HoldsRequest.readable {line : Bytes} {request : Request}
    (holds : HoldsRequest line request) : Readable line := by
  obtain ⟨text, whole, parsed⟩ := holds
  exact ⟨text, whole, fun _ => ⟨request, parsed⟩⟩

theorem holds_of_request? {line : Bytes} {request : Request}
    (found : request? line = some request) : HoldsRequest line request := by
  have readAs := readAs_readLine line
  rw [read_of_request? found] at readAs
  cases readAs with
  | request whole written parsed => exact ⟨_, whole, parsed⟩

theorem holds_filterMap {served : List Bytes} (readable : ∀ line ∈ served, Readable line) :
    List.Forall₂ HoldsRequest (served.filter (!isBlank ·)) (served.filterMap request?) := by
  induction served with
  | nil => exact .nil
  | cons line rest ih =>
    have later := ih fun other member => readable other (List.mem_cons_of_mem line member)
    obtain ⟨text, whole, decodes⟩ := readable line List.mem_cons_self
    have blank : isBlank line = Text.isBlankLine text.toList := by
      rw [isBlank, whole]
      rfl
    cases written : Text.isBlankLine text.toList with
    | true =>
      have silent : request? line = none := request?_of_read (readLine_blank whole written)
      rw [List.filter_cons_of_neg (by simp [blank, written]), List.filterMap_cons_none silent]
      exact later
    | false =>
      obtain ⟨request, parsed⟩ := decodes written
      have answered : request? line = some request :=
        request?_of_read (readLine_parsed whole written parsed)
      rw [List.filter_cons_of_pos (by simp [blank, written]), List.filterMap_cons_some answered]
      exact .cons ⟨text, whole, parsed⟩ later

theorem length_respondAll (environment : Environment) (world : World) (requests : List Request) :
    (respondAll environment world requests).2.length = requests.length := by
  induction requests generalizing world with
  | nil => rfl
  | cons request rest ih => exact congrArg (· + 1) (ih _)

theorem respondAll_getElem? (environment : Environment) (world : World) (requests : List Request)
    (k : Nat) :
    (respondAll environment world requests).2[k]? = requests[k]?.map fun request =>
      (respond environment (reached environment world (requests.take k)) request).2 := by
  induction requests generalizing world k with
  | nil => rfl
  | cons request rest ih =>
    cases k with
    | zero => rfl
    | succ k => exact ih _ k

/-- Lines that can be read are answered one by one and in their order, each in the world that the
requests before it leave; failures are answers as well. -/
theorem serve_answers (environment : Environment) (world : World) (input : Bytes)
    (readable : ∀ line ∈ lines input, Readable line) :
    ∃ (requests : List Request) (answers : List Bytes),
      List.Forall₂ HoldsRequest ((lines input).filter (!isBlank ·)) requests ∧
      answers.length = requests.length ∧
      serve environment none input world =
        ⟨answers.flatMap (· ++ [lineFeed]), .ok (), reached environment world requests⟩ ∧
      ∀ k request answer, requests[k]? = some request → answers[k]? = some answer →
        Answers environment (reached environment world (requests.take k)) request answer := by
  refine ⟨(lines input).filterMap request?,
    (respondAll environment world ((lines input).filterMap request?)).2.map (printedBytes ·.toJson),
    holds_filterMap readable, ?_, ?_, ?_⟩
  · rw [List.length_map, length_respondAll]
  · rw [serve, serveLines_readable environment world readable, List.flatMap_map, ← funext encode_eq]
    rfl
  · intro k request answer asked written
    rw [List.getElem?_map, respondAll_getElem?, asked] at written
    cases written
    obtain ⟨line, -, found⟩ := List.mem_filterMap.mp (List.mem_of_getElem? asked)
    obtain ⟨text, -, parsed⟩ := holds_of_request? found
    exact answers_respond environment _ (stored_id parsed)

theorem serve_answers_failure_and_manifest :
    let first : Bytes :=
      "\x7b\"method\":\"generate\",\"id\":1\x7d".toList.flatMap String.utf8EncodeChar
    let second : Bytes := "[\"getManifest\",null,\"\\n\"]".toList.flatMap String.utf8EncodeChar
    let input : Bytes := first ++ [lineFeed, lineFeed] ++ second
    let world : World := ⟨FileTree.empty, []⟩
    let generate : Request := ⟨"generate", .null, .int 1⟩
    let describe : Request := ⟨"getManifest", .null, .str "\n"⟩
    (∀ line ∈ lines input, Readable line) ∧
    generation ⟨[]⟩ world generate.params =
      .error (.json ⟨.wrongType .null (.record "GeneratorOptions"), none⟩) ∧
    ∃ failed described,
      (serve ⟨[]⟩ none input world).output = failed ++ [lineFeed] ++ (described ++ [lineFeed]) ∧
      (serve ⟨[]⟩ none input world).ending = .ok () ∧
      Answers ⟨[]⟩ world generate failed ∧
      Answers ⟨[]⟩ (reached ⟨[]⟩ world [generate]) describe described := by
  have asks : HoldsRequest ("\x7b\"method\":\"generate\",\"id\":1\x7d".toList.flatMap
      String.utf8EncodeChar) ⟨"generate", .null, .int 1⟩ :=
    ⟨"\x7b\"method\":\"generate\",\"id\":1\x7d", rfl, rfl⟩
  have lists : HoldsRequest ("[\"getManifest\",null,\"\\n\"]".toList.flatMap String.utf8EncodeChar)
      ⟨"getManifest", .null, .str "\n"⟩ :=
    ⟨"[\"getManifest\",null,\"\\n\"]", rfl, rfl⟩
  intro first second input world generate describe
  have cut : lines input = [first, [], second] := by decide +kernel
  have readable : ∀ line ∈ lines input, Readable line := by
    rw [cut]
    simp only [List.forall_mem_cons]
    exact ⟨asks.readable, ⟨"", rfl, fun written => absurd written (by decide)⟩, lists.readable,
      List.forall_mem_nil _⟩
  obtain ⟨requests, answers, holds, count, served, answered⟩ :=
    serve_answers ⟨[]⟩ world input readable
  have written : (lines input).filter (!isBlank ·) = [first, second] := by decide +kernel
  rw [written] at holds
  obtain _ | ⟨head, _ | ⟨next, ⟨⟩⟩⟩ := holds
  obtain rfl := head.eq asks
  obtain rfl := next.eq lists
  obtain ⟨failed, described, rfl⟩ := List.length_eq_two.mp count
  refine ⟨readable, rfl, failed, described, ?_, ?_, answered 0 _ _ rfl rfl, answered 1 _ _ rfl rfl⟩
  · rw [served]
    simp
  · rw [served]

end ModelRepositories.Protocol
