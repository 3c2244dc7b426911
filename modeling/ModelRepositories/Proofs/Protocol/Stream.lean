import ModelRepositories.Proofs.Protocol.Framing

/-!
A stream of requests as a sequence of its lines. What a service does with one stream and then with
another is what it does with both as one; after a line that it cannot read it does nothing more. So
what it leaves behind is what the requests before such a line leave behind.
-/

namespace ModelRepositories.Protocol

/-- Goes on where a service ended, unless that failed. -/
def Served.andThen (served : Served) (next : World → Served) : Served :=
  match served.ending with
  | .error _ => served
  | .ok () =>
    let later := next served.world
    ⟨served.output ++ later.output, later.ending, later.world⟩

def respondAll (environment : Environment) (world : World) : List Request → World × List Response
  | [] => (world, [])
  | request :: rest =>
    let (after, response) := respond environment world request
    let (final, responses) := respondAll environment after rest
    (final, response :: responses)

def answered (environment : Environment) (world : World) (requests : List Request)
    (ending : Except Failure Unit) : Served :=
  let (final, responses) := respondAll environment world requests
  ⟨responses.flatMap Response.encode, ending, final⟩

def Readable (line : Bytes) : Prop :=
  ∃ text, String.fromUTF8? ⟨line.toArray⟩ = some text ∧
    (Text.isBlankLine text.toList = false → ∃ request, Request.parse text = .ok request)

/-- How a line that is not readable makes a service fail. -/
inductive Unreadable (line : Bytes) : Failure → Prop
  | notText (broken : String.fromUTF8? ⟨line.toArray⟩ = none) :
    Unreadable line (.access ⟨"<stdin>"⟩ .notText)
  | notRequest {text : String} {error : Json.Error}
    (whole : String.fromUTF8? ⟨line.toArray⟩ = some text)
    (written : Text.isBlankLine text.toList = false)
    (refused : Request.parse text = .error error) : Unreadable line (.json error)

/-- The request of a line, if it holds one. -/
def request? (line : Bytes) : Option Request :=
  (readLine line).toOption.join

/-- What a line can be read as. -/
inductive ReadAs (line : Bytes) : Except Failure (Option Request) → Prop
  | unreadable {failure : Failure} (unreadable : Unreadable line failure) :
    ReadAs line (.error failure)
  | blank {text : String} (whole : String.fromUTF8? ⟨line.toArray⟩ = some text)
    (blank : Text.isBlankLine text.toList = true) : ReadAs line (.ok none)
  | request {text : String} {request : Request}
    (whole : String.fromUTF8? ⟨line.toArray⟩ = some text)
    (written : Text.isBlankLine text.toList = false)
    (parsed : Request.parse text = .ok request) : ReadAs line (.ok (some request))

theorem readAs_readLine (line : Bytes) : ReadAs line (readLine line) := by
  unfold readLine
  split
  · next broken => exact .unreadable (.notText broken)
  · next text whole =>
    split
    · next blank => exact .blank whole blank
    · next written =>
      have written : Text.isBlankLine text.toList = false := by simpa using written
      cases parsed : Request.parse text with
      | error error => exact .unreadable (.notRequest whole written parsed)
      | ok request => exact .request whole written parsed

section Text

variable {line : Bytes} {text : String} (whole : String.fromUTF8? ⟨line.toArray⟩ = some text)
include whole

theorem readLine_blank (blank : Text.isBlankLine text.toList = true) :
    readLine line = .ok none := by
  simp only [readLine, whole, if_pos blank]

theorem readLine_written (written : Text.isBlankLine text.toList = false) :
    readLine line = some <$> (Request.parse text).mapError .json := by
  simp only [readLine, whole, written, Bool.false_eq_true, if_false]

theorem readLine_parsed (written : Text.isBlankLine text.toList = false) {request : Request}
    (parsed : Request.parse text = .ok request) : readLine line = .ok (some request) := by
  rw [readLine_written whole written, parsed]
  rfl

end Text

theorem readLine_error {line : Bytes} {failure : Failure} :
    readLine line = .error failure ↔ Unreadable line failure := by
  constructor
  · intro failed
    have read := readAs_readLine line
    rw [failed] at read
    cases read with
    | unreadable unreadable => exact unreadable
  · intro unreadable
    cases unreadable with
    | notText broken =>
      simp only [readLine, broken]
      rfl
    | notRequest whole written refused =>
      rw [readLine_written whole written, refused]
      rfl

theorem request?_of_read {line : Bytes} {read : Option Request}
    (outcome : readLine line = .ok read) : request? line = read := by
  rw [request?, outcome]
  rfl

theorem readLine_ok {line : Bytes} (readable : Readable line) :
    readLine line = .ok (request? line) := by
  obtain ⟨text, whole, decodes⟩ := readable
  cases written : Text.isBlankLine text.toList with
  | true =>
    have read := readLine_blank whole written
    rw [read, request?_of_read read]
  | false =>
    obtain ⟨request, parsed⟩ := decodes written
    have read := readLine_parsed whole written parsed
    rw [read, request?_of_read read]

theorem readable_of_read {line : Bytes} {read : Option Request}
    (outcome : readLine line = .ok read) : Readable line := by
  have readAs := readAs_readLine line
  rw [outcome] at readAs
  cases readAs with
  | blank whole blank => exact ⟨_, whole, fun written => by simp [blank] at written⟩
  | request whole written parsed => exact ⟨_, whole, fun _ => ⟨_, parsed⟩⟩

theorem readable_or (line : Bytes) : Readable line ∨ ∃ failure, Unreadable line failure := by
  cases outcome : readLine line with
  | error failure => exact Or.inr ⟨failure, readLine_error.mp outcome⟩
  | ok read => exact Or.inl (readable_of_read outcome)

theorem read_of_request? {line : Bytes} {request : Request} (found : request? line = some request) :
    readLine line = .ok (some request) := by
  unfold request? at found
  cases outcome : readLine line with
  | error failure =>
    rw [outcome] at found
    cases found
  | ok read =>
    rw [outcome] at found
    exact congrArg Except.ok found

def Session.preceded (earlier : Bytes) (session : Session) : Session :=
  { session with output := earlier ++ session.output }

theorem Session.send_preceded (earlier bytes : Bytes) (session : Session) :
    send bytes (session.preceded earlier) =
      ((send bytes session).1, (send bytes session).2.preceded earlier) := by
  simp only [send, preceded, List.append_assoc]
  rfl

section Send

variable {world : World} {room : Option Nat} {bytes : Bytes}

theorem Session.send_cut (cut : (taken room bytes).length < bytes.length) :
    send bytes ⟨world, room, []⟩ =
      (.error (.access outputName .writeRefused),
        ⟨world, room.map (· - bytes.length), taken room bytes⟩) := by
  simp only [send, if_pos cut, List.nil_append]

theorem Session.send_whole (whole : ¬ (taken room bytes).length < bytes.length) :
    send bytes ⟨world, room, []⟩ =
      (.ok (), preceded bytes ⟨world, room.map (· - bytes.length), []⟩) := by
  have all : taken room bytes = bytes := by
    cases room with
    | none => rfl
    | some limit =>
      rw [taken, List.length_take] at whole
      exact List.take_of_length_le (by omega)
  simp only [send, if_neg whole, preceded, List.nil_append, List.append_nil]
  rw [all]

end Send

theorem Session.serve_preceded (environment : Environment) (earlier : Bytes) (served : List Bytes)
    (session : Session) :
    Session.serve environment served (session.preceded earlier) =
      ((Session.serve environment served session).1,
        (Session.serve environment served session).2.preceded earlier) := by
  induction served generalizing session with
  | nil => rfl
  | cons line rest ih =>
    rw [Session.serve, answerLines]
    cases readLine line with
    | error failure => rfl
    | ok read =>
      cases read with
      | none => exact ih session
      | some request =>
        have responded : Session.respond environment request (session.preceded earlier) =
            ((Session.respond environment request session).1,
              (Session.respond environment request session).2.preceded earlier) := rfl
        simp only [bind_state, responded, send_preceded]
        rcases send _ (Session.respond environment request session).2 with ⟨failure | ⟨⟩, after⟩
        · rfl
        · exact ih after

theorem serveLines_cons (environment : Environment) (room : Option Nat) (world : World)
    (line : Bytes) (rest : List Bytes) :
    serveLines environment room world (line :: rest) =
      match readLine line with
      | .error failure => ⟨[], .error failure, world⟩
      | .ok none => serveLines environment room world rest
      | .ok (some request) =>
        let (world, response) := respond environment world request
        let encoded := response.encode
        let written := Session.taken room encoded
        if written.length < encoded.length then
          ⟨written, .error (.access outputName .writeRefused), world⟩
        else
          let served := serveLines environment (room.map (· - encoded.length)) world rest
          { served with output := encoded ++ served.output } := by
  rw [serveLines, Session.serve, answerLines]
  cases readLine line with
  | error failure => rfl
  | ok read =>
    cases read with
    | none => rfl
    | some request =>
      have responded : Session.respond environment request ⟨world, room, []⟩ =
          ((respond environment world request).2,
            ⟨(respond environment world request).1, room, []⟩) := rfl
      simp only [bind_state, responded]
      rcases respond environment world request with ⟨after, response⟩
      by_cases cut : (Session.taken room response.encode).length < response.encode.length
      · simp only [Session.send_cut cut, if_pos cut]
        rfl
      · have later := Session.serve_preceded environment response.encode rest
          ⟨after, room.map (· - response.encode.length), []⟩
        rw [Session.serve] at later
        simp only [Session.send_whole cut, if_neg cut, later]
        rfl

section Lines

variable (environment : Environment) (world : World)

theorem serveLines_unreadable {room : Option Nat} {line : Bytes} {failure : Failure}
    (unreadable : Unreadable line failure) (rest : List Bytes) :
    serveLines environment room world (line :: rest) = ⟨[], .error failure, world⟩ := by
  simp only [serveLines_cons, readLine_error.mpr unreadable]

theorem serveLines_blank {room : Option Nat} {line : Bytes} (blank : readLine line = .ok none)
    (rest : List Bytes) :
    serveLines environment room world (line :: rest) =
      serveLines environment room world rest := by
  simp only [serveLines_cons, blank]

theorem serveLines_request {line : Bytes} {request : Request}
    (read : readLine line = .ok (some request)) (rest : List Bytes) :
    serveLines environment none world (line :: rest) =
      (answered environment world [request] (.ok ())).andThen
        (serveLines environment none · rest) := by
  simp [serveLines_cons, read, Session.taken, answered, respondAll, Served.andThen]

theorem andThen_andThen (served : Served) (second third : World → Served) :
    (served.andThen second).andThen third = served.andThen fun world =>
      (second world).andThen third := by
  rcases served with ⟨output, failure | ⟨⟩, world⟩
  · rfl
  · simp only [Served.andThen]
    rcases second world with ⟨more, failure | ⟨⟩, after⟩
    · rfl
    · simp

theorem serveLines_append (first second : List Bytes) :
    serveLines environment none world (first ++ second) =
      (serveLines environment none world first).andThen
        (serveLines environment none · second) := by
  induction first generalizing world with
  | nil => rfl
  | cons line rest ih =>
    rw [List.cons_append]
    cases outcome : readLine line with
    | error failure =>
      have unreadable := readLine_error.mp outcome
      rw [serveLines_unreadable environment world unreadable,
        serveLines_unreadable environment world unreadable]
      rfl
    | ok read =>
      cases read with
      | none =>
        rw [serveLines_blank environment world outcome,
          serveLines_blank environment world outcome, ih]
      | some request =>
        rw [serveLines_request environment world outcome,
          serveLines_request environment world outcome, andThen_andThen]
        congr 1
        funext after
        exact ih after

theorem serveLines_readable {served : List Bytes} (readable : ∀ line ∈ served, Readable line) :
    serveLines environment none world served =
      answered environment world (served.filterMap request?) (.ok ()) := by
  induction served generalizing world with
  | nil => rfl
  | cons line rest ih =>
    have outcome := readLine_ok (readable line List.mem_cons_self)
    have later := fun world => ih world fun other member =>
      readable other (List.mem_cons_of_mem line member)
    cases found : request? line with
    | none =>
      rw [serveLines_blank environment world (found ▸ outcome), later,
        List.filterMap_cons_none found]
    | some request =>
      rw [serveLines_request environment world (found ▸ outcome), List.filterMap_cons_some found]
      simp [answered, respondAll, Served.andThen, later]

theorem serveLines_stops {before : List Bytes} {line : Bytes} {failure : Failure}
    (readable : ∀ other ∈ before, Readable other) (unreadable : Unreadable line failure)
    (after : List Bytes) :
    serveLines environment none world (before ++ line :: after) =
      answered environment world (before.filterMap request?) (.error failure) := by
  rw [serveLines_append, serveLines_readable environment world readable]
  simp [answered, Served.andThen, serveLines_unreadable environment _ unreadable]

end Lines

theorem lines_nil : lines [] = [] := rfl

theorem lines_append_lineFeed (front rest : Bytes) :
    lines (front ++ lineFeed :: rest) =
      (Text.splitWhere (· == lineFeed) front).map dropReturn ++ lines rest := by
  have cut := Text.splitWhere_append_cons (· == lineFeed) (beq_self_eq_true lineFeed) front rest
  have nonempty := Text.splitWhere_ne_nil (· == lineFeed) rest
  rw [lines, lines, cut, List.dropLast_append_of_ne_nil nonempty, List.getLast?_append,
    List.getLast?_eq_some_getLast nonempty, Option.some_or, List.map_append, List.append_assoc]

theorem lines_line {line : Bytes} (free : lineFeed ∉ line) (rest : Bytes) :
    lines (line ++ lineFeed :: rest) = dropReturn line :: lines rest := by
  rw [lines_append_lineFeed, Text.splitWhere_of_free free]
  rfl

theorem lines_open_line {line : Bytes} (free : lineFeed ∉ line) :
    lines line = if line = [] then [] else [line] := by
  rw [lines, Text.splitWhere_of_free free]
  cases line <;> rfl

theorem lines_append {first : Bytes} (ended : first = [] ∨ first.getLast? = some lineFeed)
    (second : Bytes) : lines (first ++ second) = lines first ++ lines second := by
  rcases ended with rfl | ended
  · rfl
  · obtain ⟨front, rfl⟩ := List.getLast?_eq_some_iff.mp ended
    rw [List.append_assoc, List.singleton_append, lines_append_lineFeed, lines_append_lineFeed,
      lines_nil, List.append_nil]

theorem exists_first_unreadable {served : List Bytes} {line : Bytes} {failure : Failure}
    (member : line ∈ served) (unreadable : Unreadable line failure) :
    ∃ before first after reason, served = before ++ first :: after ∧
      (∀ other ∈ before, Readable other) ∧ Unreadable first reason := by
  induction served with
  | nil => cases member
  | cons other rest ih =>
    rcases readable_or other with readable | ⟨reason, broken⟩
    · have later : line ∈ rest := by
        rcases List.mem_cons.mp member with rfl | later
        · have outcome := readLine_ok readable
          rw [readLine_error.mpr unreadable] at outcome
          cases outcome
        · exact later
      obtain ⟨before, first, after, reason, rfl, readableBefore, broken⟩ := ih later
      exact ⟨other :: before, first, after, reason, rfl,
        List.forall_mem_cons.mpr ⟨readable, readableBefore⟩, broken⟩
    · exact ⟨[], other, rest, reason, rfl, by simp, broken⟩

/-- Two streams are served as one if the first ends with a line; a failure in the first ends both.
A line that cannot be read leaves behind what the requests before it do. -/
theorem serve_append (environment : Environment) (world : World) (first second : Bytes)
    (ended : first = [] ∨ first.getLast? = some lineFeed) :
    (∀ output reached, serve environment none first world = ⟨output, .ok (), reached⟩ →
      serve environment none (first ++ second) world =
        { serve environment none second reached with
          output := output ++ (serve environment none second reached).output }) ∧
    (∀ failure, (serve environment none first world).ending = .error failure →
      serve environment none (first ++ second) world = serve environment none first world) ∧
    (∀ input : Bytes, ∀ line ∈ lines input, ∀ failure, Unreadable line failure →
      ∃ before bad after reason, lines input = before ++ bad :: after ∧
        (∀ other ∈ before, Readable other) ∧ Unreadable bad reason ∧
        serve environment none input world =
          answered environment world (before.filterMap request?) (.error reason)) := by
  have whole : serve environment none (first ++ second) world =
      (serve environment none first world).andThen (serve environment none second) := by
    rw [serve, lines_append ended, serveLines_append]
    rfl
  refine ⟨?_, ?_, ?_⟩
  · intro output reached served
    rw [whole, served]
    rfl
  · intro failure failed
    rw [whole, Served.andThen, failed]
  · intro input line member failure unreadable
    obtain ⟨before, bad, after, reason, cut, readable, broken⟩ :=
      exists_first_unreadable member unreadable
    refine ⟨before, bad, after, reason, cut, readable, broken, ?_⟩
    rw [serve, cut, serveLines_stops environment world readable broken]

/-- A request that is answered, whatever follows it. A byte that is no text behind it ends the
service there, and what comes after that byte is not heard. -/
theorem serve_append_request_and_broken :
    let first : Request := ⟨"getManifest", .null, .int 1⟩
    let line : Bytes := "[\"getManifest\",null,1]".toList.flatMap String.utf8EncodeChar
    let heard : Bytes := line ++ [lineFeed]
    let world : World := ⟨FileTree.empty, []⟩
    let answer := answered ⟨[]⟩ world [first] (.ok ())
    let stopped := answered ⟨[]⟩ world [first] (.error (.access ⟨"<stdin>"⟩ .notText))
    answer.output = printedBytes (Response.toJson ⟨.int 1, .result manifest⟩) ++ [lineFeed] ∧
    (∀ second, serve ⟨[]⟩ none (heard ++ second) world =
      { serve ⟨[]⟩ none second answer.world with
        output := answer.output ++ (serve ⟨[]⟩ none second answer.world).output }) ∧
    serve ⟨[]⟩ none (heard ++ [0xFF, lineFeed]) world = stopped ∧
    ∀ second, serve ⟨[]⟩ none (heard ++ [0xFF, lineFeed] ++ second) world = stopped := by
  intro first line heard world answer stopped
  have read : readLine line = .ok (some first) := by
    subst line
    rfl
  have asked : [line].filterMap request? = [first] :=
    List.filterMap_cons_some (request?_of_read read)
  have refused : readLine [0xFF] = .error (.access ⟨"<stdin>"⟩ .notText) := rfl
  have whole : serve ⟨[]⟩ none heard world = answer := by
    have served := serveLines_readable ⟨[]⟩ world
      (List.forall_mem_singleton.mpr (readable_of_read read))
    rwa [asked] at served
  have cut : lines (heard ++ [0xFF, lineFeed]) = [line, [0xFF]] := rfl
  have left : serve ⟨[]⟩ none (heard ++ [0xFF, lineFeed]) world = stopped := by
    obtain ⟨before, bad, after, reason, parts, early, broken, left⟩ :=
      (serve_append ⟨[]⟩ world [] [] (Or.inl rfl)).2.2 (heard ++ [0xFF, lineFeed]) [0xFF]
        (by simp [cut]) _ (readLine_error.mp refused)
    rw [cut] at parts
    -- Of the two lines only the second can be the first that is not readable.
    rcases before with _ | ⟨other, _ | ⟨next, rest⟩⟩
    · obtain ⟨rfl, -⟩ := List.cons.inj parts
      cases read.symm.trans (readLine_error.mpr broken)
    · obtain ⟨rfl, later⟩ := List.cons.inj parts
      obtain ⟨rfl, -⟩ := List.cons.inj later
      cases refused.symm.trans (readLine_error.mpr broken)
      rwa [asked] at left
    · obtain ⟨-, later⟩ := List.cons.inj parts
      obtain ⟨rfl, -⟩ := List.cons.inj later
      cases refused.symm.trans (readLine_ok (early [0xFF] (by simp)))
  refine ⟨?_, ?_, left, ?_⟩
  · exact (List.append_nil _).trans (encode_eq _)
  · intro second
    exact (serve_append ⟨[]⟩ world heard second (by decide)).1 _ _ whole
  · intro second
    rw [← left]
    exact (serve_append ⟨[]⟩ world (heard ++ [0xFF, lineFeed]) second (by decide)).2.1 _
      (by rw [left]; rfl)

end ModelRepositories.Protocol
