import ModelRepositories.Proofs.Protocol.Answers

/-!
An output that takes only so many bytes. It gets the first bytes of what an output without a limit
gets, and the service ends at the response that does not fit: the request of that response has been
carried out, and no later one is.
-/

namespace ModelRepositories.Protocol

/-- The requests before the first line that cannot be read. -/
def heard : List Bytes → List Request
  | [] => []
  | line :: rest =>
    match readLine line with
    | .error _ => []
    | .ok none => heard rest
    | .ok (some request) => request :: heard rest

/-- What is written for some requests. -/
def spoken (environment : Environment) (world : World) (requests : List Request) : Bytes :=
  (respondAll environment world requests).2.flatMap Response.encode

section Limited

variable (environment : Environment) (world : World) {line : Bytes} {request : Request}
  (read : readLine line = .ok (some request)) (rest : List Bytes)

theorem spoken_cons (request : Request) (requests : List Request) :
    spoken environment world (request :: requests) =
      (respond environment world request).2.encode ++
        spoken environment (respond environment world request).1 requests := rfl

include read

theorem serveLines_unlimited :
    serveLines environment none world (line :: rest) =
      { serveLines environment none (respond environment world request).1 rest with
        output := (respond environment world request).2.encode ++
          (serveLines environment none (respond environment world request).1 rest).output } := by
  rw [serveLines_request environment world read]
  simp [answered, respondAll, Served.andThen]

theorem serveLines_fits {limit : Nat}
    (fits : (respond environment world request).2.encode.length ≤ limit) :
    serveLines environment (some limit) world (line :: rest) =
      let later := serveLines environment
        (some (limit - (respond environment world request).2.encode.length))
        (respond environment world request).1 rest
      { later with output := (respond environment world request).2.encode ++ later.output } := by
  have whole : ¬ (Session.taken (some limit) (respond environment world request).2.encode).length <
      (respond environment world request).2.encode.length := by
    rw [Session.taken, List.take_of_length_le fits]
    exact Nat.lt_irrefl _
  simp only [serveLines_cons, read, if_neg whole]
  rfl

theorem serveLines_full {limit : Nat}
    (full : limit < (respond environment world request).2.encode.length) :
    serveLines environment (some limit) world (line :: rest) =
      ⟨(respond environment world request).2.encode.take limit,
        .error (.access outputName .writeRefused), (respond environment world request).1⟩ := by
  have cut : (Session.taken (some limit) (respond environment world request).2.encode).length <
      (respond environment world request).2.encode.length := by
    rw [Session.taken, List.length_take]
    omega
  simp only [serveLines_cons, read, if_pos cut]
  rfl

end Limited

theorem serveLines_heard (environment : Environment) (world : World) (served : List Bytes) :
    (serveLines environment none world served).output =
        spoken environment world (heard served) ∧
      (serveLines environment none world served).world =
        reached environment world (heard served) := by
  induction served generalizing world with
  | nil => exact ⟨rfl, rfl⟩
  | cons line rest ih =>
    cases outcome : readLine line with
    | error failure =>
      rw [heard, outcome, serveLines_unreadable environment world (readLine_error.mp outcome)]
      exact ⟨rfl, rfl⟩
    | ok read =>
      cases read with
      | none =>
        rw [heard, outcome, serveLines_blank environment world outcome]
        exact ih world
      | some request =>
        rw [heard, outcome, serveLines_unlimited environment world outcome]
        obtain ⟨output, reaches⟩ := ih (respond environment world request).1
        exact ⟨congrArg _ output, reaches⟩

/-- A service ended at one of the requests: the responses before it were written, its own was not
as a whole. -/
structure EndsAt (environment : Environment) (world : World) (limit : Nat)
    (requests : List Request) (cut : Served) : Prop where
  ending : cut.ending = .error (.access outputName .writeRefused)
  request : ∃ before request after, requests = before ++ request :: after ∧
    (spoken environment world before).length ≤ limit ∧
    limit < (spoken environment world (before ++ [request])).length ∧
    cut.world = reached environment world (before ++ [request])

theorem EndsAt.later {environment : Environment} {world : World} {limit : Nat}
    {request : Request} {requests : List Request} {cut : Served}
    (fits : (respond environment world request).2.encode.length ≤ limit)
    (ends : EndsAt environment (respond environment world request).1
      (limit - (respond environment world request).2.encode.length) requests cut)
    (output : Bytes) :
    EndsAt environment world limit (request :: requests) { cut with output } := by
  obtain ⟨ending, before, last, after, rfl, short, long, reaches⟩ := ends
  refine ⟨ending, request :: before, last, after, rfl, ?_, ?_, reaches⟩
  · rw [spoken_cons, List.length_append]
    omega
  · rw [List.cons_append, spoken_cons, List.length_append]
    omega

theorem serveLines_limited (environment : Environment) (world : World) (served : List Bytes)
    (limit : Nat) :
    let whole := serveLines environment none world served
    let cut := serveLines environment (some limit) world served
    cut.output = whole.output.take limit ∧ (whole.output.length ≤ limit → cut = whole) ∧
      (limit < whole.output.length → EndsAt environment world limit (heard served) cut) := by
  induction served generalizing world limit with
  | nil =>
    exact ⟨List.take_nil.symm, fun _ => rfl, fun exceeds => absurd exceeds (Nat.not_lt_zero _)⟩
  | cons line rest ih =>
    cases outcome : readLine line with
    | error failure =>
      have unreadable := readLine_error.mp outcome
      rw [serveLines_unreadable environment world unreadable,
        serveLines_unreadable environment world unreadable]
      exact ⟨List.take_nil.symm, fun _ => rfl, fun exceeds => absurd exceeds (Nat.not_lt_zero _)⟩
    | ok read =>
      cases read with
      | none =>
        rw [serveLines_blank environment world outcome, serveLines_blank environment world outcome,
          heard, outcome]
        exact ih world limit
      | some request =>
        rw [serveLines_unlimited environment world outcome, heard, outcome]
        -- Either this answer passes the limit, or a later one passes what it leaves of it.
        by_cases fits : (respond environment world request).2.encode.length ≤ limit
        · rw [serveLines_fits environment world outcome rest fits]
          obtain ⟨output, enough, exceeded⟩ := ih (respond environment world request).1
            (limit - (respond environment world request).2.encode.length)
          refine ⟨?_, ?_, ?_⟩
          · simp only [List.take_append, List.take_of_length_le fits, output]
          · intro room
            simp only [List.length_append] at room
            simp only [enough (by omega)]
          · intro exceeds
            simp only [List.length_append] at exceeds
            exact (exceeded (by omega)).later fits _
        · have full := Nat.lt_of_not_le fits
          rw [serveLines_full environment world outcome rest full]
          refine ⟨?_, ?_, ?_⟩
          · simp only [List.take_append_of_le_length (Nat.le_of_lt full)]
          · intro room
            simp only [List.length_append] at room
            omega
          · intro exceeds
            refine ⟨rfl, [], request, heard rest, rfl, Nat.zero_le limit, ?_, rfl⟩
            simpa [spoken, respondAll] using full

/-- An output with a limit gets the first bytes of what is written without one. If there are no more
the service does not notice; otherwise it fails once it has carried out the request whose response
has the first byte that is refused. -/
theorem serve_limited (environment : Environment) (world : World) (input : Bytes) (limit : Nat) :
    let whole := serve environment none input world
    let cut := serve environment (some limit) input world
    whole.output = spoken environment world (heard (lines input)) ∧
    cut.output = whole.output.take limit ∧
    (whole.output.length ≤ limit → cut.ending = whole.ending ∧ cut.world = whole.world) ∧
    (limit < whole.output.length → EndsAt environment world limit (heard (lines input)) cut) := by
  intro whole cut
  obtain ⟨output, enough, exceeded⟩ := serveLines_limited environment world (lines input) limit
  refine ⟨(serveLines_heard environment world (lines input)).1, output, ?_, exceeded⟩
  intro room
  have same : cut = whole := enough room
  exact ⟨by rw [same], by rw [same]⟩

theorem serve_limited_in_second_answer :
    let first : Bytes := "[\"getManifest\",null,1]\n".toList.flatMap String.utf8EncodeChar
    let second : Bytes := "[\"getManifest\",null,2]\n".toList.flatMap String.utf8EncodeChar
    let world : World := ⟨FileTree.empty, []⟩
    let whole := serve ⟨[]⟩ none (first ++ second ++ first) world
    let cut := serve ⟨[]⟩ (some 200) (first ++ second ++ first) world
    whole.output.length = 492 ∧ cut.output = whole.output.take 200 ∧
      EndsAt ⟨[]⟩ world 200
        [⟨"getManifest", .null, .int 1⟩, ⟨"getManifest", .null, .int 2⟩,
          ⟨"getManifest", .null, .int 1⟩] cut := by
  intro first second world whole cut
  have requests : heard (lines (first ++ second ++ first)) =
      [⟨"getManifest", .null, .int 1⟩, ⟨"getManifest", .null, .int 2⟩,
        ⟨"getManifest", .null, .int 1⟩] := by
    rfl
  obtain ⟨spoken, output, -, ends⟩ := serve_limited ⟨[]⟩ world (first ++ second ++ first) 200
  have length : whole.output.length = 492 := by
    rw [spoken, requests, Protocol.spoken, funext encode_eq, funext printedBytes_eq]
    decide +kernel
  exact ⟨length, output, requests ▸ ends (by rw [length]; decide)⟩

end ModelRepositories.Protocol
