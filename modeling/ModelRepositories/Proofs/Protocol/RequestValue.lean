import ModelRepositories.Proofs.Json.Description
import ModelRepositories.Proofs.Json.Written
import ModelRepositories.Proofs.Protocol.Answers

/-!
A request is read straight from its text, and still it is decided by the value of the text: by the
last member of each key, whatever stands between the members and however they are written. Only a
declared member that is there twice makes a difference, which the value does not show.
-/

namespace ModelRepositories.Protocol

open Json

def methodOf? : Value → Option String
  | .str method => some method
  | _ => none

def ofMembers? (members : Members) : Option Request := do
  let method ← (members.get? "method").bind methodOf?
  let id ← members.get? "id"
  return ⟨method, (members.get? "params").getD .null, id⟩

def ofItems? : List Value → Option Request
  | [method, params, id] => (methodOf? method).map (⟨·, params, id⟩)
  | _ => none

def Request.ofValue? : Value → Option Request
  | .obj members => ofMembers? members
  | .arr items => ofItems? items
  | _ => none

/-- If the text is an object, no declared member is there twice. -/
def Unrepeated (text : String) : Prop :=
  (((writtenMembers text).map Prod.fst).filter (· ∈ ["method", "params", "id"])).Nodup

section Method

variable {bound levels : Nat} {text rest : List Char} {value : Value}

theorem toOption_refuse {α : Type} (expected : Expected) (bound : Nat) (text : List Char) :
    (refuse expected bound text : Except Stop α).toOption = none := by
  cases outcome : (refuse expected bound text : Except Stop α) with
  | error stop => rfl
  | ok a => exact absurd outcome refuse_ne_ok

theorem methodOf?_wholeNumber (negative : Bool) (n : Nat) :
    methodOf? (wholeNumber negative n) = none := by
  unfold wholeNumber
  split
  · rfl
  · split <;> rfl

theorem methodOf?_value {numeral : Numeral} (valued : numeral.value rest = .ok value) :
    methodOf? value = none := by
  unfold Numeral.value at valued
  dsimp only at valued
  split at valued
  · split at valued
    · cases valued
      exact methodOf?_wholeNumber _ _
    · split at valued <;> cases valued
      rfl
  · split at valued
    · split at valued <;> cases valued
      rfl
    · split at valued <;> cases valued
      rfl

theorem methodOf?_scalar (other : ∀ more, text ≠ '"' :: more)
    (read : readScalar bound text = .ok (value, rest)) : methodOf? value = none := by
  cases scalarRead read with
  | null letters => rfl
  | yes letters => rfl
  | no letters => rfl
  | text inner => exact absurd rfl (other _)
  | number first digits valued => exact methodOf?_value valued

theorem toOption_readMethod (read : readValue bound levels text = .ok (value, rest)) :
    (readMethod bound text).toOption = (methodOf? value).map (·, rest) := by
  unfold readMethod
  rcases readValue_cases read with
    ⟨_, _, _, -, opens, -, rfl⟩ | ⟨_, _, _, -, opens, -, rfl⟩ | scalar
  · rw [opens]
    rfl
  · rw [opens]
    rfl
  · split
    · next more opens =>
      rw [opens] at scalar
      obtain ⟨⟨method, behind⟩, quoted, done⟩ := bind_eq_ok.mp scalar
      cases done
      rw [quoted]
      rfl
    · next other =>
      rw [toOption_refuse, methodOf?_scalar other scalar]
      rfl

end Method

def Draft.absorb (draft : Draft) : String × Value → Option Draft
  | (key, value) =>
    if key = "method" then
      if draft.method.isSome then none
      else (methodOf? value).map fun method => { draft with method := some method }
    else if key = "params" then
      if draft.params.isSome then none else some { draft with params := some value }
    else if key = "id" then
      if draft.id.isSome then none else some { draft with id := some value }
    else some draft

def Draft.request? (draft : Draft) : Option Request := do
  let method ← draft.method
  let id ← draft.id
  return ⟨method, draft.params.getD .null, id⟩

theorem toOption_finish (draft : Draft) (rest : List Char) :
    (draft.finish rest).toOption = draft.request? := by
  obtain ⟨method, params, id⟩ := draft
  cases method <;> cases id <;> rfl

theorem absorbs_readMember (bound : Nat) :
    Absorbs bound (maxLevels - 1) (readMember bound) Draft.absorb := by
  intro draft key value text behind rest room colon read
  have payload : readPayload bound behind = .ok (value, rest) := read
  unfold readMember Draft.absorb
  dsimp only
  split
  · split
    · rfl
    · rw [colon]
      show (readMethod bound behind >>= _).toOption = _
      rw [toOption_bind, toOption_readMethod read]
      cases methodOf? value <;> rfl
  split
  · split
    · rfl
    · rw [colon]
      show (readPayload bound behind >>= _).toOption = _
      rw [payload]
      rfl
  split
  · split
    · rfl
    · rw [colon]
      show (readPayload bound behind >>= _).toOption = _
      rw [payload]
      rfl
  · have near : behind.length < bound := Nat.lt_of_le_of_lt (length_readColon colon) room
    obtain ⟨-, skipped⟩ := skips_value (maxLevels - 1) near (Nat.le_of_lt near) behind value rest
      (Nat.le_refl _) read
    rw [colon]
    show (skipNested bound bound behind >>= _).toOption = _
    rw [skipped]
    rfl

/-- What has been read agrees with the members that have been put. -/
structure Draft.Agrees (draft : Draft) (members : Members) : Prop where
  method : (members.get? "method").bind methodOf? = draft.method
  named : members.get? "method" = none ↔ draft.method = none
  params : members.get? "params" = draft.params
  id : members.get? "id" = draft.id

theorem Draft.Agrees.request? {draft : Draft} {members : Members} (agrees : draft.Agrees members) :
    draft.request? = ofMembers? members := by
  rw [Draft.request?, ofMembers?, agrees.method, agrees.params, agrees.id]

theorem get?_putAll {name : String} {written : List (String × Value)}
    (absent : name ∉ written.map Prod.fst) (present : Members) :
    (putAll present written).get? name = present.get? name := by
  induction written generalizing present with
  | nil => rfl
  | cons member written ih =>
    rw [List.map_cons, List.mem_cons, not_or] at absent
    refine (ih absent.2 (present.put member.1 member.2)).trans ?_
    rw [Members.get?_put, if_neg absent.1]

section Absorb

variable {draft after : Draft} {present : Members} {key : String} {value : Value}
  (agrees : draft.Agrees present)
include agrees

theorem Draft.Agrees.absorb (taken : draft.absorb (key, value) = some after) :
    after.Agrees (present.put key value) := by
  unfold Draft.absorb at taken
  dsimp only at taken
  -- A declared key sets one part of the draft, any other key none.
  split at taken
  · next method =>
    subst method
    split at taken
    · cases taken
    · obtain ⟨named, called, rfl⟩ := Option.map_eq_some_iff.mp taken
      refine ⟨?_, ?_, ?_, ?_⟩ <;> simp [Members.get?_put, called, agrees.params, agrees.id]
  split at taken
  · next params =>
    subst params
    split at taken
    · cases taken
    · cases taken
      refine ⟨?_, ?_, ?_, ?_⟩ <;>
        simp [Members.get?_put, agrees.method, agrees.named, agrees.id]
  split at taken
  · next id =>
    subst id
    split at taken
    · cases taken
    · cases taken
      refine ⟨?_, ?_, ?_, ?_⟩ <;>
        simp [Members.get?_put, agrees.method, agrees.named, agrees.params]
  · next method params id =>
    cases taken
    have others : ∀ name ∈ ["method", "params", "id"],
        (present.put key value).get? name = present.get? name := by
      intro name declared
      rw [Members.get?_put, if_neg]
      rintro rfl
      simp [method, params, id] at declared
    refine ⟨?_, ?_, ?_, ?_⟩
    · rw [others _ (by simp), agrees.method]
    · rw [others _ (by simp), agrees.named]
    · rw [others _ (by simp), agrees.params]
    · rw [others _ (by simp), agrees.id]

theorem Draft.Agrees.refuses (fresh : key ∈ ["method", "params", "id"] → present.get? key = none)
    (refused : draft.absorb (key, value) = none) : key = "method" ∧ methodOf? value = none := by
  unfold Draft.absorb at refused
  dsimp only at refused
  split at refused
  · next method =>
    subst method
    rw [agrees.named.mp (fresh (by simp)), if_neg (by simp)] at refused
    exact ⟨rfl, Option.map_eq_none_iff.mp refused⟩
  split at refused
  · next params =>
    subst params
    rw [← agrees.params, fresh (by simp), if_neg (by simp)] at refused
    cases refused
  split at refused
  · next id =>
    subst id
    rw [← agrees.id, fresh (by simp), if_neg (by simp)] at refused
    cases refused
  · cases refused

end Absorb

theorem request?_of_written {written : List (String × Value)} {draft : Draft} {present : Members}
    (agrees : draft.Agrees present)
    (once : ((written.map Prod.fst).filter (· ∈ ["method", "params", "id"])).Nodup)
    (fresh : ∀ key ∈ written.map Prod.fst, key ∈ ["method", "params", "id"] →
      present.get? key = none) :
    (written.foldlM Draft.absorb draft).bind Draft.request? =
      ofMembers? (putAll present written) := by
  induction written generalizing draft present with
  | nil => exact agrees.request?
  | cons member written ih =>
    obtain ⟨key, value⟩ := member
    have later := once.sublist ((List.sublist_cons_self key (written.map Prod.fst)).filter _)
    have apart : key ∈ ["method", "params", "id"] → key ∉ written.map Prod.fst := by
      intro declared again
      rw [List.map_cons, List.filter_cons_of_pos (by simpa using declared)] at once
      exact (List.nodup_cons.mp once).1 (List.mem_filter.mpr ⟨again, by simpa using declared⟩)
    rw [List.foldlM_cons]
    cases taken : draft.absorb (key, value) with
    | some after =>
      refine ih (agrees.absorb taken) later ?_
      intro other member declared
      rw [Members.get?_put, if_neg]
      · exact fresh other (List.mem_cons_of_mem key member) declared
      · rintro rfl
        exact apart declared member
    | none =>
      obtain ⟨rfl, unnamed⟩ := agrees.refuses (fresh key List.mem_cons_self) taken
      have last : (putAll (present.put "method" value) written).get? "method" = some value := by
        rw [get?_putAll (apart (by simp)), Members.get?_put, if_pos rfl]
      show none = ofMembers? (putAll (present.put "method" value) written)
      rw [ofMembers?, last]
      show none = (methodOf? value).bind _
      rw [unnamed]
      rfl

section Lists

variable {bound levels turns : Nat} {first : Bool} {items final : List Value}
  {text rest : List Char}

theorem expectItem_item {inner : List Char} (here : nextItem .keep first text = .ok (.item inner))
    (count : Nat) : expectItem first count text = .ok inner := by
  rw [expectItem, here]
  rfl

theorem toOption_expectItem (here : nextItem .keep first text = .ok (.done rest)) (count : Nat) :
    (expectItem first count text).toOption = none := by
  rw [expectItem, here]
  rfl

theorem closeList_done (here : nextItem .keep false text = .ok (.done rest)) :
    closeList text = .ok rest := by
  unfold nextItem at here
  split at here
  · cases here
  · next same =>
    cases here
    rw [closeList, same]
    rfl
  · rw [if_neg Bool.false_ne_true] at here
    split at here
    · split at here <;> cases here
    · cases here

theorem toOption_closeList {inner : List Char}
    (here : nextItem .keep false text = .ok (.item inner)) : (closeList text).toOption = none := by
  unfold nextItem at here
  split at here
  · cases here
  · cases here
  · next c more _ same =>
    rw [if_neg Bool.false_ne_true] at here
    split at here
    · next comma =>
      subst comma
      simp only [closeList, same]
      split <;> rfl
    · cases here

theorem ofItems?_unnamed {method : Value} (unnamed : methodOf? method = none) (more : List Value) :
    ofItems? (method :: more) = none := by
  unfold ofItems?
  split
  · next same =>
    cases same
    rw [unnamed]
    rfl
  · rfl

theorem toOption_readList
    (read : readItems .keep (readOneMore bound (maxLevels - 1)) turns true [] text =
      .ok (items, rest)) :
    (readList bound text).toOption = (ofItems? items.reverse).map (·, rest) := by
  unfold readList
  rcases readItems_cases read with ⟨closed, rfl⟩ | ⟨_, method, _, _, here, valued, read⟩
  · rw [toOption_bind, toOption_expectItem closed]
    rfl
  rw [expectItem_item here]
  show (readMethod bound _ >>= _).toOption = _
  rw [toOption_bind, toOption_readMethod valued]
  cases named : methodOf? method with
  | none =>
    obtain ⟨more, listed⟩ := exists_items read
    rw [listed, List.reverse_singleton, List.singleton_append, ofItems?_unnamed named]
    rfl
  | some name =>
    show (expectItem false 2 _ >>= _).toOption = _
    rcases readItems_cases read with ⟨closed, rfl⟩ | ⟨_, params, _, _, here, payload, read⟩
    · rw [toOption_bind, toOption_expectItem closed]
      rfl
    rw [expectItem_item here]
    show (readPayload bound _ >>= _).toOption = _
    rw [readPayload, payload]
    show (expectItem false 2 _ >>= _).toOption = _
    rcases readItems_cases read with ⟨closed, rfl⟩ | ⟨_, id, _, _, here, payload, read⟩
    · rw [toOption_bind, toOption_expectItem closed]
      rfl
    rw [expectItem_item here]
    show (readPayload bound _ >>= _).toOption = _
    rw [readPayload, payload]
    show (closeList _ >>= _).toOption = _
    rcases readItems_cases read with ⟨closed, rfl⟩ | ⟨_, extra, _, _, here, -, read⟩
    · rw [closeList_done closed]
      show _ = ((methodOf? method).map _).map _
      rw [named]
      rfl
    · obtain ⟨more, listed⟩ := exists_items read
      rw [toOption_bind, toOption_closeList here, listed]
      rfl

end Lists

section Parse

variable {text : String} {value : Value}

theorem toOption_parse_of {found : Option Request} {rest : List Char}
    (read : (readRequest (text.toList.length + 1) text.toList).toOption = found.map (·, rest))
    (ended : dropSpace rest = []) : (Request.parse text).toOption = found := by
  cases found with
  | some request =>
    exact toOption_eq_some.mpr (readAll_eq_ok.mpr ⟨rest, toOption_eq_some.mp read, ended⟩)
  | none =>
    cases outcome : Request.parse text with
    | error error => rfl
    | ok request =>
      obtain ⟨behind, whole, -⟩ := readAll_eq_ok.mp outcome
      rw [whole] at read
      cases read

theorem toOption_parse (parsed : Json.parse text = .ok value) (once : Unrepeated text) :
    (Request.parse text).toOption = Request.ofValue? value := by
  obtain ⟨rest, read, ended⟩ := readAll_eq_ok.mp parsed
  rcases readValue_cases read with ⟨fewer, more, items, same, opens, loop, rfl⟩ |
    ⟨fewer, more, members, same, opens, loop, -⟩ | scalar
  · obtain rfl : fewer = maxLevels - 1 := by omega
    refine toOption_parse_of ?_ ended
    rw [readRequest, opens]
    exact toOption_readList loop
  · obtain ⟨rfl, behind, closed, others⟩ := writtenMembers_of_parse opens parsed
    have start : Draft.Agrees {} [] := ⟨rfl, by simp [Members.get?], rfl, rfl⟩
    have members := request?_of_written start once fun _ _ _ => rfl
    refine toOption_parse_of ?_ closed
    rw [readRequest, opens]
    show (readMembers .keep _ _ _ true ({} : Draft) more >>= _).toOption = _
    rw [toOption_bind, others _ _ (absorbs_readMember _), Request.ofValue?, ← members]
    cases (writtenMembers text).foldlM Draft.absorb ({} : Draft) with
    | none => rfl
    | some draft =>
      show (draft.finish behind >>= _).toOption = draft.request?.map _
      rw [toOption_bind, toOption_finish]
      cases draft.request? <;> rfl
  · refine toOption_parse_of ?_ ended
    have plain : Request.ofValue? value = none := by
      have stored : Stored 0 value := stored_readScalar scalar
      cases stored <;> rfl
    rw [plain, readRequest]
    split
    · next opens =>
      rw [opens] at scalar
      cases scalar
    · next opens =>
      rw [opens] at scalar
      cases scalar
    · exact toOption_refuse _ _ _

theorem unrepeated_print (parsed : Json.parse text = .ok value)
    (reread : Json.parse (print value) = .ok value) : Unrepeated (print value) := by
  unfold Unrepeated
  cases value with
  | obj members =>
    have keys : (writtenMembers (print (.obj members))).map Prod.fst = members.map Prod.fst := by
      rw [writtenMembers_print (stored_parse parsed).fits, List.map_map]
      rfl
    rw [keys]
    exact (distinct_parse parsed).keys.filter _
  | _ =>
    rw [writtenMembers_of_other reread nofun]
    exact List.nodup_nil

end Parse

/-- A line of a text that has a value and repeats no declared member. -/
def Denotes (line : Bytes) (value : Value) : Prop :=
  ∃ text, String.fromUTF8? ⟨line.toArray⟩ = some text ∧ Json.parse text = .ok value ∧
    Unrepeated text

section Denotes

variable {line other : Bytes} {value : Value}

theorem Denotes.holds (denotes : Denotes line value) {request : Request}
    (found : Request.ofValue? value = some request) :
    HoldsRequest line request ∧ readLine line = .ok (some request) := by
  obtain ⟨text, whole, parsed, once⟩ := denotes
  have read : Request.parse text = .ok request :=
    toOption_eq_some.mp ((toOption_parse parsed once).trans found)
  exact ⟨⟨text, whole, read⟩, readLine_parsed whole (isBlankLine_of_parse parsed) read⟩

theorem Denotes.unreadable (denotes : Denotes line value)
    (undecoded : Request.ofValue? value = none) : ∃ error, Unreadable line (.json error) := by
  obtain ⟨text, whole, parsed, once⟩ := denotes
  have refused := (toOption_parse parsed once).trans undecoded
  cases outcome : Request.parse text with
  | ok request =>
    rw [outcome] at refused
    cases refused
  | error error => exact ⟨error, .notRequest whole (isBlankLine_of_parse parsed) outcome⟩

theorem Denotes.printed (denotes : Denotes line value) (exact : value.hasFloat = false) :
    Denotes (printedBytes value) value := by
  obtain ⟨text, -, parsed, -⟩ := denotes
  have stored := stored_parse parsed
  have reread : Json.parse (print value) = .ok value := by
    rw [parse_print stored.fits, stored.reread_eq exact]
  exact ⟨print value, fromUTF8?_printedBytes value, reread, unrepeated_print parsed reread⟩

theorem Denotes.lines_printed (denotes : Denotes line value) (exact : value.hasFloat = false) :
    lines (printedBytes value) = [printedBytes value] := by
  obtain ⟨text, whole, parsed, -⟩ := denotes.printed exact
  have nonempty : printedBytes value ≠ [] := by
    intro empty
    have bytes := Text.fromUTF8?_eq_some.mp whole
    have blank : text.toList = [] :=
      List.eq_nil_iff_forall_not_mem.mpr (by simpa [empty] using bytes)
    have written := isBlankLine_of_parse parsed
    rw [blank] at written
    cases written
  rw [lines_open_line (lineFeed_not_mem value), if_neg nonempty]

end Denotes

/-- Streams that differ in their first line only are served alike: the lines hold the same request,
or the service fails at either with nothing written. -/
def ServedAlike (line other : Bytes) : Prop :=
  ∀ (environment : Environment) (room : Option Nat) (world : World) (input edited : Bytes)
    (rest : List Bytes), lines input = line :: rest → lines edited = other :: rest →
    (∃ request, HoldsRequest line request ∧ HoldsRequest other request ∧
      serve environment room input world = serve environment room edited world) ∨
    ∃ error another, serve environment room input world = ⟨[], .error (.json error), world⟩ ∧
      serve environment room edited world = ⟨[], .error (.json another), world⟩

theorem Denotes.servedAlike {line other : Bytes} {value : Value} (left : Denotes line value)
    (right : Denotes other value) : ServedAlike line other := by
  intro environment room world input edited rest first second
  rw [serve, serve, first, second]
  cases found : Request.ofValue? value with
  | some request =>
    obtain ⟨holdsLeft, readLeft⟩ := left.holds found
    obtain ⟨holdsRight, readRight⟩ := right.holds found
    refine Or.inl ⟨request, holdsLeft, holdsRight, ?_⟩
    simp only [serveLines_cons, readLeft, readRight]
  | none =>
    obtain ⟨error, brokenLeft⟩ := left.unreadable found
    obtain ⟨another, brokenRight⟩ := right.unreadable found
    exact Or.inr ⟨error, another, serveLines_unreadable environment world brokenLeft rest,
      serveLines_unreadable environment world brokenRight rest⟩

/-- A line of a text that has a value without doubles is served as the print of that value is, which
is one line, and as every other line of the value. -/
theorem serve_by_value (line : Bytes) (value : Value) (denotes : Denotes line value)
    (exact : value.hasFloat = false) :
    lines (printedBytes value) = [printedBytes value] ∧ ServedAlike line (printedBytes value) ∧
      ∀ other, Denotes other value → ServedAlike line other :=
  ⟨denotes.lines_printed exact, denotes.servedAlike (denotes.printed exact),
    fun _ same => denotes.servedAlike same⟩

set_option maxRecDepth 4000 in
theorem serve_by_value_spaced :
    let text :=
      "\x7b \"x\":[], \"method\":\"getManif\\u0065st\",\"x\":\x7b\x7d,\"id\":7\x7d"
    let line : Bytes := text.toList.flatMap String.utf8EncodeChar
    let value : Value := .obj [("id", .int 7), ("method", .str "getManifest"), ("x", .obj [])]
    lines line = [line] ∧ lines (printedBytes value) = [printedBytes value] ∧
      ServedAlike line (printedBytes value) := by
  have parsed : Json.parse
      "\x7b \"x\":[], \"method\":\"getManif\\u0065st\",\"x\":\x7b\x7d,\"id\":7\x7d" =
      .ok (.obj [("id", .int 7), ("method", .str "getManifest"), ("x", .obj [])]) := by
    with_unfolding_all rfl
  intro text line value
  have once : Unrepeated text := by
    unfold Unrepeated
    decide +kernel
  have denotes : Denotes line value := ⟨text, Text.fromUTF8?_eq_some.mpr rfl, parsed, once⟩
  obtain ⟨printed, alike, -⟩ := serve_by_value line value denotes rfl
  exact ⟨by decide +kernel, printed, alike⟩

end ModelRepositories.Protocol
