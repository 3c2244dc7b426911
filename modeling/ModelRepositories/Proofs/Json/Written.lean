import ModelRepositories.Proofs.Json.Skipping
import ModelRepositories.Proofs.Json.Stored
import ModelRepositories.Text.Blank

/-!
The members of an object as they are written, in their order and with all that repeat a key. A
reader that takes members one by one depends on the text through this list only; the reader of
values is one such reader, and keeps the last member of each key. The items of a list are read one
by one as well, and a text of blanks holds no value.
-/

namespace ModelRepositories.Json

theorem toOption_bind {ε α β : Type} (first : Except ε α) (next : α → Except ε β) :
    (first >>= next).toOption = first.toOption.bind fun a => (next a).toOption := by
  cases first <;> rfl

theorem toOption_eq_some {ε α : Type} {result : Except ε α} {a : α} :
    result.toOption = some a ↔ result = .ok a := by
  cases result <;> simp [Except.toOption]

def putAll (present : Members) (written : List (String × Value)) : Members :=
  written.foldl (fun present member => present.put member.1 member.2) present

/-- A reader takes a member as a step says that its key and value are to be taken, wherever there
is such a member. -/
def Absorbs {σ : Type} (bound levels : Nat) (member : σ → String → Reader σ)
    (absorb : σ → String × Value → Option σ) : Prop :=
  ∀ state key value text behind rest, text.length < bound → readColon text = .ok behind →
    readValue bound levels behind = .ok (value, rest) →
    (member state key text).toOption = (absorb state (key, value)).map (·, rest)

def readOneBehind (bound levels : Nat) (written : List (String × Value)) (key : String) :
    Reader (List (String × Value)) := fun rest => do
  let (value, rest) ← readValue bound levels (← readColon rest)
  return (written ++ [(key, value)], rest)

def writtenMembers (text : String) : List (String × Value) :=
  let bound := text.toList.length + 1
  match dropSpace text.toList with
  | '\x7b' :: rest =>
    ((readMembers .keep (readText bound) (readOneBehind bound (maxLevels - 1)) bound true []
      rest).toOption.map Prod.fst).getD []
  | _ => []

section Members

variable {bound levels : Nat} {text rest : List Char}

theorem absorbs_readOneBehind :
    Absorbs bound levels (readOneBehind bound levels)
      fun written member => some (written ++ [member]) := by
  intro written key value text behind rest room colon read
  rw [readOneBehind, colon]
  show (readValue bound levels behind >>= _).toOption = _
  rw [read]
  rfl

theorem exists_written {turns : Nat} {first : Bool} {start final : Members}
    (fits : text.length < bound)
    (read : readMembers .keep (readText bound) (readOnePut bound levels) turns first start text =
      .ok (final, rest)) :
    ∃ written, final = putAll start written ∧
      ∀ {σ : Type} (member : σ → String → Reader σ) (absorb : σ → String × Value → Option σ),
        Absorbs bound levels member absorb → ∀ state,
          (readMembers .keep (readText bound) member turns first state text).toOption =
            (written.foldlM absorb state).map (·, rest) := by
  -- The reader of values finds the members; every other reader goes the same way through them.
  induction turns generalizing first start text with
  | zero => cases read
  | succ turns ih =>
    obtain ⟨next, here, read⟩ := bind_eq_ok.mp read
    obtain ⟨shorter, -⟩ := skip_nextKey here
    cases next with
    | done behind =>
      cases read
      refine ⟨[], rfl, fun member absorb absorbs state => ?_⟩
      rw [readMembers, here]
      rfl
    | item inner =>
      obtain ⟨⟨key, colonText⟩, named, read⟩ := bind_eq_ok.mp read
      obtain ⟨⟨present, behind⟩, one, read⟩ := bind_eq_ok.mp read
      obtain ⟨valueText, colon, one⟩ := bind_eq_ok.mp one
      obtain ⟨⟨value, past⟩, valued, one⟩ := bind_eq_ok.mp one
      cases one
      have inside : inner.length < bound := Nat.lt_of_le_of_lt shorter fits
      obtain ⟨nearer, -⟩ := skips_text inside inner key colonText (Nat.le_refl _) named
      have spelled : colonText.length < bound := Nat.lt_of_le_of_lt nearer inside
      have colonNear : valueText.length < bound :=
        Nat.lt_of_le_of_lt (length_readColon colon) spelled
      obtain ⟨less, -⟩ := skips_value levels colonNear (Nat.le_refl _) valueText value behind
        (Nat.le_refl _) valued
      obtain ⟨written, whole, others⟩ := ih (Nat.lt_of_le_of_lt less colonNear) read
      refine ⟨(key, value) :: written, whole, fun member absorb absorbs state => ?_⟩
      have taken := absorbs state key value colonText valueText behind spelled colon valued
      rw [readMembers, here]
      show (readText bound inner >>= _).toOption = _
      rw [named]
      show (member state key colonText >>= _).toOption = _
      rw [toOption_bind, taken, List.foldlM_cons]
      cases absorb state (key, value) with
      | none => rfl
      | some after => exact others member absorb absorbs after

theorem foldlM_behind (written more : List (String × Value)) :
    more.foldlM (fun written member => some (written ++ [member])) written =
      some (written ++ more) := by
  induction more generalizing written with
  | nil => simp
  | cons member more ih =>
    rw [List.foldlM_cons]
    exact (ih (written ++ [member])).trans (by simp)

end Members

/-- The value of an object is made of the members that are written, and so is everything else that
is read of them. -/
theorem writtenMembers_of_parse {text : String} {more : List Char} {value : Value}
    (opens : dropSpace text.toList = '\x7b' :: more) (parsed : parse text = .ok value) :
    value = .obj (putAll [] (writtenMembers text)) ∧
    ∃ rest, dropSpace rest = [] ∧
      ∀ {σ : Type} (member : σ → String → Reader σ) (absorb : σ → String × Value → Option σ),
        Absorbs (text.toList.length + 1) (maxLevels - 1) member absorb → ∀ state,
          (readMembers .keep (readText (text.toList.length + 1)) member (text.toList.length + 1)
            true state more).toOption =
            ((writtenMembers text).foldlM absorb state).map (·, rest) := by
  obtain ⟨rest, read, ended⟩ := readAll_eq_ok.mp parsed
  have shorter := length_dropSpace text.toList
  rcases readValue_cases read with ⟨_, _, _, _, other, -⟩ |
    ⟨fewer, inner, members, same, brace, loop, rfl⟩ | scalar
  · rw [opens] at other
    cases other
  · rw [opens] at brace shorter
    cases brace
    obtain rfl : fewer = maxLevels - 1 := by omega
    rw [List.length_cons] at shorter
    obtain ⟨written, rfl, others⟩ := exists_written (by omega) loop
    have listed : writtenMembers text = written := by
      have behind := others _ _ absorbs_readOneBehind []
      rw [foldlM_behind, List.nil_append] at behind
      simp only [writtenMembers, opens, behind, Option.map_some, Option.getD_some]
    rw [listed]
    exact ⟨rfl, rest, ended, others⟩
  · rw [opens] at scalar
    cases scalar

theorem writtenMembers_of_other {text : String} {value : Value} (parsed : parse text = .ok value)
    (other : ∀ members, value ≠ .obj members) : writtenMembers text = [] := by
  unfold writtenMembers
  split
  · next opens => exact absurd (writtenMembers_of_parse opens parsed).1 (other _)
  · rfl

theorem writtenMembers_print {members : List (String × Value)}
    (fits : Fits maxLevels (.obj members)) :
    writtenMembers (print (.obj members)) =
      members.map fun member => (member.1, member.2.reread) := by
  obtain ⟨more, text⟩ := exists_printed_object members []
  have spelled : (print (.obj members)).toList = '\x7b' :: more := by
    rw [print, String.toList_ofList, ← text, List.append_nil]
  have room : (printValue (.obj members)).length < (print (.obj members)).toList.length + 1 := by
    rw [print, String.toList_ofList]
    exact Nat.lt_succ_self _
  have reads : ∀ printed ∈ members, ∀ written rest, Ends rest →
      readOneBehind ((print (.obj members)).toList.length + 1) (maxLevels - 1) written printed.1
        (':' :: (printValue printed.2 ++ rest)) =
        .ok (written ++ [(printed.1, printed.2.reread)], rest) := by
    intro printed present written rest ends
    cases fits with
    | obj fits =>
      have read := readsBack (fits printed present)
        (Nat.lt_trans (length_member present).2 room) rest ends
      exact bind_eq_ok.mpr ⟨_, rfl, bind_eq_ok.mpr ⟨_, read, rfl⟩⟩
  have whole : readMembers .keep (readText _) (readOneBehind _ (maxLevels - 1)) _ true [] more =
      .ok (members.foldl (fun written printed => written ++ [(printed.1, printed.2.reread)]) [],
        []) := readMembers_object reads room [] text
  have opens : dropSpace (print (.obj members)).toList = '\x7b' :: more := by
    rw [spelled]
    rfl
  simp only [writtenMembers, opens]
  rw [whole, List.foldl_append_eq_append, List.nil_append, ← List.flatMap_def,
    ← List.map_eq_flatMap]
  rfl

section Items

variable {bound levels turns : Nat} {first : Bool} {items final : List Value}
  {text rest : List Char}

theorem readItems_cases
    (read : readItems .keep (readOneMore bound levels) turns first items text = .ok (final, rest)) :
    (nextItem .keep first text = .ok (.done rest) ∧ final = items) ∨
    ∃ inner value behind fewer, nextItem .keep first text = .ok (.item inner) ∧
      readValue bound levels inner = .ok (value, behind) ∧
      readItems .keep (readOneMore bound levels) fewer false (value :: items) behind =
        .ok (final, rest) := by
  cases turns with
  | zero => cases read
  | succ turns =>
    obtain ⟨next, here, read⟩ := bind_eq_ok.mp read
    cases next with
    | done behind =>
      cases read
      exact Or.inl ⟨here, rfl⟩
    | item inner =>
      obtain ⟨⟨after, behind⟩, one, read⟩ := bind_eq_ok.mp read
      obtain ⟨⟨value, past⟩, valued, one⟩ := bind_eq_ok.mp one
      cases one
      exact Or.inr ⟨inner, value, behind, turns, here, valued, read⟩

theorem exists_items
    (read : readItems .keep (readOneMore bound levels) turns first items text = .ok (final, rest)) :
    ∃ more, final.reverse = items.reverse ++ more := by
  have longer : items <:+ final := by
    refine readItems_keeps (P := (items <:+ ·)) ?_ List.suffix_rfl read
    intro state text after rest kept one
    obtain ⟨⟨value, past⟩, -, done⟩ := bind_eq_ok.mp one
    cases done
    exact kept.trans (List.suffix_cons value state)
  obtain ⟨more, rfl⟩ := longer
  exact ⟨more.reverse, List.reverse_append⟩

end Items

theorem isBlank_digit {c : Char} (digit : isDigit c = true) : Text.isBlank c = false := by
  have low : ∀ code < 58, 48 ≤ code → Text.blankRanges.includes code = false := by decide
  obtain ⟨least, most⟩ := isDigit_iff.mp digit
  exact low c.toNat (by omega) (by omega)

theorem readValue_blank {bound levels : Nat} {blanks rest : List Char} {value : Value}
    (blank : Text.isBlankLine blanks = true) :
    readValue bound levels blanks ≠ .ok (value, rest) := by
  intro read
  have blank : ∀ c ∈ dropSpace blanks, Text.isBlank c = true := fun c member =>
    List.all_eq_true.mp blank c ((List.dropWhile_suffix isSpace).subset member)
  rcases readValue_cases read with ⟨_, _, _, -, opens, -⟩ | ⟨_, _, _, -, opens, -⟩ | scalar
  · exact absurd (blank '[' (by simp [opens])) (by decide)
  · exact absurd (blank '\x7b' (by simp [opens])) (by decide)
  · generalize dropSpace blanks = behind at blank scalar
    cases scalarRead scalar with
    | null letters => exact absurd (blank 'n' List.mem_cons_self) (by decide)
    | yes letters => exact absurd (blank 't' List.mem_cons_self) (by decide)
    | no letters => exact absurd (blank 'f' List.mem_cons_self) (by decide)
    | text inner => exact absurd (blank '"' List.mem_cons_self) (by decide)
    | @number c text rest numeral value first digits valued =>
      have blankFirst := blank c List.mem_cons_self
      rcases first with rfl | digit
      · exact absurd blankFirst (by decide)
      · rw [isBlank_digit digit] at blankFirst
        cases blankFirst

theorem isBlankLine_of_parse {text : String} {value : Value} (parsed : parse text = .ok value) :
    Text.isBlankLine text.toList = false := by
  obtain ⟨rest, read, -⟩ := readAll_eq_ok.mp parsed
  rw [Bool.eq_false_iff]
  exact fun blank => readValue_blank blank read

end ModelRepositories.Json
