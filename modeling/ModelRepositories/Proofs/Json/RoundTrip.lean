import ModelRepositories.Proofs.Json.Float
import ModelRepositories.Proofs.Json.Quoting

/-!
A value is read back from its text, if the reader can go that deep and no whole number is out of its
range. Nothing but doubles and the order of members is changed by that. What is read for a list or
an object is what is read for its parts, one after another, so the proof goes over the levels.
-/

namespace ModelRepositories.Json

/-- What a double is after it has been written and read: a double again, or null if not finite. -/
def rereadFloat (x : Float) : Value :=
  match readScalar 0 (printFloat x) with
  | .ok (value, _) => value
  | .error _ => .null

mutual

def Value.reread : Value → Value
  | .float x => rereadFloat x
  | .arr items => .arr (rereadItems items)
  | .obj members => .obj (rereadMembers [] members)
  | value => value

def rereadItems : List Value → List Value
  | [] => []
  | item :: items => item.reread :: rereadItems items

def rereadMembers (present : Members) : List (String × Value) → Members
  | [] => present
  | (key, value) :: members => rereadMembers (present.put key value.reread) members

end

/-- Values whose text can be read: no numbers out of range, and no deeper than the reader goes. -/
inductive Fits : (levels : Nat) → Value → Prop
  | null {levels : Nat} : Fits levels .null
  | bool {levels : Nat} (b : Bool) : Fits levels (.bool b)
  | int {levels : Nat} {n : Int} (exact : Exact n) : Fits levels (.int n)
  | float {levels : Nat} (x : Float) : Fits levels (.float x)
  | str {levels : Nat} (text : String) : Fits levels (.str text)
  | arr {levels : Nat} {items : List Value} (fits : ∀ item ∈ items, Fits levels item) :
    Fits (levels + 1) (.arr items)
  | obj {levels : Nat} {members : List (String × Value)}
    (fits : ∀ member ∈ members, Fits levels member.2) : Fits (levels + 1) (.obj members)

theorem text_cons {numeral : Numeral} (proper : numeral.Proper) :
    ∃ c more, numeral.text = c :: more ∧ (c = '-' ∨ isDigit c = true) := by
  obtain ⟨c, more, whole⟩ := List.exists_cons_of_ne_nil proper.nonempty
  have digit : isDigit c = true := proper.whole c (whole ▸ List.mem_cons_self)
  unfold Numeral.text
  rw [whole]
  split
  · exact ⟨'-', _, rfl, Or.inl rfl⟩
  · exact ⟨c, _, rfl, Or.inr digit⟩

theorem readScalar_number (bound : Nat) {c : Char} (first : c = '-' ∨ isDigit c = true)
    (more : List Char) :
    readScalar bound (c :: more) = (do
      let (numeral, rest) ← readNumeral .keep (c :: more)
      return (← numeral.value rest, rest)) := by
  unfold readScalar
  split
  · next same => exact absurd first (by rw [(List.cons.inj same).1]; decide)
  · next same => exact absurd first (by rw [(List.cons.inj same).1]; decide)
  · next same => exact absurd first (by rw [(List.cons.inj same).1]; decide)
  · next same => exact absurd first (by rw [(List.cons.inj same).1]; decide)
  · next same =>
    cases same
    exact if_pos first
  · next same => cases same

theorem readScalar_numeral (bound : Nat) {numeral : Numeral} (proper : numeral.Proper)
    {rest : List Char} (ends : Ends rest) :
    readScalar bound (numeral.text ++ rest) = (do return (← numeral.value rest, rest)) := by
  have read := readNumeral_text .keep proper ends
  obtain ⟨c, more, text, first⟩ := text_cons proper
  rw [text, List.cons_append] at read ⊢
  rw [readScalar_number bound first, read]
  rfl

theorem readScalar_printFloat (bound : Nat) (x : Float) {rest : List Char} (ends : Ends rest) :
    readScalar bound (printFloat x ++ rest) = .ok (rereadFloat x, rest) := by
  cases finite : x.isFinite with
  | true =>
    obtain ⟨numeral, proper, ⟨y, valued⟩, text⟩ := printFloat_numeral finite
    have read (bound : Nat) {rest : List Char} (ends : Ends rest) :
        readScalar bound (printFloat x ++ rest) = .ok (.float y, rest) := by
      rw [← text, readScalar_numeral bound proper ends, valued rest]
      rfl
    have alone := read 0 ends_nil
    rw [List.append_nil] at alone
    rw [read bound ends, rereadFloat, alone]
  | false =>
    have word : printFloat x = ['n', 'u', 'l', 'l'] := if_neg (by rw [finite]; decide)
    rw [rereadFloat, word]
    rfl

theorem readScalar_printInt (bound : Nat) {n : Int} (exact : Exact n) {rest : List Char}
    (ends : Ends rest) : readScalar bound ((toString n).toList ++ rest) = .ok (.int n, rest) := by
  rw [← text_ofInt, readScalar_numeral bound (proper_ofInt n) ends, value_ofInt exact]
  rfl

def StartsScalar (text : List Char) : Prop :=
  ∃ c more, text = c :: more ∧ isSpace c = false ∧ c ≠ ']' ∧ c ≠ '[' ∧ c ≠ '\x7b'

theorem startsScalar_text {numeral : Numeral} (proper : numeral.Proper) :
    StartsScalar numeral.text := by
  obtain ⟨c, more, text, rfl | digit⟩ := text_cons proper
  · exact ⟨'-', more, text, by decide, by decide, by decide, by decide⟩
  · have other {d : Char} : isDigit d = false → c ≠ d := ne_of_isDigit digit
    have space : isSpace c = false := by
      simp [isSpace, other (d := ' ') rfl, other (d := '\t') rfl, other (d := '\n') rfl,
        other (d := '\r') rfl]
    exact ⟨c, more, text, space, other rfl, other rfl, other rfl⟩

theorem startsScalar_printFloat (x : Float) : StartsScalar (printFloat x) := by
  cases finite : x.isFinite with
  | true =>
    obtain ⟨numeral, proper, -, text⟩ := printFloat_numeral finite
    exact text ▸ startsScalar_text proper
  | false =>
    have word : printFloat x = ['n', 'u', 'l', 'l'] := if_neg (by rw [finite]; decide)
    exact ⟨'n', _, word, by decide, by decide, by decide, by decide⟩

theorem dropSpace_cons {c : Char} (solid : isSpace c = false) (rest : List Char) :
    dropSpace (c :: rest) = c :: rest := by
  simp [dropSpace, solid]

theorem readValue_scalar (bound levels : Nat) {text : List Char} (starts : StartsScalar text)
    (rest : List Char) :
    readValue bound levels (text ++ rest) = readScalar bound (text ++ rest) := by
  obtain ⟨c, more, rfl, space, -, bracket, brace⟩ := starts
  rw [List.cons_append]
  unfold readValue
  rw [dropSpace_cons space]
  split
  · next same => exact absurd (List.cons.inj same).1 bracket
  · next same => exact absurd (List.cons.inj same).1 brace
  · next same => exact absurd (List.cons.inj same).1 bracket
  · next same => exact absurd (List.cons.inj same).1 brace
  · rfl

theorem readItems_step {σ : Type} {care : Care} {item : σ → Reader σ} {first : Bool}
    {state after : σ} {text rest behind : List Char}
    (here : nextItem care first text = .ok (.item rest))
    (read : item state rest = .ok (after, behind)) (turns : Nat) :
    readItems care item (turns + 1) first state text =
      readItems care item turns false after behind := by
  show (nextItem care first text >>= _) = _
  rw [here]
  show (item state rest >>= _) = _
  rw [read]
  rfl

theorem readMembers_step {σ κ : Type} {care : Care} {key : Reader κ} {member : σ → κ → Reader σ}
    {first : Bool} {state after : σ} {name : κ} {text rest value behind : List Char}
    (here : nextKey care first text = .ok (.item rest)) (named : key rest = .ok (name, value))
    (read : member state name value = .ok (after, behind)) (turns : Nat) :
    readMembers care key member (turns + 1) first state text =
      readMembers care key member turns false after behind := by
  show (nextKey care first text >>= _) = _
  rw [here]
  show (key rest >>= _) = _
  rw [named]
  show (member state name value >>= _) = _
  rw [read]
  rfl

def StartsItem (text : List Char) : Prop :=
  ∃ c more, text = c :: more ∧ isSpace c = false ∧ c ≠ ']'

theorem startsItem_of_scalar {text : List Char} (starts : StartsScalar text) : StartsItem text := by
  obtain ⟨c, more, same, space, bracket, -⟩ := starts
  exact ⟨c, more, same, space, bracket⟩

theorem startsScalar_word {c : Char} {more : List Char} (letter : c ∈ ['n', 't', 'f', '"']) :
    StartsScalar (c :: more) := by
  simp only [List.mem_cons, List.not_mem_nil, or_false] at letter
  rcases letter with rfl | rfl | rfl | rfl <;>
    exact ⟨_, more, rfl, by decide, by decide, by decide, by decide⟩

theorem startsItem_printValue (value : Value) : StartsItem (printValue value) := by
  cases value with
  | null => exact startsItem_of_scalar (startsScalar_word (by decide))
  | bool b => cases b <;> exact startsItem_of_scalar (startsScalar_word (by decide))
  | int n =>
    show StartsItem (toString n).toList
    rw [← text_ofInt]
    exact startsItem_of_scalar (startsScalar_text (proper_ofInt n))
  | float x => exact startsItem_of_scalar (startsScalar_printFloat x)
  | str text => exact startsItem_of_scalar (startsScalar_word (by decide))
  | arr items => cases items <;> exact ⟨'[', _, rfl, by decide, by decide⟩
  | obj members => cases members <;> exact ⟨'\x7b', _, rfl, by decide, by decide⟩

theorem nextItem_first {text : List Char} (starts : StartsItem text) (rest : List Char) :
    nextItem .keep true (text ++ rest) = .ok (.item (text ++ rest)) := by
  obtain ⟨c, more, rfl, space, bracket⟩ := starts
  rw [List.cons_append]
  unfold nextItem
  rw [dropSpace_cons space]
  split
  · next same => cases same
  · next same => exact absurd (List.cons.inj same).1 bracket
  · next same =>
    cases same
    rfl

theorem nextItem_comma {text : List Char} (starts : StartsItem text) (rest : List Char) :
    nextItem .keep false (',' :: (text ++ rest)) = .ok (.item (text ++ rest)) := by
  obtain ⟨c, more, rfl, space, bracket⟩ := starts
  rw [List.cons_append]
  unfold nextItem
  rw [dropSpace_cons (c := ',') (by decide)]
  split
  · next same => cases same
  · next same => cases same
  · next same =>
    cases same
    rw [if_neg Bool.false_ne_true, if_pos rfl, dropSpace_cons space]
    split
    · next same => cases same
    · next same => exact absurd (List.cons.inj same).1 bracket
    · rfl

theorem ends_of_cons {c : Char} (other : isDigit c = false ∧ c ≠ '.' ∧ c ≠ 'e' ∧ c ≠ 'E')
    (rest : List Char) : Ends (c :: rest) := by
  intro d first
  cases first
  exact other

theorem ends_printItems (items : List Value) (rest : List Char) :
    Ends (printItems items ++ rest) := by
  cases items <;> exact ends_of_cons (by decide) _

/-- A value that is read as `reread` says, whatever stands behind it. -/
def ReadsBack (bound levels : Nat) (value : Value) : Prop :=
  ∀ rest, Ends rest →
    readValue bound levels (printValue value ++ rest) = .ok (value.reread, rest)

def readOneMore (bound levels : Nat) (items : List Value) : Reader (List Value) := fun rest => do
  let (value, rest) ← readValue bound levels rest
  return (value :: items, rest)

theorem readValue_list (bound levels : Nat) (text : List Char) :
    readValue bound (levels + 1) ('[' :: text) = (do
      let (items, rest) ← readItems .keep (readOneMore bound levels) bound true [] text
      return (.arr items.reverse, rest)) := by
  rw [readValue.eq_def bound (levels + 1)]
  rfl

theorem readOneMore_print {bound levels : Nat} {item : Value}
    (reads : ReadsBack bound levels item) (done : List Value) {rest : List Char}
    (ends : Ends rest) :
    readOneMore bound levels done (printValue item ++ rest) = .ok (item.reread :: done, rest) := by
  unfold readOneMore
  rw [reads rest ends]
  rfl

theorem readItems_printItems {bound levels : Nat} {items : List Value}
    (readsBack : ∀ item ∈ items, ReadsBack bound levels item) {turns : Nat}
    (room : items.length < turns) (done : List Value) (rest : List Char) :
    readItems .keep (readOneMore bound levels) turns false done (printItems items ++ rest) =
      .ok ((rereadItems items).reverse ++ done, rest) := by
  induction items generalizing turns done with
  | nil =>
    obtain ⟨turns, rfl⟩ := Nat.exists_eq_add_one.mpr (Nat.zero_lt_of_lt room)
    rfl
  | cons item items ih =>
    obtain ⟨turns, rfl⟩ := Nat.exists_eq_add_one.mpr (Nat.zero_lt_of_lt room)
    have text : printItems (item :: items) ++ rest =
        ',' :: (printValue item ++ (printItems items ++ rest)) := by
      simp only [printItems, List.cons_append, List.append_assoc]
    rw [text, readItems_step (nextItem_comma (startsItem_printValue item) _)
        (readOneMore_print (readsBack item List.mem_cons_self) done (ends_printItems items rest)),
      ih (fun other member => readsBack other (List.mem_cons_of_mem item member))
        (Nat.lt_of_succ_lt_succ room) (item.reread :: done)]
    rw [rereadItems, List.reverse_cons, List.append_assoc]
    rfl

theorem length_printItems (items : List Value) :
    items.length < (printItems items).length ∧
      ∀ item ∈ items, (printValue item).length < (printItems items).length := by
  induction items with
  | nil => exact ⟨Nat.zero_lt_one, nofun⟩
  | cons item items ih =>
    have whole : (printItems (item :: items)).length =
        (printValue item).length + (printItems items).length + 1 := by
      simp only [printItems, List.cons_append, List.length_cons, List.length_append]
    refine ⟨?_, fun other member => ?_⟩
    · have := ih.1
      rw [List.length_cons]
      omega
    · rcases List.mem_cons.mp member with rfl | member
      · omega
      · have := ih.2 other member
        omega

theorem length_arr (item : Value) (items : List Value) :
    (printValue (.arr (item :: items))).length = (printItems (item :: items)).length := by
  simp only [printValue, printItems, List.cons_append, List.length_cons]

theorem length_item {items : List Value} {item : Value} (member : item ∈ items) :
    (printValue item).length < (printValue (.arr items)).length := by
  cases items with
  | nil => cases member
  | cons first items => exact length_arr first items ▸ (length_printItems _).2 item member

theorem readsBack_arr {bound levels : Nat} {items : List Value}
    (readsBack : ∀ item ∈ items, ReadsBack bound levels item)
    (room : (printValue (.arr items)).length < bound) :
    ReadsBack bound (levels + 1) (.arr items) := by
  intro rest ends
  obtain ⟨bound, rfl⟩ := Nat.exists_eq_add_one.mpr (Nat.zero_lt_of_lt room)
  cases items with
  | nil => exact readValue_list _ _ _
  | cons item items =>
    have text : printValue (.arr (item :: items)) ++ rest =
        '[' :: (printValue item ++ (printItems items ++ rest)) := by
      simp only [printValue, List.cons_append, List.append_assoc]
    have turns : items.length < bound := by
      have count := (length_printItems (item :: items)).1
      rw [← length_arr, List.length_cons] at count
      omega
    rw [text, readValue_list,
      readItems_step (nextItem_first (startsItem_printValue item) _)
        (readOneMore_print (readsBack item List.mem_cons_self) [] (ends_printItems items rest)),
      readItems_printItems
        (fun other member => readsBack other (List.mem_cons_of_mem item member)) turns]
    show Except.ok (Value.arr ((rereadItems items).reverse ++ [item.reread]).reverse, rest) = _
    rw [List.reverse_append, List.reverse_reverse]
    rfl

def readOnePut (bound levels : Nat) (members : Members) (key : String) : Reader Members :=
  fun rest => do
    let (value, rest) ← readValue bound levels (← readColon rest)
    return (Members.put key value members, rest)

theorem readValue_object (bound levels : Nat) (text : List Char) :
    readValue bound (levels + 1) ('\x7b' :: text) = (do
      let (members, rest) ←
        readMembers .keep (readText bound) (readOnePut bound levels) bound true [] text
      return (.obj members, rest)) := by
  rw [readValue.eq_def bound (levels + 1)]
  rfl

theorem readOnePut_print {bound levels : Nat} {key : String} {value : Value}
    (reads : ReadsBack bound levels value) (present : Members) {rest : List Char}
    (ends : Ends rest) :
    readOnePut bound levels present key (':' :: (printValue value ++ rest)) =
      .ok (present.put key value.reread, rest) := by
  show (readValue bound levels (printValue value ++ rest) >>= _) = _
  rw [reads rest ends]
  rfl

theorem nextKey_first (rest : List Char) : nextKey .keep true ('"' :: rest) = .ok (.item rest) :=
  rfl

theorem nextKey_comma (rest : List Char) :
    nextKey .keep false (',' :: '"' :: rest) = .ok (.item rest) :=
  rfl

theorem ends_printMembers (members : List (String × Value)) (rest : List Char) :
    Ends (printMembers members ++ rest) := by
  cases members <;> exact ends_of_cons (by decide) _

theorem rereadMembers_eq_foldl (present : Members) (members : List (String × Value)) :
    rereadMembers present members =
      members.foldl (fun present member => present.put member.1 member.2.reread) present := by
  induction members generalizing present with
  | nil => rfl
  | cons member members ih => exact ih _

section Printed

variable {σ : Type} {bound : Nat} {member : σ → String → Reader σ} {step : σ → String × Value → σ}
  {members : List (String × Value)}
  (reads : ∀ printed ∈ members, ∀ state rest, Ends rest →
    member state printed.1 (':' :: (printValue printed.2 ++ rest)) = .ok (step state printed, rest))
include reads

theorem readMembers_printMembers (keys : ∀ member ∈ members, member.1.toList.length < bound)
    {turns : Nat} (room : members.length < turns) (state : σ) (rest : List Char) :
    readMembers .keep (readText bound) member turns false state (printMembers members ++ rest) =
      .ok (members.foldl step state, rest) := by
  induction members generalizing turns state with
  | nil =>
    obtain ⟨turns, rfl⟩ := Nat.exists_eq_add_one.mpr (Nat.zero_lt_of_lt room)
    rfl
  | cons printed members ih =>
    obtain ⟨turns, rfl⟩ := Nat.exists_eq_add_one.mpr (Nat.zero_lt_of_lt room)
    obtain ⟨key, value⟩ := printed
    have text : printMembers ((key, value) :: members) ++ rest =
        ',' :: '"' :: (key.toList.flatMap escapeChar ++ '"' :: ':' ::
          (printValue value ++ (printMembers members ++ rest))) := by
      simp [printMembers, printText]
    rw [text, readMembers_step (nextKey_comma _)
        (readText_escaped (keys (key, value) List.mem_cons_self) _)
        (reads (key, value) List.mem_cons_self state _ (ends_printMembers members rest)),
      ih (fun other present => reads other (List.mem_cons_of_mem _ present))
        (fun other present => keys other (List.mem_cons_of_mem _ present))
        (Nat.lt_of_succ_lt_succ room)]
    rfl

end Printed

theorem length_printMembers (members : List (String × Value)) :
    members.length < (printMembers members).length ∧
      ∀ member ∈ members, member.1.toList.length < (printMembers members).length ∧
        (printValue member.2).length < (printMembers members).length := by
  induction members with
  | nil => exact ⟨Nat.zero_lt_one, nofun⟩
  | cons member members ih =>
    obtain ⟨key, value⟩ := member
    have escaped := length_le_flatMap key.toList
    have whole : (printMembers ((key, value) :: members)).length =
        (key.toList.flatMap escapeChar).length + (printValue value).length +
          (printMembers members).length + 4 := by
      simp [printMembers, printText]
      omega
    refine ⟨?_, fun other member => ?_⟩
    · have := ih.1
      rw [List.length_cons]
      omega
    · rcases List.mem_cons.mp member with rfl | member
      · exact ⟨by dsimp only; omega, by dsimp only; omega⟩
      · have := ih.2 other member
        omega

theorem length_obj (member : String × Value) (members : List (String × Value)) :
    (printValue (.obj (member :: members))).length = (printMembers (member :: members)).length := by
  simp only [printValue, printMembers, List.cons_append, List.length_cons]

theorem length_member {members : List (String × Value)} {member : String × Value}
    (present : member ∈ members) : member.1.toList.length < (printValue (.obj members)).length ∧
      (printValue member.2).length < (printValue (.obj members)).length := by
  cases members with
  | nil => cases present
  | cons first members => exact length_obj first members ▸ (length_printMembers _).2 member present

theorem readMembers_object {σ : Type} {bound : Nat} {member : σ → String → Reader σ}
    {step : σ → String × Value → σ} {members : List (String × Value)}
    (reads : ∀ printed ∈ members, ∀ state rest, Ends rest →
      member state printed.1 (':' :: (printValue printed.2 ++ rest)) =
        .ok (step state printed, rest))
    (room : (printValue (.obj members)).length < bound) (state : σ) {rest more : List Char}
    (text : printValue (.obj members) ++ rest = '\x7b' :: more) :
    readMembers .keep (readText bound) member bound true state more =
      .ok (members.foldl step state, rest) := by
  obtain ⟨bound, rfl⟩ := Nat.exists_eq_add_one.mpr (Nat.zero_lt_of_lt room)
  cases members with
  | nil =>
    cases text
    rfl
  | cons printed members =>
    obtain ⟨key, value⟩ := printed
    have whole : printValue (.obj ((key, value) :: members)) ++ rest =
        '\x7b' :: '"' :: (key.toList.flatMap escapeChar ++ '"' :: ':' ::
          (printValue value ++ (printMembers members ++ rest))) := by
      simp [printValue, printText]
    obtain rfl := (List.cons.inj (whole.symm.trans text)).2
    have turns : members.length < bound := by
      have count := (length_printMembers ((key, value) :: members)).1
      rw [← length_obj, List.length_cons] at count
      omega
    have keys : ∀ member ∈ (key, value) :: members, member.1.toList.length < bound + 1 :=
      fun other present => Nat.lt_trans (length_member present).1 room
    rw [readMembers_step (nextKey_first _) (readText_escaped (keys _ List.mem_cons_self) _)
        (reads (key, value) List.mem_cons_self state _ (ends_printMembers members rest)),
      readMembers_printMembers (fun other present => reads other (List.mem_cons_of_mem _ present))
        (fun other present => keys other (List.mem_cons_of_mem _ present)) turns]
    rfl

theorem exists_printed_object (members : List (String × Value)) (rest : List Char) :
    ∃ more, printValue (.obj members) ++ rest = '\x7b' :: more := by
  cases members <;> exact ⟨_, rfl⟩

theorem readsBack_obj {bound levels : Nat} {members : List (String × Value)}
    (readsBack : ∀ member ∈ members, ReadsBack bound levels member.2)
    (room : (printValue (.obj members)).length < bound) :
    ReadsBack bound (levels + 1) (.obj members) := by
  intro rest ends
  obtain ⟨more, text⟩ := exists_printed_object members rest
  rw [text, readValue_object, readMembers_object
    (fun member present state _ ends => readOnePut_print (readsBack member present) state ends)
    room [] text]
  show Except.ok (Value.obj _, rest) = _
  rw [← rereadMembers_eq_foldl]
  rfl

/-- A value that is neither list nor object, by the text that it is read from. -/
inductive ScalarRead (bound : Nat) : List Char → Value → List Char → Prop
  | null {text rest : List Char} (letters : readLetters ['u', 'l', 'l'] text = .ok rest) :
    ScalarRead bound ('n' :: text) .null rest
  | yes {text rest : List Char} (letters : readLetters ['r', 'u', 'e'] text = .ok rest) :
    ScalarRead bound ('t' :: text) (.bool true) rest
  | no {text rest : List Char} (letters : readLetters ['a', 'l', 's', 'e'] text = .ok rest) :
    ScalarRead bound ('f' :: text) (.bool false) rest
  | text {text rest : List Char} {quoted : String}
    (inner : readText bound text = .ok (quoted, rest)) :
    ScalarRead bound ('"' :: text) (.str quoted) rest
  | number {c : Char} {text rest : List Char} {numeral : Numeral} {value : Value}
    (first : c = '-' ∨ isDigit c = true)
    (digits : readNumeral .keep (c :: text) = .ok (numeral, rest))
    (valued : numeral.value rest = .ok value) : ScalarRead bound (c :: text) value rest

theorem scalarRead {bound : Nat} {text rest : List Char} {value : Value}
    (read : readScalar bound text = .ok (value, rest)) : ScalarRead bound text value rest := by
  unfold readScalar at read
  split at read
  · obtain ⟨behind, letters, read⟩ := bind_eq_ok.mp read
    cases read
    exact .null letters
  · obtain ⟨behind, letters, read⟩ := bind_eq_ok.mp read
    cases read
    exact .yes letters
  · obtain ⟨behind, letters, read⟩ := bind_eq_ok.mp read
    cases read
    exact .no letters
  · obtain ⟨⟨quoted, behind⟩, inner, read⟩ := bind_eq_ok.mp read
    cases read
    exact .text inner
  · split at read
    · next first =>
      obtain ⟨⟨numeral, behind⟩, digits, read⟩ := bind_eq_ok.mp read
      obtain ⟨number, valued, read⟩ := bind_eq_ok.mp read
      cases read
      exact .number first digits valued
    · cases read
  · cases read

theorem readValue_cases {bound levels : Nat} {text rest : List Char} {value : Value}
    (read : readValue bound levels text = .ok (value, rest)) :
    (∃ fewer more items, levels = fewer + 1 ∧ dropSpace text = '[' :: more ∧
      readItems .keep (readOneMore bound fewer) bound true [] more = .ok (items, rest) ∧
      value = .arr items.reverse) ∨
    (∃ fewer more members, levels = fewer + 1 ∧ dropSpace text = '\x7b' :: more ∧
      readMembers .keep (readText bound) (readOnePut bound fewer) bound true [] more =
        .ok (members, rest) ∧ value = .obj members) ∨
    readScalar bound (dropSpace text) = .ok (value, rest) := by
  rw [readValue.eq_def] at read
  dsimp only at read
  split at read
  · next more fewer opens =>
    obtain ⟨⟨items, behind⟩, loop, done⟩ := bind_eq_ok.mp read
    cases done
    exact Or.inl ⟨fewer, more, items, rfl, opens, loop, rfl⟩
  · next more fewer opens =>
    obtain ⟨⟨members, behind⟩, loop, done⟩ := bind_eq_ok.mp read
    cases done
    exact Or.inr (Or.inl ⟨fewer, more, members, rfl, opens, loop, rfl⟩)
  · cases read
  · cases read
  · exact Or.inr (Or.inr read)

theorem readsBack_scalar {bound levels : Nat} {value : Value}
    (starts : StartsScalar (printValue value))
    (read : ∀ rest, Ends rest →
      readScalar bound (printValue value ++ rest) = .ok (value.reread, rest)) :
    ReadsBack bound levels value := by
  intro rest ends
  rw [readValue_scalar bound levels starts, read rest ends]

theorem readsBack_str {bound levels : Nat} {text : String}
    (room : (printValue (.str text)).length < bound) : ReadsBack bound levels (.str text) := by
  refine readsBack_scalar (startsScalar_word (by decide)) fun rest ends => ?_
  have escaped := length_le_flatMap text.toList
  have few : text.toList.length < bound := by
    simp only [printValue, printText, List.cons_append, List.length_cons,
      List.length_append] at room
    omega
  have same : printValue (.str text) ++ rest =
      '"' :: (text.toList.flatMap escapeChar ++ '"' :: rest) := by
    simp [printValue, printText]
  rw [same]
  show (readText bound _ >>= _) = _
  rw [readText_escaped few]
  rfl

theorem readsBack {levels : Nat} {value : Value} (fits : Fits levels value) {bound : Nat}
    (room : (printValue value).length < bound) : ReadsBack bound levels value := by
  induction fits with
  | null => exact readsBack_scalar (startsScalar_word (by decide)) fun rest ends => rfl
  | bool b =>
    cases b <;> exact readsBack_scalar (startsScalar_word (by decide)) fun rest ends => rfl
  | int exact =>
    refine readsBack_scalar ?_ fun rest ends => readScalar_printInt bound exact ends
    show StartsScalar (toString _).toList
    rw [← text_ofInt]
    exact startsScalar_text (proper_ofInt _)
  | float x =>
    exact readsBack_scalar (startsScalar_printFloat x) fun rest ends =>
      readScalar_printFloat bound x ends
  | str text => exact readsBack_str room
  | arr fits ih =>
    exact readsBack_arr
      (fun item member => ih item member (Nat.lt_trans (length_item member) room)) room
  | obj fits ih =>
    exact readsBack_obj
      (fun other member => ih other member (Nat.lt_trans (length_member member).2 room)) room

theorem parse_print {value : Value} (fits : Fits maxLevels value) :
    parse (print value) = .ok value.reread := by
  unfold parse readAll print
  rw [String.toList_ofList]
  have read := readsBack fits (Nat.lt_succ_self _) [] ends_nil
  rw [List.append_nil] at read
  dsimp only
  rw [read]
  rfl

end ModelRepositories.Json
