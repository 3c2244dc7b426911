import ModelRepositories.Json.Skip
import ModelRepositories.Proofs.Json.RoundTrip

/-!
What can be read can be passed over, and both end at the same place. Passing over takes more steps
where two escapes stand for one character, and is given a level for each character where reading has
a fixed number of them; so it is followed together with how much of the text is left.
-/

namespace ModelRepositories.Json

/-- Of texts up to a length, what is read is passed over. -/
def Skips {α : Type} (limit : Nat) (skip : Reader Unit) (read : Reader α) : Prop :=
  ∀ text a rest, text.length ≤ limit → read text = .ok (a, rest) →
    rest.length ≤ text.length ∧ skip text = .ok ((), rest)

theorem length_dropSpace (text : List Char) : (dropSpace text).length ≤ text.length :=
  (List.dropWhile_suffix isSpace).length_le

section Numbers

variable {text rest : List Char}

theorem skip_digits {digits : List Char} (read : readDigits .keep text = .ok (digits, rest)) :
    rest.length ≤ text.length ∧ readDigits .skip text = .ok (digits, rest) := by
  unfold readDigits at read ⊢
  split at read
  · cases read
  · next c more =>
    split at read
    · next digit =>
      cases read
      have shorter := (List.dropWhile_suffix (l := more) isDigit).length_le
      refine ⟨Nat.le_succ_of_le shorter, ?_⟩
      simp only [if_pos digit]
    · cases read

theorem skip_whole {whole : List Char} (read : readWhole .keep text = .ok (whole, rest)) :
    rest.length ≤ text.length ∧ readWhole .skip text = .ok (whole, rest) := by
  unfold readWhole at read ⊢
  split at read
  · next c more =>
    split at read
    · cases read
    · next other =>
      cases read
      refine ⟨Nat.le_succ _, ?_⟩
      simp only [if_neg other]
  · exact skip_digits read

theorem skip_fraction {fraction : List Char}
    (read : readFraction .keep text = .ok (fraction, rest)) :
    rest.length ≤ text.length ∧ readFraction .skip text = .ok (fraction, rest) := by
  unfold readFraction at read ⊢
  split at read
  · obtain ⟨shorter, skipped⟩ := skip_digits read
    exact ⟨Nat.le_succ_of_le shorter, skipped⟩
  · cases read
    exact ⟨Nat.le_refl _, rfl⟩

theorem skip_exponent {exponent : Option (Bool × List Char)}
    (read : readExponent .keep text = .ok (exponent, rest)) :
    rest.length ≤ text.length ∧ readExponent .skip text = .ok (exponent, rest) := by
  unfold readExponent at read ⊢
  split at read
  · next c more =>
    split at read
    · next marked =>
      simp only [if_pos marked]
      split at read
      next signed negative unsigned sign =>
        obtain ⟨⟨digits, behind⟩, here, read⟩ := bind_eq_ok.mp read
        cases read
        obtain ⟨shorter, skipped⟩ := skip_digits here
        have less : unsigned.length ≤ more.length := by
          split at sign <;> cases sign <;> simp
        refine ⟨?_, ?_⟩
        · rw [List.length_cons]
          omega
        · rw [sign]
          exact bind_eq_ok.mpr ⟨_, skipped, rfl⟩
    · next other =>
      cases read
      exact ⟨Nat.le_refl _, if_neg other⟩
  · cases read
    exact ⟨Nat.le_refl _, rfl⟩

theorem skip_numeral {numeral : Numeral} (read : readNumeral .keep text = .ok (numeral, rest)) :
    rest.length ≤ text.length ∧ readNumeral .skip text = .ok (numeral, rest) := by
  unfold readNumeral at read ⊢
  split at read
  next signed negative unsigned sign =>
    obtain ⟨⟨whole, second⟩, first, read⟩ := bind_eq_ok.mp read
    obtain ⟨⟨fraction, third⟩, fractional, read⟩ := bind_eq_ok.mp read
    obtain ⟨⟨exponent, behind⟩, last, read⟩ := bind_eq_ok.mp read
    cases read
    obtain ⟨shorterWhole, whole⟩ := skip_whole first
    obtain ⟨shorterFraction, fraction⟩ := skip_fraction fractional
    obtain ⟨shorterExponent, exponent⟩ := skip_exponent last
    have less : unsigned.length ≤ text.length := by
      split at sign <;> cases sign <;> simp
    refine ⟨by omega, ?_⟩
    exact bind_eq_ok.mpr ⟨_, whole, bind_eq_ok.mpr ⟨_, fraction,
      bind_eq_ok.mpr ⟨_, exponent, rfl⟩⟩⟩

end Numbers

section Texts

variable {text rest : List Char}

theorem length_readHex {n : Nat} (read : readHex text = .ok (n, rest)) :
    text.length = rest.length + 4 := by
  unfold readHex at read
  split at read
  · split at read
    · cases read
      rfl
    · cases read
  · split at read <;> cases read

theorem skip_escape {c : Char} {bound : Nat} (read : readEscape text = .ok (c, rest))
    (room : text.length < bound) :
    rest.length ≤ text.length ∧ ∃ left, rest.length < left ∧
      (skipEscape text >>= fun behind => skipCharacters bound behind) =
        skipCharacters left rest := by
  unfold readEscape at read
  split at read
  · cases read
  · next hex =>
    obtain ⟨⟨n, behind⟩, digits, read⟩ := bind_eq_ok.mp read
    have longer := length_readHex digits
    have first : skipEscape ('u' :: hex) = .ok behind := bind_eq_ok.mpr ⟨_, digits, rfl⟩
    rw [List.length_cons] at room
    rw [first]
    dsimp only at read
    split at read
    · cases read
    split at read
    -- Passing over takes the second escape of a pair in a turn of its own.
    · unfold readLowSurrogate at read
      split at read
      · next more =>
        obtain ⟨⟨low, after⟩, others, read⟩ := bind_eq_ok.mp read
        dsimp only at read
        have longerStill := length_readHex others
        have second : skipEscape ('u' :: more) = .ok after := bind_eq_ok.mpr ⟨_, others, rfl⟩
        simp only [List.length_cons] at longer
        split at read
        · obtain rfl : after = rest := congrArg Prod.snd (Except.ok.inj read)
          obtain ⟨left, rfl⟩ := Nat.exists_eq_add_one.mpr (Nat.zero_lt_of_lt room)
          refine ⟨by simp only [List.length_cons]; omega, left, by omega, ?_⟩
          show (skipEscape ('u' :: more) >>= fun behind => skipCharacters left behind) = _
          rw [second]
          rfl
        · cases read
      all_goals cases read
    · cases read
      exact ⟨by simp only [List.length_cons]; omega, bound, by omega, rfl⟩
  · next other more notHex =>
    split at read
    · next meant short =>
      cases read
      have passed : skipEscape (other :: rest) = .ok rest := by
        unfold skipEscape
        split
        · next same => cases same
        · next same =>
          cases same
          exact absurd rfl notHex
        · next same =>
          cases same
          rw [short]
          rfl
      rw [List.length_cons] at room
      rw [passed]
      exact ⟨Nat.le_succ _, bound, by omega, rfl⟩
    · cases read

theorem skip_characters {turns bound : Nat} {characters : List Char}
    (read : readCharacters turns text = .ok (characters, rest)) (room : text.length < bound) :
    rest.length ≤ text.length ∧ skipCharacters bound text = .ok rest := by
  induction turns generalizing bound text characters with
  | zero => cases read
  | succ turns ih =>
    obtain ⟨bound, rfl⟩ := Nat.exists_eq_add_one.mpr (Nat.zero_lt_of_lt room)
    cases text with
    | nil => cases read
    | cons c more =>
      unfold readCharacters at read
      unfold skipCharacters
      split at read
      · next quote =>
        cases read
        exact ⟨Nat.le_succ _, by rw [if_pos quote]⟩
      split at read
      · next plain escaping =>
        obtain ⟨⟨meant, behind⟩, escape, read⟩ := bind_eq_ok.mp read
        obtain ⟨⟨others, after⟩, loop, read⟩ := bind_eq_ok.mp read
        cases read
        rw [List.length_cons] at room
        obtain ⟨nearer, left, less, passed⟩ := skip_escape escape (Nat.lt_of_succ_lt_succ room)
        obtain ⟨shorter, skipped⟩ := ih loop less
        refine ⟨Nat.le_succ_of_le (Nat.le_trans shorter nearer), ?_⟩
        rw [if_neg plain, if_pos escaping, passed, skipped]
      split at read
      · cases read
      · next plain direct sign =>
        obtain ⟨⟨others, after⟩, loop, read⟩ := bind_eq_ok.mp read
        cases read
        rw [List.length_cons] at room
        obtain ⟨shorter, skipped⟩ := ih loop (Nat.lt_of_succ_lt_succ room)
        refine ⟨Nat.le_succ_of_le shorter, ?_⟩
        rw [if_neg plain, if_neg direct, if_neg sign, skipped]

end Texts

theorem skips_text {limit bound : Nat} (room : limit < bound) :
    Skips limit (skipText bound) (readText bound) := by
  intro text a rest fits read
  obtain ⟨⟨characters, behind⟩, read, done⟩ := bind_eq_ok.mp read
  cases done
  obtain ⟨shorter, skipped⟩ := skip_characters read (Nat.lt_of_le_of_lt fits room)
  exact ⟨shorter, bind_eq_ok.mpr ⟨_, skipped, rfl⟩⟩

theorem length_readLetters {letters text rest : List Char}
    (read : readLetters letters text = .ok rest) : rest.length ≤ text.length := by
  fun_induction readLetters letters text with
  | case1 text =>
    cases read
    exact Nat.le_refl _
  | case2 => cases read
  | case3 letters letter more ih => exact Nat.le_succ_of_le (ih read)
  | case4 => cases read

theorem skips_scalar {limit bound : Nat} (room : limit < bound) :
    Skips limit (skipScalar bound) (readScalar bound) := by
  intro text value rest fits read
  unfold readScalar at read
  unfold skipScalar
  split at read
  · obtain ⟨behind, letters, read⟩ := bind_eq_ok.mp read
    cases read
    exact ⟨Nat.le_succ_of_le (length_readLetters letters), bind_eq_ok.mpr ⟨_, letters, rfl⟩⟩
  · obtain ⟨behind, letters, read⟩ := bind_eq_ok.mp read
    cases read
    exact ⟨Nat.le_succ_of_le (length_readLetters letters), bind_eq_ok.mpr ⟨_, letters, rfl⟩⟩
  · obtain ⟨behind, letters, read⟩ := bind_eq_ok.mp read
    cases read
    exact ⟨Nat.le_succ_of_le (length_readLetters letters), bind_eq_ok.mpr ⟨_, letters, rfl⟩⟩
  · obtain ⟨⟨characters, behind⟩, inner, read⟩ := bind_eq_ok.mp read
    cases read
    obtain ⟨shorter, skipped⟩ := skips_text room _ _ _ (Nat.le_of_succ_le fits) inner
    exact ⟨Nat.le_succ_of_le shorter, skipped⟩
  · split at read
    · next c more _ _ _ _ number =>
      obtain ⟨⟨numeral, behind⟩, digits, read⟩ := bind_eq_ok.mp read
      obtain ⟨value, -, read⟩ := bind_eq_ok.mp read
      cases read
      obtain ⟨shorter, skipped⟩ := skip_numeral digits
      simp only [if_pos number]
      exact ⟨shorter, bind_eq_ok.mpr ⟨_, skipped, rfl⟩⟩
    · cases read
  · cases read

def Next.rest : Next → List Char
  | .item rest => rest
  | .done rest => rest

theorem skip_nextItem {first : Bool} {text : List Char} {next : Next}
    (read : nextItem .keep first text = .ok next) :
    next.rest.length ≤ text.length ∧ nextItem .skip first text = .ok next := by
  have shorter := length_dropSpace text
  unfold nextItem at read ⊢
  split at read
  · cases read
  · next same =>
    cases read
    rw [same, List.length_cons] at shorter
    exact ⟨Nat.le_of_succ_le shorter, rfl⟩
  · next c more _ same =>
    rw [same] at shorter
    split at read
    · next start =>
      cases read
      exact ⟨shorter, if_pos start⟩
    · next start =>
      split at read
      · next comma =>
        have shorterStill := length_dropSpace more
        simp only [if_neg start, if_pos comma]
        split at read
        · cases read
        · cases read
        · cases read
          rw [List.length_cons] at shorter
          exact ⟨by simp only [Next.rest]; omega, rfl⟩
      · cases read

theorem skip_nextKey {first : Bool} {text : List Char} {next : Next}
    (read : nextKey .keep first text = .ok next) :
    next.rest.length ≤ text.length ∧ nextKey .skip first text = .ok next := by
  have shorter := length_dropSpace text
  unfold nextKey at read ⊢
  split at read
  · cases read
  · next same =>
    cases read
    rw [same, List.length_cons] at shorter
    exact ⟨Nat.le_of_succ_le shorter, rfl⟩
  · next c more _ same =>
    rw [same, List.length_cons] at shorter
    split at read
    · next start =>
      split at read
      · next quote =>
        cases read
        simp only [if_pos start, if_pos quote]
        exact ⟨Nat.le_of_succ_le shorter, trivial⟩
      · cases read
    · next start =>
      split at read
      · next comma =>
        have shorterStill := length_dropSpace more
        simp only [if_neg start, if_pos comma]
        split at read
        · cases read
        · next same =>
          cases read
          rw [same, List.length_cons] at shorterStill
          exact ⟨by simp only [Next.rest]; omega, rfl⟩
        · cases read
        · cases read
      · cases read

theorem length_readColon {text rest : List Char} (read : readColon text = .ok rest) :
    rest.length ≤ text.length := by
  have shorter := length_dropSpace text
  unfold readColon at read
  split at read
  · cases read
  · next same =>
    cases read
    rw [same] at shorter
    exact Nat.le_of_succ_le shorter
  · cases read

section Loops

variable {limit : Nat} {σ α : Type}

theorem skips_items {skip : Reader Unit} {item : σ → Reader σ}
    (skips : ∀ state, Skips limit skip (item state)) (turns : Nat) (first : Bool) (state : σ) :
    Skips limit (readItems .skip (fun _ => skip) turns first ())
      (readItems .keep item turns first state) := by
  induction turns generalizing first state with
  | zero =>
    intro text after rest fits read
    cases read
  | succ turns ih =>
    intro text after rest fits read
    obtain ⟨next, here, read⟩ := bind_eq_ok.mp read
    obtain ⟨shorter, passed⟩ := skip_nextItem here
    cases next with
    | done behind =>
      cases read
      exact ⟨shorter, bind_eq_ok.mpr ⟨_, passed, rfl⟩⟩
    | item inner =>
      obtain ⟨⟨reached, behind⟩, one, read⟩ := bind_eq_ok.mp read
      obtain ⟨less, skipped⟩ := skips state inner reached behind (Nat.le_trans shorter fits) one
      obtain ⟨lesser, others⟩ := ih false reached behind after rest
        (Nat.le_trans less (Nat.le_trans shorter fits)) read
      refine ⟨Nat.le_trans lesser (Nat.le_trans less shorter), ?_⟩
      rw [readItems_step passed skipped, others]

theorem skips_members {passKey skip : Reader Unit} {key : Reader α} {member : σ → α → Reader σ}
    (named : Skips limit passKey key) (skips : ∀ state name, Skips limit skip (member state name))
    (turns : Nat) (first : Bool) (state : σ) :
    Skips limit (readMembers .skip passKey (fun _ _ => skip) turns first ())
      (readMembers .keep key member turns first state) := by
  induction turns generalizing first state with
  | zero =>
    intro text after rest fits read
    cases read
  | succ turns ih =>
    intro text after rest fits read
    obtain ⟨next, here, read⟩ := bind_eq_ok.mp read
    obtain ⟨shorter, passed⟩ := skip_nextKey here
    cases next with
    | done behind =>
      cases read
      exact ⟨shorter, bind_eq_ok.mpr ⟨_, passed, rfl⟩⟩
    | item inner =>
      obtain ⟨⟨name, value⟩, spelled, read⟩ := bind_eq_ok.mp read
      obtain ⟨⟨reached, behind⟩, one, read⟩ := bind_eq_ok.mp read
      obtain ⟨nearer, spelling⟩ := named inner name value (Nat.le_trans shorter fits) spelled
      obtain ⟨less, skipped⟩ := skips state name value reached behind
        (Nat.le_trans nearer (Nat.le_trans shorter fits)) one
      have near := Nat.le_trans less (Nat.le_trans nearer shorter)
      obtain ⟨lesser, others⟩ := ih false reached behind after rest (Nat.le_trans near fits) read
      refine ⟨Nat.le_trans lesser near, ?_⟩
      rw [readMembers_step passed spelling skipped, others]

end Loops

section Nested

variable {bound levels : Nat} {text more : List Char}

theorem skipNested_list (opens : dropSpace text = '[' :: more) :
    skipNested bound (levels + 1) text =
      readItems .skip (fun _ => skipNested bound levels) bound true () more := by
  rw [skipNested.eq_def]
  simp only [opens]

def skipOne (bound levels : Nat) : Reader Unit := fun rest => do
  skipNested bound levels (← readColon rest)

theorem skipNested_object (opens : dropSpace text = '\x7b' :: more) :
    skipNested bound (levels + 1) text =
      readMembers .skip (skipText bound) (fun _ _ => skipOne bound levels) bound true () more := by
  rw [skipNested.eq_def]
  simp only [opens]
  rfl

theorem skipNested_scalar {value : Value} {rest : List Char}
    (read : readScalar bound (dropSpace text) = .ok (value, rest)) :
    skipNested bound levels text = skipScalar bound (dropSpace text) := by
  rw [skipNested.eq_def]
  dsimp only
  split
  · next same =>
    rw [same] at read
    cases read
  · next same =>
    rw [same] at read
    cases read
  · rfl

section One

variable {limit room : Nat} (deeper : Skips limit (skipNested bound room) (readValue bound levels))
include deeper

theorem skips_readOneMore (items : List Value) :
    Skips limit (skipNested bound room) (readOneMore bound levels items) := by
  intro text after rest fits read
  obtain ⟨⟨value, behind⟩, read, done⟩ := bind_eq_ok.mp read
  cases done
  exact deeper text value rest fits read

theorem skips_readOnePut (members : Members) (name : String) :
    Skips limit (skipOne bound room) (readOnePut bound levels members name) := by
  intro text after rest fits read
  obtain ⟨behind, colon, read⟩ := bind_eq_ok.mp read
  obtain ⟨⟨value, past⟩, read, done⟩ := bind_eq_ok.mp read
  cases done
  have nearer := length_readColon colon
  obtain ⟨less, skipped⟩ := deeper behind value rest (Nat.le_trans nearer fits) read
  exact ⟨Nat.le_trans less nearer, bind_eq_ok.mpr ⟨_, colon, skipped⟩⟩

end One

end Nested

/-- A value is passed over if there is a step and a level for each of its characters. -/
theorem skips_value {limit bound room : Nat} (levels : Nat) (steps : limit < bound)
    (deep : limit ≤ room) : Skips limit (skipNested bound room) (readValue bound levels) := by
  induction levels using Nat.strongRecOn generalizing limit room with
  | ind levels ih =>
    intro text value rest fits read
    have shorter := length_dropSpace text
    rcases readValue_cases read with ⟨fewer, more, items, rfl, opens, loop, rfl⟩ |
      ⟨fewer, more, members, rfl, opens, loop, rfl⟩ | scalar
    · rw [opens, List.length_cons] at shorter
      obtain ⟨room, rfl⟩ : ∃ less, room = less + 1 := ⟨room - 1, by omega⟩
      have deeper : Skips more.length (skipNested bound room) (readValue bound fewer) :=
        ih fewer (Nat.lt_succ_self fewer) (by omega) (by omega)
      obtain ⟨less, skipped⟩ := skips_items (skips_readOneMore deeper) bound true [] _ _ _
        (Nat.le_refl _) loop
      exact ⟨by omega, (skipNested_list opens).trans skipped⟩
    · rw [opens, List.length_cons] at shorter
      obtain ⟨room, rfl⟩ : ∃ less, room = less + 1 := ⟨room - 1, by omega⟩
      have deeper : Skips more.length (skipNested bound room) (readValue bound fewer) :=
        ih fewer (Nat.lt_succ_self fewer) (by omega) (by omega)
      have named : Skips more.length (skipText bound) (readText bound) := skips_text (by omega)
      obtain ⟨less, skipped⟩ := skips_members named (skips_readOnePut deeper) bound true [] _ _ _
        (Nat.le_refl _) loop
      exact ⟨by omega, (skipNested_object opens).trans skipped⟩
    · obtain ⟨less, skipped⟩ := skips_scalar steps _ _ _ (Nat.le_trans shorter fits) scalar
      exact ⟨Nat.le_trans less shorter, (skipNested_scalar scalar).trans skipped⟩

end ModelRepositories.Json
