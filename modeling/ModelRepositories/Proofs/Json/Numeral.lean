import Mathlib.Algebra.Group.Nat.Defs
import ModelRepositories.Json.Numeral
import ModelRepositories.Proofs.Json.Record

/-!
A numeral that is written is read back as it was written, if what follows cannot be taken for more
of it. Its digits are taken as a number as long as that fits.
-/

namespace ModelRepositories.Json

def IsDigits (digits : List Char) : Prop :=
  ∀ c ∈ digits, isDigit c = true

def Ends (rest : List Char) : Prop :=
  ∀ c ∈ rest.head?, isDigit c = false ∧ c ≠ '.' ∧ c ≠ 'e' ∧ c ≠ 'E'

theorem ends_nil : Ends [] := by
  intro c member
  cases member

namespace Numeral

def fractionText (fraction : List Char) : List Char :=
  if fraction = [] then [] else '.' :: fraction

def exponentText : Option (Bool × List Char) → List Char
  | none => []
  | some (negative, digits) => 'e' :: (if negative then '-' else '+') :: digits

def text (numeral : Numeral) : List Char :=
  (if numeral.negative then ['-'] else []) ++
    (numeral.whole ++ (fractionText numeral.fraction ++ exponentText numeral.exponent))

/-- The digits that a numeral needs, and no zeros in front. -/
structure Proper (numeral : Numeral) : Prop where
  whole : IsDigits numeral.whole
  nonempty : numeral.whole ≠ []
  leading : ∀ rest, numeral.whole = '0' :: rest → rest = []
  fraction : IsDigits numeral.fraction
  exponent : ∀ negative digits, numeral.exponent = some (negative, digits) →
    IsDigits digits ∧ digits ≠ []

end Numeral

theorem isDigit_iff {c : Char} : isDigit c = true ↔ 48 ≤ c.toNat ∧ c.toNat ≤ 57 := by
  unfold isDigit
  rw [Bool.and_eq_true, decide_eq_true_eq, decide_eq_true_eq]
  exact Iff.rfl

theorem isDigits_toDigits (n : Nat) : IsDigits (Nat.toDigits 10 n) := by
  intro c member
  have digit := Nat.isDigit_of_mem_toDigits (by decide) (by decide) member
  rw [Char.isDigit_iff_toNat] at digit
  exact isDigit_iff.mpr digit

theorem ne_of_isDigit {c d : Char} (digit : isDigit c = true) (other : isDigit d = false) :
    c ≠ d := by
  rintro rfl
  rw [digit] at other
  cases other

theorem span_digits {digits rest : List Char} (all : IsDigits digits)
    (stops : ∀ c ∈ rest.head?, isDigit c = false) :
    (digits ++ rest).takeWhile isDigit = digits ∧ (digits ++ rest).dropWhile isDigit = rest := by
  have stopped : rest.takeWhile isDigit = [] ∧ rest.dropWhile isDigit = rest := by
    cases rest with
    | nil => exact ⟨rfl, rfl⟩
    | cons c rest =>
      have other : isDigit c = false := stops c rfl
      simp [other]
  rw [List.takeWhile_append_of_pos all, List.dropWhile_append_of_pos all, stopped.1, stopped.2]
  exact ⟨List.append_nil digits, rfl⟩

theorem readDigits_append (care : Care) {digits rest : List Char} (all : IsDigits digits)
    (nonempty : digits ≠ []) (stops : ∀ c ∈ rest.head?, isDigit c = false) :
    readDigits care (digits ++ rest) = .ok (digits, rest) := by
  cases digits with
  | nil => exact absurd rfl nonempty
  | cons c digits =>
    have first : isDigit c = true := all c List.mem_cons_self
    have others : IsDigits digits := fun d member => all d (List.mem_cons_of_mem c member)
    obtain ⟨taken, left⟩ := span_digits others stops
    rw [List.cons_append, readDigits, if_pos first, taken, left]

theorem readWhole_append (care : Care) {whole rest : List Char} (all : IsDigits whole)
    (nonempty : whole ≠ []) (leading : ∀ more, whole = '0' :: more → more = [])
    (stops : ∀ c ∈ rest.head?, isDigit c = false) :
    readWhole care (whole ++ rest) = .ok (whole, rest) := by
  have digits := readDigits_append care all nonempty stops
  cases whole with
  | nil => exact absurd rfl nonempty
  | cons c more =>
    by_cases zero : c = '0'
    · obtain rfl := zero
      obtain rfl := leading more rfl
      cases rest with
      | nil => rfl
      | cons d rest =>
        have other : isDigit d = false := stops d rfl
        show (if isDigit d = true then _ else _) = _
        rw [other]
        rfl
    · unfold readWhole
      split
      · next same => exact absurd (List.cons.inj same).1 zero
      · exact digits

theorem readFraction_append (care : Care) {fraction rest : List Char} (all : IsDigits fraction)
    (stops : ∀ c ∈ rest.head?, isDigit c = false ∧ c ≠ '.') :
    readFraction care (Numeral.fractionText fraction ++ rest) = .ok (fraction, rest) := by
  unfold Numeral.fractionText
  by_cases empty : fraction = []
  · rw [if_pos empty, empty, List.nil_append]
    unfold readFraction
    split
    · next more => exact absurd rfl (stops '.' rfl).2
    · rfl
  · rw [if_neg empty]
    exact readDigits_append care all empty fun c first => (stops c first).1

theorem readExponent_append (care : Care) {exponent : Option (Bool × List Char)}
    {rest : List Char} (proper : ∀ negative digits, exponent = some (negative, digits) →
      IsDigits digits ∧ digits ≠ []) (ends : Ends rest) :
    readExponent care (Numeral.exponentText exponent ++ rest) = .ok (exponent, rest) := by
  cases exponent with
  | none =>
    cases rest with
    | nil => rfl
    | cons c rest =>
      obtain ⟨-, -, lower, upper⟩ := ends c rfl
      exact if_neg (by simp [lower, upper])
  | some written =>
    obtain ⟨negative, digits⟩ := written
    obtain ⟨all, nonempty⟩ := proper negative digits rfl
    have read := readDigits_append care all nonempty fun c first => (ends c first).1
    cases negative
    · show (readDigits care (digits ++ rest) >>= _) = _
      rw [read]
      rfl
    · show (readDigits care (digits ++ rest) >>= _) = _
      rw [read]
      rfl

theorem exponentText_stops (exponent : Option (Bool × List Char)) {rest : List Char}
    (ends : Ends rest) :
    ∀ c ∈ (Numeral.exponentText exponent ++ rest).head?, isDigit c = false ∧ c ≠ '.' := by
  intro c first
  cases exponent with
  | none => exact ⟨(ends c first).1, (ends c first).2.1⟩
  | some written =>
    cases first
    exact ⟨rfl, by decide⟩

theorem fractionText_stops (fraction : List Char) {rest : List Char}
    (stops : ∀ c ∈ rest.head?, isDigit c = false) :
    ∀ c ∈ (Numeral.fractionText fraction ++ rest).head?, isDigit c = false := by
  intro c first
  unfold Numeral.fractionText at first
  by_cases empty : fraction = []
  · rw [if_pos empty] at first
    exact stops c first
  · rw [if_neg empty] at first
    cases first
    rfl

theorem readNumeral_text (care : Care) {numeral : Numeral} (proper : numeral.Proper)
    {rest : List Char} (ends : Ends rest) :
    readNumeral care (numeral.text ++ rest) = .ok (numeral, rest) := by
  obtain ⟨negative, whole, fraction, exponent⟩ := numeral
  have exponentStops := exponentText_stops exponent ends
  have wholeStops := fractionText_stops fraction fun c first =>
    (exponentStops c first).1
  have first := readWhole_append care proper.whole proper.nonempty proper.leading wholeStops
  have second := readFraction_append care proper.fraction exponentStops
  have third := readExponent_append care proper.exponent ends
  have regroup : Numeral.text ⟨negative, whole, fraction, exponent⟩ ++ rest =
      (if negative then ['-'] else []) ++ (whole ++ (Numeral.fractionText fraction ++
        (Numeral.exponentText exponent ++ rest))) := by
    simp only [Numeral.text, List.append_assoc]
  rw [regroup]
  cases negative with
  | true =>
    show (readWhole care _ >>= _) = _
    exact bind_eq_ok.mpr ⟨_, first, bind_eq_ok.mpr ⟨_, second, bind_eq_ok.mpr ⟨_, third, rfl⟩⟩⟩
  | false =>
    unfold readNumeral
    split
    next signed others sign =>
      split at sign
      · next more minus =>
        exfalso
        obtain ⟨c, others, rfl⟩ := List.exists_cons_of_ne_nil proper.nonempty
        obtain rfl : c = '-' := (List.cons.inj minus).1
        exact absurd (proper.whole '-' List.mem_cons_self) (by decide)
      · cases sign
        exact bind_eq_ok.mpr ⟨_, first, bind_eq_ok.mpr ⟨_, second, bind_eq_ok.mpr ⟨_, third, rfl⟩⟩⟩

theorem le_ofDigitChars (digits : List Char) (n : Nat) : n ≤ Nat.ofDigitChars 10 digits n := by
  rw [Nat.ofDigitChars_eq_ofDigitChars_zero]
  exact Nat.le_trans (Nat.le_mul_of_pos_left n (Nat.pow_pos (by decide))) (Nat.le_add_right _ _)

theorem ofDigitChars_lt {digits : List Char} (all : IsDigits digits) (n : Nat) :
    Nat.ofDigitChars 10 digits n < 10 ^ digits.length * (n + 1) := by
  induction digits generalizing n with
  | nil => rw [Nat.ofDigitChars_nil]; simp
  | cons c digits ih =>
    have digit := (isDigit_iff.mp (all c List.mem_cons_self)).2
    have later := ih (fun d member => all d (List.mem_cons_of_mem c member))
      (10 * n + (c.toNat - '0'.toNat))
    rw [Nat.ofDigitChars_cons, List.length_cons, Nat.pow_succ, Nat.mul_assoc]
    refine Nat.lt_of_lt_of_le later (Nat.mul_le_mul_left _ ?_)
    have : '0'.toNat = 48 := rfl
    omega

theorem appendWithin_eq {limit n : Nat} {digits : List Char}
    (fits : Nat.ofDigitChars 10 digits n ≤ limit) :
    appendWithin limit n digits = (Nat.ofDigitChars 10 digits n, []) := by
  induction digits generalizing n with
  | nil => rw [Nat.ofDigitChars_nil]; rfl
  | cons d digits ih =>
    rw [Nat.ofDigitChars_cons] at fits ⊢
    exact (if_pos (Nat.le_trans (le_ofDigitChars digits _) fits)).trans (ih fits)

theorem length_appendWithin (limit n : Nat) (digits : List Char) :
    (appendWithin limit n digits).2.length ≤ digits.length := by
  induction digits generalizing n with
  | nil => exact Nat.le_refl _
  | cons d digits ih =>
    unfold appendWithin
    split
    · exact Nat.le_succ_of_le (ih _)
    · exact Nat.le_refl _

theorem head_toDigits {n : Nat} (pos : 0 < n) : (Nat.toDigits 10 n).head? ≠ some '0' := by
  induction n using Nat.strongRecOn with
  | ind n ih =>
    by_cases small : n < 10
    · rw [Nat.toDigits_of_lt_base small]
      have : ∀ m < 10, 0 < m → [Nat.digitChar m].head? ≠ some '0' := by decide
      exact this n small pos
    · have first := ih (n / 10) (by omega) (by omega)
      obtain ⟨c, more, digits⟩ := List.exists_cons_of_ne_nil (Nat.toDigits_ne_nil (n := n / 10))
      rw [digits] at first
      rw [Nat.toDigits_of_base_le (by decide) (by omega), digits]
      exact first

theorem leading_toDigits (n : Nat) (rest : List Char) (zero : Nat.toDigits 10 n = '0' :: rest) :
    rest = [] := by
  by_cases pos : 0 < n
  · exact absurd (congrArg List.head? zero) (head_toDigits pos)
  · obtain rfl : n = 0 := by omega
    rw [Nat.toDigits_zero] at zero
    exact (List.cons.inj zero).2.symm

def Exact (n : Int) : Prop :=
  -0x8000000000000000 ≤ n ∧ n ≤ 0xFFFFFFFFFFFFFFFF

def Numeral.ofInt (n : Int) : Numeral :=
  ⟨decide (n < 0), Nat.toDigits 10 n.natAbs, [], none⟩

theorem proper_ofInt (n : Int) : (Numeral.ofInt n).Proper where
  whole := isDigits_toDigits _
  nonempty := Nat.toDigits_ne_nil
  leading := leading_toDigits _
  fraction := nofun
  exponent := nofun

theorem text_ofInt (n : Int) : (Numeral.ofInt n).text = (toString n).toList := by
  rw [Int.toString_eq_repr, Int.repr_eq_if]
  by_cases negative : n < 0
  · have signed : (Numeral.ofInt n).text = '-' :: (Nat.toDigits 10 n.natAbs ++ []) := by
      simp only [Numeral.text, Numeral.ofInt, decide_eq_true negative]
      rfl
    rw [signed, if_neg (by omega), String.toList_append, Nat.toList_repr, List.append_nil,
      show (-n).toNat = n.natAbs by omega]
    rfl
  · have unsigned : (Numeral.ofInt n).text = Nat.toDigits 10 n.natAbs ++ [] := by
      simp only [Numeral.text, Numeral.ofInt, decide_eq_false negative]
      rfl
    rw [unsigned, if_pos (by omega), Nat.toList_repr, List.append_nil,
      show n.toNat = n.natAbs by omega]

theorem value_ofInt {n : Int} (exact : Exact n) (rest : List Char) :
    (Numeral.ofInt n).value rest = .ok (.int n) := by
  obtain ⟨least, greatest⟩ := exact
  have fits : Nat.ofDigitChars 10 (Nat.toDigits 10 n.natAbs) 0 ≤ maxSignificand := by
    rw [Nat.ofDigitChars_ten_toDigits]
    unfold maxSignificand
    omega
  unfold Numeral.value Numeral.ofInt
  rw [appendWithin_eq fits, Nat.ofDigitChars_ten_toDigits]
  show Except.ok (wholeNumber (decide (n < 0)) n.natAbs) = _
  unfold wholeNumber
  by_cases negative : n < 0
  · rw [decide_eq_true negative, if_neg (by decide), if_pos (by omega),
      show -(n.natAbs : Int) = n by omega]
  · rw [decide_eq_false negative, if_pos (by decide), show (n.natAbs : Int) = n by omega]

end ModelRepositories.Json
