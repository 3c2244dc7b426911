import ModelRepositories.Json.Printer
import ModelRepositories.Proofs.Decimal.Layout
import ModelRepositories.Proofs.Json.Numeral
import ModelRepositories.Proofs.Json.Scale

/-!
The text of a double is a numeral, and it is read as a double again. It need not be the same double,
but it is never refused: the text is the shortest one, so its digits and its exponent stay within
what the reader can put together.
-/

namespace ModelRepositories.Json

open Double

theorem scalable_of_ofDouble {d : Decimal} (ofDouble : d.OfDouble) {significand zeros : Nat}
    (pos : 0 < significand) (digits : d.digits = 10 ^ zeros * significand)
    (whole : 0 ≤ d.exponent + zeros) : Scalable significand (d.exponent + zeros).toNat := by
  have exponents : zeros + d.exponent.toNat =
      (d.exponent + zeros).toNat + (-d.exponent).toNat := by omega
  have regroup : d.digits * 10 ^ d.exponent.toNat =
      significand * 10 ^ (d.exponent + zeros).toNat * 10 ^ (-d.exponent).toNat := by
    rw [digits, Nat.mul_assoc significand, ← Nat.pow_add, ← exponents, Nat.pow_add]
    ac_rfl
  have cancel {a b : Nat} (le : a * 10 ^ (-d.exponent).toNat ≤ b * 10 ^ (-d.exponent).toNat) :
      a ≤ b := Nat.le_of_mul_le_mul_right le (Nat.pow_pos (by decide))
  refine ⟨pos, ?_, ?_, ?_⟩
  · have := Nat.le_mul_of_pos_left significand (Nat.pow_pos (n := zeros) (show 0 < 10 by decide))
    exact Nat.le_trans (digits ▸ this) ofDouble.digits
  · have bounded := ofDouble.bounded
    rw [regroup] at bounded
    exact cancel bounded
  · intro last
    have near := ofDouble.near
    rw [regroup, last] at near
    have unit : 10 ^ d.exponent.toNat ≤ 10 ^ 292 * 10 ^ (-d.exponent).toNat := by
      rw [← Nat.pow_add]
      exact Nat.pow_le_pow_right (by decide) (by omega)
    have nearest : 3 * (significand * 10 ^ 292) ≤ 3 * greatestDouble + 2 * 10 ^ 292 := by
      refine cancel ?_
      rw [Nat.add_mul, Nat.mul_assoc 3, Nat.mul_assoc 3, Nat.mul_assoc 2]
      exact Nat.le_trans near (Nat.add_le_add_left (Nat.mul_le_mul_left 2 unit) _)
    refine Nat.not_lt.mp fun next => ?_
    have above := Nat.mul_le_mul_left 3 (Nat.mul_le_mul_right (10 ^ 292) next)
    have room : 3 * greatestDouble + 2 * 10 ^ 292 < 3 * (17976931348623158 * 10 ^ 292) := by
      decide +kernel
    exact Nat.lt_irrefl _ (Nat.lt_of_le_of_lt (Nat.le_trans above nearest) room)

def Numeral.IsFloat (numeral : Numeral) : Prop :=
  ∃ x, ∀ rest, numeral.value rest = .ok (.float x)

theorem isFloat_of_fraction {negative : Bool} {whole : List Char} {d : Char} {digits : List Char}
    (all : IsDigits whole) (few : whole.length ≤ 16) (digit : isDigit d = true) :
    (Numeral.mk negative whole (d :: digits) none).IsFloat := by
  have below := ofDigitChars_lt all 0
  have sixteen : 10 ^ whole.length ≤ 10 ^ 16 := Nat.pow_le_pow_right (by decide) few
  have limit : maxSignificand = 0xFFFFFFFFFFFFFFFF := rfl
  have wholeFits : appendWithin maxSignificand 0 whole = (Nat.ofDigitChars 10 whole 0, []) :=
    appendWithin_eq (by omega)
  have left : (appendWithin maxSignificand (Nat.ofDigitChars 10 whole 0) (d :: digits)).2.length ≤
      digits.length := by
    have value : digitValue d ≤ 9 := by
      have := isDigit_iff.mp digit
      show d.toNat - 48 ≤ 9
      omega
    unfold appendWithin
    rw [if_pos (by omega)]
    exact length_appendWithin _ _ _
  unfold Numeral.IsFloat Numeral.value
  dsimp only
  rw [wholeFits]
  dsimp only
  generalize appendWithin maxSignificand (Nat.ofDigitChars 10 whole 0) (d :: digits) = rest at left
  obtain ⟨significand, fractionLeft⟩ := rest
  dsimp only at left ⊢
  have scaled : (scale significand (([] : List Char).length -
      ((d :: digits).length - fractionLeft.length))).isSome = true := by
    refine scale_isSome fun positive => ?_
    rw [List.length_cons, List.length_nil] at positive
    omega
  obtain ⟨x, scaled⟩ := Option.isSome_iff_exists.mp scaled
  refine ⟨signed negative x, fun after => ?_⟩
  refine (if_neg Bool.false_ne_true).trans ?_
  rw [scaled]

theorem isFloat_of_exponent {negative : Bool} {d : Char} {digits : List Char} {lead : Int}
    (fits : Nat.ofDigitChars 10 (d :: digits) 0 ≤ maxSignificand)
    (small : lead.natAbs ≤ maxExponent)
    (scalable : 0 ≤ lead - digits.length →
      Scalable (Nat.ofDigitChars 10 (d :: digits) 0) (lead - digits.length).toNat) :
    (Numeral.mk negative [d] digits
      (some (decide (lead < 0), Nat.toDigits 10 lead.natAbs))).IsFloat := by
  have split : Nat.ofDigitChars 10 (d :: digits) 0 =
      Nat.ofDigitChars 10 digits (Nat.ofDigitChars 10 [d] 0) := rfl
  rw [split] at fits scalable
  have wholeFits : appendWithin maxSignificand 0 [d] = (Nat.ofDigitChars 10 [d] 0, []) :=
    appendWithin_eq (Nat.le_trans (le_ofDigitChars digits _) fits)
  have fractionFits := appendWithin_eq fits
  have exponentFits : appendWithin maxExponent 0 (Nat.toDigits 10 lead.natAbs) =
      (lead.natAbs, []) := by
    rw [appendWithin_eq (by rwa [Nat.ofDigitChars_ten_toDigits]), Nat.ofDigitChars_ten_toDigits]
  obtain ⟨x, scaled⟩ := Option.isSome_iff_exists.mp (scale_isSome scalable)
  have shift : (if decide (lead < 0) = true then
      (([] : List Char).length : Int) - (digits.length - ([] : List Char).length) - lead.natAbs
    else
      (([] : List Char).length : Int) - (digits.length - ([] : List Char).length) + lead.natAbs) =
      lead - digits.length := by
    rw [List.length_nil]
    simp only [decide_eq_true_eq]
    split <;> omega
  refine ⟨signed negative x, fun after => ?_⟩
  unfold Numeral.value
  dsimp only
  rw [wholeFits]
  dsimp only
  rw [fractionFits]
  dsimp only
  rw [exponentFits]
  dsimp only
  rw [shift, scaled]

def WritesFloat (text : List Char) : Prop :=
  ∀ negative : Bool, ∃ numeral : Numeral, numeral.Proper ∧ numeral.IsFloat ∧
    numeral.text = (if negative then ['-'] else []) ++ text

theorem isDigits_replicate (n : Nat) : IsDigits (List.replicate n '0') := by
  intro c member
  rw [List.eq_of_mem_replicate member]
  rfl

theorem isDigits_append {left right : List Char} (first : IsDigits left) (second : IsDigits right) :
    IsDigits (left ++ right) := by
  intro c member
  rcases List.mem_append.mp member with member | member
  · exact first c member
  · exact second c member

theorem writesFloat_of_fraction {whole fraction : List Char} (all : IsDigits whole)
    (nonempty : whole ≠ []) (leading : ∀ rest, whole = '0' :: rest → rest = [])
    (few : whole.length ≤ 16) (digits : IsDigits fraction) (written : fraction ≠ []) :
    WritesFloat (whole ++ '.' :: fraction) := by
  intro negative
  obtain ⟨d, more, rfl⟩ := List.exists_cons_of_ne_nil written
  refine ⟨⟨negative, whole, d :: more, none⟩, ⟨all, nonempty, leading, digits, nofun⟩,
    isFloat_of_fraction all few (digits d List.mem_cons_self), ?_⟩
  simp [Numeral.text, Numeral.fractionText, Numeral.exponentText]

theorem writesFloat_plain {digits : List Char} {lead : Int} (all : IsDigits digits)
    (nonempty : digits ≠ []) (leading : digits.head? ≠ some '0') (few : lead < 16) :
    WritesFloat (Decimal.Layout.plain digits lead) := by
  unfold Decimal.Layout.plain
  split
  · exact writesFloat_of_fraction (isDigits_replicate 1) (by simp) (by simp) (by simp)
      (isDigits_append (isDigits_replicate _) all) (by simp [nonempty])
  · obtain ⟨c, more, rfl⟩ := List.exists_cons_of_ne_nil nonempty
    have first : c ≠ '0' := fun zero => leading (congrArg some zero)
    refine writesFloat_of_fraction
      (isDigits_append (fun d member => all d (List.mem_of_mem_take member))
        (isDigits_replicate _)) (by simp) ?_ ?_ ?_ ?_
    · intro rest same
      exact absurd (List.cons.inj same).1 first
    · rw [List.length_append, List.length_replicate]
      have := List.length_take_le (lead.toNat + 1) (c :: more)
      omega
    · split
      · exact isDigits_replicate 1
      · exact fun d member => all d (List.mem_of_mem_drop member)
    · split
      · simp
      · next written => simpa using written

theorem writesFloat_scientific {digits : List Char} {lead : Int} (all : IsDigits digits)
    (nonempty : digits ≠ []) (fits : Nat.ofDigitChars 10 digits 0 ≤ maxSignificand)
    (small : lead.natAbs ≤ maxExponent)
    (scalable : 0 ≤ lead - (digits.length - 1 : Nat) →
      Scalable (Nat.ofDigitChars 10 digits 0) (lead - (digits.length - 1 : Nat)).toNat) :
    WritesFloat (Decimal.Layout.scientific digits lead) := by
  intro negative
  obtain ⟨c, more, rfl⟩ := List.exists_cons_of_ne_nil nonempty
  refine ⟨⟨negative, [c], more, some (decide (lead < 0), Nat.toDigits 10 lead.natAbs)⟩,
    ⟨?_, by simp, ?_, ?_, ?_⟩, isFloat_of_exponent fits small scalable, ?_⟩
  · exact fun d member => all d (List.mem_singleton.mp member ▸ List.mem_cons_self)
  · exact fun rest same => (List.cons.inj same).2.symm
  · exact fun d member => all d (List.mem_cons_of_mem c member)
  · rintro sign exponent same
    cases same
    exact ⟨isDigits_toDigits _, Nat.toDigits_ne_nil⟩
  · simp [Numeral.text, Numeral.fractionText, Numeral.exponentText, Decimal.Layout.scientific]

structure Leading (d : Decimal) (zeros : Nat) (digits : List Char) (lead : Int) : Prop where
  all : IsDigits digits
  nonempty : digits ≠ []
  first : digits.head? ≠ some '0'
  few : digits.length ≤ (Nat.toDigits 10 d.digits).length
  value : d.digits = 10 ^ zeros * Nat.ofDigitChars 10 digits 0
  stands : lead = d.exponent + zeros + (digits.length - 1 : Nat)

theorem leading_of_pos {d : Decimal} (pos : 0 < d.digits) :
    ∃ zeros, Leading d zeros d.leading.1 d.leading.2 := by
  obtain ⟨zeros, cut, nonempty, stands⟩ := Decimal.leading_eq pos
  refine ⟨zeros, fun c member => ?_, nonempty, fun zero => ?_, ?_, ?_, stands⟩
  · exact isDigits_toDigits d.digits c (cut ▸ List.mem_append_left _ member)
  · refine head_toDigits pos ?_
    rw [cut, List.head?_append, zero]
    rfl
  · rw [cut, List.length_append]
    exact Nat.le_add_right _ _
  · rw [← Nat.ofDigitChars_replicate_zero, ← Nat.ofDigitChars_append, ← cut,
      Nat.ofDigitChars_ten_toDigits]

/-- With an exponent at most eighteen digits are written, and the power of ten fits as well. -/
theorem writesFloat_leading {d : Decimal} (ofDouble : d.OfDouble) (pos : 0 < d.digits) {zeros : Nat}
    {digits : List Char} {lead : Int} (leading : Leading d zeros digits lead) :
    WritesFloat (Decimal.Layout.scientific digits lead) := by
  have positive : 0 < Nat.ofDigitChars 10 digits 0 := by
    refine Nat.pos_of_ne_zero fun zero => Nat.ne_of_gt pos ?_
    rw [leading.value, zero, Nat.mul_zero]
  have scalable := scalable_of_ofDouble ofDouble positive leading.value
  have shift : lead - (digits.length - 1 : Nat) = d.exponent + zeros := by
    have := leading.stands
    omega
  have fits : Nat.ofDigitChars 10 digits 0 ≤ maxSignificand := by
    have whole : Nat.ofDigitChars 10 digits 0 ≤ d.digits := by
      rw [leading.value]
      exact Nat.le_mul_of_pos_left _ (Nat.pow_pos (by decide))
    exact Nat.le_trans (Nat.le_trans whole ofDouble.digits) (by decide)
  have few : digits.length ≤ 18 := by
    have size := (Nat.length_toDigits_le_iff (b := 10) (k := 18) (by decide) (by decide)).mpr
      (Nat.lt_of_le_of_lt ofDouble.digits (by decide))
    exact Nat.le_trans leading.few size
  have small : lead.natAbs ≤ maxExponent := by
    have limit : maxExponent = 0x7FFFFFFF := rfl
    have least := ofDouble.least
    by_cases whole : 0 ≤ d.exponent + zeros
    · have := (scalable whole).exponent_le
      omega
    · omega
  exact writesFloat_scientific leading.all leading.nonempty fits small (shift ▸ scalable)

theorem writesFloat_text {d : Decimal} (ofDouble : d.OfDouble) :
    WritesFloat (numberLayout.text d) := by
  unfold Decimal.Layout.text
  split
  · exact writesFloat_of_fraction (isDigits_replicate 1) (by simp) (by simp) (by simp)
      (isDigits_replicate 1) (by simp)
  · next nonzero =>
    have pos : 0 < d.digits := Nat.pos_of_ne_zero nonzero
    obtain ⟨zeros, leading⟩ := leading_of_pos pos
    dsimp only
    split
    · next plain =>
      exact writesFloat_plain leading.all leading.nonempty leading.first plain.2
    · exact writesFloat_leading ofDouble pos leading

theorem printFloat_numeral {x : Float} (finite : x.isFinite = true) :
    ∃ numeral : Numeral, numeral.Proper ∧ numeral.IsFloat ∧ numeral.text = printFloat x := by
  have double := Dyadic.finite_ofBits finite
  unfold printFloat Decimal.Layout.floatText
  rw [if_pos finite, String.toList_ofList]
  have writes : WritesFloat (numberLayout.text
      (if (Dyadic.ofBits x.toBits.toNat).significand = 0 then ⟨0, 0⟩
        else (Dyadic.ofBits x.toBits.toNat).shortest)) := by
    split
    · exact writesFloat_text Decimal.ofDouble_zero
    · next nonzero =>
      exact writesFloat_text (Dyadic.shortest_ofDouble double (Nat.pos_of_ne_zero nonzero))
  obtain ⟨numeral, proper, isFloat, text⟩ :=
    writes (decide (0x8000000000000000 ≤ x.toBits.toNat))
  refine ⟨numeral, proper, isFloat, text.trans ?_⟩
  simp only [decide_eq_true_eq]
  split <;> rfl

end ModelRepositories.Json
