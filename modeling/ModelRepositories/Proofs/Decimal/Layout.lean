import ModelRepositories.Decimal.Layout
import ModelRepositories.Proofs.Decimal.Shortest

/-!
What is written of a double: its magnitude is within the range of finite ones, and the digits of a
decimal are the ones that are shown and the zeros that were left out.
-/

namespace ModelRepositories

open Double

open Float.Model Float.Model.UnpackedFloat in
theorem exponent_ne_of_isFinite {x : Float} (finite : x.isFinite = true) :
    x.toBits.toNat / leastNormal % 2048 ≠ 2047 := by
  intro special
  have exponent : @unpackExponent Format.binary64 x.toBits.toBitVec = -1#11 := by
    apply BitVec.eq_of_toNat_eq
    show x.toBits.toNat >>> 52 % 2 ^ 11 = 2047
    rw [Nat.shiftRight_eq_div_pow]
    exact special
  have notFinite : (UnpackedFloat.unpack Format.binary64 x.toBits.toBitVec).isFinite = false := by
    unfold UnpackedFloat.unpack
    dsimp only
    rw [if_pos exponent]
    split <;> rfl
  exact absurd (finite.symm.trans notFinite) (by decide)

theorem Dyadic.finite_ofBits {x : Float} (finite : x.isFinite = true) :
    (Dyadic.ofBits x.toBits.toNat).Finite := by
  have biased := exponent_ne_of_isFinite finite
  have fraction : x.toBits.toNat % leastNormal < leastNormal := Nat.mod_lt _ (by decide)
  have top : greatestExponent = 971 := rfl
  have most : greatestSignificand = leastNormal + leastNormal - 1 := rfl
  unfold Dyadic.ofBits
  dsimp only
  split
  · refine ⟨?_, ?_⟩
    · show x.toBits.toNat % leastNormal ≤ _
      omega
    · show (-1074 : Int) ≤ _
      omega
  · refine ⟨?_, ?_⟩
    · show leastNormal + x.toBits.toNat % leastNormal ≤ _
      omega
    · show ((x.toBits.toNat / leastNormal % 2048 : Nat) : Int) - 1075 ≤ _
      omega

theorem Decimal.leading_eq {d : Decimal} (pos : 0 < d.digits) : ∃ zeros : Nat,
    Nat.toDigits 10 d.digits = d.leading.1 ++ List.replicate zeros '0' ∧
    d.leading.1 ≠ [] ∧ d.leading.2 = d.exponent + zeros + (d.leading.1.length - 1 : Nat) := by
  generalize all : Nat.toDigits 10 d.digits = digits
  have leading : d.leading =
      ((digits.reverse.dropWhile (· == '0')).reverse, d.exponent + digits.length - 1) := by
    rw [← all]
    rfl
  have zeros : digits.reverse.takeWhile (· == '0') =
      List.replicate (digits.reverse.takeWhile (· == '0')).length '0' := by
    rw [List.eq_replicate_iff]
    refine ⟨rfl, fun c member => ?_⟩
    exact eq_of_beq (List.all_eq_true.mp List.all_takeWhile c member)
  have cut : digits = d.leading.1 ++
      List.replicate (digits.reverse.takeWhile (· == '0')).length '0' := by
    rw [leading, ← List.reverse_replicate, ← zeros, ← List.reverse_append,
      List.takeWhile_append_dropWhile, List.reverse_reverse]
  generalize (digits.reverse.takeWhile (· == '0')).length = count at cut
  have nonempty : d.leading.1 ≠ [] := by
    intro absent
    rw [absent, List.nil_append] at cut
    have value := Nat.ofDigitChars_ten_toDigits (n := d.digits)
    rw [all, cut, Nat.ofDigitChars_replicate_zero] at value
    omega
  refine ⟨count, cut, nonempty, ?_⟩
  have length := congrArg List.length cut
  rw [List.length_append, List.length_replicate] at length
  have positive := List.length_pos_iff.mpr nonempty
  have lead : d.leading.2 = d.exponent + digits.length - 1 := by rw [leading]
  omega

end ModelRepositories
