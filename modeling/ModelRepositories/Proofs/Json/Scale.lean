import ModelRepositories.Json.Numeral
import ModelRepositories.Proofs.Decimal.Double

/-!
When a significand times a power of ten is a double. It is not enough that the decimal rounds to
one, since both steps of the product round: 17976931348623158e292 is nearest to the greatest double
and is refused. Numbers of at most 17 digits that are nearest to a double are never refused.
-/

namespace ModelRepositories.Json

open Double Float.Model Float.Model.UnpackedFloat

/-- A double that is not below any significand which is written before a power of ten. -/
def significandLimit (exponent : Nat) : Nat :=
  if exponent = 292 then 17976931348623156 else min (10 ^ 17) (roundingLimit / 10 ^ exponent)

def limitHolds (exponent : Nat) : Bool :=
  match (powerOfTen exponent).toModel.unpack with
  | .finite .positive n f _ =>
    let limit := significandLimit exponent
    limit % 2 ^ (limit.log2 - 52) == 0 && decide (2 ^ 52 ≤ n) && decide (-52 ≤ f) &&
      decide (limit * n * 2 ^ (f + 52).toNat ≤ greatestSignificand * 2 ^ 1023)
  | _ => false

theorem limitHolds_of_lt : ∀ exponent < 309, limitHolds exponent = true := by decide +kernel

theorem isInf_scaled {n exponent : Nat} (pos : 0 < n) (room : exponent < 309)
    (bounded : n ≤ significandLimit exponent) :
    ((UInt64.ofNat n).toFloat * powerOfTen exponent).isInf = false := by
  have holds := limitHolds_of_lt exponent room
  unfold limitHolds at holds
  split at holds
  · next m f posM power =>
    simp only [Bool.and_eq_true, beq_iff_eq, decide_eq_true_eq] at holds
    obtain ⟨⟨⟨whole, low⟩, least⟩, below⟩ := holds
    have size : n < 2 ^ 64 := by
      have : significandLimit exponent ≤ 10 ^ 17 := by
        unfold significandLimit
        split <;> omega
      omega
    have logs : n.log2 ≤ (significandLimit exponent).log2 :=
      (Nat.le_log2 (by omega)).mpr (Nat.le_trans (Nat.log2_self_le (Nat.ne_of_gt pos)) bounded)
    have shorter := Nat.pow_dvd_pow 2 (Nat.sub_le_sub_right logs 52)
    obtain ⟨c, multiple⟩ : 2 ^ (n.log2 - 52) ∣ significandLimit exponent :=
      Nat.dvd_trans shorter (Nat.dvd_of_mod_eq_zero whole)
    rw [Nat.mul_comm] at multiple
    obtain ⟨r, e, posR, unpacked, lowR, -, leastR, belowR⟩ :=
      unpack_toFloat size pos (multiple ▸ bounded)
    rw [← multiple] at belowR
    refine isInf_mul unpacked power lowR low leastR least ?_
    have joined (g a b : Nat) : g * 2 ^ a * 2 ^ b = g * 2 ^ (a + b) := by
      rw [Nat.mul_assoc, Nat.pow_add]
    have both := Nat.mul_le_mul_right (m * 2 ^ (f + 52).toNat) belowR
    calc r * m * 2 ^ (e + f + 104).toNat
        = r * 2 ^ (e + 52).toNat * (m * 2 ^ (f + 52).toNat) := by
          rw [show (e + f + 104).toNat = (e + 52).toNat + (f + 52).toNat by omega, Nat.pow_add]
          ac_rfl
      _ ≤ significandLimit exponent * 2 ^ 52 * (m * 2 ^ (f + 52).toNat) := both
      _ = significandLimit exponent * m * 2 ^ (f + 52).toNat * 2 ^ 52 := by ac_rfl
      _ ≤ greatestSignificand * 2 ^ 1023 * 2 ^ 52 := Nat.mul_le_mul_right _ below
      _ = greatestSignificand * 2 ^ (1023 + 52) := joined greatestSignificand 1023 52
  · cases holds

/-- A number that is not taken for one beyond the doubles. The last significand below 10 to the
power 17 is bounded by hand: the product with the next one rounds to infinity. -/
structure Scalable (significand exponent : Nat) : Prop where
  positive : 0 < significand
  digits : significand ≤ 10 ^ 17
  bounded : significand * 10 ^ exponent ≤ roundingLimit
  last : exponent = 292 → significand ≤ 17976931348623157

theorem exponent_lt {significand exponent limit bound : Nat} (positive : 0 < significand)
    (bounded : significand * 10 ^ exponent ≤ limit) (small : limit < 10 ^ bound) :
    exponent < bound := by
  have power : 10 ^ exponent ≤ limit :=
    Nat.le_trans (Nat.le_mul_of_pos_left _ positive) bounded
  exact (Nat.pow_lt_pow_iff_right (by decide)).mp (Nat.lt_of_le_of_lt power small)

namespace Scalable

variable {significand exponent : Nat} (scalable : Scalable significand exponent)
include scalable

theorem exponent_le : exponent < 309 :=
  exponent_lt scalable.positive scalable.bounded (by decide +kernel)

theorem le_limit (ordinary : ¬ (exponent = 292 ∧ significand = 17976931348623157)) :
    significand ≤ significandLimit exponent := by
  unfold significandLimit
  split
  · next special =>
    have := scalable.last special
    omega
  · exact Nat.le_min.mpr ⟨scalable.digits,
      (Nat.le_div_iff_mul_le (Nat.pow_pos (by decide))).mpr scalable.bounded⟩

theorem isInf_product :
    ((UInt64.ofNat significand).toFloat * powerOfTen exponent).isInf = false := by
  by_cases special : exponent = 292 ∧ significand = 17976931348623157
  · rw [special.1, special.2]
    decide +kernel
  · exact isInf_scaled scalable.positive scalable.exponent_le (scalable.le_limit special)

end Scalable

theorem scale_isSome {significand : Nat} {exponent : Int}
    (scalable : 0 ≤ exponent → Scalable significand exponent.toNat) :
    (scale significand exponent).isSome = true := by
  unfold scale
  dsimp only
  split
  · next beyond =>
    have := (scalable (by omega)).exponent_le
    omega
  · split
    · next positive =>
      rw [(scalable positive).isInf_product]
      rfl
    · split
      · rfl
      · split <;> rfl

end ModelRepositories.Json
