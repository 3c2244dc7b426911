import ModelRepositories.Decimal.Shortest
import ModelRepositories.Proofs.Decimal.Double

/-!
How far the shortest decimal is from its double. It lies in the interval that rounds to the double
and at most two thirds of its last digit above it; it has at most seventeen digits.
-/

namespace ModelRepositories

open Double

namespace Rounding

/-- What the ends of an interval have to do with its value: the value is inside, and the upper end
is at most twice as far away as the lower one. -/
structure Around (r : Rounding) : Prop where
  below : r.low ≤ r.value
  above : r.value < r.high
  balanced : r.high + 2 * r.low ≤ 3 * r.value
  positive : 0 < r.denominator

variable {r : Rounding} {n : Nat}

theorem le_high_of_holds (holds : r.holds n = true) : n * r.denominator ≤ r.high := by
  unfold Rounding.holds at holds
  dsimp only at holds
  split at holds
  · exact of_decide_eq_true (Bool.and_eq_true _ _ ▸ holds).2
  · exact Nat.le_of_lt (of_decide_eq_true (Bool.and_eq_true _ _ ▸ holds).2)

theorem le_low_of_not_holds (around : r.Around) (refused : r.holds n = false)
    (low : n * r.denominator ≤ r.value) : n * r.denominator ≤ r.low := by
  have above := around.above
  unfold Rounding.holds at refused
  dsimp only at refused
  split at refused
  · rw [decide_eq_true (show n * r.denominator ≤ r.high by omega), Bool.and_true,
      decide_eq_false_iff_not] at refused
    omega
  · rw [decide_eq_true (show n * r.denominator < r.high by omega), Bool.and_true,
      decide_eq_false_iff_not] at refused
    omega

theorem holds_of_nearest? (found : r.nearest? = some n) : r.holds n = true := by
  unfold Rounding.nearest? at found
  dsimp only at found
  split at found
  · next first second =>
    split at found
    · cases found
      exact first
    · cases found
      exact second
  · next first second =>
    cases found
    exact first
  · next first second =>
    cases found
    exact second
  · cases found

theorem nearest?_near (around : r.Around) (found : r.nearest? = some n) :
    n ≤ r.value / r.denominator + 1 ∧
      3 * (n * r.denominator) ≤ 3 * r.value + 2 * r.denominator := by
  have balanced := around.balanced
  have floor := Nat.div_mul_le_self r.value r.denominator
  have next : (r.value / r.denominator + 1) * r.denominator =
    r.value / r.denominator * r.denominator + r.denominator := Nat.succ_mul _ _
  have ceiling : r.value < (r.value / r.denominator + 1) * r.denominator := by
    rw [Nat.mul_comm]
    exact Nat.lt_mul_div_succ r.value around.positive
  have inside := fun refused => le_low_of_not_holds around refused floor
  have high : r.holds (r.value / r.denominator + 1) = true → _ := le_high_of_holds
  unfold Rounding.nearest? at found
  dsimp only at found
  split at found
  · split at found
    · cases found
      exact ⟨Nat.le_succ _, by omega⟩
    · cases found
      exact ⟨Nat.le_refl _, by omega⟩
  · cases found
    exact ⟨Nat.le_succ _, by omega⟩
  · next refused holds =>
    have := inside refused
    have := high holds
    cases found
    exact ⟨Nat.le_refl _, by omega⟩
  · cases found

theorem around_inUnits (around : r.Around) (exponent : Int) : (r.inUnits exponent).Around := by
  have up : 0 < 10 ^ (-exponent).toNat := Nat.pow_pos (by decide)
  refine ⟨Nat.mul_le_mul_right _ around.below, Nat.mul_lt_mul_of_pos_right around.above up, ?_,
    Nat.mul_pos around.positive (Nat.pow_pos (by decide))⟩
  have balanced := Nat.mul_le_mul_right (10 ^ (-exponent).toNat) around.balanced
  rw [Nat.add_mul, Nat.mul_assoc, Nat.mul_assoc] at balanced
  exact balanced

theorem value_lt (around : r.Around) : ∃ size lift : Nat, r.magnitude = size - (lift + 1) ∧
    r.value * 10 ^ lift < 10 ^ size * r.denominator := by
  obtain ⟨lift, same⟩ : ∃ lift, lift = 340 := ⟨_, rfl⟩
  have digits (n : Nat) : n < 10 ^ (Nat.toDigits 10 n).length :=
    (Nat.length_toDigits_le_iff (by decide) Nat.length_toDigits_pos).mp (Nat.le_refl _)
  exact ⟨(Nat.toDigits 10 (r.value * 10 ^ lift / r.denominator)).length, lift, by rw [same]; rfl,
    (Nat.div_lt_iff_lt_mul around.positive).mp (digits _)⟩

theorem value_div_lt (around : r.Around) {exponent : Int} (fine : r.magnitude ≤ exponent + 16) :
    (r.inUnits exponent).value / (r.inUnits exponent).denominator < 10 ^ 17 := by
  obtain ⟨size, lift, lead, below⟩ := value_lt around
  rw [Nat.div_lt_iff_lt_mul (around_inUnits around exponent).positive]
  show r.value * 10 ^ (-exponent).toNat < 10 ^ 17 * (r.denominator * 10 ^ exponent.toNat)
  refine Nat.lt_of_mul_lt_mul_right (a := 10 ^ lift) ?_
  calc r.value * 10 ^ (-exponent).toNat * 10 ^ lift
      = r.value * 10 ^ lift * 10 ^ (-exponent).toNat := Nat.mul_right_comm _ _ _
    _ < 10 ^ size * r.denominator * 10 ^ (-exponent).toNat :=
        Nat.mul_lt_mul_of_pos_right below (Nat.pow_pos (by decide))
    _ = r.denominator * 10 ^ (size + (-exponent).toNat) := by
        rw [Nat.pow_add]
        ac_rfl
    _ ≤ r.denominator * 10 ^ (17 + exponent.toNat + lift) :=
        Nat.mul_le_mul_left _ (Nat.pow_le_pow_right (by decide) (by omega))
    _ = 10 ^ 17 * (r.denominator * 10 ^ exponent.toNat) * 10 ^ lift := by
        rw [Nat.pow_add, Nat.pow_add]
        ac_rfl

end Rounding

theorem Dyadic.around_rounding {d : Dyadic} (pos : 0 < d.significand) : d.rounding.Around := by
  unfold Dyadic.rounding
  dsimp only
  generalize gapped : (if d.significand = leastNormal ∧ -1074 < d.exponent then 1 else 2) = gap
  have gaps : gap = 1 ∨ gap = 2 := by
    split at gapped <;> omega
  have scale : 0 < Nat.pow 2 (d.exponent - 2).toNat := Nat.two_pow_pos _
  refine ⟨Nat.mul_le_mul_right _ (by omega), Nat.mul_lt_mul_of_pos_right (by omega) scale, ?_,
    Nat.two_pow_pos _⟩
  show (4 * d.significand + 2) * _ + 2 * ((4 * d.significand - gap) * _) ≤
    3 * (4 * d.significand * _)
  rw [← Nat.mul_assoc, ← Nat.add_mul, ← Nat.mul_assoc]
  exact Nat.mul_le_mul_right _ (by omega)

structure Dyadic.Finite (d : Dyadic) : Prop where
  significand : d.significand ≤ greatestSignificand
  exponent : d.exponent ≤ greatestExponent

/-- A decimal that has few enough digits and is small enough for being the shortest of a double. -/
structure Decimal.OfDouble (d : Decimal) : Prop where
  least : -357 ≤ d.exponent
  digits : d.digits ≤ 10 ^ 17
  bounded : d.digits * 10 ^ d.exponent.toNat ≤ roundingLimit * 10 ^ (-d.exponent).toNat
  near : 3 * (d.digits * 10 ^ d.exponent.toNat) ≤
    3 * (greatestDouble * 10 ^ (-d.exponent).toNat) + 2 * 10 ^ d.exponent.toNat

theorem Decimal.ofDouble_zero : (Decimal.mk 0 0).OfDouble :=
  ⟨by decide, Nat.zero_le _, by simp, by simp⟩

namespace Dyadic

variable {d : Dyadic}

theorem high_le (finite : d.Finite) :
    d.rounding.high ≤ roundingLimit * d.rounding.denominator := by
  have significand := finite.significand
  have exponent := finite.exponent
  have top : greatestExponent = 971 := rfl
  show (4 * d.significand + 2) * 2 ^ (d.exponent - 2).toNat ≤
    (2 * greatestSignificand + 1) * 2 ^ (greatestExponent - 1) * 2 ^ (2 - d.exponent).toNat
  calc (4 * d.significand + 2) * 2 ^ (d.exponent - 2).toNat
      ≤ (2 * greatestSignificand + 1) * 2 * 2 ^ (d.exponent - 2).toNat :=
        Nat.mul_le_mul_right _ (by omega)
    _ = (2 * greatestSignificand + 1) * 2 ^ (1 + (d.exponent - 2).toNat) := by
        rw [Nat.pow_add, Nat.mul_assoc]
    _ ≤ (2 * greatestSignificand + 1) * 2 ^ (greatestExponent - 1 + (2 - d.exponent).toNat) :=
        Nat.mul_le_mul_left _ (Nat.pow_le_pow_right (by decide) (by omega))
    _ = (2 * greatestSignificand + 1) * 2 ^ (greatestExponent - 1) *
          2 ^ (2 - d.exponent).toNat := by
        rw [Nat.pow_add, Nat.mul_assoc]

theorem value_le (finite : d.Finite) :
    d.rounding.value ≤ greatestDouble * d.rounding.denominator := by
  have significand := finite.significand
  have exponent := finite.exponent
  have top : greatestExponent = 971 := rfl
  show 4 * d.significand * 2 ^ (d.exponent - 2).toNat ≤
    greatestSignificand * 2 ^ greatestExponent * 2 ^ (2 - d.exponent).toNat
  calc 4 * d.significand * 2 ^ (d.exponent - 2).toNat
      ≤ greatestSignificand * 2 ^ 2 * 2 ^ (d.exponent - 2).toNat :=
        Nat.mul_le_mul_right _ (by omega)
    _ = greatestSignificand * 2 ^ (2 + (d.exponent - 2).toNat) := by
        rw [Nat.pow_add, Nat.mul_assoc]
    _ ≤ greatestSignificand * 2 ^ (greatestExponent + (2 - d.exponent).toNat) :=
        Nat.mul_le_mul_left _ (Nat.pow_le_pow_right (by decide) (by omega))
    _ = greatestSignificand * 2 ^ greatestExponent * 2 ^ (2 - d.exponent).toNat := by
        rw [Nat.pow_add, Nat.mul_assoc]

theorem ofDouble_of_nearest? (finite : d.Finite) (pos : 0 < d.significand) {exponent : Int}
    {n : Nat} (least : -357 ≤ exponent) (fine : d.rounding.magnitude ≤ exponent + 16)
    (found : (d.rounding.inUnits exponent).nearest? = some n) :
    (Decimal.mk n exponent).OfDouble := by
  have around := around_rounding pos
  have scaled := Rounding.around_inUnits around exponent
  obtain ⟨floor, near⟩ := Rounding.nearest?_near scaled found
  have few := Rounding.value_div_lt around fine
  have high := Rounding.le_high_of_holds (Rounding.holds_of_nearest? found)
  have value := Nat.mul_le_mul_right (10 ^ (-exponent).toNat) (value_le finite)
  have cancel {a b : Nat} (le : a * d.rounding.denominator ≤ b * d.rounding.denominator) : a ≤ b :=
    Nat.le_of_mul_le_mul_right le around.positive
  refine ⟨least, Nat.le_trans floor few, cancel ?_, cancel ?_⟩
  · calc n * 10 ^ exponent.toNat * d.rounding.denominator
        = n * (d.rounding.denominator * 10 ^ exponent.toNat) := by ac_rfl
      _ ≤ d.rounding.high * 10 ^ (-exponent).toNat := high
      _ ≤ roundingLimit * d.rounding.denominator * 10 ^ (-exponent).toNat :=
          Nat.mul_le_mul_right _ (high_le finite)
      _ = roundingLimit * 10 ^ (-exponent).toNat * d.rounding.denominator :=
          Nat.mul_right_comm _ _ _
  · calc 3 * (n * 10 ^ exponent.toNat) * d.rounding.denominator
        = 3 * (n * (d.rounding.denominator * 10 ^ exponent.toNat)) := by ac_rfl
      _ ≤ 3 * (d.rounding.value * 10 ^ (-exponent).toNat) +
            2 * (d.rounding.denominator * 10 ^ exponent.toNat) := near
      _ ≤ 3 * (greatestDouble * d.rounding.denominator *
            10 ^ (-exponent).toNat) + 2 * (d.rounding.denominator * 10 ^ exponent.toNat) :=
          Nat.add_le_add_right (Nat.mul_le_mul_left 3 value) _
      _ = (3 * (greatestDouble * 10 ^ (-exponent).toNat) +
            2 * 10 ^ exponent.toNat) * d.rounding.denominator := by
          generalize greatestDouble = double
          rw [Nat.add_mul]
          ac_rfl

theorem shortest_ofDouble (finite : d.Finite) (pos : 0 < d.significand) :
    d.shortest.OfDouble := by
  unfold Dyadic.shortest
  dsimp only
  cases search : (List.range 17).findSome? fun more : Nat =>
      (d.rounding.inUnits (d.rounding.magnitude - more)).nearest?.map fun digits =>
        Decimal.mk digits (d.rounding.magnitude - more) with
  | none => exact Decimal.ofDouble_zero
  | some decimal =>
    obtain ⟨more, member, tried⟩ := List.exists_of_findSome?_eq_some search
    obtain ⟨digits, found, rfl⟩ := Option.map_eq_some_iff.mp tried
    have few := List.mem_range.mp member
    have lead : -341 ≤ d.rounding.magnitude := by
      unfold Rounding.magnitude
      omega
    exact ofDouble_of_nearest? finite pos (by omega) (by omega) found

end Dyadic

end ModelRepositories
