import Mathlib.Algebra.Group.Nat.Defs

/-!
How doubles are rounded. The digits that do not fit are shifted out, and what was shifted out
decides whether the last digit that stays is raised. Rounding never passes a double, so that a bound
which is itself a double holds before and after.
-/

namespace ModelRepositories.Double

open Float.Model Float.Model.UnpackedFloat

abbrev exactly (m : Nat) : ExtendedMantissa := ⟨m, false, false⟩

theorem shift_succ (em : ExtendedMantissa) (k : Nat) :
    em >>> (k + 1) = (em >>> k).shiftRightOne := rfl

theorem shift_mantissa (em : ExtendedMantissa) (k : Nat) :
    (em >>> k).mantissa = em.mantissa / 2 ^ k := by
  induction k with
  | zero => exact (Nat.div_one _).symm
  | succ k ih =>
    rw [shift_succ, Nat.pow_succ, ← Nat.div_div_eq_div_mul, ← ih]
    rfl

theorem shift_multiple (m k : Nat) : exactly (m * 2 ^ k) >>> k = exactly m := by
  induction k generalizing m with
  | zero => rw [Nat.pow_zero, Nat.mul_one]; rfl
  | succ k ih =>
    have regroup : m * 2 ^ (k + 1) = m * 2 * 2 ^ k := by rw [Nat.pow_succ]; ac_rfl
    rw [regroup, shift_succ, ih]
    simp [ExtendedMantissa.shiftRightOne]

theorem roundedMantissa_bounds (em : ExtendedMantissa) :
    em.mantissa ≤ em.roundedMantissa ∧ em.roundedMantissa ≤ em.mantissa + 1 := by
  obtain ⟨m, round, sticky⟩ := em
  cases round <;> cases sticky
  · exact ⟨Nat.le_refl _, Nat.le_succ _⟩
  · exact ⟨Nat.le_refl _, Nat.le_succ _⟩
  · show m ≤ m + m % 2 ∧ m + m % 2 ≤ m + 1
    omega
  · exact ⟨Nat.le_succ _, Nat.le_refl _⟩

theorem rounded_le {m k limit : Nat} (bounded : m ≤ limit * 2 ^ k) :
    (exactly m >>> k).roundedMantissa ≤ limit := by
  rcases Nat.eq_or_lt_of_le bounded with rfl | below
  · rw [shift_multiple]
    exact Nat.le_refl _
  · have floor : m / 2 ^ k < limit := (Nat.div_lt_iff_lt_mul (Nat.two_pow_pos k)).mpr below
    have near := (roundedMantissa_bounds (exactly m >>> k)).2
    rw [shift_mantissa] at near
    exact Nat.le_trans near floor

theorem le_rounded (m k : Nat) : m / 2 ^ k ≤ (exactly m >>> k).roundedMantissa := by
  have near := (roundedMantissa_bounds (exactly m >>> k)).1
  rwa [shift_mantissa] at near

theorem targetExponent_eq (m : Nat) (e : Int) :
    Format.binary64.targetExponent (totalExponent m e) = max (m.log2 + e - 52) (-1074) := by
  show max ((m.log2 : Int) + 1 + e - 53) (-1074) = _
  congr 1
  omega

theorem shiftToTargetExponent_eq {m : Nat} {e : Int} {k : Nat}
    (target : max (m.log2 + e - 52) (-1074) = e + k) :
    shiftToTargetExponent Format.binary64 m e .exact = (exactly m >>> k, e + k) := by
  have shift : (Format.binary64.targetExponent (totalExponent m e) - e).toNat = k := by
    rw [targetExponent_eq, target]
    omega
  show (exactly m >>> _, e + _) = _
  rw [shift]

theorem log2_mul_two_pow {m : Nat} (positive : m ≠ 0) (k : Nat) :
    (m * 2 ^ k).log2 = m.log2 + k := by
  induction k with
  | zero => rw [Nat.pow_zero, Nat.mul_one, Nat.add_zero]
  | succ k ih =>
    have double : m * 2 ^ (k + 1) = 2 * (m * 2 ^ k) := by rw [Nat.pow_succ]; ac_rfl
    rw [double, Nat.log2_two_mul (Nat.mul_ne_zero positive (Nat.ne_of_gt (Nat.two_pow_pos k))), ih]
    rfl

theorem shift_lt {m k : Nat} (digits : m.log2 = 52 + k) : m / 2 ^ k < 2 ^ 53 := by
  rw [Nat.div_lt_iff_lt_mul (Nat.two_pow_pos k), ← Nat.pow_add,
    show 53 + k = m.log2 + 1 by omega]
  exact Nat.lt_log2_self

theorem le_shift {m k : Nat} (digits : m.log2 = 52 + k) : 2 ^ 52 ≤ m / 2 ^ k := by
  have positive : m ≠ 0 := by
    rintro rfl
    simp at digits
    omega
  rw [Nat.le_div_iff_mul_le (Nat.two_pow_pos k), ← Nat.pow_add, ← digits]
  exact Nat.log2_self_le positive

/-- A number of more than 52 binary digits, rounded to 53. A carry into the next digit is taken back
by the exponent. -/
theorem roundWithAccuracy_eq {m k : Nat} {e : Int} (digits : m.log2 = 52 + k)
    (normal : -1074 ≤ e + k) :
    ∃ (carry r : Nat) (pos : 0 < r), carry ≤ 1 ∧ r.log2 = 52 ∧
      r * 2 ^ carry = (exactly m >>> k).roundedMantissa ∧
      roundWithAccuracy Format.binary64 .positive m e .exact =
        .finite .positive r (e + k + carry) pos := by
  have first : shiftToTargetExponent Format.binary64 m e .exact = (exactly m >>> k, e + k) :=
    shiftToTargetExponent_eq (by omega)
  have low : 2 ^ 52 ≤ (exactly m >>> k).roundedMantissa :=
    Nat.le_trans (le_shift digits) (le_rounded m k)
  have high : (exactly m >>> k).roundedMantissa ≤ 2 ^ 53 := by
    have near := (roundedMantissa_bounds (exactly m >>> k)).2
    rw [shift_mantissa] at near
    exact Nat.le_trans near (shift_lt digits)
  -- a carry turns the number into a power of two, so that the second shift drops a zero
  obtain ⟨carry, r, least, exponent, whole⟩ : ∃ carry r : Nat, carry ≤ 1 ∧ r.log2 = 52 ∧
      r * 2 ^ carry = (exactly m >>> k).roundedMantissa := by
    rcases Nat.eq_or_lt_of_le high with carried | below
    · exact ⟨1, 2 ^ 52, Nat.le_refl 1, Nat.log2_two_pow, carried.symm⟩
    · exact ⟨0, _, Nat.zero_le 1, (Nat.log2_eq_iff (by omega)).mpr ⟨low, below⟩, Nat.mul_one _⟩
  have positive : r ≠ 0 := by
    rintro rfl
    simp at exponent
  have second : shiftToTargetExponent Format.binary64 (exactly m >>> k).roundedMantissa (e + k)
      .exact = (exactly r, e + k + carry) := by
    have taken : (r * 2 ^ carry).log2 = 52 + carry := by
      rw [log2_mul_two_pow positive, exponent]
    rw [← whole, shiftToTargetExponent_eq (k := carry) (by rw [taken]; omega), shift_multiple]
  refine ⟨carry, r, Nat.pos_of_ne_zero positive, least, exponent, whole, ?_⟩
  unfold roundWithAccuracy
  rw [first]
  dsimp only
  rw [second]
  exact dif_neg positive

theorem unpackSign_packComponents (spec : Format) (sign : Sign)
    (exponent : BitVec spec.exponentBits) (mantissa : BitVec spec.mantissaBitsWithoutImplicit) :
    unpackSign (packComponents spec sign exponent mantissa) = sign.toBitVec := by
  ext i hi
  obtain rfl : i = 0 := by omega
  delta unpackSign packComponents
  simp [BitVec.getLsbD_append, BitVec.getElem_append]

theorem unpack_normal {spec : Format} {bits : BitVec spec.numBits} {sign : Sign} {m : Nat} {e : Int}
    (pos : 0 < m) (finite : unpackExponent bits ≠ -BitVec.ofNat spec.exponentBits 1)
    (normal : unpackExponent bits ≠ BitVec.ofNat spec.exponentBits 0)
    (signed : Sign.ofBitVec (unpackSign bits) = sign)
    (significand : (1#1 ++ unpackMantissa bits).toNat = m)
    (exponent : ((unpackExponent bits).toNat : Int) -
      (spec.exponentBias + spec.mantissaBitsWithoutImplicit) = e) :
    UnpackedFloat.unpack spec bits = .finite sign m e pos := by
  subst signed significand exponent
  exact (if_neg finite).trans (if_neg normal)

theorem unpack_pack {r : Nat} {e : Int} (pos : 0 < r) (digits : r.log2 = 52) (least : -1074 ≤ e)
    (top : e ≤ 971) :
    (Float.Model.pack (.finite .positive r e pos)).unpack = .finite .positive r e pos := by
  obtain ⟨low, high⟩ := (Nat.log2_eq_iff (Nat.ne_of_gt pos)).mp digits
  obtain ⟨biased, exponent⟩ : ∃ biased : Nat, (biased : Int) = e + 1075 :=
    ⟨(e + 1075).toNat, by omega⟩
  have packed : UnpackedFloat.pack Format.binary64 (.finite .positive r e pos) =
      packComponents Format.binary64 .positive (BitVec.ofNat 11 biased) (BitVec.ofNat 52 r) := by
    obtain rfl : (e + ((1023 : Nat) : Int) + ((52 : Nat) : Int)).toNat = biased := by omega
    have range : ¬ 2 ^ 11 ≤ (e + ((1023 : Nat) : Int) + ((52 : Nat) : Int)).toNat + 1 := by omega
    have whole : r.log2 + 1 = 53 := by omega
    exact (if_neg range).trans (if_pos whole)
  have finite : BitVec.ofNat 11 biased ≠ -1#11 := by
    intro same
    have := congrArg BitVec.toNat same
    rw [BitVec.toNat_ofNat, show (-1#11).toNat = 2047 from rfl] at this
    omega
  have normal : BitVec.ofNat 11 biased ≠ 0#11 := by
    intro same
    have := congrArg BitVec.toNat same
    rw [BitVec.toNat_ofNat, show (0#11).toNat = 0 from rfl] at this
    omega
  have implicit : (1#1 ++ BitVec.ofNat 52 r).toNat = r := by
    rw [BitVec.toNat_append, ← Nat.shiftLeft_add_eq_or_of_lt (BitVec.isLt _)]
    show 2 ^ 52 + r % 2 ^ 52 = r
    omega
  have unbiased :
      ((BitVec.ofNat 11 biased).toNat : Int) - (((1023 : Nat) : Int) + (52 : Nat)) = e := by
    rw [BitVec.toNat_ofNat]
    omega
  show UnpackedFloat.unpack Format.binary64 (UnpackedFloat.pack Format.binary64 _) = _
  rw [packed]
  refine unpack_normal pos ?_ ?_ ?_ ?_ ?_
  · rwa [unpackExponent_packComponents]
  · rwa [unpackExponent_packComponents]
  · rw [unpackSign_packComponents]
    rfl
  · rwa [unpackMantissa_packComponents]
  · rwa [unpackExponent_packComponents]

theorem unpack_pack_roundWithAccuracy {m k limit : Nat} {e : Int} (digits : m.log2 = 52 + k)
    (normal : -1074 ≤ e + k) (top : e + k ≤ 971) (bounded : m ≤ limit * 2 ^ k)
    (fits : e + k = 971 → limit < 2 ^ 53) :
    ∃ (r : Nat) (e' : Int) (pos : 0 < r),
      (Float.Model.pack (roundWithAccuracy Format.binary64 .positive m e .exact)).unpack =
        .finite .positive r e' pos ∧
      2 ^ 52 ≤ r ∧ r < 2 ^ 53 ∧ e + k ≤ e' ∧ r * 2 ^ (e' - (e + k)).toNat ≤ limit := by
  obtain ⟨carry, r, pos, least, exponent, whole, rounded⟩ := roundWithAccuracy_eq digits normal
  have below : r * 2 ^ carry ≤ limit := whole ▸ rounded_le bounded
  obtain ⟨low, high⟩ := (Nat.log2_eq_iff (Nat.ne_of_gt pos)).mp exponent
  have room : e + k + carry ≤ 971 := by
    by_cases last : e + k = 971
    · have := fits last
      have : carry ≠ 1 := by
        rintro rfl
        omega
      omega
    · omega
  rw [rounded, unpack_pack pos exponent (by omega) room]
  refine ⟨r, _, pos, rfl, low, high, by omega, ?_⟩
  rwa [show (e + k + carry - (e + k)).toNat = carry by omega]

theorem toFloat_eq {n : Nat} (size : n < 2 ^ 64) (pos : 0 < n) :
    (UInt64.ofNat n).toFloat.toModel = Float.Model.pack
      (roundWithAccuracy Format.binary64 .positive (n * 2 ^ (52 - n.log2))
        (-((52 - n.log2 : Nat) : Int)) .exact) := by
  have word : (UInt64.ofNat n).toNat = n := by
    rw [UInt64.toNat_ofNat']
    exact Nat.mod_eq_of_lt size
  have same : (UInt64.ofNat n).toFloat.toModel =
      Float.Model.pack (normalize Format.binary64 ((UInt64.ofNat n).toNat : Int) 0 .positive) := rfl
  have above : compare (n : Int) 0 = .gt := Int.compare_eq_gt.mpr (by omega)
  rw [same, word]
  unfold UnpackedFloat.normalize
  rw [above]
  dsimp only
  unfold UnpackedFloat.round decreaseExponent
  rw [targetExponent_eq]
  dsimp only
  rw [Int.toNat_natCast, Nat.shiftLeft_eq]
  have shift : (0 - max ((n.log2 : Int) + 0 - 52) (-1074)).toNat = 52 - n.log2 := by omega
  rw [shift, Int.zero_sub]

theorem unpack_toFloat {n c : Nat} (size : n < 2 ^ 64) (pos : 0 < n)
    (bounded : n ≤ c * 2 ^ (n.log2 - 52)) :
    ∃ (r : Nat) (e : Int) (positive : 0 < r),
      (UInt64.ofNat n).toFloat.toModel.unpack = .finite .positive r e positive ∧
      2 ^ 52 ≤ r ∧ r < 2 ^ 53 ∧ -52 ≤ e ∧
      r * 2 ^ (e + 52).toNat ≤ c * 2 ^ (n.log2 - 52) * 2 ^ 52 := by
  have small : n.log2 < 64 := (Nat.log2_lt (Nat.ne_of_gt pos)).mpr size
  have digits : (n * 2 ^ (52 - n.log2)).log2 = 52 + (n.log2 - 52) := by
    rw [log2_mul_two_pow (Nat.ne_of_gt pos)]
    omega
  have normal : -1074 ≤ -((52 - n.log2 : Nat) : Int) + (n.log2 - 52 : Nat) := by omega
  have shifted : n * 2 ^ (52 - n.log2) ≤ c * 2 ^ (52 - n.log2) * 2 ^ (n.log2 - 52) := by
    rw [Nat.mul_right_comm c]
    exact Nat.mul_le_mul_right _ bounded
  obtain ⟨r, e, positive, unpacked, low, high, least, below⟩ :=
    unpack_pack_roundWithAccuracy digits normal (by omega) shifted (by omega)
  refine ⟨r, e, positive, ?_, low, high, by omega, ?_⟩
  · rw [toFloat_eq size pos, unpacked]
  · have shift : (e + 52).toNat =
        (e - (-((52 - n.log2 : Nat) : Int) + (n.log2 - 52 : Nat))).toNat +
          (n.log2 - 52 + 52 - (52 - n.log2)) := by omega
    have lifted := Nat.mul_le_mul_right (2 ^ (n.log2 - 52 + 52 - (52 - n.log2))) below
    rw [Nat.mul_assoc, ← Nat.pow_add, ← shift, Nat.mul_assoc, ← Nat.pow_add,
      show 52 - n.log2 + (n.log2 - 52 + 52 - (52 - n.log2)) = n.log2 - 52 + 52 by omega,
      Nat.pow_add] at lifted
    rwa [Nat.mul_assoc]

def greatestSignificand : Nat := 2 ^ 53 - 1

def greatestExponent : Nat := 971

def greatestDouble : Nat := greatestSignificand * 2 ^ greatestExponent

/-- Halfway from the greatest double to the power of two above it. -/
def roundingLimit : Nat := (2 * greatestSignificand + 1) * 2 ^ (greatestExponent - 1)

theorem exponents_lt {p low shift top : Nat} (leading : 2 ^ low ≤ p)
    (bounded : p * 2 ^ shift ≤ greatestSignificand * 2 ^ top) : low + shift < 53 + top := by
  have below : greatestSignificand * 2 ^ top < 2 ^ (53 + top) := by
    rw [Nat.pow_add]
    exact Nat.mul_lt_mul_of_pos_right (by decide) (Nat.two_pow_pos top)
  have lifted : 2 ^ (low + shift) ≤ p * 2 ^ shift := by
    rw [Nat.pow_add]
    exact Nat.mul_le_mul_right _ leading
  exact (Nat.pow_lt_pow_iff_right (by decide)).mp
    (Nat.lt_of_le_of_lt (Nat.le_trans lifted bounded) below)

theorem isInf_mul {x y : Float} {m n : Nat} {e f : Int} {posM : 0 < m} {posN : 0 < n}
    (left : x.toModel.unpack = .finite .positive m e posM)
    (right : y.toModel.unpack = .finite .positive n f posN)
    (lowM : 2 ^ 52 ≤ m) (lowN : 2 ^ 52 ≤ n) (leastM : -52 ≤ e) (leastN : -52 ≤ f)
    (bounded : m * n * 2 ^ (e + f + 104).toNat ≤ greatestSignificand * 2 ^ (1023 + 52)) :
    (x * y).isInf = false := by
  have product : (x * y).isInf =
      (Float.Model.pack
        (UnpackedFloat.mul Format.binary64 x.toModel.unpack y.toModel.unpack)).unpack.isInf := rfl
  have low : 2 ^ 104 ≤ m * n := Nat.le_trans (by decide) (Nat.mul_le_mul lowM lowN)
  have positive : m * n ≠ 0 := by omega
  obtain ⟨k, digits⟩ : ∃ k, (m * n).log2 = 52 + k := by
    have := (Nat.le_log2 positive).mpr low
    exact ⟨(m * n).log2 - 52, by omega⟩
  have enough : 52 ≤ k := by
    have := (Nat.le_log2 positive).mpr low
    omega
  have room : e + f + k ≤ 971 := by
    have leading : 2 ^ (52 + k) ≤ m * n := digits ▸ Nat.log2_self_le positive
    have := exponents_lt leading bounded
    omega
  -- Below the greatest exponent any significand fits, so only there the bound is used.
  have limited : ∃ limit, m * n ≤ limit * 2 ^ k ∧ (e + f + k = 971 → limit < 2 ^ 53) := by
    by_cases last : e + f + k = 971
    · refine ⟨greatestSignificand, ?_, fun _ => by decide⟩
      rw [show 1023 + 52 = k + (e + f + 104).toNat by omega, Nat.pow_add, ← Nat.mul_assoc]
        at bounded
      exact Nat.le_of_mul_le_mul_right bounded (Nat.two_pow_pos _)
    · exact ⟨m * n, Nat.le_mul_of_pos_right _ (Nat.two_pow_pos k), (absurd · last)⟩
  obtain ⟨limit, below, small⟩ := limited
  obtain ⟨r, e', pos, unpacked, -⟩ :=
    unpack_pack_roundWithAccuracy digits (by omega) room below small
  rw [product, left, right]
  show (Float.Model.pack (roundWithAccuracy Format.binary64 .positive (m * n) (e + f)
    .exact)).unpack.isInf = false
  rw [unpacked]
  rfl

end ModelRepositories.Double
