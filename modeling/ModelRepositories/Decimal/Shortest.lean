/-!
The shortest decimal that reads back as a given binary fraction. Every real in an interval around
the fraction rounds to it; the decimals with few digits form coarse grids, and the first grid with a
point in the interval gives the digits. Of two such points the nearer one is taken, of two equally
near ones the even one.
-/

namespace ModelRepositories

structure Decimal where
  digits : Nat
  exponent : Int
  deriving DecidableEq, Repr

structure Dyadic where
  significand : Nat
  exponent : Int
  deriving DecidableEq, Repr

def leastNormal : Nat := 0x10000000000000

def Dyadic.ofBits (bits : Nat) : Dyadic :=
  let fraction := bits % leastNormal
  let biased : Nat := bits / leastNormal % 2048
  if biased = 0 then ⟨fraction, -1074⟩ else ⟨leastNormal + fraction, (biased : Int) - 1075⟩

/-- A value and the ends of the interval that rounds to it, as numerators of one denominator. -/
structure Rounding where
  low : Nat
  value : Nat
  high : Nat
  denominator : Nat
  closed : Bool

/--
Halfway to the neighbours; the lower neighbour of a power of two is half as far away as the upper
one. The ends round to an even significand.
-/
def Dyadic.rounding (d : Dyadic) : Rounding :=
  let gap := if d.significand = leastNormal ∧ -1074 < d.exponent then 1 else 2
  let scale := Nat.pow 2 (d.exponent - 2).toNat
  { low := (4 * d.significand - gap) * scale
    value := 4 * d.significand * scale
    high := (4 * d.significand + 2) * scale
    denominator := Nat.pow 2 (2 - d.exponent).toNat
    closed := d.significand % 2 == 0 }

def Rounding.inUnits (r : Rounding) (exponent : Int) : Rounding :=
  let up := Nat.pow 10 (-exponent).toNat
  { r with
    low := r.low * up
    value := r.value * up
    high := r.high * up
    denominator := r.denominator * Nat.pow 10 exponent.toNat }

def Rounding.holds (r : Rounding) (n : Nat) : Bool :=
  let point := n * r.denominator
  if r.closed then decide (r.low ≤ point) && decide (point ≤ r.high)
  else decide (r.low < point) && decide (point < r.high)

def Rounding.nearest? (r : Rounding) : Option Nat :=
  let floor := r.value / r.denominator
  let below := r.value - floor * r.denominator
  let above := (floor + 1) * r.denominator - r.value
  match r.holds floor, r.holds (floor + 1) with
  | true, true =>
    if below < above ∨ (below = above ∧ floor % 2 = 0) then some floor else some (floor + 1)
  | true, false => some floor
  | false, true => some (floor + 1)
  | false, false => none

/-- The exponent of the leading digit; `10 ^ 340` lifts every positive double above one. -/
def Rounding.magnitude (r : Rounding) : Int :=
  ((Nat.toDigits 10 (r.value * Nat.pow 10 340 / r.denominator)).length : Int) - 341

/-- Seventeen digits tell every two doubles apart, so the search always finds a grid. -/
def Dyadic.shortest (d : Dyadic) : Decimal :=
  let r := d.rounding
  let lead := r.magnitude
  let found := (List.range 17).findSome? fun more : Nat =>
    (r.inUnits (lead - more)).nearest?.map fun digits => Decimal.mk digits (lead - more)
  found.getD ⟨0, 0⟩

end ModelRepositories
