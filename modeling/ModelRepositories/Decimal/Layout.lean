import ModelRepositories.Decimal.Shortest

/-!
How a decimal is laid out as text: in full while its leading digit stands in a given range of
exponents, with an exponent outside of it. A number in full keeps at least one digit after the
point.
-/

namespace ModelRepositories

structure Decimal.Layout where
  plainFrom : Int
  plainBelow : Int

/-- The digits without the zeros at their end, and the exponent of the first of them. -/
def Decimal.leading (d : Decimal) : List Char × Int :=
  let all := Nat.toDigits 10 d.digits
  ((all.reverse.dropWhile (· == '0')).reverse, d.exponent + all.length - 1)

def Decimal.Layout.plain (digits : List Char) (lead : Int) : List Char :=
  if lead < 0 then
    '0' :: '.' :: List.replicate (-lead - 1).toNat '0' ++ digits
  else
    let size := lead.toNat + 1
    let whole := digits.take size
    let fraction := digits.drop size
    whole ++ List.replicate (size - whole.length) '0' ++ '.' ::
      (if fraction.isEmpty then ['0'] else fraction)

def Decimal.Layout.scientific (digits : List Char) (lead : Int) : List Char :=
  let fraction := digits.drop 1
  digits.take 1 ++ (if fraction.isEmpty then [] else '.' :: fraction) ++
    'e' :: (if lead < 0 then '-' else '+') :: Nat.toDigits 10 lead.natAbs

def Decimal.Layout.text (layout : Decimal.Layout) (d : Decimal) : List Char :=
  if d.digits = 0 then ['0', '.', '0']
  else
    let (digits, lead) := d.leading
    if layout.plainFrom ≤ lead ∧ lead < layout.plainBelow then plain digits lead
    else scientific digits lead

def Decimal.Layout.floatText (layout : Decimal.Layout) (x : Float) : String :=
  let bits := x.toBits.toNat
  let d := Dyadic.ofBits bits
  let magnitude := layout.text (if d.significand = 0 then ⟨0, 0⟩ else d.shortest)
  String.ofList (if 0x8000000000000000 ≤ bits then '-' :: magnitude else magnitude)

end ModelRepositories
