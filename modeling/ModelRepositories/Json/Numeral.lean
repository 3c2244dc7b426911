import ModelRepositories.Json.Scan

/-!
Numbers of a JSON text. A numeral is read as its digits and valued afterwards: what is written
without point and exponent and fits 64 bits is a whole number. Any other becomes a double, the
leading digits that fit 64 bits, times or divided by a power of ten. That is not always the double
nearest to the decimal, because further digits are dropped and both steps round.
-/

namespace ModelRepositories.Json

structure Numeral where
  negative : Bool
  whole : List Char
  fraction : List Char
  exponent : Option (Bool × List Char)

def isDigit (c : Char) : Bool :=
  decide ('0' ≤ c) && decide (c ≤ '9')

def digitValue (c : Char) : Nat :=
  c.toNat - '0'.toNat

/-- A numeral that is cut off is an unfinished value where it is kept, else a malformed number. -/
def Care.numberEnd : Care → Fault
  | .keep => .endInValue
  | .skip => .malformedNumber

def readDigits (care : Care) : Reader (List Char)
  | [] => stopAt care.numberEnd []
  | c :: rest =>
    if isDigit c then .ok (c :: rest.takeWhile isDigit, rest.dropWhile isDigit)
    else stopAt .malformedNumber (c :: rest)

def readWhole (care : Care) (text : List Char) : Except Stop (List Char × List Char) :=
  match text with
  | '0' :: c :: rest =>
    if isDigit c then stopAt .malformedNumber (c :: rest) else .ok (['0'], c :: rest)
  | _ => readDigits care text

def readFraction (care : Care) : Reader (List Char)
  | '.' :: rest => readDigits care rest
  | rest => .ok ([], rest)

def readExponent (care : Care) : Reader (Option (Bool × List Char))
  | c :: rest =>
    if c = 'e' ∨ c = 'E' then do
      let (negative, rest) := match rest with
        | '+' :: rest => (false, rest)
        | '-' :: rest => (true, rest)
        | _ => (false, rest)
      let (digits, rest) ← readDigits care rest
      return (some (negative, digits), rest)
    else .ok (none, c :: rest)
  | [] => .ok (none, [])

def readNumeral (care : Care) (text : List Char) : Except Stop (Numeral × List Char) := do
  let (negative, rest) := match text with
    | '-' :: rest => (true, rest)
    | _ => (false, text)
  let (whole, rest) ← readWhole care rest
  let (fraction, rest) ← readFraction care rest
  let (exponent, rest) ← readExponent care rest
  return (⟨negative, whole, fraction, exponent⟩, rest)

/-- Appends digits to a number while it stays within the limit; the second part is left over. -/
def appendWithin (limit n : Nat) : List Char → Nat × List Char
  | [] => (n, [])
  | d :: digits =>
    if 10 * n + digitValue d ≤ limit then appendWithin limit (10 * n + digitValue d) digits
    else (n, d :: digits)

def maxSignificand : Nat := 0xFFFFFFFFFFFFFFFF

def maxExponent : Nat := 0x7FFFFFFF

def powerOfTen (n : Nat) : Float :=
  Float.ofScientific 1 false n

/--
`none` where the result is beyond the doubles. Powers of ten up to 308 are doubles; dividing by the
greatest of them twice leaves nothing of a 64-bit significand.
-/
def scale (significand : Nat) (exponent : Int) : Option Float :=
  let x := (UInt64.ofNat significand).toFloat
  if 308 < exponent then
    if significand = 0 then some x else none
  else if 0 ≤ exponent then
    let y := x * powerOfTen exponent.toNat
    if y.isInf then none else some y
  else if -308 ≤ exponent then
    some (x / powerOfTen (-exponent).toNat)
  else if -616 ≤ exponent then
    some (x / powerOfTen 308 / powerOfTen (-exponent - 308).toNat)
  else
    some (x / powerOfTen 308 / powerOfTen 308)

def signed (negative : Bool) (x : Float) : Float :=
  if negative then -x else x

/-- Zero and what lies below the 64-bit range have no negative whole number. -/
def wholeNumber (negative : Bool) (n : Nat) : Value :=
  if !negative then .int n
  else if 0 < n ∧ n ≤ 0x8000000000000000 then .int (-n)
  else .float (-(UInt64.ofNat n).toFloat)

def Numeral.value (numeral : Numeral) (rest : List Char) : Except Stop Value :=
  let (n, wholeLeft) := appendWithin maxSignificand 0 numeral.whole
  let (significand, fractionLeft) := appendWithin maxSignificand n numeral.fraction
  let shift : Int := wholeLeft.length - (numeral.fraction.length - fractionLeft.length)
  let double (shift : Int) : Except Stop Value :=
    match scale significand shift with
    | some x => .ok (.float (signed numeral.negative x))
    | none => stopBefore .numberOutOfRange rest
  match numeral.exponent with
  | none =>
    if numeral.fraction.isEmpty && wholeLeft.isEmpty then .ok (wholeNumber numeral.negative n)
    else double shift
  | some (negative, digits) =>
    match appendWithin maxExponent 0 digits with
    | (e, []) => double (if negative then shift - e else shift + e)
    | (_, _ :: unread) =>
      if significand ≠ 0 ∧ !negative then stopBefore .numberOutOfRange (unread ++ rest)
      else .ok (.float (signed numeral.negative 0))

end ModelRepositories.Json
