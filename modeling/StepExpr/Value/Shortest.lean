import StepExpr.Value.Floating

/-!
# Shortest decimal text of a floating-point number

The text has the fewest digits that read back as the number and, of those, the nearest to it.
-/

namespace StepExpr

/- Powers are those of the natural numbers and the integers themselves, whatever else is imported. -/
attribute [local instance (high)] instPowNat

/-- The number `digits * 10 ^ exponent`. -/
structure Scientific where
  digits : Nat
  exponent : Int
  deriving DecidableEq, Repr

/-- The exponent `k` with `10 ^ (k - 1) ≤ num / den < 10 ^ k`. -/
def decimalExponent (num den : Nat) : Int :=
  if den ≤ num then ((Nat.toDigits 10 (num / den)).length : Int)
  else 1 - ((Nat.toDigits 10 ((den - 1) / num)).length : Int)

/-- The numbers that round to `value`, as numerators over one denominator. -/
structure RoundingInterval where
  low : Nat
  value : Nat
  high : Nat
  den : Nat
  endsIncluded : Bool

namespace RoundingInterval

/-- The interval around `significand * 2 ^ exponent`. Below a power of two the numbers lie twice as
dense. -/
def around (f : FloatFormat) (significand : Nat) (exponent : Int) : RoundingInterval :=
  let isPower := significand = 2 ^ f.fractionBits ∧ f.leastExponent < exponent
  let low := if isPower then 4 * significand - 1 else 4 * significand - 2
  let high := 4 * significand + 2
  let even := significand % 2 = 0
  if 2 ≤ exponent then
    let scale := 2 ^ (exponent - 2).toNat
    ⟨low * scale, 4 * significand * scale, high * scale, 1, even⟩
  else ⟨low, 4 * significand, high, 2 ^ (2 - exponent).toNat, even⟩

/-- Whether `s` lies in the interval. -/
def contains (i : RoundingInterval) (s : Scientific) : Bool :=
  let (point, low, high) :=
    if 0 ≤ s.exponent then (s.digits * 10 ^ s.exponent.toNat * i.den, i.low, i.high)
    else
      let scale := 10 ^ (-s.exponent).toNat
      (s.digits * i.den, i.low * scale, i.high * scale)
  if i.endsIncluded then low ≤ point && point ≤ high else low < point && point < high

/-- The value divided by `10 ^ exponent`, as a quotient. -/
def scaled (i : RoundingInterval) (exponent : Int) : Nat × Nat :=
  if 0 ≤ exponent then (i.value, i.den * 10 ^ exponent.toNat)
  else (i.value * 10 ^ (-exponent).toNat, i.den)

/-- The multiple of `10 ^ exponent` next to the value that lies in the interval; the nearer of two,
and the greater of two equally near. -/
def nearestOnGrid (i : RoundingInterval) (exponent : Int) : Option Scientific :=
  let (num, den) := i.scaled exponent
  let below : Scientific := ⟨num / den, exponent⟩
  let above : Scientific := ⟨num / den + 1, exponent⟩
  let nearer := if 2 * (num % den) < den then [below, above] else [above, below]
  nearer.find? i.contains

/-- Searches grids from the coarsest on. -/
def shortestFrom (i : RoundingInterval) (top : Int) : Nat → Nat → Option Scientific
  | 0, _ => none
  | fuel + 1, length =>
    match i.nearestOnGrid (top - length) with
    | some s => some s
    | none => shortestFrom i top fuel (length + 1)

end RoundingInterval

/-- Moves trailing zeros into the exponent. -/
def Scientific.stripZeros : Nat → Scientific → Scientific
  | 0, s => s
  | fuel + 1, s =>
    if s.digits % 10 = 0 then stripZeros fuel ⟨s.digits / 10, s.exponent + 1⟩ else s

/-- The shortest decimal that reads back as `significand * 2 ^ exponent`, which is not zero. -/
def shortest (f : FloatFormat) (significand : Nat) (exponent : Int) : Scientific :=
  let i := RoundingInterval.around f significand exponent
  match i.shortestFrom (decimalExponent i.value i.den) 17 1 with
  | some s => s.stripZeros 20
  | none => ⟨0, 0⟩

/-- Positional from `10 ^ -4` up to `10 ^ 16`, with a digit on either side of the point; otherwise
one digit before the point and an exponent behind `e`. -/
def Scientific.text (s : Scientific) : String :=
  let digits := Nat.toDigits 10 s.digits
  let point : Int := digits.length + s.exponent
  let zeros := fun (n : Int) => List.replicate n.toNat '0'
  if 16 < point ∨ point ≤ -4 then
    let lead := digits.take 1
    let trail := digits.drop 1
    let mantissa := if trail.isEmpty then lead else lead ++ '.' :: trail
    String.ofList mantissa ++ "e" ++ toString (point - 1)
  else if point ≤ 0 then String.ofList ('0' :: '.' :: zeros (-point) ++ digits)
  else if digits.length ≤ point.toNat then
    String.ofList (digits ++ zeros (point - digits.length) ++ ['.', '0'])
  else String.ofList (digits.take point.toNat ++ '.' :: digits.drop point.toNat)

/-- The text of a bit pattern. -/
def FloatFormat.text (f : FloatFormat) (bits : Nat) : String :=
  match f.decode bits with
  | .nan => "NaN"
  | .infinite negative => if negative then "-inf" else "inf"
  | .finite negative significand exponent =>
    let magnitude := if significand = 0 then "0.0" else (shortest f significand exponent).text
    if negative then "-" ++ magnitude else magnitude

end StepExpr
