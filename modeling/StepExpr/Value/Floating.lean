import StepExpr.Value.Integer

/-!
# Binary floating point

Floating-point numbers as bit patterns, read from decimal text with correct rounding: the nearest
number is taken, and of two equally near the one with the even significand.

* `FloatFormat.round` is the bit pattern nearest to a quotient of natural numbers;
* `FloatFormat.decode` says which number a bit pattern is.
-/

namespace StepExpr

/- Powers are those of the natural numbers and the integers themselves, whatever else is imported. -/
attribute [local instance (high)] instPowNat

/-- The width of the fraction and of the exponent; one bit more holds the sign. -/
structure FloatFormat where
  fractionBits : Nat
  exponentBits : Nat
  deriving DecidableEq, Repr

/-- What a bit pattern stands for. A finite number is `± significand * 2 ^ exponent`. -/
inductive FloatDatum where
  | finite (negative : Bool) (significand : Nat) (exponent : Int)
  | infinite (negative : Bool)
  | nan
  deriving DecidableEq, Repr

/-- The nearest integer to a quotient, the even one of two. -/
def roundQuotient (num den : Nat) : Nat :=
  let whole := num / den
  let twice := 2 * (num % den)
  if den < twice then whole + 1
  else if twice = den then whole + whole % 2
  else whole

namespace FloatFormat

def single : FloatFormat := ⟨23, 8⟩

def double : FloatFormat := ⟨52, 11⟩

/-- The exponent of the last place of the smallest numbers. -/
def leastExponent (f : FloatFormat) : Int := 2 - 2 ^ (f.exponentBits - 1) - f.fractionBits

def infinityBits (f : FloatFormat) : Nat := (2 ^ f.exponentBits - 1) * 2 ^ f.fractionBits

def nanBits (f : FloatFormat) : Nat := f.infinityBits + 2 ^ (f.fractionBits - 1)

def withSign (f : FloatFormat) (negative : Bool) (bits : Nat) : Nat :=
  if negative then bits + 2 ^ (f.exponentBits + f.fractionBits) else bits

/-- The exponent of the last place of the numbers around a quotient. -/
def placeExponent (f : FloatFormat) (num den : Nat) : Int :=
  let estimate : Int := (num.log2 : Int) - den.log2
  let reached :=
    if 0 ≤ estimate then den * 2 ^ estimate.toNat ≤ num else den ≤ num * 2 ^ (-estimate).toNat
  let top := if reached then estimate else estimate - 1
  max (top - f.fractionBits) f.leastExponent

/-- The bits of the nearest number to a quotient, without a sign. A significand that rounds up to
the next power of two carries into the exponent. -/
def round (f : FloatFormat) (num den : Nat) : Nat :=
  if num = 0 then 0
  else
    let exponent := f.placeExponent num den
    let significand :=
      if 0 ≤ exponent then roundQuotient num (den * 2 ^ exponent.toNat)
      else roundQuotient (num * 2 ^ (-exponent).toNat) den
    let bits := (exponent - f.leastExponent).toNat * 2 ^ f.fractionBits + significand
    min bits f.infinityBits

def decode (f : FloatFormat) (bits : Nat) : FloatDatum :=
  let fraction := bits % 2 ^ f.fractionBits
  let biased := bits / 2 ^ f.fractionBits % 2 ^ f.exponentBits
  let negative := bits / 2 ^ (f.exponentBits + f.fractionBits) % 2 = 1
  if biased = 2 ^ f.exponentBits - 1 then
    if fraction = 0 then .infinite negative else .nan
  else if biased = 0 then .finite negative fraction f.leastExponent
  else .finite negative (2 ^ f.fractionBits + fraction) (f.leastExponent + (biased - 1 : Nat))

/-- The bits of the nearest number to a datum of any format. -/
def encode (f : FloatFormat) : FloatDatum → Nat
  | .nan => f.nanBits
  | .infinite negative => f.withSign negative f.infinityBits
  | .finite negative significand exponent =>
    f.withSign negative <|
      if 0 ≤ exponent then f.round (significand * 2 ^ exponent.toNat) 1
      else f.round significand (2 ^ (-exponent).toNat)

/-! ## Decimal text -/

/-- No number of a format in use has more digits before the point, or as many zeros behind it. -/
def decimalReach : Int := 400

/-- The bits of the nearest number to `digits * 10 ^ exponent`, without a sign. -/
def ofScientific (f : FloatFormat) (digits : Nat) (exponent : Int) : Nat :=
  let length : Int := (Nat.toDigits 10 digits).length
  if digits = 0 ∨ exponent + length < -decimalReach then 0
  else if decimalReach < exponent + length then f.infinityBits
  else if 0 ≤ exponent then f.round (digits * 10 ^ exponent.toNat) 1
  else f.round digits (10 ^ (-exponent).toNat)

/-- Digits with an optional point among them, and the rest of the text: all digits in a row, and
how many stand behind the point. -/
def readMantissa (text : List Char) : Option (List Char × Nat × List Char) :=
  let (lead, rest) := text.span Char.isDigit
  let (trail, rest) := match rest with
    | '.' :: rest => rest.span Char.isDigit
    | _ => ([], rest)
  if lead.isEmpty && trail.isEmpty then none else some (lead ++ trail, trail.length, rest)

/-- An exponent up to the end of the text, or nothing. -/
def readExponent (text : List Char) : Option Int :=
  let digits := fun (ds : List Char) =>
    if ds.isEmpty || !ds.all Char.isDigit then none else some (ofDigits ds)
  match text with
  | [] => some 0
  | e :: rest =>
    if e = 'e' ∨ e = 'E' then
      match rest with
      | '-' :: ds => (digits ds).map fun n => -(n : Int)
      | '+' :: ds => (digits ds).map Int.ofNat
      | ds => (digits ds).map Int.ofNat
    else none

/-- The bits of an unsigned number. Infinities and NaN are words, in any case. -/
def readUnsigned (f : FloatFormat) (text : List Char) : Option Nat :=
  let word := text.map Char.toLower
  if word = ['i', 'n', 'f'] ∨ word = ['i', 'n', 'f', 'i', 'n', 'i', 't', 'y'] then
    some f.infinityBits
  else if word = ['n', 'a', 'n'] then some f.nanBits
  else do
    let (digits, places, rest) ← readMantissa text
    let exponent ← readExponent rest
    some (f.ofScientific (ofDigits digits) (exponent - places))

/-- The bits of the number that a text denotes. -/
def read? (f : FloatFormat) : List Char → Option Nat
  | '-' :: rest => (f.readUnsigned rest).map (f.withSign true)
  | '+' :: rest => f.readUnsigned rest
  | text => f.readUnsigned text

/-- Equality of the numbers: a NaN equals nothing, and the zeros are equal. -/
def same (f : FloatFormat) (a b : Nat) : Bool :=
  match f.decode a, f.decode b with
  | .nan, _ => false
  | _, .nan => false
  | .finite _ 0 _, .finite _ 0 _ => true
  | _, _ => a = b

end FloatFormat

end StepExpr
