import StepExpr.Value.Integer

/-!
# Decimal numbers

A decimal number is an unscaled integer and a scale, kept as written: `1.50` and `1.5` are equal
numbers, but not equal as data.
-/

namespace StepExpr

/-- The number `digits * 10 ^ (-scale)`. -/
structure Decimal where
  digits : Int
  scale : Int
  deriving DecidableEq, Repr

/-- Why a text is no decimal number. -/
inductive DecimalError where
  | empty
  | integer (e : IntegerError)
  | exponentOverflow (text : String)
  deriving DecidableEq, Repr

def DecimalError.message : DecimalError → String
  | empty => "Failed to parse empty string"
  | integer e => e.message
  | exponentOverflow text => "Exponent overflow when parsing '" ++ text ++ "'"

namespace Decimal

def exponentRange : IntRange := .signed 128

def scaleRange : IntRange := .signed 64

/-- The digits of a number without its exponent, the point left out, and how many stand behind the
point. -/
def splitPoint (base : List Char) : List Char × Nat :=
  match base.span (· != '.') with
  | (lead, '.' :: trail) => (lead ++ trail, (trail.filter (· != '_')).length)
  | _ => (base, 0)

/-- Reads a number with an optional point and an optional exponent behind `e` or `E`. -/
def read (text : List Char) : Except DecimalError Decimal := do
  let (base, exponentText) := text.span fun c => c != 'e' && c != 'E'
  let exponent ← match exponentText with
    | [] => pure 0
    | _ :: exponent => (exponentRange.read exponent).mapError .integer
  if base.isEmpty then throw .empty
  let (digits, places) := splitPoint base
  let scale := (places : Int) - exponent
  if scale < scaleRange.least ∨ scaleRange.greatest < scale then
    throw (.exponentOverflow (String.ofList text))
  let digits ← (readUnbounded digits).mapError .integer
  pure ⟨digits, scale⟩

/-- Moves trailing zeros of a number other than zero into its scale. -/
def stripZeros : Nat → Decimal → Decimal
  | 0, d => d
  | fuel + 1, d => if d.digits % 10 = 0 then stripZeros fuel ⟨d.digits / 10, d.scale - 1⟩ else d

/-- The same number with its digits as short as they can be. -/
def normal (d : Decimal) : Decimal :=
  if d.digits = 0 then ⟨0, 0⟩ else stripZeros (d.digits.natAbs.log2 + 1) d

/-- Equality of the numbers. -/
def same (a b : Decimal) : Bool := a.normal = b.normal

end Decimal

end StepExpr
