import StepExpr.Text.Quoted
import StepExpr.Value.Decimal
import StepExpr.Value.Kind
import StepExpr.Value.Shortest

/-!
# Values

What captured text is converted to, and the errors of conversion.
-/

namespace StepExpr

/-- The captures of one parameter; `none` stands for a group that took no part in the match. -/
abbrev Captured := List (Option String)

inductive Value where
  /-- What a parameter has for a value when no group of it took part in the match. -/
  | absent
  | string (text : String)
  | bool (b : Bool)
  | integer (w : IntWidth) (n : Int)
  | f32 (bits : Nat)
  | f64 (bits : Nat)
  | bigInteger (n : Int)
  | bigDecimal (d : Decimal)
  /-- A value of the application's own, with the captures it was made from. Its identity is what
  equality goes by. -/
  | custom (identity : Nat) (captures : Captured)
  deriving DecidableEq, Repr

namespace Value

/-- Equality of values of one kind: by number for numbers, by identity for custom values. -/
def same : Value → Value → Bool
  | absent, absent => true
  | string a, string b => a = b
  | bool a, bool b => a = b
  | integer v a, integer w b => v = w && a = b
  | f32 a, f32 b => FloatFormat.single.same a b
  | f64 a, f64 b => FloatFormat.double.same a b
  | bigInteger a, bigInteger b => a = b
  | bigDecimal a, bigDecimal b => a.same b
  | custom a _, custom b _ => a = b
  | _, _ => false

def text? : Value → Option String
  | string text => some text
  | _ => none

/-- A bounded integer that has 64 bits or fewer with its sign. -/
def int64? : Value → Option Int
  | integer _ n => if n ≤ (IntRange.signed 64).greatest then some n else none
  | _ => none

/-- The bits of a floating-point number at double precision. -/
def double? : Value → Option Nat
  | f32 bits => some (FloatFormat.double.encode (FloatFormat.single.decode bits))
  | f64 bits => some bits
  | _ => none

def isAbsent : Value → Bool
  | absent => true
  | _ => false

def described (label content : String) : String := label ++ "(" ++ content ++ ")"

/-- The text of a decimal number shows its magnitude in words of 64 bits, the lowest first. -/
def decimalWords : Nat → Nat → List Nat
  | 0, _ => []
  | fuel + 1, n => if n = 0 then [] else n % 2 ^ 64 :: decimalWords fuel (n / 2 ^ 64)

def decimalText (d : Decimal) : String :=
  let sign := if d.digits = 0 then "NoSign" else if d.digits < 0 then "Minus" else "Plus"
  let words := (decimalWords (d.digits.natAbs.log2 + 1) d.digits.natAbs).map toString
  "BigDecimal(sign=" ++ sign ++ ", scale=" ++ toString d.scale ++
    ", digits=[" ++ String.intercalate ", " words ++ "])"

/-- The text of a value, headed by the word for its kind. -/
def describe : Value → String
  | absent => "Absent"
  | string text => described "String" (quote text)
  | bool b => described "Bool" (if b then "true" else "false")
  | integer w n => described w.label (toString n)
  | f32 bits => described "F32" (FloatFormat.single.text bits)
  | f64 bits => described "F64" (FloatFormat.double.text bits)
  | bigInteger n => described "BigInteger" (toString n)
  | bigDecimal d => described "BigDecimal" (decimalText d)
  | custom _ _ => "Custom(..)"

end Value

inductive TransformError where
  | parse (text : String) (kind : Kind) (reason : String)
  | unsupported (text target : String)
  | missingCapture (expected actual : Nat)
  | custom (message : String)
  deriving DecidableEq, Repr

def TransformError.message : TransformError → String
  | parse text kind reason =>
    "Can't transform '" ++ text ++ "' to " ++ kind.name ++ ": " ++ reason
  | unsupported text target =>
    "Can't transform '" ++ text ++ "' to " ++ target ++
      ". BuiltInParameterTransformer only supports a limited number of types. Consider using a " ++
      "different object mapper or register a parameter type for " ++ target
  | missingCapture expected actual =>
    "Expected at least " ++ toString expected ++ " capture(s) but received " ++ toString actual
  | custom message => message

end StepExpr
