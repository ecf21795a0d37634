import StepExpr.Value.Basic

/-!
# Conversion of captured text

* `Kind.convert` reads text as a value of a kind;
* `convertTo` does so by the name of a kind, such as a hint gives.
-/

namespace StepExpr

def readBool? : String → Option Bool
  | "1" | "t" | "T" | "true" | "TRUE" | "True" => some true
  | "0" | "f" | "F" | "false" | "FALSE" | "False" => some false
  | _ => none

def floatErrorReason (text : List Char) : String :=
  if text.isEmpty then "cannot parse float from empty string" else "invalid float literal"

def Kind.convertText (kind : Kind) (text : String) : Except TransformError Value :=
  let chars := text.toList
  let failure := TransformError.parse text kind
  match kind with
  | .string => .ok (.string text)
  | .bool =>
    match readBool? text with
    | some b => .ok (.bool b)
    | none => .error (failure "invalid syntax")
  | .integer w =>
    match w.range.read chars with
    | .ok n => .ok (.integer w n)
    | .error e => .error (failure e.message)
  | .f32 =>
    match FloatFormat.single.read? chars with
    | some bits => .ok (.f32 bits)
    | none => .error (failure (floatErrorReason chars))
  | .f64 =>
    match FloatFormat.double.read? chars with
    | some bits => .ok (.f64 bits)
    | none => .error (failure (floatErrorReason chars))
  | .bigInteger =>
    match readUnbounded chars with
    | .ok n => .ok (.bigInteger n)
    | .error e => .error (failure e.message)
  | .bigDecimal =>
    match Decimal.read chars with
    | .ok d => .ok (.bigDecimal d)
    | .error e => .error (failure e.message)

/-- Text that was not captured is absent, whatever the kind. -/
def Kind.convert (kind : Kind) : Option String → Except TransformError Value
  | none => .ok .absent
  | some text => kind.convertText text

def convertTo (target : String) (text : Option String) : Except TransformError Value :=
  match Kind.named? target with
  | some kind => kind.convert text
  | none => .error (.unsupported (text.getD "") target)

end StepExpr
