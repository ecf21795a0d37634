import StepExpr.Parameter.Type

/-!
# The parameter types that are always there
-/

namespace StepExpr.Builtin

def integerRegexps : List String := ["-?\\d+", "\\d+"]

def floatRegexp : String := "[-+]?\\d*\\.?\\d+"

def wordRegexp : String := "[^\\s]+"

def stringRegexp : String :=
  "\"([^\"\\\\]*(\\\\.[^\"\\\\]*)*)\"|'([^'\\\\]*(\\\\.[^'\\\\]*)*)'"

def anonymousRegexp : String := ".*"

def integer : ParameterType :=
  ⟨"int", integerRegexps, some "i32", .kind (.integer .i32), true, true, false⟩

def bigInteger : ParameterType :=
  ⟨"biginteger", integerRegexps, some "BigInt", .kind .bigInteger, false, false, false⟩

def float : ParameterType :=
  ⟨"float", [floatRegexp], some "f32", .kind .f32, true, false, false⟩

def double : ParameterType :=
  ⟨"double", [floatRegexp], some "f64", .kind .f64, false, false, false⟩

def byte : ParameterType :=
  ⟨"byte", [floatRegexp], some "i8", .kind (.integer .i8), false, false, false⟩

def short : ParameterType :=
  ⟨"short", [floatRegexp], some "i16", .kind (.integer .i16), false, false, false⟩

/-- Reads 64 bits, although its values are declared as integers of 32. -/
def long : ParameterType :=
  ⟨"long", [floatRegexp], some "i32", .kind (.integer .i64), false, false, false⟩

def bigDecimal : ParameterType :=
  ⟨"bigdecimal", [floatRegexp], some "BigDecimal", .kind .bigDecimal, false, false, false⟩

def word : ParameterType :=
  ⟨"word", [wordRegexp], some "String", .kind .string, false, false, false⟩

def string : ParameterType :=
  ⟨"string", [stringRegexp], some "String", .quoted, true, false, false⟩

def types : List ParameterType :=
  [integer, bigInteger, float, double, byte, short, long, bigDecimal, word, string,
    .unnamed anonymousRegexp]

end StepExpr.Builtin
