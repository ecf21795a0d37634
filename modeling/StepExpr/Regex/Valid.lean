import StepExpr.Regex.Meaning
import StepExpr.Regex.Size

/-!
# Valid patterns

A text is a valid pattern if it is well-formed, has a meaning and stays within the limit of size.
-/

namespace StepExpr

/-- The expression that a valid pattern denotes. -/
def Regex.ofText? (text : List Char) : Option Regex :=
  (Pattern.parse? text).bind fun p => p.regex?.filter Regex.isWithinLimit

end StepExpr
