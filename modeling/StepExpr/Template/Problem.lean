import StepExpr.Template.Token

/-!
# Problems of a template

What can be wrong with a template, where, and the message that points there.
-/

namespace StepExpr.Template

inductive Fault where
  | cantEscape
  | nothingToEscape
  | missingEnd (opener closer : TokenKind)
  | alternationInOptional
  | reservedInName
  | emptyAlternative
  | onlyOptionalsInAlternative
  | emptyOptional
  | parameterInOptional
  | optionalInOptional
  deriving DecidableEq, Repr

namespace Fault

/-- The word that answers use for a fault. -/
def name : Fault → String
  | cantEscape => "CantEscape"
  | nothingToEscape => "TheEndOfLineCannotBeEscaped"
  | missingEnd _ _ => "MissingEndToken"
  | alternationInOptional => "AlternationNotAllowedInOptional"
  | reservedInName => "InvalidParameterTypeName"
  | emptyAlternative => "AlternativeMayNotBeEmpty"
  | onlyOptionalsInAlternative => "AlternativeMayNotExclusivelyContainOptionals"
  | emptyOptional => "OptionalMayNotBeEmpty"
  | parameterInOptional => "ParameterIsNotAllowedInOptional"
  | optionalInOptional => "OptionalIsNotAllowedInOptional"

def description : Fault → String
  | cantEscape =>
    "Only the characters '\x7b', '\x7d', '(', ')', '\\', '/' and whitespace can be escaped"
  | nothingToEscape => "The end of line can not be escaped"
  | missingEnd opener closer =>
    "The '" ++ opener.symbol ++ "' does not have a matching '" ++ closer.symbol ++ "'"
  | alternationInOptional => "An alternation can not be used inside an optional"
  | reservedInName =>
    "Parameter names may not contain '\x7b', '\x7d', '(', ')', '\\' or '/'"
  | emptyAlternative => "Alternative may not be empty"
  | onlyOptionalsInAlternative => "An alternative may not exclusively contain optionals"
  | emptyOptional => "An optional must contain some text"
  | parameterInOptional => "An optional may not contain a parameter type"
  | optionalInOptional => "An optional may not contain an other optional"

def solution : Fault → String
  | cantEscape => "If you did mean to use an '\\' you can use '\\\\' to escape it"
  | nothingToEscape => "You can use '\\\\' to escape the '\\'"
  | missingEnd opener _ =>
    "If you did not intend to use " ++ opener.purpose ++ " you can use '\\" ++ opener.symbol ++
      "' to escape the " ++ opener.purpose
  | alternationInOptional =>
    "If you did not mean to use an alternation you can use '\\/' to escape the '/'. " ++
      "Otherwise rephrase your expression or consider using a regular expression instead."
  | reservedInName => "Did you mean to use a regular expression?"
  | emptyAlternative =>
    "If you did not mean to use an alternative you can use '\\/' to escape the '/'"
  | onlyOptionalsInAlternative | emptyOptional =>
    "If you did not mean to use an optional you can use '\\(' to escape the '('"
  | parameterInOptional =>
    "If you did not mean to use an parameter type you can use '\\\x7b' to escape the '\x7b'"
  | optionalInOptional =>
    "If you did not mean to use an optional type you can use '\\(' to escape the '('. " ++
      "For more complicated expressions consider using a regular expression instead."

end Fault

/-- A fault and the part of the template that has it. -/
structure Problem where
  fault : Fault
  span : Span
  deriving DecidableEq, Repr

def EscapeError.problem : EscapeError → Problem
  | cantEscape pos => ⟨.cantEscape, ⟨pos, pos⟩⟩
  | nothingToEscape pos => ⟨.nothingToEscape, ⟨pos, pos⟩⟩

/-- A line that marks the first and the last character of a span with carets. -/
def pointer (span : Span) : String :=
  let lead := List.replicate span.start ' ' ++ ['^']
  let tail :=
    if span.start + 1 < span.stop then List.replicate (span.stop - span.start - 2) '-' ++ ['^']
    else []
  String.ofList (lead ++ tail)

/-- The template with what is wrong in it and what to do about it. -/
def pointedMessage (source : String) (span : Span) (description solution : String) : String :=
  "This Cucumber Expression has a problem at column " ++ toString (span.start + 1) ++ ":\n\n" ++
    source ++ "\n" ++ pointer span ++ "\n" ++ description ++ ".\n" ++ solution

def Problem.message (p : Problem) (source : String) : String :=
  pointedMessage source p.span p.fault.description p.fault.solution

end StepExpr.Template
