import StepExpr.Template.Problem

/-!
# Errors

What can go wrong while parameter types are defined and expressions are made and matched.
-/

namespace StepExpr

inductive Error where
  | template (problem : Template.Problem) (source : String)
  | undefinedType (name source : String) (span : Template.Span)
  | ambiguousType (regexp expression : String) (names suggestions : List String)
  | duplicateName (name : String)
  | duplicateAnonymous
  | preferenceConflict (regexp existing added : String)
  | illegalName (name : String)
  | missingRegexps (name : String)
  | groupCount (groups types : Nat)
  | invalidPattern
  deriving DecidableEq, Repr

def inBraces (name : String) : String := "\x7b" ++ name ++ "\x7d"

/-- The text of an error. What the engine has to say about a pattern that it refuses is left out. -/
def Error.message : Error → String
  | template problem source => problem.message source
  | undefinedType name source span =>
    Template.pointedMessage source span ("Undefined parameter type '" ++ name ++ "'")
      ("Please register a ParameterType for '" ++ name ++ "'")
  | ambiguousType regexp expression names suggestions =>
    "Your Regular Expression /" ++ expression ++
      "/\nmatches multiple parameter types with regexp /" ++ regexp ++ "/:\n   " ++
      String.intercalate "\n   " (names.map inBraces) ++
      "\n\nI couldn't decide which one to use. You have two options:\n\n" ++
      "1) Use a Cucumber Expression instead of a Regular Expression. Try one of these:\n   " ++
      String.intercalate "\n   " suggestions ++
      "\n\n2) Make one of the parameter types preferential and continue to use a " ++
      "Regular Expression."
  | duplicateName name => "There is already a parameter type with name " ++ name
  | duplicateAnonymous => "The anonymous parameter type has already been defined"
  | preferenceConflict regexp existing added =>
    "There can only be one preferential parameter type per regexp. The regexp /" ++ regexp ++
      "/ is used for two preferential parameter types, " ++ inBraces existing ++ " and " ++
      inBraces added
  | illegalName name =>
    "Illegal character in parameter name " ++ inBraces name ++
      ". Parameter names may not contain '\x7b', '\x7d', '(', ')', '\\' or '/'"
  | missingRegexps name => "Parameter type " ++ inBraces name ++ " must have at least one regexp"
  | groupCount groups types =>
    "Group has " ++ toString groups ++ " capture groups, but there were " ++ toString types ++
      " parameter types"
  | invalidPattern => ""

end StepExpr
