import StepExpr.Error
import StepExpr.Parameter.Transformer
import StepExpr.Regex.Valid

/-!
# Parameter types

A parameter type binds a name to the regular expressions of its texts and to the transformer of
their captures.
-/

namespace StepExpr

structure ParameterType where
  /-- What stands between the braces of a parameter. -/
  name : String
  regexps : List String
  /-- The name of the type of the values, if it is declared. -/
  typeName : Option String
  transformer : Transformer
  /-- Whether suggestions may use the type. -/
  forSnippets : Bool
  /-- Whether the type goes before others with one of its regexps. -/
  preferred : Bool
  anonymous : Bool

namespace ParameterType

/-- A type that suggestions may use and that is not preferred. Its name is free of the characters
that templates reserve, and it has a regexp, and all its regexps are valid. -/
def create (name : String) (regexps : List String) (typeName : Option String)
    (transformer : Transformer) : Except Error ParameterType :=
  if name.toList.any Template.isReserved then .error (.illegalName name)
  else if regexps.isEmpty then .error (.missingRegexps name)
  else if regexps.any fun regexp => (Regex.ofText? regexp.toList).isNone then
    .error .invalidPattern
  else .ok ⟨name, regexps, typeName, transformer, true, false, false⟩

/-- The type of parameters without a name, and of groups that no type is registered for. -/
def unnamed (regexp : String) : ParameterType :=
  ⟨"", [regexp], none, .kind .string, false, true, true⟩

/-- The order of types with one regexp: preferred types come first. -/
def compare (a b : ParameterType) : Ordering :=
  if a.preferred = b.preferred then .eq else if a.preferred then .lt else .gt

/-- Sorts types, and keeps the order of types that are alike. -/
def preferredFirst (types : List ParameterType) : List ParameterType :=
  types.mergeSort fun a b => (a.compare b).isLE

/-- The text of a type. -/
def describe (t : ParameterType) : String :=
  let flag := fun (b : Bool) => if b then "true" else "false"
  let typeName := match t.typeName with
    | none => "None"
    | some name => "Some(" ++ quote name ++ ")"
  "ParameterType \x7b name: " ++ quote t.name ++
    ", regexps: [" ++ String.intercalate ", " (t.regexps.map quote) ++
    "], type_name: " ++ typeName ++
    ", use_for_snippets: " ++ flag t.forSnippets ++
    ", prefer_for_regexp_match: " ++ flag t.preferred ++
    ", anonymous: " ++ flag t.anonymous ++ ", .. \x7d"

end ParameterType

end StepExpr
