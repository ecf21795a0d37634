import StepExpr.Group.Matcher
import StepExpr.Parameter.Type

/-!
# Arguments

An argument is a group of a match with the type of its parameter. Its value is made when it is
first asked for, and kept.
-/

namespace StepExpr

structure Argument where
  group : Group
  type : ParameterType
  /-- The name of a kind for the value of an anonymous parameter. -/
  hint : Option String
  /-- The value, once it has been asked for. -/
  cached : Option (Except TransformError Value)

namespace Argument

/-- Pairs groups with types and hints by position. Hints are for anonymous types only. -/
def pair : List Group → List ParameterType → List String → List Argument
  | group :: groups, type :: types, hints =>
    let hint := if type.anonymous then hints.head? else none
    ⟨group, type, hint, none⟩ :: pair groups types hints.tail
  | _, _, _ => []

/-- What the value is made from: an anonymous parameter takes the text of its whole group, any other
the captures inside. -/
def compute (a : Argument) (log : CallLog) : Except TransformError Value × CallLog :=
  match a.hint with
  | some hint => (convertTo hint a.group.value, log)
  | none =>
    if a.type.anonymous then a.type.transformer.apply log [a.group.value]
    else a.type.transformer.apply log a.group.values

/-- The value, with the argument and the log of calls after it was asked for. -/
def value (a : Argument) (log : CallLog) : Except TransformError Value × Argument × CallLog :=
  match a.cached with
  | some result => (result, a, log)
  | none =>
    let (result, log) := a.compute log
    (result, { a with cached := some result }, log)

/-- The values of arguments, asked for in order. -/
def values (log : CallLog) : List Argument → List (Except TransformError Value) × CallLog
  | [] => ([], log)
  | a :: rest =>
    let (result, _, log) := a.value log
    let (results, log) := values log rest
    (result :: results, log)

end Argument

/-- The arguments of a match of `text`, or nothing if it does not match. -/
def Matcher.arguments (m : Matcher) (types : List ParameterType) (text : List Char)
    (hints : List String) : Except Error (Option (List Argument)) :=
  match m.match? text with
  | none => .ok none
  | some root =>
    if root.children.length ≠ types.length then
      .error (.groupCount root.children.length types.length)
    else .ok (some (Argument.pair root.children types hints))

end StepExpr
