import StepExpr.Suggestion.Product
import StepExpr.Suggestion.Scan

/-!
# Suggested templates

The templates that a sample suggests: its words are replaced by parameters, in every combination of
the types that found them.
-/

namespace StepExpr

/-- The text before each parameter with its type, and the text behind the last. -/
structure Suggestion where
  parameters : List (List Char × ParameterType)
  tail : List Char

/-- A parameter of a suggestion, and how often its name has been used up to there. -/
structure ParameterInfo where
  typeName : Option String
  name : String
  count : Nat
  deriving DecidableEq, Repr

namespace Suggestion

/-- Escapes what would begin an optional, a parameter or an alternative. -/
def escapeSample (text : List Char) : List Char :=
  text.flatMap fun c => if c = '(' || c = '\x7b' || c = '/' then ['\\', c] else [c]

/-- The template. -/
def source (s : Suggestion) : List Char :=
  (s.parameters.flatMap fun (before, type) =>
    escapeSample before ++ '\x7b' :: type.name.toList ++ ['\x7d']) ++ escapeSample s.tail

def types (s : Suggestion) : List ParameterType := s.parameters.map Prod.snd

/-- Counts the use of each name, where `used` are the names before. -/
def infosAfter (used : List String) : List ParameterType → List ParameterInfo
  | [] => []
  | t :: ts => ⟨t.typeName, t.name, used.count t.name + 1⟩ :: infosAfter (t.name :: used) ts

def infos (s : Suggestion) : List ParameterInfo := infosAfter [] s.types

/-- A name for each argument: that of its type, with a number from the second use on. -/
def argumentNames (s : Suggestion) : List String :=
  s.infos.map fun i => if i.count = 1 then i.name else i.name ++ toString i.count

end Suggestion

/-- At most `limit` templates for a sample. -/
def suggest (types : List ParameterType) (limit : Nat) (text : List Char) : List Suggestion :=
  let cut := Suggestion.cut types text
  (Suggestion.firstCombinations (cut.words.map Prod.snd) limit).map fun chosen =>
    ⟨(cut.words.map Prod.fst).zip chosen, cut.tail⟩

end StepExpr
