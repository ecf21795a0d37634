import StepExpr.Parameter.Builtin
import StepExpr.Suggestion.Basic

/-!
# The registry of parameter types

The registry keeps types in the order of their registration, and two indexes of them: the type of
each name, and for each regexp the types that have it, the preferred first.

* `Registry.register` adds a type to the registry of the state, unless its name is taken or it would
  be a second preferred type for one of its regexps; `Registry.define` is its outcome;
* `Registry.byName?` and `Registry.byRegexp` find types.
-/

namespace StepExpr

structure Registry where
  types : List ParameterType
  /-- The type of each name. -/
  named : List (String × ParameterType)
  /-- The types of each regexp. -/
  buckets : List (String × List ParameterType)

namespace Registry

def empty : Registry := ⟨[], [], []⟩

def byName? (r : Registry) (name : String) : Option ParameterType :=
  r.named.lookup name

/-- The types with a regexp. -/
def bucket (r : Registry) (regexp : String) : List ParameterType :=
  (r.buckets.lookup regexp).getD []

/-- Replaces the value under a key, or adds a key at the end. -/
def put {α : Type} (key : String) (value : α) : List (String × α) → List (String × α)
  | [] => [(key, value)]
  | (k, old) :: rest => if k = key then (k, value) :: rest else (k, old) :: put key value rest

/-- Adds a type to the bucket of one of its regexps, unless it is there. Its name tells the type
from the others. -/
def index (t : ParameterType) (buckets : List (String × List ParameterType)) (regexp : String) :
    List (String × List ParameterType) :=
  let bucket := (buckets.lookup regexp).getD []
  if bucket.any (·.name = t.name) then buckets
  else put regexp (ParameterType.preferredFirst (bucket ++ [t])) buckets

def insert (r : Registry) (t : ParameterType) : Registry :=
  ⟨r.types ++ [t], put t.name t r.named, t.regexps.foldl (index t) r.buckets⟩

/-- The registry with the built-in types only. -/
def initial : Registry := Builtin.types.foldl insert empty

/-- The preferred type of a regexp. Only the first type of the bucket is asked, since preferred types
come first. -/
def preferred? (r : Registry) (regexp : String) : Option ParameterType :=
  (r.bucket regexp).head?.filter ParameterType.preferred

/-- A regexp of a preferred type that has a preferred type, with that type. -/
def conflict? (r : Registry) (t : ParameterType) : Option (String × ParameterType) :=
  if t.preferred then
    t.regexps.findSome? fun regexp => (r.preferred? regexp).map fun existing => (regexp, existing)
  else none

/-- Adds a type to the registry of the state. -/
def register (t : ParameterType) : EStateM Error Registry ParameterType := do
  let r ← get
  if (r.byName? t.name).isSome then
    throw (if t.name.isEmpty then .duplicateAnonymous else .duplicateName t.name)
  match r.conflict? t with
  | some (regexp, existing) => throw (.preferenceConflict regexp existing.name t.name)
  | none =>
    set (r.insert t)
    return t

/-- The registry with one more type. -/
def define (r : Registry) (t : ParameterType) : Except Error Registry :=
  match register t r with
  | .ok _ after => .ok after
  | .error error _ => .error error

/-- The type for a group of a regular expression. It is ambiguous if several types have the group's
regexp and none is preferred; the error suggests templates for the text that is matched. -/
def byRegexp (r : Registry) (limit : Nat) (regexp expression : String) (text : List Char) :
    Except Error (Option ParameterType) :=
  match r.bucket regexp with
  | [] => .ok none
  | first :: others =>
    if !others.isEmpty && !first.preferred then
      let suggestions := (suggest r.types limit text).map fun s => String.ofList s.source
      let names := (first :: others).map ParameterType.name
      .error (.ambiguousType regexp expression names suggestions)
    else .ok (some first)

end Registry

end StepExpr
