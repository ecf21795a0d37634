import StepExpr.Expression.Basic
import StepExpr.Suggestion.Limit

/-!
# Sessions

A session keeps registries, expressions and the arguments of matches under names, with the limit on
suggestions and the log of calls. What is stored under a name replaces what was there.
-/

namespace StepExpr

structure Session where
  registries : List (String × Registry)
  expressions : List (String × Expression)
  arguments : List (String × List Argument)
  limit : SuggestionLimit
  log : CallLog

namespace Session

def initial : Session := ⟨[], [], [], .initial, .empty⟩

/-- A name that is new has the registry of the built-in types. -/
def registry (s : Session) (name : String) : Registry :=
  (s.registries.lookup name).getD .initial

def putRegistry (s : Session) (name : String) (r : Registry) : Session :=
  { s with registries := (name, r) :: s.registries }

def define (s : Session) (name : String) (t : ParameterType) : Except Error Session :=
  ((s.registry name).define t).map (s.putRegistry name)

def byRegexp (s : Session) (name regexp expression : String) (text : List Char) :
    Except Error (Option ParameterType) :=
  (s.registry name).byRegexp s.limit.value regexp expression text

def suggestions (s : Session) (name : String) (text : List Char) : List Suggestion :=
  suggest (s.registry name).types s.limit.value text

def express (s : Session) (name : String) (form : Expression.Form) (source : List Char)
    (stored : String) : Except Error (Expression × Session) :=
  (Expression.create form (s.registry name) source).map fun e =>
    (e, { s with expressions := (stored, e) :: s.expressions })

inductive Failure where
  | noExpression
  | noArgument
  | failed (error : Error)
  deriving DecidableEq, Repr

/-- Matches a text and stores the arguments of the match, if a name is given for them. -/
def matchText (s : Session) (expression : String) (text : List Char) (hints : List String)
    (stored : Option String) : Except Failure (Option (List Argument) × Session) :=
  match s.expressions.lookup expression with
  | none => .error .noExpression
  | some e =>
    match e.arguments s.limit.value text hints, stored with
    | .error error, _ => .error (.failed error)
    | .ok (some arguments), some name =>
      .ok (some arguments, { s with arguments := (name, arguments) :: s.arguments })
    | .ok arguments, _ => .ok (arguments, s)

/-- The value of one of the arguments of a stored match. -/
def value (s : Session) (stored : String) (i : Nat) :
    Except Failure (Except TransformError Value × Session) :=
  let arguments := (s.arguments.lookup stored).getD []
  match arguments[i]? with
  | none => .error .noArgument
  | some argument =>
    let (result, argument, log) := argument.value s.log
    .ok (result, { s with arguments := (stored, arguments.set i argument) :: s.arguments, log })

end Session

end StepExpr
