import StepExpr.Expression.Argument
import StepExpr.Parameter.Registry
import StepExpr.Template.Pattern

/-!
# Expressions

An expression is a template or a regular expression. Both are bound to the registry they are made
with: a template when it is made, and the groups of a regular expression when it is matched.
-/

namespace StepExpr

/-- A template with its tree, its matcher and the types of its parameters. -/
structure TemplateExpression where
  source : List Char
  root : Template.Node
  matcher : Matcher
  types : List ParameterType

namespace TemplateExpression

def create (r : Registry) (source : List Char) : Except Error TemplateExpression := do
  let text := String.ofList source
  let root ← (Template.parse source).mapError (Error.template · text)
  let bound ← (root.bind r.byName?).mapError (Template.BindError.error text)
  match Matcher.compile? bound.pattern with
  | some matcher => pure ⟨source, root, matcher, bound.types⟩
  | none => throw .invalidPattern

end TemplateExpression

structure RegularExpression where
  source : List Char
  matcher : Matcher
  registry : Registry

namespace RegularExpression

def create (r : Registry) (source : List Char) : Except Error RegularExpression :=
  match Matcher.compile? source with
  | some matcher => .ok ⟨source, matcher, r⟩
  | none => .error .invalidPattern

/-- The types of some groups. A group that no type is registered for is an anonymous parameter. -/
def typesOf (e : RegularExpression) (limit : Nat) (text : List Char) :
    List GroupTree → Except Error (List ParameterType)
  | [] => .ok []
  | group :: groups => do
    let regexp := String.ofList (dropGroupName group.source)
    let found ← e.registry.byRegexp limit regexp (String.ofList e.source) text
    let types ← e.typesOf limit text groups
    pure (found.getD (.unnamed regexp) :: types)

end RegularExpression

inductive Expression where
  | template (e : TemplateExpression)
  | regular (e : RegularExpression)

namespace Expression

/-- Slashes around a source are taken off. -/
def stripSlashes? : List Char → Option (List Char)
  | '/' :: rest => if rest.getLast? = some '/' then some rest.dropLast else none
  | _ => none

/-- A source that is anchored at either end or stands between slashes is a regular expression. -/
def ofSource (r : Registry) (source : List Char) : Except Error Expression :=
  if source.head? = some '^' ∨ source.getLast? = some '$' then
    (RegularExpression.create r source).map regular
  else
    match stripSlashes? source with
    | some inner => (RegularExpression.create r inner).map regular
    | none => (TemplateExpression.create r source).map template

/-- How a source is read. -/
inductive Form where
  | template
  | regular
  /-- By `ofSource`. -/
  | either
  deriving DecidableEq, Repr

def create (form : Form) (r : Registry) (source : List Char) : Except Error Expression :=
  match form with
  | .template => (TemplateExpression.create r source).map template
  | .regular => (RegularExpression.create r source).map regular
  | .either => ofSource r source

def source : Expression → List Char
  | template e => e.source
  | regular e => e.source

def matcher : Expression → Matcher
  | template e => e.matcher
  | regular e => e.matcher

/-- The types of a template's parameters. -/
def types? : Expression → Option (List ParameterType)
  | template e => some e.types
  | regular _ => none

/-- The arguments of a match. The types of a regular expression's groups are found first, so they
can be ambiguous even where the text does not match. -/
def arguments (e : Expression) (limit : Nat) (text : List Char) (hints : List String) :
    Except Error (Option (List Argument)) :=
  match e with
  | template e => e.matcher.arguments e.types text hints
  | regular e => do
    let types ← e.typesOf limit text e.matcher.groups.children
    e.matcher.arguments types text hints

end Expression

end StepExpr
