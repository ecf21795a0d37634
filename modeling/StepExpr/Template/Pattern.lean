import StepExpr.Parameter.Registry
import StepExpr.Template.Parse

/-!
# The pattern of a template

The tree of a template is checked and written out as the pattern of a regular expression, with one
group for each parameter.
-/

namespace StepExpr.Template

/-- Why a tree has no pattern. -/
inductive BindError where
  | problem (p : Problem)
  | undefinedType (name : String) (span : Span)
  deriving DecidableEq, Repr

def BindError.error (source : String) : BindError → Error
  | problem p => .template p source
  | undefinedType name span => .undefinedType name source span

/-- The characters that mean something in a pattern. -/
def isSpecial (c : Char) : Bool :=
  ['\\', '^', '[', '(', '\x7b', '$', '.', '|', '?', '*', '+', '\x7d', ')', ']'].contains c

def escapePattern (text : List Char) : List Char :=
  text.flatMap fun c => if isSpecial c then ['\\', c] else [c]

/-- An optional holds some text, and neither parameters nor optionals. -/
def optionalProblem? (children : List Node) (span : Span) : Option Problem :=
  match children.find? (Node.hasKind .parameter) with
  | some inner => some ⟨.parameterInOptional, inner.span⟩
  | none =>
    match children.find? (Node.hasKind .optional) with
    | some inner => some ⟨.optionalInOptional, inner.span⟩
    | none => if children.any Node.isText then none else some ⟨.emptyOptional, span⟩

/-- Every alternative holds some text. -/
def alternativesProblem? : List Node → Option Problem
  | [] => none
  | node :: nodes =>
    if node.children.isEmpty then some ⟨.emptyAlternative, node.span⟩
    else if node.children.any Node.isText then alternativesProblem? nodes
    else some ⟨.onlyOptionalsInAlternative, node.span⟩

/-- One group around the regexps of a type. -/
def parameterPattern (regexps : List String) : List Char :=
  match regexps with
  | [regexp] => '(' :: regexp.toList ++ [')']
  | _ =>
    "((?:".toList ++ List.intercalate ")|(?:".toList (regexps.map String.toList) ++ "))".toList

/-- A pattern and the types of its parameters in order. -/
structure Bound where
  pattern : List Char
  types : List ParameterType

/-- Patterns one after the other, with `between` between them. -/
def Bound.join (between : List Char) (parts : List Bound) : Bound :=
  ⟨List.intercalate between (parts.map Bound.pattern), parts.flatMap Bound.types⟩

def Bound.wrap (left right : String) (b : Bound) : Bound :=
  ⟨left.toList ++ b.pattern ++ right.toList, b.types⟩

mutual

def Node.bind (find : String → Option ParameterType) : Node → Except BindError Bound
  | .text token _ => .ok ⟨escapePattern token, []⟩
  | .branch .optional children span =>
    match optionalProblem? children span with
    | some problem => .error (.problem problem)
    | none => (Node.bindAll find children).map fun parts => (Bound.join [] parts).wrap "(?:" ")?"
  | .branch .alternation children _ =>
    match alternativesProblem? children with
    | some problem => .error (.problem problem)
    | none => (Node.bindAll find children).map fun parts => (Bound.join ['|'] parts).wrap "(?:" ")"
  | .branch .alternative children _ => (Node.bindAll find children).map (Bound.join [])
  | .branch .parameter children span =>
    let name := String.ofList (Node.textOfAll children)
    match find name with
    | some type => .ok ⟨parameterPattern type.regexps, [type]⟩
    | none => .error (.undefinedType name span)
  | .branch .expression children _ =>
    (Node.bindAll find children).map fun parts => (Bound.join [] parts).wrap "^" "$"

def Node.bindAll (find : String → Option ParameterType) : List Node → Except BindError (List Bound)
  | [] => .ok []
  | node :: nodes =>
    match Node.bind find node with
    | .error e => .error e
    | .ok part => (Node.bindAll find nodes).map (part :: ·)

end

end StepExpr.Template
