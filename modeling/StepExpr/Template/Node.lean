import StepExpr.Template.Token

/-!
# The tree of a template
-/

namespace StepExpr.Template

/-- The kinds of nodes that have nodes inside. -/
inductive NodeKind where
  | optional
  | alternation
  | alternative
  | parameter
  | expression
  deriving DecidableEq, Repr

def NodeKind.name : NodeKind → String
  | optional => "OPTIONAL_NODE"
  | alternation => "ALTERNATION_NODE"
  | alternative => "ALTERNATIVE_NODE"
  | parameter => "PARAMETER_NODE"
  | expression => "EXPRESSION_NODE"

inductive Node where
  | text (token : List Char) (span : Span)
  | branch (kind : NodeKind) (children : List Node) (span : Span)
  deriving Repr

namespace Node

def span : Node → Span
  | text _ span => span
  | branch _ _ span => span

def children : Node → List Node
  | text _ _ => []
  | branch _ children _ => children

def isText : Node → Bool
  | text _ _ => true
  | branch _ _ _ => false

def hasKind (kind : NodeKind) : Node → Bool
  | text _ _ => false
  | branch k _ _ => k = kind

mutual

/-- The text of a node and of all nodes inside, in order. -/
def textOf : Node → List Char
  | text token _ => token
  | branch _ children _ => textOfAll children

def textOfAll : List Node → List Char
  | [] => []
  | node :: nodes => textOf node ++ textOfAll nodes

end

end Node

end StepExpr.Template
