import StepExpr.Regex.Lexeme

/-!
# Patterns

The tree of a written pattern. It is built from lexemes in one pass, with the groups still open
on a stack.

* `Pattern.parse?` accepts a text that cuts into lexemes, closes its groups, repeats only what
  can be repeated, names no two groups alike and nests no deeper than `maxDepth`.
-/

namespace StepExpr

inductive Pattern where
  | empty
  | atom (a : Pattern.Atom)
  /-- Flag changes that last to the end of the enclosing group. -/
  | flags (changes : Pattern.FlagChanges)
  | rounds (r : Pattern.Rounds) (greedy : Bool) (p : Pattern)
  | group (k : Pattern.GroupKind) (p : Pattern)
  | cat (a b : Pattern)
  | alt (a b : Pattern)
  deriving DecidableEq, Repr

namespace Pattern

def catOf : List Pattern → Pattern
  | [] => empty
  | [p] => p
  | p :: ps => cat p (catOf ps)

def altOf : List Pattern → Pattern
  | [] => empty
  | [p] => p
  | p :: ps => alt p (altOf ps)

/-! ## From lexemes -/

/-- A group whose end is still to come, or the whole pattern: its finished branches and the items
of the last branch, the latest first. -/
structure OpenGroup where
  branches : List Pattern
  items : List Pattern

namespace OpenGroup

def start : OpenGroup := ⟨[], []⟩

def push (o : OpenGroup) (item : Pattern) : OpenGroup :=
  { o with items := item :: o.items }

def branch (o : OpenGroup) : OpenGroup :=
  ⟨catOf o.items.reverse :: o.branches, []⟩

def content (o : OpenGroup) : Pattern :=
  altOf o.branch.branches.reverse

end OpenGroup

/-- Builds the tree of the lexemes that follow `inner`. The groups around it wait in `outer`, each
with the kind of the group that interrupts it. -/
def build? (outer : List (GroupKind × OpenGroup)) (inner : OpenGroup) :
    List Lexeme → Option Pattern
  | [] => if outer.isEmpty then some inner.content else none
  | .atom a :: rest => build? outer (inner.push (.atom a)) rest
  | .flags changes :: rest => build? outer (inner.push (.flags changes)) rest
  | .bar :: rest => build? outer inner.branch rest
  | .opening k :: rest => build? ((k, inner) :: outer) .start rest
  | .closing :: rest =>
    match outer with
    | [] => none
    | (k, around) :: outer => build? outer (around.push (.group k inner.content)) rest
  | .rounds r greedy :: rest =>
    match inner.items with
    | [] => none
    | .flags _ :: _ => none
    | item :: items => build? outer { inner with items := .rounds r greedy item :: items } rest

/-! ## Names and depth -/

def names : Pattern → List (List Char)
  | empty | atom _ | flags _ => []
  | rounds _ _ p => p.names
  | group (.capturing (some name)) p => name :: p.names
  | group _ p => p.names
  | cat a b => a.names ++ b.names
  | alt a b => a.names ++ b.names

/-- The sequence that a pattern is the rest of, whose parts are all at one depth. -/
inductive Spine where
  | neither | items | branches
  deriving DecidableEq

def depth (spine : Spine) : Pattern → Nat
  | empty | flags _ => 0
  | atom (.bracketed negated content) => (ClassExpr.bracket negated content).depth false
  | atom _ => 0
  | rounds _ _ p => p.depth .neither + 1
  | group _ p => p.depth .neither + 1
  | cat a b =>
    let items := max (a.depth .neither) (b.depth .items)
    if spine = .items then items else items + 1
  | alt a b =>
    let branches := max (a.depth .neither) (b.depth .branches)
    if spine = .branches then branches else branches + 1

def maxDepth : Nat := 250

def parse? (text : List Char) : Option Pattern := do
  let lexemes ← Lexeme.scan? text
  let pattern ← build? [] .start lexemes
  if pattern.names.Nodup ∧ pattern.depth .neither ≤ maxDepth then some pattern else none

end Pattern

end StepExpr
