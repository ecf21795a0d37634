import StepExpr.Group.Digits
import StepExpr.Group.Tree
import StepExpr.Regex.Search
import StepExpr.Regex.Valid

/-!
# Matching into groups

A matcher finds a pattern in a text and gives the match as a tree of groups.
-/

namespace StepExpr

/-- The part of a text that a group matched, with its ends in bytes. -/
structure Slice where
  text : String
  start : Nat
  stop : Nat
  deriving DecidableEq, Repr

/-- A group of a match. It has no slice if it took no part. -/
inductive Group where
  | node (slice : Option Slice) (children : List Group)
  deriving Repr

namespace Group

def slice : Group → Option Slice
  | node slice _ => slice

def children : Group → List Group
  | node _ children => children

def value (g : Group) : Option String := g.slice.map Slice.text

/-- The values of the groups inside, or the group's own if there are none. -/
def values (g : Group) : List (Option String) :=
  if g.children.isEmpty then [g.value] else g.children.map value

end Group

/-- The length of characters in UTF-8. -/
def byteLength (text : List Char) : Nat :=
  text.foldr (fun c length => c.utf8Size + length) 0

/-- The characters from `start` to `stop`. -/
def sliceOf (text : List Char) (start stop : Nat) : Slice :=
  let inside := (text.drop start).take (stop - start)
  let offset := byteLength (text.take start)
  ⟨String.ofList inside, offset, offset + byteLength inside⟩

mutual

/-- Fills in a tree in the order of the groups' opening parentheses, from group `index` on. Also
gives the number of the next group. -/
def GroupTree.fill (slice : Nat → Option Slice) (index : Nat) : GroupTree → Group × Nat
  | .node _ children =>
    let (groups, next) := GroupTree.fillAll slice (index + 1) children
    (.node (slice index) groups, next)

def GroupTree.fillAll (slice : Nat → Option Slice) (index : Nat) : List GroupTree → List Group × Nat
  | [] => ([], index)
  | tree :: trees =>
    let (group, next) := GroupTree.fill slice index tree
    let (groups, last) := GroupTree.fillAll slice next trees
    (group :: groups, last)

end

structure Matcher where
  source : List Char
  /-- The source with its digit classes written out. -/
  narrowed : List Char
  program : Program
  groups : GroupTree

namespace Matcher

def compile? (source : List Char) : Option Matcher :=
  let narrowed := narrowDigits source
  (Regex.ofText? narrowed).map fun regex =>
    ⟨source, narrowed, regex.program, GroupTree.ofPattern source⟩

/-- The first match in `text`. -/
def match? (m : Matcher) (text : List Char) : Option Group :=
  (m.program.search text.toArray).map fun captures =>
    let slice := fun index =>
      (captures.span? index).map fun (start, stop) => sliceOf text start stop
    (m.groups.fill slice 0).1

end Matcher

end StepExpr
