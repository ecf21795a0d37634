import Std.Data.HashSet
import StepExpr.Regex.Program

/-!
# Leftmost-first search

A search explores threads depth first, in order of preference. A thread is a state of the program, a
position in the text, and the group boundaries met on the way. State and position decide how a
thread can go on, so a second thread with both equal to those of an earlier one is dropped, even
while the earlier one is still being followed.

* `Thread.next` is one step: the threads that go on from a thread, the preferred first;
* `explore` follows a list of threads and gives the first that is accepted;
* `Program.search` starts one thread at every position of a text, the leftmost first.
-/

namespace StepExpr

namespace Search

structure Thread where
  state : Nat
  pos : Nat
  /-- The group boundaries met so far, the latest first. -/
  marks : List (Mark × Nat)

def Thread.next (p : Program) (text : Array Char) (t : Thread) : List Thread :=
  match p.states[t.state]? with
  | none => []
  | some .accept => []
  | some (.jump next) => [⟨next, t.pos, t.marks⟩]
  | some (.set s next) =>
    match text[t.pos]? with
    | some c => if s.contains c then [⟨next, t.pos + 1, t.marks⟩] else []
    | none => []
  | some (.look l next) => if l.holds text t.pos then [⟨next, t.pos, t.marks⟩] else []
  | some (.mark m next) => [⟨next, t.pos, (m, t.pos) :: t.marks⟩]
  | some (.fork preferred other) => [⟨preferred, t.pos, t.marks⟩, ⟨other, t.pos, t.marks⟩]

def Thread.isAccepted (p : Program) (t : Thread) : Bool :=
  p.states[t.state]? == some .accept

/-- The pairs of a state and a position that threads were at. -/
abbrev Visited := Std.HashSet (Nat × Nat)

/-- The first thread to be accepted among `threads` and those that go on from them, in at most
`fuel` steps. -/
def explore (p : Program) (text : Array Char) : Nat → Visited → List Thread → Option Thread
  | 0, _, _ => none
  | _ + 1, _, [] => none
  | fuel + 1, visited, t :: threads =>
    if visited.contains (t.state, t.pos) then explore p text fuel visited threads
    else if t.isAccepted p then some t
    else explore p text fuel (visited.insert (t.state, t.pos)) (t.next p text ++ threads)

end Search

open Search

/-- The groups of a match. Positions count characters. -/
structure Captures where
  marks : List (Mark × Nat)

namespace Captures

/-- Where a group last began and ended, if it took part. Group 0 is the whole match. -/
def span? (c : Captures) (index : Nat) : Option (Nat × Nat) :=
  match c.marks.lookup (.opened index), c.marks.lookup (.closed index) with
  | some start, some stop => some (start, stop)
  | _, _ => none

end Captures

namespace Program

/-- A thread at each position, the leftmost first. -/
def starts (text : Array Char) : List Thread :=
  (List.range (text.size + 1)).map fun pos => ⟨0, pos, []⟩

/-- More steps than a search of `text` can take: each state is explored once at each position, and
leaves at most two threads behind. -/
def searchFuel (p : Program) (text : Array Char) : Nat :=
  (2 * p.states.size + 1) * (text.size + 1) + 1

def search (p : Program) (text : Array Char) : Option Captures :=
  (explore p text (p.searchFuel text) ∅ (starts text)).map fun t => ⟨t.marks⟩

end Program

end StepExpr
