import StepExpr.Regex.Basic

/-!
# Programs

A program is a graph of numbered states that a search walks through. The states of an expression
stand one after another: it is entered at the first, and goes on at a state that is given when it is
laid out.

* `Regex.emit` lays out an expression behind the states that are there already, and takes
  `Regex.width` states;
* `Regex.program` is the program of an expression, with the whole match as group 0.
-/

namespace StepExpr

/-- A group boundary. -/
inductive Mark where
  | opened (index : Nat)
  | closed (index : Nat)
  deriving DecidableEq, Repr

inductive State where
  | accept
  | jump (next : Nat)
  | set (s : CharSet) (next : Nat)
  | look (l : Look) (next : Nat)
  | mark (m : Mark) (next : Nat)
  /-- Goes on at `preferred`, and at `other` if that fails. -/
  | fork (preferred other : Nat)
  deriving DecidableEq, Repr

namespace State

/-- A choice between one more round and what comes after the rounds. -/
def again (greedy : Bool) (round after : Nat) : State :=
  if greedy then fork round after else fork after round

end State

structure Program where
  states : Array State

/-- Whether a search looks at what is next to the characters that it reads. -/
def Program.testsPositions (p : Program) : Bool :=
  p.states.any fun
    | .look _ _ => true
    | _ => false

namespace Regex

/-! ## Layout -/

def roundsWidth (width : Nat) (consuming : Bool) : Nat → Option Nat → Nat
  | 0, none => if consuming then width + 1 else width + 2
  | least + 1, none => (least + 1) * width + 1
  | least, some most => max 1 (least * width + (most - least) * (width + 1))

/-- How many states an expression takes. -/
def width : Regex → Nat
  | empty => 1
  | literal cs => max 1 cs.length
  | set _ _ => 1
  | look _ => 1
  | cat a b => a.width + b.width
  | alt a b => 1 + a.width + b.width
  | rounds least most _ r => roundsWidth r.width r.isConsuming least most
  | group _ r => r.width + 2

def emitChars (next : Nat) : List Char → Array State → Array State
  | [], p => p.push (.jump next)
  | [c], p => p.push (.set (.single c) next)
  | c :: cs, p => emitChars next cs (p.push (.set (.single c) (p.size + 1)))

/-- A part of a program that is yet to be laid out: its width, and the layout itself, which takes
the state to go on at. -/
structure Block where
  width : Nat
  emit : Nat → Array State → Array State

namespace Block

/-- The block `n` times, each time going on at what is laid out next. -/
def times (b : Block) : Nat → Array State → Array State
  | 0, p => p
  | n + 1, p => b.times n (b.emit (p.size + b.width) p)

/-- The block `n` times, the last time going on at `next`. -/
def exactly (b : Block) (next : Nat) : Nat → Array State → Array State
  | 0, p => p.push (.jump next)
  | n + 1, p => b.emit next (b.times n p)

/-- At most `n` rounds of the block, where leaving early skips all that remain. -/
def atMost (b : Block) (greedy : Bool) (next : Nat) : Nat → Array State → Array State
  | 0, p => p
  | 1, p => b.emit next (p.push (.again greedy (p.size + 1) next))
  | n + 2, p =>
    b.atMost greedy next (n + 1)
      (b.emit (p.size + 1 + b.width) (p.push (.again greedy (p.size + 1) next)))

/-- One round of the block, and any number of further ones. -/
def many1 (b : Block) (greedy : Bool) (next : Nat) (p : Array State) : Array State :=
  (b.emit (p.size + b.width) p).push (.again greedy p.size next)

/-- Any number of rounds. A body that can match nothing must be tried before the loop is left, so
it is entered apart from the loop. -/
def many (b : Block) (consuming greedy : Bool) (next : Nat) (p : Array State) : Array State :=
  let entered := p.push (.again greedy (p.size + 1) next)
  if consuming then b.emit p.size entered else b.many1 greedy next entered

def rounds (b : Block) (consuming greedy : Bool) (next : Nat) :
    Nat → Option Nat → Array State → Array State
  | 0, none, p => b.many consuming greedy next p
  | n + 1, none, p => b.many1 greedy next (b.times n p)
  | least, some most, p =>
    if most ≤ least then b.exactly next least p
    else b.atMost greedy next (most - least) (b.times least p)

end Block

/-- Lays out an expression that goes on at `next`. -/
def emit : Regex → Nat → Array State → Array State
  | empty, next, p => p.push (.jump next)
  | literal cs, next, p => emitChars next cs p
  | set _ s, next, p => p.push (.set s next)
  | look l, next, p => p.push (.look l next)
  | cat a b, next, p => b.emit next (a.emit (p.size + a.width) p)
  | alt a b, next, p =>
    let forked := p.push (.fork (p.size + 1) (p.size + 1 + a.width))
    b.emit next (a.emit next forked)
  | rounds least most greedy r, next, p =>
    Block.rounds ⟨r.width, r.emit⟩ r.isConsuming greedy next least most p
  | group index r, next, p =>
    let opened := p.push (.mark (.opened index) (p.size + 1))
    (r.emit (p.size + 1 + r.width) opened).push (.mark (.closed index) next)

def program (r : Regex) : Program :=
  let whole := group 0 r
  ⟨(whole.emit whole.width #[]).push .accept⟩

end Regex

end StepExpr
