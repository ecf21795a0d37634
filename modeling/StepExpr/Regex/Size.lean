import StepExpr.Regex.Simplify
import StepExpr.Regex.Utf8

/-!
# The size of an expression

An expression is only used if its automata over bytes stay within a limit. There are two of them:
one reads texts forward and records groups, and the other reads them backward. A state counts for
32 bytes, and the lists that a state holds count on top: 8 bytes for each byte range and 4 for each
further branch. These are the sizes on machines of 64 bits, and the limit is the one that holds
where none is set. How long a literal text may be rests on them.

* `Plan` is what an automaton is made of, in the order in which its states are numbered;
* `Regex.plan` is the plan of an expression in a direction;
* `Plan.grow?` adds a plan to an automaton, and stops where the limit is passed;
* `Regex.isWithinLimit` says whether both automata stay within the limit.
-/

namespace StepExpr

inductive Direction where
  | forward | backward
  deriving DecidableEq, Repr

inductive Plan where
  | take (states lists : Nat)
  /-- A set of characters, read forward. -/
  | spread (t : ByteTrie)
  /-- A set of characters, read backward. -/
  | gather (sequences : List (List ByteRange))
  | seq (p q : Plan)
  | times (n : Nat) (p : Plan)
  deriving DecidableEq, Repr

/-! ## Growing automata -/

/-- A step on a byte, with the state at one of its ends. -/
structure Edge where
  bytes : ByteRange
  state : Nat
  deriving DecidableEq, Repr

/-- How large an automaton is so far. Its states are numbered from 0 on.

A state on the way through a character is shared with a later one that is known by the same edges.
The states that can be shared are kept in the slots of a table, each with its number, and a state
takes its slot from the one before. No two sets of characters share states, since each has an end of
its own. -/
structure Automaton where
  states : Nat
  /-- The bytes of the lists that states hold. -/
  lists : Nat
  table : Array (Option (List Edge × Nat))

namespace Automaton

def empty (slots : Nat) : Automaton := ⟨0, 0, Array.replicate slots none⟩

/-- The bytes that an automaton may take where no other limit is set: 10 MiB. -/
def byteLimit : Nat := 10485760

/-- Adds states and the bytes of their lists, within the limit. A state takes 32 bytes on machines
of 64 bits. -/
def add? (m : Automaton) (states lists : Nat) : Option Automaton :=
  let states := m.states + states
  let lists := m.lists + lists
  if 32 * states + lists ≤ byteLimit then some ⟨states, lists, m.table⟩ else none

/-- A new state that is known by `edges`, and its number. -/
def create? (m : Automaton) (slot : Nat) (edges : List Edge) (lists : Nat) :
    Option (Nat × Automaton) :=
  let ⟨states, held, table⟩ := m
  let table := table.setIfInBounds slot (some (edges, states))
  (Automaton.add? ⟨states, held, table⟩ 1 lists).map fun m => (states, m)

/-- The state that is known by `edges`: the one in its slot if that is equal, and a new one
otherwise. -/
def intern? (m : Automaton) (hash : UInt64) (edges : List Edge) (lists : Nat) :
    Option (Nat × Automaton) :=
  let slot := (hash % m.table.size.toUInt64).toNat
  match m.table[slot]? with
  | some (some (known, state)) =>
    if known = edges then some (state, m) else m.create? slot edges lists
  | _ => m.create? slot edges lists

/-! ### Hashes

The slot of a state is its 64-bit FNV-1a hash, where each number counts as one unit. -/

def hashOffset : UInt64 := 14695981039346656037

def mix (hash unit : UInt64) : UInt64 := (hash ^^^ unit) * 1099511628211

/-- The hash of a state that is known by the edges to the states after it. -/
def hashOut (edges : List Edge) : UInt64 :=
  edges.foldl (fun h e =>
    let h := mix (mix h e.bytes.first.toUInt64) e.bytes.last.toUInt64
    mix h (UInt64.ofNat e.state)) hashOffset

/-- The hash of a state that is known by the edge from the state before it. -/
def hashIn (e : Edge) : UInt64 :=
  let h := mix hashOffset (UInt64.ofNat e.state)
  mix (mix h e.bytes.first.toUInt64) e.bytes.last.toUInt64

/-! ### Sets of characters -/

/-- Adds the states of a trie from its leaves up. All sequences end at `target`; `edges` are the
edges of the branches before, the nearest first. -/
def addTrie? (target : Nat) : ByteTrie → List Edge → Automaton → Option (Nat × Automaton)
  | .nil, edges, m =>
    let edges := edges.reverse
    m.intern? (hashOut edges) edges (8 * edges.length)
  | .last r others, edges, m => addTrie? target others (⟨r, target⟩ :: edges) m
  | .step r below others, edges, m =>
    match addTrie? target below [] m with
    | some (state, m) => addTrie? target others (⟨r, state⟩ :: edges) m
    | none => none

/-- Adds the states of a sequence, each known by the edge from the one before, and gives the number
of the last. -/
def addSequence? (rs : List ByteRange) (state : Nat) (m : Automaton) : Option (Nat × Automaton) :=
  rs.foldlM (fun (state, m) r => m.intern? (hashIn ⟨r, state⟩) [⟨r, state⟩] 0) (state, m)

def spread? (t : ByteTrie) (m : Automaton) : Option Automaton := do
  let target := m.states
  let (_, m) ← addTrie? target t [] (← m.add? 1 0)
  some m

/-- The first state branches to all sequences, and the second is where they all end. -/
def gather? (sequences : List (List ByteRange)) (m : Automaton) : Option Automaton := do
  let stop := m.states + 1
  sequences.foldlM (fun m rs => (addSequence? rs stop m).map Prod.snd)
    (← m.add? 2 (4 * sequences.length))

end Automaton

namespace Plan

def repeat? (grow? : Automaton → Option Automaton) : Nat → Automaton → Option Automaton
  | 0, m => some m
  | n + 1, m =>
    match grow? m with
    | some m => repeat? grow? n m
    | none => none

/-- The automaton with a plan added to it, if it is within the limit. -/
def grow? : Plan → Automaton → Option Automaton
  | take states lists, m => m.add? states lists
  | spread t, m => Automaton.spread? t m
  | gather sequences, m => Automaton.gather? sequences m
  | seq p q, m => (p.grow? m).bind q.grow?
  | times n p, m => repeat? p.grow? n m

end Plan

namespace Direction

/-- The slots for the states of sets of characters. -/
def slots : Direction → Nat
  | forward => 10000
  | backward => 1000

/-- Two parts in the order in which they are read. -/
def seq : Direction → Plan → Plan → Plan
  | forward, p, q => .seq p q
  | backward, p, q => .seq q p

/-- The bytes of a text in the order in which they are read. -/
def bytes (d : Direction) (cs : List Char) : List UInt8 :=
  let bytes := cs.flatMap String.utf8EncodeChar
  match d with
  | forward => bytes
  | backward => bytes.reverse

/-- A set whose characters are all ASCII takes one step. -/
def set (d : Direction) (s : CharSet) : Plan :=
  if s.isAscii then .take 2 (8 * s.ranges.length)
  else
    match d with
    | forward => .spread (.ofSequences s.sequences)
    | backward => .gather s.sequences

/-- Only the way forward records groups. -/
def group (d : Direction) (p : Plan) : Plan :=
  match d with
  | forward => .seq (.take 1 0) (.seq p (.take 1 0))
  | backward => p

end Direction

/-! ## Choices between texts

A choice between texts is laid out as a trie. Where a text ends before others go on, the branches of
a node fall into chunks: those tried before the end of that text, and those tried after it. -/

/-- The chunks of the texts that reach a node. -/
def textChunks (texts : List (List UInt8)) : List (List (List UInt8)) :=
  (texts.splitBy fun s t => s.isEmpty == t.isEmpty).filter fun run => run.any fun t => !t.isEmpty

/-- How many ends of texts a node has. Before its first branch several count as one. -/
def textEnds (texts : List (List UInt8)) : Nat :=
  let atFirst := texts.takeWhile List.isEmpty
  let later := (texts.dropWhile List.isEmpty).filter List.isEmpty
  min 1 atFirst.length + later.length

def tailsAfter (byte : UInt8) (texts : List (List UInt8)) : List (List UInt8) :=
  texts.filterMap fun
    | b :: rest => if b = byte then some rest else none
    | [] => none

/-- The trie of the texts that reach a node, whose lengths are at most `depth`. A node where all of
them end has no states. -/
def textTrie : Nat → List (List UInt8) → Plan
  | 0, _ => .take 0 0
  | depth + 1, texts =>
    let chunks := textChunks texts
    if chunks.isEmpty then .take 0 0
    else
      let chunkPlan := fun chunk : List (List UInt8) =>
        let bytes := (chunk.filterMap List.head?).eraseDups
        let lists := if bytes.length = 1 then 0 else 8 * bytes.length
        bytes.foldr (fun b p => .seq (textTrie depth (tailsAfter b chunk)) p) (.take 1 lists)
      let node := Plan.take 1 (4 * (chunks.length + textEnds texts))
      chunks.foldr (fun chunk p => .seq (chunkPlan chunk) p) node

def textChoice (texts : List (List UInt8)) : Plan :=
  .seq (.take 1 0) (textTrie ((texts.map List.length).foldl max 0 + 1) texts)

namespace Regex

/-! ## Expressions -/

/-- Whether matches can only begin where the text does. -/
def startsAtTextStart : Regex → Bool
  | look l => l = .textStart
  | cat a b => a.startsAtTextStart || b.startsAtTextStart && a.isBlank
  | alt a b => a.startsAtTextStart && b.startsAtTextStart
  | rounds least _ _ r => 0 < least && r.startsAtTextStart
  | group _ r => r.startsAtTextStart
  | _ => false

/-- Whether matches can only end where the text does. -/
def endsAtTextEnd : Regex → Bool
  | look l => l = .textEnd
  | cat a b => b.endsAtTextEnd || a.endsAtTextEnd && b.isBlank
  | alt a b => a.endsAtTextEnd && b.endsAtTextEnd
  | rounds least _ _ r => 0 < least && r.endsAtTextEnd
  | group _ r => r.endsAtTextEnd
  | _ => false

def roundsPlan (consuming : Bool) (p : Plan) : Nat → Option Nat → Plan
  | 0, none => if consuming then .seq (.take 1 8) p else .seq p (.take 3 16)
  | least + 1, none => .seq (.times (least + 1) p) (.take 1 8)
  | 0, some 1 => .seq (.take 1 8) (.seq p (.take 1 0))
  | least, some most =>
    let certain := if least = 0 then .take 1 0 else .times least p
    if most ≤ least then certain
    else .seq certain (.seq (.take 1 0) (.times (most - least) (.seq (.take 1 8) p)))

/-- The texts of a choice, if all its branches are texts. -/
def texts? (r : Regex) : Option (List (List Char)) :=
  r.branches.mapM fun
    | literal cs => some cs
    | _ => none

/-- The plan of a choice from those of its branches. -/
def choicePlan (d : Direction) (r : Regex) : List Plan → Plan
  | [] => .take 0 0
  | [p] => p
  | p :: q :: ps =>
    match r.texts? with
    | some texts => textChoice (texts.map d.bytes)
    | none =>
      let fork := Plan.take 2 (4 * (ps.length + 2))
      .seq p (.seq q (ps.foldl .seq fork))

/-- The plans of the branches. -/
def branchPlans (d : Direction) : Regex → List Plan
  | empty => [.take 1 0]
  | literal cs => [.take (d.bytes cs).length 0]
  | set _ s => [d.set s]
  | look _ => [.take 1 0]
  | cat a b => [d.seq (a.choicePlan d (a.branchPlans d)) (b.choicePlan d (b.branchPlans d))]
  | alt a b => a.choicePlan d (a.branchPlans d) :: b.branchPlans d
  | rounds least most _ r =>
    [roundsPlan r.isConsuming (r.choicePlan d (r.branchPlans d)) least most]
  | group _ r => [d.group (r.choicePlan d (r.branchPlans d))]

/-- The whole automaton. A match that may begin anywhere is preceded by a loop over any bytes, and
one more state accepts. -/
def plan (d : Direction) (r : Regex) : Plan :=
  let anchored :=
    match d with
    | .forward => r.startsAtTextStart
    | .backward => r.endsAtTextEnd
  let start := if anchored then Plan.take 1 0 else .take 3 16
  .seq start (.seq (d.group (r.choicePlan d (r.branchPlans d))) (.take 1 0))

def isWithinLimit (r : Regex) : Bool :=
  [Direction.forward, .backward].all fun d => ((r.plan d).grow? (.empty d.slots)).isSome

end Regex

end StepExpr
