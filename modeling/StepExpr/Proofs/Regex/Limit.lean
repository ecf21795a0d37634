import StepExpr.Regex.Size

/-!
# What stays within the limit

The states that an automaton shares are known only when it is built, but it never takes more bytes
than it would without sharing.

* `Plan.cost` counts the bytes without sharing;
* `Plan.adds_grow?`: an automaton grows by no more than that;
* `Regex.isWithinLimit_of_cost`: an expression is within the limit if its plans are.
-/

namespace StepExpr

/-! ## Growth -/

namespace Automaton

variable {m : Automaton} {n k : Nat}

/-- The bytes that an automaton takes. -/
def weight (m : Automaton) : Nat := 32 * m.states + m.lists

/-- A step that succeeds within the limit, and adds `n` bytes at most. -/
def Adds (n : Nat) (grow? : Automaton → Option Automaton) : Prop :=
  ∀ m : Automaton, m.weight + n ≤ byteLimit → ∃ r, grow? m = some r ∧ r.weight ≤ m.weight + n

/-- The same of a step that gives the number of a state. -/
def AddsState (n : Nat) (grow? : Automaton → Option (Nat × Automaton)) : Prop :=
  ∀ m : Automaton, m.weight + n ≤ byteLimit →
    ∃ state r, grow? m = some (state, r) ∧ r.weight ≤ m.weight + n

theorem adds_add? (states lists : Nat) : Adds (32 * states + lists) (·.add? states lists) := by
  intro m small
  unfold weight at small
  refine ⟨_, if_pos (by omega), ?_⟩
  simp only [weight]
  omega

theorem Adds.bind {grow? after? : Automaton → Option Automaton} (h : Adds n grow?)
    (g : Adds k after?) : Adds (n + k) fun m => (grow? m).bind after? := by
  intro m small
  obtain ⟨r, first, bound⟩ := h m (by omega)
  obtain ⟨s, second, bound'⟩ := g r (by omega)
  exact ⟨s, by simp only [first, Option.bind_some, second], by omega⟩

theorem AddsState.snd {grow? : Automaton → Option (Nat × Automaton)} (h : AddsState n grow?) :
    Adds n fun m => (grow? m).map Prod.snd := by
  intro m small
  obtain ⟨state, r, grown, bound⟩ := h m small
  exact ⟨r, by simp only [grown, Option.map_some], bound⟩

theorem addsState_create? (slot : Nat) (edges : List Edge) (lists : Nat) :
    AddsState (32 + lists) (·.create? slot edges lists) := by
  intro m small
  obtain ⟨r, grown, bound⟩ := adds_add? 1 lists
    ⟨m.states, m.lists, m.table.setIfInBounds slot (some (edges, m.states))⟩ small
  exact ⟨m.states, r, by simp only [create?, grown, Option.map_some], bound⟩

theorem addsState_intern? (hash : UInt64) (edges : List Edge) (lists : Nat) :
    AddsState (32 + lists) (·.intern? hash edges lists) := by
  intro m small
  simp only [intern?]
  split
  · rename_i known state _
    split
    · exact ⟨state, m, rfl, Nat.le_add_right _ _⟩
    · exact addsState_create? _ edges lists m small
  · exact addsState_create? _ edges lists m small

end Automaton

/-! ## Sets of characters -/

/-- The bytes of the states of a trie, behind some edges. -/
def ByteTrie.cost : ByteTrie → Nat → Nat
  | nil, edges => 32 + 8 * edges
  | last _ others, edges => others.cost (edges + 1)
  | step _ below others, edges => below.cost 0 + others.cost (edges + 1)

namespace Automaton

theorem addsState_addTrie? (target : Nat) (t : ByteTrie) (edges : List Edge) :
    AddsState (t.cost edges.length) (addTrie? target t edges) := by
  induction t generalizing edges with
  | nil =>
    rw [← List.length_reverse]
    exact addsState_intern? _ _ _
  | last r others ih => exact ih (⟨r, target⟩ :: edges)
  | step r below others ihb iho =>
    intro m small
    rw [ByteTrie.cost] at small ⊢
    obtain ⟨state, s, first, bound⟩ := ihb [] m (Nat.le_trans (by simp) small)
    rw [List.length_nil] at bound
    obtain ⟨last, u, second, bound'⟩ := iho (⟨r, state⟩ :: edges) s (by
      rw [List.length_cons]
      omega)
    rw [List.length_cons] at bound'
    refine ⟨last, u, ?_, by omega⟩
    simpa only [addTrie?, first] using second

theorem addsState_addSequence? (rs : List ByteRange) (state : Nat) :
    AddsState (32 * rs.length) (addSequence? rs state) := by
  induction rs generalizing state with
  | nil => exact fun m _ => ⟨state, m, rfl, Nat.le_refl _⟩
  | cons r rs ih =>
    intro m small
    rw [List.length_cons] at small ⊢
    obtain ⟨next, s, first, bound⟩ :=
      addsState_intern? (hashIn ⟨r, state⟩) [⟨r, state⟩] 0 m (by omega)
    obtain ⟨last, u, second, bound'⟩ := ih next s (by omega)
    refine ⟨last, u, ?_, by omega⟩
    unfold addSequence? at second ⊢
    rw [List.foldlM_cons]
    simp only at first ⊢
    rw [first]
    exact second

theorem adds_spread? (t : ByteTrie) : Adds (32 + t.cost 0) (spread? t) := by
  intro m small
  obtain ⟨r, first, bound⟩ := adds_add? 1 0 m (by omega)
  obtain ⟨state, s, second, bound'⟩ := addsState_addTrie? m.states t [] r (by
    rw [List.length_nil]
    omega)
  rw [List.length_nil] at bound'
  exact ⟨s, by simp [spread?, first, second], by omega⟩

theorem adds_gather? (sequences : List (List ByteRange)) :
    Adds (64 + 4 * sequences.length + 32 * sequences.flatten.length) (gather? sequences) := by
  have each (stop : Nat) : Adds (32 * sequences.flatten.length) fun m =>
      sequences.foldlM (fun m rs => (addSequence? rs stop m).map Prod.snd) m := by
    induction sequences with
    | nil => exact fun m _ => ⟨m, rfl, Nat.le_refl _⟩
    | cons rs sequences ih =>
      rw [List.flatten_cons, List.length_append, Nat.mul_add]
      exact (addsState_addSequence? rs stop).snd.bind ih
  intro m small
  exact ((adds_add? 2 (4 * sequences.length)).bind (each (m.states + 1))) m small

end Automaton

/-! ## Plans -/

open Automaton

namespace Plan

/-- The bytes that a plan adds if no state is shared. -/
def cost : Plan → Nat
  | take states lists => 32 * states + lists
  | spread t => 32 + t.cost 0
  | gather sequences => 64 + 4 * sequences.length + 32 * sequences.flatten.length
  | seq p q => p.cost + q.cost
  | times n p => n * p.cost

theorem adds_grow? (p : Plan) : Adds p.cost p.grow? := by
  induction p with
  | take states lists => exact adds_add? states lists
  | spread t => exact adds_spread? t
  | gather sequences => exact adds_gather? sequences
  | seq p q ihp ihq => exact ihp.bind ihq
  | times n p ih =>
    induction n with
    | zero => exact fun m _ => ⟨m, rfl, Nat.le_add_right _ _⟩
    | succ n rounds =>
      intro m small
      rw [cost, Nat.succ_mul] at small ⊢
      rw [cost] at rounds
      obtain ⟨r, first, bound⟩ := ih m (by omega)
      obtain ⟨s, second, bound'⟩ := rounds r (by omega)
      refine ⟨s, ?_, by omega⟩
      simpa only [grow?, repeat?, first] using second

end Plan

theorem Regex.isWithinLimit_of_cost {r : Regex} (h : ∀ d, (r.plan d).cost ≤ byteLimit) :
    r.isWithinLimit = true := by
  have grows (d : Direction) : ((r.plan d).grow? (.empty d.slots)).isSome = true := by
    have start : (Automaton.empty d.slots).weight = 0 := rfl
    obtain ⟨m, grown, -⟩ := (r.plan d).adds_grow? (.empty d.slots) (by rw [start]; have := h d; omega)
    rw [grown, Option.isSome_some]
  simp [isWithinLimit, grows]

end StepExpr
