import StepExpr.Proofs.Regex.Language
import StepExpr.Proofs.Regex.Search

/-!
# What a program does

The program of an expression takes up what the expression matches. The states of an expression are
a block that is entered at its first state and left at one state only.

* `Implements` says what a block does, by the paths through it;
* `emit_lays`: the states that are laid out for an expression implement its meaning;
* `program_search_isSome_iff`: a search finds a match exactly if there is one.
-/

namespace StepExpr

open Search

variable {text : Array Char}

/-! ## Blocks of states -/

/-- From the state `base` on, a program takes up what `R` does, and then goes on at `next`. -/
structure Implements (p : Program) (text : Array Char) (R : Takes) (base next : Nat) : Prop where
  complete : ∀ {i j : Nat} {ns : Marks}, R i j ns → ∀ ms,
    Reaches p text ⟨base, i, ms⟩ ⟨next, j, ns ++ ms⟩
  /-- The rest of a path behind the block is shorter than the path. -/
  sound : ∀ {n i : Nat} {ms : Marks} {t : Thread}, Path p text n ⟨base, i, ms⟩ t →
    t.isAccepted p = true →
    ∃ m j ns, m < n ∧ R i j ns ∧ Path p text m ⟨next, j, ns ++ ms⟩ t

namespace Implements

variable {p : Program} {R S : Takes} {base mid next : Nat}

theorem congr (h : Implements p text R base next) (same : ∀ i j ms, R i j ms ↔ S i j ms) :
    Implements p text S base next := by
  obtain rfl : R = S :=
    funext fun i => funext fun j => funext fun ms => propext (same i j ms)
  exact h

/-- A path that is accepted goes on from a state that is not. -/
theorem path_step {n : Nat} {t u : Thread} {s : State} (way : Path p text n t u)
    (accepted : u.isAccepted p = true) (hs : p.states[t.state]? = some s) (other : s ≠ .accept) :
    ∃ m v, n = m + 1 ∧ v ∈ t.next p text ∧ Path p text m v u := by
  cases way with
  | refl => simp [Thread.isAccepted, hs, other] at accepted
  | step first rest => exact ⟨_, _, rfl, first, rest⟩

theorem jump (hs : p.states[base]? = some (.jump next)) :
    Implements p text .nothing base next where
  complete := by
    rintro i j ns ⟨rfl, rfl⟩ ms
    exact .step (by simp [Thread.next, hs])
  sound way accepted := by
    obtain ⟨m, v, rfl, first, rest⟩ := path_step way accepted hs (by simp)
    obtain rfl := List.mem_singleton.mp (by simpa [Thread.next, hs] using first)
    exact ⟨m, _, [], Nat.lt_succ_self m, ⟨rfl, rfl⟩, rest⟩

theorem set {s : CharSet} (hs : p.states[base]? = some (.set s next)) :
    Implements p text
      (fun i j ms => (∃ c, text[i]? = some c ∧ s.contains c = true) ∧ i + 1 = j ∧ ms = [])
      base next where
  complete := by
    rintro i j ns ⟨⟨c, hc, mem⟩, rfl, rfl⟩ ms
    exact .step (by simp [Thread.next, hs, hc, mem])
  sound {n i ms t} way accepted := by
    obtain ⟨m, v, rfl, first, rest⟩ := path_step way accepted hs (by simp)
    simp only [Thread.next, hs] at first
    cases hc : text[i]? with
    | none => simp [hc] at first
    | some c =>
      cases mem : s.contains c with
      | false => simp [hc, mem] at first
      | true =>
        obtain rfl : v = ⟨next, i + 1, ms⟩ := by simpa [hc, mem] using first
        exact ⟨m, i + 1, [], Nat.lt_succ_self m, ⟨⟨c, rfl, mem⟩, rfl, rfl⟩, rest⟩

theorem look {l : Look} (hs : p.states[base]? = some (.look l next)) :
    Implements p text (fun i j ms => l.holds text i = true ∧ i = j ∧ ms = []) base next where
  complete := by
    rintro i j ns ⟨holds, rfl, rfl⟩ ms
    exact .step (by simp [Thread.next, hs, holds])
  sound {n i ms t} way accepted := by
    obtain ⟨m, v, rfl, first, rest⟩ := path_step way accepted hs (by simp)
    simp only [Thread.next, hs] at first
    cases holds : l.holds text i with
    | false => simp [holds] at first
    | true =>
      obtain rfl : v = ⟨next, i, ms⟩ := by simpa [holds] using first
      exact ⟨m, i, [], Nat.lt_succ_self m, ⟨rfl, rfl, rfl⟩, rest⟩

theorem mark {k : Mark} (hs : p.states[base]? = some (.mark k next)) :
    Implements p text (fun i j ms => i = j ∧ ms = [(k, i)]) base next where
  complete := by
    rintro i j ns ⟨rfl, rfl⟩ ms
    exact .step (by simp [Thread.next, hs])
  sound {n i ms t} way accepted := by
    obtain ⟨m, v, rfl, first, rest⟩ := path_step way accepted hs (by simp)
    obtain rfl : v = ⟨next, i, (k, i) :: ms⟩ := by simpa [Thread.next, hs] using first
    exact ⟨m, i, [(k, i)], Nat.lt_succ_self m, ⟨rfl, rfl⟩, rest⟩

theorem seq (h : Implements p text R base mid) (g : Implements p text S mid next) :
    Implements p text (R.next S) base next where
  complete := by
    rintro i j ns ⟨k, xs, ys, first, second, rfl⟩ ms
    rw [List.append_assoc]
    exact (h.complete first ms).trans (g.complete second _)
  sound way accepted := by
    obtain ⟨m, k, xs, shorter, first, rest⟩ := h.sound way accepted
    obtain ⟨l, j, ys, shorter', second, rest'⟩ := g.sound rest accepted
    rw [← List.append_assoc] at rest'
    exact ⟨l, j, ys ++ xs, Nat.lt_trans shorter' shorter, ⟨k, xs, ys, first, second, rfl⟩, rest'⟩

theorem fork {x y : Nat} (hs : p.states[base]? = some (.fork x y)) (h : Implements p text R x next)
    (g : Implements p text S y next) : Implements p text (R.either S) base next where
  complete := by
    rintro i j ns (first | second) ms
    · exact (Reaches.step (by simp [Thread.next, hs])).trans (h.complete first ms)
    · exact (Reaches.step (by simp [Thread.next, hs])).trans (g.complete second ms)
  sound {n i ms t} way accepted := by
    obtain ⟨m, v, rfl, first, rest⟩ := path_step way accepted hs (by simp)
    have either : v = ⟨x, i, ms⟩ ∨ v = ⟨y, i, ms⟩ := by simpa [Thread.next, hs] using first
    rcases either with rfl | rfl
    · obtain ⟨l, j, ns, shorter, taken, rest⟩ := h.sound rest accepted
      exact ⟨l, j, ns, Nat.lt_succ_of_lt shorter, .inl taken, rest⟩
    · obtain ⟨l, j, ns, shorter, taken, rest⟩ := g.sound rest accepted
      exact ⟨l, j, ns, Nat.lt_succ_of_lt shorter, .inr taken, rest⟩

section Again

variable {greedy : Bool} {x : Nat}

/-- Whichever way is preferred, a choice of rounds leads to one more round and out of them. -/
theorem reaches_again (hs : p.states[base]? = some (.again greedy x next)) (i : Nat) (ms : Marks) :
    Reaches p text ⟨base, i, ms⟩ ⟨x, i, ms⟩ ∧ Reaches p text ⟨base, i, ms⟩ ⟨next, i, ms⟩ := by
  constructor <;> refine .step ?_ <;> cases greedy <;> simp [Thread.next, hs, State.again]

theorem path_again {n i : Nat} {ms : Marks} {t : Thread} (way : Path p text n ⟨base, i, ms⟩ t)
    (accepted : t.isAccepted p = true) (hs : p.states[base]? = some (.again greedy x next)) :
    ∃ m, n = m + 1 ∧ (Path p text m ⟨x, i, ms⟩ t ∨ Path p text m ⟨next, i, ms⟩ t) := by
  obtain ⟨m, v, rfl, first, rest⟩ :=
    path_step way accepted hs (by cases greedy <;> simp [State.again])
  have either : v = ⟨x, i, ms⟩ ∨ v = ⟨next, i, ms⟩ := by
    cases greedy <;> simpa [Thread.next, hs, State.again, or_comm] using first
  rcases either with rfl | rfl
  · exact ⟨m, rfl, .inl rest⟩
  · exact ⟨m, rfl, .inr rest⟩

/-- A block that is entered or left out. -/
theorem again (hs : p.states[base]? = some (.again greedy x next))
    (h : Implements p text R x next) : Implements p text (R.either .nothing) base next where
  complete := by
    rintro i j ns (taken | ⟨rfl, rfl⟩) ms
    · exact (reaches_again hs i ms).1.trans (h.complete taken ms)
    · exact (reaches_again hs i ms).2
  sound {n i ms t} way accepted := by
    obtain ⟨m, rfl, rest | rest⟩ := path_again way accepted hs
    · obtain ⟨l, j, ns, shorter, taken, rest⟩ := h.sound rest accepted
      exact ⟨l, j, ns, Nat.lt_succ_of_lt shorter, .inl taken, rest⟩
    · exact ⟨m, i, [], Nat.lt_succ_self m, .inr ⟨rfl, rfl⟩, rest⟩

/-- A block that leads back to the choice between it and what comes after. -/
theorem star (hs : p.states[base]? = some (.again greedy x next))
    (h : Implements p text R x base) : Implements p text R.star base next where
  complete := by
    rintro i j ns ⟨k, taken⟩ ms
    induction k generalizing i ns ms with
    | zero =>
      obtain ⟨rfl, rfl⟩ := taken
      exact (reaches_again hs i ms).2
    | succ k ih =>
      obtain ⟨l, xs, ys, first, rest, rfl⟩ := taken
      rw [List.append_assoc]
      exact ((reaches_again hs i ms).1.trans (h.complete first ms)).trans (ih rest _)
  sound {n i ms t} way accepted := by
    induction n using Nat.strong_induction_on generalizing i ms with
    | _ n ih =>
      obtain ⟨m, rfl, rest | rest⟩ := path_again way accepted hs
      · -- one more round, and a shorter path from the choice on
        obtain ⟨l, k, xs, shorter, taken, back⟩ := h.sound rest accepted
        obtain ⟨l', j, ys, shorter', ⟨n, more⟩, rest'⟩ := ih l (by omega) back
        rw [← List.append_assoc] at rest'
        exact ⟨l', j, ys ++ xs, by omega, ⟨n + 1, k, xs, ys, taken, more, rfl⟩, rest'⟩
      · exact ⟨m, i, [], Nat.lt_succ_self m, ⟨0, rfl, rfl⟩, rest⟩

end Again

/-- A block that is followed by the choice to go back. -/
theorem plus {greedy : Bool} (h : Implements p text R base mid)
    (hs : p.states[mid]? = some (.again greedy base next)) :
    Implements p text (R.next R.star) base next :=
  h.seq (star hs h)

end Implements

/-! ## Layout -/

/-- States that come after others leave those as they are. -/
def Extends (p q : Array State) : Prop := p.toList <+: q.toList

namespace Extends

variable {p q r : Array State} {s : State}

theorem refl (p : Array State) : Extends p p := List.prefix_refl _

theorem trans (h : Extends p q) (g : Extends q r) : Extends p r := List.IsPrefix.trans h g

theorem push (p : Array State) (s : State) : Extends p (p.push s) := by
  simp [Extends]

theorem getElem?_eq (h : Extends p q) {k : Nat} (hk : k < p.size) : q[k]? = p[k]? := by
  obtain ⟨more, same⟩ := h
  rw [← Array.getElem?_toList, ← same, List.getElem?_append_left (by simpa using hk),
    Array.getElem?_toList]

theorem getElem?_push (h : Extends (p.push s) q) : q[p.size]? = some s := by
  rw [h.getElem?_eq (by simp)]
  simp

end Extends

/-- A block that takes up what `R` does, wherever it is laid out. -/
structure Regex.Block.Lays (b : Regex.Block) (text : Array Char) (R : Takes) : Prop where
  width_pos : 0 < b.width
  size : ∀ next p, (b.emit next p).size = p.size + b.width
  keeps : ∀ next p, Extends p (b.emit next p)
  implements : ∀ next p (q : Program), Extends (b.emit next p) q.states →
    Implements q text R p.size next

namespace Regex.Block.Lays

variable {b : Regex.Block} {R : Takes} {q : Program} {next : Nat}

theorem size_times (h : b.Lays text R) (n : Nat) (p : Array State) :
    (b.times n p).size = p.size + n * b.width := by
  induction n generalizing p with
  | zero => simp [times]
  | succ n ih =>
    rw [times, ih, h.size, Nat.succ_mul]
    omega

theorem keeps_times (h : b.Lays text R) (n : Nat) (p : Array State) :
    Extends p (b.times n p) := by
  induction n generalizing p with
  | zero => exact .refl p
  | succ n ih => exact (h.keeps _ p).trans (ih _)

theorem times (h : b.Lays text R) {S : Takes} {n : Nat} {p : Array State}
    (laid : Extends (b.times n p) q.states) (rest : Implements q text S (b.times n p).size next) :
    Implements q text ((R.iterate n).next S) p.size next := by
  induction n generalizing p with
  | zero => simpa [Takes.iterate, Regex.Block.times] using rest
  | succ n ih =>
    have first := h.implements (p.size + b.width) p q ((h.keeps_times n _).trans laid)
    have later := ih laid rest
    rw [h.size] at later
    rw [Takes.iterate, Takes.next_assoc]
    exact first.seq later

theorem size_exactly (h : b.Lays text R) (next n : Nat) (p : Array State) :
    (b.exactly next n p).size = p.size + max 1 (n * b.width) := by
  cases n with
  | zero => simp [exactly]
  | succ n =>
    have := h.width_pos
    rw [exactly, h.size, h.size_times, Nat.succ_mul]
    omega

theorem keeps_exactly (h : b.Lays text R) (next n : Nat) (p : Array State) :
    Extends p (b.exactly next n p) := by
  cases n with
  | zero => exact .push p _
  | succ n => exact (h.keeps_times n p).trans (h.keeps _ _)

theorem exactly (h : b.Lays text R) {n : Nat} {p : Array State}
    (laid : Extends (b.exactly next n p) q.states) :
    Implements q text (R.iterate n) p.size next := by
  cases n with
  | zero => exact .jump laid.getElem?_push
  | succ n =>
    rw [Takes.iterate_succ]
    exact h.times ((h.keeps _ _).trans laid) (h.implements next _ q laid)

theorem size_atMost (h : b.Lays text R) (greedy : Bool) (next n : Nat) (p : Array State) :
    (b.atMost greedy next n p).size = p.size + n * (b.width + 1) := by
  induction n generalizing p with
  | zero => simp [atMost]
  | succ n ih =>
    cases n with
    | zero =>
      rw [atMost, h.size, Array.size_push]
      omega
    | succ n =>
      rw [atMost, ih, h.size, Array.size_push, Nat.succ_mul (n + 1)]
      omega

theorem keeps_atMost (h : b.Lays text R) (greedy : Bool) (next n : Nat) (p : Array State) :
    Extends p (b.atMost greedy next n p) := by
  induction n generalizing p with
  | zero => exact .refl p
  | succ n ih =>
    cases n with
    | zero => exact (Extends.push p _).trans (h.keeps _ _)
    | succ n => exact ((Extends.push p _).trans (h.keeps _ _)).trans (ih _)

theorem atMost (h : b.Lays text R) {greedy : Bool} {n : Nat} {p : Array State}
    (laid : Extends (b.atMost greedy next (n + 1) p) q.states) :
    Implements q text (R.upTo (n + 1)) p.size next := by
  induction n generalizing p with
  | zero =>
    have first := h.implements next _ q laid
    rw [Array.size_push] at first
    rw [Takes.upTo_succ, Takes.upTo_zero, Takes.next_nothing]
    exact .again ((h.keeps _ _).trans laid).getElem?_push first
  | succ n ih =>
    have entered := (h.keeps_atMost greedy next (n + 1) _).trans laid
    have first := h.implements _ _ q entered
    have later := ih laid
    rw [h.size] at later
    rw [Array.size_push] at first later
    rw [Takes.upTo_succ]
    exact .again ((h.keeps _ _).trans entered).getElem?_push (first.seq later)

theorem size_many1 (h : b.Lays text R) (greedy : Bool) (next : Nat) (p : Array State) :
    (b.many1 greedy next p).size = p.size + b.width + 1 := by
  rw [many1, Array.size_push, h.size]

theorem keeps_many1 (h : b.Lays text R) (greedy : Bool) (next : Nat) (p : Array State) :
    Extends p (b.many1 greedy next p) :=
  (h.keeps _ p).trans (.push _ _)

theorem many1 (h : b.Lays text R) {greedy : Bool} {p : Array State}
    (laid : Extends (b.many1 greedy next p) q.states) :
    Implements q text (R.next R.star) p.size next := by
  have first := h.implements _ p q ((Extends.push _ _).trans laid)
  have choice := laid.getElem?_push
  rw [h.size] at choice
  exact first.plus choice

theorem size_many (h : b.Lays text R) (consuming greedy : Bool) (next : Nat) (p : Array State) :
    (b.many consuming greedy next p).size =
      p.size + if consuming then b.width + 1 else b.width + 2 := by
  cases consuming with
  | true =>
    simp only [many, if_true, h.size, Array.size_push]
    omega
  | false =>
    simp only [many, Bool.false_eq_true, if_false, h.size_many1, Array.size_push]
    omega

theorem keeps_many (h : b.Lays text R) (consuming greedy : Bool) (next : Nat) (p : Array State) :
    Extends p (b.many consuming greedy next p) := by
  cases consuming with
  | true => exact (Extends.push p _).trans (h.keeps _ _)
  | false => exact (Extends.push p _).trans (h.keeps_many1 _ _ _)

theorem many (h : b.Lays text R) {consuming greedy : Bool} {p : Array State}
    (laid : Extends (b.many consuming greedy next p) q.states) :
    Implements q text R.star p.size next := by
  cases consuming with
  | true =>
    have first := h.implements _ _ q laid
    rw [Array.size_push] at first
    exact .star ((h.keeps _ _).trans laid).getElem?_push first
  | false =>
    have first := h.many1 laid
    rw [Array.size_push] at first
    rw [Takes.star_eq]
    exact .again ((h.keeps_many1 _ _ _).trans laid).getElem?_push first

/-- A block of one state. -/
theorem state {s : Nat → State} (implements : ∀ {q : Program} {base next : Nat},
    q.states[base]? = some (s next) → Implements q text R base next) :
    Lays ⟨1, fun next p => p.push (s next)⟩ text R :=
  ⟨Nat.one_pos, fun _ _ => Array.size_push _, fun _ p => .push p _,
    fun _ _ _ laid => implements laid.getElem?_push⟩

section Combinations

variable {c : Regex.Block} {S : Takes}

theorem seq (h : b.Lays text R) (g : c.Lays text S) :
    Lays ⟨b.width + c.width, fun next p => c.emit next (b.emit (p.size + b.width) p)⟩ text
      (R.next S) := by
  refine ⟨Nat.add_pos_left h.width_pos _, fun next p => ?_,
    fun next p => (h.keeps _ p).trans (g.keeps next _), fun next p q laid => ?_⟩
  · rw [g.size, h.size, Nat.add_assoc]
  · have first := h.implements _ p q ((g.keeps next _).trans laid)
    have second := g.implements next _ q laid
    rw [h.size] at second
    exact first.seq second

theorem fork (h : b.Lays text R) (g : c.Lays text S) :
    Lays ⟨1 + b.width + c.width, fun next p =>
      c.emit next (b.emit next (p.push (.fork (p.size + 1) (p.size + 1 + b.width))))⟩ text
      (R.either S) := by
  refine ⟨by simp only; omega, fun next p => ?_,
    fun next p => ((Extends.push p _).trans (h.keeps next _)).trans (g.keeps next _),
    fun next p q laid => ?_⟩
  · rw [g.size, h.size, Array.size_push]
    simp only
    omega
  · have laid' := (g.keeps next _).trans laid
    have first := h.implements next _ q laid'
    have second := g.implements next _ q laid
    rw [h.size] at second
    rw [Array.size_push] at first second
    exact .fork ((h.keeps next _).trans laid').getElem?_push first second

/-- A block between two marks. -/
theorem marked (h : b.Lays text R) (k k' : Mark) :
    Lays ⟨b.width + 2, fun next p =>
      (b.emit (p.size + 1 + b.width) (p.push (.mark k (p.size + 1)))).push (.mark k' next)⟩ text
      (fun i j ms => ∃ ns, R i j ns ∧ ms = (k', j) :: (ns ++ [(k, i)])) := by
  refine ⟨Nat.succ_pos _, fun next p => ?_,
    fun next p => ((Extends.push p _).trans (h.keeps _ _)).trans (.push _ _),
    fun next p q laid => ?_⟩
  · rw [Array.size_push, h.size, Array.size_push]
    simp only
    omega
  · have laid' := (Extends.push _ _).trans laid
    have inside := h.implements _ _ q laid'
    have closed := laid.getElem?_push
    rw [h.size] at closed
    rw [Array.size_push] at inside closed
    refine ((Implements.mark ((h.keeps _ _).trans laid').getElem?_push).seq
      (inside.seq (.mark closed))).congr fun i j ms => ⟨?_, ?_⟩
    · rintro ⟨_, _, _, ⟨rfl, rfl⟩, ⟨_, ns, _, taken, ⟨rfl, rfl⟩, rfl⟩, rfl⟩
      exact ⟨ns, taken, rfl⟩
    · rintro ⟨ns, taken, rfl⟩
      exact ⟨i, _, _, ⟨rfl, rfl⟩, ⟨j, ns, _, taken, ⟨rfl, rfl⟩, rfl⟩, rfl⟩

end Combinations

theorem rounds (h : b.Lays text R) (consuming greedy : Bool) (least : Nat) (most : Option Nat) :
    Lays ⟨roundsWidth b.width consuming least most,
      fun next => b.rounds consuming greedy next least most⟩ text
      (fun i j ms => ∃ n, Allows least most n ∧ R.iterate n i j ms) := by
  have pos := h.width_pos
  cases most with
  | none =>
    rw [exists_allows_none]
    cases least with
    | zero =>
      refine ⟨?_, fun next p => ?_, fun next p => ?_, fun next p q laid => ?_⟩
      · simp only [roundsWidth]
        split <;> omega
      · exact h.size_many consuming greedy next p
      · exact h.keeps_many consuming greedy next p
      · rw [Takes.iterate, Takes.nothing_next]
        exact h.many laid
    | succ n =>
      refine ⟨?_, fun next p => ?_, fun next p => ?_, fun next p q laid => ?_⟩
      · simp [roundsWidth]
      · simp only [Block.rounds, roundsWidth, h.size_many1, h.size_times, Nat.succ_mul]
        omega
      · exact (h.keeps_times n p).trans (h.keeps_many1 greedy next _)
      · rw [Takes.iterate_succ, Takes.next_assoc]
        exact h.times ((h.keeps_many1 greedy next _).trans laid) (h.many1 laid)
  | some most =>
    rw [exists_allows_some]
    by_cases few : most ≤ least
    · refine ⟨?_, fun next p => ?_, fun next p => ?_, fun next p q laid => ?_⟩
      · simp [roundsWidth]
      · simp only [Block.rounds, few, if_true, roundsWidth, h.size_exactly,
          Nat.sub_eq_zero_of_le few, Nat.zero_mul, Nat.add_zero]
      · simp only [Block.rounds, few, if_true]
        exact h.keeps_exactly next least p
      · simp only [Block.rounds, few, if_true] at laid
        rw [Nat.sub_eq_zero_of_le few, Takes.upTo_zero, Takes.next_nothing]
        exact h.exactly laid
    · obtain ⟨n, more⟩ : ∃ n, most - least = n + 1 := ⟨most - least - 1, by omega⟩
      refine ⟨?_, fun next p => ?_, fun next p => ?_, fun next p q laid => ?_⟩
      · simp [roundsWidth]
      · simp only [Block.rounds, few, if_false, roundsWidth, h.size_atMost, h.size_times, more,
          Nat.succ_mul]
        omega
      · simp only [Block.rounds, few, if_false]
        exact (h.keeps_times least p).trans (h.keeps_atMost greedy next _ _)
      · simp only [Block.rounds, few, if_false, more] at laid
        rw [more]
        exact h.times ((h.keeps_atMost greedy next _ _).trans laid) (h.atMost laid)

end Regex.Block.Lays

namespace Regex

/-! ## Whole programs -/

theorem size_emitChars (next : Nat) (cs : List Char) (p : Array State) :
    (emitChars next cs p).size = p.size + max 1 cs.length := by
  fun_induction emitChars next cs p with
  | case1 => simp
  | case2 => simp
  | case3 p c cs some ih =>
    have := List.length_pos_iff.mpr some
    rw [ih, Array.size_push, List.length_cons]
    omega

theorem keeps_emitChars (next : Nat) (cs : List Char) (p : Array State) :
    Extends p (emitChars next cs p) := by
  fun_induction emitChars next cs p with
  | case1 => exact .push _ _
  | case2 => exact .push _ _
  | case3 => exact (Extends.push _ _).trans (by assumption)

/-- What the characters of a literal take up. -/
def spelled (text : Array Char) (cs : List Char) : Takes := fun i j ms =>
  Spells text cs i j ∧ ms = []

theorem spelled_single (c : Char) : spelled text [c] = fun i j ms =>
    (∃ d, text[i]? = some d ∧ (CharSet.single c).contains d = true) ∧ i + 1 = j ∧ ms = [] := by
  refine Takes.ext fun i j ms => ?_
  simp [spelled, Spells, and_assoc]

theorem spelled_cons (c : Char) (cs : List Char) :
    spelled text (c :: cs) = (spelled text [c]).next (spelled text cs) := by
  refine Takes.ext fun i j ms => ⟨?_, ?_⟩
  · rintro ⟨⟨first, rest⟩, rfl⟩
    exact ⟨i + 1, [], [], ⟨⟨first, rfl⟩, rfl⟩, ⟨rest, rfl⟩, rfl⟩
  · rintro ⟨_, _, _, ⟨⟨first, rfl⟩, rfl⟩, ⟨rest, rfl⟩, rfl⟩
    exact ⟨⟨first, rest⟩, rfl⟩

theorem emitChars_implements {next : Nat} {cs : List Char} {p : Array State} {q : Program}
    (laid : Extends (emitChars next cs p) q.states) :
    Implements q text (spelled text cs) p.size next := by
  fun_induction emitChars next cs p with
  | case1 =>
    refine (Implements.jump laid.getElem?_push).congr fun i j ms => ?_
    simp [Takes.nothing, spelled, Spells]
  | case2 =>
    rw [spelled_single]
    exact .set laid.getElem?_push
  | case3 _ c cs _ ih =>
    have later := ih laid
    rw [Array.size_push] at later
    rw [spelled_cons, spelled_single]
    exact Implements.seq (.set ((keeps_emitChars next _ _).trans laid).getElem?_push) later

/-- The states of an expression are a block that takes up what the expression matches. -/
theorem emit_lays (r : Regex) : Block.Lays ⟨r.width, r.emit⟩ text (r.Run text) := by
  induction r with
  | empty => exact .state .jump
  | literal cs =>
    exact ⟨Nat.lt_of_lt_of_le Nat.one_pos (Nat.le_max_left _ _),
      fun next p => size_emitChars next cs p, fun next p => keeps_emitChars next cs p,
      fun _ _ _ laid => emitChars_implements laid⟩
  | set ascii s => exact .state .set
  | look l => exact .state .look
  | cat a b iha ihb => exact iha.seq ihb
  | alt a b iha ihb => exact iha.fork ihb
  | rounds least most greedy r ih => exact ih.rounds r.isConsuming greedy least most
  | group index r ih => exact ih.marked (.opened index) (.closed index)

theorem program_implements (r : Regex) :
    Implements r.program text ((group 0 r).Run text) 0 (group 0 r).width := by
  have laid := @emit_lays text (group 0 r)
  exact laid.implements _ #[] _ (.push _ _)

theorem program_accept (r : Regex) :
    r.program.states[(group 0 r).width]? = some .accept := by
  have laid := @emit_lays #[] (group 0 r)
  have last := (Extends.refl (((group 0 r).emit (group 0 r).width #[]).push .accept)).getElem?_push
  rw [laid.size] at last
  simpa [program] using last

/-- A way to acceptance is a run of the expression, with its marks. -/
theorem run_of_reaches {r : Regex} {i : Nat} {t : Thread}
    (way : Reaches r.program text ⟨0, i, []⟩ t) (accepted : t.isAccepted r.program = true) :
    ∃ j, (group 0 r).Run text i j t.marks := by
  obtain ⟨n, way⟩ := way
  obtain ⟨m, j, ns, -, taken, rest⟩ := (program_implements r).sound way accepted
  -- nothing follows the state at which the block is left
  obtain rfl : t = ⟨(group 0 r).width, j, ns ++ []⟩ := by
    cases rest with
    | refl => rfl
    | step first => simp [Thread.next, program_accept] at first
  exact ⟨j, by simpa using taken⟩

/-- What is found is a run of the expression, with its marks. -/
theorem program_search_run {r : Regex} {c : Captures} (h : r.program.search text = some c) :
    ∃ i j, i ≤ text.size ∧ (group 0 r).Run text i j c.marks := by
  rw [Program.search, Option.map_eq_some_iff] at h
  obtain ⟨t, found, rfl⟩ := h
  obtain ⟨accepted, u, hu, way⟩ := explore_sound found
  simp only [Program.starts, List.mem_map, List.mem_range] at hu
  obtain ⟨i, hi, rfl⟩ := hu
  obtain ⟨j, taken⟩ := run_of_reaches way accepted
  exact ⟨i, j, Nat.le_of_lt_succ hi, taken⟩

/-- A search finds something in a text exactly if the expression matches some part of it. -/
theorem program_search_isSome_iff {r : Regex} : (r.program.search text).isSome = true ↔
    ∃ i j, i ≤ text.size ∧ r.Matches text i j := by
  constructor
  · intro h
    obtain ⟨c, found⟩ := Option.isSome_iff_exists.mp h
    obtain ⟨i, j, hi, taken⟩ := program_search_run found
    exact ⟨i, j, hi, matches_group.mp ⟨_, taken⟩⟩
  · rintro ⟨i, j, hi, taken⟩
    obtain ⟨ns, taken⟩ := (@matches_group text i j 0 r).mpr taken
    refine Program.search_isSome_iff.mpr ⟨i, hi, _, (program_implements r).complete taken [], ?_⟩
    simp [Thread.isAccepted, program_accept]

end Regex

end StepExpr
