import StepExpr.Regex.Program

/-!
# What expressions match

The meaning of regular expressions, without a program: which parts of a text an expression can take
up, and which group boundaries it meets there.

* `Regex.Run` is the meaning, by recursion on the expression;
* `Regex.Matches` forgets the group boundaries;
* `Regex.Matches.eq_of_isBlank`: what is known to be empty takes up nothing.
-/

namespace StepExpr

/-- Group boundaries with their positions, the latest first. -/
abbrev Marks := List (Mark × Nat)

/-- Which parts of a text, from one position to another, can be taken up, and with which marks. -/
abbrev Takes := Nat → Nat → Marks → Prop

namespace Takes

/-- Takes up nothing. -/
def nothing : Takes := fun i j ms => i = j ∧ ms = []

/-- One after the other. -/
def next (R S : Takes) : Takes := fun i j ms =>
  ∃ k ns os, R i k ns ∧ S k j os ∧ ms = os ++ ns

def either (R S : Takes) : Takes := fun i j ms => R i j ms ∨ S i j ms

/-- `n` times, one after the other. -/
def iterate (R : Takes) : Nat → Takes
  | 0 => nothing
  | n + 1 => R.next (R.iterate n)

/-- At most `n` times. -/
def upTo (R : Takes) (n : Nat) : Takes := fun i j ms => ∃ k ≤ n, R.iterate k i j ms

/-- Any number of times. -/
def star (R : Takes) : Takes := fun i j ms => ∃ k, R.iterate k i j ms

variable {R S T : Takes}

protected theorem ext (h : ∀ i j ms, R i j ms ↔ S i j ms) : R = S :=
  funext fun i => funext fun j => funext fun ms => propext (h i j ms)

theorem next_assoc : (R.next S).next T = R.next (S.next T) := by
  refine Takes.ext fun i j ms => ⟨?_, ?_⟩
  · rintro ⟨l, _, os, ⟨k, ms, ns, first, second, rfl⟩, third, rfl⟩
    exact ⟨k, ms, os ++ ns, first, ⟨l, ns, os, second, third, rfl⟩, by simp⟩
  · rintro ⟨k, ms, _, first, ⟨l, ns, os, second, third, rfl⟩, rfl⟩
    exact ⟨l, ns ++ ms, os, ⟨k, ms, ns, first, second, rfl⟩, third, by simp⟩

@[simp] theorem nothing_next : nothing.next R = R := by
  refine Takes.ext fun i j ms => ⟨?_, fun h => ⟨i, [], ms, ⟨rfl, rfl⟩, h, by simp⟩⟩
  rintro ⟨k, _, os, ⟨rfl, rfl⟩, h, rfl⟩
  simpa using h

@[simp] theorem next_nothing : R.next nothing = R := by
  refine Takes.ext fun i j ms => ⟨?_, fun h => ⟨j, ms, [], h, ⟨rfl, rfl⟩, rfl⟩⟩
  rintro ⟨k, ns, _, h, ⟨rfl, rfl⟩, rfl⟩
  exact h

theorem iterate_add (m n : Nat) : R.iterate (m + n) = (R.iterate m).next (R.iterate n) := by
  induction m with
  | zero => simp [iterate]
  | succ m ih => rw [Nat.succ_add, iterate, ih, iterate, next_assoc]

@[simp] theorem iterate_one : R.iterate 1 = R := by
  simp [iterate]

theorem iterate_succ (n : Nat) : R.iterate (n + 1) = (R.iterate n).next R := by
  rw [iterate_add, iterate_one]

@[simp] theorem upTo_zero : R.upTo 0 = nothing := by
  refine Takes.ext fun i j ms => ⟨?_, fun h => ⟨0, Nat.le_refl 0, h⟩⟩
  rintro ⟨k, bound, h⟩
  obtain rfl := Nat.le_zero.mp bound
  exact h

theorem upTo_succ (n : Nat) : R.upTo (n + 1) = (R.next (R.upTo n)).either nothing := by
  refine Takes.ext fun i j ms => ⟨?_, ?_⟩
  · rintro ⟨k, bound, h⟩
    cases k with
    | zero => exact .inr h
    | succ k =>
      obtain ⟨l, ns, os, first, rest, rfl⟩ := h
      exact .inl ⟨l, ns, os, first, ⟨k, by omega, rest⟩, rfl⟩
  · rintro (⟨l, ns, os, first, ⟨k, bound, rest⟩, rfl⟩ | h)
    · exact ⟨k + 1, by omega, l, ns, os, first, rest, rfl⟩
    · exact ⟨0, Nat.zero_le _, h⟩

theorem star_eq : R.star = (R.next R.star).either nothing := by
  refine Takes.ext fun i j ms => ⟨?_, ?_⟩
  · rintro ⟨k, h⟩
    cases k with
    | zero => exact .inr h
    | succ k =>
      obtain ⟨l, ns, os, first, rest, rfl⟩ := h
      exact .inl ⟨l, ns, os, first, ⟨k, rest⟩, rfl⟩
  · rintro (⟨l, ns, os, first, ⟨k, rest⟩, rfl⟩ | h)
    · exact ⟨k + 1, l, ns, os, first, rest, rfl⟩
    · exact ⟨0, h⟩

end Takes

namespace Regex

/-- The characters `cs` stand in the text from one position to the other. -/
def Spells (text : Array Char) : List Char → Nat → Nat → Prop
  | [], i, j => i = j
  | c :: cs, i, j => text[i]? = some c ∧ Spells text cs (i + 1) j

/-- Whether a repetition can go round `n` times. -/
def Allows (least : Nat) (most : Option Nat) (n : Nat) : Prop :=
  least ≤ n ∧ ∀ m, most = some m → n ≤ max least m

/-- The parts of a text that an expression takes up, with the boundaries of its groups. -/
def Run (text : Array Char) : Regex → Takes
  | empty => .nothing
  | literal cs => fun i j ms => Spells text cs i j ∧ ms = []
  | set _ s => fun i j ms => (∃ c, text[i]? = some c ∧ s.contains c = true) ∧ i + 1 = j ∧ ms = []
  | look l => fun i j ms => l.holds text i = true ∧ i = j ∧ ms = []
  | cat a b => (a.Run text).next (b.Run text)
  | alt a b => (a.Run text).either (b.Run text)
  | rounds least most _ r => fun i j ms => ∃ n, Allows least most n ∧ (r.Run text).iterate n i j ms
  | group index r => fun i j ms =>
    ∃ ns, r.Run text i j ns ∧ ms = (.closed index, j) :: (ns ++ [(.opened index, i)])

/-- An expression can take up the part of a text between two positions. -/
def Matches (text : Array Char) (r : Regex) (i j : Nat) : Prop := ∃ ms, r.Run text i j ms

theorem exists_allows_none (R : Takes) (least : Nat) :
    (fun i j ms => ∃ n, Allows least none n ∧ R.iterate n i j ms) =
      (R.iterate least).next R.star := by
  refine Takes.ext fun i j ms => ⟨?_, ?_⟩
  · rintro ⟨n, ⟨enough, -⟩, h⟩
    rw [← Nat.add_sub_cancel' enough, Takes.iterate_add] at h
    obtain ⟨k, ns, os, first, rest, rfl⟩ := h
    exact ⟨k, ns, os, first, ⟨_, rest⟩, rfl⟩
  · rintro ⟨k, ns, os, first, ⟨n, rest⟩, rfl⟩
    refine ⟨least + n, ⟨Nat.le_add_right _ _, by simp⟩, ?_⟩
    rw [Takes.iterate_add]
    exact ⟨k, ns, os, first, rest, rfl⟩

theorem exists_allows_some (R : Takes) (least most : Nat) :
    (fun i j ms => ∃ n, Allows least (some most) n ∧ R.iterate n i j ms) =
      (R.iterate least).next (R.upTo (most - least)) := by
  refine Takes.ext fun i j ms => ⟨?_, ?_⟩
  · rintro ⟨n, ⟨enough, bound⟩, h⟩
    have bound := bound most rfl
    rw [← Nat.add_sub_cancel' enough, Takes.iterate_add] at h
    obtain ⟨k, ns, os, first, rest, rfl⟩ := h
    exact ⟨k, ns, os, first, ⟨_, by omega, rest⟩, rfl⟩
  · rintro ⟨k, ns, os, first, ⟨n, bound, rest⟩, rfl⟩
    refine ⟨least + n, ⟨Nat.le_add_right _ _, ?_⟩, ?_⟩
    · intro m hm
      have := Option.some.inj hm
      omega
    · rw [Takes.iterate_add]
      exact ⟨k, ns, os, first, rest, rfl⟩

/-- Some parts of a text that follow each other, `n` of them. -/
def Chain (R : Nat → Nat → Prop) : Nat → Nat → Nat → Prop
  | 0, i, j => i = j
  | n + 1, i, j => ∃ k, R i k ∧ Chain R n k j

section

variable {text : Array Char} {i j : Nat}

@[simp] theorem matches_empty : empty.Matches text i j ↔ i = j := by
  simp [Matches, Run, Takes.nothing]

@[simp] theorem matches_literal {cs : List Char} :
    (literal cs).Matches text i j ↔ Spells text cs i j := by
  simp [Matches, Run]

@[simp] theorem matches_set {ascii : Bool} {s : CharSet} : (set ascii s).Matches text i j ↔
    (∃ c, text[i]? = some c ∧ s.contains c = true) ∧ i + 1 = j := by
  simp [Matches, Run]

@[simp] theorem matches_look {l : Look} :
    (look l).Matches text i j ↔ l.holds text i = true ∧ i = j := by
  simp [Matches, Run]

@[simp] theorem matches_cat {a b : Regex} :
    (cat a b).Matches text i j ↔ ∃ k, a.Matches text i k ∧ b.Matches text k j := by
  constructor
  · rintro ⟨_, k, ns, os, ha, hb, -⟩
    exact ⟨k, ⟨ns, ha⟩, ⟨os, hb⟩⟩
  · rintro ⟨k, ⟨ns, ha⟩, ⟨os, hb⟩⟩
    exact ⟨os ++ ns, k, ns, os, ha, hb, rfl⟩

@[simp] theorem matches_alt {a b : Regex} :
    (alt a b).Matches text i j ↔ a.Matches text i j ∨ b.Matches text i j :=
  exists_or

@[simp] theorem matches_group {index : Nat} {r : Regex} :
    (group index r).Matches text i j ↔ r.Matches text i j := by
  constructor
  · rintro ⟨_, ns, h, -⟩
    exact ⟨ns, h⟩
  · rintro ⟨ns, h⟩
    exact ⟨_, ns, h, rfl⟩

theorem exists_iterate {R : Takes} {n : Nat} :
    (∃ ms, R.iterate n i j ms) ↔ Chain (fun i j => ∃ ms, R i j ms) n i j := by
  induction n generalizing i with
  | zero => simp [Takes.iterate, Takes.nothing, Chain]
  | succ n ih =>
    constructor
    · rintro ⟨_, k, ns, os, first, rest, -⟩
      exact ⟨k, ⟨ns, first⟩, ih.mp ⟨os, rest⟩⟩
    · rintro ⟨k, ⟨ns, first⟩, rest⟩
      obtain ⟨os, rest⟩ := ih.mpr rest
      exact ⟨os ++ ns, k, ns, os, first, rest, rfl⟩

@[simp] theorem matches_rounds {least : Nat} {most : Option Nat} {greedy : Bool} {r : Regex} :
    (rounds least most greedy r).Matches text i j ↔
      ∃ n, Allows least most n ∧ Chain (r.Matches text) n i j := by
  constructor
  · rintro ⟨ms, n, allowed, h⟩
    exact ⟨n, allowed, exists_iterate.mp ⟨ms, h⟩⟩
  · rintro ⟨n, allowed, h⟩
    obtain ⟨ms, h⟩ := exists_iterate.mpr h
    exact ⟨ms, n, allowed, h⟩

theorem Chain.congr {R S : Nat → Nat → Prop} (h : ∀ i j, R i j ↔ S i j) {n : Nat} :
    Chain R n i j ↔ Chain S n i j := by
  obtain rfl : R = S := funext fun i => funext fun j => propext (h i j)
  exact Iff.rfl

theorem chain_set {ascii : Bool} {set : CharSet} {n : Nat} :
    Chain ((Regex.set ascii set).Matches text) n i j ↔
      ∃ s, s.length = n ∧ Spells text s i j ∧ ∀ c ∈ s, set.contains c = true := by
  induction n generalizing i with
  | zero =>
    constructor
    · intro same
      exact ⟨[], rfl, same, by simp⟩
    · rintro ⟨s, none, spelled, -⟩
      rw [List.eq_nil_of_length_eq_zero none] at spelled
      exact spelled
  | succ n ih =>
    simp only [Chain, matches_set, ih]
    constructor
    · rintro ⟨k, ⟨⟨c, here, inside⟩, rfl⟩, s, rfl, spelled, all⟩
      exact ⟨c :: s, rfl, ⟨here, spelled⟩, List.forall_mem_cons.mpr ⟨inside, all⟩⟩
    · rintro ⟨s, length, spelled, all⟩
      cases s with
      | nil => cases length
      | cons c s =>
        obtain ⟨inside, all⟩ := List.forall_mem_cons.mp all
        exact ⟨i + 1, ⟨⟨c, spelled.1, inside⟩, rfl⟩, s, Nat.succ.inj length, spelled.2, all⟩

theorem matches_textStart (within : i ≤ text.size) :
    (look .textStart).Matches text i j ↔ i = 0 ∧ i = j := by
  by_cases first : i = 0
  · simp [Look.holds, Look.before?, first]
  · have before : i - 1 < text.size := by omega
    simp [Look.holds, Look.before?, first, before]

theorem matches_textEnd : (look .textEnd).Matches text i j ↔ text.size ≤ i ∧ i = j := by
  simp [Look.holds]

/-! ## Length -/

theorem Spells.eq_add {cs : List Char} (h : Spells text cs i j) : j = i + cs.length := by
  induction cs generalizing i with
  | nil => exact h.symm
  | cons c cs ih =>
    have := ih h.2
    simp only [List.length_cons]
    omega

theorem Chain.le_add {R : Nat → Nat → Prop} {m : Nat} (h : ∀ i j, R i j → j ≤ i + m) {n : Nat}
    (chain : Chain R n i j) : j ≤ i + n * m := by
  induction n generalizing i with
  | zero => exact Nat.le_of_eq (by simpa [Chain] using Eq.symm chain)
  | succ n ih =>
    obtain ⟨k, first, rest⟩ := chain
    have := h i k first
    have := ih rest
    rw [Nat.succ_mul]
    omega

theorem Matches.le_add {r : Regex} {m : Nat} (hm : r.maxLength? = some m)
    (h : r.Matches text i j) : j ≤ i + m := by
  induction r generalizing i j m with
  | empty =>
    have : i = j := by simpa using h
    omega
  | literal cs =>
    obtain rfl := Option.some.inj hm
    exact Nat.le_of_eq (Spells.eq_add (by simpa using h))
  | set ascii s =>
    obtain ⟨-, rfl⟩ := matches_set.mp h
    cases hs : s.isEmpty with
    | true => simp [maxLength?, hs] at hm
    | false =>
      obtain rfl : 1 = m := by simpa [maxLength?, hs] using hm
      exact Nat.le_refl _
  | look l =>
    obtain ⟨-, rfl⟩ := matches_look.mp h
    omega
  | cat a b iha ihb =>
    obtain ⟨k, ha, hb⟩ := matches_cat.mp h
    simp only [maxLength?, Option.bind_eq_bind, Option.bind_eq_some_iff, Option.some.injEq] at hm
    obtain ⟨x, hx, y, hy, rfl⟩ := hm
    have := iha hx ha
    have := ihb hy hb
    omega
  | alt a b iha ihb =>
    simp only [maxLength?, Option.bind_eq_bind, Option.bind_eq_some_iff, Option.some.injEq] at hm
    obtain ⟨x, hx, y, hy, rfl⟩ := hm
    rcases matches_alt.mp h with h | h
    · have := iha hx h
      omega
    · have := ihb hy h
      omega
  | rounds least most greedy r ih =>
    obtain ⟨n, ⟨-, bound⟩, chain⟩ := matches_rounds.mp h
    simp only [maxLength?, Option.bind_eq_bind, Option.bind_eq_some_iff, Option.some.injEq] at hm
    obtain ⟨x, hx, y, hy, rfl⟩ := hm
    have := chain.le_add fun i j => ih hy
    have := Nat.mul_le_mul_right y (bound x hx)
    omega
  | group index r ih => exact ih hm (matches_group.mp h)

theorem Chain.le {R : Nat → Nat → Prop} (h : ∀ i j, R i j → i ≤ j) {n : Nat}
    (chain : Chain R n i j) : i ≤ j := by
  induction n generalizing i with
  | zero => exact Nat.le_of_eq chain
  | succ n ih =>
    obtain ⟨k, first, rest⟩ := chain
    exact Nat.le_trans (h i k first) (ih rest)

theorem Matches.le {r : Regex} (h : r.Matches text i j) : i ≤ j := by
  induction r generalizing i j with
  | empty => exact Nat.le_of_eq (by simpa using h)
  | literal cs =>
    have := Spells.eq_add (matches_literal.mp h)
    omega
  | set ascii s => exact Nat.le_of_succ_le (Nat.le_of_eq (matches_set.mp h).2)
  | look l => exact Nat.le_of_eq (matches_look.mp h).2
  | cat a b iha ihb =>
    obtain ⟨k, ha, hb⟩ := matches_cat.mp h
    exact Nat.le_trans (iha ha) (ihb hb)
  | alt a b iha ihb => exact (matches_alt.mp h).elim iha ihb
  | rounds least most greedy r ih =>
    obtain ⟨n, -, chain⟩ := matches_rounds.mp h
    exact chain.le fun i j => ih
  | group index r ih => exact ih (matches_group.mp h)

theorem Spells.le_size {cs : List Char} (h : Spells text cs i j) (within : i ≤ text.size) :
    j ≤ text.size := by
  induction cs generalizing i with
  | nil => exact Nat.le_trans (Nat.le_of_eq h.symm) within
  | cons c cs ih =>
    obtain ⟨here, others⟩ := h
    obtain ⟨room, -⟩ := Array.getElem?_eq_some_iff.mp here
    exact ih others room

theorem Spells.getElem? {cs : List Char} {k : Nat} (h : Spells text cs i j) (late : i ≤ k)
    (early : k < j) : ∃ c ∈ cs, text[k]? = some c := by
  induction cs generalizing i with
  | nil =>
    obtain rfl : i = j := h
    omega
  | cons c cs ih =>
    rcases Nat.eq_or_lt_of_le late with rfl | later
    · exact ⟨c, List.mem_cons_self, h.1⟩
    · obtain ⟨d, hd, here⟩ := ih h.2 later
      exact ⟨d, List.mem_cons_of_mem c hd, here⟩

theorem Chain.le_size {R : Nat → Nat → Prop} {size : Nat}
    (h : ∀ i j, R i j → i ≤ size → j ≤ size) {n : Nat} (chain : Chain R n i j)
    (within : i ≤ size) : j ≤ size := by
  induction n generalizing i with
  | zero => exact Nat.le_trans (Nat.le_of_eq (Eq.symm chain)) within
  | succ n ih =>
    obtain ⟨k, first, rest⟩ := chain
    exact ih rest (h i k first within)

/-- What is taken up from a position in the text ends in the text. -/
theorem Matches.le_size {r : Regex} (h : r.Matches text i j) (within : i ≤ text.size) :
    j ≤ text.size := by
  induction r generalizing i j with
  | empty =>
    obtain rfl := matches_empty.mp h
    exact within
  | literal cs => exact (matches_literal.mp h).le_size within
  | set ascii s =>
    obtain ⟨⟨c, here, -⟩, rfl⟩ := matches_set.mp h
    obtain ⟨room, -⟩ := Array.getElem?_eq_some_iff.mp here
    exact room
  | look l =>
    obtain ⟨-, rfl⟩ := matches_look.mp h
    exact within
  | cat a b iha ihb =>
    obtain ⟨k, ha, hb⟩ := matches_cat.mp h
    exact ihb hb (iha ha within)
  | alt a b iha ihb =>
    rcases matches_alt.mp h with h | h
    · exact iha h within
    · exact ihb h within
  | rounds least most greedy r ih =>
    obtain ⟨n, -, chain⟩ := matches_rounds.mp h
    exact chain.le_size (fun i j => ih) within
  | group index r ih => exact ih (matches_group.mp h) within

theorem Matches.eq_of_isBlank {r : Regex} (blank : r.isBlank = true) (h : r.Matches text i j) :
    i = j := by
  have bound : r.maxLength? = some 0 := by simpa [isBlank] using blank
  have := h.le_add bound
  have := h.le
  omega

end

end Regex

end StepExpr
