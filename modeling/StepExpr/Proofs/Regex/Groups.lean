import StepExpr.Proofs.Group.Nest
import StepExpr.Proofs.Regex.Sequence

/-!
# The groups of expressions

The groups of a pattern are numbered in a row, in the order of their opening parentheses, and the
groups inside of one have the numbers that follow its own. A run marks the boundaries of groups only
where it passes.

* `Regex.Obeys` bounds the numbers of the groups in an expression, and can forbid tests of
  positions;
* `Pattern.numbered_of_branchesFrom?`: those of the expression of a pattern are the next ones;
* `Pattern.RunsAll.laid`: groups that stand side by side take up parts of a text side by side, and
  the groups inside of them are found in these parts.
-/

namespace StepExpr

/-- The number of the group that a mark is a boundary of. -/
def Mark.number : Mark → Nat
  | .opened n | .closed n => n

namespace Regex

variable {text : Array Char} {i j lo hi lo' hi' : Nat} {a b r : Regex} {rs : List Regex} {ms : Marks}

/-! ## Numbers -/

/-- All groups have numbers that `numbers` allows, and positions are tested only if `tests` does. -/
def Obeys (tests : Prop) (numbers : Nat → Prop) : Regex → Prop
  | empty | literal _ | set _ _ => True
  | look _ => tests
  | cat a b | alt a b => a.Obeys tests numbers ∧ b.Obeys tests numbers
  | rounds _ _ _ r => r.Obeys tests numbers
  | group n r => numbers n ∧ r.Obeys tests numbers

/-- The numbers of all groups are `lo` at least, and less than `hi`. -/
abbrev Numbered (lo hi : Nat) (r : Regex) : Prop := r.Obeys True fun n => lo ≤ n ∧ n < hi

/-- No position is tested. -/
abbrev Floats (r : Regex) : Prop := r.Obeys False fun _ => True

variable {tests : Prop} {numbers numbers' : Nat → Prop}

theorem Obeys.mono (h : r.Obeys tests numbers) (wider : ∀ n, numbers n → numbers' n) :
    r.Obeys tests numbers' := by
  induction r with
  | empty | literal _ | set _ _ => trivial
  | look _ => exact h
  | cat a b iha ihb | alt a b iha ihb => exact ⟨iha h.1, ihb h.2⟩
  | rounds _ _ _ r ih => exact ih h
  | group n r ih => exact ⟨wider n h.1, ih h.2⟩

theorem Obeys.widen (h : r.Obeys tests fun n => lo ≤ n ∧ n < hi) (low : lo' ≤ lo)
    (high : hi ≤ hi') : r.Obeys tests fun n => lo' ≤ n ∧ n < hi' :=
  h.mono fun _ ⟨before, behind⟩ => ⟨Nat.le_trans low before, Nat.lt_of_lt_of_le behind high⟩

theorem obeys_ofSet (ascii : Bool) (s : CharSet) : (ofSet ascii s).Obeys tests numbers := by
  unfold ofSet
  split
  · trivial
  · split <;> trivial

theorem obeys_append :
    (a.append b).Obeys tests numbers ↔ a.Obeys tests numbers ∧ b.Obeys tests numbers := by
  fun_induction append a b <;> simp_all [Obeys, and_assoc]

theorem obeys_concat : (concat rs).Obeys tests numbers ↔ ∀ r ∈ rs, r.Obeys tests numbers := by
  induction rs with
  | nil => simp [concat, Obeys]
  | cons r rs ih =>
    rw [concat, List.foldr_cons, obeys_append, List.forall_mem_cons, ← ih]
    rfl

theorem obeys_items : (∀ s ∈ r.items, s.Obeys tests numbers) ↔ r.Obeys tests numbers := by
  fun_induction items r <;> simp_all [Obeys]

theorem obeys_branches : (∀ s ∈ r.branches, s.Obeys tests numbers) ↔ r.Obeys tests numbers := by
  fun_induction branches r <;> simp_all [Obeys]

theorem obeys_ofBranches (h : ∀ r ∈ rs, r.Obeys tests numbers) :
    (ofBranches rs).Obeys tests numbers := by
  fun_induction ofBranches rs <;> simp_all [Obeys, never]

theorem obeys_repeated {least : Nat} {most : Option Nat} {greedy : Bool}
    (h : r.Obeys tests numbers) : (repeated least most greedy r).Obeys tests numbers := by
  unfold repeated
  split
  split
  · trivial
  · split
    · exact h
    · exact h

theorem obeys_flatMap_branches (h : ∀ r ∈ rs, r.Obeys tests numbers) :
    ∀ b ∈ rs.flatMap branches, b.Obeys tests numbers := by
  intro b hb
  obtain ⟨r, hr, hb⟩ := List.mem_flatMap.mp hb
  exact obeys_branches.mpr (h r hr) b hb

/-- What branches have in common is part of the first one. -/
theorem obeys_sharedItems (h : ∀ r ∈ rs, r.Obeys tests numbers) :
    ∀ s ∈ sharedItems rs, s.Obeys tests numbers := by
  intro s hs
  cases rs with
  | nil => cases hs
  | cons r rs =>
    have shared := sharedItems_prefix (List.mem_cons_self (a := r) (l := rs))
    exact obeys_items.mpr (h r List.mem_cons_self) s (shared.subset hs)

theorem Chooses.obeys (chosen : Chooses rs r) (h : ∀ s ∈ rs, s.Obeys tests numbers) :
    r.Obeys tests numbers := by
  induction chosen with
  | single => exact h _ List.mem_cons_self
  | set => exact obeys_ofSet _ _
  | branches => exact obeys_ofBranches (obeys_flatMap_branches h)
  | shared _ ih =>
    have each := obeys_flatMap_branches h
    rw [obeys_concat]
    refine List.forall_mem_append.mpr ⟨obeys_sharedItems each, ?_⟩
    refine List.forall_mem_singleton.mpr (ih fun s hs => ?_)
    obtain ⟨r, hr, rfl⟩ := List.mem_map.mp hs
    refine obeys_concat.mpr fun item hi => ?_
    exact obeys_items.mpr (each r hr) item (List.mem_of_mem_drop hi)

theorem obeys_alternation (h : ∀ r ∈ rs, r.Obeys tests numbers) :
    (alternation rs).Obeys tests numbers := by
  unfold alternation
  split
  · exact h _ List.mem_cons_self
  · exact (chooses_alternationTo _ _).obeys h

/-! ## Marks -/

/-- All marks are boundaries of groups numbered from `lo` to `hi`, and stand from `i` to `j`. -/
def Within (lo hi i j : Nat) (ms : Marks) : Prop :=
  ∀ m ∈ ms, lo ≤ m.1.number ∧ m.1.number < hi ∧ i ≤ m.2 ∧ m.2 ≤ j

theorem Within.widen {i' j' : Nat} (h : Within lo hi i j ms) (low : lo' ≤ lo) (high : hi ≤ hi')
    (start : i' ≤ i) (stop : j ≤ j') : Within lo' hi' i' j' ms := by
  intro m hm
  obtain ⟨h₁, h₂, h₃, h₄⟩ := h m hm
  omega

theorem within_iterate {R : Takes} {n : Nat} (le : ∀ i j ms, R i j ms → i ≤ j)
    (each : ∀ i j ms, R i j ms → Within lo hi i j ms) (h : R.iterate n i j ms) :
    i ≤ j ∧ Within lo hi i j ms := by
  induction n generalizing i ms with
  | zero =>
    obtain ⟨rfl, rfl⟩ := h
    exact ⟨Nat.le_refl _, by simp [Within]⟩
  | succ n ih =>
    obtain ⟨k, ns, os, first, others, rfl⟩ := h
    have before := le i k ns first
    obtain ⟨behind, later⟩ := ih others
    refine ⟨Nat.le_trans before behind, List.forall_mem_append.mpr ⟨?_, ?_⟩⟩
    · exact later.widen (Nat.le_refl _) (Nat.le_refl _) before (Nat.le_refl _)
    · exact (each i k ns first).widen (Nat.le_refl _) (Nat.le_refl _) (Nat.le_refl _) behind

/-- A run marks its own groups only, and only where it passes. -/
theorem Obeys.within (numbered : r.Numbered lo hi) (h : r.Run text i j ms) :
    Within lo hi i j ms := by
  have le {r : Regex} {i j : Nat} {ms : Marks} (h : r.Run text i j ms) : i ≤ j :=
    Matches.le ⟨ms, h⟩
  induction r generalizing i j ms with
  | empty =>
    obtain ⟨-, rfl⟩ := h
    simp [Within]
  | literal cs =>
    obtain ⟨-, rfl⟩ := h
    simp [Within]
  | set ascii s =>
    obtain ⟨-, -, rfl⟩ := h
    simp [Within]
  | look l =>
    obtain ⟨-, -, rfl⟩ := h
    simp [Within]
  | cat a b iha ihb =>
    obtain ⟨k, ns, os, first, second, rfl⟩ := h
    refine List.forall_mem_append.mpr ⟨?_, ?_⟩
    · exact (ihb numbered.2 second).widen (Nat.le_refl _) (Nat.le_refl _) (le first) (Nat.le_refl _)
    · exact (iha numbered.1 first).widen (Nat.le_refl _) (Nat.le_refl _) (Nat.le_refl _) (le second)
  | alt a b iha ihb =>
    rcases h with h | h
    · exact iha numbered.1 h
    · exact ihb numbered.2 h
  | rounds least most greedy r ih =>
    obtain ⟨n, -, h⟩ := h
    exact (within_iterate (fun _ _ _ => le) (fun i j ms => ih numbered) h).2
  | group n r ih =>
    obtain ⟨⟨low, high⟩, numbered⟩ := numbered
    obtain ⟨ns, taken, rfl⟩ := h
    have inside := ih numbered taken
    have order := le taken
    refine List.forall_mem_cons.mpr ⟨?_, List.forall_mem_append.mpr ⟨inside, ?_⟩⟩
    · exact ⟨low, high, order, Nat.le_refl j⟩
    · exact List.forall_mem_singleton.mpr ⟨low, high, Nat.le_refl i, order⟩

end Regex

/-! ## Patterns -/

namespace Pattern

open Regex

variable {text : Array Char} {i j n next : Nat} {p : Pattern} {ps : List Pattern} {f g : Flags}

/-- The capturing groups of a pattern. -/
def nests : Pattern → List Nest
  | empty | atom _ | flags _ => []
  | rounds _ _ p | group (.plain _) p => p.nests
  | group (.capturing _) p => [.node p.nests]
  | cat a b | alt a b => a.nests ++ b.nests

theorem nests_catOf (ps : List Pattern) : (catOf ps).nests = ps.flatMap nests := by
  fun_induction catOf ps <;> simp_all [nests]

theorem nests_altOf (ps : List Pattern) : (altOf ps).nests = ps.flatMap nests := by
  fun_induction altOf ps <;> simp_all [nests]

def Atom.isAnchor : Atom → Bool
  | anchor _ => true
  | _ => false

theorem obeys_of_regex? {a : Atom} {r : Regex} {tests : Prop} (h : a.regex? f = some r)
    (allowed : a.isAnchor = true → tests) (numbers : Nat → Prop) : r.Obeys tests numbers := by
  cases a with
  | literal c byte =>
    simp only [Atom.regex?, Option.ite_none_left_eq_some, Option.some.injEq] at h
    obtain ⟨-, rfl⟩ := h
    unfold charRegex
    extract_lets variants
    split
    · trivial
    · exact obeys_ofSet _ _
  | dot =>
    simp only [Atom.regex?, Option.ite_none_right_eq_some, Option.some.injEq] at h
    obtain ⟨-, rfl⟩ := h
    exact obeys_ofSet _ _
  | anchor a =>
    obtain ⟨rfl⟩ := h
    exact allowed rfl
  | shorthand _ _ | property _ _ | bracketed _ _ =>
    obtain ⟨s, -, rfl⟩ := Option.map_eq_some_iff.mp h
    exact obeys_ofSet _ _

/-- A pattern takes the next numbers for its groups, as many as it has, and tests positions only
where it has anchors. -/
theorem obeys_of_branchesFrom? {branches : List Regex} {tests : Prop}
    (allowed : p.AllAtoms fun a => a.isAnchor = true → tests)
    (h : p.branchesFrom? f n = some (branches, g, next)) : next = n + Nest.sizes p.nests ∧
      ∀ r ∈ branches, r.Obeys tests fun m => n ≤ m ∧ m < next := by
  induction p generalizing f n branches g next with
  | empty | flags changes =>
    obtain ⟨rfl, rfl, rfl⟩ := h
    exact ⟨rfl, by simp [Obeys]⟩
  | atom a =>
    obtain ⟨r, found, same⟩ := Option.map_eq_some_iff.mp h
    simp only [Prod.mk.injEq] at same
    obtain ⟨rfl, rfl, rfl⟩ := same
    exact ⟨rfl, List.forall_mem_singleton.mpr (obeys_of_regex? found allowed _)⟩
  | rounds r greedy p ih =>
    obtain ⟨body, hp, rfl⟩ := branchesFrom?_rounds h
    obtain ⟨same, inside⟩ := ih allowed hp
    exact ⟨same, List.forall_mem_singleton.mpr (obeys_repeated (obeys_alternation inside))⟩
  | group k p ih =>
    cases k with
    | capturing name =>
      obtain ⟨body, inner, hp, rfl, rfl⟩ := branchesFrom?_capturing h
      obtain ⟨rfl, inside⟩ := ih allowed hp
      refine ⟨by simp only [nests, Nest.sizes, Nest.size]; omega, ?_⟩
      refine List.forall_mem_singleton.mpr ⟨⟨Nat.le_refl n, by omega⟩, ?_⟩
      exact (obeys_alternation inside).widen (Nat.le_succ n) (Nat.le_refl _)
    | plain changes =>
      obtain ⟨body, inner, hp, rfl, rfl⟩ := branchesFrom?_plain h
      obtain ⟨same, inside⟩ := ih allowed hp
      exact ⟨same, List.forall_mem_singleton.mpr (obeys_alternation inside)⟩
  | cat a b iha ihb =>
    obtain ⟨left, right, between, m, ha, hb, rfl⟩ := branchesFrom?_cat h
    obtain ⟨rfl, first⟩ := iha allowed.1 ha
    obtain ⟨rfl, second⟩ := ihb allowed.2 hb
    refine ⟨by rw [nests, Nest.sizes_append, Nat.add_assoc], ?_⟩
    refine List.forall_mem_singleton.mpr (obeys_append.mpr ⟨?_, ?_⟩)
    · exact (obeys_alternation first).widen (Nat.le_refl _) (Nat.le_add_right _ _)
    · exact (obeys_alternation second).widen (Nat.le_add_right _ _) (Nat.le_refl _)
  | alt a b iha ihb =>
    obtain ⟨left, right, between, m, ha, hb, rfl⟩ := branchesFrom?_alt h
    obtain ⟨rfl, first⟩ := iha allowed.1 ha
    obtain ⟨rfl, second⟩ := ihb allowed.2 hb
    refine ⟨by rw [nests, Nest.sizes_append, Nat.add_assoc], List.forall_mem_cons.mpr ⟨?_, ?_⟩⟩
    · exact (obeys_alternation first).widen (Nat.le_refl _) (Nat.le_add_right _ _)
    · intro r hr
      exact (second r hr).widen (Nat.le_add_right _ _) (Nat.le_refl _)

theorem numbered_of_branchesFrom? {branches : List Regex}
    (h : p.branchesFrom? f n = some (branches, g, next)) :
    next = n + Nest.sizes p.nests ∧ ∀ r ∈ branches, r.Numbered n next :=
  obeys_of_branchesFrom? (allAtoms_of_forall fun _ _ => trivial) h

theorem numbered_of_regex? {r : Regex} (h : p.regex? = some r) :
    r.Numbered 1 (1 + Nest.sizes p.nests) := by
  obtain ⟨⟨branches, after, next⟩, meaning, rfl⟩ := Option.map_eq_some_iff.mp h
  obtain ⟨rfl, numbered⟩ := numbered_of_branchesFrom? meaning
  exact Regex.obeys_alternation numbered

/-! ## Groups side by side -/

/-- The runs of some patterns one after the other, where `n` is the number of the first group. -/
def RunsAll (text : Array Char) : List Pattern → Nat → Nat → Nat → Marks → Prop
  | [], _, i, j, ms => i = j ∧ ms = []
  | p :: ps, n, i, j, ms => ∃ branches after next k ns os,
      p.branchesFrom? .initial n = some (branches, after, next) ∧
      (alternation branches).Run text i k ns ∧ RunsAll text ps next k j os ∧ ms = os ++ ns

theorem Steady.after {branches : List Regex} (steady : p.Steady)
    (h : p.branchesFrom? f n = some (branches, g, next)) : g = f :=
  (branchesFrom?_spec h).1.trans (steady f)

theorem runsAll_of_catOf {branches : List Regex} {ms : Marks} (steady : ∀ p ∈ ps, p.Steady)
    (h : (catOf ps).branchesFrom? .initial n = some (branches, g, next))
    (run : (alternation branches).Run text i j ms) : RunsAll text ps n i j ms := by
  induction ps generalizing n branches g next i ms with
  | nil =>
    obtain ⟨rfl, rfl, rfl⟩ := h
    exact run
  | cons p ps ih =>
    cases ps with
    | nil => exact ⟨branches, g, next, j, ms, [], h, run, ⟨rfl, rfl⟩, rfl⟩
    | cons q qs =>
      obtain ⟨first, others⟩ := List.forall_mem_cons.mp steady
      obtain ⟨left, right, after, m, ha, hb, rfl⟩ := branchesFrom?_cat h
      obtain rfl := first.after ha
      change (Regex.append _ _).Run text i j ms at run
      rw [run_append] at run
      obtain ⟨k, ns, os, before, behind, rfl⟩ := run
      exact ⟨left, _, m, k, ns, os, ha, before, ih others hb behind, rfl⟩

/-- A run of a choice is a run of one of its branches, whose groups are numbered after those of the
branches before it. -/
theorem run_of_altOf {branches : List Regex} {ms : Marks} (filled : ps ≠ [])
    (steady : ∀ p ∈ ps, p.Steady) (h : (altOf ps).branchesFrom? .initial n = some (branches, g, next))
    (run : (alternation branches).Run text i j ms) :
    ∃ before p behind branches' after' next', ps = before ++ p :: behind ∧
      p.branchesFrom? .initial (n + Nest.sizes (before.flatMap nests)) =
        some (branches', after', next') ∧ (alternation branches').Run text i j ms := by
  induction ps generalizing n branches g next with
  | nil => exact absurd rfl filled
  | cons p ps ih =>
    cases ps with
    | nil => exact ⟨[], p, [], branches, g, next, rfl, h, run⟩
    | cons q qs =>
      obtain ⟨first, others⟩ := List.forall_mem_cons.mp steady
      obtain ⟨left, right, after, m, ha, hb, rfl⟩ := branchesFrom?_alt h
      obtain rfl := first.after ha
      obtain ⟨rfl, -⟩ := numbered_of_branchesFrom? ha
      obtain ⟨r, hr, taken⟩ := run_alternation.mp run
      rcases List.mem_cons.mp hr with rfl | hr
      · exact ⟨[], p, q :: qs, left, _, _, rfl, ha, taken⟩
      · obtain ⟨before, p', behind, branches', after', next', same, known, taken'⟩ :=
          ih (by simp) others hb (run_alternation.mpr ⟨r, hr, taken⟩)
        refine ⟨p :: before, p', behind, branches', after', next', by rw [same]; rfl, ?_, taken'⟩
        rwa [List.flatMap_cons, Nest.sizes_append, ← Nat.add_assoc]

/-- Groups numbered from `n` on take up parts of a text between two positions, side by side, and
every group inside of one took up a part of the same part, if it took part. -/
def Laid (span : Nat → Option (Nat × Nat)) : Nat → List Nest → Nat → Nat → Prop
  | _, [], i, j => i ≤ j
  | n, nest :: nests, i, j => ∃ k l, i ≤ k ∧ k ≤ l ∧ span n = some (k, l) ∧
      (∀ m, n < m → m < n + nest.size → ∀ a b, span m = some (a, b) → k ≤ a ∧ a ≤ l ∧ k ≤ b ∧ b ≤ l) ∧
      Laid span (n + nest.size) nests l j

theorem Laid.widen {span : Nat → Option (Nat × Nat)} {nests : List Nest}
    (h : Laid span n nests i j) {i' j' : Nat} (start : i' ≤ i) (stop : j ≤ j') :
    Laid span n nests i' j' := by
  induction nests generalizing n i i' with
  | nil => exact Nat.le_trans start (Nat.le_trans h stop)
  | cons nest nests ih =>
    obtain ⟨k, l, before, order, whole, inside, others⟩ := h
    exact ⟨k, l, Nat.le_trans start before, order, whole, inside, ih others (Nat.le_refl l)⟩

theorem lookup_eq_none {lo hi : Nat} {ms : Marks} (within : Within lo hi i j ms) {m : Mark}
    (outside : m.number < lo ∨ hi ≤ m.number) : ms.lookup m = none := by
  rw [List.lookup_eq_none_iff]
  intro entry he
  obtain ⟨low, high, -, -⟩ := within entry he
  rw [bne_iff_ne]
  rintro rfl
  omega

/-- The whole match is group 0. -/
theorem span?_zero {r : Regex} {ms : Marks} {hi : Nat} (numbered : r.Numbered 1 hi)
    (h : (Regex.group 0 r).Run text i j ms) : Captures.span? ⟨ms⟩ 0 = some (i, j) := by
  obtain ⟨inside, run, rfl⟩ := h
  have unmarked : inside.lookup (.opened 0) = none :=
    lookup_eq_none (numbered.within run) (.inl Nat.zero_lt_one)
  have apart : (Mark.opened 0 == Mark.closed 0) = false := rfl
  simp [Captures.span?, List.lookup_cons, List.lookup_append, unmarked, apart]

theorem mem_of_lookup {ms : Marks} {m : Mark} {pos : Nat} (h : ms.lookup m = some pos) :
    (m, pos) ∈ ms := by
  obtain ⟨before, behind, rfl, -⟩ := List.lookup_eq_some_iff.mp h
  simp

/-- A pattern that is one capturing group. -/
def IsCapture (p : Pattern) : Prop := ∃ q, p = .group (.capturing none) q

theorem runsAll_le {ms : Marks} (h : RunsAll text ps n i j ms) : i ≤ j := by
  induction ps generalizing n i ms with
  | nil => exact Nat.le_of_eq h.1
  | cons p ps ih =>
    obtain ⟨_, _, _, k, ns, os, -, first, others, -⟩ := h
    exact Nat.le_trans (Matches.le ⟨ns, first⟩) (ih others)

theorem runsAll_within {ms : Marks} (h : RunsAll text ps n i j ms) :
    Within n (n + Nest.sizes (ps.flatMap nests)) i j ms := by
  induction ps generalizing n i ms with
  | nil =>
    obtain ⟨-, rfl⟩ := h
    simp [Within]
  | cons p ps ih =>
    obtain ⟨branches, after, next, k, ns, os, meaning, first, others, rfl⟩ := h
    obtain ⟨rfl, numbered⟩ := numbered_of_branchesFrom? meaning
    have before := (obeys_alternation numbered).within first
    have behind := ih others
    have le : i ≤ k := Matches.le ⟨ns, first⟩
    rw [List.flatMap_cons, Nest.sizes_append]
    refine List.forall_mem_append.mpr ⟨?_, ?_⟩
    · exact behind.widen (by omega) (by omega) le (Nat.le_refl j)
    · exact before.widen (by omega) (by omega) (Nat.le_refl i) (runsAll_le others)

/-- The marks of all groups, where only those of the groups from `n` on matter, are those of the
first pattern for its groups, and those of the others for theirs. -/
theorem RunsAll.split {ms all : Marks} (h : RunsAll text (p :: ps) n i j ms)
    (same : ∀ m : Mark, n ≤ m.number → m.number < n + Nest.sizes ((p :: ps).flatMap nests) →
      all.lookup m = ms.lookup m) :
    ∃ branches after k ns os,
      p.branchesFrom? .initial n = some (branches, after, n + Nest.sizes p.nests) ∧
      (alternation branches).Run text i k ns ∧
      RunsAll text ps (n + Nest.sizes p.nests) k j os ∧
      (∀ m : Mark, n ≤ m.number → m.number < n + Nest.sizes p.nests →
        all.lookup m = ns.lookup m) ∧
      ∀ m : Mark, n + Nest.sizes p.nests ≤ m.number →
        m.number < n + Nest.sizes p.nests + Nest.sizes (ps.flatMap nests) →
        all.lookup m = os.lookup m := by
  obtain ⟨branches, after, next, k, ns, os, meaning, first, others, rfl⟩ := h
  obtain ⟨rfl, numbered⟩ := numbered_of_branchesFrom? meaning
  have before := (obeys_alternation numbered).within first
  have behind := runsAll_within others
  rw [List.flatMap_cons, Nest.sizes_append] at same
  refine ⟨branches, after, k, ns, os, meaning, first, others, fun m low high => ?_,
    fun m low high => ?_⟩
  · rw [same m low (by omega), List.lookup_append, lookup_eq_none behind (.inl high),
      Option.none_or]
  · rw [same m (by omega) (by omega), List.lookup_append, lookup_eq_none before (.inr low),
      Option.or_none]

/-- A run of a capturing group is one of what is inside, between the marks of the group. -/
theorem run_capture {q : Pattern} {branches : List Regex} {ns : Marks}
    (h : (group (.capturing none) q).branchesFrom? .initial n = some (branches, g, next))
    (run : (alternation branches).Run text i j ns) :
    ∃ body flags taken, q.branchesFrom? .initial (n + 1) = some (body, flags, next) ∧
      (alternation body).Run text i j taken ∧ ns = (.closed n, j) :: (taken ++ [(.opened n, i)]) := by
  obtain ⟨body, flags, inner, rfl, -⟩ := branchesFrom?_capturing h
  obtain ⟨taken, inside, rfl⟩ : ∃ taken, (alternation body).Run text i j taken ∧
      ns = (.closed n, j) :: (taken ++ [(.opened n, i)]) := by
    simpa [alternation, Regex.Run] using run
  exact ⟨body, flags, taken, inner, inside, rfl⟩

/-- A capturing group spans what its run takes up. -/
theorem span?_capture {q : Pattern} {body : List Regex} {taken all : Marks}
    (h : q.branchesFrom? .initial (n + 1) = some (body, g, next))
    (run : (alternation body).Run text i j taken)
    (mine : ∀ m : Mark, n ≤ m.number → m.number < n + (Nest.sizes q.nests + 1) →
      all.lookup m = List.lookup m ((.closed n, j) :: (taken ++ [(.opened n, i)]))) :
    Captures.span? ⟨all⟩ n = some (i, j) := by
  obtain ⟨-, numbers⟩ := numbered_of_branchesFrom? h
  have inside := (obeys_alternation numbers).within run
  have unmarked : taken.lookup (.opened n) = none :=
    lookup_eq_none inside (.inl (Nat.lt_succ_self n))
  have stop := mine (.closed n) (Nat.le_refl n) (by simp only [Mark.number]; omega)
  have start := mine (.opened n) (Nat.le_refl n) (by simp only [Mark.number]; omega)
  have apart : (Mark.opened n == Mark.closed n) = false := rfl
  simp only [List.lookup_cons, List.lookup_append, unmarked, beq_self_eq_true, apart,
    Option.none_or] at stop start
  simp only [Captures.span?, stop, start]

/-- Only the marks of the groups from `n` on matter for where these are laid. -/
theorem RunsAll.laid {ms all : Marks} (h : RunsAll text ps n i j ms)
    (captures : ∀ p ∈ ps, p.nests = [] ∨ p.IsCapture)
    (same : ∀ m : Mark, n ≤ m.number → m.number < n + Nest.sizes (ps.flatMap nests) →
      all.lookup m = ms.lookup m) :
    Laid (Captures.span? ⟨all⟩) n (ps.flatMap nests) i j := by
  induction ps generalizing n i ms with
  | nil => exact Nat.le_of_eq h.1
  | cons p ps ih =>
    obtain ⟨capture, captures⟩ := List.forall_mem_cons.mp captures
    obtain ⟨branches, after, k, ns, os, meaning, first, others, mine, theirs⟩ := h.split same
    have later := ih others captures theirs
    rw [List.flatMap_cons]
    rcases capture with none | ⟨q, rfl⟩
    · rw [none] at later ⊢
      exact later.widen (Matches.le ⟨ns, first⟩) (Nat.le_refl j)
    · have size : Nest.sizes (group (.capturing none) q).nests = Nest.sizes q.nests + 1 := rfl
      obtain ⟨-, numbered⟩ := numbered_of_branchesFrom? meaning
      have within := (obeys_alternation numbered).within first
      obtain ⟨body, flags, taken, inner, run, rfl⟩ := run_capture meaning first
      have whole : Captures.span? ⟨all⟩ n = some (i, k) := span?_capture inner run mine
      refine ⟨i, k, Nat.le_refl i, Matches.le ⟨taken, run⟩, whole, ?_, later⟩
      intro m low high a b spans
      have found (mark : Mark) {pos : Nat} (number : mark.number = m)
          (there : all.lookup mark = some pos) : i ≤ pos ∧ pos ≤ k := by
        rw [mine mark (by omega) (by simp only [Nest.size] at high; omega)] at there
        exact (within _ (mem_of_lookup there)).2.2
      unfold Captures.span? at spans
      split at spans
      · rename_i opened closed
        obtain ⟨rfl, rfl⟩ := Prod.mk.inj (Option.some.inj spans)
        obtain ⟨h₁, h₂⟩ := found _ rfl opened
        obtain ⟨h₃, h₄⟩ := found _ rfl closed
        exact ⟨h₁, h₂, h₃, h₄⟩
      · cases spans

end Pattern

end StepExpr
