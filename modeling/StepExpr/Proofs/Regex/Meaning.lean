import StepExpr.Proofs.Regex.Simplify
import StepExpr.Regex.Meaning

/-!
# What patterns denote

The meaning of a pattern without the expression that it becomes: which parts of a text it can take
up, under the flags in force.

* `Pattern.Denotes` is the meaning, by recursion on the pattern;
* `Pattern.Defined` says that all parts of a pattern have a meaning;
* `branchesFrom?_cat` and its like: what an expression is made of;
* `regex?_spec`: the expression of a pattern matches what the pattern denotes.
-/

namespace StepExpr.Pattern

open Regex

variable {text : Array Char} {i j : Nat} {f : Flags}

/-- The flags in force after a pattern. -/
def flagsAfter : Pattern → Flags → Flags
  | empty, f | atom _, f | group _ _, f => f
  | flags changes, f => f.apply changes
  | rounds _ _ p, f => p.flagsAfter f
  | cat a b, f | alt a b, f => b.flagsAfter (a.flagsAfter f)

/-- A pattern can take up the part of a text between two positions. -/
def Denotes (text : Array Char) : Pattern → Flags → Nat → Nat → Prop
  | empty, _, i, j | flags _, _, i, j => i = j
  | atom a, f, i, j => ∃ r, a.regex? f = some r ∧ r.Matches text i j
  | rounds r _ p, f, i, j => ∃ n, Allows r.least r.most n ∧ Chain (p.Denotes text f) n i j
  | group (.capturing _) p, f, i, j => p.Denotes text f i j
  | group (.plain changes) p, f, i, j => p.Denotes text (f.apply changes) i j
  | cat a b, f, i, j => ∃ k, a.Denotes text f i k ∧ b.Denotes text (a.flagsAfter f) k j
  | alt a b, f, i, j => a.Denotes text f i j ∨ b.Denotes text (a.flagsAfter f) i j

/-- Every atom of a pattern has a meaning under the flags in force there. -/
def Defined : Pattern → Flags → Prop
  | empty, _ | flags _, _ => True
  | atom a, f => (a.regex? f).isSome = true
  | rounds _ _ p, f | group (.capturing _) p, f => p.Defined f
  | group (.plain changes) p, f => p.Defined (f.apply changes)
  | cat a b, f | alt a b, f => a.Defined f ∧ b.Defined (a.flagsAfter f)

/-! ## Branches of the parts -/

section Branches

variable {p a b : Pattern} {n next : Nat} {after : Flags} {branches : List Regex}

theorem branchesFrom?_rounds {r : Rounds} {greedy : Bool}
    (h : (rounds r greedy p).branchesFrom? f n = some (branches, after, next)) :
    ∃ body, p.branchesFrom? f n = some (body, after, next) ∧
      branches = [.repeated r.least r.most (greedy != after.invertGreed) (alternation body)] := by
  simp only [branchesFrom?, Option.bind_eq_bind, Option.bind_eq_some_iff, Option.some.injEq,
    Prod.mk.injEq, Prod.exists] at h
  obtain ⟨body, g, m, found, rfl, rfl, rfl⟩ := h
  exact ⟨body, found, rfl⟩

theorem branchesFrom?_capturing {name : Option (List Char)}
    (h : (group (.capturing name) p).branchesFrom? f n = some (branches, after, next)) :
    ∃ body inner, p.branchesFrom? f (n + 1) = some (body, inner, next) ∧
      branches = [.group n (alternation body)] ∧ after = f := by
  simp only [branchesFrom?, Option.bind_eq_bind, Option.bind_eq_some_iff, Option.some.injEq,
    Prod.mk.injEq, Prod.exists] at h
  obtain ⟨body, g, m, found, rfl, rfl, rfl⟩ := h
  exact ⟨body, g, found, rfl, rfl⟩

theorem branchesFrom?_plain {changes : FlagChanges}
    (h : (group (.plain changes) p).branchesFrom? f n = some (branches, after, next)) :
    ∃ body inner, p.branchesFrom? (f.apply changes) n = some (body, inner, next) ∧
      branches = [alternation body] ∧ after = f := by
  simp only [branchesFrom?, Option.bind_eq_bind, Option.bind_eq_some_iff, Option.some.injEq,
    Prod.mk.injEq, Prod.exists] at h
  obtain ⟨body, g, m, found, rfl, rfl, rfl⟩ := h
  exact ⟨body, g, found, rfl, rfl⟩

theorem branchesFrom?_cat (h : (cat a b).branchesFrom? f n = some (branches, after, next)) :
    ∃ left right between middle, a.branchesFrom? f n = some (left, between, middle) ∧
      b.branchesFrom? between middle = some (right, after, next) ∧
      branches = [(alternation left).append (alternation right)] := by
  simp only [branchesFrom?, Option.bind_eq_bind, Option.bind_eq_some_iff, Option.some.injEq,
    Prod.mk.injEq, Prod.exists] at h
  obtain ⟨left, g, m, first, right, g', m', second, rfl, rfl, rfl⟩ := h
  exact ⟨left, right, g, m, first, second, rfl⟩

theorem branchesFrom?_alt (h : (alt a b).branchesFrom? f n = some (branches, after, next)) :
    ∃ left right between middle, a.branchesFrom? f n = some (left, between, middle) ∧
      b.branchesFrom? between middle = some (right, after, next) ∧
      branches = alternation left :: right := by
  simp only [branchesFrom?, Option.bind_eq_bind, Option.bind_eq_some_iff, Option.some.injEq,
    Prod.mk.injEq, Prod.exists] at h
  obtain ⟨left, g, m, first, right, g', m', second, rfl, rfl, rfl⟩ := h
  exact ⟨left, right, g, m, first, second, rfl⟩

end Branches

/-- The branches of a pattern, and the flags after it. -/
theorem branchesFrom?_spec {p : Pattern} {n next : Nat} {after : Flags} {branches : List Regex}
    (h : p.branchesFrom? f n = some (branches, after, next)) :
    after = p.flagsAfter f ∧ p.Defined f ∧
    ∀ text i j, (alternation branches).Matches text i j ↔ p.Denotes text f i j := by
  induction p generalizing f n next after branches with
  | empty | flags changes =>
    obtain ⟨rfl, rfl, -⟩ := h
    exact ⟨rfl, trivial, fun text i j => by simp [matches_alternation, Denotes]⟩
  | atom a =>
    simp only [branchesFrom?, Option.map_eq_some_iff, Prod.mk.injEq] at h
    obtain ⟨r, hr, rfl, rfl, -⟩ := h
    exact ⟨rfl, by simp [Defined, hr], fun text i j => by simp [matches_alternation, Denotes, hr]⟩
  | rounds r greedy p ih =>
    obtain ⟨body, hp, rfl⟩ := branchesFrom?_rounds h
    obtain ⟨rfl, defined, same⟩ := ih hp
    refine ⟨rfl, defined, fun text i j => ?_⟩
    simp only [matches_alternation, List.mem_singleton, exists_eq_left, matches_repeated, Denotes,
      Chain.congr (same text)]
  | group k p ih =>
    cases k with
    | capturing name =>
      obtain ⟨body, g, hp, rfl, rfl⟩ := branchesFrom?_capturing h
      obtain ⟨-, defined, same⟩ := ih hp
      exact ⟨rfl, defined, fun text i j => by simpa [matches_alternation, Denotes] using same text i j⟩
    | plain changes =>
      obtain ⟨body, g, hp, rfl, rfl⟩ := branchesFrom?_plain h
      obtain ⟨-, defined, same⟩ := ih hp
      exact ⟨rfl, defined, fun text i j => by simpa [matches_alternation, Denotes] using same text i j⟩
  | cat a b iha ihb =>
    obtain ⟨left, right, g, m, ha, hb, rfl⟩ := branchesFrom?_cat h
    obtain ⟨rfl, definedA, sameA⟩ := iha ha
    obtain ⟨rfl, definedB, sameB⟩ := ihb hb
    refine ⟨rfl, ⟨definedA, definedB⟩, fun text i j => ?_⟩
    simp only [matches_alternation, List.mem_singleton, exists_eq_left, matches_append, Denotes]
    simp only [matches_alternation] at sameA sameB
    simp only [sameA, sameB]
  | alt a b iha ihb =>
    obtain ⟨left, right, g, m, ha, hb, rfl⟩ := branchesFrom?_alt h
    obtain ⟨rfl, definedA, sameA⟩ := iha ha
    obtain ⟨rfl, definedB, sameB⟩ := ihb hb
    refine ⟨rfl, ⟨definedA, definedB⟩, fun text i j => ?_⟩
    rw [matches_alternation] at *
    simp only [matches_alternation, List.mem_cons, exists_eq_or_imp, Denotes] at sameA sameB ⊢
    simp only [sameA, sameB]

theorem Defined.branchesFrom? {p : Pattern} (h : p.Defined f) (n : Nat) :
    ∃ branches after next, p.branchesFrom? f n = some (branches, after, next) := by
  induction p generalizing f n with
  | empty => exact ⟨_, _, _, rfl⟩
  | flags changes => exact ⟨_, _, _, rfl⟩
  | atom a =>
    obtain ⟨r, hr⟩ := Option.isSome_iff_exists.mp h
    exact ⟨_, _, _, by rw [Pattern.branchesFrom?, hr, Option.map_some]⟩
  | rounds r greedy p ih =>
    obtain ⟨body, g, m, hp⟩ := ih h n
    exact ⟨_, _, _, by rw [Pattern.branchesFrom?, hp]; rfl⟩
  | group k p ih =>
    cases k with
    | capturing name =>
      obtain ⟨body, g, m, hp⟩ := ih h (n + 1)
      exact ⟨_, _, _, by rw [Pattern.branchesFrom?, hp]; rfl⟩
    | plain changes =>
      obtain ⟨body, g, m, hp⟩ := ih h n
      exact ⟨_, _, _, by rw [Pattern.branchesFrom?, hp]; rfl⟩
  | cat a b iha ihb =>
    obtain ⟨left, g, m, ha⟩ := iha h.1 n
    obtain ⟨rfl, -, -⟩ := branchesFrom?_spec ha
    obtain ⟨right, g, m', hb⟩ := ihb h.2 m
    simp [Pattern.branchesFrom?, ha, hb]
  | alt a b iha ihb =>
    obtain ⟨left, g, m, ha⟩ := iha h.1 n
    obtain ⟨rfl, -, -⟩ := branchesFrom?_spec ha
    obtain ⟨right, g, m', hb⟩ := ihb h.2 m
    simp [Pattern.branchesFrom?, ha, hb]

theorem Defined.regex? {p : Pattern} (h : p.Defined .initial) : ∃ r, p.regex? = some r := by
  obtain ⟨branches, after, next, found⟩ := h.branchesFrom? 1
  exact ⟨_, by rw [Pattern.regex?, found, Option.map_some]⟩

theorem regex?_spec {p : Pattern} {r : Regex} (h : p.regex? = some r) : p.Defined .initial ∧
    ∀ text i j, r.Matches text i j ↔ p.Denotes text .initial i j := by
  obtain ⟨⟨branches, after, next⟩, found, rfl⟩ := Option.map_eq_some_iff.mp h
  exact (branchesFrom?_spec found).2

end StepExpr.Pattern
