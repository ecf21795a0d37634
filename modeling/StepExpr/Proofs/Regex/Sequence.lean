import StepExpr.Proofs.Regex.Piece

/-!
# Sequences and choices of patterns

Where no part of a pattern changes flags, a concatenation takes up one part of a text after the
other, and a choice what one of its branches does.

* `denotes_catOf` and `denotes_altOf` say so;
* `Fine` patterns have a meaning and are within the limits of the parser, and so are their parts.
-/

namespace StepExpr

namespace Pattern

variable {text : Array Char} {i j : Nat} {f : Flags} {p : Pattern} {ps qs : List Pattern}

/-- The flags after the pattern are those before it. -/
def Steady (p : Pattern) : Prop := ∀ f, p.flagsAfter f = f

theorem steady_catOf (steady : ∀ p ∈ ps, p.Steady) : (catOf ps).Steady := by
  fun_induction catOf ps <;> simp_all [Steady, flagsAfter]

/-- Some patterns take up a part of a text one after the other. -/
def DenotesAll (text : Array Char) (f : Flags) : List Pattern → Nat → Nat → Prop
  | [], i, j => i = j
  | p :: ps, i, j => ∃ k, p.Denotes text f i k ∧ DenotesAll text f ps k j

theorem denotesAll_append : DenotesAll text f (ps ++ qs) i j ↔
    ∃ k, DenotesAll text f ps i k ∧ DenotesAll text f qs k j := by
  induction ps generalizing i with
  | nil => simp [DenotesAll]
  | cons p ps ih =>
    simp only [List.cons_append, DenotesAll, ih]
    constructor
    · rintro ⟨k, first, l, others, last⟩
      exact ⟨l, ⟨k, first, others⟩, last⟩
    · rintro ⟨l, ⟨k, first, others⟩, last⟩
      exact ⟨k, first, l, others, last⟩

@[simp] theorem denotesAll_singleton : DenotesAll text f [p] i j ↔ p.Denotes text f i j := by
  simp [DenotesAll]

theorem denotes_catOf (steady : ∀ p ∈ ps, p.Steady) :
    (catOf ps).Denotes text f i j ↔ DenotesAll text f ps i j := by
  induction ps generalizing i with
  | nil => exact Iff.rfl
  | cons p ps ih =>
    cases ps with
    | nil => exact denotesAll_singleton.symm
    | cons q qs =>
      obtain ⟨first, others⟩ := List.forall_mem_cons.mp steady
      simp only [catOf, Denotes, first f]
      simp only [ih others, DenotesAll]

theorem denotes_altOf (steady : ∀ p ∈ ps, p.Steady) (filled : ps ≠ []) :
    (altOf ps).Denotes text f i j ↔ ∃ p ∈ ps, p.Denotes text f i j := by
  induction ps with
  | nil => exact absurd rfl filled
  | cons p ps ih =>
    cases ps with
    | nil => simp [altOf]
    | cons q qs =>
      obtain ⟨first, others⟩ := List.forall_mem_cons.mp steady
      simp only [altOf, Denotes, first f]
      rw [ih others (by simp)]
      simp only [List.mem_cons, exists_eq_or_imp]

/-! ## Parts -/

/-- The pattern has a meaning and is within the limits of the parser. -/
structure Fine (p : Pattern) : Prop where
  defined : p.Defined .initial
  distinct : p.names.Nodup
  shallow : p.depth .neither ≤ maxDepth

theorem parse?_of_fine {s : List Char} {ls : List Lexeme} (h : p.Fine)
    (cut : Lexeme.scan? s = some ls) (built : build? [] .start ls = some p) :
    parse? s = some p :=
  parse?_eq_some_iff.mpr ⟨ls, cut, built, h.distinct, h.shallow⟩

theorem Fine.plain (h : (group (.plain []) p).Fine) : p.Fine :=
  ⟨h.defined, h.distinct, Nat.le_trans (Nat.le_succ _) h.shallow⟩

theorem Fine.captured (h : (group (.capturing none) p).Fine) : p.Fine :=
  ⟨h.defined, h.distinct, Nat.le_trans (Nat.le_succ _) h.shallow⟩

theorem Fine.repeated {r : Rounds} {greedy : Bool} (h : (rounds r greedy p).Fine) : p.Fine :=
  ⟨h.defined, h.distinct, Nat.le_trans (Nat.le_succ _) h.shallow⟩

theorem depth_le (p : Pattern) (spine : Spine) : p.depth .neither ≤ p.depth spine + 1 := by
  cases p with
  | atom a => cases a <;> exact Nat.le_succ _
  | cat a b =>
    simp only [depth, reduceCtorEq, if_false]
    split <;> omega
  | alt a b =>
    simp only [depth, reduceCtorEq, if_false]
    split <;> omega
  | _ => exact Nat.le_succ _

theorem depth_le_catOf (h : p ∈ ps) : p.depth .neither ≤ (catOf ps).depth .neither := by
  fun_induction catOf ps with
  | case1 => cases h
  | case2 q =>
    obtain rfl := List.mem_singleton.mp h
    exact Nat.le_refl _
  | case3 q qs _ ih =>
    have deeper := depth_le (catOf qs) .items
    simp only [depth, reduceCtorEq, if_false]
    rcases List.mem_cons.mp h with rfl | h
    · omega
    · have := ih h
      omega

/-- A sequence of items without depth is one deep at most. -/
theorem depth_catOf_le (flat : ∀ p ∈ ps, ∀ spine, p.depth spine = 0) :
    (catOf ps).depth .items = 0 ∧ (catOf ps).depth .neither ≤ 1 := by
  induction ps with
  | nil => exact ⟨rfl, Nat.zero_le 1⟩
  | cons p ps ih =>
    obtain ⟨first, others⟩ := List.forall_mem_cons.mp flat
    cases ps with
    | nil => simp [catOf, first]
    | cons q qs => simp [catOf, depth, first, (ih others).1]

theorem depth_le_altOf (h : p ∈ ps) : p.depth .neither ≤ (altOf ps).depth .neither := by
  fun_induction altOf ps with
  | case1 => cases h
  | case2 q =>
    obtain rfl := List.mem_singleton.mp h
    exact Nat.le_refl _
  | case3 q qs _ ih =>
    have deeper := depth_le (altOf qs) .branches
    simp only [depth, reduceCtorEq, if_false]
    rcases List.mem_cons.mp h with rfl | h
    · omega
    · have := ih h
      omega

theorem names_catOf (ps : List Pattern) : (catOf ps).names = ps.flatMap names := by
  fun_induction catOf ps <;> simp_all [names]

theorem names_altOf (ps : List Pattern) : (altOf ps).names = ps.flatMap names := by
  fun_induction altOf ps <;> simp_all [names]

theorem defined_catOf (steady : ∀ p ∈ ps, p.Steady) :
    (catOf ps).Defined f ↔ ∀ p ∈ ps, p.Defined f := by
  fun_induction catOf ps <;> simp_all [Defined, Steady]

theorem defined_altOf (steady : ∀ p ∈ ps, p.Steady) :
    (altOf ps).Defined f ↔ ∀ p ∈ ps, p.Defined f := by
  fun_induction altOf ps <;> simp_all [Defined, Steady]

theorem names_sublist (h : p ∈ ps) : p.names.Sublist (ps.flatMap names) := by
  obtain ⟨before, after, rfl⟩ := List.append_of_mem h
  simp

theorem Fine.item (h : (catOf ps).Fine) (steady : ∀ p ∈ ps, p.Steady) (hp : p ∈ ps) : p.Fine :=
  ⟨(defined_catOf steady).mp h.defined p hp,
    (names_catOf ps ▸ h.distinct).sublist (names_sublist hp),
    Nat.le_trans (depth_le_catOf hp) h.shallow⟩

theorem Fine.branch (h : (altOf ps).Fine) (steady : ∀ p ∈ ps, p.Steady) (hp : p ∈ ps) : p.Fine :=
  ⟨(defined_altOf steady).mp h.defined p hp,
    (names_altOf ps ▸ h.distinct).sublist (names_sublist hp),
    Nat.le_trans (depth_le_altOf hp) h.shallow⟩

end Pattern

end StepExpr
