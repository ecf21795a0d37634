import Mathlib.Data.List.Forall2
import StepExpr.Proofs.Regex.Lexeme
import StepExpr.Proofs.Regex.Meaning
import StepExpr.Proofs.Unicode.Name

/-!
# Building patterns from lexemes

The lexemes of a pattern build the same tree inside of a group as on their own.

* `Builds` says how they do, lexeme by lexeme;
* `Builds.inside`: the group around them then holds that tree;
* `Builds.alike`: lexemes that differ in their atoms only build a tree that differs in its atoms
  only, which is `Pattern.Alike`;
* `Builds.atoms`: every atom among them is one of the tree.
-/

namespace StepExpr

namespace Pattern

variable {outer outs : List (GroupKind × OpenGroup)} {inner : OpenGroup} {ls ls' : List Lexeme}
  {p : Pattern}

def isFlags : Pattern → Bool
  | flags _ => true
  | _ => false

/-- Anything but a change of flags can be repeated. -/
theorem build?_rounds {r : Rounds} {greedy : Bool} {branches items : List Pattern} {item : Pattern} :
    build? outs ⟨branches, item :: items⟩ (.rounds r greedy :: ls) =
      if item.isFlags then none else build? outs ⟨branches, .rounds r greedy item :: items⟩ ls := by
  cases item <;> rfl

/-- How lexemes finish the open groups `inner` and `outs` and build `p`: a case for each lexeme. -/
inductive Builds (p : Pattern) :
    List (GroupKind × OpenGroup) → OpenGroup → List Lexeme → Prop where
  | nil {inner : OpenGroup} (whole : inner.content = p) : Builds p [] inner []
  | atom {outs : List (GroupKind × OpenGroup)} {inner : OpenGroup} {a : Atom} {ls : List Lexeme}
      (others : Builds p outs (inner.push (.atom a)) ls) : Builds p outs inner (.atom a :: ls)
  | flags {outs : List (GroupKind × OpenGroup)} {inner : OpenGroup} {changes : FlagChanges}
      {ls : List Lexeme} (others : Builds p outs (inner.push (.flags changes)) ls) :
      Builds p outs inner (.flags changes :: ls)
  | bar {outs : List (GroupKind × OpenGroup)} {inner : OpenGroup} {ls : List Lexeme}
      (others : Builds p outs inner.branch ls) : Builds p outs inner (.bar :: ls)
  | opening {outs : List (GroupKind × OpenGroup)} {inner : OpenGroup} {k : GroupKind}
      {ls : List Lexeme} (others : Builds p ((k, inner) :: outs) .start ls) :
      Builds p outs inner (.opening k :: ls)
  | closing {outs : List (GroupKind × OpenGroup)} {inner around : OpenGroup} {k : GroupKind}
      {ls : List Lexeme} (others : Builds p outs (around.push (.group k inner.content)) ls) :
      Builds p ((k, around) :: outs) inner (.closing :: ls)
  | rounds {outs : List (GroupKind × OpenGroup)} {branches items : List Pattern} {item : Pattern}
      {r : Rounds} {greedy : Bool} {ls : List Lexeme} (repeated : ¬ item.isFlags = true)
      (others : Builds p outs ⟨branches, .rounds r greedy item :: items⟩ ls) :
      Builds p outs ⟨branches, item :: items⟩ (.rounds r greedy :: ls)

theorem builds_of_build? (h : build? outs inner ls = some p) : Builds p outs inner ls := by
  induction ls generalizing outs inner with
  | nil =>
    rw [build?] at h
    split at h
    · rename_i none
      obtain rfl := List.isEmpty_iff.mp none
      exact .nil (Option.some.inj h)
    · cases h
  | cons l ls ih =>
    cases l with
    | atom a => exact .atom (ih h)
    | flags changes => exact .flags (ih h)
    | bar => exact .bar (ih h)
    | opening k => exact .opening (ih h)
    | closing =>
      cases outs with
      | nil => cases h
      | cons frame outs => exact .closing (ih h)
    | rounds r greedy =>
      obtain ⟨branches, items⟩ := inner
      cases items with
      | nil => cases h
      | cons item items =>
        rw [build?_rounds] at h
        split at h
        · cases h
        · rename_i repeated
          exact .rounds repeated (ih h)

theorem Builds.built (h : Builds p outs inner ls) : build? outs inner ls = some p := by
  induction h with
  | nil whole =>
    subst whole
    rfl
  | atom _ ih | flags _ ih | bar _ ih | opening _ ih | closing _ ih => exact ih
  | rounds repeated _ ih =>
    rw [build?_rounds, if_neg repeated]
    exact ih

/-- A group around some lexemes does not change what they build. -/
theorem Builds.inside (h : Builds p outs inner ls) (k : GroupKind) (around : OpenGroup)
    (rest : List Lexeme) : build? (outs ++ (k, around) :: outer) inner (ls ++ .closing :: rest) =
      build? outer (around.push (.group k p)) rest := by
  induction h with
  | nil whole =>
    subst whole
    rfl
  | atom _ ih | flags _ ih | bar _ ih | opening _ ih | closing _ ih => exact ih
  | rounds repeated _ ih =>
    rw [List.cons_append, build?_rounds, if_neg repeated]
    exact ih

/-- A tree closes all its groups. -/
theorem Builds.depth {cs left : List Char} {e : Nat} (h : Builds p outs inner ls)
    (cuts : Cuts outs.length cs ls e left) : e = 0 := by
  induction h generalizing cs with
  | nil =>
    cases cuts
    rfl
  | atom _ ih | flags _ ih | bar _ ih | opening _ ih | closing _ ih | rounds _ _ ih =>
    obtain - | ⟨-, -, depth, others⟩ := cuts
    obtain ⟨rfl⟩ := depth
    exact ih others

/-! ## Lexemes that differ in their atoms -/

/-- Patterns that differ in their atoms only, where those of the second are what those of the first
become when digits are written out. -/
inductive Alike : Pattern → Pattern → Prop where
  | empty : Alike .empty .empty
  | flags (changes : FlagChanges) : Alike (.flags changes) (.flags changes)
  | atoms {a b : Atom} (narrowed : a.Narrowed b) : Alike (.atom a) (.atom b)
  | rounds {p q : Pattern} (r : Rounds) (greedy : Bool) (inside : Alike p q) :
    Alike (.rounds r greedy p) (.rounds r greedy q)
  | group {p q : Pattern} (k : GroupKind) (inside : Alike p q) : Alike (.group k p) (.group k q)
  | cat {p p' q q' : Pattern} (left : Alike p p') (right : Alike q q') :
    Alike (.cat p q) (.cat p' q')
  | alt {p p' q q' : Pattern} (left : Alike p p') (right : Alike q q') :
    Alike (.alt p q) (.alt p' q')

namespace Alike

variable {q : Pattern} {ps qs : List Pattern}

theorem isFlags (h : p.Alike q) : q.isFlags = p.isFlags := by
  cases h <;> rfl

theorem names (h : p.Alike q) : q.names = p.names := by
  induction h with
  | empty | flags | atoms => rfl
  | rounds r greedy _ ih => simpa [Pattern.names] using ih
  | group k _ ih =>
    cases k with
    | plain changes => simpa [Pattern.names] using ih
    | capturing name => cases name <;> simp [Pattern.names, ih]
  | cat _ _ iha ihb | alt _ _ iha ihb => simp only [Pattern.names, iha, ihb]

theorem flagsAfter (h : p.Alike q) (f : Flags) : q.flagsAfter f = p.flagsAfter f := by
  induction h generalizing f with
  | empty | flags | atoms | group => rfl
  | rounds r greedy _ ih => exact ih f
  | cat _ _ iha ihb | alt _ _ iha ihb => simp only [Pattern.flagsAfter, iha, ihb]

theorem defined {f : Flags} (h : p.Alike q) (defined : p.Defined f) : q.Defined f := by
  induction h generalizing f with
  | empty | flags => trivial
  | atoms narrowed => exact narrowed.defined f defined
  | rounds r greedy _ ih => exact ih defined
  | group k _ ih => cases k <;> exact ih defined
  | cat left _ iha ihb | alt left _ iha ihb =>
    refine ⟨iha defined.1, ?_⟩
    rw [left.flagsAfter]
    exact ihb defined.2

theorem catOf (h : List.Forall₂ Alike ps qs) : (catOf ps).Alike (Pattern.catOf qs) := by
  induction h with
  | nil => exact .empty
  | cons first others ih =>
    cases others with
    | nil => exact first
    | cons => exact .cat first ih

theorem altOf (h : List.Forall₂ Alike ps qs) : (altOf ps).Alike (Pattern.altOf qs) := by
  induction h with
  | nil => exact .empty
  | cons first others ih =>
    cases others with
    | nil => exact first
    | cons => exact .alt first ih

end Alike

/-- Open groups that differ in their atoms only. -/
structure OpenGroup.Alike (o o' : OpenGroup) : Prop where
  branches : List.Forall₂ Pattern.Alike o.branches o'.branches
  items : List.Forall₂ Pattern.Alike o.items o'.items

namespace OpenGroup.Alike

variable {o o' : OpenGroup} {q : Pattern}

theorem start : OpenGroup.start.Alike .start := ⟨.nil, .nil⟩

theorem push (h : o.Alike o') (item : p.Alike q) : (o.push p).Alike (o'.push q) :=
  ⟨h.branches, .cons item h.items⟩

theorem branch (h : o.Alike o') : o.branch.Alike o'.branch :=
  ⟨.cons (.catOf (List.rel_reverse h.items)) h.branches, .nil⟩

theorem content (h : o.Alike o') : o.content.Alike o'.content :=
  .altOf (List.rel_reverse h.branch.branches)

end OpenGroup.Alike

theorem Builds.alike {outs' : List (GroupKind × OpenGroup)} {inner' : OpenGroup}
    (built : Builds p outs inner ls) (alike : List.Forall₂ Lexeme.Alike ls ls')
    (inside : inner.Alike inner')
    (around : List.Forall₂ (fun frame frame' => frame'.1 = frame.1 ∧ frame.2.Alike frame'.2)
      outs outs') : ∃ p', Builds p' outs' inner' ls' ∧ p.Alike p' := by
  induction built generalizing outs' inner' ls' with
  | nil whole =>
    subst whole
    cases alike
    cases around
    exact ⟨_, .nil rfl, inside.content⟩
  | atom _ ih =>
    obtain - | ⟨first, others⟩ := alike
    cases first with
    | atoms narrowed =>
      obtain ⟨p', built, same⟩ := ih others (inside.push (.atoms narrowed)) around
      exact ⟨p', .atom built, same⟩
    | same free =>
      obtain ⟨p', built, same⟩ := ih others (inside.push (.atoms (.refl free))) around
      exact ⟨p', .atom built, same⟩
  | flags _ ih =>
    obtain - | ⟨⟨⟩, others⟩ := alike
    obtain ⟨p', built, same⟩ := ih others (inside.push (.flags _)) around
    exact ⟨p', .flags built, same⟩
  | bar _ ih =>
    obtain - | ⟨⟨⟩, others⟩ := alike
    obtain ⟨p', built, same⟩ := ih others inside.branch around
    exact ⟨p', .bar built, same⟩
  | @opening outs inner k _ _ ih =>
    obtain - | ⟨⟨⟩, others⟩ := alike
    obtain ⟨p', built, same⟩ :=
      @ih _ ((k, inner') :: outs') _ others .start (.cons ⟨rfl, inside⟩ around)
    exact ⟨p', .opening built, same⟩
  | closing _ ih =>
    obtain - | ⟨⟨⟩, others⟩ := alike
    obtain - | @⟨_, ⟨k', around'⟩, _, outs', ⟨rfl, beside⟩, around⟩ := around
    obtain ⟨p', built, same⟩ := ih others (beside.push (.group k' inside.content)) around
    exact ⟨p', .closing built, same⟩
  | @rounds outs branches items item r greedy ls repeated _ ih =>
    obtain - | ⟨⟨⟩, others⟩ := alike
    obtain ⟨branches', items'⟩ := inner'
    obtain ⟨finished, items⟩ := inside
    obtain - | @⟨_, item', _, items', first, before⟩ := items
    have next : (OpenGroup.mk branches (.rounds r greedy item :: _)).Alike
        ⟨branches', .rounds r greedy item' :: items'⟩ :=
      ⟨finished, .cons (.rounds r greedy first) before⟩
    obtain ⟨p', built, same⟩ := ih others next around
    exact ⟨p', .rounds (first.isFlags ▸ repeated) built, same⟩

/-! ## Atoms -/

/-- Every atom of the pattern satisfies `q`. -/
def AllAtoms (q : Atom → Prop) : Pattern → Prop
  | atom a => q a
  | empty | flags _ => True
  | rounds _ _ p | group _ p => p.AllAtoms q
  | cat a b | alt a b => a.AllAtoms q ∧ b.AllAtoms q

instance decidableAllAtoms {q : Atom → Prop} [DecidablePred q] : DecidablePred (AllAtoms q)
  | atom a => inferInstanceAs (Decidable (q a))
  | empty | flags _ => .isTrue trivial
  | rounds _ _ p | group _ p => decidableAllAtoms p
  | cat a b | alt a b =>
    have := decidableAllAtoms (q := q) a
    have := decidableAllAtoms (q := q) b
    inferInstanceAs (Decidable (a.AllAtoms q ∧ b.AllAtoms q))

theorem allAtoms_of_forall {q : Atom → Prop} (all : ∀ a, q a) : p.AllAtoms q := by
  induction p with
  | empty | flags _ => trivial
  | atom a => exact all a
  | rounds r greedy p ih | group k p ih => exact ih
  | cat a b iha ihb | alt a b iha ihb => exact ⟨iha, ihb⟩

theorem Defined.legible {f : Flags} (h : p.Defined f) : p.AllAtoms Atom.Legible := by
  induction p generalizing f with
  | empty | flags _ => trivial
  | atom a =>
    obtain ⟨r, found⟩ := Option.isSome_iff_exists.mp h
    exact Atom.legible_of_regex? found
  | rounds r greedy p ih => exact ih h
  | group k p ih => cases k <;> exact ih h
  | cat a b iha ihb | alt a b iha ihb => exact ⟨iha h.1, ihb h.2⟩

theorem allAtoms_catOf {q : Atom → Prop} {ps : List Pattern} :
    (catOf ps).AllAtoms q ↔ ∀ p ∈ ps, p.AllAtoms q := by
  fun_induction catOf ps <;> simp_all [AllAtoms]

theorem allAtoms_altOf {q : Atom → Prop} {ps : List Pattern} :
    (altOf ps).AllAtoms q ↔ ∀ p ∈ ps, p.AllAtoms q := by
  fun_induction altOf ps <;> simp_all [AllAtoms]

def OpenGroup.AllAtoms (q : Atom → Prop) (o : OpenGroup) : Prop :=
  (∀ p ∈ o.branches, p.AllAtoms q) ∧ ∀ p ∈ o.items, p.AllAtoms q

theorem OpenGroup.allAtoms_push {q : Atom → Prop} {o : OpenGroup} :
    (o.push p).AllAtoms q ↔ p.AllAtoms q ∧ o.AllAtoms q := by
  simp only [OpenGroup.AllAtoms, OpenGroup.push, List.forall_mem_cons]
  exact and_left_comm

theorem OpenGroup.allAtoms_branch {q : Atom → Prop} {o : OpenGroup} :
    o.branch.AllAtoms q ↔ o.AllAtoms q := by
  simp [OpenGroup.AllAtoms, OpenGroup.branch, allAtoms_catOf, and_comm]

theorem OpenGroup.allAtoms_content {q : Atom → Prop} {o : OpenGroup} :
    o.content.AllAtoms q ↔ o.AllAtoms q := by
  rw [← allAtoms_branch]
  simp [OpenGroup.AllAtoms, OpenGroup.content, OpenGroup.branch, allAtoms_altOf, or_imp, forall_and,
    and_comm]

/-- The atoms among some lexemes are those of the tree that is built from them. -/
theorem Builds.atoms {q : Atom → Prop} (h : Builds p outs inner ls) (all : p.AllAtoms q) :
    (∀ a, .atom a ∈ ls → q a) ∧ inner.AllAtoms q ∧ ∀ frame ∈ outs, frame.2.AllAtoms q := by
  induction h with
  | nil whole =>
    subst whole
    exact ⟨by simp, OpenGroup.allAtoms_content.mp all, by simp⟩
  | atom _ ih =>
    obtain ⟨atoms, inside, outside⟩ := ih
    obtain ⟨first, inside⟩ := OpenGroup.allAtoms_push.mp inside
    exact ⟨by simpa using ⟨first, atoms⟩, inside, outside⟩
  | flags _ ih =>
    obtain ⟨atoms, inside, outside⟩ := ih
    exact ⟨by simpa using atoms, (OpenGroup.allAtoms_push.mp inside).2, outside⟩
  | bar _ ih =>
    obtain ⟨atoms, inside, outside⟩ := ih
    exact ⟨by simpa using atoms, OpenGroup.allAtoms_branch.mp inside, outside⟩
  | opening _ ih =>
    obtain ⟨atoms, -, outside⟩ := ih
    obtain ⟨inside, outside⟩ := List.forall_mem_cons.mp outside
    exact ⟨by simpa using atoms, inside, outside⟩
  | closing _ ih =>
    obtain ⟨atoms, inside, outside⟩ := ih
    obtain ⟨group, around⟩ := OpenGroup.allAtoms_push.mp inside
    exact ⟨by simpa using atoms, OpenGroup.allAtoms_content.mp group,
      List.forall_mem_cons.mpr ⟨around, outside⟩⟩
  | rounds _ _ ih =>
    obtain ⟨atoms, inside, outside⟩ := ih
    exact ⟨by simpa using atoms, by simpa [OpenGroup.AllAtoms, Pattern.AllAtoms] using inside,
      outside⟩

end Pattern

end StepExpr
