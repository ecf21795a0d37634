import Mathlib.Data.List.Forall2
import StepExpr.Regex.Meaning

/-!
# ASCII digits

What patterns denote where digits are those of ASCII.

* `Pattern.asciiDigits`: a pattern with `[0-9]` for `\d` and `[^0-9]` for `\D`, outside classes and
  inside of them;
* `fold_digitCodes`: digits have no case variants, so these mean the same under all flags;
* `ClassExpr.Narrowed` and `Atom.Narrowed`: one is what the other becomes when digits are written
  out, which means the same as with ASCII digits unless there is a `\D` in a class.
-/

namespace StepExpr

namespace Pattern

/-! ## Digits -/

/-- The code points of the ASCII digits. -/
def digitCodes : List CodeRange := [⟨48, 57⟩]

theorem ofRanges_digitCodes : CharSet.ofRanges digitCodes = ⟨digitCodes⟩ := by
  decide +kernel

/-- No character that has case variants is a digit. -/
theorem caseOrbits_digitCodes : ∀ orbit ∈ Unicode.caseOrbits, ∀ point ∈ orbit,
    CharSet.holdsIn point digitCodes = false := by
  have checked : (Unicode.caseOrbits.all fun orbit =>
      orbit.all fun point => !CharSet.holdsIn point digitCodes) = true := by decide +kernel
  intro orbit ho point hp
  simpa using List.all_eq_true.mp (List.all_eq_true.mp checked orbit ho) point hp

theorem fold_digitCodes (f : Flags) : f.fold ⟨digitCodes⟩ = ⟨digitCodes⟩ := by
  have none : (Unicode.caseVariantTable.ranges.toList.flatMap fun entry =>
      if CharSet.holdsIn entry.range.first digitCodes then entry.label else []) = [] := by
    refine List.flatMap_eq_nil_iff.mpr fun entry he => ?_
    rw [Unicode.caseVariantTable, List.mem_mergeSort] at he
    obtain ⟨orbit, ho, he⟩ := List.mem_flatMap.mp he
    obtain ⟨point, hp, rfl⟩ := List.mem_map.mp he
    rw [caseOrbits_digitCodes orbit ho point hp]
    rfl
  have ascii : (CharSet.mk digitCodes).foldAscii = ⟨digitCodes⟩ := by decide +kernel
  have unicode : (CharSet.mk digitCodes).fold = ⟨digitCodes⟩ := by
    simp only [CharSet.fold, none]
    decide +kernel
  unfold Flags.fold
  split
  · split
    · exact unicode
    · exact ascii
  · rfl

namespace ClassExpr

/-- A class expression with the ASCII digits, or all other characters, for its digit classes. -/
def asciiDigits : ClassExpr → ClassExpr
  | shorthand .digit negated => bracket negated (range '0' '9')
  | union a b => union a.asciiDigits b.asciiDigits
  | operation op a b => operation op a.asciiDigits b.asciiDigits
  | bracket negated content => bracket negated content.asciiDigits
  | e => e

/-- There is no digit class in it. -/
def DigitFree : ClassExpr → Prop
  | shorthand k _ => k ≠ .digit
  | union a b | operation _ a b => a.DigitFree ∧ b.DigitFree
  | bracket _ content => content.DigitFree
  | _ => True

/-- There is no `\D` in it. -/
def Uncomplemented : ClassExpr → Prop
  | shorthand k negated => k = .digit → negated = false
  | union a b | operation _ a b => a.Uncomplemented ∧ b.Uncomplemented
  | bracket _ content => content.Uncomplemented
  | _ => True

variable {f : Flags} {a a' b b' : ClassExpr} {items items' : List ClassExpr}

theorem asciiDigits_of_digitFree (h : a.DigitFree) : a.asciiDigits = a := by
  induction a with
  | shorthand k negated =>
    cases k with
    | digit => exact absurd rfl h
    | space | word => rfl
  | union a b iha ihb | operation op a b iha ihb => rw [asciiDigits, iha h.1, ihb h.2]
  | bracket negated content ih => rw [asciiDigits, ih h]
  | empty | literal | range | ascii | property => rfl

theorem ranges?_digits (f : Flags) : (range '0' '9').ranges? f = some digitCodes := by
  simp [ranges?, digitCodes]

theorem ranges?_bracket_digits (f : Flags) (negated : Bool) :
    (bracket negated (range '0' '9')).ranges? f =
      (f.negate? negated ⟨digitCodes⟩).map CharSet.ranges := by
  rw [ranges?, ranges?_digits]
  simp only [Option.bind_eq_bind, Option.bind_some, ofRanges_digitCodes, fold_digitCodes]

theorem isSome_union : ((union a b).ranges? f).isSome = true ↔
    (a.ranges? f).isSome = true ∧ (b.ranges? f).isSome = true := by
  cases ha : a.ranges? f <;> cases hb : b.ranges? f <;> simp [ranges?, ha, hb]

theorem isSome_operation {op : SetOperator} : ((operation op a b).ranges? f).isSome = true ↔
    (a.ranges? f).isSome = true ∧ (b.ranges? f).isSome = true := by
  cases ha : a.ranges? f <;> cases hb : b.ranges? f <;> simp [ranges?, ha, hb]

theorem isSome_bracket {negated : Bool} : ((bracket negated a).ranges? f).isSome = true ↔
    (a.ranges? f).isSome = true ∧ (negated = true → f.unicode = true) := by
  cases negated <;> cases unicode : f.unicode <;> cases ranges : a.ranges? f <;>
    simp [ranges?, Flags.negate?, unicode, ranges]

/-- The second is what the first becomes when digits are written out: it has a meaning where the
first has one, which is that with ASCII digits if there is no `\D`, and is one deeper at most. -/
structure Narrowed (x y : ClassExpr) : Prop where
  defined : ∀ f, (x.ranges? f).isSome = true → (y.ranges? f).isSome = true
  digits : x.Uncomplemented → ∀ f, y.ranges? f = x.asciiDigits.ranges? f
  depth : ∀ inUnion, y.depth inUnion ≤ x.depth inUnion + 1

namespace Narrowed

theorem refl (h : a.DigitFree) : a.Narrowed a :=
  ⟨fun _ => id, fun _ f => by rw [asciiDigits_of_digitFree h], fun _ => Nat.le_succ _⟩

/-- The complement of the digits is left as it is. -/
theorem complement : (shorthand .digit true).Narrowed (.shorthand .digit true) :=
  ⟨fun _ => id, fun plain => (nomatch plain rfl), fun _ => Nat.le_succ _⟩

theorem union (h : a.Narrowed a') (g : b.Narrowed b') : (union a b).Narrowed (union a' b') where
  defined f some := by
    rw [isSome_union] at some ⊢
    exact ⟨h.defined f some.1, g.defined f some.2⟩
  digits plain f := by simp only [ranges?, asciiDigits, h.digits plain.1 f, g.digits plain.2 f]
  depth inUnion := by
    have left := h.depth false
    have right := g.depth true
    simp only [ClassExpr.depth]
    split <;> omega

theorem operation (h : a.Narrowed a') (g : b.Narrowed b') (op : SetOperator) :
    (operation op a b).Narrowed (operation op a' b') where
  defined f some := by
    rw [isSome_operation] at some ⊢
    exact ⟨h.defined f some.1, g.defined f some.2⟩
  digits plain f := by simp only [ranges?, asciiDigits, h.digits plain.1 f, g.digits plain.2 f]
  depth inUnion := by
    have left := h.depth false
    have right := g.depth false
    simp only [ClassExpr.depth]
    omega

theorem bracket (h : a.Narrowed a') (negated : Bool) :
    (bracket negated a).Narrowed (bracket negated a') where
  defined f some := by
    rw [isSome_bracket] at some ⊢
    exact ⟨h.defined f some.1, some.2⟩
  digits plain f := by simp only [ranges?, asciiDigits, h.digits plain f]
  depth inUnion := by
    have inside := h.depth false
    simp only [ClassExpr.depth]
    omega

theorem unionOf (h : List.Forall₂ Narrowed items items') :
    (unionOf items).Narrowed (unionOf items') := by
  induction h with
  | nil => exact .refl trivial
  | cons first others ih =>
    cases others with
    | nil => exact first
    | cons => exact first.union ih

/-- A digit class is written out as a class of its own. -/
theorem digitClass (negated : Bool) :
    (shorthand .digit negated).Narrowed (.bracket negated (.range '0' '9')) where
  defined f some := by
    refine isSome_bracket.mpr ⟨by rw [ranges?_digits]; rfl, fun complement => ?_⟩
    subst complement
    cases unicode : f.unicode with
    | true => rfl
    | false => simp [ranges?, Flags.negate?, unicode] at some
  digits _ _ := rfl
  depth _ := Nat.le_refl 1

/-- Digits are written out as a range. -/
theorem digitRange : (shorthand .digit false).Narrowed (.range '0' '9') where
  defined f _ := by rw [ranges?_digits]; rfl
  digits _ f := by
    rw [ranges?_digits, asciiDigits, ranges?_bracket_digits]
    rfl
  depth _ := Nat.zero_le _

end Narrowed

end ClassExpr

namespace Atom

/-- An atom with the ASCII digits, or all other characters, for its digit classes. -/
def asciiDigits : Atom → Atom
  | shorthand .digit negated => bracketed negated (.range '0' '9')
  | bracketed negated content => bracketed negated content.asciiDigits
  | a => a

/-- There is no digit class in it. -/
def DigitFree : Atom → Prop
  | shorthand k _ => k ≠ .digit
  | bracketed _ content => content.DigitFree
  | _ => True

/-- There is no `\D` in a class. -/
def Uncomplemented : Atom → Prop
  | bracketed _ content => content.Uncomplemented
  | _ => True

theorem asciiDigits_of_digitFree {a : Atom} (h : a.DigitFree) : a.asciiDigits = a := by
  cases a with
  | shorthand k negated =>
    cases k with
    | digit => exact absurd rfl h
    | space | word => rfl
  | bracketed negated content => rw [asciiDigits, ClassExpr.asciiDigits_of_digitFree h]
  | literal | dot | anchor | property => rfl

/-- The second is what the first becomes when digits are written out. -/
structure Narrowed (a a' : Atom) : Prop where
  defined : ∀ f, (a.regex? f).isSome = true → (a'.regex? f).isSome = true
  digits : a.Uncomplemented → ∀ f, a'.regex? f = a.asciiDigits.regex? f
  depth : (Pattern.atom a').depth .neither ≤ (Pattern.atom a).depth .neither + 1

namespace Narrowed

theorem refl {a : Atom} (h : a.DigitFree) : a.Narrowed a :=
  ⟨fun _ => id, fun _ f => by rw [asciiDigits_of_digitFree h], Nat.le_succ _⟩

theorem bracketed {a a' : ClassExpr} (h : a.Narrowed a') (negated : Bool) :
    (bracketed negated a).Narrowed (bracketed negated a') where
  defined f some := by
    simp only [regex?, ClassExpr.charSet?, Option.isSome_map] at some ⊢
    exact (h.bracket negated).defined f some
  digits plain f := by
    have same := (h.bracket negated).digits plain f
    simp only [regex?, ClassExpr.charSet?, Atom.asciiDigits]
    rw [same]
    rfl
  depth := (h.bracket negated).depth false

/-- A digit class is written out as a bracketed class. -/
theorem digitClass (negated : Bool) :
    (shorthand .digit negated).Narrowed (.bracketed negated (.range '0' '9')) where
  defined f some := by
    simp only [regex?, ClassExpr.charSet?, Option.isSome_map] at some ⊢
    exact (ClassExpr.Narrowed.digitClass negated).defined f some
  digits _ _ := rfl
  depth := Nat.le_refl 1

end Narrowed

end Atom

/-- A pattern with the ASCII digits, or all other characters, for its digit classes. -/
def asciiDigits : Pattern → Pattern
  | atom a => atom a.asciiDigits
  | rounds r greedy p => rounds r greedy p.asciiDigits
  | group k p => group k p.asciiDigits
  | cat a b => cat a.asciiDigits b.asciiDigits
  | alt a b => alt a.asciiDigits b.asciiDigits
  | empty => empty
  | flags changes => flags changes

end Pattern

end StepExpr
