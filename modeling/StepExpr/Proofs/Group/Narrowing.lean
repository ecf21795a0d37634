import StepExpr.Proofs.Expression.Matching
import StepExpr.Proofs.Regex.Limit

/-!
# Digits in matchers

A matcher is compiled from a pattern whose digit classes are written out in its text. Unless there
is a `\D` in a class, the matcher is that of the pattern with the ASCII digits.

* `contains_asciiDigit` and `denotes_asciiDigit` say what the ASCII digits stand for;
* `Alike.branchesFrom?`: a pattern that is written out becomes what the pattern does with the ASCII
  digits;
* `Matcher.compile?_narrowed` puts the parts together.
-/

namespace StepExpr

open Pattern

namespace Pattern

variable {p q : Pattern} {f : Flags} {text : Array Char} {i j : Nat} {negated : Bool}

/-! ## What digits stand for -/

theorem contains_digitCodes (c : Char) : (CharSet.mk digitCodes).contains c = c.isDigit := by
  rw [Bool.eq_iff_iff]
  simp [CharSet.contains, CharSet.holdsIn, digitCodes, Char.isDigit, UInt32.le_iff_toNat_le]

theorem contains_compl_digitCodes (c : Char) :
    (CharSet.mk digitCodes).compl.contains c = !c.isDigit := by
  have known : (CharSet.mk digitCodes).compl = ⟨[⟨0, 47⟩, ⟨58, 0x10FFFF⟩]⟩ := by decide +kernel
  have last := CharSet.code_le c
  rw [known, ← contains_digitCodes, Bool.eq_iff_iff]
  simp [CharSet.contains, CharSet.holdsIn, digitCodes, CharSet.maxCode] at last ⊢
  omega

theorem contains_negate? {s : CharSet} (h : f.negate? negated ⟨digitCodes⟩ = some s) (c : Char) :
    s.contains c = (c.isDigit != negated) := by
  unfold Flags.negate? at h
  cases negated with
  | false =>
    obtain rfl := Option.some.inj h
    rw [contains_digitCodes, Bool.bne_false]
  | true =>
    obtain ⟨-, same⟩ := Option.ite_none_right_eq_some.mp h
    rw [← Option.some.inj same, contains_compl_digitCodes, Bool.bne_true]

/-- In a class, a digit class stands for the ASCII digits or for all other characters. -/
theorem contains_asciiDigit {s : CharSet}
    (h : (ClassExpr.shorthand .digit negated).asciiDigits.charSet? f = some s) (c : Char) :
    s.contains c = (c.isDigit != negated) := by
  rw [ClassExpr.asciiDigits, ClassExpr.charSet?, ClassExpr.ranges?_bracket_digits,
    Option.map_map] at h
  obtain ⟨s, found, rfl⟩ := Option.map_eq_some_iff.mp h
  exact contains_negate? found c

/-- Outside classes, a digit class takes up one ASCII digit or one other character. -/
theorem denotes_asciiDigit (whole : negated = true → f.unicode = true) :
    (atom (.shorthand .digit negated)).asciiDigits.Denotes text f i j ↔
      (∃ c, text[i]? = some c ∧ (c.isDigit != negated) = true) ∧ i + 1 = j := by
  obtain ⟨s, found⟩ : ∃ s, (ClassExpr.shorthand .digit negated).asciiDigits.charSet? f = some s := by
    rw [ClassExpr.asciiDigits, ClassExpr.charSet?, ClassExpr.ranges?_bracket_digits]
    cases negated with
    | false => exact ⟨_, rfl⟩
    | true => exact ⟨_, by simp [Flags.negate?, whole]; rfl⟩
  have denoted : (atom (.shorthand .digit negated)).asciiDigits.Denotes text f i j ↔
      Regex.Holds text s i j := by
    have known : (Atom.bracketed negated (.range '0' '9')).regex? f =
        some (.ofSet (!f.unicode) s) := by
      rw [Atom.regex?]
      exact congrArg _ found
    simp only [asciiDigits, Atom.asciiDigits, Denotes, known, Option.some.injEq, exists_eq_left',
      Regex.matches_ofSet]
  rw [denoted, Regex.Holds]
  simp only [contains_asciiDigit found]

/-! ## Patterns that are written out -/

theorem Alike.branchesFrom? (h : p.Alike q) (plain : p.AllAtoms Atom.Uncomplemented) (f : Flags)
    (n : Nat) : q.branchesFrom? f n = p.asciiDigits.branchesFrom? f n := by
  induction h generalizing f n with
  | empty | flags => rfl
  | atoms narrowed => simp only [Pattern.branchesFrom?, asciiDigits, narrowed.digits plain f]
  | rounds r greedy _ ih => simp only [Pattern.branchesFrom?, asciiDigits, ih plain]
  | group k _ ih => cases k <;> simp only [Pattern.branchesFrom?, asciiDigits, ih plain]
  | cat _ _ iha ihb | alt _ _ iha ihb =>
    simp only [Pattern.branchesFrom?, asciiDigits, iha plain.1, ihb plain.2]

/-- Digits that are written out nest one deeper at most. -/
theorem Alike.depth (h : p.Alike q) (spine : Spine) : q.depth spine ≤ p.depth spine + 1 := by
  induction h generalizing spine with
  | empty | flags => exact Nat.le_succ _
  | @atoms a b narrowed =>
    have same (a : Atom) : (atom a).depth spine = (atom a).depth .neither := by cases a <;> rfl
    rw [same a, same b]
    exact narrowed.depth
  | rounds r greedy _ ih | group k _ ih => exact Nat.succ_le_succ (ih .neither)
  | cat _ _ iha ihb =>
    have left := iha .neither
    have right := ihb .items
    simp only [Pattern.depth]
    split <;> omega
  | alt _ _ iha ihb =>
    have left := iha .neither
    have right := ihb .branches
    simp only [Pattern.depth]
    split <;> omega

/-- The tree of a pattern with its digits written out, before its names and its depth are checked. -/
def written? (source : List Char) : Option Pattern :=
  (Lexeme.scan? (narrowDigits source)).bind (build? [] .start)

end Pattern

/-! ## Matchers -/

namespace Matcher

variable {source : List Char} {p : Pattern}

/-- A matcher is compiled from a pattern with the ASCII digits for its digit classes, where neither
the flag `x` nor a bracket in the name of a group hides from the writer what stands in a class, and
where no class holds the complement `\D`. -/
theorem compile?_narrowed (tame : Tame source) (parsed : parse? source = some p)
    (defined : p.Defined .initial)
    (plain : p.AllAtoms Atom.Uncomplemented) :
    ∃ q r, written? source = some q ∧ q.depth .neither ≤ p.depth .neither + 1 ∧
      p.asciiDigits.regex? = some r ∧
      ((compile? source).isSome = true ↔
        q.depth .neither ≤ maxDepth ∧ r.isWithinLimit = true) ∧
      ∀ m, compile? source = some m → m.program = r.program ∧
        ∀ text, (m.match? text).isSome = true ↔
          ∃ i j, i ≤ text.length ∧ p.asciiDigits.Denotes text.toArray .initial i j := by
  obtain ⟨q, -, alike, ls, cut, built⟩ := fills_of_parse? tame parsed defined
  have written : written? source = some q := by rw [written?, cut, Option.bind_some, built]
  obtain ⟨r, known⟩ := (alike.defined defined).regex?
  have meaning : p.asciiDigits.regex? = some r := by
    rw [← known, Pattern.regex?, Pattern.regex?, alike.branchesFrom? plain]
  obtain ⟨-, -, -, distinct, -⟩ := parse?_eq_some_iff.mp parsed
  have read : ∀ q', parse? (narrowDigits source) = some q' ↔
      q' = q ∧ q.depth .neither ≤ maxDepth := by
    intro q'
    rw [parse?_eq_some_iff]
    constructor
    · rintro ⟨ls', cut', built', -, shallow⟩
      obtain rfl := Option.some.inj (cut.symm.trans cut')
      obtain rfl := Option.some.inj (built.symm.trans built')
      exact ⟨rfl, shallow⟩
    · rintro ⟨rfl, shallow⟩
      exact ⟨ls, cut, built, alike.names ▸ distinct, shallow⟩
  have compiled : ∀ m, compile? source = some m ↔
      (q.depth .neither ≤ maxDepth ∧ r.isWithinLimit = true) ∧
        m = ⟨source, narrowDigits source, r.program, GroupTree.ofPattern source⟩ := by
    intro m
    rw [compile?_eq_some_iff]
    constructor
    · rintro ⟨q', r', parsed', meaning', small, rfl⟩
      obtain ⟨rfl, shallow⟩ := (read q').mp parsed'
      obtain rfl := Option.some.inj (known.symm.trans meaning')
      exact ⟨⟨shallow, small⟩, rfl⟩
    · rintro ⟨⟨shallow, small⟩, rfl⟩
      exact ⟨q, r, (read q).mpr ⟨rfl, shallow⟩, known, small, rfl⟩
  refine ⟨q, r, written, alike.depth .neither, meaning, ?_, fun m made => ?_⟩
  · rw [Option.isSome_iff_exists]
    constructor
    · rintro ⟨m, made⟩
      exact ((compiled m).mp made).1
    · intro fits
      exact ⟨_, (compiled _).mpr ⟨fits, rfl⟩⟩
  · obtain ⟨-, rfl⟩ := (compiled m).mp made
    refine ⟨rfl, fun text => ?_⟩
    rw [Matcher.match?, Option.isSome_map, Regex.program_search_isSome_iff]
    simp only [(regex?_spec meaning).2, List.size_toArray]

theorem compile?_narrowed_class : ∃ m, compile? "[^\\d]\\d".toList = some m ∧
    ∀ text, (m.match? text).isSome = true ↔ ∃ i c d, text[i]? = some c ∧ c.isDigit = false ∧
      text[i + 1]? = some d ∧ d.isDigit = true := by
  have tame : Tame "[^\\d]\\d".toList :=
    tame_of_scan? rfl (by simp [Lexeme.Quiet, Lexeme.NamesNoBracket])
  have parsed : parse? "[^\\d]\\d".toList = some (.cat
      (.atom (.bracketed true (.shorthand .digit false)))
      (.atom (.shorthand .digit false))) := rfl
  have written : written? "[^\\d]\\d".toList = some (.cat
      (.atom (.bracketed true (.range '0' '9')))
      (.atom (.bracketed false (.range '0' '9')))) := rfl
  obtain ⟨q, r, known, -, meaning, fits, each⟩ :=
    compile?_narrowed tame parsed ⟨rfl, rfl⟩ ⟨fun _ => rfl, trivial⟩
  obtain rfl := Option.some.inj (written.symm.trans known)
  have spelled : (Pattern.cat (.atom (.bracketed true (.bracket false (.range '0' '9'))))
      (.atom (.bracketed false (.range '0' '9')))).regex? =
        some (.cat (.ofSet false (CharSet.mk digitCodes).compl) (.ofSet false ⟨digitCodes⟩)) := by
    decide +kernel
  obtain rfl := Option.some.inj (spelled.symm.trans meaning)
  have small := Regex.isWithinLimit_of_cost (r := .cat (.ofSet false (CharSet.mk digitCodes).compl)
    (.ofSet false ⟨digitCodes⟩)) fun d => by cases d <;> decide +kernel
  obtain ⟨m, made⟩ := Option.isSome_iff_exists.mp (fits.mpr ⟨by decide, small⟩)
  refine ⟨m, made, fun text => (each m made).2 text |>.trans ?_⟩
  simp only [← (regex?_spec meaning).2, Regex.matches_cat, Regex.matches_ofSet, Regex.Holds,
    contains_compl_digitCodes, contains_digitCodes, List.getElem?_toArray]
  constructor
  · rintro ⟨i, _, -, _, ⟨⟨c, first, other⟩, rfl⟩, ⟨d, second, digit⟩, rfl⟩
    exact ⟨i, c, d, first, by simpa using other, second, digit⟩
  · rintro ⟨i, c, d, first, other, second, digit⟩
    obtain ⟨inside, -⟩ := List.getElem?_eq_some_iff.mp first
    exact ⟨i, i + 2, Nat.le_of_lt inside, i + 1, ⟨⟨c, first, by simpa using other⟩, rfl⟩,
      ⟨d, second, digit⟩, rfl⟩

end Matcher

end StepExpr
