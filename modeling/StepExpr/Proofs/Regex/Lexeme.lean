import StepExpr.Proofs.Regex.Class

/-!
# Cutting patterns

Without the flag `x` the first lexeme of a pattern does not depend on the groups around it, and on
little of what comes after it. So a pattern is cut into the same lexemes wherever it stands, with or
without its digits written out.

* `Cuts` says that a text is cut into lexemes and a rest;
* `PlainForm` and `OpeningText` are what a lexeme is written as, and `readLexeme_moves` tells how it
  is read wherever it stands;
* `Cuts.scanFrom` and `exists_cuts` tie the cuts to that of a whole pattern;
* `Cuts.narrow`: a pattern with its digits written out is cut into lexemes that differ in their
  digit classes only, and anything may follow that is no part of its last lexeme.
-/

namespace StepExpr

namespace Pattern

variable {cs left rest : List Char} {l l' : Lexeme} {d e : Nat}

/-! ## Single lexemes -/

/-- The first lexeme of a text. -/
def readLexeme : List Char → Option (Lexeme × List Char)
  | [] => none
  | '(' :: rest => readOpening false rest
  | ')' :: rest => some (.closing, rest)
  | c :: rest => readPlain false c rest

/-- How many groups are open after a lexeme, if `depth` are open before it. -/
def Lexeme.depth? (depth : Nat) : Lexeme → Option Nat
  | .opening _ => some (depth + 1)
  | .closing => if depth = 0 then none else some (depth - 1)
  | _ => some depth

/-- The lexeme does not turn the flag `x` on. -/
def Lexeme.Quiet : Lexeme → Prop
  | .flags changes => changes.value? .verbose ≠ some true
  | .opening (.plain changes) => changes.value? .verbose ≠ some true
  | _ => True

def Lexeme.Legible : Lexeme → Prop
  | .atom a => a.Legible
  | _ => True

def Lexeme.DigitFree : Lexeme → Prop
  | .atom a => a.DigitFree
  | _ => True

/-- What stands in `rest` is no part of the lexeme before it. -/
def Lexeme.Ends (rest : List Char) : Lexeme → Prop
  | .atom (.anchor .boundary) => EndsBoundary rest
  | .opening (.capturing none) => rest.head? ≠ some '?'
  | .rounds _ true => rest.head? ≠ some '?'
  | _ => True

/-- Lexemes that are the same, without a digit class, or two atoms of which the second is what the
first becomes when digits are written out. -/
inductive Lexeme.Alike : Lexeme → Lexeme → Prop where
  | same {l : Lexeme} (free : l.DigitFree) : Alike l l
  | atoms {a b : Atom} (narrowed : a.Narrowed b) : Alike (.atom a) (.atom b)

theorem Lexeme.Alike.depth? (h : l.Alike l') : l'.depth? d = l.depth? d := by
  cases h <;> rfl

theorem Lexeme.Alike.quiet (h : l.Alike l') (quiet : l.Quiet) : l'.Quiet := by
  cases h with
  | same => exact quiet
  | atoms => trivial

theorem readGreed_greedy (h : cs.head? ≠ some '?') : readGreed cs = (true, cs) := by
  cases cs with
  | nil => rfl
  | cons c cs =>
    have notMark : c ≠ '?' := by simpa using h
    simp [readGreed, notMark]

theorem readGreed_sound {greedy : Bool} (h : readGreed cs = (greedy, left)) :
    ∃ mark, cs = mark ++ left ∧ (∀ c ∈ mark, IsInner c) ∧ (greedy = true → left.head? ≠ some '?') ∧
      ∀ rest, (greedy = true → rest.head? ≠ some '?') → readGreed (mark ++ rest) = (greedy, rest) := by
  by_cases lazy : cs.head? = some '?'
  · obtain ⟨cs, rfl⟩ := List.head?_eq_some_iff.mp lazy
    obtain ⟨rfl, rfl⟩ := Prod.mk.inj h
    exact ⟨['?'], rfl, by simp [IsInner, IsPlain], nofun, fun rest _ => rfl⟩
  · rw [readGreed_greedy lazy] at h
    obtain ⟨rfl, rfl⟩ := Prod.mk.inj h
    exact ⟨[], rfl, by simp, fun _ => lazy, fun rest ends => readGreed_greedy (ends rfl)⟩

/-- The characters that are more than themselves outside classes. -/
def IsMark (c : Char) : Prop :=
  c ∈ ['(', ')', '|', '?', '*', '+', '\x7b', '[', '\\', '.', '^', '$']

/-- The marks that are lexemes by themselves, parentheses apart. -/
def Lexeme.marks : List (Char × Lexeme) :=
  [('|', .bar), ('.', .atom .dot), ('^', .atom (.anchor .lineStart)), ('$', .atom (.anchor .lineEnd))]

def Rounds.marks : List (Char × Rounds) :=
  [('?', ⟨0, some 1⟩), ('*', ⟨0, none⟩), ('+', ⟨1, none⟩)]

/-- The forms of the lexemes that start with `c`, where that is no parenthesis. -/
inductive PlainForm (left : List Char) : Lexeme → Char → List Char → Prop where
  | sign {l : Lexeme} {c : Char} (named : (c, l) ∈ Lexeme.marks) : PlainForm left l c left
  | loop {c : Char} {cs : List Char} {r : Rounds} {greedy : Bool} (named : (c, r) ∈ Rounds.marks)
      (greed : readGreed cs = (greedy, left)) : PlainForm left (.rounds r greedy) c cs
  | counted {cs rest : List Char} {r : Rounds} {greedy : Bool}
      (counts : readRounds false cs = some (r, rest)) (valid : r.isValid = true)
      (greed : readGreed rest = (greedy, left)) : PlainForm left (.rounds r greedy) '\x7b' cs
  | bracketed {cs : List Char} {negated : Bool} {content : ClassExpr}
      (reads : readClass false cs = some (.bracketed negated content, left)) :
      PlainForm left (.atom (.bracketed negated content)) '[' cs
  | escape {cs : List Char} {a : Atom} (reads : readEscape false cs = some (a, left)) :
      PlainForm left (.atom a) '\\' cs
  | literal {c : Char} (unmarked : ¬ IsMark c) : PlainForm left (.atom (.literal c false)) c left

theorem PlainForm.of_readPlain {c : Char} (out : c ≠ '(' ∧ c ≠ ')')
    (h : readPlain false c cs = some (l, left)) : PlainForm left l c cs := by
  have looped {c : Char} {r : Rounds} (named : (c, r) ∈ Rounds.marks)
      (h : some (Lexeme.rounds r (readGreed cs).1, (readGreed cs).2) = some (l, left)) :
      PlainForm left l c cs := by
    obtain ⟨rfl, rfl⟩ := Prod.mk.inj (Option.some.inj h)
    exact .loop named rfl
  have signed {c : Char} {l' : Lexeme} (named : (c, l') ∈ Lexeme.marks)
      (h : some (l', cs) = some (l, left)) : PlainForm left l c cs := by
    obtain ⟨rfl, rfl⟩ := Prod.mk.inj (Option.some.inj h)
    exact .sign named
  unfold readPlain at h
  simp only [skip, Bool.false_eq_true, if_false] at h
  split at h
  · exact signed (by simp [Lexeme.marks]) h
  · exact looped (by simp [Rounds.marks]) h
  · exact looped (by simp [Rounds.marks]) h
  · exact looped (by simp [Rounds.marks]) h
  · split at h
    · cases h
    · rename_i counts
      split at h
      · rename_i valid
        obtain ⟨rfl, rfl⟩ := Prod.mk.inj (Option.some.inj h)
        exact .counted counts valid rfl
      · cases h
  · obtain ⟨⟨a, behind⟩, reads, same⟩ := Option.map_eq_some_iff.mp h
    obtain ⟨rfl, rfl⟩ := Prod.mk.inj same
    obtain ⟨_, _, -, whole⟩ := readsClass_of_readClass reads
    obtain ⟨negated, content, rfl⟩ := whole.bracketed
    exact .bracketed reads
  · obtain ⟨⟨a, behind⟩, reads, same⟩ := Option.map_eq_some_iff.mp h
    obtain ⟨rfl, rfl⟩ := Prod.mk.inj same
    exact .escape reads
  · exact signed (by simp [Lexeme.marks]) h
  · exact signed (by simp [Lexeme.marks]) h
  · exact signed (by simp [Lexeme.marks]) h
  · obtain ⟨rfl, rfl⟩ := Prod.mk.inj (Option.some.inj h)
    refine .literal ?_
    simp_all [IsMark]

theorem isInner_loop {c : Char} {r : Rounds} (named : (c, r) ∈ Rounds.marks) : IsInner c := by
  simp only [Rounds.marks, List.mem_cons, Prod.mk.injEq, List.not_mem_nil, or_false] at named
  rcases named with ⟨rfl, -⟩ | ⟨rfl, -⟩ | ⟨rfl, -⟩ <;> decide

/-- What it takes for a lexeme to be read in the same way elsewhere: its text, with its digits
written out, and nothing behind it that is part of it. -/
def Moves (l : Lexeme) (cs left : List Char) : Prop :=
  ∃ chunk chunk' l', cs = chunk ++ left ∧ chunk' ≠ [] ∧ Narrows false chunk chunk' false ∧
    l.Alike l' ∧ l.Ends left ∧ ∀ rest, l.Ends rest → readLexeme (chunk' ++ rest) = some (l', rest)

theorem Moves.single {c : Char} (plain : IsPlain c) (free : l.DigitFree) (ends : l.Ends left)
    (reads : ∀ rest, l.Ends rest → readLexeme (c :: rest) = some (l, rest)) :
    Moves l (c :: left) left :=
  ⟨[c], [c], l, rfl, by simp, .plain (List.forall_mem_singleton.mpr plain), .same free, ends, reads⟩

theorem readLexeme_literal {c : Char} (h : ¬ IsMark c) (rest : List Char) :
    readLexeme (c :: rest) = some (.atom (.literal c false), rest) := by
  simp only [IsMark, List.mem_cons, List.not_mem_nil, or_false, not_or] at h
  obtain ⟨h₁, h₂, h₃, h₄, h₅, h₆, h₇, h₈, h₉, h₁₀, h₁₁, h₁₂⟩ := h
  simp [readLexeme, readPlain, *]

theorem moves_literal {c : Char} (h : ¬ IsMark c) :
    Moves (.atom (.literal c false)) (c :: left) left := by
  have reads := readLexeme_literal h
  by_cases closes : c = ']'
  · subst closes
    exact ⟨[']'], [']'], _, rfl, by simp, .closer, .same trivial, trivial, fun rest _ => reads rest⟩
  · have plain : IsPlain c := by
      refine ⟨?_, ?_, closes⟩ <;> rintro rfl <;> simp [IsMark] at h
    exact .single plain trivial trivial fun rest _ => reads rest

theorem Moves.rounds {c : Char} {more : List Char} {r : Rounds} {greedy : Bool}
    (plain : ∀ d ∈ c :: more, IsPlain d) (h : readGreed cs = (greedy, left))
    (reads : ∀ cs left, readGreed cs = (greedy, left) → readLexeme (c :: (more ++ cs)) = some (.rounds r greedy, left)) :
    Moves (.rounds r greedy) (c :: (more ++ cs)) left := by
  obtain ⟨mark, rfl, inner, ends, greed⟩ := readGreed_sound h
  have whole : ∀ d ∈ c :: (more ++ mark), IsPlain d := by
    intro d hd
    rcases List.mem_append.mp (List.cons_append ▸ hd : d ∈ (c :: more) ++ mark) with hd | hd
    · exact plain d hd
    · exact (inner d hd).plain
  have last {rest : List Char} : (greedy = true → rest.head? ≠ some '?') ↔
      (Lexeme.rounds r greedy).Ends rest := by
    cases greedy <;> simp [Lexeme.Ends]
  refine ⟨c :: (more ++ mark), c :: (more ++ mark), _, by simp, by simp, .plain whole, .same trivial,
    last.mp ends, fun rest behind => ?_⟩
  rw [List.cons_append, List.append_assoc]
  exact reads (mark ++ rest) rest (greed rest (last.mpr behind))

theorem form_of_readOpening (h : readOpening false cs = some (l, left)) :
    (∃ k, l = .opening k) ∨ ∃ changes, l = .flags changes := by
  obtain ⟨chunk, -, text, -⟩ := readOpening_sound h
  cases text with
  | bare | named | plain => exact .inl ⟨_, rfl⟩
  | flags => exact .inr ⟨_, rfl⟩

theorem OpeningText.ends {chunk : List Char} (h : OpeningText l chunk) (rest : List Char) :
    (l = .opening (.capturing none) → rest.head? ≠ some '?') ↔ l.Ends rest := by
  cases h <;> simp [Lexeme.Ends]

theorem OpeningText.moves {chunk : List Char} (h : OpeningText l chunk) (named : l.NamesNoBracket)
    (ends : l = .opening (.capturing none) → left.head? ≠ some '?') :
    Moves l ('(' :: (chunk ++ left)) left := by
  have plain : Narrows false ['('] ['('] false := .plain (by simp [IsPlain])
  have free : l.DigitFree := by
    cases h <;> trivial
  exact ⟨'(' :: chunk, '(' :: chunk, l, rfl, by simp, plain.append (h.narrows named), .same free,
    (h.ends left).mp ends, fun rest behind => h.reads ((h.ends rest).mpr behind)⟩

theorem boundary {a : Atom} : (a = .anchor .boundary → EndsBoundary rest) ↔ (Lexeme.atom a).Ends rest := by
  cases a with
  | anchor a => cases a <;> simp [Lexeme.Ends]
  | _ => simp [Lexeme.Ends]

theorem readLexeme_digits {c : Char} (digit : c = 'd' ∨ c = 'D') :
    ∃ a, (Atom.shorthand .digit (c == 'D')).Narrowed a ∧ ∀ rest,
      readLexeme (narrowEscape false c ++ rest) = some (.atom a, rest) := by
  rcases digit with rfl | rfl
  · exact ⟨.bracketed false (.range '0' '9'), .digitClass false, fun _ => rfl⟩
  · exact ⟨.bracketed true (.range '0' '9'), .digitClass true, fun _ => rfl⟩

theorem moves_sign {c : Char} (named : (c, l) ∈ Lexeme.marks) : Moves l (c :: left) left := by
  simp only [Lexeme.marks, List.mem_cons, Prod.mk.injEq, List.not_mem_nil, or_false] at named
  rcases named with ⟨rfl, rfl⟩ | ⟨rfl, rfl⟩ | ⟨rfl, rfl⟩ | ⟨rfl, rfl⟩ <;>
    exact .single (by simp [IsPlain]) trivial trivial fun _ _ => rfl

theorem readLexeme_loop {c : Char} {r : Rounds} {greedy : Bool} (named : (c, r) ∈ Rounds.marks)
    (greed : readGreed cs = (greedy, left)) :
    readLexeme (c :: cs) = some (.rounds r greedy, left) := by
  simp only [Rounds.marks, List.mem_cons, Prod.mk.injEq, List.not_mem_nil, or_false] at named
  rcases named with ⟨rfl, rfl⟩ | ⟨rfl, rfl⟩ | ⟨rfl, rfl⟩ <;> simp [readLexeme, readPlain, greed]

theorem moves_escape {a : Atom} (legible : a.Legible) (h : readEscape false cs = some (a, left)) :
    Moves (.atom a) ('\\' :: cs) left := by
  obtain ⟨c, more, rfl, inner, digit, ends, reads⟩ := readEscape_sound legible h
  by_cases digits : c = 'd' ∨ c = 'D'
  · obtain ⟨rfl, rfl⟩ := digit digits
    obtain ⟨a', defined, whole⟩ := readLexeme_digits digits
    refine ⟨['\\', c], narrowEscape false c, .atom a', rfl, ?_,
      .escape c, .atoms defined, trivial, fun rest _ => whole rest⟩
    rcases digits with rfl | rfl <;> simp [narrowEscape]
  · have plain : ∀ d ∈ more, IsPlain d := fun d hd => (inner d hd).plain
    refine ⟨'\\' :: c :: more, '\\' :: c :: more, .atom a, rfl, by simp,
      narrows_escape plain digits, .same (digitFree_of_readEscape h digits),
      boundary.mp ends, fun rest behind => ?_⟩
    simp [readLexeme, readPlain, reads rest (boundary.mpr behind)]

theorem PlainForm.moves {c : Char} (h : PlainForm left l c cs) (legible : l.Legible) :
    Moves l (c :: cs) left := by
  cases h with
  | sign named => exact moves_sign named
  | loop named greed =>
    have plain : ∀ d ∈ [c], IsPlain d := List.forall_mem_singleton.mpr (isInner_loop named).plain
    exact .rounds plain greed fun cs left greed => readLexeme_loop named greed
  | counted counts valid greed =>
    obtain ⟨chunk, rfl, inner, reads⟩ := readRounds_local counts
    have plain : ∀ c ∈ '\x7b' :: chunk, IsPlain c :=
      List.forall_mem_cons.mpr ⟨isInner_brace.1.plain, fun c hc => (inner c hc).plain⟩
    refine .rounds plain greed fun cs left greed => ?_
    simp [readLexeme, readPlain, reads, skip, valid, greed]
  | @bracketed _ negated content reads =>
    have ok : (Atom.bracketed negated content).Legible := legible
    obtain ⟨chunk, chunk', a', rfl, narrows, defined, reads⟩ := readClass_sound ok reads
    exact ⟨'[' :: chunk, '[' :: chunk', .atom a', rfl, by simp, Narrows.opener.append narrows,
      .atoms defined, trivial, fun rest _ => by simp [readLexeme, readPlain, reads]⟩
  | escape reads => exact moves_escape legible reads
  | literal unmarked => exact moves_literal unmarked

/-- A lexeme is read in the same way wherever it stands. -/
theorem readLexeme_moves (named : l.NamesNoBracket) (legible : l.Legible)
    (h : readLexeme cs = some (l, left)) : Moves l cs left := by
  unfold readLexeme at h
  split at h
  · cases h
  · obtain ⟨chunk, rfl, text, ends⟩ := readOpening_sound h
    exact text.moves named ends
  · obtain ⟨rfl, rfl⟩ := Prod.mk.inj (Option.some.inj h)
    exact .single (by simp [IsPlain]) trivial trivial fun _ _ => rfl
  · rename_i notOpening notClosing
    exact (PlainForm.of_readPlain ⟨notOpening, notClosing⟩ h).moves legible

/-! ## Cuts -/

/-- The text is cut into lexemes and a rest, where `d` groups are open before it and `e` after it. -/
inductive Cuts : Nat → List Char → List Lexeme → Nat → List Char → Prop where
  | nil (d : Nat) (cs : List Char) : Cuts d cs [] d cs
  | cons {d e f : Nat} {cs mid left : List Char} {l : Lexeme} {ls : List Lexeme}
      (first : readLexeme cs = some (l, mid)) (quiet : l.Quiet) (depth : l.depth? d = some e)
      (others : Cuts e mid ls f left) : Cuts d cs (l :: ls) f left

theorem Cuts.append {f : Nat} {mid : List Char} {ls ls' : List Lexeme} (h : Cuts d cs ls e mid)
    (g : Cuts e mid ls' f left) : Cuts d cs (ls ++ ls') f left := by
  induction h with
  | nil d cs => exact g
  | cons first quiet depth _ ih => exact .cons first quiet depth (ih g)

theorem Lexeme.depth?_add {depth : Nat} (h : l.depth? d = some e) :
    l.depth? (d + depth) = some (e + depth) := by
  cases l with
  | closing =>
    simp only [Lexeme.depth?] at h ⊢
    split at h
    · cases h
    · obtain ⟨rfl⟩ := h
      rw [if_neg (by omega)]
      congr 1
      omega
  | opening k =>
    obtain ⟨rfl⟩ := h
    simp only [Lexeme.depth?, Option.some.injEq]
    omega
  | _ =>
    obtain ⟨rfl⟩ := h
    rfl

/-- Groups around a text do not change its cut. -/
theorem Cuts.inside {ls : List Lexeme} (h : Cuts d cs ls e left) (depth : Nat) :
    Cuts (d + depth) cs ls (e + depth) left := by
  induction h with
  | nil d cs => exact .nil _ cs
  | cons first quiet grows _ ih => exact .cons first quiet (Lexeme.depth?_add grows) ih

theorem stays_quiet {changes : FlagChanges} (h : changes.value? .verbose ≠ some true) :
    (changes.value? .verbose).getD false = false := by
  cases value : changes.value? .verbose with
  | none => rfl
  | some on =>
    cases on with
    | false => rfl
    | true => exact absurd value h

theorem PlainForm.depth? {c : Char} (h : PlainForm left l c cs) : l.depth? d = some d := by
  cases h with
  | sign named =>
    simp only [Lexeme.marks, List.mem_cons, Prod.mk.injEq, List.not_mem_nil, or_false] at named
    rcases named with ⟨-, rfl⟩ | ⟨-, rfl⟩ | ⟨-, rfl⟩ | ⟨-, rfl⟩ <;> rfl
  | loop | counted | bracketed | escape | literal => rfl

/-- Where the flag `x` is off, a step of the cut reads a lexeme. -/
theorem scanFrom_step {fuel : Nat} (first : readLexeme cs = some (l, left)) (quiet : l.Quiet)
    (depth : l.depth? d = some e) :
    scanFrom (fuel + 1) false (List.replicate d false) cs =
      (scanFrom fuel false (List.replicate e false) left).map (l :: ·) := by
  unfold readLexeme at first
  split at first
  · cases first
  · rename_i rest
    simp only [scanFrom, skip, Bool.false_eq_true, if_false, first]
    rcases form_of_readOpening first with ⟨k, rfl⟩ | ⟨changes, rfl⟩
    · obtain rfl : d + 1 = e := Option.some.inj depth
      cases k with
      | capturing name => rfl
      | plain changes =>
        simp only [stays_quiet quiet]
        rfl
    · obtain rfl : d = e := Option.some.inj depth
      simp only [stays_quiet quiet]
  · obtain ⟨rfl, rfl⟩ := Prod.mk.inj (Option.some.inj first)
    cases d with
    | zero => cases depth
    | succ d =>
      obtain rfl : d = e := Option.some.inj depth
      rfl
  · rename_i c rest notOpening notClosing
    have form := PlainForm.of_readPlain ⟨notOpening, notClosing⟩ first
    obtain rfl : d = e := Option.some.inj (form.depth?.symm.trans depth)
    simp only [scanFrom, skip, Bool.false_eq_true, if_false, first]

theorem Cuts.scanFrom {ls ls' : List Lexeme} {fuel : Nat} (h : Cuts d cs ls e left)
    (others : scanFrom fuel false (List.replicate e false) left = some ls') :
    Pattern.scanFrom (fuel + ls.length) false (List.replicate d false) cs = some (ls ++ ls') := by
  induction h with
  | nil d cs => exact others
  | cons first quiet depth _ ih =>
    rw [List.length_cons, ← Nat.add_assoc, scanFrom_step first quiet depth, ih others]
    rfl

theorem readLexeme_eq_readPlain {c : Char} (h : c ≠ '(' ∧ c ≠ ')') :
    readLexeme (c :: rest) = readPlain false c rest := by
  simp [readLexeme, h.1, h.2]

/-- A cut without the flag `x` reads lexeme after lexeme. -/
theorem exists_cuts {ls : List Lexeme} {fuel : Nat} (quiet : ∀ l ∈ ls, l.Quiet)
    (h : scanFrom fuel false (List.replicate d false) cs = some ls) : ∃ e, Cuts d cs ls e [] := by
  induction fuel generalizing d cs ls with
  | zero => cases h
  | succ fuel ih =>
    have further {l : Lexeme} {left : List Char} {e : Nat} (first : readLexeme cs = some (l, left))
        (depth : l.depth? d = some e) (cut : scanFrom (fuel + 1) false (List.replicate d false) cs = some ls)
        (head : ls.head? = some l) : ∃ e, Cuts d cs ls e [] := by
      obtain ⟨ls, rfl⟩ := List.head?_eq_some_iff.mp head
      obtain ⟨quietFirst, others⟩ := List.forall_mem_cons.mp quiet
      rw [scanFrom_step first quietFirst depth] at cut
      obtain ⟨ls', behind, same⟩ := Option.map_eq_some_iff.mp cut
      obtain ⟨-, rfl⟩ := List.cons.inj same
      obtain ⟨f, cuts⟩ := ih others behind
      exact ⟨f, .cons first quietFirst depth cuts⟩
    have whole := h
    unfold scanFrom at h
    simp only [skip, Bool.false_eq_true, if_false] at h
    split at h
    · obtain rfl := Option.some.inj h
      exact ⟨d, .nil d []⟩
    · rename_i rest
      split at h
      · cases h
      · rename_i first
        obtain ⟨_, _, same⟩ := Option.map_eq_some_iff.mp h
        exact further first rfl whole (same ▸ rfl)
      · rename_i first
        obtain ⟨_, _, same⟩ := Option.map_eq_some_iff.mp h
        exact further first rfl whole (same ▸ rfl)
      · rename_i lexeme left _ _ first
        obtain ⟨_, _, same⟩ := Option.map_eq_some_iff.mp h
        rcases form_of_readOpening first with ⟨k, rfl⟩ | ⟨changes, rfl⟩
        · exact further first rfl whole (same ▸ rfl)
        · exact further first rfl whole (same ▸ rfl)
    · cases d with
      | zero => cases h
      | succ d =>
        obtain ⟨_, _, same⟩ := Option.map_eq_some_iff.mp h
        exact further rfl rfl whole (same ▸ rfl)
    · rename_i c rest notOpening notClosing
      split at h
      · cases h
      · rename_i first
        obtain ⟨_, _, same⟩ := Option.map_eq_some_iff.mp h
        have out : c ≠ '(' ∧ c ≠ ')' := ⟨notOpening, notClosing⟩
        exact further ((readLexeme_eq_readPlain out).trans first)
          (PlainForm.of_readPlain out first).depth? whole (same ▸ rfl)

/-! ## Patterns with their digits written out -/

/-- What may follow a pattern without being part of it. -/
def Outside (rest : List Char) : Prop :=
  rest.head? ≠ some '?' ∧ rest.head? ≠ some '\x7b'

theorem endsBoundary_of_head (h : cs.head? ≠ some '\x7b') : EndsBoundary cs := by
  cases cs with
  | nil => rfl
  | cons c cs =>
    have notBrace : c ≠ '\x7b' := by simpa using h
    simp [EndsBoundary, readBoundary, notBrace]

theorem head?_narrows {M : List Char} {c : Char} (n : Narrows false cs M false) (kept : IsKept c)
    (h : cs.head? ≠ some c) (behind : rest.head? ≠ some c) : (M ++ rest).head? ≠ some c := by
  cases M with
  | nil => exact behind
  | cons m M =>
    intro same
    have first : (narrowDigitsFrom false cs).head? = some c := by
      rw [n.eq]
      exact same
    exact h ((head?_narrow kept).mp first)

/-- A brace after a boundary names nothing if a character follows that is not one of a name. -/
theorem endsBoundary_brace {c : Char} :
    EndsBoundary ('\x7b' :: c :: cs) ↔ ¬ (c.isAlpha ∨ c = '-') := by
  simp only [EndsBoundary, readBoundary, skip, Bool.false_eq_true, if_false, Bool.or_eq_true,
    decide_eq_true_eq]
  constructor
  · intro h named
    rw [if_pos named] at h
    split at h
    · obtain ⟨anchor, found, same⟩ := Option.map_eq_some_iff.mp h
      have bare : anchor = .boundary := by simpa using (Prod.mk.inj same).1
      exact boundaryNamed?_ne found bare
    · cases h
  · intro unnamed
    rw [if_neg unnamed]

theorem EndsBoundary.narrow {M : List Char} (h : EndsBoundary left)
    (n : Narrows false left M false) (out : rest.head? ≠ some '\x7b') :
    EndsBoundary (M ++ rest) := by
  by_cases brace : left.head? = some '\x7b'
  · obtain ⟨left, rfl⟩ := List.head?_eq_some_iff.mp brace
    cases left with
    | nil => cases h
    | cons c left =>
      rw [endsBoundary_brace] at h
      have written : M = '\x7b' :: narrowDigitsFrom false (c :: left) := by
        rw [← n.eq, narrow_plain isInner_brace.1.plain]
      obtain ⟨d, out, starts, same⟩ := narrow_cons c left
      rw [written, starts]
      refine endsBoundary_brace.mpr ?_
      rcases same with rfl | rfl
      · exact h
      · decide
  · exact endsBoundary_of_head (head?_narrows n (by simp [IsKept]) brace out)

theorem Lexeme.Ends.narrow {M : List Char} (h : l.Ends left) (n : Narrows false left M false)
    (out : Outside rest) : l.Ends (M ++ rest) := by
  unfold Lexeme.Ends at h ⊢
  split at h
  · exact h.narrow n out.2
  · exact head?_narrows n (by simp [IsKept]) h out.1
  · exact head?_narrows n (by simp [IsKept]) h out.1
  · trivial

theorem Cuts.narrow {ls : List Lexeme} (h : Cuts d cs ls e []) (named : ∀ l ∈ ls, l.NamesNoBracket)
    (legible : ∀ l ∈ ls, l.Legible) : Narrows false cs (narrowDigits cs) false ∧
      ∃ ls', List.Forall₂ Lexeme.Alike ls ls' ∧ ls'.length ≤ (narrowDigits cs).length ∧
        ∀ rest, Outside rest → Cuts d (narrowDigits cs ++ rest) ls' e rest := by
  generalize none : [] = left at h
  induction h with
  | nil d cs =>
    subst none
    exact ⟨.nil, [], .nil, Nat.zero_le _, fun rest _ => .nil d rest⟩
  | @cons d e f cs mid left l ls first quiet depth _ ih =>
    obtain ⟨namedFirst, named⟩ := List.forall_mem_cons.mp named
    obtain ⟨legibleFirst, legible⟩ := List.forall_mem_cons.mp legible
    obtain ⟨narrows, ls', alike, short, cuts⟩ := ih named legible none
    obtain ⟨chunk, chunk', l', rfl, filled, written, alikeFirst, ends, reads⟩ :=
      readLexeme_moves namedFirst legibleFirst first
    have whole : Narrows false (chunk ++ mid) (chunk' ++ narrowDigits mid) false :=
      written.append narrows
    have same : narrowDigits (chunk ++ mid) = chunk' ++ narrowDigits mid := whole.eq
    rw [same]
    refine ⟨whole, l' :: ls', .cons alikeFirst alike, ?_, fun rest out => ?_⟩
    · have long : 0 < chunk'.length := List.length_pos_iff.mpr filled
      rw [List.length_append, List.length_cons]
      omega
    · have further := reads (narrowDigits mid ++ rest) (ends.narrow narrows out)
      rw [List.append_assoc]
      exact .cons further (alikeFirst.quiet quiet) (alikeFirst.depth? ▸ depth) (cuts rest out)

end Pattern

end StepExpr
