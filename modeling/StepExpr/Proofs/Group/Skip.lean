import StepExpr.Group.Tree
import StepExpr.Proofs.Regex.Lexeme

/-!
# Scanning lexemes

The scan for groups takes the lexemes of a pattern one by one, although it knows little of them. It
has to be right about where classes end: a class that begins with a closing bracket, or has another
class inside, is longer than the scan takes it to be.

* `GroupTree.Skips`: the scan passes a text without opening or closing a group;
* `readClass_skips`: a flat class is one that is skipped;
* `readLexeme_scans`: what a lexeme does to the groups that are open.
-/

namespace StepExpr

open Pattern

namespace GroupTree

variable {b mid after : Bool} {s t rest : List Char} {c : Char}

/-- The scan passes `s` and opens and closes no group, where `b` and `after` say whether it is in a
class before and after. -/
def Skips (b : Bool) (s : List Char) (after : Bool) : Prop :=
  ∀ pattern pos opened rest, scanFrom pattern pos ⟨false, b, opened⟩ (s ++ rest) =
    scanFrom pattern (pos + s.length) ⟨false, after, opened⟩ rest

namespace Skips

theorem nil : Skips b [] b := fun _ _ _ _ => rfl

theorem append (h : Skips b s mid) (g : Skips mid t after) : Skips b (s ++ t) after := by
  intro pattern pos opened rest
  rw [List.append_assoc, h, g, List.length_append, Nat.add_assoc]

theorem opener : Skips b ['['] true := fun _ _ _ _ => by
  simp [scanFrom, Scan.step]

theorem closer : Skips b [']'] false := fun _ _ _ _ => by
  simp [scanFrom, Scan.step]

theorem escape (c : Char) : Skips b ['\\', c] b := fun _ _ _ _ => by
  simp [scanFrom, Scan.step]

theorem single (h : IsInner c) : Skips b [c] b := by
  obtain ⟨⟨h₁, h₂, h₃⟩, h₄, h₅⟩ := h
  intro pattern pos opened rest
  simp [scanFrom, Scan.step, h₁, h₂, h₃, h₄, h₅]

theorem inner (h : ∀ c ∈ s, IsInner c) : Skips b s b := by
  induction s with
  | nil => exact nil
  | cons c s ih =>
    obtain ⟨first, others⟩ := List.forall_mem_cons.mp h
    exact (single first).append (ih others)

/-- In a class all characters are skipped but the one that closes it. -/
theorem member (h₁ : c ≠ '\\') (h₂ : c ≠ ']') : Skips true [c] true := by
  intro pattern pos opened rest
  by_cases h₃ : c = '['
  · subst h₃
    exact opener pattern pos opened rest
  · simp [scanFrom, Scan.step, h₁, h₂, h₃]

/-- Outside classes a closing bracket is skipped as well. -/
theorem outside (h : ∀ c ∈ s, c ≠ '\\' ∧ c ≠ '[' ∧ c ≠ '(' ∧ c ≠ ')') : Skips false s false := by
  induction s with
  | nil => exact nil
  | cons c s ih =>
    obtain ⟨⟨h₁, h₂, h₃, h₄⟩, others⟩ := List.forall_mem_cons.mp h
    by_cases h₅ : c = ']'
    · subst h₅
      exact closer.append (ih others)
    · exact (single ⟨⟨h₁, h₂, h₅⟩, h₃, h₄⟩).append (ih others)

end Skips

end GroupTree

namespace Pattern

open GroupTree

variable {cs left chunk : List Char} {a : Atom} {l : Lexeme}

/-! ## Classes -/

/-- No class inside, neither in brackets nor by name. -/
def ClassExpr.Flat : ClassExpr → Prop
  | ascii _ _ | bracket _ _ => False
  | union a b | operation _ a b => a.Flat ∧ b.Flat
  | _ => True

instance ClassExpr.decidableFlat : DecidablePred ClassExpr.Flat
  | ascii _ _ | bracket _ _ => .isFalse id
  | union a b | operation _ a b =>
    have := decidableFlat a
    have := decidableFlat b
    inferInstanceAs (Decidable (a.Flat ∧ b.Flat))
  | empty | literal _ | range _ _ | shorthand _ _ | property _ _ => .isTrue trivial

/-- No class has a class inside. -/
def Lexeme.Flat : Lexeme → Prop
  | atom (.bracketed _ content) => content.Flat
  | _ => True

instance Lexeme.decidableFlat : DecidablePred Lexeme.Flat
  | atom (.bracketed _ content) => inferInstanceAs (Decidable content.Flat)
  | atom (.literal _ _) | atom .dot | atom (.anchor _) | atom (.shorthand _ _)
  | atom (.property _ _) | flags _ | bar | rounds _ _ | opening _ | closing => .isTrue trivial

/-- What follows an opening bracket does not begin with a closing one, nor does what follows a
caret. -/
def ClosesLater (cs : List Char) : Prop :=
  cs.head? ≠ some ']' ∧ ¬ ['^', ']'] <+: cs

instance : DecidablePred ClosesLater := fun _ => inferInstanceAs (Decidable (_ ∧ _))

theorem ClassExpr.Partwise.flat : Partwise Flat :=
  ⟨trivial, fun _ _ => .rfl, fun _ _ _ => .rfl⟩

/-- A flat class has no class open inside of it. -/
theorem ReadsClass.flat {outer : List OpenClass} {inner : OpenClass} {negated : Bool}
    {content : ClassExpr} (flat : content.Flat)
    (h : ReadsClass (.bracketed negated content) left outer inner cs) :
    outer = [] ∧ inner.content.Flat := by
  have parts := ClassExpr.Partwise.flat
  induction h with
  | ascii _ _ ih | item _ _ _ _ _ ih => exact ⟨ih.1, (parts.push.mp ih.2).1⟩
  | opens _ _ _ ih => exact absurd ih.1 (List.cons_ne_nil _ _)
  | last whole =>
    obtain ⟨-, rfl⟩ := Atom.bracketed.inj whole
    exact ⟨rfl, flat⟩
  | closes _ ih => exact absurd (parts.push.mp ih.2).2 id
  | operator _ _ ih => exact ⟨ih.1, parts.operate.mp ih.2⟩

/-- What is pushed on a flat class is flat. -/
theorem ReadsClass.flat_item {outer : List OpenClass} {inner : OpenClass} {item : ClassExpr}
    {negated : Bool} {content : ClassExpr} (flat : content.Flat)
    (h : ReadsClass (.bracketed negated content) left outer (inner.push item) cs) : item.Flat :=
  (ClassExpr.Partwise.flat.push.mp (h.flat flat).2).2

theorem Member.skips (h : Member chunk a) (notLast : chunk.head? ≠ some ']') :
    Skips true chunk true := by
  cases h with
  | literal plain => exact .member plain (by simpa using notLast)
  | @escape c more a plain _ _ =>
    have tail : ∀ s : List Char, (∀ d ∈ s, IsPlain d) → Skips true s true := by
      intro s plain
      induction s with
      | nil => exact .nil
      | cons d s ih =>
        obtain ⟨first, others⟩ := List.forall_mem_cons.mp plain
        exact (Skips.member first.1 first.2.2).append (ih others)
    exact (Skips.escape c).append (tail more plain)

theorem readClassItem_skips {item : ClassExpr} {c : Char} (ok : item.Legible) (notLast : c ≠ ']')
    (h : readClassItem false (c :: cs) = some (item, left)) :
    ∃ chunk, c :: cs = chunk ++ left ∧ Skips true chunk true := by
  have front {chunk rest : List Char} {a : Atom} (text : Member chunk a)
      (source : c :: cs = chunk ++ rest) : chunk.head? ≠ some ']' := by
    obtain ⟨tail, rfl, -⟩ := text.front source
    simpa using notLast
  rcases readClassItem_sound ok h with ⟨chunk, a, source, text, -⟩ |
    ⟨chunk, last, _, _, _, _, source, text, text', -, notBracket, -⟩
  · exact ⟨chunk, source, text.skips (front text source)⟩
  · refine ⟨chunk ++ '-' :: last, by rw [source]; simp, ?_⟩
    have hyphen : Skips true ['-'] true := .member (by decide) (by decide)
    exact (text.skips (front text source)).append (hyphen.append (text'.skips notBracket))

theorem ascii_of_readAsciiClass {item : ClassExpr} (h : readAsciiClass cs = some (item, left)) :
    ∃ k negated, item = .ascii k negated := by
  unfold readAsciiClass at h
  split at h
  · split at h
    split at h
    · obtain ⟨k, -, same⟩ := Option.map_eq_some_iff.mp h
      exact ⟨k, _, (Prod.mk.inj same).1.symm⟩
    · cases h
  · cases h

theorem ReadsClass.skips {outer : List OpenClass} {inner : OpenClass} {negated : Bool}
    {content : ClassExpr} (ok : content.Legible) (flat : content.Flat)
    (h : ReadsClass (.bracketed negated content) left outer inner cs) :
    ∃ chunk, cs = chunk ++ ']' :: left ∧ Skips true chunk true := by
  induction h with
  | ascii named others _ =>
    obtain ⟨k, negated, rfl⟩ := ascii_of_readAsciiClass named
    exact absurd (others.flat_item flat) id
  | opens _ _ others _ => exact absurd (others.flat flat).1 (List.cons_ne_nil _ _)
  | last => exact ⟨[], rfl, .nil⟩
  | closes others _ => exact absurd (others.flat_item flat) id
  | operator op _ ih =>
    obtain ⟨chunk, rfl, skips⟩ := ih
    have one : Skips true [op.sign] true := .member op.plain.1 op.plain.2.2
    exact ⟨op.sign :: op.sign :: chunk, rfl, one.append (one.append skips)⟩
  | item opens notLast _ found others ih =>
    obtain ⟨chunk, source, skips⟩ := readClassItem_skips (others.legible_item ok) notLast found
    obtain ⟨chunk', rfl, skips'⟩ := ih
    exact ⟨chunk ++ chunk', by rw [source]; simp, skips.append skips'⟩

theorem startFrom_skips {negated : Bool} {start : OpenClass} (later : cs.head? ≠ some ']')
    (h : startFrom negated cs = (start, left)) : ∃ pre, cs = pre ++ left ∧ Skips true pre true := by
  unfold startFrom at h
  cases hc : collect false (fun c => decide (c = '-')) false cs with
  | mk hyphens behind =>
    obtain ⟨rfl, all, -⟩ := collect_sound hc
    simp only [hc] at h
    split at h
    · exact absurd rfl later
    · obtain ⟨-, rfl⟩ := Prod.mk.inj h
      refine ⟨hyphens, rfl, .inner fun c hc => ?_⟩
      have isHyphen : c = '-' := by simpa using all c hc
      exact isHyphen ▸ by decide

theorem readClass_skips {negated : Bool} {content : ClassExpr} (ok : content.Legible)
    (flat : content.Flat) (later : ClosesLater cs)
    (h : readClass false cs = some (.bracketed negated content, left)) :
    ∃ chunk, cs = chunk ++ ']' :: left ∧ Skips true chunk true := by
  have start {start : OpenClass} {behind : List Char}
      (h : readClassStart false cs = (start, behind)) :
      ∃ pre, cs = pre ++ behind ∧ Skips true pre true := by
    by_cases caret : cs.head? = some '^'
    · obtain ⟨cs, rfl⟩ := List.head?_eq_some_iff.mp caret
      rw [readClassStart_caret] at h
      have notFirst : cs.head? ≠ some ']' := by
        intro same
        obtain ⟨cs, rfl⟩ := List.head?_eq_some_iff.mp same
        exact later.2 ⟨cs, rfl⟩
      obtain ⟨pre, rfl, skips⟩ := startFrom_skips notFirst h
      exact ⟨'^' :: pre, rfl, (Skips.member (by decide) (by decide)).append skips⟩
    · rw [readClassStart_eq caret] at h
      exact startFrom_skips later.1 h
  obtain ⟨o, behind, hs, whole⟩ := readsClass_of_readClass h
  obtain ⟨pre, rfl, skips⟩ := start hs
  obtain ⟨chunk, rfl, skips'⟩ := whole.skips ok flat
  exact ⟨pre ++ chunk, by simp, skips.append skips'⟩

/-! ## Groups -/

def GroupKind.captures : GroupKind → Bool
  | .capturing _ => true
  | .plain _ => false

/-- What a lexeme at `pos` does to the groups that are open. -/
def Lexeme.effect (pattern : List Char) (pos : Nat) (opened : List Open) : Lexeme → List Open
  | .opening k => ⟨some (pos + 1), k.captures, []⟩ :: opened
  | .closing => close pattern pos opened
  | _ => opened

/-- The scan passes `chunk` with the effect of `l`. -/
def Scanned (l : Lexeme) (chunk : List Char) : Prop :=
  ∀ pattern pos group outer rest, (l = .opening (.capturing none) → rest.head? ≠ some '?') →
    GroupTree.scanFrom pattern pos ⟨false, false, group :: outer⟩ (chunk ++ rest) =
      GroupTree.scanFrom pattern (pos + chunk.length)
        ⟨false, false, l.effect pattern pos (group :: outer)⟩ rest

theorem Scanned.of_skips (skips : Skips false chunk false)
    (same : ∀ pattern pos opened, l.effect pattern pos opened = opened) : Scanned l chunk := by
  intro pattern pos group outer rest _
  rw [same]
  exact skips pattern pos _ rest

theorem scan_opening (pattern : List Char) (pos : Nat) (opened : List Open) (rest : List Char) :
    GroupTree.scanFrom pattern pos ⟨false, false, opened⟩ ('(' :: rest) =
      GroupTree.scanFrom pattern (pos + 1)
        ⟨false, false, ⟨some (pos + 1), !isPlain rest, []⟩ :: opened⟩ rest := rfl

theorem Scanned.opening {k : GroupKind} {chunk : List Char} (skips : Skips false chunk false)
    (plain : ∀ rest, (k = .capturing none → rest.head? ≠ some '?') →
      isPlain (chunk ++ rest) = !k.captures) :
    Scanned (.opening k) ('(' :: chunk) := by
  intro pattern pos group outer rest bare
  rw [List.cons_append, scan_opening, skips, plain rest fun same => bare (same ▸ rfl), Bool.not_not]
  rw [List.length_cons, Nat.add_right_comm, Nat.add_assoc]
  rfl

theorem isPlain_bare (h : cs.head? ≠ some '?') : isPlain cs = false := by
  unfold isPlain
  split <;> simp_all

/-- A group that only changes flags is opened and closed again. -/
theorem Scanned.flags {changes : FlagChanges} {marks : List Char} (inner : ∀ c ∈ marks, IsInner c)
    (plain : ∀ rest, isPlain (marks ++ ')' :: rest) = true) :
    Scanned (.flags changes) ('(' :: (marks ++ [')'])) := by
  intro pattern pos group outer rest _
  have whole : '(' :: (marks ++ [')']) ++ rest = '(' :: (marks ++ ')' :: rest) := by simp
  have closed : close pattern (pos + 1 + marks.length)
      (⟨some (pos + 1), false, []⟩ :: group :: outer) = group :: outer := by
    simp [close]
  rw [whole, scan_opening, plain rest, Skips.inner inner]
  simp only [GroupTree.scanFrom, Scan.step, Bool.not_true, closed]
  congr 1
  simp only [List.length_cons, List.length_append, List.length_nil]
  omega

/-- What starts with flags is no group that captures. -/
theorem isPlain_flags {seen changes : FlagChanges} {negated dangling : Bool} {c : Char}
    (h : readFlags seen negated dangling cs = some (changes, c, left)) :
    isPlain ('?' :: cs) = true := by
  obtain ⟨first, more, rfl, -, -, notAngle, notLetter⟩ := front_of_readFlags h
  unfold isPlain
  split <;> simp_all

theorem isPlain_named {mark name : List Char} (marks : mark = ['?', 'P', '<'] ∨ mark = ['?', '<'])
    (h : readName cs = some (name, left)) : isPlain (mark ++ cs) = false := by
  obtain ⟨first, more, rfl, notEqual, notBang⟩ := front_of_readName h
  rcases marks with rfl | rfl
  · rfl
  · simp [isPlain, notEqual, notBang]

theorem OpeningText.scanned (h : OpeningText l chunk) (ok : l.NamesNoBracket) :
    Scanned l ('(' :: chunk) := by
  cases h with
  | bare => exact .opening .nil fun rest bare => isPlain_bare (bare rfl)
  | @named mark name marks chars reads =>
    have before : ∀ c ∈ mark, c ≠ '\\' ∧ c ≠ '[' ∧ c ≠ '(' ∧ c ≠ ')' := by
      rcases marks with rfl | rfl <;> simp
    refine .opening (.outside fun c hc => ?_) fun rest _ => ?_
    · rcases List.mem_append.mp hc with hc | hc
      · exact before c hc
      rcases List.mem_append.mp hc with hc | hc
      · obtain ⟨h₁, h₂, h₃⟩ := chars c hc
        exact ⟨h₁, fun same => ok (same ▸ hc), h₂, h₃⟩
      · exact List.mem_singleton.mp hc ▸ by decide
    · rw [List.append_assoc, List.append_assoc]
      exact isPlain_named marks (reads rest)
  | plain inner reads =>
    refine .opening (.inner ?_) fun rest _ => ?_
    · simpa using ⟨by decide, fun c hc => hc.elim (inner c) fun same => same ▸ by decide⟩
    · simpa [GroupKind.captures] using isPlain_flags (reads rest)
  | @flags changes marks _ inner reads =>
    have whole : ∀ c ∈ '?' :: marks, IsInner c := List.forall_mem_cons.mpr ⟨by decide, inner⟩
    exact Scanned.flags whole fun rest => isPlain_flags (reads rest)

theorem Scanned.rounds {r : Rounds} {greedy : Bool} (text : ∀ c ∈ chunk, IsInner c)
    (greed : readGreed cs = (greedy, left)) :
    ∃ chunk', chunk ++ cs = chunk' ++ left ∧ Scanned (.rounds r greedy) chunk' := by
  obtain ⟨mark, rfl, inner, -⟩ := readGreed_sound greed
  refine ⟨chunk ++ mark, (List.append_assoc _ _ _).symm, .of_skips (.inner ?_) fun _ _ _ => rfl⟩
  exact List.forall_mem_append.mpr ⟨text, inner⟩

theorem PlainForm.scanned {c : Char} (h : PlainForm left l c cs) (legible : l.Legible) (flat : l.Flat)
    (later : c = '[' → ClosesLater cs) : ∃ chunk, c :: cs = chunk ++ left ∧ Scanned l chunk := by
  cases h with
  | sign named =>
    obtain ⟨inner, same⟩ : IsInner c ∧ ∀ pattern pos opened, l.effect pattern pos opened = opened := by
      simp only [Lexeme.marks, List.mem_cons, Prod.mk.injEq, List.not_mem_nil, or_false] at named
      rcases named with ⟨rfl, rfl⟩ | ⟨rfl, rfl⟩ | ⟨rfl, rfl⟩ | ⟨rfl, rfl⟩ <;>
        exact ⟨by decide, fun _ _ _ => rfl⟩
    exact ⟨[c], rfl, .of_skips (.single inner) same⟩
  | loop named greed =>
    exact Scanned.rounds (List.forall_mem_singleton.mpr (isInner_loop named)) greed
  | counted counts _ greed =>
    obtain ⟨chunk, rfl, text, -⟩ := readRounds_local counts
    exact Scanned.rounds (List.forall_mem_cons.mpr ⟨isInner_brace.1, text⟩) greed
  | bracketed reads =>
    obtain ⟨chunk, rfl, skips⟩ := readClass_skips legible flat (later rfl) reads
    refine ⟨['['] ++ (chunk ++ [']']), by simp, .of_skips ?_ fun _ _ _ => rfl⟩
    exact Skips.opener.append (skips.append .closer)
  | escape reads =>
    obtain ⟨c, more, rfl, text, -⟩ := readEscape_sound legible reads
    refine ⟨['\\', c] ++ more, rfl, .of_skips ?_ fun _ _ _ => rfl⟩
    exact (Skips.escape c).append (.inner text)
  | literal unmarked =>
    refine ⟨[c], rfl, .of_skips (.outside (List.forall_mem_singleton.mpr ?_)) fun _ _ _ => rfl⟩
    refine ⟨?_, ?_, ?_, ?_⟩ <;> rintro rfl <;> simp [IsMark] at unmarked

/-- The scan takes lexeme after lexeme. -/
theorem readLexeme_scans (named : l.NamesNoBracket) (legible : l.Legible) (flat : l.Flat)
    (later : ∀ rest, cs = '[' :: rest → ClosesLater rest) (h : readLexeme cs = some (l, left)) :
    ∃ chunk, cs = chunk ++ left ∧ Scanned l chunk := by
  unfold readLexeme at h
  split at h
  · cases h
  · obtain ⟨chunk, rfl, text, -⟩ := readOpening_sound h
    exact ⟨'(' :: chunk, rfl, text.scanned named⟩
  · obtain ⟨rfl, rfl⟩ := Prod.mk.inj (Option.some.inj h)
    exact ⟨[')'], rfl, fun _ _ _ _ _ _ => rfl⟩
  · rename_i notOpening notClosing
    exact (PlainForm.of_readPlain ⟨notOpening, notClosing⟩ h).scanned legible flat
      fun opens => later _ (opens ▸ rfl)

end Pattern

end StepExpr
