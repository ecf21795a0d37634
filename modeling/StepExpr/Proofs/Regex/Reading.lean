import Mathlib.Data.List.TakeWhile
import Mathlib.Data.List.TakeDrop
import StepExpr.Proofs.Group.Digits
import StepExpr.Regex.Lexeme

/-!
# Reading parts of patterns

A reader of some part of a pattern takes some characters off the front, and what comes after them
has no say in it. Where these characters are neither backslashes nor brackets, they are also left as
they are when the digit classes of the pattern are written out.

* `Local` says that a reader depends on nothing behind what it takes;
* `readRounds_local`: what follows an opening brace;
* `OpeningText` and `readOpening_sound`: what follows an opening parenthesis.
-/

namespace StepExpr

namespace Pattern

open Unicode (isBlank)

/-! ## Readers -/

/-- Neither a backslash nor a bracket nor a parenthesis. -/
def IsInner (c : Char) : Prop := IsPlain c ∧ c ≠ '(' ∧ c ≠ ')'

instance (c : Char) : Decidable (IsInner c) :=
  inferInstanceAs (Decidable ((c ≠ '\\' ∧ c ≠ '[' ∧ c ≠ ']') ∧ c ≠ '(' ∧ c ≠ ')'))

theorem IsInner.plain {c : Char} (h : IsInner c) : IsPlain c := h.1

theorem isInner_of_all {cs : List Char} (h : cs.all (IsInner ·) = true) : ∀ c ∈ cs, IsInner c :=
  fun c hc => of_decide_eq_true (List.all_eq_true.mp h c hc)

/-- A reader takes inner characters off `cs`, and nothing after them matters. -/
def Local {α : Type} (read : List Char → Option (α × List Char)) (cs : List Char) (x : α)
    (left : List Char) : Prop :=
  ∃ chunk, cs = chunk ++ left ∧ (∀ c ∈ chunk, IsInner c) ∧
    ∀ rest, read (chunk ++ rest) = some (x, rest)

variable {p : Char → Bool} {cs run left : List Char}

theorem collect_sound (h : collect false p false cs = (run, left)) :
    cs = run ++ left ∧ (∀ c ∈ run, p c = true) ∧ ∀ d rest, left = d :: rest → p d = false := by
  induction cs generalizing run with
  | nil =>
    simp only [collect, Prod.mk.injEq] at h
    obtain ⟨rfl, rfl⟩ := h
    simp
  | cons c cs ih =>
    simp only [collect, Bool.false_eq_true, Bool.false_and, if_false] at h
    split at h
    · rename_i hc
      cases hr : collect false p false cs with
      | mk more rest =>
        simp only [hr, Prod.mk.injEq] at h
        obtain ⟨rfl, rfl⟩ := h
        obtain ⟨rfl, all, stop⟩ := ih hr
        exact ⟨rfl, List.forall_mem_cons.mpr ⟨hc, all⟩, stop⟩
    · rename_i hc
      simp only [Prod.mk.injEq] at h
      obtain ⟨rfl, rfl⟩ := h
      refine ⟨rfl, by simp, ?_⟩
      rintro d rest same
      obtain ⟨rfl, rfl⟩ := List.cons.inj same
      simpa using hc

theorem collect_stop {d : Char} (all : ∀ c ∈ run, p c = true) (stop : p d = false)
    (rest : List Char) : collect false p false (run ++ d :: rest) = (run, d :: rest) := by
  induction run with
  | nil => simp [collect, stop]
  | cons c run ih =>
    obtain ⟨head, tail⟩ := List.forall_mem_cons.mp all
    simp [collect, head, ih tail]

/-- What stands before a closing brace. -/
theorem collect_brace (h : collect false (· != '\x7d') false cs = (run, '\x7d' :: left)) :
    cs = run ++ '\x7d' :: left ∧
      ∀ rest, collect false (· != '\x7d') false (run ++ '\x7d' :: rest) = (run, '\x7d' :: rest) := by
  obtain ⟨same, all, -⟩ := collect_sound h
  exact ⟨same, fun rest => collect_stop all (by simp) rest⟩

/-! ## Numbers -/

theorem isInner_of_isHexDigit {c : Char} (h : isHexDigit c = true) : IsInner c := by
  refine ⟨⟨?_, ?_, ?_⟩, ?_, ?_⟩ <;> rintro rfl <;> revert h <;> decide

theorem isInner_of_isDigit {c : Char} (h : c.isDigit = true) : IsInner c := by
  refine ⟨⟨?_, ?_, ?_⟩, ?_, ?_⟩ <;> rintro rfl <;> revert h <;> decide

theorem isInner_of_isBlank {c : Char} (h : isBlank c = true) : IsInner c := by
  refine ⟨⟨?_, ?_, ?_⟩, ?_, ?_⟩ <;> rintro rfl <;> revert h <;> decide

theorem isInner_brace : IsInner '\x7b' ∧ IsInner '\x7d' := by
  decide

theorem readHexDigits_sound {n : Nat} {digits : List Char}
    (h : readHexDigits false n cs = some (digits, left)) :
    cs = digits ++ left ∧ digits.length = n ∧ (∀ c ∈ digits, isHexDigit c = true) ∧
      ∀ rest, readHexDigits false n (digits ++ rest) = some (digits, rest) := by
  induction n generalizing cs digits with
  | zero =>
    simp only [readHexDigits, Option.some.injEq, Prod.mk.injEq] at h
    obtain ⟨rfl, rfl⟩ := h
    exact ⟨rfl, rfl, by simp, fun rest => rfl⟩
  | succ n ih =>
    cases cs with
    | nil => simp [readHexDigits] at h
    | cons c cs =>
      simp only [readHexDigits, skip, Bool.false_eq_true, if_false] at h
      split at h
      · rename_i hc
        obtain ⟨⟨more, rest⟩, hm, same⟩ := Option.map_eq_some_iff.mp h
        simp only [Prod.mk.injEq] at same
        obtain ⟨rfl, rfl⟩ := same
        obtain ⟨rfl, rfl, hex, reads⟩ := ih hm
        refine ⟨rfl, rfl, List.forall_mem_cons.mpr ⟨hc, hex⟩, fun rest => ?_⟩
        simp [readHexDigits, skip, hc, reads]
      · cases h

theorem readHex_local {n : Nat} {d : Char} (h : readHex false (n + 1) cs = some (d, left)) :
    Local (readHex false (n + 1)) cs d left := by
  unfold readHex at h
  simp only [skip, Bool.false_eq_true, if_false] at h
  split at h
  · rename_i rest
    split at h
    · rename_i digits after hc
      split at h
      · cases h
      · rename_i ok
        obtain ⟨e, he, same⟩ := Option.map_eq_some_iff.mp h
        simp only [Prod.mk.injEq] at same
        obtain ⟨rfl, rfl⟩ := same
        obtain ⟨rfl, reads⟩ := collect_brace hc
        have hex : ∀ c ∈ digits, isHexDigit c = true := by
          simp only [Bool.or_eq_true, not_or, Bool.not_eq_true, Bool.not_eq_false',
            List.all_eq_true] at ok
          exact ok.2
        refine ⟨'\x7b' :: (digits ++ ['\x7d']), by simp, ?_, ?_⟩
        · intro c hc
          simp only [List.mem_cons, List.mem_append, List.not_mem_nil, or_false] at hc
          rcases hc with rfl | hc | rfl
          · exact isInner_brace.1
          · exact isInner_of_isHexDigit (hex c hc)
          · exact isInner_brace.2
        · intro rest
          simp only [readHex, skip, Bool.false_eq_true, if_false, List.cons_append,
            List.append_assoc, List.nil_append, reads]
          rw [if_neg ok, he]
          rfl
    · cases h
  · split at h
    · rename_i other digits after hd
      obtain ⟨e, he, same⟩ := Option.map_eq_some_iff.mp h
      simp only [Prod.mk.injEq] at same
      obtain ⟨rfl, rfl⟩ := same
      obtain ⟨rfl, long, hex, reads⟩ := readHexDigits_sound hd
      refine ⟨digits, rfl, fun c hc => isInner_of_isHexDigit (hex c hc), fun rest => ?_⟩
      cases digits with
      | nil => cases long
      | cons c digits =>
        have notBrace : c ≠ '\x7b' := by
          rintro rfl
          exact absurd (hex _ List.mem_cons_self) (by decide)
        have reads := reads rest
        simp only [List.cons_append] at reads
        simp only [readHex, skip, Bool.false_eq_true, if_false, List.cons_append]
        split
        · rename_i same
          exact absurd (List.cons.inj same).1 notBrace
        · rw [reads]
          simp only [he, Option.map_some]
    · cases h

theorem not_isBlank_of_isDigit {c : Char} (h : c.isDigit = true) : isBlank c = false := by
  simp only [Char.isDigit, Bool.and_eq_true, decide_eq_true_eq, ge_iff_le, UInt32.le_iff_toNat_le]
    at h
  have low : 48 ≤ c.toNat := h.1
  have high : c.toNat ≤ 57 := h.2
  simp only [isBlank, Bool.or_eq_false_iff, Bool.and_eq_false_iff, decide_eq_false_iff_not]
  omega

theorem dropWhile_stop {d : Char} (all : ∀ c ∈ run, p c = true) (stop : p d = false)
    (rest : List Char) : (run ++ d :: rest).dropWhile p = d :: rest := by
  rw [List.dropWhile_append_of_pos all, List.dropWhile_cons_of_neg (by simp [stop])]

/-- A bound that a comma or a closing brace follows. -/
theorem readBound_sound {n : Nat} {d : Char} (hd : isBlank d = false ∧ d.isDigit = false)
    (h : readBound false cs = some (n, d :: left)) :
    ∃ chunk, cs = chunk ++ d :: left ∧ (∀ c ∈ chunk, IsInner c) ∧
      ∀ rest, readBound false (chunk ++ d :: rest) = some (n, d :: rest) := by
  unfold readBound at h
  cases hc : collect false Char.isDigit false (cs.dropWhile isBlank) with
  | mk digits after =>
    simp only [hc, skip, Bool.false_eq_true, if_false] at h
    split at h
    · cases h
    · rename_i ok
      simp only [Option.some.injEq, Prod.mk.injEq] at h
      obtain ⟨rfl, behind⟩ := h
      obtain ⟨middle, all, -⟩ := collect_sound hc
      simp only [Bool.or_eq_true, not_or, Bool.not_eq_true] at ok
      obtain ⟨first, digits, rfl⟩ := List.exists_cons_of_ne_nil
        (show digits ≠ [] by rintro rfl; simp at ok)
      have blanks : ∀ {xs : List Char}, ∀ c ∈ xs.takeWhile isBlank, isBlank c = true :=
        fun c hc => List.mem_takeWhile_imp hc
      have before := List.takeWhile_append_dropWhile (p := isBlank) (l := cs)
      have after' := List.takeWhile_append_dropWhile (p := isBlank) (l := after)
      rw [middle] at before
      rw [behind] at after'
      refine ⟨cs.takeWhile isBlank ++ (first :: digits ++ after.takeWhile isBlank), ?_, ?_, ?_⟩
      · calc
          cs = cs.takeWhile isBlank ++ (first :: digits ++ after) := before.symm
          _ = cs.takeWhile isBlank ++ (first :: digits ++ (after.takeWhile isBlank ++ d :: left)) := by
            rw [after']
          _ = _ := by simp
      · intro c hc
        simp only [List.mem_append] at hc
        rcases hc with hc | hc | hc
        · exact isInner_of_isBlank (blanks c hc)
        · exact isInner_of_isDigit (all c hc)
        · exact isInner_of_isBlank (blanks c hc)
      · intro rest
        have firstDigit := all first List.mem_cons_self
        have start : (cs.takeWhile isBlank ++ (first :: digits ++ after.takeWhile isBlank) ++
            d :: rest).dropWhile isBlank =
              first :: digits ++ (after.takeWhile isBlank ++ d :: rest) := by
          simp only [List.append_assoc, List.cons_append]
          exact dropWhile_stop blanks (not_isBlank_of_isDigit firstDigit) _
        have stop : collect false Char.isDigit false
            (first :: digits ++ (after.takeWhile isBlank ++ d :: rest)) =
              (first :: digits, after.takeWhile isBlank ++ d :: rest) := by
          cases hb : after.takeWhile isBlank with
          | nil => exact collect_stop all hd.2 rest
          | cons b more =>
            have blank := blanks b (hb ▸ List.mem_cons_self)
            refine collect_stop all ?_ _
            cases digit : b.isDigit with
            | false => rfl
            | true =>
              rw [not_isBlank_of_isDigit digit] at blank
              cases blank
        simp only [readBound, start, stop, skip, Bool.false_eq_true, if_false, ok.1, ok.2,
          Bool.or_self, dropWhile_stop blanks hd.1]

theorem isInner_comma : IsInner ',' := by
  decide

theorem readRounds_local {r : Rounds} (h : readRounds false cs = some (r, left)) :
    Local (readRounds false) cs r left := by
  have brace : isBlank '\x7d' = false ∧ '\x7d'.isDigit = false := by decide
  have comma : isBlank ',' = false ∧ ','.isDigit = false := by decide
  unfold readRounds at h
  simp only [skip, Bool.false_eq_true, if_false] at h
  split at h
  · rename_i least rest hb
    simp only [Option.some.injEq, Prod.mk.injEq] at h
    obtain ⟨rfl, rfl⟩ := h
    obtain ⟨chunk, rfl, plain, reads⟩ := readBound_sound brace hb
    refine ⟨chunk ++ ['\x7d'], by simp, ?_, fun rest => ?_⟩
    · exact List.forall_mem_append.mpr ⟨plain, by simpa using isInner_brace.2⟩
    · simp [readRounds, skip, reads]
  · rename_i least rest hb
    obtain ⟨chunk, rfl, plain, reads⟩ := readBound_sound comma hb
    split at h
    · rename_i rest
      simp only [Option.some.injEq, Prod.mk.injEq] at h
      obtain ⟨rfl, rfl⟩ := h
      refine ⟨chunk ++ [',', '\x7d'], by simp, ?_, fun rest => ?_⟩
      · exact List.forall_mem_append.mpr
          ⟨plain, by simpa using ⟨isInner_comma, isInner_brace.2⟩⟩
      · simp [readRounds, skip, reads]
    · rename_i rest unclosed
      split at h
      · rename_i most rest hm
        simp only [Option.some.injEq, Prod.mk.injEq] at h
        obtain ⟨rfl, rfl⟩ := h
        obtain ⟨more, rfl, plain', reads'⟩ := readBound_sound brace hm
        obtain ⟨c, more, rfl⟩ := List.exists_cons_of_ne_nil
          (show more ≠ [] by rintro rfl; exact unclosed _ rfl)
        have notBrace : c ≠ '\x7d' := by
          rintro rfl
          exact unclosed _ rfl
        refine ⟨chunk ++ ',' :: (c :: more ++ ['\x7d']), by simp, ?_, fun rest => ?_⟩
        · intro d hd
          simp only [List.mem_append, List.mem_cons, List.not_mem_nil, or_false] at hd
          rcases hd with hd | rfl | hd | rfl
          · exact plain d hd
          · exact isInner_comma
          · exact plain' d (by simpa using hd)
          · exact isInner_brace.2
        · have reads' := reads' rest
          simp only [List.cons_append] at reads'
          simp only [readRounds, skip, Bool.false_eq_true, if_false, List.append_assoc,
            List.cons_append, List.nil_append, reads]
          split
          · rename_i same
            exact absurd (List.cons.inj same).1 notBrace
          · simp only [reads']
      · cases h
  · cases h

/-! ## Groups -/

theorem span_stop {d : Char} (all : ∀ c ∈ run, p c = true) (stop : p d = false)
    (rest : List Char) : (run ++ d :: rest).span p = (run, d :: rest) := by
  rw [List.span_eq_takeWhile_dropWhile, dropWhile_stop all stop,
    List.takeWhile_append_of_pos all, List.takeWhile_cons_of_neg (by simp [stop]), List.append_nil]

/-- The characters before the first one without `p`. -/
theorem span_sound {d : Char} (h : cs.span p = (run, d :: left)) :
    cs = run ++ d :: left ∧ (∀ c ∈ run, p c = true) ∧ p d = false := by
  rw [List.span_eq_takeWhile_dropWhile, Prod.mk.injEq] at h
  obtain ⟨rfl, after⟩ := h
  refine ⟨?_, fun c hc => List.mem_takeWhile_imp hc, ?_⟩
  · rw [← after, List.takeWhile_append_dropWhile]
  · have head := List.head?_dropWhile_not p cs
    rw [after] at head
    simpa using head

theorem readName_sound {name : List Char} (h : readName cs = some (name, left)) :
    ∃ first more, name = first :: more ∧ cs = name ++ '>' :: left ∧ first ≠ '=' ∧ first ≠ '!' ∧
      (∀ c ∈ name, c ≠ '\\' ∧ c ≠ '(' ∧ c ≠ ')') ∧
      ∀ rest, readName (name ++ '>' :: rest) = some (name, rest) := by
  unfold readName at h
  split at h
  · rename_i first more left' spanned
    split at h
    · rename_i ok
      simp only [Option.some.injEq, Prod.mk.injEq] at h
      obtain ⟨rfl, rfl⟩ := h
      obtain ⟨rfl, all, -⟩ := span_sound spanned
      have parts := ok
      simp only [Bool.and_eq_true, List.all_eq_true] at parts
      refine ⟨first, more, rfl, rfl, ?_, ?_, ?_, fun rest => ?_⟩
      · rintro rfl
        exact absurd parts.1 (by decide)
      · rintro rfl
        exact absurd parts.1 (by decide)
      · intro c hc
        rcases List.mem_cons.mp hc with rfl | hc
        · refine ⟨?_, ?_, ?_⟩ <;> rintro rfl <;> exact absurd parts.1 (by decide)
        · refine ⟨?_, ?_, ?_⟩ <;> rintro rfl <;> exact absurd (parts.2 _ hc) (by decide)
      · have reads := span_stop all (show ((· != '>') '>') = false by decide) rest
        simp only [List.cons_append] at reads
        simp only [readName, List.cons_append, reads, ok, if_true]
    · cases h
  · cases h

/-- A name with what writes around it. -/
theorem narrows_name {before name : List Char} (start : ∀ c ∈ before, c ≠ '\\' ∧ c ≠ '[')
    (plain : ∀ c ∈ name, c ≠ '\\') (ok : '[' ∉ name) :
    Narrows false (before ++ (name ++ ['>'])) (before ++ (name ++ ['>'])) false := by
  refine .outside fun c hc => ?_
  rcases List.mem_append.mp hc with hc | hc
  · exact start c hc
  rcases List.mem_append.mp hc with hc | hc
  · exact ⟨plain c hc, fun same => ok (same ▸ hc)⟩
  · exact List.mem_singleton.mp hc ▸ by decide

theorem front_of_readName {name : List Char} (h : readName cs = some (name, left)) :
    ∃ first more, cs = first :: more ∧ first ≠ '=' ∧ first ≠ '!' := by
  obtain ⟨first, more, rfl, rfl, notEqual, notBang, -⟩ := readName_sound h
  exact ⟨first, more ++ '>' :: left, rfl, notEqual, notBang⟩

theorem isInner_flag {c : Char} {flag : Flag} (h : Flag.ofChar? c = some flag) : IsInner c := by
  refine ⟨⟨?_, ?_, ?_⟩, ?_, ?_⟩ <;> rintro rfl <;> cases h

section Flags

variable {seen changes : FlagChanges} {negated dangling : Bool} {c : Char}

/-- Flags end with a colon or a parenthesis, and hold neither before. -/
theorem readFlags_sound (h : readFlags seen negated dangling cs = some (changes, c, left)) :
    ∃ marks, cs = marks ++ c :: left ∧ (∀ d ∈ marks, IsInner d) ∧ (c = ':' ∨ c = ')') ∧
      ∀ rest, readFlags seen negated dangling (marks ++ c :: rest) = some (changes, c, rest) := by
  induction cs generalizing seen negated dangling with
  | nil => cases h
  | cons d cs ih =>
    have further {seen' : FlagChanges} {negated' dangling' : Bool} (inner : IsInner d)
        (step : ∀ cs, readFlags seen negated dangling (d :: cs) =
          readFlags seen' negated' dangling' cs)
        (h : readFlags seen' negated' dangling' cs = some (changes, c, left)) :
        ∃ marks, d :: cs = marks ++ c :: left ∧ (∀ d ∈ marks, IsInner d) ∧ (c = ':' ∨ c = ')') ∧
          ∀ rest, readFlags seen negated dangling (marks ++ c :: rest) =
            some (changes, c, rest) := by
      obtain ⟨marks, rfl, others, ends, reads⟩ := ih h
      refine ⟨d :: marks, rfl, List.forall_mem_cons.mpr ⟨inner, others⟩, ends, fun rest => ?_⟩
      rw [List.cons_append, step, reads]
    rw [readFlags] at h
    split at h
    · rename_i ends
      split at h
      · cases h
      · rename_i complete
        simp only [Option.some.injEq, Prod.mk.injEq] at h
        obtain ⟨rfl, rfl, rfl⟩ := h
        refine ⟨[], rfl, by simp, by simpa using ends, fun rest => ?_⟩
        rw [List.nil_append, readFlags, if_pos ends, if_neg complete]
    · rename_i goes
      split at h
      · rename_i hyphen
        split at h
        · cases h
        · rename_i first
          refine further (hyphen ▸ by decide) (fun cs => ?_) h
          rw [readFlags, if_neg goes, if_pos hyphen, if_neg first]
      · rename_i hyphen
        split at h
        · cases h
        · rename_i flag named
          split at h
          · cases h
          · rename_i new
            refine further (isInner_flag named) (fun cs => ?_) h
            rw [readFlags, if_neg goes, if_neg hyphen]
            simp only [named, if_neg new]

theorem front_of_readFlags (h : readFlags seen negated dangling cs = some (changes, c, left)) :
    ∃ first more, cs = first :: more ∧ first ≠ '=' ∧ first ≠ '!' ∧ first ≠ '<' ∧ first ≠ 'P' := by
  cases cs with
  | nil => cases h
  | cons first more =>
    refine ⟨first, more, rfl, ?_, ?_, ?_, ?_⟩ <;> rintro rfl <;> cases h

theorem readOpening_flags (h : readFlags [] false false cs = some (changes, ')', left))
    (filled : changes ≠ []) : readOpening false ('?' :: cs) = some (.flags changes, left) := by
  obtain ⟨first, more, rfl, h₁, h₂, h₃, h₄⟩ := front_of_readFlags h
  obtain ⟨change, changes, rfl⟩ := List.exists_cons_of_ne_nil filled
  simp [readOpening, skip, h₁, h₂, h₃, h₄, h]

theorem readOpening_plain (h : readFlags [] false false cs = some (changes, ':', left)) :
    readOpening false ('?' :: cs) = some (.opening (.plain changes), left) := by
  obtain ⟨first, more, rfl, h₁, h₂, h₃, h₄⟩ := front_of_readFlags h
  simp [readOpening, skip, h₁, h₂, h₃, h₄, h]

end Flags

theorem readOpening_bare (h : cs.head? ≠ some '?') :
    readOpening false cs = some (.opening (.capturing none), cs) := by
  cases cs with
  | nil => rfl
  | cons c cs =>
    have notMark : c ≠ '?' := by simpa using h
    simp [readOpening, skip, notMark]

/-- The group of an opening parenthesis has no name with an opening bracket. -/
def Lexeme.NamesNoBracket : Lexeme → Prop
  | .opening (.capturing (some name)) => '[' ∉ name
  | _ => True

/-- The text of an opening behind its parenthesis, which nothing behind it changes if it is not
empty. -/
inductive OpeningText : Lexeme → List Char → Prop where
  | bare : OpeningText (.opening (.capturing none)) []
  | named {mark name : List Char} (marks : mark = ['?', 'P', '<'] ∨ mark = ['?', '<'])
      (chars : ∀ c ∈ name, c ≠ '\\' ∧ c ≠ '(' ∧ c ≠ ')')
      (reads : ∀ rest, readName (name ++ '>' :: rest) = some (name, rest)) :
      OpeningText (.opening (.capturing (some name))) (mark ++ (name ++ ['>']))
  | plain {changes : FlagChanges} {marks : List Char} (inner : ∀ c ∈ marks, IsInner c)
      (reads : ∀ rest, readFlags [] false false (marks ++ ':' :: rest) = some (changes, ':', rest)) :
      OpeningText (.opening (.plain changes)) ('?' :: (marks ++ [':']))
  | flags {changes : FlagChanges} {marks : List Char} (filled : changes ≠ [])
      (inner : ∀ c ∈ marks, IsInner c)
      (reads : ∀ rest, readFlags [] false false (marks ++ ')' :: rest) = some (changes, ')', rest)) :
      OpeningText (.flags changes) ('?' :: (marks ++ [')']))

theorem readOpening_sound {l : Lexeme} (h : readOpening false cs = some (l, left)) :
    ∃ chunk, cs = chunk ++ left ∧ OpeningText l chunk ∧
      (l = .opening (.capturing none) → left.head? ≠ some '?') := by
  have named {mark cs : List Char} (marks : mark = ['?', 'P', '<'] ∨ mark = ['?', '<'])
      (h : (readName cs).map (fun found =>
        (Lexeme.opening (.capturing (some found.1)), found.2)) = some (l, left)) :
      ∃ chunk, mark ++ cs = chunk ++ left ∧ OpeningText l chunk ∧
        (l = .opening (.capturing none) → left.head? ≠ some '?') := by
    obtain ⟨⟨name, after⟩, named, same⟩ := Option.map_eq_some_iff.mp h
    obtain ⟨rfl, rfl⟩ := Prod.mk.inj same
    obtain ⟨_, _, -, rfl, -, -, chars, reads⟩ := readName_sound named
    exact ⟨mark ++ (name ++ ['>']), by simp, .named marks chars reads, nofun⟩
  unfold readOpening at h
  simp only [skip, Bool.false_eq_true, if_false] at h
  split at h
  case h_1 | h_2 | h_3 | h_4 => cases h
  case h_5 => exact named (.inl rfl) h
  case h_6 => exact named (.inr rfl) h
  case h_7 =>
    split at h
    · cases h
    · rename_i changes after flagged
      obtain ⟨rfl, rfl⟩ := Prod.mk.inj (Option.some.inj h)
      obtain ⟨marks, rfl, inner, -, reads⟩ := readFlags_sound flagged
      exact ⟨'?' :: (marks ++ [':']), by simp, .plain inner reads, nofun⟩
    · cases h
    · rename_i changes stop after notColon filled flagged
      obtain ⟨rfl, rfl⟩ := Prod.mk.inj (Option.some.inj h)
      obtain ⟨marks, rfl, inner, rfl | rfl, reads⟩ := readFlags_sound flagged
      · exact (notColon rfl).elim
      · exact ⟨'?' :: (marks ++ [')']), by simp, .flags filled inner reads, nofun⟩
  case h_8 notMark =>
    obtain ⟨rfl, rfl⟩ := Prod.mk.inj (Option.some.inj h)
    refine ⟨[], rfl, .bare, fun _ same => ?_⟩
    obtain ⟨rest, rfl⟩ := List.head?_eq_some_iff.mp same
    exact notMark rest rfl

namespace OpeningText

variable {l : Lexeme} {chunk : List Char}

theorem reads (h : OpeningText l chunk) {rest : List Char}
    (ends : l = .opening (.capturing none) → rest.head? ≠ some '?') :
    readOpening false (chunk ++ rest) = some (l, rest) := by
  cases h with
  | bare => exact readOpening_bare (ends rfl)
  | @named mark name marks _ reads =>
    have reads := reads rest
    rw [List.append_assoc, List.append_assoc, List.singleton_append]
    rcases marks with rfl | rfl
    · simp [readOpening, skip, reads]
    · obtain ⟨first, more, same, notEqual, notBang⟩ := front_of_readName reads
      rw [same] at reads ⊢
      simp [readOpening, skip, reads, notEqual, notBang]
  | plain _ reads =>
    rw [List.cons_append, List.append_assoc]
    exact readOpening_plain (reads rest)
  | flags filled _ reads =>
    rw [List.cons_append, List.append_assoc]
    exact readOpening_flags (reads rest) filled

theorem narrows (h : OpeningText l chunk) (ok : l.NamesNoBracket) :
    Narrows false chunk chunk false := by
  cases h with
  | bare => exact .nil
  | named marks chars _ =>
    refine narrows_name ?_ (fun c hc => (chars c hc).1) ok
    rcases marks with rfl | rfl <;> simp
  | plain inner _ | flags _ inner _ =>
    refine .plain fun c hc => ?_
    simp only [List.mem_cons, List.mem_append, List.not_mem_nil, or_false] at hc
    rcases hc with rfl | hc | rfl
    · simp [IsPlain]
    · exact (inner c hc).plain
    · simp [IsPlain]

end OpeningText

end Pattern

end StepExpr
