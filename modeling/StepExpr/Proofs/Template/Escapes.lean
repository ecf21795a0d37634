import Mathlib.Data.Nat.Find
import StepExpr.Proofs.Template.Tokens
import StepExpr.Template.Problem

/-!
# Escapes

A backslash that no other one escapes is paired with the character after it. Which characters are
escaped is told by their positions alone, and so is why a template does not cut into tokens.

* `Escaped` pairs the backslashes of a template from left to right;
* `escaped_glyph`: glyphs pair them alike;
* `tokenize_eq_error_iff`: the first character that is escaped and must not be is the problem of a
  template, and without one the backslash at its end.
-/

namespace StepExpr.Template

/-- A backslash is paired with the character at a position, or with the end of the template. -/
def Escaped (source : List Char) : Nat → Prop
  | 0 => False
  | pos + 1 => source[pos]? = some '\\' ∧ ¬ Escaped source pos

variable {source rest : List Char} {c : Char} {pos : Nat} {g : Glyph} {e : EscapeError}

@[simp] theorem not_escaped_zero : ¬ Escaped source 0 := id

theorem escaped_succ :
    Escaped source (pos + 1) ↔ source[pos]? = some '\\' ∧ ¬ Escaped source pos := Iff.rfl

theorem escaped_cons (plain : c ≠ '\\') : Escaped (c :: rest) (pos + 1) ↔ Escaped rest pos := by
  induction pos with
  | zero => simp [Escaped, plain]
  | succ pos ih => rw [escaped_succ, ih, escaped_succ, List.getElem?_cons_succ]

theorem escaped_pair : Escaped ('\\' :: c :: rest) (pos + 2) ↔ Escaped rest pos := by
  induction pos with
  | zero => simp [Escaped]
  | succ pos ih =>
    rw [escaped_succ, ih, escaped_succ, List.getElem?_cons_succ, List.getElem?_cons_succ]

/-- Behind a glyph the pairing begins anew. -/
theorem escaped_glyph (valid : g.Valid) :
    Escaped (g.source ++ rest) (g.width + pos) ↔ Escaped rest pos := by
  obtain ⟨c, escaped⟩ := g
  rw [Nat.add_comm]
  cases escaped with
  | true => exact escaped_pair
  | false => exact escaped_cons (by simpa [Glyph.Valid] using valid)

theorem getElem?_glyph : (g.source ++ rest)[g.width + pos]? = rest[pos]? := by
  rw [← g.length_source, List.getElem?_append_right (by omega), Nat.add_sub_cancel_left]

/-- In a glyph only the character of an escape is escaped. -/
theorem escaped_in_glyph (inside : pos < g.width) :
    Escaped (g.source ++ rest) pos ↔ g.escaped = true ∧ pos = 1 := by
  obtain rfl | ⟨paired, rfl⟩ := g.eq_of_lt_width inside
  · simp
  · simp [Escaped, Glyph.source, paired]

/-! ## Failures -/

/-- A backslash is paired with a character that is none of those that it can escape. -/
def Unescapable (source : List Char) (pos : Nat) : Prop :=
  Escaped source pos ∧ ∃ c, source[pos]? = some c ∧
    Unicode.isBlank c = false ∧ c ∉ ['\\', '/', '\x7b', '\x7d', '(', ')']

/-- The template ends in a backslash that no other one escapes. -/
def Dangling (source : List Char) : Prop :=
  ∃ pos, pos + 1 = source.length ∧ source[pos]? = some '\\' ∧ ¬ Escaped source pos

theorem canEscape_eq_false_iff : canEscape c = false ↔
    Unicode.isBlank c = false ∧ c ∉ ['\\', '/', '\x7b', '\x7d', '(', ')'] := by
  simp [canEscape, isReserved, and_assoc]

theorem dangling_iff : Dangling source ↔ Escaped source source.length := by
  constructor
  · rintro ⟨pos, last, here, free⟩
    rw [← last]
    exact ⟨here, free⟩
  · intro h
    cases last : source.length with
    | zero =>
      rw [last] at h
      exact absurd h not_escaped_zero
    | succ pos =>
      rw [last] at h
      exact ⟨pos, last.symm, h⟩

/-- No glyph by itself has a character that cannot be escaped. -/
theorem unescapable_glyph_iff (valid : g.Valid) : Unescapable (g.source ++ rest) pos ↔
    ∃ k, pos = g.width + k ∧ Unescapable rest k := by
  constructor
  · rintro ⟨escaped, c, here, bad⟩
    by_cases inside : pos < g.width
    · obtain ⟨paired, rfl⟩ := (escaped_in_glyph inside).mp escaped
      obtain rfl : g.char = c := by simpa [Glyph.source, paired] using here
      rw [← canEscape_eq_false_iff] at bad
      simp [Glyph.Valid, paired, bad] at valid
    · obtain ⟨k, rfl⟩ := Nat.exists_eq_add_of_le (Nat.le_of_not_lt inside)
      exact ⟨k, rfl, (escaped_glyph valid).mp escaped, c, getElem?_glyph ▸ here, bad⟩
  · rintro ⟨k, rfl, escaped, c, here, bad⟩
    exact ⟨(escaped_glyph valid).mpr escaped, c, getElem?_glyph.trans here, bad⟩

theorem dangling_glyph (valid : g.Valid) : Dangling (g.source ++ rest) ↔ Dangling rest := by
  rw [dangling_iff, dangling_iff, List.length_append, g.length_source, escaped_glyph valid]

/-- What an attempt to cut the part of a template from `pos` on fails with. -/
def FailsWith (source : List Char) (pos : Nat) (e : EscapeError) : Prop :=
  (∃ i, Unescapable source i ∧ (∀ j < i, ¬ Unescapable source j) ∧ e = .cantEscape (pos + i)) ∨
  (∀ i, ¬ Unescapable source i) ∧ Dangling source ∧ e = .nothingToEscape (pos + source.length - 1)

theorem failsWith_glyph (valid : g.Valid) :
    FailsWith (g.source ++ rest) pos e ↔ FailsWith rest (pos + g.width) e := by
  have stop : pos + (g.source ++ rest).length - 1 = pos + g.width + rest.length - 1 := by
    rw [List.length_append, g.length_source, Nat.add_assoc]
  constructor
  · rintro (⟨i, bad, first, rfl⟩ | ⟨none, dangling, rfl⟩)
    · obtain ⟨k, rfl, behind⟩ := (unescapable_glyph_iff valid).mp bad
      refine .inl ⟨k, behind, ?_, by rw [Nat.add_assoc]⟩
      intro j earlier bad'
      exact first (g.width + j) (by omega) ((unescapable_glyph_iff valid).mpr ⟨j, rfl, bad'⟩)
    · refine .inr ⟨?_, (dangling_glyph valid).mp dangling, by rw [stop]⟩
      intro j bad
      exact none (g.width + j) ((unescapable_glyph_iff valid).mpr ⟨j, rfl, bad⟩)
  · rintro (⟨i, bad, first, rfl⟩ | ⟨none, dangling, rfl⟩)
    · refine .inl ⟨g.width + i, (unescapable_glyph_iff valid).mpr ⟨i, rfl, bad⟩, ?_, ?_⟩
      · intro j earlier bad'
        obtain ⟨k, rfl, behind⟩ := (unescapable_glyph_iff valid).mp bad'
        exact first k (by omega) behind
      · rw [Nat.add_assoc]
    · refine .inr ⟨?_, (dangling_glyph valid).mpr dangling, by rw [stop]⟩
      intro j bad
      obtain ⟨k, rfl, behind⟩ := (unescapable_glyph_iff valid).mp bad
      exact none k behind

theorem not_failsWith_nil : ¬ FailsWith [] pos e := by
  rintro (⟨i, ⟨-, c, here, -⟩, -⟩ | ⟨-, ⟨i, last, -⟩, -⟩)
  · simp at here
  · simp at last

theorem failsWith_backslash : FailsWith ['\\'] pos e ↔ e = .nothingToEscape pos := by
  have none : ∀ i, ¬ Unescapable ['\\'] i := by
    rintro i ⟨escaped, c, here, -⟩
    have single := (List.getElem?_eq_some_iff.mp here).1
    obtain rfl : i = 0 := by simpa using single
    exact not_escaped_zero escaped
  constructor
  · rintro (⟨i, bad, -⟩ | ⟨-, -, rfl⟩)
    · exact absurd bad (none i)
    · rfl
  · rintro rfl
    exact .inr ⟨none, ⟨0, rfl, rfl, not_escaped_zero⟩, rfl⟩

theorem failsWith_unescapable (bad : canEscape c = false) :
    FailsWith ('\\' :: c :: rest) pos e ↔ e = .cantEscape (pos + 1) := by
  have here : Unescapable ('\\' :: c :: rest) 1 :=
    ⟨⟨rfl, not_escaped_zero⟩, c, rfl, canEscape_eq_false_iff.mp bad⟩
  have first : ∀ j < 1, ¬ Unescapable ('\\' :: c :: rest) j := by
    intro j earlier bad'
    obtain rfl : j = 0 := by omega
    exact not_escaped_zero bad'.1
  constructor
  · rintro (⟨i, bad', first', rfl⟩ | ⟨none, -⟩)
    · have : ¬ i < 1 := fun earlier => first i earlier bad'
      have : ¬ 1 < i := fun earlier => first' 1 earlier here
      obtain rfl : i = 1 := by omega
      rfl
    · exact absurd here (none 1)
  · rintro rfl
    exact .inl ⟨1, here, first, rfl⟩

/-- A template is cut into glyphs up to the first failure. -/
theorem glyphs_eq_error_iff : glyphs pos source = .error e ↔ FailsWith source pos e := by
  fun_induction glyphs pos source generalizing e with
  | case1 => simp [not_failsWith_nil]
  | case2 => simp [failsWith_backslash, eq_comm]
  | case3 pos c rest able ih =>
    have valid : Glyph.Valid ⟨c, true⟩ := by simpa [Glyph.Valid] using able
    rw [map_eq_error_iff, ih]
    exact (failsWith_glyph valid).symm
  | case4 pos c rest unable =>
    rw [failsWith_unescapable (by simpa using unable)]
    simp [eq_comm]
  | case5 pos c rest notEnd notPair ih =>
    have plain : c ≠ '\\' := by
      rintro rfl
      cases rest with
      | nil => exact notEnd rfl rfl
      | cons d rest => exact notPair d rest rfl rfl
    have valid : Glyph.Valid ⟨c, false⟩ := by simpa [Glyph.Valid] using plain
    rw [map_eq_error_iff, ih]
    exact (failsWith_glyph valid).symm

theorem tokenize_failsWith_iff : tokenize source = .error e ↔ FailsWith source 0 e := by
  rw [← glyphs_eq_error_iff, tokenize_eq, map_eq_error_iff]

theorem exists_failsWith_iff : (∃ e, FailsWith source pos e) ↔
    (∃ i, Unescapable source i) ∨ Dangling source := by
  constructor
  · rintro ⟨e, ⟨i, bad, -⟩ | ⟨-, dangling, -⟩⟩
    · exact .inl ⟨i, bad⟩
    · exact .inr dangling
  · intro h
    by_cases some : ∃ i, Unescapable source i
    · classical
      exact ⟨_, .inl ⟨Nat.find some, Nat.find_spec some, fun j => Nat.find_min some, rfl⟩⟩
    · exact ⟨_, .inr ⟨fun i bad => some ⟨i, bad⟩, h.resolve_left some, rfl⟩⟩

/-- A template does not cut into tokens if some backslash is paired with a character that it cannot
escape, or with none at all. The problem is at the first such character, and at the last backslash
if there is none. -/
theorem tokenize_eq_error_iff :
    ((∃ e, tokenize source = .error e) ↔ (∃ pos, Unescapable source pos) ∨ Dangling source) ∧
    ∀ e, tokenize source = .error e ↔
      (∃ pos, Unescapable source pos ∧ (∀ j < pos, ¬ Unescapable source j) ∧
        e.problem = ⟨.cantEscape, ⟨pos, pos⟩⟩) ∨
      (∀ pos, ¬ Unescapable source pos) ∧ Dangling source ∧
        e.problem = ⟨.nothingToEscape, ⟨source.length - 1, source.length - 1⟩⟩ := by
  simp only [tokenize_failsWith_iff]
  refine ⟨exists_failsWith_iff, fun e => ?_⟩
  refine or_congr ?_ (and_congr_right fun _ => and_congr_right fun _ => ?_)
  · refine exists_congr fun pos => and_congr_right fun _ => and_congr_right fun _ => ?_
    cases e <;> simp [EscapeError.problem]
  · cases e <;> simp [EscapeError.problem]

end StepExpr.Template
