import Mathlib.Data.List.Chain
import StepExpr.Proofs.Template.Escapes

/-!
# Tokens as longest runs

The tokens of a template are told by its characters alone: text and blanks come in runs that cannot
be made longer, and every other token is a single delimiter.

* `KindAt` is the kind of token that the character at a position belongs to;
* `tokensFrom_holds` and `tokensFrom_apart`: the tokens of glyphs hold characters of their own kind,
  and no two neighbours could be one token;
* `Lexed` says what the tokens of a template are, and `Lexed.unique` that nothing else is;
* `tokenize_eq_ok_iff`: a template that no escape fails cuts into these.
-/

namespace StepExpr.Template

def delimiters : List Char := ['/', '\x7b', '\x7d', '(', ')']

/-- A character that is escaped, or neither a blank nor a delimiter. -/
def IsTextAt (source : List Char) (pos : Nat) : Prop :=
  ∃ c, source[pos]? = some c ∧
    (Escaped source pos ∨ Unicode.isBlank c = false ∧ c ∉ delimiters)

def IsBlankAt (source : List Char) (pos : Nat) : Prop :=
  ∃ c, source[pos]? = some c ∧ ¬ Escaped source pos ∧ Unicode.isBlank c = true

/-- The delimiter `c` stands at a position, and is not escaped. -/
def IsDelimiterAt (source : List Char) (pos : Nat) (c : Char) : Prop :=
  source[pos]? = some c ∧ ¬ Escaped source pos ∧ c ∈ delimiters

/-- Positions of one sort from the start of a span to its stop, and none next to them. -/
structure MaximalRun (P : Nat → Prop) (span : Span) : Prop where
  nonempty : span.start < span.stop
  all : ∀ pos, span.start ≤ pos → pos < span.stop → P pos
  before : ∀ pos, pos + 1 = span.start → ¬ P pos
  after : ¬ P span.stop

/-- No two such neighbours could be one token. -/
def Token.Apart (t u : Token) : Prop := t.kind = u.kind → t.kind.isRun = false

/-- Tokens that are cut from a template, in the longest runs there are. -/
structure Lexed (source : List Char) (tokens : List Token) : Prop where
  contiguous : Contiguous 0 tokens source.length
  joined : tokens.flatMap Token.source = source
  source_eq : ∀ t ∈ tokens, t.source = slice source t.span
  text_eq : ∀ t ∈ tokens, t.text = unescape t.source
  /-- No backslash is cut off from the character that it escapes. -/
  unescaped : ∀ t ∈ tokens, ¬ Escaped source t.span.start
  text_iff : ∀ span, (∃ t ∈ tokens, t.kind = .text ∧ t.span = span) ↔
    MaximalRun (IsTextAt source) span
  blank_iff : ∀ span, (∃ t ∈ tokens, t.kind = .blank ∧ t.span = span) ↔
    MaximalRun (IsBlankAt source) span
  delimiter_iff : ∀ kind span, kind.isRun = false →
    ((∃ t ∈ tokens, t.kind = kind ∧ t.span = span) ↔
      span.stop = span.start + 1 ∧
        ∃ c, IsDelimiterAt source span.start c ∧ TokenKind.ofChar c = kind)
  apart : tokens.IsChain Token.Apart

variable {source rest : List Char} {c : Char} {pos start stop : Nat} {g : Glyph} {gs : List Glyph}
  {k l : TokenKind} {t u : Token} {ts us : List Token} {span : Span}

/-! ## Kinds of characters -/

/-- The kind of token that the character at a position belongs to. -/
def KindAt (source : List Char) (pos : Nat) (k : TokenKind) : Prop :=
  ∃ c, source[pos]? = some c ∧
    (Escaped source pos ∧ k = .text ∨ ¬ Escaped source pos ∧ k = .ofChar c)

theorem KindAt.unique (h : KindAt source pos k) (h' : KindAt source pos l) : k = l := by
  obtain ⟨c, here, kind⟩ := h
  obtain ⟨d, here', kind'⟩ := h'
  obtain rfl : c = d := Option.some.inj (here.symm.trans here')
  grind

theorem KindAt.inside (h : KindAt source pos k) : pos < source.length := by
  obtain ⟨c, here, -⟩ := h
  exact (List.getElem?_eq_some_iff.mp here).1

theorem ofChar_of_delimiter (h : c ∈ delimiters) :
    (TokenKind.ofChar c).isRun = false ∧ Unicode.isBlank c = false := by
  simp only [delimiters, List.mem_cons, List.not_mem_nil, or_false] at h
  rcases h with rfl | rfl | rfl | rfl | rfl <;> exact ⟨rfl, rfl⟩

theorem ofChar_of_not_delimiter (h : c ∉ delimiters) :
    TokenKind.ofChar c = if Unicode.isBlank c then .blank else .text := by
  unfold TokenKind.ofChar
  split
  case h_6 => rfl
  all_goals simp [delimiters] at h

theorem kindAt_text_iff : KindAt source pos .text ↔ IsTextAt source pos := by
  refine exists_congr fun c => and_congr_right fun _ => ?_
  by_cases delimiter : c ∈ delimiters
  · have kind := (ofChar_of_delimiter delimiter).1
    have other : TokenKind.text ≠ .ofChar c := by
      intro same
      simp [← same, TokenKind.isRun] at kind
    simp [delimiter, other]
  · rw [ofChar_of_not_delimiter delimiter]
    cases Unicode.isBlank c <;> by_cases escaped : Escaped source pos <;> simp [delimiter, escaped]

theorem kindAt_blank_iff : KindAt source pos .blank ↔ IsBlankAt source pos := by
  refine exists_congr fun c => and_congr_right fun _ => ?_
  by_cases delimiter : c ∈ delimiters
  · obtain ⟨kind, blank⟩ := ofChar_of_delimiter delimiter
    have other : TokenKind.blank ≠ .ofChar c := by
      intro same
      simp [← same, TokenKind.isRun] at kind
    simp [other, blank]
  · rw [ofChar_of_not_delimiter delimiter]
    cases Unicode.isBlank c <;> simp

theorem kindAt_delimiter_iff (single : k.isRun = false) :
    KindAt source pos k ↔ ∃ c, IsDelimiterAt source pos c ∧ TokenKind.ofChar c = k := by
  constructor
  · rintro ⟨c, here, ⟨-, rfl⟩ | ⟨free, rfl⟩⟩
    · cases single
    · refine ⟨c, ⟨here, free, ?_⟩, rfl⟩
      by_contra other
      rw [ofChar_of_not_delimiter other] at single
      split at single <;> cases single
  · rintro ⟨c, ⟨here, free, -⟩, rfl⟩
    exact ⟨c, here, .inr ⟨free, rfl⟩⟩

theorem kindAt_behind_glyph (valid : g.Valid) :
    KindAt (g.source ++ rest) (g.width + pos) k ↔ KindAt rest pos k := by
  rw [KindAt, KindAt, escaped_glyph valid, getElem?_glyph]

/-- All characters of a glyph are of its kind, the backslash of an escape as well. -/
theorem kindAt_in_glyph (inside : pos < g.width) : KindAt (g.source ++ rest) pos g.kind := by
  obtain rfl | ⟨paired, rfl⟩ := g.eq_of_lt_width inside
  · obtain ⟨c, escaped⟩ := g
    cases escaped <;> exact ⟨_, rfl, .inr ⟨not_escaped_zero, rfl⟩⟩
  · have escaped := (@escaped_in_glyph rest 1 g inside).mpr ⟨paired, rfl⟩
    exact ⟨g.char, by simp [Glyph.source, paired], .inl ⟨escaped, by simp [Glyph.kind, paired]⟩⟩

/-! ## Tokens of glyphs -/

theorem Contiguous.mem (h : Contiguous start ts stop) (ht : t ∈ ts) :
    start ≤ t.span.start ∧ t.span.start < t.span.stop ∧ t.span.stop ≤ stop := by
  induction ts generalizing start with
  | nil => cases ht
  | cons u us ih =>
    obtain ⟨first, longer, others⟩ := h
    rcases List.mem_cons.mp ht with rfl | ht
    · exact ⟨Nat.le_of_eq first.symm, first ▸ longer, others.le⟩
    · obtain ⟨after, more, last⟩ := ih others ht
      exact ⟨by omega, more, last⟩

theorem Contiguous.exists_mem (h : Contiguous start ts stop) (after : start ≤ pos)
    (before : pos < stop) : ∃ t ∈ ts, t.span.start ≤ pos ∧ pos < t.span.stop := by
  induction ts generalizing start with
  | nil =>
    obtain rfl : start = stop := h
    omega
  | cons t ts ih =>
    obtain ⟨first, longer, others⟩ := h
    by_cases here : pos < t.span.stop
    · exact ⟨t, List.mem_cons_self, by omega, here⟩
    · obtain ⟨u, hu, within⟩ := ih others (by omega)
      exact ⟨u, List.mem_cons_of_mem t hu, within⟩

/-- Tokens that cover one position are the same. -/
theorem Contiguous.eq_of_overlap (h : Contiguous start ts stop) (ht : t ∈ ts) (hu : u ∈ ts)
    (left : t.span.start < u.span.stop) (right : u.span.start < t.span.stop) : t = u := by
  induction ts generalizing start with
  | nil => cases ht
  | cons v vs ih =>
    obtain ⟨first, longer, others⟩ := h
    rcases List.mem_cons.mp ht with rfl | later <;> rcases List.mem_cons.mp hu with rfl | later'
    · rfl
    · have := (others.mem later').1
      omega
    · have := (others.mem later).1
      omega
    · exact ih others later later'

/-- All characters of a token are of its kind, where `source` is the part of a template from `pos`
on. -/
def Token.Holds (source : List Char) (pos : Nat) (t : Token) : Prop :=
  ∀ i, t.span.start ≤ pos + i → pos + i < t.span.stop → KindAt source i t.kind

theorem Token.holds_glyph : Token.Holds (g.source ++ rest) pos
    ⟨g.kind, [g.char], g.source, ⟨pos, pos + g.width⟩⟩ := by
  intro i _ before
  have inside : pos + i < pos + g.width := before
  exact kindAt_in_glyph (by omega)

theorem Token.Holds.behind (valid : g.Valid) (h : t.Holds rest (pos + g.width))
    (after : pos + g.width ≤ t.span.start) : t.Holds (g.source ++ rest) pos := by
  intro i start stop
  obtain ⟨k, rfl⟩ : ∃ k, i = g.width + k := ⟨i - g.width, by omega⟩
  exact (kindAt_behind_glyph valid).mpr (h k (by omega) (by omega))

theorem pushGlyph_holds (valid : g.Valid) (follow : Contiguous (pos + g.width) ts stop)
    (h : ∀ t ∈ ts, t.Holds rest (pos + g.width)) :
    ∀ t ∈ pushGlyph pos g ts, t.Holds (g.source ++ rest) pos := by
  have later : ∀ t ∈ ts, t.Holds (g.source ++ rest) pos :=
    fun t ht => (h t ht).behind valid (follow.mem ht).1
  intro t ht
  cases ts with
  | nil =>
    obtain rfl := List.mem_singleton.mp ht
    exact Token.holds_glyph
  | cons u us =>
    rw [pushGlyph] at ht
    split at ht
    · rename_i joined
      rcases List.mem_cons.mp ht with rfl | ht
      · intro i start stop
        by_cases inside : i < g.width
        · exact kindAt_in_glyph inside
        · have first := follow.1
          exact joined.1 ▸ later u List.mem_cons_self i (by omega) stop
      · exact later t (List.mem_cons_of_mem u ht)
    · rcases List.mem_cons.mp ht with rfl | ht
      · exact Token.holds_glyph
      · exact later t ht

theorem tokensFrom_holds (valid : ∀ g ∈ gs, g.Valid) :
    ∀ t ∈ tokensFrom pos gs, t.Holds (written gs) pos := by
  induction gs generalizing pos with
  | nil => simp [tokensFrom]
  | cons g gs ih =>
    obtain ⟨first, others⟩ := List.forall_mem_cons.mp valid
    exact pushGlyph_holds first (tokensFrom_contiguous _ gs) (ih others)

theorem pushGlyph_apart (h : ts.IsChain Token.Apart) :
    (pushGlyph pos g ts).IsChain Token.Apart := by
  cases ts with
  | nil => exact .singleton _
  | cons t ts =>
    rw [pushGlyph]
    split
    · rename_i joined
      cases ts with
      | nil => exact .singleton _
      | cons u us =>
        obtain ⟨first, others⟩ := List.isChain_cons_cons.mp h
        refine List.isChain_cons_cons.mpr ⟨fun same => ?_, others⟩
        exact joined.1 ▸ first (joined.1.trans same)
    · rename_i free
      refine List.isChain_cons_cons.mpr ⟨fun same => ?_, h⟩
      exact Bool.eq_false_iff.mpr fun run => free ⟨same.symm, run⟩

theorem tokensFrom_apart (pos : Nat) (gs : List Glyph) :
    (tokensFrom pos gs).IsChain Token.Apart := by
  induction gs generalizing pos with
  | nil => exact .nil
  | cons g gs ih => exact pushGlyph_apart (ih _)

theorem pushGlyph_sources (follow : Contiguous (pos + g.width) ts stop)
    (h : ∀ t ∈ ts, t.span.start + t.source.length = t.span.stop) :
    (pushGlyph pos g ts).flatMap Token.source = g.source ++ ts.flatMap Token.source ∧
      ∀ t ∈ pushGlyph pos g ts, t.span.start + t.source.length = t.span.stop := by
  have single : pos + g.source.length = pos + g.width := by rw [g.length_source]
  cases ts with
  | nil => exact ⟨rfl, List.forall_mem_singleton.mpr single⟩
  | cons t ts =>
    rw [pushGlyph]
    split
    · obtain ⟨first, others⟩ := List.forall_mem_cons.mp h
      have start := follow.1
      refine ⟨by simp, List.forall_mem_cons.mpr ⟨?_, others⟩⟩
      simp only [List.length_append, g.length_source]
      omega
    · exact ⟨rfl, List.forall_mem_cons.mpr ⟨single, h⟩⟩

theorem tokensFrom_sources (pos : Nat) (gs : List Glyph) :
    (tokensFrom pos gs).flatMap Token.source = written gs ∧
      ∀ t ∈ tokensFrom pos gs, t.span.start + t.source.length = t.span.stop := by
  induction gs generalizing pos with
  | nil => simp [tokensFrom]
  | cons g gs ih =>
    obtain ⟨joined, widths⟩ := ih (pos + g.width)
    rw [written_cons, ← joined]
    exact pushGlyph_sources (tokensFrom_contiguous _ gs) widths

/-- Where the sources of tokens have the lengths of their spans, they are what stands there. -/
theorem Contiguous.source_eq {before : List Char} (h : Contiguous before.length ts stop)
    (widths : ∀ t ∈ ts, t.span.start + t.source.length = t.span.stop) :
    ∀ t ∈ ts, t.source = slice (before ++ ts.flatMap Token.source) t.span := by
  induction ts generalizing before with
  | nil => simp
  | cons t ts ih =>
    obtain ⟨first, longer, others⟩ := h
    obtain ⟨width, widths⟩ := List.forall_mem_cons.mp widths
    have stop : t.span.stop = (before ++ t.source).length := by
      rw [List.length_append]
      omega
    refine List.forall_mem_cons.mpr ⟨?_, ?_⟩
    · have span : t.span = ⟨before.length, before.length + t.source.length⟩ := by
        rw [← first, width]
      rw [span, List.flatMap_cons, slice_append]
    · rw [stop] at others
      simpa using ih others widths

/-! ## Longest runs -/

/-- Tokens side by side whose characters are of their kind, none of which could be joined. -/
structure Munched (source : List Char) (tokens : List Token) : Prop where
  contiguous : Contiguous 0 tokens source.length
  kinds : ∀ t ∈ tokens, t.Holds source 0
  apart : tokens.IsChain Token.Apart
  single : ∀ t ∈ tokens, t.kind.isRun = false → t.span.stop = t.span.start + 1

namespace Munched

theorem kindAt (h : Munched source ts) (ht : t ∈ ts) (after : t.span.start ≤ pos)
    (before : pos < t.span.stop) : KindAt source pos t.kind :=
  h.kinds t ht pos (by omega) (by omega)

/-- The token of a character. -/
theorem exists_mem (h : Munched source ts) (here : KindAt source pos k) :
    ∃ t ∈ ts, t.kind = k ∧ t.span.start ≤ pos ∧ pos < t.span.stop := by
  obtain ⟨t, ht, after, before⟩ := h.contiguous.exists_mem (Nat.zero_le pos) here.inside
  exact ⟨t, ht, (h.kindAt ht after before).unique here, after, before⟩

theorem neighbours (h : Munched source ts) (ht : t ∈ ts) (hu : u ∈ ts)
    (adjacent : t.span.stop = u.span.start) : t.Apart u := by
  obtain ⟨before, after, rfl⟩ := List.append_of_mem ht
  obtain ⟨mid, -, -, -, others⟩ := Contiguous.append.mp h.contiguous
  have within := h.contiguous.mem hu
  cases after with
  | nil =>
    obtain last : t.span.stop = source.length := others
    omega
  | cons v vs =>
    obtain ⟨next, wide, -⟩ := others
    obtain rfl : v = u := h.contiguous.eq_of_overlap (by simp) hu (by omega) (by omega)
    have chain := (List.isChain_append.mp h.apart).2.1
    exact (List.isChain_cons_cons.mp chain).1

/-- The characters before and after a run are not of its kind. -/
theorem maximalRun (h : Munched source ts) (ht : t ∈ ts) (run : t.kind.isRun = true) :
    MaximalRun (fun pos => KindAt source pos t.kind) t.span where
  nonempty := (h.contiguous.mem ht).2.1
  all pos after before := h.kindAt ht after before
  before pos next here := by
    obtain ⟨u, hu, same, after, before⟩ := h.exists_mem here
    have longer := (h.contiguous.mem ht).2.1
    have adjacent : u.span.stop = t.span.start := by
      by_contra other
      obtain rfl := h.contiguous.eq_of_overlap hu ht (by omega) (by omega)
      omega
    have split := h.neighbours hu ht adjacent same
    rw [same, run] at split
    cases split
  after here := by
    obtain ⟨u, hu, same, after, before⟩ := h.exists_mem here
    have longer := (h.contiguous.mem ht).2.1
    have adjacent : t.span.stop = u.span.start := by
      by_contra other
      obtain rfl := h.contiguous.eq_of_overlap hu ht (by omega) (by omega)
      omega
    have split := h.neighbours ht hu adjacent same.symm
    rw [run] at split
    cases split

end Munched

theorem MaximalRun.eq_of_overlap {P : Nat → Prop} {a b : Span} (ha : MaximalRun P a)
    (hb : MaximalRun P b) (left : a.start < b.stop) (right : b.start < a.stop) : a = b := by
  have start : a.start = b.start := by
    rcases Nat.lt_trichotomy a.start b.start with less | same | less
    · exact absurd (ha.all (b.start - 1) (by omega) (by omega)) (hb.before _ (by omega))
    · exact same
    · exact absurd (hb.all (a.start - 1) (by omega) (by omega)) (ha.before _ (by omega))
  have stop : a.stop = b.stop := by
    rcases Nat.lt_trichotomy a.stop b.stop with less | same | less
    · exact absurd (hb.all a.stop (by omega) less) ha.after
    · exact same
    · exact absurd (ha.all b.stop (by omega) less) hb.after
  obtain ⟨start, stop⟩ := a
  simp_all

namespace Munched

theorem run_iff (h : Munched source ts) (run : k.isRun = true) :
    (∃ t ∈ ts, t.kind = k ∧ t.span = span) ↔ MaximalRun (fun pos => KindAt source pos k) span := by
  constructor
  · rintro ⟨t, ht, rfl, rfl⟩
    exact h.maximalRun ht run
  · intro longest
    obtain ⟨t, ht, rfl, after, before⟩ :=
      h.exists_mem (longest.all span.start (Nat.le_refl _) longest.nonempty)
    have less := longest.nonempty
    exact ⟨t, ht, rfl, (h.maximalRun ht run).eq_of_overlap longest (by omega) before⟩

theorem single_iff (h : Munched source ts) (single : k.isRun = false) :
    (∃ t ∈ ts, t.kind = k ∧ t.span = span) ↔
      span.stop = span.start + 1 ∧ KindAt source span.start k := by
  constructor
  · rintro ⟨t, ht, rfl, rfl⟩
    exact ⟨h.single t ht single, h.kindAt ht (Nat.le_refl _) (h.contiguous.mem ht).2.1⟩
  · rintro ⟨stop, here⟩
    obtain ⟨t, ht, rfl, after, before⟩ := h.exists_mem here
    have width := h.single t ht single
    refine ⟨t, ht, rfl, ?_⟩
    obtain ⟨start, stop⟩ := span
    cases t with
    | mk kind text source span =>
      obtain ⟨start', stop'⟩ := span
      simp only [Span.mk.injEq] at *
      omega

/-- A backslash and the character that it escapes are of one kind, so no token parts them. -/
theorem unescaped (h : Munched source ts) (ht : t ∈ ts) : ¬ Escaped source t.span.start := by
  intro escaped
  have longer := (h.contiguous.mem ht).2.1
  have here := h.kindAt ht (Nat.le_refl _) longer
  cases start : t.span.start with
  | zero => exact not_escaped_zero (start ▸ escaped)
  | succ pos =>
    rw [start] at escaped here
    obtain ⟨backslash, free⟩ := escaped
    have text : t.kind = .text := by
      obtain ⟨c, -, ⟨-, text⟩ | ⟨free', -⟩⟩ := here
      · exact text
      · exact absurd ⟨backslash, free⟩ free'
    have run : t.kind.isRun = true := by rw [text]; rfl
    refine (h.maximalRun ht run).before pos start.symm ?_
    exact ⟨'\\', backslash, .inr ⟨free, text⟩⟩

end Munched

/-! ## Tokens of a template -/

theorem munched_tokensFrom (valid : ∀ g ∈ gs, g.Valid) :
    Munched (written gs) (tokensFrom 0 gs) where
  contiguous := Nat.zero_add (written gs).length ▸ tokensFrom_contiguous 0 gs
  kinds := tokensFrom_holds valid
  apart := tokensFrom_apart 0 gs
  single t ht single := by
    have lies := @tokensFrom_lies [] gs (by simp) valid t ht
    exact (lies.delimiter single).1

theorem lexed_tokensFrom (valid : ∀ g ∈ gs, g.Valid) : Lexed (written gs) (tokensFrom 0 gs) := by
  have munched := munched_tokensFrom valid
  obtain ⟨joined, widths⟩ := tokensFrom_sources 0 gs
  have contiguous : Contiguous ([] : List Char).length (tokensFrom 0 gs) (written gs).length :=
    munched.contiguous
  have sources := contiguous.source_eq widths
  rw [joined] at sources
  refine ⟨munched.contiguous, joined, sources, fun t ht => ?_, fun t ht => munched.unescaped ht,
    fun span => ?_, fun span => ?_, fun kind span single => ?_, munched.apart⟩
  · have lies := @tokensFrom_lies [] gs (by simp) valid t ht
    rw [sources t ht]
    exact lies.text_eq
  · simpa only [kindAt_text_iff] using munched.run_iff (k := .text) rfl
  · simpa only [kindAt_blank_iff] using munched.run_iff (k := .blank) rfl
  · rw [munched.single_iff single, kindAt_delimiter_iff single]

/-- Side by side there is one way to put tokens in order. -/
theorem Contiguous.eq_of_mem_iff (h : Contiguous start ts stop) (h' : Contiguous start us stop)
    (same : ∀ t, t ∈ ts ↔ t ∈ us) : ts = us := by
  induction ts generalizing start us with
  | nil =>
    have none : ∀ u, u ∉ us := by
      intro u hu
      simpa using (same u).mpr hu
    exact (List.eq_nil_iff_forall_not_mem.mpr none).symm
  | cons t ts ih =>
    cases us with
    | nil => simpa using (same t).mp List.mem_cons_self
    | cons u us =>
      obtain rfl : t = u := by
        refine h.eq_of_overlap List.mem_cons_self ((same u).mpr List.mem_cons_self) ?_ ?_
        · rw [h.1]
          exact h'.2.1
        · rw [h'.1]
          exact h.2.1
      obtain ⟨-, longer, others⟩ := h
      obtain ⟨first, -, others'⟩ := h'
      congr 1
      refine ih others others' fun v => ?_
      have apart {ws : List Token} (side : Contiguous t.span.stop ws stop) (hv : v ∈ ws) :
          v ≠ t := by
        rintro rfl
        have := (side.mem hv).1
        omega
      constructor
      · intro hv
        exact (List.mem_cons.mp ((same v).mp (List.mem_cons_of_mem t hv))).resolve_left
          (apart others hv)
      · intro hv
        exact (List.mem_cons.mp ((same v).mpr (List.mem_cons_of_mem t hv))).resolve_left
          (apart others' hv)

namespace Lexed

theorem exists_same (h : Lexed source ts) (h' : Lexed source us) (ht : t ∈ ts) :
    ∃ u ∈ us, u.kind = t.kind ∧ u.span = t.span := by
  cases run : t.kind.isRun with
  | true =>
    have kinds : t.kind = .text ∨ t.kind = .blank := by
      cases kind : t.kind <;> simp [kind, TokenKind.isRun] at run ⊢
    rcases kinds with kind | kind
    · rw [kind]
      exact (h'.text_iff t.span).mpr ((h.text_iff t.span).mp ⟨t, ht, kind, rfl⟩)
    · rw [kind]
      exact (h'.blank_iff t.span).mpr ((h.blank_iff t.span).mp ⟨t, ht, kind, rfl⟩)
  | false =>
    exact (h'.delimiter_iff t.kind t.span run).mpr
      ((h.delimiter_iff t.kind t.span run).mp ⟨t, ht, rfl, rfl⟩)

theorem mem (h : Lexed source ts) (h' : Lexed source us) (ht : t ∈ ts) : t ∈ us := by
  obtain ⟨u, hu, kind, span⟩ := h.exists_same h' ht
  have sources : u.source = t.source := by rw [h'.source_eq u hu, h.source_eq t ht, span]
  have texts : u.text = t.text := by rw [h'.text_eq u hu, h.text_eq t ht, sources]
  obtain rfl : u = t := by
    cases u
    cases t
    simp_all
  exact hu

theorem unique (h : Lexed source ts) (h' : Lexed source us) : ts = us :=
  h.contiguous.eq_of_mem_iff h'.contiguous fun _ => ⟨h.mem h', h'.mem h⟩

end Lexed

theorem lexed_of_tokenize {all : List Token} (h : tokenize source = .ok all) : ∃ tokens,
    all = edgeToken .lineStart 0 :: (tokens ++ [edgeToken .lineEnd source.length]) ∧
      Lexed source tokens := by
  obtain ⟨gs, rfl, valid, rfl⟩ := glyphs_of_tokenize h
  exact ⟨_, rfl, lexed_tokensFrom valid⟩

/-- A template cuts into tokens if every backslash escapes a character that it can escape. The
tokens between the empty ones at its ends are the longest runs of text and of blanks, and its
delimiters, from the first to the last character. -/
theorem tokenize_eq_ok_iff {all : List Token} : tokenize source = .ok all ↔
    (∀ pos, ¬ Unescapable source pos) ∧ ¬ Dangling source ∧
    ∃ tokens, all = edgeToken .lineStart 0 :: (tokens ++ [edgeToken .lineEnd source.length]) ∧
      Lexed source tokens := by
  have accepted : (∀ e, tokenize source ≠ .error e) ↔
      (∀ pos, ¬ Unescapable source pos) ∧ ¬ Dangling source := by
    rw [← not_exists, ← not_exists, ← not_or, ← @exists_failsWith_iff source 0]
    simp only [tokenize_failsWith_iff]
  constructor
  · intro h
    obtain ⟨able, ends⟩ := accepted.mp (by simp [h])
    exact ⟨able, ends, lexed_of_tokenize h⟩
  · rintro ⟨able, ends, tokens, rfl, known⟩
    cases h : tokenize source with
    | error e => exact absurd h (accepted.mpr ⟨able, ends⟩ e)
    | ok result =>
      obtain ⟨others, rfl, found⟩ := lexed_of_tokenize h
      rw [found.unique known]

end StepExpr.Template
