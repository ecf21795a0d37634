import StepExpr.Proofs.Template.Glyphs

/-!
# What tokens stand for

The tokens of a template lie side by side in what its glyphs are written as.

* `tokensFrom_contiguous`: tokens follow each other without gaps;
* `tokensFrom_lies`: each token is the text at its span, without the escaping backslashes.
-/

namespace StepExpr.Template

/-- The characters of a template in a span. -/
def slice (source : List Char) (span : Span) : List Char :=
  (source.drop span.start).take (span.stop - span.start)

/-- Drops every backslash that escapes the character after it. -/
def unescape : List Char → List Char
  | '\\' :: c :: rest => c :: unescape rest
  | c :: rest => c :: unescape rest
  | [] => []

/-- The character at `pos` is `c`, and no backslash escapes it. -/
def StandsAt (source : List Char) (pos : Nat) (c : Char) : Prop :=
  ∃ before after, source = before ++ c :: after ∧ before.length = pos ∧
    ∃ gs, glyphs 0 before = .ok gs

/-! ## Text -/

theorem unescape_source_append {g : Glyph} (valid : g.Valid) (rest : List Char) :
    unescape (g.source ++ rest) = g.char :: unescape rest := by
  obtain ⟨c, escaped⟩ := g
  cases escaped with
  | true => rfl
  | false =>
    have other : c ≠ '\\' := by simpa [Glyph.Valid] using valid
    simp only [Glyph.source, Bool.false_eq_true, if_false, List.cons_append, List.nil_append]
    rw [unescape]
    simp [other]

/-! ## Tokens -/

/-- Tokens that are not empty stand one after another from `start` to `stop`. -/
def Contiguous (start : Nat) : List Token → Nat → Prop
  | [], stop => start = stop
  | t :: ts, stop =>
    t.span.start = start ∧ start < t.span.stop ∧ Contiguous t.span.stop ts stop

theorem Contiguous.append {pos stop : Nat} {xs ys : List Token} :
    Contiguous pos (xs ++ ys) stop ↔ ∃ mid, Contiguous pos xs mid ∧ Contiguous mid ys stop := by
  induction xs generalizing pos with
  | nil => simp [Contiguous]
  | cons x xs ih => simp [Contiguous, ih, and_assoc]

theorem Contiguous.le {pos stop : Nat} {ts : List Token} (h : Contiguous pos ts stop) :
    pos ≤ stop := by
  induction ts generalizing pos with
  | nil => exact Nat.le_of_eq h
  | cons t ts ih =>
    obtain ⟨-, shorter, rest⟩ := h
    exact Nat.le_trans (Nat.le_of_lt shorter) (ih rest)

namespace TokenKind

/-- Neither end of a template. -/
def IsInner (k : TokenKind) : Prop := k ≠ lineStart ∧ k ≠ lineEnd

theorem ofChar_inner (c : Char) : (ofChar c).IsInner := by
  unfold ofChar
  split
  all_goals try exact ⟨by decide, by decide⟩
  split <;> exact ⟨by decide, by decide⟩

end TokenKind

theorem kind_of_unreserved {c : Char} (h : isReserved c = false) :
    TokenKind.ofChar c = .blank ∨ TokenKind.ofChar c = .text := by
  unfold TokenKind.ofChar
  split
  case h_6 =>
    split
    · exact .inl rfl
    · exact .inr rfl
  all_goals simp [isReserved] at h

theorem Glyph.kind_inner (g : Glyph) : g.kind.IsInner := by
  unfold Glyph.kind
  split
  · exact ⟨by decide, by decide⟩
  · exact TokenKind.ofChar_inner g.char

theorem kind_pushGlyph {P : TokenKind → Prop} {pos : Nat} {g : Glyph} {ts : List Token}
    (first : P g.kind) (h : ∀ t ∈ ts, P t.kind) : ∀ t ∈ pushGlyph pos g ts, P t.kind := by
  intro t ht
  cases ts with
  | nil =>
    obtain rfl := List.mem_singleton.mp ht
    exact first
  | cons u us =>
    simp only [pushGlyph] at ht
    split at ht
    · rcases List.mem_cons.mp ht with rfl | ht
      · exact first
      · exact h t (by simp [ht])
    · rcases List.mem_cons.mp ht with rfl | ht
      · exact first
      · exact h t ht

/-- Tokens have the kinds of glyphs. -/
theorem kind_tokensFrom {P : TokenKind → Prop} (pos : Nat) {gs : List Glyph}
    (h : ∀ g ∈ gs, P g.kind) : ∀ t ∈ tokensFrom pos gs, P t.kind := by
  induction gs generalizing pos with
  | nil => simp [tokensFrom]
  | cons g gs ih =>
    obtain ⟨first, others⟩ := List.forall_mem_cons.mp h
    exact kind_pushGlyph first (ih _ others)

theorem text_tokensFrom (pos : Nat) (gs : List Glyph) :
    (tokensFrom pos gs).flatMap Token.text = gs.map Glyph.char := by
  induction gs generalizing pos with
  | nil => rfl
  | cons g gs ih =>
    rw [tokensFrom, List.map_cons, ← ih (pos + g.width)]
    cases tokensFrom (pos + g.width) gs with
    | nil => rfl
    | cons t ts =>
      rw [pushGlyph]
      split <;> rfl

theorem tokensFrom_inner (pos : Nat) (gs : List Glyph) :
    ∀ t ∈ tokensFrom pos gs, t.kind.IsInner :=
  kind_tokensFrom pos fun g _ => g.kind_inner

theorem pushGlyph_contiguous {pos stop : Nat} {g : Glyph} {ts : List Token}
    (h : Contiguous (pos + g.width) ts stop) : Contiguous pos (pushGlyph pos g ts) stop := by
  have := g.width_pos
  cases ts with
  | nil => exact ⟨rfl, by simp; omega, h⟩
  | cons t ts =>
    obtain ⟨start, shorter, rest⟩ := h
    simp only [pushGlyph]
    split
    · exact ⟨rfl, by simp only; omega, rest⟩
    · exact ⟨rfl, by simp only; omega, start, shorter, rest⟩

theorem tokensFrom_contiguous (pos : Nat) (gs : List Glyph) :
    Contiguous pos (tokensFrom pos gs) (pos + (written gs).length) := by
  induction gs generalizing pos with
  | nil => exact (Nat.add_zero pos).symm
  | cons g gs ih =>
    have h := ih (pos + g.width)
    rw [written_cons, List.length_append, g.length_source, ← Nat.add_assoc]
    exact pushGlyph_contiguous h

/-- A token that stands for part of a template: its text is that part without escapes, and a
delimiter is one character that is not escaped. -/
structure Token.Lies (source : List Char) (t : Token) : Prop where
  nonempty : t.span.start < t.span.stop
  stop_le : t.span.stop ≤ source.length
  text_eq : t.text = unescape (slice source t.span)
  delimiter : t.kind.isRun = false → t.span.stop = t.span.start + 1 ∧
    ∃ c, TokenKind.ofChar c = t.kind ∧ StandsAt source t.span.start c

theorem slice_append (before middle after : List Char) :
    slice (before ++ (middle ++ after)) ⟨before.length, before.length + middle.length⟩ = middle := by
  simp [slice]

theorem slice_glyph_append {before after : List Char} {g : Glyph} {stop : Nat}
    (h : before.length + g.width ≤ stop) :
    slice (before ++ (g.source ++ after)) ⟨before.length, stop⟩ =
      g.source ++ slice (before ++ (g.source ++ after)) ⟨before.length + g.width, stop⟩ := by
  have hw := g.length_source
  simp only [slice, List.drop_left]
  rw [← List.append_assoc, ← hw, ← List.length_append, List.drop_left, List.take_append,
    List.take_of_length_le (by omega)]
  congr 2
  simp only [List.length_append]
  omega

/-- A single glyph after valid glyphs is a token. -/
theorem lies_glyph {hs : List Glyph} (earlier : ∀ h ∈ hs, h.Valid) {g : Glyph} (valid : g.Valid)
    (after : List Char) :
    Token.Lies (written hs ++ (g.source ++ after))
      ⟨g.kind, [g.char], g.source, ⟨(written hs).length, (written hs).length + g.width⟩⟩ where
  nonempty := by simpa using g.width_pos
  stop_le := by simp [← g.length_source]
  text_eq := by
    rw [← g.length_source, slice_append]
    simpa [unescape] using (unescape_source_append valid []).symm
  delimiter := by
    intro hk
    obtain ⟨c, escaped⟩ := g
    cases escaped with
    | true => simp [Glyph.kind, TokenKind.isRun] at hk
    | false =>
      refine ⟨rfl, c, rfl, written hs, after, rfl, rfl, hs, glyphs_written earlier 0⟩

theorem pushGlyph_lies {hs : List Glyph} (earlier : ∀ h ∈ hs, h.Valid) {g : Glyph}
    (valid : g.Valid) {after : List Char} {ts : List Token} {stop : Nat}
    (follow : Contiguous ((written hs).length + g.width) ts stop)
    (rest : ∀ t ∈ ts, t.Lies (written hs ++ (g.source ++ after))) :
    ∀ t ∈ pushGlyph (written hs).length g ts, t.Lies (written hs ++ (g.source ++ after)) := by
  have single := lies_glyph earlier valid after
  intro t ht
  cases ts with
  | nil =>
    obtain rfl := List.mem_singleton.mp ht
    exact single
  | cons u us =>
    have hu := rest u (by simp)
    obtain ⟨start, longer, -⟩ := follow
    simp only [pushGlyph] at ht
    split at ht
    · rename_i same
      rcases List.mem_cons.mp ht with rfl | ht
      · -- the glyph joins the run of the next token
        refine ⟨by simp only; omega, hu.stop_le, ?_, fun hk => absurd same.2 (by simpa using hk)⟩
        simp only
        have whole : (⟨(written hs).length + g.width, u.span.stop⟩ : Span) = u.span := by
          rw [← start]
        rw [slice_glyph_append (by omega), unescape_source_append valid, whole, hu.text_eq]
      · exact rest t (by simp [ht])
    · rcases List.mem_cons.mp ht with rfl | ht
      · exact single
      · exact rest t ht

theorem tokensFrom_lies {hs gs : List Glyph} (earlier : ∀ h ∈ hs, h.Valid)
    (valid : ∀ g ∈ gs, g.Valid) :
    ∀ t ∈ tokensFrom (written hs).length gs, t.Lies (written hs ++ written gs) := by
  induction gs generalizing hs with
  | nil => simp [tokensFrom]
  | cons g gs ih =>
    have head := valid g (by simp)
    have step := @ih (hs ++ [g]) (by
      intro h hh
      rcases List.mem_append.mp hh with hh | hh
      · exact earlier h hh
      · exact List.mem_singleton.mp hh ▸ head) fun h hh => valid h (by simp [hh])
    have grown : (written (hs ++ [g])).length = (written hs).length + g.width := by
      simp [written_append, g.length_source]
    rw [grown] at step
    simp only [written_append, written_cons, written_nil, List.append_nil,
      List.append_assoc] at step
    exact pushGlyph_lies earlier head (tokensFrom_contiguous _ gs) step

/-! ## Whole templates -/

/-- What the tokens between the two ends of a template are. -/
structure Tokenized (source : List Char) (tokens : List Token) : Prop where
  inner : ∀ t ∈ tokens, t.kind.IsInner
  contiguous : Contiguous 0 tokens source.length
  lies : ∀ t ∈ tokens, t.Lies source

theorem tokenize_sound {source : List Char} {all : List Token} (h : tokenize source = .ok all) :
    ∃ tokens, all = edgeToken .lineStart 0 :: (tokens ++ [edgeToken .lineEnd source.length]) ∧
      Tokenized source tokens := by
  obtain ⟨gs, same, valid, rfl⟩ := glyphs_of_tokenize h
  refine ⟨tokensFrom 0 gs, rfl, tokensFrom_inner 0 gs, ?_, ?_⟩
  · have := tokensFrom_contiguous 0 gs
    rwa [← same, Nat.zero_add] at this
  · have := @tokensFrom_lies [] gs (by simp) valid
    simpa [← same] using this

end StepExpr.Template
