import StepExpr.Template.Token

/-!
# The glyphs of a template

A glyph is a character with the backslash that escapes it, if one does. The pass over a template
counts what it has read: the characters in its buffer and the backslashes that are in no token yet
reach from the start of the next token to where it stands. So it cuts a template into tokens as if
it had been given the glyphs one by one, with the position of each.

* `glyphs` pairs each escaping backslash with its character, or finds the first it cannot pair;
* `glyphs_eq_ok_iff`: the glyphs of a template are the valid glyphs that it is written as;
* `tokensFrom` joins neighbouring blanks, and neighbouring text;
* `Lexer.At` says what has been counted, and `Lexer.at_take` that each glyph keeps it so;
* `tokenize_eq`: the tokens of a template are those of its glyphs.
-/

namespace StepExpr.Template

/-- A character with the backslash that escapes it, if one does. -/
structure Glyph where
  char : Char
  escaped : Bool
  deriving DecidableEq, Repr

namespace Glyph

def kind (g : Glyph) : TokenKind :=
  if g.escaped then .text else .ofChar g.char

def source (g : Glyph) : List Char :=
  if g.escaped then ['\\', g.char] else [g.char]

def width (g : Glyph) : Nat := if g.escaped then 2 else 1

end Glyph

/-- Reads the part of a template that starts at `pos`. -/
def glyphs (pos : Nat) : List Char → Except EscapeError (List Glyph)
  | [] => .ok []
  | ['\\'] => .error (.nothingToEscape pos)
  | '\\' :: c :: rest =>
    if canEscape c then (glyphs (pos + 2) rest).map (⟨c, true⟩ :: ·)
    else .error (.cantEscape (pos + 1))
  | c :: rest => (glyphs (pos + 1) rest).map (⟨c, false⟩ :: ·)

/-- Puts a glyph that starts at `pos` in front of the tokens after it. -/
def pushGlyph (pos : Nat) (g : Glyph) : List Token → List Token
  | [] => [⟨g.kind, [g.char], g.source, ⟨pos, pos + g.width⟩⟩]
  | t :: ts =>
    if t.kind = g.kind ∧ g.kind.isRun then
      ⟨g.kind, g.char :: t.text, g.source ++ t.source, ⟨pos, t.span.stop⟩⟩ :: ts
    else ⟨g.kind, [g.char], g.source, ⟨pos, pos + g.width⟩⟩ :: t :: ts

/-- The tokens of glyphs that start at `pos`. -/
def tokensFrom (pos : Nat) : List Glyph → List Token
  | [] => []
  | g :: gs => pushGlyph pos g (tokensFrom (pos + g.width) gs)

/-! ## Results -/

theorem map_ok {α β ε : Type} {f : α → β} {x : Except ε α} {y : β} (h : x.map f = .ok y) :
    ∃ a, x = .ok a ∧ f a = y := by
  cases x with
  | error e => cases h
  | ok a => exact ⟨a, rfl, Except.ok.inj h⟩

theorem exists_map_ok_iff {α β ε : Type} {f : α → β} {x : Except ε α} :
    (∃ b, x.map f = .ok b) ↔ ∃ a, x = .ok a := by
  cases x <;> simp [Except.map]

theorem map_eq_error_iff {α β ε : Type} {f : α → β} {x : Except ε α} {e : ε} :
    x.map f = .error e ↔ x = .error e := by
  cases x <;> simp [Except.map]

/-! ## Glyphs -/

namespace Glyph

/-- Only some characters can be escaped, and a backslash has to be. -/
def Valid (g : Glyph) : Prop :=
  if g.escaped then canEscape g.char = true else g.char ≠ '\\'

theorem length_source (g : Glyph) : g.source.length = g.width := by
  unfold source width
  split <;> rfl

theorem width_pos (g : Glyph) : 0 < g.width := by
  unfold width
  split <;> omega

theorem eq_of_lt_width (g : Glyph) {pos : Nat} (inside : pos < g.width) :
    pos = 0 ∨ g.escaped = true ∧ pos = 1 := by
  unfold width at inside
  split at inside
  · rename_i escaped
    have : pos = 0 ∨ pos = 1 := by omega
    exact this.imp_right (⟨escaped, ·⟩)
  · exact .inl (by omega)

end Glyph

/-- The text that glyphs are written as. -/
def written (gs : List Glyph) : List Char := gs.flatMap Glyph.source

@[simp] theorem written_nil : written [] = [] := rfl

@[simp] theorem written_cons (g : Glyph) (gs : List Glyph) :
    written (g :: gs) = g.source ++ written gs := rfl

theorem written_append (gs hs : List Glyph) : written (gs ++ hs) = written gs ++ written hs := by
  simp [written]

/-- A valid glyph is read as itself. -/
theorem glyphs_source_append {g : Glyph} (valid : g.Valid) (pos : Nat) (cs : List Char) :
    glyphs pos (g.source ++ cs) = (glyphs (pos + g.width) cs).map (g :: ·) := by
  obtain ⟨c, escaped⟩ := g
  cases escaped with
  | true =>
    have able : canEscape c = true := by simpa [Glyph.Valid] using valid
    simp [Glyph.source, Glyph.width, glyphs, able]
  | false =>
    have other : c ≠ '\\' := by simpa [Glyph.Valid] using valid
    simp only [Glyph.source, Glyph.width, Bool.false_eq_true, if_false, List.cons_append,
      List.nil_append]
    rw [glyphs] <;> simp [other]

theorem glyphs_written {gs : List Glyph} (valid : ∀ g ∈ gs, g.Valid) (pos : Nat) :
    glyphs pos (written gs) = .ok gs := by
  induction gs generalizing pos with
  | nil => rfl
  | cons g gs ih =>
    obtain ⟨first, others⟩ := List.forall_mem_cons.mp valid
    rw [written_cons, glyphs_source_append first, ih others]
    rfl

theorem glyphs_sound {pos : Nat} {source : List Char} {gs : List Glyph}
    (h : glyphs pos source = .ok gs) : source = written gs ∧ ∀ g ∈ gs, g.Valid := by
  fun_induction glyphs pos source generalizing gs with
  | case1 => cases h; simp
  | case2 => cases h
  | case3 pos c rest able ih =>
    cases hr : glyphs (pos + 2) rest with
    | error e => simp [hr, Except.map] at h
    | ok hs =>
      obtain rfl : ⟨c, true⟩ :: hs = gs := by simpa [hr, Except.map] using h
      obtain ⟨same, valid⟩ := ih hr
      refine ⟨by simp [Glyph.source, same], ?_⟩
      intro g hg
      rcases List.mem_cons.mp hg with rfl | hg
      · simpa [Glyph.Valid] using able
      · exact valid g hg
  | case4 => cases h
  | case5 pos c rest notEnd notPair ih =>
    cases hr : glyphs (pos + 1) rest with
    | error e => simp [hr, Except.map] at h
    | ok hs =>
      obtain rfl : ⟨c, false⟩ :: hs = gs := by simpa [hr, Except.map] using h
      obtain ⟨same, valid⟩ := ih hr
      have other : c ≠ '\\' := by
        rintro rfl
        cases rest with
        | nil => exact notEnd rfl rfl
        | cons d rest => exact notPair d rest rfl rfl
      refine ⟨by simp [Glyph.source, same], ?_⟩
      intro g hg
      rcases List.mem_cons.mp hg with rfl | hg
      · simpa [Glyph.Valid] using other
      · exact valid g hg

theorem glyphs_eq_ok_iff {pos : Nat} {source : List Char} {gs : List Glyph} :
    glyphs pos source = .ok gs ↔ source = written gs ∧ ∀ g ∈ gs, g.Valid := by
  refine ⟨glyphs_sound, ?_⟩
  rintro ⟨rfl, valid⟩
  exact glyphs_written valid pos

/-! ## Joined tokens -/

/-- Puts a token in front of those after it. Neighbouring blanks are one token, and so is
neighbouring text. -/
def joinToken (t : Token) : List Token → List Token
  | [] => [t]
  | u :: us =>
    if u.kind = t.kind ∧ t.kind.isRun then
      ⟨t.kind, t.text ++ u.text, t.source ++ u.source, ⟨t.span.start, u.span.stop⟩⟩ :: us
    else t :: u :: us

/-- The token of a single glyph. -/
def Glyph.token (pos : Nat) (g : Glyph) : Token :=
  ⟨g.kind, [g.char], g.source, ⟨pos, pos + g.width⟩⟩

variable {t u : Token} {ts : List Token} {g : Glyph} {gs : List Glyph} {cs : List Char} {pos : Nat}

theorem pushGlyph_eq : pushGlyph pos g ts = joinToken (g.token pos) ts := by
  cases ts <;> rfl

theorem joinToken_single (single : t.kind.isRun = false) : joinToken t ts = t :: ts := by
  cases ts with
  | nil => rfl
  | cons u us => simp [joinToken, single]

/-- The first of joined tokens has the kind of the token that was put in front. -/
theorem exists_joinToken (t : Token) (ts : List Token) :
    ∃ v vs, joinToken t ts = v :: vs ∧ v.kind = t.kind := by
  cases ts with
  | nil => exact ⟨t, [], rfl, rfl⟩
  | cons u us =>
    rw [joinToken]
    split
    · exact ⟨_, us, rfl, rfl⟩
    · exact ⟨t, u :: us, rfl, rfl⟩

theorem joinToken_apart (apart : ¬ (u.kind = t.kind ∧ u.kind.isRun)) :
    joinToken t (joinToken u ts) = t :: joinToken u ts := by
  obtain ⟨v, vs, same, kind⟩ := exists_joinToken u ts
  rw [same, joinToken, if_neg]
  rintro ⟨equal, run⟩
  have other : u.kind = t.kind := kind.symm.trans equal
  exact apart ⟨other, other ▸ run⟩

/-- Two tokens of a run can be joined first. -/
theorem joinToken_run (same : u.kind = t.kind) (run : u.kind.isRun) :
    joinToken t (joinToken u ts) = joinToken
      ⟨u.kind, t.text ++ u.text, t.source ++ u.source, ⟨t.span.start, u.span.stop⟩⟩ ts := by
  rw [same] at run
  cases ts with
  | nil => simp [joinToken, same, run]
  | cons v vs =>
    by_cases joined : v.kind = t.kind
    · simp [joinToken, same, run, joined]
    · simp [joinToken, same, run, joined]

/-! ## Positions -/

/-- An escaped character is text. -/
theorem Glyph.width_of_kind (other : g.kind ≠ .text) : g.width = 1 := by
  unfold Glyph.width
  split
  · rename_i escaped
    exact absurd (by rw [Glyph.kind, if_pos escaped]) other
  · rfl

namespace Lexer

variable {chars : Array Char} {l : Lexer} {start : Nat}

/-- What stands at a position is in between what stands before and after it. -/
theorem extract_glyph (rest : chars.toList.drop pos = g.source ++ cs) :
    (chars.extract pos (pos + g.width)).toList = g.source ∧
      chars.toList.drop (pos + g.width) = cs := by
  constructor
  · rw [Array.toList_extract, List.extract_eq_take_drop, rest, Nat.add_sub_cancel_left,
      ← g.length_source, List.take_left]
  · rw [← List.drop_drop, rest, ← g.length_source, List.drop_left]

theorem extract_append_glyph (order : start ≤ pos)
    (rest : chars.toList.drop pos = g.source ++ cs) :
    (chars.extract start (pos + g.width)).toList = (chars.extract start pos).toList ++ g.source := by
  rw [← (extract_glyph rest).1, ← Array.toList_append, Array.extract_append_extract,
    Nat.min_eq_left order, Nat.max_eq_right (Nat.le_add_right pos g.width)]

/-! ## The pass -/

/-- The pass stands at a position, and no backslash is before it that escapes what comes next. From
the start of the next token on, all characters are in the buffer or counted as backslashes. -/
structure At (l : Lexer) (pos : Nat) : Prop where
  free : l.escaping = false
  counted : l.offset + l.buffered + l.escaped = pos
  escaped : l.kind ≠ .text → l.escaped = 0

/-- The pass behind a glyph. -/
def take (chars : Array Char) (l : Lexer) (g : Glyph) : Lexer :=
  { l with escaped := l.escaped + (g.width - 1) }.push chars g.kind g.char

/-- A token that is complete before the backslash of the next one stops where that backslash
stands. -/
theorem flush_at (h : l.At pos) (apart : ¬ (g.kind = l.kind ∧ g.kind.isRun)) :
    { l with escaped := l.escaped + (g.width - 1) }.flush chars =
      ⟨l.tokens.push (l.token chars pos), l.kind, false, #[], 0, g.width - 1, pos⟩ := by
  obtain ⟨free, counted, escaped⟩ := h
  have width := g.width_pos
  by_cases text : l.kind = .text
  · -- a glyph behind text is no text, so it has no backslash
    have narrow : g.width = 1 := by
      apply Glyph.width_of_kind
      intro kind
      exact apart ⟨kind.trans text.symm, by rw [kind]; rfl⟩
    simp [flush, token, text, narrow, free, counted]
  · have none := escaped text
    rw [none, Nat.add_zero] at counted
    simp [flush, token, text, none, free, counted]

/-- A glyph is read: it is counted, and joins the token that is being read if both are of one
run. -/
theorem at_take (h : l.At pos) (rest : chars.toList.drop pos = g.source ++ cs) :
    (l.take chars g).At (pos + g.width) ∧ 0 < (l.take chars g).buffered ∧
      ∀ ts, (l.take chars g).tokens.toList ++
          joinToken ((l.take chars g).token chars (pos + g.width)) ts =
        l.tokens.toList ++ joinToken (l.token chars pos) (pushGlyph pos g ts) := by
  have width := g.width_pos
  by_cases run : g.kind = l.kind ∧ g.kind.isRun
  · obtain ⟨free, counted, escaped⟩ := h
    have taken : l.take chars g = { l with
        kind := g.kind, escaping := false, buffer := l.buffer.push g.char,
        buffered := l.buffered + 1, escaped := l.escaped + (g.width - 1) } := by
      rw [take, push, if_pos run]
    rw [taken]
    refine ⟨⟨rfl, ?_, ?_⟩, Nat.succ_pos _, ?_⟩
    · dsimp only
      omega
    · intro other
      have none := escaped (run.1 ▸ other)
      have narrow := Glyph.width_of_kind other
      dsimp only
      omega
    · intro ts
      have order : l.offset ≤ pos := by omega
      rw [pushGlyph_eq, joinToken_run run.1 run.2]
      congr 2
      simp only [token, Glyph.token, Array.toList_push, extract_append_glyph order rest]
  · have taken : l.take chars g = ⟨l.tokens.push (l.token chars pos), g.kind, false, #[g.char], 1,
        g.width - 1, pos⟩ := by
      rw [take, push, if_neg run, flush_at h run]
      rfl
    rw [taken]
    refine ⟨⟨rfl, ?_, ?_⟩, Nat.one_pos, ?_⟩
    · dsimp only
      omega
    · intro other
      have narrow := Glyph.width_of_kind other
      dsimp only
      omega
    · intro ts
      rw [pushGlyph_eq, joinToken_apart run, Array.toList_push, List.append_assoc]
      simp only [token, Glyph.token, (extract_glyph rest).1]
      rfl

/-- Behind the last character only the token that is being read is left to complete. -/
theorem finish_at (h : l.At pos) (some : 0 < l.buffered) (last : chars.size = pos) :
    l.finish chars = .ok (l.tokens.toList ++ [l.token chars pos, edgeToken .lineEnd chars.size]) := by
  obtain ⟨free, counted, escaped⟩ := h
  have stop : l.offset + l.buffered + (if l.kind = .text then l.escaped else 0) = pos := by
    split
    · exact counted
    · rename_i other
      have none := escaped other
      omega
  simp [finish, some, flush, free, stop, last]

theorem step_backslash (free : l.escaping = false) :
    step chars l '\\' = .ok { l with escaping := true, escaped := l.escaped + 1 } := by
  simp [step, free]

/-- The characters of a glyph are read one by one. -/
theorem foldlM_glyph (free : l.escaping = false) (valid : g.Valid) :
    (g.source ++ cs).foldlM (step chars) l = cs.foldlM (step chars) (l.take chars g) := by
  obtain ⟨c, escaped⟩ := g
  cases escaped with
  | true =>
    have able : canEscape c = true := by simpa [Glyph.Valid] using valid
    have read : step chars { l with escaping := true, escaped := l.escaped + 1 } c =
        .ok (l.take chars ⟨c, true⟩) := by
      simp only [step, able, if_true, take, push, Glyph.kind, Glyph.width]
      split <;> rfl
    simp only [Glyph.source, if_true, List.cons_append, List.nil_append, List.foldlM_cons,
      step_backslash free, bind, Except.bind, read]
  | false =>
    have other : c ≠ '\\' := by simpa [Glyph.Valid] using valid
    have read : step chars l c = .ok (l.take chars ⟨c, false⟩) := by
      simp only [step, free, Bool.false_eq_true, if_false, if_neg other]
      rfl
    simp only [Glyph.source, Bool.false_eq_true, if_false, List.cons_append, List.nil_append,
      List.foldlM_cons, bind, Except.bind, read]

/-- From where the pass stands it makes the tokens of the glyphs that are left, the first of them
joined to what it has read, or it fails where the glyphs do. -/
def Agrees (l : Lexer) (chars : Array Char) (pos : Nat) (cs : List Char) : Prop :=
  cs.foldlM (step chars) l >>= finish chars = (glyphs pos cs).map fun gs => l.tokens.toList ++
    (joinToken (l.token chars pos) (tokensFrom pos gs) ++ [edgeToken .lineEnd chars.size])

theorem Agrees.glyph (stands : l.At pos) (valid : g.Valid)
    (whole : pos + (g.source ++ cs).length = chars.size)
    (rest : chars.toList.drop pos = g.source ++ cs)
    (next : ∀ {m : Lexer}, m.At (pos + g.width) → pos + g.width + cs.length = chars.size →
      chars.toList.drop (pos + g.width) = cs → (cs = [] → 0 < m.buffered) →
      m.Agrees chars (pos + g.width) cs) : l.Agrees chars pos (g.source ++ cs) := by
  rw [List.length_append, g.length_source, ← Nat.add_assoc] at whole
  obtain ⟨stands', some, joined⟩ := at_take stands rest
  have later := next stands' whole (extract_glyph rest).2 fun _ => some
  unfold Agrees at later ⊢
  rw [foldlM_glyph stands.free valid, later, glyphs_source_append valid]
  cases glyphs (pos + g.width) cs with
  | error e => rfl
  | ok gs =>
    simp only [Except.map, tokensFrom]
    rw [← List.append_assoc, joined, List.append_assoc]

/-- The pass makes the tokens of the glyphs from any position on. -/
theorem agrees (h : l.At pos) (whole : pos + cs.length = chars.size)
    (rest : chars.toList.drop pos = cs) (some : cs = [] → 0 < l.buffered) :
    l.Agrees chars pos cs := by
  fun_induction glyphs pos cs generalizing l with
  | case1 pos =>
    have last : chars.size = pos := whole.symm
    exact (finish_at h (some rfl) last).trans (by simp [glyphs, Except.map, tokensFrom, joinToken])
  | case2 pos =>
    have last : chars.size - 1 = pos := by
      rw [← whole]
      rfl
    simp only [Agrees, List.foldlM_cons, step_backslash h.free, List.foldlM_nil, bind, Except.bind,
      pure, Except.pure, glyphs, Except.map, finish, last]
    split <;> rfl
  | case3 pos c rest' able ih =>
    have valid : Glyph.Valid ⟨c, true⟩ := by simpa [Glyph.Valid] using able
    exact Agrees.glyph (g := ⟨c, true⟩) h valid whole rest ih
  | case4 pos c rest' unable =>
    have here : l.offset + l.buffered + (l.escaped + 1) = pos + 1 := by
      have := h.counted
      omega
    have failed : step chars { l with escaping := true, escaped := l.escaped + 1 } c =
        .error (.cantEscape (pos + 1)) := by
      simp only [step, unable, if_true, Bool.false_eq_true, if_false, here]
    simp only [Agrees, List.foldlM_cons, step_backslash h.free, failed, glyphs, unable,
      Bool.false_eq_true, if_false, Except.map, bind, Except.bind]
  | case5 pos c rest' notEnd notPair ih =>
    have other : c ≠ '\\' := by
      rintro rfl
      cases rest' with
      | nil => exact notEnd rfl rfl
      | cons d rest' => exact notPair d rest' rfl rfl
    have valid : Glyph.Valid ⟨c, false⟩ := by simpa [Glyph.Valid] using other
    exact Agrees.glyph (g := ⟨c, false⟩) h valid whole rest ih

end Lexer

/-- The pass cuts a template into the tokens of its glyphs, with an empty token at each end, or fails
where they do. -/
theorem tokenize_eq (source : List Char) : tokenize source =
    (glyphs 0 source).map fun gs =>
      edgeToken .lineStart 0 :: (tokensFrom 0 gs ++ [edgeToken .lineEnd source.length]) := by
  cases source with
  | nil => rfl
  | cons c cs =>
    have start : (Lexer.initial (c :: cs).toArray).At 0 := ⟨rfl, rfl, fun _ => rfl⟩
    have all : (Lexer.initial (c :: cs).toArray).Agrees (c :: cs).toArray 0 (c :: cs) :=
      Lexer.agrees start (Nat.zero_add _) rfl nofun
    refine all.trans ?_
    congr 1
    funext gs
    exact congrArg (· ++ [edgeToken .lineEnd (c :: cs).length]) (joinToken_single rfl)

theorem tokenize_written (valid : ∀ g ∈ gs, g.Valid) : tokenize (written gs) =
    .ok (edgeToken .lineStart 0 :: (tokensFrom 0 gs ++ [edgeToken .lineEnd (written gs).length])) := by
  rw [tokenize_eq, glyphs_written valid]
  rfl

/-- A template that cuts into tokens is written as valid glyphs, and its tokens are theirs. -/
theorem glyphs_of_tokenize {source : List Char} {tokens : List Token}
    (h : tokenize source = .ok tokens) : ∃ gs, source = written gs ∧ (∀ g ∈ gs, g.Valid) ∧
      tokens = edgeToken .lineStart 0 ::
        (tokensFrom 0 gs ++ [edgeToken .lineEnd source.length]) := by
  rw [tokenize_eq] at h
  obtain ⟨gs, cut, rfl⟩ := map_ok h
  obtain ⟨same, valid⟩ := glyphs_eq_ok_iff.mp cut
  exact ⟨gs, same, valid, rfl⟩

end StepExpr.Template
