import StepExpr.Proofs.Template.Reading

/-!
# What the rules read

The rules of a template read the items of its tokens, or report the first problem that a pass over
the tokens finds.

* `parseUntil_reads`: rules that read one item right read any number of items right;
* `parseUntil_optional`: what stands in an optional;
* `parseUntil_alternatives`: what an alternation is tried on.
-/

namespace StepExpr.Template

/-! ## Lines -/

/-- The tokens of a template from `pos` on, the end of the line with them. -/
inductive Line : Nat → List Token → Prop where
  | last {t} : t.kind = .lineEnd → Line t.span.start [t]
  | cons {t ts} : t.kind.IsInner → t.span.start < t.span.stop → Line t.span.stop ts →
      Line t.span.start (t :: ts)

theorem Line.length_pos {pos : Nat} {tokens : List Token} (h : Line pos tokens) :
    0 < tokens.length := by
  cases h <;> simp

/-- Only the last token is the end of the line. -/
theorem Line.tail {pos : Nat} {t : Token} {ts : List Token} (h : Line pos (t :: ts))
    (hl : t.kind ≠ .lineEnd) : t.kind.IsInner ∧ Line t.span.stop ts := by
  cases h with
  | last he => exact absurd he hl
  | cons inner _ rest => exact ⟨inner, rest⟩

theorem Contiguous.line {pos stop : Nat} {tokens : List Token} {last : Token}
    (h : Contiguous pos tokens stop) (inner : ∀ t ∈ tokens, t.kind.IsInner)
    (hk : last.kind = .lineEnd) (hs : last.span.start = stop) : Line pos (tokens ++ [last]) := by
  induction tokens generalizing pos with
  | nil =>
    obtain rfl : pos = stop := h
    exact hs ▸ .last hk
  | cons t ts ih =>
    obtain ⟨rfl, shorter, rest⟩ := h
    exact .cons (inner t (by simp)) shorter (ih rest fun u hu => inner u (by simp [hu]))

theorem Line.split {pos : Nat} {xs ys : List Token} (h : Line pos (xs ++ ys))
    (hx : ∀ t ∈ xs, t.kind ≠ .lineEnd) : ∃ mid, Contiguous pos xs mid ∧ Line mid ys := by
  induction xs generalizing pos with
  | nil => exact ⟨pos, rfl, h⟩
  | cons t xs ih =>
    rw [List.cons_append] at h
    generalize hz : xs ++ ys = zs at h
    cases h with
    | last hk => exact absurd hk (hx t (by simp))
    | cons _ shorter rest =>
      obtain ⟨mid, before, after⟩ := ih (hz ▸ rest) fun u hu => hx u (by simp [hu])
      exact ⟨mid, ⟨rfl, shorter, before⟩, after⟩

theorem Reads.not_lineEnd {p : Place} {ts : List Token} {items : List Item} (h : Reads p ts items) :
    ∀ t ∈ ts, t.kind ≠ .lineEnd := by
  induction h with
  | nil => simp
  | text hk _ ih =>
    refine List.forall_mem_cons.mpr ⟨fun he => ?_, ih⟩
    simp [Place.IsText, he] at hk
  | slash hk _ ih => exact List.forall_mem_cons.mpr ⟨by simp [hk], ih⟩
  | optional hk _ hl _ ihin ih =>
    refine List.forall_mem_cons.mpr ⟨by simp [hk], List.forall_mem_append.mpr ⟨ihin, ?_⟩⟩
    exact List.forall_mem_cons.mpr ⟨by simp [hl], ih⟩
  | parameter hk hn hl _ ih =>
    refine List.forall_mem_cons.mpr ⟨by simp [hk], List.forall_mem_append.mpr ⟨?_, ?_⟩⟩
    · intro t ht
      rcases hn t ht with hk | hk <;> simp [hk]
    · exact List.forall_mem_cons.mpr ⟨by simp [hl], ih⟩

theorem Reads.kind_head {p : Place} {t : Token} {ts : List Token} {item : Item} {items : List Item}
    (h : Reads p (t :: ts) (item :: items)) : item.kind = t.kind := by
  cases h with
  | text => rfl
  | slash hk => exact hk.symm
  | optional hk => exact hk.symm
  | parameter hk => exact hk.symm

/-! ## Readings -/

/-- A reading of the first item, or the first problem. -/
def ReadsFirst (p : Place) (tokens : List Token) : Reading → Prop
  | .ok (some (taken, piece)) => ∃ chunk rest item, tokens = chunk ++ rest ∧
      taken = chunk.length ∧ piece = item.piece ∧ Reads p chunk [item]
  | .ok none => False
  | .error problem => ∀ opened, p.Opens opened →
      Scan.run ⟨opened, none⟩ tokens = .error problem

/-- A reading of all items up to a token of a kind in `stops`, or the first problem. -/
def ReadsUntil (p : Place) (stops : List TokenKind) (tokens : List Token) :
    Except Problem (Nat × List Piece) → Prop
  | .ok (taken, pieces) => ∃ chunk items t rest, tokens = chunk ++ t :: rest ∧
      taken = chunk.length ∧ pieces = items.map Item.piece ∧ Reads p chunk items ∧
      stops.contains t.kind = true ∧ ∀ item ∈ items, stops.contains item.kind = false
  | .error problem => ∀ opened, p.Opens opened →
      Scan.run ⟨opened, none⟩ tokens = .error problem

section
variable {apply : Rule → Reading} {rule : Rule} {rules : List Rule}

theorem firstReading_skip (h : apply rule = .ok none) :
    firstReading apply (rule :: rules) = firstReading apply rules := by
  rw [firstReading, h]

theorem firstReading_error {problem : Problem} (h : apply rule = .error problem) :
    firstReading apply (rule :: rules) = .error problem := by
  rw [firstReading, h]

theorem firstReading_some {reading : Nat × Piece} (h : apply rule = .ok (some reading)) :
    firstReading apply (rule :: rules) = .ok (some reading) := by
  rw [firstReading, h]

/-- The first rule reads the first item, so the others are not tried. -/
theorem readsFirst_cons {p : Place} {tokens : List Token} (h : ReadsFirst p tokens (apply rule)) :
    ReadsFirst p tokens (firstReading apply (rule :: rules)) := by
  cases hr : apply rule with
  | error problem => rwa [firstReading_error hr, ← hr]
  | ok reading =>
    cases reading with
    | none => rw [hr] at h; exact h.elim
    | some reading => rwa [firstReading_some hr, ← hr]

end

section
variable (fuel : Nat) (previous : TokenKind)

theorem applyRule_text (tokens : List Token) :
    applyRule (fuel + 1) .text previous tokens = readText tokens := by
  rw [applyRule]

theorem applyRule_name (tokens : List Token) :
    applyRule (fuel + 1) .name previous tokens = readName tokens := by
  rw [applyRule]

theorem applyRule_separator (tokens : List Token) :
    applyRule (fuel + 1) .separator previous tokens = readSeparator tokens := by
  rw [applyRule]

theorem applyRule_between_skip {part : Part} {t : Token} (h : t.kind ≠ part.opener)
    (ts : List Token) : applyRule (fuel + 1) (.between part) previous (t :: ts) = .ok none := by
  rw [applyRule]
  simp [h]

end

theorem Reads.ne_nil {p : Place} {ts : List Token} {item : Item} {items : List Item}
    (h : Reads p ts (item :: items)) : ts ≠ [] := by
  rintro rfl
  cases h

/-- The first item starts with the first token. -/
theorem Reads.kind_first {p : Place} {t : Token} {ts chunk rest : List Token} {item : Item}
    {items : List Item} (reads : Reads p chunk (item :: items)) (same : t :: ts = chunk ++ rest) :
    item.kind = t.kind := by
  obtain ⟨u, chunk, rfl⟩ := List.exists_cons_of_ne_nil reads.ne_nil
  obtain ⟨rfl, -⟩ := List.cons.inj same
  exact reads.kind_head

/-- One item and what follows it, read one after the other. -/
theorem ReadsUntil.prepend {p : Place} {stops : List TokenKind} {tokens chunk rest : List Token}
    {item : Item} (reads : Reads p chunk [item]) (same : tokens = chunk ++ rest)
    (goes : stops.contains item.kind = false) (result : Except Problem (Nat × List Piece)) :
    ReadsUntil p stops rest result → ReadsUntil p stops tokens
      (match result with
      | .error problem => .error problem
      | .ok (more, pieces) => .ok (chunk.length + more, item.piece :: pieces)) := by
  intro tail
  cases result with
  | error problem =>
    intro opened ho
    rw [same, reads.scan ho]
    exact tail opened ho
  | ok result =>
    obtain ⟨more, pieces⟩ := result
    obtain ⟨chunk', items, u, after, rfl, rfl, rfl, reads', stop, others⟩ := tail
    refine ⟨chunk ++ chunk', item :: items, u, after, ?_, by simp, rfl, reads.append reads', stop,
      List.forall_mem_cons.mpr ⟨goes, others⟩⟩
    rw [same, List.append_assoc]

/-- Rules that read one item right read all items up to a stop right. The fuel bounds are twice the
number of tokens, since a rule that enters an optional takes two calls for its parenthesis. -/
theorem parseUntil_reads {p : Place} {rules : List Rule} {stops : List TokenKind} {n : Nat}
    (first : ∀ fuel previous pos t ts, ts.length < n → 2 * ts.length < fuel → Line pos (t :: ts) →
      stops.contains t.kind = false →
      ReadsFirst p (t :: ts)
        (firstReading (fun rule => applyRule fuel rule previous (t :: ts)) rules))
    {fuel : Nat} (previous : TokenKind) {pos : Nat} {tokens : List Token} (hn : tokens.length ≤ n)
    (hf : 2 * tokens.length ≤ fuel) (line : Line pos tokens) :
    ReadsUntil p stops tokens (parseUntil fuel rules stops previous tokens) := by
  induction fuel generalizing previous pos tokens with
  | zero => cases line <;> simp at hf
  | succ fuel ih =>
    cases tokens with
    | nil => cases line
    | cons t ts =>
      rw [List.length_cons] at hn hf
      rw [parseUntil]
      by_cases hs : stops.contains t.kind = true
      · rw [if_pos hs]
        exact ⟨[], [], t, ts, rfl, rfl, rfl, .nil, hs, by simp⟩
      · rw [if_neg hs]
        have hs := Bool.eq_false_iff.mpr hs
        have head := first fuel previous pos t ts (by omega) (by omega) line hs
        cases hr : firstReading (fun rule => applyRule fuel rule previous (t :: ts)) rules with
        | error problem =>
          rw [hr] at head
          exact head
        | ok reading =>
          rw [hr] at head
          cases reading with
          | none => exact head.elim
          | some reading =>
            obtain ⟨taken, piece⟩ := reading
            obtain ⟨chunk, rest, item, same, rfl, rfl, reads⟩ := head
            have longer : 0 < chunk.length := List.length_pos_iff.mpr reads.ne_nil
            have total := congrArg List.length same
            rw [List.length_cons, List.length_append] at total
            obtain ⟨mid, -, after⟩ := (same ▸ line).split reads.not_lineEnd
            have tail := ih (kindBefore previous (t :: ts) chunk.length) (by omega) (by omega) after
            have dropped : (t :: ts).drop chunk.length = rest := by rw [same, List.drop_left]
            simp only [dropped]
            exact .prepend reads same (reads.kind_first same ▸ hs) _ tail

/-! ## Parameters -/

theorem parseUntil_name {fuel : Nat} (previous : TokenKind) {pos : Nat} {tokens : List Token}
    (hf : tokens.length < fuel) (line : Line pos tokens) :
    ∃ name t rest, tokens = name ++ t :: rest ∧ (∀ u ∈ name, IsName u) ∧ ¬ IsName t ∧
      parseUntil fuel Part.parameter.rules [.parameterEnd, .lineEnd] previous tokens =
        if t.kind = .parameterEnd ∨ t.kind = .lineEnd then
          .ok (name.length, name.map fun u => .node (textNode u))
        else .error ⟨.reservedInName, t.span⟩ := by
  induction line generalizing fuel previous with
  | @last t hk =>
    obtain ⟨fuel, rfl⟩ : ∃ k, fuel = k + 1 := ⟨fuel - 1, by omega⟩
    exact ⟨[], t, [], rfl, by simp, by simp [IsName, hk], by simp [parseUntil, hk]⟩
  | @cons t ts inner _ line ih =>
    rw [List.length_cons] at hf
    obtain ⟨fuel, rfl⟩ : ∃ k, fuel = k + 2 := ⟨fuel - 2, by omega⟩
    by_cases hn : IsName t
    · obtain ⟨name, u, rest, rfl, hname, hu, result⟩ := @ih (fuel + 1) t.kind (by omega)
      refine ⟨t :: name, u, rest, rfl, List.forall_mem_cons.mpr ⟨hn, hname⟩, hu, ?_⟩
      have reading : readName (t :: (name ++ u :: rest)) = .ok (some (1, .node (textNode t))) := by
        rcases hn with hk | hk <;> simp [readName, hk, textNode]
      have more : [TokenKind.parameterEnd, .lineEnd].contains t.kind = false := by
        rcases hn with hk | hk <;> simp [hk]
      rw [parseUntil, more, Part.rules,
        firstReading_some ((applyRule_name fuel previous _).trans reading)]
      simp only [Part.rules] at result
      simp only [Bool.false_eq_true, if_false, kindBefore, List.take_succ_cons, List.take_zero,
        List.getLast?_singleton, List.drop_succ_cons, List.drop_zero, result]
      by_cases hc : u.kind = .parameterEnd ∨ u.kind = .lineEnd <;> simp [hc, Nat.add_comm]
    · refine ⟨[], t, ts, rfl, by simp, hn, ?_⟩
      have reading : t.kind ≠ .parameterEnd →
          readName (t :: ts) = .error ⟨.reservedInName, t.span⟩ := by
        intro he
        obtain ⟨hstart, hend⟩ := inner
        cases hk : t.kind <;> simp_all [IsName, readName]
      by_cases he : t.kind = .parameterEnd
      · simp [parseUntil, he]
      · have more : [TokenKind.parameterEnd, .lineEnd].contains t.kind = false := by
          simp [he, inner.2]
        rw [parseUntil, more, Part.rules,
          firstReading_error ((applyRule_name fuel previous _).trans (reading he))]
        simp [he, inner.2]

theorem readsFirst_parameter {p : Place} {fuel : Nat} (previous : TokenKind) {pos : Nat}
    {t : Token} {ts : List Token} (hf : ts.length < fuel) (line : Line pos (t :: ts))
    (hk : t.kind = .parameterBegin) :
    ReadsFirst p (t :: ts) (applyRule (fuel + 1) (.between .parameter) previous (t :: ts)) := by
  have tail := (line.tail (by simp [hk])).2
  obtain ⟨name, u, rest, rfl, hname, hu, result⟩ := parseUntil_name t.kind hf tail
  have entered (opened : List Token) : Scan.run ⟨opened, none⟩ (t :: (name ++ u :: rest)) =
      Scan.run ⟨opened, some t⟩ (u :: rest) := by
    rw [Scan.run_cons_ok (r := ⟨opened, some t⟩) (by simp [Scan.step, hk]), Scan.run_name hname]
  rw [applyRule]
  simp only [Part.opener, hk, ne_eq, not_true_eq_false, if_false, Part.closer]
  rw [hk] at result
  rw [result]
  by_cases hp : u.kind = .parameterEnd
  · simp only [hp, true_or, if_true, List.drop_left, List.head?_cons]
    refine ⟨t :: (name ++ [u]), rest, .parameter (name.map textNode) ⟨t.span.start, u.span.stop⟩,
      by simp, by simp, ?_, .parameter hk hname hp .nil⟩
    simp only [Item.piece, Part.nodeKind]
    congr 2
    simp [List.filterMap_map, Function.comp_def, Piece.node?]
  · by_cases hl : u.kind = .lineEnd
    · simp only [hl, or_true, if_true, List.drop_left, List.head?_cons]
      intro opened _
      rw [entered, Scan.run_cons_error]
      simp [Scan.step, hl]
    · simp only [hp, hl, or_self, if_false]
      intro opened _
      rw [entered, Scan.run_cons_error]
      obtain ⟨mid, -, after⟩ := tail.split (by
        intro v hv
        rcases hname v hv with hk | hk <;> simp [hk])
      obtain ⟨hstart, hend⟩ := (after.tail hl).1
      simp only [IsName, not_or] at hu
      cases hk : u.kind <;> simp_all [Scan.step]

/-! ## Optionals -/

/-- The rules that hold everywhere, in and out of optionals. -/
def contentRules : List Rule := [.between .optional, .between .parameter, .text]

theorem readsFirst_optional {p : Place} {fuel : Nat} (previous : TokenKind) {t : Token}
    {ts : List Token} (hk : t.kind = .optionalBegin)
    (inside : ReadsUntil .optional [.optionalEnd, .lineEnd] ts
      (parseUntil fuel contentRules [.optionalEnd, .lineEnd] t.kind ts)) :
    ReadsFirst p (t :: ts) (applyRule (fuel + 1) (.between .optional) previous (t :: ts)) := by
  rw [applyRule]
  simp only [Part.opener, hk, ne_eq, not_true_eq_false, if_false, Part.closer, Part.rules]
  rw [hk, contentRules] at inside
  cases hu : parseUntil fuel [.between .optional, .between .parameter, .text]
      [.optionalEnd, .lineEnd] .optionalBegin ts with
  | error problem =>
    rw [hu] at inside
    intro opened _
    rw [Scan.run_cons_ok (r := ⟨t :: opened, none⟩) (by simp [Scan.step, hk])]
    exact inside (t :: opened) (by simp [Place.Opens])
  | ok result =>
    obtain ⟨taken, pieces⟩ := result
    rw [hu] at inside
    obtain ⟨chunk, items, u, rest, rfl, rfl, rfl, reads, stop, -⟩ := inside
    simp only [List.drop_left, List.head?_cons]
    by_cases hp : u.kind = .optionalEnd
    · simp only [hp, if_true]
      refine ⟨t :: (chunk ++ [u]), rest,
        .optional (items.filterMap Item.node?) ⟨t.span.start, u.span.stop⟩, by simp, by simp, ?_,
        .optional hk reads hp .nil⟩
      simp only [Item.piece, Part.nodeKind]
      congr 2
      rw [List.filterMap_map]
      exact congrArg (List.filterMap · items) (funext Item.node?_piece)
    · simp only [hp, if_false]
      have hl : u.kind = .lineEnd := by simpa [hp] using stop
      intro opened _
      rw [Scan.run_cons_ok (r := ⟨t :: opened, none⟩) (by simp [Scan.step, hk]),
        reads.scan (by simp [Place.Opens]), Scan.run_cons_error]
      simp [Scan.step, hl]

/-- An item that is no slash, outside of optionals, and no closing parenthesis, inside. -/
theorem readsFirst_content {p : Place} {n fuel : Nat} (previous : TokenKind) {pos : Nat} {t : Token}
    {ts : List Token} (hn : ts.length ≤ n) (hf : 2 * ts.length < fuel) (line : Line pos (t :: ts))
    (hl : t.kind ≠ .lineEnd) (hs : t.kind = .alternation → p = .optional)
    (he : t.kind = .optionalEnd → p = .line)
    (inside : ∀ fuel previous pos ts, ts.length ≤ n → 2 * ts.length ≤ fuel → Line pos ts →
      ReadsUntil .optional [.optionalEnd, .lineEnd] ts
        (parseUntil fuel contentRules [.optionalEnd, .lineEnd] previous ts)) :
    ReadsFirst p (t :: ts)
      (firstReading (fun rule => applyRule fuel rule previous (t :: ts)) contentRules) := by
  obtain ⟨fuel, rfl⟩ : ∃ k, fuel = k + 1 := ⟨fuel - 1, by omega⟩
  obtain ⟨inner, tail⟩ := line.tail hl
  have longer := tail.length_pos
  have asText (hk : p.IsText t.kind) : ReadsFirst p (t :: ts)
      (.ok (some (1, .node (.text t.text t.span)))) :=
    ⟨[t], ts, .text t, rfl, rfl, rfl, .text hk .nil⟩
  have hstart := inner.1
  have skip (part : Part) (h : t.kind ≠ part.opener) := applyRule_between_skip fuel previous h ts
  have read (h : t.kind ≠ .optionalBegin) (g : t.kind ≠ .parameterBegin)
      (hr : ReadsFirst p (t :: ts) (readText (t :: ts))) : ReadsFirst p (t :: ts)
        (firstReading (fun rule => applyRule (fuel + 1) rule previous (t :: ts)) contentRules) := by
    rw [contentRules, firstReading_skip (skip .optional h), firstReading_skip (skip .parameter g)]
    exact readsFirst_cons (applyRule_text fuel previous (t :: ts) ▸ hr)
  cases hk : t.kind with
  | lineStart => exact absurd hk hstart
  | lineEnd => exact absurd hk hl
  | blank =>
    exact read (by simp [hk]) (by simp [hk]) (by simpa [readText, hk] using asText (.inl hk))
  | text =>
    exact read (by simp [hk]) (by simp [hk]) (by simpa [readText, hk] using asText (.inr (.inl hk)))
  | parameterEnd =>
    exact read (by simp [hk]) (by simp [hk])
      (by simpa [readText, hk] using asText (.inr (.inr (.inl hk))))
  | optionalEnd =>
    exact read (by simp [hk]) (by simp [hk])
      (by simpa [readText, hk] using asText (.inr (.inr (.inr ⟨hk, he hk⟩))))
  | alternation =>
    obtain rfl := hs hk
    refine read (by simp [hk]) (by simp [hk]) ?_
    simp only [readText, hk]
    intro opened ho
    have some : opened ≠ [] := ho.mp rfl
    exact Scan.run_cons_error (by simp [Scan.step, hk, some]) ts
  | optionalBegin =>
    exact readsFirst_cons (readsFirst_optional previous hk
      (inside fuel t.kind t.span.stop ts hn (by omega) tail))
  | parameterBegin =>
    rw [contentRules, firstReading_skip (skip .optional (by simp [hk, Part.opener]))]
    exact readsFirst_cons (readsFirst_parameter previous (by omega) line hk)

theorem parseUntil_optional {n fuel : Nat} (previous : TokenKind) {pos : Nat} {tokens : List Token}
    (hn : tokens.length ≤ n) (hf : 2 * tokens.length ≤ fuel) (line : Line pos tokens) :
    ReadsUntil .optional [.optionalEnd, .lineEnd] tokens
      (parseUntil fuel contentRules [.optionalEnd, .lineEnd] previous tokens) := by
  induction n generalizing fuel previous pos tokens with
  | zero => cases line <;> simp at hn
  | succ n ih =>
    refine parseUntil_reads ?_ previous hn hf line
    intro fuel previous pos t ts hn hf line hs
    have hs : t.kind ≠ .optionalEnd ∧ t.kind ≠ .lineEnd := by simpa using hs
    exact readsFirst_content previous (Nat.le_of_lt_succ hn) hf line hs.2 (fun _ => rfl)
      (fun he => absurd he hs.1) fun _ previous _ _ hn hf line => ih previous hn hf line

/-- An item outside of optionals that is no slash. -/
theorem readsFirst_line {fuel : Nat} (previous : TokenKind) {pos : Nat} {t : Token}
    {ts : List Token} (hf : 2 * ts.length < fuel) (line : Line pos (t :: ts))
    (hl : t.kind ≠ .lineEnd) (hs : t.kind ≠ .alternation) :
    ReadsFirst .line (t :: ts)
      (firstReading (fun rule => applyRule fuel rule previous (t :: ts)) contentRules) :=
  readsFirst_content previous (Nat.le_refl _) hf line hl (fun h => absurd h hs) (fun _ => rfl)
    fun _ previous _ _ hn hf line => parseUntil_optional previous hn hf line

/-! ## Alternatives -/

theorem parseUntil_alternatives {fuel : Nat} (previous : TokenKind) {pos : Nat}
    {tokens : List Token} (hf : 2 * tokens.length ≤ fuel) (line : Line pos tokens) :
    ReadsUntil .line alternationStops tokens
      (parseUntil fuel alternativeRules alternationStops previous tokens) := by
  refine parseUntil_reads ?_ previous (Nat.le_refl _) hf line
  intro fuel previous pos t ts _ hf line hs
  have hs : t.kind ≠ .blank ∧ t.kind ≠ .lineEnd ∧ t.kind ≠ .parameterBegin := by
    simpa [alternationStops] using hs
  obtain ⟨fuel, rfl⟩ : ∃ k, fuel = k + 1 := ⟨fuel - 1, by omega⟩
  rw [show alternativeRules = .separator :: contentRules from rfl]
  by_cases hk : t.kind = .alternation
  · refine readsFirst_cons ?_
    rw [applyRule_separator, readSeparator, if_pos hk]
    exact ⟨[t], ts, .slash t, rfl, rfl, rfl, .slash hk .nil⟩
  · rw [firstReading_skip (by rw [applyRule_separator, readSeparator, if_neg hk])]
    exact readsFirst_line previous hf line hs.2.1 hk

end StepExpr.Template
