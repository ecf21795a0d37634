import StepExpr.Proofs.Template.Tree

/-!
# Reading whole lines

The rules of a whole template try an alternation wherever one may begin, and drop the attempt where
it meets no slash. What they read are the nodes of the items all the same.

* `FreeAhead` holds inside a run where an attempt was dropped, and keeps the later items of the run
  from becoming an alternation;
* `parseUntil_line`: the rules read the nodes of the items that the tokens are;
* `parse_ok`, `parse_error`: what a template is parsed to, and what is reported.
-/

namespace StepExpr.Template

/-! ## Inside a run -/

/-- A run without slashes ends `tokens`, or stands before what ends a run. -/
def FreeAhead (tokens : List Token) : Prop :=
  ∃ run items t rest, tokens = run ++ t :: rest ∧ Reads .line run items ∧
    (∀ item ∈ items, alternationStops.contains item.kind = false ∧ item.isSlash = false) ∧
    alternationStops.contains t.kind = true

/-- What the rules of a whole template read of the tokens that are left. -/
def ReadsLine (tokens : List Token) : Except Problem (Nat × List Piece) → Prop
  | .ok (taken, pieces) => ∃ body last items, tokens = body ++ [last] ∧ taken = body.length ∧
      last.kind = .lineEnd ∧ Reads .line body items ∧
      pieces.filterMap Piece.node? = nodesOf [] items
  | .error problem => Scan.run ⟨[], none⟩ tokens = .error problem

theorem uncut_of_stops {item : Item} (h : alternationStops.contains item.kind = false) :
    item.isCut = false := by
  simp only [alternationStops, List.contains_cons, List.contains_nil, Bool.or_eq_false_iff,
    beq_eq_false_iff_ne] at h
  simp [Item.isCut, h.1, h.2.2.1]

theorem FreeAhead.of_cons {t : Token} {ts : List Token} (h : FreeAhead (t :: ts))
    (goes : alternationStops.contains t.kind = false) :
    ∃ run items u rest, ts = run ++ u :: rest ∧ Reads .line (t :: run) items ∧
      (∀ item ∈ items, alternationStops.contains item.kind = false ∧ item.isSlash = false) ∧
      alternationStops.contains u.kind = true := by
  obtain ⟨run, items, u, rest, same, reads, free, stop⟩ := h
  cases run with
  | nil =>
    obtain ⟨rfl, -⟩ := List.cons.inj same
    rw [goes] at stop
    cases stop
  | cons v run =>
    obtain ⟨rfl, rfl⟩ := List.cons.inj same
    exact ⟨run, items, u, rest, rfl, reads, free, stop⟩

theorem FreeAhead.not_slash {t : Token} {ts : List Token} (h : FreeAhead (t :: ts)) :
    t.kind ≠ .alternation := by
  intro hk
  obtain ⟨run, items, u, rest, rfl, reads, free, -⟩ := h.of_cons (by simp [hk, alternationStops])
  obtain ⟨more, rfl, -⟩ := reads.of_slash hk
  simpa [Item.isSlash] using (free _ List.mem_cons_self).2

/-- After one item, the next attempt at an alternation is either allowed again, or still has no
slash ahead. -/
theorem FreeAhead.advance {previous : TokenKind} {tokens chunk rest : List Token} {item : Item}
    (h : FreeAhead tokens) (reads : Reads .line chunk [item]) (same : tokens = chunk ++ rest) :
    canPrecedeAlternation (kindBefore previous tokens chunk.length) = true ∨ FreeAhead rest := by
  have before : kindBefore previous tokens chunk.length =
      (chunk.getLast?.map Token.kind).getD previous := by
    rw [same, kindBefore, List.take_left]
    cases chunk.getLast? <;> rfl
  rw [before]
  subst same
  cases reads with
  | @text _ t ts _ hk hts =>
    cases hts
    by_cases hb : t.kind = .blank
    · exact .inl (by simp [hb, canPrecedeAlternation])
    · have goes : alternationStops.contains t.kind = false := by
        rcases hk with hk | hk | hk | ⟨hk, -⟩
        · exact absurd hk hb
        all_goals simp [hk, alternationStops]
      obtain ⟨run, items, u, after, rfl, runs, free, stop⟩ := h.of_cons goes
      obtain ⟨more, rfl, others⟩ := runs.of_text hk
      exact .inr ⟨run, more, u, after, rfl, others, fun i hi => free i (by simp [hi]), stop⟩
  | slash hk => exact absurd hk h.not_slash
  | optional hk hin hl hts =>
    cases hts
    simp only [List.cons_append, List.append_assoc, List.nil_append] at h
    obtain ⟨run, items, u, after, same, runs, free, stop⟩ :=
      h.of_cons (by simp [hk, alternationStops])
    obtain ⟨inside, last, run, within, more, rfl, gl, gin, others, rfl⟩ := runs.of_optional hk
    simp only [List.cons_append, List.append_assoc] at same
    obtain ⟨rfl, -⟩ := hin.unique_append gin same (.inr ⟨rfl, hl⟩) (.inr ⟨rfl, gl⟩)
    obtain ⟨rfl, rfl⟩ := List.cons.inj (List.append_cancel_left same)
    exact .inr ⟨run, more, u, after, rfl, others, fun i hi => free i (by simp [hi]), stop⟩
  | parameter _ _ hl hts =>
    cases hts
    exact .inl (by simp [List.getLast?_cons, hl, canPrecedeAlternation])

/-- Nothing follows the items of a line but its end, and what ends a run begins the next items. -/
theorem Reads.endsRun {t last : Token} {rest body : List Token} {items : List Item}
    (reads : Reads .line body items) (same : t :: rest = body ++ [last])
    (stop : alternationStops.contains t.kind = true) : EndsRun items := by
  intro item hi
  cases items with
  | nil => simp at hi
  | cons next items =>
    obtain rfl : next = item := by simpa using hi
    cases body with
    | nil => cases reads
    | cons u body =>
      obtain ⟨rfl, -⟩ := List.cons.inj same
      have hk := reads.kind_head
      have hl := reads.not_lineEnd t (by simp)
      simpa [alternationStops, Item.isCut, hk, hl] using stop

/-- One item in front of items whose nodes are known, where no slash comes before the next cut. -/
theorem FreeAhead.nodesOf_cons {tokens body : List Token} {last : Token} {item : Item}
    {items : List Item} (h : FreeAhead tokens) (same : tokens = body ++ [last])
    (reads : Reads .line body (item :: items)) :
    nodesOf [] (item :: items) = item.node?.toList ++ nodesOf [] items := by
  obtain ⟨run, first, t, rest, cut, runs, free, stop⟩ := h
  obtain ⟨middle, final, hm⟩ : ∃ middle final, t :: rest = middle ++ [final] :=
    ⟨_, _, (List.dropLast_concat_getLast (List.cons_ne_nil t rest)).symm⟩
  have whole : body = run ++ middle := by
    have := same.symm.trans cut
    rw [hm, ← List.append_assoc] at this
    exact List.append_inj_left' this rfl
  rw [whole] at reads
  obtain ⟨more, hmore, after⟩ := runs.split reads
  have ends := after.endsRun hm stop
  have uncut : ∀ i ∈ first, i.isCut = false := fun i hi => uncut_of_stops (free i hi).1
  cases first with
  | nil =>
    obtain rfl : item :: items = more := hmore
    have isCut := ends item rfl
    simp [nodesOf, isCut]
  | cons next first =>
    rw [List.cons_append] at hmore
    obtain ⟨rfl, rfl⟩ := List.cons.inj hmore
    rw [nodesOf_append (fun i hi => uncut i (by simp [hi])) ends, ← List.cons_append,
      nodesOf_append uncut ends, nodesOfRun_free fun i hi => (free i hi).2,
      nodesOfRun_free fun i hi => (free i (by simp [hi])).2, ← List.append_assoc]
    congr 1
    cases hn : item.node? <;> simp [hn]

/-! ## The loop -/

/-- What trying an alternation gives: the run ahead as one node, nothing if there is no slash in it
or none may begin here, or the first problem. -/
theorem applyRule_alternation {fuel : Nat} (previous : TokenKind) {pos : Nat} {tokens : List Token}
    (hf : 2 * tokens.length ≤ fuel) (line : Line pos tokens)
    (free : canPrecedeAlternation previous = true ∨ FreeAhead tokens) :
    match applyRule (fuel + 1) .alternation previous tokens with
    | .error problem => Scan.run ⟨[], none⟩ tokens = .error problem
    | .ok none => FreeAhead tokens
    | .ok (some (taken, piece)) => ∃ run item items t rest, tokens = run ++ t :: rest ∧
        taken = run.length ∧ Reads .line run (item :: items) ∧
        (∀ i ∈ item :: items, i.isCut = false) ∧ alternationStops.contains t.kind = true ∧
        piece.node?.toList = nodesOfRun (item :: items) := by
  rw [applyRule]
  cases hp : canPrecedeAlternation previous with
  | false => simpa [hp] using free
  | true =>
    have attempt := parseUntil_alternatives previous hf line
    simp only [Bool.not_true, Bool.false_eq_true, if_false]
    cases hu : parseUntil fuel alternativeRules alternationStops previous tokens with
    | error problem =>
      rw [hu] at attempt
      exact attempt [] (by simp [Place.Opens])
    | ok result =>
      obtain ⟨taken, pieces⟩ := result
      rw [hu] at attempt
      obtain ⟨run, items, t, rest, same, rfl, rfl, reads, stop, uncut⟩ := attempt
      have separators : (items.map Item.piece).any Piece.isSeparator = items.any Item.isSlash := by
        simp [List.any_map, Function.comp_def]
      simp only [separators]
      cases hs : items.any Item.isSlash with
      | false =>
        have none : ∀ item ∈ items, item.isSlash = false := by simpa using hs
        exact ⟨run, items, t, rest, same, reads, fun i hi => ⟨uncut i hi, none i hi⟩, stop⟩
      | true =>
        obtain ⟨item, items, rfl⟩ := List.exists_cons_of_ne_nil
          (show items ≠ [] by rintro rfl; simp at hs)
        obtain ⟨first, more, rfl⟩ := List.exists_cons_of_ne_nil reads.ne_nil
        rw [same] at line
        obtain ⟨mid, before, after⟩ := line.split reads.not_lineEnd
        have hm : t.span.start = mid := by cases after <;> rfl
        have whole := (reads.adjoin before).extent (by simp)
        have hfirst : first.span.start = pos := before.1
        simp only [same, List.head?_cons, List.cons_append, Bool.not_true, Bool.false_eq_true,
          if_false]
        rw [← List.cons_append, List.drop_left]
        refine ⟨first :: more, item, items, t, rest, rfl, rfl, reads,
          fun i hi => uncut_of_stops (uncut i hi), stop, ?_⟩
        simp only [Piece.node?, Option.toList_some, nodesOfRun, hs, if_true, hfirst, hm, whole,
          alternatives_run whole]

/-- Items in front of a line that is read. -/
theorem ReadsLine.prepend {tokens chunk rest : List Token} {items : List Item} {piece : Piece}
    {result : Except Problem (Nat × List Piece)} (reads : Reads .line chunk items)
    (same : tokens = chunk ++ rest) (tail : ReadsLine rest result)
    (join : ∀ body last more, rest = body ++ [last] → Reads .line body more →
      piece.node?.toList ++ nodesOf [] more = nodesOf [] (items ++ more)) :
    ReadsLine tokens
      (match result with
      | .error problem => .error problem
      | .ok (more, pieces) => .ok (chunk.length + more, piece :: pieces)) := by
  cases result with
  | error problem =>
    simp only [ReadsLine]
    rw [same, reads.scan (by simp [Place.Opens])]
    exact tail
  | ok result =>
    obtain ⟨taken, pieces⟩ := result
    obtain ⟨body, last, more, rfl, rfl, hlast, reads', nodes⟩ := tail
    refine ⟨chunk ++ body, last, items ++ more, by rw [same, List.append_assoc], by simp, hlast,
      reads.append reads', ?_⟩
    rw [← join body last more rfl reads', ← nodes]
    cases hn : piece.node? <;> simp [hn]

/-- What the rules of a whole template read first: items that make up one piece, after which an
alternation may begin or none is ahead. -/
theorem firstReading_line {fuel : Nat} (previous : TokenKind) {pos : Nat} {t : Token}
    {ts : List Token} (hf : 2 * (t :: ts).length ≤ fuel) (line : Line pos (t :: ts))
    (hl : t.kind ≠ .lineEnd) (free : canPrecedeAlternation previous = true ∨ FreeAhead (t :: ts)) :
    match firstReading (fun rule => applyRule (fuel + 1) rule previous (t :: ts))
      Part.expression.rules with
    | .error problem => Scan.run ⟨[], none⟩ (t :: ts) = .error problem
    | .ok none => False
    | .ok (some (taken, piece)) => ∃ chunk rest item items, t :: ts = chunk ++ rest ∧
        taken = chunk.length ∧ Reads .line chunk (item :: items) ∧
        (canPrecedeAlternation (kindBefore previous (t :: ts) chunk.length) = true ∨
          FreeAhead rest) ∧
        ∀ body last more, rest = body ++ [last] → Reads .line body more →
          piece.node?.toList ++ nodesOf [] more = nodesOf [] (item :: items ++ more) := by
  have attempt := applyRule_alternation previous hf line free
  rw [show Part.expression.rules = .alternation :: contentRules from rfl]
  cases ha : applyRule (fuel + 1) .alternation previous (t :: ts) with
  | error problem =>
    rw [ha] at attempt
    rw [firstReading_error ha]
    exact attempt
  | ok reading =>
    rw [ha] at attempt
    cases reading with
    | some reading =>
      obtain ⟨taken, piece⟩ := reading
      obtain ⟨run, item, items, u, rest, same, rfl, reads, uncut, stop, node⟩ := attempt
      rw [firstReading_some ha]
      refine ⟨run, u :: rest, item, items, same, rfl, reads,
        .inr ⟨[], [], u, rest, rfl, .nil, by simp, stop⟩, fun body last more cut reads' => ?_⟩
      rw [node, nodesOf_append uncut (reads'.endsRun cut stop)]
    | none =>
      have ahead : FreeAhead (t :: ts) := attempt
      rw [firstReading_skip ha]
      have head := readsFirst_line previous
        (show 2 * ts.length < fuel + 1 by rw [List.length_cons] at hf; omega) line hl ahead.not_slash
      cases hr : firstReading (fun rule => applyRule (fuel + 1) rule previous (t :: ts))
          contentRules with
      | error problem =>
        rw [hr] at head
        exact head [] (by simp [Place.Opens])
      | ok reading =>
        rw [hr] at head
        cases reading with
        | none => exact head.elim
        | some reading =>
          obtain ⟨taken, piece⟩ := reading
          obtain ⟨chunk, rest, item, same, rfl, rfl, reads⟩ := head
          refine ⟨chunk, rest, item, [], same, rfl, reads, ahead.advance reads same, ?_⟩
          rintro body last more rfl reads'
          have whole : t :: ts = chunk ++ body ++ [last] := by rw [same, List.append_assoc]
          rw [Item.node?_piece]
          exact (ahead.nodesOf_cons whole (reads.append reads')).symm

/-- The rules of a whole template read piece after piece up to the end of the line. -/
theorem parseUntil_line {fuel : Nat} (previous : TokenKind) {pos : Nat} {tokens : List Token}
    (hf : 2 * tokens.length + 2 ≤ fuel) (line : Line pos tokens)
    (free : canPrecedeAlternation previous = true ∨ FreeAhead tokens) :
    ReadsLine tokens
      (parseUntil fuel Part.expression.rules [.lineEnd, .lineEnd] previous tokens) := by
  induction fuel generalizing previous pos tokens with
  | zero => omega
  | succ fuel ih =>
    obtain ⟨fuel, rfl⟩ : ∃ k, fuel = k + 1 := ⟨fuel - 1, by omega⟩
    cases tokens with
    | nil => cases line
    | cons t ts =>
      rw [parseUntil]
      by_cases hl : t.kind = .lineEnd
      · obtain rfl : ts = [] := by
          cases line with
          | last => rfl
          | cons inner => exact absurd hl inner.2
        simp only [hl, List.contains_cons, beq_self_eq_true, Bool.true_or, if_true]
        exact ⟨[], t, [], rfl, rfl, hl, .nil, rfl⟩
      · have more : [TokenKind.lineEnd, .lineEnd].contains t.kind = false := by simp [hl]
        rw [more]
        simp only [Bool.false_eq_true, if_false]
        have first := firstReading_line previous (show 2 * (t :: ts).length ≤ fuel by omega) line hl
          free
        cases hr : firstReading (fun rule => applyRule (fuel + 1) rule previous (t :: ts))
            Part.expression.rules with
        | error problem =>
          rw [hr] at first
          exact first
        | ok reading =>
          rw [hr] at first
          cases reading with
          | none => exact first.elim
          | some reading =>
            obtain ⟨taken, piece⟩ := reading
            obtain ⟨chunk, rest, item, items, same, rfl, reads, free, join⟩ := first
            have longer : 0 < chunk.length := List.length_pos_iff.mpr reads.ne_nil
            have total := congrArg List.length same
            rw [List.length_append] at total
            obtain ⟨mid, -, after⟩ := (same ▸ line).split reads.not_lineEnd
            have tail := ih (kindBefore previous (t :: ts) chunk.length) (by omega) after free
            have dropped : (t :: ts).drop chunk.length = rest := by rw [same, List.drop_left]
            simp only [dropped]
            exact tail.prepend reads same join

/-! ## Whole templates -/

/-- What the rules make of the tokens of a template: the nodes of its items under the root, or the
first problem. -/
theorem parseTokens_reads {source : List Char} {tokens : List Token}
    (h : Tokenized source tokens) :
    match parseTokens (edgeToken .lineStart 0 :: (tokens ++ [edgeToken .lineEnd source.length])) with
    | .ok root => ∃ items, Reads .line tokens items ∧
        root = .branch .expression (nodesOf [] items) ⟨0, source.length⟩
    | .error problem =>
        Scan.run .start (edgeToken .lineStart 0 :: (tokens ++ [edgeToken .lineEnd source.length])) =
          .error problem := by
  have line : Line 0 (tokens ++ [edgeToken .lineEnd source.length]) :=
    h.contiguous.line h.inner rfl rfl
  have enough : 2 * (tokens ++ [edgeToken .lineEnd source.length]).length + 2 ≤
      parseFuel (edgeToken .lineStart 0 :: (tokens ++ [edgeToken .lineEnd source.length])) - 1 := by
    simp [parseFuel]
    omega
  have whole := parseUntil_line .lineStart enough line (.inl rfl)
  rw [parseTokens, show parseFuel (edgeToken .lineStart 0 ::
    (tokens ++ [edgeToken .lineEnd source.length])) = parseFuel (edgeToken .lineStart 0 ::
    (tokens ++ [edgeToken .lineEnd source.length])) - 1 + 1 from rfl, applyRule]
  simp only [Part.opener, Part.closer, edgeToken, ne_eq, not_true_eq_false, if_false]
  simp only [edgeToken] at whole
  generalize parseUntil _ _ _ _ _ = result at whole ⊢
  cases result with
  | error problem =>
    simp only
    rw [Scan.run_cons_ok (r := .start) rfl]
    exact whole
  | ok result =>
    obtain ⟨taken, pieces⟩ := result
    obtain ⟨body, last, items, same, rfl, hlast, reads, nodes⟩ := whole
    obtain ⟨rfl, hl⟩ := List.append_inj' same rfl
    obtain rfl := List.singleton_inj.mp hl
    simp only [List.drop_left, List.head?_cons, if_true]
    exact ⟨items, reads, by simp only [Part.nodeKind, nodes]⟩

theorem parse_ok {source : List Char} {root : Node} (h : parse source = .ok root) :
    ∃ tokens items, tokenize source =
        .ok (edgeToken .lineStart 0 :: (tokens ++ [edgeToken .lineEnd source.length])) ∧
      Tokenized source tokens ∧ Reads .line tokens items ∧
      root = .branch .expression (nodesOf [] items) ⟨0, source.length⟩ := by
  unfold parse at h
  cases ht : tokenize source with
  | error e => rw [ht] at h; cases h
  | ok all =>
    obtain ⟨tokens, rfl, tokenized⟩ := tokenize_sound ht
    have result := parseTokens_reads tokenized
    rw [ht] at h
    have h : parseTokens _ = .ok root := h
    rw [h] at result
    obtain ⟨items, reads, same⟩ := result
    exact ⟨tokens, items, rfl, tokenized, reads, same⟩

theorem parse_error {source : List Char} {all : List Token} (ht : tokenize source = .ok all)
    {problem : Problem} (h : parse source = .error problem) : Scan.start.run all = .error problem := by
  obtain ⟨tokens, rfl, tokenized⟩ := tokenize_sound ht
  have result := parseTokens_reads tokenized
  unfold parse at h
  rw [ht] at h
  have h : parseTokens _ = .error problem := h
  rwa [h] at result

end StepExpr.Template
