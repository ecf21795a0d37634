import StepExpr.Proofs.Template.Parsing

/-!
# Reading ends

The rules call one another, and an alternation is tried by reading again from the position that it
is tried at. Still every call comes to an end, on every list of tokens, whether a template is cut
into them or not.

* `applyRule_advances`, `parseUntil_stays`: a rule that applies takes a token, and no call takes
  tokens that are not there;
* `Answers`, `FirstAnswers` and `Collects` relate the calls to what they end with. They know no
  bound on the depth of calls: a call that never ended would have no answer;
* `calls_answer`: a bound as large as the weight of a call, with four for each token that is left,
  gives the one answer of the call;
* `reading_ends`: every call has an answer, and what it takes lies within the tokens.
-/

namespace StepExpr.Template

/-! ## What is left to do after a call -/

/-- What a part that begins with `first` is read as. What is read in it begins `rest`. -/
def closePart (part : Part) (first : Token) (rest : List Token) (inside : Nat × List Piece) :
    Reading :=
  match (rest.drop inside.1).head? with
  | some last =>
    if last.kind = part.closer then
      .ok (some (inside.1 + 2, .node (.branch part.nodeKind (inside.2.filterMap Piece.node?)
        ⟨first.span.start, last.span.stop⟩)))
    else .error ⟨.missingEnd part.opener part.closer, first.span⟩
  | none => .error ⟨.missingEnd part.opener part.closer, first.span⟩

/-- What an alternation is read as. The pieces that it is tried on begin `tokens`. -/
def joinAlternatives (tokens : List Token) (run : Nat × List Piece) : Reading :=
  if run.2.any Piece.isSeparator then
    match tokens.head?, (tokens.drop run.1).head? with
    | some first, some boundary =>
      let span := ⟨first.span.start, boundary.span.start⟩
      .ok (some (run.1, .node (.branch .alternation
        (alternatives span.start span.stop [] run.2) span)))
    | _, _ => .ok none
  else .ok none

/-- A piece of `taken` tokens in front of others. -/
def prependPiece (taken : Nat) (piece : Piece) (others : Nat × List Piece) : Nat × List Piece :=
  (taken + others.1, piece :: others.2)

section
variable (fuel : Nat) (previous : TokenKind)

theorem applyRule_between_unopened {part : Part} {tokens : List Token}
    (h : ∀ t ∈ tokens.head?, t.kind ≠ part.opener) :
    applyRule (fuel + 1) (.between part) previous tokens = .ok none := by
  cases tokens with
  | nil => rw [applyRule]
  | cons t ts => exact applyRule_between_skip fuel previous (h t rfl) ts

theorem applyRule_between_opened {part : Part} {first : Token} (h : first.kind = part.opener)
    (rest : List Token) : applyRule (fuel + 1) (.between part) previous (first :: rest) =
      (parseUntil fuel part.rules [part.closer, .lineEnd] first.kind rest).bind
        (closePart part first rest) := by
  rw [applyRule]
  simp only [h, ne_eq, not_true_eq_false, if_false]
  cases parseUntil fuel part.rules [part.closer, .lineEnd] part.opener rest <;> rfl

theorem applyRule_alternation_misplaced (h : canPrecedeAlternation previous = false)
    (tokens : List Token) : applyRule (fuel + 1) .alternation previous tokens = .ok none := by
  rw [applyRule]
  simp [h]

theorem applyRule_alternation_placed {previous : TokenKind}
    (h : canPrecedeAlternation previous = true) (tokens : List Token) :
    applyRule (fuel + 1) .alternation previous tokens =
      (parseUntil fuel alternativeRules alternationStops previous tokens).bind
        (joinAlternatives tokens) := by
  rw [applyRule]
  simp only [h, Bool.not_true, Bool.false_eq_true, if_false]
  cases parseUntil fuel alternativeRules alternationStops previous tokens with
  | error problem => rfl
  | ok run =>
    simp only [Except.bind, joinAlternatives]
    cases run.2.any Piece.isSeparator <;> rfl

theorem parseUntil_done {stops : List TokenKind} {tokens : List Token}
    (h : ∀ t ∈ tokens.head?, t.kind ∈ stops) (rules : List Rule) :
    parseUntil fuel rules stops previous tokens = .ok (0, []) := by
  cases fuel with
  | zero => rw [parseUntil]
  | succ fuel =>
    cases tokens with
    | nil => rw [parseUntil]
    | cons t ts =>
      rw [parseUntil, if_pos]
      simpa using h t rfl

theorem parseUntil_cons {stops : List TokenKind} {t : Token} (h : t.kind ∉ stops)
    (rules : List Rule) (ts : List Token) :
    parseUntil (fuel + 1) rules stops previous (t :: ts) =
      (firstReading (fun rule => applyRule fuel rule previous (t :: ts)) rules).bind fun reading =>
        match reading with
        | none => .ok (0, [])
        | some (taken, piece) =>
          (parseUntil fuel rules stops (kindBefore previous (t :: ts) taken)
            ((t :: ts).drop taken)).map (prependPiece taken piece) := by
  rw [parseUntil, if_neg (by simpa using h)]
  cases firstReading (fun rule => applyRule fuel rule previous (t :: ts)) rules with
  | error problem => rfl
  | ok reading =>
    cases reading with
    | none => rfl
    | some reading =>
      simp only [Except.bind]
      cases parseUntil fuel rules stops (kindBefore previous (t :: ts) reading.1)
        ((t :: ts).drop reading.1) <;> rfl

end

/-! ## Progress -/

/-- A rule that applies takes a token, and at most the `left` tokens that there are. -/
def Advances (left : Nat) (answer : Reading) : Prop :=
  ∀ taken piece, answer = .ok (some (taken, piece)) → 1 ≤ taken ∧ taken ≤ left

/-- Pieces take at most the `left` tokens that there are, and some if there are pieces. -/
def Stays (left : Nat) (result : Except Problem (Nat × List Piece)) : Prop :=
  ∀ taken pieces, result = .ok (taken, pieces) → taken ≤ left ∧ (pieces ≠ [] → 1 ≤ taken)

theorem advances_none (left : Nat) : Advances left (.ok none) := by
  intro taken piece h
  cases h

theorem stays_nothing (left : Nat) : Stays left (.ok (0, [])) := by
  intro taken pieces h
  obtain ⟨rfl, rfl⟩ := Prod.mk.inj (Except.ok.inj h)
  exact ⟨Nat.zero_le left, fun some => absurd rfl some⟩

theorem Stays.bind {left bound : Nat} {result : Except Problem (Nat × List Piece)}
    {finish : Nat × List Piece → Reading} (h : Stays left result)
    (hf : ∀ taken pieces, taken ≤ left → (pieces ≠ [] → 1 ≤ taken) →
      Advances bound (finish (taken, pieces))) : Advances bound (result.bind finish) := by
  cases result with
  | error problem =>
    intro taken piece same
    cases same
  | ok inside =>
    obtain ⟨fits, filled⟩ := h inside.1 inside.2 rfl
    exact hf inside.1 inside.2 fits filled

theorem readText_advances (tokens : List Token) : Advances tokens.length (readText tokens) := by
  intro taken piece h
  cases tokens with
  | nil => cases h
  | cons t ts =>
    cases hk : t.kind <;> simp [readText, hk] at h <;> simp [← h.1]

theorem readName_advances (tokens : List Token) : Advances tokens.length (readName tokens) := by
  intro taken piece h
  cases tokens with
  | nil => cases h
  | cons t ts =>
    cases hk : t.kind <;> simp [readName, hk] at h <;> simp [← h.1]

theorem readSeparator_advances (tokens : List Token) :
    Advances tokens.length (readSeparator tokens) := by
  intro taken piece h
  cases tokens with
  | nil => cases h
  | cons t ts =>
    by_cases hk : t.kind = .alternation <;> simp [readSeparator, hk] at h
    simp [← h.1]

/-- The tokens at both ends are there. -/
theorem closePart_advances (part : Part) (first : Token) (rest : List Token) (taken : Nat)
    (pieces : List Piece) :
    Advances (rest.length + 1) (closePart part first rest (taken, pieces)) := by
  intro took piece h
  rw [closePart] at h
  cases hl : (rest.drop taken).head? with
  | none => simp [hl] at h
  | some last =>
    have inside : taken < rest.length := by
      rw [List.head?_drop] at hl
      exact (List.getElem?_eq_some_iff.mp hl).1
    by_cases hk : last.kind = part.closer <;> simp [hl, hk] at h
    omega

/-- An alternation takes something because there is a slash among its pieces. -/
theorem joinAlternatives_advances {tokens : List Token} {taken : Nat} {pieces : List Piece}
    (fits : taken ≤ tokens.length) (filled : pieces ≠ [] → 1 ≤ taken) :
    Advances tokens.length (joinAlternatives tokens (taken, pieces)) := by
  intro took piece h
  rw [joinAlternatives] at h
  split at h
  next slash =>
    have some : pieces ≠ [] := by
      rintro rfl
      cases slash
    split at h
    · obtain ⟨rfl, -⟩ := Prod.mk.inj (Option.some.inj (Except.ok.inj h))
      exact ⟨filled some, fits⟩
    · cases h
  next => cases h

theorem firstReading_advances {left : Nat} {apply : Rule → Reading}
    (h : ∀ rule, Advances left (apply rule)) (rules : List Rule) :
    Advances left (firstReading apply rules) := by
  induction rules with
  | nil => exact advances_none left
  | cons rule rules ih =>
    cases hr : apply rule with
    | error problem =>
      rw [firstReading_error hr, ← hr]
      exact h rule
    | ok reading =>
      cases reading with
      | none => rwa [firstReading_skip hr]
      | some reading =>
        rw [firstReading_some hr, ← hr]
        exact h rule

theorem stays_prepend {left taken : Nat} (piece : Piece)
    {others : Except Problem (Nat × List Piece)} (advances : 1 ≤ taken ∧ taken ≤ left)
    (h : Stays (left - taken) others) : Stays left (others.map (prependPiece taken piece)) := by
  intro took pieces same
  obtain ⟨⟨more, rest⟩, rfl, joined⟩ := map_ok same
  obtain ⟨fits, -⟩ := h more rest rfl
  obtain ⟨rfl, -⟩ := Prod.mk.inj joined
  omega

section
variable {fuel : Nat}
  (stays : ∀ rules stops previous tokens,
    Stays tokens.length (parseUntil fuel rules stops previous tokens))
include stays

theorem applyRule_step (rule : Rule) (previous : TokenKind) (tokens : List Token) :
    Advances tokens.length (applyRule (fuel + 1) rule previous tokens) := by
  cases rule with
  | text => exact applyRule_text fuel previous tokens ▸ readText_advances tokens
  | name => exact applyRule_name fuel previous tokens ▸ readName_advances tokens
  | separator => exact applyRule_separator fuel previous tokens ▸ readSeparator_advances tokens
  | between part =>
    by_cases h : ∀ t ∈ tokens.head?, t.kind ≠ part.opener
    · rw [applyRule_between_unopened fuel previous h]
      exact advances_none _
    · cases tokens with
      | nil => simp at h
      | cons first rest =>
        rw [applyRule_between_opened fuel previous (by simpa using h)]
        exact (stays _ _ _ rest).bind fun taken pieces _ _ =>
          closePart_advances part first rest taken pieces
  | alternation =>
    cases h : canPrecedeAlternation previous with
    | false =>
      rw [applyRule_alternation_misplaced fuel previous h]
      exact advances_none _
    | true =>
      rw [applyRule_alternation_placed fuel h]
      exact (stays _ _ _ tokens).bind fun _ _ => joinAlternatives_advances

theorem parseUntil_step
    (advances : ∀ rule previous tokens,
      Advances tokens.length (applyRule fuel rule previous tokens))
    (rules : List Rule) (stops : List TokenKind) (previous : TokenKind) (tokens : List Token) :
    Stays tokens.length (parseUntil (fuel + 1) rules stops previous tokens) := by
  by_cases h : ∀ t ∈ tokens.head?, t.kind ∈ stops
  · rw [parseUntil_done _ previous h]
    exact stays_nothing _
  · cases tokens with
    | nil => simp at h
    | cons t ts =>
      rw [parseUntil_cons fuel previous (by simpa using h)]
      have first := firstReading_advances (fun rule => advances rule previous (t :: ts)) rules
      cases hr : firstReading (fun rule => applyRule fuel rule previous (t :: ts)) rules with
      | error problem =>
        intro taken pieces same
        cases same
      | ok reading =>
        cases reading with
        | none => exact stays_nothing _
        | some reading =>
          obtain ⟨taken, piece⟩ := reading
          refine stays_prepend piece (first taken piece hr) ?_
          rw [← List.length_drop]
          exact stays rules stops _ _

end

/-- Every call makes progress because the calls in it do, whatever their bound is. -/
theorem calls_progress (fuel : Nat) :
    (∀ rule previous tokens, Advances tokens.length (applyRule fuel rule previous tokens)) ∧
    ∀ rules stops previous tokens,
      Stays tokens.length (parseUntil fuel rules stops previous tokens) := by
  induction fuel with
  | zero =>
    constructor
    · intro rule previous tokens
      rw [applyRule]
      exact advances_none _
    · intro rules stops previous tokens
      rw [parseUntil]
      exact stays_nothing _
  | succ fuel ih => exact ⟨applyRule_step ih.2, parseUntil_step ih.2 ih.1⟩

theorem applyRule_advances (fuel : Nat) (rule : Rule) (previous : TokenKind) (tokens : List Token) :
    Advances tokens.length (applyRule fuel rule previous tokens) :=
  (calls_progress fuel).1 rule previous tokens

theorem parseUntil_stays (fuel : Nat) (rules : List Rule) (stops : List TokenKind)
    (previous : TokenKind) (tokens : List Token) :
    Stays tokens.length (parseUntil fuel rules stops previous tokens) :=
  (calls_progress fuel).2 rules stops previous tokens

/-! ## Calls and their answers -/

mutual

/-- Trying a rule at a position of `tokens` ends with an answer. -/
inductive Answers (tokens : List Token) : Rule → Nat → Reading → Prop where
  | text {pos} : Answers tokens .text pos (readText (tokens.drop pos))
  | name {pos} : Answers tokens .name pos (readName (tokens.drop pos))
  | separator {pos} : Answers tokens .separator pos (readSeparator (tokens.drop pos))
  | unopened {part pos} : (∀ t, tokens[pos]? = some t → t.kind ≠ part.opener) →
      Answers tokens (.between part) pos (.ok none)
  | opened {part pos first inside} : tokens[pos]? = some first → first.kind = part.opener →
      Collects tokens part.rules [part.closer, .lineEnd] (pos + 1) inside →
      Answers tokens (.between part) pos
        (inside.bind (closePart part first (tokens.drop (pos + 1))))
  | misplaced {pos} : canPrecedeAlternation (kindBefore .lineStart tokens pos) = false →
      Answers tokens .alternation pos (.ok none)
  /-- Pieces are read before any token is taken. -/
  | placed {pos run} : canPrecedeAlternation (kindBefore .lineStart tokens pos) = true →
      Collects tokens alternativeRules alternationStops pos run →
      Answers tokens .alternation pos (run.bind (joinAlternatives (tokens.drop pos)))

/-- Trying rules one after the other, until one applies, ends with an answer. -/
inductive FirstAnswers (tokens : List Token) : List Rule → Nat → Reading → Prop where
  | nil {pos} : FirstAnswers tokens [] pos (.ok none)
  | skip {rule rules pos answer} : Answers tokens rule pos (.ok none) →
      FirstAnswers tokens rules pos answer → FirstAnswers tokens (rule :: rules) pos answer
  | found {rule rules pos answer} : Answers tokens rule pos answer → answer ≠ .ok none →
      FirstAnswers tokens (rule :: rules) pos answer

/-- Reading pieces from a position of `tokens` on ends with a result. -/
inductive Collects (tokens : List Token) :
    List Rule → List TokenKind → Nat → Except Problem (Nat × List Piece) → Prop where
  | done {rules stops pos} : (∀ t, tokens[pos]? = some t → t.kind ∈ stops) →
      Collects tokens rules stops pos (.ok (0, []))
  | nothing {rules stops pos t} : tokens[pos]? = some t → t.kind ∉ stops →
      FirstAnswers tokens rules pos (.ok none) → Collects tokens rules stops pos (.ok (0, []))
  | problem {rules stops pos t problem} : tokens[pos]? = some t → t.kind ∉ stops →
      FirstAnswers tokens rules pos (.error problem) →
      Collects tokens rules stops pos (.error problem)
  | more {rules stops pos t taken piece others} : tokens[pos]? = some t → t.kind ∉ stops →
      FirstAnswers tokens rules pos (.ok (some (taken, piece))) →
      Collects tokens rules stops (pos + taken) others →
      Collects tokens rules stops pos (others.map (prependPiece taken piece))

end

section
variable {tokens : List Token} {pos : Nat}

theorem answers_unopened_iff {part : Part} {answer : Reading}
    (h : ∀ t, tokens[pos]? = some t → t.kind ≠ part.opener) :
    Answers tokens (.between part) pos answer ↔ .ok none = answer := by
  constructor
  · intro answers
    cases answers with
    | unopened => rfl
    | opened here hk _ => exact absurd hk (h _ here)
  · rintro rfl
    exact .unopened h

theorem answers_opened_iff {part : Part} {first : Token} {answer : Reading}
    (here : tokens[pos]? = some first) (hk : first.kind = part.opener) :
    Answers tokens (.between part) pos answer ↔
      ∃ inside, Collects tokens part.rules [part.closer, .lineEnd] (pos + 1) inside ∧
        inside.bind (closePart part first (tokens.drop (pos + 1))) = answer := by
  constructor
  · intro answers
    cases answers with
    | unopened none => exact absurd hk (none first here)
    | opened same _ inside =>
      obtain rfl := Option.some.inj (here.symm.trans same)
      exact ⟨_, inside, rfl⟩
  · rintro ⟨inside, collects, rfl⟩
    exact .opened here hk collects

theorem answers_misplaced_iff {answer : Reading}
    (h : canPrecedeAlternation (kindBefore .lineStart tokens pos) = false) :
    Answers tokens .alternation pos answer ↔ .ok none = answer := by
  constructor
  · intro answers
    cases answers with
    | misplaced => rfl
    | placed precedes _ => exact absurd precedes (by simp [h])
  · rintro rfl
    exact .misplaced h

theorem answers_placed_iff {answer : Reading}
    (h : canPrecedeAlternation (kindBefore .lineStart tokens pos) = true) :
    Answers tokens .alternation pos answer ↔
      ∃ run, Collects tokens alternativeRules alternationStops pos run ∧
        run.bind (joinAlternatives (tokens.drop pos)) = answer := by
  constructor
  · intro answers
    cases answers with
    | misplaced precedes => exact absurd h (by simp [precedes])
    | placed _ run => exact ⟨_, run, rfl⟩
  · rintro ⟨run, collects, rfl⟩
    exact .placed h collects

theorem collects_done_iff {rules : List Rule} {stops : List TokenKind}
    {result : Except Problem (Nat × List Piece)}
    (ends : ∀ t, tokens[pos]? = some t → t.kind ∈ stops) :
    Collects tokens rules stops pos result ↔ .ok (0, []) = result := by
  constructor
  · intro h
    cases h with
    | done => rfl
    | nothing here hs _ => exact absurd (ends _ here) hs
    | problem here hs _ => exact absurd (ends _ here) hs
    | more here hs _ _ => exact absurd (ends _ here) hs
  · rintro rfl
    exact .done ends

/-- What reading pieces ends with, once the first answer is known. -/
def Continues (tokens : List Token) (rules : List Rule) (stops : List TokenKind) (pos : Nat)
    (result : Except Problem (Nat × List Piece)) : Reading → Prop
  | .error problem => .error problem = result
  | .ok none => .ok (0, []) = result
  | .ok (some (taken, piece)) => ∃ others, Collects tokens rules stops (pos + taken) others ∧
      others.map (prependPiece taken piece) = result

theorem collects_more_iff {rules : List Rule} {stops : List TokenKind} {t : Token}
    {result : Except Problem (Nat × List Piece)} (here : tokens[pos]? = some t)
    (hs : t.kind ∉ stops) : Collects tokens rules stops pos result ↔
      ∃ reading, FirstAnswers tokens rules pos reading ∧
        Continues tokens rules stops pos result reading := by
  constructor
  · intro h
    cases h with
    | done ends => exact absurd (ends t here) hs
    | nothing _ _ first => exact ⟨_, first, rfl⟩
    | problem _ _ first => exact ⟨_, first, rfl⟩
    | more _ _ first others => exact ⟨_, first, _, others, rfl⟩
  · rintro ⟨problem | _ | ⟨taken, piece⟩, first, continues⟩
    · obtain rfl := continues
      exact .problem here hs first
    · obtain rfl := continues
      exact .nothing here hs first
    · obtain ⟨others, rest, rfl⟩ := continues
      exact .more here hs first rest

/-- Rules whose answers a function gives have the first of its answers. -/
theorem firstAnswers_iff {apply : Rule → Reading} {rules : List Rule} {answer : Reading}
    (h : ∀ rule ∈ rules, ∀ answer, Answers tokens rule pos answer ↔ apply rule = answer) :
    FirstAnswers tokens rules pos answer ↔ firstReading apply rules = answer := by
  induction rules with
  | nil =>
    constructor
    · rintro ⟨⟩
      rfl
    · rintro rfl
      exact .nil
  | cons rule rules ih =>
    obtain ⟨head, tail⟩ := List.forall_mem_cons.mp h
    by_cases hr : apply rule = .ok none
    · rw [firstReading_skip hr, ← ih tail]
      constructor
      · intro first
        cases first with
        | skip _ rest => exact rest
        | found answers applies =>
          have same := (head answer).mp answers
          exact absurd (same.symm.trans hr) applies
      · exact .skip ((head _).mpr hr)
    · have taken : firstReading apply (rule :: rules) = apply rule := by
        rw [firstReading]
        split
        · contradiction
        · rfl
      rw [taken, ← head]
      constructor
      · intro first
        cases first with
        | skip none _ => exact absurd ((head _).mp none) hr
        | found answers _ => exact answers
      · intro answers
        refine .found answers ?_
        rintro rfl
        exact hr ((head _).mp answers)

end

/-! ## One answer -/

/-- How many calls stand inside one another, at most, before a rule takes a token. -/
def Rule.weight : Rule → Nat
  | alternation => 3
  | _ => 1

/-- The same for reading pieces. -/
def weightOf (rules : List Rule) : Nat := if .alternation ∈ rules then 4 else 2

theorem Rule.weight_pos (rule : Rule) : 0 < rule.weight := by
  cases rule <;> simp [weight]

theorem Rule.weight_le (rule : Rule) : rule.weight ≤ 3 := by
  cases rule <;> simp [weight]

theorem weightOf_pos (rules : List Rule) : 0 < weightOf rules := by
  unfold weightOf
  split <;> omega

theorem weightOf_le (rules : List Rule) : weightOf rules ≤ 4 := by
  unfold weightOf
  split <;> omega

theorem weight_lt_weightOf {rule : Rule} {rules : List Rule} (h : rule ∈ rules) :
    rule.weight < weightOf rules := by
  unfold weightOf
  split
  next => exact Nat.lt_succ_of_le rule.weight_le
  next light =>
    cases rule with
    | alternation => exact absurd h light
    | _ => exact Nat.lt_succ_self 1

section
variable {tokens : List Token} {pos : Nat}

theorem drop_of_getElem? {t : Token} (h : tokens[pos]? = some t) :
    tokens.drop pos = t :: tokens.drop (pos + 1) := by
  obtain ⟨inside, rfl⟩ := List.getElem?_eq_some_iff.mp h
  exact List.drop_eq_getElem_cons inside

theorem kindBefore_succ {t : Token} (h : tokens[pos]? = some t) (previous : TokenKind) :
    kindBefore previous tokens (pos + 1) = t.kind := by
  rw [kindBefore, List.take_add_one, h]
  simp

/-- The kind of the token before a position does not depend on where reading began. -/
theorem kindBefore_kindBefore (previous : TokenKind) (taken : Nat) :
    kindBefore (kindBefore previous tokens pos) (tokens.drop pos) taken =
      kindBefore previous tokens (pos + taken) := by
  simp only [kindBefore, List.take_add, List.getLast?_append]
  cases ((tokens.drop pos).take taken).getLast? <;> simp

end

section
variable {tokens : List Token} {fuel : Nat}
  (collects : ∀ rules stops pos result, 4 * (tokens.length - pos) + weightOf rules ≤ fuel →
    (Collects tokens rules stops pos result ↔
      parseUntil fuel rules stops (kindBefore .lineStart tokens pos) (tokens.drop pos) = result))
include collects

theorem answers_step (rule : Rule) (pos : Nat) (answer : Reading)
    (enough : 4 * (tokens.length - pos) + rule.weight ≤ fuel + 1) :
    Answers tokens rule pos answer ↔
      applyRule (fuel + 1) rule (kindBefore .lineStart tokens pos) (tokens.drop pos) = answer := by
  cases rule with
  | text =>
    rw [applyRule_text]
    constructor
    · rintro ⟨⟩
      rfl
    · rintro rfl
      exact .text
  | name =>
    rw [applyRule_name]
    constructor
    · rintro ⟨⟩
      rfl
    · rintro rfl
      exact .name
  | separator =>
    rw [applyRule_separator]
    constructor
    · rintro ⟨⟩
      rfl
    · rintro rfl
      exact .separator
  | between part =>
    by_cases h : ∀ t, tokens[pos]? = some t → t.kind ≠ part.opener
    · rw [answers_unopened_iff h, applyRule_between_unopened]
      rwa [List.head?_drop]
    · obtain ⟨first, here, hk⟩ : ∃ t, tokens[pos]? = some t ∧ t.kind = part.opener := by
        simpa using h
      -- The opening token is taken, which makes up for the weight of the rules in the part.
      have within := (List.getElem?_eq_some_iff.mp here).1
      have light := weightOf_le part.rules
      simp only [Rule.weight] at enough
      have inner (result) := collects part.rules [part.closer, .lineEnd] (pos + 1) result (by omega)
      rw [drop_of_getElem? here, applyRule_between_opened fuel _ hk, answers_opened_iff here hk]
      simp only [inner, kindBefore_succ here, exists_eq_left']
  | alternation =>
    cases hp : canPrecedeAlternation (kindBefore .lineStart tokens pos) with
    | false => rw [applyRule_alternation_misplaced fuel _ hp, answers_misplaced_iff hp]
    | true =>
      -- No token is taken, but alternatives are read without the rule for alternations.
      have inner (result) := collects alternativeRules alternationStops pos result
        (Nat.le_of_succ_le_succ enough)
      rw [applyRule_alternation_placed fuel hp, answers_placed_iff hp]
      simp only [inner, exists_eq_left']

theorem collects_step
    (answers : ∀ rule pos answer, 4 * (tokens.length - pos) + rule.weight ≤ fuel →
      (Answers tokens rule pos answer ↔
        applyRule fuel rule (kindBefore .lineStart tokens pos) (tokens.drop pos) = answer))
    (rules : List Rule) (stops : List TokenKind) (pos : Nat)
    (result : Except Problem (Nat × List Piece))
    (enough : 4 * (tokens.length - pos) + weightOf rules ≤ fuel + 1) :
    Collects tokens rules stops pos result ↔
      parseUntil (fuel + 1) rules stops (kindBefore .lineStart tokens pos) (tokens.drop pos) =
        result := by
  by_cases ends : ∀ t, tokens[pos]? = some t → t.kind ∈ stops
  · rw [collects_done_iff ends, parseUntil_done]
    rwa [List.head?_drop]
  · obtain ⟨t, here, hs⟩ : ∃ t, tokens[pos]? = some t ∧ t.kind ∉ stops := by simpa using ends
    have within := (List.getElem?_eq_some_iff.mp here).1
    have first (reading) : FirstAnswers tokens rules pos reading ↔ firstReading (fun rule =>
        applyRule fuel rule (kindBefore .lineStart tokens pos) (tokens.drop pos)) rules =
          reading := by
      apply firstAnswers_iff
      intro rule hr answer
      have lighter := weight_lt_weightOf hr
      exact answers rule pos answer (by omega)
    have advances := firstReading_advances (fun rule =>
      applyRule_advances fuel rule (kindBefore .lineStart tokens pos) (tokens.drop pos)) rules
    have unfolded := parseUntil_cons fuel (kindBefore .lineStart tokens pos) hs rules
      (tokens.drop (pos + 1))
    rw [← drop_of_getElem? here] at unfolded
    rw [unfolded, collects_more_iff here hs]
    simp only [first, exists_eq_left']
    cases hr : firstReading (fun rule =>
        applyRule fuel rule (kindBefore .lineStart tokens pos) (tokens.drop pos)) rules with
    | error problem => exact Iff.rfl
    | ok reading =>
      cases reading with
      | none => exact Iff.rfl
      | some reading =>
        obtain ⟨taken, piece⟩ := reading
        obtain ⟨some, -⟩ := advances taken piece hr
        -- Fewer tokens are left, so that the smaller bound is enough for the pieces behind.
        have rest (others) := collects rules stops (pos + taken) others (by omega)
        rw [← kindBefore_kindBefore, ← List.drop_drop] at rest
        simp only [Continues, rest, exists_eq_left', Except.bind]

end

/-- The induction is on the bound. Each call inside another has less weight, or fewer tokens are
left to it. -/
theorem calls_answer (tokens : List Token) (fuel : Nat) :
    (∀ rule pos answer, 4 * (tokens.length - pos) + rule.weight ≤ fuel →
      (Answers tokens rule pos answer ↔
        applyRule fuel rule (kindBefore .lineStart tokens pos) (tokens.drop pos) = answer)) ∧
    ∀ rules stops pos result, 4 * (tokens.length - pos) + weightOf rules ≤ fuel →
      (Collects tokens rules stops pos result ↔
        parseUntil fuel rules stops (kindBefore .lineStart tokens pos) (tokens.drop pos) =
          result) := by
  induction fuel with
  | zero =>
    constructor
    · intro rule pos answer enough
      have := rule.weight_pos
      omega
    · intro rules stops pos result enough
      have := weightOf_pos rules
      omega
  | succ fuel ih => exact ⟨answers_step ih.2, collects_step ih.2 ih.1⟩

section
variable {tokens : List Token} {pos fuel : Nat} (enough : parseFuel (tokens.drop pos) ≤ fuel)
include enough

theorem answers_iff (rule : Rule) (answer : Reading) : Answers tokens rule pos answer ↔
    applyRule fuel rule (kindBefore .lineStart tokens pos) (tokens.drop pos) = answer := by
  rw [parseFuel, List.length_drop] at enough
  have := rule.weight_le
  exact (calls_answer tokens fuel).1 rule pos answer (by omega)

theorem collects_iff (rules : List Rule) (stops : List TokenKind)
    (result : Except Problem (Nat × List Piece)) : Collects tokens rules stops pos result ↔
      parseUntil fuel rules stops (kindBefore .lineStart tokens pos) (tokens.drop pos) = result := by
  rw [parseFuel, List.length_drop] at enough
  have := weightOf_le rules
  exact (calls_answer tokens fuel).2 rules stops pos result (by omega)

end

/-- **Reading ends.** On every list of tokens and from every position in it, trying a rule has
exactly one answer, and so has reading pieces with any rules up to any kinds of tokens. It is what
every bound from `parseFuel` on gives. A rule that applies takes at least one of the tokens that are
left and none besides, and pieces end within the list. -/
theorem reading_ends (tokens : List Token) {pos : Nat} (within : pos ≤ tokens.length) :
    (∀ rule, ∃ answer,
      (∀ other, Answers tokens rule pos other ↔ other = answer) ∧
      (∀ fuel, parseFuel (tokens.drop pos) ≤ fuel →
        applyRule fuel rule (kindBefore .lineStart tokens pos) (tokens.drop pos) = answer) ∧
      ∀ taken piece, answer = .ok (some (taken, piece)) →
        1 ≤ taken ∧ taken ≤ tokens.length - pos) ∧
    ∀ rules stops, ∃ result,
      (∀ other, Collects tokens rules stops pos other ↔ other = result) ∧
      (∀ fuel, parseFuel (tokens.drop pos) ≤ fuel →
        parseUntil fuel rules stops (kindBefore .lineStart tokens pos) (tokens.drop pos) = result) ∧
      ∀ taken pieces, result = .ok (taken, pieces) → pos + taken ≤ tokens.length := by
  have least := Nat.le_refl (parseFuel (tokens.drop pos))
  constructor
  · intro rule
    refine ⟨_, fun other => (answers_iff least rule other).trans eq_comm, ?_, ?_⟩
    · intro fuel enough
      exact (answers_iff enough rule _).mp ((answers_iff least rule _).mpr rfl)
    · intro taken piece applied
      rw [← List.length_drop]
      exact applyRule_advances _ rule _ _ taken piece applied
  · intro rules stops
    refine ⟨_, fun other => (collects_iff least rules stops other).trans eq_comm, ?_, ?_⟩
    · intro fuel enough
      exact (collects_iff enough rules stops _).mp ((collects_iff least rules stops _).mpr rfl)
    · intro taken pieces read
      obtain ⟨fits, -⟩ := parseUntil_stays _ rules stops _ _ taken pieces read
      rw [List.length_drop] at fits
      omega

/-- From the `a` of ` a/b ` an alternation takes three tokens, with no end of the line behind. -/
theorem reading_ends_bare :
    let tokens := tokensFrom 0 (" a/b ".toList.map (⟨·, false⟩))
    1 ≤ tokens.length ∧ ∃ piece pieces,
      Answers tokens .alternation 1 (.ok (some (3, piece))) ∧ 3 ≤ tokens.length - 1 ∧
      Collects tokens alternativeRules alternationStops 1 (.ok (3, pieces)) ∧
      1 + 3 ≤ tokens.length := by
  intro tokens
  have within : 1 ≤ tokens.length := by decide
  obtain ⟨rules, runs⟩ := reading_ends tokens within
  obtain ⟨answer, unique, bounded, progress⟩ := rules .alternation
  obtain ⟨result, only, enough, stays⟩ := runs alternativeRules alternationStops
  obtain ⟨piece, applied⟩ : ∃ piece, answer = .ok (some (3, piece)) :=
    ⟨_, (bounded _ (Nat.le_refl _)).symm.trans rfl⟩
  obtain ⟨pieces, read⟩ : ∃ pieces, result = .ok (3, pieces) :=
    ⟨_, (enough _ (Nat.le_refl _)).symm.trans rfl⟩
  exact ⟨within, piece, pieces, (unique _).mpr applied.symm, (progress 3 piece applied).2,
    (only _).mpr read.symm, stays 3 pieces read⟩

end StepExpr.Template
