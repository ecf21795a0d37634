import StepExpr.Proofs.Expression.Validity
import StepExpr.Proofs.Template.Parameters
import StepExpr.Proofs.Template.Tiling

/-!
# Where errors point

An error of a template points at a part of it, and the part is what the error is about.

* `Fault.Concerns` says what part of a template each fault is about, and `Error.Names` what part each
  error is about;
* `parse_placed_problem` and `bind_names`: what is wrong with a template is found at such a part, when
  the template is read or when it is bound;
* `PointsAt` is the line that points at a span;
* `TemplateExpression.create_points` puts the parts together.
-/

namespace StepExpr

namespace Template

variable {source : List Char} {span : Span} {start stop pos : Nat} {opener closer c : Char}
  {node : Node} {nodes children : List Node} {t : Token} {ts tokens : List Token}

/-! ## Parts of a template -/

/-- The span lies in the template. -/
structure Span.Within (span : Span) (source : List Char) : Prop where
  ordered : span.start ≤ span.stop
  inside : span.stop ≤ source.length

/-- The span is that of one character, which is not escaped. -/
structure Shows (source : List Char) (span : Span) (c : Char) : Prop where
  whole : slice source span = [c]
  stands : StandsAt source span.start c

/-- The span is that of two delimiters, which are not escaped, with `inside` between them. -/
structure Delimited (source : List Char) (span : Span) (opener closer : Char)
    (inside : List Char) : Prop where
  whole : slice source span = opener :: (inside ++ [closer])
  opens : StandsAt source span.start opener
  closes : StandsAt source (span.stop - 1) closer

/-- The part of a template that a fault is about. -/
inductive Fault.Concerns (source : List Char) (span : Span) : Fault → Prop where
  /-- The character after a backslash that cannot escape it. -/
  | cantEscape : span.stop = span.start → Unescapable source span.start →
      Concerns source span .cantEscape
  /-- The backslash at the end. -/
  | nothingToEscape : span.stop = span.start → span.start + 1 = source.length →
      source[span.start]? = some '\\' → ¬ Escaped source span.start →
      Concerns source span .nothingToEscape
  | openOptional : Shows source span '(' →
      Concerns source span (.missingEnd .optionalBegin .optionalEnd)
  | openParameter : Shows source span '\x7b' →
      Concerns source span (.missingEnd .parameterBegin .parameterEnd)
  | alternationInOptional : Shows source span '/' → Concerns source span .alternationInOptional
  | reservedInName {d} : d ∈ ['\x7b', '(', ')', '/'] → Shows source span d →
      Concerns source span .reservedInName
  /-- The place next to a slash. -/
  | emptyAlternative : span.stop = span.start →
      (StandsAt source span.start '/' ∨ ∃ pos, pos + 1 = span.start ∧ StandsAt source pos '/') →
      Concerns source span .emptyAlternative
  | onlyOptionalsInAlternative {inside} : Delimited source span '(' ')' inside →
      Concerns source span .onlyOptionalsInAlternative
  | emptyOptional : Delimited source span '(' ')' [] → Concerns source span .emptyOptional
  | parameterInOptional {inside} : Delimited source span '\x7b' '\x7d' inside →
      Concerns source span .parameterInOptional
  | optionalInOptional {inside} : Delimited source span '(' ')' inside →
      Concerns source span .optionalInOptional

/-- A part that has what is wrong with it. -/
structure Problem.Placed (p : Problem) (source : List Char) : Prop where
  within : p.span.Within source
  concerns : p.fault.Concerns source p.span

theorem StandsAt.lt_length (h : StandsAt source pos c) : pos < source.length := by
  obtain ⟨before, after, rfl, rfl, -⟩ := h
  simp

theorem Delimited.of_stands (opens : StandsAt source start opener)
    (closes : StandsAt source stop closer) (ordered : start + 1 ≤ stop) :
    Delimited source ⟨start, stop + 1⟩ opener closer (slice source ⟨start + 1, stop⟩) where
  whole := by
    rw [← slice_append_slice source (by omega : start ≤ stop) (Nat.le_succ stop),
      ← slice_append_slice source (Nat.le_succ start) ordered, opens.slice_eq, closes.slice_eq]
    rfl
  opens := opens
  closes := closes

/-- Two enclosed parts side by side. -/
theorem Delimited.append {mid : Nat} {first second : List Char}
    (h : Delimited source ⟨start, mid⟩ opener closer first)
    (g : Delimited source ⟨mid, stop⟩ opener closer second) (before : start ≤ mid)
    (after : mid ≤ stop) :
    Delimited source ⟨start, stop⟩ opener closer (first ++ [closer] ++ (opener :: second)) where
  whole := by
    rw [← slice_append_slice source before after, h.whole, g.whole]
    simp
  opens := h.opens
  closes := g.closes

/-! ## Problems of tokens -/

theorem Token.Lies.within (h : t.Lies source) : t.span.Within source :=
  ⟨Nat.le_of_lt h.nonempty, h.stop_le⟩

/-- A token that is a delimiter shows it. -/
theorem Token.Lies.shows (h : t.Lies source) (single : t.kind.isRun = false)
    (symbol : t.kind.symbol.toList = [c]) : Shows source t.span c := by
  obtain ⟨width, stands⟩ := h.stands single symbol
  obtain ⟨kind, text, written, ⟨start, stop⟩⟩ := t
  obtain rfl : stop = start + 1 := width
  exact ⟨stands.slice_eq, stands⟩

/-- What a pass keeps in mind are delimiters that it has met. -/
structure Scan.Recalls (s : Scan) (ts : List Token) : Prop where
  opened : ∀ t ∈ s.opened, t ∈ ts ∧ t.kind = .optionalBegin
  name : ∀ t ∈ s.name, t ∈ ts ∧ t.kind = .parameterBegin

theorem Scan.Recalls.step {s r : Scan} (h : s.Recalls ts) (passed : s.step t = .ok r) :
    r.Recalls (ts ++ [t]) := by
  have opened : ∀ u ∈ s.opened, u ∈ ts ++ [t] ∧ u.kind = .optionalBegin := fun u hu =>
    ⟨by simp [(h.opened u hu).1], (h.opened u hu).2⟩
  obtain ⟨frames, name⟩ := s
  cases name with
  | some brace =>
    have name : brace ∈ ts ++ [t] ∧ brace.kind = .parameterBegin :=
      ⟨by simp [(h.name brace rfl).1], (h.name brace rfl).2⟩
    cases kind : t.kind <;> simp only [Scan.step, kind] at passed
    case parameterEnd =>
      cases passed
      exact ⟨opened, by simp⟩
    all_goals cases passed
    all_goals exact ⟨opened, by simpa using name⟩
  | none =>
    cases kind : t.kind <;> simp only [Scan.step, kind] at passed
    case optionalBegin =>
      cases passed
      exact ⟨List.forall_mem_cons.mpr ⟨by simp [kind], opened⟩, by simp⟩
    case optionalEnd =>
      cases passed
      exact ⟨fun u hu => opened u (List.mem_of_mem_tail hu), by simp⟩
    case parameterBegin =>
      cases passed
      exact ⟨opened, by simp [kind]⟩
    case alternation =>
      split at passed <;> cases passed
      exact ⟨opened, by simp⟩
    case lineEnd =>
      split at passed <;> cases passed
      exact ⟨opened, by simp⟩
    all_goals
      cases passed
      exact ⟨opened, by simp⟩

theorem Scan.Recalls.run {s r : Scan} {us : List Token} (h : s.Recalls us)
    (passed : s.run ts = .ok r) : r.Recalls (us ++ ts) := by
  induction ts generalizing s us with
  | nil =>
    obtain rfl := Except.ok.inj passed
    rwa [List.append_nil]
  | cons t ts ih =>
    cases first : s.step t with
    | error p =>
      rw [run_cons_error first] at passed
      cases passed
    | ok next =>
      rw [run_cons_ok first] at passed
      have later := ih (h.step first) passed
      rwa [List.append_assoc] at later

/-- What a pass finds is placed, if the delimiters that it has met are. -/
theorem Scan.Finds.placed {s : Scan} {problem : Problem} (h : s.Finds t problem)
    (recalls : s.Recalls ts)
    (lies : ∀ u, u ∈ ts ∨ u = t → u.kind.IsInner → u.Lies source) : problem.Placed source := by
  cases h with
  | slash kind =>
    have here := lies t (.inr rfl) (by simp [kind, TokenKind.IsInner])
    exact ⟨here.within, .alternationInOptional (here.shows (by simp [kind, TokenKind.isRun])
      (by simp [kind, TokenKind.symbol]))⟩
  | name _ kinds =>
    have here := lies t (.inr rfl) (by
      simp only [List.mem_cons, List.not_mem_nil, or_false] at kinds
      rcases kinds with kind | kind | kind | kind <;> simp [kind, TokenKind.IsInner])
    refine ⟨here.within, ?_⟩
    simp only [List.mem_cons, List.not_mem_nil, or_false] at kinds
    rcases kinds with kind | kind | kind | kind
    all_goals
      refine .reservedInName ?_ (here.shows (by simp [kind, TokenKind.isRun])
        (by simp [kind, TokenKind.symbol]; rfl))
      simp
  | @optional opener opened _ _ same =>
    obtain ⟨met, kind⟩ := recalls.opened opener (by simp [same])
    have here := lies opener (.inl met) (by simp [kind, TokenKind.IsInner])
    exact ⟨here.within, .openOptional (here.shows (by simp [kind, TokenKind.isRun])
      (by simp [kind, TokenKind.symbol]))⟩
  | @parameter brace _ same =>
    obtain ⟨met, kind⟩ := recalls.name brace (by simp [same])
    have here := lies brace (.inl met) (by simp [kind, TokenKind.IsInner])
    exact ⟨here.within, .openParameter (here.shows (by simp [kind, TokenKind.isRun])
      (by simp [kind, TokenKind.symbol]))⟩

theorem escapeError_placed {e : EscapeError} (h : tokenize source = .error e) :
    e.problem.Placed source := by
  rcases tokenize_failsWith_iff.mp h with ⟨pos, bad, -, rfl⟩ | ⟨-, ⟨pos, last, here, free⟩, rfl⟩
  · obtain ⟨-, c, there, -⟩ := id bad
    have inside := (List.getElem?_eq_some_iff.mp there).1
    rw [EscapeError.problem, Nat.zero_add]
    exact ⟨⟨Nat.le_refl _, Nat.le_of_lt inside⟩, .cantEscape rfl bad⟩
  · obtain rfl : pos = 0 + source.length - 1 := by omega
    exact ⟨⟨Nat.le_refl _, by simp [EscapeError.problem]⟩,
      .nothingToEscape rfl last here free⟩

/-- The problem of a template that cannot be read is placed. -/
theorem parse_placed_problem {problem : Problem} (h : parse source = .error problem) :
    problem.Placed source := by
  cases cut : tokenize source with
  | error e =>
    have same : parse source = .error e.problem := by simp [parse, cut, Except.mapError, bind,
      Except.bind]
    obtain rfl := Except.error.inj (same.symm.trans h)
    exact escapeError_placed cut
  | ok all =>
    obtain ⟨before, t, after, s, same, passed, failed⟩ :=
      Scan.run_eq_error_iff.mp (parse_error cut h)
    obtain ⟨tokens, rfl, tokenized⟩ := tokenize_sound cut
    have start : Scan.start.Recalls [] := ⟨by simp [Scan.start], by simp [Scan.start]⟩
    have recalls : s.Recalls before := start.run passed
    refine (Scan.step_finds failed).placed recalls fun u met inner => ?_
    have there : u ∈ edgeToken .lineStart 0 :: (tokens ++ [edgeToken .lineEnd source.length]) := by
      rw [same]
      rcases met with met | rfl <;> simp_all
    simp only [List.mem_cons, List.mem_append, List.not_mem_nil, or_false] at there
    rcases there with rfl | there | rfl
    · exact absurd rfl inner.1
    · exact tokenized.lies u there
    · exact absurd rfl inner.2

/-! ## Errors of trees -/

theorem Placed.child (h : Placed source node) : ∀ child ∈ node.children, Placed source child := by
  cases h with
  | text => simp [Node.children]
  | optional _ _ inside => exact inside
  | parameter _ _ inside => exact inside
  | alternative inside => exact inside
  | alternation inside => exact inside
  | expression inside => exact inside

theorem Tile.ordered (h : Tile start (nodes.map Node.span) stop)
    (placed : ∀ node ∈ nodes, Placed source node) : start ≤ stop :=
  (h.faithful fun node hn => (placed node hn).faithful).1

/-- An optional or a parameter that is placed stands between its delimiters. -/
theorem delimited_of_tile (opens : StandsAt source start opener)
    (closes : StandsAt source stop closer) (tile : Tile (start + 1) (children.map Node.span) stop)
    (placed : ∀ child ∈ children, Placed source child) :
    Span.Within ⟨start, stop + 1⟩ source ∧
      Delimited source ⟨start, stop + 1⟩ opener closer (slice source ⟨start + 1, stop⟩) := by
  have ordered := tile.ordered placed
  have inside := closes.lt_length
  exact ⟨⟨by dsimp only; omega, inside⟩, .of_stands opens closes ordered⟩

theorem Placed.optional_delimited (h : Placed source node) (kind : node.hasKind .optional = true) :
    node.span.Within source ∧ ∃ inside, Delimited source node.span '(' ')' inside := by
  cases h with
  | optional opens closes inside tile =>
    obtain ⟨within, delimited⟩ := delimited_of_tile opens closes tile inside
    exact ⟨within, _, delimited⟩
  | _ => cases kind

theorem Placed.parameter_delimited (h : Placed source node) (kind : node.hasKind .parameter = true) :
    node.span.Within source ∧ ∃ inside, Delimited source node.span '\x7b' '\x7d' inside := by
  cases h with
  | parameter opens closes inside tile =>
    obtain ⟨within, delimited⟩ := delimited_of_tile opens closes tile inside
    exact ⟨within, _, delimited⟩
  | _ => cases kind

theorem OptionalProblem.placed {problem : Problem} (h : OptionalProblem children span problem)
    (whole : Placed source (.branch .optional children span)) : problem.Placed source := by
  cases h with
  | @parameter before inner after same _ kind =>
    obtain ⟨within, inside, delimited⟩ :=
      (whole.child inner (by simp [Node.children, same])).parameter_delimited kind
    exact ⟨within, .parameterInOptional delimited⟩
  | @optional before inner after _ same _ kind =>
    obtain ⟨within, inside, delimited⟩ :=
      (whole.child inner (by simp [Node.children, same])).optional_delimited kind
    exact ⟨within, .optionalInOptional delimited⟩
  | empty none =>
    subst none
    cases whole with
    | @optional _ start stop opens closes _ tile =>
      obtain ⟨within, delimited⟩ := delimited_of_tile opens closes tile (by simp)
      obtain rfl : start + 1 = stop := tile
      rw [slice_self] at delimited
      exact ⟨within, .emptyOptional delimited⟩

/-- Optionals side by side stand between the first parenthesis and the last. -/
theorem delimited_of_optionals (tile : Tile start (nodes.map Node.span) stop) (some : nodes ≠ [])
    (placed : ∀ node ∈ nodes, Placed source node)
    (kinds : ∀ node ∈ nodes, node.hasKind .optional = true) :
    Span.Within ⟨start, stop⟩ source ∧ ∃ inside, Delimited source ⟨start, stop⟩ '(' ')' inside := by
  induction nodes generalizing start with
  | nil => exact absurd rfl some
  | cons node nodes ih =>
    obtain ⟨first, others⟩ := List.forall_mem_cons.mp placed
    obtain ⟨kind, kinds⟩ := List.forall_mem_cons.mp kinds
    obtain ⟨rfl, tile⟩ := tile
    obtain ⟨within, inside, delimited⟩ := first.optional_delimited kind
    cases nodes with
    | nil =>
      obtain rfl : node.span.stop = stop := tile
      exact ⟨within, inside, delimited⟩
    | cons =>
      obtain ⟨within', inside', delimited'⟩ := ih tile (by simp) others kinds
      exact ⟨⟨Nat.le_trans within.ordered within'.ordered, within'.inside⟩, _,
        delimited.append delimited' within.ordered within'.ordered⟩

/-- Each of several parts between slashes has a slash on one of its sides. -/
theorem TileBetween.beside_slash {before after : List Span}
    (h : TileBetween source start (before ++ span :: after) stop) (several : before ++ after ≠ []) :
    StandsAt source span.stop '/' ∨ ∃ pos, pos + 1 = span.start ∧ StandsAt source pos '/' := by
  induction before generalizing start with
  | nil =>
    cases after with
    | nil => exact absurd rfl several
    | cons next after => exact .inl h.2.1
  | cons first before ih =>
    cases before with
    | nil =>
      obtain ⟨-, stands, rest⟩ := h
      cases after with
      | nil =>
        obtain rfl : span = ⟨first.stop + 1, stop⟩ := rest
        exact .inr ⟨first.stop, rfl, stands⟩
      | cons next after => exact .inl rest.2.1
    | cons second before => exact ih h.2.2 (by simp)

theorem TileBetween.within (h : TileBetween source start (nodes.map Node.span) stop)
    (placed : ∀ node ∈ nodes, Placed source node) (inside : stop ≤ source.length) :
    ∀ node ∈ nodes, node.span.Within source := by
  induction nodes generalizing start with
  | nil => simp
  | cons node nodes ih =>
    obtain ⟨first, others⟩ := List.forall_mem_cons.mp placed
    have ordered := first.faithful.ordered
    cases nodes with
    | nil =>
      have whole : node.span = ⟨start, stop⟩ := h
      simp only [List.mem_singleton, forall_eq]
      exact ⟨ordered, by rw [whole]; exact inside⟩
    | cons next nodes =>
      obtain ⟨-, stands, rest⟩ := h
      exact List.forall_mem_cons.mpr ⟨⟨ordered, Nat.le_of_lt stands.lt_length⟩, ih rest others⟩

theorem Tile.within (h : Tile start (nodes.map Node.span) stop)
    (placed : ∀ node ∈ nodes, Placed source node) (inside : stop ≤ source.length) :
    ∀ node ∈ nodes, node.span.Within source := by
  induction nodes generalizing start with
  | nil => simp
  | cons node nodes ih =>
    obtain ⟨first, others⟩ := List.forall_mem_cons.mp placed
    obtain ⟨-, rest⟩ := h
    refine List.forall_mem_cons.mpr ⟨⟨first.faithful.ordered, ?_⟩, ih rest others⟩
    exact Nat.le_trans (rest.ordered others) inside

/-- The alternative without text that an alternation is refused for. -/
theorem alternative_placed {before after : List Node} {whole : Span}
    (placed : Placed source
      (.branch .alternation (before ++ .branch .alternative children span :: after) whole))
    (several : 2 ≤ (before ++ .branch .alternative children span :: after).length)
    (within : whole.Within source) :
    (children = [] → Problem.Placed ⟨.emptyAlternative, span⟩ source) ∧
    (children ≠ [] → (∀ child ∈ children, child.hasKind .optional = true) →
      Problem.Placed ⟨.onlyOptionalsInAlternative, span⟩ source) := by
  have inner := placed.child (.branch .alternative children span) (by simp [Node.children])
  cases placed with
  | @alternation _ start stop inside tile =>
    have here : span.Within source :=
      tile.within inside within.inside (.branch .alternative children span) (by simp)
    cases inner with
    | @alternative _ start' stop' within' tile' =>
      constructor
      · rintro rfl
        obtain rfl : start' = stop' := tile'
        rw [List.map_append, List.map_cons] at tile
        refine ⟨here, .emptyAlternative rfl (tile.beside_slash fun none => ?_)⟩
        simp only [List.append_eq_nil_iff, List.map_eq_nil_iff] at none
        simp [none] at several
      · intro some kinds
        obtain ⟨-, inside, delimited⟩ := delimited_of_optionals tile' some within' kinds
        exact ⟨here, .onlyOptionalsInAlternative delimited⟩

/-! ## Names of parameters -/

theorem escaped_append {rest : List Char} (inside : pos ≤ source.length) :
    Escaped (source ++ rest) pos ↔ Escaped source pos := by
  induction pos with
  | zero => simp
  | succ pos ih => rw [escaped_succ, escaped_succ, ih (by omega), List.getElem?_append_left inside]

/-- From a position that is not escaped on, the pairing begins anew. -/
theorem escaped_drop (free : ¬ Escaped source start) :
    Escaped source (start + pos) ↔ Escaped (source.drop start) pos := by
  induction pos with
  | zero => simpa using free
  | succ pos ih => rw [← Nat.add_assoc, escaped_succ, escaped_succ, ih, List.getElem?_drop]

/-- What does not end in an open escape is unescaped apart from what follows. -/
theorem unescape_append {first rest : List Char} (free : ¬ Escaped first first.length) :
    unescape (first ++ rest) = unescape first ++ unescape rest := by
  fun_induction unescape first with
  | case1 c first ih =>
    have later : ¬ Escaped first first.length := mt escaped_pair.mpr free
    simp [unescape, ih later]
  | case2 c first notPair ih =>
    have plain : c ≠ '\\' := by
      rintro rfl
      cases first with
      | nil => exact free ⟨rfl, not_escaped_zero⟩
      | cons d first => exact notPair d first rfl rfl
    have later : ¬ Escaped first first.length := mt (escaped_cons plain).mpr free
    rw [List.cons_append, unescape, ih later]
    · simp
    · exact fun d rest' same => absurd same plain
  | case3 => simp

theorem slice_eq_drop_take (ordered : start ≤ stop) :
    source.drop start = slice source ⟨start, stop⟩ ++ source.drop stop := by
  have later : source.drop stop = (source.drop start).drop (stop - start) := by
    rw [List.drop_drop]
    congr 1
    omega
  rw [later, slice, List.take_append_drop]

/-- Tokens side by side have the text between their ends, without escapes. -/
theorem Lexed.unescape_slice (lexed : Lexed source tokens) (some : ∀ t ∈ ts, t ∈ tokens)
    (side : Contiguous start ts stop) (inside : stop ≤ source.length)
    (free : ¬ Escaped source stop) :
    unescape (slice source ⟨start, stop⟩) = ts.flatMap Token.text := by
  induction ts generalizing start with
  | nil =>
    obtain rfl : start = stop := side
    simp [unescape]
  | cons t ts ih =>
    obtain ⟨first, others⟩ := List.forall_mem_cons.mp some
    obtain ⟨rfl, longer, rest⟩ := side
    have ordered := Contiguous.le rest
    have closed : ¬ Escaped source t.span.stop := by
      cases ts with
      | nil =>
        obtain rfl : t.span.stop = stop := rest
        exact free
      | cons u ts =>
        rw [← rest.1]
        exact lexed.unescaped u (others u List.mem_cons_self)
    -- the end of the token is no escape, and so its text does not reach beyond it
    have size : (slice source t.span).length = t.span.stop - t.span.start := by
      simp only [slice, List.length_take, List.length_drop]
      omega
    have alone : ¬ Escaped (slice source t.span) (slice source t.span).length := by
      rw [← @escaped_append _ _ (source.drop t.span.stop) (Nat.le_refl _),
        ← slice_eq_drop_take (Nat.le_of_lt longer), size,
        ← escaped_drop (lexed.unescaped t first), Nat.add_sub_cancel' (Nat.le_of_lt longer)]
      exact closed
    rw [← slice_append_slice source (Nat.le_of_lt longer) ordered, unescape_append alone,
      ih others rest, List.flatMap_cons, lexed.text_eq t first, lexed.source_eq t first]

/-- Between the braces of a parameter stands its name, with its escapes. -/
theorem parameter_named {root : Node} (h : parse source = .ok root)
    (child : Node.branch .parameter children span ∈ root.children) :
    ∃ inside, Delimited source span '\x7b' '\x7d' inside ∧
      unescape inside = Node.textOfAll children := by
  obtain ⟨gs, valid, rfl, before, first, name, last, after, all, rfl, rfl, opens, -, closes⟩ :=
    spelled_of_parse h (mem_subnodes_of_child child)
  have lexed := lexed_tokensFrom valid
  have lies : ∀ t ∈ tokensFrom 0 gs, t.Lies (written gs) := @tokensFrom_lies [] gs (by simp) valid
  rw [all] at lexed lies
  obtain ⟨start, -, -, longer, rest⟩ := Contiguous.append.mp lexed.contiguous
  obtain ⟨stop, side, at', longer', -⟩ := Contiguous.append.mp rest
  obtain ⟨width, stands⟩ := (lies first (by simp)).stands
    (by simp [opens, TokenKind.isRun]) (by simp [opens, TokenKind.symbol]; rfl)
  obtain ⟨width', stands'⟩ := (lies last (by simp)).stands
    (by simp [closes, TokenKind.isRun]) (by simp [closes, TokenKind.symbol]; rfl)
  have ordered := side.le
  rw [width] at side ordered
  rw [width']
  refine ⟨_, .of_stands stands stands' (at' ▸ ordered), ?_⟩
  rw [textOfAll_textNodes, at']
  refine lexed.unescape_slice (fun t ht => by simp [ht]) side ?_ ?_
  · rw [← at']
    exact Nat.le_of_lt stands'.lt_length
  · rw [← at']
    exact lexed.unescaped last (by simp)

/-! ## Errors -/

end Template

open Template

variable {source : List Char} {span : Span} {error : Error}

/-- The part of a template that an error names. -/
inductive Error.Names (source : List Char) : Error → Span → Prop where
  | template {problem} : problem.fault.Concerns source problem.span →
      Names source (.template problem (String.ofList source)) problem.span
  /-- The name stands between the braces, with its escapes. -/
  | undefinedType {name span inside} : Delimited source span '\x7b' '\x7d' inside →
      name = String.ofList (unescape inside) →
      Names source (.undefinedType name (String.ofList source) span) span

theorem Template.Problem.Placed.names {problem : Problem} (h : problem.Placed source) :
    ∃ span, (Error.template problem (String.ofList source)).Names source span ∧
      span.Within source :=
  ⟨problem.span, .template h.concerns, h.within⟩

theorem Template.Node.Plain.optional_of_not_text {node : Node} (plain : node.Plain)
    (noParameter : node.hasKind .parameter = false) (noText : node.isText = false) :
    node.hasKind .optional = true := by
  cases plain with
  | text => cases noText
  | optional => rfl
  | parameter => cases noParameter

/-- The error of an alternation that fails names a part of it. -/
theorem Template.alternation_names {find : String → Option ParameterType} {alternatives : List Node}
    {e : BindError} (shape : (Node.branch .alternation alternatives span).IsAlternation)
    (placed : Placed source (.branch .alternation alternatives span)) (within : span.Within source)
    (fails : (Node.branch .alternation alternatives span).Fails find e) :
    ∃ span, (e.error (String.ofList source)).Names source span ∧ span.Within source := by
  obtain ⟨_, _, same, several, each⟩ := shape
  cases same
  cases fails with
  | emptyAlternative => exact ((alternative_placed placed several within).1 rfl).names
  | alternative _ some noText =>
    refine ((alternative_placed placed several within).2 some fun child hc => ?_).names
    obtain ⟨_, _, same, plain⟩ := each _ (List.mem_append_right _ List.mem_cons_self)
    cases same
    exact (plain child hc).1.optional_of_not_text (plain child hc).2 (noText child hc)
  | @inside _ _ _ children optional _ _ _ same _ wrong =>
    have there : Node.branch .optional children optional ∈ alternatives.flatMap Node.children := by
      simp [same]
    obtain ⟨alternative, ha, hc⟩ := List.mem_flatMap.mp there
    exact (wrong.placed ((placed.child alternative ha).child _ hc)).names

/-- The error of a template that cannot be bound names a part of it. -/
theorem Template.bind_names {root : Node} {e : BindError} (h : parse source = .ok root)
    (r : Registry) (failed : root.bind r.byName? = .error e) :
    ∃ span, (e.error (String.ofList source)).Names source span ∧ span.Within source := by
  have placed := parse_placed h
  obtain ⟨nodes, whole, rfl, shape⟩ := shape_of_parse h
  obtain ⟨before, child, after, same, -, fails⟩ := (bind_eq_error_iff shape).mp failed
  have there : child ∈ nodes := by simp [same]
  have within : child.span.Within source := by
    cases placed with
    | expression inside tile => exact tile.within inside (Nat.le_refl _) child there
  rcases shape child there with plain | alternation
  · cases plain with
    | text => cases fails
    | optional =>
      cases fails with
      | optional wrong => exact (wrong.placed (placed.child _ there)).names
    | parameter =>
      cases fails with
      | parameter =>
        obtain ⟨inside, delimited, named⟩ := parameter_named h there
        exact ⟨_, .undefinedType delimited (congrArg String.ofList named.symm), within⟩
  · obtain ⟨alternatives, span, rfl, -⟩ := id alternation
    exact alternation_names alternation (placed.child _ there) within fails

/-! ## Messages -/

/-- A line with carets under the first and the last character of a span and dashes between. -/
structure PointsAt (row : List Char) (span : Span) : Prop where
  width : row.length = max (span.start + 1) span.stop
  blank : ∀ pos < span.start, row[pos]? = some ' '
  first : row[span.start]? = some '^'
  dash : ∀ pos, span.start < pos → pos + 1 < span.stop → row[pos]? = some '-'
  last : span.start + 1 < span.stop → row[span.stop - 1]? = some '^'

theorem pointer_pointsAt (span : Span) :
    ∃ row, pointer span = String.ofList row ∧ PointsAt row span := by
  refine ⟨_, rfl, ?_⟩
  by_cases wide : span.start + 1 < span.stop
  · rw [if_pos wide]
    refine ⟨?_, fun pos before => ?_, ?_, fun pos after before => ?_, fun _ => ?_⟩
    · simp
      omega
    · simp [List.getElem?_append_left, before]
    · simp
    · rw [List.getElem?_append_right (by simp; omega), List.getElem?_append_left (by simp; omega),
        List.getElem?_replicate_of_lt (by simp; omega)]
    · have skipped : span.stop - 1 - span.start - 1 = span.stop - span.start - 2 := by omega
      rw [List.getElem?_append_right (by simp; omega), List.getElem?_append_right (by simp; omega)]
      simp [Nat.sub_add_eq, skipped]
  · rw [if_neg wide]
    refine ⟨?_, fun pos before => ?_, ?_, fun pos after before => ?_, fun wide' => ?_⟩
    · simp
      omega
    · simp [List.getElem?_append_left, before]
    · simp
    · omega
    · exact absurd wide' wide

/-- The message of an error gives the column, the template, a line under it, and then what to do. -/
def Error.Reports (error : Error) (source : List Char) (column : Nat) (row : List Char) : Prop :=
  ∃ advice, error.message = "This Cucumber Expression has a problem at column " ++
    toString column ++ ":\n\n" ++ String.ofList source ++ "\n" ++ String.ofList row ++ "\n" ++ advice

theorem reports_of_pointedMessage {description solution : String} {row : List Char}
    (h : error.message = pointedMessage (String.ofList source) span description solution)
    (same : pointer span = String.ofList row) : error.Reports source (span.start + 1) row := by
  unfold Error.Reports
  refine ⟨description ++ (".\n" ++ solution), ?_⟩
  rw [h]
  unfold pointedMessage
  rw [same]
  simp only [String.append_assoc]

theorem Error.Names.reports (h : error.Names source span) :
    ∃ row, PointsAt row span ∧ error.Reports source (span.start + 1) row := by
  obtain ⟨row, same, points⟩ := pointer_pointsAt span
  refine ⟨row, points, ?_⟩
  cases h with
  | template => exact reports_of_pointedMessage rfl same
  | undefinedType => exact reports_of_pointedMessage rfl same

/-- A template that fails for its syntax or for a type that is not registered fails with a span of
the template. The span is the part that the error names, and the line under the template in the
message points at it. -/
theorem TemplateExpression.create_points {r : Registry}
    (h : TemplateExpression.create r source = .error error) (valid : error ≠ .invalidPattern) :
    ∃ span, error.Names source span ∧ span.Within source ∧
      ∃ row, PointsAt row span ∧ error.Reports source (span.start + 1) row := by
  suffices named : ∃ span, error.Names source span ∧ span.Within source by
    obtain ⟨span, names, within⟩ := named
    exact ⟨span, names, within, names.reports⟩
  cases parsed : Template.parse source with
  | error problem =>
    simp only [create, parsed, Except.mapError, bind, Except.bind, Except.error.injEq] at h
    exact h ▸ (parse_placed_problem parsed).names
  | ok root =>
    cases bound : root.bind r.byName? with
    | error e =>
      simp only [create, parsed, bound, Except.mapError, bind, Except.bind,
        Except.error.injEq] at h
      exact h ▸ bind_names parsed r bound
    | ok whole =>
      rw [create_of_bind parsed bound] at h
      split at h
      · cases h
      · exact absurd (Except.error.inj h).symm valid

theorem TemplateExpression.create_points_unknown :
    let error := Error.undefinedType "a(b" "I \x7ba\\(b\x7d s" ⟨2, 8⟩
    TemplateExpression.create .initial "I \x7ba\\(b\x7d s".toList = .error error ∧
    error ≠ .invalidPattern ∧ ∃ span, error.Names "I \x7ba\\(b\x7d s".toList span ∧
      span.Within "I \x7ba\\(b\x7d s".toList ∧ ∃ row, PointsAt row span ∧
        error.Reports "I \x7ba\\(b\x7d s".toList (span.start + 1) row := by
  intro error
  have failed : (match TemplateExpression.create .initial "I \x7ba\\(b\x7d s".toList with
    | .error e => some e
    | .ok _ => none) = some error := by decide +kernel
  have valid : error ≠ .invalidPattern := nofun
  cases h : TemplateExpression.create .initial "I \x7ba\\(b\x7d s".toList with
  | ok e =>
    rw [h] at failed
    cases failed
  | error e =>
    rw [h] at failed
    obtain rfl := Option.some.inj failed
    exact ⟨rfl, valid, create_points h valid⟩

end StepExpr
