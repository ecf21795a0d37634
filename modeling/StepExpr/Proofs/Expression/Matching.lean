import StepExpr.Expression.Basic
import StepExpr.Proofs.Regex.Program
import StepExpr.Proofs.Template.Pattern

/-!
# What template expressions match

The matcher of a template finds something in a text exactly if the nodes of the template take up the
whole text.

* `matches_anchored_iff`: between its anchors a pattern matches the whole text;
* `TemplateExpression.match?_isSome_iff` puts the parts together.
-/

namespace StepExpr

open Pattern Template

variable {text : Array Char} {i j : Nat}

/-! ## Anchors -/

theorem adds_lineStart : Adds "^".toList [.atom (.anchor .lineStart)] := by
  refine .single (l := .atom (.anchor .lineStart)) ?_ fun _ _ _ => rfl
  exact .single (.plain (by simp [IsPlain])) (by simp) (by simp [Outside]) trivial rfl
    fun _ _ => rfl

theorem adds_lineEnd : Adds "$".toList [.atom (.anchor .lineEnd)] := by
  refine .single (l := .atom (.anchor .lineEnd)) ?_ fun _ _ _ => rfl
  exact .single (.plain (by simp [IsPlain])) (by simp) (by simp [Outside]) trivial rfl
    fun _ _ => rfl

/-- Without the flag `m` the start of a line is that of the text. -/
theorem denotes_lineStart (within : i ≤ text.size) :
    (Pattern.atom (.anchor .lineStart)).Denotes text .initial i j ↔ i = 0 ∧ i = j := by
  have meaning : Atom.regex? .initial (.anchor .lineStart) = some (.look .textStart) := rfl
  simp only [Denotes, meaning, Option.some.injEq, exists_eq_left', Regex.matches_look, Look.holds,
    Look.before?]
  by_cases first : i = 0
  · simp [first]
  · have before : i - 1 < text.size := by omega
    simp [first, before]

theorem denotes_lineEnd : (Pattern.atom (.anchor .lineEnd)).Denotes text .initial i j ↔
    text.size ≤ i ∧ i = j := by
  have meaning : Atom.regex? .initial (.anchor .lineEnd) = some (.look .textEnd) := rfl
  simp [Denotes, meaning, Look.holds]

/-- The expression of a pattern between anchors matches the whole text or nothing. -/
theorem matches_anchored_iff {s : List Char} {fits : Array Char → Nat → Nat → Prop} {p : Pattern}
    {r : Regex} (h : CompilesTo s fits)
    (parsed : parse? (narrowDigits ("^".toList ++ s ++ "$".toList)) = some p)
    (meaning : p.regex? = some r) :
    (∃ i j, i ≤ text.size ∧ r.Matches text i j) ↔ fits text 0 text.size := by
  obtain ⟨ps, adds, steady, denotes⟩ := h
  have whole : Adds ("^".toList ++ s ++ "$".toList)
      ([.atom (.anchor .lineStart)] ++ ps ++ [.atom (.anchor .lineEnd)]) :=
    (adds_lineStart.append adds).append adds_lineEnd
  have steadyAll : ∀ p ∈ [.atom (.anchor .lineStart)] ++ ps ++ [.atom (.anchor .lineEnd)],
      p.Steady := by
    intro p hp
    rcases List.mem_append.mp hp with hp | hp
    · rcases List.mem_append.mp hp with hp | hp
      · obtain rfl := List.mem_singleton.mp hp
        exact fun _ => rfl
      · exact steady p hp
    · obtain rfl := List.mem_singleton.mp hp
      exact fun _ => rfl
  obtain ⟨-, -, -, distinct, shallow⟩ := parse?_eq_some_iff.mp parsed
  obtain ⟨defined, same⟩ := regex?_spec meaning
  obtain rfl := whole.eq_catOf parsed
  have fine : (catOf _).Fine := ⟨defined, distinct, shallow⟩
  have inside : ∀ p ∈ ps, p.Fine := fun p hp => fine.item steadyAll (by simp [hp])
  have split : ∀ i j, r.Matches text i j ↔
      ∃ k, (∃ l, (Pattern.atom (.anchor .lineStart)).Denotes text .initial i l ∧ fits text l k) ∧
        text.size ≤ k ∧ k = j := by
    intro i j
    rw [same, denotes_catOf steadyAll]
    simp only [denotesAll_append, denotesAll_singleton, denotes inside, denotes_lineEnd]
  constructor
  · rintro ⟨i, j, within, taken⟩
    have stop := taken.le_size within
    obtain ⟨k, ⟨l, start, middle⟩, last, rfl⟩ := (split i j).mp taken
    obtain ⟨rfl, rfl⟩ := (denotes_lineStart within).mp start
    obtain rfl : k = text.size := by omega
    exact middle
  · intro middle
    have start : (Pattern.atom (.anchor .lineStart)).Denotes text .initial 0 0 :=
      (denotes_lineStart (Nat.zero_le _)).mpr ⟨rfl, rfl⟩
    refine ⟨0, text.size, Nat.zero_le _, (split _ _).mpr ?_⟩
    exact ⟨text.size, ⟨0, start, middle⟩, Nat.le_refl _, rfl⟩

/-! ## Templates -/

namespace Template

/-- The pattern of a tree is that of its nodes, between anchors. -/
theorem compilesTo_root {find : String → Option ParameterType} (types : SoundTypes find)
    {children : List Node} {span : Span} {whole : Bound}
    (shape : ∀ child ∈ children, child.Plain ∨ child.IsAlternation)
    (h : (Node.branch .expression children span).bind find = .ok whole) :
    ∃ s, whole.pattern = "^".toList ++ s ++ "$".toList ∧
      CompilesTo s fun text => Node.FitsAll find text children := by
  obtain ⟨parts, bound, rfl⟩ := bind_expression_ok h
  refine ⟨_, rfl, compilesTo_all (bindAll_ok bound fun node hn part hp => ?_)⟩
  rcases shape node hn with plain | alternation
  · exact plain.compilesTo types hp
  · exact alternation.compilesTo types hp

end Template

theorem Registry.Reachable.soundTypes {r : Registry} (h : r.Reachable)
    (tame : ∀ t ∈ r.types, t.Tame) : SoundTypes r.byName? := by
  intro name t found
  have registered := (h.indexed.byName?_eq_some_iff.mp found).1
  exact ⟨h.sound t registered, tame t registered⟩

theorem Matcher.compile?_eq_some_iff {source : List Char} {m : Matcher} :
    Matcher.compile? source = some m ↔ ∃ p r, parse? (narrowDigits source) = some p ∧
      p.regex? = some r ∧ r.isWithinLimit = true ∧
      m = ⟨source, narrowDigits source, r.program, GroupTree.ofPattern source⟩ := by
  simp only [Matcher.compile?, Regex.ofText?, Option.map_eq_some_iff, Option.bind_eq_some_iff,
    Option.filter_eq_some_iff]
  constructor
  · rintro ⟨r, ⟨p, parsed, meaning, small⟩, rfl⟩
    exact ⟨p, r, parsed, meaning, small, rfl⟩
  · rintro ⟨p, r, parsed, meaning, small, rfl⟩
    exact ⟨r, ⟨p, parsed, meaning, small⟩, rfl⟩

theorem Matcher.program_of_compile? {source : List Char} {m : Matcher}
    (h : Matcher.compile? source = some m) : ∃ p r, parse? (narrowDigits source) = some p ∧
      p.regex? = some r ∧ m.program = r.program := by
  obtain ⟨p, r, parsed, meaning, -, rfl⟩ := Matcher.compile?_eq_some_iff.mp h
  exact ⟨p, r, parsed, meaning, rfl⟩

theorem Matcher.compile?_of_regex? {source : List Char} {r : Regex}
    (known : (parse? (narrowDigits source)).bind Pattern.regex? = some r)
    (small : r.isWithinLimit = true) : ∃ m, Matcher.compile? source = some m ∧
      m.program = r.program ∧ m.groups = GroupTree.ofPattern source := by
  obtain ⟨p, parsed, meaning⟩ := Option.bind_eq_some_iff.mp known
  exact ⟨_, Matcher.compile?_eq_some_iff.mpr ⟨p, r, parsed, meaning, small, rfl⟩, rfl, rfl⟩

namespace TemplateExpression

/-- Once a template is read and bound, only its pattern can fail it. -/
theorem create_of_bind {r : Registry} {source : List Char} {root : Node} {whole : Bound}
    (parsed : Template.parse source = .ok root) (bound : root.bind r.byName? = .ok whole) :
    create r source =
      match Matcher.compile? whole.pattern with
      | some m => .ok ⟨source, root, m, whole.types⟩
      | none => .error .invalidPattern := by
  simp only [create, parsed, bound, Except.mapError, bind, Except.bind]
  rfl

theorem create_of_compile? {r : Registry} {source pattern : List Char} {root : Node}
    {types : List ParameterType} {m : Matcher} (parsed : Template.parse source = .ok root)
    (bound : root.bind r.byName? = .ok ⟨pattern, types⟩)
    (compiled : Matcher.compile? pattern = some m) : create r source = .ok ⟨source, root, m, types⟩ := by
  rw [create_of_bind parsed bound, compiled]

theorem create_eq_ok {r : Registry} {source : List Char} {e : TemplateExpression}
    (h : create r source = .ok e) : ∃ root bound m, Template.parse source = .ok root ∧
      root.bind r.byName? = .ok bound ∧ Matcher.compile? bound.pattern = some m ∧
      e = ⟨source, root, m, bound.types⟩ := by
  unfold create at h
  cases parsed : Template.parse source with
  | error problem => simp [parsed, Except.mapError, bind, Except.bind] at h
  | ok root =>
    cases bound : root.bind r.byName? with
    | error problem => simp [parsed, bound, Except.mapError, bind, Except.bind] at h
    | ok whole =>
      cases compiled : Matcher.compile? whole.pattern with
      | none => simp [parsed, bound, compiled, Except.mapError, bind, Except.bind] at h
      | some m =>
        simp only [parsed, bound, compiled, Except.mapError, bind, Except.bind, pure, Except.pure,
          Except.ok.injEq] at h
        exact ⟨root, whole, m, rfl, bound, compiled, h.symm⟩

theorem create_ok {r : Registry} {source : List Char} {e : TemplateExpression}
    (h : create r source = .ok e) : ∃ bound, Template.parse source = .ok e.root ∧
      e.root.bind r.byName? = .ok bound ∧ Matcher.compile? bound.pattern = some e.matcher := by
  obtain ⟨root, bound, m, parsed, binds, compiled, rfl⟩ := create_eq_ok h
  exact ⟨bound, parsed, binds, compiled⟩

/-- The matcher of a template finds something in a text exactly if the text can be cut, from its
start to its end, into parts that the nodes of the template stand for. -/
theorem match?_isSome_iff {r : Registry} (reachable : r.Reachable) (tame : ∀ t ∈ r.types, t.Tame)
    {source : List Char} {e : TemplateExpression} (h : create r source = .ok e)
    (text : List Char) : (e.matcher.match? text).isSome = true ↔
      Node.FitsAll r.byName? text.toArray e.root.children 0 text.length := by
  obtain ⟨whole, parsed, bound, compiled⟩ := create_ok h
  obtain ⟨children, span, root, shape⟩ := shape_of_parse parsed
  rw [root] at bound
  obtain ⟨s, anchored, compiles⟩ := compilesTo_root (reachable.soundTypes tame) shape bound
  obtain ⟨p, regex, read, meaning, program⟩ := Matcher.program_of_compile? compiled
  rw [anchored] at read
  have found : (∃ i j, i ≤ text.toArray.size ∧ regex.Matches text.toArray i j) ↔
      Node.FitsAll r.byName? text.toArray children 0 text.toArray.size :=
    matches_anchored_iff compiles read meaning
  rw [Matcher.match?, Option.isSome_map, program, Regex.program_search_isSome_iff, found, root]
  simp only [Node.children, List.size_toArray]

theorem match?_isSome_int : ∃ e, create .initial "{int}(s)".toList = .ok e ∧
    (e.matcher.match? "42s".toList).isSome = true := by
  have made : (create .initial "{int}(s)".toList).isOk = true := by decide +kernel
  have tame : ∀ t ∈ Registry.initial.types, t.Tame := Registry.types_initial ▸ builtin_tame
  cases h : create .initial "{int}(s)".toList with
  | error problem => rw [h] at made; cases made
  | ok e =>
    refine ⟨e, rfl, (match?_isSome_iff .initial tame h _).mpr ?_⟩
    obtain ⟨-, parsed, -⟩ := create_ok h
    -- reducing the parser takes too long, but the items of its tokens are unique
    have reads := @Reads.parameter .line ⟨.parameterBegin, ['\x7b'], ['\x7b'], ⟨0, 1⟩⟩
      ⟨.parameterEnd, ['\x7d'], ['\x7d'], ⟨4, 5⟩⟩
      [⟨.text, ['i', 'n', 't'], ['i', 'n', 't'], ⟨1, 4⟩⟩] _ _ rfl (by simp [IsName]) rfl
      (@Reads.optional .line ⟨.optionalBegin, ['('], ['('], ⟨5, 6⟩⟩
        ⟨.optionalEnd, [')'], [')'], ⟨7, 8⟩⟩ [⟨.text, ['s'], ['s'], ⟨6, 7⟩⟩] _ _ _ rfl
        (.text (.inr (.inl rfl)) .nil) rfl .nil)
    rw [root_of_parse parsed (tokenize_eq _) reads]
    have digits : FitsRegexp "42s".toList.toArray "\\d+" 0 2 := by
      have meaning : (parse? (narrowDigits "\\d+".toList)).bind Pattern.regex? =
          some (.rounds 1 none true (.set false ⟨[⟨48, 57⟩]⟩)) := by decide +kernel
      obtain ⟨p, narrowed, found⟩ := Option.bind_eq_some_iff.mp meaning
      refine ⟨p, _, narrowed, found, Regex.matches_rounds.mpr ?_⟩
      refine ⟨2, ⟨by omega, by simp⟩, 1, ?_, 2, ?_, rfl⟩
      · exact Regex.matches_set.mpr ⟨⟨'4', rfl, rfl⟩, rfl⟩
      · exact Regex.matches_set.mpr ⟨⟨'2', rfl, rfl⟩, rfl⟩
    refine ⟨2, ⟨Builtin.integer, rfl, _, ?_, digits⟩, 3, .inr ⟨3, ⟨rfl, rfl⟩, rfl⟩, rfl⟩
    simp [Builtin.integer, Builtin.integerRegexps]

end TemplateExpression

end StepExpr
