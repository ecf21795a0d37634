import StepExpr.Proofs.Expression.Arguments

/-!
# Templates of one parameter

A template of one parameter matches the texts that the expression of its type matches in full.

* `TemplateExpression.create_parameter`: the name of a type in braces is a template;
* `Regex.matches_lone`: the expression of a type is tried between the ends of the text;
* `TemplateExpression.arguments_lone`: the argument for a type without groups of its own has the
  whole text.
-/

namespace StepExpr

open Template

/-! ## Templates -/

/-- The pattern of a template of one parameter. -/
def ParameterType.lonePattern (t : ParameterType) : List Char :=
  "^".toList ++ parameterPattern t.regexps ++ "$".toList

/-- A name in braces is bound to the type that is registered by it. -/
theorem Template.bind_lone {r : Registry} {t : ParameterType} {children : List Node}
    {span whole : Span} (reachable : r.Reachable) (ht : t ∈ r.types)
    (named : Node.textOfAll children = t.name.toList) :
    (Node.branch .expression [.branch .parameter children span] whole).bind r.byName? =
      .ok ⟨t.lonePattern, [t]⟩ := by
  have known : r.byName? t.name = some t := reachable.indexed.byName?_eq_some_iff.mpr ⟨ht, rfl⟩
  simp [Node.bind, Node.bindAll, named, known, Except.map, Bound.join, Bound.wrap,
    ParameterType.lonePattern]

/-- The name of a registered type in braces is a template, unless its pattern is not valid. -/
theorem TemplateExpression.create_parameter {r : Registry} {t : ParameterType} {m : Matcher}
    (reachable : r.Reachable) (ht : t ∈ r.types)
    (compiled : Matcher.compile? t.lonePattern = some m) :
    ∃ root, create r ('\x7b' :: t.name.toList ++ ['\x7d']) =
      .ok ⟨'\x7b' :: t.name.toList ++ ['\x7d'], root, m, [t]⟩ := by
  obtain ⟨children, span, whole, parsed, named⟩ := parse_parameter (reachable.unreserved t ht)
  exact ⟨_, create_of_compile? parsed (bind_lone reachable ht named) compiled⟩

/-! ## Expressions -/

namespace Regex

/-- The expression of a template of one parameter. -/
def lone (r : Regex) : Regex := .cat (.look .textStart) (.cat (.group 1 r) (.look .textEnd))

variable {text : Array Char} {i j n : Nat} {r : Regex} {ms : Marks}

theorem matches_lone (within : i ≤ text.size) :
    r.lone.Matches text i j ↔ i = 0 ∧ j = text.size ∧ r.Matches text 0 text.size := by
  simp only [lone, matches_cat, matches_textStart within, matches_textEnd, matches_group]
  constructor
  · rintro ⟨_, ⟨rfl, rfl⟩, k, taken, stop, rfl⟩
    obtain rfl : k = text.size := Nat.le_antisymm (taken.le_size within) stop
    exact ⟨rfl, rfl, taken⟩
  · rintro ⟨rfl, rfl, taken⟩
    exact ⟨0, ⟨rfl, rfl⟩, text.size, taken, Nat.le_refl _, rfl⟩

theorem isSome_search_lone :
    (r.lone.program.search text).isSome = true ↔ r.Matches text 0 text.size := by
  rw [program_search_isSome_iff]
  constructor
  · rintro ⟨i, j, within, taken⟩
    exact ((matches_lone within).mp taken).2.2
  · intro taken
    exact ⟨0, text.size, Nat.zero_le _, (matches_lone (Nat.zero_le _)).mpr ⟨rfl, rfl, taken⟩⟩

/-- The marks of a run are those of the groups of the type, inside two groups around the text. -/
theorem run_lone (within : i ≤ text.size) (h : (Regex.group 0 r.lone).Run text i j ms) :
    ∃ ns, r.Run text 0 text.size ns ∧ ms = (.closed 0, text.size) :: (.closed 1, text.size) ::
      (ns ++ [(.opened 1, 0), (.opened 0, 0)]) := by
  obtain ⟨_, ⟨k, _, _, start, ⟨l, _, _, ⟨ns, taken, rfl⟩, stop, rfl⟩, rfl⟩, rfl⟩ := h
  obtain ⟨rfl, rfl⟩ := (matches_textStart within).mp ⟨_, start⟩
  obtain ⟨last, rfl⟩ := matches_textEnd.mp ⟨_, stop⟩
  obtain ⟨-, -, rfl⟩ := start
  obtain ⟨-, -, rfl⟩ := stop
  have step : r.Matches text 0 l := ⟨ns, taken⟩
  obtain rfl : l = text.size := Nat.le_antisymm (step.le_size within) last
  exact ⟨ns, taken, by simp⟩

/-- The group of the parameter is the whole text. -/
theorem span?_lone (numbered : r.Numbered 2 n) (within : i ≤ text.size)
    (h : (Regex.group 0 r.lone).Run text i j ms) :
    Captures.span? ⟨ms⟩ 1 = some (0, text.size) := by
  obtain ⟨ns, taken, rfl⟩ := run_lone within h
  have unmarked : ns.lookup (.opened 1) = none :=
    Pattern.lookup_eq_none (numbered.within taken) (.inl (Nat.lt_succ_self 1))
  have apart (k : Nat) : (Mark.opened 1 == Mark.closed k) = false := rfl
  have other : (Mark.closed 1 == Mark.closed 0) = false := rfl
  simp [Captures.span?, List.lookup_cons, List.lookup_append, unmarked, apart, other]

end Regex

/-! ## Arguments -/

theorem match?_eq (m : Matcher) (text : List Char) : m.match? text =
    (m.program.search text.toArray).map fun c => (m.groups.fill (sliceAt c.span? text) 0).1 := rfl

variable {r : Regex} {m : Matcher} {source text : List Char}

theorem Matcher.isSome_match?_lone (program : m.program = r.lone.program) :
    (m.match? text).isSome = true ↔ r.Matches text.toArray 0 text.length := by
  rw [Matcher.match?, Option.isSome_map, program, Regex.isSome_search_lone, List.size_toArray]

/-- What is captured of a type without groups is the whole text. -/
theorem Matcher.match?_lone (program : m.program = r.lone.program)
    (groups : m.groups = .node [] [.node source []]) (numbered : r.Numbered 2 2)
    (taken : r.Matches text.toArray 0 text.length) :
    ∃ root g, m.match? text = some root ∧ root.children = [g] ∧
      g.values = [some (String.ofList text)] := by
  obtain ⟨c, searched⟩ := Option.isSome_iff_exists.mp (Regex.isSome_search_lone.mpr taken)
  obtain ⟨i, j, within, run⟩ := Regex.program_search_run searched
  have span := Regex.span?_lone numbered within run
  have slice : (sliceAt c.span? text 1).map Slice.text = some (String.ofList text) := by
    simp [sliceAt, span, sliceOf]
  refine ⟨_, .node (sliceAt c.span? text 1) [], by rw [match?_eq, program, searched]; rfl, ?_, ?_⟩
  · rw [groups]
    rfl
  · simp [Group.values, Group.children, Group.value, Group.slice, slice]

/-- A template of one parameter of a type without groups has the whole text as what the transformer
of the type is given. -/
theorem TemplateExpression.arguments_lone {e : TemplateExpression} {t : ParameterType} {k : Kind}
    (types : e.types = [t]) (named : t.anonymous = false) (converts : t.transformer = .kind k)
    (program : e.matcher.program = r.lone.program)
    (groups : e.matcher.groups = .node [] [.node source []]) (numbered : r.Numbered 2 2)
    (taken : r.Matches text.toArray 0 text.length) (limit : Nat) (hints : List String)
    (log : CallLog) : ∃ a, (Expression.template e).arguments limit text hints = .ok (some [a]) ∧
      (a.value log).1 = k.convertText (String.ofList text) := by
  obtain ⟨root, g, matched, children, values⟩ :=
    Matcher.match?_lone program groups numbered taken
  refine ⟨⟨g, t, none, none⟩, ?_, ?_⟩
  · simp [Expression.arguments, Matcher.arguments, matched, children, types, Argument.pair, named]
  · simp [Argument.value, Argument.compute, named, converts, values, Transformer.apply,
      Kind.convert]

end StepExpr
