import StepExpr.Proofs.Expression.Regular
import StepExpr.Proofs.Template.Binding

/-!
# Hints

A hint has a say in the value for one anonymous parameter, and in nothing else.

* `Argument.Alike` and `Alike` are what two lists of hints leave the same;
* `Argument.pair_alike` and `Argument.pair_congr`: so do the hints that groups and types are paired
  with, and those behind the last pair do nothing;
* `Expression.arguments_outcome`: the groups and the types of a match come from the text alone;
* `Expression.arguments_alike` puts the parts together.
-/

namespace StepExpr

open Template

/-- What the transformer gives depends on the captures only, and not on earlier calls. -/
def Transformer.Stateless (t : Transformer) : Prop :=
  ∀ log log' captures, (t.apply log captures).1 = (t.apply log' captures).1

theorem builtin_stateless : ∀ t ∈ Builtin.types, t.transformer.Stateless := by
  simp [Builtin.types, Builtin.integer, Builtin.bigInteger, Builtin.float, Builtin.double,
    Builtin.byte, Builtin.short, Builtin.long, Builtin.bigDecimal, Builtin.word, Builtin.string,
    ParameterType.unnamed, Transformer.Stateless, Transformer.apply]

/-- Arguments for one group and one type, with one value if the type is not anonymous. -/
structure Argument.Alike (a b : Argument) : Prop where
  group : a.group = b.group
  type : a.type = b.type
  value : a.type.anonymous = false → ∀ log log', (a.value log).1 = (b.value log').1

/-- Two attempts to match that fail with one error, or find no match, or find arguments that are
alike one by one. -/
inductive Alike : Except Error (Option (List Argument)) →
    Except Error (Option (List Argument)) → Prop
  | failed (error : Error) : Alike (.error error) (.error error)
  | unmatched : Alike (.ok none) (.ok none)
  | matched {args args' : List Argument} (each : List.Forall₂ Argument.Alike args args') :
      Alike (.ok (some args)) (.ok (some args'))

/-! ## Pairs -/

namespace Argument

variable {groups : List Group} {types : List ParameterType} {hints hints' : List String}
  {a : Argument} {i : Nat}

theorem pair_alike (stateless : ∀ t ∈ types, t.anonymous = false → t.transformer.Stateless)
    (hints hints' : List String) :
    List.Forall₂ Alike (pair groups types hints) (pair groups types hints') := by
  induction groups generalizing types hints hints' with
  | nil => simp [pair]
  | cons group groups ih =>
    cases types with
    | nil => simp [pair]
    | cons type types =>
      obtain ⟨first, others⟩ := List.forall_mem_cons.mp stateless
      refine .cons ⟨rfl, rfl, fun named log log' => ?_⟩ (ih others _ _)
      have named : type.anonymous = false := named
      simp only [value, compute, named, Bool.false_eq_true, if_false]
      exact first named log log' group.values

/-- Only as many hints count as there are groups. -/
theorem pair_congr (same : hints.take groups.length = hints'.take groups.length) :
    pair groups types hints = pair groups types hints' := by
  induction groups generalizing types hints hints' with
  | nil => simp [pair]
  | cons group groups ih =>
    cases types with
    | nil => simp [pair]
    | cons type types =>
      cases hints with
      | nil =>
        cases hints' with
        | nil => rfl
        | cons => simp at same
      | cons hint hints =>
        cases hints' with
        | nil => simp at same
        | cons hint' hints' =>
          obtain ⟨rfl, others⟩ : hint = hint' ∧
              hints.take groups.length = hints'.take groups.length := by simpa using same
          simp [pair, ih others]

/-- The argument at a place is that of the group, the type and the hint there. -/
theorem getElem?_pair (h : (pair groups types hints)[i]? = some a) : ∃ group type,
    groups[i]? = some group ∧ types[i]? = some type ∧
      a = ⟨group, type, if type.anonymous then hints[i]? else none, none⟩ := by
  induction groups generalizing types hints i with
  | nil => simp [pair] at h
  | cons group groups ih =>
    cases types with
    | nil => simp [pair] at h
    | cons type types =>
      cases i with
      | zero =>
        rw [pair, List.getElem?_cons_zero, List.head?_eq_getElem?] at h
        exact ⟨group, type, rfl, rfl, (Option.some.inj h).symm⟩
      | succ i =>
        rw [pair, List.getElem?_cons_succ] at h
        simpa [List.getElem?_tail] using ih h

/-- Without a hint, the value for an anonymous parameter is the text of the whole group. -/
theorem value_unhinted (fresh : a.cached = none) (anonymous : a.type.anonymous = true)
    (converts : a.type.transformer = .kind .string) (unhinted : a.hint = none) (log : CallLog) :
    (a.value log).1 = Kind.string.convert a.group.value := by
  simp [value, compute, fresh, unhinted, anonymous, converts, Transformer.apply]

theorem value_hinted {hint : String} {k : Kind} (fresh : a.cached = none)
    (hinted : a.hint = some hint) (named : Kind.named? hint = some k) (log : CallLog) :
    (a.value log).1 = k.convert a.group.value := by
  simp [value, compute, fresh, hinted, convertTo, named]

end Argument

/-! ## Types -/

variable {r : Registry} {source text : List Char}

theorem TemplateExpression.registered {e : TemplateExpression} (indexed : r.Indexed)
    (h : create r source = .ok e) : ∀ t ∈ e.types, t ∈ r.types := by
  obtain ⟨root, whole, m, parsed, bound, -, rfl⟩ := create_eq_ok h
  obtain ⟨children, span, rfl, shape⟩ := shape_of_parse parsed
  obtain ⟨parts, inside, rfl⟩ := bind_expression_ok bound
  have named := types_of_bindAll (bindAll_ok inside fun child hc _ known =>
    (shape child hc).elim (·.types_of_bind known) (·.types_of_bind known))
  intro t ht
  obtain ⟨name, -, found⟩ := List.mem_map.mp (named ▸ List.mem_map_of_mem (f := some) ht)
  exact (indexed.byName?_eq_some_iff.mp found).1

/-- The types of groups are registered, or made for a regexp that is not. -/
theorem RegularExpression.registered_or_unnamed {e : RegularExpression}
    (indexed : e.registry.Indexed) {limit : Nat} {groups : List GroupTree}
    {types : List ParameterType} (h : e.typesOf limit text groups = .ok types) :
    ∀ t ∈ types, t ∈ e.registry.types ∨ ∃ regexp, t = .unnamed regexp := by
  induction groups generalizing types with
  | nil =>
    cases h
    simp
  | cons group groups ih =>
    obtain ⟨found, others, first, rest, rfl⟩ := typesOf_cons_eq_ok h
    refine List.forall_mem_cons.mpr ⟨?_, ih rest⟩
    cases found with
    | none => exact .inr ⟨_, rfl⟩
    | some t => exact .inl (indexed.registered_of_byRegexp _ _ _ first)

/-! ## Matches -/

/-- What a matcher makes of a text, whatever the hints are. -/
theorem Matcher.arguments_outcome (m : Matcher) (types : List ParameterType) (text : List Char) :
    (∃ error, ∀ hints, m.arguments types text hints = .error error) ∨
    (∀ hints, m.arguments types text hints = .ok none) ∨
    ∃ groups, groups.length = types.length ∧
      ∀ hints, m.arguments types text hints = .ok (some (Argument.pair groups types hints)) := by
  cases matched : m.match? text with
  | none => exact .inr (.inl fun hints => by simp only [arguments, matched])
  | some root =>
    by_cases aligned : root.children.length = types.length
    · exact .inr (.inr ⟨root.children, aligned, fun hints => by simp [arguments, matched, aligned]⟩)
    · exact .inl ⟨.groupCount root.children.length types.length, fun hints => by
        simp [arguments, matched, aligned]⟩

namespace Expression

variable {e : Expression} {form : Form}

/-- What an expression makes of a text, whatever the hints are. -/
theorem arguments_outcome (reachable : r.Reachable) (h : create form r source = .ok e) (limit : Nat)
    (text : List Char) :
    (∃ error, ∀ hints, e.arguments limit text hints = .error error) ∨
    (∀ hints, e.arguments limit text hints = .ok none) ∨
    ∃ groups types, groups.length = types.length ∧
      (∀ t ∈ types, t ∈ r.types ∨ ∃ regexp, t = .unnamed regexp) ∧
      ∀ hints, e.arguments limit text hints = .ok (some (Argument.pair groups types hints)) := by
  have outcome {m : Matcher} {types : List ParameterType}
      (known : ∀ t ∈ types, t ∈ r.types ∨ ∃ regexp, t = .unnamed regexp)
      (same : ∀ hints, e.arguments limit text hints = m.arguments types text hints) :
      (∃ error, ∀ hints, e.arguments limit text hints = .error error) ∨
      (∀ hints, e.arguments limit text hints = .ok none) ∨
      ∃ groups types, groups.length = types.length ∧
        (∀ t ∈ types, t ∈ r.types ∨ ∃ regexp, t = .unnamed regexp) ∧
        ∀ hints, e.arguments limit text hints = .ok (some (Argument.pair groups types hints)) := by
    simp only [same]
    refine (m.arguments_outcome types text).imp_right (·.imp_right ?_)
    rintro ⟨groups, aligned, found⟩
    exact ⟨groups, types, aligned, known, found⟩
  rcases made_of_create h with ⟨_, e, made, rfl⟩ | ⟨source', e, made, rfl⟩
  · have registered := TemplateExpression.registered reachable.indexed made
    exact outcome (fun t ht => .inl (registered t ht)) fun _ => rfl
  · obtain ⟨m, -, rfl⟩ := RegularExpression.create_eq_ok made
    cases found : RegularExpression.typesOf ⟨source', m, r⟩ limit text m.groups.children with
    | error error => exact .inl ⟨error, fun hints => by simp only [arguments, found]; rfl⟩
    | ok types =>
      have known := RegularExpression.registered_or_unnamed reachable.indexed found
      refine @outcome m types known fun hints => ?_
      simp only [arguments, found]
      rfl

/-- Where transformers keep no state, two lists of hints lead to the same error or both to no match
or to the same groups and types, with the same values for parameters that are not anonymous. Only as
many hints count as there are arguments, and for an anonymous parameter a hint that asks for text
does what no hint does. -/
theorem arguments_alike (reachable : r.Reachable) (h : create form r source = .ok e)
    (stateless : ∀ t ∈ r.types, t.transformer.Stateless) (limit : Nat) (text : List Char) :
    (∀ hints hints', Alike (e.arguments limit text hints) (e.arguments limit text hints')) ∧
    (∀ hints hints' args, e.arguments limit text hints = .ok (some args) →
      hints.take args.length = hints'.take args.length →
      e.arguments limit text hints' = .ok (some args)) ∧
    ∀ hints hints' args args', e.arguments limit text hints = .ok (some args) →
      e.arguments limit text hints' = .ok (some args') →
      ∀ (i : Nat) (a b : Argument) (hint : String), args[i]? = some a → args'[i]? = some b →
        a.type.anonymous = true → hints[i]? = some hint → Kind.named? hint = some .string →
        hints'[i]? = none → ∀ log log', (a.value log).1 = (b.value log').1 := by
  rcases arguments_outcome reachable h limit text with
    ⟨error, failed⟩ | unmatched | ⟨groups, types, aligned, known, found⟩
  · simp only [failed]
    exact ⟨fun _ _ => .failed error, by simp, by simp⟩
  · simp only [unmatched]
    exact ⟨fun _ _ => .unmatched, by simp, by simp⟩
  simp only [found, Except.ok.injEq, Option.some.injEq]
  refine ⟨fun hints hints' => .matched (Argument.pair_alike (fun t ht named => ?_) hints hints'),
    fun hints hints' args same taken => ?_,
    fun hints hints' args args' same same' i a b hint ha hb anonymous hinted text' unhinted => ?_⟩
  · rcases known t ht with registered | ⟨regexp, rfl⟩
    · exact stateless t registered
    · cases named
  · subst same
    have length : (Argument.pair groups types hints).length = groups.length := by
      rw [← List.length_map (·.group), Argument.groups_pair aligned]
    rw [length] at taken
    exact (Argument.pair_congr taken).symm
  · subst same same'
    obtain ⟨group, type, hg, ht, rfl⟩ := Argument.getElem?_pair ha
    obtain ⟨group', type', hg', ht', rfl⟩ := Argument.getElem?_pair hb
    obtain rfl := Option.some.inj (hg.symm.trans hg')
    obtain rfl := Option.some.inj (ht.symm.trans ht')
    have anonymous : type.anonymous = true := anonymous
    have converts : type.transformer = .kind .string := by
      rcases known type (List.mem_of_getElem? ht) with registered | ⟨regexp, rfl⟩
      · rw [reachable.eq_unnamed_of_anonymous type registered anonymous]
        rfl
      · rfl
    intro log log'
    rw [Argument.value_hinted rfl (by simp [anonymous, hinted]) text',
      Argument.value_unhinted rfl anonymous converts (by simp [unhinted])]

theorem arguments_alike_nested : (∀ t ∈ Registry.initial.types, t.transformer.Stateless) ∧
    ∃ e, create .regular .initial "((a)b)".toList = .ok e ∧ ∃ a b : Argument,
      e.arguments 0 "ab".toList ["String"] = .ok (some [a]) ∧
      e.arguments 0 "ab".toList [] = .ok (some [b]) ∧ a.type.anonymous = true ∧
      Alike (e.arguments 0 "ab".toList ["String"]) (e.arguments 0 "ab".toList []) ∧
      ∀ log log', (a.value log).1 = (b.value log').1 := by
  have stateless : ∀ t ∈ Registry.initial.types, t.transformer.Stateless :=
    Registry.types_initial ▸ builtin_stateless
  have compiles : (Matcher.compile? "((a)b)".toList).isSome = true := by decide +kernel
  obtain ⟨m, compiled⟩ := Option.isSome_iff_exists.mp compiles
  have created : create .regular .initial "((a)b)".toList =
      .ok (regular ⟨"((a)b)".toList, m, .initial⟩) := by
    simp only [create, RegularExpression.create, compiled]
    rfl
  have groups : m.groups.children.map GroupTree.source = ["(a)b".toList] := by
    rw [Matcher.groups_of_compile? compiled]
    decide
  obtain ⟨group, same, source⟩ : ∃ group, m.groups.children = [group] ∧
      group.source = "(a)b".toList := by
    simpa [List.map_eq_singleton_iff] using groups
  have types : RegularExpression.typesOf ⟨"((a)b)".toList, m, .initial⟩ 0 "ab".toList
      m.groups.children = .ok [.unnamed "(a)b"] := by
    have unlisted : ∀ t ∈ Registry.initial.types, "(a)b" ∉ t.regexps := by
      rw [Registry.types_initial]
      decide
    have unknown := Registry.indexed_initial.byRegexp_of_unlisted 0 "((a)b)" "ab".toList unlisted
    have front : dropGroupName "(a)b".toList = "(a)b".toList := dropGroupName_eq_self (by decide)
    simp only [same, RegularExpression.typesOf, source, front, String.ofList_toList, unknown]
    rfl
  have found : (m.match? "ab".toList).isSome = true := by
    have known : (Pattern.parse? (narrowDigits "((a)b)".toList)).bind Pattern.regex? =
        some (.group 1 (.cat (.group 2 (.literal ['a'])) (.literal ['b']))) := by decide +kernel
    obtain ⟨p, regex, read, meaning, program⟩ := Matcher.program_of_compile? compiled
    rw [read, Option.bind_some, meaning, Option.some.injEq] at known
    rw [Matcher.match?, Option.isSome_map, program, Regex.program_search_isSome_iff, known]
    refine ⟨0, 2, by simp, ?_⟩
    simp only [Regex.matches_group, Regex.matches_cat, Regex.matches_literal]
    exact ⟨1, ⟨rfl, rfl⟩, rfl, rfl⟩
  obtain ⟨root, matched⟩ := Option.isSome_iff_exists.mp found
  obtain ⟨g, only⟩ : ∃ g, root.children = [g] := by
    rw [← List.length_eq_one_iff, Matcher.length_children_of_match? matched, same]
    rfl
  have hinted : (regular ⟨"((a)b)".toList, m, .initial⟩).arguments 0 "ab".toList ["String"] =
      .ok (some [⟨g, .unnamed "(a)b", some "String", none⟩]) := by
    simp only [arguments, types, Matcher.arguments, matched, only]
    rfl
  have plain : (regular ⟨"((a)b)".toList, m, .initial⟩).arguments 0 "ab".toList [] =
      .ok (some [⟨g, .unnamed "(a)b", none, none⟩]) := by
    simp only [arguments, types, Matcher.arguments, matched, only]
    rfl
  obtain ⟨alike, -, text⟩ := arguments_alike .initial created stateless 0 "ab".toList
  exact ⟨stateless, _, created, _, _, hinted, plain, rfl, alike _ _,
    text _ _ _ _ hinted plain 0 _ _ "String" rfl rfl rfl rfl rfl rfl⟩

end Expression

end StepExpr
