import StepExpr.Proofs.Expression.Arguments
import StepExpr.Proofs.Parameter.Lookup
import StepExpr.Proofs.Template.Sources

/-!
# Regular expressions

A regular expression finds the types of its outermost groups by their texts, before it matches.

* `RegularExpression.typesOf_outcome`: the types are found unless some group is ambiguous;
* `Expression.arguments_of_no_match`: so an expression that does not match either has no arguments or
  fails at the first of its groups that is ambiguous;
* `TemplateExpression.arguments_of_pattern`: the pattern of a template as a regular expression has the
  arguments of the template, where each type is the one that is found by its regexp.
-/

namespace StepExpr

open Pattern Template

variable {source text : List Char} {m : Matcher} {r : Registry}

/-! ## Groups -/

theorem Matcher.length_children_of_match? {root : Group} (found : m.match? text = some root) :
    root.children.length = m.groups.children.length := by
  obtain ⟨c, -, rfl⟩ := Option.map_eq_some_iff.mp found
  cases m.groups with
  | node source children => exact GroupTree.length_fillAll 1 children

/-- A text that does not begin with a question mark has no name at its head. -/
theorem dropGroupName_eq_self (front : source.head? ≠ some '?') : dropGroupName source = source := by
  cases source with
  | nil => rfl
  | cons c rest =>
    have other : c ≠ '?' := by simpa using front
    simp [dropGroupName, other]

theorem head?_regexp_ne {regexp : String} (scannable : Pattern.Scannable regexp.toList)
    (valid : HasMeaning regexp) : regexp.toList.head? ≠ some '?' := by
  obtain ⟨p, ⟨ls, cuts, -⟩, -⟩ := encloses_regexp scannable valid
  exact cuts.front.1

/-! ## Types of groups -/

namespace RegularExpression

variable {e : RegularExpression} {groups : List GroupTree}

/-- The regexp that a group is looked up by. -/
def lookup (group : GroupTree) : String :=
  String.ofList (dropGroupName group.source)

theorem create_eq_ok (h : create r source = .ok e) :
    ∃ m, Matcher.compile? source = some m ∧ e = ⟨source, m, r⟩ := by
  unfold create at h
  split at h
  · rename_i m compiled
    cases h
    exact ⟨m, compiled, rfl⟩
  · cases h

/-- The type of a group is the one that is found for its regexp, or made for it. -/
theorem typesOf_cons_eq_ok {limit : Nat} {group : GroupTree} {types : List ParameterType}
    (h : e.typesOf limit text (group :: groups) = .ok types) : ∃ found others,
      e.registry.byRegexp limit (lookup group) (String.ofList e.source) text = .ok found ∧
      e.typesOf limit text groups = .ok others ∧
      types = found.getD (.unnamed (lookup group)) :: others := by
  rw [typesOf, ← lookup] at h
  cases first : e.registry.byRegexp limit (lookup group) (String.ofList e.source) text with
  | error => simp [first, bind, Except.bind] at h
  | ok found =>
    cases rest : e.typesOf limit text groups with
    | error => simp [first, rest, bind, Except.bind] at h
    | ok others =>
      simp only [first, rest] at h
      cases h
      exact ⟨found, others, rfl, rfl, rfl⟩

/-- Every group has a type. -/
theorem length_typesOf {limit : Nat} {types : List ParameterType}
    (h : e.typesOf limit text groups = .ok types) : types.length = groups.length := by
  induction groups generalizing types with
  | nil =>
    cases h
    rfl
  | cons group groups ih =>
    obtain ⟨found, others, -, rest, rfl⟩ := typesOf_cons_eq_ok h
    exact congrArg (· + 1) (ih rest)

/-- The error that an ambiguous regexp leads to. -/
def ambiguity (e : RegularExpression) (limit : Nat) (text : List Char) (regexp : String) : Error :=
  .ambiguousType regexp (String.ofList e.source)
    ((e.registry.listing regexp).map ParameterType.name)
    ((suggest e.registry.types limit text).map fun s => String.ofList s.source)

/-- The groups have types if none is ambiguous. Otherwise the first that is ambiguous is the error. -/
theorem typesOf_outcome (indexed : e.registry.Indexed) (limit : Nat) (text : List Char)
    (groups : List GroupTree) :
    ((∀ regexp ∈ groups.map lookup, ¬ e.registry.Ambiguous regexp) ∧
      ∃ types, e.typesOf limit text groups = .ok types) ∨
    ∃ before regexp after, groups.map lookup = before ++ regexp :: after ∧
      (∀ earlier ∈ before, ¬ e.registry.Ambiguous earlier) ∧ e.registry.Ambiguous regexp ∧
      e.typesOf limit text groups = .error (e.ambiguity limit text regexp) := by
  induction groups with
  | nil => exact .inl ⟨by simp, [], rfl⟩
  | cons group groups ih =>
    -- the first group that is ambiguous ends the search, so the later ones do not matter
    by_cases ambiguous : e.registry.Ambiguous (lookup group)
    · have failed := indexed.byRegexp_of_ambiguous limit (String.ofList e.source) text ambiguous
      refine .inr ⟨[], _, _, rfl, by simp, ambiguous, ?_⟩
      rw [lookup] at failed
      simp only [typesOf, failed]
      rfl
    · obtain ⟨found, first⟩ := indexed.byRegexp_eq_ok limit (String.ofList e.source) text ambiguous
      rw [lookup] at first
      cases ih with
      | inl ok =>
        obtain ⟨clear, types, others⟩ := ok
        refine .inl ⟨List.forall_mem_cons.mpr ⟨ambiguous, clear⟩, ?_⟩
        simp only [typesOf, first, others]
        exact ⟨_, rfl⟩
      | inr failed =>
        obtain ⟨before, regexp, after, cut, earlier, ambiguous', others⟩ := failed
        refine .inr ⟨lookup group :: before, regexp, after, congrArg (lookup group :: ·) cut,
          List.forall_mem_cons.mpr ⟨ambiguous, earlier⟩, ambiguous', ?_⟩
        simp only [typesOf, first, others]
        rfl

end RegularExpression

/-! ## No match -/

namespace Expression

variable {e : Expression} {form : Form}

/-- The regexps that types are looked up by when the expression is matched. -/
def lookups : Expression → List String
  | template _ => []
  | regular e => e.matcher.groups.children.map RegularExpression.lookup

theorem made_of_create (h : create form r source = .ok e) :
    (∃ s e', TemplateExpression.create r s = .ok e' ∧ e = template e') ∨
    ∃ s e', RegularExpression.create r s = .ok e' ∧ e = regular e' := by
  have template {s : List Char} (h : (TemplateExpression.create r s).map template = .ok e) :
      ∃ s e', TemplateExpression.create r s = .ok e' ∧ e = .template e' := by
    obtain ⟨e', made, rfl⟩ := map_ok h
    exact ⟨s, e', made, rfl⟩
  have regular {s : List Char} (h : (RegularExpression.create r s).map regular = .ok e) :
      ∃ s e', RegularExpression.create r s = .ok e' ∧ e = .regular e' := by
    obtain ⟨e', made, rfl⟩ := map_ok h
    exact ⟨s, e', made, rfl⟩
  cases form with
  | template => exact .inl (template h)
  | regular => exact .inr (regular h)
  | either =>
    simp only [create, ofSource] at h
    split at h
    · exact .inr (regular h)
    · split at h
      · exact .inr (regular h)
      · exact .inl (template h)

theorem create_eq_ok (h : create form r source = .ok e) :
    (∃ e', e = template e') ∨ ∃ e', e = regular e' ∧ e'.registry = r := by
  rcases made_of_create h with ⟨_, e', -, rfl⟩ | ⟨_, e', made, rfl⟩
  · exact .inl ⟨e', rfl⟩
  · obtain ⟨m, -, rfl⟩ := RegularExpression.create_eq_ok made
    exact .inr ⟨_, rfl, rfl⟩

/-- Where the text does not match there are no arguments, unless a group of a regular expression is
ambiguous. Then matching fails at the first such group. -/
theorem arguments_of_no_match (reachable : r.Reachable) (h : create form r source = .ok e)
    (unmatched : e.matcher.match? text = none) (limit : Nat) (hints : List String) :
    ((∀ regexp ∈ e.lookups, ¬ r.Ambiguous regexp) ∧ e.arguments limit text hints = .ok none) ∨
    ∃ before regexp after, e.lookups = before ++ regexp :: after ∧
      (∀ earlier ∈ before, ¬ r.Ambiguous earlier) ∧ r.Ambiguous regexp ∧
      e.arguments limit text hints = .error (.ambiguousType regexp (String.ofList e.source)
        ((r.listing regexp).map ParameterType.name)
        ((suggest r.types limit text).map fun s => String.ofList s.source)) := by
  rcases create_eq_ok h with ⟨e, rfl⟩ | ⟨e, rfl, rfl⟩
  · refine .inl ⟨by simp [lookups], ?_⟩
    rw [matcher] at unmatched
    simp only [arguments, Matcher.arguments, unmatched]
  · rw [matcher] at unmatched
    rcases e.typesOf_outcome reachable.indexed limit text e.matcher.groups.children with
      ⟨clear, types, found⟩ | ⟨before, regexp, after, cut, earlier, ambiguous, failed⟩
    · refine .inl ⟨clear, ?_⟩
      simp only [arguments, found, Matcher.arguments, unmatched]
      rfl
    · refine .inr ⟨before, regexp, after, cut, earlier, ambiguous, ?_⟩
      simp only [arguments, failed]
      rfl

theorem arguments_of_no_match_ambiguous : ∃ r e suggestions, r.Reachable ∧
    create .regular r "(a)".toList = .ok e ∧ e.matcher.match? "x".toList = none ∧
    e.arguments 0 "x".toList [] =
      .error (.ambiguousType "a" "(a)" ["first", "second"] suggestions) := by
  let r₁ := Registry.initial.insert (.ofRegexp "first" "a")
  let r := r₁.insert (.ofRegexp "second" "a")
  have types₁ : r₁.types = Builtin.types ++ [.ofRegexp "first" "a"] := Registry.types_insert_initial _
  have types : r.types = Builtin.types ++ [.ofRegexp "first" "a", .ofRegexp "second" "a"] := by
    calc r.types = r₁.types ++ [.ofRegexp "second" "a"] := rfl
      _ = _ := by rw [types₁, List.append_assoc]; rfl
  have reachable : r.Reachable := by
    have valid : Regex.ofText? "a".toList ≠ none := by decide +kernel
    have new : ∀ t ∈ Builtin.types, t.name ≠ "first" := by decide
    have new₁ : ∀ t ∈ Builtin.types ++ [.ofRegexp "first" "a"], t.name ≠ "second" := by decide
    have one : r₁.Reachable :=
      Registry.Reachable.initial.insert_ofRegexp (by decide) valid (Registry.types_initial ▸ new)
    exact one.insert_ofRegexp (by decide) valid (types₁ ▸ new₁)
  have listing : r.listing "a" = [.ofRegexp "first" "a", .ofRegexp "second" "a"] := by
    rw [Registry.listing, types, List.filter_append, List.filter_eq_nil_iff.mpr (by decide)]
    rfl
  have ambiguous : r.Ambiguous "a" :=
    ⟨by rw [listing]; decide, by simp [listing, ParameterType.ofRegexp]⟩
  have compiles : (Matcher.compile? "(a)".toList).isSome = true := by decide +kernel
  obtain ⟨m, compiled⟩ := Option.isSome_iff_exists.mp compiles
  have created : create .regular r "(a)".toList = .ok (regular ⟨"(a)".toList, m, r⟩) := by
    simp only [create, RegularExpression.create, compiled]
    rfl
  have unmatched : (regular ⟨"(a)".toList, m, r⟩).matcher.match? "x".toList = none := by
    have known : (parse? (narrowDigits "(a)".toList)).bind Pattern.regex? =
        some (.group 1 (.literal ['a'])) := by decide +kernel
    obtain ⟨p, regex, read, meaning, program⟩ := Matcher.program_of_compile? compiled
    rw [read, Option.bind_some, meaning, Option.some.injEq] at known
    rw [← Option.not_isSome_iff_eq_none, matcher, Matcher.match?, Option.isSome_map, program,
      Regex.program_search_isSome_iff, known]
    rintro ⟨i, j, within, taken⟩
    rw [Regex.matches_group, Regex.matches_literal] at taken
    have there := Array.mem_of_getElem? taken.1
    simp at there
  have looked : (regular ⟨"(a)".toList, m, r⟩).lookups = ["a"] := by
    rw [lookups, Matcher.groups_of_compile? compiled]
    decide
  rcases arguments_of_no_match reachable created unmatched 0 [] with
    ⟨clear, -⟩ | ⟨before, regexp, after, cut, -, -, failed⟩
  · exact absurd ambiguous (clear "a" (by rw [looked]; exact List.mem_cons_self))
  · have among : regexp ∈ ["a"] := by
      rw [← looked, cut]
      simp
    rw [List.mem_singleton.mp among, listing] at failed
    exact ⟨r, _, _, reachable, created, unmatched, failed⟩

end Expression

/-! ## The pattern of a template -/

theorem RegularExpression.typesOf_of_decides {e : RegularExpression}
    (indexed : e.registry.Indexed) {types : List ParameterType} {groups : List GroupTree}
    (sources : groups.map GroupTree.source = regexpsOf types)
    (single : ∀ t ∈ types, ∃ regexp, t.regexps = [regexp] ∧ regexp.toList.head? ≠ some '?' ∧
      e.registry.Decides regexp t) (limit : Nat) (text : List Char) :
    e.typesOf limit text groups = .ok types := by
  induction types generalizing groups with
  | nil =>
    obtain rfl := List.map_eq_nil_iff.mp sources
    rfl
  | cons t types ih =>
    obtain ⟨⟨regexp, only, front, decides⟩, others⟩ := List.forall_mem_cons.mp single
    have cut : regexpsOf (t :: types) = regexp.toList :: regexpsOf types := by
      simp [regexpsOf, only]
    rw [cut] at sources
    cases groups with
    | nil => cases sources
    | cons group groups =>
      obtain ⟨own, rest⟩ := List.cons.inj sources
      have found := indexed.byRegexp_of_decides limit (String.ofList e.source) text decides
      simp only [typesOf, own, dropGroupName_eq_self front, String.ofList_toList, found,
        ih rest others]
      rfl

namespace TemplateExpression

variable {e : TemplateExpression}

/-- The pattern of a template, read as a regular expression with the same registry, has the arguments
of the template for every text. -/
theorem arguments_of_pattern (reachable : r.Reachable)
    (scannable : ∀ t ∈ r.types, t ∈ Builtin.types ∨ t.Scannable) (h : create r source = .ok e)
    (single : ∀ t ∈ e.types, ∃ regexp, t.regexps = [regexp] ∧ r.Decides regexp t) :
    ∃ e', RegularExpression.create r e.matcher.source = .ok e' ∧
      ∀ limit text hints, ∃ answer,
        (Expression.template e).arguments limit text hints = .ok answer ∧
        (Expression.regular e').arguments limit text hints = .ok answer := by
  obtain ⟨root, whole, m, parsed, bound, compiled, rfl⟩ := create_eq_ok h
  obtain ⟨children, span, rfl, shape⟩ := shape_of_parse parsed
  have types := reachable.scannableTypes scannable
  have sources : m.groups.children.map GroupTree.source = regexpsOf whole.types := by
    rw [Matcher.groups_of_compile? compiled]
    refine sources_root types shape bound fun t ht => ?_
    obtain ⟨regexp, only, -⟩ := single t ht
    exact ⟨regexp, only⟩
  have source : m.source = whole.pattern := by
    obtain ⟨regex, -, rfl⟩ := Option.map_eq_some_iff.mp compiled
    rfl
  have made : RegularExpression.create r m.source = .ok ⟨m.source, m, r⟩ := by
    rw [RegularExpression.create, source, compiled]
  refine ⟨_, made, fun limit text hints => ?_⟩
  have found : (RegularExpression.mk m.source m r).typesOf limit text m.groups.children =
      .ok whole.types := by
    refine RegularExpression.typesOf_of_decides reachable.indexed sources (fun t ht => ?_) limit text
    obtain ⟨regexp, only, decides⟩ := single t ht
    obtain ⟨-, scans⟩ := types t.name t (reachable.indexed.byName?_eq_some_iff.mpr
      ⟨decides.registered, rfl⟩)
    have valid := (reachable.sound t decides.registered).valid regexp decides.listed
    exact ⟨regexp, only, head?_regexp_ne (scans regexp decides.listed) valid, decides⟩
  have same : (Expression.regular ⟨m.source, m, r⟩).arguments limit text hints =
      m.arguments whole.types text hints := by
    simp only [Expression.arguments, found]
    rfl
  -- every group has a type, so the two never differ in number
  have answered : ∃ answer, m.arguments whole.types text hints = .ok answer := by
    cases matched : m.match? text with
    | none => exact ⟨none, by simp only [Matcher.arguments, matched]⟩
    | some top =>
      have aligned : top.children.length = whole.types.length := by
        rw [Matcher.length_children_of_match? matched, RegularExpression.length_typesOf found]
      refine ⟨some (Argument.pair top.children whole.types hints), ?_⟩
      simp only [Matcher.arguments, matched, aligned, ne_eq, not_true, if_false]
  obtain ⟨answer, given⟩ := answered
  exact ⟨answer, given, same.trans given⟩

theorem arguments_of_pattern_letter : ∃ r e e', r.Reachable ∧
    create r "an {letter}".toList = .ok e ∧
    RegularExpression.create r "^an (a)$".toList = .ok e' ∧
    ∀ limit text hints, ∃ answer,
      (Expression.template e).arguments limit text hints = .ok answer ∧
      (Expression.regular e').arguments limit text hints = .ok answer := by
  let r := Registry.initial.insert (.ofRegexp "letter" "a")
  have types : r.types = Builtin.types ++ [.ofRegexp "letter" "a"] := Registry.types_insert_initial _
  have reachable : r.Reachable := by
    have valid : Regex.ofText? "a".toList ≠ none := by decide +kernel
    have new : ∀ t ∈ Builtin.types, t.name ≠ "letter" := by decide
    exact Registry.Reachable.initial.insert_ofRegexp (by decide) valid (Registry.types_initial ▸ new)
  have decides : r.Decides "a" (.ofRegexp "letter" "a") := by
    have others : ∀ t ∈ Builtin.types, "a" ∉ t.regexps := by decide
    refine ⟨by simp [types], List.mem_cons_self, .inr fun t ht listed => ?_⟩
    rw [types] at ht
    cases List.mem_append.mp ht with
    | inl builtin => exact absurd listed (others t builtin)
    | inr own => exact List.mem_singleton.mp own
  have scannable : ∀ t ∈ r.types, t ∈ Builtin.types ∨ t.Scannable := by
    have tame : Pattern.Tame "a".toList :=
      Pattern.tame_of_scan? rfl (by simp [Pattern.Lexeme.Quiet, Pattern.Lexeme.NamesNoBracket])
    have own : (ParameterType.ofRegexp "letter" "a").Scannable :=
      List.forall_mem_singleton.mpr (@Pattern.scannable_of_flat _ 2 tame rfl)
    intro t ht
    rw [types] at ht
    cases List.mem_append.mp ht with
    | inl builtin => exact .inl builtin
    | inr letter => exact .inr (List.mem_singleton.mp letter ▸ own)
  have made : (create r "an {letter}".toList).isOk = true := by decide +kernel
  cases h : create r "an {letter}".toList with
  | error problem => rw [h] at made; cases made
  | ok e =>
    obtain ⟨root, whole, m, parsed, bound, compiled, rfl⟩ := create_eq_ok h
    have known : ((Template.parse "an {letter}".toList).toOption.bind fun root =>
        (root.bind r.byName?).toOption.map fun whole => (root.parameters, whole.pattern)) =
          some (["letter"], "^an (a)$".toList) := by decide +kernel
    simp only [parsed, bound, Except.toOption, Option.bind_some, Option.map_some,
      Option.some.injEq, Prod.mk.injEq] at known
    have source : m.source = "^an (a)$".toList := by
      obtain ⟨regex, -, rfl⟩ := Option.map_eq_some_iff.mp compiled
      exact known.2
    have own : whole.types = [.ofRegexp "letter" "a"] := by
      obtain ⟨children, span, rfl, shape⟩ := shape_of_parse parsed
      obtain ⟨part, -, same, ps, -, -, -, named⟩ :=
        binds_root (reachable.scannableTypes scannable) shape bound
      have found : r.byName? "letter" = some (.ofRegexp "letter" "a") :=
        reachable.indexed.byName?_eq_some_iff.mpr ⟨decides.registered, rfl⟩
      rw [known.1, List.map_singleton, found] at named
      rw [same]
      exact List.map_injective_iff.mpr (Option.some_injective _) named.symm
    obtain ⟨e', made', same⟩ := arguments_of_pattern reachable scannable h (by
      rw [own]
      exact List.forall_mem_singleton.mpr ⟨_, rfl, decides⟩)
    exact ⟨r, _, e', reachable, h, source ▸ made', same⟩

end TemplateExpression

end StepExpr
