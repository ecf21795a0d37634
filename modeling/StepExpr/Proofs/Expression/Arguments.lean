import StepExpr.Proofs.Expression.Matching
import StepExpr.Proofs.Group.Slices
import StepExpr.Proofs.Template.Groups

/-!
# The arguments of templates

A match of a template has one argument for each parameter of the template, with the type that is
registered by the name of the parameter.

* `Matcher.runsAll_of_match`: a match is filled in with what the items of the pattern marked;
* `Matcher.tookPart_of_match`: the outermost groups of a match stand side by side;
* `TemplateExpression.arguments_of_match` puts the parts together.
-/

namespace StepExpr

open Pattern Template GroupTree

variable {text : List Char} {source : List Char} {ps : List Pattern} {ns : List Nest} {m : Matcher}

/-! ## Groups of a match -/

theorem carries_anchored (h : Carries source ps) : Carries ("^".toList ++ source ++ "$".toList)
    ([.atom (.anchor .lineStart)] ++ ps ++ [.atom (.anchor .lineEnd)]) := by
  have start : Carries "^".toList [.atom (.anchor .lineStart)] :=
    ⟨adds_lineStart, List.forall_mem_singleton.mpr fun _ => rfl, .of_skips (.single (by decide))⟩
  have stop : Carries "$".toList [.atom (.anchor .lineEnd)] :=
    ⟨adds_lineEnd, List.forall_mem_singleton.mpr fun _ => rfl, .of_skips (.single (by decide))⟩
  exact (start.append h).append stop

/-- The groups of a match are filled in with where the runs of the pattern's items marked them. -/
theorem Matcher.runsAll_of_match {root : Group} (carries : Carries source ps)
    (compiled : compile? source = some m) (found : m.match? text = some root) :
    parse? (narrowDigits source) = some (catOf ps) ∧
      nests (ofPattern source).children = ps.flatMap Pattern.nests ∧
      ∃ i j ms all, RunsAll text.toArray ps 1 i j ms ∧
        (∀ mark : Mark, 1 ≤ mark.number → all.lookup mark = ms.lookup mark) ∧
        root.children =
          (fillAll (sliceAt (Captures.span? ⟨all⟩) text) 1 (ofPattern source).children).1 := by
  obtain ⟨p, r, parsed, meaning, program⟩ := Matcher.program_of_compile? compiled
  obtain ⟨c, searched, filled⟩ := Option.map_eq_some_iff.mp found
  rw [program] at searched
  obtain ⟨i, j, -, ms, run, marks⟩ := Regex.program_search_run searched
  obtain rfl := carries.adds.eq_catOf parsed
  obtain ⟨⟨branches, after, next⟩, numbered, rfl⟩ := Option.map_eq_some_iff.mp meaning
  refine ⟨parsed, nests_ofPattern carries.scans, i, j, ms, c.marks,
    runsAll_of_catOf carries.steady numbered run, fun mark number => ?_, ?_⟩
  · -- the marks of the whole match are those of group 0
    have closed : (mark == .closed 0) = false := by
      rw [beq_eq_false_iff_ne]
      rintro rfl
      cases number
    have opened : List.lookup mark [(Mark.opened 0, i)] = none := by
      rw [List.lookup_cons]
      cases mark with
      | closed n => rfl
      | opened n =>
        cases n with
        | zero => cases number
        | succ n => rfl
    rw [marks, List.lookup_cons, closed, List.lookup_append, opened, Option.or_none]
  · rw [← filled, Matcher.groups_of_compile? compiled]
    cases ofPattern source
    rfl

/-- The outermost groups of a match stand side by side, where what is around them has no groups. -/
theorem Matcher.tookPart_of_match {root : Group} (carries : Carries source ps)
    (captures : ∀ p ∈ ps, p.nests = [] ∨ p.IsCapture) (compiled : compile? source = some m)
    (found : m.match? text = some root) :
    root.children.length = (ps.flatMap Pattern.nests).length ∧
      (∀ g ∈ root.children, g.TookPart text) ∧ root.children.Pairwise Group.Before := by
  obtain ⟨-, nested, i, j, ms, all, taken, same, filled⟩ :=
    Matcher.runsAll_of_match carries compiled found
  have laid := taken.laid captures fun mark low _ => same mark low
  rw [← nested] at laid ⊢
  rw [filled, length_fillAll, length_nests]
  obtain ⟨each, apart⟩ := filled_of_laid laid
  exact ⟨rfl, fun g hg => (each g hg).1, apart⟩

/-! ## Arguments -/

namespace Argument

variable {groups : List Group} {types : List ParameterType}

theorem groups_pair (h : groups.length = types.length) (hints : List String) :
    (pair groups types hints).map (·.group) = groups := by
  induction groups generalizing types hints with
  | nil => simp [pair]
  | cons group groups ih =>
    cases types with
    | nil => cases h
    | cons type types => simp [pair, ih (Nat.succ.inj h)]

theorem types_pair (h : groups.length = types.length) (hints : List String) :
    (pair groups types hints).map (·.type) = types := by
  induction groups generalizing types hints with
  | nil => cases types with
    | nil => simp [pair]
    | cons => cases h
  | cons group groups ih =>
    cases types with
    | nil => cases h
    | cons type types => simp [pair, ih (Nat.succ.inj h)]

end Argument

theorem Registry.Reachable.scannableTypes {r : Registry} (h : r.Reachable)
    (scannable : ∀ t ∈ r.types, t ∈ Builtin.types ∨ t.Scannable) : ScannableTypes r.byName? := by
  intro name t found
  have registered := (h.indexed.byName?_eq_some_iff.mp found).1
  exact ⟨h.sound t registered, (scannable t registered).elim (builtin_scannable t) id⟩

namespace TemplateExpression

variable {r : Registry} {e : TemplateExpression}

/-- A match has one argument for each parameter, in the order in which they are written, with the
type that is registered by its name. The arguments stand in the text one after the other. -/
theorem arguments_of_match (reachable : r.Reachable)
    (scannable : ∀ t ∈ r.types, t ∈ Builtin.types ∨ t.Scannable) (h : create r source = .ok e)
    (found : (e.matcher.match? text).isSome = true) (limit : Nat) (hints : List String) :
    ∃ root args, Template.parse source = .ok root ∧
      (Expression.template e).arguments limit text hints = .ok (some args) ∧
      root.parameters.map r.byName? = args.map (fun a => some a.type) ∧
      (∀ a ∈ args, a.group.TookPart text) ∧ args.Pairwise fun a b => a.group.Before b.group := by
  obtain ⟨root, whole, m, parsed, bound, compiled, rfl⟩ := create_eq_ok h
  obtain ⟨children, span, rfl, shape⟩ := shape_of_parse parsed
  obtain ⟨part, anchored, same, ps, carries, captures, length, named⟩ :=
    binds_root (reachable.scannableTypes scannable) shape bound
  rw [anchored] at compiled
  have items : ∀ p ∈ [.atom (.anchor .lineStart)] ++ ps ++ [.atom (.anchor .lineEnd)],
      p.nests = [] ∨ p.IsCapture := by
    simp only [List.mem_append, List.mem_singleton]
    rintro p ((rfl | hp) | rfl)
    exacts [.inl rfl, captures p hp, .inl rfl]
  obtain ⟨top, matched⟩ := Option.isSome_iff_exists.mp found
  obtain ⟨count, each, apart⟩ :=
    Matcher.tookPart_of_match (carries_anchored carries) items compiled matched
  have aligned : top.children.length = whole.types.length := by
    rw [count, same, ← length]
    simp [Pattern.nests]
  have groups := Argument.groups_pair aligned hints
  have types := Argument.types_pair aligned hints
  refine ⟨_, Argument.pair top.children whole.types hints, parsed, ?_, ?_, ?_, ?_⟩
  · simp [Expression.arguments, Matcher.arguments, matched, aligned]
  · calc (Node.branch .expression children span).parameters.map r.byName?
        = part.types.map some := named
      _ = ((Argument.pair top.children whole.types hints).map (·.type)).map some := by
        rw [types, same]
      _ = (Argument.pair top.children whole.types hints).map fun a => some a.type := List.map_map
  · rw [← groups] at each
    simpa using each
  · rw [← groups, List.pairwise_map] at apart
    exact apart

theorem isSome_match?_ints : ∃ e, create .initial "{int} {int}".toList = .ok e ∧
    (e.matcher.match? "4 2".toList).isSome = true := by
  have made : (create .initial "{int} {int}".toList).isOk = true := by decide +kernel
  cases h : create .initial "{int} {int}".toList with
  | error problem => rw [h] at made; cases made
  | ok e =>
    refine ⟨e, rfl, ?_⟩
    obtain ⟨root, whole, m, parsed, binds, compiled, rfl⟩ := create_eq_ok h
    obtain ⟨p, r, read, meaning, program⟩ := Matcher.program_of_compile? compiled
    let digits : Regex := .rounds 1 none true (.set false ⟨[⟨48, 57⟩]⟩)
    let int : Regex := .alt (.cat (.rounds 0 (some 1) true (.literal ['-'])) digits) digits
    have known : ((Template.parse "{int} {int}".toList).toOption.bind fun root =>
        (root.bind Registry.initial.byName?).toOption.bind fun bound =>
          (parse? (narrowDigits bound.pattern)).bind Pattern.regex?) =
        some (.cat (.look .textStart) (.cat (.group 1 int) (.cat (.literal [' '])
          (.cat (.group 2 int) (.look .textEnd))))) := by decide +kernel
    simp only [parsed, binds, read, meaning, Except.toOption, Option.bind_some,
      Option.some.injEq] at known
    subst known
    have digit (i : Nat) (there : ∃ c, "4 2".toList.toArray[i]? = some c ∧
        CharSet.contains ⟨[⟨48, 57⟩]⟩ c = true) : int.Matches "4 2".toList.toArray i (i + 1) := by
      refine Regex.matches_alt.mpr (.inr (Regex.matches_rounds.mpr ?_))
      exact ⟨1, ⟨by omega, by simp⟩, i + 1, Regex.matches_set.mpr ⟨there, rfl⟩, rfl⟩
    rw [Matcher.match?, Option.isSome_map, program, Regex.program_search_isSome_iff]
    refine ⟨0, 3, by simp, ?_⟩
    simp only [Regex.matches_cat, Regex.matches_group]
    refine ⟨0, ?_, 1, digit 0 ⟨'4', rfl, rfl⟩, 2, ?_, 3, digit 2 ⟨'2', rfl, rfl⟩, ?_⟩
    · simp [Look.holds, Look.before?]
    · simp [Regex.Spells]
    · simp [Look.holds]

theorem arguments_of_match_ints : ∃ e args, create .initial "{int} {int}".toList = .ok e ∧
    (e.matcher.match? "4 2".toList).isSome = true ∧
    (Expression.template e).arguments 0 "4 2".toList [] = .ok (some args) ∧
    args.map (·.type) = [Builtin.integer, Builtin.integer] ∧
    (∀ a ∈ args, a.group.TookPart "4 2".toList) ∧
    args.Pairwise fun a b => a.group.Before b.group := by
  obtain ⟨e, h, found⟩ := isSome_match?_ints
  obtain ⟨root, args, parsed, same, rows, each, apart⟩ :=
    arguments_of_match .initial (fun t ht => .inl (Registry.types_initial ▸ ht)) h found 0 []
  have names : (Template.parse "{int} {int}".toList).toOption.map Node.parameters =
      some ["int", "int"] := by decide +kernel
  rw [parsed] at names
  have int : Registry.initial.byName? "int" = some Builtin.integer := rfl
  refine ⟨e, args, h, found, same, ?_, each, apart⟩
  rw [Option.some.inj names] at rows
  apply List.map_injective_iff.mpr (Option.some_injective ParameterType)
  calc (args.map (·.type)).map some
      = ["int", "int"].map Registry.initial.byName? := List.map_map.trans rows.symm
    _ = [Builtin.integer, Builtin.integer].map some := by
      simp only [List.map_cons, List.map_nil, int]

end TemplateExpression

end StepExpr
