import StepExpr.Proofs.Expression.Arguments

/-!
# The captures of parameters

All regexps of a type become branches of one group, and the groups of all of them are inside of it.
The transformer of the type gets the captures of the branch that matched, and nothing for each group
of the other branches. If no regexp has groups, it gets the text of the parameter.

* `MatchedBy`: a regexp takes up a part of a text, and its groups parts of that;
* `Chosen`: a group is that of the branches of a type, one of which matched;
* `chosen_of_runsAll`: so are the groups of the parameters of a template;
* `TemplateExpression.captures_of_match`: what the transformers get.
-/

namespace StepExpr

open Pattern Regex Template GroupTree

variable {text : List Char} {i j n next : Nat} {p q : Pattern} {ps : List Pattern} {f g : Flags}
  {regexp : String} {regexps : List String} {all : Marks} {slice : Nat → Option Slice}

/-! ## Outermost groups -/

/-- The numbers of groups side by side, where `n` is that of the first. -/
def Nest.fronts : Nat → List Nest → List Nat
  | _, [] => []
  | n, nest :: others => n :: Nest.fronts (n + nest.size) others

theorem Nest.fronts_append (n : Nat) (ns ms : List Nest) :
    Nest.fronts n (ns ++ ms) = Nest.fronts n ns ++ Nest.fronts (n + Nest.sizes ns) ms := by
  induction ns generalizing n with
  | nil => rfl
  | cons nest ns ih => simp only [List.cons_append, Nest.fronts, Nest.sizes, ih, Nat.add_assoc]

theorem Nest.length_fronts (n : Nat) (ns : List Nest) : (Nest.fronts n ns).length = ns.length := by
  induction ns generalizing n with
  | nil => rfl
  | cons nest ns ih => rw [Nest.fronts, List.length_cons, List.length_cons, ih]

theorem Nest.mem_fronts {k : Nat} {ns : List Nest} (h : k ∈ Nest.fronts n ns) :
    n ≤ k ∧ k < n + Nest.sizes ns := by
  induction ns generalizing n with
  | nil => cases h
  | cons nest ns ih =>
    cases nest with
    | node inside =>
      simp only [Nest.sizes, Nest.size]
      rcases List.mem_cons.mp h with rfl | h
      · omega
      · have := ih h
        simp only [Nest.size] at this
        omega

/-- The text of a group with the given number. -/
def textAt (span : Nat → Option (Nat × Nat)) (text : List Char) (n : Nat) : Option String :=
  (sliceAt span text n).map Slice.text

theorem GroupTree.values_fillAll (n : Nat) (trees : List GroupTree) :
    (fillAll slice n trees).1.map Group.value =
      (Nest.fronts n (GroupTree.nests trees)).map fun k => (slice k).map Slice.text := by
  induction trees generalizing n with
  | nil => rfl
  | cons tree trees ih =>
    simp only [fillAll, GroupTree.nests, Nest.fronts, List.map_cons, fill_next, ih, Group.value, slice_fill]

theorem span?_congr {ms : Marks}
    (h : ∀ mark : Mark, mark.number = n → all.lookup mark = ms.lookup mark) :
    Captures.span? ⟨all⟩ n = Captures.span? ⟨ms⟩ n := by
  simp only [Captures.span?, h (.opened n) rfl, h (.closed n) rfl]

/-! ## Regexps -/

/-- The pattern that a regexp stands for. -/
def patternOf? (regexp : String) : Option Pattern :=
  parse? (narrowDigits regexp.toList)

/-- The outermost groups of a regexp. -/
def outermost (regexp : String) : List Nest :=
  (patternOf? regexp).elim [] Pattern.nests

/-- The regexp takes up the part of a text between two positions, and `values` are what its outermost
groups take up of it, whatever the number of the first group is. -/
def MatchedBy (text : List Char) (regexp : String) (i j : Nat) (values : Captured) :
    Prop :=
  ∃ p n branches after next ms, patternOf? regexp = some p ∧
    p.branchesFrom? .initial n = some (branches, after, next) ∧
    (alternation branches).Run text.toArray i j ms ∧
    values = (Nest.fronts n p.nests).map (textAt (Captures.span? ⟨ms⟩) text)

/-- Nothing for each outermost group of some regexps. -/
def missing (regexps : List String) : Captured :=
  (regexps.flatMap outermost).map fun _ => none

theorem Template.BuiltFrom.patternOf? (h : BuiltFrom p regexp) (fine : p.Fine) :
    patternOf? regexp = some p := by
  obtain ⟨ls, cut, built⟩ := h
  exact parse?_of_fine fine cut built

theorem outermost_of_builtFrom (h : List.Forall₂ BuiltFrom ps regexps) (fine : ∀ p ∈ ps, p.Fine) :
    regexps.flatMap outermost = ps.flatMap Pattern.nests := by
  induction h with
  | nil => rfl
  | @cons p regexp ps regexps first _ ih =>
    obtain ⟨here, others⟩ := List.forall_mem_cons.mp fine
    rw [List.flatMap_cons, List.flatMap_cons, ih others, outermost, first.patternOf? here,
      Option.elim_some]

/-! ## Choices -/

theorem nests_choiceOf (ps : List Pattern) : (choiceOf ps).nests = ps.flatMap Pattern.nests := by
  unfold choiceOf
  split
  · simp
  · rw [nests_altOf, List.flatMap_map]
    rfl

theorem Pattern.Fine.choice (h : (choiceOf ps).Fine) (hp : p ∈ ps) : p.Fine := by
  unfold choiceOf at h
  split at h
  · rwa [List.mem_singleton.mp hp]
  · refine (h.branch (p := .group (.plain []) p) ?_ (List.mem_map_of_mem hp)).plain
    intro q hq
    obtain ⟨p, -, rfl⟩ := List.mem_map.mp hq
    exact fun _ => rfl

/-- A run of a choice is one of a pattern that is chosen from. -/
theorem run_of_choiceOf {branches : List Regex} {ms : Marks} {text : Array Char} (filled : ps ≠ [])
    (h : (choiceOf ps).branchesFrom? .initial n = some (branches, g, next))
    (run : (alternation branches).Run text i j ms) :
    ∃ before p behind branches' after' next', ps = before ++ p :: behind ∧
      p.branchesFrom? .initial (n + Nest.sizes (before.flatMap Pattern.nests)) =
        some (branches', after', next') ∧ (alternation branches').Run text i j ms := by
  unfold choiceOf at h
  split at h
  · exact ⟨[], _, [], branches, g, next, rfl, h, run⟩
  · obtain ⟨before, q, behind, branches', after', next', same, known, taken⟩ :=
      run_of_altOf (by simpa using filled) (fun q hq => by
        obtain ⟨p, -, rfl⟩ := List.mem_map.mp hq
        exact fun _ => rfl) h run
    obtain ⟨before, rest, rfl, rfl, others⟩ := List.map_eq_append_iff.mp same
    obtain ⟨p, behind, rfl, rfl, rfl⟩ := List.map_eq_cons_iff.mp others
    obtain ⟨body, flags, inner, rfl, -⟩ := branchesFrom?_plain known
    refine ⟨before, p, behind, body, flags, next', rfl, ?_, ?_⟩
    · rwa [List.flatMap_map] at inner
    · simpa [run_alternation] using taken

theorem exists_split {α β : Type} {related : α → β → Prop} {before behind : List α} {x : α}
    {ys : List β} (h : List.Forall₂ related (before ++ x :: behind) ys) :
    ∃ before' y behind', ys = before' ++ y :: behind' ∧ List.Forall₂ related before before' ∧
      related x y ∧ List.Forall₂ related behind behind' := by
  induction before generalizing ys with
  | nil =>
    obtain ⟨y, behind', first, others, rfl⟩ := List.forall₂_cons_left_iff.mp h
    exact ⟨[], y, behind', rfl, .nil, first, others⟩
  | cons z before ih =>
    obtain ⟨y, rest, first, others, rfl⟩ := List.forall₂_cons_left_iff.mp h
    obtain ⟨before', x', behind', rfl, front, middle, back⟩ := ih others
    exact ⟨y :: before', x', behind', rfl, .cons first front, middle, back⟩

/-! ## Groups of parameters -/

/-- The group is that of a type: one of the regexps took up the text of the group, and the groups
inside are those of all regexps, where only those of the one took part. -/
def Chosen (text : List Char) (group : Group) (t : ParameterType) : Prop :=
  ∃ i j before regexp behind own, t.regexps = before ++ regexp :: behind ∧
    group.slice = some (sliceOf text i j) ∧ MatchedBy text regexp i j own ∧
    group.children.map Group.value = missing before ++ own ++ missing behind

/-- Groups without marks took no part. -/
theorem texts_unmarked {ns : List Nest}
    (h : ∀ mark : Mark, n ≤ mark.number → mark.number < n + Nest.sizes ns → all.lookup mark = none) :
    (Nest.fronts n ns).map (textAt (Captures.span? ⟨all⟩) text) = ns.map fun _ => none := by
  have none : ∀ k ∈ Nest.fronts n ns, textAt (Captures.span? ⟨all⟩) text k = none := by
    intro k hk
    obtain ⟨low, high⟩ := Nest.mem_fronts hk
    have unmarked : Captures.span? ⟨all⟩ k = Captures.span? ⟨[]⟩ k :=
      span?_congr fun mark same => h mark (by omega) (by omega)
    rw [textAt, sliceAt, unmarked]
    rfl
  rw [List.map_congr_left none, List.map_const', List.map_const', Nest.length_fronts]

/-- Of groups side by side, those that a run marks have the texts of the run, and those before and
after them took no part. -/
theorem texts_beside {before own behind : List Nest} {taken : Marks}
    (within : Within (n + Nest.sizes before) (n + Nest.sizes before + Nest.sizes own) i j taken)
    (marks : ∀ mark : Mark, n ≤ mark.number →
      mark.number < n + (Nest.sizes before + (Nest.sizes own + Nest.sizes behind)) →
      all.lookup mark = taken.lookup mark) :
    (Nest.fronts n (before ++ (own ++ behind))).map (textAt (Captures.span? ⟨all⟩) text) =
      (before.map fun _ => none) ++
        (Nest.fronts (n + Nest.sizes before) own).map (textAt (Captures.span? ⟨taken⟩) text) ++
        behind.map fun _ => none := by
  rw [Nest.fronts_append, Nest.fronts_append, List.map_append, List.map_append, List.append_assoc]
  congr 1
  · refine texts_unmarked fun mark low high => ?_
    rw [marks mark (by omega) (by omega), lookup_eq_none within (.inl (by omega))]
  congr 1
  · refine List.map_congr_left fun k hk => ?_
    obtain ⟨low, high⟩ := Nest.mem_fronts hk
    have same : Captures.span? ⟨all⟩ k = Captures.span? ⟨taken⟩ k :=
      span?_congr fun mark number => marks mark (by omega) (by omega)
    rw [textAt, textAt, sliceAt, sliceAt, same]
  · refine texts_unmarked fun mark low high => ?_
    rw [marks mark (by omega) (by omega), lookup_eq_none within (.inr (by omega))]

/-- The marks of the groups inside of a capturing group are those of what is inside. -/
theorem lookup_inside {mark : Mark} {taken : Marks} (inside : n < mark.number) :
    List.lookup mark ((.closed n, j) :: (taken ++ [(.opened n, i)])) = taken.lookup mark := by
  have closed : (mark == .closed n) = false := by
    rw [beq_eq_false_iff_ne]
    rintro rfl
    exact Nat.lt_irrefl n inside
  have opened : (mark == .opened n) = false := by
    rw [beq_eq_false_iff_ne]
    rintro rfl
    exact Nat.lt_irrefl n inside
  rw [List.lookup_cons, closed, List.lookup_append, List.lookup_cons, opened, List.lookup_nil,
    Option.or_none]

theorem chosen_of_capture {text : List Char} {t : ParameterType} {tree : GroupTree}
    {branches : List Regex} {ns : Marks} (chooses : Chooses t.regexps q) (filled : t.regexps ≠ [])
    (fine : q.Fine) (nested : tree.nest = .node q.nests)
    (known : (group (.capturing none) q).branchesFrom? .initial n = some (branches, g, next))
    (run : (alternation branches).Run text.toArray i j ns)
    (mine : ∀ mark : Mark, n ≤ mark.number → mark.number < n + (Nest.sizes q.nests + 1) →
      all.lookup mark = ns.lookup mark) :
    Chosen text (tree.fill (sliceAt (Captures.span? ⟨all⟩) text) n).1 t := by
  obtain ⟨body, flags, taken, inner, inside, rfl⟩ := run_capture known run
  have whole : Captures.span? ⟨all⟩ n = some (i, j) := span?_capture inner inside mine
  obtain ⟨ps, builts, rfl⟩ := chooses
  have some : ps ≠ [] := by
    rintro rfl
    exact filled (List.forall₂_nil_left_iff.mp builts)
  obtain ⟨before, p, behind, branches, after, last, rfl, meaning, own⟩ :=
    run_of_choiceOf some inner inside
  obtain ⟨before', regexp, behind', same, front, built, back⟩ := exists_split builts
  have each : ∀ p' ∈ before ++ p :: behind, p'.Fine := fun p' hp => fine.choice hp
  obtain ⟨fineBefore, fineRest⟩ := List.forall_mem_append.mp each
  obtain ⟨finePattern, fineBehind⟩ := List.forall_mem_cons.mp fineRest
  refine ⟨i, j, before', regexp, behind', _, same, ?_,
    ⟨p, _, branches, after, last, taken, built.patternOf? finePattern, meaning, own, rfl⟩, ?_⟩
  · rw [slice_fill, sliceAt, whole]
    rfl
  · obtain ⟨source, children⟩ := tree
    have inner : GroupTree.nests children = (before ++ p :: behind).flatMap Pattern.nests :=
      nests_choiceOf _ ▸ Nest.node.inj nested
    rw [nests_choiceOf] at mine
    rw [List.flatMap_append, List.flatMap_cons] at inner mine
    simp only [Nest.sizes_append] at mine
    obtain ⟨rfl, numbered⟩ := numbered_of_branchesFrom? meaning
    have within := (obeys_alternation numbered).within own
    change (fillAll _ (n + 1) children).1.map Group.value = _
    rw [values_fillAll, inner, missing, missing, outermost_of_builtFrom front fineBefore,
      outermost_of_builtFrom back fineBehind]
    refine texts_beside within fun mark low high => ?_
    rw [mine mark (by omega) (by omega), lookup_inside (by omega)]

/-- The groups of the parameters of some types are those of their regexps. -/
theorem chosen_of_runsAll {text : List Char} {types : List ParameterType} {ms : Marks}
    {trees : List GroupTree} (aligned : Aligned ps types) (filled : ∀ t ∈ types, t.regexps ≠ [])
    (fine : ∀ p ∈ ps, p.Fine) (runs : RunsAll text.toArray ps n i j ms)
    (same : ∀ mark : Mark, n ≤ mark.number →
      mark.number < n + Nest.sizes (ps.flatMap Pattern.nests) → all.lookup mark = ms.lookup mark)
    (nested : GroupTree.nests trees = ps.flatMap Pattern.nests) :
    List.Forall₂ (Chosen text) (fillAll (sliceAt (Captures.span? ⟨all⟩) text) n trees).1 types := by
  induction aligned generalizing n i ms trees with
  | nil =>
    cases trees with
    | nil => exact .nil
    | cons => cases nested
  | @silent p ps types none _ ih =>
    obtain ⟨-, fine⟩ := List.forall_mem_cons.mp fine
    obtain ⟨branches, after, k, ns, os, -, -, others, -, theirs⟩ := runs.split same
    rw [none] at others theirs
    rw [List.flatMap_cons, none] at nested
    exact ih filled fine others theirs nested
  | @parameter q t ps types chooses _ ih =>
    obtain ⟨here, fine⟩ := List.forall_mem_cons.mp fine
    obtain ⟨first, filled⟩ := List.forall_mem_cons.mp filled
    obtain ⟨branches, after, k, ns, os, known, run, others, mine, theirs⟩ := runs.split same
    cases trees with
    | nil => cases nested
    | cons tree trees =>
      obtain ⟨nest, nested⟩ := List.cons.inj nested
      have size : tree.nest.size = Nest.sizes (group (.capturing none) q).nests := by
        rw [nest]
        rfl
      simp only [fillAll, fill_next, size]
      exact .cons (chosen_of_capture chooses first here.captured nest known run mine)
        (ih filled fine others theirs nested)

/-! ## Arguments -/

theorem Matcher.chosen_of_match {source : List Char} {m : Matcher} {root : Group}
    {types : List ParameterType} (carries : Carries source ps) (aligned : Aligned ps types)
    (filled : ∀ t ∈ types, t.regexps ≠ []) (compiled : compile? source = some m)
    (found : m.match? text = some root) : List.Forall₂ (Chosen text) root.children types := by
  obtain ⟨parsed, nested, i, j, ms, all, runs, same, rows⟩ :=
    Matcher.runsAll_of_match carries compiled found
  obtain ⟨p, r, parsed', meaning, -⟩ := Matcher.program_of_compile? compiled
  obtain rfl := Option.some.inj (parsed.symm.trans parsed')
  obtain ⟨ls, -, -, distinct, shallow⟩ := parse?_eq_some_iff.mp parsed
  have whole : (catOf ps).Fine := ⟨(regex?_spec meaning).1, distinct, shallow⟩
  rw [rows]
  exact chosen_of_runsAll aligned filled (fun p hp => whole.item carries.steady hp) runs
    (fun mark low _ => same mark low) nested

theorem Argument.chosen_of_pair {groups : List Group} {types : List ParameterType}
    (h : List.Forall₂ (Chosen text) groups types) (hints : List String) :
    ∀ a ∈ Argument.pair groups types hints, Chosen text a.group a.type := by
  induction h generalizing hints with
  | nil => simp [Argument.pair]
  | cons first _ ih =>
    rw [Argument.pair]
    exact List.forall_mem_cons.mpr ⟨first, ih _⟩

/-- What an argument takes its value from, where no hint decides. -/
theorem Argument.compute_of_no_hint {a : Argument} (none : a.hint = none) (log : CallLog) :
    a.compute log = a.type.transformer.apply log
      (if a.type.anonymous then [a.group.value] else a.group.values) := by
  simp only [Argument.compute, none]
  split <;> rfl

/-- Only anonymous parameters have hints. -/
theorem Argument.anonymous_of_pair (groups : List Group) (types : List ParameterType)
    (hints : List String) :
    ∀ a ∈ Argument.pair groups types hints, a.type.anonymous = false → a.hint = none := by
  induction groups generalizing types hints with
  | nil => simp [Argument.pair]
  | cons group groups ih =>
    cases types with
    | nil => simp [Argument.pair]
    | cons t types =>
      rw [Argument.pair]
      exact List.forall_mem_cons.mpr ⟨fun named => if_neg (Bool.eq_false_iff.mp named), ih _ _⟩

/-- The captures inside of a parameter, or its whole text if there are none. -/
def insideOr (whole : Slice) (inside : Captured) : Captured :=
  if inside.isEmpty then [some whole.text] else inside

/-- No branch of a choice without groups has captures. -/
theorem MatchedBy.eq_nil {own : Captured} (h : MatchedBy text regexp i j own)
    (flat : outermost regexp = []) : own = [] := by
  obtain ⟨p, n, branches, after, next, ms, found, -, -, rfl⟩ := h
  rw [outermost, found, Option.elim_some] at flat
  rw [flat]
  rfl

/-- The value of an argument is made from the captures inside of its group. -/
theorem Argument.compute_of_inside {a : Argument} {s : Slice} {inside : Captured}
    (whole : a.group.slice = some s) (same : a.group.children.map Group.value = inside)
    (flat : a.type.anonymous = true → inside = []) (none : a.hint = none) (log : CallLog) :
    a.compute log = a.type.transformer.apply log (insideOr s inside) := by
  have value : a.group.value = some s.text := by rw [Group.value, whole]; rfl
  have values : a.group.values = insideOr s inside := by
    rw [Group.values, insideOr, ← same, value, List.isEmpty_map]
  rw [Argument.compute_of_no_hint none, values]
  split
  · rename_i anonymous
    rw [flat anonymous, value]
    rfl
  · rfl

namespace TemplateExpression

variable {r : Registry} {e : TemplateExpression} {source : List Char}

/-- Each parameter of a match is taken up by one of the regexps of its type, and the transformer of
the type gets the captures of that regexp, with nothing for each group of the others before and
behind. Where no regexp of the type has groups, it gets the text of the parameter. -/
theorem captures_of_match (reachable : r.Reachable)
    (scannable : ∀ t ∈ r.types, t ∈ Builtin.types ∨ t.Scannable) (h : create r source = .ok e)
    (found : (e.matcher.match? text).isSome = true) (limit : Nat) (hints : List String) :
    ∃ args, (Expression.template e).arguments limit text hints = .ok (some args) ∧
      args.map (·.type) = e.types ∧
      ∀ a ∈ args, (a.type.anonymous = false → a.hint = none) ∧
        ∃ i j before regexp behind own, a.type.regexps = before ++ regexp :: behind ∧
          a.group.slice = some (sliceOf text i j) ∧ MatchedBy text regexp i j own ∧
          (a.hint = none → ∀ log, a.compute log = a.type.transformer.apply log
            (insideOr (sliceOf text i j) (missing before ++ own ++ missing behind))) := by
  obtain ⟨root, whole, m, parsed, bound, compiled, rfl⟩ := create_eq_ok h
  obtain ⟨children, span, rfl, shape⟩ := shape_of_parse parsed
  obtain ⟨part, anchored, same, ps, carries, aligned, named⟩ :=
    aligned_root (reachable.scannableTypes scannable) shape bound
  have registered : ∀ t ∈ part.types, t ∈ r.types := by
    intro t ht
    obtain ⟨name, -, known⟩ := List.mem_map.mp (named ▸ List.mem_map_of_mem (f := some) ht)
    exact (reachable.indexed.byName?_eq_some_iff.mp known).1
  rw [anchored] at compiled
  obtain ⟨top, matched⟩ := Option.isSome_iff_exists.mp found
  have items : Aligned ([.atom (.anchor .lineStart)] ++ ps ++ [.atom (.anchor .lineEnd)])
      part.types := by
    simpa using ((Aligned.silent rfl .nil).append aligned).append (.silent rfl .nil)
  have chosen : List.Forall₂ (Chosen text) top.children whole.types :=
    same ▸ Matcher.chosen_of_match (carries_anchored carries) items
      (fun t ht => (reachable.sound t (registered t ht)).filled) compiled matched
  have types := Argument.types_pair chosen.length_eq hints
  refine ⟨Argument.pair top.children whole.types hints, ?_, types, fun a ha => ?_⟩
  · simp [Expression.arguments, Matcher.arguments, matched, chosen.length_eq]
  · refine ⟨Argument.anonymous_of_pair _ _ hints a ha, ?_⟩
    obtain ⟨i, j, before, regexp, behind, own, split, slice, known, inside⟩ :=
      Argument.chosen_of_pair chosen hints a ha
    refine ⟨i, j, before, regexp, behind, own, split, slice, known, fun none log => ?_⟩
    refine Argument.compute_of_inside slice inside (fun anonymous => ?_) none log
    have mine : a.type ∈ r.types :=
      registered _ (same ▸ types ▸ List.mem_map_of_mem (f := (·.type)) ha)
    have only := reachable.regexps_of_anonymous a.type mine anonymous
    rw [only] at split
    obtain ⟨rfl, rfl, rfl⟩ : before = [] ∧ regexp = Builtin.anonymousRegexp ∧ behind = [] := by
      simpa [List.singleton_eq_append_iff] using split
    rw [known.eq_nil rfl]
    rfl

/-- A type whose first regexp has a group and whose second one has none. -/
def letter : ParameterType :=
  ⟨"t", ["(a)", "b"], none, .kind .string, true, false, false⟩

theorem scannable_letter : letter.Scannable := by
  have group : Pattern.Scannable "(a)".toList := by
    refine @scannable_of_flat _ 4 ?_ rfl
    exact tame_of_scan? rfl (by simp [Lexeme.Quiet, Lexeme.NamesNoBracket])
  have bare : Pattern.Scannable "b".toList := by
    refine @scannable_of_flat _ 2 ?_ rfl
    exact tame_of_scan? rfl (by simp [Lexeme.Quiet, Lexeme.NamesNoBracket])
  exact List.forall_mem_cons.mpr ⟨group, List.forall_mem_singleton.mpr bare⟩

theorem isSome_match?_letter : ∃ r e, r.Reachable ∧ r.types = Builtin.types ++ [letter] ∧
    create r "{t}".toList = .ok e ∧ e.types = [letter] ∧
    (e.matcher.match? "b".toList).isSome = true := by
  have made : ParameterType.create "t" ["(a)", "b"] none (.kind .string) = .ok letter := rfl
  have defined : (Registry.initial.define letter).isOk = true := by decide +kernel
  cases h : Registry.initial.define letter with
  | error problem => rw [h] at defined; cases defined
  | ok r =>
    have types := Registry.types_define h
    rw [Registry.types_initial] at types
    obtain ⟨-, rfl⟩ := Registry.register_of_define h
    have parsed : Template.parse "{t}".toList = .ok (.branch .expression
        [.branch .parameter [.text "t".toList ⟨1, 2⟩] ⟨0, 3⟩] ⟨0, 3⟩) := rfl
    have bound : (Node.branch .expression
        [.branch .parameter [.text "t".toList ⟨1, 2⟩] ⟨0, 3⟩] ⟨0, 3⟩).bind
          (Registry.initial.insert letter).byName? =
            .ok ⟨"^((?:(a))|(?:b))$".toList, [letter]⟩ := rfl
    have known : (parse? (narrowDigits "^((?:(a))|(?:b))$".toList)).bind Pattern.regex? =
        some (.cat (.look .textStart) (.cat
          (.group 1 (.alt (.group 2 (.literal ['a'])) (.literal ['b'])))
          (.look .textEnd))) := by decide +kernel
    obtain ⟨m, compiled, program, -⟩ := Matcher.compile?_of_regex? known (by decide +kernel)
    refine ⟨_, _, .define true false .initial made h, types,
      create_of_compile? parsed bound compiled, rfl, ?_⟩
    rw [Matcher.match?, Option.isSome_map, program, Regex.program_search_isSome_iff]
    refine ⟨0, 1, by simp, ?_⟩
    simp only [Regex.matches_cat, Regex.matches_group, Regex.matches_alt]
    refine ⟨0, ?_, 1, .inr ?_, ?_⟩
    · simp [Look.holds, Look.before?]
    · simp [Regex.Spells]
    · simp [Look.holds]

/-- The second regexp matches, and the transformer gets nothing for the group of the first. -/
theorem captures_of_match_letter : ∃ r e args, r.Reachable ∧
    (∀ t ∈ r.types, t ∈ Builtin.types ∨ t.Scannable) ∧ create r "{t}".toList = .ok e ∧
    (e.matcher.match? "b".toList).isSome = true ∧
    (Expression.template e).arguments 0 "b".toList [] = .ok (some args) ∧
    args.map (·.type) = [letter] ∧
    ∀ a ∈ args, ∀ log, a.compute log = letter.transformer.apply log [none] := by
  obtain ⟨r, e, reachable, types, h, own, found⟩ := isSome_match?_letter
  have scannable : ∀ t ∈ r.types, t ∈ Builtin.types ∨ t.Scannable := by
    intro t ht
    rw [types] at ht
    cases List.mem_append.mp ht with
    | inl builtin => exact .inl builtin
    | inr last => exact .inr (List.mem_singleton.mp last ▸ scannable_letter)
  obtain ⟨args, same, rows, each⟩ := captures_of_match reachable scannable h found 0 []
  rw [own] at rows
  refine ⟨r, e, args, reachable, scannable, h, found, same, rows, fun a ha log => ?_⟩
  obtain ⟨hint, i, j, before, regexp, behind, own, split, -, known, passed⟩ := each a ha
  have type : a.type = letter := List.mem_singleton.mp (rows ▸ List.mem_map_of_mem ha)
  rw [type] at split hint passed
  rw [passed (hint rfl) log]
  cases before with
  | nil =>
    -- the first regexp does not match
    obtain ⟨rfl, rfl⟩ := List.cons.inj split
    obtain ⟨p, n, branches, after, next, ms, parsed, meaning, run, -⟩ := known
    obtain rfl : group (.capturing none) (.atom (.literal 'a' false)) = p :=
      Option.some.inj parsed
    obtain ⟨body, flags, taken, inner, inside, -⟩ := run_capture meaning run
    obtain rfl : [.literal ['a']] = body := congrArg Prod.fst (Option.some.inj inner)
    have spelled : Regex.Spells "b".toList.toArray ['a'] i j :=
      matches_literal.mp ⟨taken, inside⟩
    have other : ∀ k : Nat, "b".toList.toArray[k]? ≠ some 'a' := by
      simp [List.getElem?_singleton]
    exact absurd spelled.1 (other i)
  | cons first before =>
    obtain ⟨rfl, others⟩ := List.cons.inj split
    obtain ⟨rfl, rfl, rfl⟩ : before = [] ∧ regexp = "b" ∧ behind = [] := by
      simpa [List.singleton_eq_append_iff] using others
    rw [known.eq_nil rfl]
    rfl

end TemplateExpression

end StepExpr
