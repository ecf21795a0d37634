import StepExpr.Proofs.Expression.Matching
import StepExpr.Proofs.Parameter.Lookup

/-!
# Which templates have a valid pattern

The regexps of parameter types are checked one by one, and the pattern of a template holds many of
them, in groups and choices and with their digits written out. All of that leaves them valid, but two
groups of the whole pattern must not have the same name.

* `Composes`: a piece adds items that have a meaning, with groups of given names;
* `composes_root`: the names in the pattern of a tree are those in the regexps of its parameters;
* `TemplateExpression.create_error`: so a pattern is invalid only for a name that it has twice, or for
  its size.
-/

namespace StepExpr

open Pattern

/-! ## Pieces -/

namespace Pattern

variable {s t : List Char} {names more : List (List Char)} {p : Pattern}

/-- The piece adds items that have a meaning, and groups in them are named `names`. -/
def Composes (s : List Char) (names : List (List Char)) : Prop :=
  ∃ ps, Adds s ps ∧ (∀ p ∈ ps, p.Steady) ∧ (∀ p ∈ ps, p.Defined .initial) ∧
    ps.flatMap Pattern.names = names

/-- The piece is all there is in a group and has a meaning, and groups in it are named `names`. -/
def Comprises (s : List Char) (names : List (List Char)) : Prop :=
  ∃ p, Fills s p ∧ p.Defined .initial ∧ p.names = names

/-- The pattern is not too deep, and neither is what it denotes too large. -/
def WithinLimits (s : List Char) : Prop :=
  ∀ ls, Lexeme.scan? s = some ls → ∀ p, build? [] .start ls = some p →
    p.depth .neither ≤ maxDepth ∧ ∀ r, p.regex? = some r → r.isWithinLimit = true

namespace Composes

theorem nil : Composes [] [] := ⟨[], .nil, by simp, by simp, rfl⟩

theorem single (adds : Adds s [p]) (steady : p.Steady) (defined : p.Defined .initial)
    (named : p.names = names) : Composes s names :=
  ⟨[p], adds, List.forall_mem_singleton.mpr steady, List.forall_mem_singleton.mpr defined,
    by simp [named]⟩

theorem append (h : Composes s names) (g : Composes t more) : Composes (s ++ t) (names ++ more) := by
  obtain ⟨ps, adds, steady, defined, rfl⟩ := h
  obtain ⟨qs, adds', steady', defined', rfl⟩ := g
  exact ⟨ps ++ qs, adds.append adds', List.forall_mem_append.mpr ⟨steady, steady'⟩,
    List.forall_mem_append.mpr ⟨defined, defined'⟩, List.flatMap_append⟩

theorem comprises (h : Composes s names) : Comprises s names := by
  obtain ⟨ps, adds, steady, defined, rfl⟩ := h
  exact ⟨catOf ps, adds.fills, (defined_catOf steady).mpr defined, names_catOf ps⟩

/-- A pattern that is put together from pieces is valid if no two groups have one name and it is
within the limits. -/
theorem compile?_isSome_iff (h : Composes s names) :
    (Matcher.compile? s).isSome = true ↔ names.Nodup ∧ WithinLimits (narrowDigits s) := by
  obtain ⟨ps, adds, steady, defined, rfl⟩ := h
  obtain ⟨ls, cut, built⟩ := adds.build?
  obtain ⟨r, meaning⟩ := ((defined_catOf steady).mpr defined).regex?
  have limits : WithinLimits (narrowDigits s) ↔
      (catOf ps).depth .neither ≤ maxDepth ∧ r.isWithinLimit = true := by
    simp only [WithinLimits, cut, Option.some.injEq, forall_eq', built, meaning]
  rw [Matcher.compile?, Option.isSome_map, limits, ← names_catOf]
  constructor
  · intro valid
    obtain ⟨r', valid⟩ := Option.isSome_iff_exists.mp valid
    obtain ⟨p, parsed, found⟩ := Option.bind_eq_some_iff.mp valid
    obtain rfl := adds.eq_catOf parsed
    obtain ⟨-, -, -, distinct, shallow⟩ := parse?_eq_some_iff.mp parsed
    obtain ⟨meaning', small⟩ := Option.filter_eq_some_iff.mp found
    obtain rfl := Option.some.inj (meaning.symm.trans meaning')
    exact ⟨distinct, shallow, small⟩
  · rintro ⟨distinct, shallow, small⟩
    have parsed := parse?_eq_some_iff.mpr ⟨ls, cut, built, distinct, shallow⟩
    simp [Regex.ofText?, parsed, meaning, small]

end Composes

namespace Comprises

theorem plain (h : Comprises s names) : Composes ("(?:".toList ++ s ++ ")".toList) names := by
  obtain ⟨p, fills, defined, rfl⟩ := h
  rw [List.append_assoc]
  exact .single fills.plain (fun _ => rfl) defined rfl

theorem optional (h : Comprises s names) : Composes ("(?:".toList ++ s ++ ")?".toList) names := by
  obtain ⟨p, fills, defined, rfl⟩ := h
  rw [List.append_assoc]
  exact .single fills.optional (fun _ => rfl) defined rfl

theorem capture (h : Comprises s names) : Composes ("(".toList ++ s ++ ")".toList) names := by
  obtain ⟨p, fills, defined, rfl⟩ := h
  rw [List.append_assoc]
  exact .single fills.capture (fun _ => rfl) defined rfl

/-- Pieces with bars between them fill a group with a choice. -/
theorem branches {ss : List (List Char)} {namess : List (List (List Char))}
    (h : List.Forall₂ Composes ss namess) (filled : ss ≠ []) :
    Comprises (List.intercalate ['|'] ss) namess.flatten := by
  obtain ⟨pss, adds, steady, defined, named⟩ : ∃ pss, List.Forall₂ Adds ss pss ∧
      (∀ ps ∈ pss, ∀ p ∈ ps, p.Steady) ∧ (∀ ps ∈ pss, ∀ p ∈ ps, p.Defined .initial) ∧
      pss.map (·.flatMap Pattern.names) = namess := by
    clear filled
    induction h with
    | nil => exact ⟨[], .nil, by simp, by simp, rfl⟩
    | cons first _ ih =>
      obtain ⟨ps, adds, steady, defined, named⟩ := first
      obtain ⟨pss, adds', steady', defined', named'⟩ := ih
      exact ⟨ps :: pss, .cons adds adds', List.forall_mem_cons.mpr ⟨steady, steady'⟩,
        List.forall_mem_cons.mpr ⟨defined, defined'⟩, by rw [List.map_cons, named, named']⟩
  have branches : ∀ p ∈ pss.map catOf, p.Steady ∧ p.Defined .initial := by
    intro p hp
    obtain ⟨ps, hps, rfl⟩ := List.mem_map.mp hp
    exact ⟨steady_catOf (steady ps hps), (defined_catOf (steady ps hps)).mpr (defined ps hps)⟩
  refine ⟨altOf (pss.map catOf), fills_of_branches adds filled, ?_, ?_⟩
  · exact (defined_altOf fun p hp => (branches p hp).1).mpr fun p hp => (branches p hp).2
  · rw [names_altOf, ← named, List.flatMap_map, ← List.flatMap_def]
    exact List.flatMap_congr fun ps _ => names_catOf ps

end Comprises

end Pattern

/-! ## Parameters -/

/-- The names of the groups in a regexp. -/
def groupNames (regexp : String) : List (List Char) :=
  ((parse? regexp.toList).map Pattern.names).getD []

/-- The names of the groups in the regexps of some types. -/
def groupNamesOf (types : List ParameterType) : List (List Char) :=
  (types.flatMap ParameterType.regexps).flatMap groupNames

theorem comprises_regexp {regexp : String} (tame : Tame regexp.toList) (valid : HasMeaning regexp) :
    Comprises regexp.toList (groupNames regexp) := by
  obtain ⟨p, parsed, defined⟩ := valid
  obtain ⟨p', fills, alike, -⟩ := fills_of_parse? tame parsed defined
  exact ⟨p', fills, alike.defined defined, by rw [alike.names, groupNames, parsed]; rfl⟩

namespace Template

variable {find : String → Option ParameterType} {node : Node} {nodes : List Node} {part : Bound}

theorem composes_parameter {t : ParameterType} (sound : t.Sound) (tame : t.Tame) :
    Composes (parameterPattern t.regexps) (t.regexps.flatMap groupNames) := by
  have each : ∀ regexp ∈ t.regexps, Comprises regexp.toList (groupNames regexp) :=
    fun regexp hr => comprises_regexp (tame regexp hr) (sound.valid regexp hr)
  have filled := sound.filled
  generalize t.regexps = regexps at each filled
  match regexps with
  | [] => exact absurd rfl filled
  | [regexp] =>
    have whole := (each regexp List.mem_cons_self).capture
    simpa [parameterPattern] using whole
  | first :: second :: others =>
    have wrapped : List.Forall₂ Composes
        ((first :: second :: others).map fun regexp => "(?:".toList ++ regexp.toList ++ ")".toList)
        ((first :: second :: others).map groupNames) :=
      List.forall₂_map_left_iff.mpr (List.forall₂_map_right_iff.mpr
        (List.forall₂_same.mpr fun regexp hr => (each regexp hr).plain))
    rw [parameterPattern_choice, List.flatMap_def]
    exact (Comprises.branches wrapped (by simp)).capture

/-! ## Nodes -/

/-- The part is a piece of a pattern, with the names of the regexps of its types. -/
def Bound.Composes (part : Bound) : Prop :=
  Pattern.Composes part.pattern (groupNamesOf part.types)

theorem composes_all {parts : List Bound} (h : ∀ part ∈ parts, part.Composes) :
    (Bound.join [] parts).Composes := by
  induction parts with
  | nil => exact .nil
  | cons part parts ih =>
    obtain ⟨first, others⟩ := List.forall_mem_cons.mp h
    have names : groupNamesOf (Bound.join [] (part :: parts)).types =
        groupNamesOf part.types ++
          groupNamesOf (Bound.join [] parts).types := by
      simp [groupNamesOf, Bound.join]
    rw [Bound.Composes, Bound.pattern_join_cons, names]
    exact first.append (ih others)

theorem Node.Plain.composes (types : SoundTypes find) (plain : node.Plain)
    (h : node.bind find = .ok part) : part.Composes := by
  induction plain generalizing part with
  | @text token span =>
    obtain ⟨rfl⟩ := h
    induction token with
    | nil => exact .nil
    | cons c token ih => exact (Composes.single (adds_char c) (fun _ => rfl) rfl rfl).append ih
  | optional _ ih =>
    obtain ⟨-, parts, bound, rfl⟩ := bind_optional_ok h
    have inside := composes_all (forall_of_bindAll bound fun node hn part => ih node hn)
    exact inside.comprises.optional
  | parameter =>
    obtain ⟨t, found, rfl⟩ := bind_parameter_ok h
    obtain ⟨sound, tame⟩ := types _ t found
    simpa [Bound.Composes, groupNamesOf] using composes_parameter sound tame

theorem Node.IsAlternation.composes (types : SoundTypes find) (shape : node.IsAlternation)
    (h : node.bind find = .ok part) : part.Composes := by
  obtain ⟨alternatives, span, parts, rfl, bound, rfl, some, each⟩ := shape.bind_ok h
  have pieces : ∀ part ∈ parts, part.Composes := by
    refine forall_of_bindAll bound fun alternative ha part known => ?_
    obtain ⟨children, span, parts, rfl, bound, rfl, plain⟩ := each alternative ha part known
    exact composes_all (forall_of_bindAll bound fun node hn part =>
      (plain node hn).1.composes types)
  have choices : List.Forall₂ Pattern.Composes (parts.map Bound.pattern)
      (parts.map fun part => groupNamesOf part.types) :=
    List.forall₂_map_left_iff.mpr (List.forall₂_map_right_iff.mpr (List.forall₂_same.mpr pieces))
  have names : groupNamesOf (Bound.join ['|'] parts).types =
      (parts.map fun part => groupNamesOf part.types).flatten := by
    simp only [groupNamesOf, Bound.join, ← List.flatMap_def, List.flatMap_assoc]
  have whole := (Comprises.branches choices some).plain
  rwa [← names] at whole

/-- The pattern of a tree is put together from pieces. -/
theorem composes_root (types : SoundTypes find) {children : List Node} {span : Span}
    {whole : Bound} (shape : ∀ child ∈ children, child.Plain ∨ child.IsAlternation)
    (h : (Node.branch .expression children span).bind find = .ok whole) : whole.Composes := by
  obtain ⟨parts, bound, rfl⟩ := bind_expression_ok h
  have inside := composes_all (forall_of_bindAll bound fun node hn part known =>
    (shape node hn).elim (·.composes types known) (·.composes types known))
  have start : Pattern.Composes "^".toList [] := .single adds_lineStart (fun _ => rfl) rfl rfl
  have stop : Pattern.Composes "$".toList [] := .single adds_lineEnd (fun _ => rfl) rfl rfl
  have anchored := (start.append inside).append stop
  rwa [List.append_nil, List.nil_append] at anchored

end Template

/-! ## Templates -/

namespace TemplateExpression

open Template

variable {r : Registry} {source : List Char}

theorem create_eq_error {error : Error} (h : create r source = .error error) :
    (∃ problem, error = .template problem (String.ofList source)) ∨
    (∃ name span, error = .undefinedType name (String.ofList source) span) ∨
    error = .invalidPattern ∧ ∃ root whole, Template.parse source = .ok root ∧
      root.bind r.byName? = .ok whole ∧ Matcher.compile? whole.pattern = none := by
  unfold create at h
  cases parsed : Template.parse source with
  | error problem =>
    simp only [parsed, Except.mapError, bind, Except.bind, Except.error.injEq] at h
    exact .inl ⟨problem, h.symm⟩
  | ok root =>
    cases bound : root.bind r.byName? with
    | error problem =>
      simp only [parsed, bound, Except.mapError, bind, Except.bind, Except.error.injEq] at h
      cases problem with
      | problem p => exact .inl ⟨p, h.symm⟩
      | undefinedType name span => exact .inr (.inl ⟨name, span, h.symm⟩)
    | ok whole =>
      cases compiled : Matcher.compile? whole.pattern with
      | none =>
        simp only [parsed, bound, compiled, Except.mapError, bind, Except.bind] at h
        cases h
        exact .inr (.inr ⟨rfl, root, whole, rfl, bound, compiled⟩)
      | some m =>
        simp only [parsed, bound, compiled, Except.mapError, bind, Except.bind] at h
        cases h

/-- A template fails for its syntax, for a type that is not registered, or for its pattern. The
pattern is at fault exactly if the regexps in it have two groups of one name, one regexp that is used
twice counted twice, or if it is beyond the limits. -/
theorem create_error (reachable : r.Reachable) (tame : ∀ t ∈ r.types, t.Tame)
    (source : List Char) :
    (∀ error, create r source = .error error →
      (∃ problem, error = .template problem (String.ofList source)) ∨
      (∃ name span, error = .undefinedType name (String.ofList source) span) ∨
      error = .invalidPattern) ∧
    (create r source = .error .invalidPattern ↔ ∃ root whole, Template.parse source = .ok root ∧
      root.bind r.byName? = .ok whole ∧
      (¬ (groupNamesOf whole.types).Nodup ∨
        ¬ WithinLimits (narrowDigits whole.pattern))) := by
  have compiles {root : Node} {whole : Bound} (parsed : Template.parse source = .ok root)
      (bound : root.bind r.byName? = .ok whole) : Matcher.compile? whole.pattern = none ↔
        ¬ (groupNamesOf whole.types).Nodup ∨
          ¬ WithinLimits (narrowDigits whole.pattern) := by
    obtain ⟨children, span, rfl, shape⟩ := shape_of_parse parsed
    have composes := composes_root (reachable.soundTypes tame) shape bound
    rw [← not_and_or, ← composes.compile?_isSome_iff, Option.not_isSome_iff_eq_none]
  refine ⟨fun error h => (create_eq_error h).imp_right (·.imp_right And.left), ?_⟩
  constructor
  · intro h
    rcases create_eq_error h with ⟨problem, same⟩ | ⟨name, span, same⟩ |
      ⟨-, root, whole, parsed, bound, invalid⟩
    · cases same
    · cases same
    · exact ⟨root, whole, parsed, bound, (compiles parsed bound).mp invalid⟩
  · rintro ⟨root, whole, parsed, bound, fault⟩
    have invalid := (compiles parsed bound).mpr fault
    rw [create_of_bind parsed bound, invalid]

theorem create_error_twice : ∃ r, r.Reachable ∧ (∀ t ∈ r.types, t.Tame) ∧
    (∃ e, create r "{t}".toList = .ok e) ∧
    create r "{t}{t}".toList = .error .invalidPattern := by
  let r := Registry.initial.insert (.ofRegexp "t" "(?P<n>a)")
  have types : r.types = Builtin.types ++ [.ofRegexp "t" "(?P<n>a)"] :=
    Registry.types_insert_initial _
  have reachable : r.Reachable := by
    have valid : Regex.ofText? "(?P<n>a)".toList ≠ none := by decide +kernel
    have new : ∀ t ∈ Builtin.types, t.name ≠ "t" := by decide
    exact Registry.Reachable.initial.insert_ofRegexp (by decide) valid (Registry.types_initial ▸ new)
  have tame : ∀ t ∈ r.types, t.Tame := by
    have cut : Lexeme.scan? "(?P<n>a)".toList =
        some [.opening (.capturing (some ['n'])), .atom (.literal 'a' false), .closing] := by
      decide +kernel
    have own : Pattern.Tame "(?P<n>a)".toList :=
      Pattern.tame_of_scan? cut (by simp [Pattern.Lexeme.Quiet, Pattern.Lexeme.NamesNoBracket])
    rw [types]
    exact List.forall_mem_append.mpr ⟨builtin_tame,
      List.forall_mem_singleton.mpr (List.forall_mem_singleton.mpr own)⟩
  refine ⟨r, reachable, tame, ?_, (create_error reachable tame _).2.mpr ?_⟩
  · have made : (create r "{t}".toList).isOk = true := by decide +kernel
    cases h : create r "{t}".toList with
    | error problem => rw [h] at made; cases made
    | ok e => exact ⟨e, rfl⟩
  · have known : ((Template.parse "{t}{t}".toList).toOption.bind fun root =>
        (root.bind r.byName?).toOption.map fun whole => groupNamesOf whole.types) =
          some [['n'], ['n']] := by decide +kernel
    cases parsed : Template.parse "{t}{t}".toList with
    | error problem =>
      rw [parsed] at known
      cases known
    | ok root =>
      simp only [parsed, Except.toOption, Option.bind_some] at known
      cases bound : root.bind r.byName? with
      | error problem =>
        rw [bound] at known
        cases known
      | ok whole =>
        rw [bound, Option.map_some, Option.some.injEq] at known
        refine ⟨root, whole, rfl, bound, .inl ?_⟩
        rw [known]
        decide

end TemplateExpression

end StepExpr
