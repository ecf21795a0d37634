import StepExpr.Proofs.Group.Scan
import StepExpr.Proofs.Template.Pattern

/-!
# The groups of a template's pattern

The pattern of a template has one capturing group for each parameter, in order. All other groups that
capture are those of the regexps, and stand inside of these.

* `Node.parameters` are the names of the parameters of a tree;
* `Carries`: a piece adds the items that the scan for groups sees in it;
* `Aligned`: the groups of some parameters stand among patterns without groups;
* `aligned_root` and `binds_root`: so they do in the pattern of a tree.
-/

namespace StepExpr

open Pattern

/-- The scan for groups takes all regexps of the type for what they are. -/
def ParameterType.Scannable (t : ParameterType) : Prop :=
  ∀ regexp ∈ t.regexps, Pattern.Scannable regexp.toList

theorem builtin_scannable : ∀ t ∈ Builtin.types, t.Scannable := by
  have flat : ∀ t ∈ Builtin.types, ∀ regexp ∈ t.regexps,
      hasFlatClasses 40 regexp.toList = true := by
    apply forall_builtin <;> rfl
  exact fun t ht regexp hr => scannable_of_flat (builtin_tame t ht regexp hr) (flat t ht regexp hr)

namespace Template

mutual

/-- The names of all parameters in a node, in the order in which they are written. -/
def Node.parameters : Node → List String
  | .text _ _ => []
  | .branch kind children _ =>
    (if kind = .parameter then [String.ofList (Node.textOfAll children)] else []) ++
      Node.parametersAll children

def Node.parametersAll : List Node → List String
  | [] => []
  | node :: nodes => node.parameters ++ Node.parametersAll nodes

end

variable {find : String → Option ParameterType} {node : Node} {nodes : List Node} {s t : List Char}
  {p : Pattern} {ps qs : List Pattern}

theorem Node.parametersAll_eq_nil (h : ∀ node ∈ nodes, node.parameters = []) :
    Node.parametersAll nodes = [] := by
  induction nodes with
  | nil => rw [Node.parametersAll]
  | cons node nodes ih =>
    obtain ⟨first, others⟩ := List.forall_mem_cons.mp h
    rw [Node.parametersAll, first, ih others, List.append_nil]

theorem Node.parameters_of_isText (h : node.isText = true) : node.parameters = [] := by
  cases node with
  | text => rw [Node.parameters]
  | branch => cases h

/-! ## Pieces -/

/-- The piece adds `ps` to the items of a group, and the scan for groups sees the groups of these. -/
structure Carries (s : List Char) (ps : List Pattern) : Prop where
  adds : Adds s ps
  steady : ∀ p ∈ ps, p.Steady
  scans : Scans s (ps.flatMap nests)

/-- The piece is all there is in a group, and the scan for groups sees the groups inside. -/
structure Encloses (s : List Char) (p : Pattern) : Prop where
  fills : Fills s p
  scans : Scans s p.nests

theorem Carries.nil : Carries [] [] := ⟨.nil, by simp, .of_skips .nil⟩

theorem Carries.append (h : Carries s ps) (g : Carries t qs) : Carries (s ++ t) (ps ++ qs) :=
  ⟨h.adds.append g.adds, List.forall_mem_append.mpr ⟨h.steady, g.steady⟩,
    List.flatMap_append ▸ h.scans.append g.scans⟩

theorem Carries.encloses (h : Carries s ps) : Encloses s (catOf ps) :=
  ⟨h.adds.fills, nests_catOf ps ▸ h.scans⟩

theorem carries_char (c : Char) :
    Carries (if isSpecial c then ['\\', c] else [c]) [.atom (.literal c false)] := by
  refine ⟨adds_char c, List.forall_mem_singleton.mpr fun _ => rfl, .of_skips ?_⟩
  cases special : isSpecial c with
  | true => exact .escape c
  | false =>
    refine .single ?_
    simp only [isSpecial, List.contains_eq_mem, decide_eq_false_iff_not, List.mem_cons,
      List.not_mem_nil, or_false, not_or] at special
    simp [IsInner, IsPlain, special]

theorem carries_text (token : List Char) :
    Carries (escapePattern token) (token.map fun c => .atom (.literal c false)) := by
  induction token with
  | nil => exact .nil
  | cons c token ih => exact (carries_char c).append ih

/-- Pieces with bars between them fill a group with a choice. -/
theorem encloses_branches {ss : List (List Char)} {pss : List (List Pattern)}
    (h : List.Forall₂ Carries ss pss) (filled : ss ≠ []) :
    Encloses (List.intercalate ['|'] ss) (altOf (pss.map catOf)) := by
  refine ⟨fills_of_branches (h.imp fun _ _ carries => carries.adds) filled, ?_⟩
  rw [nests_altOf]
  induction h with
  | nil => exact absurd rfl filled
  | @cons s ps ss pss first others ih =>
    cases others with
    | nil => simpa [nests_catOf] using first.scans
    | cons =>
      have bar : Scans ['|'] [] := .of_skips (.single (by decide))
      have whole := (first.scans.append bar).append (ih (by simp))
      rw [List.intercalate_cons_cons]
      simpa [nests_catOf] using whole

theorem Encloses.plain (h : Encloses s p) :
    Carries ("(?:".toList ++ s ++ ")".toList) [.group (.plain []) p] := by
  rw [List.append_assoc]
  exact ⟨h.fills.plain, by simp [Steady, flagsAfter], by simpa [nests] using h.scans.plain⟩

theorem Encloses.optional (h : Encloses s p) : Carries ("(?:".toList ++ s ++ ")?".toList)
    [.rounds ⟨0, some 1⟩ true (.group (.plain []) p)] := by
  rw [List.append_assoc]
  exact ⟨h.fills.optional, by simp [Steady, flagsAfter], by simpa [nests] using h.scans.optional⟩

theorem Encloses.capture (h : Encloses s p) :
    Carries ("(".toList ++ s ++ ")".toList) [.group (.capturing none) p] := by
  rw [List.append_assoc]
  obtain ⟨ls, cuts, -⟩ := h.fills
  exact ⟨h.fills.capture, by simp [Steady, flagsAfter],
    by simpa [nests] using h.scans.capture cuts.front.1⟩

/-! ## Parameters -/

/-- The pattern is built from a regexp with its digits written out. -/
def BuiltFrom (p : Pattern) (regexp : String) : Prop :=
  ∃ ls, Lexeme.scan? (narrowDigits regexp.toList) = some ls ∧ build? [] .start ls = some p

/-- What is inside the group of a parameter: the pattern of its regexp, or a choice of their
patterns. -/
def choiceOf : List Pattern → Pattern
  | [p] => p
  | ps => altOf (ps.map (group (.plain [])))

/-- The pattern is what the regexps of a parameter become. -/
def Chooses (regexps : List String) (q : Pattern) : Prop :=
  ∃ ps, List.Forall₂ BuiltFrom ps regexps ∧ q = choiceOf ps

theorem exists_encloses {regexp : String} (scannable : Pattern.Scannable regexp.toList)
    (valid : HasMeaning regexp) : ∃ p, Encloses regexp.toList p ∧ BuiltFrom p regexp := by
  obtain ⟨p, parsed, defined⟩ := valid
  obtain ⟨ls, p', cuts, built, scans⟩ := scannable.scans parsed defined
  exact ⟨p', ⟨cuts.fills built, scans⟩, ls, cuts.scan?, built⟩

theorem encloses_regexp {regexp : String} (scannable : Pattern.Scannable regexp.toList)
    (valid : HasMeaning regexp) : ∃ p, Encloses regexp.toList p :=
  (exists_encloses scannable valid).imp fun _ known => known.1

theorem carries_parameter {t : ParameterType} (sound : t.Sound) (scannable : t.Scannable) :
    ∃ p, Carries (parameterPattern t.regexps) [.group (.capturing none) p] ∧
      Chooses t.regexps p := by
  have each : ∀ regexp ∈ t.regexps, ∃ p, Encloses regexp.toList p ∧ BuiltFrom p regexp :=
    fun regexp hr => exists_encloses (scannable regexp hr) (sound.valid regexp hr)
  have filled := sound.filled
  generalize t.regexps = regexps at each filled
  match regexps with
  | [] => exact absurd rfl filled
  | [regexp] =>
    obtain ⟨p, inside, built⟩ := each regexp List.mem_cons_self
    exact ⟨p, by simpa [parameterPattern] using inside.capture, [p], .cons built .nil, rfl⟩
  | first :: second :: others =>
    have wrapped : ∃ ps, List.Forall₂ BuiltFrom ps (first :: second :: others) ∧
        List.Forall₂ Carries ((first :: second :: others).map fun regexp =>
          "(?:".toList ++ regexp.toList ++ ")".toList) (ps.map fun p => [.group (.plain []) p]) := by
      generalize first :: second :: others = regexps at each
      induction regexps with
      | nil => exact ⟨[], .nil, .nil⟩
      | cons regexp regexps ih =>
        obtain ⟨⟨p, inside, built⟩, tail⟩ := List.forall_mem_cons.mp each
        obtain ⟨ps, builts, others⟩ := ih tail
        exact ⟨p :: ps, .cons built builts, .cons inside.plain others⟩
    obtain ⟨ps, builts, wrapped⟩ := wrapped
    have whole := (encloses_branches wrapped (by simp)).capture
    refine ⟨choiceOf ps, ?_, ps, builts, rfl⟩
    rw [List.map_map] at whole
    rw [parameterPattern_choice]
    obtain - | ⟨-, - | ⟨-, -⟩⟩ := builts
    exact whole

/-- The groups of the parameters of some types, among patterns without groups. -/
inductive Aligned : List Pattern → List ParameterType → Prop
  | nil : Aligned [] []
  | silent {p : Pattern} {ps : List Pattern} {types : List ParameterType} (none : p.nests = [])
      (others : Aligned ps types) : Aligned (p :: ps) types
  | parameter {q : Pattern} {t : ParameterType} {ps : List Pattern} {types : List ParameterType}
      (chooses : Chooses t.regexps q) (others : Aligned ps types) :
      Aligned (.group (.capturing none) q :: ps) (t :: types)

namespace Aligned

variable {types types' : List ParameterType}

theorem append (h : Aligned ps types) (g : Aligned qs types') :
    Aligned (ps ++ qs) (types ++ types') := by
  induction h with
  | nil => exact g
  | silent none _ ih => exact .silent none ih
  | parameter chooses _ ih => exact .parameter chooses ih

theorem of_silent (h : ∀ p ∈ ps, p.nests = []) : Aligned ps [] := by
  induction ps with
  | nil => exact .nil
  | cons p ps ih =>
    obtain ⟨first, others⟩ := List.forall_mem_cons.mp h
    exact .silent first (ih others)

theorem captures (h : Aligned ps types) : ∀ p ∈ ps, p.nests = [] ∨ p.IsCapture := by
  induction h with
  | nil => simp
  | silent none _ ih => exact List.forall_mem_cons.mpr ⟨.inl none, ih⟩
  | parameter _ _ ih => exact List.forall_mem_cons.mpr ⟨.inr ⟨_, rfl⟩, ih⟩

theorem length_nests (h : Aligned ps types) : (ps.flatMap nests).length = types.length := by
  induction h with
  | nil => rfl
  | silent none _ ih => rw [List.flatMap_cons, none, List.nil_append, ih]
  | parameter _ _ ih => rw [List.flatMap_cons, nests, List.singleton_append, List.length_cons,
      List.length_cons, ih]

theorem no_groups (h : Aligned ps []) : ps.flatMap nests = [] :=
  List.eq_nil_of_length_eq_zero h.length_nests

end Aligned

/-! ## Nodes -/

/-- The part has one capturing group for each of the named parameters, with its type. -/
def Binds (find : String → Option ParameterType) (names : List String) (part : Bound) : Prop :=
  ∃ ps, Carries part.pattern ps ∧ Aligned ps part.types ∧ names.map find = part.types.map some

theorem binds_all {parts : List Bound}
    (h : List.Forall₂ (fun node part => Binds find (Node.parameters node) part) nodes parts) :
    Binds find (Node.parametersAll nodes) (Bound.join [] parts) := by
  induction h with
  | nil => exact ⟨[], .nil, .nil, rfl⟩
  | @cons node part nodes parts first _ ih =>
    obtain ⟨ps, carries, aligned, types⟩ := first
    obtain ⟨qs, carries', aligned', types'⟩ := ih
    refine ⟨ps ++ qs, Bound.pattern_join_cons part parts ▸ carries.append carries',
      aligned.append aligned', ?_⟩
    simp only [Bound.join, List.flatMap_cons, List.map_append, Node.parametersAll] at types' ⊢
    rw [types, types']

/-- Where there is no parameter, nothing captures. -/
theorem Binds.no_groups {part : Bound} (h : Binds find [] part) : part.types = [] ∧
    ∃ ps, Carries part.pattern ps ∧ ps.flatMap nests = [] := by
  obtain ⟨ps, carries, aligned, types⟩ := h
  have none : part.types = [] := List.map_eq_nil_iff.mp types.symm
  rw [none] at aligned
  exact ⟨none, ps, carries, aligned.no_groups⟩

/-- Every type that is found is sound and scannable. -/
def ScannableTypes (find : String → Option ParameterType) : Prop :=
  ∀ name t, find name = some t → t.Sound ∧ t.Scannable

/-- An optional that has a pattern holds nothing but text. -/
theorem isText_of_optionalProblem? {span : Span} (plain : ∀ child ∈ nodes, child.Plain)
    (h : optionalProblem? nodes span = none) : ∀ child ∈ nodes, child.isText = true := by
  unfold optionalProblem? at h
  split at h
  · cases h
  · rename_i noParameter
    split at h
    · cases h
    · rename_i noOptional
      rw [List.find?_eq_none] at noParameter noOptional
      intro child hc
      cases plain child hc with
      | text => rfl
      | optional => exact absurd rfl (noOptional _ hc)
      | parameter => exact absurd rfl (noParameter _ hc)

theorem Node.Plain.binds (types : ScannableTypes find) {part : Bound} (plain : node.Plain)
    (h : node.bind find = .ok part) : Binds find node.parameters part := by
  induction plain generalizing part with
  | @text token span =>
    obtain ⟨rfl⟩ := h
    rw [Node.parameters]
    refine ⟨_, carries_text token, .of_silent fun p hp => ?_, rfl⟩
    obtain ⟨c, -, rfl⟩ := List.mem_map.mp hp
    rfl
  | @optional children span plain ih =>
    obtain ⟨fine, parts, bound, rfl⟩ := bind_optional_ok h
    have text := isText_of_optionalProblem? plain fine
    have inside := binds_all (bindAll_ok bound fun node hn part => ih node hn)
    have unnamed : Node.parametersAll children = [] :=
      Node.parametersAll_eq_nil fun child hc => Node.parameters_of_isText (text child hc)
    have none : (Node.branch .optional children span).parameters = [] := by
      simp [Node.parameters, unnamed]
    rw [unnamed] at inside
    obtain ⟨types, ps, carries, groups⟩ := inside.no_groups
    have whole : (Pattern.rounds ⟨0, some 1⟩ true (.group (.plain []) (catOf ps))).nests = [] := by
      simpa [Pattern.nests, nests_catOf] using groups
    rw [none]
    refine ⟨_, carries.encloses.optional, ?_, by simp [Bound.wrap, types]⟩
    simpa [Bound.wrap, types] using Aligned.silent whole .nil
  | @parameter children span text =>
    obtain ⟨t, found, rfl⟩ := bind_parameter_ok h
    obtain ⟨sound, scannable⟩ := types _ t found
    obtain ⟨p, carries, chooses⟩ := carries_parameter sound scannable
    have unnamed : Node.parametersAll children = [] :=
      Node.parametersAll_eq_nil fun child hc => Node.parameters_of_isText (text child hc)
    exact ⟨_, carries, .parameter chooses .nil, by simp [Node.parameters, unnamed, found]⟩

/-- Text and optionals that have a pattern have no parameters. -/
theorem Node.Plain.parameters_eq_nil {part : Bound} (plain : node.Plain)
    (other : node.hasKind .parameter = false) (h : node.bind find = .ok part) :
    node.parameters = [] := by
  cases plain with
  | text => rw [Node.parameters]
  | @optional children span plain =>
    obtain ⟨fine, -⟩ := bind_optional_ok h
    have text := isText_of_optionalProblem? plain fine
    have unnamed : Node.parametersAll children = [] :=
      Node.parametersAll_eq_nil fun child hc => Node.parameters_of_isText (text child hc)
    simp [Node.parameters, unnamed]
  | parameter => simp [Node.hasKind] at other

theorem exists_related {α β : Type} {related : α → β → Prop} {xs : List α} {ys : List β}
    (h : List.Forall₂ related xs ys) : ∀ x ∈ xs, ∃ y ∈ ys, related x y := by
  induction h with
  | nil => simp
  | cons first _ ih =>
    refine List.forall_mem_cons.mpr ⟨⟨_, List.mem_cons_self, first⟩, fun x hx => ?_⟩
    obtain ⟨y, hy, rest⟩ := ih x hx
    exact ⟨y, List.mem_cons_of_mem _ hy, rest⟩

/-- The nodes of an alternative that has a pattern have no parameters. -/
theorem Node.parametersAll_of_plain {parts : List Bound}
    (plain : ∀ child ∈ nodes, child.Plain ∧ child.hasKind .parameter = false)
    (bound : Node.bindAll find nodes = .ok parts) : Node.parametersAll nodes = [] := by
  refine Node.parametersAll_eq_nil fun child hc => ?_
  obtain ⟨part, -, known⟩ :=
    exists_related (bindAll_ok bound fun _ _ _ known => known) child hc
  exact (plain child hc).1.parameters_eq_nil (plain child hc).2 known

/-- An alternation that has a pattern has no parameters. -/
theorem Node.IsAlternation.parameters_eq_nil {part : Bound} (shape : node.IsAlternation)
    (h : node.bind find = .ok part) : node.parameters = [] := by
  obtain ⟨alternatives, span, parts, rfl, bound, rfl, -, each⟩ := shape.bind_ok h
  have unnamed : ∀ alternative ∈ alternatives, alternative.parameters = [] := by
    intro alternative ha
    obtain ⟨part, -, known⟩ :=
      exists_related (bindAll_ok bound fun _ _ _ known => known) alternative ha
    obtain ⟨children, span, parts, rfl, bound, rfl, plain⟩ := each alternative ha part known
    simp [Node.parameters, Node.parametersAll_of_plain plain bound]
  simp [Node.parameters, Node.parametersAll_eq_nil unnamed]

/-- Parts without parameters as the branches of a choice. -/
theorem branches_of_binds {parts : List Bound} (h : ∀ part ∈ parts, Binds find [] part) :
    parts.flatMap Bound.types = [] ∧ ∃ pss, List.Forall₂ Carries (parts.map Bound.pattern) pss ∧
      ∀ ps ∈ pss, ps.flatMap Pattern.nests = [] := by
  induction parts with
  | nil => exact ⟨rfl, [], .nil, by simp⟩
  | cons part parts ih =>
    obtain ⟨first, others⟩ := List.forall_mem_cons.mp h
    obtain ⟨types, ps, carries, groups⟩ := first.no_groups
    obtain ⟨types', pss, carries', groups'⟩ := ih others
    refine ⟨by rw [List.flatMap_cons, types, types']; rfl, ps :: pss, .cons carries carries', ?_⟩
    exact List.forall_mem_cons.mpr ⟨groups, groups'⟩

theorem Node.IsAlternation.binds (types : ScannableTypes find) {part : Bound}
    (shape : node.IsAlternation) (h : node.bind find = .ok part) :
    Binds find node.parameters part := by
  rw [shape.parameters_eq_nil h]
  obtain ⟨alternatives, span, parts, rfl, bound, rfl, some, each⟩ := shape.bind_ok h
  have unbound : ∀ part ∈ parts, Binds find [] part := by
    refine forall_of_bindAll bound fun alternative ha part known => ?_
    obtain ⟨children, span, parts, rfl, bound, rfl, plain⟩ := each alternative ha part known
    have inside := binds_all (bindAll_ok bound fun node hn part => (plain node hn).1.binds types)
    rwa [Node.parametersAll_of_plain plain bound] at inside
  obtain ⟨none, pss, carries, groups⟩ := branches_of_binds unbound
  have whole : (Pattern.group (.plain []) (altOf (pss.map catOf))).nests = [] := by
    simpa [Pattern.nests, nests_altOf, nests_catOf] using groups
  refine ⟨_, (encloses_branches carries some).plain, ?_, by simp [Bound.wrap, Bound.join, none]⟩
  simpa [Bound.wrap, Bound.join, none] using Aligned.silent whole .nil

/-- The pattern of a tree is made of what its parameters become and of what has no groups, between
anchors. -/
theorem aligned_root (types : ScannableTypes find) {children : List Node} {span : Span}
    {whole : Bound} (shape : ∀ child ∈ children, child.Plain ∨ child.IsAlternation)
    (h : (Node.branch .expression children span).bind find = .ok whole) :
    ∃ part : Bound, whole.pattern = "^".toList ++ part.pattern ++ "$".toList ∧
      whole.types = part.types ∧
      Binds find (Node.branch .expression children span).parameters part := by
  obtain ⟨parts, bound, rfl⟩ := bind_expression_ok h
  refine ⟨Bound.join [] parts, rfl, rfl, ?_⟩
  have all : (Node.branch .expression children span).parameters = Node.parametersAll children := by
    simp [Node.parameters]
  rw [all]
  refine binds_all (bindAll_ok bound fun node hn part hp => ?_)
  rcases shape node hn with plain | alternation
  · exact plain.binds types hp
  · exact alternation.binds types hp

/-- The pattern of a tree has the groups of its parameters, between anchors. -/
theorem binds_root (types : ScannableTypes find) {children : List Node} {span : Span}
    {whole : Bound} (shape : ∀ child ∈ children, child.Plain ∨ child.IsAlternation)
    (h : (Node.branch .expression children span).bind find = .ok whole) :
    ∃ part : Bound, whole.pattern = "^".toList ++ part.pattern ++ "$".toList ∧
      whole.types = part.types ∧ ∃ ps, Carries part.pattern ps ∧
        (∀ p ∈ ps, p.nests = [] ∨ p.IsCapture) ∧
        (ps.flatMap nests).length = part.types.length ∧
        (Node.branch .expression children span).parameters.map find = part.types.map some := by
  obtain ⟨part, anchored, same, ps, carries, aligned, named⟩ := aligned_root types shape h
  exact ⟨part, anchored, same, ps, carries, aligned.captures, aligned.length_nests, named⟩

end Template

end StepExpr
