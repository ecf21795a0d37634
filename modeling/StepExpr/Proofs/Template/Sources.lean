import StepExpr.Proofs.Template.Groups

/-!
# The texts of a template's groups

Where each parameter of a template has a single regexp, the scan cuts the regexps of the parameters
out of the pattern again.

* `CutsOut`: the outermost groups that the scan sees in a piece have given texts;
* `sources_root`: those in the pattern of a tree are the regexps of its parameters.
-/

namespace StepExpr

open Pattern GroupTree

variable {s t : List Char} {ss ts : List (List Char)}

/-! ## Pieces -/

/-- The scan of `s`, wherever it stands in a pattern, adds groups with these texts to the group that
is open, and changes nothing else. -/
def CutsOut (s : List Char) (texts : List (List Char)) : Prop :=
  ∀ before (group : Open) outer rest, ∃ trees : List GroupTree,
    trees.map GroupTree.source = texts ∧
    scanFrom (before ++ (s ++ rest)) before.length ⟨false, false, group :: outer⟩ (s ++ rest) =
      scanFrom (before ++ (s ++ rest)) (before.length + s.length)
        ⟨false, false, { group with children := group.children ++ trees } :: outer⟩ rest

namespace CutsOut

theorem of_scans (h : Scans s []) : CutsOut s [] := by
  intro before group outer rest
  obtain ⟨trees, none, scanned⟩ := h (before ++ (s ++ rest)) before.length group outer rest
  have empty : trees = [] := by
    rw [← List.length_eq_zero_iff, ← length_nests, none, List.length_nil]
  exact ⟨trees, by rw [empty, List.map_nil], scanned⟩

theorem append (h : CutsOut s ss) (g : CutsOut t ts) : CutsOut (s ++ t) (ss ++ ts) := by
  intro before group outer rest
  obtain ⟨trees, same, first⟩ := h before group outer (t ++ rest)
  obtain ⟨others, same', second⟩ := g (before ++ s)
    { group with children := group.children ++ trees } outer rest
  have whole : before ++ s ++ (t ++ rest) = before ++ (s ++ (t ++ rest)) := List.append_assoc ..
  rw [whole, List.length_append] at second
  refine ⟨trees ++ others, by rw [List.map_append, same, same'], ?_⟩
  rw [List.append_assoc s t rest, first, second, List.length_append, Nat.add_assoc,
    List.append_assoc]

/-- A group that captures has the text between its parentheses. -/
theorem capture {ns : List Nest} (h : Scans s ns) (front : s.head? ≠ some '?') :
    CutsOut ('(' :: s ++ [')']) [s] := by
  intro before group outer rest
  have whole : '(' :: s ++ [')'] ++ rest = '(' :: (s ++ ')' :: rest) := by simp
  have bare : isPlain (s ++ ')' :: rest) = false := by
    apply isPlain_bare
    cases s with
    | nil => simp
    | cons c s => exact front
  rw [whole]
  generalize text : before ++ '(' :: (s ++ ')' :: rest) = pattern
  obtain ⟨trees, -, inside⟩ := h pattern (before.length + 1)
    ⟨some (before.length + 1), true, []⟩ (group :: outer) (')' :: rest)
  -- the group is cut out between its parentheses, which stand where the piece begins and ends
  have between : (pattern.drop (before.length + 1)).take s.length = s := by
    rw [← text, ← List.drop_drop, List.drop_left, List.drop_succ_cons, List.drop_zero,
      List.take_left]
  have closed : close pattern (before.length + 1 + s.length)
      (⟨some (before.length + 1), true, [] ++ trees⟩ :: group :: outer) =
        { group with children := group.children ++ [.node s trees] } :: outer := by
    simp [close, between]
  refine ⟨[.node s trees], rfl, ?_⟩
  have stop : before.length + ('(' :: s ++ [')']).length = before.length + 1 + s.length + 1 := by
    simp only [List.length_append, List.length_cons, List.length_nil]
    omega
  rw [scan_opening, bare, Bool.not_false, inside, stop, ← closed]
  rfl

/-- The outermost groups of a pattern have the texts that the scan cuts out of it. -/
theorem sources (h : CutsOut s ss) : (ofPattern s).children.map GroupTree.source = ss := by
  obtain ⟨trees, same, scanned⟩ := h [] .whole [] []
  rw [List.append_nil, List.nil_append] at scanned
  have all : scanFrom s 0 .start s =
      ⟨false, false, [{ Open.whole with children := [] ++ trees }]⟩ := scanned
  rw [ofPattern, all]
  simpa [GroupTree.children] using same

end CutsOut

/-! ## Templates -/

/-- The type has one regexp. -/
def ParameterType.IsSingle (t : ParameterType) : Prop :=
  ∃ regexp, t.regexps = [regexp]

namespace Template

variable {find : String → Option ParameterType} {node : Node} {nodes : List Node} {part : Bound}

/-- The regexps of some types. -/
def regexpsOf (types : List ParameterType) : List (List Char) :=
  types.flatMap fun t => t.regexps.map String.toList

theorem cutsOut_parameter {t : ParameterType} (sound : t.Sound) (scannable : t.Scannable)
    (single : t.IsSingle) : CutsOut (parameterPattern t.regexps) (regexpsOf [t]) := by
  obtain ⟨regexp, only⟩ := single
  have listed : regexp ∈ t.regexps := by rw [only]; exact List.mem_cons_self
  obtain ⟨p, fills, scans⟩ := encloses_regexp (scannable regexp listed) (sound.valid regexp listed)
  obtain ⟨ls, cuts, -⟩ := fills
  have whole := CutsOut.capture scans cuts.front.1
  simpa [parameterPattern, regexpsOf, only] using whole

/-- Where there is no parameter, no group is cut out. -/
theorem Binds.cutsOut (h : Binds find [] part) : CutsOut part.pattern (regexpsOf part.types) := by
  obtain ⟨none, ps, carries, groups⟩ := h.no_groups
  rw [none]
  exact .of_scans (groups ▸ carries.scans)

theorem Node.Plain.cutsOut (types : ScannableTypes find) (plain : node.Plain)
    (h : node.bind find = .ok part) (single : ∀ t ∈ part.types, t.IsSingle) :
    CutsOut part.pattern (regexpsOf part.types) := by
  by_cases parameter : node.hasKind .parameter = true
  · cases plain with
    | text => cases parameter
    | optional => cases parameter
    | parameter =>
      obtain ⟨t, found, rfl⟩ := bind_parameter_ok h
      obtain ⟨sound, scannable⟩ := types _ t found
      exact cutsOut_parameter sound scannable (single t List.mem_cons_self)
  · have none := plain.parameters_eq_nil (Bool.eq_false_iff.mpr parameter) h
    have binds := plain.binds types h
    rw [none] at binds
    exact binds.cutsOut

theorem Node.IsAlternation.cutsOut (types : ScannableTypes find) (shape : node.IsAlternation)
    (h : node.bind find = .ok part) : CutsOut part.pattern (regexpsOf part.types) := by
  have binds := shape.binds types h
  rw [shape.parameters_eq_nil h] at binds
  exact binds.cutsOut

theorem cutsOut_all {parts : List Bound}
    (h : ∀ part ∈ parts, CutsOut part.pattern (regexpsOf part.types)) :
    CutsOut (Bound.join [] parts).pattern (regexpsOf (Bound.join [] parts).types) := by
  induction parts with
  | nil => exact .of_scans (.of_skips .nil)
  | cons part parts ih =>
    obtain ⟨first, others⟩ := List.forall_mem_cons.mp h
    have regexps : regexpsOf (Bound.join [] (part :: parts)).types =
        regexpsOf part.types ++ regexpsOf (Bound.join [] parts).types := by
      simp [regexpsOf, Bound.join]
    rw [Bound.pattern_join_cons, regexps]
    exact first.append (ih others)

/-- The outermost groups in the pattern of a tree have the regexps of its parameters as their
texts. -/
theorem sources_root (types : ScannableTypes find) {children : List Node} {span : Span}
    {whole : Bound} (shape : ∀ child ∈ children, child.Plain ∨ child.IsAlternation)
    (h : (Node.branch .expression children span).bind find = .ok whole)
    (single : ∀ t ∈ whole.types, t.IsSingle) :
    (GroupTree.ofPattern whole.pattern).children.map GroupTree.source = regexpsOf whole.types := by
  obtain ⟨parts, bound, rfl⟩ := bind_expression_ok h
  have within : ∀ part ∈ parts, ∀ t ∈ part.types, t.IsSingle := fun part hp t ht =>
    single t (List.mem_flatMap.mpr ⟨part, hp, ht⟩)
  have each : ∀ part ∈ parts, (∀ t ∈ part.types, t.IsSingle) →
      CutsOut part.pattern (regexpsOf part.types) := by
    refine forall_of_bindAll bound fun node hn part known single => ?_
    cases shape node hn with
    | inl plain => exact plain.cutsOut types known single
    | inr alternation => exact alternation.cutsOut types known
  have start : CutsOut ['^'] [] := .of_scans (.of_skips (.single (by decide)))
  have stop : CutsOut ['$'] [] := .of_scans (.of_skips (.single (by decide)))
  have inside := cutsOut_all fun part hp => each part hp (within part hp)
  have anchored := (start.append inside).append stop
  rw [List.append_nil, List.nil_append] at anchored
  exact anchored.sources

end Template

end StepExpr
