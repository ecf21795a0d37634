import StepExpr.Proofs.Template.Groups

/-!
# Which trees have a pattern

Every node of a tree is checked before its pattern is written, and the error is that of the first
node under the root that does not pass.

* `Node.Admits` is the check of one node, and `Node.Fails` the error of one that stands under the
  root, both said without the checks that find them;
* `bindAll_eq_error_iff`: nodes in a row fail as the first of them that fails;
* `Node.Plain.bind_eq_error_iff` and `Node.IsAlternation.bind_eq_error_iff`: so do the nodes under
  the root, each in its own way;
* `bind_outcome` puts the parts together.
-/

namespace StepExpr.Template

mutual

/-- A node and all nodes inside, in the order in which they begin. -/
def Node.subnodes : Node → List Node
  | .text token span => [.text token span]
  | .branch kind children span => .branch kind children span :: Node.subnodesAll children

def Node.subnodesAll : List Node → List Node
  | [] => []
  | node :: nodes => node.subnodes ++ Node.subnodesAll nodes

end

def Node.HasText (node : Node) : Prop := ∃ child ∈ node.children, child.isText = true

/-- An optional holds text and nothing else, an alternative holds some text, and the name of a
parameter is known. -/
def Node.Admits (find : String → Option ParameterType) : Node → Prop
  | .branch .optional children _ => children ≠ [] ∧ ∀ child ∈ children, child.isText = true
  | .branch .alternative children _ => ∃ child ∈ children, child.isText = true
  | .branch .parameter children _ =>
    ∃ type, find (String.ofList (Node.textOfAll children)) = some type
  | _ => True

/-- The checks pass for a node and for all nodes inside. -/
def Node.Admissible (find : String → Option ParameterType) (node : Node) : Prop :=
  ∀ inner ∈ node.subnodes, inner.Admits find

/-- The problem of an optional is at its first parameter. Without parameters it is at the first
optional inside, and without these at the whole. -/
inductive OptionalProblem (children : List Node) (span : Span) : Problem → Prop where
  | parameter {before inner after} : children = before ++ inner :: after →
      (∀ node ∈ before, node.hasKind .parameter = false) → inner.hasKind .parameter = true →
      OptionalProblem children span ⟨.parameterInOptional, inner.span⟩
  | optional {before inner after} : (∀ node ∈ children, node.hasKind .parameter = false) →
      children = before ++ inner :: after → (∀ node ∈ before, node.hasKind .optional = false) →
      inner.hasKind .optional = true →
      OptionalProblem children span ⟨.optionalInOptional, inner.span⟩
  | empty : children = [] → OptionalProblem children span ⟨.emptyOptional, span⟩

/-- The error of a node under the root. Of an alternation, all alternatives are checked for text
before the optionals inside are checked. -/
inductive Node.Fails (find : String → Option ParameterType) : Node → BindError → Prop where
  | parameter {children span} : find (String.ofList (Node.textOfAll children)) = none →
      Fails find (.branch .parameter children span)
        (.undefinedType (String.ofList (Node.textOfAll children)) span)
  | optional {children span problem} : OptionalProblem children span problem →
      Fails find (.branch .optional children span) (.problem problem)
  | emptyAlternative {before span after whole} : (∀ node ∈ before, node.HasText) →
      Fails find (.branch .alternation (before ++ .branch .alternative [] span :: after) whole)
        (.problem ⟨.emptyAlternative, span⟩)
  | alternative {before children span after whole} : (∀ node ∈ before, node.HasText) →
      children ≠ [] → (∀ child ∈ children, child.isText = false) →
      Fails find
        (.branch .alternation (before ++ .branch .alternative children span :: after) whole)
        (.problem ⟨.onlyOptionalsInAlternative, span⟩)
  | inside {alternatives whole before children span after problem} :
      (∀ node ∈ alternatives, node.HasText) →
      alternatives.flatMap Node.children = before ++ .branch .optional children span :: after →
      (∀ node ∈ before, node.Admissible find) → OptionalProblem children span problem →
      Fails find (.branch .alternation alternatives whole) (.problem problem)

variable {find : String → Option ParameterType} {node : Node} {nodes children xs ys : List Node}
  {span : Span} {problem : Problem} {e : BindError} {kind : NodeKind}

/-! ## Checks -/

theorem mem_subnodesAll : node ∈ Node.subnodesAll nodes ↔ ∃ n ∈ nodes, node ∈ n.subnodes := by
  induction nodes with
  | nil => simp [Node.subnodesAll]
  | cons n nodes ih => simp [Node.subnodesAll, ih]

theorem admissible_branch : (Node.branch kind children span).Admissible find ↔
    (Node.branch kind children span).Admits find ∧ ∀ child ∈ children, child.Admissible find := by
  simp only [Node.Admissible, Node.subnodes, List.forall_mem_cons, mem_subnodesAll]
  refine and_congr_right fun _ => ⟨fun h child hc inner hi => h inner ⟨child, hc, hi⟩, ?_⟩
  rintro h inner ⟨child, hc, hi⟩
  exact h child hc inner hi

theorem admissible_of_isText (h : node.isText = true) : node.Admissible find := by
  cases node with
  | text => simp [Node.Admissible, Node.subnodes, Node.Admits]
  | branch => cases h

/-- Nothing but text, parameters and optionals can stand in an optional. -/
theorem isText_of_plain (plain : node.Plain) (h : node.hasKind .parameter = false)
    (g : node.hasKind .optional = false) : node.isText = true := by
  cases plain with
  | text => rfl
  | optional => simp [Node.hasKind] at g
  | parameter => simp [Node.hasKind] at h

theorem optionalProblem?_eq_none_iff (plain : ∀ child ∈ children, child.Plain) :
    optionalProblem? children span = none ↔
      children ≠ [] ∧ ∀ child ∈ children, child.isText = true := by
  constructor
  · intro h
    have text := isText_of_optionalProblem? plain h
    refine ⟨?_, text⟩
    rintro rfl
    simp [optionalProblem?] at h
  · rintro ⟨filled, text⟩
    have others (kind : NodeKind) : children.find? (Node.hasKind kind) = none := by
      rw [List.find?_eq_none]
      intro child hc
      have := text child hc
      cases child <;> simp_all [Node.hasKind, Node.isText]
    obtain ⟨child, hc⟩ := List.exists_mem_of_ne_nil children filled
    have some : children.any Node.isText = true := List.any_eq_true.mpr ⟨child, hc, text child hc⟩
    simp [optionalProblem?, others, some]

theorem optionalProblem?_eq_some_iff (plain : ∀ child ∈ children, child.Plain) :
    optionalProblem? children span = some problem ↔ OptionalProblem children span problem := by
  constructor
  · intro h
    unfold optionalProblem? at h
    split at h
    · rename_i inner found
      obtain ⟨isParameter, before, after, same, first⟩ := List.find?_eq_some_iff_append.mp found
      obtain rfl := Option.some.inj h
      exact .parameter same (by simpa using first) isParameter
    · rename_i noParameter
      have noParameter : ∀ child ∈ children, child.hasKind .parameter = false := by
        simpa using noParameter
      split at h
      · rename_i inner found
        obtain ⟨isOptional, before, after, same, first⟩ := List.find?_eq_some_iff_append.mp found
        obtain rfl := Option.some.inj h
        exact .optional noParameter same (by simpa using first) isOptional
      · rename_i noOptional
        have noOptional : ∀ child ∈ children, child.hasKind .optional = false := by
          simpa using noOptional
        split at h
        · cases h
        · rename_i noText
          obtain rfl := Option.some.inj h
          refine .empty (List.eq_nil_iff_forall_not_mem.mpr fun child hc => noText ?_)
          exact List.any_eq_true.mpr ⟨child, hc, isText_of_plain (plain child hc)
            (noParameter child hc) (noOptional child hc)⟩
  · intro h
    cases h with
    | @parameter before inner after same first isParameter =>
      have found : children.find? (Node.hasKind .parameter) = some inner :=
        List.find?_eq_some_iff_append.mpr ⟨isParameter, before, after, same, by simpa using first⟩
      simp [optionalProblem?, found]
    | @optional before inner after noParameter same first isOptional =>
      have none : children.find? (Node.hasKind .parameter) = none := by simpa using noParameter
      have found : children.find? (Node.hasKind .optional) = some inner :=
        List.find?_eq_some_iff_append.mpr ⟨isOptional, before, after, same, by simpa using first⟩
      simp [optionalProblem?, none, found]
    | empty none => simp [none, optionalProblem?]

theorem Node.HasText.any (h : node.HasText) :
    node.children.isEmpty = false ∧ node.children.any Node.isText = true := by
  obtain ⟨child, hc, text⟩ := h
  exact ⟨List.isEmpty_eq_false_iff.mpr (List.ne_nil_of_mem hc),
    List.any_eq_true.mpr ⟨child, hc, text⟩⟩

theorem alternativesProblem?_cons (h : node.HasText) :
    alternativesProblem? (node :: nodes) = alternativesProblem? nodes := by
  rw [alternativesProblem?, h.any.1, h.any.2]
  rfl

theorem alternativesProblem?_eq_none (h : ∀ node ∈ nodes, node.HasText) :
    alternativesProblem? nodes = none := by
  induction nodes with
  | nil => rfl
  | cons node nodes ih =>
    obtain ⟨first, others⟩ := List.forall_mem_cons.mp h
    rw [alternativesProblem?_cons first, ih others]

/-- An alternative without text, and what is wrong with it. -/
inductive AlternativeProblem (node : Node) : Problem → Prop where
  | empty : node.children = [] → AlternativeProblem node ⟨.emptyAlternative, node.span⟩
  | optionals : node.children ≠ [] → (∀ child ∈ node.children, child.isText = false) →
      AlternativeProblem node ⟨.onlyOptionalsInAlternative, node.span⟩

theorem alternativesProblem?_of_first (h : ∀ node ∈ xs, node.HasText)
    (wrong : AlternativeProblem node problem) :
    alternativesProblem? (xs ++ node :: ys) = some problem := by
  induction xs with
  | nil =>
    cases wrong with
    | empty none => simp [alternativesProblem?, none]
    | optionals filled noText =>
      have none : node.children.any Node.isText = false := by simpa using noText
      simp [alternativesProblem?, filled, none]
  | cons x xs ih =>
    obtain ⟨first, others⟩ := List.forall_mem_cons.mp h
    rw [List.cons_append, alternativesProblem?_cons first, ih others]

/-- All alternatives hold text, or the first that does not is the problem. -/
theorem hasText_or_first (nodes : List Node) : (∀ node ∈ nodes, node.HasText) ∨
    ∃ before node after problem, nodes = before ++ node :: after ∧ (∀ n ∈ before, n.HasText) ∧
      AlternativeProblem node problem := by
  induction nodes with
  | nil => exact .inl (by simp)
  | cons node nodes ih =>
    by_cases text : node.HasText
    · rcases ih with all | ⟨before, other, after, problem, rfl, texts, wrong⟩
      · exact .inl (List.forall_mem_cons.mpr ⟨text, all⟩)
      · exact .inr ⟨node :: before, other, after, problem, rfl,
          List.forall_mem_cons.mpr ⟨text, texts⟩, wrong⟩
    · have noText : ∀ child ∈ node.children, child.isText = false := by
        intro child hc
        exact Bool.eq_false_iff.mpr fun isText => text ⟨child, hc, isText⟩
      refine .inr ⟨[], node, nodes, ?_⟩
      by_cases none : node.children = []
      · exact ⟨_, rfl, by simp, .empty none⟩
      · exact ⟨_, rfl, by simp, .optionals none noText⟩

/-! ## Nodes in a row -/

theorem bindAll_cons_ok_iff : (∃ parts, Node.bindAll find (node :: nodes) = .ok parts) ↔
    (∃ part, node.bind find = .ok part) ∧ ∃ parts, Node.bindAll find nodes = .ok parts := by
  rw [Node.bindAll]
  cases node.bind find with
  | error e => simp
  | ok part => simpa using exists_map_ok_iff

theorem bindAll_cons_error_iff : Node.bindAll find (node :: nodes) = .error e ↔
    node.bind find = .error e ∨
      (∃ part, node.bind find = .ok part) ∧ Node.bindAll find nodes = .error e := by
  rw [Node.bindAll]
  cases node.bind find with
  | error e => simp
  | ok part => simpa using map_eq_error_iff

theorem bindAll_ok_iff : (∃ parts, Node.bindAll find nodes = .ok parts) ↔
    ∀ node ∈ nodes, ∃ part, node.bind find = .ok part := by
  induction nodes with
  | nil => simp [Node.bindAll]
  | cons node nodes ih => rw [bindAll_cons_ok_iff, ih, List.forall_mem_cons]

/-- Nodes in a row fail as the first of them that fails. -/
theorem bindAll_eq_error_iff : Node.bindAll find nodes = .error e ↔
    ∃ before node after, nodes = before ++ node :: after ∧
      (∀ n ∈ before, ∃ part, n.bind find = .ok part) ∧ node.bind find = .error e := by
  induction nodes with
  | nil => simp [Node.bindAll]
  | cons node nodes ih =>
    rw [bindAll_cons_error_iff, ih]
    constructor
    · rintro (failed | ⟨bound, before, other, after, rfl, fine, failed⟩)
      · exact ⟨[], node, nodes, rfl, by simp, failed⟩
      · exact ⟨node :: before, other, after, rfl, List.forall_mem_cons.mpr ⟨bound, fine⟩, failed⟩
    · rintro ⟨before, other, after, same, fine, failed⟩
      cases before with
      | nil =>
        obtain ⟨rfl, rfl⟩ := List.cons.inj same
        exact .inl failed
      | cons first before =>
        obtain ⟨rfl, rfl⟩ := List.cons.inj same
        obtain ⟨bound, fine⟩ := List.forall_mem_cons.mp fine
        exact .inr ⟨bound, before, other, after, rfl, fine, failed⟩

theorem bindAll_append_error_iff : Node.bindAll find (xs ++ ys) = .error e ↔
    Node.bindAll find xs = .error e ∨
      (∃ parts, Node.bindAll find xs = .ok parts) ∧ Node.bindAll find ys = .error e := by
  induction xs with
  | nil => simp [Node.bindAll]
  | cons x xs ih =>
    rw [List.cons_append, bindAll_cons_error_iff, bindAll_cons_error_iff, bindAll_cons_ok_iff, ih]
    tauto

/-- Alternatives fail as the nodes inside would, were they written in a row. -/
theorem bindAll_alternatives_error_iff
    (shape : ∀ node ∈ nodes, ∃ children span, node = .branch .alternative children span) :
    Node.bindAll find nodes = .error e ↔
      Node.bindAll find (nodes.flatMap Node.children) = .error e := by
  induction nodes with
  | nil => rfl
  | cons node nodes ih =>
    obtain ⟨⟨children, span, rfl⟩, others⟩ := List.forall_mem_cons.mp shape
    rw [bindAll_cons_error_iff, List.flatMap_cons, bindAll_append_error_iff, ih others, Node.bind,
      map_eq_error_iff, exists_map_ok_iff, Node.children]

/-! ## Nodes under the root -/

theorem Node.Plain.bind_ok_iff (plain : node.Plain) :
    (∃ part, node.bind find = .ok part) ↔ node.Admissible find := by
  cases plain with
  | @text token span => simpa [Node.bind] using @admissible_of_isText find _ rfl
  | @optional children span plain =>
    rw [admissible_branch, Node.Admits, ← @optionalProblem?_eq_none_iff _ span plain,
      Node.bind]
    cases wrong : optionalProblem? children span with
    | some problem => simp
    | none =>
      obtain ⟨-, text⟩ := (optionalProblem?_eq_none_iff plain).mp wrong
      have inside := fun child hc => @admissible_of_isText find _ (text child hc)
      obtain ⟨parts, bound, -⟩ := @bindAll_eq_text find _ text
      simpa [exists_map_ok_iff] using iff_of_true ⟨parts, bound⟩ inside
  | @parameter children span text =>
    have inside := fun child hc => @admissible_of_isText find _ (text child hc)
    rw [admissible_branch, Node.Admits, Node.bind]
    cases find (String.ofList (Node.textOfAll children)) with
    | some t => simpa using inside
    | none => simp

theorem bind_optional_error_iff (plain : ∀ child ∈ children, child.Plain) :
    (Node.branch .optional children span).bind find = .error e ↔
      ∃ problem, OptionalProblem children span problem ∧ e = .problem problem := by
  simp only [Node.bind, ← optionalProblem?_eq_some_iff plain]
  cases wrong : optionalProblem? children span with
  | some problem => simp [eq_comm]
  | none =>
    obtain ⟨-, text⟩ := (optionalProblem?_eq_none_iff plain).mp wrong
    obtain ⟨parts, bound, -⟩ := @bindAll_eq_text find _ text
    simp [bound, Except.map]

theorem bind_parameter_error_iff : (Node.branch .parameter children span).bind find = .error e ↔
    find (String.ofList (Node.textOfAll children)) = none ∧
      e = .undefinedType (String.ofList (Node.textOfAll children)) span := by
  rw [Node.bind]
  cases find (String.ofList (Node.textOfAll children)) <;> simp [eq_comm]

theorem Node.Plain.bind_eq_error_iff (plain : node.Plain) :
    node.bind find = .error e ↔ node.Fails find e := by
  cases plain with
  | text =>
    rw [Node.bind]
    constructor
    · intro h
      cases h
    · intro h
      cases h
  | optional plain =>
    rw [bind_optional_error_iff plain]
    constructor
    · rintro ⟨problem, wrong, rfl⟩
      exact .optional wrong
    · intro h
      cases h with
      | optional wrong => exact ⟨_, wrong, rfl⟩
  | parameter =>
    rw [bind_parameter_error_iff]
    constructor
    · rintro ⟨unknown, rfl⟩
      exact .parameter unknown
    · intro h
      cases h with
      | parameter unknown => exact ⟨unknown, rfl⟩

/-- The nodes in the alternatives of an alternation. -/
theorem plain_of_alternatives (each : ∀ node ∈ nodes, ∃ children span,
      node = .branch .alternative children span ∧
      ∀ child ∈ children, child.Plain ∧ child.hasKind .parameter = false) :
    (∀ node ∈ nodes, ∃ children span, node = .branch .alternative children span) ∧
      ∀ child ∈ nodes.flatMap Node.children, child.Plain ∧ child.hasKind .parameter = false := by
  constructor
  · intro node hn
    obtain ⟨children, span, same, -⟩ := each node hn
    exact ⟨children, span, same⟩
  · intro child hc
    obtain ⟨node, hn, inside⟩ := List.mem_flatMap.mp hc
    obtain ⟨children, span, rfl, plain⟩ := each node hn
    exact plain child inside

theorem AlternativeProblem.not_hasText (h : AlternativeProblem node problem) : ¬ node.HasText := by
  rintro ⟨child, hc, text⟩
  cases h with
  | empty none => simp [none] at hc
  | optionals _ noText => simp [noText child hc] at text

theorem Node.IsAlternation.bind_ok_iff (shape : node.IsAlternation) :
    (∃ part, node.bind find = .ok part) ↔ node.Admissible find := by
  obtain ⟨alternatives, span, rfl, -, each⟩ := shape
  have alternative : ∀ node ∈ alternatives, ((∃ part, node.bind find = .ok part) ↔
        ∀ child ∈ node.children, child.Admissible find) ∧
      (node.Admissible find ↔ node.HasText ∧ ∀ child ∈ node.children, child.Admissible find) := by
    intro node hn
    obtain ⟨children, span, rfl, plain⟩ := each node hn
    refine ⟨?_, admissible_branch⟩
    rw [Node.bind, exists_map_ok_iff, bindAll_ok_iff, Node.children]
    exact forall₂_congr fun child hc => (plain child hc).1.bind_ok_iff
  rw [admissible_branch, Node.bind]
  rcases hasText_or_first alternatives with all | ⟨before, node, after, problem, rfl, texts, wrong⟩
  · rw [alternativesProblem?_eq_none all]
    simp only [exists_map_ok_iff, bindAll_ok_iff, Node.Admits, true_and]
    refine forall₂_congr fun node hn => ?_
    rw [(alternative node hn).1, (alternative node hn).2, and_iff_right (all node hn)]
  · rw [alternativesProblem?_of_first texts wrong]
    have hn : node ∈ before ++ node :: after := by simp
    refine iff_of_false (by simp) fun admissible => wrong.not_hasText ?_
    exact ((alternative node hn).2.mp (admissible.2 node hn)).1

/-- Where all alternatives hold text, the first optional that does not pass is the problem. -/
theorem bind_alternation_error_iff
    (branches : ∀ node ∈ nodes, ∃ children span, node = .branch .alternative children span)
    (plain : ∀ child ∈ nodes.flatMap Node.children,
      child.Plain ∧ child.hasKind .parameter = false)
    (all : ∀ node ∈ nodes, node.HasText) :
    (Node.branch .alternation nodes span).bind find = .error e ↔
      ∃ before children span after problem,
        nodes.flatMap Node.children = before ++ .branch .optional children span :: after ∧
        (∀ node ∈ before, node.Admissible find) ∧ OptionalProblem children span problem ∧
        e = .problem problem := by
  rw [Node.bind, alternativesProblem?_eq_none all, map_eq_error_iff,
    bindAll_alternatives_error_iff branches, bindAll_eq_error_iff]
  constructor
  · rintro ⟨before, node, after, same, fine, failed⟩
    have admissible : ∀ n ∈ before, n.Admissible find := by
      intro n hn
      exact (plain n (by simp [same, hn])).1.bind_ok_iff.mp (fine n hn)
    obtain ⟨plain, other⟩ := plain node (by simp [same])
    cases plain with
    | text => simp [Node.bind] at failed
    | optional inside =>
      obtain ⟨problem, wrong, rfl⟩ := (bind_optional_error_iff inside).mp failed
      exact ⟨before, _, _, after, problem, same, admissible, wrong, rfl⟩
    | parameter => simp [Node.hasKind] at other
  · rintro ⟨before, children, span, after, problem, same, admissible, wrong, rfl⟩
    refine ⟨before, _, after, same, ?_, ?_⟩
    · intro n hn
      exact (plain n (by simp [same, hn])).1.bind_ok_iff.mpr (admissible n hn)
    · exact (plain _ (by simp [same])).1.bind_eq_error_iff.mpr (.optional wrong)

theorem Node.IsAlternation.bind_eq_error_iff (shape : node.IsAlternation) :
    node.bind find = .error e ↔ node.Fails find e := by
  obtain ⟨alternatives, span, rfl, -, each⟩ := shape
  obtain ⟨branches, plain⟩ := plain_of_alternatives each
  constructor
  · intro h
    rcases hasText_or_first alternatives with all |
      ⟨before, node, after, problem, rfl, texts, wrong⟩
    · obtain ⟨before, children, span, after, problem, same, fine, wrong, rfl⟩ :=
        (bind_alternation_error_iff branches plain all).mp h
      exact .inside all same fine wrong
    · rw [Node.bind, alternativesProblem?_of_first texts wrong] at h
      obtain rfl := Except.error.inj h
      obtain ⟨children, span, rfl⟩ := branches node (by simp)
      cases wrong with
      | empty none =>
        obtain rfl : children = [] := none
        exact .emptyAlternative texts
      | optionals filled noText => exact .alternative texts filled noText
  · intro h
    cases h with
    | emptyAlternative texts =>
      rw [Node.bind, alternativesProblem?_of_first texts (.empty rfl)]
      rfl
    | @alternative before children span after _ texts filled noText =>
      have wrong := @AlternativeProblem.optionals (.branch .alternative children span) filled noText
      rw [Node.bind, alternativesProblem?_of_first texts wrong]
      rfl
    | inside all same fine wrong =>
      exact (bind_alternation_error_iff branches plain all).mpr
        ⟨_, _, _, _, _, same, fine, wrong, rfl⟩

/-! ## Types -/

theorem types_of_bindAll {parts : List Bound}
    (h : List.Forall₂ (fun node part => (Node.parameters node).map find = part.types.map some)
      nodes parts) :
    (Node.parametersAll nodes).map find = (parts.flatMap Bound.types).map some := by
  induction h with
  | nil => rfl
  | cons first _ ih =>
    rw [Node.parametersAll, List.map_append, first, ih, List.flatMap_cons, List.map_append]

theorem Node.Plain.types_of_bind {part : Bound} (plain : node.Plain)
    (h : node.bind find = .ok part) : node.parameters.map find = part.types.map some := by
  induction plain generalizing part with
  | text =>
    obtain ⟨rfl⟩ := h
    rfl
  | optional _ ih =>
    obtain ⟨-, parts, bound, rfl⟩ := bind_optional_ok h
    exact types_of_bindAll (bindAll_ok bound fun child hc part => ih child hc)
  | @parameter children span text =>
    obtain ⟨t, found, rfl⟩ := bind_parameter_ok h
    have unnamed : Node.parametersAll children = [] :=
      Node.parametersAll_eq_nil fun child hc => Node.parameters_of_isText (text child hc)
    simp [Node.parameters, unnamed, found]

theorem Node.IsAlternation.types_of_bind {part : Bound} (shape : node.IsAlternation)
    (h : node.bind find = .ok part) : node.parameters.map find = part.types.map some := by
  obtain ⟨alternatives, span, parts, rfl, bound, rfl, -, each⟩ := shape.bind_ok h
  refine types_of_bindAll (bindAll_ok bound fun node hn part known => ?_)
  obtain ⟨children, span, parts, rfl, bound, rfl, plain⟩ := each node hn part known
  exact types_of_bindAll (bindAll_ok bound fun child hc _ => (plain child hc).1.types_of_bind)

/-! ## Trees -/

/-- The error is that of the first node under the root that fails. -/
theorem bind_eq_error_iff {children : List Node} {span : Span} {e : BindError}
    (shape : ∀ child ∈ children, child.Plain ∨ child.IsAlternation) :
    (Node.branch .expression children span).bind find = .error e ↔ ∃ before child after,
      children = before ++ child :: after ∧
      (∀ node ∈ before, node.Admissible find) ∧ child.Fails find e := by
  have passes : ∀ child ∈ children,
      ((∃ part, child.bind find = .ok part) ↔ child.Admissible find) :=
    fun child hc => (shape child hc).elim (·.bind_ok_iff) (·.bind_ok_iff)
  have fails : ∀ child ∈ children, (child.bind find = .error e ↔ child.Fails find e) :=
    fun child hc => (shape child hc).elim (·.bind_eq_error_iff) (·.bind_eq_error_iff)
  rw [Node.bind, map_eq_error_iff, bindAll_eq_error_iff]
  constructor
  · rintro ⟨before, child, after, rfl, fine, failed⟩
    refine ⟨before, child, after, rfl, fun node hn => ?_, (fails child (by simp)).mp failed⟩
    exact (passes node (by simp [hn])).mp (fine node hn)
  · rintro ⟨before, child, after, rfl, fine, failed⟩
    refine ⟨before, child, after, rfl, fun node hn => ?_, (fails child (by simp)).mpr failed⟩
    exact (passes node (by simp [hn])).mpr (fine node hn)

/-- The tree of a template has a pattern if every node of it passes its check, and then the types of
its parameters are those that their names are registered for. Otherwise the error is that of the
first node under the root that does not pass. -/
theorem bind_outcome {source : List Char} {root : Node} (h : parse source = .ok root)
    (r : Registry) :
    ((∃ whole, root.bind r.byName? = .ok whole) ↔
      ∀ node ∈ root.subnodes, node.Admits r.byName?) ∧
    (∀ whole, root.bind r.byName? = .ok whole →
      root.parameters.map r.byName? = whole.types.map some) ∧
    ∀ e, root.bind r.byName? = .error e ↔ ∃ before child after,
      root.children = before ++ child :: after ∧
      (∀ node ∈ before, node.Admissible r.byName?) ∧ child.Fails r.byName? e := by
  obtain ⟨children, span, rfl, shape⟩ := shape_of_parse h
  have passes : ∀ child ∈ children,
      ((∃ part, child.bind r.byName? = .ok part) ↔ child.Admissible r.byName?) :=
    fun child hc => (shape child hc).elim (·.bind_ok_iff) (·.bind_ok_iff)
  refine ⟨?_, fun whole bound => ?_, fun e => bind_eq_error_iff shape⟩
  · change _ ↔ (Node.branch .expression children span).Admissible r.byName?
    rw [admissible_branch, Node.bind, exists_map_ok_iff, bindAll_ok_iff]
    simp only [Node.Admits, true_and]
    exact forall₂_congr passes
  · obtain ⟨parts, inside, rfl⟩ := bind_expression_ok bound
    exact types_of_bindAll (bindAll_ok inside fun child hc _ known =>
      (shape child hc).elim (·.types_of_bind known) (·.types_of_bind known))

theorem bind_outcome_alternation : ∃ root, parse "a/(b) {x}".toList = .ok root ∧
    root.bind Registry.initial.byName? =
      .error (.problem ⟨.onlyOptionalsInAlternative, ⟨2, 5⟩⟩) := by
  have made : (parse "a/(b) {x}".toList).isOk = true := by decide +kernel
  cases parsed : parse "a/(b) {x}".toList with
  | error problem => rw [parsed] at made; cases made
  | ok root =>
    refine ⟨root, rfl, ((bind_outcome parsed .initial).2.2 _).mpr ?_⟩
    -- reducing the parser takes too long, but the items of its tokens are unique
    have reads := Reads.text (p := .line) (t := ⟨.text, ['a'], ['a'], ⟨0, 1⟩⟩) (.inr (.inl rfl)) <|
      .slash (t := ⟨.alternation, ['/'], ['/'], ⟨1, 2⟩⟩) rfl <|
      @Reads.optional .line ⟨.optionalBegin, ['('], ['('], ⟨2, 3⟩⟩
        ⟨.optionalEnd, [')'], [')'], ⟨4, 5⟩⟩ _ _ _ _ rfl
        (.text (t := ⟨.text, ['b'], ['b'], ⟨3, 4⟩⟩) (.inr (.inl rfl)) .nil) rfl <|
      .text (t := ⟨.blank, [' '], [' '], ⟨5, 6⟩⟩) (.inl rfl) <|
      @Reads.parameter .line ⟨.parameterBegin, ['\x7b'], ['\x7b'], ⟨6, 7⟩⟩
        ⟨.parameterEnd, ['\x7d'], ['\x7d'], ⟨8, 9⟩⟩ [⟨.text, ['x'], ['x'], ⟨7, 8⟩⟩] _ _
        rfl (by simp [IsName]) rfl .nil
    rw [root_of_parse parsed (tokenize_eq _) reads]
    have wrong : (Node.branch .alternation ([.branch .alternative [.text ['a'] ⟨0, 1⟩] ⟨0, 1⟩] ++
        [.branch .alternative [.branch .optional [.text ['b'] ⟨3, 4⟩] ⟨2, 5⟩] ⟨2, 5⟩]) ⟨0, 5⟩).Fails
          Registry.initial.byName? (.problem ⟨.onlyOptionalsInAlternative, ⟨2, 5⟩⟩) :=
      .alternative (by simp [Node.HasText, Node.children, Node.isText]) (by simp)
        (by simp [Node.isText])
    exact ⟨[], _, _, rfl, by simp, wrong⟩

end StepExpr.Template
