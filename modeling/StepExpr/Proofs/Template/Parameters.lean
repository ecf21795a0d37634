import StepExpr.Proofs.Template.Binding
import StepExpr.Proofs.Template.Lexing

/-!
# The tokens of parameters

Every parameter of a tree, also one inside an optional, is made of some tokens of the template.

* `Reads.spelled`: the parameters in the nodes of items are made of the items' tokens;
* `parameter_of_nodesOf`: cutting items into nodes makes no parameters;
* `spelled_of_parse`: so the parameters of a template are made of its tokens.
-/

namespace StepExpr.Template

variable {source : List Char} {ts : List Token} {span : Span} {children : List Node}
  {root inner : Node}

/-- The tokens of a parameter stand among `ts`: those of its name between those of two braces. -/
def Spelled (ts : List Token) (children : List Node) (span : Span) : Prop :=
  ∃ before first name last after, ts = before ++ first :: (name ++ last :: after) ∧
    children = name.map textNode ∧ span = ⟨first.span.start, last.span.stop⟩ ∧
    first.kind = .parameterBegin ∧ (∀ t ∈ name, IsName t) ∧ last.kind = .parameterEnd

theorem Spelled.among (h : Spelled ts children span) (front back : List Token) :
    Spelled (front ++ (ts ++ back)) children span := by
  obtain ⟨before, first, name, last, after, rfl, same⟩ := h
  exact ⟨front ++ before, first, name, last, after ++ back, by simp, same⟩

/-- A parameter in the node of an item is spelled by the tokens of the item. -/
theorem Reads.spelled {p : Place} {items : List Item} (h : Reads p ts items) :
    ∀ item ∈ items, ∀ node, item.node? = some node →
      Node.branch .parameter children span ∈ node.subnodes → Spelled ts children span := by
  induction h with
  | nil => simp
  | @text p t ts items _ _ ih =>
    refine List.forall_mem_cons.mpr ⟨fun node hn there => ?_, fun item hi node hn there => ?_⟩
    · obtain rfl := Option.some.inj hn
      simp [Node.subnodes] at there
    · simpa using (ih item hi node hn there).among [t] []
  | @slash t ts items _ _ ih =>
    refine List.forall_mem_cons.mpr ⟨fun node hn _ => ?_, fun item hi node hn there => ?_⟩
    · cases hn
    · simpa using (ih item hi node hn there).among [t] []
  | @optional p first last inside ts within items _ _ _ _ ihin ih =>
    refine List.forall_mem_cons.mpr ⟨fun node hn there => ?_, fun item hi node hn there => ?_⟩
    · obtain rfl := Option.some.inj hn
      rcases List.mem_cons.mp there with same | deeper
      · cases same
      · obtain ⟨child, hc, there⟩ := mem_subnodesAll.mp deeper
        obtain ⟨item, hi, hn⟩ := List.mem_filterMap.mp hc
        exact (ihin item hi child hn there).among [first] (last :: ts)
    · simpa using (ih item hi node hn there).among (first :: (inside ++ [last])) []
  | @parameter p first last name ts items opens names closes _ ih =>
    refine List.forall_mem_cons.mpr ⟨fun node hn there => ?_, fun item hi node hn there => ?_⟩
    · obtain rfl := Option.some.inj hn
      rcases List.mem_cons.mp there with same | deeper
      · cases same
        exact ⟨[], first, name, last, ts, rfl, rfl, rfl, opens, names, closes⟩
      · obtain ⟨child, hc, there⟩ := mem_subnodesAll.mp deeper
        obtain ⟨t, -, rfl⟩ := List.mem_map.mp hc
        simp [textNode, Node.subnodes] at there
    · simpa using (ih item hi node hn there).among (first :: (name ++ [last])) []

/-- A parameter under a run of items is in the node of one of them. -/
theorem parameter_of_nodesOfRun {run : List Item} (parameter : inner.hasKind .parameter = true)
    (there : inner ∈ Node.subnodesAll (nodesOfRun run)) :
    ∃ item ∈ run, ∃ node, item.node? = some node ∧ inner ∈ node.subnodes := by
  obtain ⟨node, hn, there⟩ := mem_subnodesAll.mp there
  unfold nodesOfRun at hn
  split at hn
  · obtain rfl := List.mem_singleton.mp hn
    rcases List.mem_cons.mp there with rfl | deeper
    · cases parameter
    obtain ⟨alternative, ha, there⟩ := mem_subnodesAll.mp deeper
    obtain ⟨k, hk, rfl⟩ := List.getElem_of_mem ha
    simp only [alternativesOf, List.getElem_zipWith] at there
    rcases List.mem_cons.mp there with rfl | deeper
    · cases parameter
    obtain ⟨child, hc, there⟩ := mem_subnodesAll.mp deeper
    obtain ⟨item, hi, same⟩ := List.mem_filterMap.mp hc
    exact ⟨item, mem_of_mem_splitOnP (List.getElem_mem _) hi, child, same, there⟩
  · obtain ⟨item, hi, same⟩ := List.mem_filterMap.mp hn
    exact ⟨item, hi, node, same, there⟩

theorem parameter_of_nodesOf {run items : List Item} (parameter : inner.hasKind .parameter = true)
    (there : inner ∈ Node.subnodesAll (nodesOf run items)) :
    ∃ item ∈ run ++ items, ∃ node, item.node? = some node ∧ inner ∈ node.subnodes := by
  induction items generalizing run with
  | nil => simpa using parameter_of_nodesOfRun parameter there
  | cons item items ih =>
    rw [nodesOf] at there
    split at there
    · obtain ⟨node, hn, inside⟩ := mem_subnodesAll.mp there
      rcases List.mem_append.mp hn with hn | hn
      · rcases List.mem_append.mp hn with hn | hn
        · obtain ⟨found, hf, rest⟩ :=
            parameter_of_nodesOfRun parameter (mem_subnodesAll.mpr ⟨node, hn, inside⟩)
          exact ⟨found, List.mem_append_left _ hf, rest⟩
        · exact ⟨item, by simp, node, by simpa using hn, inside⟩
      · obtain ⟨found, hf, rest⟩ := ih (mem_subnodesAll.mpr ⟨node, hn, inside⟩)
        exact ⟨found, by simp_all, rest⟩
    · simpa using ih there

theorem mem_subnodes_of_child {node : Node} (child : inner ∈ node.children) :
    inner ∈ node.subnodes := by
  cases node with
  | text => cases child
  | branch kind children span =>
    refine List.mem_cons_of_mem _ (mem_subnodesAll.mpr ⟨inner, child, ?_⟩)
    cases inner <;> exact List.mem_cons_self

/-- The parameters of a template are spelled by the tokens of its glyphs. -/
theorem spelled_of_parse (parsed : parse source = .ok root)
    (there : Node.branch .parameter children span ∈ root.subnodes) :
    ∃ gs, (∀ g ∈ gs, g.Valid) ∧ source = written gs ∧ Spelled (tokensFrom 0 gs) children span := by
  obtain ⟨tokens, items, cut, -, reads, rfl⟩ := parse_ok parsed
  obtain ⟨gs, rfl, valid, same⟩ := glyphs_of_tokenize cut
  obtain rfl : tokens = tokensFrom 0 gs := (List.append_inj' (List.cons.inj same).2 rfl).1
  rcases List.mem_cons.mp there with same | deeper
  · cases same
  obtain ⟨item, hi, node, hn, there⟩ := parameter_of_nodesOf rfl deeper
  exact ⟨gs, valid, rfl, reads.spelled item (by simpa using hi) node hn there⟩

end StepExpr.Template
