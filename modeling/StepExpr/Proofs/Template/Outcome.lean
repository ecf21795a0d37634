import StepExpr.Proofs.Template.Line

/-!
# What parsing gives

The outcome of reading a whole template, without the rules that read it.

* `parse_eq_ok_iff`: the tree of a template is made of the items of its tokens;
* `parse_problem`: the problem of a template is the first that a pass over its tokens finds.
-/

namespace StepExpr.Template

/-! ## Nodes without alternations -/

/-- Text, parameters with a name, and optionals of these. -/
inductive Node.Plain : Node → Prop where
  | text {token span} : Plain (.text token span)
  | optional {children span} : (∀ child ∈ children, Plain child) →
      Plain (.branch .optional children span)
  | parameter {children span} : (∀ child ∈ children, child.isText = true) →
      Plain (.branch .parameter children span)

/-- At least two alternatives, of text and optionals. -/
def Node.IsAlternation (node : Node) : Prop :=
  ∃ alternatives span, node = .branch .alternation alternatives span ∧ 2 ≤ alternatives.length ∧
    ∀ alternative ∈ alternatives, ∃ children span, alternative = .branch .alternative children span ∧
      ∀ child ∈ children, child.Plain ∧ child.hasKind .parameter = false

def Item.Plain (item : Item) : Prop := ∀ node, item.node? = some node → node.Plain

theorem plain_filterMap {items : List Item} (h : ∀ item ∈ items, item.Plain) :
    ∀ node ∈ items.filterMap Item.node?, node.Plain := by
  intro node hn
  obtain ⟨item, hi, same⟩ := List.mem_filterMap.mp hn
  exact h item hi node same

theorem Reads.plain {p : Place} {ts : List Token} {items : List Item} (h : Reads p ts items) :
    ∀ item ∈ items, item.Plain := by
  induction h with
  | nil => simp
  | text _ _ ih =>
    intro item hi node hn
    rcases List.mem_cons.mp hi with rfl | hi
    · obtain rfl := Option.some.inj hn
      exact .text
    · exact ih item hi node hn
  | slash _ _ ih =>
    intro item hi node hn
    rcases List.mem_cons.mp hi with rfl | hi
    · cases hn
    · exact ih item hi node hn
  | optional _ _ _ _ within ih =>
    intro item hi node hn
    rcases List.mem_cons.mp hi with rfl | hi
    · obtain rfl := Option.some.inj hn
      exact .optional (plain_filterMap within)
    · exact ih item hi node hn
  | parameter _ _ _ _ ih =>
    intro item hi node hn
    rcases List.mem_cons.mp hi with rfl | hi
    · obtain rfl := Option.some.inj hn
      refine .parameter fun child hc => ?_
      obtain ⟨t, -, rfl⟩ := List.mem_map.mp hc
      rfl
    · exact ih item hi node hn

theorem Item.not_parameter {item : Item} (h : item.isCut = false) {node : Node}
    (hn : item.node? = some node) : node.hasKind .parameter = false := by
  cases item with
  | text t => cases hn; rfl
  | slash t => cases hn
  | optional children span => cases hn; rfl
  | parameter children span => simp [Item.isCut, Item.kind] at h

/-- Cutting a list loses nothing but the elements that cut it, and gives one part more than these. -/
theorem mem_of_mem_splitOnP {α : Type} {p : α → Bool} {xs part : List α} {x : α}
    (hp : part ∈ xs.splitOnP p) (hx : x ∈ part) : x ∈ xs := by
  induction xs generalizing part with
  | nil =>
    obtain rfl := List.mem_singleton.mp hp
    cases hx
  | cons y ys ih =>
    rw [List.splitOnP_cons_eq_if_modifyHead] at hp
    split at hp
    · rcases List.mem_cons.mp hp with rfl | hp
      · cases hx
      · exact List.mem_cons_of_mem y (ih hp hx)
    · cases hs : ys.splitOnP p with
      | nil => simp [hs] at hp
      | cons first parts =>
        rw [hs, List.modifyHead_cons] at hp
        rcases List.mem_cons.mp hp with rfl | hp
        · rcases List.mem_cons.mp hx with rfl | hx
          · exact List.mem_cons_self
          · exact List.mem_cons_of_mem y (ih (hs ▸ List.mem_cons_self) hx)
        · exact List.mem_cons_of_mem y (ih (hs ▸ List.mem_cons_of_mem first hp) hx)

theorem length_splitOnP {α : Type} (p : α → Bool) (xs : List α) :
    (xs.splitOnP p).length = (xs.filter p).length + 1 := by
  induction xs with
  | nil => rfl
  | cons x xs ih =>
    rw [List.splitOnP_cons_eq_if_modifyHead]
    cases hp : p x with
    | true => simp [hp, ih]
    | false =>
      rw [if_neg (by simp), List.filter_cons_of_neg (by simp [hp]), ← ih]
      exact List.length_modifyHead

theorem length_gaps (whole : Span) (slashes : List Span) :
    (gaps whole slashes).length = slashes.length + 1 := by
  simp [gaps]

theorem length_alternativesOf (run : List Item) :
    (alternativesOf run).length = (run.filter Item.isSlash).length + 1 := by
  simp [alternativesOf, length_splitOnP, length_gaps]

theorem nodesOfRun_shape {run : List Item} (plain : ∀ item ∈ run, item.Plain)
    (uncut : ∀ item ∈ run, item.isCut = false) :
    ∀ node ∈ nodesOfRun run, node.Plain ∨ node.IsAlternation := by
  intro node hn
  unfold nodesOfRun at hn
  split at hn
  · rename_i slash
    obtain rfl := List.mem_singleton.mp hn
    refine .inr ⟨_, _, rfl, ?_, ?_⟩
    · rw [length_alternativesOf]
      obtain ⟨item, hi, hs⟩ := List.any_eq_true.mp slash
      have := List.length_pos_of_mem (List.mem_filter.mpr ⟨hi, hs⟩)
      omega
    · intro alternative ha
      obtain ⟨k, hk, rfl⟩ := List.getElem_of_mem ha
      simp only [alternativesOf, List.getElem_zipWith]
      refine ⟨_, _, rfl, ?_⟩
      intro child hc
      obtain ⟨item, hi, same⟩ := List.mem_filterMap.mp hc
      have inRun := mem_of_mem_splitOnP (List.getElem_mem _) hi
      exact ⟨plain item inRun child same, Item.not_parameter (uncut item inRun) same⟩
  · exact .inl (plain_filterMap plain node hn)

theorem nodesOf_shape {run items : List Item} (plain : ∀ item ∈ run ++ items, item.Plain)
    (uncut : ∀ item ∈ run, item.isCut = false) :
    ∀ node ∈ nodesOf run items, node.Plain ∨ node.IsAlternation := by
  induction items generalizing run with
  | nil => exact nodesOfRun_shape (fun item hi => plain item (by simp [hi])) uncut
  | cons item items ih =>
    rw [nodesOf]
    split
    · intro node hn
      rcases List.mem_append.mp hn with hn | hn
      · rcases List.mem_append.mp hn with hn | hn
        · exact nodesOfRun_shape (fun item hi => plain item (by simp [hi])) uncut node hn
        · exact .inl (plain item (by simp) node (by simpa using hn))
      · exact @ih [] (fun i hi => plain i (by simp_all)) (by simp) node hn
    · rename_i free
      refine ih (fun i hi => plain i (by simpa using hi)) ?_
      intro i hi
      rcases List.mem_append.mp hi with hi | hi
      · exact uncut i hi
      · obtain rfl := List.mem_singleton.mp hi
        simpa using free

/-! ## Trees -/

theorem Reads.run_ok {tokens : List Token} {items : List Item} (h : Reads .line tokens items)
    (stop : Nat) :
    Scan.start.run (edgeToken .lineStart 0 :: (tokens ++ [edgeToken .lineEnd stop])) =
      .ok .start := by
  rw [Scan.run_cons_ok (r := .start) rfl]
  exact h.scan (by simp [Place.Opens]) _

theorem root_of_parse {source : List Char} {root : Node} {tokens : List Token} {items : List Item}
    (h : parse source = .ok root) (cut : tokenize source =
      .ok (edgeToken .lineStart 0 :: (tokens ++ [edgeToken .lineEnd source.length])))
    (reads : Reads .line tokens items) :
    root = .branch .expression (nodesOf [] items) ⟨0, source.length⟩ := by
  obtain ⟨ts, others, cut', -, reads', rfl⟩ := parse_ok h
  rw [cut] at cut'
  obtain ⟨rfl, -⟩ := List.append_inj' (List.cons.inj (Except.ok.inj cut')).2 rfl
  rw [reads'.unique reads]

/-- A template that can be read has a tree. -/
theorem parse_of_reads {source : List Char} {tokens : List Token} {items : List Item} (cut : tokenize source =
      .ok (edgeToken .lineStart 0 :: (tokens ++ [edgeToken .lineEnd source.length])))
    (reads : Reads .line tokens items) :
    parse source = .ok (.branch .expression (nodesOf [] items) ⟨0, source.length⟩) := by
  cases parsed : parse source with
  | error problem =>
    have failed := parse_error cut parsed
    rw [reads.run_ok] at failed
    cases failed
  | ok root => rw [root_of_parse parsed cut reads]

/-- A name in braces is one parameter. -/
theorem parse_parameter {name : List Char} (plain : ∀ c ∈ name, isReserved c = false) :
    ∃ children span whole, parse ('\x7b' :: name ++ ['\x7d']) =
        .ok (.branch .expression [.branch .parameter children span] whole) ∧
      Node.textOfAll children = name := by
  obtain ⟨ts, first, last, next, same, begins, names, ends, text⟩ :=
    tokensFrom_parameter plain 0 []
  have cut : tokenize ('\x7b' :: name ++ ['\x7d']) = .ok (edgeToken .lineStart 0 ::
      (first :: (ts ++ [last]) ++ [edgeToken .lineEnd ('\x7b' :: name ++ ['\x7d']).length])) := by
    rw [List.append_nil] at same
    rw [← written_parameter, tokenize_written (valid_parameterGlyphs plain), same]
    rfl
  have parsed := parse_of_reads cut (.parameter begins names ends .nil)
  exact ⟨_, _, _, parsed, by rw [textOfAll_textNodes, text]⟩

/-- The nodes under the root of a template are text, optionals, parameters and alternations. -/
theorem shape_of_parse {source : List Char} {root : Node} (h : parse source = .ok root) :
    ∃ children span, root = .branch .expression children span ∧
      ∀ child ∈ children, child.Plain ∨ child.IsAlternation := by
  obtain ⟨tokens, items, -, -, reads, rfl⟩ := parse_ok h
  exact ⟨_, _, rfl, nodesOf_shape (by simpa using reads.plain) (by simp)⟩

/-- A template parses to the nodes of its items, which its tokens can only be read as. Alternations
stand under the root only. -/
theorem parse_eq_ok_iff {source : List Char} {root : Node} :
    parse source = .ok root ↔ ∃ tokens items, tokenize source =
        .ok (edgeToken .lineStart 0 :: (tokens ++ [edgeToken .lineEnd source.length])) ∧
      (∀ others, Reads .line tokens others ↔ others = items) ∧
      root = .branch .expression (nodesOf [] items) ⟨0, source.length⟩ ∧
      ∀ child ∈ root.children, child.Plain ∨ child.IsAlternation := by
  constructor
  · intro h
    obtain ⟨tokens, items, cut, -, reads, rfl⟩ := parse_ok h
    refine ⟨tokens, items, cut, fun others => ⟨fun g => g.unique reads, ?_⟩, rfl, ?_⟩
    · rintro rfl
      exact reads
    · exact nodesOf_shape (by simpa using reads.plain) (by simp)
  · rintro ⟨tokens, items, cut, only, rfl, -⟩
    have reads := (only items).mpr rfl
    cases hp : parse source with
    | error problem =>
      have failed := parse_error cut hp
      rw [reads.run_ok] at failed
      cases failed
    | ok root => rw [root_of_parse hp cut reads]

/-! ## Problems -/

/-- A pass fails at the first token that it has no step for. -/
theorem Scan.run_eq_error_iff {s : Scan} {tokens : List Token} {problem : Problem} :
    s.run tokens = .error problem ↔ ∃ before t after s', tokens = before ++ t :: after ∧
      s.run before = .ok s' ∧ s'.step t = .error problem := by
  induction tokens generalizing s with
  | nil => simp [run]
  | cons t ts ih =>
    cases hs : s.step t with
    | error p =>
      rw [run_cons_error hs]
      constructor
      · intro h
        obtain rfl := Except.error.inj h
        exact ⟨[], t, ts, s, rfl, rfl, hs⟩
      · rintro ⟨before, u, after, s', same, ok, failed⟩
        cases before with
        | nil =>
          obtain ⟨rfl, -⟩ := List.cons.inj same
          obtain rfl := Except.ok.inj ok
          exact hs.symm.trans failed
        | cons b before =>
          obtain ⟨rfl, -⟩ := List.cons.inj same
          rw [run_cons_error hs] at ok
          cases ok
    | ok next =>
      rw [run_cons_ok hs, ih]
      constructor
      · rintro ⟨before, u, after, s', rfl, ok, failed⟩
        exact ⟨t :: before, u, after, s', rfl, by rw [run_cons_ok hs, ok], failed⟩
      · rintro ⟨before, u, after, s', same, ok, failed⟩
        cases before with
        | nil =>
          obtain ⟨rfl, -⟩ := List.cons.inj same
          obtain rfl := Except.ok.inj ok
          rw [hs] at failed
          cases failed
        | cons b before =>
          obtain ⟨rfl, rfl⟩ := List.cons.inj same
          rw [run_cons_ok hs] at ok
          exact ⟨before, u, after, s', rfl, ok, failed⟩

/-- What a pass can find at a token: a slash inside of an optional, a reserved character in a name,
or an optional or a parameter without its end. -/
inductive Scan.Finds (s : Scan) (t : Token) : Problem → Prop where
  | slash : t.kind = .alternation → s.name = none → s.opened ≠ [] →
      Finds s t ⟨.alternationInOptional, t.span⟩
  | name {brace} : s.name = some brace →
      t.kind ∈ [.parameterBegin, .optionalBegin, .optionalEnd, .alternation] →
      Finds s t ⟨.reservedInName, t.span⟩
  | optional {opener opened} : t.kind = .lineEnd → s.name = none → s.opened = opener :: opened →
      Finds s t ⟨.missingEnd .optionalBegin .optionalEnd, opener.span⟩
  | parameter {brace} : t.kind = .lineEnd → s.name = some brace →
      Finds s t ⟨.missingEnd .parameterBegin .parameterEnd, brace.span⟩

theorem Scan.step_finds {s : Scan} {t : Token} {problem : Problem}
    (h : s.step t = .error problem) : s.Finds t problem := by
  obtain ⟨opened, name⟩ := s
  cases name with
  | some brace =>
    cases hk : t.kind <;> simp only [step, hk] at h <;> cases h
    · exact .parameter hk rfl
    · exact .name rfl (by simp [hk])
    · exact .name rfl (by simp [hk])
    · exact .name rfl (by simp [hk])
    · exact .name rfl (by simp [hk])
  | none =>
    cases hk : t.kind <;> simp only [step, hk] at h
    case alternation =>
      split at h
      · cases h
      · rename_i some
        obtain rfl := Except.error.inj h
        exact .slash hk rfl (by simpa using some)
    case lineEnd =>
      cases opened with
      | nil => cases h
      | cons opener opened =>
        obtain rfl := Except.error.inj h
        exact .optional hk rfl rfl
    all_goals cases h

/-- A template that cuts into tokens has a problem where one pass over the tokens has, the first
that it meets. Only a slash with an optional open is reported for standing there, and only
optionals and parameters are reported for having no end. -/
theorem parse_problem {source : List Char} {tokens : List Token}
    (cut : tokenize source = .ok tokens) (problem : Problem) :
    (parse source = .error problem ↔ Scan.start.run tokens = .error problem) ∧
    (parse source = .error problem → ∃ before t after s, tokens = before ++ t :: after ∧
      Scan.start.run before = .ok s ∧ s.Finds t problem) := by
  have agree : parse source = .error problem ↔ Scan.start.run tokens = .error problem := by
    refine ⟨parse_error cut, fun failed => ?_⟩
    cases hp : parse source with
    | error other =>
      rw [parse_error cut hp] at failed
      rw [Except.error.inj failed]
    | ok root =>
      obtain ⟨ts, items, cut', -, reads, -⟩ := parse_ok hp
      rw [cut] at cut'
      obtain rfl := Except.ok.inj cut'
      rw [reads.run_ok] at failed
      cases failed
  refine ⟨agree, fun h => ?_⟩
  obtain ⟨before, t, after, s, same, ok, failed⟩ := Scan.run_eq_error_iff.mp (agree.mp h)
  exact ⟨before, t, after, s, same, ok, Scan.step_finds failed⟩

theorem parse_problem_slash :
    parse ['(', '/', ')'] = .error ⟨.alternationInOptional, ⟨1, 2⟩⟩ := by
  have cut : tokenize ['(', '/', ')'] = .ok [edgeToken .lineStart 0,
      ⟨.optionalBegin, ['('], ['('], ⟨0, 1⟩⟩, ⟨.alternation, ['/'], ['/'], ⟨1, 2⟩⟩,
      ⟨.optionalEnd, [')'], [')'], ⟨2, 3⟩⟩, edgeToken .lineEnd 3] := rfl
  exact (parse_problem cut _).1.mpr rfl

end StepExpr.Template
