import StepExpr.Proofs.Template.Parsing

/-!
# The tree of a template

Blanks and parameters cut the items of a template into runs. A run with a slash is one alternation,
and the other items are nodes of their own.

* `nodesOf` gives the nodes of items, without the rules that try alternations;
* `alternatives_run`: the alternatives that are read are those between the slashes of a run;
* `Reads.adjoin`: items lie side by side where their tokens do.
-/

namespace StepExpr.Template

/-! ## Runs -/

/-- Where items lie that stand side by side. -/
def extent (items : List Item) : Span :=
  ⟨(items.head?.map fun item => item.span.start).getD 0,
    (items.getLast?.map fun item => item.span.stop).getD 0⟩

/-- What slashes leave of a span. -/
def gaps (whole : Span) (slashes : List Span) : List Span :=
  List.zipWith Span.mk (whole.start :: slashes.map Span.stop)
    (slashes.map Span.start ++ [whole.stop])

/-- The alternatives of a run: the items between its slashes. -/
def alternativesOf (run : List Item) : List Node :=
  List.zipWith (fun items span => .branch .alternative (items.filterMap Item.node?) span)
    (run.splitOnP Item.isSlash) (gaps (extent run) ((run.filter Item.isSlash).map Item.span))

def nodesOfRun (run : List Item) : List Node :=
  if run.any Item.isSlash then [.branch .alternation (alternativesOf run) (extent run)]
  else run.filterMap Item.node?

/-- Blanks and parameters stand between runs. -/
def Item.isCut (item : Item) : Bool := item.kind = .blank || item.kind = .parameterBegin

/-- The nodes of items that follow the beginning of a run. -/
def nodesOf (run : List Item) : List Item → List Node
  | [] => nodesOfRun run
  | item :: items =>
    if item.isCut then nodesOfRun run ++ item.node?.toList ++ nodesOf [] items
    else nodesOf (run ++ [item]) items

@[simp] theorem nodesOfRun_nil : nodesOfRun [] = [] := rfl

theorem nodesOf_uncut {run items : List Item} (h : ∀ item ∈ items, item.isCut = false)
    (more : List Item) : nodesOf run (items ++ more) = nodesOf (run ++ items) more := by
  induction items generalizing run with
  | nil => simp
  | cons item items ih =>
    have uncut := h item (by simp)
    simp only [List.cons_append, nodesOf, uncut, Bool.false_eq_true, if_false]
    rw [ih fun i hi => h i (by simp [hi])]
    simp

/-- Nothing, or a blank or a parameter. -/
def EndsRun (items : List Item) : Prop := ∀ item, items.head? = some item → item.isCut = true

theorem nodesOf_append {run more : List Item} (h : ∀ item ∈ run, item.isCut = false)
    (ends : EndsRun more) : nodesOf [] (run ++ more) = nodesOfRun run ++ nodesOf [] more := by
  rw [nodesOf_uncut h]
  cases more with
  | nil => simp [nodesOf]
  | cons item more =>
    have cut := ends item rfl
    simp [nodesOf, cut]

theorem nodesOfRun_free {run : List Item} (h : ∀ item ∈ run, item.isSlash = false) :
    nodesOfRun run = run.filterMap Item.node? := by
  have none : run.any Item.isSlash = false := by simpa using h
  simp [nodesOfRun, none]

/-- Without slashes the nodes are those of the items. -/
theorem nodesOf_free {run items : List Item} (before : ∀ item ∈ run, item.isSlash = false)
    (free : ∀ item ∈ items, item.isSlash = false) :
    nodesOf run items = (run ++ items).filterMap Item.node? := by
  induction items generalizing run with
  | nil => rw [nodesOf, nodesOfRun_free before, List.append_nil]
  | cons item items ih =>
    obtain ⟨first, others⟩ := List.forall_mem_cons.mp free
    rw [nodesOf]
    split
    · rw [nodesOfRun_free before, ih (by simp) others, List.nil_append, List.filterMap_append,
        List.filterMap_cons]
      cases item.node? <;> simp
    · have grown : ∀ item' ∈ run ++ [item], item'.isSlash = false :=
        List.forall_mem_append.mpr ⟨before, List.forall_mem_singleton.mpr first⟩
      rw [ih grown others, List.append_assoc, List.singleton_append]

theorem gaps_cons (whole slash : Span) (slashes : List Span) :
    gaps whole (slash :: slashes) =
      ⟨whole.start, slash.start⟩ :: gaps ⟨slash.stop, whole.stop⟩ slashes := rfl

/-- The items of the first alternative before `items` are `before`. -/
theorem alternatives_pieces (left stop : Nat) (before items : List Item) :
    alternatives left stop (before.filterMap Item.node?).reverse (items.map Item.piece) =
      List.zipWith (fun items span => Node.branch .alternative (items.filterMap Item.node?) span)
        ((items.splitOnP Item.isSlash).modifyHead (before ++ ·))
        (gaps ⟨left, stop⟩ ((items.filter Item.isSlash).map Item.span)) := by
  induction items generalizing left before with
  | nil => simp [alternatives, gaps]
  | cons item items ih =>
    rw [List.splitOnP_cons_eq_if_modifyHead]
    cases hs : item.isSlash with
    | true =>
      obtain ⟨t, rfl⟩ : ∃ t, item = .slash t := by cases item <;> simp [Item.isSlash] at hs ⊢
      have rest := ih t.span.stop []
      rw [if_pos rfl, List.filter_cons_of_pos hs, List.map_cons, List.map_cons, gaps_cons]
      simp only [Item.piece, alternatives, List.reverse_reverse, List.modifyHead_cons,
        List.append_nil, List.zipWith_cons_cons, Item.span]
      congr 1
      cases hg : items.splitOnP Item.isSlash <;> simpa [hg] using rest
    | false =>
      obtain ⟨n, hp, hn⟩ : ∃ n, item.piece = .node n ∧ item.node? = some n := by
        cases item <;> simp [Item.isSlash, Item.piece, Item.node?] at hs ⊢
      have rest := ih left (before ++ [item])
      rw [if_neg (by simp), List.filter_cons_of_neg (by simp [hs]), List.map_cons, hp, alternatives]
      simp only [List.filterMap_append, List.filterMap_cons, hn, List.filterMap_nil,
        List.reverse_append, List.reverse_singleton, List.singleton_append] at rest
      rw [rest]
      congr 1
      cases items.splitOnP Item.isSlash <;> simp

theorem alternatives_run {left stop : Nat} {run : List Item} (h : extent run = ⟨left, stop⟩) :
    alternatives left stop [] (run.map Item.piece) = alternativesOf run := by
  have rest := alternatives_pieces left stop [] run
  rw [alternativesOf, h]
  cases hg : run.splitOnP Item.isSlash <;> simpa [hg] using rest

/-! ## Where items lie -/

/-- Items that are not empty stand one after another from `pos` to `stop`. -/
def Adjoin (pos : Nat) : List Item → Nat → Prop
  | [], stop => pos = stop
  | item :: items, stop =>
    item.span.start = pos ∧ pos < item.span.stop ∧ Adjoin item.span.stop items stop

theorem Reads.adjoin {p : Place} {ts : List Token} {items : List Item} (h : Reads p ts items)
    {pos stop : Nat} (hc : Contiguous pos ts stop) : Adjoin pos items stop := by
  induction h generalizing pos with
  | nil => exact hc
  | text _ _ ih => exact ⟨hc.1, hc.2.1, ih hc.2.2⟩
  | slash _ _ ih => exact ⟨hc.1, hc.2.1, ih hc.2.2⟩
  | optional _ _ _ _ _ ih =>
    obtain ⟨start, shorter, rest⟩ := hc
    obtain ⟨mid, inside, last, longer, after⟩ := Contiguous.append.mp rest
    have := inside.le
    exact ⟨start, by simp only [Item.span]; omega, ih after⟩
  | parameter _ _ _ _ ih =>
    obtain ⟨start, shorter, rest⟩ := hc
    obtain ⟨mid, inside, last, longer, after⟩ := Contiguous.append.mp rest
    have := inside.le
    exact ⟨start, by simp only [Item.span]; omega, ih after⟩

theorem Adjoin.extent {pos stop : Nat} {items : List Item} (h : Adjoin pos items stop)
    (some : items ≠ []) : extent items = ⟨pos, stop⟩ := by
  have last : ∀ {pos : Nat} {items : List Item}, Adjoin pos items stop → items ≠ [] →
      (items.getLast?.map fun item => item.span.stop).getD 0 = stop := by
    intro pos items h some
    induction items generalizing pos with
    | nil => exact absurd rfl some
    | cons item items ih =>
      cases items with
      | nil => exact h.2.2
      | cons next items => simpa using ih h.2.2 (by simp)
  cases items with
  | nil => exact absurd rfl some
  | cons item items =>
    rw [Template.extent, last h some]
    simp [h.1]

end StepExpr.Template
