import StepExpr.Proofs.Template.Line

/-!
# Nodes and the source

The nodes of a template that parses share out its text: nothing but delimiters and escaping
backslashes stands outside of the leaves.

* `Placed` says where a node lies, and where its children lie in it;
* `Node.fragments` lists the leaves and the delimiters of a tree from left to right;
* `parse_tiles`: the nodes of a template are placed, and their fragments are the template.
-/

namespace StepExpr.Template

/-! ## Placed nodes -/

/-- Spans that stand side by side from `start` to `stop`. -/
def Tile (start : Nat) : List Span → Nat → Prop
  | [], stop => start = stop
  | span :: spans, stop => span.start = start ∧ Tile span.stop spans stop

/-- Spans from `start` to `stop` with one slash that is not escaped between each two. -/
def TileBetween (source : List Char) (start : Nat) : List Span → Nat → Prop
  | [], _ => False
  | [span], stop => span = ⟨start, stop⟩
  | span :: spans, stop =>
    span.start = start ∧ StandsAt source span.stop '/' ∧ TileBetween source (span.stop + 1) spans stop

/-- A node whose leaves are what the source holds at their spans, and whose children fill it up to
its delimiters. -/
inductive Placed (source : List Char) : Node → Prop where
  | text {token span} : span.start < span.stop → span.stop ≤ source.length →
      token = unescape (slice source span) → Placed source (.text token span)
  | optional {children start stop} : StandsAt source start '(' → StandsAt source stop ')' →
      (∀ child ∈ children, Placed source child) → Tile (start + 1) (children.map Node.span) stop →
      Placed source (.branch .optional children ⟨start, stop + 1⟩)
  | parameter {children start stop} : StandsAt source start '\x7b' → StandsAt source stop '\x7d' →
      (∀ child ∈ children, Placed source child) → Tile (start + 1) (children.map Node.span) stop →
      Placed source (.branch .parameter children ⟨start, stop + 1⟩)
  | alternative {children start stop} : (∀ child ∈ children, Placed source child) →
      Tile start (children.map Node.span) stop →
      Placed source (.branch .alternative children ⟨start, stop⟩)
  | alternation {children start stop} : (∀ child ∈ children, Placed source child) →
      TileBetween source start (children.map Node.span) stop →
      Placed source (.branch .alternation children ⟨start, stop⟩)
  | expression {children} : (∀ child ∈ children, Placed source child) →
      Tile 0 (children.map Node.span) source.length →
      Placed source (.branch .expression children ⟨0, source.length⟩)

theorem TileBetween.cons {source : List Char} {start stop : Nat} {span : Span} {spans : List Span}
    (h : span.start = start) (stands : StandsAt source span.stop '/')
    (g : TileBetween source (span.stop + 1) spans stop) :
    TileBetween source start (span :: spans) stop := by
  cases spans with
  | nil => cases g
  | cons next spans => exact ⟨h, stands, g⟩

theorem Tile.append {start mid stop : Nat} {ss ts : List Span} (h : Tile start ss mid)
    (g : Tile mid ts stop) : Tile start (ss ++ ts) stop := by
  induction ss generalizing start with
  | nil =>
    obtain rfl : start = mid := h
    exact g
  | cons s ss ih => exact ⟨h.1, ih h.2⟩

/-! ## Placed items -/

/-- A node that is placed, or one slash. -/
def Item.Placed (source : List Char) : Item → Prop
  | .slash t => StandsAt source t.span.start '/' ∧ t.span.stop = t.span.start + 1
  | item => ∀ node, item.node? = some node → Template.Placed source node

theorem TokenKind.symbol_ofChar {c : Char} (h : (ofChar c).isRun = false) :
    (ofChar c).symbol.toList = [c] := by
  revert h
  unfold ofChar
  split
  case h_6 => split <;> intro h <;> cases h
  all_goals exact fun _ => rfl

/-- A delimiter is one character that is not escaped. -/
theorem Token.Lies.stands {source : List Char} {t : Token} (h : t.Lies source) {c : Char}
    (hk : t.kind.isRun = false) (hc : t.kind.symbol.toList = [c]) :
    t.span.stop = t.span.start + 1 ∧ StandsAt source t.span.start c := by
  obtain ⟨width, d, same, stands⟩ := h.delimiter hk
  have symbol := TokenKind.symbol_ofChar (same ▸ hk)
  rw [same, hc] at symbol
  obtain rfl := List.singleton_inj.mp symbol
  exact ⟨width, stands⟩

theorem Token.Lies.textNode {source : List Char} {t : Token} (h : t.Lies source) :
    Template.Placed source (textNode t) :=
  .text h.nonempty h.stop_le h.text_eq

theorem Reads.optional_free {ts : List Token} {items : List Item} (h : Reads .optional ts items) :
    ∀ item ∈ items, item.isSlash = false := by
  generalize hp : Place.optional = p at h
  induction h with
  | nil => simp
  | slash => cases hp
  | text _ _ ih => simpa [Item.isSlash] using ih hp
  | optional _ _ _ _ _ ih => simpa [Item.isSlash] using ih hp
  | parameter _ _ _ _ ih => simpa [Item.isSlash] using ih hp

theorem Item.Placed.node {source : List Char} {item : Item} (h : item.Placed source) {node : Node}
    (hn : item.node? = some node) : Template.Placed source node := by
  cases item with
  | slash => cases hn
  | text => exact h node hn
  | optional => exact h node hn
  | parameter => exact h node hn

theorem placed_filterMap {source : List Char} {items : List Item}
    (h : ∀ item ∈ items, item.Placed source) :
    ∀ node ∈ items.filterMap Item.node?, Template.Placed source node := by
  intro node hn
  obtain ⟨item, hi, same⟩ := List.mem_filterMap.mp hn
  exact (h item hi).node same

/-- Where there is no slash, the nodes of items lie where the items do. -/
theorem Adjoin.tile {pos stop : Nat} {items : List Item} (h : Adjoin pos items stop)
    (free : ∀ item ∈ items, item.isSlash = false) :
    Tile pos ((items.filterMap Item.node?).map Node.span) stop := by
  induction items generalizing pos with
  | nil => exact h
  | cons item items ih =>
    obtain ⟨start, -, rest⟩ := h
    have tail := ih rest fun i hi => free i (by simp [hi])
    have first := free item (by simp)
    cases item with
    | slash => cases first
    | text t => exact ⟨start, tail⟩
    | optional children span => exact ⟨start, tail⟩
    | parameter children span => exact ⟨start, tail⟩

theorem Contiguous.tile {pos stop : Nat} {ts : List Token} (h : Contiguous pos ts stop) :
    Tile pos ((ts.map textNode).map Node.span) stop := by
  induction ts generalizing pos with
  | nil => exact h
  | cons t ts ih => exact ⟨h.1, ih h.2.2⟩

theorem Reads.placed {source : List Char} {p : Place} {ts : List Token} {items : List Item}
    (h : Reads p ts items) {pos stop : Nat} (hc : Contiguous pos ts stop)
    (lies : ∀ t ∈ ts, t.Lies source) : ∀ item ∈ items, item.Placed source := by
  induction h generalizing pos stop with
  | nil => simp
  | @text _ t ts items _ _ ih =>
    refine List.forall_mem_cons.mpr ⟨?_, ih hc.2.2 fun u hu => lies u (by simp [hu])⟩
    intro node hn
    obtain rfl := Option.some.inj hn
    exact (lies t (by simp)).textNode
  | @slash t ts items hk _ ih =>
    refine List.forall_mem_cons.mpr ⟨?_, ih hc.2.2 fun u hu => lies u (by simp [hu])⟩
    obtain ⟨width, stands⟩ := (lies t (by simp)).stands (by rw [hk]; rfl) (by rw [hk]; rfl)
    exact ⟨stands, width⟩
  | @optional p first last inside ts within items hf hin hl _ ihin ih =>
    obtain ⟨start, -, rest⟩ := hc
    obtain ⟨mid, before, final, -, after⟩ := Contiguous.append.mp rest
    refine List.forall_mem_cons.mpr ⟨?_, ih after fun u hu => lies u (by simp [hu])⟩
    obtain ⟨width, opens⟩ := (lies first (by simp)).stands (by rw [hf]; rfl) (by rw [hf]; rfl)
    obtain ⟨width', closes⟩ := (lies last (by simp)).stands (by rw [hl]; rfl) (by rw [hl]; rfl)
    intro node hn
    obtain rfl := Option.some.inj hn
    rw [width']
    refine .optional opens closes
      (placed_filterMap (ihin before fun u hu => lies u (by simp [hu]))) ?_
    rw [← width, final]
    exact (hin.adjoin before).tile hin.optional_free
  | @parameter p first last name ts items hf hn hl _ ih =>
    obtain ⟨start, -, rest⟩ := hc
    obtain ⟨mid, before, final, -, after⟩ := Contiguous.append.mp rest
    refine List.forall_mem_cons.mpr ⟨?_, ih after fun u hu => lies u (by simp [hu])⟩
    obtain ⟨width, opens⟩ := (lies first (by simp)).stands (by rw [hf]; rfl) (by rw [hf]; rfl)
    obtain ⟨width', closes⟩ := (lies last (by simp)).stands (by rw [hl]; rfl) (by rw [hl]; rfl)
    intro node hn
    obtain rfl := Option.some.inj hn
    rw [width']
    refine .parameter opens closes ?_ ?_
    · intro child hc
      obtain ⟨t, ht, rfl⟩ := List.mem_map.mp hc
      exact (lies t (by simp [ht])).textNode
    · rw [← width, final]
      exact before.tile

/-! ## Placed trees -/

theorem Adjoin.append {start mid stop : Nat} {xs ys : List Item} (h : Adjoin start xs mid)
    (g : Adjoin mid ys stop) : Adjoin start (xs ++ ys) stop := by
  induction xs generalizing start with
  | nil =>
    obtain rfl : start = mid := h
    exact g
  | cons x xs ih => exact ⟨h.1, h.2.1, ih h.2.2⟩

theorem Adjoin.alternative {source : List Char} {start stop : Nat} {items : List Item}
    (h : Adjoin start items stop) (free : ∀ item ∈ items, item.isSlash = false)
    (placed : ∀ item ∈ items, item.Placed source) :
    Template.Placed source (.branch .alternative (items.filterMap Item.node?) ⟨start, stop⟩) :=
  .alternative (placed_filterMap placed) (h.tile free)

/-- The alternatives that begin with the items `before` and go on with `items`. -/
theorem alternatives_placed {source : List Char} {left mid stop : Nat} {before items : List Item}
    (first : Adjoin left before mid) (free : ∀ item ∈ before, item.isSlash = false)
    (rest : Adjoin mid items stop) (earlier : ∀ item ∈ before, item.Placed source)
    (later : ∀ item ∈ items, item.Placed source) :
    (∀ node ∈ alternatives left stop (before.filterMap Item.node?).reverse (items.map Item.piece),
      Template.Placed source node) ∧
    TileBetween source left ((alternatives left stop (before.filterMap Item.node?).reverse
      (items.map Item.piece)).map Node.span) stop := by
  induction items generalizing left mid before with
  | nil =>
    obtain rfl : mid = stop := rest
    simp only [List.map_nil, alternatives, List.reverse_reverse, List.mem_singleton, forall_eq]
    exact ⟨first.alternative free earlier, rfl⟩
  | cons item items ih =>
    obtain ⟨start, longer, after⟩ := rest
    obtain ⟨here, others⟩ := List.forall_mem_cons.mp later
    cases hs : item.isSlash with
    | true =>
      obtain ⟨t, rfl⟩ : ∃ t, item = .slash t := by cases item <;> simp [Item.isSlash] at hs ⊢
      obtain ⟨stands, width⟩ := here
      obtain rfl : t.span.start = mid := start
      obtain ⟨inner, spans⟩ := @ih t.span.stop t.span.stop [] rfl (by simp) after (by simp) others
      simp only [List.map_cons, Item.piece, alternatives, List.reverse_reverse]
      refine ⟨List.forall_mem_cons.mpr ⟨first.alternative free earlier, inner⟩, ?_⟩
      exact .cons rfl stands (width ▸ spans)
    | false =>
      obtain ⟨n, hp, hn⟩ : ∃ n, item.piece = .node n ∧ item.node? = some n := by
        cases item <;> simp [Item.isSlash, Item.piece, Item.node?] at hs ⊢
      have rest := ih (first.append ⟨start, longer, rfl⟩ : Adjoin left (before ++ [item]) _)
        (List.forall_mem_append.mpr ⟨free, by simpa using hs⟩) after
        (List.forall_mem_append.mpr ⟨earlier, by simpa using here⟩) others
      simpa only [List.map_cons, hp, alternatives, List.filterMap_append, List.filterMap_cons, hn,
        List.filterMap_nil, List.reverse_append, List.reverse_singleton,
        List.singleton_append] using rest

theorem nodesOfRun_placed {source : List Char} {start stop : Nat} {run : List Item}
    (h : Adjoin start run stop) (placed : ∀ item ∈ run, item.Placed source) :
    (∀ node ∈ nodesOfRun run, Template.Placed source node) ∧
    Tile start ((nodesOfRun run).map Node.span) stop := by
  cases hs : run.any Item.isSlash with
  | false =>
    have free : ∀ item ∈ run, item.isSlash = false := by simpa using hs
    rw [nodesOfRun_free free]
    exact ⟨placed_filterMap placed, h.tile free⟩
  | true =>
    have whole := h.extent (by rintro rfl; simp at hs)
    have inside := @alternatives_placed source start start stop [] run rfl (by simp) h (by simp)
      placed
    simp only [List.filterMap_nil, List.reverse_nil, alternatives_run whole] at inside
    simp only [nodesOfRun, hs, if_true, whole, List.mem_singleton, forall_eq]
    exact ⟨.alternation inside.1 inside.2, rfl, rfl⟩

theorem nodesOf_placed {source : List Char} {start mid stop : Nat} {run items : List Item}
    (h : Adjoin start run mid) (g : Adjoin mid items stop)
    (earlier : ∀ item ∈ run, item.Placed source) (later : ∀ item ∈ items, item.Placed source) :
    (∀ node ∈ nodesOf run items, Template.Placed source node) ∧
    Tile start ((nodesOf run items).map Node.span) stop := by
  induction items generalizing start mid run with
  | nil =>
    obtain rfl : mid = stop := g
    exact nodesOfRun_placed h earlier
  | cons item items ih =>
    obtain ⟨first, longer, after⟩ := g
    obtain ⟨here, others⟩ := List.forall_mem_cons.mp later
    rw [nodesOf]
    split
    · rename_i cut
      obtain ⟨before, tile⟩ := nodesOfRun_placed h earlier
      obtain ⟨rest, tile'⟩ := @ih item.span.stop item.span.stop [] rfl after (by simp) others
      have single : Adjoin mid [item] item.span.stop := ⟨first, longer, rfl⟩
      have free : ∀ i ∈ [item], i.isSlash = false := by
        cases item <;> simp [Item.isSlash, Item.isCut, Item.kind] at cut ⊢
      have node := single.tile free
      have own : ∀ node ∈ item.node?.toList, Template.Placed source node := by
        intro node hn
        exact here.node (by simpa using hn)
      rw [List.map_append, List.map_append]
      refine ⟨List.forall_mem_append.mpr ⟨List.forall_mem_append.mpr ⟨before, own⟩, rest⟩,
        (tile.append ?_).append tile'⟩
      cases hn : item.node? <;> simpa [hn] using node
    · exact ih (h.append ⟨first, longer, rfl⟩ : Adjoin start (run ++ [item]) _) after
        (List.forall_mem_append.mpr ⟨earlier, by simpa using here⟩) others

theorem parse_placed {source : List Char} {root : Node} (h : parse source = .ok root) :
    Placed source root := by
  obtain ⟨tokens, items, -, tokenized, reads, rfl⟩ := parse_ok h
  obtain ⟨inside, tile⟩ := @nodesOf_placed source 0 0 source.length [] items rfl
    (reads.adjoin tokenized.contiguous) (by simp) (reads.placed tokenized.contiguous tokenized.lies)
  exact .expression inside tile

/-! ## Fragments -/

/-- A part of a template: what stands at a leaf, or a delimiter. -/
inductive Fragment where
  | leaf (span : Span)
  | delimiter (c : Char)

namespace Fragment

/-- The part of the template that a fragment stands for. -/
def written (source : List Char) : Fragment → List Char
  | leaf span => slice source span
  | delimiter c => [c]

/-- What is left of a fragment without delimiters and escaping backslashes. -/
def kept (source : List Char) : Fragment → List Char
  | leaf span => unescape (slice source span)
  | delimiter _ => []

end Fragment

namespace Node

mutual

/-- The leaves of a node from left to right, with the delimiters around them. -/
def fragments : Node → List Fragment
  | text _ span => [.leaf span]
  | branch .optional children _ => .delimiter '(' :: (fragmentsAll children ++ [.delimiter ')'])
  | branch .parameter children _ =>
    .delimiter '\x7b' :: (fragmentsAll children ++ [.delimiter '\x7d'])
  | branch .alternation children _ => fragmentsBetween children
  | branch .alternative children _ => fragmentsAll children
  | branch .expression children _ => fragmentsAll children

def fragmentsAll : List Node → List Fragment
  | [] => []
  | node :: nodes => fragments node ++ fragmentsAll nodes

/-- The fragments of nodes with a slash between each two. -/
def fragmentsBetween : List Node → List Fragment
  | [] => []
  | node :: nodes =>
    match nodes with
    | [] => fragments node
    | _ :: _ => fragments node ++ .delimiter '/' :: fragmentsBetween nodes

end

end Node

theorem slice_append_slice (source : List Char) {a b c : Nat} (hab : a ≤ b) (hbc : b ≤ c) :
    slice source ⟨a, b⟩ ++ slice source ⟨b, c⟩ = slice source ⟨a, c⟩ := by
  have later : source.drop b = (source.drop a).drop (b - a) := by
    rw [List.drop_drop]
    congr 1
    omega
  simp only [slice, later]
  rw [← List.take_add]
  congr 1
  omega

@[simp] theorem slice_self (source : List Char) (pos : Nat) : slice source ⟨pos, pos⟩ = [] := by
  simp [slice]

theorem StandsAt.slice_eq {source : List Char} {pos : Nat} {c : Char} (h : StandsAt source pos c) :
    slice source ⟨pos, pos + 1⟩ = [c] := by
  obtain ⟨before, after, rfl, rfl, -⟩ := h
  simp [slice]

/-- What the fragments of a node are to the template. -/
structure Faithful (source : List Char) (node : Node) : Prop where
  ordered : node.span.start ≤ node.span.stop
  written : node.fragments.flatMap (Fragment.written source) = slice source node.span
  kept : node.fragments.flatMap (Fragment.kept source) = node.textOf

theorem Tile.faithful {source : List Char} {start stop : Nat} {nodes : List Node}
    (h : Tile start (nodes.map Node.span) stop) (each : ∀ node ∈ nodes, Faithful source node) :
    start ≤ stop ∧
    (Node.fragmentsAll nodes).flatMap (Fragment.written source) = slice source ⟨start, stop⟩ ∧
    (Node.fragmentsAll nodes).flatMap (Fragment.kept source) = Node.textOfAll nodes := by
  induction nodes generalizing start with
  | nil =>
    obtain rfl : start = stop := h
    simp [Node.fragmentsAll, Node.textOfAll]
  | cons node nodes ih =>
    obtain ⟨rfl, rest⟩ := h
    obtain ⟨first, others⟩ := List.forall_mem_cons.mp each
    obtain ⟨ordered, written, kept⟩ := ih rest others
    refine ⟨Nat.le_trans first.ordered ordered, ?_, ?_⟩
    · rw [Node.fragmentsAll, List.flatMap_append, first.written, written]
      exact slice_append_slice source first.ordered ordered
    · rw [Node.fragmentsAll, List.flatMap_append, first.kept, kept, Node.textOfAll]

theorem TileBetween.faithful {source : List Char} {start stop : Nat} {nodes : List Node}
    (h : TileBetween source start (nodes.map Node.span) stop)
    (each : ∀ node ∈ nodes, Faithful source node) :
    start ≤ stop ∧
    (Node.fragmentsBetween nodes).flatMap (Fragment.written source) = slice source ⟨start, stop⟩ ∧
    (Node.fragmentsBetween nodes).flatMap (Fragment.kept source) = Node.textOfAll nodes := by
  induction nodes generalizing start with
  | nil => cases h
  | cons node nodes ih =>
    obtain ⟨first, others⟩ := List.forall_mem_cons.mp each
    cases nodes with
    | nil =>
      have whole : node.span = ⟨start, stop⟩ := h
      have ordered := first.ordered
      rw [whole] at ordered
      exact ⟨ordered, whole ▸ first.written, by
        simpa [Node.fragmentsBetween, Node.textOfAll] using first.kept⟩
    | cons next nodes =>
      obtain ⟨rfl, stands, rest⟩ := h
      obtain ⟨ordered, written, kept⟩ := ih rest others
      have before := first.ordered
      have last := Nat.le_trans (Nat.le_succ node.span.stop) ordered
      rw [Node.fragmentsBetween, List.flatMap_append, List.flatMap_append, List.flatMap_cons,
        List.flatMap_cons, first.written, written, first.kept, kept]
      refine ⟨Nat.le_trans before last, ?_, by simp [Fragment.kept, Node.textOfAll]⟩
      rw [Fragment.written, ← stands.slice_eq, slice_append_slice source (Nat.le_succ _) ordered]
      exact slice_append_slice source before last

/-- Nodes that stand side by side between two delimiters. -/
theorem Tile.delimited {source : List Char} {start stop : Nat} {opener closer : Char}
    {nodes : List Node} (opens : StandsAt source start opener) (closes : StandsAt source stop closer)
    (h : Tile (start + 1) (nodes.map Node.span) stop) (each : ∀ node ∈ nodes, Faithful source node)
    {fragments : List Fragment} (same : fragments =
      .delimiter opener :: (Node.fragmentsAll nodes ++ [.delimiter closer])) :
    start ≤ stop + 1 ∧
    fragments.flatMap (Fragment.written source) = slice source ⟨start, stop + 1⟩ ∧
    fragments.flatMap (Fragment.kept source) = Node.textOfAll nodes := by
  obtain ⟨ordered, written, kept⟩ := h.faithful each
  refine ⟨by omega, ?_, by simp [same, Fragment.kept, kept]⟩
  simp only [same, List.flatMap_cons, List.flatMap_append, written, List.flatMap_nil,
    Fragment.written, ← opens.slice_eq, ← closes.slice_eq, List.append_nil]
  rw [slice_append_slice source ordered (by omega), slice_append_slice source (by omega) (by omega)]

theorem Placed.faithful {source : List Char} {node : Node} (h : Placed source node) :
    Faithful source node := by
  induction h with
  | text longer _ same =>
    exact ⟨Nat.le_of_lt longer, by simp [Node.fragments, Fragment.written, Node.span],
      by simp [Node.fragments, Fragment.kept, Node.textOf, same]⟩
  | optional opens closes _ tile ih =>
    obtain ⟨ordered, written, kept⟩ := tile.delimited opens closes ih (Node.fragments.eq_2 ..)
    exact ⟨ordered, written, by rw [kept, Node.textOf]⟩
  | parameter opens closes _ tile ih =>
    obtain ⟨ordered, written, kept⟩ := tile.delimited opens closes ih (Node.fragments.eq_3 ..)
    exact ⟨ordered, written, by rw [kept, Node.textOf]⟩
  | alternative _ tile ih =>
    obtain ⟨ordered, written, kept⟩ := tile.faithful ih
    exact ⟨ordered, by rw [Node.fragments, written, Node.span],
      by rw [Node.fragments, kept, Node.textOf]⟩
  | alternation _ tile ih =>
    obtain ⟨ordered, written, kept⟩ := tile.faithful ih
    exact ⟨ordered, by rw [Node.fragments, written, Node.span],
      by rw [Node.fragments, kept, Node.textOf]⟩
  | expression _ tile ih =>
    obtain ⟨ordered, written, kept⟩ := tile.faithful ih
    exact ⟨ordered, by rw [Node.fragments, written, Node.span],
      by rw [Node.fragments, kept, Node.textOf]⟩

/-- The nodes of a template that parses share out its text: the template is its fragments, and its
text is what they leave without delimiters and escaping backslashes. -/
theorem parse_tiles {source : List Char} {root : Node} (h : parse source = .ok root) :
    root.span = ⟨0, source.length⟩ ∧ Placed source root ∧
    source = root.fragments.flatMap (Fragment.written source) ∧
    root.textOf = root.fragments.flatMap (Fragment.kept source) := by
  have placed := parse_placed h
  have faithful := placed.faithful
  obtain ⟨-, items, -, -, -, rfl⟩ := parse_ok h
  refine ⟨rfl, placed, ?_, faithful.kept.symm⟩
  rw [faithful.written, Node.span, slice, List.drop_zero, Nat.sub_zero, List.take_length]

theorem parse_tiles_either : Placed ['a', '/', 'b'] (.branch .expression [.branch .alternation
    [.branch .alternative [.text ['a'] ⟨0, 1⟩] ⟨0, 1⟩,
      .branch .alternative [.text ['b'] ⟨2, 3⟩] ⟨2, 3⟩] ⟨0, 3⟩] ⟨0, 3⟩) :=
  (parse_tiles rfl).2.1

end StepExpr.Template
