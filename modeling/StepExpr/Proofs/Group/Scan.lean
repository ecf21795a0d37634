import StepExpr.Proofs.Group.Skip
import StepExpr.Proofs.Regex.Groups

/-!
# Scanning patterns

The scan for groups keeps a stack of open groups, as the construction of a pattern does. Lexeme by
lexeme the two hold the same groups, so the tree that is scanned has the groups of the pattern that
is built.

* `Scans`: the scan of a piece adds groups that nest in a given way to the group that is open;
* `Mirrors` relates the two stacks;
* `Pattern.Scannable.scans`: a pattern whose classes the scan takes for what they are is scanned with
  its own groups.
-/

namespace StepExpr

open Pattern GroupTree

variable {s t : List Char} {ns ms : List Nest}

/-! ## Pieces -/

/-- The scan of `s` adds groups that nest as `ns` to the group that is open, and changes nothing
else. -/
def Scans (s : List Char) (ns : List Nest) : Prop :=
  ∀ pattern pos (group : Open) outer rest, ∃ trees, GroupTree.nests trees = ns ∧
    GroupTree.scanFrom pattern pos ⟨false, false, group :: outer⟩ (s ++ rest) =
      GroupTree.scanFrom pattern (pos + s.length)
        ⟨false, false, { group with children := group.children ++ trees } :: outer⟩ rest

namespace Scans

theorem of_skips (h : Skips false s false) : Scans s [] := by
  intro pattern pos group outer rest
  refine ⟨[], rfl, ?_⟩
  rw [List.append_nil]
  exact h pattern pos _ rest

theorem append (h : Scans s ns) (g : Scans t ms) : Scans (s ++ t) (ns ++ ms) := by
  intro pattern pos group outer rest
  obtain ⟨trees, same, first⟩ := h pattern pos group outer (t ++ rest)
  obtain ⟨others, same', second⟩ := g pattern (pos + s.length)
    { group with children := group.children ++ trees } outer rest
  refine ⟨trees ++ others, by rw [GroupTree.nests_append, same, same'], ?_⟩
  rw [List.append_assoc, first, second, List.length_append, Nat.add_assoc, List.append_assoc]

/-- What stands between the parentheses of a group is scanned into it. -/
theorem close (h : Scans s ns) (pattern : List Char) (pos start : Nat) (capturing : Bool)
    (group : Open) (outer : List Open) (rest : List Char) :
    ∃ trees, GroupTree.nests trees = (if capturing then [.node ns] else ns) ∧
      GroupTree.scanFrom pattern pos ⟨false, false, ⟨some start, capturing, []⟩ :: group :: outer⟩
          (s ++ ')' :: rest) =
        GroupTree.scanFrom pattern (pos + s.length + 1)
          ⟨false, false, { group with children := group.children ++ trees } :: outer⟩ rest := by
  obtain ⟨trees, same, inside⟩ :=
    h pattern pos ⟨some start, capturing, []⟩ (group :: outer) (')' :: rest)
  rw [inside]
  cases capturing with
  | true =>
    refine ⟨_, ?_, rfl⟩
    simp [GroupTree.nests, GroupTree.nest, same]
  | false => exact ⟨trees, by simpa using same, rfl⟩

theorem capture (h : Scans s ns) (front : s.head? ≠ some '?') :
    Scans ("(".toList ++ (s ++ ")".toList)) [.node ns] := by
  intro pattern pos group outer rest
  have bare : GroupTree.isPlain (s ++ ')' :: rest) = false := by
    refine isPlain_bare ?_
    cases s with
    | nil => simp
    | cons c s => exact front
  obtain ⟨trees, same, inside⟩ := h.close pattern (pos + 1) (pos + 1) true group outer rest
  refine ⟨trees, by simpa using same, ?_⟩
  have whole : "(".toList ++ (s ++ ")".toList) ++ rest = '(' :: (s ++ ')' :: rest) := by simp
  have stop : pos + ("(".toList ++ (s ++ ")".toList)).length = pos + 1 + s.length + 1 := by
    simp only [List.length_append, String.reduceToList, List.length_cons, List.length_nil]
    omega
  rw [whole, scan_opening, bare, Bool.not_false, inside, stop]

theorem plain (h : Scans s ns) : Scans ("(?:".toList ++ (s ++ ")".toList)) ns := by
  intro pattern pos group outer rest
  obtain ⟨trees, same, inside⟩ := h.close pattern (pos + 1 + 2) (pos + 1) false group outer rest
  refine ⟨trees, by simpa using same, ?_⟩
  have whole : "(?:".toList ++ (s ++ ")".toList) ++ rest =
      '(' :: (['?', ':'] ++ (s ++ ')' :: rest)) := by
    simp
  have stop : pos + ("(?:".toList ++ (s ++ ")".toList)).length = pos + 1 + 2 + s.length + 1 := by
    simp only [List.length_append, String.reduceToList, List.length_cons, List.length_nil]
    omega
  have marks : Skips false ['?', ':'] false := .inner (isInner_of_all rfl)
  have noCapture : GroupTree.isPlain (['?', ':'] ++ (s ++ ')' :: rest)) = true := rfl
  rw [whole, scan_opening, noCapture, Bool.not_true, marks, stop]
  exact inside

theorem optional (h : Scans s ns) : Scans ("(?:".toList ++ (s ++ ")?".toList)) ns := by
  have mark : Scans ['?'] [] := .of_skips (.single (by decide))
  simpa using h.plain.append mark

end Scans

/-! ## The two stacks -/

namespace Pattern

variable {group : Open} {outs : List (GroupKind × OpenGroup)} {inner around : OpenGroup}
  {frames outer : List Open} {p : Pattern} {k : GroupKind}

/-- The groups in what is finished of an open group. -/
def OpenGroup.nests (o : OpenGroup) : List Nest :=
  (o.branches.reverse ++ o.items.reverse).flatMap Pattern.nests

@[simp] theorem OpenGroup.nests_push (o : OpenGroup) (p : Pattern) :
    (o.push p).nests = o.nests ++ p.nests := by
  simp [OpenGroup.nests, OpenGroup.push]

@[simp] theorem OpenGroup.nests_branch (o : OpenGroup) : o.branch.nests = o.nests := by
  simp [OpenGroup.nests, OpenGroup.branch, nests_catOf]

theorem OpenGroup.nests_content (o : OpenGroup) : o.content.nests = o.nests := by
  rw [← nests_branch, OpenGroup.content, nests_altOf]
  simp [OpenGroup.nests, OpenGroup.branch]

/-- The scanned groups of `frames` are those of the open groups of a pattern, which are built inside
of `group`. -/
inductive Mirrors (group : Open) : List (GroupKind × OpenGroup) → OpenGroup → List Open → Prop where
  | base {inner : OpenGroup} {trees : List GroupTree} (same : GroupTree.nests trees = inner.nests) :
      Mirrors group [] inner [{ group with children := group.children ++ trees }]
  | inside {k : GroupKind} {around inner : OpenGroup} {outs : List (GroupKind × OpenGroup)}
      {frames : List Open} {start : Nat} {trees : List GroupTree}
      (same : GroupTree.nests trees = inner.nests) (below : Mirrors group outs around frames) :
      Mirrors group ((k, around) :: outs) inner (⟨some start, k.captures, trees⟩ :: frames)

theorem Mirrors.congr {inner' : OpenGroup} (h : Mirrors group outs inner frames)
    (same : inner'.nests = inner.nests) : Mirrors group outs inner' frames := by
  cases h with
  | base nests => exact .base (nests.trans same.symm)
  | inside nests below => exact .inside (nests.trans same.symm) below

theorem Mirrors.exists_cons (h : Mirrors group outs inner frames) :
    ∃ top below, frames = top :: below := by
  cases h with
  | base => exact ⟨_, _, rfl⟩
  | inside => exact ⟨_, _, rfl⟩

/-- The innermost group ends. -/
theorem Mirrors.close (h : Mirrors group ((k, around) :: outs) inner frames) (pattern : List Char)
    (pos : Nat) (outer : List Open) : ∃ frames',
      GroupTree.close pattern pos (frames ++ outer) = frames' ++ outer ∧
      Mirrors group outs (around.push (.group k inner.content)) frames' := by
  obtain - | ⟨same, below⟩ := h
  rename_i below' start trees
  have found : ∃ found, (∀ parent more, GroupTree.close pattern pos
        (⟨some start, k.captures, trees⟩ :: parent :: more) =
          { parent with children := parent.children ++ found } :: more) ∧
      GroupTree.nests found = (Pattern.group k inner.content).nests := by
    cases k with
    | capturing name =>
      refine ⟨_, fun parent more => rfl, ?_⟩
      simp [GroupTree.nests, GroupTree.nest, Pattern.nests, OpenGroup.nests_content, same,
        GroupKind.captures]
    | plain changes =>
      refine ⟨trees, fun parent more => rfl, ?_⟩
      rw [same, Pattern.nests, OpenGroup.nests_content]
  obtain ⟨found, closes, nests⟩ := found
  cases below with
  | @base _ trees' same' =>
    refine ⟨[{ group with children := group.children ++ (trees' ++ found) }], ?_, .base ?_⟩
    · exact (closes _ _).trans (by simp)
    · rw [GroupTree.nests_append, same', nests, OpenGroup.nests_push]
  | @inside k' _ _ _ frames' start' trees' same' below =>
    refine ⟨⟨some start', k'.captures, trees' ++ found⟩ :: frames', ?_, .inside ?_ below⟩
    · exact closes ⟨some start', k'.captures, trees'⟩ (frames' ++ outer)
    · rw [GroupTree.nests_append, same', nests, OpenGroup.nests_push]

/-! ## Whole patterns -/

/-- A pattern that the scan takes for what it is. -/
structure Scannable (s : List Char) : Prop where
  tame : Tame s
  flat : ∀ ls, Lexeme.scan? s = some ls → ∀ l ∈ ls, l.Flat
  later : ∀ ls d rest, Cuts 0 s ls d ('[' :: rest) → ClosesLater rest

/-- Reads a pattern lexeme by lexeme, and finds all its classes flat and not closed at once. -/
def hasFlatClasses : Nat → List Char → Bool
  | 0, _ => false
  | fuel + 1, s =>
    (s.head? != some '[' || decide (ClosesLater s.tail)) &&
      match readLexeme s with
      | none => true
      | some (l, rest) => decide l.Flat && hasFlatClasses fuel rest

theorem flat_of_cuts {fuel d e : Nat} {ls : List Lexeme} {left : List Char}
    (cuts : Cuts d s ls e left) (checked : hasFlatClasses fuel s = true) :
    (∀ l ∈ ls, l.Flat) ∧ ∀ rest, left = '[' :: rest → ClosesLater rest := by
  induction cuts generalizing fuel with
  | nil d cs =>
    refine ⟨by simp, ?_⟩
    rintro rest rfl
    cases fuel with
    | zero => cases checked
    | succ fuel => exact of_decide_eq_true (Bool.and_eq_true_iff.mp checked).1
  | cons first _ _ _ ih =>
    cases fuel with
    | zero => cases checked
    | succ fuel =>
      simp only [hasFlatClasses, first, Bool.and_eq_true, decide_eq_true_eq] at checked
      obtain ⟨-, flat, others⟩ := checked
      obtain ⟨each, last⟩ := ih others
      exact ⟨List.forall_mem_cons.mpr ⟨flat, each⟩, last⟩

theorem scannable_of_flat {fuel : Nat} (tame : Tame s) (checked : hasFlatClasses fuel s = true) :
    Scannable s := by
  refine ⟨tame, fun ls cut => ?_, fun ls d rest cuts => (flat_of_cuts cuts checked).2 rest rfl⟩
  obtain ⟨e, cuts⟩ := exists_cuts (d := 0) (fun l hl => (tame ls cut l hl).1) cut
  exact (flat_of_cuts cuts checked).1

theorem cuts_nil {d e : Nat} {ls : List Lexeme} (h : Cuts d [] ls e []) : d = e := by
  cases h with
  | nil => rfl
  | cons first => cases first

/-- A lexeme does the same to the groups of the construction and to those of the scan. -/
theorem Mirrors.step {l l' : Lexeme} {ls' : List Lexeme} (mirrors : Mirrors group outs inner frames)
    (alike : l.Alike l') (built : Builds p outs inner (l' :: ls')) (pattern : List Char) (pos : Nat)
    (outer : List Open) :
    ∃ outs' inner' frames', Builds p outs' inner' ls' ∧ Mirrors group outs' inner' frames' ∧
      l.effect pattern pos (frames ++ outer) = frames' ++ outer ∧
      l.depth? outs.length = some outs'.length := by
  cases alike with
  | atoms =>
    obtain - | others := built
    exact ⟨_, _, _, others, mirrors.congr (by simp [Pattern.nests]), rfl, rfl⟩
  | same =>
    cases built with
    | atom others | flags others =>
      exact ⟨_, _, _, others, mirrors.congr (by simp [Pattern.nests]), rfl, rfl⟩
    | bar others => exact ⟨_, _, _, others, mirrors.congr (by simp), rfl, rfl⟩
    | rounds _ others =>
      exact ⟨_, _, _, others, mirrors.congr (by simp [OpenGroup.nests, Pattern.nests]), rfl, rfl⟩
    | opening others => exact ⟨_, _, _, others, .inside (by rfl) mirrors, rfl, rfl⟩
    | closing others =>
      obtain ⟨frames', closes, mirrors'⟩ := mirrors.close pattern pos outer
      exact ⟨_, _, _, others, mirrors', closes, rfl⟩

/-- What follows the opening of a group in a cut is no question mark. -/
theorem bare_of_cuts {d e f : Nat} {cs mid : List Char} {l : Lexeme} {ls : List Lexeme}
    (named : l.NamesNoBracket) (legible : l.Legible) (first : readLexeme cs = some (l, mid))
    (grows : l.depth? d = some e) (others : Cuts e mid ls f []) (closed : f = 0)
    (rest : List Char) (bare : l = .opening (.capturing none)) : (mid ++ rest).head? ≠ some '?' := by
  subst bare closed
  obtain ⟨-, -, -, -, -, -, -, ends, -⟩ := readLexeme_moves named legible first
  cases mid with
  | nil =>
    obtain ⟨rfl⟩ := grows
    cases cuts_nil others
  | cons c mid => exact ends

/-- The scan does step by step what the construction does. -/
theorem Mirrors.scan {d e : Nat} {cs left : List Char} {ls ls' : List Lexeme}
    (cuts : Cuts d cs ls e left) (last : left = []) (closed : e = 0) (depth : d = outs.length)
    (named : ∀ l ∈ ls, l.NamesNoBracket) (legible : ∀ l ∈ ls, l.Legible)
    (flat : ∀ l ∈ ls, l.Flat)
    (later : ∀ ks f rest, Cuts d cs ks f ('[' :: rest) → ClosesLater rest)
    (alike : List.Forall₂ Lexeme.Alike ls ls') (built : Builds p outs inner ls')
    (mirrors : Mirrors group outs inner frames) (pattern : List Char) (pos : Nat)
    (outer : List Open) (rest : List Char) :
    ∃ trees, GroupTree.nests trees = p.nests ∧
      GroupTree.scanFrom pattern pos ⟨false, false, frames ++ outer⟩ (cs ++ rest) =
        GroupTree.scanFrom pattern (pos + cs.length)
          ⟨false, false, { group with children := group.children ++ trees } :: outer⟩ rest := by
  induction cuts generalizing outs inner frames ls' pos with
  | nil d cs =>
    subst last closed
    obtain rfl := List.eq_nil_of_length_eq_zero depth.symm
    cases alike
    obtain ⟨whole⟩ := built
    subst whole
    cases mirrors with
    | @base _ trees same =>
      exact ⟨trees, by rw [same, OpenGroup.nests_content], rfl⟩
  | @cons d e f cs mid left l ls first quiet grows others ih =>
    subst last depth
    obtain ⟨namedFirst, named⟩ := List.forall_mem_cons.mp named
    obtain ⟨legibleFirst, legible⟩ := List.forall_mem_cons.mp legible
    obtain ⟨flatFirst, flat⟩ := List.forall_mem_cons.mp flat
    have laterRest : ∀ ks f rest, Cuts e mid ks f ('[' :: rest) → ClosesLater rest :=
      fun ks f rest cut => later (l :: ks) f rest (.cons first quiet grows cut)
    obtain ⟨chunk, rfl, scanned⟩ := readLexeme_scans namedFirst legibleFirst flatFirst
      (fun rest same => later [] outs.length rest (by rw [same]; exact .nil _ _)) first
    obtain - | ⟨alikeFirst, alikeRest⟩ := alike
    obtain ⟨outs', inner', frames', built', mirrors', effect, size⟩ :=
      mirrors.step alikeFirst built pattern pos outer
    obtain ⟨trees, same, further⟩ := ih rfl closed (Option.some.inj (grows.symm.trans size)) named
      legible flat laterRest alikeRest built' mirrors' (pos + chunk.length)
    obtain ⟨top, below, rfl⟩ := mirrors.exists_cons
    refine ⟨trees, same, ?_⟩
    have bare := bare_of_cuts namedFirst legibleFirst first grows others closed rest
    rw [List.append_assoc, List.cons_append, scanned pattern pos top (below ++ outer) _ bare,
      ← List.cons_append, effect, further, List.length_append, Nat.add_assoc]

/-- A pattern with its digits written out builds a pattern with the groups that the scan sees in the
pattern as it is. -/
theorem Scannable.scans {p : Pattern} (h : Scannable s) (parsed : parse? s = some p)
    (defined : p.Defined .initial) :
    ∃ ls p', CutsInto s ls ∧ build? [] .start ls = some p' ∧ Scans s p'.nests := by
  obtain ⟨ls, ls', p', cut, cuts, legible, alike, piece, built, -⟩ :=
    cuts_of_parse? h.tame parsed defined
  refine ⟨ls', p', piece, built, fun pattern pos group outer rest => ?_⟩
  have start : Mirrors group [] .start [{ group with children := group.children ++ [] }] := .base rfl
  rw [List.append_nil] at start
  exact start.scan cuts rfl rfl rfl (fun l hl => (h.tame ls cut l hl).2) legible (h.flat ls cut)
    h.later alike (builds_of_build? built) pattern pos outer rest

end Pattern

end StepExpr
