import StepExpr.Proofs.Group.Scan

/-!
# Where groups stand in a text

The slices of a match are given in bytes, and the search counts characters.

* `Slice.Cuts`: a slice is the part of a text between its two ends;
* `Group.TookPart`: a group took up such a part, and the groups inside of it did so within;
* `filled_of_laid`: trees whose groups are laid side by side are filled in with groups that took part
  side by side;
* `Matcher.groups_mirror`: the groups of a matcher are those of its pattern.
-/

namespace StepExpr

open GroupTree

variable {text : List Char} {i j n : Nat}

/-! ## Bytes -/

@[simp] theorem byteLength_append (s t : List Char) :
    byteLength (s ++ t) = byteLength s + byteLength t := by
  induction s with
  | nil => simp [byteLength]
  | cons c s ih =>
    simp only [List.cons_append, byteLength, List.foldr_cons] at ih ⊢
    omega

theorem byteLength_take_mono (text : List Char) (h : i ≤ j) :
    byteLength (text.take i) ≤ byteLength (text.take j) := by
  obtain ⟨k, rfl⟩ := Nat.exists_eq_add_of_le h
  rw [List.take_add, byteLength_append]
  exact Nat.le_add_right _ _

theorem size_utf8Encode (text : List Char) : text.utf8Encode.size = byteLength text := by
  induction text with
  | nil => rfl
  | cons c text ih =>
    have first : [c].utf8Encode.size = c.utf8Size := by
      rw [List.utf8Encode_singleton, List.size_toByteArray, String.length_utf8EncodeChar]
    rw [List.utf8Encode_cons, ByteArray.size_append, ih, first]
    rfl

theorem stop_sliceOf (text : List Char) (i j : Nat) :
    (sliceOf text i j).stop = byteLength (text.take (max i j)) := by
  have last : max i j = i + (j - i) := by omega
  rw [last, List.take_add, byteLength_append]
  rfl

/-- The slice is what is between its ends in the text. -/
structure Slice.Cuts (s : Slice) (text : List Char) : Prop where
  ordered : s.start ≤ s.stop
  within : s.stop ≤ (String.ofList text).utf8ByteSize
  bytes : (String.ofList text).toUTF8.extract s.start s.stop = s.text.toUTF8

theorem cuts_of_parts (before inside behind : List Char) :
    Slice.Cuts ⟨String.ofList inside, byteLength before, byteLength before + byteLength inside⟩
      (before ++ (inside ++ behind)) := by
  have size (text : List Char) : (String.ofList text).utf8ByteSize = byteLength text := by
    rw [← String.size_toByteArray, String.toByteArray_ofList, size_utf8Encode]
  refine ⟨Nat.le_add_right _ _, ?_, ?_⟩
  · simp only [size, byteLength_append]
    omega
  · simp only [String.toUTF8_eq_toByteArray, String.toByteArray_ofList, List.utf8Encode_append]
    rw [← size_utf8Encode before, ← size_utf8Encode inside]
    exact (ByteArray.extract_append_size_add (i := 0)).trans (ByteArray.extract_append_eq_left rfl)

theorem sliceOf_cuts (text : List Char) (i j : Nat) : (sliceOf text i j).Cuts text := by
  have whole := cuts_of_parts (text.take i) ((text.drop i).take (j - i))
    ((text.drop i).drop (j - i))
  rwa [List.take_append_drop, List.take_append_drop] at whole

/-! ## Groups -/

/-- The group took part, and those of the groups inside that did so as well stand within its part of
the text. -/
def Group.TookPart (g : Group) (text : List Char) : Prop :=
  ∃ s, g.slice = some s ∧ s.Cuts text ∧ ∀ t, some t ∈ Group.slicesAll g.children →
    t.Cuts text ∧ s.start ≤ t.start ∧ t.stop ≤ s.stop

/-- All of `g` stands before all of `h`. -/
def Group.Before (g h : Group) : Prop :=
  ∀ s ∈ g.slice, ∀ t ∈ h.slice, s.stop ≤ t.start

variable {span : Nat → Option (Nat × Nat)}

/-- Where the groups of a match stand, by their numbers. -/
def sliceAt (span : Nat → Option (Nat × Nat)) (text : List Char) (n : Nat) : Option Slice :=
  (span n).map fun (start, stop) => sliceOf text start stop

theorem tookPart_of_span {k l : Nat} {tree : GroupTree} (order : k ≤ l)
    (whole : span n = some (k, l))
    (inside : ∀ m, n < m → m < n + tree.nest.size → ∀ a b, span m = some (a, b) →
      k ≤ a ∧ a ≤ l ∧ k ≤ b ∧ b ≤ l) : (tree.fill (sliceAt span text) n).1.TookPart text := by
  have own : sliceAt span text n = some (sliceOf text k l) := by rw [sliceAt, whole]; rfl
  refine ⟨sliceOf text k l, by rw [slice_fill, own], sliceOf_cuts text k l, fun t there => ?_⟩
  obtain ⟨source, children⟩ := tree
  have numbered : some t ∈
      (List.range' (n + 1) (Nest.sizes (nests children))).map (sliceAt span text) :=
    slices_fillAll (n + 1) children ▸ there
  obtain ⟨m, hm, found⟩ := List.mem_map.mp numbered
  obtain ⟨low, high⟩ := List.mem_range'_1.mp hm
  obtain ⟨⟨a, b⟩, spans, rfl⟩ := Option.map_eq_some_iff.mp found
  obtain ⟨h₁, h₂, h₃, h₄⟩ := inside m low (by simp only [nest, Nest.size]; omega) a b spans
  refine ⟨sliceOf_cuts text a b, byteLength_take_mono text h₁, ?_⟩
  rw [stop_sliceOf, stop_sliceOf]
  exact byteLength_take_mono text (by omega)

theorem filled_of_laid {trees : List GroupTree} (h : Pattern.Laid span n (nests trees) i j) :
    (∀ g ∈ (fillAll (sliceAt span text) n trees).1, g.TookPart text ∧
      ∀ s ∈ g.slice, byteLength (text.take i) ≤ s.start) ∧
    (fillAll (sliceAt span text) n trees).1.Pairwise Group.Before := by
  induction trees generalizing n i with
  | nil => simp [fillAll]
  | cons tree trees ih =>
    obtain ⟨k, l, before, order, whole, inside, later⟩ := h
    have own : (tree.fill (sliceAt span text) n).1.slice = some (sliceOf text k l) := by
      rw [slice_fill, sliceAt, whole]
      rfl
    obtain ⟨each, apart⟩ := ih later
    simp only [fillAll, fill_next, List.forall_mem_cons, List.pairwise_cons]
    refine ⟨⟨⟨tookPart_of_span order whole inside, ?_⟩, ?_⟩, ?_, apart⟩
    · rw [own]
      rintro s ⟨rfl⟩
      exact byteLength_take_mono text before
    · intro g hg
      obtain ⟨part, start⟩ := each g hg
      refine ⟨part, fun s hs => Nat.le_trans (byteLength_take_mono text (by omega)) (start s hs)⟩
    · intro g hg s hs t ht
      rw [own] at hs
      obtain rfl := Option.some.inj hs
      rw [stop_sliceOf, Nat.max_eq_right order]
      exact (each g hg).2 t ht

/-! ## Matches -/

variable {source : List Char} {m : Matcher}

theorem nests_ofPattern {ns : List Nest} (h : Scans source ns) :
    nests (ofPattern source).children = ns := by
  obtain ⟨trees, same, scanned⟩ := h source 0 .whole [] []
  rw [List.append_nil] at scanned
  have all : scanFrom source 0 .start source =
      ⟨false, false, [{ Open.whole with children := [] ++ trees }]⟩ := scanned
  rw [ofPattern, all]
  simpa [GroupTree.children] using same

theorem Matcher.groups_of_compile? (h : compile? source = some m) :
    m.groups = ofPattern source := by
  obtain ⟨r, -, rfl⟩ := Option.map_eq_some_iff.mp h
  rfl

/-- The groups of a matcher nest as those of its pattern do, are numbered like these, and have in
each match the slices of these. -/
theorem Matcher.groups_mirror {p : Pattern} (scannable : Pattern.Scannable source)
    (parsed : Pattern.parse? source = some p) (defined : p.Defined .initial)
    (compiled : compile? source = some m) :
    ∃ q r, Pattern.parse? (narrowDigits source) = some q ∧ q.regex? = some r ∧
      m.program = r.program ∧ r.Numbered 1 (1 + Nest.sizes q.nests) ∧
      m.groups.nest = .node q.nests ∧
      ∀ text root, m.match? text = some root → ∃ c, r.program.search text.toArray = some c ∧
        root.slices = (List.range (1 + Nest.sizes q.nests)).map (sliceAt c.span? text) := by
  have groups := groups_of_compile? compiled
  obtain ⟨r, found, rfl⟩ := Option.map_eq_some_iff.mp compiled
  obtain ⟨q, narrowed, meaning⟩ := Option.bind_eq_some_iff.mp found
  obtain ⟨meaning, -⟩ := Option.filter_eq_some_iff.mp meaning
  obtain ⟨ls, q', cuts, built, scans⟩ := scannable.scans parsed defined
  obtain ⟨ls', cut, built', -⟩ := Pattern.parse?_eq_some_iff.mp narrowed
  obtain rfl := Option.some.inj (cuts.scan?.symm.trans cut)
  obtain rfl := Option.some.inj (built.symm.trans built')
  have nests : (ofPattern source).nest = .node q'.nests := by
    rw [← nests_ofPattern scans]
    cases ofPattern source
    rfl
  refine ⟨q', r, narrowed, meaning, rfl, ?_, groups ▸ nests, fun text root matched => ?_⟩
  · obtain ⟨⟨branches, after, next⟩, numbers, rfl⟩ := Option.map_eq_some_iff.mp meaning
    obtain ⟨rfl, numbered⟩ := Pattern.numbered_of_branchesFrom? numbers
    exact Regex.obeys_alternation numbered
  · obtain ⟨c, searched, rfl⟩ := Option.map_eq_some_iff.mp matched
    refine ⟨c, searched, ?_⟩
    rw [List.range_eq_range']
    have size : (ofPattern source).nest.size = 1 + Nest.sizes q'.nests := by
      rw [nests, Nest.size, Nat.add_comm]
    rw [← size]
    exact slices_fill 0 (ofPattern source)

theorem Matcher.groups_mirror_nested : ∃ m, compile? "a(b(c)?)".toList = some m ∧
    m.groups.nest = .node [.node [.node []]] ∧
    ∀ text root, m.match? text = some root → ∃ c, m.program.search text.toArray = some c ∧
      root.slices = (List.range 3).map (sliceAt c.span? text) := by
  have tame : Pattern.Tame "a(b(c)?)".toList :=
    Pattern.tame_of_scan? rfl (by simp [Pattern.Lexeme.Quiet, Pattern.Lexeme.NamesNoBracket])
  have scannable : Pattern.Scannable "a(b(c)?)".toList :=
    @Pattern.scannable_of_flat _ 9 tame rfl
  have made : (compile? "a(b(c)?)".toList).isSome = true := by decide +kernel
  obtain ⟨m, compiled⟩ := Option.isSome_iff_exists.mp made
  obtain ⟨p, parsed, defined⟩ : ∃ p, Pattern.parse? "a(b(c)?)".toList = some p ∧
      p.Defined .initial := ⟨_, rfl, rfl, rfl, rfl⟩
  have nests : (Pattern.parse? (narrowDigits "a(b(c)?)".toList)).map Pattern.nests =
      some [.node [.node []]] := rfl
  obtain ⟨q, r, narrowed, -, program, -, nest, each⟩ :=
    groups_mirror scannable parsed defined compiled
  rw [narrowed] at nests
  rw [Option.some.inj nests] at nest each
  exact ⟨m, compiled, nest, program ▸ each⟩

end StepExpr
