import Mathlib.Data.List.Forall2
import StepExpr.Group.Matcher
import StepExpr.Proofs.Group.Digits
import StepExpr.Proofs.Group.Skip

/-!
# Two scans in step

Digits are written out by one scan of a pattern and its groups are found by another. Each knows of
the other only that it takes escapes and classes as it does itself, and what is written out has
brackets of its own.

* `GroupTree.isPlain_narrow` and `GroupTree.skips_narrowEscape`: writing out digits makes no
  difference to a group's head, and adds no group;
* `GroupTree.Tracks`: a group that is open in the pattern and in what is written out, with the text
  inside of the one written out as that of the other;
* `GroupTree.ofPattern_narrowDigits`: so the groups of what is written out are those of the pattern,
  with their texts written out.
-/

namespace StepExpr

namespace GroupTree

variable {b after : Bool} {cs pattern pattern' done done' s t : List Char}

/-! ## Texts of groups -/

mutual

/-- The tree with other texts. -/
def mapSource (f : List Char → List Char) : GroupTree → GroupTree
  | .node source children => .node (f source) (mapSources f children)

def mapSources (f : List Char → List Char) : List GroupTree → List GroupTree
  | [] => []
  | tree :: trees => tree.mapSource f :: mapSources f trees

end

@[simp] theorem mapSources_append (f : List Char → List Char) (ts us : List GroupTree) :
    mapSources f (ts ++ us) = mapSources f ts ++ mapSources f us := by
  induction ts with
  | nil => rfl
  | cons t ts ih => simp [mapSources, ih]

mutual

/-- What the groups of a match are does not depend on their texts in the pattern. -/
theorem fill_mapSource (f : List Char → List Char) (slice : Nat → Option Slice) (index : Nat) :
    ∀ tree : GroupTree, (tree.mapSource f).fill slice index = tree.fill slice index
  | .node source children => by
    simp only [mapSource, fill, fillAll_mapSources f slice (index + 1) children]

theorem fillAll_mapSources (f : List Char → List Char) (slice : Nat → Option Slice) (index : Nat) :
    ∀ trees : List GroupTree,
      fillAll slice index (mapSources f trees) = fillAll slice index trees
  | [] => rfl
  | tree :: trees => by
    simp only [mapSources, fillAll, fill_mapSource f slice index tree,
      fillAll_mapSources f slice _ trees]

end

/-! ## What is written out -/

theorem skips_narrowEscape (b : Bool) (c : Char) : Skips b (narrowEscape b c) b := by
  unfold narrowEscape
  split
  · exact .inner (Pattern.isInner_of_all rfl)
  · have content : Skips true ['0', '-', '9'] true := .inner (Pattern.isInner_of_all rfl)
    exact Skips.opener.append (content.append .closer)
  · have content : Skips true ['^', '0', '-', '9'] true := .inner (Pattern.isInner_of_all rfl)
    exact Skips.opener.append (content.append .closer)
  · exact .escape c

theorem prefix_narrow_iff {w : List Char} (kept : ∀ c ∈ w, IsKept c ∧ c ≠ ']') :
    w <+: narrowDigitsFrom b cs ↔ w <+: cs := by
  constructor
  · exact prefix_of_prefix_narrow fun c hc => (kept c hc).1
  · rintro ⟨rest, rfl⟩
    have plain : Narrows b w w b :=
      .plain fun c hc => ⟨(kept c hc).1.1, (kept c hc).1.2.1, (kept c hc).2⟩
    exact ⟨narrowDigitsFrom b rest, (plain rest).symm⟩

theorem isPlain_iff : isPlain cs = true ↔ ['?'] <+: cs ∧ ¬ ['?', 'P', '<'] <+: cs ∧
    (['?', '<'] <+: cs → ['?', '<', '='] <+: cs ∨ ['?', '<', '!'] <+: cs) := by
  have starts (w : List Char) : w <+: cs ↔ ∃ rest, cs = w ++ rest := by
    simp only [List.IsPrefix, eq_comm]
  simp only [starts]
  unfold isPlain
  split <;> simp_all

/-- Whether a group captures is told by characters that are left as they are. -/
theorem isPlain_narrow (b : Bool) (cs : List Char) :
    isPlain (narrowDigitsFrom b cs) = isPlain cs := by
  have mark (w : List Char) (kept : ∀ c ∈ w, IsKept c ∧ c ≠ ']') := @prefix_narrow_iff b cs w kept
  rw [Bool.eq_iff_iff, isPlain_iff, isPlain_iff, mark ['?'] (by simp [IsKept]),
    mark ['?', 'P', '<'] (by simp [IsKept]), mark ['?', '<'] (by simp [IsKept]),
    mark ['?', '<', '='] (by simp [IsKept]), mark ['?', '<', '!'] (by simp [IsKept])]

/-! ## Open groups -/

/-- A group that is open in a pattern and in what is written out, of which `done` and `done'` are
passed. What was passed in it is written out in full, so `b` says for both whether a class is
open. -/
structure Tracks (b : Bool) (done done' : List Char) (o o' : Open) : Prop where
  capturing : o'.capturing = o.capturing
  children : o'.children = mapSources narrowDigits o.children
  start : o.start.getD 0 ≤ done.length
  start' : o'.start.getD 0 ≤ done'.length
  inside : Narrows false (done.drop (o.start.getD 0)) (done'.drop (o'.start.getD 0)) b

namespace Tracks

variable {o o' : Open}

theorem whole : Tracks false [] [] .whole .whole :=
  ⟨rfl, rfl, Nat.le_refl 0, Nat.le_refl 0, .nil⟩

theorem pass (h : Tracks b done done' o o') (narrows : Narrows b s t after) :
    Tracks after (done ++ s) (done' ++ t) o o' where
  capturing := h.capturing
  children := h.children
  start := by
    rw [List.length_append]
    exact Nat.le_add_right_of_le h.start
  start' := by
    rw [List.length_append]
    exact Nat.le_add_right_of_le h.start'
  inside := by
    rw [List.drop_append_of_le_length h.start, List.drop_append_of_le_length h.start']
    exact h.inside.append narrows

/-- A group that opens behind what was passed. -/
theorem opens (capturing : Bool) : Tracks false done done'
    ⟨some done.length, capturing, []⟩ ⟨some done'.length, capturing, []⟩ where
  capturing := rfl
  children := rfl
  start := Nat.le_refl _
  start' := Nat.le_refl _
  inside := by
    rw [Option.getD_some, Option.getD_some, List.drop_length, List.drop_length]
    exact .nil

/-- The text of a group that ends is written out as the text that is scanned. -/
theorem source (h : Tracks b done done' o o') (rest rest' : List Char) :
    ((done' ++ rest').drop (o'.start.getD 0)).take (done'.length - o'.start.getD 0) =
      narrowDigits
        (((done ++ rest).drop (o.start.getD 0)).take (done.length - o.start.getD 0)) := by
  have text (done rest : List Char) (k : Nat) (within : k ≤ done.length) :
      ((done ++ rest).drop k).take (done.length - k) = done.drop k := by
    rw [List.drop_append_of_le_length within, ← List.length_drop, List.take_left]
  rw [text done rest _ h.start, text done' rest' _ h.start']
  exact h.inside.eq.symm

end Tracks

theorem close_tracks {opened opened' : List Open} {rest rest' : List Char}
    (h : List.Forall₂ (Tracks false done done') opened opened') :
    List.Forall₂ (Tracks false done done')
      (close (done ++ rest) done.length opened) (close (done' ++ rest') done'.length opened') := by
  cases h with
  | nil => exact .nil
  | cons first others =>
    cases others with
    | nil => exact .nil
    | @cons parent parent' _ _ second others =>
      rename_i group group' _ _
      refine .cons { second with children := ?_ } others
      simp only
      rw [mapSources_append, second.children, first.capturing]
      split
      · rw [first.source rest rest']
        simp [mapSources, mapSource, first.children]
      · rw [first.children]

/-! ## Scans -/

/-- Whatever groups are open, the scan of what is left and that of what is written out for it end
with the same groups. -/
def EndAlike (b : Bool) (done done' rest : List Char) : Prop :=
  ∀ opened opened', List.Forall₂ (Tracks b done done') opened opened' →
    List.Forall₂ (fun o o' => o'.children = mapSources narrowDigits o.children)
      (scanFrom (done ++ rest) done.length ⟨false, b, opened⟩ rest).opened
      (scanFrom (done' ++ narrowDigitsFrom b rest) done'.length ⟨false, b, opened'⟩
        (narrowDigitsFrom b rest)).opened

namespace EndAlike

variable {rest : List Char}

theorem pass (skips : Skips b s after) (skips' : Skips b t after)
    (narrows : Narrows b s t after) (later : EndAlike after (done ++ s) (done' ++ t) rest) :
    EndAlike b done done' (s ++ rest) := by
  intro opened opened' h
  have ended := later opened opened' (h.imp fun _ _ tracks => tracks.pass narrows)
  rw [narrows rest, skips, skips']
  simpa only [List.append_assoc, List.length_append] using ended

theorem opening (later : EndAlike false (done ++ ['(']) (done' ++ ['(']) rest) :
    EndAlike false done done' ('(' :: rest) := by
  intro opened opened' h
  have narrows : Narrows false ['('] ['('] false := .plain (by simp [IsPlain])
  have inside := h.imp fun _ _ tracks => tracks.pass narrows
  have ended := later _ _ (.cons (.opens (!isPlain rest)) inside)
  rw [narrow_plain (by simp [IsPlain]), Pattern.scan_opening, Pattern.scan_opening, isPlain_narrow]
  simpa using ended

theorem closing (later : EndAlike false (done ++ [')']) (done' ++ [')']) rest) :
    EndAlike false done done' (')' :: rest) := by
  intro opened opened' h
  have narrows : Narrows false [')'] [')'] false := .plain (by simp [IsPlain])
  have closed := @close_tracks _ _ _ _ (')' :: rest) (')' :: narrowDigitsFrom false rest) h
  have ended := later _ _ (closed.imp fun _ _ tracks => tracks.pass narrows)
  rw [narrow_plain (by simp [IsPlain])]
  simpa [scanFrom, Scan.step] using ended

end EndAlike

theorem endAlike (b : Bool) (done done' rest : List Char) : EndAlike b done done' rest := by
  -- on the scan that writes digits out, which tells apart whatever the scan for groups does
  fun_induction narrowDigitsFrom b rest generalizing done done' with
  | case1 b =>
    intro opened opened' h
    exact h.imp fun _ _ tracks => tracks.children
  | case2 b =>
    intro opened opened' h
    exact h.imp fun _ _ tracks => tracks.children
  | case3 b c rest ih =>
    exact .pass (.escape c) (skips_narrowEscape b c) (.escape c) (ih _ _)
  | case4 b rest ih => exact .pass .opener .opener .opener (ih _ _)
  | case5 b rest ih => exact .pass .closer .closer .closer (ih _ _)
  | case6 b c rest notLast notEscape notOpener notCloser ih =>
    have notBackslash : c ≠ '\\' := by
      rintro rfl
      cases rest with
      | nil => exact notLast rfl rfl
      | cons d rest => exact notEscape d rest rfl rfl
    have plain : IsPlain c := ⟨notBackslash, notOpener, notCloser⟩
    have narrows : Narrows b [c] [c] b := .plain (List.forall_mem_singleton.mpr plain)
    cases b with
    | true =>
      have skips : Skips true [c] true := .member notBackslash notCloser
      exact .pass skips skips narrows (ih _ _)
    | false =>
      by_cases opening : c = '('
      · subst opening
        exact .opening (ih _ _)
      by_cases closing : c = ')'
      · subst closing
        exact .closing (ih _ _)
      have skips : Skips false [c] false := .single ⟨plain, opening, closing⟩
      exact .pass skips skips narrows (ih _ _)

theorem getLast?_related {α β : Type} {R : α → β → Prop} {xs : List α} {ys : List β}
    (h : List.Forall₂ R xs ys) : Option.Rel R xs.getLast? ys.getLast? := by
  induction h with
  | nil => exact .none
  | cons first others ih =>
    cases others with
    | nil => exact .some first
    | cons => simpa only [List.getLast?_cons_cons] using ih

/-- The groups of a pattern whose digits are written out are those of the pattern as it is, each
with its text written out. So it makes no difference to a match which of the two trees is filled
in. -/
theorem ofPattern_narrowDigits (pattern : List Char) :
    ofPattern (narrowDigits pattern) = (ofPattern pattern).mapSource narrowDigits ∧
    ∀ slice index, (ofPattern (narrowDigits pattern)).fill slice index =
      (ofPattern pattern).fill slice index := by
  have same : ofPattern (narrowDigits pattern) = (ofPattern pattern).mapSource narrowDigits := by
    have ended := endAlike false [] [] pattern [.whole] [.whole] (.cons .whole .nil)
    have roots : Option.Rel (fun o o' => o'.children = mapSources narrowDigits o.children)
        (scanFrom pattern 0 .start pattern).opened.getLast?
        (scanFrom (narrowDigits pattern) 0 .start (narrowDigits pattern)).opened.getLast? :=
      getLast?_related ended
    unfold ofPattern
    generalize (scanFrom pattern 0 .start pattern).opened.getLast? = root at roots ⊢
    generalize (scanFrom (narrowDigits pattern) 0 .start (narrowDigits pattern)).opened.getLast? =
      root' at roots ⊢
    cases roots with
    | none => rfl
    | some groups =>
      simp only [mapSource, groups]
      rfl
  exact ⟨same, fun slice index => by rw [same, fill_mapSource]⟩

end GroupTree

end StepExpr
