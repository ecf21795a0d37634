import StepExpr.Proofs.Regex.Escape
import StepExpr.Regex.Meaning

/-!
# Names of properties

No property, and no value of one, is known under a name with backslashes, brackets or parentheses.

* `PropertyQuery.isInner_of_charSet?`: a query that finds a set names nothing with these;
* `Atom.legible_of_regex?`: so every atom with a meaning is legible.
-/

namespace StepExpr

open Pattern (IsInner)

namespace Unicode

def IsInnerName (name : String) : Prop :=
  ∀ c ∈ name.toList, IsInner c

theorem isInnerName_ofList {cs : List Char} (h : cs.all (IsInner ·) = true) :
    IsInnerName (String.ofList cs) := by
  rw [IsInnerName, String.toList_ofList]
  exact Pattern.isInner_of_all h

/-! ## Loose names -/

theorem toLower_eq {c d : Char} (h : c.toLower = d) (outside : d.toNat < 97 ∨ 122 < d.toNat) :
    c = d := by
  unfold Char.toLower at h
  split at h
  · rename_i upper
    have low : 65 ≤ c.toNat := upper.1
    have high : c.toNat ≤ 90 := upper.2
    have code : d.toNat = c.toNat + 32 := by
      rw [← h]
      show (c.val + 32).toNat = c.val.toNat + 32
      have small : c.val.toNat ≤ 90 := high
      rw [UInt32.toNat_add]
      simp only [UInt32.reduceToNat]
      omega
    omega
  · exact h

theorem isInner_toLower {c : Char} (h : IsInner c) : IsInner c.toLower := by
  obtain ⟨⟨h₁, h₂, h₃⟩, h₄, h₅⟩ := h
  refine ⟨⟨fun same => h₁ ?_, fun same => h₂ ?_, fun same => h₃ ?_⟩, fun same => h₄ ?_,
    fun same => h₅ ?_⟩ <;> exact toLower_eq same (by decide)

theorem isInner_of_toLower {c : Char} (h : IsInner c.toLower) : IsInner c := by
  refine ⟨⟨?_, ?_, ?_⟩, ?_, ?_⟩ <;> rintro rfl <;> exact absurd h (by decide)

/-- The characters of a loose name. -/
def looseChars (cs : List Char) : List Char :=
  (cs.filter fun c => c.toNat < 128 && c != ' ' && c != '_' && c != '-').map Char.toLower

theorem isInner_looseChars {cs : List Char} :
    (∀ c ∈ looseChars cs, IsInner c) ↔ ∀ c ∈ cs, IsInner c := by
  constructor
  · intro h c hc
    by_cases marked : c = '\\' ∨ c = '[' ∨ c = ']' ∨ c = '(' ∨ c = ')'
    · have kept : c.toLower ∈ looseChars cs := by
        refine List.mem_map_of_mem (List.mem_filter.mpr ⟨hc, ?_⟩)
        rcases marked with rfl | rfl | rfl | rfl | rfl <;> decide
      exact isInner_of_toLower (h _ kept)
    · simpa only [IsInner, IsPlain, not_or, and_assoc] using marked
  · intro h d hd
    obtain ⟨c, hc, rfl⟩ := List.mem_map.mp hd
    exact isInner_toLower (h c (List.mem_filter.mp hc).1)

theorem isInnerName_looseName {name : String} :
    IsInnerName (looseName name) ↔ IsInnerName name := by
  unfold IsInnerName looseName
  dsimp only
  split
  · rename_i i s rest same
    rw [same]
    split
    · rename_i marks
      have first : IsInner i := isInner_of_toLower (marks.1 ▸ by decide)
      have second : IsInner s := isInner_of_toLower (marks.2 ▸ by decide)
      simp only [List.forall_mem_cons, first, second, true_and]
      split
      · rename_i only
        have plain : ∀ c ∈ rest, IsInner c := by
          refine isInner_looseChars.mp ?_
          rw [show looseChars rest = ['c'] from only]
          exact Pattern.isInner_of_all rfl
        exact iff_of_true (isInnerName_ofList rfl) plain
      · rw [String.toList_ofList]
        exact isInner_looseChars
    · rw [String.toList_ofList]
      exact isInner_looseChars
  · rw [String.toList_ofList]
    exact isInner_looseChars

/-! ## Names in texts -/

theorem mem_intercalate {α : Type} {separator xs : List α} {xss : List (List α)} {x : α}
    (h : xs ∈ xss) (hx : x ∈ xs) : x ∈ separator.intercalate xss := by
  induction xss with
  | nil => cases h
  | cons first others ih =>
    cases others with
    | nil =>
      obtain rfl := List.mem_singleton.mp h
      rwa [List.intercalate_singleton]
    | cons second others =>
      rw [List.intercalate_cons_cons]
      rcases List.mem_cons.mp h with rfl | h
      · exact List.mem_append_left _ (List.mem_append_left _ hx)
      · exact List.mem_append_right _ (ih h)

theorem IsInnerName.part {mark : Char} {text part : String} (h : IsInnerName text)
    (hp : part ∈ partsAt mark text) : IsInnerName part := by
  obtain ⟨cs, hcs, rfl⟩ := List.mem_map.mp hp
  intro c hc
  rw [String.toList_ofList] at hc
  have inside : c ∈ [mark].intercalate (text.toList.splitOn mark) := mem_intercalate hcs hc
  rw [List.intercalate_splitOn] at inside
  exact h c inside

theorem IsInnerName.word {text word : String} (h : IsInnerName text) (hw : word ∈ words text) :
    IsInnerName word := by
  obtain ⟨line, hline, hw⟩ := List.mem_flatMap.mp hw
  exact (h.part hline).part (List.mem_filter.mp hw).1

theorem isInnerName_scripts : ∀ line ∈ scriptNameLines, IsInnerName line := by
  simp only [scriptNameLines, List.forall_mem_cons]
  and_intros
  case refine_2 => simp
  all_goals exact isInnerName_ofList rfl

theorem isInnerName_versions : IsInnerName versionsText :=
  isInnerName_ofList rfl

theorem isInnerName_script {name : String} {script : Script} (h : Script.named? name = some script) :
    IsInnerName name := by
  obtain ⟨entry, found, -⟩ := Option.map_eq_some_iff.mp h
  have named : name ∈ entry.2 := by simpa using List.find?_some found
  obtain ⟨word, hword, same⟩ := List.mem_filterMap.mp (List.mem_of_find?_eq_some found)
  obtain ⟨line, hline, hword⟩ := List.mem_flatMap.mp hword
  have plain := (isInnerName_scripts line hline).word hword
  split at same
  · cases same
  · rename_i code others parts
    obtain ⟨rfl⟩ := same
    obtain ⟨part, hpart, rfl⟩ := List.mem_map.mp named
    exact isInnerName_looseName.mpr (plain.part (parts ▸ hpart))

theorem isInnerName_age {name : String} {s : CharSet} (h : ageSet? name = some s) :
    IsInnerName name := by
  obtain ⟨version, found, -⟩ := Option.map_eq_some_iff.mp h
  unfold versionNamed? at found
  have listed : version ∈ versions := List.mem_of_find?_eq_some found
  unfold versions at listed
  have plain := isInnerName_versions.word listed
  have same := List.find?_some found
  simp only [Bool.or_eq_true, decide_eq_true_eq] at same
  rcases same with rfl | same
  · exact plain
  · intro c hc
    rw [same] at hc
    rcases List.mem_cons.mp hc with rfl | hc
    · decide
    · exact plain c (List.mem_filter.mp hc).1

/-! ## Names in code -/

/-- One name among others that a function knows. -/
theorem isInnerName_dite {name known : String} {α : Type} {found : name = known → Option α}
    {otherwise : ¬ name = known → Option α} {x : α} (inner : IsInnerName known)
    (others : ∀ h, otherwise h = some x → IsInnerName name)
    (h : dite (name = known) found otherwise = some x) : IsInnerName name := by
  split at h
  · rename_i same
    exact same ▸ inner
  · exact others _ h

-- A long list of names is a long chain of tests, which is walked once. To split the match itself
-- takes much longer.
set_option linter.auxLemma false in
theorem isInnerName_property {name : String} {s : CharSet} (h : propertySet? name = some s) :
    IsInnerName name := by
  delta propertySet? propertySet?.match_1 at h
  revert h
  repeat refine isInnerName_dite (isInnerName_ofList rfl) fun _ => ?_
  exact nofun

set_option linter.auxLemma false in
theorem isInnerName_categories {name : String} {cs : List Category}
    (h : Category.named? name = some cs) : IsInnerName name := by
  delta Category.named? Category.named?.match_1 at h
  revert h
  repeat refine isInnerName_dite (isInnerName_ofList rfl) fun _ => ?_
  exact nofun

theorem isInnerName_category {name : String} {s : CharSet} (h : Category.set? name = some s) :
    IsInnerName name := by
  unfold Category.set? at h
  split at h
  case h_4 =>
    obtain ⟨cs, found, -⟩ := Option.map_eq_some_iff.mp h
    exact isInnerName_categories found
  all_goals exact isInnerName_ofList rfl

theorem isInnerName_break {name : String} {s : CharSet} (h : graphemeBreakSet? name = some s ∨
    wordBreakSet? name = some s ∨ sentenceBreakSet? name = some s) : IsInnerName name := by
  unfold graphemeBreakSet? wordBreakSet? sentenceBreakSet? at h
  rcases h with h | h | h
  all_goals
    split at h
    all_goals first | contradiction | exact isInnerName_ofList rfl

end Unicode

namespace Pattern

open Unicode

theorem PropertyQuery.isInner_of_charSet? {q : PropertyQuery} {s : CharSet}
    (h : q.charSet? = some s) : ∀ c ∈ q.chars, IsInner c := by
  cases q with
  | named name =>
    refine isInnerName_looseName.mp ?_
    unfold PropertyQuery.charSet? at h
    simp only [Option.or_eq_some_iff] at h
    rcases h with (h | ⟨-, h⟩) | ⟨-, h⟩
    · split at h
      · cases h
      · exact isInnerName_property h
    · exact isInnerName_category h
    · obtain ⟨script, found, -⟩ := Option.map_eq_some_iff.mp h
      exact isInnerName_script found
  | valued property value =>
    have names (hp : IsInnerName (looseName property)) (hv : IsInnerName (looseName value)) :
        ∀ c ∈ (PropertyQuery.valued property value).chars, IsInner c :=
      List.forall_mem_append.mpr ⟨isInnerName_looseName.mp hp, isInnerName_looseName.mp hv⟩
    have script {f : Script → CharSet}
        (h : (Script.named? (looseName value)).map f = some s) : IsInnerName (looseName value) := by
      obtain ⟨found, named, -⟩ := Option.map_eq_some_iff.mp h
      exact isInnerName_script named
    unfold PropertyQuery.charSet? at h
    simp only at h
    split at h
    case h_14 => cases h
    all_goals rename_i same; refine names (same ▸ isInnerName_ofList rfl) ?_
    · exact isInnerName_category h
    · exact isInnerName_category h
    · exact script h
    · exact script h
    · exact script h
    · exact script h
    · exact isInnerName_age h
    · exact isInnerName_break (.inl h)
    · exact isInnerName_break (.inl h)
    · exact isInnerName_break (.inr (.inl h))
    · exact isInnerName_break (.inr (.inl h))
    · exact isInnerName_break (.inr (.inr h))
    · exact isInnerName_break (.inr (.inr h))

/-! ## Parts of patterns -/

theorem ClassExpr.legible_of_ranges? {f : Flags} {x : ClassExpr} {rs : List CodeRange}
    (h : x.ranges? f = some rs) : x.Legible := by
  induction x generalizing rs with
  | property q negated =>
    rw [ClassExpr.ranges?] at h
    split at h
    · obtain ⟨s, found, -⟩ := Option.bind_eq_some_iff.mp h
      exact q.isInner_of_charSet? found
    · cases h
  | union a b iha ihb | operation op a b iha ihb =>
    rw [ClassExpr.ranges?] at h
    obtain ⟨left, ha, h⟩ := Option.bind_eq_some_iff.mp h
    obtain ⟨right, hb, -⟩ := Option.bind_eq_some_iff.mp h
    exact ⟨iha ha, ihb hb⟩
  | bracket negated content ih =>
    rw [ClassExpr.ranges?] at h
    obtain ⟨inside, hc, -⟩ := Option.bind_eq_some_iff.mp h
    exact ih hc
  | _ => trivial

/-- An atom with a meaning is legible. -/
theorem Atom.legible_of_regex? {f : Flags} {a : Atom} {r : Regex} (h : a.regex? f = some r) :
    a.Legible := by
  cases a with
  | property q negated =>
    obtain ⟨s, found, -⟩ := Option.map_eq_some_iff.mp h
    obtain ⟨rs, ranges, -⟩ := Option.map_eq_some_iff.mp found
    exact ClassExpr.legible_of_ranges? ranges
  | bracketed negated content =>
    obtain ⟨s, found, -⟩ := Option.map_eq_some_iff.mp h
    obtain ⟨rs, ranges, -⟩ := Option.map_eq_some_iff.mp found
    exact ClassExpr.legible_of_ranges? (x := .bracket negated content) ranges
  | _ => trivial

end Pattern

end StepExpr
