import StepExpr.Proofs.Suggestion.Scan
import StepExpr.Proofs.Template.Pattern

/-!
# The words of a sample

A sample is cut at words that its types find. A word is found by a search in the rest of the sample,
and stands in the sample as it does in the rest if the search tests no positions.

* `Regex.Matches.shift`: what matches in the rest of a text matches in the text;
* `Finder.Hits.fits`: a word that a search finds is one of the texts of its type;
* `suggest_covers`: the parts of a suggestion are the parts of the sample.
-/

namespace StepExpr

variable {text : Array Char} {o i j : Nat} {r : Regex}

/-! ## The rest of a text -/

namespace Regex

theorem Spells.shift {cs : List Char} (h : Spells (text.extract o text.size) cs i j) :
    Spells text cs (o + i) (o + j) := by
  induction cs generalizing i with
  | nil => exact congrArg (o + ·) h
  | cons c cs ih => exact ⟨(Search.getElem?_rest i).symm.trans h.1, ih h.2⟩

theorem Chain.shift {R S : Nat → Nat → Prop} (each : ∀ i j, R i j → S (o + i) (o + j)) {n : Nat}
    (h : Chain R n i j) : Chain S n (o + i) (o + j) := by
  induction n generalizing i with
  | zero => exact congrArg (o + ·) h
  | succ n ih =>
    obtain ⟨k, first, others⟩ := h
    exact ⟨o + k, each i k first, ih others⟩

/-- What an expression matches in the rest of a text, it matches in the text. -/
theorem Matches.shift (floats : r.Floats) (h : r.Matches (text.extract o text.size) i j) :
    r.Matches text (o + i) (o + j) := by
  induction r generalizing i j with
  | empty => exact matches_empty.mpr (congrArg (o + ·) (matches_empty.mp h))
  | literal cs => exact matches_literal.mpr (matches_literal.mp h).shift
  | set ascii s =>
    obtain ⟨⟨c, here, inside⟩, rfl⟩ := matches_set.mp h
    exact matches_set.mpr ⟨⟨c, (Search.getElem?_rest i).symm.trans here, inside⟩, rfl⟩
  | look l => exact floats.elim
  | cat a b iha ihb =>
    obtain ⟨k, first, second⟩ := matches_cat.mp h
    exact matches_cat.mpr ⟨o + k, iha floats.1 first, ihb floats.2 second⟩
  | alt a b iha ihb =>
    exact matches_alt.mpr ((matches_alt.mp h).imp (iha floats.1) (ihb floats.2))
  | rounds least most greedy r ih =>
    obtain ⟨n, allowed, chain⟩ := matches_rounds.mp h
    exact matches_rounds.mpr ⟨n, allowed, chain.shift fun i j => ih floats⟩
  | group index r ih => exact matches_group.mpr (ih floats.2 (matches_group.mp h))

end Regex

/-- No atom tests a position. -/
def Pattern.Floats (p : Pattern) : Prop := p.AllAtoms fun a => ¬ a.isAnchor = true

instance : DecidablePred Pattern.Floats := fun p => inferInstanceAs (Decidable (p.AllAtoms _))

theorem Pattern.Floats.regex? {p : Pattern} (floats : p.Floats) (h : p.regex? = some r) :
    r.Floats := by
  obtain ⟨⟨branches, flags, next⟩, meaning, rfl⟩ := Option.map_eq_some_iff.mp h
  obtain ⟨-, each⟩ := obeys_of_branchesFrom? floats meaning
  exact (Regex.obeys_alternation each).mono fun _ _ => trivial

/-- No regexp of the type tests a position. -/
def ParameterType.Floats (t : ParameterType) : Prop := ∀ regexp ∈ t.regexps, ∀ p,
  Pattern.parse? (narrowDigits regexp.toList) = some p → p.Floats

theorem builtin_floats : ∀ t ∈ Builtin.types, t.Floats := by
  have each : ∀ t ∈ Builtin.types, ∀ regexp ∈ t.regexps,
      (Pattern.parse? (narrowDigits regexp.toList)).all (fun p => decide p.Floats) = true := by
    apply forall_builtin <;> rfl
  intro t ht regexp hr p parsed
  have checked := each t ht regexp hr
  rw [parsed] at checked
  exact of_decide_eq_true checked

theorem FitsRegexp.shift {regexp : String}
    (floats : ∀ p, Pattern.parse? (narrowDigits regexp.toList) = some p → p.Floats)
    (h : FitsRegexp (text.extract o text.size) regexp i j) :
    FitsRegexp text regexp (o + i) (o + j) := by
  obtain ⟨p, r, parsed, meaning, taken⟩ := h
  exact ⟨p, r, parsed, meaning, taken.shift ((floats p parsed).regex? meaning)⟩

namespace Suggestion

variable {pos start stop : Nat} {f : Finder} {types : List ParameterType} {t : ParameterType}

/-! ## Words -/

/-- A word that a search finds is one of the texts of the type. -/
theorem Finder.Hits.fits (h : f.Hits text o start stop) (made : f ∈ finders t) (sound : t.Sound)
    (tame : t.Tame) (floats : t.Floats) :
    ∃ regexp ∈ t.regexps, FitsRegexp text regexp start stop := by
  obtain ⟨regexp, hr, p, r, parsed, meaning, rfl⟩ := exists_regex_of_finder made
  obtain ⟨a, b, rfl, rfl, -, taken⟩ := h.taken meaning
  have fits := (Template.fillsWith_regexp (tame regexp hr) (sound.valid regexp hr)).capture
  have here := (fits.matches_iff (by simpa using parsed) meaning).mp taken
  exact ⟨regexp, hr, here.shift (floats regexp hr)⟩

/-! ## Cuts -/

/-- The parts of a text from `pos` on: what stands before each word, with one of the types that the
word belongs to, and what stands behind the last. -/
def Covers (types : List ParameterType) (text : Array Char) :
    Nat → List (List Char × ParameterType) → List Char → Prop
  | pos, [], tail => tail = (text.extract pos text.size).toList
  | pos, (before, t) :: words, tail => ∃ start stop, pos ≤ start ∧ stop ≤ text.size ∧
      start ≤ stop ∧ before = (text.extract pos start).toList ∧ t ∈ types ∧
      (∃ regexp ∈ t.regexps, FitsRegexp text regexp start stop) ∧ Covers types text stop words tail

/-- Whatever type is chosen for each word, the parts are those of the text. -/
theorem Scans.covers {slots : List Slot} {tail : List Char} (h : Scans types text pos slots tail)
    (fine : ∀ t ∈ types.filter (·.forSnippets), t.Sound ∧ t.Tame ∧ t.Floats)
    {chosen : List ParameterType}
    (offered : List.Forall₂ (fun t slot => t ∈ slot.offers) chosen slots) :
    Covers (types.filter (·.forSnippets)) text pos ((slots.map Slot.before).zip chosen) tail := by
  induction h generalizing chosen with
  | stop =>
    cases offered
    rfl
  | @slot pos start stop _ _ _ late filled within _ _ offers _ ih =>
    cases offered with
    | cons choice others =>
      obtain ⟨ht, snippet, f, made, o, -, hits, -⟩ := (offers.mem_iff _).mp choice
      have usable := List.mem_filter.mpr ⟨ht, snippet⟩
      obtain ⟨sound, tame, floats⟩ := fine _ usable
      exact ⟨start, stop, late, within, Nat.le_of_lt filled, rfl, usable,
        hits.fits made sound tame floats, ih others⟩

theorem Scans.filled {slots : List Slot} {tail : List Char} (h : Scans types text pos slots tail) :
    ∀ slot ∈ slots, slot.offers ≠ [] := by
  induction h with
  | stop => simp
  | slot _ _ _ _ _ offers _ ih => exact List.forall_mem_cons.mpr ⟨offers.some, ih⟩

end Suggestion

/-- There is a suggestion for every sample. -/
theorem suggest_ne_nil {r : Registry} (reachable : r.Reachable) {limit : Nat} (some : 0 < limit)
    (sample : List Char) : suggest r.types limit sample ≠ [] := by
  obtain ⟨slots, tail, scans, cuts⟩ := Suggestion.cut_scans reachable sample
  unfold suggest
  simp only [cuts, ne_eq, List.map_eq_nil_iff]
  refine Suggestion.firstCombinations_ne_nil (fun offers ho => ?_) some
  obtain ⟨slot, hs, rfl⟩ := List.mem_map.mp (List.map_map ▸ ho)
  exact scans.filled slot hs

/-- The parts of a suggestion are those of the sample. -/
theorem suggest_covers {r : Registry} (reachable : r.Reachable) {limit : Nat} {sample : List Char}
    {s : Suggestion} (fine : ∀ t ∈ r.types.filter (·.forSnippets), t.Sound ∧ t.Tame ∧ t.Floats)
    (h : s ∈ suggest r.types limit sample) :
    Suggestion.Covers (r.types.filter (·.forSnippets)) sample.toArray 0 s.parameters s.tail := by
  obtain ⟨slots, tail, scans, cuts⟩ := Suggestion.cut_scans reachable sample
  obtain ⟨chosen, offered, rfl⟩ := Suggestion.exists_chosen cuts h
  exact scans.covers fine offered

end StepExpr
