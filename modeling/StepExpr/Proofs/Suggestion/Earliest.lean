import StepExpr.Proofs.Suggestion.Builtin

/-!
# No earlier or longer word

A finder tries one match only from each position of the sample: the leftmost, and of those that
start there the one that its expression prefers. A word that is preferred where it starts is not
passed over, if the expression tests no positions.

* `Finder.Hits.leftmost` and `Finder.Hits.rest`: what a search finds starts as early as can be, and
  is what a search from its start finds;
* `Finder.exists_meets`: a finder meets a word that does not start behind one that is there;
* `suggest_misses_none` puts the parts together.
-/

namespace StepExpr

open Search Regex

namespace Suggestion

variable {text : Array Char} {o k pos start stop : Nat} {f : Finder} {t : ParameterType}
  {types : List ParameterType}

/-! ## Searches of a finder -/

/-- The whole match starts where the search set out. -/
theorem start_of_span {r : Regex} {p : Pattern} {i a b : Nat} {u : Thread}
    (meaning : p.regex? = some r) (way : Reaches r.program text ⟨0, i, []⟩ u)
    (accepted : u.isAccepted r.program = true)
    (span : Captures.span? ⟨u.marks⟩ 0 = some (a, b)) : i = a := by
  obtain ⟨j, run⟩ := run_of_reaches way accepted
  rw [Pattern.span?_zero (Pattern.numbered_of_regex? meaning) run] at span
  exact (Prod.mk.inj (Option.some.inj span)).1

/-- A search from `o` on finds a match at the first position that one starts at. -/
theorem Finder.Hits.leftmost (h : f.Hits text o start stop) (made : f ∈ finders t)
    (floats : f.program.testsPositions = false) : Live f.program text (0, start) ∧
      ∀ k, o ≤ k → Live f.program text (0, k) → start ≤ k := by
  obtain ⟨regexp, hr, p, r, -, meaning, rfl⟩ := exists_regex_of_finder made
  obtain ⟨c, a, b, searched, span, rfl, rfl, -, -⟩ := h
  obtain ⟨i, within, u, rfl, way, accepted, least, -⟩ := Program.search_leftmost searched
  obtain rfl := start_of_span meaning way accepted span
  constructor
  · exact (live_shift floats).mpr (live_start_iff.mpr ⟨u, way, accepted⟩)
  · intro k late live
    have same : shiftSpot o (0, k - o) = (0, k) := by rw [shiftSpot, Nat.add_sub_cancel' late]
    refine Nat.le_of_not_lt fun earlier => least (k - o) (by omega) ?_
    exact (live_shift floats).mp (same ▸ live)

/-- A search from the start of a match finds this match. -/
theorem Finder.Hits.rest (h : f.Hits text o start stop) (made : f ∈ finders t)
    (floats : f.program.testsPositions = false) : f.Hits text start start stop := by
  obtain ⟨regexp, hr, p, r, -, meaning, rfl⟩ := exists_regex_of_finder made
  obtain ⟨c, a, b, searched, span, rfl, rfl, filled, whole⟩ := h
  obtain ⟨i, within, u, c', rfl, way, accepted, again, spans⟩ :=
    Program.search_rest floats searched
  obtain rfl := start_of_span meaning way accepted span
  have rest : (text.extract o text.size).extract i (text.extract o text.size).size =
      text.extract (o + i) text.size := by
    rw [Array.extract_extract, Array.size_extract]
    congr 1
    omega
  rw [rest] at again
  rw [spans, Option.map_eq_some_iff] at span
  obtain ⟨⟨x, y⟩, span, same⟩ := span
  obtain ⟨start, stop⟩ := Prod.mk.inj same
  exact ⟨c', x, y, again, span, by omega, by omega, filled, whole⟩

theorem Finder.Hits.unique {start' stop' : Nat} (h : f.Hits text o start stop)
    (g : f.Hits text o start' stop') : start = start' ∧ stop = stop' := by
  obtain ⟨c, a, b, searched, span, rfl, rfl, -, -⟩ := h
  obtain ⟨c', a', b', searched', span', rfl, rfl, -, -⟩ := g
  obtain rfl := Option.some.inj (searched.symm.trans searched')
  obtain ⟨rfl, rfl⟩ := Prod.mk.inj (Option.some.inj (span.symm.trans span'))
  exact ⟨rfl, rfl⟩

/-- Where a word is that a search from its start finds, a finder meets this word or one that starts
further left. -/
theorem Finder.exists_meets (hits : f.Hits text start start stop) (made : f ∈ finders t)
    (floats : f.program.testsPositions = false) (late : pos ≤ start) :
    ∃ a b, f.Meets text pos a b ∧ (a < start ∨ a = start ∧ b = stop) := by
  classical
  have some : ∃ o, pos ≤ o ∧ ∃ a b, f.Hits text o a b := ⟨start, late, start, stop, hits⟩
  obtain ⟨from_, a, b, found⟩ := Nat.find_spec some
  have early : Nat.find some ≤ start := Nat.find_min' some ⟨late, start, stop, hits⟩
  refine ⟨a, b, ⟨_, from_, found, fun k low high a b other => ?_⟩, ?_⟩
  · exact Nat.find_min some high ⟨low, a, b, other⟩
  · have first : a ≤ start :=
      (found.leftmost made floats).2 start early (hits.leftmost made floats).1
    rcases Nat.lt_or_eq_of_le first with before | rfl
    · exact .inl before
    · exact .inr ⟨rfl, ((found.rest made floats).unique hits).2⟩

/-! ## Cuts -/

/-- A cut can be taken up at each of its words. -/
theorem Scans.drop {done next : List Slot} {tail : List Char} (within : pos ≤ text.size)
    (h : Scans types text pos (done ++ next) tail) :
    Scans types text (pos + (covered done).length) next tail := by
  induction done generalizing pos with
  | nil => exact h
  | cons slot done ih =>
    cases h with
    | @slot _ start stop _ _ _ late filled inside _ _ _ rest =>
      have cut := ih inside rest
      have length : ((text.extract pos start).toList ++ (text.extract start stop).toList).length =
          stop - pos := by
        simp
        omega
      rw [covered, List.flatMap_cons, ← covered, List.length_append, length]
      have same : pos + (stop - pos) = stop := by omega
      rw [← Nat.add_assoc, same]
      exact cut

theorem Scans.misses_none {slots : List Slot} {tail : List Char} (within : pos ≤ text.size)
    (h : Scans types text pos slots tail) (ht : t ∈ types) (snippet : t.forSnippets = true)
    (made : f ∈ finders t) (floats : f.program.testsPositions = false) (late : pos ≤ start)
    (hits : f.Hits text start start stop) : ∃ slot rest, slots = slot :: rest ∧
      pos + slot.before.length ≤ start ∧
      (pos + slot.before.length = start → stop ≤ start + slot.word.length) := by
  obtain ⟨a, b, meets, order⟩ := Finder.exists_meets hits made floats late
  cases h with
  | stop none => exact absurd meets (none t ht snippet f made a b)
  | @slot _ start' stop' _ slots _ late' filled inside _ first _ _ =>
    refine ⟨_, slots, rfl, ?_⟩
    have before : (text.extract pos start').toList.length = start' - pos := by
      simp
      omega
    have word : (text.extract start' stop').toList.length = stop' - start' := by
      simp
      omega
    rw [before, word]
    have behind := first t ht snippet f made a b meets
    unfold Behind at behind
    omega

end Suggestion

/-- A cut misses no word that the search for a regexp finds at the start of the word. From each word
of the cut on, the next is not behind such a word, and if it starts there it is as long. -/
theorem suggest_misses_none {r : Registry} (reachable : r.Reachable) (sample : List Char) :
    ∃ (slots : List Suggestion.Slot) (tail : List Char), Suggestion.cut r.types sample =
        ⟨slots.map fun slot => (slot.before, slot.offers), tail⟩ ∧
      sample = Suggestion.covered slots ++ tail ∧
      ∀ done next, slots = done ++ next →
        let pos := (Suggestion.covered done).length
        ∀ t ∈ r.types, t.forSnippets = true → ∀ f ∈ Suggestion.finders t,
          f.program.testsPositions = false → ∀ start stop, pos ≤ start →
            f.Hits sample.toArray start start stop →
              ∃ slot rest, next = slot :: rest ∧ pos + slot.before.length ≤ start ∧
                (pos + slot.before.length = start → stop ≤ start + slot.word.length) := by
  obtain ⟨slots, tail, scans, cuts⟩ := Suggestion.cut_scans reachable sample
  refine ⟨slots, tail, cuts, by simpa using scans.parts, ?_⟩
  rintro done next rfl pos t ht snippet f made floats start stop late hits
  have rest := scans.drop (Nat.zero_le _)
  rw [Nat.zero_add] at rest
  have := hits.within made
  exact rest.misses_none (by omega) ht snippet made floats late hits

/-- In this sample no word of the built-in types starts before the third character. -/
theorem cut_decimal {before : List Char} {offers : List ParameterType}
    {words : List (List Char × List ParameterType)}
    (h : (Suggestion.cut Registry.initial.types "to 4.5 of 9".toList).words =
      (before, offers) :: words) : 3 ≤ before.length := by
  obtain ⟨slots, tail, scans, cuts⟩ := Suggestion.cut_scans .initial "to 4.5 of 9".toList
  rw [Registry.types_initial] at scans
  rw [cuts] at h
  cases scans with
  | stop => cases h
  | @slot _ start stop _ _ _ _ filled within _ _ offers _ =>
    have same := (Prod.mk.inj (List.cons.inj h).1).1
    have numeric := offers.numeric (by simp) (by simp) (Nat.le_refl start) filled
    have early : start < 11 := Nat.lt_of_lt_of_le filled within
    have each : ∀ k < 11, ("to 4.5 of 9".toList.toArray[k]?).any Suggestion.isNumeric = true →
        3 ≤ k := by decide
    have late := each start early numeric
    rw [← same, Array.length_toList, Array.size_extract]
    omega

/-- The first word is not the digit before the point, which is a word too but shorter, and not the
last digit, which is a word that stands further right. -/
theorem suggest_misses_none_decimal : ∃ (slots : List Suggestion.Slot) (tail : List Char),
    Suggestion.cut Registry.initial.types "to 4.5 of 9".toList =
        ⟨slots.map fun slot => (slot.before, slot.offers), tail⟩ ∧
      ∃ slot rest, slots = slot :: rest ∧ slot.before = "to ".toList ∧
        "4.5".toList <+: slot.word := by
  obtain ⟨slots, tail, cuts, parts, misses⟩ := suggest_misses_none .initial "to 4.5 of 9".toList
  have there : Builtin.float ∈ Registry.initial.types :=
    Registry.types_initial ▸ by simp [Builtin.types]
  have hits : Suggestion.decimalFinder.Hits "to 4.5 of 9".toList.toArray 3 3 6 := by
    decide +kernel
  obtain ⟨slot, rest, rfl, early, long⟩ := misses [] slots rfl Builtin.float there rfl _
    Suggestion.mem_finders_decimal (by decide +kernel) 3 6 (Nat.zero_le 3) hits
  have late : 3 ≤ slot.before.length := by
    apply cut_decimal
    rw [cuts]
    rfl
  have none : (Suggestion.covered []).length = 0 := rfl
  have before : slot.before.length = 3 := by omega
  have word : 3 ≤ slot.word.length := by omega
  rw [Suggestion.covered, List.flatMap_cons, List.append_assoc, List.append_assoc] at parts
  have cut : "to ".toList ++ "4.5 of 9".toList = "to 4.5 of 9".toList := rfl
  obtain ⟨first, others⟩ := List.append_inj (cut.trans parts) before.symm
  have known : "4.5".toList <+: "4.5 of 9".toList := by decide
  refine ⟨_, tail, cuts, slot, rest, rfl, first.symm, ?_⟩
  exact List.prefix_of_prefix_length_le known ⟨_, others.symm⟩ word

end StepExpr
