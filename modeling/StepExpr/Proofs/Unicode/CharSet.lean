import StepExpr.Unicode.CharSet

/-!
# Members of sets

Which characters are in the sets that are built from ranges.
-/

namespace StepExpr.CharSet

theorem holdsIn_iff {code : Nat} {rs : List CodeRange} :
    holdsIn code rs = true ↔ ∃ r ∈ rs, r.first ≤ code ∧ code ≤ r.last := by
  simp [holdsIn]

theorem holdsIn_joinFrom {code : Nat} {r : CodeRange} {rs : List CodeRange}
    (sorted : (r :: rs).Pairwise fun a b => a.first ≤ b.first) :
    holdsIn code (joinFrom r rs) = holdsIn code (r :: rs) := by
  induction rs generalizing r with
  | nil => rfl
  | cons s rest ih =>
    obtain ⟨before, later⟩ := List.pairwise_cons.mp sorted
    obtain ⟨next, others⟩ := List.pairwise_cons.mp later
    have first := before s (by simp)
    rw [joinFrom]
    split
    · rename_i touch
      have joined : List.Pairwise (fun a b : CodeRange => a.first ≤ b.first)
          (⟨r.first, max r.last s.last⟩ :: rest) :=
        List.pairwise_cons.mpr ⟨fun t ht => Nat.le_trans first (next t ht), others⟩
      rw [ih joined]
      simp only [holdsIn, List.any_cons, ← Bool.or_assoc]
      congr 1
      rw [Bool.eq_iff_iff]
      simp only [Bool.and_eq_true, decide_eq_true_eq, Bool.or_eq_true]
      omega
    · simp only [holdsIn, List.any_cons] at ih ⊢
      rw [ih later]

theorem holdsIn_ofRanges {code : Nat} {rs : List CodeRange} :
    holdsIn code (ofRanges rs).ranges = true ↔ ∃ r ∈ rs, r.first ≤ code ∧ code ≤ r.last := by
  have sorted := @List.pairwise_mergeSort CodeRange (fun a b => a.first ≤ b.first)
    (fun a b c hab hbc => by simp only [decide_eq_true_eq] at hab hbc ⊢; omega)
    (fun a b => by simp only [Bool.or_eq_true, decide_eq_true_eq]; omega) rs
  have same : ∀ r, r ∈ rs.mergeSort (fun a b => a.first ≤ b.first) ↔ r ∈ rs := fun r =>
    (List.mergeSort_perm rs _).mem_iff
  unfold ofRanges
  cases hs : rs.mergeSort (fun a b => a.first ≤ b.first) with
  | nil =>
    rw [hs] at same
    simp only [join, holdsIn, List.any_nil, Bool.false_eq_true, false_iff]
    rintro ⟨r, hr, -⟩
    exact absurd ((same r).mpr hr) (by simp)
  | cons r rest =>
    rw [hs] at sorted same
    simp only [decide_eq_true_eq] at sorted
    rw [join, holdsIn_joinFrom sorted, holdsIn_iff]
    simp only [same]

theorem contains_ofRanges {rs : List CodeRange} {c : Char} :
    (ofRanges rs).contains c = true ↔ ∃ r ∈ rs, r.first ≤ c.toNat ∧ c.toNat ≤ r.last :=
  holdsIn_ofRanges

theorem contains_ofChars {cs : List Char} {c : Char} : (ofChars cs).contains c = true ↔ c ∈ cs := by
  simp only [ofChars, contains_ofRanges, List.mem_map]
  constructor
  · rintro ⟨_, ⟨d, hd, rfl⟩, low, high⟩
    have : c.toNat = d.toNat := by simp only at low high; omega
    rwa [Char.toNat_inj.mp this]
  · intro hc
    exact ⟨_, ⟨c, hc, rfl⟩, Nat.le_refl _, Nat.le_refl _⟩

theorem contains_unions {sets : List CharSet} {c : Char} :
    (unions sets).contains c = true ↔ ∃ s ∈ sets, s.contains c = true := by
  rw [unions, contains_ofRanges]
  simp only [List.mem_flatMap, contains, holdsIn_iff]
  constructor
  · rintro ⟨r, ⟨s, hs, hr⟩, bounds⟩
    exact ⟨s, hs, r, hr, bounds⟩
  · rintro ⟨s, hs, r, hr, bounds⟩
    exact ⟨r, ⟨s, hs, hr⟩, bounds⟩

theorem code_le (c : Char) : c.toNat ≤ maxCode := by
  rcases c.valid with low | ⟨-, high⟩
  · exact Nat.le_trans (Nat.le_of_lt low) (by decide)
  · exact Nat.le_of_lt_succ high

theorem contains_eq_false_of_isEmpty {s : CharSet} (h : s.isEmpty = true) (c : Char) :
    s.contains c = false := by
  simp only [isEmpty, List.isEmpty_iff] at h
  simp [contains, holdsIn, h]

theorem contains_of_only? {s : CharSet} {c : Char} (h : s.only? = some c) {d : Char} :
    s.contains d = true ↔ d = c := by
  unfold only? at h
  split at h
  · rename_i r hr
    split at h
    · rename_i single
      obtain rfl := Option.some.inj h
      simp only [contains, hr, holdsIn, List.any_cons, List.any_nil, Bool.or_false,
        Bool.and_eq_true, decide_eq_true_eq]
      have code : (Char.ofNat r.first).toNat = r.first := by
        rw [Char.ofNat, dif_pos single.2]
        rfl
      rw [← Char.toNat_inj, code]
      omega
    · cases h
  · cases h

end StepExpr.CharSet
