import Mathlib.Algebra.BigOperators.Group.List.Basic
import Mathlib.Data.List.Forall2
import Mathlib.Data.List.Nodup
import StepExpr.Suggestion.Basic

/-!
# Combinations in order

A combination is told by the place that is taken in each list. The combinations stand in the
lexicographic order of their places, and a limit cuts them off behind the first ones.

* `length_combinations` and `mem_combinations`: which combinations there are;
* `nodup_combinations`: none is there twice, where no list has an element twice;
* `firstCombinations_eq_take`: a limit keeps the first of them;
* `firstCombinations_in_order` puts the parts together;
* `map_types_suggest`: the types of the suggestions are the combinations.
-/

namespace StepExpr

namespace Suggestion

variable {α : Type} {lists : List (List α)} {chosen : List α} {limit : Nat}

/-! ## All combinations -/

/-- A combination takes one element of each list. -/
theorem mem_combinations : chosen ∈ combinations lists ↔ List.Forall₂ (· ∈ ·) chosen lists := by
  induction lists generalizing chosen with
  | nil => simp [combinations]
  | cons xs lists ih =>
    simp only [combinations, List.mem_flatMap, List.mem_map, List.forall₂_cons_right_iff, ih]
    constructor
    · rintro ⟨x, hx, rest, others, rfl⟩
      exact ⟨x, rest, hx, others, rfl⟩
    · rintro ⟨x, rest, hx, others, rfl⟩
      exact ⟨x, hx, rest, others, rfl⟩

theorem length_combinations (lists : List (List α)) :
    (combinations lists).length = (lists.map List.length).prod := by
  induction lists with
  | nil => rfl
  | cons xs lists ih =>
    simp [combinations, List.length_flatMap, ih]

theorem combinations_ne_nil (filled : ∀ xs ∈ lists, xs ≠ []) : combinations lists ≠ [] := by
  induction lists with
  | nil => exact List.cons_ne_nil [] []
  | cons xs lists ih =>
    obtain ⟨first, others⟩ := List.forall_mem_cons.mp filled
    obtain ⟨x, hx⟩ := List.exists_mem_of_ne_nil xs first
    obtain ⟨rest, hr⟩ := List.exists_mem_of_ne_nil _ (ih others)
    have found : x :: rest ∈ combinations (xs :: lists) :=
      List.mem_flatMap.mpr ⟨x, hx, List.mem_map_of_mem hr⟩
    exact List.ne_nil_of_mem found

theorem map_combinations {β : Type} (f : α → β) (lists : List (List α)) :
    combinations (lists.map (List.map f)) = (combinations lists).map (List.map f) := by
  induction lists with
  | nil => rfl
  | cons xs lists ih =>
    simp only [List.map_cons, combinations, ih, List.flatMap_map, List.map_flatMap, List.map_map]
    rfl

/-- Where no list has an element twice, no combination is there twice. -/
theorem nodup_combinations (once : ∀ xs ∈ lists, xs.Nodup) : (combinations lists).Nodup := by
  induction lists with
  | nil => exact List.nodup_singleton []
  | cons xs lists ih =>
    obtain ⟨first, others⟩ := List.forall_mem_cons.mp once
    rw [combinations, List.nodup_flatMap]
    constructor
    · intro x _
      exact (ih others).map List.cons_injective
    · refine first.imp ?_
      intro x y differ rest hx hy
      obtain ⟨_, -, rfl⟩ := List.mem_map.mp hx
      obtain ⟨_, -, same⟩ := List.mem_map.mp hy
      exact differ (List.cons.inj same).1.symm

/-! ## The first combinations -/

/-- The choices from a list are gone through one after the other, until the limit is reached. -/
theorem foldl_take (family : α → List (List α)) (xs : List α) (found : List (List α))
    (few : found.length ≤ limit) :
    xs.foldl (fun found x =>
      found ++ ((family x).take (limit - found.length))) found =
        (found ++ xs.flatMap family).take limit := by
  induction xs generalizing found with
  | nil => simp [List.take_of_length_le few]
  | cons x xs ih =>
    have cut : found ++ (family x).take (limit - found.length) =
        (found ++ family x).take limit := by
      rw [List.take_append, List.take_of_length_le few]
    rw [List.foldl_cons, cut, ih _ (List.length_take_le limit _), List.flatMap_cons,
      ← List.append_assoc]
    by_cases full : limit ≤ (found ++ family x).length
    · have reached : limit ≤ ((found ++ family x).take limit).length := by
        rw [List.length_take]
        exact Nat.le_min.mpr ⟨Nat.le_refl limit, full⟩
      rw [List.take_append_of_le_length reached, List.take_take, Nat.min_self,
        List.take_append_of_le_length full]
    · rw [List.take_of_length_le (Nat.le_of_not_le full)]

/-- A limit keeps the first of the combinations. -/
theorem firstCombinations_eq_take (lists : List (List α)) (limit : Nat) :
    firstCombinations lists limit = (combinations lists).take limit := by
  induction lists generalizing limit with
  | nil =>
    cases limit with
    | zero => simp [firstCombinations]
    | succ limit => simp [firstCombinations, combinations]
  | cons xs lists ih =>
    cases limit with
    | zero => simp [firstCombinations]
    | succ limit =>
      have family := foldl_take (fun x => (combinations lists).map (x :: ·)) xs []
        (Nat.zero_le (limit + 1))
      simp only [firstCombinations, ih, List.map_take]
      exact family

theorem chosen_of_firstCombinations (h : chosen ∈ firstCombinations lists limit) :
    List.Forall₂ (· ∈ ·) chosen lists := by
  rw [firstCombinations_eq_take] at h
  exact mem_combinations.mp (List.mem_of_mem_take h)

theorem firstCombinations_ne_nil (filled : ∀ xs ∈ lists, xs ≠ []) (some : 0 < limit) :
    firstCombinations lists limit ≠ [] := by
  rw [firstCombinations_eq_take, ← List.length_pos_iff, List.length_take]
  exact Nat.lt_min.mpr ⟨some, List.length_pos_iff.mpr (combinations_ne_nil filled)⟩

/-! ## Places -/

/-- The places of all combinations. -/
def places (lists : List (List α)) : List (List Nat) :=
  combinations (lists.map fun xs => List.range xs.length)

theorem mem_places {ps : List Nat} :
    ps ∈ places lists ↔ List.Forall₂ (fun p xs => p < xs.length) ps lists := by
  rw [places, mem_combinations, List.forall₂_map_right_iff]
  simp only [List.mem_range]

theorem pairwise_places (lists : List (List α)) : (places lists).Pairwise (List.Lex (· < ·)) := by
  induction lists with
  | nil => simp [places, combinations]
  | cons xs lists ih =>
    rw [places, List.map_cons, combinations, List.pairwise_flatMap]
    constructor
    · intro p _
      exact List.pairwise_map.mpr (ih.imp List.Lex.cons)
    · refine List.pairwise_lt_range.imp ?_
      intro p q before ps hp qs hq
      obtain ⟨_, -, rfl⟩ := List.mem_map.mp hp
      obtain ⟨_, -, rfl⟩ := List.mem_map.mp hq
      exact .rel before

/-- Each combination takes what stands at its places. -/
theorem combinations_at_places (lists : List (List α)) :
    List.Forall₂ (fun chosen ps => List.zipWith (fun xs p => xs[p]?) lists ps = chosen.map some)
      (combinations lists) (places lists) := by
  induction lists with
  | nil => exact .cons rfl .nil
  | cons xs lists ih =>
    have numbered : List.Forall₂ (fun x p => xs[p]? = some x) xs (List.range xs.length) := by
      refine List.forall₂_iff_get.mpr ⟨List.length_range.symm, fun i h _ => ?_⟩
      simp [List.getElem?_eq_getElem h]
    refine List.rel_flatMap numbered ?_
    intro x p here
    refine List.rel_map ?_ ih
    intro chosen ps there
    rw [List.zipWith_cons_cons, here, there, List.map_cons]

/-- The combinations that a limit leaves are as many as it allows. They stand in the lexicographic
order of their places, without a gap or a repetition, so a smaller limit leaves the first of
them. -/
theorem firstCombinations_in_order (lists : List (List α)) (limit : Nat) :
    (firstCombinations lists limit).length = min limit (lists.map List.length).prod ∧
    (∃ order : List (List Nat), order.Pairwise (List.Lex (· < ·)) ∧
      (∀ ps, ps ∈ order ↔ List.Forall₂ (fun p xs => p < xs.length) ps lists) ∧
      List.Forall₂
        (fun chosen ps => List.zipWith (fun xs p => xs[p]?) lists ps = chosen.map some)
        (firstCombinations lists limit) (order.take limit)) ∧
    (∀ more, limit ≤ more → firstCombinations lists limit <+: firstCombinations lists more) ∧
    ∀ chosen ∈ firstCombinations lists limit, chosen.length = lists.length := by
  simp only [firstCombinations_eq_take]
  refine ⟨?_, ⟨places lists, pairwise_places lists, fun _ => mem_places, ?_⟩, ?_, ?_⟩
  · rw [List.length_take, length_combinations]
  · exact List.forall₂_take limit (combinations_at_places lists)
  · intro more le
    exact List.take_prefix_take_left le
  · intro chosen h
    exact (mem_combinations.mp (List.mem_of_mem_take h)).length_eq

/-- Five places are left of three times two, so the last combination is missing. -/
example : firstCombinations [[1, 2, 3], [4, 5]] 5 = [[1, 4], [1, 5], [2, 4], [2, 5], [3, 4]] := by
  decide

end Suggestion

/-- The types of the suggestions are the first combinations of the choices for the words. -/
theorem map_types_suggest (types : List ParameterType) (limit : Nat) (sample : List Char) :
    (suggest types limit sample).map Suggestion.types =
      Suggestion.firstCombinations ((Suggestion.cut types sample).words.map Prod.snd) limit := by
  rw [suggest, List.map_map]
  generalize Suggestion.cut types sample = cut
  have same : ∀ chosen ∈ Suggestion.firstCombinations (cut.words.map Prod.snd) limit,
      (Suggestion.types ∘ fun chosen =>
        ⟨(cut.words.map Prod.fst).zip chosen, cut.tail⟩) chosen = chosen := by
    intro chosen h
    have length := (Suggestion.chosen_of_firstCombinations h).length_eq
    rw [List.length_map] at length
    exact List.map_snd_zip (by rw [List.length_map]; exact Nat.le_of_eq length)
  exact (List.map_congr_left same).trans (List.map_id _)

end StepExpr
