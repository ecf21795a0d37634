import StepExpr.Proofs.Suggestion.Words
import StepExpr.Proofs.Template.Groups

/-!
# Suggestions for one sample

All suggestions for a sample share the text between its words, and differ in the types that are
chosen for the words.

* `Scans.registered`: the types of a suggestion are registered, and suggestions may use them;
* `names_of_source`: the names of its parameters can be read off a suggestion;
* `suggest_distinct`: so no two suggestions for a sample are the same template.
-/

namespace StepExpr

open Template

namespace Suggestion

variable {text : Array Char} {pos limit : Nat} {types ts us : List ParameterType}
  {befores : List (List Char)} {sample tail : List Char} {slots : List Slot}

/-! ## Sources -/

theorem source_cons (before : List Char) (t : ParameterType)
    (parameters : List (List Char × ParameterType)) (tail : List Char) :
    source ⟨(before, t) :: parameters, tail⟩ =
      escapeSample before ++ '\x7b' :: (t.name.toList ++ '\x7d' :: source ⟨parameters, tail⟩) := by
  simp [source]

/-- Between the same texts, a template tells the names of its parameters. -/
theorem names_of_source (count : ts.length = befores.length) (count' : us.length = befores.length)
    (closed : ∀ t ∈ ts, '\x7d' ∉ t.name.toList) (closed' : ∀ u ∈ us, '\x7d' ∉ u.name.toList)
    (same : source ⟨befores.zip ts, tail⟩ = source ⟨befores.zip us, tail⟩) :
    ts.map (·.name) = us.map (·.name) := by
  induction befores generalizing ts us with
  | nil =>
    rw [List.eq_nil_of_length_eq_zero count, List.eq_nil_of_length_eq_zero count']
  | cons before befores ih =>
    obtain ⟨t, ts, rfl⟩ := List.exists_cons_of_length_eq_add_one count
    obtain ⟨u, us, rfl⟩ := List.exists_cons_of_length_eq_add_one count'
    obtain ⟨first, others⟩ := List.forall_mem_cons.mp closed
    obtain ⟨first', others'⟩ := List.forall_mem_cons.mp closed'
    rw [List.zip_cons_cons, List.zip_cons_cons, source_cons, source_cons,
      List.append_cancel_left_eq] at same
    -- the text behind may have braces, but a name has none, so the first closing brace ends it
    obtain ⟨name, -, rest⟩ := append_cons_unique (P := (· ≠ '\x7d'))
      (fun c hc => ne_of_mem_of_not_mem hc first) (fun c hc => ne_of_mem_of_not_mem hc first')
      (not_not_intro rfl) (not_not_intro rfl) (List.cons.inj same).2
    rw [List.map_cons, List.map_cons, String.toList_inj.mp name,
      ih (Nat.succ.inj count) (Nat.succ.inj count') others others' rest]

/-! ## Offers -/

/-- Every word is offered the types that meet it. -/
theorem Scans.offered (h : Scans types text pos slots tail) :
    ∀ slot ∈ slots, ∃ pos start stop, Offers types text pos start stop slot.offers := by
  induction h with
  | stop => simp
  | slot _ _ _ _ _ offers _ ih => exact List.forall_mem_cons.mpr ⟨⟨_, _, _, offers⟩, ih⟩

/-- Types that are chosen from the offers are registered, and suggestions may use them. -/
theorem Scans.registered (h : Scans types text pos slots tail) {chosen : List ParameterType}
    (offered : List.Forall₂ (fun t slot => t ∈ slot.offers) chosen slots) :
    ∀ t ∈ chosen, t ∈ types ∧ t.forSnippets = true := by
  intro t ht
  obtain ⟨slot, hs, choice⟩ := exists_related offered t ht
  obtain ⟨_, _, _, offers⟩ := h.offered slot hs
  obtain ⟨registered, snippet, -⟩ := (offers.mem_iff t).mp choice
  exact ⟨registered, snippet⟩

/-- No two combinations of the offers have the same names. -/
theorem Scans.nodup_names (h : Scans types text pos slots tail) (limit : Nat) :
    ((firstCombinations (slots.map Slot.offers) limit).map (List.map (·.name))).Nodup := by
  rw [firstCombinations_eq_take, List.map_take, ← map_combinations]
  refine (nodup_combinations fun names hn => ?_).sublist (List.take_sublist limit _)
  obtain ⟨_, ho, rfl⟩ := List.mem_map.mp hn
  obtain ⟨slot, hs, rfl⟩ := List.mem_map.mp ho
  obtain ⟨_, _, _, offers⟩ := h.offered slot hs
  exact offers.once

theorem suggest_eq_map
    (cuts : cut types sample = ⟨slots.map fun slot => (slot.before, slot.offers), tail⟩) :
    suggest types limit sample = (firstCombinations (slots.map Slot.offers) limit).map fun chosen =>
      ⟨(slots.map Slot.before).zip chosen, tail⟩ := by
  simp only [suggest, cuts, List.map_map]
  rfl

end Suggestion

/-- No two suggestions for a sample are the same template. -/
theorem suggest_distinct {r : Registry} (reachable : r.Reachable) (limit : Nat)
    (sample : List Char) : ((suggest r.types limit sample).map Suggestion.source).Nodup := by
  obtain ⟨slots, tail, scans, cuts⟩ := Suggestion.cut_scans reachable sample
  have fits : ∀ chosen ∈ Suggestion.firstCombinations (slots.map Suggestion.Slot.offers) limit,
      chosen.length = (slots.map Suggestion.Slot.before).length ∧
        ∀ t ∈ chosen, '\x7d' ∉ t.name.toList := by
    intro chosen hc
    have offered := List.forall₂_map_right_iff.mp (Suggestion.chosen_of_firstCombinations hc)
    refine ⟨by rw [List.length_map, offered.length_eq], fun t ht brace => ?_⟩
    have plain := reachable.unreserved t (scans.registered offered t ht).1 '\x7d' brace
    cases plain
  have names := scans.nodup_names limit
  rw [Suggestion.suggest_eq_map cuts, List.map_map]
  rw [List.nodup_iff_pairwise_ne, List.pairwise_map] at names ⊢
  refine names.imp_of_mem ?_
  intro ts us ht hu differ same
  obtain ⟨count, closed⟩ := fits ts ht
  obtain ⟨count', closed'⟩ := fits us hu
  exact differ (Suggestion.names_of_source count count' closed closed' same)

theorem suggest_distinct_braces : Registry.initial.Reachable ∧
    ((suggest Registry.initial.types 256 "\x7bint\x7d \x7d 4 2".toList).map
      Suggestion.source).Nodup :=
  ⟨.initial, suggest_distinct .initial 256 "\x7bint\x7d \x7d 4 2".toList⟩

end StepExpr
