import StepExpr.Parameter.Registry
import Mathlib.Tactic.MkIffOfInductiveProp

/-!
# The indexes of a registry

A registry says three times which types it has: in the order of registration, by name and by regexp.
Registered types stand `Apart`: no two have one name, and no two preferred types have one regexp.

* `Registry.Indexed`: the types stand apart and both indexes say what the list says;
* `Registry.Indexed.register_fails_iff` and `Registry.Indexed.after`: a call fails exactly for a type
  that does not stand apart from those there, and keeps the indexes either way;
* `Registry.calls_keep_indexes`: so they are kept by any calls, of which any may fail.
-/

namespace StepExpr

namespace ParameterType

variable {t u : ParameterType}

/-! ## The order of types with one regexp -/

theorem compare_isLE (a b : ParameterType) :
    (a.compare b).isLE = (a.preferred || !b.preferred) := by
  unfold compare
  cases a.preferred <;> cases b.preferred <;> rfl

theorem compare_trans (a b c : ParameterType) (hab : (a.compare b).isLE)
    (hbc : (b.compare c).isLE) : (a.compare c).isLE := by
  rw [compare_isLE] at *
  revert hab hbc
  cases a.preferred <;> cases b.preferred <;> simp

theorem compare_total (a b : ParameterType) : ((a.compare b).isLE || (b.compare a).isLE) = true := by
  rw [compare_isLE, compare_isLE]
  cases a.preferred <;> simp

/-- Sorting keeps the order of types that are alike. -/
theorem filter_preferredFirst {p : ParameterType → Bool} (types : List ParameterType)
    (alike : ∀ a b, p a → p b → a.preferred = b.preferred) :
    (preferredFirst types).filter p = types.filter p := by
  have sorted : (types.filter p).Pairwise fun a b => (a.compare b).isLE := by
    refine List.Pairwise.imp_of_mem ?_ (List.pairwise_of_forall (R := fun _ _ => True) fun _ _ => trivial)
    intro a b ha hb _
    rw [compare_isLE, alike a b (List.mem_filter.mp ha).2 (List.mem_filter.mp hb).2]
    cases b.preferred <;> rfl
  have kept := (List.sublist_mergeSort compare_trans compare_total sorted List.filter_sublist).filter p
  rw [List.filter_filter] at kept
  simp only [Bool.and_self] at kept
  have perm := (List.mergeSort_perm types fun a b => (a.compare b).isLE).filter p
  exact (kept.eq_of_length_le (Nat.le_of_eq perm.length_eq)).symm

/-- A sorted list has all preferred types before the others. -/
theorem eq_of_sorted {types : List ParameterType}
    (sorted : types.Pairwise fun a b => (a.compare b).isLE) :
    types = types.filter preferred ++ types.filter (!·.preferred) := by
  induction types with
  | nil => rfl
  | cons t types ih =>
    obtain ⟨first, sorted⟩ := List.pairwise_cons.mp sorted
    cases h : t.preferred with
    | true => simpa [h] using ih sorted
    | false =>
      have others : types.filter preferred = [] := by
        rw [List.filter_eq_nil_iff]
        intro u hu
        have le := first u hu
        rw [compare_isLE, h] at le
        simpa using le
      have ih := ih sorted
      rw [others, List.nil_append] at ih
      simp only [List.filter_cons, h, others, Bool.false_eq_true, if_false, Bool.not_false, if_true,
        List.nil_append]
      rw [← ih]

theorem preferredFirst_eq (types : List ParameterType) :
    preferredFirst types = types.filter preferred ++ types.filter (!·.preferred) := by
  have sorted : preferredFirst types =
      (preferredFirst types).filter preferred ++ (preferredFirst types).filter (!·.preferred) :=
    eq_of_sorted (List.pairwise_mergeSort compare_trans compare_total types)
  rw [filter_preferredFirst types (by simp_all), filter_preferredFirst types (by simp_all)] at sorted
  exact sorted

theorem preferredFirst_perm (types : List ParameterType) : (preferredFirst types).Perm types :=
  List.mergeSort_perm types _

/-- What is sorted into a sorted list goes behind its like. -/
theorem preferredFirst_append (types : List ParameterType) (t : ParameterType) :
    preferredFirst (preferredFirst types ++ [t]) = preferredFirst (types ++ [t]) := by
  rw [preferredFirst_eq (_ ++ _), preferredFirst_eq (types ++ _)]
  simp only [List.filter_append]
  rw [filter_preferredFirst types (by simp_all), filter_preferredFirst types (by simp_all)]

/-- The first type tells whether a preferred one is there. -/
theorem head?_preferredFirst (types : List ParameterType) :
    (∃ first, (preferredFirst types).head? = some first ∧ first.preferred) ↔
      ∃ u ∈ types, u.preferred := by
  constructor
  · rintro ⟨first, head, preferred⟩
    have among := List.mem_of_head? head
    exact ⟨first, (preferredFirst_perm types).mem_iff.mp among, preferred⟩
  · rintro ⟨u, hu, preferred⟩
    have among : u ∈ types.filter ParameterType.preferred := List.mem_filter.mpr ⟨hu, preferred⟩
    obtain ⟨first, more, front⟩ := List.exists_cons_of_ne_nil (List.ne_nil_of_mem among)
    refine ⟨first, by rw [preferredFirst_eq, front]; rfl, ?_⟩
    have isFirst : first ∈ types.filter ParameterType.preferred := front ▸ List.mem_cons_self
    exact (List.mem_filter.mp isFirst).2

/-! ## Types that can be registered together -/

/-- The types differ in name, and not both are preferred for one regexp. -/
@[mk_iff]
structure Apart (t u : ParameterType) : Prop where
  name : t.name ≠ u.name
  regexps : t.preferred → u.preferred → ∀ regexp ∈ t.regexps, regexp ∉ u.regexps

theorem apart_builtin : Builtin.types.Pairwise Apart := by
  simp [Builtin.types, Builtin.integer, Builtin.bigInteger, Builtin.float, Builtin.double,
    Builtin.byte, Builtin.short, Builtin.long, Builtin.bigDecimal, Builtin.word, Builtin.string,
    ParameterType.unnamed, Builtin.integerRegexps, Builtin.anonymousRegexp, apart_iff]

end ParameterType

namespace Registry

open ParameterType

variable {r : Registry} {t : ParameterType}

/-! ## Entries under keys -/

theorem lookup_put {α : Type} (key other : String) (value : α) (entries : List (String × α)) :
    (put key value entries).lookup other =
      if other = key then some value else entries.lookup other := by
  induction entries with
  | nil =>
    rw [put, List.lookup_cons]
    split <;> simp_all
  | cons entry entries ih =>
    obtain ⟨k, old⟩ := entry
    rw [put]
    split
    · rename_i same
      subst same
      simp only [List.lookup_cons]
      split <;> simp_all
    · simp only [List.lookup_cons, ih]
      split <;> simp_all

/-! ## One more type -/

theorem byName?_insert (r : Registry) (t : ParameterType) (name : String) :
    (r.insert t).byName? name = if name = t.name then some t else r.byName? name :=
  lookup_put t.name name t r.named

theorem lookup_index (t : ParameterType) (buckets : List (String × List ParameterType))
    (regexp other : String) :
    ((index t buckets regexp).lookup other).getD [] =
      if other = regexp ∧ ∀ u ∈ (buckets.lookup other).getD [], u.name ≠ t.name then
        preferredFirst ((buckets.lookup other).getD [] ++ [t])
      else (buckets.lookup other).getD [] := by
  rw [index]
  split
  · rename_i there
    rw [if_neg]
    rintro ⟨rfl, absent⟩
    simp only [List.any_eq_true, decide_eq_true_eq] at there
    obtain ⟨u, hu, same⟩ := there
    exact absent u hu same
  · rename_i absent
    simp only [List.any_eq_true, decide_eq_true_eq, not_exists, not_and] at absent
    rw [lookup_put]
    by_cases same : other = regexp
    · subst same
      rw [if_pos rfl, if_pos ⟨rfl, absent⟩]
      rfl
    · rw [if_neg same, if_neg fun h => same h.1]

/-- A type that is in a bucket stays there once. -/
theorem lookup_foldl_index_of_mem (t : ParameterType) (regexps : List String) (regexp : String)
    (buckets : List (String × List ParameterType))
    (there : t ∈ (buckets.lookup regexp).getD []) :
    ((regexps.foldl (index t) buckets).lookup regexp).getD [] = (buckets.lookup regexp).getD [] := by
  induction regexps generalizing buckets with
  | nil => rfl
  | cons first regexps ih =>
    have same : ((index t buckets first).lookup regexp).getD [] = (buckets.lookup regexp).getD [] := by
      rw [lookup_index, if_neg]
      exact fun h => h.2 t there rfl
    rw [List.foldl_cons, ih _ (same ▸ there), same]

/-- A type with a name of its own goes into the buckets of its regexps, once however often it has
one of them. -/
theorem lookup_foldl_index (t : ParameterType) (regexps : List String) (regexp : String)
    (buckets : List (String × List ParameterType))
    (fresh : ∀ u ∈ (buckets.lookup regexp).getD [], u.name ≠ t.name) :
    ((regexps.foldl (index t) buckets).lookup regexp).getD [] =
      if regexp ∈ regexps then preferredFirst ((buckets.lookup regexp).getD [] ++ [t])
      else (buckets.lookup regexp).getD [] := by
  induction regexps generalizing buckets with
  | nil => rfl
  | cons first regexps ih =>
    rw [List.foldl_cons]
    have after := lookup_index t buckets first regexp
    by_cases same : regexp = first
    · rw [if_pos ⟨same, fresh⟩] at after
      have there : t ∈ ((index t buckets first).lookup regexp).getD [] := by
        rw [after, (preferredFirst_perm _).mem_iff]
        simp
      rw [lookup_foldl_index_of_mem _ _ _ _ there, after, if_pos (by simp [same])]
    · rw [if_neg fun h => same h.1] at after
      rw [ih _ (after ▸ fresh), after]
      simp [same]

theorem bucket_insert (t : ParameterType) (regexp : String)
    (fresh : ∀ u ∈ r.bucket regexp, u.name ≠ t.name) :
    (r.insert t).bucket regexp =
      if regexp ∈ t.regexps then preferredFirst (r.bucket regexp ++ [t]) else r.bucket regexp :=
  lookup_foldl_index t t.regexps regexp r.buckets fresh

/-! ## Indexes in step -/

/-- The registered types with a regexp, in the order of registration. -/
def listing (r : Registry) (regexp : String) : List ParameterType :=
  r.types.filter (regexp ∈ ·.regexps)

structure Indexed (r : Registry) : Prop where
  apart : r.types.Pairwise Apart
  byName : ∀ name, r.byName? name = r.types.find? (·.name = name)
  byRegexp : ∀ regexp, r.bucket regexp = preferredFirst (r.listing regexp)

theorem Indexed.empty : Indexed empty :=
  ⟨.nil, fun _ => rfl, fun _ => (preferredFirst_eq []).symm⟩

theorem Indexed.mem_bucket (indexed : r.Indexed) {regexp : String} {u : ParameterType} :
    u ∈ r.bucket regexp ↔ u ∈ r.types ∧ regexp ∈ u.regexps := by
  rw [indexed.byRegexp, (preferredFirst_perm _).mem_iff, listing, List.mem_filter, decide_eq_true_eq]

theorem Indexed.insert (indexed : r.Indexed) (apart : ∀ u ∈ r.types, u.Apart t) :
    (r.insert t).Indexed where
  apart := by
    refine List.pairwise_append.mpr ⟨indexed.apart, List.pairwise_singleton _ _, ?_⟩
    intro u hu t' ht
    obtain rfl := List.mem_singleton.mp ht
    exact apart u hu
  byName name := by
    rw [byName?_insert, indexed.byName]
    show _ = (r.types ++ [t]).find? _
    rw [List.find?_append]
    split
    · rename_i same
      subst same
      have absent : r.types.find? (·.name = t.name) = none := by
        rw [List.find?_eq_none]
        intro u hu
        simpa using (apart u hu).name
      simp [absent]
    · rename_i differ
      simp [Ne.symm differ]
  byRegexp regexp := by
    have fresh : ∀ u ∈ r.bucket regexp, u.name ≠ t.name := by
      intro u hu
      exact (apart u (indexed.mem_bucket.mp hu).1).name
    rw [bucket_insert t regexp fresh, indexed.byRegexp]
    show _ = preferredFirst ((r.types ++ [t]).filter _)
    rw [List.filter_append]
    split
    · rename_i listed
      rw [preferredFirst_append]
      simp [listing, listed]
    · rename_i unlisted
      simp [listing, unlisted]

theorem Indexed.foldl_insert (indexed : r.Indexed) {types : List ParameterType}
    (apart : (r.types ++ types).Pairwise Apart) : (types.foldl Registry.insert r).Indexed := by
  induction types generalizing r with
  | nil => exact indexed
  | cons t types ih =>
    have between := (List.pairwise_append.mp apart).2.2
    refine ih (indexed.insert fun u hu => between u hu t List.mem_cons_self) ?_
    simpa [Registry.insert] using apart

theorem indexed_initial : Indexed initial :=
  Indexed.empty.foldl_insert apart_builtin

theorem Indexed.byName?_eq_some_iff (indexed : r.Indexed) {name : String} {u : ParameterType} :
    r.byName? name = some u ↔ u ∈ r.types ∧ u.name = name := by
  rw [indexed.byName]
  constructor
  · intro found
    exact ⟨List.mem_of_find?_eq_some found, by simpa using List.find?_some found⟩
  · rintro ⟨hu, rfl⟩
    obtain ⟨before, behind, split⟩ := List.append_of_mem hu
    have apart := indexed.apart
    rw [split] at apart ⊢
    have others : before.find? (·.name = u.name) = none := by
      rw [List.find?_eq_none]
      intro v hv
      simpa using ((List.pairwise_append.mp apart).2.2 v hv u List.mem_cons_self).name
    simp [List.find?_append, others]

theorem Indexed.nodup_names (indexed : r.Indexed) : (r.types.map (·.name)).Nodup :=
  List.pairwise_map.mpr (indexed.apart.imp fun apart => apart.name)

/-! ## Calls -/

theorem Indexed.preferred?_isSome_iff (indexed : r.Indexed) {regexp : String} :
    (r.preferred? regexp).isSome ↔ ∃ u ∈ r.types, u.preferred ∧ regexp ∈ u.regexps := by
  have found : (∃ first, (r.bucket regexp).head? = some first ∧ first.preferred) ↔
      ∃ u ∈ r.types, u.preferred ∧ regexp ∈ u.regexps := by
    rw [indexed.byRegexp, head?_preferredFirst]
    simp only [listing, List.mem_filter, decide_eq_true_eq, and_assoc, and_comm]
  simp only [← found, preferred?, Option.isSome_iff_exists, Option.filter_eq_some_iff]

theorem Indexed.conflict?_isSome_iff (indexed : r.Indexed) :
    (r.conflict? t).isSome ↔
      t.preferred ∧ ∃ regexp ∈ t.regexps, ∃ u ∈ r.types, u.preferred ∧ regexp ∈ u.regexps := by
  rw [conflict?]
  by_cases preferred : t.preferred
  · simp [preferred, indexed.preferred?_isSome_iff]
  · simp [preferred]

/-- The registry after a call, whether it fails or not. -/
def after (r : Registry) (t : ParameterType) : Registry :=
  match register t r with
  | .ok _ r' => r'
  | .error _ r' => r'

/-- All checks come before the first change. -/
theorem register_eq (r : Registry) (t : ParameterType) :
    register t r =
      if (r.byName? t.name).isSome then
        .error (if t.name.isEmpty then .duplicateAnonymous else .duplicateName t.name) r
      else match r.conflict? t with
        | some (regexp, existing) => .error (.preferenceConflict regexp existing.name t.name) r
        | none => .ok t (r.insert t) := by
  unfold register
  by_cases taken : (r.byName? t.name).isSome
  · rw [if_pos taken]
    change (ite ((r.byName? t.name).isSome = true) _ _ : EStateM Error Registry ParameterType) r = _
    rw [if_pos taken]
    rfl
  · rw [if_neg taken]
    change (ite ((r.byName? t.name).isSome = true) _ _ : EStateM Error Registry ParameterType) r = _
    rw [if_neg taken]
    change (match r.conflict? t with
      | some (regexp, existing) => _
      | none => _ : EStateM Error Registry ParameterType) r = _
    cases r.conflict? t with
    | some pair => rfl
    | none => rfl

theorem Indexed.register_fails_iff (indexed : r.Indexed) :
    (∃ e r', register t r = .error e r') ↔
      t.name ∈ r.types.map ParameterType.name ∨
        t.preferred ∧ ∃ regexp ∈ t.regexps, ∃ u ∈ r.types, u.preferred ∧ regexp ∈ u.regexps := by
  have named : (r.byName? t.name).isSome ↔ t.name ∈ r.types.map ParameterType.name := by
    simp only [Option.isSome_iff_exists, indexed.byName?_eq_some_iff, List.mem_map]
  rw [← named, ← indexed.conflict?_isSome_iff, register_eq]
  by_cases taken : (r.byName? t.name).isSome
  · simp [taken]
  · cases h : r.conflict? t <;> simp [taken]

/-- A call that fails changes nothing, and any other adds the type. -/
theorem register_outcome (r : Registry) (t : ParameterType) :
    (∃ e, register t r = .error e r) ∨ register t r = .ok t (r.insert t) := by
  rw [register_eq]
  by_cases taken : (r.byName? t.name).isSome
  · exact .inl ⟨_, if_pos taken⟩
  · rw [if_neg taken]
    cases r.conflict? t with
    | none => exact .inr rfl
    | some pair => exact .inl ⟨_, rfl⟩

/-- A type that can be added stands apart from those there. -/
theorem Indexed.apart_of_register (indexed : r.Indexed) (added : register t r = .ok t (r.insert t)) :
    ∀ u ∈ r.types, u.Apart t := by
  have passed : ¬ ∃ e r', register t r = .error e r' := by simp [added]
  rw [indexed.register_fails_iff, not_or] at passed
  obtain ⟨unnamed, unlisted⟩ := passed
  intro u hu
  constructor
  · intro same
    exact unnamed (List.mem_map.mpr ⟨u, hu, same⟩)
  · intro hp hq regexp mine yours
    exact unlisted ⟨hq, regexp, yours, u, hu, hp, mine⟩

theorem Indexed.after (indexed : r.Indexed) (t : ParameterType) : (r.after t).Indexed := by
  rw [Registry.after]
  rcases register_outcome r t with ⟨e, failed⟩ | added
  · rw [failed]
    exact indexed
  · have apart := indexed.apart_of_register added
    rw [added]
    exact indexed.insert apart

/-- The registry after calls, of which any may have failed. -/
def called (calls : List ParameterType) : Registry :=
  calls.foldl after initial

theorem indexed_called (calls : List ParameterType) : (called calls).Indexed := by
  refine List.foldlRecOn calls after indexed_initial ?_
  intro r indexed t _
  exact indexed.after t

/-- Two preferred types with one regexp would not stand apart. -/
theorem Indexed.length_preferred_le (indexed : r.Indexed) (regexp : String) :
    ((r.bucket regexp).filter ParameterType.preferred).length ≤ 1 := by
  rw [indexed.byRegexp, filter_preferredFirst _ (by simp_all)]
  have each : ∀ u ∈ (r.listing regexp).filter ParameterType.preferred,
      regexp ∈ u.regexps ∧ u.preferred := by
    intro u hu
    obtain ⟨listed, preferred⟩ := List.mem_filter.mp hu
    exact ⟨by simpa using (List.mem_filter.mp listed).2, preferred⟩
  have apart := (indexed.apart.filter (regexp ∈ ·.regexps)).filter ParameterType.preferred
  change ((r.listing regexp).filter ParameterType.preferred).Pairwise Apart at apart
  match (r.listing regexp).filter ParameterType.preferred, each, apart with
  | [], _, _ => simp
  | [u], _, _ => simp
  | u :: v :: more, each, apart =>
    obtain ⟨first, second⟩ := And.intro (each u (by simp)) (each v (by simp))
    have between := (List.pairwise_cons.mp apart).1 v List.mem_cons_self
    exact absurd second.1 (between.regexps first.2 second.2 regexp first.1)

/-- The indexes after any calls, and which call fails next. -/
theorem calls_keep_indexes (calls : List ParameterType) :
    let r := called calls
    (r.types.map ParameterType.name).Nodup ∧
    (∀ name u, r.byName? name = some u ↔ u ∈ r.types ∧ u.name = name) ∧
    (∀ regexp,
      r.bucket regexp =
        (r.types.filter fun u => u.preferred && regexp ∈ u.regexps) ++
          (r.types.filter fun u => !u.preferred && regexp ∈ u.regexps) ∧
      ((r.bucket regexp).map ParameterType.name).Nodup ∧
      ((r.bucket regexp).filter ParameterType.preferred).length ≤ 1) ∧
    ∀ t,
      ((∃ e r', register t r = .error e r') ↔
        t.name ∈ r.types.map ParameterType.name ∨
          t.preferred ∧ ∃ regexp ∈ t.regexps, ∃ u ∈ r.types, u.preferred ∧ regexp ∈ u.regexps) ∧
      (∀ e r', register t r = .error e r' → r' = r) ∧
      (∀ u r', register t r = .ok u r' → u = t ∧ r'.types = r.types ++ [t]) := by
  have indexed := indexed_called calls
  intro r
  refine ⟨indexed.nodup_names, fun _ _ => indexed.byName?_eq_some_iff, fun regexp => ?_, fun t => ?_⟩
  · refine ⟨?_, ?_, indexed.length_preferred_le regexp⟩
    · rw [indexed.byRegexp, preferredFirst_eq, listing, List.filter_filter, List.filter_filter]
    · rw [indexed.byRegexp, ((preferredFirst_perm _).map _).nodup_iff]
      exact indexed.nodup_names.sublist (List.filter_sublist.map _)
  · refine ⟨indexed.register_fails_iff, ?_, ?_⟩
    · intro e r' failed
      rcases register_outcome r t with ⟨e', same⟩ | added
      · rw [same] at failed
        injection failed with _ unchanged
        exact unchanged.symm
      · simp [added] at failed
    · intro u r' added
      rcases register_outcome r t with ⟨e, failed⟩ | same
      · simp [failed] at added
      · rw [same] at added
        injection added with type grown
        exact ⟨type.symm, grown ▸ rfl⟩

end Registry

end StepExpr
