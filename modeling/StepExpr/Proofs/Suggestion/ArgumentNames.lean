import StepExpr.Proofs.Parameter.Lookup
import StepExpr.Proofs.Suggestion.Distinct

/-!
# The argument names of a suggestion

An argument is named for its type, with a number from the second use of the name on. Uses of one
name are told apart by their numbers, but a name can end in a number of its own: where `int` is used
twice, the second use is written like the first use of a type `int2`.

* `mem_usesAfter` and `nodup_usesAfter`: each use of a name is counted once;
* `argumentNames_nodup_iff`: argument names differ unless a use of one name is written like a use of
  another;
* `digits_of_numbered_eq`: then one of the two names is the other with digits behind it;
* `argumentNames_apart` puts the parts together.
-/

namespace StepExpr

namespace Suggestion

variable {n m : String} {k l : Nat} {used : List String} {types : List ParameterType}

/-! ## Numbers -/

/-- What is written behind a name: nothing for the first use, and then the number of the use. -/
def numeral (count : Nat) : List Char := if count = 1 then [] else Nat.toDigits 10 count

/-- The argument name for the use of a name. -/
def numbered (name : String) (count : Nat) : String :=
  if count = 1 then name else name ++ toString count

/-- The first name is the second with digits behind it. -/
def LongerByDigits (n m : String) : Prop :=
  ∃ digits : List Char, digits ≠ [] ∧ (∀ d ∈ digits, d.isDigit = true) ∧
    n.toList = m.toList ++ digits

theorem toList_numbered (name : String) (count : Nat) :
    (numbered name count).toList = name.toList ++ numeral count := by
  unfold numbered numeral
  split
  · rw [List.append_nil]
  · rw [String.toList_append, Nat.toString_eq_repr, Nat.toList_repr]

theorem isDigit_of_mem_numeral {d : Char} (h : d ∈ numeral k) : d.isDigit = true := by
  unfold numeral at h
  split at h
  · cases h
  · exact Nat.isDigit_of_mem_toDigits (by omega) (by omega) h

theorem numeral_injective (h : numeral k = numeral l) : k = l := by
  unfold numeral at h
  split at h <;> split at h
  · omega
  · exact absurd h.symm Nat.toDigits_ne_nil
  · exact absurd h Nat.toDigits_ne_nil
  · have read := congrArg (fun digits => Nat.ofDigitChars 10 digits 0) h
    simpa using read

theorem longerByDigits_of_numeral {digits tail : List Char} (differ : n ≠ m)
    (longer : n.toList = m.toList ++ digits) (behind : numeral l = digits ++ tail) :
    LongerByDigits n m := by
  refine ⟨digits, ?_, fun d hd => isDigit_of_mem_numeral (k := l) ?_, longer⟩
  · rintro rfl
    exact differ (String.toList_inj.mp (by simpa using longer))
  · rw [behind]
    exact List.mem_append_left tail hd

/-- Two names that are written alike at some of their uses differ by digits at the end. -/
theorem digits_of_numbered_eq (differ : n ≠ m) (same : numbered n k = numbered m l) :
    LongerByDigits n m ∨ LongerByDigits m n := by
  have spelled : n.toList ++ numeral k = m.toList ++ numeral l := by
    rw [← toList_numbered, same, toList_numbered]
  rcases List.append_eq_append_iff.mp spelled with ⟨digits, longer, tail⟩ | ⟨digits, longer, tail⟩
  · exact .inr (longerByDigits_of_numeral differ.symm longer tail)
  · exact .inl (longerByDigits_of_numeral differ longer tail)

/-! ## Uses -/

/-- How often a name is used. -/
def uses (s : Suggestion) (name : String) : Nat := (s.types.map (·.name)).count name

/-- The names of types, each with the number of its use, where `used` are the names before. -/
def usesAfter (used : List String) (types : List ParameterType) : List (String × Nat) :=
  (infosAfter used types).map fun i => (i.name, i.count)

theorem usesAfter_cons (used : List String) (t : ParameterType) (types : List ParameterType) :
    usesAfter used (t :: types) =
      (t.name, used.count t.name + 1) :: usesAfter (t.name :: used) types := rfl

theorem mem_usesAfter : (n, k) ∈ usesAfter used types ↔
    used.count n < k ∧ k ≤ used.count n + (types.map (·.name)).count n := by
  induction types generalizing used with
  | nil =>
    simp only [usesAfter, infosAfter, List.map_nil, List.not_mem_nil, List.count_nil, false_iff]
    omega
  | cons t types ih =>
    rw [usesAfter_cons, List.mem_cons, ih, List.map_cons]
    by_cases own : t.name = n
    · subst own
      rw [List.count_cons_self, List.count_cons_self, Prod.mk.injEq]
      constructor
      · rintro (⟨-, rfl⟩ | ⟨above, below⟩) <;> omega
      · rintro ⟨above, below⟩
        by_cases first : k = used.count t.name + 1
        · exact .inl ⟨rfl, first⟩
        · exact .inr (by omega)
    · rw [List.count_cons_of_ne own, List.count_cons_of_ne own, Prod.mk.injEq]
      simp [Ne.symm own]

/-- No two uses of a name have the same number. -/
theorem nodup_usesAfter (used : List String) (types : List ParameterType) :
    (usesAfter used types).Nodup := by
  induction types generalizing used with
  | nil => exact List.nodup_nil
  | cons t types ih =>
    rw [usesAfter_cons, List.nodup_cons, mem_usesAfter, List.count_cons_self]
    exact ⟨by omega, ih _⟩

/-! ## Argument names -/

theorem argumentNames_eq (s : Suggestion) :
    s.argumentNames = (usesAfter [] s.types).map fun (name, count) => numbered name count := by
  rw [usesAfter, List.map_map]
  rfl

/-- Argument names differ unless a use of one name is written like a use of another. -/
theorem argumentNames_nodup_iff (s : Suggestion) : s.argumentNames.Nodup ↔
    ∀ n m k l, n ≠ m → 0 < k → k ≤ s.uses n → 0 < l → l ≤ s.uses m →
      numbered n k ≠ numbered m l := by
  have mem (n : String) (k : Nat) : (n, k) ∈ usesAfter [] s.types ↔ 0 < k ∧ k ≤ s.uses n := by
    rw [mem_usesAfter, List.count_nil, Nat.zero_add]
    rfl
  rw [argumentNames_eq, List.nodup_map_iff_inj_on (nodup_usesAfter [] s.types)]
  constructor
  · intro apart n m k l differ hk hk' hl hl' same
    have equal := apart (n, k) ((mem n k).mpr ⟨hk, hk'⟩) (m, l) ((mem m l).mpr ⟨hl, hl'⟩) same
    exact differ (Prod.mk.inj equal).1
  · rintro apart ⟨n, k⟩ hn ⟨m, l⟩ hm same
    obtain ⟨hk, hk'⟩ := (mem n k).mp hn
    obtain ⟨hl, hl'⟩ := (mem m l).mp hm
    by_cases differ : n = m
    · subst differ
      have numerals : n.toList ++ numeral k = n.toList ++ numeral l := by
        rw [← toList_numbered, ← toList_numbered]
        exact congrArg String.toList same
      rw [numeral_injective (List.append_cancel_left numerals)]
    · exact absurd same (apart n m k l differ hk hk' hl hl')

example : argumentNames ⟨[([], Builtin.integer), ([' '], Builtin.integer),
    ([' '], .ofRegexp "int2" "x")], []⟩ = ["int", "int2", "int2"] := by
  decide

theorem mem_types_of_uses {s : Suggestion} (used : 0 < s.uses n) :
    ∃ t ∈ s.types, t.name = n :=
  List.mem_map.mp (List.count_pos_iff.mp used)

/-- The types of a suggestion are registered, and suggestions may use them. -/
theorem registered_of_suggest {r : Registry} (reachable : r.Reachable) {limit : Nat}
    {sample : List Char} {s : Suggestion} (h : s ∈ suggest r.types limit sample) :
    ∀ t ∈ s.types, t ∈ r.types ∧ t.forSnippets = true := by
  obtain ⟨slots, tail, scans, cuts⟩ := cut_scans reachable sample
  obtain ⟨chosen, offered, rfl⟩ := exists_chosen cuts h
  have types : Suggestion.types ⟨(slots.map Slot.before).zip chosen, tail⟩ = chosen :=
    List.map_snd_zip (by rw [List.length_map, offered.length_eq])
  rw [types]
  exact scans.registered offered

/-- The argument names of a suggestion differ exactly if no use of one name is written like a use of
another. So they always do where no name that suggestions may use is another one with digits behind
it. -/
theorem argumentNames_apart {r : Registry} (reachable : r.Reachable) :
    (∀ limit sample, ∀ s ∈ suggest r.types limit sample, s.argumentNames.Nodup ↔
      ∀ n m k l, n ≠ m → 0 < k → k ≤ s.uses n → 0 < l → l ≤ s.uses m →
        numbered n k ≠ numbered m l) ∧
    ((∀ t ∈ r.types, ∀ u ∈ r.types, t.forSnippets = true → u.forSnippets = true →
        ¬ LongerByDigits t.name u.name) →
      ∀ limit sample, ∀ s ∈ suggest r.types limit sample, s.argumentNames.Nodup) := by
  refine ⟨fun _ _ s _ => argumentNames_nodup_iff s, fun apart limit sample s hs => ?_⟩
  have registered := registered_of_suggest reachable hs
  rw [argumentNames_nodup_iff]
  intro n m k l differ hk hk' hl hl' same
  obtain ⟨t, ht, rfl⟩ := mem_types_of_uses (Nat.lt_of_lt_of_le hk hk')
  obtain ⟨u, hu, rfl⟩ := mem_types_of_uses (Nat.lt_of_lt_of_le hl hl')
  obtain ⟨ht, snippet⟩ := registered t ht
  obtain ⟨hu, snippet'⟩ := registered u hu
  cases digits_of_numbered_eq differ same with
  | inl longer => exact apart t ht u hu snippet snippet' longer
  | inr longer => exact apart u hu t ht snippet' snippet longer

theorem argumentNames_apart_initial : Registry.initial.Reachable ∧
    (∀ t ∈ Registry.initial.types, ∀ u ∈ Registry.initial.types, t.forSnippets = true →
      u.forSnippets = true → ¬ LongerByDigits t.name u.name) ∧
    ∀ limit sample, ∀ s ∈ suggest Registry.initial.types limit sample, s.argumentNames.Nodup := by
  have names : Builtin.types.all (fun t => t.name.toList.all fun c => !c.isDigit) = true := rfl
  have apart : ∀ t ∈ Registry.initial.types, ∀ u ∈ Registry.initial.types, t.forSnippets = true →
      u.forSnippets = true → ¬ LongerByDigits t.name u.name := by
    rw [Registry.types_initial]
    rintro t ht u - - - ⟨digits, some, digit, longer⟩
    obtain ⟨d, hd⟩ := List.exists_mem_of_ne_nil digits some
    have among : d ∈ t.name.toList := longer ▸ List.mem_append_right u.name.toList hd
    have other := List.all_eq_true.mp (List.all_eq_true.mp names t ht) d among
    rw [digit d hd] at other
    cases other
  exact ⟨.initial, apart, (argumentNames_apart .initial).2 apart⟩

end Suggestion

end StepExpr
