import StepExpr.Proofs.Suggestion.Combinations
import StepExpr.Proofs.Suggestion.Words
import StepExpr.Proofs.Value.Bounded
import StepExpr.Suggestion.Limit

/-!
# The limit over changes of it

The limit is what its last change says, if that sets it. Otherwise the environment has its say, and
then the default.

* `readLimit?_eq_some_iff`: which texts of the environment are limits;
* `override_changed` and `environment_changed`: what a run of changes leaves;
* `Gives`: the limit that a run of changes gives, told by the changes alone;
* `value_changed` puts the parts together with the number of suggestions.
-/

namespace StepExpr

theorem WritesNumeral.not_isBlank {cs : List Char} {n : Int} (h : WritesNumeral cs n) :
    ∀ c ∈ cs, Unicode.isBlank c = false := by
  obtain ⟨-, digits⟩ := h
  intro c hc
  rcases List.mem_append.mp hc with sign | digit
  · rcases Sign.mem_chars sign with rfl | rfl
    all_goals decide
  · exact Pattern.not_isBlank_of_isDigit (digits c digit)

theorem WritesNumeral.ne_nil {cs : List Char} {n : Int} (h : WritesNumeral cs n) : cs ≠ [] := by
  obtain ⟨filled, -⟩ := h
  exact List.append_ne_nil_of_right_ne_nil _ filled

theorem WritesNumeral.nonpos_of_minus {cs : List Char} {n : Int} (h : WritesNumeral cs n)
    (minus : cs.head? = some '-') : n ≤ 0 := by
  obtain ⟨filled, digits⟩ := h
  rename_i s ds
  cases s with
  | none =>
    have digit := digits '-' (List.mem_of_head? minus)
    cases digit
  | plus => cases minus
  | minus => exact Int.neg_nonpos_of_nonneg (Int.natCast_nonneg _)

namespace SuggestionLimit

open Unicode (isBlank)

variable {l : SuggestionLimit} {text : String} {n : Nat}

/-! ## Texts of the environment -/

/-- A text is what `trim` leaves of it with blanks around. -/
theorem exists_blanks_trim (cs : List Char) : ∃ before after, cs = before ++ trim cs ++ after ∧
    (∀ c ∈ before, isBlank c = true) ∧ ∀ c ∈ after, isBlank c = true := by
  have blanks (xs : List Char) : ∀ c ∈ xs.takeWhile isBlank, isBlank c = true :=
    List.all_eq_true.mp List.all_takeWhile
  have back : trim cs ++ ((cs.dropWhile isBlank).reverse.takeWhile isBlank).reverse =
      cs.dropWhile isBlank := by
    rw [trim, ← List.reverse_append, List.takeWhile_append_dropWhile, List.reverse_reverse]
  refine ⟨cs.takeWhile isBlank, ((cs.dropWhile isBlank).reverse.takeWhile isBlank).reverse, ?_,
    blanks cs, fun c hc => blanks _ c (List.mem_reverse.mp hc)⟩
  rw [List.append_assoc, back, List.takeWhile_append_dropWhile]

theorem trim_blanks {before middle after : List Char} (filled : middle ≠ [])
    (solid : ∀ c ∈ middle, isBlank c = false) (front : ∀ c ∈ before, isBlank c = true)
    (back : ∀ c ∈ after, isBlank c = true) : trim (before ++ middle ++ after) = middle := by
  have stop {run xs rest : List Char} (blank : ∀ c ∈ run, isBlank c = true) (some : xs ≠ [])
      (first : ∀ c ∈ xs, isBlank c = false) :
      (run ++ (xs ++ rest)).dropWhile isBlank = xs ++ rest := by
    obtain ⟨c, xs, rfl⟩ := List.exists_cons_of_ne_nil some
    exact Pattern.dropWhile_stop blank (first c List.mem_cons_self) _
  have forward : (before ++ (middle ++ after)).dropWhile isBlank = middle ++ after :=
    stop front filled solid
  have backward : (after.reverse ++ (middle.reverse ++ [])).dropWhile isBlank =
      middle.reverse ++ [] :=
    stop (by simpa using back) (by simpa using filled) (by simpa using solid)
  rw [List.append_nil] at backward
  rw [trim, List.append_assoc, forward, List.reverse_append, backward, List.reverse_reverse]

/-- A limit is written as a numeral of 64 bits other than zero, with blanks around it. -/
inductive WritesLimit (text : String) (n : Nat) : Prop where
  | intro {before numeral after : List Char} : text.toList = before ++ numeral ++ after →
    (∀ c ∈ before, isBlank c = true) → (∀ c ∈ after, isBlank c = true) →
    WritesNumeral numeral n → 0 < n → (n : Int) ≤ (IntRange.unsigned 64).greatest →
    WritesLimit text n

theorem readLimit?_eq_some_iff : readLimit? text = some n ↔ WritesLimit text n := by
  have reads (n : Int) : (IntRange.unsigned 64).read (trim text.toList) = .ok n ↔ _ :=
    IntRange.read_eq_ok_iff (by decide) (by decide)
  constructor
  · intro h
    unfold readLimit? at h
    split at h
    · rename_i read
      split at h
      · rename_i positive
        cases h
        obtain ⟨numeral, -, -, high⟩ := (reads _).mp read
        obtain ⟨before, after, same, front, back⟩ := exists_blanks_trim text.toList
        rw [← Int.toNat_of_nonneg (Int.le_of_lt positive)] at numeral high
        exact .intro same front back numeral (by omega) high
      · cases h
    · cases h
  · rintro ⟨same, front, back, numeral, positive, high⟩
    have cut := trim_blanks numeral.ne_nil numeral.not_isBlank front back
    rw [← same] at cut
    rw [← cut] at numeral
    have unsigned : (trim text.toList).head? ≠ some '-' := fun minus =>
      absurd (numeral.nonpos_of_minus minus) (by omega)
    have read := (reads n).mpr ⟨numeral, fun _ => unsigned, Int.natCast_nonneg n, high⟩
    simp [readLimit?, read, positive]

/-! ## Changes -/

inductive Change where
  | set (n : Nat)
  | clear
  /-- What the environment has from here on. -/
  | environment (text : Option String)
  deriving DecidableEq, Repr

def Change.isEnvironment : Change → Bool
  | environment _ => true
  | _ => false

def change (l : SuggestionLimit) : Change → SuggestionLimit
  | .set n => l.set n
  | .clear => l.clear
  | .environment text => l.setEnvironment text

/-- The limit after some changes. Whatever the environment has at first is a change of it. -/
def changed (changes : List Change) : SuggestionLimit := changes.foldl change initial

/-- A change is in force if none of its sort came later. -/
def InForce (changes : List Change) (c : Change) : Prop :=
  ∃ before later, changes = before ++ c :: later ∧
    ∀ d ∈ later, d.isEnvironment ≠ c.isEnvironment

variable {changes : List Change} {c d : Change}

theorem inForce_concat : InForce (changes ++ [d]) c ↔
    d = c ∨ d.isEnvironment ≠ c.isEnvironment ∧ InForce changes c := by
  constructor
  · rintro ⟨before, later, same, others⟩
    rcases List.eq_nil_or_concat' later with rfl | ⟨later, e, rfl⟩
    · exact .inl (List.append_singleton_inj.mp same).2
    · rw [← List.cons_append, ← List.append_assoc] at same
      obtain ⟨rfl, rfl⟩ := List.append_singleton_inj.mp same
      exact .inr ⟨others d (by simp), before, later, rfl, fun e he => others e (by simp [he])⟩
  · rintro (rfl | ⟨other, before, later, rfl, others⟩)
    · exact ⟨changes, [], rfl, by simp⟩
    · refine ⟨before, later ++ [d], by simp, fun e he => ?_⟩
      rcases List.mem_append.mp he with earlier | last
      · exact others e earlier
      · exact List.mem_singleton.mp last ▸ other

/-- What is set is the number of the change in force, unless it is zero. -/
theorem override_changed (some : n ≠ 0) :
    (changed changes).override = n ↔ InForce changes (.set n) := by
  induction changes using List.reverseRecOn with
  | nil => simp [changed, initial, InForce, some.symm]
  | append_singleton changes d ih =>
    rw [inForce_concat, changed, List.foldl_append, ← changed, ← ih]
    cases d <;> simp [change, set, clear, setEnvironment, Change.isEnvironment, some.symm]

theorem environment_changed :
    (changed changes).environment = some text ↔ InForce changes (.environment (some text)) := by
  induction changes using List.reverseRecOn with
  | nil => simp [changed, initial, InForce]
  | append_singleton changes d ih =>
    rw [inForce_concat, changed, List.foldl_append, ← changed, ← ih]
    cases d <;> simp [change, set, clear, setEnvironment, Change.isEnvironment]

theorem override_eq_zero_iff :
    (changed changes).override = 0 ↔ ∀ n, n ≠ 0 → ¬ InForce changes (.set n) := by
  constructor
  · intro zero n some set
    exact some ((override_changed some).mpr set ▸ zero)
  · intro unset
    by_contra some
    exact unset _ some ((override_changed some).mp rfl)

/-- What the environment has to say is what its change in force says. -/
theorem readLimit?_changed : (changed changes).environment.bind readLimit? = some n ↔
    ∃ text, InForce changes (.environment (some text)) ∧ WritesLimit text n := by
  simp only [Option.bind_eq_some_iff, environment_changed, readLimit?_eq_some_iff]

/-- The limit that some changes give: the number that is set, if it is not zero, or else the one
that the environment has, or else the default. -/
inductive Gives (changes : List Change) : Nat → Prop where
  | set {n : Nat} : n ≠ 0 → InForce changes (.set n) → Gives changes n
  | environment {text : String} {n : Nat} : (∀ m, m ≠ 0 → ¬ InForce changes (.set m)) →
    InForce changes (.environment (some text)) → WritesLimit text n → Gives changes n
  | default : (∀ m, m ≠ 0 → ¬ InForce changes (.set m)) →
    (∀ text n, InForce changes (.environment (some text)) → ¬ WritesLimit text n) →
    Gives changes 256

theorem Gives.pos (h : Gives changes n) : 0 < n := by
  cases h with
  | set some => exact Nat.pos_of_ne_zero some
  | environment _ _ writes =>
    obtain ⟨-, -, -, -, positive, -⟩ := writes
    exact positive
  | default => decide

theorem gives_value (changes : List Change) : Gives changes (changed changes).value := by
  unfold value
  split
  · rename_i some
    exact .set some ((override_changed some).mp rfl)
  · rename_i zero
    have unset := override_eq_zero_iff.mp (Decidable.not_not.mp zero)
    cases given : (changed changes).environment.bind readLimit? with
    | none =>
      refine .default unset ?_
      intro text n has writes
      cases given.symm.trans (readLimit?_changed.mpr ⟨text, has, writes⟩)
    | some n =>
      obtain ⟨text, has, writes⟩ := readLimit?_changed.mp given
      exact .environment unset has writes

theorem Gives.value (h : Gives changes n) : (changed changes).value = n := by
  unfold SuggestionLimit.value
  cases h with
  | set some here =>
    have override := (override_changed some).mpr here
    rw [override, if_pos some]
  | environment unset has writes =>
    rw [if_neg (by simpa using override_eq_zero_iff.mpr unset),
      readLimit?_changed.mpr ⟨_, has, writes⟩, Option.getD_some]
  | default unset without =>
    have given : (changed changes).environment.bind readLimit? = none := by
      apply Option.eq_none_iff_forall_ne_some.mpr
      intro n found
      obtain ⟨text, has, writes⟩ := readLimit?_changed.mp found
      exact without text n has writes
    rw [if_neg (by simpa using override_eq_zero_iff.mpr unset), given]
    rfl

end SuggestionLimit

theorem length_suggest_le (types : List ParameterType) (limit : Nat) (sample : List Char) :
    (suggest types limit sample).length ≤ limit := by
  rw [← List.length_map Suggestion.types, map_types_suggest, Suggestion.firstCombinations_eq_take]
  exact List.length_take_le _ _

namespace SuggestionLimit

/-- After any changes the limit is the one that the changes give. It is never zero, and a sample has
at least one suggestion and at most as many as the limit. -/
theorem value_changed (changes : List Change) :
    (∀ n, (changed changes).value = n ↔ Gives changes n) ∧ 0 < (changed changes).value ∧
      ∀ (r : Registry) (sample : List Char), r.Reachable →
        1 ≤ (suggest r.types (changed changes).value sample).length ∧
          (suggest r.types (changed changes).value sample).length ≤ (changed changes).value := by
  have given := gives_value changes
  refine ⟨?_, given.pos, ?_⟩
  · intro n
    constructor
    · rintro rfl
      exact given
    · exact Gives.value
  · intro r sample reachable
    have some := suggest_ne_nil reachable given.pos sample
    exact ⟨List.length_pos_iff.mpr some, length_suggest_le _ _ _⟩

theorem value_changed_environment : Registry.initial.Reachable ∧
    Gives [.set 3, .environment (some " +12 "), .set 0] 12 ∧
    1 ≤ (suggest Registry.initial.types 12 "4 or 2".toList).length ∧
    (suggest Registry.initial.types 12 "4 or 2".toList).length ≤ 12 := by
  obtain ⟨gives, -, bounds⟩ := value_changed [.set 3, .environment (some " +12 "), .set 0]
  have value : (changed [.set 3, .environment (some " +12 "), .set 0]).value = 12 := by decide
  exact ⟨.initial, (gives 12).mp value, value ▸ bounds .initial "4 or 2".toList .initial⟩

end SuggestionLimit

end StepExpr
