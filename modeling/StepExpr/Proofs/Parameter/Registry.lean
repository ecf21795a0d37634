import StepExpr.Proofs.Parameter.Indexes
import StepExpr.Proofs.Regex.Piece

/-!
# Registered types

* `Registry.Reachable`: a registry is made from the built-in types by defining more;
* `Registry.Reachable.sound`: every regexp of every type in it then has a meaning.
-/

namespace StepExpr

/-- The regexp has a meaning. -/
def HasMeaning (regexp : String) : Prop :=
  ∃ p, Pattern.parse? regexp.toList = some p ∧ p.Defined .initial

/-- The text of a regexp with its digits written out can match between two positions. -/
def FitsRegexp (text : Array Char) (regexp : String) (i j : Nat) : Prop :=
  ∃ p r, Pattern.parse? (narrowDigits regexp.toList) = some p ∧ p.regex? = some r ∧ r.Matches text i j

/-- The type has a regexp, and all its regexps have a meaning. -/
structure ParameterType.Sound (t : ParameterType) : Prop where
  filled : t.regexps ≠ []
  valid : ∀ regexp ∈ t.regexps, HasMeaning regexp

/-- No regexp of the type turns the flag `x` on or has an opening bracket in the name of a group. -/
def ParameterType.Tame (t : ParameterType) : Prop :=
  ∀ regexp ∈ t.regexps, Pattern.Tame regexp.toList

/-! ## Built-in types -/

/-- What holds for each built-in regexp holds for the regexps of all built-in types. -/
theorem forall_builtin {P : String → Prop} (integer : P "-?\\d+") (natural : P "\\d+")
    (float : P Builtin.floatRegexp) (word : P Builtin.wordRegexp) (string : P Builtin.stringRegexp)
    (any : P Builtin.anonymousRegexp) : ∀ t ∈ Builtin.types, ∀ regexp ∈ t.regexps, P regexp := by
  simp [Builtin.types, Builtin.integer, Builtin.bigInteger, Builtin.float, Builtin.double,
    Builtin.byte, Builtin.short, Builtin.long, Builtin.bigDecimal, Builtin.word, Builtin.string,
    ParameterType.unnamed, Builtin.integerRegexps, integer, natural, float, word, string, any]

theorem builtin_sound : ∀ t ∈ Builtin.types, t.Sound := by
  have valid : ∀ t ∈ Builtin.types, ∀ regexp ∈ t.regexps, HasMeaning regexp := by
    apply forall_builtin
    · exact ⟨_, rfl, rfl, rfl⟩
    · exact ⟨_, rfl, rfl⟩
    · exact ⟨_, rfl, rfl, rfl, rfl, rfl⟩
    · exact ⟨_, rfl, rfl⟩
    · exact ⟨_, rfl, ⟨rfl, ⟨⟨rfl, rfl, rfl, rfl⟩, rfl⟩⟩, rfl, ⟨rfl, rfl, rfl, rfl⟩, rfl⟩
    · exact ⟨_, rfl, rfl⟩
  have filled : ∀ t ∈ Builtin.types, t.regexps ≠ [] := by
    simp [Builtin.types, Builtin.integer, Builtin.bigInteger, Builtin.float, Builtin.double,
      Builtin.byte, Builtin.short, Builtin.long, Builtin.bigDecimal, Builtin.word, Builtin.string,
      ParameterType.unnamed, Builtin.integerRegexps]
  exact fun t ht => ⟨filled t ht, valid t ht⟩

theorem builtin_tame : ∀ t ∈ Builtin.types, t.Tame := by
  apply forall_builtin <;>
    exact Pattern.tame_of_scan? rfl (by simp [Pattern.Lexeme.Quiet, Pattern.Lexeme.NamesNoBracket])

/-! ## Defined types -/

section
variable {name : String} {regexps : List String} {typeName : Option String}
  {transformer : Transformer} {t : ParameterType}

/-- What `create` checks, and what it makes. -/
theorem ParameterType.create_eq_ok
    (h : ParameterType.create name regexps typeName transformer = .ok t) :
    (∀ c ∈ name.toList, Template.isReserved c = false) ∧ regexps ≠ [] ∧
      (∀ regexp ∈ regexps, (Regex.ofText? regexp.toList).isSome = true) ∧
      t = ⟨name, regexps, typeName, transformer, true, false, false⟩ := by
  unfold ParameterType.create at h
  split at h
  · cases h
  rename_i unreserved
  split at h
  · cases h
  rename_i filled
  split at h
  · cases h
  rename_i valid
  obtain ⟨rfl⟩ := h
  refine ⟨by simpa using unreserved, by simpa using filled, fun regexp hr => ?_, rfl⟩
  simp only [List.any_eq_true, not_exists, not_and, Option.isNone_iff_eq_none] at valid
  exact Option.isSome_iff_ne_none.mpr (valid regexp hr)

theorem ParameterType.sound_of_create
    (h : ParameterType.create name regexps typeName transformer = .ok t) : t.Sound := by
  obtain ⟨-, filled, valid, rfl⟩ := ParameterType.create_eq_ok h
  refine ⟨filled, fun regexp hr => ?_⟩
  obtain ⟨r, found⟩ := Option.isSome_iff_exists.mp (valid regexp hr)
  obtain ⟨p, parsed, meaning⟩ := Option.bind_eq_some_iff.mp found
  obtain ⟨meaning, -⟩ := Option.filter_eq_some_iff.mp meaning
  exact ⟨p, parsed, (Pattern.regex?_spec meaning).1⟩

theorem ParameterType.unreserved_of_create
    (h : ParameterType.create name regexps typeName transformer = .ok t) :
    ∀ c ∈ t.name.toList, Template.isReserved c = false := by
  obtain ⟨unreserved, -, -, rfl⟩ := ParameterType.create_eq_ok h
  exact unreserved

theorem ParameterType.named_of_create
    (h : ParameterType.create name regexps typeName transformer = .ok t) : t.anonymous = false := by
  obtain ⟨-, -, -, rfl⟩ := ParameterType.create_eq_ok h
  rfl

end

namespace Registry

/-- The registries that are made by defining types. -/
inductive Reachable : Registry → Prop where
  | initial : Reachable .initial
  | define {r r' : Registry} {name : String} {regexps : List String} {typeName : Option String}
      {transformer : Transformer} {t : ParameterType} (forSnippets preferred : Bool)
      (before : Reachable r) (made : ParameterType.create name regexps typeName transformer = .ok t)
      (defined : r.define { t with forSnippets, preferred } = .ok r') : Reachable r'

theorem types_foldl_insert (types : List ParameterType) (r : Registry) :
    (types.foldl insert r).types = r.types ++ types := by
  induction types generalizing r with
  | nil => simp
  | cons t types ih => simp [ih, insert]

theorem types_initial : Registry.initial.types = Builtin.types :=
  types_foldl_insert Builtin.types empty

theorem register_of_define {r r' : Registry} {t : ParameterType} (h : r.define t = .ok r') :
    register t r = .ok t (r.insert t) ∧ r' = r.insert t := by
  unfold define at h
  rcases register_outcome r t with ⟨e, failed⟩ | added
  · simp [failed] at h
  · rw [added] at h
    obtain ⟨rfl⟩ := h
    exact ⟨added, rfl⟩

theorem types_define {r r' : Registry} {t : ParameterType} (h : r.define t = .ok r') :
    r'.types = r.types ++ [t] := by
  obtain ⟨-, rfl⟩ := register_of_define h
  rfl

theorem Reachable.indexed {r : Registry} (h : r.Reachable) : r.Indexed := by
  induction h with
  | initial => exact indexed_initial
  | define forSnippets preferred _ _ defined ih =>
    obtain ⟨added, rfl⟩ := register_of_define defined
    exact ih.insert (ih.apart_of_register added)

theorem Reachable.sound {r : Registry} (h : r.Reachable) : ∀ t ∈ r.types, t.Sound := by
  induction h with
  | initial => exact types_initial ▸ builtin_sound
  | define forSnippets preferred _ made defined ih =>
    obtain ⟨filled, valid⟩ := ParameterType.sound_of_create made
    rw [types_define defined]
    exact List.forall_mem_append.mpr ⟨ih, List.forall_mem_singleton.mpr ⟨filled, valid⟩⟩

/-- No name of a type has a character that templates reserve. -/
theorem Reachable.unreserved {r : Registry} (h : r.Reachable) :
    ∀ t ∈ r.types, ∀ c ∈ t.name.toList, Template.isReserved c = false := by
  induction h with
  | initial =>
    have names : Builtin.types.all
        (fun t => t.name.toList.all fun c => !Template.isReserved c) = true := rfl
    rw [types_initial]
    intro t ht c hc
    simpa using List.all_eq_true.mp (List.all_eq_true.mp names t ht) c hc
  | define forSnippets preferred _ made defined ih =>
    have unreserved := ParameterType.unreserved_of_create made
    rw [types_define defined]
    exact List.forall_mem_append.mpr ⟨ih, List.forall_mem_singleton.mpr unreserved⟩

/-- The only anonymous type is the one that is always there. -/
theorem Reachable.eq_unnamed_of_anonymous {r : Registry} (h : r.Reachable) :
    ∀ t ∈ r.types, t.anonymous = true → t = .unnamed Builtin.anonymousRegexp := by
  induction h with
  | initial =>
    rw [types_initial]
    simp [Builtin.types, Builtin.integer, Builtin.bigInteger, Builtin.float, Builtin.double,
      Builtin.byte, Builtin.short, Builtin.long, Builtin.bigDecimal, Builtin.word, Builtin.string]
  | define forSnippets preferred _ made defined ih =>
    have named := ParameterType.named_of_create made
    rw [types_define defined]
    refine List.forall_mem_append.mpr ⟨ih, List.forall_mem_singleton.mpr fun anonymous => ?_⟩
    exact absurd anonymous (Bool.eq_false_iff.mp named)

theorem Reachable.regexps_of_anonymous {r : Registry} (h : r.Reachable) :
    ∀ t ∈ r.types, t.anonymous = true → t.regexps = [Builtin.anonymousRegexp] := by
  intro t ht anonymous
  rw [h.eq_unnamed_of_anonymous t ht anonymous]
  rfl

end Registry

end StepExpr
