import StepExpr.Proofs.Parameter.Registry

/-!
# Looking types up

What a look-up finds depends on which types are registered, and not on the order of their
registration.

* `Registry.Decides` and `Registry.Ambiguous`: a regexp that some type has either stands for one of
  the types with it, or for none of them;
* `Registry.Indexed.byRegexp_of_decides` and its two companions give the outcome of every look-up by
  regexp;
* `Registry.Indexed.foldlM_define_eq_ok_iff`: types can be defined in a row exactly if they stand apart;
* `Registry.define_in_any_order`: so any order will do, and gives a registry with the same look-ups.
-/

namespace StepExpr

/-- A type with one regexp, as it is made. -/
def ParameterType.ofRegexp (name regexp : String) : ParameterType :=
  ⟨name, [regexp], none, .kind .string, true, false, false⟩

namespace Registry

open ParameterType

variable {r r' : Registry} {t u : ParameterType} {types types' : List ParameterType}
  {regexp : String}

/-! ## By regexp -/

/-- The type is the only registered one with the regexp, or it is preferred. -/
structure Decides (r : Registry) (regexp : String) (t : ParameterType) : Prop where
  registered : t ∈ r.types
  listed : regexp ∈ t.regexps
  first : t.preferred = true ∨ ∀ u ∈ r.types, regexp ∈ u.regexps → u = t

/-- Several registered types have the regexp, and none of them is preferred. -/
structure Ambiguous (r : Registry) (regexp : String) : Prop where
  several : 2 ≤ (r.listing regexp).length
  unpreferred : ∀ u ∈ r.listing regexp, u.preferred = false

theorem mem_listing : u ∈ r.listing regexp ↔ u ∈ r.types ∧ regexp ∈ u.regexps := by
  rw [listing, List.mem_filter, decide_eq_true_eq]

theorem listing_eq_nil_iff : r.listing regexp = [] ↔ ∀ u ∈ r.types, regexp ∉ u.regexps := by
  simp only [List.eq_nil_iff_forall_not_mem, mem_listing, not_and]

/-- A regexp is in no type, or a type decides about it, or it is ambiguous. -/
theorem unlisted_or_decides_or_ambiguous (r : Registry) (regexp : String) :
    (∀ u ∈ r.types, regexp ∉ u.regexps) ∨ (∃ t, r.Decides regexp t) ∨ r.Ambiguous regexp := by
  by_cases preferred : ∃ t ∈ r.listing regexp, t.preferred = true
  · obtain ⟨t, ht, preferred⟩ := preferred
    have both := mem_listing.mp ht
    exact .inr (.inl ⟨t, both.1, both.2, .inl preferred⟩)
  have unpreferred : ∀ u ∈ r.listing regexp, u.preferred = false := by simpa using preferred
  match h : r.listing regexp with
  | [] => exact .inl (listing_eq_nil_iff.mp h)
  | [t] =>
    have only : ∀ u, u ∈ r.types ∧ regexp ∈ u.regexps ↔ u = t := by
      intro u
      rw [← mem_listing, h, List.mem_singleton]
    have both := (only t).mpr rfl
    exact .inr (.inl ⟨t, both.1, both.2, .inr fun u hu listed => (only u).mp ⟨hu, listed⟩⟩)
  | t :: u :: more =>
    refine .inr (.inr ⟨?_, unpreferred⟩)
    rw [h, List.length_cons, List.length_cons]
    omega

variable (limit : Nat) (expression : String) (text : List Char)

theorem Indexed.byRegexp_of_unlisted (indexed : r.Indexed)
    (unlisted : ∀ u ∈ r.types, regexp ∉ u.regexps) :
    r.byRegexp limit regexp expression text = .ok none := by
  have bucket : r.bucket regexp = [] := by
    rw [indexed.byRegexp, listing_eq_nil_iff.mpr unlisted]
    exact preferredFirst_eq []
  rw [Registry.byRegexp, bucket]

/-- The type that decides comes first in the bucket of the regexp. -/
theorem Indexed.bucket_of_decides (indexed : r.Indexed) (h : r.Decides regexp t) :
    ∃ others, r.bucket regexp = t :: others ∧ (t.preferred = true ∨ others = []) := by
  have among : t ∈ r.bucket regexp := indexed.mem_bucket.mpr ⟨h.registered, h.listed⟩
  cases h.first with
  | inl preferred =>
    -- at most one type of a bucket is preferred, and it comes first
    have front : t ∈ (r.bucket regexp).filter ParameterType.preferred :=
      List.mem_filter.mpr ⟨among, preferred⟩
    have most := indexed.length_preferred_le regexp
    match hp : (r.bucket regexp).filter ParameterType.preferred with
    | [] => simp [hp] at front
    | _ :: _ :: _ => simp [hp] at most
    | [first] =>
      rw [hp, List.mem_singleton] at front
      rw [indexed.byRegexp, filter_preferredFirst _ (by simp_all)] at hp
      have bucket : r.bucket regexp = t :: (r.listing regexp).filter (!·.preferred) := by
        rw [indexed.byRegexp, preferredFirst_eq, hp, front]
        rfl
      exact ⟨_, bucket, .inl preferred⟩
  | inr only =>
    have nodup : (r.bucket regexp).Pairwise fun u v => u.name ≠ v.name := by
      have apart := (indexed.apart.filter fun u => decide (regexp ∈ u.regexps)).imp fun h => h.name
      rw [indexed.byRegexp]
      exact (preferredFirst_perm _).symm.pairwise apart fun h => h.symm
    have same : ∀ u ∈ r.bucket regexp, u = t := by
      intro u hu
      have both := indexed.mem_bucket.mp hu
      exact only u both.1 both.2
    match hb : r.bucket regexp with
    | [] => simp [hb] at among
    | [first] =>
      rw [hb] at same
      exact ⟨[], by rw [same first (by simp)], .inr rfl⟩
    | u :: v :: more =>
      rw [hb] at same nodup
      have differ := (List.pairwise_cons.mp nodup).1 v List.mem_cons_self
      rw [same u (by simp), same v (by simp)] at differ
      exact absurd rfl differ

theorem Indexed.byRegexp_of_decides (indexed : r.Indexed) (h : r.Decides regexp t) :
    r.byRegexp limit regexp expression text = .ok (some t) := by
  obtain ⟨others, bucket, first⟩ := indexed.bucket_of_decides h
  rw [Registry.byRegexp, bucket]
  cases first with
  | inl preferred => simp [preferred]
  | inr alone => simp [alone]

/-- The names in the error are in the order of registration. -/
theorem Indexed.byRegexp_of_ambiguous (indexed : r.Indexed) (h : r.Ambiguous regexp) :
    r.byRegexp limit regexp expression text =
      .error (.ambiguousType regexp expression ((r.listing regexp).map ParameterType.name)
        ((suggest r.types limit text).map fun s => String.ofList s.source)) := by
  have bucket : r.bucket regexp = r.listing regexp := by
    have none : (r.listing regexp).filter ParameterType.preferred = [] :=
      List.filter_eq_nil_iff.mpr fun u hu => by simp [h.unpreferred u hu]
    have all : (r.listing regexp).filter (!·.preferred) = r.listing regexp :=
      List.filter_eq_self.mpr fun u hu => by simp [h.unpreferred u hu]
    rw [indexed.byRegexp, preferredFirst_eq, none, all, List.nil_append]
  have several := h.several
  have unpreferred := h.unpreferred
  rw [Registry.byRegexp, bucket]
  match hl : r.listing regexp with
  | [] | [_] => simp [hl] at several
  | first :: second :: more =>
    rw [hl] at unpreferred
    simp [unpreferred first (by simp)]

/-- A regexp that is not ambiguous is looked up. -/
theorem Indexed.byRegexp_eq_ok (indexed : r.Indexed) (h : ¬ r.Ambiguous regexp) :
    ∃ found, r.byRegexp limit regexp expression text = .ok found := by
  rcases unlisted_or_decides_or_ambiguous r regexp with unlisted | ⟨t, decides⟩ | ambiguous
  · exact ⟨none, indexed.byRegexp_of_unlisted limit expression text unlisted⟩
  · exact ⟨some t, indexed.byRegexp_of_decides limit expression text decides⟩
  · exact absurd ambiguous h

theorem Indexed.registered_of_byRegexp (indexed : r.Indexed)
    (found : r.byRegexp limit regexp expression text = .ok (some t)) : t ∈ r.types := by
  unfold Registry.byRegexp at found
  split at found
  · cases found
  · rename_i first others bucket
    split at found
    · cases found
    · obtain rfl := Option.some.inj (Except.ok.inj found)
      have among : first ∈ r.bucket regexp := by simp [bucket]
      exact (indexed.mem_bucket.mp among).1

/-! ## Many definitions -/

/-- A type is defined exactly if it stands apart from those there. -/
theorem Indexed.define_eq_ok_iff (indexed : r.Indexed) :
    r.define t = .ok r' ↔ (∀ u ∈ r.types, u.Apart t) ∧ r' = r.insert t := by
  constructor
  · intro defined
    have added := register_of_define defined
    exact ⟨indexed.apart_of_register added.1, added.2⟩
  · rintro ⟨apart, rfl⟩
    have passes : ¬ ∃ e r', register t r = .error e r' := by
      rw [indexed.register_fails_iff]
      rintro (named | ⟨preferred, regexp, mine, u, hu, both, yours⟩)
      · obtain ⟨u, hu, same⟩ := List.mem_map.mp named
        exact (apart u hu).name same
      · exact (apart u hu).regexps both preferred regexp yours mine
    rcases register_outcome r t with ⟨e, failed⟩ | added
    · exact absurd ⟨e, r, failed⟩ passes
    · rw [define, added]

/-- A type with a new name that is not preferred can always be defined. -/
theorem Indexed.define_of_unpreferred (indexed : r.Indexed) (new : ∀ u ∈ r.types, u.name ≠ t.name)
    (unpreferred : t.preferred = false) : r.define t = .ok (r.insert t) := by
  refine indexed.define_eq_ok_iff.mpr ⟨fun u hu => ⟨new u hu, fun _ preferred => ?_⟩, rfl⟩
  rw [unpreferred] at preferred
  cases preferred

/-- Types can be defined in a row exactly if all stand apart. -/
theorem Indexed.foldlM_define_eq_ok_iff (indexed : r.Indexed) :
    types.foldlM define r = .ok r' ↔
      (r.types ++ types).Pairwise Apart ∧ r' = types.foldl Registry.insert r := by
  induction types generalizing r with
  | nil =>
    have all : (r.types ++ []).Pairwise Apart := by simpa using indexed.apart
    constructor
    · rintro ⟨rfl⟩
      exact ⟨all, rfl⟩
    · rintro ⟨-, rfl⟩
      rfl
  | cons t types ih =>
    have grown : (r.insert t).types = r.types ++ [t] := rfl
    rw [List.foldlM_cons]
    constructor
    · intro defined
      cases first : r.define t with
      | error e =>
        rw [first] at defined
        cases defined
      | ok next =>
        rw [first] at defined
        obtain ⟨apart, rfl⟩ := indexed.define_eq_ok_iff.mp first
        have rest := (ih (indexed.insert apart)).mp defined
        rw [grown, List.append_assoc] at rest
        exact rest
    · rintro ⟨apart, rfl⟩
      have between : ∀ u ∈ r.types, u.Apart t := fun u hu =>
        (List.pairwise_append.mp apart).2.2 u hu t List.mem_cons_self
      rw [indexed.define_eq_ok_iff.mpr ⟨between, rfl⟩]
      apply (ih (indexed.insert between)).mpr
      rw [grown, List.append_assoc]
      exact ⟨apart, rfl⟩

theorem Indexed.of_foldlM_define (indexed : r.Indexed) (defined : types.foldlM define r = .ok r') :
    r'.Indexed ∧ r'.types = r.types ++ types := by
  obtain ⟨apart, rfl⟩ := indexed.foldlM_define_eq_ok_iff.mp defined
  exact ⟨indexed.foldl_insert apart, types_foldl_insert types r⟩

/-- A type with one valid regexp and a new name is always registered. -/
theorem Reachable.insert_ofRegexp {name : String} (h : r.Reachable)
    (free : name.toList.any Template.isReserved = false)
    (valid : Regex.ofText? regexp.toList ≠ none) (new : ∀ t ∈ r.types, t.name ≠ name) :
    (r.insert (.ofRegexp name regexp)).Reachable := by
  have made : ParameterType.create name [regexp] none (.kind .string) = .ok (.ofRegexp name regexp) := by
    simpa [ParameterType.create, free, ParameterType.ofRegexp] using valid
  exact h.define true false made (h.indexed.define_of_unpreferred new rfl)

theorem types_insert_initial (t : ParameterType) :
    (initial.insert t).types = Builtin.types ++ [t] := by
  rw [insert, types_initial]

/-! ## Other orders -/

theorem apart_symm (h : t.Apart u) : u.Apart t :=
  ⟨h.name.symm, fun hu ht regexp mine yours => h.regexps ht hu regexp yours mine⟩

theorem Decides.perm (h : r.Decides regexp t) (perm : r.types.Perm r'.types) :
    r'.Decides regexp t :=
  ⟨perm.mem_iff.mp h.registered, h.listed,
    h.first.imp_right fun only u hu => only u (perm.mem_iff.mpr hu)⟩

theorem listing_perm (perm : r.types.Perm r'.types) :
    (r.listing regexp).Perm (r'.listing regexp) :=
  perm.filter _

theorem Ambiguous.perm (h : r.Ambiguous regexp) (perm : r.types.Perm r'.types) :
    r'.Ambiguous regexp := by
  have same : (r.listing regexp).Perm (r'.listing regexp) := listing_perm perm
  constructor
  · rw [← same.length_eq]
    exact h.several
  · intro u hu
    exact h.unpreferred u (same.mem_iff.mpr hu)

theorem Indexed.byName?_perm (indexed : r.Indexed) (indexed' : r'.Indexed)
    (perm : r.types.Perm r'.types) (name : String) : r'.byName? name = r.byName? name := by
  apply Option.ext
  intro u
  rw [indexed.byName?_eq_some_iff, indexed'.byName?_eq_some_iff, perm.mem_iff]

/-- Types that can be defined one after the other on a new registry can be defined in any order, and
both registries find the same. Where a regexp is ambiguous, each names the types with it in the order
of its own registration. -/
theorem define_in_any_order (defined : types.foldlM define initial = .ok r)
    (perm : types.Perm types') :
    ∃ r', types'.foldlM define initial = .ok r' ∧
      r.types = Builtin.types ++ types ∧ r'.types = Builtin.types ++ types' ∧
      (∀ name, r'.byName? name = r.byName? name) ∧
      ∀ limit regexp expression text,
        let found := r.byRegexp limit regexp expression text
        let found' := r'.byRegexp limit regexp expression text
        ((∀ u ∈ r.types, regexp ∉ u.regexps) ∧ found = .ok none ∧ found' = .ok none) ∨
        (∃ t, r.Decides regexp t ∧ found = .ok (some t) ∧ found' = .ok (some t)) ∨
        (r.Ambiguous regexp ∧ ∃ names names' suggestions suggestions',
          found = .error (.ambiguousType regexp expression names suggestions) ∧
          found' = .error (.ambiguousType regexp expression names' suggestions') ∧
          names = (r.listing regexp).map ParameterType.name ∧
          names' = (r'.listing regexp).map ParameterType.name ∧ names.Perm names') := by
  obtain ⟨indexed, registered⟩ := indexed_initial.of_foldlM_define defined
  -- whether types stand apart does not depend on their order, so the other order passes as well
  have apart := (indexed_initial.foldlM_define_eq_ok_iff.mp defined).1
  have shuffled : (initial.types ++ types).Perm (initial.types ++ types') := perm.append_left _
  have defined' : types'.foldlM define initial = .ok (types'.foldl insert initial) :=
    indexed_initial.foldlM_define_eq_ok_iff.mpr ⟨shuffled.pairwise apart apart_symm, rfl⟩
  obtain ⟨indexed', registered'⟩ := indexed_initial.of_foldlM_define defined'
  have same : r.types.Perm (types'.foldl insert initial).types := by
    rw [registered, registered']
    exact shuffled
  rw [types_initial] at registered registered'
  refine ⟨_, defined', registered, registered', indexed.byName?_perm indexed' same, ?_⟩
  intro limit regexp expression text
  rcases unlisted_or_decides_or_ambiguous r regexp with unlisted | ⟨t, decides⟩ | ambiguous
  · have unlisted' : ∀ u ∈ (types'.foldl insert initial).types, regexp ∉ u.regexps :=
      fun u hu => unlisted u (same.mem_iff.mpr hu)
    exact .inl ⟨unlisted, indexed.byRegexp_of_unlisted limit expression text unlisted,
      indexed'.byRegexp_of_unlisted limit expression text unlisted'⟩
  · exact .inr (.inl ⟨t, decides, indexed.byRegexp_of_decides limit expression text decides,
      indexed'.byRegexp_of_decides limit expression text (decides.perm same)⟩)
  · exact .inr (.inr ⟨ambiguous, _, _, _, _,
      indexed.byRegexp_of_ambiguous limit expression text ambiguous,
      indexed'.byRegexp_of_ambiguous limit expression text (ambiguous.perm same), rfl, rfl,
      (listing_perm same).map _⟩)

theorem define_in_any_order_words :
    let token := { Builtin.word with name := "token" }
    let term := { Builtin.word with name := "term", preferred := true }
    ∃ r r', [token, term].foldlM define initial = .ok r ∧ [token, term].Perm [term, token] ∧
      [term, token].foldlM define initial = .ok r' ∧ ∀ limit expression text,
        r.byRegexp limit Builtin.wordRegexp expression text = .ok (some term) ∧
        r'.byRegexp limit Builtin.wordRegexp expression text = .ok (some term) := by
  intro token term
  have perm : [token, term].Perm [term, token] := .swap _ _ _
  have apart : (initial.types ++ [token, term]).Pairwise Apart := by
    rw [types_initial]
    simp [Builtin.types, Builtin.integer, Builtin.bigInteger, Builtin.float, Builtin.double,
      Builtin.byte, Builtin.short, Builtin.long, Builtin.bigDecimal, Builtin.word, Builtin.string,
      ParameterType.unnamed, Builtin.integerRegexps, Builtin.anonymousRegexp, Builtin.wordRegexp,
      apart_iff, token, term]
  obtain ⟨r, defined⟩ : ∃ r, [token, term].foldlM define initial = .ok r :=
    ⟨_, indexed_initial.foldlM_define_eq_ok_iff.mpr ⟨apart, rfl⟩⟩
  obtain ⟨r', defined', registered, -, -, found⟩ := define_in_any_order defined perm
  have decides : r.Decides Builtin.wordRegexp term :=
    ⟨by simp [registered], by simp [term, Builtin.word], .inl rfl⟩
  refine ⟨r, r', defined, perm, defined', fun limit expression text => ?_⟩
  have indexed := (indexed_initial.of_foldlM_define defined).1
  have first := indexed.byRegexp_of_decides limit expression text decides
  refine ⟨first, ?_⟩
  rcases found limit Builtin.wordRegexp expression text with
    ⟨-, none, -⟩ | ⟨t, -, same, second⟩ | ⟨-, _, _, _, _, failed, -⟩
  · rw [first] at none
    cases none
  · rw [first] at same
    cases same
    exact second
  · rw [first] at failed
    cases failed

end Registry

end StepExpr
