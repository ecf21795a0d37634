import StepExpr.Proofs.Parameter.Registry
import StepExpr.Proofs.Regex.Groups
import StepExpr.Proofs.Regex.Preference
import StepExpr.Proofs.Suggestion.Combinations

/-!
# How a sample is cut

A sample is cut from left to right. From each position every finder has at most one word to offer:
the first that one of its searches finds. The earliest of these words is cut out, and the longest of
those that start there, until no finder has a word.

* `Finder.Meets` is the word that a finder has to offer;
* `Lookout.advance_at`: a lookout that goes on sees what a new one would;
* `Scans` is the cut of a sample, and `cutFrom_scans` says that the cut is made;
* `suggest_scans` puts the parts together.
-/

namespace StepExpr

open Regex

namespace Suggestion

variable {text : Array Char} {o pos start stop : Nat} {f : Finder} {w : Word} {t : ParameterType}
  {types : List ParameterType}

/-! ## Words -/

/-- A search in the sample from `o` on finds the word from `start` to `stop`: some characters with a
boundary on either side. -/
def Finder.Hits (f : Finder) (text : Array Char) (o start stop : Nat) : Prop :=
  ∃ c a b, f.program.search (text.extract o text.size) = some c ∧ c.span? 0 = some (a, b) ∧
    start = o + a ∧ stop = o + b ∧ start < stop ∧ isWhole text start stop = true

/-- The first search from `pos` or a later character that finds a word finds this one. -/
def Finder.Meets (f : Finder) (text : Array Char) (pos start stop : Nat) : Prop :=
  ∃ o, pos ≤ o ∧ f.Hits text o start stop ∧ ∀ k, pos ≤ k → k < o → ∀ a b, ¬ f.Hits text k a b

/-- The word that a search finds. -/
def Finder.hit? (f : Finder) (text : Array Char) (o : Nat) : Option Word :=
  (f.program.search (text.extract o text.size)).bind (wordAt? text o)

theorem hit?_eq_some_iff :
    f.hit? text o = some w ↔ w.origin = o ∧ f.Hits text o w.start w.stop := by
  obtain ⟨origin, start, stop⟩ := w
  simp only [Finder.hit?, wordAt?, Option.bind_eq_bind, Option.bind_eq_some_iff, Prod.exists,
    Option.ite_none_right_eq_some, Option.some.injEq, Word.mk.injEq, Finder.Hits]
  constructor
  · rintro ⟨c, searched, a, b, span, ⟨filled, whole⟩, rfl, rfl, rfl⟩
    exact ⟨rfl, c, a, b, searched, span, rfl, rfl, filled, whole⟩
  · rintro ⟨rfl, c, a, b, searched, span, rfl, rfl, filled, whole⟩
    exact ⟨c, searched, a, b, span, ⟨filled, whole⟩, rfl, rfl, rfl⟩

theorem hit?_eq_none_iff : f.hit? text o = none ↔ ∀ a b, ¬ f.Hits text o a b := by
  rw [Option.eq_none_iff_forall_ne_some]
  constructor
  · intro none a b hits
    exact none ⟨o, a, b⟩ (hit?_eq_some_iff.mpr ⟨rfl, hits⟩)
  · intro none w found
    exact none _ _ (hit?_eq_some_iff.mp found).2

/-- Leaving out the searches behind one that finds nothing loses no word. -/
theorem wordFrom?_eq {n : Nat} (within : o + n ≤ text.size) :
    f.wordFrom? text (List.range' o n) = (List.range' o n).findSome? (f.hit? text) := by
  induction n generalizing o with
  | zero => rfl
  | succ n ih =>
    rw [List.range'_succ, Finder.wordFrom?, List.findSome?_cons, Finder.hit?, ih (by omega)]
    cases searched : f.program.search (text.extract o text.size) with
    | some c =>
      simp only [Option.bind_some]
      cases wordAt? text o c <;> rfl
    | none =>
      simp only [Option.bind_none]
      split
      · rfl
      · rename_i floats
        refine (List.findSome?_eq_none_iff.mpr fun k hk => ?_).symm
        obtain ⟨late, early⟩ := List.mem_range'_1.mp hk
        rw [Finder.hit?, Program.search_rest_eq_none (by simpa using floats) searched (by omega)
          (by omega), Option.bind_none]

theorem nextWord?_eq :
    f.nextWord? text pos = (List.range' pos (text.size - pos)).findSome? (f.hit? text) := by
  unfold Finder.nextWord?
  by_cases within : pos ≤ text.size
  · exact wordFrom?_eq (by omega)
  · have none : text.size - pos = 0 := by omega
    rw [none]
    rfl

theorem findSome?_range'_eq_some_iff {α : Type} {g : Nat → Option α} {n : Nat} {x : α} :
    (List.range' pos n).findSome? g = some x ↔
      ∃ o, pos ≤ o ∧ o < pos + n ∧ g o = some x ∧ ∀ k, pos ≤ k → k < o → g k = none := by
  induction n generalizing pos with
  | zero =>
    simp only [List.range'_zero, List.findSome?_nil, reduceCtorEq, false_iff]
    rintro ⟨o, late, early, -⟩
    omega
  | succ n ih =>
    rw [List.range'_succ, List.findSome?_cons]
    cases here : g pos with
    | some y =>
      constructor
      · intro same
        obtain rfl := Option.some.inj same
        exact ⟨pos, Nat.le_refl pos, by omega, here, fun k late early => by omega⟩
      · rintro ⟨o, late, -, there, none⟩
        rcases Nat.eq_or_lt_of_le late with rfl | later
        · rw [← here, there]
        · rw [none pos (Nat.le_refl pos) later] at here
          cases here
    | none =>
      rw [ih]
      constructor
      · rintro ⟨o, late, early, there, none⟩
        refine ⟨o, by omega, by omega, there, fun k late early => ?_⟩
        rcases Nat.eq_or_lt_of_le late with rfl | later
        · exact here
        · exact none k later early
      · rintro ⟨o, late, early, there, none⟩
        rcases Nat.eq_or_lt_of_le late with rfl | later
        · rw [here] at there
          cases there
        · exact ⟨o, later, by omega, there, fun k late early => none k (by omega) early⟩

theorem exists_regex_of_finder (made : f ∈ finders t) : ∃ regexp ∈ t.regexps, ∃ p r,
    Pattern.parse? (narrowDigits ('(' :: regexp.toList ++ [')'])) = some p ∧ p.regex? = some r ∧
      f = ⟨t, r.program⟩ := by
  obtain ⟨regexp, hr, compiled⟩ := List.mem_filterMap.mp made
  obtain ⟨r, found, rfl⟩ := Option.map_eq_some_iff.mp compiled
  obtain ⟨p, parsed, meaning⟩ := Option.bind_eq_some_iff.mp found
  exact ⟨regexp, hr, p, r, parsed, (Option.filter_eq_some_iff.mp meaning).1, rfl⟩

theorem type_of_finder (made : f ∈ finders t) : f.type = t := by
  obtain ⟨regexp, hr, p, r, -, -, rfl⟩ := exists_regex_of_finder made
  rfl

/-- What a search finds is matched by the expression, and nothing is that starts further left. -/
theorem Finder.Hits.taken {r : Regex} {p : Pattern} (meaning : p.regex? = some r)
    (h : Finder.Hits ⟨t, r.program⟩ text o start stop) : ∃ a b, start = o + a ∧ stop = o + b ∧
      a ≤ (text.extract o text.size).size ∧ r.Matches (text.extract o text.size) a b := by
  obtain ⟨c, a, b, searched, span, rfl, rfl, -, -⟩ := h
  obtain ⟨i, j, within, run⟩ := program_search_run searched
  rw [Pattern.span?_zero (Pattern.numbered_of_regex? meaning) run] at span
  obtain ⟨rfl, rfl⟩ := Prod.mk.inj (Option.some.inj span)
  exact ⟨i, j, rfl, rfl, within, matches_group.mp ⟨_, run⟩⟩

theorem Finder.Hits.within (h : f.Hits text o start stop) (made : f ∈ finders t) :
    o ≤ start ∧ start < stop ∧ stop ≤ text.size := by
  obtain ⟨regexp, hr, p, r, -, meaning, rfl⟩ := exists_regex_of_finder made
  have filled : start < stop := by
    obtain ⟨_, _, _, -, -, -, -, filled, -⟩ := h
    exact filled
  obtain ⟨a, b, rfl, rfl, inside, taken⟩ := h.taken meaning
  have last := taken.le_size inside
  rw [Array.size_extract] at last
  exact ⟨Nat.le_add_right o a, filled, by omega⟩

theorem nextWord?_eq_some_iff (made : f ∈ finders t) : f.nextWord? text pos = some w ↔
    pos ≤ w.origin ∧ f.Hits text w.origin w.start w.stop ∧
      ∀ k, pos ≤ k → k < w.origin → ∀ a b, ¬ f.Hits text k a b := by
  rw [nextWord?_eq, findSome?_range'_eq_some_iff]
  simp only [hit?_eq_some_iff, hit?_eq_none_iff]
  constructor
  · rintro ⟨o, late, -, ⟨rfl, hits⟩, none⟩
    exact ⟨late, hits, none⟩
  · rintro ⟨late, hits, none⟩
    have := hits.within made
    exact ⟨w.origin, late, by omega, ⟨rfl, hits⟩, none⟩

/-- The word that a finder meets is the one that is looked up. -/
theorem meets_iff (made : f ∈ finders t) : f.Meets text pos start stop ↔
    ∃ w, f.nextWord? text pos = some w ∧ w.start = start ∧ w.stop = stop := by
  simp only [nextWord?_eq_some_iff made]
  constructor
  · rintro ⟨o, late, hits, none⟩
    exact ⟨⟨o, start, stop⟩, ⟨late, hits, none⟩, rfl, rfl⟩
  · rintro ⟨w, ⟨late, hits, none⟩, rfl, rfl⟩
    exact ⟨w.origin, late, hits, none⟩

/-! ## Lookouts -/

/-- A lookout that looks from `pos` on. -/
def Lookout.at (text : Array Char) (pos : Nat) (f : Finder) : Lookout := ⟨f, f.nextWord? text pos⟩

/-- A lookout that goes on sees what a new one would. -/
theorem Lookout.advance_at {before : Nat} (late : before ≤ pos) :
    (Lookout.at text before f).advance text pos = Lookout.at text pos f := by
  unfold Lookout.advance
  cases seen : (Lookout.at text before f).word? with
  | none =>
    have none : f.nextWord? text pos = none := by
      simp only [Lookout.at, nextWord?_eq, List.findSome?_eq_none_iff] at seen ⊢
      intro o ho
      obtain ⟨low, high⟩ := List.mem_range'_1.mp ho
      exact seen o (List.mem_range'_1.mpr (by omega))
    simp only [Lookout.at, none, ← seen]
  | some word =>
    dsimp only
    split
    · rename_i ahead
      have same : f.nextWord? text pos = some word := by
        simp only [Lookout.at, nextWord?_eq, findSome?_range'_eq_some_iff] at seen ⊢
        obtain ⟨o, low, high, found, none⟩ := seen
        have origin := (hit?_eq_some_iff.mp found).1
        exact ⟨o, by omega, by omega, found, fun k low high => none k (by omega) high⟩
      rw [Lookout.at, Lookout.at, same]
      exact congrArg _ seen
    · rfl

/-! ## The best word -/

/-- A word that starts at `a` and stops at `b` is not to be cut out before the one at `start`. -/
def Behind (start stop a b : Nat) : Prop := start < a ∨ start = a ∧ b ≤ stop

theorem Behind.refl (a b : Nat) : Behind a b a b := .inr ⟨rfl, Nat.le_refl b⟩

theorem Behind.trans {c d e : Candidate} (h : Behind c.start c.stop d.start d.stop)
    (g : Behind d.start d.stop e.start e.stop) : Behind c.start c.stop e.start e.stop := by
  unfold Behind at *
  omega

/-- The better one of two candidates. -/
theorem better_spec (c d : Candidate) : ∃ e, (if d.before c then d else c) = e ∧
    (e = c ∨ e = d) ∧ Behind e.start e.stop c.start c.stop ∧
      Behind e.start e.stop d.start d.stop := by
  by_cases better : d.before c = true
  · have worse : Behind d.start d.stop c.start c.stop := by
      simp only [Candidate.before, Bool.or_eq_true, Bool.and_eq_true, decide_eq_true_eq] at better
      unfold Behind
      omega
    exact ⟨d, if_pos better, .inr rfl, worse, .refl ..⟩
  · have worse : Behind c.start c.stop d.start d.stop := by
      simp only [Candidate.before, Bool.or_eq_true, Bool.and_eq_true, decide_eq_true_eq] at better
      unfold Behind
      omega
    exact ⟨c, if_neg better, .inl rfl, .refl .., worse⟩

/-- The best candidate is one that all are behind. -/
theorem best?_spec {cs : List Candidate} {best : Candidate} (h : best? cs = some best) :
    best ∈ cs ∧ ∀ c ∈ cs, Behind best.start best.stop c.start c.stop := by
  cases cs with
  | nil => cases h
  | cons c cs =>
    obtain rfl := Option.some.inj h
    clear h
    induction cs generalizing c with
    | nil => exact ⟨List.mem_cons_self, List.forall_mem_singleton.mpr (.refl ..)⟩
    | cons d cs ih =>
      obtain ⟨e, chosen, one, first, second⟩ := better_spec c d
      obtain ⟨among, all⟩ := ih e
      obtain ⟨top, others⟩ := List.forall_mem_cons.mp all
      rw [List.foldl_cons, chosen]
      constructor
      · rcases List.mem_cons.mp among with same | later
        · rcases one with rfl | rfl
          all_goals simp [same]
        · exact List.mem_cons_of_mem c (List.mem_cons_of_mem d later)
      · exact List.forall_mem_cons.mpr ⟨top.trans first,
          List.forall_mem_cons.mpr ⟨top.trans second, others⟩⟩

/-! ## Types -/

theorem mem_of_mem_distinct {ts : List ParameterType} (h : t ∈ distinct ts) : t ∈ ts := by
  induction ts with
  | nil => cases h
  | cons u ts ih =>
    rcases List.mem_cons.mp h with rfl | h
    · exact List.mem_cons_self
    · exact List.mem_cons_of_mem _ (ih (List.mem_filter.mp h).1)

/-- Of many copies of a type one is kept. -/
theorem distinct_append {copies rest : List ParameterType} (same : ∀ u ∈ copies, u = t)
    (apart : ∀ u ∈ rest, u.name ≠ t.name) :
    distinct (copies ++ rest) = if copies.isEmpty then distinct rest else t :: distinct rest := by
  have kept : (distinct rest).filter (·.name != t.name) = distinct rest :=
    List.filter_eq_self.mpr fun u hu => by simpa using apart u (mem_of_mem_distinct hu)
  induction copies with
  | nil => rfl
  | cons u copies ih =>
    obtain ⟨rfl, others⟩ := List.forall_mem_cons.mp same
    rw [List.cons_append, distinct, ih others]
    cases copies with
    | nil => simpa using kept
    | cons v copies => simpa using kept

/-- Where each type gives copies of itself, what is left are the types that give any. -/
theorem distinct_flatMap {copies : ParameterType → List ParameterType}
    (same : ∀ t ∈ types, ∀ u ∈ copies t, u = t) (names : (types.map (·.name)).Nodup) :
    distinct (types.flatMap copies) = types.filter fun t => !(copies t).isEmpty := by
  induction types with
  | nil => rfl
  | cons t types ih =>
    obtain ⟨first, others⟩ := List.forall_mem_cons.mp same
    obtain ⟨new, names⟩ := List.nodup_cons.mp names
    have apart : ∀ u ∈ types.flatMap copies, u.name ≠ t.name := by
      intro u hu
      obtain ⟨v, hv, hu⟩ := List.mem_flatMap.mp hu
      obtain rfl := others v hv u hu
      exact fun equal => new (List.mem_map.mpr ⟨u, hv, equal⟩)
    rw [List.flatMap_cons, distinct_append first apart, ih others names, List.filter_cons]
    cases (copies t).isEmpty <;> rfl

/-- What is offered for a word that is cut out: the types that suggestions may use and of which a
finder meets the word, each once. They stand in the order of their registration, but the preferred
ones come first. -/
structure Offers (types : List ParameterType) (text : Array Char) (pos start stop : Nat)
    (offers : List ParameterType) : Prop where
  some : offers ≠ []
  once : (offers.map (·.name)).Nodup
  mem_iff : ∀ t, t ∈ offers ↔
    t ∈ types ∧ t.forSnippets = true ∧ ∃ f ∈ finders t, f.Meets text pos start stop
  ordered : ∃ found : List ParameterType, found.Sublist types ∧
    offers = found.filter (·.preferred) ++ found.filter (!·.preferred)

/-- The finders of the types that suggestions may use. -/
def watchers (types : List ParameterType) : List Finder :=
  (types.filter ParameterType.forSnippets).flatMap finders

theorem mem_watchers :
    f ∈ watchers types ↔ ∃ t ∈ types, t.forSnippets = true ∧ f ∈ finders t := by
  simp only [watchers, List.mem_flatMap, List.mem_filter, and_assoc]

/-- The candidates are the words that the finders meet. -/
theorem mem_candidates {fs : List Finder} (made : ∀ f ∈ fs, f ∈ finders f.type) {c : Candidate} :
    c ∈ candidates (fs.map (Lookout.at text pos)) ↔
      ∃ f ∈ fs, f.type = c.type ∧ f.Meets text pos c.start c.stop := by
  simp only [candidates, List.filterMap_map, List.mem_filterMap, Function.comp, Lookout.at,
    Option.map_eq_some_iff]
  constructor
  · rintro ⟨f, hf, w, seen, rfl⟩
    exact ⟨f, hf, rfl, (meets_iff (made f hf)).mpr ⟨w, seen, rfl, rfl⟩⟩
  · rintro ⟨f, hf, same, meets⟩
    obtain ⟨w, seen, start, stop⟩ := (meets_iff (made f hf)).mp meets
    exact ⟨f, hf, w, seen, by rw [same, start, stop]⟩

variable {best c : Candidate}

theorem mem_candidates_watchers :
    c ∈ candidates ((watchers types).map (Lookout.at text pos)) ↔
      c.type ∈ types ∧ c.type.forSnippets = true ∧
        ∃ f ∈ finders c.type, f.Meets text pos c.start c.stop := by
  have made : ∀ f ∈ watchers types, f ∈ finders f.type := by
    intro f hf
    obtain ⟨t, -, -, made⟩ := mem_watchers.mp hf
    exact type_of_finder made ▸ made
  rw [mem_candidates made]
  constructor
  · rintro ⟨f, hf, same, meets⟩
    obtain ⟨t, ht, snippet, made⟩ := mem_watchers.mp hf
    rw [← same, type_of_finder made]
    exact ⟨ht, snippet, f, made, meets⟩
  · rintro ⟨ht, snippet, f, made, meets⟩
    exact ⟨f, mem_watchers.mpr ⟨_, ht, snippet, made⟩, type_of_finder made, meets⟩

/-- The words that the finders of a type meet between the ends of another. -/
def tied (text : Array Char) (pos : Nat) (best : Candidate) (t : ParameterType) : List Candidate :=
  (candidates ((finders t).map (Lookout.at text pos))).filter fun c =>
    c.start = best.start && c.stop = best.stop

theorem mem_tied : c ∈ tied text pos best t ↔
    (c.type = t ∧ ∃ f ∈ finders t, f.Meets text pos best.start best.stop) ∧
      c.start = best.start ∧ c.stop = best.stop := by
  have made : ∀ f ∈ finders t, f ∈ finders f.type := fun f hf => type_of_finder hf ▸ hf
  simp only [tied, List.mem_filter, mem_candidates made, Bool.and_eq_true, decide_eq_true_eq]
  refine and_congr_left fun ⟨start, stop⟩ => ?_
  rw [start, stop]
  constructor
  · rintro ⟨f, made, same, meets⟩
    exact ⟨by rw [← same, type_of_finder made], f, made, meets⟩
  · rintro ⟨same, f, made, meets⟩
    exact ⟨f, made, by rw [same, type_of_finder made], meets⟩

theorem tied_ne_nil_iff :
    tied text pos best t ≠ [] ↔ ∃ f ∈ finders t, f.Meets text pos best.start best.stop := by
  constructor
  · intro some
    obtain ⟨c, hc⟩ := List.exists_mem_of_ne_nil _ some
    exact (mem_tied.mp hc).1.2
  · intro found
    have there : Candidate.mk t best.start best.stop ∈ tied text pos best t :=
      mem_tied.mpr ⟨⟨rfl, found⟩, rfl, rfl⟩
    exact List.ne_nil_of_mem there

/-- The choices for a word are the types that suggestions may use and that meet it. -/
theorem choices_eq (names : (types.map (·.name)).Nodup) :
    choices best (candidates ((watchers types).map (Lookout.at text pos))) =
      ParameterType.preferredFirst ((types.filter ParameterType.forSnippets).filter fun t =>
        !((tied text pos best t).map Candidate.type).isEmpty) := by
  have same : ∀ t ∈ types.filter ParameterType.forSnippets,
      ∀ u ∈ (tied text pos best t).map Candidate.type, u = t := by
    intro t _ u hu
    obtain ⟨c, hc, rfl⟩ := List.mem_map.mp hu
    exact (mem_tied.mp hc).1.1
  have apart : ((types.filter ParameterType.forSnippets).map (·.name)).Nodup :=
    names.sublist (List.filter_sublist.map _)
  rw [← distinct_flatMap same apart]
  simp only [choices, candidates, watchers, tied, List.filterMap_map, List.filterMap_flatMap,
    List.filter_flatMap, List.map_flatMap]

theorem choices_offers (names : (types.map (·.name)).Nodup)
    (found : best ∈ candidates ((watchers types).map (Lookout.at text pos))) :
    Offers types text pos best.start best.stop
      (choices best (candidates ((watchers types).map (Lookout.at text pos)))) := by
  rw [choices_eq names]
  generalize hc : ((types.filter ParameterType.forSnippets).filter fun t =>
    !((tied text pos best t).map Candidate.type).isEmpty) = chosen
  have sublist : chosen.Sublist types := hc ▸ List.filter_sublist.trans List.filter_sublist
  have mem_chosen (t : ParameterType) : t ∈ chosen ↔ t ∈ types ∧ t.forSnippets = true ∧
      ∃ f ∈ finders t, f.Meets text pos best.start best.stop := by
    rw [← hc, List.mem_filter, List.mem_filter, and_assoc, Bool.not_eq_true',
      List.isEmpty_eq_false_iff, ne_eq, List.map_eq_nil_iff, ← ne_eq, tied_ne_nil_iff]
  have offered : best.type ∈ chosen := (mem_chosen _).mpr (mem_candidates_watchers.mp found)
  have perm := ParameterType.preferredFirst_perm chosen
  refine ⟨?_, ?_, fun t => ?_, chosen, sublist, ParameterType.preferredFirst_eq chosen⟩
  · exact List.ne_nil_of_mem (perm.mem_iff.mpr offered)
  · exact (perm.map _).nodup_iff.mpr (names.sublist (sublist.map _))
  · rw [perm.mem_iff, mem_chosen]

/-! ## Cuts -/

/-- A word that is cut out, with what stands before it from the word before on, and the types that
are offered for it. -/
structure Slot where
  before : List Char
  word : List Char
  offers : List ParameterType

/-- The part of a sample that some words and what stands before them make up. -/
def covered (slots : List Slot) : List Char := slots.flatMap fun slot => slot.before ++ slot.word

/-- The cut of a sample from `pos` on: the words with what stands between them, and the rest. A word
is the earliest that any finder meets and the longest of those, and the rest has no word left. -/
inductive Scans (types : List ParameterType) (text : Array Char) :
    Nat → List Slot → List Char → Prop where
  | stop {pos : Nat} : (∀ t ∈ types, t.forSnippets = true → ∀ f ∈ finders t, ∀ a b,
      ¬ f.Meets text pos a b) → Scans types text pos [] (text.extract pos text.size).toList
  | slot {pos start stop : Nat} {offers : List ParameterType} {slots : List Slot}
      {tail : List Char} :
      pos ≤ start → start < stop → stop ≤ text.size → isWhole text start stop = true →
      (∀ t ∈ types, t.forSnippets = true → ∀ f ∈ finders t, ∀ a b,
        f.Meets text pos a b → Behind start stop a b) →
      Offers types text pos start stop offers → Scans types text stop slots tail →
      Scans types text pos (⟨(text.extract pos start).toList, (text.extract start stop).toList,
        offers⟩ :: slots) tail

theorem Finder.Hits.whole (h : f.Hits text o start stop) : isWhole text start stop = true := by
  obtain ⟨_, _, _, -, -, -, -, -, whole⟩ := h
  exact whole

theorem best?_eq_none_iff {cs : List Candidate} : best? cs = none ↔ cs = [] := by
  cases cs <;> simp [best?]

/-- A lookout that went on gives the candidates that a new one would. -/
theorem map_advance {before : Nat} (late : before ≤ pos) (fs : List Finder) :
    (fs.map (Lookout.at text before)).map (Lookout.advance text pos) =
      fs.map (Lookout.at text pos) := by
  rw [List.map_map]
  exact List.map_congr_left fun f _ => Lookout.advance_at late

/-- The sample is cut so, and there is always fuel enough. -/
theorem cutFrom_scans (names : (types.map (·.name)).Nodup) {fuel before : Nat} (late : before ≤ pos)
    (within : pos ≤ text.size) (enough : text.size - pos < fuel) :
    ∃ slots tail, Scans types text pos slots tail ∧
      cutFrom ((watchers types).map (Lookout.at text before)) text fuel pos =
        ⟨slots.map fun slot => (slot.before, slot.offers), tail⟩ := by
  induction fuel generalizing pos before with
  | zero => omega
  | succ fuel ih =>
    unfold cutFrom
    simp only [map_advance late]
    cases chosen : best? (candidates ((watchers types).map (Lookout.at text pos))) with
    | none =>
      refine ⟨[], _, .stop fun t ht snippet f made a b meets => ?_, rfl⟩
      have some : Candidate.mk t a b ∈ candidates ((watchers types).map (Lookout.at text pos)) :=
        mem_candidates_watchers.mpr ⟨ht, snippet, f, made, meets⟩
      rw [best?_eq_none_iff.mp chosen] at some
      cases some
    | some best =>
      obtain ⟨found, first⟩ := best?_spec chosen
      obtain ⟨-, -, f, made, o, from_, hits, -⟩ := mem_candidates_watchers.mp found
      obtain ⟨start, filled, stop⟩ := hits.within made
      have later : pos ≤ best.stop := by omega
      obtain ⟨slots, tail, scans, rest⟩ := ih later stop (by omega)
      refine ⟨_, tail, .slot (by omega) filled stop hits.whole
        (fun t ht snippet f made a b meets => ?_) (choices_offers names found) scans, ?_⟩
      · exact first ⟨t, a, b⟩ (mem_candidates_watchers.mpr ⟨ht, snippet, f, made, meets⟩)
      · simp only [rest]
        rfl

theorem extract_append {i j : Nat} (order : i ≤ j) (within : j ≤ text.size) :
    (text.extract i j).toList ++ (text.extract j text.size).toList =
      (text.extract i text.size).toList := by
  rw [← Array.toList_append, Array.extract_append_extract, Nat.min_eq_left order,
    Nat.max_eq_right within]

/-- The parts of a cut make up the sample. -/
theorem Scans.parts {slots : List Slot} {tail : List Char} (h : Scans types text pos slots tail) :
    (text.extract pos text.size).toList = covered slots ++ tail := by
  induction h with
  | stop => rfl
  | @slot pos start stop _ slots tail late filled within _ _ _ _ ih =>
    have whole : (text.extract start stop).toList ++ (text.extract stop text.size).toList =
        (text.extract start text.size).toList := extract_append (Nat.le_of_lt filled) within
    rw [covered, List.flatMap_cons, ← covered, List.append_assoc, List.append_assoc, ← ih, whole,
      extract_append late (by omega)]

end Suggestion

theorem Suggestion.cut_scans {r : Registry} (reachable : r.Reachable) (sample : List Char) :
    ∃ slots tail, Scans r.types sample.toArray 0 slots tail ∧
      cut r.types sample = ⟨slots.map fun slot => (slot.before, slot.offers), tail⟩ := by
  have names : (r.types.map (·.name)).Nodup :=
    List.pairwise_map.mpr (reachable.indexed.apart.imp fun apart => apart.name)
  exact cutFrom_scans names (Nat.le_refl 0) (Nat.zero_le _) (Nat.lt_succ_self sample.length)

/-- A suggestion takes one of the types that are offered for each word. -/
theorem Suggestion.exists_chosen {types : List ParameterType} {limit : Nat}
    {sample tail : List Char} {slots : List Slot} {s : Suggestion}
    (cuts : cut types sample = ⟨slots.map fun slot => (slot.before, slot.offers), tail⟩)
    (h : s ∈ suggest types limit sample) :
    ∃ chosen, List.Forall₂ (fun t slot => t ∈ slot.offers) chosen slots ∧
      s = ⟨(slots.map Slot.before).zip chosen, tail⟩ := by
  obtain ⟨chosen, hc, rfl⟩ := List.mem_map.mp h
  have befores : (slots.map fun slot => (slot.before, slot.offers)).map Prod.fst =
      slots.map Slot.before := List.map_map
  have offers : (slots.map fun slot => (slot.before, slot.offers)).map Prod.snd =
      slots.map Slot.offers := List.map_map
  rw [cuts] at hc ⊢
  dsimp only at hc ⊢
  rw [offers] at hc
  have offered := chosen_of_firstCombinations hc
  exact ⟨chosen, List.forall₂_map_right_iff.mp offered, by rw [befores]⟩

/-- A sample is cut by its words, and every suggestion for it is made of the cut: its text is that
between the words, and its types are among those that are offered for the words. -/
theorem suggest_scans {r : Registry} (reachable : r.Reachable) (sample : List Char) :
    ∃ slots tail, Suggestion.Scans r.types sample.toArray 0 slots tail ∧
      sample = Suggestion.covered slots ++ tail ∧
      Suggestion.cut r.types sample =
        ⟨slots.map fun slot => (slot.before, slot.offers), tail⟩ ∧
      ∀ limit, ∀ s ∈ suggest r.types limit sample,
        List.Forall₂ (fun t slot => t ∈ slot.offers) s.types slots ∧
        s.source = ((slots.zip s.types).flatMap fun (slot, t) =>
          Suggestion.escapeSample slot.before ++ '\x7b' :: t.name.toList ++ ['\x7d']) ++
          Suggestion.escapeSample tail := by
  obtain ⟨slots, tail, scans, cuts⟩ := Suggestion.cut_scans reachable sample
  refine ⟨slots, tail, scans, ?_, cuts, fun limit s hs => ?_⟩
  · simpa using scans.parts
  · obtain ⟨chosen, offered, rfl⟩ := Suggestion.exists_chosen cuts hs
    have types : Suggestion.types ⟨(slots.map Suggestion.Slot.before).zip chosen, tail⟩ = chosen :=
      List.map_snd_zip (by rw [List.length_map, offered.length_eq])
    rw [types]
    refine ⟨offered, ?_⟩
    rw [Suggestion.source, List.zip_map_left, List.flatMap_map]
    rfl

theorem suggest_scans_cukes : Registry.initial.Reachable ∧ ∃ slots tail,
    Suggestion.Scans Registry.initial.types "4 cukes/day".toList.toArray 0 slots tail ∧
      "4 cukes/day".toList = Suggestion.covered slots ++ tail ∧
      ∀ s ∈ suggest Registry.initial.types 1 "4 cukes/day".toList,
        List.Forall₂ (fun t slot => t ∈ slot.offers) s.types slots := by
  obtain ⟨slots, tail, scans, parts, -, made⟩ := suggest_scans .initial "4 cukes/day".toList
  exact ⟨.initial, slots, tail, scans, parts, fun s hs => (made 1 s hs).1⟩

end StepExpr
