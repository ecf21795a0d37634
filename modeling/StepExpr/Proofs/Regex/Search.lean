import Mathlib.Data.Finset.Prod
import Mathlib.Data.Finset.Range
import StepExpr.Regex.Search

/-!
# What a search finds

A search drops threads at a state and a position that it has met before, and stops after some number
of steps. It finds an accepted thread all the same if there is any way to one.

* `Path` counts the steps from one thread to another;
* `explore_sound`: the thread that is found is at the end of a path;
* `explore_complete`: something is found if some thread is at the beginning of a path to acceptance;
* `search_isSome_iff`: a search finds something exactly if some path from a position of the text is
  accepted;
* `search_eq`: what a search finds can be evaluated.
-/

namespace StepExpr

namespace Search

variable {p : Program} {text : Array Char}

/-- The steps from one thread to another. -/
inductive Path (p : Program) (text : Array Char) : Nat → Thread → Thread → Prop where
  | refl {t} : Path p text 0 t t
  | step {n t u v} : u ∈ t.next p text → Path p text n u v → Path p text (n + 1) t v

theorem Path.trans {m n : Nat} {t u v : Thread} (h : Path p text m t u) (g : Path p text n u v) :
    Path p text (m + n) t v := by
  induction h with
  | refl => simpa using g
  | @step m t u w first _ ih =>
    rw [Nat.add_right_comm]
    exact .step first (ih g)

/-- Some number of steps leads from one thread to another. -/
def Reaches (p : Program) (text : Array Char) (t u : Thread) : Prop := ∃ n, Path p text n t u

theorem Reaches.refl {t : Thread} : Reaches p text t t := ⟨0, .refl⟩

theorem Reaches.step {t u : Thread} (h : u ∈ t.next p text) : Reaches p text t u :=
  ⟨1, .step h .refl⟩

theorem Reaches.trans {t u v : Thread} (h : Reaches p text t u) (g : Reaches p text u v) :
    Reaches p text t v := by
  obtain ⟨m, h⟩ := h
  obtain ⟨n, g⟩ := g
  exact ⟨m + n, h.trans g⟩

/-! ## Soundness -/

theorem explore_sound {fuel : Nat} {visited : Visited} {threads : List Thread} {t : Thread}
    (h : explore p text fuel visited threads = some t) :
    t.isAccepted p = true ∧ ∃ u ∈ threads, Reaches p text u t := by
  induction fuel generalizing visited threads with
  | zero => simp [explore] at h
  | succ fuel ih =>
    cases threads with
    | nil => simp [explore] at h
    | cons u threads =>
      simp only [explore] at h
      split at h
      · obtain ⟨accepted, v, hv, way⟩ := ih h
        exact ⟨accepted, v, List.mem_cons_of_mem u hv, way⟩
      · split at h
        · rename_i accepted
          obtain rfl := Option.some.inj h
          exact ⟨accepted, u, List.mem_cons_self, .refl⟩
        · obtain ⟨accepted, v, hv, way⟩ := ih h
          rcases List.mem_append.mp hv with hv | hv
          · exact ⟨accepted, u, List.mem_cons_self, (Reaches.step hv).trans way⟩
          · exact ⟨accepted, v, List.mem_cons_of_mem u hv, way⟩

/-! ## Completeness -/

/-- What decides how a thread goes on. -/
def Thread.spot (t : Thread) : Nat × Nat := (t.state, t.pos)

/-- The spots that can be reached in one step. -/
def Follows (p : Program) (text : Array Char) (x y : Nat × Nat) : Prop :=
  ∃ u ∈ Thread.next p text ⟨x.1, x.2, []⟩, u.spot = y

theorem next_spots (t : Thread) :
    (t.next p text).map Thread.spot = (Thread.next p text ⟨t.state, t.pos, []⟩).map Thread.spot := by
  unfold Thread.next
  cases p.states[t.state]? with
  | none => rfl
  | some s =>
    cases s with
    | set s next =>
      cases text[t.pos]? with
      | none => rfl
      | some c =>
        simp only
        split <;> rfl
    | look l next =>
      simp only
      split <;> rfl
    | _ => rfl

theorem follows_iff {t : Thread} {y : Nat × Nat} :
    Follows p text t.spot y ↔ ∃ u ∈ t.next p text, u.spot = y := by
  have same := congrArg (y ∈ ·) (@next_spots p text t)
  simp only [List.mem_map, eq_iff_iff] at same
  exact same.symm

def AcceptedAt (p : Program) (x : Nat × Nat) : Prop := p.states[x.1]? = some .accept

theorem isAccepted_iff {t : Thread} : t.isAccepted p = true ↔ AcceptedAt p t.spot := by
  simp [Thread.isAccepted, AcceptedAt, Thread.spot]

/-- None of the visited spots is accepted, and what follows them is visited or yet to be. -/
structure Closed (p : Program) (text : Array Char) (visited : Visited) (threads : List Thread) :
    Prop where
  pending : ∀ x, visited.contains x = true → ∀ y, Follows p text x y →
    visited.contains y = true ∨ ∃ t ∈ threads, t.spot = y
  unaccepted : ∀ x, visited.contains x = true → ¬ AcceptedAt p x

/-- The spots of a text that have not been visited. -/
def unvisited (p : Program) (text : Array Char) (visited : Visited) : Finset (Nat × Nat) :=
  (Finset.range p.states.size ×ˢ Finset.range (text.size + 1)).filter
    fun x => visited.contains x = false

theorem next_pos_le {t u : Thread} (h : u ∈ t.next p text) (inside : t.pos ≤ text.size) :
    u.pos ≤ text.size := by
  unfold Thread.next at h
  cases hs : p.states[t.state]? with
  | none => simp [hs] at h
  | some s =>
    rw [hs] at h
    cases s with
    | accept => simp at h
    | jump next =>
      obtain rfl := List.mem_singleton.mp h
      exact inside
    | set s next =>
      cases hc : text[t.pos]? with
      | none => simp [hc] at h
      | some c =>
        have bound : t.pos < text.size := (Array.getElem?_eq_some_iff.mp hc).1
        simp only [hc] at h
        split at h
        · obtain rfl := List.mem_singleton.mp h
          exact bound
        · simp at h
    | look l next =>
      simp only at h
      split at h
      · obtain rfl := List.mem_singleton.mp h
        exact inside
      · simp at h
    | mark m next =>
      obtain rfl := List.mem_singleton.mp h
      exact inside
    | fork preferred other =>
      simp only [List.mem_cons, List.not_mem_nil, or_false] at h
      rcases h with rfl | rfl <;> exact inside

theorem length_next_le (t : Thread) : (t.next p text).length ≤ 2 := by
  unfold Thread.next
  split
  all_goals try split
  all_goals try split
  all_goals simp

theorem next_eq_nil {t : Thread} (h : p.states.size ≤ t.state) : t.next p text = [] := by
  simp [Thread.next, Array.getElem?_eq_none h]

theorem card_unvisited_insert {visited : Visited} {x : Nat × Nat}
    (new : visited.contains x = false) (state : x.1 < p.states.size) (pos : x.2 ≤ text.size) :
    (unvisited p text (visited.insert x)).card < (unvisited p text visited).card := by
  refine Finset.card_lt_card ⟨?_, ?_⟩
  · intro y hy
    simp only [unvisited, Finset.mem_filter, Std.HashSet.contains_insert, Bool.or_eq_false_iff]
      at hy ⊢
    exact ⟨hy.1, hy.2.2⟩
  · intro sub
    have mem : x ∈ unvisited p text visited := by
      simp only [unvisited, Finset.mem_filter, Finset.mem_product, Finset.mem_range]
      exact ⟨⟨state, Nat.lt_succ_of_le pos⟩, new⟩
    have := sub mem
    simp [unvisited] at this

theorem card_unvisited_insert_le {visited : Visited} (x : Nat × Nat) :
    (unvisited p text (visited.insert x)).card ≤ (unvisited p text visited).card := by
  refine Finset.card_le_card fun y hy => ?_
  simp only [unvisited, Finset.mem_filter, Std.HashSet.contains_insert, Bool.or_eq_false_iff]
    at hy ⊢
  exact ⟨hy.1, hy.2.2⟩

theorem Closed.skip {visited : Visited} {t : Thread} {threads : List Thread}
    (h : Closed p text visited (t :: threads)) (seen : visited.contains t.spot = true) :
    Closed p text visited threads where
  pending x hx y hy := by
    rcases h.pending x hx y hy with hv | ⟨u, hu, rfl⟩
    · exact .inl hv
    · rcases List.mem_cons.mp hu with rfl | hu
      · exact .inl seen
      · exact .inr ⟨u, hu, rfl⟩
  unaccepted := h.unaccepted

theorem Closed.visit {visited : Visited} {t : Thread} {threads : List Thread}
    (h : Closed p text visited (t :: threads)) (other : ¬ AcceptedAt p t.spot) :
    Closed p text (visited.insert t.spot) (t.next p text ++ threads) where
  pending x hx y hy := by
    simp only [Std.HashSet.contains_insert, Bool.or_eq_true, beq_iff_eq] at hx ⊢
    rcases hx with rfl | hx
    · obtain ⟨u, hu, rfl⟩ := follows_iff.mp hy
      exact .inr ⟨u, by simp [hu], rfl⟩
    · rcases h.pending x hx y hy with hv | ⟨u, hu, rfl⟩
      · exact .inl (.inr hv)
      · rcases List.mem_cons.mp hu with rfl | hu
        · exact .inl (.inl rfl)
        · exact .inr ⟨u, by simp [hu], rfl⟩
  unaccepted x hx := by
    simp only [Std.HashSet.contains_insert, Bool.or_eq_true, beq_iff_eq] at hx
    rcases hx with rfl | hx
    · exact other
    · exact h.unaccepted x hx

/-- Where nothing is left to do, no path from a visited spot is accepted. -/
theorem Closed.no_path {visited : Visited} (h : Closed p text visited []) {n : Nat} {t u : Thread}
    (way : Path p text n t u) (seen : visited.contains t.spot = true) :
    u.isAccepted p = false := by
  induction way with
  | @refl t =>
    have := h.unaccepted t.spot seen
    rwa [← isAccepted_iff, Bool.not_eq_true] at this
  | @step n t u v first _ ih =>
    rcases h.pending t.spot seen u.spot (follows_iff.mpr ⟨u, first, rfl⟩) with hu | ⟨w, hw, -⟩
    · exact ih hu
    · simp at hw

theorem explore_complete {fuel : Nat} {visited : Visited} {threads : List Thread}
    (closed : Closed p text visited threads) (inside : ∀ t ∈ threads, t.pos ≤ text.size)
    (enough : threads.length + 2 * (unvisited p text visited).card < fuel)
    (nothing : explore p text fuel visited threads = none) :
    ∃ final : Visited, Closed p text final [] ∧
      (∀ x, visited.contains x = true → final.contains x = true) ∧
      ∀ t ∈ threads, final.contains t.spot = true := by
  induction fuel generalizing visited threads with
  | zero => omega
  | succ fuel ih =>
    cases threads with
    | nil => exact ⟨visited, closed, fun _ h => h, by simp⟩
    | cons t threads =>
      rw [List.length_cons] at enough
      simp only [explore] at nothing
      split at nothing
      · rename_i seen
        obtain ⟨final, done, keeps, covers⟩ := ih (closed.skip seen)
          (fun u hu => inside u (by simp [hu])) (by omega) nothing
        refine ⟨final, done, keeps, ?_⟩
        exact List.forall_mem_cons.mpr ⟨keeps _ seen, covers⟩
      · rename_i new
        split at nothing
        · cases nothing
        · rename_i other
          have tPos := inside t (by simp)
          have bound : (t.next p text ++ threads).length +
              2 * (unvisited p text (visited.insert t.spot)).card < fuel := by
            rw [List.length_append]
            by_cases state : t.state < p.states.size
            · have := card_unvisited_insert (by simpa using new) state tPos
              have : (t.next p text).length ≤ 2 := length_next_le t
              simp only [Thread.spot]
              omega
            · have := @card_unvisited_insert_le p text visited t.spot
              simp only [next_eq_nil (Nat.le_of_not_lt state), List.length_nil]
              omega
          obtain ⟨final, done, keeps, covers⟩ := ih
            (closed.visit (mt isAccepted_iff.mpr other)) (by
              intro u hu
              rcases List.mem_append.mp hu with hu | hu
              · exact next_pos_le hu tPos
              · exact inside u (by simp [hu])) bound nothing
          refine ⟨final, done, fun x hx => keeps x (by simp [hx]), ?_⟩
          refine List.forall_mem_cons.mpr ⟨keeps _ (by simp), fun u hu => covers u (by simp [hu])⟩

/-! ## Evaluation -/

/-- The same exploration with the spots that it has visited in a list, which evaluates where a hash
set does not. -/
def exploreAround (p : Program) (text : Array Char) :
    Nat → List (Nat × Nat) → List Thread → Option Thread
  | 0, _, _ => none
  | _ + 1, _, [] => none
  | fuel + 1, passed, t :: threads =>
    if t.spot ∈ passed then exploreAround p text fuel passed threads
    else if t.isAccepted p then some t
    else exploreAround p text fuel (t.spot :: passed) (t.next p text ++ threads)

theorem explore_eq {fuel : Nat} {visited : Visited} {passed : List (Nat × Nat)}
    {threads : List Thread} (same : ∀ x, visited.contains x = true ↔ x ∈ passed) :
    explore p text fuel visited threads = exploreAround p text fuel passed threads := by
  induction fuel generalizing visited passed threads with
  | zero => rfl
  | succ fuel ih =>
    cases threads with
    | nil => rfl
    | cons t threads =>
      have later : explore p text fuel (visited.insert t.spot) (t.next p text ++ threads) =
          exploreAround p text fuel (t.spot :: passed) (t.next p text ++ threads) := by
        apply ih
        intro x
        rw [Std.HashSet.contains_insert, Bool.or_eq_true, beq_iff_eq, same, List.mem_cons,
          eq_comm]
      by_cases seen : t.spot ∈ passed
      · have met : visited.contains (t.state, t.pos) = true := (same t.spot).mpr seen
        rw [explore, exploreAround, if_pos met, if_pos seen, ih same]
      · have new : ¬ visited.contains (t.state, t.pos) = true := mt (same t.spot).mp seen
        rw [explore, exploreAround, if_neg new, if_neg seen]
        exact congrArg _ later

end Search

open Search

namespace Program

variable {p : Program} {text : Array Char}

theorem search_eq : p.search text =
    (exploreAround p text (p.searchFuel text) [] (starts text)).map fun t => ⟨t.marks⟩ := by
  rw [search, explore_eq]
  simp

theorem search_isSome_iff : (p.search text).isSome = true ↔
    ∃ i ≤ text.size, ∃ t, Reaches p text ⟨0, i, []⟩ t ∧ t.isAccepted p = true := by
  rw [search, Option.isSome_map]
  constructor
  · intro h
    obtain ⟨t, found⟩ := Option.isSome_iff_exists.mp h
    obtain ⟨accepted, u, hu, way⟩ := explore_sound found
    simp only [starts, List.mem_map, List.mem_range] at hu
    obtain ⟨i, hi, rfl⟩ := hu
    exact ⟨i, Nat.le_of_lt_succ hi, t, way, accepted⟩
  · rintro ⟨i, hi, t, ⟨n, way⟩, accepted⟩
    rw [Option.isSome_iff_ne_none]
    intro nothing
    have total : (unvisited p text ∅).card = p.states.size * (text.size + 1) := by
      rw [unvisited, Finset.filter_true_of_mem (by simp), Finset.card_product, Finset.card_range,
        Finset.card_range]
    obtain ⟨final, closed, -, covers⟩ := explore_complete ⟨by simp, by simp⟩
      (by simp only [starts, List.mem_map, List.mem_range]; rintro _ ⟨j, hj, rfl⟩; simp only; omega)
      (by
        rw [total, starts, List.length_map, List.length_range, searchFuel, Nat.add_mul,
          Nat.mul_assoc]
        omega) nothing
    have seen := covers ⟨0, i, []⟩ (List.mem_map.mpr ⟨i, List.mem_range.mpr (by omega), rfl⟩)
    rw [closed.no_path way seen] at accepted
    cases accepted

end Program

end StepExpr
