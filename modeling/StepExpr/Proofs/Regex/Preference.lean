import Mathlib.Data.Nat.Find
import StepExpr.Proofs.Regex.Program

/-!
# Which match a search prefers

A search drops threads that it has met before. What it finds is all the same decided by the threads
that lead to acceptance: the others only cost time. So a search finds in the rest of a text what it
finds there in the text, if its program tests no positions.

* `Leads`: from a spot there is a way to acceptance around some other spots;
* `Prefers`: what an exploration finds, without the steps that lead nowhere;
* `Program.search_leftmost`: no way to acceptance starts further left than the one that is found;
* `Program.search_rest`: a search from where a match starts finds this match.
-/

namespace StepExpr

namespace Search

variable {p : Program} {text : Array Char} {o : Nat} {t u : Thread} {ts us : List Thread}
  {x z : Nat × Nat} {V W : Nat × Nat → Prop}

/-! ## The rest of a text -/

/-- The marks in the rest of a text as marks in the text, where `o` characters stand before the
rest. -/
def shiftMarks (o : Nat) (ms : Marks) : Marks := ms.map fun (m, pos) => (m, o + pos)

def Thread.shift (o : Nat) (t : Thread) : Thread := ⟨t.state, o + t.pos, shiftMarks o t.marks⟩

def shiftSpot (o : Nat) (x : Nat × Nat) : Nat × Nat := (x.1, o + x.2)

theorem spot_shift (t : Thread) : (t.shift o).spot = shiftSpot o t.spot := rfl

theorem lookup_shiftMarks {m : Mark} {ms : Marks} :
    (shiftMarks o ms).lookup m = (ms.lookup m).map (o + ·) := by
  induction ms with
  | nil => rfl
  | cons entry ms ih =>
    rw [shiftMarks, List.map_cons, ← shiftMarks, List.lookup_cons, List.lookup_cons]
    split
    · rfl
    · exact ih

theorem span?_shiftMarks {ms : Marks} (n : Nat) : Captures.span? ⟨shiftMarks o ms⟩ n =
    (Captures.span? ⟨ms⟩ n).map fun (a, b) => (o + a, o + b) := by
  unfold Captures.span?
  rw [lookup_shiftMarks, lookup_shiftMarks]
  cases ms.lookup (.opened n) with
  | none => rfl
  | some a => cases ms.lookup (.closed n) <;> rfl

theorem getElem?_rest (i : Nat) : (text.extract o text.size)[i]? = text[o + i]? := by
  rw [Array.getElem?_extract]
  split
  · rfl
  · exact (Array.getElem?_eq_none (by omega)).symm

theorem ne_look (floats : p.testsPositions = false) {s : State} {i : Nat}
    (hs : p.states[i]? = some s) (l : Look) (next : Nat) : s ≠ .look l next := by
  rintro rfl
  obtain ⟨within, here⟩ := Array.getElem?_eq_some_iff.mp hs
  have tests : p.testsPositions = true := Array.any_eq_true.mpr ⟨i, within, by rw [here]⟩
  rw [floats] at tests
  cases tests

/-- Where no positions are tested, a step in the rest of a text is one in the text. -/
theorem next_shift (floats : p.testsPositions = false) (t : Thread) :
    (t.shift o).next p text = (t.next p (text.extract o text.size)).map (Thread.shift o) := by
  unfold Thread.next
  simp only [Thread.shift, getElem?_rest]
  cases hs : p.states[t.state]? with
  | none => rfl
  | some s =>
    cases s with
    | look l next => exact absurd rfl (ne_look floats hs l next)
    | set s next =>
      cases text[o + t.pos]? with
      | none => rfl
      | some c =>
        by_cases inside : s.contains c = true <;> simp [inside, Thread.shift, Nat.add_assoc]
    | _ => simp [Thread.shift, shiftMarks]

theorem follows_shift (floats : p.testsPositions = false) :
    Follows p text (shiftSpot o x) z ↔
      ∃ y, z = shiftSpot o y ∧ Follows p (text.extract o text.size) x y := by
  have same := @next_shift p text o floats ⟨x.1, x.2, []⟩
  simp only [Thread.shift, shiftMarks, List.map_nil] at same
  simp only [Follows, shiftSpot, same, List.mem_map]
  constructor
  · rintro ⟨_, ⟨u, hu, rfl⟩, rfl⟩
    exact ⟨u.spot, rfl, u, hu, rfl⟩
  · rintro ⟨_, rfl, u, hu, rfl⟩
    exact ⟨_, ⟨u, hu, rfl⟩, rfl⟩

/-! ## Ways to acceptance -/

/-- There is a way from a spot to an accepted one that passes none of `V`. -/
inductive Leads (p : Program) (text : Array Char) (V : Nat × Nat → Prop) : Nat × Nat → Prop where
  | accepted {x : Nat × Nat} : ¬ V x → AcceptedAt p x → Leads p text V x
  | step {x y : Nat × Nat} : ¬ V x → Follows p text x y → Leads p text V y → Leads p text V x

/-- There is any way from a spot to an accepted one. -/
def Live (p : Program) (text : Array Char) (x : Nat × Nat) : Prop := Leads p text (fun _ => False) x

/-- Also to pass around one more spot: the way can go on from there if it comes by. -/
theorem Leads.around (h : Leads p text V x) (z : Nat × Nat) (other : ¬ AcceptedAt p z) :
    Leads p text (fun y => y = z ∨ V y) x ∨
      ∃ y, Follows p text z y ∧ Leads p text (fun y => y = z ∨ V y) y := by
  induction h with
  | @accepted x free accepts =>
    refine .inl (.accepted ?_ accepts)
    rintro (rfl | hv)
    · exact other accepts
    · exact free hv
  | @step x y free follows _ ih =>
    rcases ih with rest | back
    · by_cases same : x = z
      · exact .inr ⟨y, same ▸ follows, rest⟩
      · refine .inl (.step ?_ follows rest)
        rintro (hx | hv)
        · exact same hx
        · exact free hv
    · exact .inr back

theorem Leads.free (h : Leads p text V x) : ¬ V x := by
  cases h with
  | accepted free => exact free
  | step free => exact free

theorem Leads.live (h : Leads p text V x) : Live p text x := by
  induction h with
  | accepted _ accepts => exact .accepted id accepts
  | step _ follows _ ih => exact .step id follows ih

theorem live_of_accepted (h : t.isAccepted p = true) : Live p text t.spot :=
  .accepted id (isAccepted_iff.mp h)

theorem live_of_next (hu : u ∈ t.next p text) (h : Live p text u.spot) : Live p text t.spot :=
  .step id (follows_iff.mpr ⟨u, hu, rfl⟩) h

theorem live_of_path {n : Nat} (way : Path p text n t u) (accepted : u.isAccepted p = true) :
    Live p text t.spot := by
  induction way with
  | refl => exact live_of_accepted accepted
  | step first _ ih => exact live_of_next first (ih accepted)

theorem live_shift (floats : p.testsPositions = false) :
    Live p text (shiftSpot o x) ↔ Live p (text.extract o text.size) x := by
  constructor
  · intro h
    generalize hz : shiftSpot o x = z at h
    induction h generalizing x with
    | accepted _ accepts =>
      subst hz
      exact .accepted id accepts
    | step _ follows _ ih =>
      subst hz
      obtain ⟨y, rfl, inside⟩ := (follows_shift floats).mp follows
      exact .step id inside (ih rfl)
  · intro h
    induction h with
    | accepted _ accepts => exact .accepted id accepts
    | step _ follows _ ih => exact .step id ((follows_shift floats).mpr ⟨_, rfl, follows⟩) ih

/-! ## Preference -/

/-- The thread that an exploration finds first, where `V` are the spots that it has passed. Threads
that lead nowhere can be dropped at once. -/
inductive Prefers (p : Program) (text : Array Char) :
    (Nat × Nat → Prop) → List Thread → Thread → Prop where
  | dead {V : Nat × Nat → Prop} {t u : Thread} {ts : List Thread} :
    ¬ Live p text t.spot → Prefers p text V ts u → Prefers p text V (t :: ts) u
  | seen {V : Nat × Nat → Prop} {t u : Thread} {ts : List Thread} :
    V t.spot → Prefers p text V ts u → Prefers p text V (t :: ts) u
  | accept {V : Nat × Nat → Prop} {t : Thread} {ts : List Thread} :
    ¬ V t.spot → t.isAccepted p = true → Prefers p text V (t :: ts) t
  | step {V : Nat × Nat → Prop} {t u : Thread} {ts : List Thread} :
    ¬ V t.spot → t.isAccepted p = false → Live p text t.spot →
      Prefers p text (fun x => x = t.spot ∨ V x) (t.next p text ++ ts) u →
      Prefers p text V (t :: ts) u

theorem Prefers.drop (h : Prefers p text V (ts ++ us) u) (dead : ∀ t ∈ ts, ¬ Live p text t.spot) :
    Prefers p text V us u := by
  induction ts with
  | nil => exact h
  | cons t ts ih =>
    obtain ⟨first, others⟩ := List.forall_mem_cons.mp dead
    cases h with
    | dead _ h => exact ih h others
    | seen _ h => exact ih h others
    | accept _ accepted => exact absurd (live_of_accepted accepted) first
    | step _ _ live => exact absurd live first

/-- At most one thread is preferred. -/
theorem Prefers.unique {u' : Thread} (h : Prefers p text V ts u) (g : Prefers p text V ts u') :
    u = u' := by
  induction h with
  | dead dead _ ih =>
    cases g with
    | dead _ g => exact ih g
    | seen _ g => exact ih g
    | accept _ accepted => exact absurd (live_of_accepted accepted) dead
    | step _ _ live => exact absurd live dead
  | seen seen _ ih =>
    cases g with
    | dead _ g => exact ih g
    | seen _ g => exact ih g
    | accept free => exact absurd seen free
    | step free => exact absurd seen free
  | accept free accepted =>
    cases g with
    | dead dead => exact absurd (live_of_accepted accepted) dead
    | seen seen => exact absurd seen free
    | accept => rfl
    | step _ other =>
      rw [accepted] at other
      cases other
  | step free other live _ ih =>
    cases g with
    | dead dead => exact absurd live dead
    | seen seen => exact absurd seen free
    | accept _ accepted =>
      rw [accepted] at other
      cases other
    | step _ _ _ g => exact ih g

/-- What an exploration finds is preferred. Which of the spots that lead nowhere it has visited does
not count. -/
theorem prefers_of_explore {fuel : Nat} {visited : Visited}
    (h : explore p text fuel visited ts = some u)
    (same : ∀ x, Live p text x → (V x ↔ visited.contains x = true)) : Prefers p text V ts u := by
  induction fuel generalizing visited ts V with
  | zero => cases h
  | succ fuel ih =>
    cases ts with
    | nil => cases h
    | cons t ts =>
      unfold explore at h
      by_cases live : Live p text t.spot
      · split at h
        · rename_i seen
          exact .seen ((same _ live).mpr seen) (ih h same)
        · rename_i free
          have free : ¬ V t.spot := fun hv => free ((same _ live).mp hv)
          split at h
          · rename_i accepted
            obtain rfl := Option.some.inj h
            exact .accept free accepted
          · rename_i other
            refine .step free (by simpa using other) live (ih h fun x hx => ?_)
            rw [same x hx, Std.HashSet.contains_insert, Bool.or_eq_true, beq_iff_eq, eq_comm]
            exact Iff.rfl
      · have dead : ∀ u ∈ t.next p text, ¬ Live p text u.spot :=
          fun u hu alive => live (live_of_next hu alive)
        split at h
        · exact .dead live (ih h same)
        · split at h
          · rename_i accepted
            exact absurd (live_of_accepted accepted) live
          · refine .dead live (Prefers.drop (ih h fun x hx => ?_) dead)
            have apart : (t.state, t.pos) ≠ x := fun hs => live (by rwa [← hs] at hx)
            simp [same x hx, apart]

/-- A way that comes by the first thread goes on from one of those that follow it. -/
theorem Leads.goes_on {first : Thread} (h : Leads p text V t.spot) (ht : t ∈ first :: ts)
    (other : first.isAccepted p = false) : ∃ u ∈ first.next p text ++ ts,
      Leads p text (fun x => x = first.spot ∨ V x) u.spot := by
  have unaccepted : ¬ AcceptedAt p first.spot := fun accepts => by
    rw [isAccepted_iff.mpr accepts] at other
    cases other
  rcases h.around first.spot unaccepted with stays | ⟨y, follows, rest⟩
  · rcases List.mem_cons.mp ht with rfl | ht
    · exact absurd (.inl rfl) stays.free
    · exact ⟨t, List.mem_append_right _ ht, stays⟩
  · obtain ⟨u, hu, rfl⟩ := follows_iff.mp follows
    exact ⟨u, List.mem_append_left _ hu, rest⟩

theorem exists_tail {first : Thread} {rest : List Thread} (ht : t ∈ ts)
    (same : ts ++ us = first :: rest) : ∃ ts', ts = first :: ts' ∧ ts' ++ us = rest := by
  obtain ⟨first', ts', rfl⟩ := List.exists_cons_of_ne_nil (List.ne_nil_of_mem ht)
  obtain ⟨rfl, tail⟩ := List.cons.inj same
  exact ⟨ts', rfl, tail⟩

/-- The preferred thread comes from the first threads if there is a way from them. -/
theorem Prefers.reaches (h : Prefers p text V (ts ++ us) u) (ht : t ∈ ts)
    (leads : Leads p text V t.spot) : ∃ w ∈ ts, Reaches p text w u := by
  generalize same : ts ++ us = all at h
  induction h generalizing ts t with
  | dead dead _ ih =>
    obtain ⟨ts, rfl, tail⟩ := exists_tail ht same
    rcases List.mem_cons.mp ht with rfl | ht
    · exact absurd leads.live dead
    · obtain ⟨w, hw, way⟩ := ih ht leads tail
      exact ⟨w, List.mem_cons_of_mem _ hw, way⟩
  | seen seen _ ih =>
    obtain ⟨ts, rfl, tail⟩ := exists_tail ht same
    rcases List.mem_cons.mp ht with rfl | ht
    · exact absurd seen leads.free
    · obtain ⟨w, hw, way⟩ := ih ht leads tail
      exact ⟨w, List.mem_cons_of_mem _ hw, way⟩
  | accept =>
    obtain ⟨ts, rfl, -⟩ := exists_tail ht same
    exact ⟨_, List.mem_cons_self, .refl⟩
  | @step _ first _ _ _ other _ _ ih =>
    obtain ⟨ts, rfl, rfl⟩ := exists_tail ht same
    obtain ⟨v, hv, leads⟩ := leads.goes_on ht other
    obtain ⟨w, hw, way⟩ := ih hv leads (List.append_assoc ..)
    rcases List.mem_append.mp hw with hw | hw
    · exact ⟨first, List.mem_cons_self, (Reaches.step hw).trans way⟩
    · exact ⟨w, List.mem_cons_of_mem _ hw, way⟩

/-- What is preferred in the rest of a text is preferred in the text. -/
theorem Prefers.shift (floats : p.testsPositions = false)
    (h : Prefers p (text.extract o text.size) V ts u) (same : ∀ x, W (shiftSpot o x) ↔ V x) :
    Prefers p text W (ts.map (Thread.shift o)) (u.shift o) := by
  induction h generalizing W with
  | dead dead _ ih => exact .dead (fun live => dead ((live_shift floats).mp live)) (ih same)
  | seen seen _ ih => exact .seen ((same _).mpr seen) (ih same)
  | accept free accepted => exact .accept (fun hw => free ((same _).mp hw)) accepted
  | @step V t ts u free other live _ ih =>
    refine .step (fun hw => free ((same _).mp hw)) other ((live_shift floats).mpr live) ?_
    rw [next_shift floats, ← List.map_append]
    refine ih fun x => or_congr ?_ (same x)
    rw [spot_shift]
    simp [shiftSpot, Prod.ext_iff]

theorem live_iff : Live p text t.spot ↔ ∃ u, Reaches p text t u ∧ u.isAccepted p = true := by
  constructor
  · intro h
    generalize hx : t.spot = x at h
    induction h generalizing t with
    | accepted _ accepts =>
      subst hx
      exact ⟨t, .refl, isAccepted_iff.mpr accepts⟩
    | step _ follows _ ih =>
      subst hx
      obtain ⟨v, hv, same⟩ := follows_iff.mp follows
      obtain ⟨u, way, accepted⟩ := ih same
      exact ⟨u, (Reaches.step hv).trans way, accepted⟩
  · rintro ⟨u, ⟨n, way⟩, accepted⟩
    exact live_of_path way accepted

theorem live_start_iff {i : Nat} :
    Live p text (0, i) ↔ ∃ u, Reaches p text ⟨0, i, []⟩ u ∧ u.isAccepted p = true :=
  @live_iff p text ⟨0, i, []⟩

end Search

open Search

/-! ## Searches -/

namespace Program

variable {p : Program} {text : Array Char} {c : Captures} {i : Nat}

theorem search_isSome_iff_live :
    (p.search text).isSome = true ↔ ∃ i ≤ text.size, Live p text (0, i) := by
  simp only [search_isSome_iff, live_start_iff]

/-- A thread at each position from `i` on. -/
def startsFrom (text : Array Char) (i : Nat) : List Thread :=
  (List.range' i (text.size + 1 - i)).map fun pos => ⟨0, pos, []⟩

theorem starts_eq (within : i ≤ text.size) :
    starts text = ((List.range i).map fun pos => ⟨0, pos, []⟩) ++ startsFrom text i := by
  have split : List.range (text.size + 1) = List.range i ++ List.range' i (text.size + 1 - i) := by
    have whole := @List.range'_append_1 0 i (text.size + 1 - i)
    rw [Nat.zero_add, Nat.add_sub_cancel' (by omega)] at whole
    rw [List.range_eq_range', List.range_eq_range', whole]
  rw [starts, startsFrom, split, List.map_append]

theorem startsFrom_eq (within : i ≤ text.size) :
    startsFrom text i = ⟨0, i, []⟩ :: startsFrom text (i + 1) := by
  have more : text.size + 1 - i = (text.size + 1 - (i + 1)) + 1 := by omega
  rw [startsFrom, more, List.range'_succ]
  rfl

theorem starts_rest (within : i ≤ text.size) :
    (starts (text.extract i text.size)).map (Thread.shift i) = startsFrom text i := by
  have count : (text.extract i text.size).size + 1 = text.size + 1 - i := by
    rw [Array.size_extract]
    omega
  rw [starts, startsFrom, List.map_map, count, List.range'_eq_map_range, List.map_map]
  rfl

/-- A match that is found starts at the first position from which there is a way to acceptance, and
is the one that is preferred there. -/
theorem search_leftmost (h : p.search text = some c) : ∃ i ≤ text.size, ∃ t, c = ⟨t.marks⟩ ∧
    Reaches p text ⟨0, i, []⟩ t ∧ t.isAccepted p = true ∧ (∀ k < i, ¬ Live p text (0, k)) ∧
    Prefers p text (fun _ => False) (startsFrom text i) t := by
  classical
  obtain ⟨t, found, rfl⟩ := Option.map_eq_some_iff.mp h
  obtain ⟨accepted, u, hu, way⟩ := explore_sound found
  obtain ⟨k, hk, rfl⟩ := List.mem_map.mp hu
  have start : ∃ i, Live p text (0, i) := ⟨k, live_start_iff.mpr ⟨t, way, accepted⟩⟩
  have least : ∀ k < Nat.find start, ¬ Live p text (0, k) := fun k hk => Nat.find_min start hk
  have within : Nat.find start ≤ text.size :=
    Nat.le_trans (Nat.find_min' start (live_start_iff.mpr ⟨t, way, accepted⟩))
      (Nat.le_of_lt_succ (List.mem_range.mp hk))
  have prefers := prefers_of_explore (V := fun _ => False) found (by simp)
  rw [starts_eq within] at prefers
  have rest := prefers.drop fun t ht => by
    obtain ⟨k, hk, rfl⟩ := List.mem_map.mp ht
    exact least k (List.mem_range.mp hk)
  refine ⟨Nat.find start, within, t, rfl, ?_, accepted, least, rest⟩
  rw [startsFrom_eq within, ← List.singleton_append] at rest
  obtain ⟨w, hw, way⟩ := rest.reaches (List.mem_singleton.mpr rfl) (Nat.find_spec start)
  exact List.mem_singleton.mp hw ▸ way

/-- What is not found in the rest of a text is not found in less of it, if no positions are
tested. -/
theorem search_rest_eq_none {j : Nat} (floats : p.testsPositions = false)
    (h : p.search (text.extract i text.size) = none) (late : i ≤ j) (within : j ≤ text.size) :
    p.search (text.extract j text.size) = none := by
  rw [← Option.not_isSome_iff_eq_none, search_isSome_iff_live] at h ⊢
  rintro ⟨k, inside, live⟩
  rw [Array.size_extract] at inside
  have same : shiftSpot j (0, k) = shiftSpot i (0, j - i + k) := by
    simp only [shiftSpot, Prod.mk.injEq, true_and]
    omega
  have there : Live p text (shiftSpot i (0, j - i + k)) := same ▸ (live_shift floats).mpr live
  refine h ⟨j - i + k, ?_, (live_shift floats).mp there⟩
  rw [Array.size_extract]
  omega

/-- A search from where a match starts finds this match, if no positions are tested. -/
theorem search_rest (floats : p.testsPositions = false) (h : p.search text = some c) :
    ∃ i ≤ text.size, ∃ t c', c = ⟨t.marks⟩ ∧ Reaches p text ⟨0, i, []⟩ t ∧
      t.isAccepted p = true ∧ p.search (text.extract i text.size) = some c' ∧
      ∀ n, c.span? n = (c'.span? n).map fun (a, b) => (i + a, i + b) := by
  obtain ⟨i, within, t, rfl, way, accepted, -, prefers⟩ := search_leftmost h
  have live : Live p (text.extract i text.size) (0, 0) :=
    (live_shift floats).mp (live_start_iff.mpr ⟨t, way, accepted⟩)
  obtain ⟨c', found⟩ := Option.isSome_iff_exists.mp
    (search_isSome_iff_live.mpr ⟨0, Nat.zero_le _, live⟩)
  obtain ⟨t', explored, rfl⟩ := Option.map_eq_some_iff.mp found
  have inside := (prefers_of_explore (V := fun _ => False) explored (by simp)).shift
    (W := fun _ => False) floats (by simp)
  rw [starts_rest within] at inside
  obtain rfl := prefers.unique inside
  exact ⟨i, within, _, _, rfl, way, accepted, found, span?_shiftMarks⟩

end Program

end StepExpr
