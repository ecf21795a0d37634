import StepExpr.Proofs.Regex.Language
import StepExpr.Proofs.Unicode.CharSet
import StepExpr.Regex.Simplify

/-!
# What simplified expressions match

Simplified expressions match what the plain ones do, whatever is joined, dropped or taken out, and
all but the simplified rounds with the same marks.

* `run_append`, `run_concat`: one after the other;
* `matches_repeated`: so many rounds;
* `Chooses` and `run_alternation`: one of some.
-/

namespace StepExpr.Regex

variable {text : Array Char} {i j : Nat}

/-! ## Sets -/

/-- The next character is in `s`. -/
def Holds (text : Array Char) (s : CharSet) (i j : Nat) : Prop :=
  (∃ c, text[i]? = some c ∧ s.contains c = true) ∧ i + 1 = j

theorem spells_single {c : Char} : Spells text [c] i j ↔ text[i]? = some c ∧ i + 1 = j :=
  Iff.rfl

/-! ## Concatenation -/

theorem spells_append {cs ds : List Char} :
    Spells text (cs ++ ds) i j ↔ ∃ k, Spells text cs i k ∧ Spells text ds k j := by
  induction cs generalizing i with
  | nil => simp [Spells]
  | cons c cs ih => simp only [List.cons_append, Spells, ih, and_assoc, exists_and_left]

/-- The items one after the other. -/
def RunItems (text : Array Char) : List Regex → Takes
  | [] => .nothing
  | r :: rs => (r.Run text).next (RunItems text rs)

theorem run_literals (cs ds : List Char) :
    (literal (cs ++ ds)).Run text = ((literal cs).Run text).next ((literal ds).Run text) := by
  refine Takes.ext fun i j ms => ⟨?_, ?_⟩
  · rintro ⟨spelled, rfl⟩
    obtain ⟨k, first, second⟩ := spells_append.mp spelled
    exact ⟨k, [], [], ⟨first, rfl⟩, ⟨second, rfl⟩, rfl⟩
  · rintro ⟨k, _, _, ⟨first, rfl⟩, ⟨second, rfl⟩, rfl⟩
    exact ⟨spells_append.mpr ⟨k, first, second⟩, rfl⟩

theorem run_append {a b : Regex} : (a.append b).Run text = (a.Run text).next (b.Run text) := by
  fun_induction append a b with
  | case1 b => exact Takes.nothing_next.symm
  | case2 b a rest ih => rw [Run, ih, Run, Takes.next_assoc]
  | case3 a => exact Takes.next_nothing.symm
  | case4 cs ds => exact run_literals cs ds
  | case5 cs ds rest =>
    calc ((literal (cs ++ ds)).Run text).next (rest.Run text)
        = (((literal cs).Run text).next ((literal ds).Run text)).next (rest.Run text) := by
          rw [run_literals]
      _ = ((literal cs).Run text).next ((cat (literal ds) rest).Run text) := Takes.next_assoc
  | case6 a b => rfl

@[simp] theorem matches_append {a b : Regex} :
    (a.append b).Matches text i j ↔ ∃ k, a.Matches text i k ∧ b.Matches text k j := by
  rw [Matches, run_append]
  exact matches_cat

theorem run_concat {rs : List Regex} : (concat rs).Run text = RunItems text rs := by
  induction rs with
  | nil => rfl
  | cons r rs ih =>
    rw [concat, List.foldr_cons, run_append]
    exact congrArg (Takes.next (r.Run text)) ih

theorem runItems_append {rs ss : List Regex} :
    RunItems text (rs ++ ss) = (RunItems text rs).next (RunItems text ss) := by
  induction rs with
  | nil => exact Takes.nothing_next.symm
  | cons r rs ih => rw [List.cons_append, RunItems, ih, RunItems, Takes.next_assoc]

theorem runItems_single {r : Regex} : RunItems text [r] = r.Run text := Takes.next_nothing

theorem runItems_items {r : Regex} : RunItems text r.items = r.Run text := by
  induction r with
  | cat a rest _ ih => rw [items, RunItems, ih, Run]
  | _ => exact runItems_single

/-! ## Repetition -/

theorem chain_blank {R : Nat → Nat → Prop} (blank : ∀ i j, R i j → i = j) {n : Nat} :
    Chain R n i j ↔ i = j ∧ (n = 0 ∨ R i i) := by
  induction n generalizing i with
  | zero => simp [Chain]
  | succ n ih =>
    simp only [Chain, ih]
    constructor
    · rintro ⟨k, first, rfl, -⟩
      obtain rfl := blank i k first
      exact ⟨rfl, .inr first⟩
    · rintro ⟨rfl, h | h⟩
      · cases h
      · exact ⟨i, h, rfl, .inr h⟩

/-- How often what is always empty is matched does not matter, only whether it has to be, and
whether it can be. -/
theorem exists_allows_chain_blank {R : Nat → Nat → Prop} (blank : ∀ i j, R i j → i = j)
    {least least' : Nat} {most most' : Option Nat} (must : least = 0 ↔ least' = 0)
    (can : (∃ n, Allows least most (n + 1)) ↔ ∃ n, Allows least' most' (n + 1)) :
    (∃ n, Allows least most n ∧ Chain R n i j) ↔ ∃ n, Allows least' most' n ∧ Chain R n i j := by
  have shape : ∀ least most, (∃ n, Allows least most n ∧ Chain R n i j) ↔
      i = j ∧ (least = 0 ∨ (∃ n, Allows least most (n + 1)) ∧ R i i) := by
    intro least most
    simp only [chain_blank blank]
    constructor
    · rintro ⟨n, allowed, rfl, h⟩
      refine ⟨rfl, ?_⟩
      cases n with
      | zero => exact .inl (Nat.le_zero.mp allowed.1)
      | succ n =>
        rcases h with h | h
        · cases h
        · exact .inr ⟨⟨n, allowed⟩, h⟩
    · rintro ⟨rfl, rfl | ⟨⟨n, allowed⟩, h⟩⟩
      · exact ⟨0, ⟨Nat.le_refl 0, fun _ _ => Nat.zero_le _⟩, rfl, .inl rfl⟩
      · exact ⟨n + 1, allowed, rfl, .inr h⟩
  rw [shape, shape, must, can]

theorem allows_succ {least : Nat} {most : Option Nat} :
    (∃ n, Allows least most (n + 1)) ↔ 0 < least ∨ most ≠ some 0 := by
  constructor
  · rintro ⟨n, -, bound⟩
    rcases Nat.eq_zero_or_pos least with rfl | pos
    · refine .inr ?_
      rintro rfl
      exact absurd (bound 0 rfl) (by omega)
    · exact .inl pos
  · intro some
    refine ⟨least - 1, by omega, ?_⟩
    rintro m rfl
    have : least = 0 → m ≠ 0 := by
      rintro rfl rfl
      simp at some
    omega

theorem matches_repeated {least : Nat} {most : Option Nat} {greedy : Bool} {r : Regex} :
    (repeated least most greedy r).Matches text i j ↔
      ∃ n, Allows least most n ∧ Chain (r.Matches text) n i j := by
  have plain : ∀ least most,
      (if least = 0 ∧ most = some 0 then empty
        else if least = 1 ∧ most = some 1 then r
        else rounds least most greedy r).Matches text i j ↔
        ∃ n, Allows least most n ∧ Chain (r.Matches text) n i j := by
    intro least most
    split
    · rename_i none
      obtain ⟨rfl, rfl⟩ := none
      have zero : ∀ n, Allows 0 (some 0) n ↔ n = 0 := by
        simp [Allows]
      simp [zero, Chain]
    · split
      · rename_i once
        obtain ⟨rfl, rfl⟩ := once
        have one : ∀ n, Allows 1 (some 1) n ↔ n = 1 := by
          intro n
          simp only [Allows, Option.some.injEq, forall_eq']
          omega
        simp [one, Chain]
      · exact matches_rounds
  unfold repeated
  cases blank : r.isBlank with
  | false => exact plain least most
  | true =>
    refine (plain _ _).trans (exists_allows_chain_blank (fun i j h => h.eq_of_isBlank blank) ?_ ?_)
    · omega
    · rw [allows_succ, allows_succ]
      cases most with
      | none => simp
      | some m =>
        simp only [Option.getD_some, ne_eq, Option.some.injEq]
        omega

/-! ## Choice -/

variable {ms : Marks}

theorem run_never : never.Run text i j ms ↔ False := by
  simp [never, Run, CharSet.empty, CharSet.contains, CharSet.holdsIn]

theorem run_ofSet {ascii : Bool} {s : CharSet} :
    (ofSet ascii s).Run text i j ms ↔ Holds text s i j ∧ ms = [] := by
  unfold ofSet
  split
  · rename_i none
    simp [run_never, Holds, CharSet.contains_eq_false_of_isEmpty none]
  · split
    · rename_i c single
      simp [Run, Holds, spells_single, CharSet.contains_of_only? single]
    · simp [Run, Holds, and_assoc]

@[simp] theorem matches_ofSet {ascii : Bool} {s : CharSet} :
    (ofSet ascii s).Matches text i j ↔ Holds text s i j := by
  simp [Matches, run_ofSet]

theorem run_ofBranches {rs : List Regex} :
    (ofBranches rs).Run text i j ms ↔ ∃ r ∈ rs, r.Run text i j ms := by
  induction rs with
  | nil => simp [ofBranches, run_never]
  | cons r rs ih =>
    cases rs with
    | nil => simp [ofBranches]
    | cons s rs => simp only [ofBranches, Run, Takes.either, ih, List.mem_cons, exists_eq_or_imp]

theorem exists_branches {r : Regex} :
    (∃ b ∈ r.branches, b.Run text i j ms) ↔ r.Run text i j ms := by
  induction r with
  | alt a rest iha ihr =>
    simp only [branches, List.mem_cons, exists_eq_or_imp, ihr, Run, Takes.either]
  | _ => simp [branches]

theorem exists_flatMap_branches {rs : List Regex} :
    (∃ b ∈ rs.flatMap branches, b.Run text i j ms) ↔ ∃ r ∈ rs, r.Run text i j ms := by
  constructor
  · rintro ⟨b, hb, h⟩
    obtain ⟨r, hr, hb⟩ := List.mem_flatMap.mp hb
    exact ⟨r, hr, exists_branches.mp ⟨b, hb, h⟩⟩
  · rintro ⟨r, hr, h⟩
    obtain ⟨b, hb, h⟩ := exists_branches.mpr h
    exact ⟨b, List.mem_flatMap.mpr ⟨r, hr, hb⟩, h⟩

theorem mem_of_mapM_eq_some {α β : Type} {f : α → Option β} {xs : List α} {ys : List β}
    (h : xs.mapM f = some ys) :
    (∀ x ∈ xs, ∃ y ∈ ys, f x = some y) ∧ ∀ y ∈ ys, ∃ x ∈ xs, f x = some y := by
  induction xs generalizing ys with
  | nil =>
    obtain rfl : [] = ys := by simpa using h
    simp
  | cons x xs ih =>
    simp only [List.mapM_cons, Option.bind_eq_bind, Option.bind_eq_some_iff, Option.pure_def,
      Option.some.injEq] at h
    obtain ⟨y, hy, ys, hys, rfl⟩ := h
    obtain ⟨fst, snd⟩ := ih hys
    refine ⟨List.forall_mem_cons.mpr ⟨⟨y, by simp, hy⟩, fun z hz => ?_⟩,
      List.forall_mem_cons.mpr ⟨⟨x, by simp, hy⟩, fun z hz => ?_⟩⟩
    · obtain ⟨w, hw, same⟩ := fst z hz
      exact ⟨w, by simp [hw], same⟩
    · obtain ⟨w, hw, same⟩ := snd z hz
      exact ⟨w, by simp [hw], same⟩

theorem run_char? {r : Regex} {c : Char} (h : r.char? = some c) :
    r.Run text i j ms ↔ (text[i]? = some c ∧ i + 1 = j) ∧ ms = [] := by
  unfold char? at h
  split at h
  · obtain rfl := Option.some.inj h
    exact and_congr_left fun _ => spells_single
  · cases h

theorem run_set? {r : Regex} {s : CharSet} (h : r.set? = some s) :
    r.Run text i j ms ↔ Holds text s i j ∧ ms = [] := by
  unfold set? at h
  split at h
  · obtain rfl := Option.some.inj h
    simp [Run, Holds, and_assoc]
  · cases h

theorem holds_unionSet? {rs : List Regex} {s : CharSet} (h : unionSet? rs = some s) :
    Holds text s i j ∧ ms = [] ↔ ∃ r ∈ rs, r.Run text i j ms := by
  unfold unionSet? at h
  rw [Option.or_eq_some_iff] at h
  rcases h with h | ⟨-, h⟩
  · obtain ⟨cs, hcs, rfl⟩ := Option.map_eq_some_iff.mp h
    obtain ⟨forth, back⟩ := mem_of_mapM_eq_some hcs
    simp only [Holds, CharSet.contains_ofChars]
    constructor
    · rintro ⟨⟨⟨c, hc, mem⟩, rfl⟩, none⟩
      obtain ⟨r, hr, same⟩ := back c mem
      exact ⟨r, hr, (run_char? same).mpr ⟨⟨hc, rfl⟩, none⟩⟩
    · rintro ⟨r, hr, run⟩
      obtain ⟨c, mem, same⟩ := forth r hr
      obtain ⟨⟨hc, rfl⟩, none⟩ := (run_char? same).mp run
      exact ⟨⟨⟨c, hc, mem⟩, rfl⟩, none⟩
  · obtain ⟨sets, hsets, rfl⟩ := Option.map_eq_some_iff.mp h
    obtain ⟨forth, back⟩ := mem_of_mapM_eq_some hsets
    simp only [Holds, CharSet.contains_unions]
    constructor
    · rintro ⟨⟨⟨c, hc, s, hs, mem⟩, rfl⟩, none⟩
      obtain ⟨r, hr, same⟩ := back s hs
      exact ⟨r, hr, (run_set? same).mpr ⟨⟨⟨c, hc, mem⟩, rfl⟩, none⟩⟩
    · rintro ⟨r, hr, run⟩
      obtain ⟨s, hs, same⟩ := forth r hr
      obtain ⟨⟨⟨c, hc, mem⟩, rfl⟩, none⟩ := (run_set? same).mp run
      exact ⟨⟨⟨c, hc, s, hs, mem⟩, rfl⟩, none⟩

theorem commonPrefix_prefix (as bs : List Regex) :
    commonPrefix as bs <+: as ∧ commonPrefix as bs <+: bs := by
  fun_induction commonPrefix as bs with
  | case1 a as bs ih =>
    exact ⟨List.cons_prefix_cons.mpr ⟨rfl, ih.1⟩, List.cons_prefix_cons.mpr ⟨rfl, ih.2⟩⟩
  | case2 => simp
  | case3 => simp

theorem foldl_commonPrefix_prefix (others : List Regex) (shared : List Regex) :
    others.foldl (fun shared s => commonPrefix shared s.items) shared <+: shared ∧
      ∀ s ∈ others, others.foldl (fun shared s => commonPrefix shared s.items) shared <+: s.items := by
  induction others generalizing shared with
  | nil => simp
  | cons s others ih =>
    obtain ⟨first, rest⟩ := ih (commonPrefix shared s.items)
    obtain ⟨left, right⟩ := commonPrefix_prefix shared s.items
    rw [List.foldl_cons]
    exact ⟨first.trans left, List.forall_mem_cons.mpr ⟨first.trans right, rest⟩⟩

theorem sharedItems_prefix {rs : List Regex} {r : Regex} (h : r ∈ rs) :
    sharedItems rs <+: r.items := by
  unfold sharedItems
  split
  · rename_i first others
    split
    · obtain ⟨left, right⟩ := foldl_commonPrefix_prefix others first.items
      rcases List.mem_cons.mp h with rfl | h
      · exact left
      · exact right r h
    · exact List.nil_prefix
  · exact List.nil_prefix

/-- Branches that begin alike, with the common beginning taken out. -/
theorem run_shared {rs shared : List Regex} {rest : Regex}
    (common : ∀ r ∈ rs, shared <+: r.items)
    (after : ∀ i ms, rest.Run text i j ms ↔
      ∃ s ∈ rs.map fun r => concat (r.items.drop shared.length), s.Run text i j ms) :
    (concat (shared ++ [rest])).Run text i j ms ↔ ∃ r ∈ rs, r.Run text i j ms := by
  have split : ∀ r ∈ rs, r.Run text =
      (RunItems text shared).next ((concat (r.items.drop shared.length)).Run text) := by
    intro r hr
    rw [run_concat, ← runItems_append, List.prefix_iff_eq_append.mp (common r hr), runItems_items]
  rw [run_concat, runItems_append, runItems_single]
  constructor
  · rintro ⟨k, ns, os, first, later, rfl⟩
    obtain ⟨s, hs, later⟩ := (after k os).mp later
    obtain ⟨r, hr, rfl⟩ := List.mem_map.mp hs
    exact ⟨r, hr, split r hr ▸ ⟨k, ns, os, first, later, rfl⟩⟩
  · rintro ⟨r, hr, h⟩
    rw [split r hr] at h
    obtain ⟨k, ns, os, first, later, rfl⟩ := h
    exact ⟨k, ns, os, first, (after k os).mpr ⟨_, List.mem_map.mpr ⟨r, hr, rfl⟩, later⟩, rfl⟩

/-- What becomes of a choice: its only branch, one set of characters, its branches as they are, or
what they have in common and then a choice of what is left of each. -/
inductive Chooses : List Regex → Regex → Prop where
  | single {r} : Chooses [r] r
  | set {rs s} : unionSet? (rs.flatMap branches) = some s → Chooses rs (ofSet false s)
  | branches {rs} : Chooses rs (ofBranches (rs.flatMap branches))
  | shared {rs rest} : Chooses ((rs.flatMap branches).map fun r =>
      concat (r.items.drop (sharedItems (rs.flatMap branches)).length)) rest →
      Chooses rs (concat (sharedItems (rs.flatMap branches) ++ [rest]))

theorem chooses_alternationTo (depth : Nat) (rs : List Regex) :
    Chooses rs (alternationTo depth rs) := by
  induction depth generalizing rs with
  | zero =>
    unfold alternationTo
    split
    · exact .single
    · cases found : unionSet? (rs.flatMap branches) with
      | some s => simpa only [found] using Chooses.set found
      | none => simpa only [found] using Chooses.branches
  | succ depth ih =>
    unfold alternationTo
    split
    · exact .single
    · cases found : unionSet? (rs.flatMap branches) with
      | some s => simpa only [found] using Chooses.set found
      | none =>
        simp only [found]
        split
        · exact .branches
        · exact .shared (ih _)

theorem Chooses.run_iff {rs : List Regex} {r : Regex} (h : Chooses rs r) :
    r.Run text i j ms ↔ ∃ s ∈ rs, s.Run text i j ms := by
  induction h generalizing i ms with
  | single => simp
  | set found => rw [← exists_flatMap_branches, run_ofSet, holds_unionSet? found]
  | branches => rw [← exists_flatMap_branches, run_ofBranches]
  | shared _ ih =>
    rw [← exists_flatMap_branches]
    exact run_shared (fun r hr => sharedItems_prefix hr) fun i ms => ih

/-- A choice runs as one of its branches, with the marks of that one. -/
theorem run_alternation {rs : List Regex} :
    (alternation rs).Run text i j ms ↔ ∃ r ∈ rs, r.Run text i j ms := by
  unfold alternation
  split
  · simp
  · exact (chooses_alternationTo _ _).run_iff

theorem matches_alternation {rs : List Regex} :
    (alternation rs).Matches text i j ↔ ∃ r ∈ rs, r.Matches text i j := by
  simp only [Matches, run_alternation]
  constructor
  · rintro ⟨ms, r, hr, run⟩
    exact ⟨r, hr, ms, run⟩
  · rintro ⟨r, hr, ms, run⟩
    exact ⟨ms, r, hr, run⟩

end StepExpr.Regex
