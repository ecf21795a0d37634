import StepExpr.Proofs.Group.Slices
import StepExpr.Proofs.Regex.Sequence

/-!
# How long a text can be

An automaton has a state for each byte of a text that it reads, so the limit of size bounds how long
the text of a pattern can be.

* `Plan.Counts.grow?`: a plan without sets of characters adds what it counts;
* `isWithinLimit_alone`: how long a text can be;
* `regex?_wholeText`: what a text between anchors denotes.
-/

namespace StepExpr

/-! ## Plans -/

theorem Automaton.isSome_add? {m : Automaton} {states lists : Nat} :
    (m.add? states lists).isSome = true ↔
      32 * (m.states + states) + (m.lists + lists) ≤ byteLimit := by
  simp [add?]

theorem Automaton.add?_add? (m : Automaton) (states lists states' lists' : Nat) :
    (m.add? states lists).bind (·.add? states' lists') =
      m.add? (states + states') (lists + lists') := by
  simp only [add?]
  by_cases small : 32 * (m.states + states) + (m.lists + lists) ≤ byteLimit
  · simp only [if_pos small, Option.bind_some, Nat.add_assoc]
  · have large : ¬ 32 * (m.states + (states + states')) + (m.lists + (lists + lists')) ≤
        byteLimit := by omega
    rw [if_neg small, if_neg large, Option.bind_none]

namespace Plan

/-- The states of a plan without sets of characters, and the bytes of their lists. -/
inductive Counts : Plan → Nat → Nat → Prop where
  | take {states lists} : Counts (.take states lists) states lists
  | seq {p q states lists states' lists'} : Counts p states lists → Counts q states' lists' →
      Counts (.seq p q) (states + states') (lists + lists')

theorem Counts.of_eq {p : Plan} {states lists states' lists' : Nat} (h : p.Counts states lists)
    (same : states = states') (same' : lists = lists') : p.Counts states' lists' :=
  same ▸ same' ▸ h

theorem Counts.grow? {p : Plan} {states lists : Nat} (h : p.Counts states lists) (m : Automaton) :
    p.grow? m = m.add? states lists := by
  induction h generalizing m with
  | take => rfl
  | @seq p q states lists states' lists' _ _ ihp ihq =>
    have behind : q.grow? = (·.add? states' lists') := funext ihq
    rw [Plan.grow?, ihp, behind, Automaton.add?_add?]

end Plan

namespace Direction

variable {p q : Plan} {states lists states' lists' : Nat}

theorem counts_seq (d : Direction) (h : p.Counts states lists) (g : q.Counts states' lists') :
    (d.seq p q).Counts (states + states') (lists + lists') := by
  cases d with
  | forward => exact .seq h g
  | backward =>
    rw [Nat.add_comm states, Nat.add_comm lists]
    exact .seq g h

theorem length_bytes (d : Direction) (cs : List Char) : (d.bytes cs).length = byteLength cs := by
  have length : (cs.flatMap String.utf8EncodeChar).length = byteLength cs := by
    induction cs with
    | nil => rfl
    | cons c cs ih =>
      rw [List.flatMap_cons, List.length_append, ih, String.length_utf8EncodeChar]
      rfl
  cases d with
  | forward => exact length
  | backward => exact List.length_reverse.trans length

end Direction

/-! ## A text alone -/

namespace Regex

/-- The expression of what is left of a text. -/
def upToEnd : List Char → Regex
  | [] => .look .textEnd
  | c :: cs => .cat (.literal (c :: cs)) (.look .textEnd)

/-- The expression that matches a text as a whole. -/
def alone (cs : List Char) : Regex := .cat (.look .textStart) (upToEnd cs)

theorem append_upToEnd (c : Char) (cs : List Char) :
    (literal [c]).append (upToEnd cs) = upToEnd (c :: cs) := by
  cases cs <;> rfl

theorem look_append_upToEnd (l : Look) (cs : List Char) :
    (look l).append (upToEnd cs) = .cat (.look l) (upToEnd cs) := by
  cases cs <;> rfl

theorem counts_upToEnd (d : Direction) (cs : List Char) :
    ((upToEnd cs).choicePlan d ((upToEnd cs).branchPlans d)).Counts (byteLength cs + 1) 0 := by
  cases cs with
  | nil => exact .take
  | cons c cs =>
    rw [← d.length_bytes]
    exact d.counts_seq .take .take

/-- Besides the bytes there are the two anchors, the start, the end and, on the way forward, the two
ends of the group that is the whole match. -/
theorem isWithinLimit_alone (cs : List Char) :
    (alone cs).isWithinLimit = true ↔ byteLength cs + 6 ≤ 327680 := by
  have inside (d : Direction) := d.counts_seq (p := .take 1 0) .take (counts_upToEnd d cs)
  have anchored : (upToEnd cs).endsAtTextEnd = true := by cases cs <;> rfl
  have forward : ((alone cs).plan .forward).Counts (byteLength cs + 6) 0 :=
    .of_eq (.seq .take (.seq (.seq .take (.seq (inside .forward) .take)) .take)) (by omega) rfl
  have backward : ((alone cs).plan .backward).Counts (byteLength cs + 4) 0 := by
    have ends : (alone cs).endsAtTextEnd = true := by simp [alone, endsAtTextEnd, anchored]
    simp only [plan, ends, if_true]
    exact .of_eq (.seq .take (.seq (inside .backward) .take)) (by omega) rfl
  have grows (d : Direction) (n : Nat) :
      ((Automaton.empty d.slots).add? n 0).isSome = true ↔ n ≤ 327680 := by
    simp only [Automaton.isSome_add?, Automaton.byteLimit, Automaton.empty]
    omega
  simp only [isWithinLimit, List.all_cons, List.all_nil, forward.grow?, backward.grow?, grows,
    Bool.and_eq_true, and_true]
  omega

end Regex

namespace Pattern

open Regex

/-- The characters of a text as items. -/
def literals (cs : List Char) : List Pattern := cs.map fun c => .atom (.literal c false)

/-- The items of a text between anchors. -/
def wholeText (cs : List Char) : List Pattern :=
  [.atom (.anchor .lineStart)] ++ literals cs ++ [.atom (.anchor .lineEnd)]

theorem forall_wholeText {holds : Pattern → Prop} (cs : List Char)
    (start : holds (.atom (.anchor .lineStart))) (stop : holds (.atom (.anchor .lineEnd)))
    (char : ∀ c, holds (.atom (.literal c false))) : ∀ p ∈ wholeText cs, holds p := by
  refine List.forall_mem_append.mpr ⟨List.forall_mem_append.mpr ⟨?_, ?_⟩, ?_⟩
  · exact List.forall_mem_singleton.mpr start
  · exact List.forall_mem_map.mpr fun c _ => char c
  · exact List.forall_mem_singleton.mpr stop

theorem branchesFrom?_cons {a : Atom} {r s : Regex} {ps : List Pattern} {n : Nat}
    (first : a.regex? .initial = some r) (filled : ps ≠ [])
    (others : (catOf ps).branchesFrom? .initial n = some ([s], .initial, n)) :
    (catOf (.atom a :: ps)).branchesFrom? .initial n = some ([r.append s], .initial, n) := by
  obtain ⟨p, ps, rfl⟩ := List.exists_cons_of_ne_nil filled
  simp [catOf, branchesFrom?, first, others, alternation]

theorem branchesFrom?_upToEnd (cs : List Char) (n : Nat) :
    (catOf (literals cs ++ [.atom (.anchor .lineEnd)])).branchesFrom? .initial n =
      some ([upToEnd cs], .initial, n) := by
  induction cs with
  | nil => rfl
  | cons c cs ih =>
    rw [← append_upToEnd]
    exact branchesFrom?_cons rfl (by simp) ih

/-- What a text between anchors denotes. -/
theorem regex?_wholeText (cs : List Char) : (catOf (wholeText cs)).regex? = some (alone cs) := by
  have found := branchesFrom?_cons (a := .anchor .lineStart) rfl (by simp)
    (branchesFrom?_upToEnd cs 1)
  rw [look_append_upToEnd] at found
  rw [regex?, wholeText, List.append_assoc, List.singleton_append, found]
  rfl

end Pattern

end StepExpr
