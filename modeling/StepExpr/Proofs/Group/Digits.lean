import StepExpr.Group.Digits

/-!
# Writing out digits

* `Narrows` says what characters are written out as, whatever comes after them. Characters that are
  neither backslashes nor brackets are left as they are.
-/

namespace StepExpr

/-- Neither a backslash nor a bracket. -/
def IsPlain (c : Char) : Prop := c ≠ '\\' ∧ c ≠ '[' ∧ c ≠ ']'

/-- The characters `s` are written out as `t`, whatever comes after them, where `b` and `after` say
whether that is in a class. -/
def Narrows (b : Bool) (s t : List Char) (after : Bool) : Prop :=
  ∀ rest, narrowDigitsFrom b (s ++ rest) = t ++ narrowDigitsFrom after rest

/-- A character that is not the start of anything that is written out. -/
def IsKept (c : Char) : Prop := c ≠ '\\' ∧ c ≠ '[' ∧ c ≠ '0'

theorem narrow_eq_cons {b : Bool} {c : Char} {cs out : List Char} (h : IsKept c)
    (same : narrowDigitsFrom b cs = c :: out) :
    ∃ after rest, cs = c :: rest ∧ narrowDigitsFrom after rest = out := by
  obtain ⟨h₁, h₂, h₃⟩ := h
  unfold narrowDigitsFrom at same
  split at same
  · cases same
  · exact absurd (List.cons.inj same).1.symm h₁
  · rename_i d rest
    unfold narrowEscape at same
    split at same
    · exact absurd (List.cons.inj same).1.symm h₃
    · exact absurd (List.cons.inj same).1.symm h₂
    · exact absurd (List.cons.inj same).1.symm h₂
    · exact absurd (List.cons.inj same).1.symm h₁
  · exact absurd (List.cons.inj same).1.symm h₂
  all_goals
    obtain ⟨rfl, behind⟩ := List.cons.inj same
    exact ⟨_, _, rfl, behind⟩

/-- Outside classes a character is written out as itself at first, or as the start of a class. -/
theorem narrow_cons (c : Char) (cs : List Char) :
    ∃ d out, narrowDigitsFrom false (c :: cs) = d :: out ∧ (d = c ∨ d = '[') := by
  unfold narrowDigitsFrom
  split
  case h_1 same => cases same
  case h_3 d rest same =>
    obtain ⟨rfl, rfl⟩ := List.cons.inj same
    unfold narrowEscape
    split
    · contradiction
    · exact ⟨_, _, rfl, .inr rfl⟩
    · exact ⟨_, _, rfl, .inr rfl⟩
    · exact ⟨_, _, rfl, .inl rfl⟩
  all_goals
    rename_i same
    obtain ⟨rfl, rfl⟩ := List.cons.inj same
    exact ⟨_, _, rfl, .inl rfl⟩

theorem prefix_of_prefix_narrow {b : Bool} {w cs : List Char} (h : ∀ c ∈ w, IsKept c)
    (starts : w <+: narrowDigitsFrom b cs) : w <+: cs := by
  induction w generalizing b cs with
  | nil => exact List.nil_prefix
  | cons c w ih =>
    obtain ⟨head, tail⟩ := List.forall_mem_cons.mp h
    obtain ⟨rest, same⟩ := starts
    obtain ⟨after, behind, rfl, further⟩ := narrow_eq_cons head same.symm
    have more : w <+: narrowDigitsFrom after behind := ⟨rest, further.symm⟩
    exact (List.cons_prefix_cons).mpr ⟨rfl, ih tail more⟩

theorem narrow_plain {b : Bool} {c : Char} (h : IsPlain c) (rest : List Char) :
    narrowDigitsFrom b (c :: rest) = c :: narrowDigitsFrom b rest := by
  obtain ⟨h₁, h₂, h₃⟩ := h
  rw [narrowDigitsFrom] <;> simp_all

theorem head?_narrow {b : Bool} {c : Char} {cs : List Char} (h : IsKept c) :
    (narrowDigitsFrom b cs).head? = some c ↔ cs.head? = some c := by
  constructor
  · intro starts
    obtain ⟨out, same⟩ := List.head?_eq_some_iff.mp starts
    obtain ⟨after, rest, rfl, -⟩ := narrow_eq_cons h same
    rfl
  · intro starts
    obtain ⟨rest, rfl⟩ := List.head?_eq_some_iff.mp starts
    by_cases closes : c = ']'
    · subst closes
      simp [narrowDigitsFrom]
    · rw [narrow_plain ⟨h.1, h.2.1, closes⟩]
      rfl

namespace Narrows

variable {b mid after : Bool} {s t u v : List Char}

theorem nil : Narrows b [] [] b := fun _ => rfl

theorem append (h : Narrows b s t mid) (g : Narrows mid u v after) :
    Narrows b (s ++ u) (t ++ v) after := by
  intro rest
  rw [List.append_assoc, h, g, List.append_assoc]

theorem plain (h : ∀ c ∈ s, IsPlain c) : Narrows b s s b := by
  induction s with
  | nil => exact nil
  | cons c s ih =>
    obtain ⟨head, tail⟩ := List.forall_mem_cons.mp h
    intro rest
    rw [List.cons_append, narrow_plain head, ih tail, List.cons_append]

theorem outside (h : ∀ c ∈ s, c ≠ '\\' ∧ c ≠ '[') : Narrows false s s false := by
  induction s with
  | nil => exact .nil
  | cons c s ih =>
    obtain ⟨⟨h₁, h₂⟩, tail⟩ := List.forall_mem_cons.mp h
    intro rest
    by_cases h₃ : c = ']'
    · subst h₃
      rw [List.cons_append, narrowDigitsFrom, ih tail, List.cons_append]
    · rw [List.cons_append, narrow_plain ⟨h₁, h₂, h₃⟩, ih tail, List.cons_append]

theorem opener : Narrows b ['['] ['['] true := fun _ => by simp [narrowDigitsFrom]

theorem closer : Narrows b [']'] [']'] false := fun _ => by simp [narrowDigitsFrom]

theorem escape (c : Char) : Narrows b ['\\', c] (narrowEscape b c) b := fun _ => by
  simp [narrowDigitsFrom]

theorem eq (h : Narrows b s t after) : narrowDigitsFrom b s = t := by
  simpa [narrowDigitsFrom] using h []

end Narrows

end StepExpr
