import StepExpr.Proofs.Regex.Build

/-!
# Pieces of patterns

A pattern that is put together from pieces is cut and built piece by piece.

* `CutsInto`: a piece is cut into the same lexemes wherever it stands;
* `Adds` and `Fills`: the lexemes of a piece add some items to the group that is open, or are all
  that there is in a group;
* `fills_of_parse?`: a pattern without the flag `x` fills a group, also with its digits written out.
-/

namespace StepExpr

namespace Pattern

variable {s t rest : List Char} {ls ls' : List Lexeme} {p : Pattern} {ps qs : List Pattern}

/-! ## Cutting -/

/-- The piece `s` is cut into `ls` once its digits are written out, whatever follows it. -/
structure CutsInto (s : List Char) (ls : List Lexeme) : Prop where
  narrows : Narrows false s (narrowDigits s) false
  front : Outside s
  short : ls.length ≤ (narrowDigits s).length
  cuts : ∀ rest, Outside rest → Cuts 0 (narrowDigits s ++ rest) ls 0 rest

theorem Outside.append (h : Outside s) (g : Outside t) : Outside (s ++ t) := by
  cases s with
  | nil => exact g
  | cons c s => exact h

theorem Outside.narrow {M : List Char} (h : Outside s) (n : Narrows false s M false)
    (g : Outside rest) : Outside (M ++ rest) :=
  ⟨head?_narrows n (by simp [IsKept]) h.1 g.1, head?_narrows n (by simp [IsKept]) h.2 g.2⟩

namespace CutsInto

theorem nil : CutsInto [] [] :=
  ⟨.nil, by simp [Outside], Nat.le_refl _, fun rest _ => .nil 0 rest⟩

theorem append (h : CutsInto s ls) (g : CutsInto t ls') : CutsInto (s ++ t) (ls ++ ls') := by
  have whole := h.narrows.append g.narrows
  have same : narrowDigits (s ++ t) = narrowDigits s ++ narrowDigits t := whole.eq
  refine ⟨same ▸ whole, h.front.append g.front, ?_, fun rest out => ?_⟩
  · have := h.short
    have := g.short
    rw [same, List.length_append, List.length_append]
    omega
  · rw [same, List.append_assoc]
    exact (h.cuts _ (g.front.narrow g.narrows out)).append (g.cuts rest out)

/-- A piece that is one lexeme and is written out as it is. -/
theorem single {l : Lexeme} (narrows : Narrows false s s false) (filled : s ≠ []) (front : Outside s)
    (quiet : l.Quiet) (depth : l.depth? 0 = some 0)
    (reads : ∀ rest, Outside rest → readLexeme (s ++ rest) = some (l, rest)) : CutsInto s [l] := by
  have same : narrowDigits s = s := narrows.eq
  refine ⟨same.symm ▸ narrows, front, ?_, fun rest out => ?_⟩
  · rw [same]
    exact List.length_pos_iff.mpr filled
  · rw [same]
    exact .cons (reads rest out) quiet depth (.nil 0 rest)

/-- A piece between the two ends of a group. -/
theorem enclose {before after : List Char} {k : GroupKind} {tail : List Lexeme}
    (h : CutsInto s ls) (plain : ∀ c ∈ before ++ after, IsPlain c) (filled : before ≠ [])
    (front : Outside before) (stop : Outside after) (quiet : (Lexeme.opening k).Quiet)
    (start : ∀ rest, Outside rest → readLexeme (before ++ rest) = some (.opening k, rest))
    (short : tail.length ≤ after.length)
    (ends : ∀ rest, Outside rest → Cuts 1 (after ++ rest) tail 0 rest) :
    CutsInto (before ++ (s ++ after)) (.opening k :: (ls ++ tail)) := by
  obtain ⟨plainBefore, plainAfter⟩ := List.forall_mem_append.mp plain
  have whole : Narrows false (before ++ (s ++ after)) (before ++ (narrowDigits s ++ after)) false :=
    (Narrows.plain plainBefore).append (h.narrows.append (.plain plainAfter))
  have same : narrowDigits (before ++ (s ++ after)) = before ++ (narrowDigits s ++ after) := whole.eq
  refine ⟨same ▸ whole, ?_, ?_, fun rest out => ?_⟩
  · cases before with
    | nil => exact absurd rfl filled
    | cons c before => exact front
  · have := h.short
    have := List.length_pos_iff.mpr filled
    rw [same]
    simp only [List.length_cons, List.length_append]
    omega
  · have inside : Outside (narrowDigits s ++ (after ++ rest)) :=
      h.front.narrow h.narrows (stop.append out)
    rw [same]
    simp only [List.append_assoc]
    exact .cons (start _ inside) quiet rfl
      (((h.cuts (after ++ rest) (stop.append out)).inside 1).append (ends rest out))

end CutsInto

/-! ## Building -/

/-- The piece adds `ps` to the items of the group that is open. -/
def Adds (s : List Char) (ps : List Pattern) : Prop :=
  ∃ ls, CutsInto s ls ∧ ∀ outer inner rest,
    build? outer inner (ls ++ rest) = build? outer ⟨inner.branches, ps.reverse ++ inner.items⟩ rest

/-- The piece is all there is in a group, which then holds `p`. -/
def Fills (s : List Char) (p : Pattern) : Prop :=
  ∃ ls, CutsInto s ls ∧ ∀ k around outer rest,
    build? ((k, around) :: outer) .start (ls ++ .closing :: rest) =
      build? outer (around.push (.group k p)) rest

theorem Adds.nil : Adds [] [] := ⟨[], .nil, fun _ _ _ => rfl⟩

theorem Adds.append (h : Adds s ps) (g : Adds t qs) : Adds (s ++ t) (ps ++ qs) := by
  obtain ⟨ls, cuts, builds⟩ := h
  obtain ⟨ls', cuts', builds'⟩ := g
  refine ⟨ls ++ ls', cuts.append cuts', fun outer inner rest => ?_⟩
  rw [List.append_assoc, builds, builds', List.reverse_append, List.append_assoc]

theorem Adds.single {l : Lexeme} {p : Pattern} (cuts : CutsInto s [l])
    (builds : ∀ outer inner rest, build? outer inner (l :: rest) = build? outer (inner.push p) rest) :
    Adds s [p] :=
  ⟨[l], cuts, builds⟩

/-- Pieces with bars between them are the branches of a group. -/
theorem branches_of_adds {ss : List (List Char)} {pss : List (List Pattern)}
    (h : List.Forall₂ Adds ss pss) (filled : ss ≠ []) (finished : List Pattern) :
    ∃ ls inner, CutsInto (List.intercalate ['|'] ss) ls ∧
      (∀ outer rest, build? outer ⟨finished, []⟩ (ls ++ rest) = build? outer inner rest) ∧
      inner.content = altOf (finished.reverse ++ pss.map catOf) := by
  induction h generalizing finished with
  | nil => exact absurd rfl filled
  | @cons s ps ss pss adds others ih =>
    obtain ⟨ls, cuts, builds⟩ := adds
    cases others with
    | nil =>
      refine ⟨ls, ⟨finished, ps.reverse ++ []⟩, by simpa using cuts, fun outer rest => ?_, ?_⟩
      · exact builds outer ⟨finished, []⟩ rest
      · simp [OpenGroup.content, OpenGroup.branch]
    | cons =>
      obtain ⟨ls', inner, cuts', builds', content⟩ := ih (by simp) (catOf ps :: finished)
      have bar : CutsInto ['|'] [.bar] :=
        .single (.plain (by simp [IsPlain])) (by simp) (by simp [Outside]) trivial rfl
          fun _ _ => rfl
      refine ⟨ls ++ [.bar] ++ ls', inner, ?_, fun outer rest => ?_, ?_⟩
      · rw [List.intercalate_cons_cons]
        exact (cuts.append bar).append cuts'
      · rw [List.append_assoc, List.append_assoc, builds, List.append_nil, ← builds']
        simp [build?, OpenGroup.branch]
      · rw [content]
        simp

theorem fills_of_branches {ss : List (List Char)} {pss : List (List Pattern)}
    (h : List.Forall₂ Adds ss pss) (filled : ss ≠ []) :
    Fills (List.intercalate ['|'] ss) (altOf (pss.map catOf)) := by
  obtain ⟨ls, inner, cuts, builds, content⟩ := branches_of_adds h filled []
  refine ⟨ls, cuts, fun k around outer rest => ?_⟩
  rw [OpenGroup.start, builds, build?, content]
  rfl

theorem Adds.fills (h : Adds s ps) : Fills s (catOf ps) := by
  have whole := fills_of_branches (.cons h .nil) (by simp)
  simpa [altOf] using whole

theorem Fills.plain (h : Fills s p) :
    Adds ("(?:".toList ++ (s ++ ")".toList)) [.group (.plain []) p] := by
  obtain ⟨ls, cuts, builds⟩ := h
  refine ⟨.opening (.plain []) :: (ls ++ [.closing]), ?_, fun outer inner rest => ?_⟩
  · refine cuts.enclose (by simp [IsPlain]) (by simp) (by simp [Outside]) (by simp [Outside])
      (by simp [Lexeme.Quiet, FlagChanges.value?]) (fun _ _ => rfl) (by simp) fun rest _ => ?_
    exact .cons rfl trivial rfl (.nil 0 rest)
  · simp only [List.cons_append, List.append_assoc, List.nil_append]
    exact builds _ _ _ _

theorem Fills.optional (h : Fills s p) :
    Adds ("(?:".toList ++ (s ++ ")?".toList)) [.rounds ⟨0, some 1⟩ true (.group (.plain []) p)] := by
  obtain ⟨ls, cuts, builds⟩ := h
  refine ⟨.opening (.plain []) :: (ls ++ [.closing, .rounds ⟨0, some 1⟩ true]), ?_,
    fun outer inner rest => ?_⟩
  · refine cuts.enclose (by simp [IsPlain]) (by simp) (by simp [Outside]) (by simp [Outside])
      (by simp [Lexeme.Quiet, FlagChanges.value?]) (fun _ _ => rfl) (by simp) fun rest out => ?_
    have mark : readLexeme ('?' :: rest) = some (.rounds ⟨0, some 1⟩ true, rest) := by
      simp [readLexeme, readPlain, readGreed_greedy out.1]
    exact .cons rfl trivial rfl (.cons mark trivial rfl (.nil 0 rest))
  · simp only [List.cons_append, List.append_assoc, List.nil_append]
    exact builds _ _ _ _

theorem Fills.capture (h : Fills s p) :
    Adds ("(".toList ++ (s ++ ")".toList)) [.group (.capturing none) p] := by
  obtain ⟨ls, cuts, builds⟩ := h
  refine ⟨.opening (.capturing none) :: (ls ++ [.closing]), ?_, fun outer inner rest => ?_⟩
  · refine cuts.enclose (by simp [IsPlain]) (by simp) (by simp [Outside]) (by simp [Outside])
      trivial (fun rest out => readOpening_bare out.1) (by simp) fun rest _ => ?_
    exact .cons rfl trivial rfl (.nil 0 rest)
  · simp only [List.cons_append, List.append_assoc, List.nil_append]
    exact builds _ _ _ _

/-! ## Whole patterns -/

theorem parse?_eq_some_iff : parse? s = some p ↔ ∃ ls, Lexeme.scan? s = some ls ∧
    build? [] .start ls = some p ∧ p.names.Nodup ∧ p.depth .neither ≤ maxDepth := by
  unfold parse?
  simp only [Option.bind_eq_bind, Option.bind_eq_some_iff, Option.ite_none_right_eq_some,
    Option.some.injEq]
  constructor
  · rintro ⟨ls, cut, q, built, fine, rfl⟩
    exact ⟨ls, cut, built, fine⟩
  · rintro ⟨ls, cut, built, fine⟩
    exact ⟨ls, cut, p, built, fine, rfl⟩

theorem CutsInto.scan? (h : CutsInto s ls) : Lexeme.scan? (narrowDigits s) = some ls := by
  have cuts := h.cuts [] (by simp [Outside])
  rw [List.append_nil] at cuts
  have room : (narrowDigits s).length - ls.length + 1 + ls.length = (narrowDigits s).length + 1 := by
    have := h.short
    omega
  have last : scanFrom ((narrowDigits s).length - ls.length + 1) false [] [] = some [] := rfl
  have whole := cuts.scanFrom last
  rw [room, List.append_nil] at whole
  exact whole

/-- What only adds items builds their sequence. -/
theorem Adds.build? (h : Adds s ps) : ∃ ls, Lexeme.scan? (narrowDigits s) = some ls ∧
    build? [] .start ls = some (catOf ps) := by
  obtain ⟨ls, cuts, builds⟩ := h
  refine ⟨ls, cuts.scan?, ?_⟩
  have items := builds [] .start []
  rw [List.append_nil] at items
  rw [items]
  simp [Pattern.build?, OpenGroup.start, OpenGroup.content, OpenGroup.branch, altOf]

/-- A pattern that only adds items is their sequence. -/
theorem Adds.eq_catOf (h : Adds s ps) (parsed : parse? (narrowDigits s) = some p) :
    p = catOf ps := by
  obtain ⟨ls, cut, built⟩ := h.build?
  obtain ⟨ls', cut', built', -⟩ := parse?_eq_some_iff.mp parsed
  obtain rfl := Option.some.inj (cut.symm.trans cut')
  exact Option.some.inj (built'.symm.trans built)

/-- The pattern does not turn the flag `x` on, and no name of a group has an opening bracket. -/
def Tame (s : List Char) : Prop :=
  ∀ ls, Lexeme.scan? s = some ls → ∀ l ∈ ls, l.Quiet ∧ l.NamesNoBracket

theorem tame_of_scan? (cut : Lexeme.scan? s = some ls) (each : ∀ l ∈ ls, l.Quiet ∧ l.NamesNoBracket) :
    Tame s := by
  intro others cut'
  obtain rfl := Option.some.inj (cut.symm.trans cut')
  exact each

theorem rounds_of_brace {l : Lexeme} (h : readLexeme ('\x7b' :: s) = some (l, rest)) :
    ∃ r greedy, l = .rounds r greedy := by
  rw [readLexeme_eq_readPlain (by decide), readPlain] at h
  dsimp only at h
  split at h
  · cases h
  · simp only [skip, Bool.false_eq_true, if_false] at h
    split at h
    · exact ⟨_, _, (Prod.mk.inj (Option.some.inj h)).1.symm⟩
    · cases h

/-- A pattern does not start with a repetition. -/
theorem outside_of_build? {e : Nat} (cuts : Cuts 0 s ls e []) (h : build? [] .start ls = some p) :
    Outside s := by
  cases cuts with
  | nil => simp [Outside]
  | cons first quiet depth others =>
    refine ⟨fun same => ?_, fun same => ?_⟩
    · obtain ⟨s, rfl⟩ := List.head?_eq_some_iff.mp same
      obtain ⟨rfl, rfl⟩ := Prod.mk.inj (Option.some.inj first)
      cases h
    · obtain ⟨s, rfl⟩ := List.head?_eq_some_iff.mp same
      obtain ⟨r, greedy, rfl⟩ := rounds_of_brace first
      cases h

/-- A pattern with its digits written out is cut into lexemes that differ in their atoms only, and
they build a pattern as well. -/
theorem cuts_of_parse? (tame : Tame s) (parsed : parse? s = some p) (defined : p.Defined .initial) :
    ∃ ls ls' p', Lexeme.scan? s = some ls ∧ Cuts 0 s ls 0 [] ∧ (∀ l ∈ ls, l.Legible) ∧
      List.Forall₂ Lexeme.Alike ls ls' ∧ CutsInto s ls' ∧ build? [] .start ls' = some p' ∧
      p.Alike p' := by
  obtain ⟨ls, cut, built, -⟩ := parse?_eq_some_iff.mp parsed
  have each := tame ls cut
  obtain ⟨e, cuts⟩ := exists_cuts (d := 0) (fun l hl => (each l hl).1) cut
  have balanced : Cuts (List.length ([] : List (GroupKind × OpenGroup))) s ls e [] := cuts
  have builds := builds_of_build? built
  obtain rfl := builds.depth balanced
  have legible : ∀ l ∈ ls, l.Legible := by
    intro l hl
    cases l with
    | atom a => exact (builds.atoms defined.legible).1 a hl
    | _ => trivial
  obtain ⟨narrows, ls', alike, short, further⟩ := cuts.narrow (fun l hl => (each l hl).2) legible
  have piece : CutsInto s ls' := ⟨narrows, outside_of_build? cuts built, short, further⟩
  obtain ⟨p', built', same⟩ := builds.alike alike .start .nil
  exact ⟨ls, ls', p', cut, cuts, legible, alike, piece, built'.built, same⟩

theorem CutsInto.fills (piece : CutsInto s ls) (built : build? [] .start ls = some p) : Fills s p :=
  ⟨ls, piece, fun k around _ rest => (builds_of_build? built).inside k around rest⟩

/-- A pattern with its digits written out fills a group as it does without. -/
theorem fills_of_parse? (tame : Tame s) (parsed : parse? s = some p) (defined : p.Defined .initial) :
    ∃ p', Fills s p' ∧ p.Alike p' ∧ ∃ ls, Lexeme.scan? (narrowDigits s) = some ls ∧
      build? [] .start ls = some p' := by
  obtain ⟨-, ls', p', -, -, -, -, piece, built, alike⟩ := cuts_of_parse? tame parsed defined
  exact ⟨p', piece.fills built, alike, ls', piece.scan?, built⟩

end Pattern

end StepExpr
