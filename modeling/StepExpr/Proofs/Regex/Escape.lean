import StepExpr.Proofs.Regex.Reading

/-!
# Escapes

* `readEscape_sound`: what follows a backslash is one character and some inner ones. The characters
  after these matter only to a bare `b`, which they may name.
-/

namespace StepExpr

namespace Pattern

variable {cs run left : List Char}

/-! ## Properties and boundaries -/

/-- What a query names, without what `\p` writes around it. -/
def PropertyQuery.chars : PropertyQuery → List Char
  | named name => name.toList
  | valued property value => property.toList ++ value.toList

theorem splitAtFirst_eq {separator text before after : List Char}
    (h : splitAtFirst separator text = some (before, after)) :
    text = before ++ separator ++ after := by
  induction text generalizing before with
  | nil => cases h
  | cons c text ih =>
    rw [splitAtFirst] at h
    split at h
    · rename_i starts
      simp only [Option.some.injEq, Prod.mk.injEq] at h
      obtain ⟨rfl, rfl⟩ := h
      obtain ⟨more, same⟩ := List.isPrefixOf_iff_prefix.mp starts
      rw [← same, List.nil_append, List.drop_left]
    · obtain ⟨⟨first, rest⟩, found, same⟩ := Option.map_eq_some_iff.mp h
      simp only [Prod.mk.injEq] at same
      obtain ⟨rfl, rfl⟩ := same
      rw [ih found]
      simp

theorem isInner_queryOf {text : List Char} (plain : ∀ c ∈ (queryOf text).1.chars, IsInner c) :
    ∀ c ∈ text, IsInner c := by
  have marks : IsInner '!' ∧ IsInner '=' ∧ IsInner ':' := by
    decide
  have join {before separator after : List Char} (sides : ∀ c ∈ before ++ after, IsInner c)
      (middle : ∀ c ∈ separator, IsInner c) : ∀ c ∈ before ++ separator ++ after, IsInner c := by
    intro c hc
    simp only [List.mem_append] at hc sides
    rcases hc with (hc | hc) | hc
    · exact sides c (.inl hc)
    · exact middle c hc
    · exact sides c (.inr hc)
  unfold queryOf at plain
  split at plain
  · rename_i found
    rw [splitAtFirst_eq found]
    exact join (by simpa [PropertyQuery.chars] using plain) (by simpa using ⟨marks.1, marks.2.1⟩)
  · split at plain
    · rename_i found
      rw [splitAtFirst_eq found]
      exact join (by simpa [PropertyQuery.chars] using plain) (by simpa using marks.2.2)
    · split at plain
      · rename_i found
        rw [splitAtFirst_eq found]
        exact join (by simpa [PropertyQuery.chars] using plain) (by simpa using marks.2.1)
      · simpa [PropertyQuery.chars] using plain

theorem readProperty_local {negated negated' : Bool} {q : PropertyQuery}
    (plain : ∀ c ∈ q.chars, IsInner c)
    (h : readProperty false negated cs = some (.property q negated', left)) :
    Local (readProperty false negated) cs (.property q negated') left := by
  unfold readProperty at h
  simp only [skip, Bool.false_eq_true, if_false] at h
  split at h
  · cases h
  · split at h
    · rename_i text after hc
      simp only [Option.some.injEq, Prod.mk.injEq, Atom.property.injEq] at h
      obtain ⟨⟨rfl, rfl⟩, rfl⟩ := h
      obtain ⟨rfl, reads⟩ := collect_brace hc
      refine ⟨'\x7b' :: (text ++ ['\x7d']), by simp, ?_, fun rest => ?_⟩
      · intro c hc
        simp only [List.mem_cons, List.mem_append, List.not_mem_nil, or_false] at hc
        rcases hc with rfl | hc | rfl
        · exact isInner_brace.1
        · exact isInner_queryOf plain c hc
        · exact isInner_brace.2
      · simp [readProperty, skip, reads]
    · cases h
  · cases h
  · rename_i c after notBrace notEscape
    simp only [Option.some.injEq, Prod.mk.injEq, Atom.property.injEq] at h
    obtain ⟨⟨rfl, rfl⟩, rfl⟩ := h
    refine ⟨[c], rfl, by simpa [PropertyQuery.chars] using plain, fun rest => ?_⟩
    simp only [readProperty, skip, Bool.false_eq_true, if_false, List.singleton_append]

theorem boundaryNamed?_inner {name : List Char} {a : Anchor} (h : boundaryNamed? name = some a) :
    ∀ c ∈ name, IsInner c := by
  unfold boundaryNamed? at h
  split at h
  case h_5 => cases h
  all_goals exact isInner_of_all rfl

theorem boundaryNamed?_ne {name : List Char} {a : Anchor} (h : boundaryNamed? name = some a) :
    a ≠ .boundary := by
  rintro rfl
  unfold boundaryNamed? at h
  split at h <;> cases h

/-- The text after a boundary does not go on with the boundary's name. -/
def EndsBoundary (cs : List Char) : Prop :=
  readBoundary false cs = some (.anchor .boundary, cs)

theorem isNameChar_brace : (fun c : Char => c.isAlpha || decide (c = '-')) '\x7d' = false := by
  decide

theorem readBoundary_sound {a : Atom} (h : readBoundary false cs = some (a, left)) :
    Local (readBoundary false) cs a left ∧ a ≠ .anchor .boundary ∨
      a = .anchor .boundary ∧ left = cs := by
  unfold readBoundary at h
  split at h
  · simp only [skip, Bool.false_eq_true, if_false] at h
    split at h
    · cases h
    · rename_i c inside
      split at h
      · rename_i named
        split at h
        · rename_i name after hc
          obtain ⟨anchor, found, same⟩ := Option.map_eq_some_iff.mp h
          simp only [Prod.mk.injEq] at same
          obtain ⟨rfl, rfl⟩ := same
          obtain ⟨split, all, -⟩ := collect_sound hc
          refine .inl ⟨⟨'\x7b' :: (name ++ ['\x7d']), by simp [split], ?_, fun rest => ?_⟩, ?_⟩
          · intro d hd
            rcases List.mem_cons.mp hd with rfl | hd
            · exact isInner_brace.1
            rcases List.mem_append.mp hd with hd | hd
            · exact boundaryNamed?_inner found d hd
            · exact List.mem_singleton.mp hd ▸ isInner_brace.2
          · have reads := collect_stop all isNameChar_brace rest
            cases name with
            | nil => cases found
            | cons first name =>
              have start : first = c := by simpa using (List.cons.inj split).1.symm
              subst start
              simp only [List.cons_append] at reads
              simp only [readBoundary, skip, Bool.false_eq_true, if_false, List.cons_append,
                List.append_assoc, List.nil_append, named, if_true, reads, found, Option.map_some]
          · rintro ⟨rfl⟩
            exact boundaryNamed?_ne found rfl
        · cases h
      · simp only [Option.some.injEq, Prod.mk.injEq] at h
        exact .inr ⟨h.1.symm, h.2.symm⟩
  · simp only [Option.some.injEq, Prod.mk.injEq] at h
    exact .inr ⟨h.1.symm, h.2.symm⟩

theorem readBoundary_anchor {a : Atom} (h : readBoundary false cs = some (a, left)) :
    ∃ k, a = .anchor k := by
  unfold readBoundary at h
  split at h
  · simp only [skip, Bool.false_eq_true, if_false] at h
    split at h
    · cases h
    · split at h
      · split at h
        · obtain ⟨k, -, same⟩ := Option.map_eq_some_iff.mp h
          exact ⟨k, (Prod.mk.inj same).1.symm⟩
        · cases h
      · exact ⟨_, (Prod.mk.inj (Option.some.inj h)).1.symm⟩
  · exact ⟨_, (Prod.mk.inj (Option.some.inj h)).1.symm⟩

/-! ## Escapes -/

/-- The queries of the class name nothing with backslashes, brackets or parentheses. -/
def ClassExpr.Legible : ClassExpr → Prop
  | property q _ => ∀ c ∈ q.chars, IsInner c
  | union a b => a.Legible ∧ b.Legible
  | operation _ a b => a.Legible ∧ b.Legible
  | bracket _ content => content.Legible
  | _ => True

/-- The queries of the atom name nothing with backslashes, brackets or parentheses. -/
def Atom.Legible : Atom → Prop
  | property q _ => ∀ c ∈ q.chars, IsInner c
  | bracketed _ content => content.Legible
  | _ => True

/-- What follows a backslash: one character and inner ones, and nothing after them matters unless
they are a bare `b`. -/
def Escapes (cs : List Char) (a : Atom) (left : List Char) : Prop :=
  ∃ c more, cs = c :: (more ++ left) ∧ (∀ d ∈ more, IsInner d) ∧
    (c = 'd' ∨ c = 'D' → more = [] ∧ a = .shorthand .digit (c == 'D')) ∧
    (a = .anchor .boundary → EndsBoundary left) ∧
    ∀ rest, (a = .anchor .boundary → EndsBoundary rest) →
      readEscape false (c :: (more ++ rest)) = some (a, rest)

theorem Escapes.single {c : Char} {a : Atom} (hc : c = 'd' ∨ c = 'D' → a = .shorthand .digit (c == 'D'))
    (ha : a ≠ .anchor .boundary) (reads : ∀ rest, readEscape false (c :: rest) = some (a, rest)) :
    Escapes (c :: left) a left :=
  ⟨c, [], rfl, by simp, fun h => ⟨rfl, hc h⟩, fun h => absurd h ha, fun rest _ => reads rest⟩

theorem Escapes.of_local {c : Char} {a : Atom} {read : List Char → Option (Atom × List Char)}
    (hc : c ≠ 'd' ∧ c ≠ 'D') (ha : a ≠ .anchor .boundary) (h : Local read cs a left)
    (reads : ∀ rest, read rest = readEscape false (c :: rest)) :
    Escapes (c :: cs) a left := by
  obtain ⟨chunk, rfl, plain, whole⟩ := h
  refine ⟨c, chunk, rfl, plain, fun same => ?_, fun h => absurd h ha, fun rest _ => ?_⟩
  · rcases same with same | same
    · exact absurd same hc.1
    · exact absurd same hc.2
  · rw [← reads, whole]

theorem Escapes.of_hex {n : Nat} {c d : Char} (byte : List Char → Bool)
    (hc : c ≠ 'd' ∧ c ≠ 'D') (hbyte : ∀ d cs left, byte (d :: cs) = byte (d :: left))
    (h : readHex false (n + 1) cs = some (d, left))
    (reads : ∀ cs, readEscape false (c :: cs) =
      (readHex false (n + 1) cs).map fun (d, left) => (.literal d (byte cs), left)) :
    Escapes (c :: cs) (.literal d (byte cs)) left := by
  obtain ⟨chunk, rfl, plain, whole⟩ := readHex_local h
  refine ⟨c, chunk, rfl, plain, fun same => ?_, nofun, fun rest _ => ?_⟩
  · rcases same with same | same
    · exact absurd same hc.1
    · exact absurd same hc.2
  · cases chunk with
    | nil =>
      have := whole []
      simp [readHex, skip, readHexDigits] at this
    | cons first chunk =>
      rw [reads, whole]
      simp only [Option.map_some, List.cons_append]
      rw [hbyte first (chunk ++ rest) (chunk ++ left)]

theorem readProperty_property {negated : Bool} {a : Atom}
    (h : readProperty false negated cs = some (a, left)) : ∃ q negated, a = .property q negated := by
  unfold readProperty at h
  split at h
  · cases h
  · split at h
    · simp only [Option.some.injEq, Prod.mk.injEq] at h
      exact ⟨_, _, h.1.symm⟩
    · cases h
  · cases h
  · simp only [Option.some.injEq, Prod.mk.injEq] at h
    exact ⟨_, _, h.1.symm⟩

theorem readEscape_sound {a : Atom} (ok : a.Legible) (h : readEscape false cs = some (a, left)) :
    Escapes cs a left := by
  cases cs with
  | nil => cases h
  | cons c cs =>
    unfold readEscape at h
    simp only at h
    split at h
    case h_1 =>
      obtain ⟨⟨d, rest⟩, hd, same⟩ := Option.map_eq_some_iff.mp h
      simp only [Prod.mk.injEq] at same
      obtain ⟨rfl, rfl⟩ := same
      exact .of_hex (fun cs => cs.head? != some '\x7b') (by decide) (by simp) hd (fun _ => rfl)
    case h_2 =>
      obtain ⟨⟨d, rest⟩, hd, same⟩ := Option.map_eq_some_iff.mp h
      simp only [Prod.mk.injEq] at same
      obtain ⟨rfl, rfl⟩ := same
      exact .of_hex (fun _ => false) (by decide) (by simp) hd (fun _ => rfl)
    case h_3 =>
      obtain ⟨⟨d, rest⟩, hd, same⟩ := Option.map_eq_some_iff.mp h
      simp only [Prod.mk.injEq] at same
      obtain ⟨rfl, rfl⟩ := same
      exact .of_hex (fun _ => false) (by decide) (by simp) hd (fun _ => rfl)
    case h_4 =>
      obtain ⟨q, negated, rfl⟩ := readProperty_property h
      exact .of_local (by decide) nofun (readProperty_local ok h) fun _ => rfl
    case h_5 =>
      obtain ⟨q, negated, rfl⟩ := readProperty_property h
      exact .of_local (by decide) nofun (readProperty_local ok h) fun _ => rfl
    case h_20 =>
      rcases readBoundary_sound h with ⟨found, notBare⟩ | ⟨rfl, rfl⟩
      · exact .of_local (by decide) notBare found fun _ => rfl
      · exact ⟨'b', [], rfl, by simp, by decide, fun _ => h, fun rest ends => ends rfl⟩
    case h_24 =>
      split at h
      · rename_i escapable
        simp only [Option.some.injEq, Prod.mk.injEq] at h
        obtain ⟨rfl, rfl⟩ := h
        refine .single ?_ nofun fun rest => ?_
        · rintro (rfl | rfl) <;> exact absurd escapable (by decide)
        · rw [readEscape]
          · rw [if_pos escapable]
          all_goals assumption
      · cases h
    all_goals
      simp only [Option.some.injEq, Prod.mk.injEq] at h
      obtain ⟨rfl, rfl⟩ := h
      exact .single (by decide) nofun fun _ => rfl

end Pattern

end StepExpr
