import StepExpr.Proofs.Regex.Ascii
import StepExpr.Proofs.Regex.Escape

/-!
# Members of classes

* `Member` is the text of one member of a class, and `readClassItem_sound` that of an item;
* `readClassStart_sound` and `readAsciiClass_sound` are for what starts a class and for the names of
  classes.
-/

namespace StepExpr

namespace Pattern

variable {cs left chunk M : List Char} {a : Atom} {b : Bool}

/-! ## Members -/

/-- The text of one member of a class, which nothing behind it changes. -/
inductive Member : List Char → Atom → Prop where
  | literal {c : Char} (h : c ≠ '\\') : Member [c] (.literal c false)
  | escape {c : Char} {more : List Char} {a : Atom} (plain : ∀ d ∈ more, IsPlain d)
      (digit : c = 'd' ∨ c = 'D' → more = [] ∧ a = .shorthand .digit (c == 'D'))
      (reads : ∀ rest, readEscape false (c :: (more ++ rest)) = some (a, rest)) :
      Member ('\\' :: c :: more) a

theorem Member.reads (h : Member chunk a) (rest : List Char) :
    readClassAtom false (chunk ++ rest) = some (a, rest) := by
  cases h with
  | literal h =>
    simp only [List.singleton_append]
    rw [readClassAtom]
    exact h
  | escape _ _ reads => exact reads rest

theorem Member.head?_append (h : Member chunk a) (rest : List Char) :
    (chunk ++ rest).head? = chunk.head? := by
  cases h <;> rfl

theorem Member.front {c : Char} {rest : List Char} (h : Member chunk a)
    (same : c :: rest = chunk ++ left) : ∃ tail, chunk = c :: tail ∧ rest = tail ++ left := by
  have head : chunk.head? = some c := by
    rw [← h.head?_append left, ← same]
    rfl
  obtain ⟨tail, rfl⟩ := List.head?_eq_some_iff.mp head
  exact ⟨tail, rfl, (List.cons.inj same).2⟩

theorem Member.of_read (ok : a.Legible) (inside : a ≠ .anchor .boundary)
    (h : readClassAtom false cs = some (a, left)) : ∃ chunk, cs = chunk ++ left ∧ Member chunk a := by
  unfold readClassAtom at h
  split at h
  · cases h
  · obtain ⟨c, more, rfl, plain, digit, -, reads⟩ := readEscape_sound ok h
    exact ⟨'\\' :: c :: more, rfl,
      .escape (fun d hd => (plain d hd).plain) digit fun rest =>
        reads rest fun same => absurd same inside⟩
  · rename_i c rest notEscape
    simp only [Option.some.injEq, Prod.mk.injEq] at h
    obtain ⟨rfl, rfl⟩ := h
    exact ⟨[c], rfl, .literal fun same => notEscape same⟩

theorem legible_of_classItem? {item : ClassExpr} (h : a.classItem? = some item) (ok : item.Legible) :
    a.Legible ∧ a ≠ .anchor .boundary := by
  cases a with
  | literal c byte => exact ⟨trivial, nofun⟩
  | shorthand k negated => exact ⟨trivial, nofun⟩
  | property q negated =>
    obtain ⟨⟩ := h
    exact ⟨ok, nofun⟩
  | dot | anchor _ | bracketed _ _ => cases h

theorem narrows_escape {c : Char} {more : List Char} (plain : ∀ d ∈ more, IsPlain d)
    (notDigit : ¬ (c = 'd' ∨ c = 'D')) : Narrows b ('\\' :: c :: more) ('\\' :: c :: more) b := by
  have kept : narrowEscape b c = ['\\', c] := by
    unfold narrowEscape
    split <;> simp_all
  have whole := (Narrows.escape (b := b) c).append (.plain plain)
  rw [kept] at whole
  exact whole

/-- Only `\d` and `\D` are digit classes. -/
theorem digitFree_of_readEscape {c : Char} (h : readEscape false (c :: cs) = some (a, left))
    (notDigit : ¬ (c = 'd' ∨ c = 'D')) : a.DigitFree := by
  unfold readEscape at h
  simp only at h
  split at h
  case h_1 | h_2 | h_3 =>
    obtain ⟨_, -, same⟩ := Option.map_eq_some_iff.mp h
    exact (Prod.mk.inj same).1 ▸ trivial
  case h_4 | h_5 =>
    obtain ⟨_, _, rfl⟩ := readProperty_property h
    trivial
  case h_6 | h_7 => simp at notDigit
  case h_20 =>
    obtain ⟨_, rfl⟩ := readBoundary_anchor h
    trivial
  case h_24 =>
    obtain ⟨-, same⟩ := Option.ite_none_right_eq_some.mp h
    exact (Prod.mk.inj (Option.some.inj same)).1 ▸ trivial
  all_goals
    obtain ⟨rfl, rfl⟩ := Prod.mk.inj (Option.some.inj h)
    first | trivial | nofun

theorem digitFree_classItem? {item : ClassExpr} (h : a.DigitFree) (isItem : a.classItem? = some item) :
    item.DigitFree := by
  cases a with
  | literal | property =>
    obtain rfl := Option.some.inj isItem
    trivial
  | shorthand k negated =>
    obtain rfl := Option.some.inj isItem
    exact h
  | dot | anchor | bracketed => cases isItem

theorem Member.narrows_literal {c : Char} {byte : Bool} (h : Member chunk (.literal c byte)) :
    ∃ after, Narrows b chunk chunk after := by
  cases h with
  | literal h =>
    by_cases opens : c = '['
    · subst opens
      exact ⟨true, .opener⟩
    by_cases closes : c = ']'
    · subst closes
      exact ⟨false, .closer⟩
    · exact ⟨b, .plain (List.forall_mem_singleton.mpr ⟨h, opens, closes⟩)⟩
  | escape plain digit _ =>
    exact ⟨b, narrows_escape plain fun same => nomatch (digit same).2⟩

theorem Member.narrows (h : Member chunk a) (opens : chunk.head? ≠ some '[')
    (closes : chunk.head? ≠ some ']') :
    (Narrows b chunk chunk b ∧ a.DigitFree) ∨ ∃ c, (c = 'd' ∨ c = 'D') ∧ chunk = ['\\', c] ∧
      a = .shorthand .digit (c == 'D') := by
  cases h with
  | literal h =>
    refine .inl ⟨.plain (List.forall_mem_singleton.mpr ⟨h, ?_, ?_⟩), trivial⟩
    · simpa using opens
    · simpa using closes
  | @escape c more a plain digit reads =>
    by_cases same : c = 'd' ∨ c = 'D'
    · obtain ⟨rfl, isDigit⟩ := digit same
      exact .inr ⟨c, same, rfl, isDigit⟩
    · exact .inl ⟨narrows_escape plain same, digitFree_of_readEscape (reads []) same⟩

/-! ## Items -/

/-- A hyphen at the front does not make a range. -/
def NoRange (cs : List Char) : Prop :=
  ∀ rest, cs = '-' :: rest → rest.head? = some ']' ∨ rest.head? = some '-'

theorem readClassItem_member {item : ClassExpr} (h : Member chunk a) (isItem : a.classItem? = some item)
    (tail : cs ≠ []) (single : NoRange cs) : readClassItem false (chunk ++ cs) = some (item, cs) := by
  unfold readClassItem
  simp only [h.reads, skip, Bool.false_eq_true, if_false, Option.bind_eq_bind, Option.bind_some]
  split
  · exact absurd rfl tail
  · rename_i after
    have next := single after rfl
    simp [afterHyphen, next, isItem]
  · rw [isItem]
    rfl

theorem readClassItem_range {c d : Char} {last : List Char} {byte byte' : Bool}
    (h : Member chunk (.literal c byte)) (g : Member last (.literal d byte')) (le : c ≤ d)
    (closes : last.head? ≠ some ']') (hyphen : last.head? ≠ some '-') :
    readClassItem false (chunk ++ '-' :: (last ++ cs)) = some (.range c d, cs) := by
  simp [readClassItem, h.reads, g.reads, skip, afterHyphen, g.head?_append, closes, hyphen, le]

/-- An item is a member or a range between two. -/
theorem readClassItem_sound {item : ClassExpr} (ok : item.Legible)
    (h : readClassItem false cs = some (item, left)) :
    (∃ chunk a, cs = chunk ++ left ∧ Member chunk a ∧ a.classItem? = some item ∧ left ≠ [] ∧
      NoRange left) ∨
    ∃ chunk last c d byte byte', cs = chunk ++ '-' :: (last ++ left) ∧
      Member chunk (.literal c byte) ∧ Member last (.literal d byte') ∧ c ≤ d ∧
      last.head? ≠ some ']' ∧ last.head? ≠ some '-' ∧ item = .range c d := by
  unfold readClassItem at h
  obtain ⟨⟨first, rest⟩, hf, h⟩ := Option.bind_eq_some_iff.mp h
  have member {item : ClassExpr} (ok : item.Legible) (isItem : first.classItem? = some item) :
      ∃ chunk, cs = chunk ++ rest ∧ Member chunk first := by
    obtain ⟨legible, inside⟩ := legible_of_classItem? isItem ok
    exact Member.of_read legible inside hf
  simp only [skip, Bool.false_eq_true, if_false] at h
  split at h
  · cases h
  · rename_i after
    simp only [afterHyphen, Bool.false_eq_true, if_false, Bool.or_eq_true, decide_eq_true_eq] at h
    split at h
    · rename_i next
      obtain ⟨item', isItem, same⟩ := Option.map_eq_some_iff.mp h
      simp only [Prod.mk.injEq] at same
      obtain ⟨rfl, rfl⟩ := same
      obtain ⟨chunk, rfl, text⟩ := member ok isItem
      refine .inl ⟨chunk, first, rfl, text, isItem, List.cons_ne_nil _ _, ?_⟩
      rintro rest ⟨rfl⟩
      exact next
    · rename_i next
      obtain ⟨⟨last, left'⟩, hl, h⟩ := Option.bind_eq_some_iff.mp h
      split at h
      · rename_i c byte d byte' same _
        obtain rfl : last = .literal d byte' := same
        split at h
        · rename_i le
          simp only [Option.some.injEq, Prod.mk.injEq] at h
          obtain ⟨rfl, rfl⟩ := h
          obtain ⟨chunk, rfl, text⟩ := @member (.literal c) trivial rfl
          obtain ⟨more, rfl, text'⟩ := Member.of_read (a := .literal d byte') trivial (by simp) hl
          rw [text'.head?_append, not_or] at next
          exact .inr ⟨chunk, more, c, d, byte, byte', rfl, text, text', le, next.1, next.2, rfl⟩
        · cases h
      · cases h
  · rename_i filled notHyphen
    obtain ⟨item', isItem, same⟩ := Option.map_eq_some_iff.mp h
    simp only [Prod.mk.injEq] at same
    obtain ⟨rfl, rfl⟩ := same
    obtain ⟨chunk, rfl, text⟩ := member ok isItem
    exact .inl ⟨chunk, first, rfl, text, isItem, filled, fun rest same => absurd same (notHyphen rest)⟩

theorem readClassItems_item {fuel : Nat} {outer : List OpenClass} {inner : OpenClass}
    {item : ClassExpr} {c : Char} {rest : List Char} (opens : c ≠ '[') (closes : c ≠ ']')
    (single : rest.head? = some c → c ≠ '&' ∧ c ≠ '-' ∧ c ≠ '~')
    (h : readClassItem false (c :: rest) = some (item, left)) :
    readClassItems false (fuel + 1) outer inner (c :: rest) =
      readClassItems false fuel outer (inner.push item) left := by
  rw [readClassItems]
  simp only [skip, Bool.false_eq_true, if_false]
  split
  · rename_i same
    cases same
  · rename_i same
    exact absurd (List.cons.inj same).1 opens
  · rename_i same
    exact absurd (List.cons.inj same).1 closes
  · rename_i same
    obtain ⟨rfl, rfl⟩ := List.cons.inj same
    exact absurd rfl (single rfl).1
  · rename_i same
    obtain ⟨rfl, rfl⟩ := List.cons.inj same
    exact absurd rfl (single rfl).2.1
  · rename_i same
    obtain ⟨rfl, rfl⟩ := List.cons.inj same
    exact absurd rfl (single rfl).2.2
  · rename_i same
    obtain ⟨rfl, rfl⟩ := List.cons.inj same
    rw [h]

/-! ## Starts -/

/-- Two texts with the same mark at the front, if there is one. -/
def SameMark (cs ds : List Char) : Prop :=
  ∀ c, IsKept c → (ds.head? = some c ↔ cs.head? = some c)

/-- The start of a class after its caret, or without one. -/
def startFrom (negated : Bool) (cs : List Char) : OpenClass × List Char :=
  let (hyphens, rest) := collect false (· = '-') false cs
  let start : OpenClass := ⟨negated, hyphens.map .literal, none⟩
  match hyphens, rest with
  | [], ']' :: rest => (start.push (.literal ']'), rest)
  | _, rest => (start, rest)

theorem readClassStart_caret (rest : List Char) :
    readClassStart false ('^' :: rest) = startFrom true rest := rfl

theorem readClassStart_eq (h : cs.head? ≠ some '^') :
    readClassStart false cs = startFrom false cs := by
  cases cs with
  | nil => rfl
  | cons c cs =>
    have notCaret : c ≠ '^' := by simpa using h
    unfold readClassStart
    split
    rename_i negated rest start
    simp only [skip, Bool.false_eq_true, if_false] at start
    split at start
    · rename_i caret
      exact absurd (List.cons.inj caret).1 notCaret
    · obtain ⟨rfl, rfl⟩ := Prod.mk.inj start
      rfl

theorem isKept_marks : IsKept '^' ∧ IsKept '-' ∧ IsKept ']' := by
  refine ⟨⟨?_, ?_, ?_⟩, ⟨?_, ?_, ?_⟩, ⟨?_, ?_, ?_⟩⟩ <;> decide

theorem startFrom_sound {negated : Bool} {start : OpenClass}
    (h : startFrom negated cs = (start, left)) :
    ∃ pre after, cs = pre ++ left ∧ Narrows true pre pre after ∧ pre.head? ≠ some '^' ∧
      ∀ rest, rest ≠ [] → SameMark left rest → startFrom negated (pre ++ rest) = (start, rest) := by
  obtain ⟨-, hyphen, bracket⟩ := isKept_marks
  unfold startFrom at h
  cases hc : collect false (fun c => decide (c = '-')) false cs with
  | mk hyphens behind =>
    obtain ⟨rfl, all, stop⟩ := collect_sound hc
    simp only [hc] at h
    split at h
    · rename_i rest
      simp only [Prod.mk.injEq] at h
      obtain ⟨rfl, rfl⟩ := h
      exact ⟨[']'], false, rfl, .closer, by simp, fun rest _ _ => rfl⟩
    · rename_i notClosing
      simp only [Prod.mk.injEq] at h
      obtain ⟨rfl, rfl⟩ := h
      refine ⟨hyphens, true, rfl, .plain fun c hc => ?_, fun same => ?_, fun rest filled marks => ?_⟩
      · have isHyphen : c = '-' := by simpa using all c hc
        exact isHyphen ▸ ⟨by decide, by decide, by decide⟩
      · obtain ⟨more, rfl⟩ := List.head?_eq_some_iff.mp same
        exact absurd (all '^' List.mem_cons_self) (by decide)
      · obtain ⟨d, rest, rfl⟩ := List.exists_cons_of_ne_nil filled
        have notHyphen : decide (d = '-') = false := by
          refine decide_eq_false fun same => ?_
          have starts := (marks '-' hyphen).mp (by rw [same]; rfl)
          obtain ⟨more, rfl⟩ := List.head?_eq_some_iff.mp starts
          exact absurd (stop '-' more rfl) (by decide)
        unfold startFrom
        rw [collect_stop all notHyphen]
        cases hyphens with
        | cons hyphen hyphens => rfl
        | nil =>
          have notBracket : d ≠ ']' := by
            rintro rfl
            obtain ⟨more, rfl⟩ := List.head?_eq_some_iff.mp ((marks ']' bracket).mp rfl)
            exact notClosing more rfl rfl
          simp [notBracket]

theorem readClassStart_sound {start : OpenClass} (h : readClassStart false cs = (start, left)) :
    ∃ pre after, cs = pre ++ left ∧ Narrows true pre pre after ∧
      ∀ rest, rest ≠ [] → SameMark left rest → readClassStart false (pre ++ rest) = (start, rest) := by
  by_cases caret : cs.head? = some '^'
  · obtain ⟨cs, rfl⟩ := List.head?_eq_some_iff.mp caret
    rw [readClassStart_caret] at h
    obtain ⟨pre, after, rfl, narrows, -, reads⟩ := startFrom_sound h
    have plain : Narrows true ['^'] ['^'] true :=
      .plain (List.forall_mem_singleton.mpr ⟨by decide, by decide, by decide⟩)
    exact ⟨'^' :: pre, after, rfl, plain.append narrows, reads⟩
  · rw [readClassStart_eq caret] at h
    obtain ⟨pre, after, rfl, narrows, notCaret, reads⟩ := startFrom_sound h
    refine ⟨pre, after, rfl, narrows, fun rest filled marks => ?_⟩
    rw [readClassStart_eq, reads rest filled marks]
    cases pre with
    | nil => exact fun same => caret ((marks '^' isKept_marks.1).mp same)
    | cons c pre => exact notCaret

theorem digitFree_of_readClassStart {start : OpenClass}
    (h : readClassStart false cs = (start, left)) :
    (∀ item ∈ start.items, item.DigitFree) ∧ start.pending = none := by
  have fromStart {negated : Bool} {cs : List Char} (h : startFrom negated cs = (start, left)) :
      (∀ item ∈ start.items, item.DigitFree) ∧ start.pending = none := by
    unfold startFrom at h
    simp only at h
    split at h
    · obtain ⟨rfl, -⟩ := Prod.mk.inj h
      simp_all [OpenClass.push, ClassExpr.DigitFree]
    · obtain ⟨rfl, -⟩ := Prod.mk.inj h
      simp [ClassExpr.DigitFree]
  by_cases caret : cs.head? = some '^'
  · obtain ⟨cs, rfl⟩ := List.head?_eq_some_iff.mp caret
    exact fromStart h
  · rw [readClassStart_eq caret] at h
    exact fromStart h

/-! ## Named classes -/

theorem asciiClass_chars {name : List Char} {k : AsciiClass} (h : AsciiClass.named? name = some k) :
    name.head? ≠ some '^' ∧ ∀ c ∈ name, IsPlain c ∧ IsKept c := by
  have listed : (String.ofList name, k) ∈ AsciiClass.names := by
    obtain ⟨before, after, same, -⟩ := List.lookup_eq_some_iff.mp h
    rw [same]
    simp
  have chars : ∀ entry ∈ AsciiClass.names, entry.1.toList.head? ≠ some '^' ∧
      ∀ c ∈ entry.1.toList, IsPlain c ∧ IsKept c := by
    simp [AsciiClass.names, IsPlain, IsKept]
  simpa using chars _ listed

/-- The name of a class after its colon and its caret, if it has one. -/
def asciiNamed (negated : Bool) (cs : List Char) : Option (ClassExpr × List Char) :=
  match cs.span (· != ':') with
  | (name, ':' :: ']' :: left) => (AsciiClass.named? name).map fun k => (.ascii k negated, left)
  | _ => none

theorem asciiNamed_sound {negated : Bool} {item : ClassExpr}
    (h : asciiNamed negated cs = some (item, left)) :
    ∃ name, cs = name ++ ':' :: ']' :: left ∧ name.head? ≠ some '^' ∧
      (∀ c ∈ name, IsPlain c ∧ IsKept c) ∧
      ∀ rest, asciiNamed negated (name ++ ':' :: ']' :: rest) = some (item, rest) := by
  unfold asciiNamed at h
  split at h
  · rename_i name behind spanned
    obtain ⟨k, named, same⟩ := Option.map_eq_some_iff.mp h
    simp only [Prod.mk.injEq] at same
    obtain ⟨rfl, rfl⟩ := same
    obtain ⟨rfl, all, stop⟩ := span_sound spanned
    obtain ⟨notCaret, chars⟩ := asciiClass_chars named
    refine ⟨name, rfl, notCaret, chars, fun rest => ?_⟩
    unfold asciiNamed
    rw [span_stop all stop]
    simp only [named, Option.map_some]
  · cases h

theorem readAsciiClass_eq (h : cs.head? ≠ some '^') :
    readAsciiClass (':' :: cs) = asciiNamed false cs := by
  cases cs with
  | nil => rfl
  | cons c cs =>
    have notCaret : c ≠ '^' := by simpa using h
    unfold readAsciiClass
    split
    · rename_i behind colon
      obtain rfl := (List.cons.inj colon).2
      split
      rename_i negated rest start
      split at start
      · rename_i caret
        exact absurd (List.cons.inj caret).1 notCaret
      · obtain ⟨rfl, rfl⟩ := Prod.mk.inj start
        rfl
    · rename_i noColon
      exact absurd rfl (noColon _)

theorem readAsciiClass_caret (cs : List Char) :
    readAsciiClass (':' :: '^' :: cs) = asciiNamed true cs := rfl

theorem readAsciiClass_sound {item : ClassExpr} (h : readAsciiClass cs = some (item, left)) :
    ∃ name, cs = name ++ ']' :: left ∧ (∀ c ∈ name, IsPlain c ∧ IsKept c) ∧
      ∀ rest, readAsciiClass (name ++ ']' :: rest) = some (item, rest) := by
  have colon : IsPlain ':' ∧ IsKept ':' := by simp [IsPlain, IsKept]
  have caret : IsPlain '^' ∧ IsKept '^' := by simp [IsPlain, IsKept]
  have around {before name : List Char} (first : ∀ c ∈ before, IsPlain c ∧ IsKept c)
      (chars : ∀ c ∈ name, IsPlain c ∧ IsKept c) :
      ∀ c ∈ before ++ (name ++ [':']), IsPlain c ∧ IsKept c := by
    refine List.forall_mem_append.mpr ⟨first, List.forall_mem_append.mpr ⟨chars, ?_⟩⟩
    exact List.forall_mem_singleton.mpr colon
  cases cs with
  | nil => cases h
  | cons c cs =>
  by_cases start : c = ':'
  · subst start
    by_cases negated : cs.head? = some '^'
    · obtain ⟨cs, rfl⟩ := List.head?_eq_some_iff.mp negated
      rw [readAsciiClass_caret] at h
      obtain ⟨name, rfl, -, chars, reads⟩ := asciiNamed_sound h
      refine ⟨[':', '^'] ++ (name ++ [':']), by simp, around ?_ chars, fun rest => ?_⟩
      · exact List.forall_mem_cons.mpr ⟨colon, List.forall_mem_singleton.mpr caret⟩
      · simpa using (readAsciiClass_caret _).trans (reads rest)
    · rw [readAsciiClass_eq negated] at h
      obtain ⟨name, rfl, notCaret, chars, reads⟩ := asciiNamed_sound h
      refine ⟨[':'] ++ (name ++ [':']), by simp, around ?_ chars, fun rest => ?_⟩
      · exact List.forall_mem_singleton.mpr colon
      · have plain : (name ++ ':' :: ']' :: rest).head? ≠ some '^' := by
          cases name with
          | nil => simp
          | cons d name => exact notCaret
        simpa using (readAsciiClass_eq plain).trans (reads rest)
  · unfold readAsciiClass at h
    split at h
    · rename_i same
      exact absurd (List.cons.inj same).1 start
    · cases h

theorem digitFree_of_readAsciiClass {item : ClassExpr}
    (h : readAsciiClass cs = some (item, left)) : item.DigitFree := by
  unfold readAsciiClass at h
  split at h
  · simp only at h
    split at h
    · obtain ⟨_, -, same⟩ := Option.map_eq_some_iff.mp h
      exact (Prod.mk.inj same).1 ▸ trivial
    · cases h
  · cases h

theorem mem_narrow_closer (h : ']' ∈ cs) : ']' ∈ narrowDigitsFrom b cs := by
  fun_induction narrowDigitsFrom b cs with
  | case1 => exact h
  | case2 => simp at h
  | case3 b c rest ih =>
    by_cases same : c = ']'
    · subst same
      exact List.mem_append_left _ (by simp [narrowEscape])
    · have behind : ']' ∈ rest := by simpa [Ne.symm same] using h
      exact List.mem_append_right _ (ih behind)
  | case4 b rest ih => exact List.mem_cons_of_mem _ (ih (by simpa using h))
  | case5 b rest ih => exact List.mem_cons_self
  | case6 b c rest _ _ _ notCloser ih =>
    rcases List.mem_cons.mp h with rfl | behind
    · exact List.mem_cons_self
    · exact List.mem_cons_of_mem _ (ih behind)

/-- What names no class is not written out as the name of one. -/
theorem readAsciiClass_narrow {mid rest : List Char} (n : Narrows b (mid ++ [']']) M false)
    (h : readAsciiClass (mid ++ ']' :: left) = none) : readAsciiClass (M ++ rest) = none := by
  cases found : readAsciiClass (M ++ rest) with
  | none => rfl
  | some result =>
    obtain ⟨item, left'⟩ := result
    obtain ⟨name, same, chars, reads⟩ := readAsciiClass_sound found
    have closed : ']' ∈ M := by
      rw [← n.eq]
      exact mem_narrow_closer (by simp)
    have named : name ++ [']'] <+: M := by
      have before : name ++ [']'] <+: M ++ rest := ⟨left', by rw [same]; simp⟩
      rcases List.prefix_or_prefix_of_prefix before (List.prefix_append M rest) with inside | beyond
      · exact inside
      rcases List.prefix_concat_iff.mp beyond with whole | part
      · exact whole ▸ List.prefix_rfl
      · exact absurd rfl (chars ']' (part.subset closed)).1.2.2
    have kept : ∀ c ∈ name ++ [']'], IsKept c := by
      intro c hc
      rcases List.mem_append.mp hc with hc | hc
      · exact (chars c hc).2
      · exact List.mem_singleton.mp hc ▸ isKept_marks.2.2
    rw [← n.eq] at named
    obtain ⟨more, behind⟩ := prefix_of_prefix_narrow kept named
    have source : mid ++ ']' :: left = name ++ ']' :: (more ++ left) := by
      rw [List.append_cons, ← behind]
      simp
    rw [source, reads] at h
    cases h

end Pattern

end StepExpr
