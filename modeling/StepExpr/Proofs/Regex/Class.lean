import StepExpr.Proofs.Regex.Member

/-!
# Classes

A class that is written out is still read as one class, which ends where it ended before. Digits
become a range or a class of their own, and everything else is read as it was.

* `OpenClass.Narrowed` says so of classes that are still open;
* `ReadsClass` tells how the items of a class are read, one by one;
* `Closes` says that the rest of some classes is written out as the rest of as many;
* `readClass_sound`: what follows an opening bracket.
-/

namespace StepExpr

namespace Pattern

variable {cs left s M : List Char} {a : Atom} {b : Bool}

/-! ## Open classes -/

/-- The items and the operation of the second class are what those of the first become when digits
are written out. -/
structure OpenClass.Narrowed (o o' : OpenClass) : Prop where
  negated : o'.negated = o.negated
  items : List.Forall₂ ClassExpr.Narrowed o.items o'.items
  pending : Option.Rel (fun x y => y.1 = x.1 ∧ x.2.Narrowed y.2) o.pending o'.pending

namespace OpenClass.Narrowed

variable {o o' : OpenClass} {item item' : ClassExpr}

theorem start {cs left : List Char} (h : readClassStart false cs = (o, left)) : o.Narrowed o := by
  obtain ⟨items, pending⟩ := digitFree_of_readClassStart h
  refine ⟨rfl, List.forall₂_same.mpr fun item hi => .refl (items item hi), ?_⟩
  rw [pending]
  exact .none

theorem push (h : o.Narrowed o') (g : item.Narrowed item') :
    (o.push item).Narrowed (o'.push item') :=
  ⟨h.negated, .cons g h.items, h.pending⟩

theorem content (h : o.Narrowed o') : o.content.Narrowed o'.content := by
  have right : (ClassExpr.unionOf o.items.reverse).Narrowed (.unionOf o'.items.reverse) :=
    .unionOf (List.rel_reverse h.items)
  have pending := h.pending
  unfold OpenClass.content
  generalize o.pending = before, o'.pending = after at pending
  cases pending with
  | none => exact right
  | @some operation operation' same =>
    obtain ⟨op, left⟩ := operation
    obtain ⟨op', left'⟩ := operation'
    obtain ⟨rfl, narrowed⟩ := same
    exact narrowed.operation right op'

theorem operate (h : o.Narrowed o') (op : SetOperator) :
    (o.operate op).Narrowed (o'.operate op) :=
  ⟨h.negated, .nil, .some ⟨rfl, h.content⟩⟩

theorem bracket (h : o.Narrowed o') : (ClassExpr.bracket o.negated o.content).Narrowed
    (.bracket o'.negated o'.content) :=
  h.negated ▸ h.content.bracket o.negated

theorem bracketed (h : o.Narrowed o') :
    (Atom.bracketed o.negated o.content).Narrowed (.bracketed o'.negated o'.content) :=
  h.negated ▸ Atom.Narrowed.bracketed h.content o.negated

end OpenClass.Narrowed

/-! ## Readings of classes -/

/-- Written twice, the character stands for the operation. -/
def SetOperator.sign : SetOperator → Char
  | intersection => '&'
  | difference => '-'
  | symmetricDifference => '~'

/-- How the rest of the classes `inner` and `outer` is read as `a`, with `left` behind it: a case for
each thing it can begin with. -/
inductive ReadsClass (a : Atom) (left : List Char) :
    List OpenClass → OpenClass → List Char → Prop where
  | ascii {outer : List OpenClass} {inner : OpenClass} {cs rest : List Char} {item : ClassExpr}
      (named : readAsciiClass cs = some (item, rest))
      (others : ReadsClass a left outer (inner.push item) rest) :
      ReadsClass a left outer inner ('[' :: cs)
  | opens {outer : List OpenClass} {inner start : OpenClass} {cs rest : List Char}
      (unnamed : readAsciiClass cs = none) (starts : readClassStart false cs = (start, rest))
      (others : ReadsClass a left (inner :: outer) start rest) :
      ReadsClass a left outer inner ('[' :: cs)
  | last {inner : OpenClass} (whole : .bracketed inner.negated inner.content = a) :
      ReadsClass a left [] inner (']' :: left)
  | closes {outer : List OpenClass} {inner around : OpenClass} {cs : List Char}
      (others : ReadsClass a left outer (around.push (.bracket inner.negated inner.content)) cs) :
      ReadsClass a left (around :: outer) inner (']' :: cs)
  | operator {outer : List OpenClass} {inner : OpenClass} {cs : List Char} (op : SetOperator)
      (others : ReadsClass a left outer (inner.operate op) cs) :
      ReadsClass a left outer inner (op.sign :: op.sign :: cs)
  | item {outer : List OpenClass} {inner : OpenClass} {c : Char} {cs rest : List Char}
      {item : ClassExpr} (opens : c ≠ '[') (notLast : c ≠ ']')
      (single : cs.head? = some c → c ≠ '&' ∧ c ≠ '-' ∧ c ≠ '~')
      (found : readClassItem false (c :: cs) = some (item, rest))
      (others : ReadsClass a left outer (inner.push item) rest) :
      ReadsClass a left outer inner (c :: cs)

theorem readsClass_of_readClassItems {fuel : Nat} {outer : List OpenClass} {inner : OpenClass}
    (h : readClassItems false fuel outer inner cs = some (a, left)) :
    ReadsClass a left outer inner cs := by
  induction fuel generalizing outer inner cs with
  | zero => cases h
  | succ fuel ih =>
    unfold readClassItems at h
    simp only [skip, Bool.false_eq_true, if_false] at h
    split at h
    · cases h
    · split at h
      · rename_i named
        exact .ascii named (ih h)
      · rename_i unnamed
        exact .opens unnamed rfl (ih h)
    · split at h
      · obtain ⟨whole, rfl⟩ := Prod.mk.inj (Option.some.inj h)
        exact .last whole
      · exact .closes (ih h)
    · exact .operator .intersection (ih h)
    · exact .operator .difference (ih h)
    · exact .operator .symmetricDifference (ih h)
    · rename_i c rest opens notLast notAnd notMinus notTilde
      split at h
      · rename_i found
        refine .item opens notLast (fun twin => ?_) found (ih h)
        obtain ⟨rest, rfl⟩ := List.head?_eq_some_iff.mp twin
        refine ⟨?_, ?_, ?_⟩ <;> rintro rfl
        · exact notAnd rest rfl rfl
        · exact notMinus rest rfl rfl
        · exact notTilde rest rfl rfl
      · cases h

theorem readsClass_of_readClass (h : readClass false cs = some (a, left)) :
    ∃ start rest, readClassStart false cs = (start, rest) ∧ ReadsClass a left [] start rest :=
  ⟨_, _, rfl, readsClass_of_readClassItems h⟩

/-- A property that unions and operations have if and only if both of their parts do. -/
structure ClassExpr.Partwise (p : ClassExpr → Prop) : Prop where
  empty : p .empty
  union : ∀ a b, p (.union a b) ↔ p a ∧ p b
  operation : ∀ op a b, p (.operation op a b) ↔ p a ∧ p b

namespace ClassExpr.Partwise

variable {p : ClassExpr → Prop} {items : List ClassExpr} {o : OpenClass} {item : ClassExpr}
  {op : SetOperator}

theorem legible : Partwise Legible :=
  ⟨trivial, fun _ _ => .rfl, fun _ _ _ => .rfl⟩

theorem unionOf (h : Partwise p) : p (.unionOf items) ↔ ∀ item ∈ items, p item := by
  fun_induction ClassExpr.unionOf items with
  | case1 => simpa using h.empty
  | case2 item => simp
  | case3 item items _ ih => rw [h.union, ih, List.forall_mem_cons]

theorem content (h : Partwise p) : p o.content ↔
    (∀ item ∈ o.items, p item) ∧ ∀ op left, o.pending = some (op, left) → p left := by
  unfold OpenClass.content
  cases pending : o.pending with
  | none => simp [h.unionOf]
  | some operation =>
    obtain ⟨op, left⟩ := operation
    simp [h.operation, h.unionOf, and_comm]

theorem push (h : Partwise p) : p (o.push item).content ↔ p o.content ∧ p item := by
  rw [h.content, h.content]
  simp only [OpenClass.push, List.forall_mem_cons]
  rw [and_assoc, and_comm]

theorem operate (h : Partwise p) : p (o.operate op).content ↔ p o.content := by
  rw [h.content]
  simp [OpenClass.operate]

end ClassExpr.Partwise

namespace ReadsClass

variable {outer : List OpenClass} {inner : OpenClass}

theorem bracketed (h : ReadsClass a left outer inner cs) :
    ∃ negated content, a = .bracketed negated content := by
  induction h with
  | last whole => exact ⟨_, _, whole.symm⟩
  | ascii _ _ ih | opens _ _ _ ih | closes _ ih | operator _ _ ih | item _ _ _ _ _ ih => exact ih

/-- The classes that are open are parts of the class that is read. -/
theorem legible (h : ReadsClass a left outer inner cs) (ok : a.Legible) :
    ∀ o ∈ inner :: outer, o.content.Legible := by
  have parts := ClassExpr.Partwise.legible
  induction h with
  | ascii _ _ ih | item _ _ _ _ _ ih =>
    obtain ⟨head, tail⟩ := List.forall_mem_cons.mp ih
    exact List.forall_mem_cons.mpr ⟨(parts.push.mp head).1, tail⟩
  | opens _ _ _ ih => exact (List.forall_mem_cons.mp ih).2
  | last whole =>
    subst whole
    exact List.forall_mem_singleton.mpr ok
  | closes _ ih =>
    obtain ⟨head, tail⟩ := List.forall_mem_cons.mp ih
    obtain ⟨outside, inside⟩ := parts.push.mp head
    exact List.forall_mem_cons.mpr ⟨inside, List.forall_mem_cons.mpr ⟨outside, tail⟩⟩
  | operator _ _ ih =>
    obtain ⟨head, tail⟩ := List.forall_mem_cons.mp ih
    exact List.forall_mem_cons.mpr ⟨parts.operate.mp head, tail⟩

/-- What is pushed on the inner class is a part of the class that is read. -/
theorem legible_item {item : ClassExpr} (h : ReadsClass a left outer (inner.push item) cs)
    (ok : a.Legible) : item.Legible :=
  (ClassExpr.Partwise.legible.push.mp (h.legible ok _ List.mem_cons_self)).2

end ReadsClass

/-! ## Ends of classes -/

/-- The text `s` ends the classes `opened`, the innermost first, and the outermost is then `a`. It is
written out as `M`, which ends as many. -/
structure Closes (a : Atom) (opened : List OpenClass) (b : Bool) (s M : List Char) : Prop where
  narrows : Narrows b s M false
  filled : M ≠ []
  reads : ∀ outer inner, List.Forall₂ OpenClass.Narrowed opened (inner :: outer) →
    ∃ a', a.Narrowed a' ∧ ∀ rest fuel, M.length ≤ fuel →
      readClassItems false fuel outer inner (M ++ rest) = some (a', rest)

namespace Closes

variable {o inner around : OpenClass} {os outer : List OpenClass} {after : Bool} {chunk' : List Char}

theorem last : Closes (.bracketed o.negated o.content) [o] b [']'] [']'] := by
  refine ⟨.closer, by simp, fun outer inner alike => ?_⟩
  cases alike with
  | cons own none =>
    cases none
    refine ⟨.bracketed inner.negated inner.content, own.bracketed, fun rest fuel enough => ?_⟩
    obtain ⟨fuel, rfl⟩ := Nat.exists_eq_add_one.mpr enough
    rfl

theorem close (h : Closes a (around.push (.bracket inner.negated inner.content) :: outer) false s M) :
    Closes a (inner :: around :: outer) b (']' :: s) (']' :: M) := by
  refine ⟨Narrows.closer.append h.narrows, by simp, fun outer' inner' alike => ?_⟩
  obtain - | ⟨own, others⟩ := alike
  obtain - | ⟨next, others⟩ := others
  obtain ⟨a', defined, reads⟩ := h.reads _ _ (.cons (next.push own.bracket) others)
  refine ⟨a', defined, fun rest fuel enough => ?_⟩
  obtain ⟨fuel, rfl⟩ := Nat.exists_eq_add_one.mpr (Nat.lt_of_lt_of_le (by simp) enough)
  exact reads rest fuel (by simpa using enough)

/-- Characters that are read in some steps, as many as there are characters at most. -/
theorem step {opened : OpenClass} (h : Closes a (opened :: os) after s M)
    (narrows : Narrows b chunk chunk' after) (steps : Nat) (long : steps ≤ chunk'.length)
    (next : OpenClass → OpenClass) (defined : ∀ o', o.Narrowed o' → opened.Narrowed (next o'))
    (reads : ∀ rest fuel outer inner,
      readClassItems false (fuel + steps) outer inner (chunk' ++ (M ++ rest)) =
        readClassItems false fuel outer (next inner) (M ++ rest)) :
    Closes a (o :: os) b (chunk ++ s) (chunk' ++ M) := by
  refine ⟨narrows.append h.narrows, by simp [h.filled], fun outer inner alike => ?_⟩
  obtain - | ⟨own, others⟩ := alike
  obtain ⟨a', alike, whole⟩ := h.reads outer (next inner) (.cons (defined inner own) others)
  refine ⟨a', alike, fun rest fuel enough => ?_⟩
  rw [List.length_append] at enough
  obtain ⟨fuel, rfl⟩ := Nat.exists_eq_add_of_le' (Nat.le_trans long (Nat.le_trans
    (Nat.le_add_right _ _) enough))
  rw [List.append_assoc, reads, whole rest fuel (by omega)]

theorem opens {start : OpenClass} (h : Closes a (start :: os) after s M) {pre : List Char}
    (narrows : Narrows true pre pre after)
    (unnamed : ∀ rest, readAsciiClass (pre ++ (M ++ rest)) = none)
    (starts : ∀ rest, readClassStart false (pre ++ (M ++ rest)) = (start, M ++ rest)) :
    Closes a os b ('[' :: (pre ++ s)) ('[' :: (pre ++ M)) := by
  refine ⟨Narrows.opener.append (narrows.append h.narrows), by simp, fun outer inner alike => ?_⟩
  obtain ⟨a', defined, reads⟩ := h.reads (inner :: outer) start (.cons (.start (starts [])) alike)
  refine ⟨a', defined, fun rest fuel enough => ?_⟩
  simp only [List.length_cons, List.length_append] at enough
  obtain ⟨fuel, rfl⟩ := Nat.exists_eq_add_one.mpr (Nat.lt_of_lt_of_le (by simp) enough)
  rw [List.cons_append, List.append_assoc, readClassItems]
  simp only [skip, Bool.false_eq_true, if_false, unnamed, starts]
  exact reads rest fuel (by omega)

end Closes

theorem sameMark_narrow {after : Bool} {mid rest : List Char} (n : Narrows b (mid ++ [']']) M after)
    (filled : M ≠ []) : SameMark (mid ++ ']' :: left) (M ++ rest) := by
  intro c kept
  have out : (M ++ rest).head? = M.head? := by
    cases M with
    | nil => exact absurd rfl filled
    | cons d M => rfl
  have source : (mid ++ ']' :: left).head? = (mid ++ [']']).head? := by
    cases mid <;> rfl
  rw [out, source, ← n.eq, head?_narrow kept]

theorem NoRange.narrow {after : Bool} {mid rest : List Char} (n : Narrows b (mid ++ [']']) M after)
    (filled : M ≠ []) (single : NoRange (mid ++ ']' :: left)) : NoRange (M ++ rest) := by
  obtain ⟨-, hyphen, bracket⟩ := isKept_marks
  intro behind same
  cases M with
  | nil => exact absurd rfl filled
  | cons d M =>
    obtain ⟨rfl, rfl⟩ := List.cons.inj same
    obtain ⟨inside, tail, source, rfl⟩ := narrow_eq_cons hyphen n.eq
    cases mid with
    | nil => cases source
    | cons d mid =>
      obtain ⟨rfl, rfl⟩ := List.cons.inj source
      have heads : ∀ c, IsKept c → (mid ++ ']' :: left).head? = some c →
          (narrowDigitsFrom inside (mid ++ [']']) ++ rest).head? = some c := by
        intro c kept starts
        have first : (narrowDigitsFrom inside (mid ++ [']'])).head? = some c := by
          rw [head?_narrow kept]
          cases mid <;> exact starts
        obtain ⟨more, written⟩ := List.head?_eq_some_iff.mp first
        rw [written]
        rfl
      exact (single _ rfl).imp (heads ']' bracket) (heads '-' hyphen)

/-- Digits are one item, whether they are written as a range or as a class of their own, and have a
meaning where the shorthand has one. -/
theorem readClassItems_digits {c : Char} (digit : c = 'd' ∨ c = 'D')
    (written : ¬ (b = true ∧ c = 'D')) :
    ∃ item steps, steps ≤ (narrowEscape b c).length ∧
      (ClassExpr.shorthand .digit (c == 'D')).Narrowed item ∧
      ∀ rest fuel outer inner,
        readClassItems false (fuel + steps) outer inner (narrowEscape b c ++ rest) =
          readClassItems false fuel outer (inner.push item) rest := by
  rcases digit with rfl | rfl
  · cases b with
    | true => exact ⟨.range '0' '9', 1, by decide, .digitRange, fun _ _ _ _ => rfl⟩
    | false =>
      exact ⟨.bracket false (.range '0' '9'), 3, by decide, .digitClass false, fun _ _ _ _ => rfl⟩
  · cases b with
    | true => exact absurd ⟨rfl, rfl⟩ written
    | false =>
      exact ⟨.bracket true (.range '0' '9'), 3, by decide, .digitClass true, fun _ _ _ _ => rfl⟩

/-- Two signs in a row are an operator. What follows the first character of an item does not become
its twin when it is written out. -/
theorem SameMark.single {c : Char} {tail ds : List Char} (marks : SameMark s ds)
    (single : (tail ++ s).head? = some c → c ≠ '&' ∧ c ≠ '-' ∧ c ≠ '~')
    (twin : (tail ++ ds).head? = some c) : c ≠ '&' ∧ c ≠ '-' ∧ c ≠ '~' := by
  by_cases kept : IsKept c
  · refine single ?_
    cases tail with
    | nil => exact (marks c kept).mp twin
    | cons d tail => exact twin
  · refine ⟨?_, ?_, ?_⟩ <;> rintro rfl <;> exact kept (by simp [IsKept])

section Items

variable {o : OpenClass} {os : List OpenClass} {mid tail : List Char} {c : Char}

theorem Closes.member {item : ClassExpr} {member : Atom}
    (closes : ∀ b, ∃ M, Closes a (o.push item :: os) b (mid ++ [']']) M)
    (text : Member (c :: tail) member) (isItem : member.classItem? = some item)
    (noRange : NoRange (mid ++ ']' :: left)) (opens : c ≠ '[') (notLast : c ≠ ']')
    (single : (tail ++ (mid ++ ']' :: left)).head? = some c → c ≠ '&' ∧ c ≠ '-' ∧ c ≠ '~') :
    ∃ M, Closes a (o :: os) b (c :: tail ++ (mid ++ [']'])) M := by
  have kept {b : Bool} (narrows : Narrows b (c :: tail) (c :: tail) b)
      (same : item.Narrowed item) : ∃ M, Closes a (o :: os) b (c :: tail ++ (mid ++ [']'])) M := by
    obtain ⟨M, closed⟩ := closes b
    refine ⟨c :: tail ++ M, closed.step narrows 1 (by simp) (·.push item)
      (fun o' alike => alike.push same) ?_⟩
    intro rest fuel outer inner
    have marks : SameMark (mid ++ ']' :: left) (M ++ rest) :=
      sameMark_narrow closed.narrows closed.filled
    refine readClassItems_item opens notLast (marks.single single) ?_
    exact readClassItem_member text isItem (by simp [closed.filled])
      (noRange.narrow closed.narrows closed.filled)
  rcases text.narrows (b := b) (by simpa using opens) (by simpa using notLast) with
    ⟨narrows, free⟩ | ⟨e, digit, same, rfl⟩
  · exact kept narrows (.refl (digitFree_classItem? free isItem))
  · obtain rfl : .shorthand .digit (e == 'D') = item := Option.some.inj isItem
    rw [same] at kept ⊢
    by_cases complement : b = true ∧ e = 'D'
    · obtain ⟨rfl, rfl⟩ := complement
      exact kept (Narrows.escape 'D') .complement
    · obtain ⟨item', steps, long, defined, reads⟩ := readClassItems_digits digit complement
      obtain ⟨M, closed⟩ := closes b
      exact ⟨narrowEscape b e ++ M, closed.step (Narrows.escape e) steps long (·.push item')
        (fun o' alike => alike.push defined)
        fun rest fuel outer inner => reads (M ++ rest) fuel outer inner⟩

theorem Closes.range {last : List Char} {first final : Char} {byte byte' : Bool}
    (closes : ∀ b, ∃ M, Closes a (o.push (.range first final) :: os) b (mid ++ [']']) M)
    (text : Member (c :: tail) (.literal first byte)) (text' : Member last (.literal final byte'))
    (le : first ≤ final) (notBracket : last.head? ≠ some ']') (notHyphen : last.head? ≠ some '-')
    (opens : c ≠ '[') (notLast : c ≠ ']')
    (single : (tail ++ '-' :: (last ++ (mid ++ ']' :: left))).head? = some c →
      c ≠ '&' ∧ c ≠ '-' ∧ c ≠ '~') :
    ∃ M, Closes a (o :: os) b (c :: tail ++ '-' :: last ++ (mid ++ [']'])) M := by
  obtain ⟨after, narrowsLast⟩ := text'.narrows_literal (b := b)
  obtain ⟨M, closed⟩ := closes after
  rcases text.narrows (b := b) (by simpa using opens) (by simpa using notLast) with
    ⟨narrows, -⟩ | ⟨e, -, -, same⟩
  · have whole : Narrows b (c :: tail ++ '-' :: last) (c :: tail ++ '-' :: last) after :=
      narrows.append ((Narrows.plain (s := ['-']) (by simp [IsPlain])).append narrowsLast)
    refine ⟨c :: tail ++ '-' :: last ++ M, closed.step whole 1 (by simp)
      (·.push (.range first final)) (fun o' alike => alike.push (.refl trivial)) ?_⟩
    intro rest fuel outer inner
    have marks : SameMark ('-' :: (last ++ (mid ++ ']' :: left))) ('-' :: (last ++ (M ++ rest))) :=
      fun _ _ => Iff.rfl
    have found : readClassItem false (c :: tail ++ '-' :: (last ++ (M ++ rest))) =
        some (.range first final, M ++ rest) :=
      readClassItem_range text text' le notBracket notHyphen
    rw [List.append_assoc, List.cons_append (a := '-'), List.cons_append (a := c)]
    exact readClassItems_item opens notLast (marks.single single) found
  · cases same

theorem Closes.item {item : ClassExpr} {rest : List Char}
    (closes : ∀ b, ∃ M, Closes a (o.push item :: os) b (mid ++ [']']) M) (ok : item.Legible)
    (opens : c ≠ '[') (notLast : c ≠ ']')
    (single : rest.head? = some c → c ≠ '&' ∧ c ≠ '-' ∧ c ≠ '~')
    (h : readClassItem false (c :: rest) = some (item, mid ++ ']' :: left)) :
    ∃ chunk, c :: rest = chunk ++ (mid ++ ']' :: left) ∧
      ∀ b, ∃ M, Closes a (o :: os) b (chunk ++ (mid ++ [']'])) M := by
  rcases readClassItem_sound ok h with ⟨chunk, member, source, text, isItem, -, noRange⟩ |
    ⟨chunk, last, first, final, byte, byte', source, text, text', le, notBracket, notHyphen, rfl⟩
  · obtain ⟨tail, rfl, rfl⟩ := text.front source
    exact ⟨c :: tail, source, fun b =>
      Closes.member closes text isItem noRange opens notLast single⟩
  · obtain ⟨tail, rfl, rfl⟩ := text.front source
    exact ⟨c :: tail ++ '-' :: last, by simp, fun b =>
      Closes.range closes text text' le notBracket notHyphen opens notLast single⟩

end Items

theorem Closes.ascii {o : OpenClass} {os : List OpenClass} {item : ClassExpr} {rest : List Char}
    (named : readAsciiClass cs = some (item, rest)) : ∃ name, cs = name ++ ']' :: rest ∧
      ∀ {b s M}, Closes a (o.push item :: os) false s M →
        Closes a (o :: os) b ('[' :: (name ++ [']']) ++ s) ('[' :: (name ++ [']']) ++ M) := by
  obtain ⟨name, rfl, chars, reads⟩ := readAsciiClass_sound named
  refine ⟨name, rfl, fun {b s M} h => ?_⟩
  have kept : Narrows b ('[' :: (name ++ [']'])) ('[' :: (name ++ [']'])) false :=
    Narrows.opener.append ((Narrows.plain fun c hc => (chars c hc).1).append .closer)
  refine h.step kept 1 (by simp) (·.push item) (fun o' alike =>
    alike.push (.refl (digitFree_of_readAsciiClass named))) fun rest fuel outer inner => ?_
  rw [List.cons_append, List.append_assoc, readClassItems]
  simp only [skip, Bool.false_eq_true, if_false, List.singleton_append, reads]

theorem SetOperator.plain (op : SetOperator) : IsPlain op.sign := by
  cases op <;> simp [sign, IsPlain]

theorem Closes.operator {op : SetOperator} {o : OpenClass} {os : List OpenClass}
    (h : Closes a (o.operate op :: os) b s M) :
    Closes a (o :: os) b ([op.sign, op.sign] ++ s) ([op.sign, op.sign] ++ M) := by
  have kept : Narrows b [op.sign, op.sign] [op.sign, op.sign] b :=
    .plain (by simpa using op.plain)
  refine h.step kept 1 (by simp) (·.operate op) (fun o' alike => alike.operate op)
    fun rest fuel outer inner => ?_
  cases op <;> rfl

/-- What is left of some open classes is still as much when it is written out. -/
theorem ReadsClass.sound {outer : List OpenClass} {inner : OpenClass} (ok : a.Legible)
    (h : ReadsClass a left outer inner cs) :
    ∃ mid, cs = mid ++ ']' :: left ∧ ∀ b, ∃ M, Closes a (inner :: outer) b (mid ++ [']']) M := by
  induction h with
  | ascii named _ ih =>
    obtain ⟨mid, rfl, closes⟩ := ih
    obtain ⟨name, rfl, whole⟩ := Closes.ascii named
    obtain ⟨M, closed⟩ := closes false
    exact ⟨'[' :: (name ++ [']']) ++ mid, by simp, fun b => ⟨_, by simpa using whole closed⟩⟩
  | @opens outer inner start cs rest unnamed starts _ ih =>
    obtain ⟨pre, after, rfl, narrows, starts⟩ := readClassStart_sound starts
    obtain ⟨mid, rfl, closes⟩ := ih
    refine ⟨'[' :: (pre ++ mid), by simp, fun b => ?_⟩
    obtain ⟨M, closed⟩ := closes after
    have whole : Narrows true ((pre ++ mid) ++ [']']) (pre ++ M) false := by
      rw [List.append_assoc]
      exact narrows.append closed.narrows
    have opened : Closes a (inner :: outer) b ('[' :: (pre ++ (mid ++ [']']))) ('[' :: (pre ++ M)) :=
      closed.opens narrows
        (fun rest => by
          rw [← List.append_assoc]
          exact readAsciiClass_narrow whole (by simpa using unnamed))
        (fun rest => starts _ (by simp [closed.filled])
          (sameMark_narrow closed.narrows closed.filled))
    exact ⟨_, by simpa using opened⟩
  | last whole =>
    subst whole
    exact ⟨[], rfl, fun b => ⟨[']'], .last⟩⟩
  | closes _ ih =>
    obtain ⟨mid, rfl, closes⟩ := ih
    refine ⟨']' :: mid, rfl, fun b => ?_⟩
    obtain ⟨M, closed⟩ := closes false
    exact ⟨']' :: M, closed.close⟩
  | operator op _ ih =>
    obtain ⟨mid, rfl, closes⟩ := ih
    refine ⟨op.sign :: op.sign :: mid, rfl, fun b => ?_⟩
    obtain ⟨M, closed⟩ := closes b
    exact ⟨_, closed.operator⟩
  | item opens notLast single found others ih =>
    obtain ⟨mid, rfl, closes⟩ := ih
    obtain ⟨chunk, source, closed⟩ :=
      Closes.item closes (others.legible_item ok) opens notLast single found
    exact ⟨chunk ++ mid, by rw [source]; simp, fun b => by simpa using closed b⟩

/-- What follows the bracket of a class is written out as the rest of a class, whatever comes after
it. -/
theorem readClass_sound (ok : a.Legible) (h : readClass false cs = some (a, left)) :
    ∃ chunk chunk' a', cs = chunk ++ left ∧ Narrows true chunk chunk' false ∧ a.Narrowed a' ∧
      ∀ rest, readClass false (chunk' ++ rest) = some (a', rest) := by
  obtain ⟨start, behind, hs, whole⟩ := readsClass_of_readClass h
  obtain ⟨pre, after, rfl, narrows, starts⟩ := readClassStart_sound hs
  obtain ⟨mid, rfl, closes⟩ := whole.sound ok
  obtain ⟨M, closed⟩ := closes after
  obtain ⟨a', defined, reads⟩ := closed.reads [] start (.cons (.start hs) .nil)
  refine ⟨pre ++ (mid ++ [']']), pre ++ M, a', by simp, narrows.append closed.narrows, defined,
    fun rest => ?_⟩
  have marks : SameMark (mid ++ ']' :: left) (M ++ rest) :=
    sameMark_narrow closed.narrows closed.filled
  unfold readClass
  rw [List.append_assoc, starts (M ++ rest) (by simp [closed.filled]) marks]
  exact reads rest _ (by simp; omega)

end Pattern

end StepExpr
