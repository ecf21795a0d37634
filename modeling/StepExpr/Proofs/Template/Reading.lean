import StepExpr.Template.Parse
import StepExpr.Proofs.Template.Tokens

/-!
# What a template says

The items of a template, described without the rules that read them, and the first thing that is
wrong with a template, found by one pass over its tokens.

* `Reads` relates tokens to the items that they are, and `Reads.unique` says that there is one way
  to read them;
* `Scan` is the pass that looks for problems;
* `Reads.scan`: tokens that can be read have no problem.
-/

namespace StepExpr.Template

/-! ## Items -/

/-- Where items stand. Slashes mean something outside of optionals only. -/
inductive Place where
  | line
  | optional
  deriving DecidableEq

/-- What the tokens of a template are read as, before alternations are told apart. -/
inductive Item where
  /-- A token that stands for its text. -/
  | text (t : Token)
  | slash (t : Token)
  | optional (children : List Node) (span : Span)
  | parameter (children : List Node) (span : Span)

namespace Item

def span : Item → Span
  | text t => t.span
  | slash t => t.span
  | optional _ span => span
  | parameter _ span => span

/-- The kind of the first token. -/
def kind : Item → TokenKind
  | text t => t.kind
  | slash _ => .alternation
  | optional _ _ => .optionalBegin
  | parameter _ _ => .parameterBegin

/-- A slash is no node, but divides the nodes around it. -/
def node? : Item → Option Node
  | text t => some (.text t.text t.span)
  | slash _ => none
  | optional children span => some (.branch .optional children span)
  | parameter children span => some (.branch .parameter children span)

def isSlash : Item → Bool
  | slash _ => true
  | _ => false

def piece : Item → Piece
  | text t => .node (.text t.text t.span)
  | slash t => .separator t.span
  | optional children span => .node (.branch .optional children span)
  | parameter children span => .node (.branch .parameter children span)

@[simp] theorem node?_piece (item : Item) : item.piece.node? = item.node? := by
  cases item <;> rfl

@[simp] theorem isSeparator_piece (item : Item) : item.piece.isSeparator = item.isSlash := by
  cases item <;> rfl

end Item

def textNode (t : Token) : Node := .text t.text t.span

theorem textOfAll_textNodes (ts : List Token) :
    Node.textOfAll (ts.map textNode) = ts.flatMap Token.text := by
  induction ts with
  | nil => rfl
  | cons t ts ih => simp [Node.textOfAll, Node.textOf, textNode, ih]

/-- The tokens that stand for their text. Outside of optionals a closing parenthesis does. -/
def Place.IsText (p : Place) (k : TokenKind) : Prop :=
  k = .blank ∨ k = .text ∨ k = .parameterEnd ∨ k = .optionalEnd ∧ p = .line

/-- The tokens that names of parameters are made of. -/
def IsName (t : Token) : Prop := t.kind = .blank ∨ t.kind = .text

/-- The items that tokens at a place are. -/
inductive Reads : Place → List Token → List Item → Prop where
  | nil {p} : Reads p [] []
  | text {p t ts items} : p.IsText t.kind → Reads p ts items → Reads p (t :: ts) (.text t :: items)
  | slash {t ts items} : t.kind = .alternation → Reads .line ts items →
      Reads .line (t :: ts) (.slash t :: items)
  | optional {p first last inside ts within items} : first.kind = .optionalBegin →
      Reads .optional inside within → last.kind = .optionalEnd → Reads p ts items →
      Reads p (first :: (inside ++ last :: ts))
        (.optional (within.filterMap Item.node?) ⟨first.span.start, last.span.stop⟩ :: items)
  | parameter {p first last name ts items} : first.kind = .parameterBegin →
      (∀ t ∈ name, IsName t) → last.kind = .parameterEnd → Reads p ts items →
      Reads p (first :: (name ++ last :: ts))
        (.parameter (name.map textNode) ⟨first.span.start, last.span.stop⟩ :: items)

theorem reads_text {ts : List Token} (h : ∀ t ∈ ts, IsName t) :
    Reads .line ts (ts.map .text) := by
  induction ts with
  | nil => exact .nil
  | cons t ts ih =>
    obtain ⟨first, others⟩ := List.forall_mem_cons.mp h
    exact .text (first.imp_right .inl) (ih others)

theorem Reads.append {p : Place} {ts us : List Token} {items more : List Item}
    (h : Reads p ts items) (g : Reads p us more) : Reads p (ts ++ us) (items ++ more) := by
  induction h with
  | nil => exact g
  | text hk _ ih => exact .text hk (ih g)
  | slash hk _ ih => exact .slash hk (ih g)
  | optional hf hin hl _ _ ih =>
    simpa only [List.cons_append, List.append_assoc] using .optional hf hin hl (ih g)
  | parameter hf hn hl _ ih =>
    simpa only [List.cons_append, List.append_assoc] using .parameter hf hn hl (ih g)

/-! ## Names in braces -/

def parameterGlyphs (name : List Char) : List Glyph :=
  ⟨'\x7b', false⟩ :: (name.map (⟨·, false⟩) ++ [⟨'\x7d', false⟩])

theorem written_parameter (name : List Char) :
    written (parameterGlyphs name) = '\x7b' :: name ++ ['\x7d'] := by
  have inside : written (name.map (⟨·, false⟩)) = name := by
    induction name with
    | nil => rfl
    | cons c name ih => rw [List.map_cons, written_cons, ih]; rfl
  rw [parameterGlyphs, written_cons, written_append, inside]
  rfl

theorem valid_parameterGlyphs {name : List Char} (plain : ∀ c ∈ name, isReserved c = false) :
    ∀ g ∈ parameterGlyphs name, g.Valid := by
  have inside : ∀ g ∈ name.map (Glyph.mk · false), g.Valid := by
    intro g hg
    obtain ⟨c, hc, rfl⟩ := List.mem_map.mp hg
    have unreserved := plain c hc
    rintro rfl
    cases unreserved
  refine List.forall_mem_cons.mpr ⟨by simp [Glyph.Valid], List.forall_mem_append.mpr ⟨inside, ?_⟩⟩
  exact List.forall_mem_singleton.mpr (by simp [Glyph.Valid])

/-- The tokens of a name and of the brace behind it. -/
theorem tokensFrom_name {name : List Char} (plain : ∀ c ∈ name, isReserved c = false) (pos : Nat)
    (gs : List Glyph) : ∃ ts last next, tokensFrom pos (name.map (⟨·, false⟩) ++ ⟨'\x7d', false⟩ :: gs) =
        ts ++ last :: tokensFrom next gs ∧
      (∀ t ∈ ts, IsName t) ∧ last.kind = .parameterEnd ∧ ts.flatMap Token.text = name := by
  induction name generalizing pos with
  | nil =>
    refine ⟨[], ⟨.parameterEnd, ['\x7d'], ['\x7d'], ⟨pos, pos + 1⟩⟩, pos + 1, ?_, by simp, rfl, rfl⟩
    rw [List.map_nil, List.nil_append, tokensFrom, List.nil_append]
    have width : Glyph.width ⟨'\x7d', false⟩ = 1 := rfl
    rw [width]
    generalize tokensFrom (pos + 1) gs = ts
    cases ts with
    | nil => rfl
    | cons t ts =>
      rw [pushGlyph, if_neg]
      · rfl
      · exact fun joined => absurd joined.2 (by decide)
  | cons c name ih =>
    obtain ⟨first, others⟩ := List.forall_mem_cons.mp plain
    obtain ⟨ts, last, next, same, names, ends, whole⟩ := ih others (pos + 1)
    have kind : Glyph.kind ⟨c, false⟩ = .blank ∨ Glyph.kind ⟨c, false⟩ = .text :=
      kind_of_unreserved first
    rw [List.map_cons, List.cons_append, tokensFrom]
    have width : Glyph.width ⟨c, false⟩ = 1 := rfl
    rw [width, same]
    cases ts with
    | nil =>
      obtain rfl : [] = name := whole
      rw [List.nil_append, pushGlyph, if_neg]
      · exact ⟨[_], last, next, rfl, List.forall_mem_singleton.mpr kind, ends, rfl⟩
      · rintro ⟨same, -⟩
        rw [ends] at same
        rcases kind with kind | kind <;> rw [kind] at same <;> cases same
    | cons t ts =>
      obtain ⟨-, namesRest⟩ := List.forall_mem_cons.mp names
      rw [List.cons_append, pushGlyph]
      split
      · refine ⟨_ :: ts, last, next, rfl, List.forall_mem_cons.mpr ⟨kind, namesRest⟩, ends, ?_⟩
        simpa using whole
      · refine ⟨_ :: t :: ts, last, next, rfl, List.forall_mem_cons.mpr ⟨kind, names⟩, ends, ?_⟩
        simpa using whole

/-- The tokens of a parameter. -/
theorem tokensFrom_parameter {name : List Char} (plain : ∀ c ∈ name, isReserved c = false)
    (pos : Nat) (gs : List Glyph) : ∃ ts first last next,
    tokensFrom pos (parameterGlyphs name ++ gs) = first :: (ts ++ last :: tokensFrom next gs) ∧
      first.kind = .parameterBegin ∧ (∀ t ∈ ts, IsName t) ∧ last.kind = .parameterEnd ∧
      ts.flatMap Token.text = name := by
  obtain ⟨ts, last, next, same, names, ends, whole⟩ := tokensFrom_name plain (pos + 1) gs
  refine ⟨ts, ⟨.parameterBegin, ['\x7b'], ['\x7b'], ⟨pos, pos + 1⟩⟩, last, next, ?_, rfl, names,
    ends, whole⟩
  have width : Glyph.width ⟨'\x7b', false⟩ = 1 := rfl
  rw [parameterGlyphs, List.cons_append, List.append_assoc, List.singleton_append, tokensFrom,
    width, same]
  cases ts ++ last :: tokensFrom next gs with
  | nil => rfl
  | cons t ts =>
    rw [pushGlyph, if_neg]
    · rfl
    · exact fun joined => absurd joined.2 (by decide)

/-! ## One way to read tokens -/

/-- What can follow the tokens of a place. -/
def Place.Ends (p : Place) : List Token → Prop
  | [] => True
  | t :: _ => t.kind = .lineEnd ∨ p = .optional ∧ t.kind = .optionalEnd

theorem append_cons_unique {α : Type} {P : α → Prop} {xs ys us vs : List α} {x y : α}
    (hx : ∀ a ∈ xs, P a) (hy : ∀ a ∈ ys, P a) (nx : ¬ P x) (ny : ¬ P y)
    (h : xs ++ x :: us = ys ++ y :: vs) : xs = ys ∧ x = y ∧ us = vs := by
  induction xs generalizing ys with
  | nil =>
    cases ys with
    | nil => simpa using h
    | cons b ys =>
      obtain ⟨rfl, -⟩ := List.cons.inj h
      exact absurd (hy x (by simp)) nx
  | cons a xs ih =>
    cases ys with
    | nil =>
      obtain ⟨rfl, -⟩ := List.cons.inj h
      exact absurd (hx a (by simp)) ny
    | cons b ys =>
      obtain ⟨rfl, tail⟩ := List.cons.inj h
      obtain ⟨rfl, rest⟩ := ih (fun a ha => hx a (by simp [ha])) (fun a ha => hy a (by simp [ha]))
        tail
      exact ⟨rfl, rest⟩

/-- No token that ends a place begins an item of it. -/
theorem Reads.not_ends {p : Place} {t : Token} {ts rest : List Token} {items : List Item}
    (h : Reads p (t :: ts) items) (ends : p.Ends (t :: rest)) : False := by
  cases h with
  | text hk =>
    rcases ends with hl | ⟨rfl, hl⟩ <;> simp [hl, Place.IsText] at hk
  | slash hk => simp [Place.Ends, hk] at ends
  | optional hk => simp [Place.Ends, hk] at ends
  | parameter hk => simp [Place.Ends, hk] at ends

theorem isName_ne {t : Token} (h : t.kind = .parameterEnd) : ¬ IsName t := by
  simp [IsName, h]

section First

variable {p : Place} {t : Token} {ts : List Token} {items : List Item}

theorem Reads.of_text (h : Reads p (t :: ts) items) (hk : p.IsText t.kind) :
    ∃ more, items = .text t :: more ∧ Reads p ts more := by
  cases h with
  | text _ reads => exact ⟨_, rfl, reads⟩
  | slash gk | optional gk | parameter gk => simp [gk, Place.IsText] at hk

theorem Reads.of_slash (h : Reads p (t :: ts) items) (hk : t.kind = .alternation) :
    ∃ more, items = .slash t :: more ∧ Reads p ts more := by
  cases h with
  | slash _ reads => exact ⟨_, rfl, reads⟩
  | text gk => simp [hk, Place.IsText] at gk
  | optional gk | parameter gk => simp [gk] at hk

theorem Reads.of_optional (h : Reads p (t :: ts) items) (hk : t.kind = .optionalBegin) :
    ∃ inside last rest within more, ts = inside ++ last :: rest ∧ last.kind = .optionalEnd ∧
      Reads .optional inside within ∧ Reads p rest more ∧
      items = .optional (within.filterMap Item.node?) ⟨t.span.start, last.span.stop⟩ :: more := by
  cases h with
  | optional _ inside last reads => exact ⟨_, _, _, _, _, rfl, last, inside, reads, rfl⟩
  | text gk => simp [hk, Place.IsText] at gk
  | slash gk | parameter gk => simp [gk] at hk

theorem Reads.of_parameter (h : Reads p (t :: ts) items) (hk : t.kind = .parameterBegin) :
    ∃ name last rest more, ts = name ++ last :: rest ∧ last.kind = .parameterEnd ∧
      (∀ u ∈ name, IsName u) ∧ Reads p rest more ∧
      items = .parameter (name.map textNode) ⟨t.span.start, last.span.stop⟩ :: more := by
  cases h with
  | parameter _ name last reads => exact ⟨_, _, _, _, rfl, last, name, reads, rfl⟩
  | text gk => simp [hk, Place.IsText] at gk
  | slash gk | optional gk => simp [gk] at hk

/-- What begins with an item does not begin with the end of its place. -/
theorem Reads.begins {us rest more : List Token} (h : Reads p (t :: ts) items)
    (ends : p.Ends more) (same : t :: ts ++ rest = us ++ more) :
    ∃ us', us = t :: us' ∧ ts ++ rest = us' ++ more := by
  cases us with
  | nil =>
    rw [List.nil_append] at same
    subst same
    exact (h.not_ends ends).elim
  | cons u us =>
    obtain ⟨rfl, tail⟩ := List.cons.inj same
    exact ⟨us, rfl, tail⟩

end First

theorem Reads.unique_append {p : Place} {ts us rest more : List Token} {items others : List Item}
    (h : Reads p ts items) (g : Reads p us others) (same : ts ++ rest = us ++ more)
    (hr : p.Ends rest) (hm : p.Ends more) : ts = us ∧ items = others := by
  induction h generalizing us others rest more with
  | nil =>
    cases us with
    | nil => cases g; exact ⟨rfl, rfl⟩
    | cons u us =>
      rw [List.nil_append] at same
      subst same
      exact (g.not_ends hr).elim
  | text hk hts ih =>
    obtain ⟨us, rfl, tail⟩ := (Reads.text hk hts).begins hm same
    obtain ⟨others, rfl, gts⟩ := g.of_text hk
    obtain ⟨rfl, rfl⟩ := ih gts tail hr hm
    exact ⟨rfl, rfl⟩
  | slash hk hts ih =>
    obtain ⟨us, rfl, tail⟩ := (Reads.slash hk hts).begins hm same
    obtain ⟨others, rfl, gts⟩ := g.of_slash hk
    obtain ⟨rfl, rfl⟩ := ih gts tail hr hm
    exact ⟨rfl, rfl⟩
  | optional hk hin hl hts ihin ih =>
    obtain ⟨us, rfl, tail⟩ := (Reads.optional hk hin hl hts).begins hm same
    obtain ⟨inside, last, us, within, others, rfl, gl, gin, gts, rfl⟩ := g.of_optional hk
    simp only [List.append_assoc, List.cons_append] at tail
    obtain ⟨rfl, rfl⟩ := ihin gin tail (.inr ⟨rfl, hl⟩) (.inr ⟨rfl, gl⟩)
    obtain ⟨rfl, after⟩ := List.cons.inj (List.append_cancel_left tail)
    obtain ⟨rfl, rfl⟩ := ih gts after hr hm
    exact ⟨rfl, rfl⟩
  | parameter hk hn hl hts ih =>
    obtain ⟨us, rfl, tail⟩ := (Reads.parameter hk hn hl hts).begins hm same
    obtain ⟨name, last, us, others, rfl, gl, gn, gts, rfl⟩ := g.of_parameter hk
    simp only [List.append_assoc, List.cons_append] at tail
    obtain ⟨rfl, rfl, after⟩ := append_cons_unique hn gn (isName_ne hl) (isName_ne gl) tail
    obtain ⟨rfl, rfl⟩ := ih gts after hr hm
    exact ⟨rfl, rfl⟩

theorem Reads.unique {p : Place} {ts : List Token} {items others : List Item}
    (h : Reads p ts items) (g : Reads p ts others) : items = others :=
  (h.unique_append g (show ts ++ [] = ts ++ [] from rfl) trivial trivial).2

/-- A reading of a longer list begins with any reading of its beginning. -/
theorem Reads.split {p : Place} {xs ys : List Token} {items whole : List Item}
    (h : Reads p xs items) (g : Reads p (xs ++ ys) whole) :
    ∃ more, whole = items ++ more ∧ Reads p ys more := by
  induction h generalizing whole with
  | nil => exact ⟨whole, rfl, g⟩
  | text hk _ ih =>
    obtain ⟨others, rfl, gts⟩ := g.of_text hk
    obtain ⟨more, rfl, reads⟩ := ih gts
    exact ⟨more, rfl, reads⟩
  | slash hk _ ih =>
    obtain ⟨others, rfl, gts⟩ := g.of_slash hk
    obtain ⟨more, rfl, reads⟩ := ih gts
    exact ⟨more, rfl, reads⟩
  | optional hk hin hl _ _ ih =>
    simp only [List.cons_append, List.append_assoc] at g
    obtain ⟨inside, last, rest, within, others, same, gl, gin, gts, rfl⟩ := g.of_optional hk
    obtain ⟨rfl, rfl⟩ := hin.unique_append gin same (.inr ⟨rfl, hl⟩) (.inr ⟨rfl, gl⟩)
    obtain ⟨rfl, rfl⟩ := List.cons.inj (List.append_cancel_left same)
    obtain ⟨more, rfl, reads⟩ := ih gts
    exact ⟨more, rfl, reads⟩
  | parameter hk hn hl _ ih =>
    simp only [List.cons_append, List.append_assoc] at g
    obtain ⟨name, last, rest, others, same, gl, gn, gts, rfl⟩ := g.of_parameter hk
    obtain ⟨rfl, rfl, rfl⟩ := append_cons_unique hn gn (isName_ne hl) (isName_ne gl) same
    obtain ⟨more, rfl, reads⟩ := ih gts
    exact ⟨more, rfl, reads⟩

/-! ## The first problem -/

/-- What a pass over the tokens knows: the optionals that are open, the innermost first, and the
brace of the parameter whose name is being read. -/
structure Scan where
  opened : List Token
  name : Option Token

namespace Scan

def start : Scan := ⟨[], none⟩

def step (s : Scan) (t : Token) : Except Problem Scan :=
  match s.name with
  | some brace =>
    match t.kind with
    | .blank | .text | .lineStart => .ok s
    | .parameterEnd => .ok { s with name := none }
    | .lineEnd => .error ⟨.missingEnd .parameterBegin .parameterEnd, brace.span⟩
    | .parameterBegin | .optionalBegin | .optionalEnd | .alternation =>
      .error ⟨.reservedInName, t.span⟩
  | none =>
    match t.kind with
    | .blank | .text | .parameterEnd | .lineStart => .ok s
    | .parameterBegin => .ok { s with name := some t }
    | .optionalBegin => .ok { s with opened := t :: s.opened }
    | .optionalEnd => .ok { s with opened := s.opened.tail }
    | .alternation =>
      if s.opened.isEmpty then .ok s else .error ⟨.alternationInOptional, t.span⟩
    | .lineEnd =>
      match s.opened with
      | [] => .ok s
      | opener :: _ => .error ⟨.missingEnd .optionalBegin .optionalEnd, opener.span⟩

/-- Passes tokens up to the first problem. -/
def run (s : Scan) : List Token → Except Problem Scan
  | [] => .ok s
  | t :: ts =>
    match s.step t with
    | .error p => .error p
    | .ok s => s.run ts

theorem run_cons_ok {s r : Scan} {t : Token} (h : s.step t = .ok r) (ts : List Token) :
    s.run (t :: ts) = r.run ts := by
  simp [run, h]

theorem run_cons_error {s : Scan} {t : Token} {p : Problem} (h : s.step t = .error p)
    (ts : List Token) : s.run (t :: ts) = .error p := by
  simp [run, h]

theorem run_name {opened : List Token} {brace : Token} {name : List Token}
    (h : ∀ t ∈ name, IsName t) (ts : List Token) :
    run ⟨opened, some brace⟩ (name ++ ts) = run ⟨opened, some brace⟩ ts := by
  induction name with
  | nil => rfl
  | cons t name ih =>
    have hstep : step ⟨opened, some brace⟩ t = .ok ⟨opened, some brace⟩ := by
      rcases h t (by simp) with hk | hk <;> simp [step, hk]
    rw [List.cons_append, run_cons_ok hstep]
    exact ih fun u hu => h u (by simp [hu])

end Scan

/-- Whether `opened` is what is open at a place. -/
def Place.Opens (p : Place) (opened : List Token) : Prop :=
  p = .optional ↔ opened ≠ []

theorem Reads.scan {p : Place} {ts : List Token} {items : List Item} (h : Reads p ts items)
    {opened : List Token} (hp : p.Opens opened) (rest : List Token) :
    Scan.run ⟨opened, none⟩ (ts ++ rest) = Scan.run ⟨opened, none⟩ rest := by
  induction h generalizing opened rest with
  | nil => rfl
  | @text p t ts items hk _ ih =>
    have hstep : Scan.step ⟨opened, none⟩ t = .ok ⟨opened, none⟩ := by
      rcases hk with hk | hk | hk | ⟨hk, rfl⟩
      · simp [Scan.step, hk]
      · simp [Scan.step, hk]
      · simp [Scan.step, hk]
      · have : opened = [] := by simpa [Place.Opens] using hp
        simp [Scan.step, hk, this]
    rw [List.cons_append, Scan.run_cons_ok hstep]
    exact ih hp rest
  | @slash t ts items hk _ ih =>
    have none : opened = [] := by simpa [Place.Opens] using hp
    rw [List.cons_append, Scan.run_cons_ok (r := ⟨opened, .none⟩) (by simp [Scan.step, hk, none])]
    exact ih hp rest
  | @optional p first last inside ts within items hk _ hl _ ihin ih =>
    simp only [List.cons_append, List.append_assoc]
    rw [Scan.run_cons_ok (r := ⟨first :: opened, none⟩) (by simp [Scan.step, hk]),
      ihin (by simp [Place.Opens]) _,
      Scan.run_cons_ok (r := ⟨opened, none⟩) (by simp [Scan.step, hl])]
    exact ih hp rest
  | @parameter p first last name ts items hk hn hl _ ih =>
    simp only [List.cons_append, List.append_assoc]
    rw [Scan.run_cons_ok (r := ⟨opened, some first⟩) (by simp [Scan.step, hk]),
      Scan.run_name hn, Scan.run_cons_ok (r := ⟨opened, none⟩) (by simp [Scan.step, hl])]
    exact ih hp rest

end StepExpr.Template
