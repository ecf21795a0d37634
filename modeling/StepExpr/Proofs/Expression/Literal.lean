import StepExpr.Proofs.Expression.Arguments
import StepExpr.Proofs.Regex.Size

/-!
# Templates that are only text

With backslashes in front of its reserved characters every text is a template that matches this text
and no other, unless the text is too long for a pattern.

* `WritesOut` relates texts to the templates that they are written as;
* `WritesOut.parse`: such a template has no nodes but text;
* `isSome_compile?_text`: the pattern of a text is valid if the text is not too long;
* `arguments_of_writesOut` puts the parts together.
-/

namespace StepExpr

open Pattern

namespace Template

/-- The second text is the first with a backslash in front of each reserved character, and perhaps
of some blanks. -/
inductive WritesOut : List Char → List Char → Prop where
  | nil : WritesOut [] []
  | reserved {c text source} : isReserved c = true → WritesOut text source →
      WritesOut (c :: text) ('\\' :: c :: source)
  | blank {c text source} : Unicode.isBlank c = true → WritesOut text source →
      WritesOut (c :: text) ('\\' :: c :: source)
  | plain {c text source} : isReserved c = false → WritesOut text source →
      WritesOut (c :: text) (c :: source)

variable {text source : List Char} {c : Char}

/-! ## Reading -/

/-- A glyph that stands for its character wherever it is. -/
def Glyph.Plain (g : Glyph) : Prop := g.Valid ∧ (g.kind = .blank ∨ g.kind = .text)

theorem plain_escaped (able : canEscape c = true) : Glyph.Plain ⟨c, true⟩ := ⟨able, .inr rfl⟩

theorem plain_bare (free : isReserved c = false) : Glyph.Plain ⟨c, false⟩ := by
  refine ⟨?_, kind_of_unreserved free⟩
  rintro rfl
  cases free

theorem WritesOut.glyphs (h : WritesOut text source) :
    ∃ gs, source = written gs ∧ (∀ g ∈ gs, g.Plain) ∧ gs.map Glyph.char = text := by
  induction h with
  | nil => exact ⟨[], rfl, by simp, rfl⟩
  | @reserved c text source special _ ih =>
    obtain ⟨gs, rfl, plain, rfl⟩ := ih
    have able : canEscape c = true := by simp [canEscape, special]
    exact ⟨⟨c, true⟩ :: gs, rfl, List.forall_mem_cons.mpr ⟨plain_escaped able, plain⟩, rfl⟩
  | @blank c text source blank _ ih =>
    obtain ⟨gs, rfl, plain, rfl⟩ := ih
    have able : canEscape c = true := by simp [canEscape, blank]
    exact ⟨⟨c, true⟩ :: gs, rfl, List.forall_mem_cons.mpr ⟨plain_escaped able, plain⟩, rfl⟩
  | @plain c text source free _ ih =>
    obtain ⟨gs, rfl, plain, rfl⟩ := ih
    exact ⟨⟨c, false⟩ :: gs, rfl, List.forall_mem_cons.mpr ⟨plain_bare free, plain⟩, rfl⟩

/-- The tree of a text that is written out. -/
theorem WritesOut.parse (h : WritesOut text source) : ∃ children,
    Template.parse source = .ok (.branch .expression children ⟨0, source.length⟩) ∧
      (∀ child ∈ children, child.isText = true) ∧ Node.textOfAll children = text := by
  obtain ⟨gs, rfl, plain, rfl⟩ := h.glyphs
  have names : ∀ t ∈ tokensFrom 0 gs, IsName t :=
    kind_tokensFrom (P := fun k => k = .blank ∨ k = .text) 0 fun g hg => (plain g hg).2
  have cut : tokenize (written gs) = .ok (edgeToken .lineStart 0 ::
      (tokensFrom 0 gs ++ [edgeToken .lineEnd (written gs).length])) :=
    tokenize_written fun g hg => (plain g hg).1
  have nodes : nodesOf [] ((tokensFrom 0 gs).map .text) = (tokensFrom 0 gs).map textNode := by
    rw [nodesOf_free (by simp) (by simp [Item.isSlash]), List.nil_append, List.filterMap_map]
    exact congrFun List.filterMap_eq_map _
  refine ⟨_, parse_of_reads cut (reads_text names), ?_, ?_⟩
  · simp [nodes, textNode, Node.isText]
  · rw [nodes, textOfAll_textNodes, text_tokensFrom]

/-! ## Patterns -/

/-- The pattern of a text as a whole. -/
def wholePattern (text : List Char) : List Char := "^".toList ++ escapePattern text ++ "$".toList

/-- The tree of a text has the pattern of the text, and no types. -/
theorem bind_eq_text {find : String → Option ParameterType} {children : List Node} {span : Span}
    (h : ∀ child ∈ children, child.isText = true) :
    (Node.branch .expression children span).bind find =
      .ok ⟨wholePattern (Node.textOfAll children), []⟩ := by
  obtain ⟨parts, bound, pattern, types⟩ := @bindAll_eq_text find _ h
  rw [Node.bind, bound, wholePattern, ← pattern, ← types]
  rfl

end Template

/-! ## Matching -/

open Template

/-- What is left of a text spells another one if it is that text. -/
theorem spells_rest_iff {before text u : List Char} :
    Regex.Spells (before ++ u).toArray text before.length (before ++ u).length ↔ u = text := by
  induction text generalizing before u with
  | nil => simp [Regex.Spells]
  | cons c text ih =>
    cases u with
    | nil => simp [Regex.Spells]
    | cons d u =>
      have rest := @ih (before ++ [d]) u
      simp only [List.append_assoc, List.singleton_append, List.length_append, List.length_cons,
        List.length_nil, Nat.zero_add] at rest
      simp [Regex.Spells, rest]

theorem carries_wholeText (text : List Char) : Carries (wholePattern text) (wholeText text) :=
  carries_anchored (carries_text text)

namespace Matcher

variable {m : Matcher}

/-- The pattern of a text as a whole is valid if the text is not too long. -/
theorem isSome_compile?_text (text : List Char) :
    (compile? (wholePattern text)).isSome = true ↔ byteLength text ≤ 327674 := by
  obtain ⟨ls, cut, built⟩ := (carries_wholeText text).adds.build?
  have nameless : (catOf (wholeText text)).names = [] := by
    rw [names_catOf]
    exact List.flatMap_eq_nil_iff.mpr (forall_wholeText text rfl rfl fun _ => rfl)
  have shallow : (catOf (wholeText text)).depth .neither ≤ maxDepth := by
    have flat : ∀ p ∈ wholeText text, ∀ spine, p.depth spine = 0 :=
      forall_wholeText text (fun _ => rfl) (fun _ => rfl) fun _ _ => rfl
    exact Nat.le_trans (depth_catOf_le flat).2 (by decide)
  have parsed : parse? (narrowDigits (wholePattern text)) = some (catOf (wholeText text)) :=
    parse?_eq_some_iff.mpr ⟨ls, cut, built, nameless ▸ List.nodup_nil, shallow⟩
  rw [compile?, Option.isSome_map, Regex.ofText?, parsed, Option.bind_some, regex?_wholeText,
    Option.isSome_filter, Option.any_some, Regex.isWithinLimit_alone]
  omega

theorem isSome_match?_text {text : List Char} (compiled : compile? (wholePattern text) = some m)
    (u : List Char) : (m.match? u).isSome = true ↔ u = text := by
  obtain ⟨p, r, parsed, meaning, program⟩ := program_of_compile? compiled
  rw [match?, Option.isSome_map, program, Regex.program_search_isSome_iff,
    matches_anchored_iff (compilesTo_text text) parsed meaning]
  exact @spells_rest_iff [] text u

theorem children_of_match?_text {text u : List Char} {root : Group}
    (compiled : compile? (wholePattern text) = some m) (found : m.match? u = some root) :
    root.children = [] := by
  have plain : ∀ p ∈ wholeText text, p.nests = [] := forall_wholeText text rfl rfl fun _ => rfl
  obtain ⟨count, -, -⟩ := tookPart_of_match (carries_wholeText text)
    (fun p hp => .inl (plain p hp)) compiled found
  rw [List.flatMap_eq_nil_iff.mpr plain] at count
  exact List.eq_nil_of_length_eq_zero count

end Matcher

namespace TemplateExpression

variable {text source : List Char}

/-- A text that is written out can only be refused for its pattern. -/
theorem create_of_writesOut (h : WritesOut text source) (r : Registry) : ∃ children,
    (∀ child ∈ children, child.isText = true) ∧ Node.textOfAll children = text ∧
      create r source = match Matcher.compile? (wholePattern text) with
        | some m => .ok ⟨source, .branch .expression children ⟨0, source.length⟩, m, []⟩
        | none => .error .invalidPattern := by
  obtain ⟨children, parsed, allText, rfl⟩ := h.parse
  exact ⟨children, allText, rfl, create_of_bind parsed (bind_eq_text allText)⟩

theorem create_too_long (h : WritesOut text source) (r : Registry)
    (long : 327674 < byteLength text) : create r source = .error .invalidPattern := by
  obtain ⟨children, -, -, made⟩ := create_of_writesOut h r
  have invalid : Matcher.compile? (wholePattern text) = none := by
    rw [← Option.not_isSome_iff_eq_none, Matcher.isSome_compile?_text]
    omega
  rw [made, invalid]

/-- A text of at most 327674 bytes that is written out is a template of text only, without
parameters, and matches itself and nothing else. A longer one has no valid pattern. -/
theorem arguments_of_writesOut (h : WritesOut text source) (r : Registry) :
    (byteLength text ≤ 327674 → ∃ e, create r source = .ok e ∧ e.types = [] ∧
      (∀ child ∈ e.root.children, child.isText = true) ∧ e.root.textOf = text ∧
      ∀ limit u hints, (Expression.template e).arguments limit u hints =
        .ok (if u = text then some [] else none)) ∧
    (327674 < byteLength text → create r source = .error .invalidPattern) := by
  refine ⟨fun short => ?_, create_too_long h r⟩
  obtain ⟨children, allText, whole, made⟩ := create_of_writesOut h r
  obtain ⟨m, compiled⟩ :=
    Option.isSome_iff_exists.mp ((Matcher.isSome_compile?_text text).mpr short)
  rw [compiled] at made
  refine ⟨_, made, rfl, allText, whole, fun limit u hints => ?_⟩
  have matched := Matcher.isSome_match?_text compiled u
  simp only [Expression.arguments, Matcher.arguments]
  cases found : m.match? u with
  | none =>
    have other : u ≠ text := by simpa [found] using matched
    rw [if_neg other]
  | some root =>
    have same : u = text := by simpa [found] using matched
    have none := Matcher.children_of_match?_text compiled found
    simp [same, none, Argument.pair]

theorem arguments_of_writesOut_backslash :
    WritesOut "a (b)\\".toList "a\\ \\(b\\)\\\\".toList ∧
      ∃ e, create .initial "a\\ \\(b\\)\\\\".toList = .ok e ∧
        ∀ u, (Expression.template e).arguments 0 u [] =
          .ok (if u = "a (b)\\".toList then some [] else none) := by
  have written : WritesOut "a (b)\\".toList "a\\ \\(b\\)\\\\".toList :=
    .plain rfl <| .blank (by decide) <| .reserved rfl <| .plain rfl <| .reserved rfl <|
      .reserved rfl .nil
  obtain ⟨e, made, -, -, -, found⟩ := (arguments_of_writesOut written .initial).1 (by decide)
  exact ⟨written, e, made, fun u => found 0 u []⟩

theorem create_replicate : WritesOut (List.replicate 350000 'a') (List.replicate 350000 'a') ∧
    create .initial (List.replicate 350000 'a') = .error .invalidPattern := by
  have written (n : Nat) : WritesOut (List.replicate n 'a') (List.replicate n 'a') := by
    induction n with
    | zero => exact .nil
    | succ n ih => exact .plain rfl ih
  have length (n : Nat) : byteLength (List.replicate n 'a') = n := by
    induction n with
    | zero => rfl
    | succ n ih =>
      have first : byteLength (List.replicate (n + 1) 'a') =
          'a'.utf8Size + byteLength (List.replicate n 'a') := rfl
      have one : 'a'.utf8Size = 1 := rfl
      omega
  refine ⟨written 350000, create_too_long (written 350000) .initial ?_⟩
  rw [length]
  decide

end TemplateExpression

end StepExpr
