import Mathlib.Data.List.Forall2
import StepExpr.Proofs.Parameter.Registry
import StepExpr.Proofs.Regex.Sequence
import StepExpr.Proofs.Template.Outcome
import StepExpr.Template.Pattern

/-!
# What the pattern of a template matches

The nodes of a template take up a text from left to right, without any pattern: text takes up itself,
an optional itself or nothing, an alternation one of its alternatives, and a parameter what one of
the regexps of its type can match there.

* `Node.Fits` says so;
* `CompilesTo`: the pattern of a node is a piece of a pattern that denotes the same.
-/

namespace StepExpr

open Pattern

namespace Template

mutual

/-- The part of a text between two positions is one that a node stands for. -/
def Node.Fits (find : String → Option ParameterType) (text : Array Char) : Node → Nat → Nat → Prop
  | .text token _, i, j => Regex.Spells text token i j
  | .branch .optional children _, i, j => i = j ∨ Node.FitsAll find text children i j
  | .branch .alternation alternatives _, i, j => Node.FitsAny find text alternatives i j
  | .branch .parameter children _, i, j => ∃ type,
      find (String.ofList (Node.textOfAll children)) = some type ∧
      ∃ regexp ∈ type.regexps, FitsRegexp text regexp i j
  | .branch .alternative children _, i, j => Node.FitsAll find text children i j
  | .branch .expression children _, i, j => Node.FitsAll find text children i j

/-- The part of a text is cut into parts that nodes stand for, one after the other. -/
def Node.FitsAll (find : String → Option ParameterType) (text : Array Char) :
    List Node → Nat → Nat → Prop
  | [], i, j => i = j
  | node :: nodes, i, j => ∃ k, node.Fits find text i k ∧ Node.FitsAll find text nodes k j

/-- The part of a text is one that some of the nodes stands for. -/
def Node.FitsAny (find : String → Option ParameterType) (text : Array Char) :
    List Node → Nat → Nat → Prop
  | [], _, _ => False
  | node :: nodes, i, j => node.Fits find text i j ∨ Node.FitsAny find text nodes i j

end

variable {find : String → Option ParameterType} {text : Array Char} {i j : Nat} {node : Node}
  {nodes : List Node} {s : List Char}

/-- The piece `s` adds some items that denote what `fits` says, if they have a meaning at all. -/
def CompilesTo (s : List Char) (fits : Array Char → Nat → Nat → Prop) : Prop :=
  ∃ ps, Adds s ps ∧ (∀ p ∈ ps, p.Steady) ∧
    ((∀ p ∈ ps, p.Fine) → ∀ text i j, DenotesAll text .initial ps i j ↔ fits text i j)

theorem CompilesTo.congr {t : List Char} {fits fits' : Array Char → Nat → Nat → Prop}
    (h : CompilesTo s fits) (same : s = t) (fit : ∀ text i j, fits text i j ↔ fits' text i j) :
    CompilesTo t fits' := by
  obtain ⟨ps, adds, steady, denotes⟩ := h
  exact ⟨ps, same ▸ adds, steady, fun fine text i j => (denotes fine text i j).trans (fit text i j)⟩

/-- A piece denotes what its expression matches. -/
theorem CompilesTo.matches_iff {fits : Array Char → Nat → Nat → Prop}
    {p : Pattern} {r : Regex} (h : CompilesTo s fits) (parsed : parse? (narrowDigits s) = some p)
    (meaning : p.regex? = some r) : r.Matches text i j ↔ fits text i j := by
  obtain ⟨ps, adds, steady, denotes⟩ := h
  obtain ⟨-, -, -, distinct, shallow⟩ := parse?_eq_some_iff.mp parsed
  obtain ⟨defined, same⟩ := regex?_spec meaning
  obtain rfl := adds.eq_catOf parsed
  have fine : (catOf ps).Fine := ⟨defined, distinct, shallow⟩
  rw [same, denotes_catOf steady]
  exact denotes (fun p hp => fine.item steady hp) text i j

/-! ## Text -/

theorem not_isMark {c : Char} (h : isSpecial c = false) : ¬ IsMark c ∧ IsPlain c ∧ Outside [c] := by
  simp only [isSpecial, List.contains_eq_mem, decide_eq_false_iff_not, List.mem_cons,
    List.not_mem_nil, or_false, not_or] at h
  simp [IsMark, IsPlain, Outside, h]

/-- A character is itself, with a backslash if it would mean something. -/
theorem adds_char (c : Char) :
    Adds (if isSpecial c then ['\\', c] else [c]) [.atom (.literal c false)] := by
  refine .single (l := .atom (.literal c false)) ?_ fun _ _ _ => rfl
  cases special : isSpecial c with
  | false =>
    obtain ⟨notMark, plain, front⟩ := not_isMark special
    exact .single (.plain (List.forall_mem_singleton.mpr plain)) (by simp) front trivial rfl
      fun rest _ => readLexeme_literal notMark rest
  | true =>
    have same : c ∈ ['\\', '^', '[', '(', '\x7b', '$', '.', '|', '?', '*', '+', '\x7d', ')', ']'] := by
      simpa [isSpecial] using special
    have notDigit : ¬ (c = 'd' ∨ c = 'D') := by
      rintro (rfl | rfl) <;> simp at same
    refine .single (narrows_escape (by simp) notDigit) (by simp) (by simp [Outside]) trivial rfl
      fun rest _ => ?_
    simp only [List.mem_cons, List.not_mem_nil, or_false] at same
    rcases same with rfl | rfl | rfl | rfl | rfl | rfl | rfl | rfl | rfl | rfl | rfl | rfl | rfl | rfl
    all_goals rfl

theorem denotes_literal {c : Char} : (Pattern.atom (.literal c false)).Denotes text .initial i j ↔
    text[i]? = some c ∧ i + 1 = j := by
  have meaning : Atom.regex? .initial (.literal c false) = some (.literal [c]) := rfl
  simp [Denotes, meaning, Regex.Spells]

theorem denotesAll_literals {token : List Char} :
    DenotesAll text .initial (token.map fun c => .atom (.literal c false)) i j ↔
      Regex.Spells text token i j := by
  induction token generalizing i with
  | nil => exact Iff.rfl
  | cons c token ih =>
    simp only [List.map_cons, DenotesAll, denotes_literal, ih, Regex.Spells]
    constructor
    · rintro ⟨k, ⟨here, rfl⟩, others⟩
      exact ⟨here, others⟩
    · rintro ⟨here, others⟩
      exact ⟨i + 1, ⟨here, rfl⟩, others⟩

theorem compilesTo_text (token : List Char) :
    CompilesTo (escapePattern token) fun text => Regex.Spells text token := by
  refine ⟨token.map fun c => .atom (.literal c false), ?_, ?_, fun _ _ _ _ => denotesAll_literals⟩
  · induction token with
    | nil => exact .nil
    | cons c token ih => exact (adds_char c).append ih
  · intro p hp
    obtain ⟨c, -, rfl⟩ := List.mem_map.mp hp
    exact fun _ => rfl

/-! ## Sequences -/

theorem Bound.pattern_join_cons (part : Bound) (parts : List Bound) :
    (Bound.join [] (part :: parts)).pattern = part.pattern ++ (Bound.join [] parts).pattern := by
  cases parts <;> simp [Bound.join, List.intercalate_cons_cons]

/-- The pieces of some nodes, one after the other. -/
theorem compilesTo_all {parts : List Bound}
    (h : List.Forall₂ (fun node part => CompilesTo part.pattern fun text => Node.Fits find text node)
      nodes parts) :
    CompilesTo (Bound.join [] parts).pattern fun text => Node.FitsAll find text nodes := by
  induction h with
  | nil => exact ⟨[], .nil, by simp, fun _ _ _ _ => Iff.rfl⟩
  | @cons node part nodes parts first _ ih =>
    obtain ⟨ps, adds, steady, denotes⟩ := first
    obtain ⟨qs, adds', steady', denotes'⟩ := ih
    refine ⟨ps ++ qs, Bound.pattern_join_cons part parts ▸ adds.append adds', List.forall_mem_append.mpr ⟨steady, steady'⟩,
      fun fine text i j => ?_⟩
    obtain ⟨fine, fine'⟩ := List.forall_mem_append.mp fine
    simp only [denotesAll_append, denotes fine, denotes' fine', Node.FitsAll]

/-! ## Groups -/

/-- The piece `s` is all there is in a group, and denotes what `fits` says. -/
def FillsWith (s : List Char) (fits : Array Char → Nat → Nat → Prop) : Prop :=
  ∃ p, Fills s p ∧ (p.Fine → ∀ text i j, p.Denotes text .initial i j ↔ fits text i j)

theorem CompilesTo.fills {fits : Array Char → Nat → Nat → Prop} (h : CompilesTo s fits) :
    FillsWith s fits := by
  obtain ⟨ps, adds, steady, denotes⟩ := h
  refine ⟨catOf ps, adds.fills, fun fine text i j => ?_⟩
  rw [denotes_catOf steady]
  exact denotes (fun p hp => fine.item steady hp) text i j

theorem exists_adds {ss : List (List Char)} {choices : List (Array Char → Nat → Nat → Prop)}
    (h : List.Forall₂ CompilesTo ss choices) :
    ∃ pss, List.Forall₂ Adds ss pss ∧ (∀ ps ∈ pss, ∀ p ∈ ps, p.Steady) ∧
      ((∀ ps ∈ pss, ∀ p ∈ ps, p.Fine) → ∀ text i j,
        (∃ ps ∈ pss, DenotesAll text .initial ps i j) ↔ ∃ fits ∈ choices, fits text i j) := by
  induction h with
  | nil => exact ⟨[], .nil, by simp, by simp⟩
  | cons first _ ih =>
    obtain ⟨ps, adds, steady, denotes⟩ := first
    obtain ⟨pss, adds', steady', denotes'⟩ := ih
    refine ⟨ps :: pss, .cons adds adds', List.forall_mem_cons.mpr ⟨steady, steady'⟩,
      fun fine text i j => ?_⟩
    obtain ⟨fine, fine'⟩ := List.forall_mem_cons.mp fine
    simp only [List.mem_cons, exists_eq_or_imp, denotes fine, denotes' fine']

/-- Pieces with bars between them fill a group with a choice. -/
theorem fillsWith_branches {ss : List (List Char)} {choices : List (Array Char → Nat → Nat → Prop)}
    (h : List.Forall₂ CompilesTo ss choices) (filled : ss ≠ []) :
    FillsWith (List.intercalate ['|'] ss) fun text i j => ∃ fits ∈ choices, fits text i j := by
  obtain ⟨pss, adds, steady, denotes⟩ := exists_adds h
  have branches : ∀ p ∈ pss.map catOf, p.Steady := by
    intro p hp
    obtain ⟨ps, hps, rfl⟩ := List.mem_map.mp hp
    exact steady_catOf (steady ps hps)
  have some : pss.map catOf ≠ [] := by
    cases adds with
    | nil => exact absurd rfl filled
    | cons => simp
  refine ⟨altOf (pss.map catOf), fills_of_branches adds filled, fun fine text i j => ?_⟩
  have inside : ∀ ps ∈ pss, ∀ p ∈ ps, p.Fine := fun ps hps p hp =>
    (fine.branch branches (List.mem_map_of_mem hps)).item (steady ps hps) hp
  rw [denotes_altOf branches some]
  refine Iff.trans ?_ (denotes inside text i j)
  constructor
  · rintro ⟨p, hp, taken⟩
    obtain ⟨ps, hps, rfl⟩ := List.mem_map.mp hp
    exact ⟨ps, hps, (denotes_catOf (steady ps hps)).mp taken⟩
  · rintro ⟨ps, hps, taken⟩
    exact ⟨catOf ps, List.mem_map_of_mem hps, (denotes_catOf (steady ps hps)).mpr taken⟩

theorem FillsWith.plain {fits : Array Char → Nat → Nat → Prop} (h : FillsWith s fits) :
    CompilesTo ("(?:".toList ++ s ++ ")".toList) fits := by
  obtain ⟨p, fills, denotes⟩ := h
  rw [List.append_assoc]
  refine ⟨_, fills.plain, by simp [Steady, flagsAfter], fun fine text i j => ?_⟩
  rw [denotesAll_singleton]
  exact denotes (fine _ List.mem_cons_self).plain text i j

theorem FillsWith.capture {fits : Array Char → Nat → Nat → Prop} (h : FillsWith s fits) :
    CompilesTo ("(".toList ++ s ++ ")".toList) fits := by
  obtain ⟨p, fills, denotes⟩ := h
  rw [List.append_assoc]
  refine ⟨_, fills.capture, by simp [Steady, flagsAfter], fun fine text i j => ?_⟩
  rw [denotesAll_singleton]
  exact denotes (fine _ List.mem_cons_self).captured text i j

theorem FillsWith.optional {fits : Array Char → Nat → Nat → Prop} (h : FillsWith s fits) :
    CompilesTo ("(?:".toList ++ s ++ ")?".toList) fun text i j => i = j ∨ fits text i j := by
  obtain ⟨p, fills, denotes⟩ := h
  rw [List.append_assoc]
  refine ⟨_, fills.optional, by simp [Steady, flagsAfter], fun fine text i j => ?_⟩
  have inside := denotes (fine _ List.mem_cons_self).repeated.plain text
  rw [denotesAll_singleton]
  constructor
  · rintro ⟨n, ⟨-, most⟩, chain⟩
    have once : n ≤ 1 := by simpa using most 1 rfl
    cases n with
    | zero => exact .inl chain
    | succ n =>
      obtain rfl : n = 0 := by omega
      obtain ⟨k, first, rfl⟩ := chain
      exact .inr ((inside i k).mp first)
  · rintro (rfl | fits)
    · exact ⟨0, ⟨Nat.le_refl 0, by simp⟩, rfl⟩
    · exact ⟨1, ⟨by simp, by simp⟩, j, (inside i j).mpr fits, rfl⟩

/-! ## Parameters -/

theorem fillsWith_regexp {regexp : String} (tame : Tame regexp.toList)
    (valid : ∃ p, Pattern.parse? regexp.toList = some p ∧ p.Defined .initial) :
    FillsWith regexp.toList fun text => FitsRegexp text regexp := by
  obtain ⟨p, parsed, defined⟩ := valid
  obtain ⟨q, fills, -, ls, cut, built⟩ := fills_of_parse? tame parsed defined
  refine ⟨q, fills, fun fine text i j => ?_⟩
  have narrowed := parse?_of_fine fine cut built
  obtain ⟨r, meaning⟩ := fine.defined.regex?
  have denotes := (regex?_spec meaning).2 text i j
  constructor
  · intro taken
    exact ⟨q, r, narrowed, meaning, denotes.mpr taken⟩
  · rintro ⟨q', r', narrowed', meaning', taken⟩
    obtain rfl := Option.some.inj (narrowed.symm.trans narrowed')
    obtain rfl := Option.some.inj (meaning.symm.trans meaning')
    exact denotes.mp taken

theorem intercalate_wrap (first : List Char) (others : List (List Char)) :
    "(?:".toList ++ List.intercalate ")|(?:".toList (first :: others) ++ ")".toList =
      List.intercalate ['|'] ((first :: others).map fun s => "(?:".toList ++ s ++ ")".toList) := by
  induction others generalizing first with
  | nil => simp
  | cons second others ih =>
    have inside := ih second
    simp only [List.map_cons] at inside
    simp only [List.map_cons, List.intercalate_cons_cons, ← inside]
    simp

/-- Several regexps become the branches of one group, each in a group that does not capture. -/
theorem parameterPattern_choice (first second : String) (others : List String) :
    parameterPattern (first :: second :: others) =
      "(".toList ++ List.intercalate ['|'] ((first :: second :: others).map fun regexp =>
        "(?:".toList ++ regexp.toList ++ ")".toList) ++ ")".toList := by
  have written := intercalate_wrap first.toList ((second :: others).map String.toList)
  simp only [List.map_cons, List.map_map, Function.comp_def] at written ⊢
  rw [← written]
  simp [parameterPattern]

theorem compilesTo_parameter {t : ParameterType} (sound : t.Sound) (tame : t.Tame) :
    CompilesTo (parameterPattern t.regexps) fun text i j =>
      ∃ regexp ∈ t.regexps, FitsRegexp text regexp i j := by
  have each : ∀ regexp ∈ t.regexps, FillsWith regexp.toList fun text => FitsRegexp text regexp :=
    fun regexp hr => fillsWith_regexp (tame regexp hr) (sound.valid regexp hr)
  have filled := sound.filled
  generalize t.regexps = regexps at each filled
  match regexps with
  | [] => exact absurd rfl filled
  | [regexp] =>
    have whole := (each regexp List.mem_cons_self).capture
    simpa [parameterPattern] using whole
  | first :: second :: others =>
    have wrapped : List.Forall₂ CompilesTo
        ((first :: second :: others).map fun regexp => "(?:".toList ++ regexp.toList ++ ")".toList)
        ((first :: second :: others).map fun regexp text => FitsRegexp text regexp) :=
      List.forall₂_map_left_iff.mpr (List.forall₂_map_right_iff.mpr
        (List.forall₂_same.mpr fun regexp hr => (each regexp hr).plain))
    rw [parameterPattern_choice]
    exact (fillsWith_branches wrapped (by simp)).capture.congr rfl fun text i j => by simp

/-! ## Nodes -/

/-- What holds for the parts of the nodes in a list, one by one. -/
theorem bindAll_ok {related : Node → Bound → Prop} {parts : List Bound}
    (h : Node.bindAll find nodes = .ok parts)
    (each : ∀ node ∈ nodes, ∀ part, node.bind find = .ok part → related node part) :
    List.Forall₂ related nodes parts := by
  induction nodes generalizing parts with
  | nil =>
    obtain ⟨rfl⟩ := h
    exact .nil
  | cons node nodes ih =>
    obtain ⟨head, tail⟩ := List.forall_mem_cons.mp each
    rw [Node.bindAll] at h
    split at h
    · cases h
    · rename_i part bound
      obtain ⟨parts, others, rfl⟩ := map_ok h
      exact .cons (head part bound) (ih others tail)

/-- What holds for the part of each node. -/
theorem forall_of_bindAll {holds : Bound → Prop} {parts : List Bound}
    (h : Node.bindAll find nodes = .ok parts)
    (each : ∀ node ∈ nodes, ∀ part, node.bind find = .ok part → holds part) :
    ∀ part ∈ parts, holds part := by
  have pieces : List.Forall₂ (fun _ part => holds part) nodes parts := bindAll_ok h each
  clear h each
  induction pieces with
  | nil => simp
  | cons first _ ih => exact List.forall_mem_cons.mpr ⟨first, ih⟩

theorem escapePattern_append (s t : List Char) :
    escapePattern (s ++ t) = escapePattern s ++ escapePattern t := List.flatMap_append

/-- The part of text is its pattern. -/
theorem bindAll_eq_text (h : ∀ node ∈ nodes, node.isText = true) :
    ∃ parts, Node.bindAll find nodes = .ok parts ∧
      (Bound.join [] parts).pattern = escapePattern (Node.textOfAll nodes) ∧
      (Bound.join [] parts).types = [] := by
  induction nodes with
  | nil => exact ⟨[], rfl, rfl, rfl⟩
  | cons node nodes ih =>
    obtain ⟨first, others⟩ := List.forall_mem_cons.mp h
    obtain ⟨parts, bound, pattern, types⟩ := ih others
    cases node with
    | branch => cases first
    | text token span =>
      refine ⟨⟨escapePattern token, []⟩ :: parts, ?_, ?_, types⟩
      · rw [Node.bindAll, Node.bind, bound]
        rfl
      · rw [Bound.pattern_join_cons, pattern, ← escapePattern_append]
        rfl

theorem bind_expression_ok {span : Span} {whole : Bound}
    (h : (Node.branch .expression nodes span).bind find = .ok whole) :
    ∃ parts, Node.bindAll find nodes = .ok parts ∧
      whole = (Bound.join [] parts).wrap "^" "$" := by
  rw [Node.bind] at h
  obtain ⟨parts, bound, rfl⟩ := map_ok h
  exact ⟨parts, bound, rfl⟩

theorem bind_optional_ok {span : Span} {part : Bound}
    (h : (Node.branch .optional nodes span).bind find = .ok part) :
    optionalProblem? nodes span = none ∧ ∃ parts, Node.bindAll find nodes = .ok parts ∧
      part = (Bound.join [] parts).wrap "(?:" ")?" := by
  rw [Node.bind] at h
  split at h
  · cases h
  · rename_i fine
    obtain ⟨parts, bound, rfl⟩ := map_ok h
    exact ⟨fine, parts, bound, rfl⟩

theorem bind_parameter_ok {span : Span} {part : Bound}
    (h : (Node.branch .parameter nodes span).bind find = .ok part) :
    ∃ t, find (String.ofList (Node.textOfAll nodes)) = some t ∧
      part = ⟨parameterPattern t.regexps, [t]⟩ := by
  rw [Node.bind] at h
  split at h
  · rename_i t found
    exact ⟨t, found, (Except.ok.inj h).symm⟩
  · cases h

/-- An alternation is bound to the choice between the sequences of its alternatives. -/
theorem Node.IsAlternation.bind_ok {part : Bound} (shape : node.IsAlternation)
    (h : node.bind find = .ok part) : ∃ alternatives span parts,
      node = .branch .alternation alternatives span ∧
      Node.bindAll find alternatives = .ok parts ∧
      part = (Bound.join ['|'] parts).wrap "(?:" ")" ∧ parts.map Bound.pattern ≠ [] ∧
      ∀ alternative ∈ alternatives, ∀ part, alternative.bind find = .ok part →
        ∃ children span parts, alternative = .branch .alternative children span ∧
          Node.bindAll find children = .ok parts ∧ part = Bound.join [] parts ∧
          ∀ child ∈ children, child.Plain ∧ child.hasKind .parameter = false := by
  obtain ⟨alternatives, span, rfl, several, each⟩ := shape
  rw [Node.bind] at h
  split at h
  · cases h
  · obtain ⟨parts, bound, rfl⟩ := map_ok h
    refine ⟨alternatives, span, parts, rfl, bound, rfl, ?_, fun alternative ha part known => ?_⟩
    · have lengths := (bindAll_ok bound fun _ _ _ known => known).length_eq
      intro none
      rw [List.map_eq_nil_iff.mp none, List.length_nil] at lengths
      omega
    · obtain ⟨children, span, rfl, plain⟩ := each alternative ha
      rw [Node.bind] at known
      obtain ⟨parts, bound, rfl⟩ := map_ok known
      exact ⟨children, span, parts, rfl, bound, rfl, plain⟩

theorem fitsAny_iff : Node.FitsAny find text nodes i j ↔ ∃ node ∈ nodes, node.Fits find text i j := by
  induction nodes with
  | nil => simp [Node.FitsAny]
  | cons node nodes ih => simp [Node.FitsAny, ih]

/-- Every type that is found is sound and tame. -/
def SoundTypes (find : String → Option ParameterType) : Prop :=
  ∀ name t, find name = some t → t.Sound ∧ t.Tame

theorem Node.Plain.compilesTo (types : SoundTypes find) {part : Bound} (plain : node.Plain)
    (h : node.bind find = .ok part) :
    CompilesTo part.pattern fun text => node.Fits find text := by
  induction plain generalizing part with
  | text =>
    obtain ⟨rfl⟩ := h
    exact compilesTo_text _
  | optional _ ih =>
    obtain ⟨-, parts, bound, rfl⟩ := bind_optional_ok h
    have inside := compilesTo_all (bindAll_ok bound fun node hn part => ih node hn)
    exact inside.fills.optional.congr rfl fun text i j => by rw [Node.Fits]
  | parameter =>
    obtain ⟨t, found, rfl⟩ := bind_parameter_ok h
    obtain ⟨sound, tame⟩ := types _ t found
    obtain ⟨ps, adds, steady, denotes⟩ := compilesTo_parameter sound tame
    refine ⟨ps, adds, steady, fun fine text i j => ?_⟩
    rw [denotes fine text i j]
    simp only [Node.Fits, found, Option.some.injEq, exists_eq_left']

theorem Node.IsAlternation.compilesTo (types : SoundTypes find) {part : Bound}
    (shape : node.IsAlternation) (h : node.bind find = .ok part) :
    CompilesTo part.pattern fun text => node.Fits find text := by
  obtain ⟨alternatives, span, parts, rfl, bound, rfl, some, each⟩ := shape.bind_ok h
  have pieces : List.Forall₂ (fun node part => CompilesTo part.pattern fun text =>
      node.Fits find text) alternatives parts := bindAll_ok bound fun alternative ha part known => by
    obtain ⟨children, span, parts, rfl, bound, rfl, plain⟩ := each alternative ha part known
    have inside := compilesTo_all (bindAll_ok bound fun node hn part =>
      (plain node hn).1.compilesTo types)
    exact inside.congr rfl fun text i j => by rw [Node.Fits]
  have choices : List.Forall₂ CompilesTo (parts.map Bound.pattern)
      (alternatives.map fun node text => node.Fits find text) :=
    List.forall₂_map_left_iff.mpr (List.forall₂_map_right_iff.mpr pieces.flip)
  refine (fillsWith_branches choices some).plain.congr rfl fun text i j => ?_
  rw [Node.Fits, fitsAny_iff]
  simp

end Template

end StepExpr
