import StepExpr.Proofs.Expression.Matching
import StepExpr.Proofs.Suggestion.Builtin

/-!
# Suggestions and their samples

The template of a suggestion escapes the characters that would begin something other than text, but
not the backslash. It is read back as the parts of the sample that it was made from if the sample
has no backslash.

* `ReadsAs`: glyphs are read as text and parameters that stand for a part of a text;
* `Covers.readsAs`: so are the glyphs of a suggestion, for the whole sample;
* `suggest_matches`: a suggestion matches its sample, if its pattern is valid at all.
-/

namespace StepExpr

open Template

variable {find : String → Option ParameterType} {text : Array Char} {gs : List Glyph}
  {i j k : Nat} {cs name : List Char} {types : List ParameterType}

namespace Suggestion

/-! ## Glyphs -/

def sampleGlyph (c : Char) : Glyph := ⟨c, c = '(' || c = '\x7b' || c = '/'⟩

/-- The glyphs of a suggestion. -/
def glyphs (s : Suggestion) : List Glyph :=
  (s.parameters.flatMap fun (before, t) =>
    before.map sampleGlyph ++ parameterGlyphs t.name.toList) ++ s.tail.map sampleGlyph

theorem written_sample (cs : List Char) : written (cs.map sampleGlyph) = escapeSample cs := by
  induction cs with
  | nil => rfl
  | cons c cs ih =>
    have first : (sampleGlyph c).source =
        if c = '(' || c = '\x7b' || c = '/' then ['\\', c] else [c] := rfl
    rw [List.map_cons, written_cons, ih, first]
    rfl

theorem written_glyphs (s : Suggestion) : written s.glyphs = s.source := by
  obtain ⟨parameters, tail⟩ := s
  rw [glyphs, source, written_append, written_sample]
  congr 1
  induction parameters with
  | nil => rfl
  | cons part parameters ih =>
    rw [List.flatMap_cons, List.flatMap_cons, written_append, ih, written_append, written_sample,
      written_parameter, List.append_assoc]
    simp

/-! ## Reading -/

/-- The glyphs are read as text and parameters with known names, which stand for the part of a text
from `i` to `j`. -/
def ReadsAs (find : String → Option ParameterType) (text : Array Char) (gs : List Glyph)
    (i j : Nat) : Prop :=
  ∀ pos, ∃ items, Reads .line (tokensFrom pos gs) items ∧
    (∀ item ∈ items, item.isSlash = false) ∧
    (∃ parts, Node.bindAll find (items.filterMap Item.node?) = .ok parts) ∧
    Node.FitsAll find text (items.filterMap Item.node?) i j

theorem ReadsAs.nil : ReadsAs find text [] i i :=
  fun _ => ⟨[], .nil, by simp, ⟨[], rfl⟩, rfl⟩

theorem bindAll_cons {node : Node} {nodes : List Node} {part : Bound} {parts : List Bound}
    (h : node.bind find = .ok part) (g : Node.bindAll find nodes = .ok parts) :
    Node.bindAll find (node :: nodes) = .ok (part :: parts) := by
  rw [Node.bindAll, h, g]
  rfl

theorem bindAll_tail {node : Node} {nodes : List Node} {parts : List Bound}
    (h : Node.bindAll find (node :: nodes) = .ok parts) :
    ∃ others, Node.bindAll find nodes = .ok others := by
  rw [Node.bindAll] at h
  split at h
  · cases h
  · obtain ⟨others, same, -⟩ := map_ok h
    exact ⟨others, same⟩

theorem isText_sampleGlyph (c : Char) : Place.line.IsText (sampleGlyph c).kind := by
  unfold sampleGlyph Glyph.kind
  split
  · exact .inr (.inl rfl)
  · rename_i bare
    simp only [Bool.or_eq_true, decide_eq_true_eq, not_or] at bare
    obtain ⟨⟨notParenthesis, notBrace⟩, notSlash⟩ := bare
    unfold TokenKind.ofChar
    split
    · contradiction
    · contradiction
    · exact .inr (.inr (.inl rfl))
    · contradiction
    · exact .inr (.inr (.inr ⟨rfl, rfl⟩))
    · split
      · exact .inl rfl
      · exact .inr (.inl rfl)

/-- A character of the sample is read as text. -/
theorem ReadsAs.char {c : Char} (here : text[i]? = some c) (h : ReadsAs find text gs (i + 1) j) :
    ReadsAs find text (sampleGlyph c :: gs) i j := by
  intro pos
  obtain ⟨items, reads, free, ⟨parts, binds⟩, fits⟩ := h (pos + (sampleGlyph c).width)
  have kind := isText_sampleGlyph c
  rw [tokensFrom]
  generalize tokensFrom (pos + (sampleGlyph c).width) gs = ts at reads
  have front (t : Token) (text' : t.text = [c]) (kind : Place.line.IsText t.kind) :
      ∃ items, Reads .line (t :: ts) items ∧ (∀ item ∈ items, item.isSlash = false) ∧
        (∃ parts, Node.bindAll find (items.filterMap Item.node?) = .ok parts) ∧
        Node.FitsAll find text (items.filterMap Item.node?) i j := by
    refine ⟨.text t :: items, .text kind reads, List.forall_mem_cons.mpr ⟨rfl, free⟩,
      ⟨_, bindAll_cons rfl binds⟩, i + 1, ?_, fits⟩
    rw [text']
    exact ⟨here, rfl⟩
  cases ts with
  | nil => exact front _ rfl kind
  | cons t ts =>
    rw [pushGlyph]
    split
    · rename_i joined
      obtain ⟨same, run⟩ := joined
      cases reads with
      | @text _ _ _ items _ rest =>
        obtain ⟨k, spelled, fits⟩ := fits
        obtain ⟨_, others⟩ := bindAll_tail binds
        exact ⟨_, .text kind rest, List.forall_mem_cons.mpr ⟨rfl, (List.forall_mem_cons.mp free).2⟩,
          ⟨_, bindAll_cons rfl others⟩, k, ⟨here, spelled⟩, fits⟩
      | slash other => simp [← same, other, TokenKind.isRun] at run
      | optional other => simp [← same, other, TokenKind.isRun] at run
      | parameter other => simp [← same, other, TokenKind.isRun] at run
    · exact front _ rfl kind

theorem ReadsAs.spelled (spelled : Regex.Spells text cs i k) (h : ReadsAs find text gs k j) :
    ReadsAs find text (cs.map sampleGlyph ++ gs) i j := by
  induction cs generalizing i with
  | nil =>
    obtain rfl : i = k := spelled
    exact h
  | cons c cs ih => exact .char spelled.1 (ih spelled.2)

/-- A parameter with a known name is read as one that stands for a text of its type. -/
theorem ReadsAs.parameter {t : ParameterType} {regexp : String}
    (plain : ∀ c ∈ name, isReserved c = false) (known : find (String.ofList name) = some t)
    (hr : regexp ∈ t.regexps) (fits : FitsRegexp text regexp i k) (h : ReadsAs find text gs k j) :
    ReadsAs find text (parameterGlyphs name ++ gs) i j := by
  intro pos
  obtain ⟨ts, first, last, next, opened, begins, names, ends, whole⟩ :=
    tokensFrom_parameter plain pos gs
  obtain ⟨items, reads, free, ⟨parts, binds⟩, others⟩ := h next
  have named : find (String.ofList (Node.textOfAll (ts.map textNode))) = some t := by
    rw [textOfAll_textNodes, whole, known]
  rw [opened]
  refine ⟨_, .parameter begins names ends reads, List.forall_mem_cons.mpr ⟨rfl, free⟩,
    ⟨_, bindAll_cons (by rw [Node.bind, named]) binds⟩, k, ⟨t, named, regexp, hr, fits⟩, others⟩

/-! ## Suggestions -/

theorem spells_extract (start : i ≤ j) (stop : j ≤ text.size) :
    Regex.Spells text (text.extract i j).toList i j := by
  obtain ⟨n, rfl⟩ := Nat.exists_eq_add_of_le start
  clear start
  induction n generalizing i with
  | zero => simp [Regex.Spells]
  | succ n ih =>
    have here : i < text.toList.length := by
      rw [Array.length_toList]
      omega
    have others := ih (i := i + 1) (by omega)
    rw [Array.toList_extract, List.extract_eq_take_drop] at others ⊢
    have count : i + 1 + n - (i + 1) = n := by omega
    have more : i + (n + 1) - i = n + 1 := by omega
    rw [count] at others
    rw [more, List.drop_eq_getElem_cons here, List.take_succ_cons]
    refine ⟨?_, ?_⟩
    · rw [← Array.getElem?_toList, List.getElem?_eq_getElem here]
    · have stop : i + 1 + n = i + (n + 1) := by omega
      exact stop ▸ others

/-- The glyphs of a suggestion are read as the parts of the sample. -/
theorem Covers.readsAs {pos : Nat} {s : Suggestion}
    (known : ∀ t ∈ types, find t.name = some t ∧ ∀ c ∈ t.name.toList, isReserved c = false)
    (within : pos ≤ text.size) (h : Covers types text pos s.parameters s.tail) :
    ReadsAs find text s.glyphs pos text.size := by
  obtain ⟨parameters, tail⟩ := s
  simp only [glyphs] at h ⊢
  induction parameters generalizing pos with
  | nil =>
    obtain rfl := h
    have last : ReadsAs find text _ pos text.size :=
      .spelled (spells_extract within (Nat.le_refl text.size)) .nil
    simpa using last
  | cons part parameters ih =>
    obtain ⟨before, t⟩ := part
    obtain ⟨start, stop, late, inside, order, rfl, ht, ⟨regexp, hr, fits⟩, others⟩ := h
    obtain ⟨found, plain⟩ := known t ht
    have rest := ih inside others
    rw [List.flatMap_cons, List.append_assoc, List.append_assoc]
    refine .spelled (spells_extract late (Nat.le_trans order inside)) ?_
    exact .parameter plain (by rwa [String.ofList_toList]) hr fits rest

theorem valid_sampleGlyph {c : Char} (plain : c ≠ '\\') : (sampleGlyph c).Valid := by
  unfold Glyph.Valid
  split
  · rename_i escaped
    simp only [sampleGlyph, Bool.or_eq_true, decide_eq_true_eq] at escaped ⊢
    rcases escaped with (rfl | rfl) | rfl <;> rfl
  · exact plain

/-- A sample without backslashes is escaped in full. -/
theorem Covers.valid {pos : Nat} {s : Suggestion} (backslash : '\\' ∉ text)
    (plain : ∀ t ∈ types, ∀ c ∈ t.name.toList, isReserved c = false)
    (h : Covers types text pos s.parameters s.tail) : ∀ g ∈ s.glyphs, g.Valid := by
  have sample (i j : Nat) : ∀ g ∈ (text.extract i j).toList.map sampleGlyph, g.Valid := by
    intro g hg
    obtain ⟨c, hc, rfl⟩ := List.mem_map.mp hg
    rw [Array.toList_extract, List.extract_eq_take_drop] at hc
    have there := Array.mem_toList_iff.mp (List.mem_of_mem_drop (List.mem_of_mem_take hc))
    exact valid_sampleGlyph fun same => backslash (same ▸ there)
  obtain ⟨parameters, tail⟩ := s
  simp only [glyphs] at h ⊢
  induction parameters generalizing pos with
  | nil =>
    obtain rfl := h
    simpa using sample pos text.size
  | cons part parameters ih =>
    obtain ⟨before, t⟩ := part
    obtain ⟨start, stop, -, -, -, rfl, ht, -, others⟩ := h
    rw [List.flatMap_cons, List.append_assoc]
    refine List.forall_mem_append.mpr ⟨List.forall_mem_append.mpr ⟨sample pos start, ?_⟩, ih others⟩
    exact valid_parameterGlyphs (plain t ht)

end Suggestion

namespace TemplateExpression

variable {r : Registry} {source : List Char}

theorem isSome_match?_of_fits {e : TemplateExpression} {sample : List Char}
    (reachable : r.Reachable) (tame : ∀ t ∈ r.types, t.Tame) (h : create r source = .ok e)
    (fits : Node.FitsAll r.byName? sample.toArray e.root.children 0 sample.toArray.size) :
    (e.matcher.match? sample).isSome = true := by
  obtain ⟨whole, parsed, bound, compiled⟩ := create_ok h
  obtain ⟨children, span, root, shape⟩ := shape_of_parse parsed
  rw [root] at bound fits
  obtain ⟨piece, anchored, compiles⟩ := compilesTo_root (reachable.soundTypes tame) shape bound
  obtain ⟨p, regex, read, meaning, program⟩ := Matcher.program_of_compile? compiled
  rw [anchored] at read
  rw [Matcher.match?, Option.isSome_map, program, Regex.program_search_isSome_iff]
  exact (matches_anchored_iff compiles read meaning).mpr fits

end TemplateExpression

/-- A suggestion for a sample without backslashes matches the sample, unless its pattern is not
valid, where the regexps of the types test no positions. -/
theorem suggest_matches {r : Registry} (reachable : r.Reachable) (tame : ∀ t ∈ r.types, t.Tame)
    (floats : ∀ t ∈ r.types, t.forSnippets = true → t.Floats) {sample : List Char}
    (backslash : '\\' ∉ sample) {limit : Nat} {s : Suggestion}
    (h : s ∈ suggest r.types limit sample) :
    TemplateExpression.create r s.source = .error .invalidPattern ∨
      ∃ e, TemplateExpression.create r s.source = .ok e ∧
        (e.matcher.match? sample).isSome = true := by
  have used : ∀ t ∈ r.types.filter (·.forSnippets), t ∈ r.types ∧ t.forSnippets = true := by
    intro t ht
    simpa using List.mem_filter.mp ht
  have covers := suggest_covers reachable (fun t ht => ⟨reachable.sound t (used t ht).1,
    tame t (used t ht).1, floats t (used t ht).1 (used t ht).2⟩) h
  have plain : ∀ t ∈ r.types.filter (·.forSnippets), ∀ c ∈ t.name.toList, isReserved c = false :=
    fun t ht => reachable.unreserved t (used t ht).1
  have known : ∀ t ∈ r.types.filter (·.forSnippets), r.byName? t.name = some t ∧
      ∀ c ∈ t.name.toList, isReserved c = false := by
    refine fun t ht => ⟨?_, plain t ht⟩
    exact reachable.indexed.byName?_eq_some_iff.mpr ⟨(used t ht).1, rfl⟩
  have valid := covers.valid (by simpa using backslash) plain
  obtain ⟨items, reads, free, ⟨parts, binds⟩, fits⟩ := covers.readsAs known (Nat.zero_le _) 0
  have cut : tokenize s.source = .ok (edgeToken .lineStart 0 ::
      (tokensFrom 0 s.glyphs ++ [edgeToken .lineEnd s.source.length])) :=
    Suggestion.written_glyphs s ▸ tokenize_written valid
  obtain ⟨root, parsed⟩ : ∃ root, parse s.source = .ok root := by
    cases parsed : parse s.source with
    | error problem =>
      have failed := parse_error cut parsed
      rw [reads.run_ok] at failed
      cases failed
    | ok root => exact ⟨root, rfl⟩
  have shape := root_of_parse parsed cut reads
  rw [nodesOf_free (by simp) free, List.nil_append] at shape
  subst shape
  have bound : (Node.branch .expression (items.filterMap Item.node?) ⟨0, s.source.length⟩).bind
      r.byName? = .ok ((Bound.join [] parts).wrap "^" "$") := by
    rw [Node.bind, binds]
    rfl
  have made := TemplateExpression.create_of_bind parsed bound
  cases compiled : Matcher.compile? ((Bound.join [] parts).wrap "^" "$").pattern with
  | none =>
    rw [compiled] at made
    exact .inl made
  | some m =>
    rw [compiled] at made
    exact .inr ⟨_, made, TemplateExpression.isSome_match?_of_fits reachable tame made fits⟩

/-- The only word of this sample is the number. -/
theorem cut_cukes : ∃ others, Suggestion.cut Registry.initial.types "4 cukes/day".toList =
    ⟨[([], Builtin.integer :: others)], " cukes/day".toList⟩ := by
  obtain ⟨slots, tail, scans, cuts⟩ := Suggestion.cut_scans .initial "4 cukes/day".toList
  rw [Registry.types_initial] at scans
  have there : Builtin.integer ∈ Builtin.types := by simp [Builtin.types]
  have hits : Suggestion.naturalFinder.Hits "4 cukes/day".toList.toArray 0 0 1 := by
    decide +kernel
  have meets : Suggestion.naturalFinder.Meets "4 cukes/day".toList.toArray 0 0 1 :=
    ⟨0, Nat.le_refl 0, hits, fun k _ early => absurd early (Nat.not_lt_zero k)⟩
  obtain ⟨offers, offered, fits, rfl, rfl⟩ := scans.lone (by simp) (by simp) there rfl
    Suggestion.mem_finders_natural meets (by decide)
  obtain ⟨others, rfl⟩ := fits.integer_first offered
  exact ⟨others, cuts⟩

theorem suggest_cukes : ⟨[([], Builtin.integer)], " cukes/day".toList⟩ ∈
    suggest Registry.initial.types 1 "4 cukes/day".toList := by
  obtain ⟨others, cuts⟩ := cut_cukes
  have first : Suggestion.firstCombinations [Builtin.integer :: others] 1 =
      [[Builtin.integer]] := by
    rw [Suggestion.firstCombinations_eq_take]
    rfl
  unfold suggest
  simp only [cuts, List.map_cons, List.map_nil, first, List.zip_cons_cons, List.zip_nil_left,
    List.mem_singleton]

theorem suggest_matches_cukes : '\\' ∉ "4 cukes/day".toList ∧
    ∃ s ∈ suggest Registry.initial.types 1 "4 cukes/day".toList,
      s.source = "{int} cukes\\/day".toList ∧
        ∃ e, TemplateExpression.create .initial s.source = .ok e ∧
          (e.matcher.match? "4 cukes/day".toList).isSome = true := by
  have tame : ∀ t ∈ Registry.initial.types, t.Tame := Registry.types_initial ▸ builtin_tame
  have floats : ∀ t ∈ Registry.initial.types, t.Floats := Registry.types_initial ▸ builtin_floats
  have backslash : '\\' ∉ "4 cukes/day".toList := by decide
  have valid : (TemplateExpression.create .initial (Suggestion.source
      ⟨[([], Builtin.integer)], " cukes/day".toList⟩)).isOk = true := by decide +kernel
  refine ⟨backslash, _, suggest_cukes, rfl, ?_⟩
  rcases suggest_matches .initial tame (fun t ht _ => floats t ht) backslash suggest_cukes
    with invalid | made
  · rw [invalid] at valid
    cases valid
  · exact made

end StepExpr
