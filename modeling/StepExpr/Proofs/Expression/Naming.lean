import StepExpr.Proofs.Expression.Lone
import StepExpr.Proofs.Parameter.Lookup
import StepExpr.Proofs.Template.Parameters

/-!
# Names of parameters

A type can be registered by those names that a template can write without an escape.

* `Token.Spells`: where the characters of a token's text stand;
* `escaped_of_parameter`: what is reserved can only be escaped into the name of a parameter;
* `names_in_braces`: a registered name is written between braces as it is, and no other name has a
  type.
-/

namespace StepExpr

namespace Template

variable {source rest : List Char} {c : Char} {pos stop : Nat} {g : Glyph} {gs : List Glyph}
  {t : Token} {ts : List Token} {span : Span} {root : Node} {children : List Node}
  {find : String → Option ParameterType}

/-! ## Characters of tokens -/

/-- Every character of the text of a token stands in the token, and a backslash does so escaped.
The part of a template from `pos` on is `source`. -/
def Token.Spells (source : List Char) (pos : Nat) (t : Token) : Prop :=
  ∀ c ∈ t.text, ∃ i, t.span.start ≤ pos + i ∧ pos + i < t.span.stop ∧ source[i]? = some c ∧
    (Escaped source i ∨ c ≠ '\\')

/-- The character of a glyph is the last that is written of it. -/
theorem glyph_spelled (valid : g.Valid) : ∃ i < g.width, (g.source ++ rest)[i]? = some g.char ∧
    (Escaped (g.source ++ rest) i ∨ g.char ≠ '\\') := by
  obtain ⟨c, escaped⟩ := g
  cases escaped with
  | true => exact ⟨1, Nat.lt_succ_self 1, rfl, .inl ⟨rfl, not_escaped_zero⟩⟩
  | false => exact ⟨0, Nat.zero_lt_one, rfl, .inr (by simpa [Glyph.Valid] using valid)⟩

theorem Token.Spells.behind (valid : g.Valid) (h : t.Spells rest (pos + g.width)) :
    t.Spells (g.source ++ rest) pos := by
  intro c hc
  obtain ⟨i, after, before, here, free⟩ := h c hc
  exact ⟨g.width + i, by omega, by omega, getElem?_glyph.trans here,
    free.imp_left (escaped_glyph valid).mpr⟩

theorem Token.spells_glyph (valid : g.Valid) : Token.Spells (g.source ++ rest) pos
    ⟨g.kind, [g.char], g.source, ⟨pos, pos + g.width⟩⟩ := by
  intro c hc
  obtain rfl := List.mem_singleton.mp hc
  obtain ⟨i, inside, here, free⟩ := @glyph_spelled rest g valid
  exact ⟨i, Nat.le_add_right pos i, Nat.add_lt_add_left inside pos, here, free⟩

theorem pushGlyph_spells (valid : g.Valid) (follow : Contiguous (pos + g.width) ts stop)
    (h : ∀ t ∈ ts, t.Spells rest (pos + g.width)) :
    ∀ t ∈ pushGlyph pos g ts, t.Spells (g.source ++ rest) pos := by
  have later : ∀ t ∈ ts, t.Spells (g.source ++ rest) pos := fun t ht => (h t ht).behind valid
  cases ts with
  | nil => exact List.forall_mem_singleton.mpr (Token.spells_glyph valid)
  | cons u us =>
    obtain ⟨first, others⟩ := List.forall_mem_cons.mp later
    rw [pushGlyph]
    split
    · refine List.forall_mem_cons.mpr ⟨fun c hc => ?_, others⟩
      have start := follow.1
      have longer := follow.2.1
      rcases List.mem_cons.mp hc with rfl | hc
      · obtain ⟨i, inside, here, free⟩ := @glyph_spelled rest g valid
        exact ⟨i, Nat.le_add_right pos i, by dsimp only; omega, here, free⟩
      · obtain ⟨i, after, before, here, free⟩ := first c hc
        exact ⟨i, Nat.le_add_right pos i, before, here, free⟩
    · exact List.forall_mem_cons.mpr ⟨Token.spells_glyph valid, later⟩

theorem tokensFrom_spells (valid : ∀ g ∈ gs, g.Valid) :
    ∀ t ∈ tokensFrom pos gs, t.Spells (written gs) pos := by
  induction gs generalizing pos with
  | nil => simp [tokensFrom]
  | cons g gs ih =>
    obtain ⟨first, others⟩ := List.forall_mem_cons.mp valid
    exact pushGlyph_spells first (tokensFrom_contiguous _ gs) (ih others)

/-- In a token that a name can have, what is reserved is escaped. -/
theorem escaped_of_isName (spells : t.Spells source 0) (holds : t.Holds source 0) (name : IsName t)
    (hc : c ∈ t.text) (reserved : isReserved c = true) : ∃ i, t.span.start ≤ i ∧ i < t.span.stop ∧
      source[i]? = some c ∧ Escaped source i := by
  obtain ⟨i, after, before, here, free⟩ := spells c hc
  obtain ⟨d, here', kind⟩ := holds i after before
  obtain rfl : c = d := Option.some.inj (here.symm.trans here')
  rw [Nat.zero_add] at after before
  refine ⟨i, after, before, here, ?_⟩
  rcases kind with ⟨escaped, -⟩ | ⟨unescaped, kind⟩
  · exact escaped
  · -- an unescaped delimiter is a token of its own, and no part of a name
    have plain : c ≠ '\\' := free.resolve_left unescaped
    have delimiter : c ∈ delimiters := by
      simp only [isReserved, Bool.or_eq_true, decide_eq_true_eq] at reserved
      simp only [delimiters, List.mem_cons, List.not_mem_nil, or_false]
      tauto
    have single := (ofChar_of_delimiter delimiter).1
    rw [← kind] at single
    rcases name with blank | text
    · rw [blank] at single
      cases single
    · rw [text] at single
      cases single

/-! ## Names -/

/-- What is reserved and in the name of a parameter is escaped between its braces. -/
theorem escaped_of_parameter (parsed : parse source = .ok root)
    (there : Node.branch .parameter children span ∈ root.subnodes)
    (hc : c ∈ Node.textOfAll children) (reserved : isReserved c = true) : ∃ pos, span.start < pos ∧
      pos + 1 < span.stop ∧ source[pos]? = some c ∧ Escaped source pos := by
  obtain ⟨gs, valid, rfl, before, first, name, last, after, all, rfl, rfl, -, names, -⟩ :=
    spelled_of_parse parsed there
  rw [textOfAll_textNodes] at hc
  obtain ⟨t, ht, hc⟩ := List.mem_flatMap.mp hc
  have mem : t ∈ tokensFrom 0 gs := by simp [all, ht]
  have munched := munched_tokensFrom valid
  obtain ⟨pos, after, before, here, escaped⟩ := escaped_of_isName
    (tokensFrom_spells valid t mem) (munched.kinds t mem) (names t ht) hc reserved
  have side := munched.contiguous
  rw [all] at side
  obtain ⟨start, -, opens, longer, rest⟩ := Contiguous.append.mp side
  obtain ⟨mid, inside, closes, longer', -⟩ := Contiguous.append.mp rest
  have within := inside.mem ht
  exact ⟨pos, by dsimp only; omega, by dsimp only; omega, here, escaped⟩

/-- A tree has a pattern only if all its nodes pass their checks. -/
theorem admits_of_bind {whole : Bound} (parsed : parse source = .ok root)
    (bound : root.bind find = .ok whole) : root.Admissible find := by
  obtain ⟨children, span, rfl, shape⟩ := shape_of_parse parsed
  refine admissible_branch.mpr ⟨trivial, fun child hc => ?_⟩
  obtain ⟨part, known⟩ := bindAll_ok_iff.mp (exists_map_ok_iff.mp ⟨whole, bound⟩) child hc
  exact (shape child hc).elim (fun plain => plain.bind_ok_iff.mp ⟨part, known⟩)
    fun alternation => alternation.bind_ok_iff.mp ⟨part, known⟩

/-- No type is registered by a name with a character that templates reserve. -/
theorem byName?_of_reserved {r : Registry} {name : List Char} (reachable : r.Reachable)
    (hc : c ∈ name) (reserved : isReserved c = true) : r.byName? (String.ofList name) = none := by
  rw [Option.eq_none_iff_forall_ne_some]
  intro t found
  obtain ⟨ht, named⟩ := reachable.indexed.byName?_eq_some_iff.mp found
  have plain := reachable.unreserved t ht c (by simpa [named] using hc)
  rw [reserved] at plain
  cases plain

end Template

open Template

/-- A registered name stands between braces as it is: such a template is one parameter of that name,
and is bound to the type with the name. A character that templates reserve gets into the name of a
parameter by an escape only. Such a name is never found, and no template with it is made. -/
theorem Registry.Reachable.names_in_braces {r : Registry} (reachable : r.Reachable) :
    (∀ t ∈ r.types, ∃ children span whole, parse ('\x7b' :: t.name.toList ++ ['\x7d']) =
        .ok (.branch .expression [.branch .parameter children span] whole) ∧
      Node.textOfAll children = t.name.toList ∧
      (Node.branch .expression [.branch .parameter children span] whole).bind r.byName? =
        .ok ⟨t.lonePattern, [t]⟩) ∧
    ∀ source root, parse source = .ok root → ∀ children span,
      Node.branch .parameter children span ∈ root.subnodes →
      ∀ c ∈ Node.textOfAll children, c ∈ ['\x7b', '\x7d', '(', ')', '\\', '/'] →
        (∃ pos, span.start < pos ∧ pos + 1 < span.stop ∧ source[pos]? = some c ∧
          Escaped source pos) ∧
        (Node.branch .parameter children span).bind r.byName? =
          .error (.undefinedType (String.ofList (Node.textOfAll children)) span) ∧
        ∃ e, root.bind r.byName? = .error e ∧
          TemplateExpression.create r source = .error (e.error (String.ofList source)) := by
  refine ⟨fun t ht => ?_, fun source root parsed children span there c hc illegal => ?_⟩
  · obtain ⟨children, span, whole, parsed, named⟩ := parse_parameter (reachable.unreserved t ht)
    exact ⟨children, span, whole, parsed, named, bind_lone reachable ht named⟩
  have reserved : isReserved c = true := by
    simp only [List.mem_cons, List.not_mem_nil, or_false] at illegal
    rcases illegal with rfl | rfl | rfl | rfl | rfl | rfl <;> rfl
  have unknown := byName?_of_reserved reachable hc reserved
  refine ⟨escaped_of_parameter parsed there hc reserved,
    bind_parameter_error_iff.mpr ⟨unknown, rfl⟩, ?_⟩
  cases bound : root.bind r.byName? with
  | ok whole =>
    obtain ⟨t, found⟩ := admits_of_bind parsed bound _ there
    rw [unknown] at found
    cases found
  | error e =>
    refine ⟨e, rfl, ?_⟩
    simp only [TemplateExpression.create, parsed, bound, Except.mapError, bind, Except.bind]

theorem Registry.Reachable.names_in_braces_blank : ∃ r : Registry, r.Reachable ∧
    (∃ t ∈ r.types, t.name = "vert  foncé" ∧
      ∃ children span whole, parse "\x7bvert  foncé\x7d".toList =
        .ok (.branch .expression [.branch .parameter children span] whole) ∧
      Node.textOfAll children = "vert  foncé".toList ∧
      (Node.branch .expression [.branch .parameter children span] whole).bind r.byName? =
        .ok ⟨"^(a)$".toList, [t]⟩) ∧
    ∃ e, TemplateExpression.create r "\x7ba\\/b\x7d".toList = .error e := by
  have valid : Regex.ofText? "a".toList ≠ none := by decide +kernel
  have new : ∀ t ∈ Registry.initial.types, t.name ≠ "vert  foncé" := by
    rw [Registry.types_initial]
    decide
  have reachable : (Registry.initial.insert (.ofRegexp "vert  foncé" "a")).Reachable :=
    Registry.Reachable.initial.insert_ofRegexp (by decide) valid new
  have ht : ParameterType.ofRegexp "vert  foncé" "a" ∈
      (Registry.initial.insert (.ofRegexp "vert  foncé" "a")).types := by
    simp [Registry.types_insert_initial]
  have name : "\x7bvert  foncé\x7d".toList =
      '\x7b' :: (ParameterType.ofRegexp "vert  foncé" "a").name.toList ++ ['\x7d'] := by decide
  have pattern : "^(a)$".toList = (ParameterType.ofRegexp "vert  foncé" "a").lonePattern := by
    decide
  have reads := @Reads.parameter .line ⟨.parameterBegin, ['\x7b'], ['\x7b'], ⟨0, 1⟩⟩
    ⟨.parameterEnd, ['\x7d'], ['\x7d'], ⟨5, 6⟩⟩
    [⟨.text, ['a', '/', 'b'], ['a', '\\', '/', 'b'], ⟨1, 5⟩⟩] _ _ rfl (by simp [IsName]) rfl .nil
  have parsed := @parse_of_reads "\x7ba\\/b\x7d".toList _ _ (by decide +kernel) reads
  obtain ⟨written, escaped⟩ := reachable.names_in_braces
  refine ⟨_, reachable, ⟨_, ht, rfl, ?_⟩, ?_⟩
  · rw [name, pattern]
    exact written _ ht
  · obtain ⟨-, -, e, -, failed⟩ := escaped _ _ parsed _ _ (.tail _ (.head _)) '/'
      (by simp [Node.textOfAll, Node.textOf, textNode]) (by decide)
    exact ⟨_, failed⟩

end StepExpr
