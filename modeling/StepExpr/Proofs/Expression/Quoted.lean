import Mathlib
import StepExpr.Proofs.Expression.Literal
import StepExpr.Proofs.Expression.Lone
import StepExpr.Proofs.Regex.Limit

/-!
# Quoted strings

The parameter of quoted strings matches what stands between quotes, with escapes, and its value is
the text between the quotes without the escapes of quotes.

* `QuoteBody` is what can stand between quotes, and `Replaced` what is left of it;
* `matches_string`: the pattern of quoted strings matches these texts, and its groups are the texts
  between the quotes;
* `TemplateExpression.arguments_string` puts the parts together.
-/

namespace StepExpr

variable {q c : Char} {s t body : List Char}

/-! ## Bodies -/

/-- What can stand between two quotes: characters other than the quote and the backslash, and
backslashes with any character but a line break behind them. -/
inductive QuoteBody (q : Char) : List Char → Prop where
  | nil : QuoteBody q []
  | plain {c rest} : c ≠ q → c ≠ '\\' → QuoteBody q rest → QuoteBody q (c :: rest)
  | escape {c rest} : c ≠ '\n' → QuoteBody q rest → QuoteBody q ('\\' :: c :: rest)

/-- A text between two quotes of one kind. -/
inductive Quoted (q : Char) (body : List Char) : List Char → Prop where
  | intro : q = '"' ∨ q = '\'' → QuoteBody q body → Quoted q body (q :: (body ++ [q]))

theorem QuoteBody.append (h : QuoteBody q s) (g : QuoteBody q t) : QuoteBody q (s ++ t) := by
  induction h with
  | nil => exact g
  | plain other unescaped _ ih => exact .plain other unescaped ih
  | escape unbroken _ ih => exact .escape unbroken ih

theorem QuoteBody.of_plain (h : ∀ c ∈ s, c ≠ q ∧ c ≠ '\\') : QuoteBody q s := by
  induction s with
  | nil => exact .nil
  | cons c s ih =>
    obtain ⟨⟨other, unescaped⟩, rest⟩ := List.forall_mem_cons.mp h
    exact .plain other unescaped (ih rest)

/-- A text has its quote and its body in one way only. -/
theorem Quoted.unique {text : List Char} {q' : Char} {body' : List Char} (h : Quoted q body text)
    (g : Quoted q' body' text) : q = q' ∧ body = body' := by
  cases h with
  | intro =>
    generalize same : q :: (body ++ [q]) = text at g
    cases g with
    | intro =>
      obtain ⟨rfl, rest⟩ := List.cons.inj same
      exact ⟨rfl, List.append_cancel_right rest⟩

/-! ## Replacement -/

/-- The text `t` is `s` with a quote for each backslash that has a quote behind it. -/
def Replaced (q : Char) (s t : List Char) : Prop :=
  ∃ pieces : List (List Char), (∀ piece ∈ pieces, ¬ ['\\', q] <:+: piece) ∧
    s = ['\\', q].intercalate pieces ∧ t = [q].intercalate pieces

theorem unescapeQuotes_cons (plain : c ≠ '\\') :
    unescapeQuotes q (c :: s) = c :: unescapeQuotes q s := by
  rw [unescapeQuotes]
  exact fun _ _ same => absurd same plain

theorem unescapeQuotes_pair : unescapeQuotes q ('\\' :: q :: s) = q :: unescapeQuotes q s := by
  simp [unescapeQuotes]

theorem unescapeQuotes_backslash (other : s.head? ≠ some q) :
    unescapeQuotes q ('\\' :: s) = '\\' :: unescapeQuotes q s := by
  cases s with
  | nil => rfl
  | cons c s =>
    have : c ≠ q := by simpa using other
    simp [unescapeQuotes, this]

/-- What holds no escaped quote stays, up to where one can begin. -/
theorem unescapeQuotes_append (none : ¬ ['\\', q] <:+: s) (next : t.head? ≠ some q) :
    unescapeQuotes q (s ++ t) = s ++ unescapeQuotes q t := by
  induction s with
  | nil => rfl
  | cons c s ih =>
    have rest := ih fun inside => none (inside.trans (List.suffix_cons c s).isInfix)
    by_cases plain : c = '\\'
    · subst plain
      have other : (s ++ t).head? ≠ some q := by
        cases s with
        | nil => exact next
        | cons d s =>
          rintro ⟨⟩
          exact none (List.prefix_append ['\\', q] s).isInfix
      rw [List.cons_append, unescapeQuotes_backslash other, rest, List.cons_append]
    · rw [List.cons_append, unescapeQuotes_cons plain, rest, List.cons_append]

theorem unescapeQuotes_intercalate {pieces : List (List Char)} (quote : q ≠ '\\')
    (none : ∀ piece ∈ pieces, ¬ ['\\', q] <:+: piece) :
    unescapeQuotes q (['\\', q].intercalate pieces) = [q].intercalate pieces := by
  induction pieces with
  | nil => rfl
  | cons piece pieces ih =>
    obtain ⟨first, others⟩ := List.forall_mem_cons.mp none
    cases pieces with
    | nil => simpa [unescapeQuotes] using unescapeQuotes_append first (t := []) (by simp)
    | cons next pieces =>
      rw [List.intercalate_cons_cons, List.intercalate_cons_cons, List.append_assoc,
        unescapeQuotes_append first (by simpa using quote.symm), List.append_assoc]
      simp only [List.cons_append, List.nil_append, unescapeQuotes_pair, ih others]

theorem Replaced.pair (h : Replaced q s t) : Replaced q ('\\' :: q :: s) (q :: t) := by
  obtain ⟨pieces, none, rfl, rfl⟩ := h
  cases pieces with
  | nil => exact ⟨[[], []], by simp, rfl, rfl⟩
  | cons piece pieces =>
    exact ⟨[] :: piece :: pieces, List.forall_mem_cons.mpr ⟨by simp, none⟩,
      by simp [List.intercalate_cons_cons], by simp [List.intercalate_cons_cons]⟩

theorem Replaced.cons (h : Replaced q s t) (other : c = '\\' → s.head? ≠ some q) :
    Replaced q (c :: s) (c :: t) := by
  obtain ⟨pieces, none, rfl, rfl⟩ := h
  cases pieces with
  | nil => exact ⟨[[c]], by simp [List.infix_cons_iff], rfl, rfl⟩
  | cons piece pieces =>
    obtain ⟨first, others⟩ := List.forall_mem_cons.mp none
    refine ⟨(c :: piece) :: pieces, List.forall_mem_cons.mpr ⟨fun inside => ?_, others⟩, ?_, ?_⟩
    · rcases List.infix_cons_iff.mp inside with ⟨rest, same⟩ | inside
      · obtain ⟨rfl, rfl⟩ := List.cons.inj same
        refine other rfl ?_
        cases pieces <;> simp [List.intercalate_cons_cons]
      · exact first inside
    · cases pieces <;> simp [List.intercalate_cons_cons]
    · cases pieces <;> simp [List.intercalate_cons_cons]

theorem replaced_unescapeQuotes : Replaced q s (unescapeQuotes q s) := by
  fun_induction unescapeQuotes q s with
  | case1 rest ih => exact ih.pair
  | case2 c rest other ih => exact ih.cons fun _ => by simpa using other
  | case3 c rest plain ih =>
    refine ih.cons fun same => ?_
    cases rest with
    | nil => simp
    | cons d rest => exact absurd rfl (plain d rest same)
  | case4 => exact ⟨[], by simp, rfl, rfl⟩

/-- Escaped quotes are replaced wherever they stand. -/
theorem unescapeQuotes_eq_iff (quote : q ≠ '\\') : unescapeQuotes q s = t ↔ Replaced q s t := by
  constructor
  · rintro rfl
    exact replaced_unescapeQuotes
  · rintro ⟨pieces, none, rfl, rfl⟩
    exact unescapeQuotes_intercalate quote none

/-- A text with a backslash before each quote. -/
def escapeQuotes (q : Char) (s : List Char) : List Char :=
  s.flatMap fun c => if c = q then ['\\', c] else [c]

@[simp] theorem escapeQuotes_cons_self : escapeQuotes q (q :: s) = '\\' :: q :: escapeQuotes q s := by
  simp [escapeQuotes]

theorem escapeQuotes_cons (other : c ≠ q) : escapeQuotes q (c :: s) = c :: escapeQuotes q s := by
  simp [escapeQuotes, other]

theorem unescapeQuotes_escapeQuotes (plain : '\\' ∉ s) :
    unescapeQuotes q (escapeQuotes q s) = s := by
  induction s with
  | nil => rfl
  | cons c s ih =>
    obtain ⟨first, rest⟩ := not_or.mp (mt List.mem_cons.mpr plain)
    by_cases same : c = q
    · subst same
      rw [escapeQuotes_cons_self, unescapeQuotes_pair, ih rest]
    · rw [escapeQuotes_cons same, unescapeQuotes_cons (Ne.symm first), ih rest]

/-- Escapes of one kind of quote are none of the other. -/
theorem unescapeQuotes_escapeQuotes_of_ne {other : Char} (differ : other ≠ q) (quote : q ≠ '\\')
    (plain : '\\' ∉ s) : unescapeQuotes other (escapeQuotes q s) = escapeQuotes q s := by
  induction s with
  | nil => rfl
  | cons c s ih =>
    obtain ⟨first, rest⟩ := not_or.mp (mt List.mem_cons.mpr plain)
    by_cases same : c = q
    · subst same
      rw [escapeQuotes_cons_self, unescapeQuotes_backslash (by simpa using differ.symm),
        unescapeQuotes_cons quote, ih rest]
    · rw [escapeQuotes_cons same, unescapeQuotes_cons (Ne.symm first), ih rest]

theorem unescapeQuotes_of_plain (plain : '\\' ∉ s) : unescapeQuotes q s = s := by
  have none : ¬ ['\\', q] <:+: s := fun inside => plain (inside.subset List.mem_cons_self)
  simpa [unescapeQuotes] using unescapeQuotes_append none (t := []) (by simp)

theorem QuoteBody.escapeQuotes (quote : q = '"' ∨ q = '\'') (plain : '\\' ∉ s) :
    QuoteBody q (escapeQuotes q s) := by
  induction s with
  | nil => exact .nil
  | cons c s ih =>
    obtain ⟨first, rest⟩ := not_or.mp (mt List.mem_cons.mpr plain)
    by_cases same : c = q
    · subst same
      rw [escapeQuotes_cons_self]
      exact .escape (by rcases quote with rfl | rfl <;> decide) (ih rest)
    · rw [escapeQuotes_cons same]
      exact .plain same (Ne.symm first) (ih rest)

/-! ## Patterns -/

open Regex

variable {text : Array Char} {i j n : Nat}

/-- All characters but two. -/
def besides (low high : Char) : CharSet :=
  ⟨[⟨0, low.toNat - 1⟩, ⟨low.toNat + 1, high.toNat - 1⟩, ⟨high.toNat + 1, CharSet.maxCode⟩]⟩

def unbroken : CharSet := ⟨[⟨0, 9⟩, ⟨11, CharSet.maxCode⟩]⟩

theorem contains_besides {low high : Char} (positive : 0 < low.toNat)
    (ordered : low.toNat < high.toNat) :
    (besides low high).contains c = true ↔ c ≠ low ∧ c ≠ high := by
  have := CharSet.code_le c
  simp only [CharSet.contains, CharSet.holdsIn, besides, List.any_cons, List.any_nil,
    Bool.or_false, Bool.or_eq_true, Bool.and_eq_true, decide_eq_true_eq, ne_eq, ← Char.toNat_inj]
  omega

theorem contains_unbroken : unbroken.contains c = true ↔ c ≠ '\n' := by
  have := CharSet.code_le c
  have code : '\n'.toNat = 10 := rfl
  simp only [CharSet.contains, CharSet.holdsIn, unbroken, List.any_cons, List.any_nil,
    Bool.or_false, Bool.or_eq_true, Bool.and_eq_true, decide_eq_true_eq, ne_eq, ← Char.toNat_inj]
  omega

/-- The characters that need no backslash. -/
def plainRegex (q : Char) : Regex := .rounds 0 none true (.set false (besides q '\\'))

def bodyRegex (q : Char) (n : Nat) : Regex :=
  .cat (plainRegex q) (.rounds 0 none true
    (.group n (.cat (.literal ['\\']) (.cat (.set false unbroken) (plainRegex q)))))

def quotedRegex (q : Char) (n : Nat) : Regex :=
  .cat (.literal [q]) (.cat (.group n (bodyRegex q (n + 1))) (.literal [q]))

def stringRegex : Regex :=
  .cat (.look .textStart)
    (.cat (.group 1 (.alt (quotedRegex '"' 2) (quotedRegex '\'' 4))) (.look .textEnd))

theorem matches_plain (quote : q = '"' ∨ q = '\'') : (plainRegex q).Matches text i j ↔
    ∃ s, Spells text s i j ∧ ∀ c ∈ s, c ≠ q ∧ c ≠ '\\' := by
  have member (c : Char) : (besides q '\\').contains c = true ↔ c ≠ q ∧ c ≠ '\\' := by
    rcases quote with rfl | rfl <;> exact contains_besides (by decide) (by decide)
  simp only [plainRegex, matches_rounds, chain_set, member]
  constructor
  · rintro ⟨n, -, s, -, spelled, all⟩
    exact ⟨s, spelled, all⟩
  · rintro ⟨s, spelled, all⟩
    exact ⟨s.length, ⟨Nat.zero_le _, by simp⟩, s, rfl, spelled, all⟩

/-- A backslash, the character behind it and what needs no backslash. -/
theorem matches_escape (quote : q = '"' ∨ q = '\'') :
    (Regex.group n (.cat (.literal ['\\']) (.cat (.set false unbroken) (plainRegex q)))).Matches
      text i j ↔
    ∃ c s, c ≠ '\n' ∧ Spells text ('\\' :: c :: s) i j ∧ ∀ c ∈ s, c ≠ q ∧ c ≠ '\\' := by
  simp only [matches_group, matches_cat, matches_literal, matches_set, contains_unbroken,
    matches_plain quote, spells_single]
  constructor
  · rintro ⟨k, ⟨first, rfl⟩, l, ⟨⟨c, second, unbroken⟩, rfl⟩, s, rest, all⟩
    exact ⟨c, s, unbroken, ⟨first, second, rest⟩, all⟩
  · rintro ⟨c, s, unbroken, ⟨first, second, rest⟩, all⟩
    exact ⟨i + 1, ⟨first, rfl⟩, i + 2, ⟨⟨c, second, unbroken⟩, rfl⟩, s, rest, all⟩

theorem matches_body (quote : q = '"' ∨ q = '\'') : (bodyRegex q n).Matches text i j ↔
    ∃ s, Spells text s i j ∧ QuoteBody q s := by
  simp only [bodyRegex, matches_cat, matches_plain quote, matches_rounds]
  constructor
  · rintro ⟨k, ⟨s, spelled, all⟩, m, -, escapes⟩
    have rest : ∃ t, Spells text t k j ∧ QuoteBody q t := by
      clear spelled
      induction m generalizing k with
      | zero => exact ⟨[], escapes, .nil⟩
      | succ m ih =>
        obtain ⟨l, first, others⟩ := escapes
        obtain ⟨c, u, unbroken, spelled, plain⟩ := (matches_escape quote).mp first
        obtain ⟨t, spelled', body⟩ := ih l others
        exact ⟨'\\' :: c :: u ++ t, spells_append.mpr ⟨l, spelled, spelled'⟩,
          .escape unbroken ((QuoteBody.of_plain plain).append body)⟩
    obtain ⟨t, spelled', body⟩ := rest
    exact ⟨s ++ t, spells_append.mpr ⟨k, spelled, spelled'⟩, (QuoteBody.of_plain all).append body⟩
  · rintro ⟨s, spelled, body⟩
    induction body generalizing i with
    | nil => exact ⟨i, ⟨[], rfl, by simp⟩, 0, ⟨Nat.zero_le _, by simp⟩, spelled⟩
    | @plain c rest other unescaped _ ih =>
      obtain ⟨k, ⟨s, first, all⟩, escapes⟩ := ih spelled.2
      exact ⟨k, ⟨c :: s, ⟨spelled.1, first⟩, List.forall_mem_cons.mpr ⟨⟨other, unescaped⟩, all⟩⟩,
        escapes⟩
    | @escape c rest unbroken _ ih =>
      obtain ⟨k, ⟨s, first, all⟩, m, -, escapes⟩ := ih spelled.2.2
      refine ⟨i, ⟨[], rfl, by simp⟩, m + 1, ⟨Nat.zero_le _, by simp⟩, k, ?_, escapes⟩
      exact (matches_escape quote).mpr ⟨c, s, unbroken, ⟨spelled.1, spelled.2.1, first⟩, all⟩

theorem matches_quoted (quote : q = '"' ∨ q = '\'') : (quotedRegex q n).Matches text i j ↔
    ∃ body, QuoteBody q body ∧ Spells text (q :: (body ++ [q])) i j := by
  simp only [quotedRegex, matches_cat, matches_group, matches_literal, matches_body quote, Spells,
    spells_append]
  constructor
  · rintro ⟨k, ⟨first, rfl⟩, l, ⟨body, inside, allowed⟩, last⟩
    exact ⟨body, allowed, first, l, inside, last⟩
  · rintro ⟨body, allowed, first, l, inside, last⟩
    exact ⟨i + 1, ⟨first, rfl⟩, l, ⟨body, inside, allowed⟩, last⟩

/-- The expression of a string is that of either quote, between the ends of the text. -/
theorem stringRegex_eq : stringRegex = ((quotedRegex '"' 2).alt (quotedRegex '\'' 4)).lone := rfl

theorem matches_string {text : List Char} (within : i ≤ text.length) :
    stringRegex.Matches text.toArray i j ↔
      i = 0 ∧ j = text.length ∧ ∃ q body, Quoted q body text := by
  have whole (s : List Char) : Spells text.toArray s 0 text.length ↔ text = s :=
    @spells_rest_iff [] s text
  rw [stringRegex_eq, @matches_lone text.toArray _ _ _ within, List.size_toArray, matches_alt,
    matches_quoted (.inl rfl), matches_quoted (.inr rfl)]
  simp only [whole]
  refine and_congr_right fun _ => and_congr_right fun _ => ⟨?_, ?_⟩
  · rintro (⟨body, allowed, rfl⟩ | ⟨body, allowed, rfl⟩)
    · exact ⟨'"', body, .intro (.inl rfl) allowed⟩
    · exact ⟨'\'', body, .intro (.inr rfl) allowed⟩
  · rintro ⟨q, body, ⟨rfl | rfl, allowed⟩⟩
    · exact .inl ⟨body, allowed, rfl⟩
    · exact .inr ⟨body, allowed, rfl⟩

theorem numbered_quoted : (quotedRegex q n).Numbered n (n + 2) := by
  simp [quotedRegex, bodyRegex, plainRegex, Numbered, Obeys]

/-- The group that is numbered first is the body. -/
theorem lookup_quoted {ms : Marks} (h : (quotedRegex q n).Run text i j ms) :
    ms.lookup (.opened n) = some (i + 1) ∧ ms.lookup (.closed n) = some (j - 1) := by
  obtain ⟨k, _, _, ⟨⟨-, rfl⟩, rfl⟩, ⟨l, _, _, ⟨ns, inside, rfl⟩, ⟨⟨-, rfl⟩, rfl⟩, rfl⟩, rfl⟩ := h
  have numbered : (bodyRegex q (n + 1)).Numbered (n + 1) (n + 2) := by
    simp [bodyRegex, plainRegex, Numbered, Obeys]
  have unmarked : ns.lookup (.opened n) = none :=
    Pattern.lookup_eq_none (numbered.within inside) (.inl (Nat.lt_succ_self n))
  have apart : (Mark.opened n == Mark.closed n) = false := rfl
  simp [List.lookup_cons, List.lookup_append, unmarked, apart]

/-- A run passes through one of the quoted strings, which leaves the marks of the bodies. -/
theorem run_string {ms : Marks} (within : i ≤ text.size)
    (h : (Regex.group 0 stringRegex).Run text i j ms) :
    ∃ ns, ((quotedRegex '"' 2).alt (quotedRegex '\'' 4)).Run text 0 text.size ns ∧
      ∀ mark : Mark, 2 ≤ mark.number → ms.lookup mark = ns.lookup mark := by
  rw [stringRegex_eq] at h
  obtain ⟨ns, taken, rfl⟩ := run_lone within h
  refine ⟨ns, taken, fun mark number => ?_⟩
  have apart (other : Mark) (low : other.number < 2) : (mark == other) = false := by
    rw [beq_eq_false_iff_ne]
    rintro rfl
    omega
  simp [List.lookup_cons, List.lookup_append, apart (.closed 0) (by decide),
    apart (.closed 1) (by decide), apart (.opened 0) (by decide), apart (.opened 1) (by decide)]

/-- One of the bodies took part, and is all that stands between the quotes. -/
theorem span?_string {ms : Marks} (within : i ≤ text.size)
    (h : (Regex.group 0 stringRegex).Run text i j ms) :
    (Captures.span? ⟨ms⟩ 2 = some (1, text.size - 1) ∧ Captures.span? ⟨ms⟩ 4 = none) ∨
      Captures.span? ⟨ms⟩ 2 = none ∧ Captures.span? ⟨ms⟩ 4 = some (1, text.size - 1) := by
  obtain ⟨ns, taken, lookup⟩ := run_string within h
  have same (k : Nat) (number : 2 ≤ k) : Captures.span? ⟨ms⟩ k = Captures.span? ⟨ns⟩ k := by
    simp only [Captures.span?, lookup (.opened k) number, lookup (.closed k) number]
  have outside {n k : Nat} {q : Char} (run : (quotedRegex q n).Run text 0 text.size ns)
      (other : k < n ∨ n + 2 ≤ k) : Captures.span? ⟨ns⟩ k = none := by
    have none := Pattern.lookup_eq_none (m := .opened k) (numbered_quoted.within run) other
    simp only [Captures.span?, none]
  rw [same 2 (by decide), same 4 (by decide)]
  rcases taken with run | run
  · obtain ⟨opened, closed⟩ := lookup_quoted run
    exact .inl ⟨by simp only [Captures.span?, opened, closed], outside run (.inr (by decide))⟩
  · obtain ⟨opened, closed⟩ := lookup_quoted run
    exact .inr ⟨outside run (.inl (by decide)), by simp only [Captures.span?, opened, closed]⟩

/-! ## Templates -/

open Template

/-- The groups of the pattern: the bodies with what is escaped in them. -/
def stringGroups : GroupTree :=
  .node [] [.node Builtin.stringRegexp.toList
    [.node "[^\"\\\\]*(\\\\.[^\"\\\\]*)*".toList [.node "\\\\.[^\"\\\\]*".toList []],
      .node "[^'\\\\]*(\\\\.[^'\\\\]*)*".toList [.node "\\\\.[^'\\\\]*".toList []]]]

def stringPattern : List Char := "^(".toList ++ Builtin.stringRegexp.toList ++ ")$".toList

theorem ofPattern_string : GroupTree.ofPattern stringPattern = stringGroups := by
  cbv

theorem compile?_string : ∃ m, Matcher.compile? stringPattern = some m ∧
    m.program = stringRegex.program ∧ m.groups = stringGroups := by
  have known : (Pattern.parse? (narrowDigits stringPattern)).bind Pattern.regex? =
      some stringRegex := by cbv
  have small : stringRegex.isWithinLimit = true :=
    isWithinLimit_of_cost fun d => by cases d <;> decide +kernel
  exact ofPattern_string ▸ Matcher.compile?_of_regex? known small

theorem create_string : ∃ e, TemplateExpression.create .initial "{string}".toList = .ok e ∧
    e.types = [Builtin.string] ∧ e.matcher.program = stringRegex.program ∧
    e.matcher.groups = stringGroups := by
  obtain ⟨m, compiled, program, groups⟩ := compile?_string
  have known : Builtin.string ∈ Registry.initial.types :=
    Registry.types_initial ▸ by simp [Builtin.types]
  obtain ⟨root, made⟩ := TemplateExpression.create_parameter .initial known compiled
  exact ⟨_, made, rfl, program, groups⟩

/-- The groups that are filled in for one quoted string. -/
theorem fill_string (slice : Nat → Option Slice) :
    ∃ g, (stringGroups.fill slice 0).1.children = [g] ∧
      g.values = [(slice 2).map Slice.text, (slice 4).map Slice.text] := by
  obtain ⟨a, b, c, d, f, same⟩ : ∃ a b c d f : List Char, stringGroups =
      .node [] [.node a [.node b [.node c []], .node d [.node f []]]] := ⟨_, _, _, _, _, rfl⟩
  rw [same]
  exact ⟨_, rfl, rfl⟩

theorem text_sliceOf_quoted {text : List Char} (quoted : Quoted q body text) :
    (sliceOf text 1 (text.length - 1)).text = String.ofList body := by
  cases quoted with
  | intro => simp [sliceOf]

/-- A match has one group. What is captured in it is the body, by one of the two groups inside. -/
theorem match?_string {m : Matcher} {text : List Char} (program : m.program = stringRegex.program)
    (groups : m.groups = stringGroups) (quoted : Quoted q body text) :
    ∃ root g, m.match? text = some root ∧ root.children = [g] ∧
      (g.values = [some (String.ofList body), none] ∨
        g.values = [none, some (String.ofList body)]) := by
  have found : (m.program.search text.toArray).isSome = true := by
    rw [program, program_search_isSome_iff]
    exact ⟨0, text.length, Nat.zero_le _,
      (matches_string (Nat.zero_le _)).mpr ⟨rfl, rfl, q, body, quoted⟩⟩
  obtain ⟨c, searched⟩ := Option.isSome_iff_exists.mp found
  obtain ⟨i, j, within, run⟩ := program_search_run (program ▸ searched)
  have whole : (sliceAt c.span? text 2).map Slice.text = some (String.ofList body) ∧
        (sliceAt c.span? text 4).map Slice.text = none ∨
      (sliceAt c.span? text 2).map Slice.text = none ∧
        (sliceAt c.span? text 4).map Slice.text = some (String.ofList body) := by
    have cut := text_sliceOf_quoted quoted
    rcases span?_string within run with ⟨first, second⟩ | ⟨first, second⟩
    · exact .inl ⟨by simp [sliceAt, first, cut], by simp [sliceAt, second]⟩
    · exact .inr ⟨by simp [sliceAt, first], by simp [sliceAt, second, cut]⟩
  obtain ⟨g, children, values⟩ := fill_string (sliceAt c.span? text)
  refine ⟨_, g, by rw [match?_eq, searched, Option.map_some, groups], children, ?_⟩
  rw [values]
  rcases whole with ⟨first, second⟩ | ⟨first, second⟩
  · exact .inl (by rw [first, second])
  · exact .inr (by rw [first, second])

namespace TemplateExpression

/-- The argument for a quoted string is the body without the escapes of quotes, the double quotes
first. -/
theorem value_string {e : TemplateExpression} {text : List Char} (types : e.types = [Builtin.string])
    (program : e.matcher.program = stringRegex.program) (groups : e.matcher.groups = stringGroups)
    (quoted : Quoted q body text) (limit : Nat) (hints : List String) (log : CallLog) :
    ∃ a, (Expression.template e).arguments limit text hints = .ok (some [a]) ∧
      (a.value log).1 =
        .ok (.string (String.ofList (unescapeQuotes '\'' (unescapeQuotes '"' body)))) := by
  obtain ⟨root, g, matched, children, values⟩ := match?_string program groups quoted
  refine ⟨⟨g, Builtin.string, none, none⟩, ?_, ?_⟩
  · simp [Expression.arguments, Matcher.arguments, matched, children, types, Argument.pair,
      Builtin.string]
  · rcases values with values | values
    all_goals
      simp [Argument.value, Argument.compute, Builtin.string, values, Transformer.apply, unquote]

/-- A template of one quoted string matches what is quoted, and its value is the body without the
escapes of quotes. So a text without backslashes is read back when it is quoted and its quotes are
escaped. -/
theorem arguments_string : ∃ e, create .initial "{string}".toList = .ok e ∧
    (∀ text, (e.matcher.match? text).isSome = true ↔ ∃ q body, Quoted q body text) ∧
    (∀ text q body, Quoted q body text → ∀ limit hints log, ∃ a half whole,
      (Expression.template e).arguments limit text hints = .ok (some [a]) ∧
      Replaced '"' body half ∧ Replaced '\'' half whole ∧
      (a.value log).1 = .ok (.string (String.ofList whole))) ∧
    ∀ q s, q = '"' ∨ q = '\'' → '\\' ∉ s → ∀ limit hints log, ∃ a,
      (Expression.template e).arguments limit (q :: (escapeQuotes q s ++ [q])) hints =
        .ok (some [a]) ∧
      (a.value log).1 = .ok (.string (String.ofList s)) := by
  obtain ⟨e, made, types, program, groups⟩ := create_string
  refine ⟨e, made, fun text => ?_, fun text q body quoted limit hints log => ?_,
    fun q s quote plain limit hints log => ?_⟩
  · rw [Matcher.match?, Option.isSome_map, program, program_search_isSome_iff]
    constructor
    · rintro ⟨i, j, within, taken⟩
      exact ((matches_string within).mp taken).2.2
    · intro quoted
      exact ⟨0, text.length, Nat.zero_le _, (matches_string (Nat.zero_le _)).mpr ⟨rfl, rfl, quoted⟩⟩
  · obtain ⟨a, found, value⟩ := value_string types program groups quoted limit hints log
    exact ⟨a, _, _, found, replaced_unescapeQuotes, replaced_unescapeQuotes, value⟩
  · have quoted : Quoted q (escapeQuotes q s) (q :: (escapeQuotes q s ++ [q])) :=
      .intro quote (.escapeQuotes quote plain)
    obtain ⟨a, found, value⟩ := value_string types program groups quoted limit hints log
    have back : unescapeQuotes '\'' (unescapeQuotes '"' (escapeQuotes q s)) = s := by
      rcases quote with rfl | rfl
      · rw [unescapeQuotes_escapeQuotes plain, unescapeQuotes_of_plain plain]
      · rw [unescapeQuotes_escapeQuotes_of_ne (by decide) (by decide) plain,
          unescapeQuotes_escapeQuotes plain]
    exact ⟨a, found, by rw [value, back]⟩

end TemplateExpression

end StepExpr
