import StepExpr.Proofs.Expression.Numeric
import StepExpr.Proofs.Expression.Quoted
import StepExpr.Proofs.Suggestion.Words

/-!
# The words of the built-in types

Of the types that are always there, suggestions use those of integers, of decimal numbers and of
quoted strings. What they find in a sample is an integer, a decimal number or a quoted string.

* `Finder.hits_iff`: whether a search finds a word can be evaluated;
* `Finder.Hits.integer`, `Finder.Hits.decimal` and `Finder.Hits.quoted`: what each type finds;
* `Finder.Hits.numeric`: without quotes, words have digits, signs and points only;
* `Offers.integer_first`: an integer is offered as such before it is offered as a decimal number;
* `Scans.lone`: a word that has all numeric characters of a sample is the only one.
-/

namespace StepExpr

open Search Regex

variable {text : Array Char} {o start stop : Nat} {t : ParameterType} {cs : List Char} {c : Char}

namespace Suggestion

variable {f : Finder}

/-! ## Evaluation -/

/-- The whole match that a search in the sample from `o` on finds, as positions in the rest. -/
def Finder.rest? (f : Finder) (text : Array Char) (o : Nat) : Option (Nat × Nat) :=
  let rest := text.extract o text.size
  (exploreAround f.program rest (f.program.searchFuel rest) [] (Program.starts rest)).bind
    fun t => Captures.span? ⟨t.marks⟩ 0

theorem Finder.hits_iff : f.Hits text o start stop ↔ o ≤ start ∧ start < stop ∧
    isWhole text start stop = true ∧ f.rest? text o = some (start - o, stop - o) := by
  simp only [Finder.Hits, Finder.rest?, Program.search_eq, Option.map_eq_some_iff,
    Option.bind_eq_some_iff]
  constructor
  · rintro ⟨_, a, b, ⟨t, found, rfl⟩, span, rfl, rfl, filled, whole⟩
    refine ⟨Nat.le_add_right o a, filled, whole, t, found, ?_⟩
    rw [span, Nat.add_sub_cancel_left, Nat.add_sub_cancel_left]
  · rintro ⟨late, filled, whole, t, found, span⟩
    exact ⟨_, _, _, ⟨t, found, rfl⟩, span, by omega, by omega, filled, whole⟩

instance : Decidable (f.Hits text o start stop) := decidable_of_iff' _ f.hits_iff

/-! ## Finders -/

/-- The expression of a regexp that is searched for, which is a group. -/
def searched? (regexp : String) : Option Regex :=
  (Pattern.parse? (narrowDigits ('(' :: regexp.toList ++ [')']))).bind Pattern.regex?

theorem searched?_signed : searched? "-?\\d+" =
    some (.group 1 (.cat (.rounds 0 (some 1) true (.literal ['-'])) (digitsRegex 1))) := by
  decide +kernel

theorem searched?_natural : searched? "\\d+" = some (.group 1 (digitsRegex 1)) := by
  decide +kernel

theorem searched?_decimal :
    searched? Builtin.floatRegexp = some (.group 1 decimalRegex) := by
  cbv

theorem searched?_string : searched? Builtin.stringRegexp =
    some (.group 1 (.alt (quotedRegex '"' 2) (quotedRegex '\'' 4))) := by
  cbv

theorem mem_finders {regexp : String} {r : Regex} (hr : regexp ∈ t.regexps)
    (known : searched? regexp = some r) (small : r.isWithinLimit = true) :
    ⟨t, r.program⟩ ∈ finders t := by
  obtain ⟨p, parsed, meaning⟩ := Option.bind_eq_some_iff.mp known
  have valid : Regex.ofText? (narrowDigits ('(' :: regexp.toList ++ [')'])) = some r :=
    Option.bind_eq_some_iff.mpr ⟨p, parsed, Option.filter_eq_some_iff.mpr ⟨meaning, small⟩⟩
  exact List.mem_filterMap.mpr ⟨regexp, hr, congrArg (Option.map _) valid⟩

def naturalFinder : Finder := ⟨Builtin.integer, (Regex.group 1 (digitsRegex 1)).program⟩

def decimalFinder : Finder := ⟨Builtin.float, (Regex.group 1 decimalRegex).program⟩

theorem mem_finders_natural : naturalFinder ∈ finders Builtin.integer := by
  apply mem_finders (by simp [Builtin.integer, Builtin.integerRegexps]) searched?_natural
  exact isWithinLimit_of_cost fun d => by cases d <;> decide +kernel

theorem mem_finders_decimal : decimalFinder ∈ finders Builtin.float := by
  apply mem_finders (by simp [Builtin.float]) searched?_decimal
  exact isWithinLimit_of_cost fun d => by cases d <;> decide +kernel

/-- What a search finds is spelled as the expressions say. -/
theorem Finder.Hits.spelled {P : List Char → Prop} (hits : f.Hits text o start stop)
    (made : f ∈ finders t) (spells : ∀ regexp ∈ t.regexps, ∃ r, searched? regexp = some r ∧
      ∀ {text : Array Char} {i j : Nat}, r.Matches text i j → ∃ cs, P cs ∧ Spells text cs i j) :
    ∃ cs, P cs ∧ Spells text cs start stop := by
  obtain ⟨regexp, hr, p, r, parsed, meaning, rfl⟩ := exists_regex_of_finder made
  obtain ⟨a, b, rfl, rfl, -, taken⟩ := hits.taken meaning
  obtain ⟨r', known, spells⟩ := spells regexp hr
  have same : searched? regexp = some r := Option.bind_eq_some_iff.mpr ⟨p, parsed, meaning⟩
  obtain rfl := Option.some.inj (same.symm.trans known)
  obtain ⟨cs, holds, spelled⟩ := spells taken
  exact ⟨cs, holds, spelled.shift⟩

/-! ## Words -/

theorem Finder.Hits.integer (hits : f.Hits text o start stop) (made : f ∈ finders Builtin.integer) :
    ∃ cs, (∃ n, WritesInteger cs n) ∧ Spells text cs start stop := by
  have writes {text : Array Char} {i j : Nat} (taken : integerRegex.Matches text i j) :
      ∃ cs, (∃ n, WritesInteger cs n) ∧ Spells text cs i j := by
    obtain ⟨cs, n, writes, spelled⟩ := matches_integer.mp taken
    exact ⟨cs, ⟨n, writes⟩, spelled⟩
  apply hits.spelled made
  intro regexp hr
  rcases List.mem_cons.mp hr with rfl | hr
  · refine ⟨_, searched?_signed, fun taken => ?_⟩
    exact writes (matches_alt.mpr (.inl (matches_group.mp taken)))
  · obtain rfl := List.mem_singleton.mp hr
    refine ⟨_, searched?_natural, fun taken => ?_⟩
    exact writes (matches_alt.mpr (.inr (matches_group.mp taken)))

theorem Finder.Hits.decimal (hits : f.Hits text o start stop) (made : f ∈ finders Builtin.float) :
    ∃ cs, (∃ d, WritesDecimal cs d) ∧ Spells text cs start stop := by
  apply hits.spelled made
  intro regexp hr
  obtain rfl := List.mem_singleton.mp hr
  refine ⟨_, searched?_decimal, fun taken => ?_⟩
  obtain ⟨cs, d, writes, spelled⟩ := matches_decimal.mp (matches_group.mp taken)
  exact ⟨cs, ⟨d, writes⟩, spelled⟩

theorem Finder.Hits.quoted (hits : f.Hits text o start stop) (made : f ∈ finders Builtin.string) :
    ∃ cs, (∃ q body, Quoted q body cs) ∧ Spells text cs start stop := by
  apply hits.spelled made
  intro regexp hr
  obtain rfl := List.mem_singleton.mp hr
  refine ⟨_, searched?_string, fun taken => ?_⟩
  rcases matches_alt.mp (matches_group.mp taken) with double | single
  · obtain ⟨body, allowed, spelled⟩ := (matches_quoted (.inl rfl)).mp double
    exact ⟨_, ⟨_, body, .intro (.inl rfl) allowed⟩, spelled⟩
  · obtain ⟨body, allowed, spelled⟩ := (matches_quoted (.inr rfl)).mp single
    exact ⟨_, ⟨_, body, .intro (.inr rfl) allowed⟩, spelled⟩

/-! ## Numeric characters -/

/-- Digits, signs and the point. -/
def isNumeric (c : Char) : Bool := c.isDigit || ['+', '-', '.'].contains c

theorem isNumeric_of_isDigit (h : c.isDigit = true) : isNumeric c = true := by
  rw [isNumeric, h, Bool.true_or]

theorem isNumeric_sign {s : Sign} (h : c ∈ s.chars) : isNumeric c = true := by
  cases s with
  | none => cases h
  | plus =>
    obtain rfl := List.mem_singleton.mp h
    rfl
  | minus =>
    obtain rfl := List.mem_singleton.mp h
    rfl

theorem isNumeric_integer {n : Int} (h : WritesInteger cs n) : ∀ c ∈ cs, isNumeric c = true := by
  cases h with
  | intro _ _ digits =>
    intro c hc
    rcases List.mem_append.mp hc with sign | digit
    · exact isNumeric_sign sign
    · exact isNumeric_of_isDigit (digits c digit)

theorem isNumeric_decimal {d : Decimal} (h : WritesDecimal cs d) :
    ∀ c ∈ cs, isNumeric c = true := by
  intro c hc
  cases h with
  | bare _ digits =>
    rcases List.mem_append.mp hc with sign | digit
    · exact isNumeric_sign sign
    · exact isNumeric_of_isDigit (digits c digit)
  | point whole _ places =>
    rcases List.mem_append.mp hc with before | behind
    · rcases List.mem_append.mp before with sign | digit
      · exact isNumeric_sign sign
      · exact isNumeric_of_isDigit (whole c digit)
    · rcases List.mem_cons.mp behind with rfl | digit
      · rfl
      · exact isNumeric_of_isDigit (places c digit)

/-- The types that suggestions use, of those that are always there. -/
theorem snippet_cases (ht : t ∈ Builtin.types) (snippet : t.forSnippets = true) :
    t = Builtin.integer ∨ t = Builtin.float ∨ t = Builtin.string := by
  have used : Builtin.types.filter ParameterType.forSnippets =
      [Builtin.integer, Builtin.float, Builtin.string] := rfl
  have among := List.mem_filter.mpr ⟨ht, snippet⟩
  simpa [used] using among

/-- In a sample without quotes, a word has numeric characters only. -/
theorem Finder.Hits.numeric (hits : f.Hits text o start stop) (ht : t ∈ Builtin.types)
    (snippet : t.forSnippets = true) (made : f ∈ finders t) (double : '"' ∉ text)
    (single : '\'' ∉ text) {k : Nat} (late : start ≤ k) (early : k < stop) :
    (text[k]?).any isNumeric = true := by
  have numeric {cs : List Char} (spelled : Spells text cs start stop)
      (each : ∀ c ∈ cs, isNumeric c = true) : (text[k]?).any isNumeric = true := by
    obtain ⟨c, hc, here⟩ := spelled.getElem? late early
    rw [here]
    exact each c hc
  rcases snippet_cases ht snippet with rfl | rfl | rfl
  · obtain ⟨cs, ⟨n, writes⟩, spelled⟩ := hits.integer made
    exact numeric spelled (isNumeric_integer writes)
  · obtain ⟨cs, ⟨d, writes⟩, spelled⟩ := hits.decimal made
    exact numeric spelled (isNumeric_decimal writes)
  · obtain ⟨_, ⟨q, body, ⟨rfl | rfl, allowed⟩⟩, first, -⟩ := hits.quoted made
    · exact absurd (Array.mem_of_getElem? first) double
    · exact absurd (Array.mem_of_getElem? first) single

/-! ## Offers -/

variable {pos : Nat} {offers : List ParameterType}

theorem Offers.numeric (h : Offers Builtin.types text pos start stop offers) (double : '"' ∉ text)
    (single : '\'' ∉ text) {k : Nat} (late : start ≤ k) (early : k < stop) :
    (text[k]?).any isNumeric = true := by
  obtain ⟨t, offered⟩ := List.exists_mem_of_ne_nil _ h.some
  obtain ⟨ht, snippet, f, made, o, -, hits, -⟩ := (h.mem_iff t).mp offered
  exact hits.numeric ht snippet made double single late early

/-- Of the types that suggestions use, that of integers is the only preferred one. So it comes first
where it is offered. -/
theorem Offers.integer_first (h : Offers Builtin.types text pos start stop offers)
    (offered : Builtin.integer ∈ offers) : ∃ others, offers = Builtin.integer :: others := by
  obtain ⟨found, -, rfl⟩ := h.ordered
  have first : Builtin.integer ∈ found.filter (·.preferred) := by
    rcases List.mem_append.mp offered with first | other
    · exact first
    · cases (List.mem_filter.mp other).2
  cases head : found.filter (·.preferred) with
  | nil =>
    rw [head] at first
    cases first
  | cons t others =>
    have among : t ∈ found.filter (·.preferred) := head ▸ List.mem_cons_self
    have preferred : t.preferred = true := (List.mem_filter.mp among).2
    obtain ⟨ht, snippet, -⟩ := (h.mem_iff t).mp (List.mem_append_left _ among)
    rcases snippet_cases ht snippet with rfl | rfl | rfl
    · exact ⟨_, List.cons_append⟩
    · cases preferred
    · cases preferred

/-! ## Cuts -/

/-- Where all numeric characters are in one word that a finder meets, no other word is cut out. -/
theorem Scans.lone {slots : List Slot} {tail : List Char} (h : Scans Builtin.types text pos slots tail)
    (double : '"' ∉ text) (single : '\'' ∉ text) (ht : t ∈ Builtin.types)
    (snippet : t.forSnippets = true) (made : f ∈ finders t) (meets : f.Meets text pos start stop)
    (only : ∀ k < text.size, (text[k]?).any isNumeric = true → start ≤ k ∧ k < stop) :
    ∃ offers, t ∈ offers ∧ Offers Builtin.types text pos start stop offers ∧
      slots = [⟨(text.extract pos start).toList, (text.extract start stop).toList, offers⟩] ∧
      tail = (text.extract stop text.size).toList := by
  cases h with
  | stop none => exact absurd meets (none t ht snippet f made start stop)
  | @slot _ a b _ _ _ late filled inside _ first offers rest =>
    have behind := first t ht snippet f made start stop meets
    have low := only a (by omega) (offers.numeric double single (Nat.le_refl a) filled)
    have high := only (b - 1) (by omega) (offers.numeric double single (by omega) (by omega))
    obtain ⟨rfl, rfl⟩ : a = start ∧ b = stop := by
      unfold Behind at behind
      omega
    have offered := (offers.mem_iff t).mpr ⟨ht, snippet, f, made, meets⟩
    cases rest with
    | stop => exact ⟨_, offered, offers, rfl, rfl⟩
    | @slot _ c _ _ _ _ later filled' inside' _ _ others _ =>
      have again := only c (by omega) (others.numeric double single (Nat.le_refl c) filled')
      omega

end Suggestion

end StepExpr
