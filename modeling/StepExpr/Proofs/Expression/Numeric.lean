import StepExpr.Proofs.Expression.Literal
import StepExpr.Proofs.Expression.Lone
import StepExpr.Proofs.Regex.Limit
import StepExpr.Proofs.Value.Numeral

/-!
# Numbers

The parameters of numbers match the texts that denote numbers and no other, and the transformer of
each type has a value for all of them, but for integers that are out of its range.

* `matches_integer` and `matches_decimal`: the expressions of the types match what denotes a number;
* `TemplateExpression.arguments_numbers` puts the parts together.
-/

namespace StepExpr

open Template Regex

variable {text : Array Char} {i j : Nat}

/-! ## Expressions -/

def digitSet : CharSet := ⟨[⟨48, 57⟩]⟩

def signSet : CharSet := ⟨[⟨43, 43⟩, ⟨45, 45⟩]⟩

theorem contains_digitSet {c : Char} : digitSet.contains c = true ↔ c.isDigit = true := by
  simp only [CharSet.contains, CharSet.holdsIn, digitSet, List.any_cons, List.any_nil,
    Bool.or_false, Bool.and_eq_true, decide_eq_true_eq, Char.isDigit, UInt32.le_iff_toNat_le]
  rfl

theorem contains_signSet {c : Char} : signSet.contains c = true ↔ c = '+' ∨ c = '-' := by
  have plus : '+'.toNat = 43 := rfl
  have minus : '-'.toNat = 45 := rfl
  simp only [CharSet.contains, CharSet.holdsIn, signSet, List.any_cons, List.any_nil,
    Bool.or_false, Bool.or_eq_true, Bool.and_eq_true, decide_eq_true_eq, ← Char.toNat_inj]
  omega

def digitsRegex (least : Nat) : Regex := .rounds least none true (.set false digitSet)

def integerRegex : Regex :=
  .alt (.cat (.rounds 0 (some 1) true (.literal ['-'])) (digitsRegex 1)) (digitsRegex 1)

def decimalRegex : Regex :=
  .cat (.rounds 0 (some 1) true (.set false signSet))
    (.cat (digitsRegex 0) (.cat (.rounds 0 (some 1) true (.literal ['.'])) (digitsRegex 1)))

theorem matches_digits {least : Nat} : (digitsRegex least).Matches text i j ↔
    ∃ ds, least ≤ ds.length ∧ IsDigits ds ∧ Spells text ds i j := by
  simp only [digitsRegex, matches_rounds, chain_set, contains_digitSet]
  constructor
  · rintro ⟨n, ⟨enough, -⟩, ds, rfl, spelled, all⟩
    exact ⟨ds, enough, all, spelled⟩
  · rintro ⟨ds, enough, all, spelled⟩
    exact ⟨ds.length, ⟨enough, by simp⟩, ds, rfl, spelled, all⟩

/-- An expression that can be left out is tried once at most. -/
theorem matches_optional {r : Regex} {greedy : Bool} :
    (Regex.rounds 0 (some 1) greedy r).Matches text i j ↔ i = j ∨ r.Matches text i j := by
  rw [matches_rounds]
  constructor
  · rintro ⟨n, ⟨-, few⟩, chain⟩
    have few := few 1 rfl
    match n, chain with
    | 0, chain => exact .inl chain
    | 1, ⟨k, taken, same⟩ => exact .inr (same ▸ taken)
    | n + 2, _ => omega
  · rintro (same | taken)
    · exact ⟨0, ⟨Nat.le_refl 0, by simp⟩, same⟩
    · exact ⟨1, ⟨Nat.zero_le 1, by simp⟩, j, taken, rfl⟩

theorem matches_sign : (Regex.rounds 0 (some 1) true (.set false signSet)).Matches text i j ↔
    ∃ s : Sign, Spells text s.chars i j := by
  simp only [matches_optional, matches_set, contains_signSet]
  constructor
  · rintro (same | ⟨⟨c, here, rfl | rfl⟩, next⟩)
    · exact ⟨.none, same⟩
    · exact ⟨.plus, here, next⟩
    · exact ⟨.minus, here, next⟩
  · rintro ⟨s, spelled⟩
    cases s with
    | none => exact .inl spelled
    | plus => exact .inr ⟨⟨'+', spelled.1, .inl rfl⟩, spelled.2⟩
    | minus => exact .inr ⟨⟨'-', spelled.1, .inr rfl⟩, spelled.2⟩

theorem matches_integer : integerRegex.Matches text i j ↔
    ∃ cs n, WritesInteger cs n ∧ Spells text cs i j := by
  simp only [integerRegex, matches_alt, matches_cat, matches_optional, matches_literal,
    matches_digits, List.length_pos_iff, Nat.succ_le_iff]
  constructor
  · rintro (⟨k, rfl | minus, ds, filled, digits, spelled⟩ | ⟨ds, filled, digits, spelled⟩)
    · exact ⟨_, _, .intro (s := .none) (by decide) filled digits, spelled⟩
    · exact ⟨_, _, .intro (s := .minus) (by decide) filled digits,
        spells_append.mpr ⟨k, minus, spelled⟩⟩
    · exact ⟨_, _, .intro (s := .none) (by decide) filled digits, spelled⟩
  · rintro ⟨_, _, @⟨s, ds, unsigned, filled, digits⟩, spelled⟩
    cases s with
    | none => exact .inr ⟨ds, filled, digits, spelled⟩
    | plus => exact absurd rfl unsigned
    | minus =>
      obtain ⟨k, minus, spelled⟩ := spells_append.mp spelled
      exact .inl ⟨k, .inr minus, ds, filled, digits, spelled⟩

theorem matches_decimal : decimalRegex.Matches text i j ↔
    ∃ cs d, WritesDecimal cs d ∧ Spells text cs i j := by
  simp only [decimalRegex, matches_cat, matches_sign]
  simp only [matches_digits, matches_optional, matches_literal, List.length_pos_iff,
    Nat.succ_le_iff]
  constructor
  · rintro ⟨k, ⟨s, signed⟩, l, ⟨whole, -, digits, before⟩, m, rfl | point, places, filled, behind,
      after⟩
    · have writes : WritesDecimal (s.chars ++ (whole ++ places)) _ :=
        .bare (by simp [filled]) (digits.append behind)
      exact ⟨_, _, writes, spells_append.mpr ⟨k, signed, spells_append.mpr ⟨l, before, after⟩⟩⟩
    · obtain ⟨here, rfl⟩ := spells_single.mp point
      refine ⟨_, _, .point (s := s) digits filled behind, ?_⟩
      exact spells_append.mpr ⟨l, spells_append.mpr ⟨k, signed, before⟩, here, after⟩
  · rintro ⟨_, _, @⟨s, ds, filled, digits⟩ | @⟨s, whole, places, digits, filled, behind⟩, spelled⟩
    · obtain ⟨k, signed, spelled⟩ := spells_append.mp spelled
      exact ⟨k, ⟨s, signed⟩, k, ⟨[], Nat.zero_le _, by simp [IsDigits], rfl⟩, k, .inl rfl, ds,
        filled, digits, spelled⟩
    · obtain ⟨l, spelled, here, after⟩ := spells_append.mp spelled
      obtain ⟨k, signed, before⟩ := spells_append.mp spelled
      exact ⟨k, ⟨s, signed⟩, l, ⟨whole, Nat.zero_le _, digits, before⟩, l + 1,
        .inr (spells_single.mpr ⟨here, rfl⟩), places, filled, behind, after⟩

/-! ## Patterns -/

theorem compile?_integer : ∃ m, Matcher.compile? Builtin.integer.lonePattern = some m ∧
    m.program = integerRegex.lone.program ∧
    m.groups = .node [] [.node "(?:-?\\d+)|(?:\\d+)".toList []] := by
  have known : (Pattern.parse? (narrowDigits Builtin.integer.lonePattern)).bind Pattern.regex? =
      some integerRegex.lone := by decide +kernel
  have small : integerRegex.lone.isWithinLimit = true :=
    isWithinLimit_of_cost fun d => by cases d <;> decide +kernel
  exact Matcher.compile?_of_regex? known small

namespace Pattern

def signs : Atom := .bracketed false (.union (.literal '-') (.literal '+'))

def digits (least : Nat) : Pattern :=
  .rounds ⟨least, none⟩ true (.atom (.bracketed false (.range '0' '9')))

/-- The pattern of a decimal number, with its digit classes written out. -/
def decimal : Pattern :=
  .cat (.atom (.anchor .lineStart)) (.cat (.group (.capturing none)
    (.cat (.rounds ⟨0, some 1⟩ true (.atom signs)) (.cat (digits 0)
      (.cat (.rounds ⟨0, some 1⟩ true (.atom (.literal '.' false))) (digits 1)))))
    (.atom (.anchor .lineEnd)))

theorem regex?_signs : signs.regex? .initial = some (.set false signSet) := by
  have inside : CharSet.ofRanges [⟨45, 45⟩, ⟨43, 43⟩] = signSet := by
    simp [CharSet.ofRanges, List.mergeSort, List.MergeSort.Internal.splitInTwo, CharSet.join,
      CharSet.joinFrom, signSet]
  have ranges : (ClassExpr.bracket false (.union (.literal '-') (.literal '+'))).ranges? .initial =
      some (CharSet.ofRanges [⟨45, 45⟩, ⟨43, 43⟩]).ranges := rfl
  rw [signs, Atom.regex?, ClassExpr.charSet?, ranges, inside]
  rfl

theorem regex?_decimal : decimal.regex? = some decimalRegex.lone := by
  have start : Atom.regex? .initial (.anchor .lineStart) = some (.look .textStart) := rfl
  simp only [decimal, regex?, branchesFrom?, start, regex?_signs, Option.map_some,
    Option.bind_eq_bind, Option.bind_some]
  decide +kernel

end Pattern

theorem compile?_decimal : ∃ m, Matcher.compile? Builtin.float.lonePattern = some m ∧
    m.program = decimalRegex.lone.program ∧
    m.groups = .node [] [.node Builtin.floatRegexp.toList []] := by
  have parsed : Pattern.parse? (narrowDigits Builtin.float.lonePattern) = some .decimal := by
    decide +kernel
  have small : decimalRegex.lone.isWithinLimit = true :=
    isWithinLimit_of_cost fun d => by cases d <;> decide +kernel
  refine Matcher.compile?_of_regex? ?_ small
  rw [parsed, Option.bind_some, Pattern.regex?_decimal]

/-! ## Values -/

namespace Kind

variable {cs : List Char} {n : Int} {d : Decimal}

theorem convertText_i32 (h : WritesInteger cs n) :
    (-2147483648 ≤ n ∧ n ≤ 2147483647 →
      (Kind.integer .i32).convertText (String.ofList cs) = .ok (.integer .i32 n)) ∧
    (¬ (-2147483648 ≤ n ∧ n ≤ 2147483647) → ∃ reason,
      (Kind.integer .i32).convertText (String.ofList cs) =
        .error (.parse (String.ofList cs) (.integer .i32) reason)) := by
  have least : IntWidth.i32.range.least = -2147483648 := by decide
  have greatest : IntWidth.i32.range.greatest = 2147483647 := by decide
  have read := IntRange.read_of_writes (r := IntWidth.i32.range) (by omega) (by omega) h
  rw [least, greatest] at read
  simp only [convertText, String.toList_ofList, read]
  constructor
  · rintro ⟨low, high⟩
    rw [if_neg (by omega), if_neg (by omega)]
  · intro outside
    by_cases low : n < -2147483648
    · exact ⟨_, by rw [if_pos low]⟩
    · exact ⟨_, by rw [if_neg low, if_pos (by omega)]⟩

theorem convertText_bigInteger (h : WritesInteger cs n) :
    Kind.bigInteger.convertText (String.ofList cs) = .ok (.bigInteger n) := by
  simp only [convertText, String.toList_ofList, readUnbounded_of_writes h]

theorem convertText_bigDecimal (h : WritesDecimal cs d) (short : cs.length ≤ 9223372036854775807) :
    Kind.bigDecimal.convertText (String.ofList cs) = .ok (.bigDecimal d) := by
  simp only [convertText, String.toList_ofList, Decimal.read_of_writes h short]

theorem convertText_f32 (h : WritesDecimal cs d) :
    ∃ bits, Kind.f32.convertText (String.ofList cs) = .ok (.f32 bits) := by
  obtain ⟨bits, read⟩ := Option.isSome_iff_exists.mp (FloatFormat.single.isSome_read? h)
  exact ⟨bits, by simp only [convertText, String.toList_ofList, read]⟩

theorem convertText_f64 (h : WritesDecimal cs d) :
    ∃ bits, Kind.f64.convertText (String.ofList cs) = .ok (.f64 bits) := by
  obtain ⟨bits, read⟩ := Option.isSome_iff_exists.mp (FloatFormat.double.isSome_read? h)
  exact ⟨bits, by simp only [convertText, String.toList_ofList, read]⟩

end Kind

/-! ## Templates -/

theorem numbered_integer : integerRegex.Numbered 2 2 := by
  simp [integerRegex, digitsRegex, Numbered, Obeys]

theorem numbered_decimal : decimalRegex.Numbered 2 2 := by
  simp [decimalRegex, digitsRegex, Numbered, Obeys]

namespace TemplateExpression

/-- A template that matches the texts that denote something. For each of them it has one argument,
whatever the hints are and whatever ran before, and `holds` tells its value. -/
def Converts {α : Type} (source : List Char) (denotes : List Char → α → Prop)
    (holds : List Char → α → Except TransformError Value → Prop) : Prop :=
  ∃ e, create .initial source = .ok e ∧
    (∀ text, (e.matcher.match? text).isSome = true ↔ ∃ x, denotes text x) ∧
    ∀ text x, denotes text x → ∀ limit hints log, ∃ a,
      (Expression.template e).arguments limit text hints = .ok (some [a]) ∧
      holds text x (a.value log).1

variable {α : Type} {denotes : List Char → α → Prop}
  {holds : List Char → α → Except TransformError Value → Prop} {t : ParameterType} {k : Kind}
  {r : Regex} {m : Matcher} {source : List Char}

theorem converts_lone (ht : t ∈ Builtin.types) (named : t.anonymous = false)
    (transformer : t.transformer = .kind k)
    (compiled : ∃ m, Matcher.compile? t.lonePattern = some m ∧ m.program = r.lone.program ∧
      m.groups = .node [] [.node source []]) (numbered : r.Numbered 2 2)
    (matched : ∀ {text : Array Char} {i j : Nat}, r.Matches text i j ↔
      ∃ cs x, denotes cs x ∧ Spells text cs i j)
    (converts : ∀ {cs x}, denotes cs x → holds cs x (k.convertText (String.ofList cs))) :
    Converts ('\x7b' :: t.name.toList ++ ['\x7d']) denotes holds := by
  obtain ⟨m, compiled, program, groups⟩ := compiled
  obtain ⟨root, made⟩ := create_parameter .initial (Registry.types_initial ▸ ht) compiled
  have whole (text : List Char) :
      r.Matches text.toArray 0 text.length ↔ ∃ x, denotes text x := by
    rw [matched]
    constructor
    · rintro ⟨cs, x, denoted, spelled⟩
      obtain rfl := (@spells_rest_iff [] cs text).mp spelled
      exact ⟨x, denoted⟩
    · rintro ⟨x, denoted⟩
      exact ⟨text, x, denoted, (@spells_rest_iff [] text text).mpr rfl⟩
  refine ⟨_, made, fun text => ?_, fun text x denoted limit hints log => ?_⟩
  · rw [Matcher.isSome_match?_lone program, whole]
  · obtain ⟨a, found, value⟩ := arguments_lone (e := ⟨_, root, m, [t]⟩) rfl named transformer
      program groups numbered ((whole text).mpr ⟨x, denoted⟩) limit hints log
    exact ⟨a, found, value ▸ converts denoted⟩

/-- The parameters of numbers match the texts that denote numbers. What matches has a value of the
kind of the type, but for an integer that 32 bits do not hold. The value is the number that the text
denotes; a text in memory has fewer than 2 ^ 63 characters. -/
theorem arguments_numbers :
    Converts "{int}".toList WritesInteger (fun text n v =>
      (-2147483648 ≤ n ∧ n ≤ 2147483647 → v = .ok (.integer .i32 n)) ∧
      (¬ (-2147483648 ≤ n ∧ n ≤ 2147483647) → ∃ reason,
        v = .error (.parse (String.ofList text) (.integer .i32) reason))) ∧
    Converts "{biginteger}".toList WritesInteger (fun _ n v => v = .ok (.bigInteger n)) ∧
    Converts "{float}".toList WritesDecimal (fun _ _ v => ∃ bits, v = .ok (.f32 bits)) ∧
    Converts "{double}".toList WritesDecimal (fun _ _ v => ∃ bits, v = .ok (.f64 bits)) ∧
    Converts "{bigdecimal}".toList WritesDecimal (fun text d v =>
      text.length ≤ 9223372036854775807 → v = .ok (.bigDecimal d)) := by
  refine ⟨?_, ?_, ?_, ?_, ?_⟩
  · exact converts_lone (t := Builtin.integer) (by simp [Builtin.types]) rfl rfl compile?_integer
      numbered_integer matches_integer Kind.convertText_i32
  · exact converts_lone (t := Builtin.bigInteger) (by simp [Builtin.types]) rfl rfl compile?_integer
      numbered_integer matches_integer Kind.convertText_bigInteger
  · exact converts_lone (t := Builtin.float) (by simp [Builtin.types]) rfl rfl compile?_decimal
      numbered_decimal matches_decimal Kind.convertText_f32
  · exact converts_lone (t := Builtin.double) (by simp [Builtin.types]) rfl rfl compile?_decimal
      numbered_decimal matches_decimal Kind.convertText_f64
  · exact converts_lone (t := Builtin.bigDecimal) (by simp [Builtin.types]) rfl rfl compile?_decimal
      numbered_decimal matches_decimal Kind.convertText_bigDecimal

end TemplateExpression

end StepExpr
