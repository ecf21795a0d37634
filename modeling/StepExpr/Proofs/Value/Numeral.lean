import Mathlib.Data.List.Induction
import Mathlib.Data.Nat.Digits.Defs
import StepExpr.Proofs.Regex.Reading
import StepExpr.Value.Convert

/-!
# Numbers in decimal text

What the readers of numbers make of a text with a sign, digits and a point, of any length.

* `Sign`, `WritesInteger` and `WritesDecimal` say which number a text denotes, without any reader;
* `IntRange.read_of_writes` and `readUnbounded_of_writes` read integers;
* `Decimal.read_of_writes` reads decimal numbers, and `FloatFormat.isSome_read?` says that floating
  point has a number for each of them.
-/

namespace StepExpr

/-! ## What texts denote -/

inductive Sign where
  | none
  | plus
  | minus
  deriving DecidableEq

namespace Sign

def chars : Sign → List Char
  | none => []
  | plus => ['+']
  | minus => ['-']

def apply : Sign → Nat → Int
  | none, n => n
  | plus, n => n
  | minus, n => -n

@[simp] theorem apply_none (n : Nat) : none.apply n = n := rfl

@[simp] theorem apply_plus (n : Nat) : plus.apply n = n := rfl

@[simp] theorem apply_minus (n : Nat) : minus.apply n = -n := rfl

end Sign

def IsDigits (ds : List Char) : Prop := ∀ c ∈ ds, c.isDigit = true

/-- The number that digits denote, where the last of them counts units. -/
def numberOf (ds : List Char) : Nat := Nat.ofDigits 10 (ds.map digitValue).reverse

/-- An integer is a minus or nothing, and one digit at least. -/
inductive WritesInteger : List Char → Int → Prop where
  | intro {s : Sign} {ds : List Char} : s ≠ .plus → ds ≠ [] → IsDigits ds →
    WritesInteger (s.chars ++ ds) (s.apply (numberOf ds))

/-- A decimal number is a sign or nothing, any digits, a point or nothing, and one digit at least.
The digits behind the point are the scale. -/
inductive WritesDecimal : List Char → Decimal → Prop where
  | bare {s : Sign} {ds : List Char} : ds ≠ [] → IsDigits ds →
    WritesDecimal (s.chars ++ ds) ⟨s.apply (numberOf ds), 0⟩
  | point {s : Sign} {whole places : List Char} : IsDigits whole → places ≠ [] → IsDigits places →
    WritesDecimal (s.chars ++ whole ++ '.' :: places)
      ⟨s.apply (numberOf (whole ++ places)), places.length⟩

variable {ds whole places : List Char}

/-! ## Digits -/

theorem numberOf_concat (ds : List Char) (c : Char) :
    numberOf (ds ++ [c]) = 10 * numberOf ds + digitValue c := by
  simp [numberOf, Nat.ofDigits_cons, Nat.add_comm]

theorem ofDigits_eq_numberOf (ds : List Char) : ofDigits ds = numberOf ds := by
  induction ds using List.reverseRecOn with
  | nil => rfl
  | append_singleton ds c ih =>
    rw [numberOf_concat, ← ih]
    simp [ofDigits]

theorem not_isDigit {c : Char} (h : c ∈ ['+', '-', '.', '_', 'e', 'E']) : c.isDigit = false := by
  revert h
  simp only [List.mem_cons, List.not_mem_nil, or_false]
  rintro (rfl | rfl | rfl | rfl | rfl | rfl) <;> rfl

theorem IsDigits.ne {c d : Char} (h : IsDigits ds) (hc : c ∈ ds)
    (hd : d ∈ ['+', '-', '.', '_', 'e', 'E']) : c ≠ d := by
  rintro rfl
  have digit := h c hc
  rw [not_isDigit hd] at digit
  cases digit

theorem IsDigits.append (h : IsDigits ds) (g : IsDigits places) : IsDigits (ds ++ places) :=
  List.forall_mem_append.mpr ⟨h, g⟩

/-! ## Integers -/

theorem readUnboundedMagnitude_digits (some : ds ≠ []) (digits : IsDigits ds) :
    readUnboundedMagnitude ds = .ok (numberOf ds) := by
  have all : (ds.all fun c => c.isDigit || c = '_') = true := by
    simp only [List.all_eq_true, Bool.or_eq_true]
    exact fun c hc => .inl (digits c hc)
  have kept : ds.filter (· != '_') = ds := by
    refine List.filter_eq_self.mpr fun c hc => ?_
    simpa using digits.ne hc (by simp)
  unfold readUnboundedMagnitude
  split
  · exact absurd rfl some
  · exact absurd rfl (digits.ne List.mem_cons_self (by simp))
  · rw [if_pos all, kept, ofDigits_eq_numberOf]

/-- An integer of any length is read with any sign. -/
theorem readUnbounded_signed (s : Sign) (some : ds ≠ []) (digits : IsDigits ds) :
    readUnbounded (s.chars ++ ds) = .ok (s.apply (numberOf ds)) := by
  have magnitude := readUnboundedMagnitude_digits some digits
  obtain ⟨c, ds, rfl⟩ := List.exists_cons_of_ne_nil some
  have notPlus : c ≠ '+' := digits.ne List.mem_cons_self (by simp)
  have notMinus : c ≠ '-' := digits.ne List.mem_cons_self (by simp)
  cases s with
  | none => simp [Sign.chars, readUnbounded, dropPlus, notPlus, notMinus, magnitude, Except.map]
  | plus => simp [Sign.chars, readUnbounded, dropPlus, notPlus, magnitude, Except.map]
  | minus => simp [Sign.chars, readUnbounded, notPlus, magnitude, Except.map]

theorem readUnbounded_of_writes {text : List Char} {n : Int} (h : WritesInteger text n) :
    readUnbounded text = .ok n := by
  cases h with
  | @intro s _ _ some digits => exact readUnbounded_signed s some digits

/-- One digit more does not make a number smaller. -/
theorem le_foldl_digits (ds : List Char) (value : Nat) :
    value ≤ ds.foldl (fun value c => 10 * value + digitValue c) value := by
  induction ds generalizing value with
  | nil => exact Nat.le_refl value
  | cons c ds ih =>
    rw [List.foldl_cons]
    exact Nat.le_trans (by omega) (ih (10 * value + digitValue c))

namespace IntRange

theorem readMagnitude_from {limit value : Nat} {overflow : IntegerError} (digits : IsDigits ds)
    (small : value ≤ limit) : readMagnitude limit overflow value ds =
      let whole := ds.foldl (fun value c => 10 * value + digitValue c) value
      if whole ≤ limit then .ok whole else .error overflow := by
  induction ds generalizing value with
  | nil => simp [readMagnitude, small]
  | cons c ds ih =>
    obtain ⟨first, others⟩ := List.forall_mem_cons.mp digits
    rw [readMagnitude, if_pos first, List.foldl_cons]
    by_cases small : 10 * value + digitValue c ≤ limit
    · rw [if_pos small, ih others small]
    · have grows := le_foldl_digits ds (10 * value + digitValue c)
      rw [if_neg small]
      exact (if_neg (by omega)).symm

/-- Digits are read as their number, unless it exceeds the limit. -/
theorem readMagnitude_digits {limit : Nat} {overflow : IntegerError} (digits : IsDigits ds) :
    readMagnitude limit overflow 0 ds =
      if numberOf ds ≤ limit then .ok (numberOf ds) else .error overflow := by
  rw [readMagnitude_from digits (Nat.zero_le limit), ← ofDigits_eq_numberOf]
  rfl

/-- An integer is read with any sign, unless it is beyond an end of the range. -/
theorem read_signed {r : IntRange} (negative : r.least < 0) (positive : 0 ≤ r.greatest) {s : Sign}
    (some : ds ≠ []) (digits : IsDigits ds) {n : Int} (value : s.apply (numberOf ds) = n) :
    r.read (s.chars ++ ds) =
      if n < r.least then .error .tooSmall else if r.greatest < n then .error .tooLarge
      else .ok n := by
  have magnitude (limit : Nat) (overflow : IntegerError) :=
    @readMagnitude_digits _ limit overflow digits
  obtain ⟨c, ds, rfl⟩ := List.exists_cons_of_ne_nil some
  have notPlus : c ≠ '+' := digits.ne List.mem_cons_self (by simp)
  have notMinus : c ≠ '-' := digits.ne List.mem_cons_self (by simp)
  have unsigned (same : (numberOf (c :: ds) : Int) = n) :
      (readMagnitude r.greatest.toNat .tooLarge 0 (c :: ds)).map Int.ofNat =
        if n < r.least then .error .tooSmall else if r.greatest < n then .error .tooLarge
        else .ok n := by
    subst same
    have low : ¬ (numberOf (c :: ds) : Int) < r.least := by omega
    rw [magnitude, if_neg low]
    by_cases small : numberOf (c :: ds) ≤ r.greatest.toNat
    · rw [if_pos small, if_neg (by omega)]
      rfl
    · rw [if_neg small, if_pos (by omega)]
      rfl
  cases s with
  | none =>
    rw [← unsigned value]
    simp [Sign.chars, IntRange.read, notPlus, notMinus]
  | plus =>
    rw [← unsigned value]
    simp [Sign.chars, IntRange.read]
  | minus =>
    rw [Sign.apply_minus] at value
    subst value
    have high : ¬ r.greatest < -(numberOf (c :: ds) : Int) := by omega
    rw [if_neg high]
    by_cases small : numberOf (c :: ds) ≤ (-r.least).toNat
    · rw [if_neg (by omega)]
      simp [Sign.chars, IntRange.read, negative, magnitude, small, Except.map]
    · rw [if_pos (by omega)]
      simp [Sign.chars, IntRange.read, negative, magnitude, small, Except.map]

theorem read_of_writes {r : IntRange} (negative : r.least < 0) (positive : 0 ≤ r.greatest)
    {text : List Char} {n : Int} (h : WritesInteger text n) :
    r.read text = if n < r.least then .error .tooSmall else if r.greatest < n then .error .tooLarge
      else .ok n := by
  cases h with
  | intro _ some digits => exact read_signed negative positive some digits rfl

end IntRange

/-! ## Decimal numbers -/

variable {p : Char → Bool} {front : List Char} {d : Char}

theorem span_all (all : ∀ c ∈ front, p c = true) : front.span p = (front, []) := by
  rw [List.span_eq_takeWhile_dropWhile, List.takeWhile_eq_self_iff.mpr all,
    List.dropWhile_eq_nil_iff.mpr all]

theorem Sign.mem_chars {s : Sign} {c : Char} (h : c ∈ s.chars) : c = '+' ∨ c = '-' := by
  cases s with
  | none => cases h
  | plus => exact .inl (List.mem_singleton.mp h)
  | minus => exact .inr (List.mem_singleton.mp h)

theorem IsDigits.ne_of_signed {s : Sign} {c : Char} (digits : IsDigits ds) (hc : c ∈ s.chars ++ ds)
    (hd : d ∈ ['.', 'e', 'E']) : c ≠ d := by
  rcases List.mem_append.mp hc with hc | hc
  · rintro rfl
    rcases Sign.mem_chars hc with rfl | rfl
    all_goals simp at hd
  · exact digits.ne hc (by simp at hd ⊢; tauto)

namespace Decimal

theorem splitPoint_bare (s : Sign) (digits : IsDigits ds) :
    splitPoint (s.chars ++ ds) = (s.chars ++ ds, 0) := by
  have before : ∀ c ∈ s.chars ++ ds, (c != '.') = true := by
    intro c hc
    simpa using digits.ne_of_signed hc (by simp)
  unfold splitPoint
  rw [span_all before]

theorem splitPoint_point (s : Sign) (digits : IsDigits whole) (behind : IsDigits places) :
    splitPoint (s.chars ++ whole ++ '.' :: places) =
      (s.chars ++ (whole ++ places), places.length) := by
  have before : ∀ c ∈ s.chars ++ whole, (c != '.') = true := by
    intro c hc
    simpa using digits.ne_of_signed hc (by simp)
  have kept : places.filter (· != '_') = places := by
    refine List.filter_eq_self.mpr fun c hc => ?_
    simpa using behind.ne hc (by simp)
  unfold splitPoint
  rw [Pattern.span_stop before (by rfl)]
  simp only [kept, List.append_assoc]

/-- A text without an exponent is read as its digits, with the number of places for a scale. -/
theorem read_plain {text digits : List Char} {count : Nat} {n : Int} (some : text ≠ [])
    (plain : ∀ c ∈ text, (c != 'e' && c != 'E') = true) (split : splitPoint text = (digits, count))
    (known : readUnbounded digits = .ok n) (small : count ≤ 9223372036854775807) :
    read text = .ok ⟨n, count⟩ := by
  have least : ¬ (count : Int) < scaleRange.least := by
    have negative : scaleRange.least ≤ 0 := by decide
    omega
  have greatest : ¬ scaleRange.greatest < (count : Int) := by
    have value : scaleRange.greatest = 9223372036854775807 := by decide
    omega
  have filled : text.isEmpty = false := by simpa using some
  unfold read
  simp only [span_all plain, split, known, pure, Except.pure, bind, Except.bind, Int.sub_zero,
    filled, least, greatest, Except.mapError, or_self, if_false, Bool.false_eq_true]

/-- A text is the number it denotes, with the scale it is written with, unless it has more digits
behind the point than 64 bits count. -/
theorem read_of_writes {text : List Char} {d : Decimal} (h : WritesDecimal text d)
    (short : text.length ≤ 9223372036854775807) : read text = .ok d := by
  have unmarked {c : Char} (e : c ≠ 'e') (E : c ≠ 'E') : (c != 'e' && c != 'E') = true := by
    simp [e, E]
  cases h with
  | @bare s ds some digits =>
    refine read_plain (by simp [some]) (fun c hc => ?_) (splitPoint_bare s digits)
      (readUnbounded_signed s some digits) (Nat.zero_le _)
    exact unmarked (digits.ne_of_signed hc (by simp)) (digits.ne_of_signed hc (by simp))
  | @point s whole places digits some behind =>
    refine read_plain (by simp) (fun c hc => ?_) (splitPoint_point s digits behind)
      (readUnbounded_signed s (by simp [some]) (digits.append behind)) ?_
    · rcases List.mem_append.mp hc with hc | hc
      · exact unmarked (digits.ne_of_signed hc (by simp)) (digits.ne_of_signed hc (by simp))
      · rcases List.mem_cons.mp hc with rfl | hc
        · rfl
        · exact unmarked (behind.ne hc (by simp)) (behind.ne hc (by simp))
    · simp only [List.length_append, List.length_cons] at short
      omega

end Decimal

/-! ## Floating point -/

namespace FloatFormat

theorem readMantissa_bare (some : ds ≠ []) (digits : IsDigits ds) :
    readMantissa ds = .some (ds, 0, []) := by
  unfold readMantissa
  rw [span_all digits]
  simp [some]

theorem readMantissa_point (digits : IsDigits whole) (some : places ≠ [])
    (behind : IsDigits places) :
    readMantissa (whole ++ '.' :: places) = .some (whole ++ places, places.length, []) := by
  unfold readMantissa
  rw [Pattern.span_stop digits (by rfl : Char.isDigit '.' = false)]
  simp only [span_all behind]
  simp [some]

/-- A number begins with neither an `i` nor an `n`, as the words for infinities and NaN do. -/
theorem toLower_ne {c d : Char} (h : c.isDigit = true ∨ c = '.') (hd : d = 'i' ∨ d = 'n') :
    c.toLower ≠ d := by
  have small : c.toNat ≤ 57 := by
    rcases h with digit | rfl
    · simp only [Char.isDigit, Bool.and_eq_true, decide_eq_true_eq, UInt32.le_iff_toNat_le] at digit
      exact digit.2
    · decide
  have same : c.toLower = c := by
    refine dif_neg fun upper => ?_
    have high : 65 ≤ c.toNat := upper.1
    omega
  rw [same]
  rintro rfl
  rcases hd with rfl | rfl
  all_goals simp at small

theorem isSome_readUnsigned (f : FloatFormat) {c : Char} {text digits : List Char} {count : Nat}
    (start : c.isDigit = true ∨ c = '.')
    (mantissa : readMantissa (c :: text) = some (digits, count, [])) :
    (f.readUnsigned (c :: text)).isSome = true := by
  have i := toLower_ne start (.inl rfl)
  have n := toLower_ne start (.inr rfl)
  unfold readUnsigned
  simp [i, n, mantissa, readExponent]

/-- Floating point has a number for every text that denotes a decimal number. -/
theorem isSome_read? (f : FloatFormat) {text : List Char} {d : Decimal} (h : WritesDecimal text d) :
    (f.read? text).isSome = true := by
  obtain ⟨s, c, rest, digits, count, start, mantissa, rfl⟩ : ∃ s : Sign, ∃ c rest digits count,
      (c.isDigit = true ∨ c = '.') ∧ readMantissa (c :: rest) = some (digits, count, []) ∧
      text = s.chars ++ c :: rest := by
    cases h with
    | @bare s ds filled digits =>
      have mantissa := readMantissa_bare filled digits
      obtain ⟨c, ds, rfl⟩ := List.exists_cons_of_ne_nil filled
      exact ⟨s, c, ds, _, _, .inl (digits c List.mem_cons_self), mantissa, rfl⟩
    | @point s whole places digits filled behind =>
      have mantissa := readMantissa_point digits filled behind
      cases whole with
      | nil => exact ⟨s, '.', places, _, _, .inr rfl, mantissa, by simp⟩
      | cons c whole =>
        exact ⟨s, c, _, _, _, .inl (digits c List.mem_cons_self), mantissa, by simp⟩
  have read := isSome_readUnsigned f start mantissa
  cases s with
  | none =>
    have unsigned {d : Char} (hd : d = '+' ∨ d = '-') : c ≠ d := by
      rintro rfl
      rcases hd with rfl | rfl
      all_goals simp at start
    simp [Sign.chars, FloatFormat.read?, unsigned (.inl rfl), unsigned (.inr rfl), read]
  | plus => simp [Sign.chars, FloatFormat.read?, read]
  | minus => simp [Sign.chars, FloatFormat.read?, read]

end FloatFormat

end StepExpr
