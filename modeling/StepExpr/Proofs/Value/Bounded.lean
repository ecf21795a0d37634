import StepExpr.Proofs.Template.Tokens
import StepExpr.Proofs.Value.Numeral

/-!
# Bounded and unbounded integers

A text without underscores is the same integer for a bounded reader as for the unbounded one, as
long as the range has it.

* `WritesNumeral` is what such texts denote;
* `IntRange.read_eq_ok_iff` and `readUnbounded_eq_ok_iff`: the readers accept these texts, and the
  bounded ones no other;
* `Kind.convert_integer` puts the parts together.
-/

namespace StepExpr

/-- A numeral is a sign or nothing, and one digit at least. -/
inductive WritesNumeral : List Char → Int → Prop where
  | intro {s : Sign} {ds : List Char} : ds ≠ [] → IsDigits ds →
    WritesNumeral (s.chars ++ ds) (s.apply (numberOf ds))

variable {text ds : List Char} {n : Int} {m : Nat}

namespace WritesNumeral

theorem unsigned (filled : ds ≠ []) (digits : IsDigits ds) : WritesNumeral ds (numberOf ds) :=
  .intro (s := .none) filled digits

theorem plus (filled : ds ≠ []) (digits : IsDigits ds) :
    WritesNumeral ('+' :: ds) (numberOf ds) :=
  .intro (s := .plus) filled digits

theorem minus (filled : ds ≠ []) (digits : IsDigits ds) :
    WritesNumeral ('-' :: ds) (-(numberOf ds : Int)) :=
  .intro (s := .minus) filled digits

theorem no_underscore (h : WritesNumeral text n) : '_' ∉ text := by
  obtain ⟨-, digits⟩ := h
  intro there
  rcases List.mem_append.mp there with sign | digit
  · rcases Sign.mem_chars sign with same | same
    all_goals cases same
  · exact digits.ne digit (by simp : '_' ∈ ['+', '-', '.', '_', 'e', 'E']) rfl

end WritesNumeral

/-! ## Readers -/

theorem cast_ok {ε : Type} {x : Except ε Nat} (h : (do let a ← x; pure (a : Int)) = .ok n) :
    ∃ m, x = .ok m ∧ (m : Int) = n := by
  cases x with
  | error => cases h
  | ok m => exact ⟨m, rfl, Except.ok.inj h⟩

theorem IntRange.isDigits_of_readMagnitude {limit value : Nat} {overflow : IntegerError}
    (h : readMagnitude limit overflow value ds = .ok m) : IsDigits ds := by
  induction ds generalizing value with
  | nil => simp [IsDigits]
  | cons c ds ih =>
    rw [readMagnitude] at h
    split at h
    · rename_i digit
      simp only at h
      split at h
      · exact List.forall_mem_cons.mpr ⟨digit, ih h⟩
      · cases h
    · cases h

theorem IntRange.readMagnitude_eq_ok_iff {limit : Nat} {overflow : IntegerError} :
    readMagnitude limit overflow 0 ds = .ok m ↔
      IsDigits ds ∧ numberOf ds ≤ limit ∧ numberOf ds = m := by
  constructor
  · intro h
    have digits := isDigits_of_readMagnitude h
    rw [readMagnitude_digits digits] at h
    split at h
    · rename_i small
      exact ⟨digits, small, Except.ok.inj h⟩
    · cases h
  · rintro ⟨digits, small, rfl⟩
    rw [readMagnitude_digits digits, if_pos small]

theorem readUnboundedMagnitude_eq_ok_iff (plain : '_' ∉ ds) :
    readUnboundedMagnitude ds = .ok m ↔ ds ≠ [] ∧ IsDigits ds ∧ numberOf ds = m := by
  constructor
  · intro h
    have digits : ds ≠ [] ∧ IsDigits ds := by
      unfold readUnboundedMagnitude at h
      split at h
      · cases h
      · cases h
      · rename_i filled _
        refine ⟨filled, fun c hc => ?_⟩
        split at h
        · rename_i all
          have each := List.all_eq_true.mp all c hc
          have other : c ≠ '_' := ne_of_mem_of_not_mem hc plain
          simpa [other] using each
        · cases h
    rw [readUnboundedMagnitude_digits digits.1 digits.2] at h
    exact ⟨digits.1, digits.2, Except.ok.inj h⟩
  · rintro ⟨filled, digits, rfl⟩
    exact readUnboundedMagnitude_digits filled digits

/-- A text without underscores is read if it is a numeral. -/
theorem readUnbounded_eq_ok_iff (plain : '_' ∉ text) :
    readUnbounded text = .ok n ↔ WritesNumeral text n := by
  constructor
  · intro h
    have magnitude {ds : List Char} {m : Nat} (part : ds <:+ text)
        (read : readUnboundedMagnitude ds = .ok m) : ds ≠ [] ∧ IsDigits ds ∧ numberOf ds = m :=
      (readUnboundedMagnitude_eq_ok_iff fun there => plain (part.mem there)).mp read
    unfold readUnbounded at h
    split at h
    · cases h
    · obtain ⟨_, signed, rfl⟩ := Template.map_ok h
      obtain ⟨m, read, rfl⟩ := cast_ok signed
      obtain ⟨filled, digits, rfl⟩ := magnitude (List.suffix_cons ..) read
      exact .minus filled digits
    · obtain ⟨m, read, rfl⟩ := Template.map_ok h
      unfold dropPlus at read
      split at read
      · obtain ⟨-, digits, -⟩ := magnitude (List.suffix_refl _) read
        exact absurd rfl (digits.ne List.mem_cons_self (by simp))
      · obtain ⟨filled, digits, rfl⟩ := magnitude (List.suffix_cons ..) read
        exact .plus filled digits
      · obtain ⟨filled, digits, rfl⟩ := magnitude (List.suffix_refl _) read
        exact .unsigned filled digits
  · rintro ⟨filled, digits⟩
    exact readUnbounded_signed _ filled digits

namespace IntRange

variable {r : IntRange}

/-- A bounded reader accepts the numerals of its range. A reader of a range without negative numbers
does not accept a minus sign either, not even before a zero. -/
theorem read_eq_ok_iff (least : r.least ≤ 0) (greatest : 0 ≤ r.greatest) :
    r.read text = .ok n ↔ WritesNumeral text n ∧ (r.least = 0 → text.head? ≠ some '-') ∧
      r.least ≤ n ∧ n ≤ r.greatest := by
  constructor
  · intro h
    have upwards {ds : List Char}
        (h : (readMagnitude r.greatest.toNat .tooLarge 0 ds).map Int.ofNat = .ok n) :
        IsDigits ds ∧ (numberOf ds : Int) = n ∧ r.least ≤ n ∧ n ≤ r.greatest := by
      obtain ⟨m, read, rfl⟩ := Template.map_ok h
      obtain ⟨each, small, rfl⟩ := readMagnitude_eq_ok_iff.mp read
      exact ⟨each, rfl, by simp; omega, by simp; omega⟩
    unfold read at h
    split at h
    · cases h
    · cases h
    · cases h
    · rename_i digits filled
      obtain ⟨each, rfl, inside⟩ := upwards h
      exact ⟨.plus (by simpa using filled) each, by simp, inside⟩
    · rename_i digits filled
      split at h
      · rename_i negative
        obtain ⟨_, signed, rfl⟩ := Template.map_ok h
        obtain ⟨m, read, rfl⟩ := cast_ok signed
        obtain ⟨each, small, rfl⟩ := readMagnitude_eq_ok_iff.mp read
        exact ⟨.minus (by simpa using filled) each, by omega, by omega, by omega⟩
      · cases h
    · rename_i filled _ _ _ notMinus
      obtain ⟨each, rfl, inside⟩ := upwards h
      refine ⟨.unsigned filled each, ?_, inside⟩
      intro _ minus
      obtain ⟨rest, same⟩ := List.head?_eq_some_iff.mp minus
      exact notMinus rest same
  · rintro ⟨⟨filled, digits⟩, signed, low, high⟩
    rename_i s ds
    obtain ⟨c, ds, rfl⟩ := List.exists_cons_of_ne_nil filled
    have notPlus : c ≠ '+' := digits.ne List.mem_cons_self (by simp)
    have notMinus : c ≠ '-' := digits.ne List.mem_cons_self (by simp)
    have upwards (high : (numberOf (c :: ds) : Int) ≤ r.greatest) :
        readMagnitude r.greatest.toNat .tooLarge 0 (c :: ds) = .ok (numberOf (c :: ds)) :=
      readMagnitude_eq_ok_iff.mpr ⟨digits, by omega, rfl⟩
    cases s with
    | none => simp [Sign.chars, read, notPlus, notMinus, upwards high, Except.map]
    | plus => simp [Sign.chars, read, upwards high, Except.map]
    | minus =>
      have negative : r.least < 0 :=
        lt_of_le_of_ne least fun zero => signed zero rfl
      have downwards : readMagnitude (-r.least).toNat .tooSmall 0 (c :: ds) =
          .ok (numberOf (c :: ds)) :=
        readMagnitude_eq_ok_iff.mpr ⟨digits, by simp at low; omega, rfl⟩
      simp [Sign.chars, read, negative, downwards, Except.map]

/-- A bounded reader accepts what the unbounded one does, without underscores, if the range has the
number. -/
theorem read_eq_ok_iff_unbounded (least : r.least ≤ 0) (greatest : 0 ≤ r.greatest) :
    r.read text = .ok n ↔ '_' ∉ text ∧ (r.least = 0 → text.head? ≠ some '-') ∧
      readUnbounded text = .ok n ∧ r.least ≤ n ∧ n ≤ r.greatest := by
  rw [read_eq_ok_iff least greatest]
  constructor
  · rintro ⟨numeral, signed, inside⟩
    have plain := numeral.no_underscore
    exact ⟨plain, signed, (readUnbounded_eq_ok_iff plain).mpr numeral, inside⟩
  · rintro ⟨plain, signed, read, inside⟩
    exact ⟨(readUnbounded_eq_ok_iff plain).mp read, signed, inside⟩

end IntRange

/-! ## Widths -/

namespace IntWidth

variable {v w : IntWidth}

def bits : IntWidth → Nat
  | i8 | u8 => 8
  | i16 | u16 => 16
  | i32 | u32 => 32
  | i64 | u64 => 64

def isSigned : IntWidth → Bool
  | i8 | i16 | i32 | i64 => true
  | u8 | u16 | u32 | u64 => false

theorem least_nonpos (w : IntWidth) : w.range.least ≤ 0 := by
  cases w <;> decide

theorem greatest_nonneg (w : IntWidth) : 0 ≤ w.range.greatest := by
  cases w <;> decide

theorem least_eq_zero_iff : w.range.least = 0 ↔ w.isSigned = false := by
  cases w <;> decide

/-- A wider type has the integers of a narrower one with as many signs. -/
theorem range_mono (alike : v.isSigned = w.isSigned) (wider : v.bits ≤ w.bits) :
    w.range.least ≤ v.range.least ∧ v.range.greatest ≤ w.range.greatest := by
  cases v <;> cases w <;> revert alike wider <;> decide

end IntWidth

/-! ## Canonical texts -/

theorem numberOf_toDigits (m : Nat) : numberOf (Nat.toDigits 10 m) = m := by
  rw [← ofDigits_eq_numberOf]
  exact Nat.ofDigitChars_toDigits (by omega) (by omega)

theorem isDigits_toDigits (m : Nat) : IsDigits (Nat.toDigits 10 m) := fun _ hc =>
  Nat.isDigit_of_mem_toDigits (by omega) (by omega) hc

theorem toList_toString_ofNat (m : Nat) :
    (toString (Int.ofNat m)).toList = Nat.toDigits 10 m :=
  Nat.toList_repr

theorem toList_toString_negSucc (m : Nat) :
    (toString (Int.negSucc m)).toList = '-' :: Nat.toDigits 10 (m + 1) := by
  rw [← Nat.toList_repr]
  exact String.toList_append

/-- An integer is written as a numeral, and only a negative one with a sign. -/
theorem writesNumeral_toString (n : Int) : WritesNumeral (toString n).toList n ∧
    (0 ≤ n → (toString n).toList.head? ≠ some '-') := by
  cases n with
  | ofNat m =>
    have written := WritesNumeral.unsigned Nat.toDigits_ne_nil (isDigits_toDigits m)
    rw [numberOf_toDigits, ← toList_toString_ofNat] at written
    refine ⟨written, fun _ minus => ?_⟩
    rw [toList_toString_ofNat] at minus
    have digit := isDigits_toDigits m '-' (List.mem_of_head? minus)
    cases digit
  | negSucc m =>
    have written := WritesNumeral.minus Nat.toDigits_ne_nil (isDigits_toDigits (m + 1))
    rw [numberOf_toDigits, ← toList_toString_negSucc] at written
    exact ⟨written, fun positive => by omega⟩

/-! ## Kinds -/

namespace Kind

theorem convert_integer_eq_ok_iff {w : IntWidth} {text : String} {v : Value} :
    (integer w).convert (some text) = .ok v ↔
      ∃ n, w.range.read text.toList = .ok n ∧ v = .integer w n := by
  simp only [convert, convertText]
  cases w.range.read text.toList with
  | error => simp
  | ok n => simp [eq_comm]

theorem convert_bigInteger_eq_ok_iff {text : String} {v : Value} :
    bigInteger.convert (some text) = .ok v ↔
      ∃ n, readUnbounded text.toList = .ok n ∧ v = .bigInteger n := by
  simp only [convert, convertText]
  cases readUnbounded text.toList with
  | error => simp
  | ok n => simp [eq_comm]

/-- A text is converted to a bounded integer exactly if it is converted to an unbounded one that is
in range, and has no underscore and no minus sign that the type does not know. So what is converted
to a narrow type is converted to a wider one alike, and each integer of the type is converted from
the text it is written as. -/
theorem convert_integer (w : IntWidth) :
    (∀ text v, (integer w).convert (some text) = .ok v ↔
      '_' ∉ text.toList ∧ (w.isSigned = false → text.toList.head? ≠ some '-') ∧
        ∃ n, bigInteger.convert (some text) = .ok (.bigInteger n) ∧ w.range.least ≤ n ∧
          n ≤ w.range.greatest ∧ v = .integer w n) ∧
    (∀ wider text n, w.isSigned = wider.isSigned → w.bits ≤ wider.bits →
      (integer w).convert (some text) = .ok (.integer w n) →
        (integer wider).convert (some text) = .ok (.integer wider n)) ∧
    ∀ n, w.range.least ≤ n → n ≤ w.range.greatest →
      (integer w).convert (some (toString n)) = .ok (.integer w n) := by
  have reads (v : IntWidth) (text : String) (n : Int) : v.range.read text.toList = .ok n ↔
      WritesNumeral text.toList n ∧ (v.isSigned = false → text.toList.head? ≠ some '-') ∧
        v.range.least ≤ n ∧ n ≤ v.range.greatest := by
    rw [IntRange.read_eq_ok_iff v.least_nonpos v.greatest_nonneg, IntWidth.least_eq_zero_iff]
  refine ⟨?_, ?_, ?_⟩
  · intro text v
    simp only [convert_integer_eq_ok_iff, convert_bigInteger_eq_ok_iff, Value.bigInteger.injEq,
      IntRange.read_eq_ok_iff_unbounded w.least_nonpos w.greatest_nonneg,
      IntWidth.least_eq_zero_iff]
    constructor
    · rintro ⟨n, ⟨plain, signed, read, low, high⟩, rfl⟩
      exact ⟨plain, signed, n, ⟨n, read, rfl⟩, low, high, rfl⟩
    · rintro ⟨plain, signed, n, ⟨_, read, rfl⟩, low, high, rfl⟩
      exact ⟨n, ⟨plain, signed, read, low, high⟩, rfl⟩
  · intro wider text n alike bits converted
    obtain ⟨_, read, same⟩ := convert_integer_eq_ok_iff.mp converted
    cases same
    obtain ⟨numeral, signed, low, high⟩ := (reads w text n).mp read
    obtain ⟨lower, higher⟩ := IntWidth.range_mono alike bits
    have read := (reads wider text n).mpr
      ⟨numeral, fun unsigned => signed (alike.trans unsigned), by omega, by omega⟩
    exact convert_integer_eq_ok_iff.mpr ⟨n, read, rfl⟩
  · intro n low high
    obtain ⟨numeral, bare⟩ := writesNumeral_toString n
    have positive (unsigned : w.isSigned = false) : 0 ≤ n := by
      rwa [IntWidth.least_eq_zero_iff.mpr unsigned] at low
    have read := (reads w (toString n) n).mpr
      ⟨numeral, fun unsigned => bare (positive unsigned), low, high⟩
    exact convert_integer_eq_ok_iff.mpr ⟨n, read, rfl⟩

theorem convert_integer_least : IntWidth.i8.isSigned = IntWidth.i64.isSigned ∧
    IntWidth.i8.bits ≤ IntWidth.i64.bits ∧ IntWidth.i8.range.least ≤ -128 ∧
    -128 ≤ IntWidth.i8.range.greatest ∧
    (integer .i64).convert (some "-128") = .ok (.integer .i64 (-128)) := by
  obtain ⟨-, widens, written⟩ := convert_integer .i8
  have low : IntWidth.i8.range.least ≤ -128 := by decide
  have high : -128 ≤ IntWidth.i8.range.greatest := by decide
  have wider : IntWidth.i8.bits ≤ IntWidth.i64.bits := by decide
  exact ⟨rfl, wider, low, high, widens .i64 "-128" (-128) rfl wider (written (-128) low high)⟩

end Kind

end StepExpr
