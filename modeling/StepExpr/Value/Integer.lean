/-!
# Integers in decimal text

Bounded integers are read digit by digit, so the first character that is no digit and the first
digit that leaves the range are told apart by whichever comes first. Unbounded integers may have
underscores after their first digit.
-/

namespace StepExpr

/- Powers are those of the natural numbers and the integers themselves, whatever else is imported. -/
attribute [local instance (high)] instPowNat

/-- Why a text is not the integer that was asked for. -/
inductive IntegerError where
  | empty
  | invalidDigit
  | tooLarge
  | tooSmall
  deriving DecidableEq, Repr

def IntegerError.message : IntegerError → String
  | empty => "cannot parse integer from empty string"
  | invalidDigit => "invalid digit found in string"
  | tooLarge => "number too large to fit in target type"
  | tooSmall => "number too small to fit in target type"

def digitValue (c : Char) : Nat := c.toNat - '0'.toNat

/-- The number that decimal digits denote. -/
def ofDigits (digits : List Char) : Nat :=
  digits.foldl (fun value c => 10 * value + digitValue c) 0

/-- The integers from `least` to `greatest`. -/
structure IntRange where
  least : Int
  greatest : Int
  deriving DecidableEq, Repr

namespace IntRange

def signed (bits : Nat) : IntRange := ⟨-2 ^ (bits - 1), 2 ^ (bits - 1) - 1⟩

def unsigned (bits : Nat) : IntRange := ⟨0, 2 ^ bits - 1⟩

/-- Reads digits behind `value`, and fails with `overflow` once the value exceeds `limit`. -/
def readMagnitude (limit : Nat) (overflow : IntegerError) (value : Nat) :
    List Char → Except IntegerError Nat
  | [] => .ok value
  | c :: rest =>
    if c.isDigit then
      let value := 10 * value + digitValue c
      if value ≤ limit then readMagnitude limit overflow value rest else .error overflow
    else .error .invalidDigit

/-- Reads a plus sign or none and digits, or a minus sign and digits if the range has negative
integers. -/
def read (r : IntRange) (text : List Char) : Except IntegerError Int :=
  match text with
  | [] => .error .empty
  | ['+'] => .error .invalidDigit
  | ['-'] => .error .invalidDigit
  | '+' :: digits => (readMagnitude r.greatest.toNat .tooLarge 0 digits).map Int.ofNat
  | '-' :: digits =>
    if r.least < 0 then
      (readMagnitude (-r.least).toNat .tooSmall 0 digits).map fun n => -(n : Int)
    else .error .invalidDigit
  | digits => (readMagnitude r.greatest.toNat .tooLarge 0 digits).map Int.ofNat

end IntRange

/-- Reads digits and, behind the first, underscores. -/
def readUnboundedMagnitude (text : List Char) : Except IntegerError Nat :=
  match text with
  | [] => .error .empty
  | '_' :: _ => .error .invalidDigit
  | _ =>
    if text.all fun c => c.isDigit || c = '_' then .ok (ofDigits (text.filter (· != '_')))
    else .error .invalidDigit

/-- Drops a plus sign that no second one follows. -/
def dropPlus : List Char → List Char
  | '+' :: '+' :: rest => '+' :: '+' :: rest
  | '+' :: rest => rest
  | text => text

def readUnbounded (text : List Char) : Except IntegerError Int :=
  match text with
  | '-' :: '+' :: _ => .error .invalidDigit
  | '-' :: rest => (readUnboundedMagnitude rest).map fun n => -(n : Int)
  | _ => (readUnboundedMagnitude (dropPlus text)).map Int.ofNat

end StepExpr
