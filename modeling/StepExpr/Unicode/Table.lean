import StepExpr.Unicode.CharSet

/-!
# Range tables

A table labels disjoint ranges of code points, sorted by their first point, and is searched by
halving. Its text form is made of words `first-last:label` in hexadecimal, on any number of lines; a
range of one point is written without `-last`. The text form of a set has no labels.
-/

namespace StepExpr

namespace Unicode

structure LabelledRange (α : Type) where
  range : CodeRange
  label : α

structure Table (α : Type) where
  ranges : Array (LabelledRange α)

namespace Table

variable {α : Type}

/-- The label of `point` among the ranges at the indices from `low` up to `high`, left out. -/
def findBetween (t : Table α) (point low high : Nat) : Option α :=
  if low < high then
    let middle := (low + high) / 2
    match t.ranges[middle]? with
    | none => none
    | some entry =>
      if point < entry.range.first then t.findBetween point low middle
      else if entry.range.last < point then t.findBetween point (middle + 1) high
      else some entry.label
  else none
termination_by high - low
decreasing_by all_goals omega

def find? (t : Table α) (point : Nat) : Option α :=
  t.findBetween point 0 t.ranges.size

/-- The characters whose label has `p`. -/
def select (t : Table α) (p : α → Bool) : CharSet :=
  .ofRanges ((t.ranges.toList.filter fun entry => p entry.label).map LabelledRange.range)

end Table

/-! ## Text form -/

def hexDigitValue (c : Char) : Nat :=
  if c.isDigit then c.toNat - '0'.toNat else c.toNat - 'A'.toNat + 10

/-- Reads upper-case hexadecimal digits. -/
def hexValue (digits : String) : Nat :=
  digits.toList.foldl (fun value c => 16 * value + hexDigitValue c) 0

/-- The parts of a text between the places where `mark` stands. -/
def partsAt (mark : Char) (text : String) : List String :=
  (text.toList.splitOn mark).map String.ofList

/-- The words of a text of any number of lines. -/
def words (text : String) : List String :=
  (partsAt '\n' text).flatMap fun line => (partsAt ' ' line).filter fun word => word ≠ ""

def readRange (points : String) : CodeRange :=
  match partsAt '-' points with
  | [first, last] => ⟨hexValue first, hexValue last⟩
  | _ => ⟨hexValue points, hexValue points⟩

/-- One word of a table, or nothing if `label` does not know the word's label. -/
def readEntry {α : Type} (label : String → Option α) (word : String) : Option (LabelledRange α) :=
  match partsAt ':' word with
  | [points, name] => (label name).map (⟨readRange points, ·⟩)
  | _ => none

def Table.ofText {α : Type} (label : String → Option α) (text : String) : Table α :=
  ⟨((words text).filterMap (readEntry label)).toArray⟩

end Unicode

/-- The set with the given text form. -/
def CharSet.ofText (text : String) : CharSet :=
  .ofRanges ((Unicode.words text).map Unicode.readRange)

end StepExpr
