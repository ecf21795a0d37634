import StepExpr.Group.Digits
import StepExpr.Parameter.Type
import StepExpr.Regex.Search

/-!
# Whole words

Where the texts of a parameter type stand as whole words in a sample.
-/

namespace StepExpr.Suggestion

def boundaryCategories : List Unicode.Category :=
  Unicode.Category.separators ++ Unicode.Category.punctuation ++ Unicode.Category.symbols

/-- Blanks, separators, punctuation and symbols; letters, digits and marks are inside words. -/
def isBoundary (c : Char) : Bool :=
  Unicode.isBlank c || boundaryCategories.contains (Unicode.Category.ofChar c)

/-- One regexp of a type. -/
structure Finder where
  type : ParameterType
  program : Program

/-- A regexp that is not valid finds nothing. -/
def finders (type : ParameterType) : List Finder :=
  type.regexps.filterMap fun regexp =>
    (Regex.ofText? (narrowDigits ('(' :: regexp.toList ++ [')']))).map (⟨type, ·.program⟩)

/-- A word of a sample, with the position of the search that found it. -/
structure Word where
  origin : Nat
  start : Nat
  stop : Nat
  deriving DecidableEq, Repr

/-- Whether the part from `start` to `stop` has a boundary on either side. -/
def isWhole (text : Array Char) (start stop : Nat) : Bool :=
  let boundary := fun (c : Option Char) => c.all isBoundary
  boundary (Look.before? text start) && boundary text[stop]?

/-- A match in the text that starts at `offset`, if it is a word: not empty and whole. -/
def wordAt? (text : Array Char) (offset : Nat) (captures : Captures) : Option Word := do
  let (start, stop) ← captures.span? 0
  let (start, stop) := (offset + start, offset + stop)
  if start < stop ∧ isWhole text start stop then some ⟨offset, start, stop⟩ else none

/-- The first word that a search from one of the offsets finds. What follows an offset counts as a
text of its own, so a later search can only find more if the program tests positions. -/
def Finder.wordFrom? (f : Finder) (text : Array Char) : List Nat → Option Word
  | [] => none
  | offset :: offsets =>
    match f.program.search (text.extract offset text.size) with
    | none => if f.program.testsPositions then f.wordFrom? text offsets else none
    | some captures => (wordAt? text offset captures).or (f.wordFrom? text offsets)

/-- The first word that a search from `pos` or a later character finds. -/
def Finder.nextWord? (f : Finder) (text : Array Char) (pos : Nat) : Option Word :=
  f.wordFrom? text (List.range' pos (text.size - pos))

/-- The word that a finder finds next. -/
structure Lookout where
  finder : Finder
  word? : Option Word

namespace Lookout

def start (text : Array Char) (f : Finder) : Lookout := ⟨f, f.nextWord? text 0⟩

/-- The same finder from a later position on. A search from there finds the same word, unless the
one that found it came from further left. -/
def advance (text : Array Char) (pos : Nat) (l : Lookout) : Lookout :=
  match l.word? with
  | none => l
  | some word => if pos ≤ word.origin then l else { l with word? := l.finder.nextWord? text pos }

end Lookout

end StepExpr.Suggestion
