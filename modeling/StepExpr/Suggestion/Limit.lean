import StepExpr.Unicode.Property
import StepExpr.Value.Integer

/-!
# The limit on suggestions

The limit that was set last, or else the one that the environment gives, or else a default. A limit
of zero is none.
-/

namespace StepExpr

structure SuggestionLimit where
  /-- Zero where no limit is set. -/
  override : Nat
  environment : Option String
  deriving DecidableEq, Repr

namespace SuggestionLimit

def default : Nat := 256

def initial : SuggestionLimit := ⟨0, none⟩

def trim (text : List Char) : List Char :=
  ((text.dropWhile Unicode.isBlank).reverse.dropWhile Unicode.isBlank).reverse

/-- A number of 64 bits other than zero, with blanks around it. -/
def readLimit? (text : String) : Option Nat :=
  match (IntRange.unsigned 64).read (trim text.toList) with
  | .ok n => if 0 < n then some n.toNat else none
  | .error _ => none

def value (l : SuggestionLimit) : Nat :=
  if l.override ≠ 0 then l.override
  else ((l.environment.bind readLimit?).getD default)

def set (l : SuggestionLimit) (n : Nat) : SuggestionLimit := { l with override := n }

def clear (l : SuggestionLimit) : SuggestionLimit := { l with override := 0 }

def setEnvironment (l : SuggestionLimit) (text : Option String) : SuggestionLimit :=
  { l with environment := text }

end SuggestionLimit

end StepExpr
