import StepExpr.Unicode.Property

/-!
# Regular expressions

The expressions that patterns denote: texts, sets of characters, tests of a position, concatenation,
ordered choice, repetition and numbered groups.

* `Regex.minLength?` and `Regex.maxLength?` bound the length of what an expression matches.
-/

namespace StepExpr

/-- A test of the position between two characters. The word tests take the ASCII word characters
where `ascii` is set, and those of all scripts otherwise. -/
inductive Look where
  | textStart
  | textEnd
  | lineStart
  | lineEnd
  /-- Lines ended by a line feed, a carriage return, or the two together. -/
  | anyLineStart
  | anyLineEnd
  | boundary (ascii : Bool)
  | notBoundary (ascii : Bool)
  | wordStart (ascii : Bool)
  | wordEnd (ascii : Bool)
  | halfWordStart (ascii : Bool)
  | halfWordEnd (ascii : Bool)
  deriving DecidableEq, Repr

namespace Look

/-- The character before `pos`. -/
def before? (text : Array Char) (pos : Nat) : Option Char :=
  if pos = 0 then none else text[pos - 1]?

def isAsciiWord (c : Char) : Bool := c.isAlphanum || c = '_'

def isWord (ascii : Bool) : Option Char → Bool
  | none => false
  | some c => if ascii then isAsciiWord c else Unicode.wordChars.contains c

def holds (text : Array Char) (pos : Nat) (look : Look) : Bool :=
  let before := before? text pos
  let after := text[pos]?
  match look with
  | textStart => before.isNone
  | textEnd => after.isNone
  | lineStart => before.isNone || before == some '\n'
  | lineEnd => after.isNone || after == some '\n'
  | anyLineStart =>
    before.isNone || before == some '\n' || (before == some '\r' && after != some '\n')
  | anyLineEnd =>
    after.isNone || after == some '\r' || (after == some '\n' && before != some '\r')
  | boundary ascii => isWord ascii before != isWord ascii after
  | notBoundary ascii => isWord ascii before == isWord ascii after
  | wordStart ascii => !isWord ascii before && isWord ascii after
  | wordEnd ascii => isWord ascii before && !isWord ascii after
  | halfWordStart ascii => !isWord ascii before
  | halfWordEnd ascii => !isWord ascii after

end Look

/-- Longer concatenations and choices nest to the right. In `alt` the first branch is preferred. -/
inductive Regex where
  | empty
  | literal (cs : List Char)
  /-- The flag `ascii` marks a class written without the flag `u`. -/
  | set (ascii : Bool) (s : CharSet)
  | look (l : Look)
  | cat (a b : Regex)
  | alt (a b : Regex)
  /-- At least `least` rounds, and at most `most` if there is such a bound. As many as possible
  are preferred if `greedy`, and as few otherwise. -/
  | rounds (least : Nat) (most : Option Nat) (greedy : Bool) (r : Regex)
  | group (index : Nat) (r : Regex)
  deriving DecidableEq, Repr

namespace Regex

/-- The fewest characters of a match. Nothing is known of an expression with an empty set, which no
text matches. -/
def minLength? : Regex → Option Nat
  | empty => some 0
  | literal cs => some cs.length
  | set _ s => if s.isEmpty then none else some 1
  | look _ => some 0
  | cat a b => do some ((← a.minLength?) + (← b.minLength?))
  | alt a b => do some (min (← a.minLength?) (← b.minLength?))
  | rounds least _ _ r => r.minLength?.map (least * ·)
  | group _ r => r.minLength?

/-- The most characters of a match, if they are bounded. -/
def maxLength? : Regex → Option Nat
  | empty => some 0
  | literal cs => some cs.length
  | set _ s => if s.isEmpty then none else some 1
  | look _ => some 0
  | cat a b => do some ((← a.maxLength?) + (← b.maxLength?))
  | alt a b => do some (max (← a.maxLength?) (← b.maxLength?))
  | rounds least most _ r => do some (max least (← most) * (← r.maxLength?))
  | group _ r => r.maxLength?

/-- Whether every match is known to take at least one character. -/
def isConsuming (r : Regex) : Bool := r.minLength?.any (0 < ·)

/-- Whether every match is known to be empty. -/
def isBlank (r : Regex) : Bool := r.maxLength? == some 0

end Regex

end StepExpr
