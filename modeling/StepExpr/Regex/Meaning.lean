import StepExpr.Regex.Pattern
import StepExpr.Regex.Simplify
import StepExpr.Unicode.Age
import StepExpr.Unicode.CaseFold
import StepExpr.Unicode.Segment

/-!
# What a pattern denotes

A pattern becomes a regular expression under the flags in force. Groups are numbered by their
opening parentheses, from one.

* `ClassExpr.ranges?`, `Atom.regex?` and `Pattern.branchesFrom?` give the meaning of the parts;
  they fail on unknown properties, and on what would match part of a character once the flag `u` is
  off;
* `Pattern.regex?` is the meaning of a pattern.
-/

namespace StepExpr

namespace Pattern

/-- The flags in force, the flag `x` apart. -/
structure Flags where
  caseInsensitive : Bool
  multiLine : Bool
  dotMatchesAll : Bool
  invertGreed : Bool
  unicode : Bool
  anyLine : Bool
  deriving DecidableEq, Repr

namespace Flags

def initial : Flags := ⟨false, false, false, false, true, false⟩

def apply (f : Flags) (changes : FlagChanges) : Flags where
  caseInsensitive := (changes.value? .caseInsensitive).getD f.caseInsensitive
  multiLine := (changes.value? .multiLine).getD f.multiLine
  dotMatchesAll := (changes.value? .dotMatchesAll).getD f.dotMatchesAll
  invertGreed := (changes.value? .invertGreed).getD f.invertGreed
  unicode := (changes.value? .unicode).getD f.unicode
  anyLine := (changes.value? .anyLine).getD f.anyLine

/-- The case variants of a set, if case does not count. -/
def fold (f : Flags) (s : CharSet) : CharSet :=
  if f.caseInsensitive then
    if f.unicode then s.fold else s.foldAscii
  else s

/-- A complement holds every character outside ASCII, so it needs the flag `u`. -/
def negate? (f : Flags) (negated : Bool) (s : CharSet) : Option CharSet :=
  if negated then
    if f.unicode then some s.compl else none
  else some s

end Flags

/-! ## Sets -/

def asciiBlanks : CharSet := .ofEnds [('\t', '\r'), (' ', ' ')]

def asciiWordChars : CharSet := .ofEnds [('0', '9'), ('A', 'Z'), ('_', '_'), ('a', 'z')]

def Shorthand.charSet (unicode : Bool) : Shorthand → CharSet
  | digit => if unicode then Unicode.decimalDigits else .range '0' '9'
  | space => if unicode then Unicode.blanks else asciiBlanks
  | word => if unicode then Unicode.wordChars else asciiWordChars

def AsciiClass.charSet : AsciiClass → CharSet
  | alnum => .ofEnds [('0', '9'), ('A', 'Z'), ('a', 'z')]
  | alpha => .ofEnds [('A', 'Z'), ('a', 'z')]
  | ascii => .range '\x00' '\x7f'
  | blank => .ofEnds [('\t', '\t'), (' ', ' ')]
  | cntrl => .ofEnds [('\x00', '\x1f'), ('\x7f', '\x7f')]
  | digit => .range '0' '9'
  | graph => .range '!' '~'
  | lower => .range 'a' 'z'
  | print => .range ' ' '~'
  | punct => .ofEnds [('!', '/'), (':', '@'), ('[', '\x60'), ('\x7b', '~')]
  | space => asciiBlanks
  | upper => .range 'A' 'Z'
  | word => asciiWordChars
  | xdigit => .ofEnds [('0', '9'), ('A', 'F'), ('a', 'f')]

/-- Names are tried as properties, then as categories, then as scripts. Three names of categories
are also names of properties that no class can use. -/
def PropertyQuery.charSet? : PropertyQuery → Option CharSet
  | named name =>
    let name := Unicode.looseName name
    let property :=
      if name = "cf" ∨ name = "sc" ∨ name = "lc" then none else Unicode.propertySet? name
    (property.or (Unicode.Category.set? name)).or
      ((Unicode.Script.named? name).map Unicode.Script.set)
  | valued property value =>
    let value := Unicode.looseName value
    match Unicode.looseName property with
    | "gc" | "generalcategory" => Unicode.Category.set? value
    | "sc" | "script" => (Unicode.Script.named? value).map Unicode.Script.set
    | "scx" | "scriptextensions" =>
      (Unicode.Script.named? value).map Unicode.Script.extendedSet
    | "age" => Unicode.ageSet? value
    | "gcb" | "graphemeclusterbreak" => Unicode.graphemeBreakSet? value
    | "wb" | "wordbreak" => Unicode.wordBreakSet? value
    | "sb" | "sentencebreak" => Unicode.sentenceBreakSet? value
    | _ => none

def SetOperator.apply : SetOperator → CharSet → CharSet → CharSet
  | intersection => .inter
  | difference => .diff
  | symmetricDifference => .symmDiff

/-- The ranges of a class in any order. Without the flag `u` a class holds ASCII characters only. -/
def ClassExpr.ranges? (f : Flags) : ClassExpr → Option (List CodeRange)
  | empty => some []
  | literal c => if f.unicode || c.toNat < 128 then some [⟨c.toNat, c.toNat⟩] else none
  | range first last =>
    if f.unicode || last.toNat < 128 then some [⟨first.toNat, last.toNat⟩] else none
  | shorthand k negated => (f.negate? negated (k.charSet f.unicode)).map CharSet.ranges
  | ascii k negated => (f.negate? negated (f.fold k.charSet)).map CharSet.ranges
  | property q negated =>
    if f.unicode then (q.charSet?).bind fun s => (f.negate? negated (f.fold s)).map CharSet.ranges
    else none
  | union a b => do some ((← a.ranges? f) ++ (← b.ranges? f))
  | operation op a b => do
    let left := CharSet.ofRanges (← a.ranges? f)
    let right := CharSet.ofRanges (← b.ranges? f)
    some (op.apply (f.fold left) (f.fold right)).ranges
  | bracket negated content => do
    let inside := CharSet.ofRanges (← content.ranges? f)
    (f.negate? negated (f.fold inside)).map CharSet.ranges

def ClassExpr.charSet? (f : Flags) (e : ClassExpr) : Option CharSet :=
  (e.ranges? f).map CharSet.mk

/-! ## Positions -/

def Anchor.look (f : Flags) : Anchor → Look
  | lineStart => if f.multiLine then if f.anyLine then .anyLineStart else .lineStart else .textStart
  | lineEnd => if f.multiLine then if f.anyLine then .anyLineEnd else .lineEnd else .textEnd
  | textStart => .textStart
  | textEnd => .textEnd
  | boundary => .boundary (!f.unicode)
  | notBoundary => .notBoundary (!f.unicode)
  | wordStart => .wordStart (!f.unicode)
  | wordEnd => .wordEnd (!f.unicode)
  | halfWordStart => .halfWordStart (!f.unicode)
  | halfWordEnd => .halfWordEnd (!f.unicode)

/-! ## Expressions -/

def dotSet (f : Flags) : CharSet :=
  if f.dotMatchesAll then .all
  else if f.anyLine then (CharSet.ofChars ['\n', '\r']).compl
  else (CharSet.single '\n').compl

/-- A character, or the set of its case variants if case does not count and it has any. -/
def charRegex (f : Flags) (c : Char) : Regex :=
  let variants :=
    if f.caseInsensitive then
      if f.unicode then Unicode.caseVariants c else Unicode.asciiCaseVariants c
    else []
  if variants.isEmpty then .literal [c] else .ofSet (!f.unicode) (.ofChars (c :: variants))

def Atom.regex? (f : Flags) : Atom → Option Regex
  | literal c byte =>
    if !f.unicode && byte && 128 ≤ c.toNat then none else some (charRegex f c)
  | dot => if f.unicode then some (.ofSet false (dotSet f)) else none
  | anchor a => some (.look (a.look f))
  | shorthand k negated =>
    ((ClassExpr.shorthand k negated).charSet? f).map (.ofSet (!f.unicode))
  | property q negated =>
    ((ClassExpr.property q negated).charSet? f).map (.ofSet false)
  | bracketed negated content =>
    ((ClassExpr.bracket negated content).charSet? f).map (.ofSet (!f.unicode))

/-- The branches of a pattern under the given flags, with the given number for its first group. Also
gives the flags in force after it and the number of the next group. -/
def branchesFrom? : Pattern → Flags → Nat → Option (List Regex × Flags × Nat)
  | empty, f, n => some ([.empty], f, n)
  | flags changes, f, n => some ([.empty], f.apply changes, n)
  | atom a, f, n => (a.regex? f).map ([·], f, n)
  | rounds r greedy p, f, n => do
    let (body, f, next) ← p.branchesFrom? f n
    let greedy := greedy != f.invertGreed
    some ([.repeated r.least r.most greedy (.alternation body)], f, next)
  | group (.capturing _) p, f, n => do
    let (body, _, next) ← p.branchesFrom? f (n + 1)
    some ([.group n (.alternation body)], f, next)
  | group (.plain changes) p, f, n => do
    let (body, _, next) ← p.branchesFrom? (f.apply changes) n
    some ([.alternation body], f, next)
  | cat a b, f, n => do
    let (left, f, next) ← a.branchesFrom? f n
    let (right, f, next) ← b.branchesFrom? f next
    some ([(Regex.alternation left).append (.alternation right)], f, next)
  | alt a b, f, n => do
    let (left, f, next) ← a.branchesFrom? f n
    let (right, f, next) ← b.branchesFrom? f next
    some (.alternation left :: right, f, next)

def regex? (p : Pattern) : Option Regex :=
  (p.branchesFrom? .initial 1).map fun (branches, _, _) => .alternation branches

end Pattern

end StepExpr
