import StepExpr.Unicode.Property

/-!
# The parts of a written pattern

Literals, escapes and bracketed classes as they are written, before flags give them a meaning.
-/

namespace StepExpr

namespace Pattern

/-- The classes that `\d`, `\s` and `\w` stand for. -/
inductive Shorthand where
  | digit | space | word
  deriving DecidableEq, Repr

inductive AsciiClass where
  | alnum | alpha | ascii | blank | cntrl | digit | graph | lower | print | punct | space | upper
  | word | xdigit
  deriving DecidableEq, Repr

def AsciiClass.names : List (String × AsciiClass) :=
  [("alnum", alnum), ("alpha", alpha), ("ascii", ascii), ("blank", blank), ("cntrl", cntrl),
    ("digit", digit), ("graph", graph), ("lower", lower), ("print", print), ("punct", punct),
    ("space", space), ("upper", upper), ("word", word), ("xdigit", xdigit)]

def AsciiClass.named? (name : List Char) : Option AsciiClass :=
  names.lookup (String.ofList name)

/-- What `\p` names: one name, or a value of a property. -/
inductive PropertyQuery where
  | named (name : String)
  | valued (property value : String)
  deriving DecidableEq, Repr

inductive SetOperator where
  | intersection | difference | symmetricDifference
  deriving DecidableEq, Repr

/-- The content of a bracketed class. -/
inductive ClassExpr where
  | empty
  | literal (c : Char)
  | range (first last : Char)
  | shorthand (k : Shorthand) (negated : Bool)
  | ascii (k : AsciiClass) (negated : Bool)
  | property (q : PropertyQuery) (negated : Bool)
  | union (a b : ClassExpr)
  | operation (op : SetOperator) (a b : ClassExpr)
  | bracket (negated : Bool) (content : ClassExpr)
  deriving DecidableEq, Repr

namespace ClassExpr

def unionOf : List ClassExpr → ClassExpr
  | [] => empty
  | [item] => item
  | item :: items => union item (unionOf items)

/-- How deep brackets, unions and operations nest. The members of one union, which `inUnion` says
the expression to be the rest of, are all at one depth. -/
def depth (inUnion : Bool) : ClassExpr → Nat
  | union a b =>
    let members := max (a.depth false) (b.depth true)
    if inUnion then members else members + 1
  | operation _ a b => max (a.depth false) (b.depth false) + 1
  | bracket _ content => content.depth false + 1
  | _ => 0

end ClassExpr

/-- A position test as written. What `^` and `$` test depends on flags. -/
inductive Anchor where
  | lineStart | lineEnd | textStart | textEnd
  | boundary | notBoundary | wordStart | wordEnd | halfWordStart | halfWordEnd
  deriving DecidableEq, Repr

inductive Atom where
  /-- The flag `byte` marks the escape of one byte by two hexadecimal digits. -/
  | literal (c : Char) (byte : Bool)
  | dot
  | anchor (a : Anchor)
  | shorthand (k : Shorthand) (negated : Bool)
  | property (q : PropertyQuery) (negated : Bool)
  | bracketed (negated : Bool) (content : ClassExpr)
  deriving DecidableEq, Repr

/-- The flags `i`, `m`, `s`, `U`, `u`, `R` and `x`. -/
inductive Flag where
  | caseInsensitive | multiLine | dotMatchesAll | invertGreed | unicode | anyLine | verbose
  deriving DecidableEq, Repr

def Flag.ofChar? : Char → Option Flag
  | 'i' => some caseInsensitive
  | 'm' => some multiLine
  | 's' => some dotMatchesAll
  | 'U' => some invertGreed
  | 'u' => some unicode
  | 'R' => some anyLine
  | 'x' => some verbose
  | _ => none

/-- The flags that a group names, each with whether it is turned on. -/
abbrev FlagChanges := List (Flag × Bool)

def FlagChanges.value? (changes : FlagChanges) (flag : Flag) : Option Bool :=
  changes.lookup flag

inductive GroupKind where
  | capturing (name : Option (List Char))
  | plain (changes : FlagChanges)
  deriving DecidableEq, Repr

/-- How often a repetition goes round. -/
structure Rounds where
  least : Nat
  most : Option Nat
  deriving DecidableEq, Repr

def Rounds.isValid (r : Rounds) : Bool :=
  match r.most with
  | none => true
  | some most => r.least ≤ most

end Pattern

end StepExpr
