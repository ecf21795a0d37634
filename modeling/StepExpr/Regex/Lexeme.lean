import StepExpr.Regex.Class
import StepExpr.Text.Character

/-!
# Lexemes of a pattern

A pattern is cut into atoms, repetition marks, bars and the opening and closing of groups. Under
the flag `x` blanks and comments between lexemes, and inside most of them, do not count; the flag
is scoped to its group, so the cut keeps the values that closing groups restore.

* `Lexeme.scan?` cuts a pattern, or fails where some lexeme is malformed.
-/

namespace StepExpr

namespace Pattern

open Unicode (isBlank)

/- Powers are those of the natural numbers and the integers themselves, whatever else is imported. -/
attribute [local instance (high)] instPowNat

inductive Lexeme where
  | atom (a : Atom)
  | rounds (r : Rounds) (greedy : Bool)
  | bar
  | opening (k : GroupKind)
  | flags (changes : FlagChanges)
  | closing
  deriving DecidableEq, Repr

/-! ## Blanks and comments -/

/-- Drops blanks and comments, starting inside a comment if `comment` is set. -/
def dropBlanks (comment : Bool) : List Char → List Char
  | [] => []
  | c :: rest =>
    if comment then dropBlanks (c != '\n') rest
    else if isBlank c then dropBlanks false rest
    else if c = '#' then dropBlanks true rest
    else c :: rest

def skip (verbose : Bool) (cs : List Char) : List Char :=
  if verbose then dropBlanks false cs else cs

/-- The longest run of characters with `p`, and the rest. In verbose patterns blanks and comments
in the run and after it are left out. -/
def collect (verbose : Bool) (p : Char → Bool) (comment : Bool) : List Char → List Char × List Char
  | [] => ([], [])
  | c :: rest =>
    if comment then collect verbose p (c != '\n') rest
    else if verbose && isBlank c then collect verbose p false rest
    else if verbose && c = '#' then collect verbose p true rest
    else if p c then
      let (run, left) := collect verbose p false rest
      (c :: run, left)
    else ([], c :: rest)

/-! ## Numbers -/

def isHexDigit (c : Char) : Bool :=
  c.isDigit || ('a' ≤ c && c ≤ 'f') || ('A' ≤ c && c ≤ 'F')

def hexDigit (c : Char) : Nat :=
  if c.isDigit then c.toNat - '0'.toNat
  else if 'a' ≤ c then c.toNat - 'a'.toNat + 10
  else c.toNat - 'A'.toNat + 10

def ofHex (digits : List Char) : Nat :=
  digits.foldl (fun value c => 16 * value + hexDigit c) 0

def ofDecimal (digits : List Char) : Nat :=
  digits.foldl (fun value c => 10 * value + (c.toNat - '0'.toNat)) 0

def charOfCode? (code : Nat) : Option Char :=
  if h : code.isValidChar then some (Char.ofNatAux code h) else none

/-- Reads `count` hexadecimal digits. -/
def readHexDigits (verbose : Bool) : Nat → List Char → Option (List Char × List Char)
  | 0, cs => some ([], cs)
  | _ + 1, [] => none
  | count + 1, c :: rest =>
    if isHexDigit c then
      let more := readHexDigits verbose count (skip verbose rest)
      more.map fun (digits, left) => (c :: digits, left)
    else none

/-- The number after `\x`, `\u` or `\U`: in braces, or of `count` digits. -/
def readHex (verbose : Bool) (count : Nat) (cs : List Char) : Option (Char × List Char) :=
  match skip verbose cs with
  | '{' :: rest =>
    match collect verbose (· != '}') false rest with
    | (digits, '}' :: left) =>
      if digits.isEmpty || !digits.all isHexDigit then none
      else (charOfCode? (ofHex digits)).map (·, skip verbose left)
    | _ => none
  | rest =>
    match readHexDigits verbose count rest with
    | some (digits, left) => (charOfCode? (ofHex digits)).map (·, left)
    | none => none

/-- A bound of a counted repetition. Blanks may stand around it in any pattern. -/
def readBound (verbose : Bool) (cs : List Char) : Option (Nat × List Char) :=
  let (digits, left) := collect verbose Char.isDigit false (cs.dropWhile isBlank)
  if digits.isEmpty || 2 ^ (32 : Nat) ≤ ofDecimal digits then none
  else some (ofDecimal digits, skip verbose (left.dropWhile isBlank))

/-- What follows the opening brace of a counted repetition. -/
def readRounds (verbose : Bool) (cs : List Char) : Option (Rounds × List Char) :=
  match readBound verbose (skip verbose cs) with
  | some (least, '}' :: rest) => some (⟨least, some least⟩, rest)
  | some (least, ',' :: rest) =>
    match skip verbose rest with
    | '}' :: rest => some (⟨least, none⟩, rest)
    | rest =>
      match readBound verbose rest with
      | some (most, '}' :: rest) => some (⟨least, some most⟩, rest)
      | _ => none
  | _ => none

/-- A question mark after a repetition makes it lazy. -/
def readGreed : List Char → Bool × List Char
  | '?' :: rest => (false, rest)
  | rest => (true, rest)

/-! ## Escapes -/

def isMeta (c : Char) : Bool :=
  ['\\', '.', '+', '*', '?', '(', ')', '|', '[', ']', '\x7b', '\x7d', '^', '$', '#', '&', '-',
    '~'].contains c

/-- Characters that stand for themselves after a backslash: ASCII, but neither letters and digits
nor angle brackets. -/
def isEscapable (c : Char) : Bool :=
  isMeta c || (c.toNat < 128 && !c.isAlphanum && c != '<' && c != '>')

/-- Splits at the first place where `separator` starts. -/
def splitAtFirst (separator : List Char) : List Char → Option (List Char × List Char)
  | [] => none
  | c :: rest =>
    if separator.isPrefixOf (c :: rest) then some ([], (c :: rest).drop separator.length)
    else (splitAtFirst separator rest).map fun (before, after) => (c :: before, after)

/-- A query between braces, and whether it is written with `!=`. -/
def queryOf (text : List Char) : PropertyQuery × Bool :=
  match splitAtFirst ['!', '='] text with
  | some (name, value) => (.valued (String.ofList name) (String.ofList value), true)
  | none =>
    match splitAtFirst [':'] text with
    | some (name, value) => (.valued (String.ofList name) (String.ofList value), false)
    | none =>
      match splitAtFirst ['='] text with
      | some (name, value) => (.valued (String.ofList name) (String.ofList value), false)
      | none => (.named (String.ofList text), false)

/-- What follows `\p`, or `\P` if `negated`. -/
def readProperty (verbose negated : Bool) (cs : List Char) : Option (Atom × List Char) :=
  match skip verbose cs with
  | [] => none
  | '{' :: rest =>
    match collect verbose (· != '}') false rest with
    | (text, '}' :: left) =>
      let (query, unequal) := queryOf text
      some (.property query (negated != unequal), left)
    | _ => none
  | '\\' :: _ => none
  | c :: rest => some (.property (.named (String.singleton c)) negated, skip verbose rest)

def boundaryNamed? : List Char → Option Anchor
  | ['s', 't', 'a', 'r', 't'] => some .wordStart
  | ['e', 'n', 'd'] => some .wordEnd
  | ['s', 't', 'a', 'r', 't', '-', 'h', 'a', 'l', 'f'] => some .halfWordStart
  | ['e', 'n', 'd', '-', 'h', 'a', 'l', 'f'] => some .halfWordEnd
  | _ => none

/-- What follows `\b`: braces hold the name of a boundary if they start like one, and are a
counted repetition otherwise. -/
def readBoundary (verbose : Bool) (cs : List Char) : Option (Atom × List Char) :=
  match cs with
  | '{' :: rest =>
    let isNameChar := fun (c : Char) => c.isAlpha || c = '-'
    match skip verbose rest with
    | [] => none
    | c :: inside =>
      if isNameChar c then
        match collect verbose isNameChar false (c :: inside) with
        | (name, '}' :: left) => (boundaryNamed? name).map fun a => (.anchor a, left)
        | _ => none
      else some (.anchor .boundary, cs)
  | _ => some (.anchor .boundary, cs)

/-- What follows a backslash. -/
def readEscape (verbose : Bool) : List Char → Option (Atom × List Char)
  | [] => none
  | c :: rest =>
    match c with
    | 'x' =>
      let byte := (skip verbose rest).head? != some '{'
      (readHex verbose 2 rest).map fun (d, left) => (.literal d byte, left)
    | 'u' => (readHex verbose 4 rest).map fun (d, left) => (.literal d false, left)
    | 'U' => (readHex verbose 8 rest).map fun (d, left) => (.literal d false, left)
    | 'p' => readProperty verbose false rest
    | 'P' => readProperty verbose true rest
    | 'd' => some (.shorthand .digit false, rest)
    | 'D' => some (.shorthand .digit true, rest)
    | 's' => some (.shorthand .space false, rest)
    | 'S' => some (.shorthand .space true, rest)
    | 'w' => some (.shorthand .word false, rest)
    | 'W' => some (.shorthand .word true, rest)
    | 'a' => some (.literal '\x07' false, rest)
    | 'f' => some (.literal '\x0c' false, rest)
    | 't' => some (.literal '\t' false, rest)
    | 'n' => some (.literal '\n' false, rest)
    | 'r' => some (.literal '\r' false, rest)
    | 'v' => some (.literal '\x0b' false, rest)
    | 'A' => some (.anchor .textStart, rest)
    | 'z' => some (.anchor .textEnd, rest)
    | 'b' => readBoundary verbose rest
    | 'B' => some (.anchor .notBoundary, rest)
    | '<' => some (.anchor .wordStart, rest)
    | '>' => some (.anchor .wordEnd, rest)
    | _ => if isEscapable c then some (.literal c false, rest) else none

/-! ## Bracketed classes -/

/-- A class whose closing bracket is still to come: its items, the latest first, and the operation
they are the right side of. -/
structure OpenClass where
  negated : Bool
  items : List ClassExpr
  pending : Option (SetOperator × ClassExpr)

namespace OpenClass

def push (o : OpenClass) (item : ClassExpr) : OpenClass :=
  { o with items := item :: o.items }

def content (o : OpenClass) : ClassExpr :=
  let right := ClassExpr.unionOf o.items.reverse
  match o.pending with
  | none => right
  | some (op, left) => .operation op left right

def operate (o : OpenClass) (op : SetOperator) : OpenClass :=
  ⟨o.negated, [], some (op, o.content)⟩

end OpenClass

/-- What follows an opening bracket: a caret, hyphens that stand for themselves, and a closing
bracket that does if it comes first. -/
def readClassStart (verbose : Bool) (cs : List Char) : OpenClass × List Char :=
  let (negated, rest) := match skip verbose cs with
    | '^' :: rest => (true, rest)
    | rest => (false, rest)
  let (hyphens, rest) := collect verbose (· = '-') false rest
  let start : OpenClass := ⟨negated, hyphens.map .literal, none⟩
  match hyphens, rest with
  | [], ']' :: rest => (start.push (.literal ']'), rest)
  | _, rest => (start, rest)

/-- A named class of ASCII characters, after its opening bracket. -/
def readAsciiClass : List Char → Option (ClassExpr × List Char)
  | ':' :: rest =>
    let (negated, rest) := match rest with
      | '^' :: rest => (true, rest)
      | rest => (false, rest)
    match rest.span (· != ':') with
    | (name, ':' :: ']' :: left) => (AsciiClass.named? name).map fun k => (.ascii k negated, left)
    | _ => none
  | _ => none

/-- One member of a class or one end of a range. -/
def readClassAtom (verbose : Bool) : List Char → Option (Atom × List Char)
  | [] => none
  | '\\' :: rest => readEscape verbose rest
  | c :: rest => some (.literal c false, rest)

def Atom.classItem? : Atom → Option ClassExpr
  | .literal c _ => some (.literal c)
  | .shorthand k negated => some (.shorthand k negated)
  | .property q negated => some (.property q negated)
  | _ => none

/-- The character that tells whether a hyphen before `cs` makes a range. In verbose patterns it is
the first one that is no blank, after one number sign at most, so it may be part of a comment. -/
def afterHyphen (verbose : Bool) (cs : List Char) : Option Char :=
  if verbose then
    match cs.dropWhile isBlank with
    | '#' :: rest => (rest.dropWhile isBlank).head?
    | rest => rest.head?
  else cs.head?

/-- A member of a class, or a range. A hyphen that a closing bracket or another hyphen follows does
not make a range. -/
def readClassItem (verbose : Bool) (cs : List Char) : Option (ClassExpr × List Char) := do
  let (first, rest) ← readClassAtom verbose cs
  match skip verbose rest with
  | [] => none
  | '-' :: after =>
    let next := afterHyphen verbose after
    if next = some ']' || next = some '-' then
      (first.classItem?).map (·, '-' :: after)
    else
      let (last, left) ← readClassAtom verbose (skip verbose after)
      match first, last with
      | .literal a _, .literal b _ => if a ≤ b then some (.range a b, left) else none
      | _, _ => none
  | left => (first.classItem?).map (·, left)

/-- Reads up to the bracket that closes the outermost class. The classes around the open one wait
in `outer`. -/
def readClassItems (verbose : Bool) :
    Nat → List OpenClass → OpenClass → List Char → Option (Atom × List Char)
  | 0, _, _, _ => none
  | fuel + 1, outer, inner, cs =>
    match skip verbose cs with
    | [] => none
    | '[' :: rest =>
      match readAsciiClass rest with
      | some (item, left) => readClassItems verbose fuel outer (inner.push item) left
      | none =>
        let (start, left) := readClassStart verbose rest
        readClassItems verbose fuel (inner :: outer) start left
    | ']' :: rest =>
      match outer with
      | [] => some (.bracketed inner.negated inner.content, rest)
      | around :: outer =>
        readClassItems verbose fuel outer (around.push (.bracket inner.negated inner.content)) rest
    | '&' :: '&' :: rest =>
      readClassItems verbose fuel outer (inner.operate .intersection) rest
    | '-' :: '-' :: rest =>
      readClassItems verbose fuel outer (inner.operate .difference) rest
    | '~' :: '~' :: rest =>
      readClassItems verbose fuel outer (inner.operate .symmetricDifference) rest
    | c :: rest =>
      match readClassItem verbose (c :: rest) with
      | some (item, left) => readClassItems verbose fuel outer (inner.push item) left
      | none => none

/-- What follows the opening bracket of a class. -/
def readClass (verbose : Bool) (cs : List Char) : Option (Atom × List Char) :=
  let (start, left) := readClassStart verbose cs
  readClassItems verbose (left.length + 1) [] start left

/-! ## Groups -/

/-- Flags up to a colon or a closing parenthesis, which is given back too. -/
def readFlags (seen : FlagChanges) (negated dangling : Bool) :
    List Char → Option (FlagChanges × Char × List Char)
  | [] => none
  | c :: rest =>
    if c = ':' || c = ')' then
      if dangling then none else some (seen.reverse, c, rest)
    else if c = '-' then
      if negated then none else readFlags seen true true rest
    else
      match Flag.ofChar? c with
      | none => none
      | some flag =>
        if (seen.lookup flag).isSome then none
        else readFlags ((flag, !negated) :: seen) negated false rest

def isNameStart (c : Char) : Bool :=
  c = '_' || Text.isLetter c

def isNameRest (c : Char) : Bool :=
  c = '_' || c = '.' || c = '[' || c = ']' || Text.isLetter c || Text.isNumber c

/-- A group name and the angle bracket that ends it. -/
def readName (cs : List Char) : Option (List Char × List Char) :=
  match cs.span (· != '>') with
  | (first :: more, '>' :: left) =>
    if isNameStart first && more.all isNameRest then some (first :: more, left) else none
  | _ => none

/-- What follows an opening parenthesis. -/
def readOpening (verbose : Bool) (cs : List Char) : Option (Lexeme × List Char) :=
  match skip verbose cs with
  | '?' :: '=' :: _ => none
  | '?' :: '!' :: _ => none
  | '?' :: '<' :: '=' :: _ => none
  | '?' :: '<' :: '!' :: _ => none
  | '?' :: 'P' :: '<' :: rest =>
    (readName rest).map fun (name, left) => (.opening (.capturing (some name)), left)
  | '?' :: '<' :: rest =>
    (readName rest).map fun (name, left) => (.opening (.capturing (some name)), left)
  | '?' :: rest =>
    match readFlags [] false false rest with
    | none => none
    | some (changes, ':', left) => some (.opening (.plain changes), left)
    | some ([], _, _) => none
    | some (changes, _, left) => some (.flags changes, left)
  | rest => some (.opening (.capturing none), rest)

/-! ## The cut -/

/-- The first lexeme of a text that starts with neither a parenthesis nor nothing. -/
def readPlain (verbose : Bool) (c : Char) (rest : List Char) : Option (Lexeme × List Char) :=
  let loop := fun (least : Nat) (most : Option Nat) =>
    let (greedy, left) := readGreed rest
    some (Lexeme.rounds ⟨least, most⟩ greedy, left)
  match c with
  | '|' => some (.bar, rest)
  | '?' => loop 0 (some 1)
  | '*' => loop 0 none
  | '+' => loop 1 none
  | '{' =>
    match readRounds verbose rest with
    | none => none
    | some (rounds, left) =>
      let (greedy, left) := readGreed (skip verbose left)
      if rounds.isValid then some (.rounds rounds greedy, left) else none
  | '[' => (readClass verbose rest).map fun (a, left) => (.atom a, left)
  | '\\' => (readEscape verbose rest).map fun (a, left) => (.atom a, left)
  | '.' => some (.atom .dot, rest)
  | '^' => some (.atom (.anchor .lineStart), rest)
  | '$' => some (.atom (.anchor .lineEnd), rest)
  | _ => some (.atom (.literal c false), rest)

/-- Cuts `cs`, where `saved` holds what the flag `x` was before each open group. -/
def scanFrom : Nat → Bool → List Bool → List Char → Option (List Lexeme)
  | 0, _, _, _ => none
  | fuel + 1, verbose, saved, cs =>
    match skip verbose cs with
    | [] => some []
    | '(' :: rest =>
      match readOpening verbose rest with
      | none => none
      | some (.flags changes, left) =>
        (scanFrom fuel ((changes.value? .verbose).getD verbose) saved left).map
          (.flags changes :: ·)
      | some (.opening (.plain changes), left) =>
        (scanFrom fuel ((changes.value? .verbose).getD verbose) (verbose :: saved) left).map
          (.opening (.plain changes) :: ·)
      | some (lexeme, left) => (scanFrom fuel verbose (verbose :: saved) left).map (lexeme :: ·)
    | ')' :: rest =>
      match saved with
      | [] => none
      | outer :: saved => (scanFrom fuel outer saved rest).map (.closing :: ·)
    | c :: rest =>
      match readPlain verbose c rest with
      | none => none
      | some (lexeme, left) => (scanFrom fuel verbose saved left).map (lexeme :: ·)

def Lexeme.scan? (pattern : List Char) : Option (List Lexeme) :=
  scanFrom (pattern.length + 1) false [] pattern

end Pattern

end StepExpr
