import StepExpr.Unicode.Property

/-!
# Tokens of a template

A template is cut into runs of blanks, runs of text and single delimiters. A backslash makes the
character after it text. Positions count characters of the template, backslashes included.

* `Lexer.step` reads one character: it joins the token that is being read, or completes it and
  begins another;
* `tokenize` reads all of them, and puts an empty token at each end.
-/

namespace StepExpr.Template

inductive TokenKind where
  | lineStart
  | lineEnd
  | blank
  | optionalBegin
  | optionalEnd
  | parameterBegin
  | parameterEnd
  | alternation
  | text
  deriving DecidableEq, Repr

namespace TokenKind

/-- The kind of a character that is not escaped. -/
def ofChar (c : Char) : TokenKind :=
  match c with
  | '/' => alternation
  | '\x7b' => parameterBegin
  | '\x7d' => parameterEnd
  | '(' => optionalBegin
  | ')' => optionalEnd
  | _ => if Unicode.isBlank c then blank else text

/-- The delimiter that a token of the kind stands for. -/
def symbol : TokenKind → String
  | optionalBegin => "("
  | optionalEnd => ")"
  | parameterBegin => "\x7b"
  | parameterEnd => "\x7d"
  | alternation => "/"
  | lineStart | lineEnd | blank | text => ""

/-- What the delimiter is for, in the words of error messages. -/
def purpose : TokenKind → String
  | optionalBegin | optionalEnd => "optional text"
  | parameterBegin | parameterEnd => "a parameter"
  | alternation => "alternation"
  | lineStart | lineEnd | blank | text => ""

def name : TokenKind → String
  | lineStart => "START_OF_LINE"
  | lineEnd => "END_OF_LINE"
  | blank => "WHITE_SPACE"
  | optionalBegin => "BEGIN_OPTIONAL"
  | optionalEnd => "END_OPTIONAL"
  | parameterBegin => "BEGIN_PARAMETER"
  | parameterEnd => "END_PARAMETER"
  | alternation => "ALTERNATION"
  | text => "TEXT"

/-- Neighbours of such a kind are one token. -/
def isRun : TokenKind → Bool
  | blank | text => true
  | _ => false

end TokenKind

/-- The delimiters, and the backslash itself. -/
def isReserved (c : Char) : Bool :=
  c = '\\' || c = '/' || c = '\x7b' || c = '\x7d' || c = '(' || c = ')'

/-- Whether a backslash can stand before `c`. -/
def canEscape (c : Char) : Bool :=
  Unicode.isBlank c || isReserved c

/-- The part of a template from `start` up to `stop`, left out. -/
structure Span where
  start : Nat
  stop : Nat
  deriving DecidableEq, Repr

structure Token where
  kind : TokenKind
  /-- The text without escaping backslashes. -/
  text : List Char
  /-- The text as written. -/
  source : List Char
  span : Span
  deriving DecidableEq, Repr

/-- Why a template does not cut into tokens. -/
inductive EscapeError where
  /-- The character at `pos` cannot be escaped. -/
  | cantEscape (pos : Nat)
  /-- The backslash at `pos` ends the template. -/
  | nothingToEscape (pos : Nat)
  deriving DecidableEq, Repr

/-- An empty token at `pos`. -/
def edgeToken (kind : TokenKind) (pos : Nat) : Token := ⟨kind, [], [], ⟨pos, pos⟩⟩

/-! ## One pass -/

/-- What is known of a template after some of its characters. -/
structure Lexer where
  /-- The tokens that are complete. -/
  tokens : Array Token
  /-- The kind of the token that is being read. -/
  kind : TokenKind
  /-- Whether the last character was a backslash that escapes the next one. -/
  escaping : Bool
  /-- The text of the token that is being read. -/
  buffer : Array Char
  /-- How many characters are in the buffer. -/
  buffered : Nat
  /-- How many backslashes have been read that are in no complete token. -/
  escaped : Nat
  /-- Where the token that is being read starts. -/
  offset : Nat

namespace Lexer

/-- Before the first of `chars`. The first token has no characters, and is complete when another
one begins. -/
def initial (chars : Array Char) : Lexer :=
  ⟨if chars.isEmpty then #[edgeToken .lineStart 0] else #[], .lineStart, false, #[], 0, 0, 0⟩

/-- The token that is being read, if it stops at `stop`. -/
def token (l : Lexer) (chars : Array Char) (stop : Nat) : Token :=
  ⟨l.kind, l.buffer.toList, (chars.extract l.offset stop).toList, ⟨l.offset, stop⟩⟩

/-- Completes the token that is being read. A backslash that is not part of it is left for the next
one. -/
def flush (l : Lexer) (chars : Array Char) : Lexer :=
  let escapes := if l.kind = .text then l.escaped else 0
  let stop := l.offset + l.buffered + escapes
  { l with
    tokens := l.tokens.push (l.token chars stop)
    buffer := #[]
    buffered := 0
    escaped := l.escaped - escapes
    offset := stop }

/-- Adds a character of the kind to the token that is being read, or begins another one with it. -/
def push (l : Lexer) (chars : Array Char) (kind : TokenKind) (c : Char) : Lexer :=
  let l := if kind = l.kind ∧ kind.isRun then l else l.flush chars
  { l with kind, escaping := false, buffer := l.buffer.push c, buffered := l.buffered + 1 }

/-- Reads the next character. -/
def step (chars : Array Char) (l : Lexer) (c : Char) : Except EscapeError Lexer :=
  if l.escaping then
    if canEscape c then .ok (l.push chars .text c)
    else .error (.cantEscape (l.offset + l.buffered + l.escaped))
  else if c = '\\' then .ok { l with escaping := true, escaped := l.escaped + 1 }
  else .ok (l.push chars (.ofChar c) c)

/-- Behind the last character. -/
def finish (chars : Array Char) (l : Lexer) : Except EscapeError (List Token) :=
  let l := if 0 < l.buffered then l.flush chars else l
  if l.escaping then .error (.nothingToEscape (chars.size - 1))
  else .ok (l.tokens.push (edgeToken .lineEnd chars.size)).toList

end Lexer

def tokenize (source : List Char) : Except EscapeError (List Token) :=
  let chars := source.toArray
  source.foldlM (Lexer.step chars) (.initial chars) >>= Lexer.finish chars

end StepExpr.Template
