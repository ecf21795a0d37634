import StepExpr.Template.Node
import StepExpr.Template.Problem

/-!
# Reading the tree of a template

    expression  := ( alternation | optional | parameter | text )*
    alternation := alternative ( '/' alternative )+
    alternative := ( optional | parameter | text )*
    optional    := '(' ( optional | parameter | text )* ')'
    parameter   := '{' text* '}'

An alternation stands between the start of the line, a blank or the end of a parameter on its left,
and a blank, the beginning of a parameter or the end of the line on its right. A rule is tried
where the rules before it do not apply; it reads tokens from the front of a list and says how many
it took, or that it does not apply, or what is wrong.

* `applyRule` tries one rule, and `parseUntil` a sequence of them up to some kind of token;
* `parse` reads a whole template.
-/

namespace StepExpr.Template

/-- A part of a template that has a token at either end. -/
inductive Part where
  | expression
  | optional
  | parameter
  deriving DecidableEq, Repr

inductive Rule where
  | alternation
  | separator
  | between (part : Part)
  | text
  | name
  deriving DecidableEq, Repr

namespace Part

def opener : Part → TokenKind
  | expression => .lineStart
  | optional => .optionalBegin
  | parameter => .parameterBegin

def closer : Part → TokenKind
  | expression => .lineEnd
  | optional => .optionalEnd
  | parameter => .parameterEnd

def nodeKind : Part → NodeKind
  | expression => .expression
  | optional => .optional
  | parameter => .parameter

/-- The rules for what stands inside, the first to apply first. -/
def rules : Part → List Rule
  | expression => [.alternation, .between .optional, .between .parameter, .text]
  | optional => [.between .optional, .between .parameter, .text]
  | parameter => [.name]

end Part

def alternativeRules : List Rule :=
  [.separator, .between .optional, .between .parameter, .text]

/-- What a rule reads: a node, or the slash between two alternatives. -/
inductive Piece where
  | node (n : Node)
  | separator (span : Span)

namespace Piece

def node? : Piece → Option Node
  | node n => some n
  | separator _ => none

def isSeparator : Piece → Bool
  | node _ => false
  | separator _ => true

end Piece

/-- How many tokens a rule took, and what it read; or nothing, if it does not apply. -/
abbrev Reading := Except Problem (Option (Nat × Piece))

/-- What the first alternative to apply gives. -/
def firstReading (apply : Rule → Reading) : List Rule → Reading
  | [] => .ok none
  | rule :: rules =>
    match apply rule with
    | .ok none => firstReading apply rules
    | answer => answer

/-- The kind of the token before the rest of `tokens`, once `taken` of them are gone. -/
def kindBefore (previous : TokenKind) (tokens : List Token) (taken : Nat) : TokenKind :=
  match (tokens.take taken).getLast? with
  | some t => t.kind
  | none => previous

/-- What may stand on the left of an alternation. -/
def canPrecedeAlternation (k : TokenKind) : Bool :=
  k = .lineStart || k = .blank || k = .parameterEnd

/-- The kinds of token that end an alternation. -/
def alternationStops : List TokenKind := [.blank, .lineEnd, .parameterBegin]

/-- The alternatives that separators cut `pieces` into, within the part from `left` to `stop`. The
nodes of the first one before `pieces` are `nodes`, the latest first. -/
def alternatives (left stop : Nat) (nodes : List Node) : List Piece → List Node
  | [] => [.branch .alternative nodes.reverse ⟨left, stop⟩]
  | .node n :: pieces => alternatives left stop (n :: nodes) pieces
  | .separator span :: pieces =>
    .branch .alternative nodes.reverse ⟨left, span.start⟩ :: alternatives span.stop stop [] pieces

def readText : List Token → Reading
  | [] => .ok none
  | t :: _ =>
    match t.kind with
    | .blank | .text | .parameterEnd | .optionalEnd => .ok (some (1, .node (.text t.text t.span)))
    | .alternation => .error ⟨.alternationInOptional, t.span⟩
    | _ => .ok none

def readName : List Token → Reading
  | [] => .ok none
  | t :: _ =>
    match t.kind with
    | .blank | .text => .ok (some (1, .node (.text t.text t.span)))
    | .lineStart | .lineEnd => .ok none
    | _ => .error ⟨.reservedInName, t.span⟩

def readSeparator : List Token → Reading
  | [] => .ok none
  | t :: _ => if t.kind = .alternation then .ok (some (1, .separator t.span)) else .ok none

mutual

/-- Tries one rule on `tokens`, which stand behind a token of the kind `previous`. -/
def applyRule : Nat → Rule → TokenKind → List Token → Reading
  | 0, _, _, _ => .ok none
  | _ + 1, .text, _, tokens => readText tokens
  | _ + 1, .name, _, tokens => readName tokens
  | _ + 1, .separator, _, tokens => readSeparator tokens
  | fuel + 1, .between part, _, tokens =>
    match tokens with
    | [] => .ok none
    | first :: rest =>
      if first.kind ≠ part.opener then .ok none
      else
        match parseUntil fuel part.rules [part.closer, .lineEnd] first.kind rest with
        | .error problem => .error problem
        | .ok (taken, pieces) =>
          match (rest.drop taken).head? with
          | some last =>
            if last.kind = part.closer then
              let span := ⟨first.span.start, last.span.stop⟩
              let children := pieces.filterMap Piece.node?
              .ok (some (taken + 2, .node (.branch part.nodeKind children span)))
            else .error ⟨.missingEnd part.opener part.closer, first.span⟩
          | none => .error ⟨.missingEnd part.opener part.closer, first.span⟩
  | fuel + 1, .alternation, previous, tokens =>
    if !canPrecedeAlternation previous then .ok none
    else
      match parseUntil fuel alternativeRules alternationStops previous tokens with
      | .error problem => .error problem
      | .ok (taken, pieces) =>
        if !pieces.any Piece.isSeparator then .ok none
        else
          match tokens.head?, (tokens.drop taken).head? with
          | some first, some boundary =>
            let span := ⟨first.span.start, boundary.span.start⟩
            let nodes := alternatives span.start span.stop [] pieces
            .ok (some (taken, .node (.branch .alternation nodes span)))
          | _, _ => .ok none

/-- Reads pieces up to a token of a kind in `stops`, or up to where no rule applies. Gives how many
tokens were taken, and the pieces. -/
def parseUntil : Nat → List Rule → List TokenKind → TokenKind → List Token →
    Except Problem (Nat × List Piece)
  | 0, _, _, _, _ => .ok (0, [])
  | fuel + 1, rules, stops, previous, tokens =>
    match tokens with
    | [] => .ok (0, [])
    | t :: _ =>
      if stops.contains t.kind then .ok (0, [])
      else
        match firstReading (fun rule => applyRule fuel rule previous tokens) rules with
        | .error problem => .error problem
        | .ok none => .ok (0, [])
        | .ok (some (taken, piece)) =>
          let next := kindBefore previous tokens taken
          match parseUntil fuel rules stops next (tokens.drop taken) with
          | .error problem => .error problem
          | .ok (more, pieces) => .ok (taken + more, piece :: pieces)

end

/-- Enough for any rule: each token is reached through at most four calls. -/
def parseFuel (tokens : List Token) : Nat := 4 * tokens.length + 4

/-- Reads the tree of a whole list of tokens. -/
def parseTokens (tokens : List Token) : Except Problem Node :=
  match applyRule (parseFuel tokens) (.between .expression) .lineStart tokens with
  | .error problem => .error problem
  | .ok (some (_, .node root)) => .ok root
  | .ok _ => .ok (.branch .expression [] ⟨0, 0⟩)

def parse (source : List Char) : Except Problem Node := do
  let tokens ← (tokenize source).mapError EscapeError.problem
  parseTokens tokens

end StepExpr.Template
