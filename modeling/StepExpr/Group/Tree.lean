/-!
# The groups of a pattern

The tree of the capturing groups of a pattern, read off its parentheses. Groups that do not
capture are left out, and their groups belong to the group around them. The scan takes any text;
it knows escapes, and takes a class to reach from an opening bracket to the next closing one.
-/

namespace StepExpr

/-- A capturing group with the text between its parentheses. -/
inductive GroupTree where
  | node (source : List Char) (children : List GroupTree)
  deriving Repr

namespace GroupTree

def source : GroupTree → List Char
  | node source _ => source

def children : GroupTree → List GroupTree
  | node _ children => children

/-- Whether what follows an opening parenthesis makes its group one that does not capture. -/
def isPlain : List Char → Bool
  | '?' :: 'P' :: '<' :: _ => false
  | '?' :: '<' :: '=' :: _ => true
  | '?' :: '<' :: '!' :: _ => true
  | '?' :: '<' :: _ => false
  | '?' :: _ => true
  | _ => false

/-- A group that is still open. The whole pattern has no parenthesis, and so no `start`. -/
structure Open where
  /-- Where the text after the opening parenthesis begins. -/
  start : Option Nat
  capturing : Bool
  children : List GroupTree

def Open.whole : Open := ⟨none, true, []⟩

/-- The innermost group ends before the parenthesis at `stop`. -/
def close (pattern : List Char) (stop : Nat) : List Open → List Open
  | group :: parent :: outer =>
    let found :=
      if group.capturing then
        let start := group.start.getD 0
        [node ((pattern.drop start).take (stop - start)) group.children]
      else group.children
    { parent with children := parent.children ++ found } :: outer
  | _ => []

/-- What the scan knows between two characters. -/
structure Scan where
  escaped : Bool
  inClass : Bool
  /-- The innermost group first. -/
  opened : List Open

def Scan.start : Scan := ⟨false, false, [.whole]⟩

/-- Passes the character at `pos`, which `rest` follows. -/
def Scan.step (pattern : List Char) (pos : Nat) (s : Scan) (c : Char) (rest : List Char) : Scan :=
  if s.escaped then { s with escaped := false }
  else if c = '\\' then { s with escaped := true }
  else if c = '[' then { s with inClass := true }
  else if c = ']' then { s with inClass := false }
  else if s.inClass then s
  else if c = '(' then { s with opened := ⟨some (pos + 1), !isPlain rest, []⟩ :: s.opened }
  else if c = ')' then { s with opened := close pattern pos s.opened }
  else s

/-- Passes the rest of `pattern` from position `pos` on. -/
def scanFrom (pattern : List Char) (pos : Nat) (s : Scan) : List Char → Scan
  | [] => s
  | c :: rest => scanFrom pattern (pos + 1) (s.step pattern pos c rest) rest

/-- The root stands for the whole pattern, and its children for the outermost groups. -/
def ofPattern (pattern : List Char) : GroupTree :=
  match (scanFrom pattern 0 .start pattern).opened.getLast? with
  | some root => node [] root.children
  | none => node [] []

end GroupTree

/-- Drops the name at the head of a group's text: a question mark, perhaps a `P`, and what stands
between angle brackets. -/
def dropGroupName (source : List Char) : List Char :=
  let named := match source with
    | '?' :: 'P' :: '<' :: rest => some rest
    | '?' :: '<' :: rest => some rest
    | _ => none
  match named with
  | none => source
  | some rest =>
    match rest.span (· != '>') with
    | (_ :: _, '>' :: body) => body
    | _ => source

end StepExpr
