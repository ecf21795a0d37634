import StepExpr.Regex.Basic

/-!
# Simplified expressions

Expressions are built in a simplified form, which matches the same texts. It matters which match is
preferred: a choice whose branches begin alike tries the common part only once, so a later branch
can take part before all ways through the common part are tried.

* `append` joins texts that become neighbours, and `ofSet` makes a set of one character a text;
* `repeated` has no rounds that cannot matter;
* `alternation` makes a set of branches that are characters or sets, and takes the common beginning
  out of branches that are concatenations.
-/

namespace StepExpr

namespace Regex

/-- The set that no character is in. -/
def never : Regex := set false .empty

def ofSet (ascii : Bool) (s : CharSet) : Regex :=
  if s.isEmpty then never
  else
    match s.only? with
    | some c => literal [c]
    | none => set ascii s

/-! ## Concatenation -/

def append : Regex → Regex → Regex
  | empty, b => b
  | cat a rest, b => cat a (rest.append b)
  | a, empty => a
  | literal cs, literal ds => literal (cs ++ ds)
  | literal cs, cat (literal ds) rest => cat (literal (cs ++ ds)) rest
  | a, b => cat a b

def concat (rs : List Regex) : Regex := rs.foldr append empty

/-- The parts of a concatenation. -/
def items : Regex → List Regex
  | cat a rest => a :: rest.items
  | r => [r]

def isCat : Regex → Bool
  | cat _ _ => true
  | _ => false

/-! ## Repetition -/

/-- What is always empty need not be matched more than once. -/
def repeated (least : Nat) (most : Option Nat) (greedy : Bool) (r : Regex) : Regex :=
  let (least, most) :=
    if r.isBlank then (min least 1, some (min (most.getD 1) 1)) else (least, most)
  if least = 0 ∧ most = some 0 then empty
  else if least = 1 ∧ most = some 1 then r
  else rounds least most greedy r

/-! ## Choice -/

/-- The branches of a choice. -/
def branches : Regex → List Regex
  | alt a rest => a :: rest.branches
  | r => [r]

def ofBranches : List Regex → Regex
  | [] => never
  | [r] => r
  | r :: rs => alt r (ofBranches rs)

def char? : Regex → Option Char
  | literal [c] => some c
  | _ => none

def set? : Regex → Option CharSet
  | set _ s => some s
  | _ => none

/-- The set that all branches together stand for, if they are all characters or all sets. -/
def unionSet? (rs : List Regex) : Option CharSet :=
  ((rs.mapM char?).map CharSet.ofChars).or ((rs.mapM set?).map CharSet.unions)

/-- The longest common beginning of two lists. -/
def commonPrefix : List Regex → List Regex → List Regex
  | a :: as, b :: bs => if a = b then a :: commonPrefix as bs else []
  | _, _ => []

/-- The common beginning of some concatenations, if there is any. -/
def sharedItems (rs : List Regex) : List Regex :=
  match rs with
  | r :: others =>
    if rs.all isCat then others.foldl (fun shared s => commonPrefix shared s.items) r.items else []
  | [] => []

/-- Simplifies a choice, taking out common beginnings at most `depth` deep. -/
def alternationTo (depth : Nat) (rs : List Regex) : Regex :=
  match rs with
  | [r] => r
  | _ =>
    let rs := rs.flatMap branches
    match unionSet? rs, depth with
    | some s, _ => ofSet false s
    | none, 0 => ofBranches rs
    | none, depth + 1 =>
      let shared := sharedItems rs
      if shared.isEmpty then ofBranches rs
      else
        let rests := rs.map fun r => concat (r.items.drop shared.length)
        concat (shared ++ [alternationTo depth rests])

/-- How many nodes an expression has. -/
def nodeCount : Regex → Nat
  | cat a b => a.nodeCount + b.nodeCount + 1
  | alt a b => a.nodeCount + b.nodeCount + 1
  | rounds _ _ _ r => r.nodeCount + 1
  | group _ r => r.nodeCount + 1
  | _ => 1

def alternation : List Regex → Regex
  | [r] => r
  | rs => alternationTo (rs.foldr (fun r count => r.nodeCount + count) 0) rs

end Regex

end StepExpr
