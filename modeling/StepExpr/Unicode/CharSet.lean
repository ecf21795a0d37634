/-!
# Sets of characters

A set of characters is kept as ranges of code points. The ranges are sorted and disjoint, and the
operations here keep them so.

* `CharSet.contains` decides membership;
* `CharSet.ofRanges` sorts and joins any ranges;
* `union`, `compl`, `inter`, `diff` and `symmDiff` are the operations of pattern classes.
-/

namespace StepExpr

/-- The code points `first` to `last`, both included. -/
structure CodeRange where
  first : Nat
  last : Nat
  deriving DecidableEq, Repr

structure CharSet where
  ranges : List CodeRange
  deriving DecidableEq, Repr

namespace CharSet

def maxCode : Nat := 0x10FFFF

/-- The code of the next character. Surrogates are no characters. -/
def next (code : Nat) : Nat := if code = 0xD7FF then 0xE000 else code + 1

/-- The code of the character before. -/
def previous (code : Nat) : Nat := if code = 0xE000 then 0xD7FF else code - 1

/-! ## Membership -/

def holdsIn (code : Nat) (rs : List CodeRange) : Bool :=
  rs.any fun r => r.first ≤ code && code ≤ r.last

def contains (s : CharSet) (c : Char) : Bool := holdsIn c.toNat s.ranges

/-! ## Building sets -/

def empty : CharSet := ⟨[]⟩

def all : CharSet := ⟨[⟨0, maxCode⟩]⟩

def range (first last : Char) : CharSet := ⟨[⟨first.toNat, last.toNat⟩]⟩

def single (c : Char) : CharSet := range c c

/-- Joins neighbours that overlap or touch, in a list sorted by first points. -/
def joinFrom (r : CodeRange) : List CodeRange → List CodeRange
  | [] => [r]
  | s :: rest =>
    if s.first ≤ r.last + 1 then joinFrom ⟨r.first, max r.last s.last⟩ rest
    else r :: joinFrom s rest

def join : List CodeRange → List CodeRange
  | [] => []
  | r :: rest => joinFrom r rest

/-- The set of any ranges. -/
def ofRanges (rs : List CodeRange) : CharSet :=
  ⟨join (rs.mergeSort fun a b => a.first ≤ b.first)⟩

/-- The set of the ranges with the given ends. -/
def ofEnds (ends : List (Char × Char)) : CharSet :=
  ofRanges (ends.map fun (first, last) => ⟨first.toNat, last.toNat⟩)

def ofChars (cs : List Char) : CharSet :=
  ofRanges (cs.map fun c => ⟨c.toNat, c.toNat⟩)

/-! ## Operations -/

def unions (sets : List CharSet) : CharSet :=
  ofRanges (sets.flatMap ranges)

def union (a b : CharSet) : CharSet := unions [a, b]

/-- What lies between two ranges, from the character after `a` to the one before `b`. Around the
surrogates these two are the wrong way round, and stand for the range that they are the ends of. -/
def gap (a b : CodeRange) : CodeRange :=
  let low := next a.last
  let high := previous b.first
  if low ≤ high then ⟨low, high⟩ else ⟨high, low⟩

def gapsFrom (r : CodeRange) : List CodeRange → List CodeRange
  | [] => if r.last < maxCode then [⟨next r.last, maxCode⟩] else []
  | s :: rest => gap r s :: gapsFrom s rest

def compl (s : CharSet) : CharSet :=
  match s.ranges with
  | [] => all
  | r :: rest =>
    let before := if 0 < r.first then [⟨0, previous r.first⟩] else []
    ⟨before ++ gapsFrom r rest⟩

def interFrom : List CodeRange → List CodeRange → List CodeRange
  | [], _ => []
  | _, [] => []
  | a :: as, b :: bs =>
    let low := max a.first b.first
    let high := min a.last b.last
    let rest := if a.last < b.last then interFrom as (b :: bs) else interFrom (a :: as) bs
    if low ≤ high then ⟨low, high⟩ :: rest else rest
termination_by as bs => as.length + bs.length

def inter (a b : CharSet) : CharSet := ⟨interFrom a.ranges b.ranges⟩

/-- What is left of a range without those of a list. -/
def outside (r : CodeRange) : List CodeRange → List CodeRange
  | [] => [r]
  | s :: rest =>
    if s.last < r.first then outside r rest
    else if r.last < s.first then [r]
    else
      let before := if r.first < s.first then [⟨r.first, previous s.first⟩] else []
      let after := if s.last < r.last then outside ⟨next s.last, r.last⟩ rest else []
      before ++ after

def diff (a b : CharSet) : CharSet := ⟨a.ranges.flatMap (outside · b.ranges)⟩

/-- The characters of exactly one of two sets. -/
def symmDiff (a b : CharSet) : CharSet := diff (union a b) (inter a b)

/-! ## Shape -/

def isEmpty (s : CharSet) : Bool := s.ranges.isEmpty

def isAscii (s : CharSet) : Bool := s.ranges.getLast?.all fun r => r.last < 128

/-- The only character of a set, if it has just one. -/
def only? (s : CharSet) : Option Char :=
  match s.ranges with
  | [r] => if r.first = r.last ∧ r.first.isValidChar then some (Char.ofNat r.first) else none
  | _ => none

@[simp] theorem contains_empty (c : Char) : empty.contains c = false := rfl

@[simp] theorem contains_range (first last c : Char) :
    (range first last).contains c = (decide (first ≤ c) && decide (c ≤ last)) := by
  simp only [range, contains, holdsIn, List.any_cons, List.any_nil, Bool.or_false, Char.le_def,
    UInt32.le_iff_toNat_le]
  rfl

@[simp] theorem contains_single (c d : Char) : (single c).contains d = decide (d = c) := by
  rw [single, contains_range]
  by_cases h : d = c
  · simp [h]
  · have : ¬ (c ≤ d ∧ d ≤ c) := fun ⟨h₁, h₂⟩ => h (Char.le_antisymm h₂ h₁)
    simpa [h] using this

end CharSet

end StepExpr
