import StepExpr.Unicode.CharSet

/-!
# Sets of characters as UTF-8

A set of characters is the set of some sequences of byte ranges: a character is in the set if its
bytes are in the ranges of one sequence, each byte in its own range.

* `CodeRange.parts` cuts a range of code points where a single sequence cannot stand for it;
* `CharSet.sequences` lists the sequences of a set, in the order of the characters;
* `ByteTrie` merges sequences that begin alike.
-/

namespace StepExpr

/-- The bytes `first` to `last`, both included. -/
structure ByteRange where
  first : UInt8
  last : UInt8
  deriving DecidableEq, Repr

namespace CodeRange

/-- What two ranges have in common, if anything. -/
def meet? (r s : CodeRange) : Option CodeRange :=
  let low := max r.first s.first
  let high := min r.last s.last
  if low ≤ high then some ⟨low, high⟩ else none

/-- Cuts a range at the ends of blocks: what reaches into a block that it does not fill, at either
end, is a part of its own. The next size cuts the full blocks in the middle. -/
def blocks : List Nat → CodeRange → List CodeRange
  | [], r => [r]
  | size :: sizes, r =>
    if r.first / size = r.last / size then [r]
    else
      let low := (r.first + size - 1) / size * size
      let high := (r.last + 1) / size * size
      let before := if r.first < low then [⟨r.first, low - 1⟩] else []
      let inside := if low < high then blocks sizes ⟨low, high - 1⟩ else []
      let after := if high ≤ r.last then [⟨high, r.last⟩] else []
      before ++ inside ++ after

/-- The code points of one length in UTF-8 without surrogates, with the sizes of the blocks that
share all bytes but the last, the last two and so on. -/
def lengthClasses : List (CodeRange × List Nat) :=
  [(⟨0, 0x7F⟩, []), (⟨0x80, 0x7FF⟩, [0x40]), (⟨0x800, 0xD7FF⟩, [0x40, 0x1000]),
    (⟨0xE000, 0xFFFF⟩, [0x40, 0x1000]), (⟨0x10000, 0x10FFFF⟩, [0x40, 0x1000, 0x40000])]

/-- Cuts a range into parts that are one sequence each. -/
def parts (r : CodeRange) : List CodeRange :=
  lengthClasses.flatMap fun (s, sizes) => (r.meet? s).toList.flatMap (blocks sizes)

def bytes (code : Nat) : List UInt8 := String.utf8EncodeChar (Char.ofNat code)

/-- The sequence of a part. -/
def sequence (r : CodeRange) : List ByteRange :=
  (bytes r.first).zipWith ByteRange.mk (bytes r.last)

end CodeRange

def CharSet.sequences (s : CharSet) : List (List ByteRange) :=
  (s.ranges.flatMap CodeRange.parts).map CodeRange.sequence

/-- Sequences merged where they begin alike. A trie lists its branches; `last` is a branch that ends
a sequence, and `step` one that goes on `below`. -/
inductive ByteTrie where
  | nil
  | last (r : ByteRange) (others : ByteTrie)
  | step (r : ByteRange) (below others : ByteTrie)
  deriving DecidableEq, Repr

namespace ByteTrie

def ofSequence : List ByteRange → ByteTrie
  | [] => nil
  | [r] => last r nil
  | r :: rs => step r (ofSequence rs) nil

def insert : ByteTrie → List ByteRange → ByteTrie
  | nil, rs => ofSequence rs
  | last r others, rs => last r (others.insert rs)
  | step r below others, [] => step r below others
  | step r below others, s :: rs =>
    if r = s then step r (below.insert rs) others else step r below (others.insert (s :: rs))

def ofSequences (sequences : List (List ByteRange)) : ByteTrie :=
  sequences.foldl insert nil

end ByteTrie

end StepExpr
