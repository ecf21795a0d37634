import StepExpr.Unicode.Table
import StepExpr.Unicode.CaseFoldTable

/-!
# Case variants

The characters that simple case folding identifies with a character.

* `CharSet.fold` adds the case variants of its characters to a set, and `CharSet.foldAscii` does so
  for ASCII letters only.
-/

namespace StepExpr

namespace Unicode

/-- The characters of an orbit, each with the others as its variants. -/
def orbitEntries (orbit : List Nat) : List (LabelledRange (List Char)) :=
  orbit.map fun point => ⟨⟨point, point⟩, (orbit.filter (· ≠ point)).map Char.ofNat⟩

def caseVariantTable : Table (List Char) :=
  ⟨((caseOrbits.flatMap orbitEntries).mergeSort fun a b => a.range.first ≤ b.range.first).toArray⟩

/-- The other characters with the same simple case folding. -/
def caseVariants (c : Char) : List Char :=
  (caseVariantTable.find? c.toNat).getD []

/-- The other case of an ASCII letter. -/
def asciiCaseVariants (c : Char) : List Char :=
  if c.isUpper then [c.toLower] else if c.isLower then [c.toUpper] else []

end Unicode

namespace CharSet

open Unicode

/-- The case variants of a set, the set included. -/
def fold (s : CharSet) : CharSet :=
  let variants := caseVariantTable.ranges.toList.flatMap fun entry =>
    if holdsIn entry.range.first s.ranges then entry.label else []
  s.union (ofChars variants)

/-- As `fold`, for the variants of ASCII letters only. -/
def foldAscii (s : CharSet) : CharSet :=
  let letters := (List.range 128).map Char.ofNat
  s.union (ofChars ((letters.filter s.contains).flatMap asciiCaseVariants))

end CharSet

end StepExpr
