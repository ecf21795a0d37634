import StepExpr.Unicode.Table
import StepExpr.Unicode.CategoryTable

/-!
# General categories

The general category of a character, under the two-letter abbreviations of the standard.
-/

namespace StepExpr.Unicode

inductive Category where
  | lu | ll | lt | lm | lo
  | mn | mc | me
  | nd | nl | no
  | pc | pd | ps | pe | pi | pf | po
  | sm | sc | sk | so
  | zs | zl | zp
  | cc | cf | cs | co | cn
  deriving DecidableEq, Repr

namespace Category

def ofAbbreviation? : String → Option Category
  | "Lu" => some lu | "Ll" => some ll | "Lt" => some lt | "Lm" => some lm | "Lo" => some lo
  | "Mn" => some mn | "Mc" => some mc | "Me" => some me
  | "Nd" => some nd | "Nl" => some nl | "No" => some no
  | "Pc" => some pc | "Pd" => some pd | "Ps" => some ps | "Pe" => some pe
  | "Pi" => some pi | "Pf" => some pf | "Po" => some po
  | "Sm" => some sm | "Sc" => some sc | "Sk" => some sk | "So" => some so
  | "Zs" => some zs | "Zl" => some zl | "Zp" => some zp
  | "Cc" => some cc | "Cf" => some cf | "Cs" => some cs | "Co" => some co | "Cn" => some cn
  | _ => none

def letters : List Category := [lu, ll, lt, lm, lo]
def casedLetters : List Category := [lu, ll, lt]
def marks : List Category := [mn, mc, me]
def numbers : List Category := [nd, nl, no]
def punctuation : List Category := [pc, pd, ps, pe, pi, pf, po]
def symbols : List Category := [sm, sc, sk, so]
def separators : List Category := [zs, zl, zp]
def others : List Category := [cc, cf, cs, co, cn]

/-- The categories that a name stands for. Names are matched loosely, so these are in lower case
and without spaces, hyphens and underscores. -/
def named? : String → Option (List Category)
  | "l" | "letter" => some letters
  | "lc" | "casedletter" => some casedLetters
  | "lu" | "uppercaseletter" => some [lu]
  | "ll" | "lowercaseletter" => some [ll]
  | "lt" | "titlecaseletter" => some [lt]
  | "lm" | "modifierletter" => some [lm]
  | "lo" | "otherletter" => some [lo]
  | "m" | "mark" | "combiningmark" => some marks
  | "mn" | "nonspacingmark" => some [mn]
  | "mc" | "spacingmark" => some [mc]
  | "me" | "enclosingmark" => some [me]
  | "n" | "number" => some numbers
  | "nd" | "decimalnumber" | "digit" => some [nd]
  | "nl" | "letternumber" => some [nl]
  | "no" | "othernumber" => some [no]
  | "p" | "punctuation" | "punct" => some punctuation
  | "pc" | "connectorpunctuation" => some [pc]
  | "pd" | "dashpunctuation" => some [pd]
  | "ps" | "openpunctuation" => some [ps]
  | "pe" | "closepunctuation" => some [pe]
  | "pi" | "initialpunctuation" => some [pi]
  | "pf" | "finalpunctuation" => some [pf]
  | "po" | "otherpunctuation" => some [po]
  | "s" | "symbol" => some symbols
  | "sm" | "mathsymbol" => some [sm]
  | "sc" | "currencysymbol" => some [sc]
  | "sk" | "modifiersymbol" => some [sk]
  | "so" | "othersymbol" => some [so]
  | "z" | "separator" => some separators
  | "zs" | "spaceseparator" => some [zs]
  | "zl" | "lineseparator" => some [zl]
  | "zp" | "paragraphseparator" => some [zp]
  | "c" | "other" => some others
  | "cc" | "control" | "cntrl" => some [cc]
  | "cf" | "format" => some [cf]
  | "co" | "privateuse" => some [co]
  | "cn" | "unassigned" => some [cn]
  | _ => none

def table : Table Category :=
  Table.ofText ofAbbreviation? categoryText

/-- A character outside the table is unassigned. -/
def ofChar (c : Char) : Category :=
  (table.find? c.toNat).getD cn

def unassigned : CharSet := (table.select fun _ => true).compl

/-- The characters of some categories. -/
def set (cs : List Category) : CharSet :=
  let assigned := table.select cs.contains
  if cs.contains cn then assigned.union unassigned else assigned

/-- The set that a loose name stands for: of categories, or of all, all ASCII or all assigned
characters. -/
def set? : String → Option CharSet
  | "any" => some .all
  | "ascii" => some (.range '\x00' '\x7f')
  | "assigned" => some unassigned.compl
  | name => (named? name).map set

end Category

end StepExpr.Unicode
