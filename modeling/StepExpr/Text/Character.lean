import StepExpr.Unicode.Property

/-!
# Letters, digits and printable characters of texts

Texts know a later version of the standard than patterns do, and its additions stand here. No
character lost a property of these between the two.
-/

namespace StepExpr.Text

def addedLetters : CharSet :=
  .ofText "88F C5C CDC A7CE-A7CF A7D2 A7D4 A7F1 10940-10959 10EC5-10EC7 10EFA-10EFB 11B60-11B67
    11DB0-11DDB 16EA0-16EB8 16EBB-16ED3 16FF2-16FF6 187F8-187FF 18D09-18D1E 18D80-18DF2
    1E6C0-1E6DE 1E6E0-1E6F5 1E6FE-1E6FF 2B73A-2B73F 2CEA2-2CEAD 323B0-33479"

def addedNumbers : CharSet := .ofText "11DE0-11DE9 16FF4-16FF6"

def addedExtenders : CharSet :=
  .ofText "1ACF-1ADD 1AE0-1AEB 10EFA-10EFB 11B60 11B62-11B64 11B66 1E6E3 1E6E6 1E6EE-1E6EF 1E6F5"

/-- Added characters that are neither letters, numbers nor grapheme extenders. -/
def addedSigns : CharSet :=
  .ofText "20C1 2B96 FBC3-FBD2 FD90-FD91 FDC8-FDCE 10ED0-10ED8 1CCFA-1CCFC 1CEBA-1CED0 1CEE0-1CEF0
    1F6D8 1F777-1F77A 1F8D0-1F8D8 1FA54-1FA57 1FA8A 1FA8E 1FAC8 1FACD 1FAEA 1FAEF 1FBFA"

def letters : CharSet := Unicode.alphabetic.union addedLetters

def isLetter (c : Char) : Bool :=
  if c.toNat < 128 then c.isAlpha else letters.contains c

def numbers : CharSet := (Unicode.Category.set Unicode.Category.numbers).union addedNumbers

def isNumber (c : Char) : Bool :=
  if c.toNat < 128 then c.isDigit else numbers.contains c

/-- Characters that join the one before them. The halfwidth sound marks stand on their own. -/
def extenders : CharSet :=
  (Unicode.graphemeExtend.union addedExtenders).diff (.ofText "FF9E-FF9F")

/-- Separators, controls, private and unassigned characters, and those that do not show. -/
def hidden : CharSet :=
  (CharSet.unions [Unicode.Category.set (Unicode.Category.separators ++ Unicode.Category.others),
    Unicode.ignorable]).diff (.unions [addedLetters, addedNumbers, addedExtenders, addedSigns])

/-- Whether a character of a text can be shown as it is. -/
def isShown (c : Char) : Bool :=
  if c.toNat < 128 then ' ' ≤ c && c ≤ '~' else !extenders.contains c && !hidden.contains c

end StepExpr.Text
