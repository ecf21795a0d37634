import StepExpr.Unicode.Property
import StepExpr.Unicode.Script

/-!
# Text segments

The classes of characters that tell graphemes, words and sentences apart. Most are defined by
categories and properties, with lists of exceptions.

* `graphemeBreakSet?`, `wordBreakSet?` and `sentenceBreakSet?` find a class by its loose name.
-/

namespace StepExpr.Unicode

def newline : CharSet := .single '\n'
def carriageReturn : CharSet := .single '\r'
def joiner : CharSet := .single '\u200d'

def scriptSet (code : String) : CharSet := (Script.mk code).set

/-! ## Graphemes -/

/-- Characters that end a grapheme on either side. -/
def graphemeControl : CharSet :=
  (CharSet.unions [Category.set [.cc, .zl, .zp, .cf], Category.unassigned.inter ignorable]).diff
    (.unions [newline, carriageReturn, joiner, prependedMarks, graphemeExtend])

def spacingMarks : CharSet :=
  ((Category.set [.mc]).union (.ofText "E33 EB3")).diff
    (graphemeExtend.union (.ofText notSpacingMarkText))

/-- Hangul syllables of two parts start every block of 28. -/
def openSyllables : CharSet :=
  .ofRanges ((List.range 399).map fun block => ⟨0xAC00 + 28 * block, 0xAC00 + 28 * block⟩)

def syllables : CharSet := .ofText "AC00-D7A3"

def graphemeBreakSet? : String → Option CharSet
  | "cn" | "control" => some graphemeControl
  | "cr" => some carriageReturn
  | "lf" => some newline
  | "ex" | "extend" => some (graphemeExtend.union emojiModifiers)
  | "l" => some (.ofText "1100-115F A960-A97C")
  | "v" => some (.ofText "1160-11A7 D7B0-D7C6 16D63 16D67-16D6A")
  | "t" => some (.ofText "11A8-11FF D7CB-D7FB")
  | "lv" => some openSyllables
  | "lvt" => some (syllables.diff openSyllables)
  | "pp" | "prepend" => some (.ofText prependText)
  | "ri" | "regionalindicator" => some regionalIndicators
  | "sm" | "spacingmark" => some spacingMarks
  | "zwj" => some joiner
  | _ => none

/-! ## Words -/

def wordExtend : CharSet := .unions [graphemeExtend, Category.set [.mc], emojiModifiers]

def wordFormat : CharSet :=
  (Category.set [.cf]).diff
    (.unions [graphemeExtend, prependedMarks, joiner, .single '\u200b'])

def wordKatakana : CharSet := .ofText wordKatakanaText

def hebrewLetters : CharSet := .ofText hebrewLetterText

def wordNumeric : CharSet := decimalDigits.union (.ofText notDigitNumericText)

/-- Letters of scripts that put spaces between words. -/
def wordLetters : CharSet :=
  let other := CharSet.unions [ideographs, wordKatakana, hebrewLetters, wordExtend,
    scriptSet "Thai", scriptSet "Laoo", scriptSet "Hira", .ofText wordLetterLessText]
  (alphabetic.diff other).union (.ofText wordLetterMoreText)

def wordBreakSet? : String → Option CharSet
  | "le" | "aletter" => some wordLetters
  | "cr" => some carriageReturn
  | "lf" => some newline
  | "nl" | "newline" => some (.ofText "B-C 85 2028-2029")
  | "dq" | "doublequote" => some (.single '"')
  | "sq" | "singlequote" => some (.single '\'')
  | "extend" => some wordExtend
  | "ex" | "extendnumlet" => some ((Category.set [.pc]).union (.single '\u202f'))
  | "fo" | "format" => some wordFormat
  | "hl" | "hebrewletter" => some hebrewLetters
  | "ka" | "katakana" => some wordKatakana
  | "ml" | "midletter" => some (.ofText midLetterText)
  | "mn" | "midnum" => some (.ofText midNumberText)
  | "mb" | "midnumlet" => some (.ofText midNumberLetterText)
  | "nu" | "numeric" => some wordNumeric
  | "ri" | "regionalindicator" => some regionalIndicators
  | "wsegspace" => some (.ofText "20 1680 2000-2006 2008-200A 205F 3000")
  | "zwj" => some joiner
  | _ => none

/-! ## Sentences -/

/-- Full stops, which may end a sentence or stand inside it. -/
def fullStops : CharSet := .ofText "2E 2024 FE52 FF0E"

def lineSeparators : CharSet := .ofText "85 2028-2029"

def sentenceExtend : CharSet := .unions [graphemeExtend, Category.set [.mc], joiner]

def sentenceLower : CharSet :=
  lowercase.diff (graphemeExtend.union (.ofText sentenceSmallText))

def sentenceUpper : CharSet :=
  (uppercase.union titlecase).diff (.ofText sentenceLargeText)

def sentenceLetters : CharSet :=
  (alphabetic.union (.single '\u05f3')).diff
    (.unions [sentenceLower, sentenceUpper, sentenceExtend])

def sentenceBreakSet? : String → Option CharSet
  | "at" | "aterm" => some fullStops
  | "st" | "sterm" => some (sentenceTerminals.diff fullStops)
  | "cl" | "close" =>
    some ((Category.set [.ps, .pe, .pi, .pf]).union (.ofText sentenceCloseMoreText))
  | "cr" => some carriageReturn
  | "lf" => some newline
  | "ex" | "extend" => some sentenceExtend
  | "fo" | "format" => some (wordFormat.union (.ofText "70F 200B"))
  | "lo" | "lower" => some sentenceLower
  | "up" | "upper" => some sentenceUpper
  | "le" | "oletter" => some sentenceLetters
  | "nu" | "numeric" => some (wordNumeric.union (.single '\u066c'))
  | "sc" | "scontinue" => some (.ofText sentenceContinueText)
  | "se" | "sep" => some lineSeparators
  | "sp" => some (blanks.diff (.unions [newline, carriageReturn, lineSeparators]))
  | _ => none

end StepExpr.Unicode
