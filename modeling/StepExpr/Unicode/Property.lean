import StepExpr.Unicode.Category
import StepExpr.Unicode.PropertyTable
import StepExpr.Unicode.SegmentTable

/-!
# Character properties

White space, word characters and the other sets of characters that have a property's name. Some are
data of the standard, and the others are defined by these.

* `propertySet?` finds a set by the loose name of its property.
-/

namespace StepExpr.Unicode

/-- The characters with the property White_Space. -/
def isBlank (c : Char) : Bool :=
  let n := c.toNat
  (0x9 ≤ n && n ≤ 0xD) || n = 0x20 || n = 0x85 || n = 0xA0 || n = 0x1680 ||
    (0x2000 ≤ n && n ≤ 0x200A) || n = 0x2028 || n = 0x2029 || n = 0x202F || n = 0x205F || n = 0x3000

def blanks : CharSet :=
  .ofText "9-D 20 85 A0 1680 2000-200A 2028-2029 202F 205F 3000"

def decimalDigits : CharSet := Category.set [.nd]

/-! ## Letters -/

def otherLowercase : CharSet := .ofText otherLowercaseText
def otherUppercase : CharSet := .ofText otherUppercaseText
def otherAlphabetic : CharSet := .ofText otherAlphabeticText

def lowercase : CharSet := (Category.set [.ll]).union otherLowercase
def uppercase : CharSet := (Category.set [.lu]).union otherUppercase
def titlecase : CharSet := Category.set [.lt]
def cased : CharSet := .unions [lowercase, uppercase, titlecase]

def alphabetic : CharSet :=
  .unions [lowercase, uppercase, Category.set [.lt, .lm, .lo, .nl], otherAlphabetic]

def joinControls : CharSet := .ofText joinControlText

/-- Letters, marks, decimal digits, connectors and join controls. -/
def wordChars : CharSet :=
  .unions [alphabetic, Category.set (.nd :: .pc :: Category.marks), joinControls]

def changesLowered : CharSet :=
  (uppercase.union titlecase).diff (.ofText sameLoweredText)

def changesUppered : CharSet :=
  (lowercase.union titlecase).diff (.ofText sameUpperedText)

def changesTitled : CharSet :=
  (changesUppered.union (.ofText onlyTitledText)).diff (.ofText sameTitledText)

def changesFolded : CharSet :=
  (changesLowered.union (.ofText onlyFoldedText)).diff (.ofText sameFoldedText)

def changesCase : CharSet := .unions [changesLowered, changesUppered, changesTitled]

/-- Characters that casing passes over: marks, formats, modifiers, and punctuation inside words. -/
def caseIgnorable : CharSet :=
  .unions [Category.set [.mn, .me, .cf, .lm, .sk], .ofText midLetterText,
    .ofText midNumberLetterText, .single '\'']

/-! ## Identifiers -/

def patternMarks : CharSet := .ofText patternSyntaxText
def patternBlanks : CharSet := .ofText patternWhiteSpaceText
def patternChars : CharSet := patternMarks.union patternBlanks
def otherNameStart : CharSet := .ofText otherIdStartText
def otherNamePart : CharSet := .ofText otherIdContinueText

def nameStart : CharSet :=
  ((Category.set (.nl :: Category.letters)).union otherNameStart).diff patternChars

def namePart : CharSet :=
  (CharSet.unions [nameStart, Category.set [.mn, .mc, .nd, .pc], otherNamePart]).diff patternChars

/-- Starts of names whose compatibility forms are names as well. -/
def closedNameStart : CharSet := nameStart.diff (.ofText notXIDStartText)

def closedNamePart : CharSet := namePart.diff (.ofText notXIDContinueText)

/-! ## Graphemes -/

def otherGraphemeExtend : CharSet := .ofText otherGraphemeExtendText

/-- Characters that join the grapheme before them. -/
def graphemeExtend : CharSet := (Category.set [.mn, .me]).union otherGraphemeExtend

def graphemeBase : CharSet :=
  ((Category.set (.zl :: .zp :: Category.others)).union graphemeExtend).compl

def prependedMarks : CharSet := .ofText prependedConcatenationMarkText
def variationSelectors : CharSet := .ofText variationSelectorText
def otherIgnorable : CharSet := .ofText otherDefaultIgnorableCodePointText

/-- Characters that do not show unless a font supports them. -/
def ignorable : CharSet :=
  (CharSet.unions [otherIgnorable, Category.set [.cf], variationSelectors]).diff
    (.unions [blanks, prependedMarks, .ofText "FFF9-FFFB 13430-13440"])

def emojiModifiers : CharSet := .ofText emojiModifierText
def regionalIndicators : CharSet := .ofText regionalIndicatorText
def otherMath : CharSet := .ofText otherMathText
def mathematics : CharSet := (Category.set [.sm]).union otherMath
def ideographs : CharSet := .ofText ideographicText
def sentenceTerminals : CharSet := .ofText sentenceTerminalText
def hexDigits : CharSet := .ofText hexDigitText

/-! ## By name -/

/-- The set that a loose name stands for. -/
def propertySet? : String → Option CharSet
  | "alpha" | "alphabetic" => some alphabetic
  | "lower" | "lowercase" => some lowercase
  | "upper" | "uppercase" => some uppercase
  | "cased" => some cased
  | "ci" | "caseignorable" => some caseIgnorable
  | "cwl" | "changeswhenlowercased" => some changesLowered
  | "cwu" | "changeswhenuppercased" => some changesUppered
  | "cwt" | "changeswhentitlecased" => some changesTitled
  | "cwcf" | "changeswhencasefolded" => some changesFolded
  | "cwcm" | "changeswhencasemapped" => some changesCase
  | "olower" | "otherlowercase" => some otherLowercase
  | "oupper" | "otheruppercase" => some otherUppercase
  | "oalpha" | "otheralphabetic" => some otherAlphabetic
  | "sd" | "softdotted" => some (.ofText softDottedText)
  | "space" | "wspace" | "whitespace" => some blanks
  | "patws" | "patternwhitespace" => some patternBlanks
  | "patsyn" | "patternsyntax" => some patternMarks
  | "ids" | "idstart" => some nameStart
  | "idc" | "idcontinue" => some namePart
  | "xids" | "xidstart" => some closedNameStart
  | "xidc" | "xidcontinue" => some closedNamePart
  | "oids" | "otheridstart" => some otherNameStart
  | "oidc" | "otheridcontinue" => some otherNamePart
  | "idcompatmathstart" => some (.ofText idCompatMathStartText)
  | "idcompatmathcontinue" => some (.ofText idCompatMathContinueText)
  | "grbase" | "graphemebase" => some graphemeBase
  | "grext" | "graphemeextend" => some graphemeExtend
  | "grlink" | "graphemelink" => some (.ofText graphemeLinkText)
  | "ogrext" | "othergraphemeextend" => some otherGraphemeExtend
  | "mcm" | "modifiercombiningmark" => some (.ofText modifierCombiningMarkText)
  | "pcm" | "prependedconcatenationmark" => some prependedMarks
  | "vs" | "variationselector" => some variationSelectors
  | "di" | "defaultignorablecodepoint" => some ignorable
  | "odi" | "otherdefaultignorablecodepoint" => some otherIgnorable
  | "joinc" | "joincontrol" => some joinControls
  | "bidic" | "bidicontrol" => some (.ofText bidiControlText)
  | "bidim" | "bidimirrored" => some (.ofText bidiMirroredText)
  | "loe" | "logicalorderexception" => some (.ofText logicalOrderExceptionText)
  | "dep" | "deprecated" => some (.ofText deprecatedText)
  | "nchar" | "noncharactercodepoint" => some (.ofText noncharacterCodePointText)
  | "ahex" | "asciihexdigit" => some (hexDigits.inter (.range '\x00' '\x7f'))
  | "hex" | "hexdigit" => some hexDigits
  | "math" => some mathematics
  | "omath" | "othermath" => some otherMath
  | "dash" => some (.ofText dashText)
  | "hyphen" => some (.ofText hyphenText)
  | "qmark" | "quotationmark" => some (.ofText quotationMarkText)
  | "term" | "terminalpunctuation" => some (.ofText terminalPunctuationText)
  | "sterm" | "sentenceterminal" => some sentenceTerminals
  | "dia" | "diacritic" => some (.ofText diacriticText)
  | "ext" | "extender" => some (.ofText extenderText)
  | "ideo" | "ideographic" => some ideographs
  | "uideo" | "unifiedideograph" => some (.ofText unifiedIdeographText)
  | "radical" => some (.ofText radicalText)
  | "idsb" | "idsbinaryoperator" => some (.ofText idsBinaryOperatorText)
  | "idst" | "idstrinaryoperator" => some (.ofText idsTrinaryOperatorText)
  | "idsu" | "idsunaryoperator" => some (.ofText idsUnaryOperatorText)
  | "ri" | "regionalindicator" => some regionalIndicators
  | "emoji" => some (.ofText emojiText)
  | "epres" | "emojipresentation" => some (.ofText emojiPresentationText)
  | "emod" | "emojimodifier" => some emojiModifiers
  | "ebase" | "emojimodifierbase" => some (.ofText emojiModifierBaseText)
  | "ecomp" | "emojicomponent" => some (.ofText emojiComponentText)
  | "extpict" | "extendedpictographic" => some (.ofText extendedPictographicText)
  | _ => none

end StepExpr.Unicode
