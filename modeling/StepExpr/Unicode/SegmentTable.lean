/-!
# Text segments, as data

The code points that graphemes, words and sentences treat in ways of their own, in the text form of
sets.
-/

namespace StepExpr.Unicode

/-- Spacing marks that do not join the grapheme before them. -/
def notSpacingMarkText : String :=
  "102B-102C 1038 1062-1064 1067-106D 1083 1087-108C 108F 109A-109C 1A61 1A63-1A64 AA7B AA7D
  11720-11721"

def prependText : String :=
  "600-605 6DD 70F 890-891 8E2 D4E 110BD 110CD 111C2-111C3 113D1 1193F 11941 11A3A 11A84-11A89
  11D46 11F02"

def midLetterText : String :=
  "3A B7 387 55F 5F4 2027 FE13 FE55 FF1A"

def midNumberText : String :=
  "2C 3B 37E 589 60C-60D 66C 7F8 2044 FE50 FE54 FF0C FF1B"

def midNumberLetterText : String :=
  "2E 2018-2019 2024 FE52 FF07 FF0E"

def wordKatakanaText : String :=
  "3031-3035 309B-309C 30A0-30FA 30FC-30FF 31F0-31FF 32D0-32FE 3300-3357 FF66-FF9D 1AFF0-1AFF3
  1AFF5-1AFFB 1AFFD-1AFFE 1B000 1B120-1B122 1B155 1B164-1B167"

def hebrewLetterText : String :=
  "5D0-5EA 5EF-5F2 FB1D FB1F-FB28 FB2A-FB36 FB38-FB3C FB3E FB40-FB41 FB43-FB44 FB46-FB4F"

/-- Numeric code points of words that are no decimal digits. -/
def notDigitNumericText : String :=
  "600-605 66B 6DD 890-891 8E2 19DA 110BD 110CD"

/-- Letters of words that are not alphabetic. -/
def wordLetterMoreText : String :=
  "2C2-2C5 2D2-2D7 2DE-2DF 2E5-2EB 2ED 2EF-2FF 55A-55C 55E 58A 5F3 70F A708-A716 A720-A721
  A789-A78A AB5B"

/-- Alphabetic code points of scripts that write words without spaces. -/
def wordLetterLessText : String :=
  "1000-102A 103F 1050-1055 105A-105D 1061 1065-1066 106E-1070 1075-1081 108E 1780-17B3 17D7
  17DC 1950-196D 1970-1974 1980-19AB 19B0-19C9 1A20-1A54 1AA7 A9E0-A9E4 A9E6-A9EF A9FA-A9FE
  AA60-AA76 AA7A AA7E-AAAF AAB1 AAB5-AAB6 AAB9-AABD AAC0 AAC2 AADB-AADD 11700-1171A
  11740-11746"

def sentenceContinueText : String :=
  "2C-2D 3A-3B 37E 55D 60C-60D 7F8 1802 1808 2013-2014 3001 FE10-FE11 FE13-FE14 FE31-FE32
  FE50-FE51 FE54-FE55 FE58 FE63 FF0C-FF0D FF1A-FF1B FF64"

/-- Code points that close sentences and are no brackets. -/
def sentenceCloseMoreText : String :=
  "22 27 275B-2760 2E00-2E01 2E06-2E08 2E0B 1F676-1F678"

/-- Lowercase code points that sentences count as other letters. -/
def sentenceSmallText : String :=
  "10D0-10FA 10FD-10FF"

/-- Uppercase code points that sentences count as other letters. -/
def sentenceLargeText : String :=
  "1C90-1CBA 1CBD-1CBF"

end StepExpr.Unicode
