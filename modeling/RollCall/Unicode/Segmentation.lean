import RollCall.Unicode.Property
import RollCall.Unicode.Script

/-!
# Parts of texts

The classes by which a text is cut into graphemes, words and sentences.
-/
namespace RollCall.Unicode

/-- The syllables of Hangul in their order; every 28th has no final consonant. -/
def hangulSyllables : CodeRange := ⟨0xAC00, 0xD7A3⟩

/-- Hangul syllables without a final consonant. -/
def hangulOpenSyllables : CharSet :=
  .ofRanges (everyNth hangulSyllables 28)

/-- Marks in front of a letter that no general property shows. -/
def prependingLetters : CharSet :=
  tableSet
    "D4E 111C2-111C3 113D1 1193F 11941 11A3A 11A84-11A89 11D46 11F02"

/-- Spacing marks that stand apart from the letter before them. -/
def detachedMarks : CharSet :=
  tableSet
    "102B-102C 1038 1062-1064 1067-106D 1083 1087-108C 108F 109A-109C 1A61 1A63-1A64 AA7B AA7D
     11720-11721"

/-- Characters that cut a text on both sides. -/
def graphemeControl : CharSet :=
  (CharSet.unions [inCategory fun k => k = .control || k = .lineSeparator ||
    k = .paragraphSeparator || k = .format, (ofCategory .unassigned).inter defaultIgnorable]).diff
      (.unions [prependedConcatenationMark, graphemeExtend, joinControl, .ofList ['\n', '\r']])

def graphemeClass? : String → Option CharSet
  | "cn" | "control" => some graphemeControl
  | "cr" => some (.one '\r')
  | "lf" => some (.one '\n')
  | "ex" | "extend" => some (graphemeExtend.union emojiModifier)
  | "l" => some (tableSet "1100-115F A960-A97C")
  | "v" => some (tableSet "1160-11A7 D7B0-D7C6 16D63 16D67-16D6A")
  | "t" => some (tableSet "11A8-11FF D7CB-D7FB")
  | "lv" => some hangulOpenSyllables
  | "lvt" => some ((CharSet.ofRanges [hangulSyllables]).diff hangulOpenSyllables)
  | "pp" | "prepend" => some (prependedConcatenationMark.union prependingLetters)
  | "ri" | "regionalindicator" => some regionalIndicator
  | "sm" | "spacingmark" => some (((ofCategory .spacingMark).union (tableSet "E33 EB3")).diff
      (graphemeExtend.union detachedMarks))
  | "zwj" => some (.one '\u200D')
  | _ => none

/-- Characters that extend a word or a sentence. -/
def extending : CharSet :=
  graphemeExtend.union (ofCategory .spacingMark)

/-- Numbers and their separators that are no decimal digits. -/
def numericSigns : CharSet :=
  tableSet "600-605 66B 6DD 890-891 8E2 19DA 110BD 110CD"

/-- Letters of the scripts that need a dictionary to find their words. -/
def dictionaryLetters : CharSet :=
  tableSet
    "E01-E30 E32-E33 E40-E46 E81-E82 E84 E86-E8A E8C-EA3 EA5 EA7-EB0 EB2-EB3 EBD EC0-EC4 EC6
     EDC-EDF 1000-102A 103F 1050-1055 105A-105D 1061 1065-1066 106E-1070 1075-1081 108E 1780-17B3
     17D7 17DC 1950-196D 1970-1974 1980-19AB 19B0-19C9 1A20-1A54 1AA7 A9E0-A9E4 A9E6-A9EF A9FA-A9FE
     AA60-AA76 AA7A AA7E-AAAF AAB1 AAB5-AAB6 AAB9-AABD AAC0 AAC2 AADB-AADD 11700-1171A 11740-11746"

def wordSigns : CharSet :=
  tableSet
    "2C2-2C5 2D2-2D7 2DE-2DF 2E5-2EB 2ED 2EF-2FF 55A-55C 55E 58A 5F3 70F A708-A716 A720-A721
     A789-A78A AB5B"

def wordKatakana : CharSet :=
  (ofScript "Kana").union (tableSet "3031-3035 309B-309C 30A0 30FC FF70")

def wordHebrew : CharSet :=
  (ofScript "Hebr").inter (ofCategory .otherLetter)

def wordExtend : CharSet :=
  extending.union emojiModifier

def wordClass? : String → Option CharSet
  | "le" | "aletter" => some ((alphabetic.union wordSigns).diff
      (.unions [ideographic, wordKatakana, wordHebrew, wordExtend, ofScript "Hira",
        dictionaryLetters]))
  | "cr" => some (.one '\r')
  | "lf" => some (.one '\n')
  | "nl" | "newline" => some (tableSet "B-C 85 2028-2029")
  | "dq" | "doublequote" => some (.one '\x22')
  | "sq" | "singlequote" => some (.one '\x27')
  | "extend" => some wordExtend
  | "ex" | "extendnumlet" => some ((ofCategory .connectorPunctuation).union (.one '\u202F'))
  | "fo" | "format" => some ((ofCategory .format).diff
      (.unions [prependedConcatenationMark, graphemeExtend, joinControl, .one '\u200B']))
  | "hl" | "hebrewletter" => some wordHebrew
  | "ka" | "katakana" => some wordKatakana
  | "ml" | "midletter" => some (tableSet "3A B7 387 55F 5F4 2027 FE13 FE55 FF1A")
  | "mn" | "midnum" => some
      (tableSet "2C 3B 37E 589 60C-60D 66C 7F8 2044 FE50 FE54 FF0C FF1B")
  | "mb" | "midnumlet" => some (tableSet "2E 2018-2019 2024 FE52 FF07 FF0E")
  | "nu" | "numeric" => some ((ofCategory .decimalNumber).union numericSigns)
  | "ri" | "regionalindicator" => some regionalIndicator
  | "wsegspace" => some ((ofCategory .spaceSeparator).diff (tableSet "A0 2007 202F"))
  | "zwj" => some (.one '\u200D')
  | _ => none

/-- The capitals of Georgian, which count as letters without case. -/
def georgianCapitals : CharSet :=
  tableSet "1C90-1CBA 1CBD-1CBF"

/-- The small letters of Georgian, which count as letters without case. -/
def georgianSmall : CharSet :=
  tableSet "10D0-10FA 10FD-10FF"

def sentenceLower : CharSet :=
  lowercaseSet.diff (graphemeExtend.union georgianSmall)

def sentenceUpper : CharSet :=
  (uppercaseSet.union (ofCategory .titlecaseLetter)).diff georgianCapitals

def fullStops : CharSet :=
  tableSet "2E 2024 FE52 FF0E"

def paragraphEnds : CharSet :=
  tableSet "85 2028-2029"

def sentenceExtend : CharSet :=
  extending.union (.one '\u200D')

def sentenceClass? : String → Option CharSet
  | "at" | "aterm" => some fullStops
  | "cr" => some (.one '\r')
  | "lf" => some (.one '\n')
  | "cl" | "close" => some ((inCategory fun k => k = .openPunctuation || k = .closePunctuation ||
      k = .initialPunctuation || k = .finalPunctuation).union
        (tableSet "22 27 275B-2760 2E00-2E01 2E06-2E08 2E0B 1F676-1F678"))
  | "ex" | "extend" => some sentenceExtend
  | "fo" | "format" => some ((ofCategory .format).diff
      (.unions [numericSigns, graphemeExtend, joinControl]))
  | "lo" | "lower" => some sentenceLower
  | "up" | "upper" => some sentenceUpper
  | "le" | "oletter" => some ((alphabetic.union (.one '\u05F3')).diff
      (.unions [sentenceLower, sentenceUpper, sentenceExtend]))
  | "nu" | "numeric" => some (.unions [ofCategory .decimalNumber, numericSigns, .one '\u066C'])
  | "sc" | "scontinue" => some (tableSet
    "2C-2D 3A-3B 37E 55D 60C-60D 7F8 1802 1808 2013-2014 3001 FE10-FE11 FE13-FE14 FE31-FE32
     FE50-FE51 FE54-FE55 FE58 FE63 FF0C-FF0D FF1A-FF1B FF64")
  | "se" | "sep" => some paragraphEnds
  | "sp" => some (whiteSpace.diff (paragraphEnds.union (.ofList ['\n', '\r'])))
  | "st" | "sterm" => some (sentenceTerminal.diff fullStops)
  | _ => none

end RollCall.Unicode
