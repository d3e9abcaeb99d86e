import RollCall.Unicode.Named

/-!
# Derived properties

Properties of characters that follow from the general category and from the tables of other
properties.
-/
namespace RollCall.Unicode

/-- Letters, letter numbers and signs that act as letters. -/
def alphabetic : CharSet :=
  (inCategory fun k => k.isLetter || k = .letterNumber).union otherAlphabetic

def lowercaseSet : CharSet :=
  (ofCategory .lowercaseLetter).union otherLowercase

def uppercaseSet : CharSet :=
  (ofCategory .uppercaseLetter).union otherUppercase

def cased : CharSet :=
  .unions [lowercaseSet, uppercaseSet, ofCategory .titlecaseLetter]

/-- Punctuation inside words that a search for a cased neighbour passes over. -/
def wordPunctuation : CharSet :=
  tableSet
    "27 2E 3A B7 387 55F 5F4 2018-2019 2024 2027 FE13 FE52 FE55 FF07 FF0E FF1A"

/-- Characters that a search for a cased neighbour passes over. -/
def caseIgnorable : CharSet :=
  (inCategory fun k => k = .nonspacingMark || k = .enclosingMark || k = .format ||
    k = .modifierLetter || k = .modifierSymbol).union wordPunctuation

def math : CharSet :=
  (ofCategory .mathSymbol).union otherMath

/-- Characters that extend the grapheme before them. -/
def graphemeExtend : CharSet :=
  (inCategory fun k => k = .nonspacingMark || k = .enclosingMark).union otherGraphemeExtend

/-- Characters that may stand as a grapheme. -/
def graphemeBase : CharSet :=
  (inCategory fun k => !(k.isOther || k = .lineSeparator || k = .paragraphSeparator)).diff
    graphemeExtend

/-- Code points that are never characters: the last two of every plane, and a block of 32. -/
def noncharacter : CharSet :=
  .ofRanges (⟨0xFDD0, 0xFDEF⟩ :: (List.range 17).map fun plane =>
    ⟨0x10000 * plane + 0xFFFE, 0x10000 * plane + 0xFFFF⟩)

/-- Format characters that are shown. -/
def shownFormats : CharSet :=
  (tableSet "FFF9-FFFB 13430-1343F").union prependedConcatenationMark

/-- Characters that leave no trace where they are not supported. -/
def defaultIgnorable : CharSet :=
  (CharSet.unions [otherDefaultIgnorable, ofCategory .format, variationSelector]).diff
    (whiteSpace.union shownFormats)

/-- Characters of formal languages, which no identifier holds. -/
def formal : CharSet :=
  patternSyntax.union patternWhiteSpace

def idStart : CharSet :=
  (inCategory fun k => k.isLetter || k = .letterNumber).union otherIdStart |>.diff formal

def idContinue : CharSet :=
  (CharSet.unions [idStart, otherIdContinue, inCategory fun k => k = .nonspacingMark ||
    k = .spacingMark || k = .decimalNumber || k = .connectorPunctuation]).diff formal

/-- Characters whose compatible forms may not stand where they do in an identifier. -/
def notCompatiblyInside : CharSet :=
  tableSet
    "37A 309B-309C FC5E-FC63 FDFA-FDFB FE70-FE7E/2"

/-- Characters whose compatible forms may not begin an identifier, though they may go on. -/
def notCompatiblyFirst : CharSet :=
  tableSet
    "E33 EB3 FF9E-FF9F"

/-- Characters an identifier may begin with, in their compatible forms as well. -/
def xidStart : CharSet :=
  idStart.diff (notCompatiblyInside.union notCompatiblyFirst)

def xidContinue : CharSet :=
  idContinue.diff notCompatiblyInside

/-- Letters, marks, decimal digits, connectors and join controls: what words are made of. -/
def wordCharacters : CharSet :=
  .unions [alphabetic, joinControl, inCategory fun k => k.isMark || k = .decimalNumber ||
    k = .connectorPunctuation]

def decimalDigits : CharSet :=
  ofCategory .decimalNumber

end RollCall.Unicode
