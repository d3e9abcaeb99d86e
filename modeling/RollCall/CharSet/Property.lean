import RollCall.CharSet.Ascii
import RollCall.Unicode.Age
import RollCall.Unicode.Case
import RollCall.Unicode.Segmentation

/-!
# Sets of characters by property

The sets that patterns ask for by name: a Boolean property, a general category or a script by its
name alone, and the values of a few further properties. Names are compared without regard to case,
blanks, hyphens and underscores.
-/
namespace RollCall.CharSet

/-- The characters of a name that matter, in lower case. -/
def normalized (cs : List Char) : List Char :=
  let kept (cs : List Char) : List Char :=
    (cs.filter fun c => c.toNat < 128 && c != ' ' && c != '_' && c != '-').map Char.toLower
  match cs with
  | a :: b :: rest =>
    if a.toLower = 'i' ∧ b.toLower = 's' then
      -- a leading "is" is dropped, except that "isc" alone keeps it
      if kept rest = ['c'] then ['i', 's', 'c'] else kept rest
    else kept cs
  | cs => kept cs

def categoryNamed? : String → Option (Unicode.Category → Bool)
  | "l" | "letter" => some (·.isLetter)
  | "lc" | "casedletter" => some fun k =>
      k = .uppercaseLetter || k = .lowercaseLetter || k = .titlecaseLetter
  | "lu" | "uppercaseletter" => some (· = .uppercaseLetter)
  | "ll" | "lowercaseletter" => some (· = .lowercaseLetter)
  | "lt" | "titlecaseletter" => some (· = .titlecaseLetter)
  | "lm" | "modifierletter" => some (· = .modifierLetter)
  | "lo" | "otherletter" => some (· = .otherLetter)
  | "m" | "mark" | "combiningmark" => some (·.isMark)
  | "mn" | "nonspacingmark" => some (· = .nonspacingMark)
  | "mc" | "spacingmark" => some (· = .spacingMark)
  | "me" | "enclosingmark" => some (· = .enclosingMark)
  | "n" | "number" => some (·.isNumber)
  | "nd" | "decimalnumber" | "digit" => some (· = .decimalNumber)
  | "nl" | "letternumber" => some (· = .letterNumber)
  | "no" | "othernumber" => some (· = .otherNumber)
  | "p" | "punctuation" | "punct" => some (·.isPunctuation)
  | "pc" | "connectorpunctuation" => some (· = .connectorPunctuation)
  | "pd" | "dashpunctuation" => some (· = .dashPunctuation)
  | "ps" | "openpunctuation" => some (· = .openPunctuation)
  | "pe" | "closepunctuation" => some (· = .closePunctuation)
  | "pi" | "initialpunctuation" => some (· = .initialPunctuation)
  | "pf" | "finalpunctuation" => some (· = .finalPunctuation)
  | "po" | "otherpunctuation" => some (· = .otherPunctuation)
  | "s" | "symbol" => some (·.isSymbol)
  | "sm" | "mathsymbol" => some (· = .mathSymbol)
  | "sc" | "currencysymbol" => some (· = .currencySymbol)
  | "sk" | "modifiersymbol" => some (· = .modifierSymbol)
  | "so" | "othersymbol" => some (· = .otherSymbol)
  | "z" | "separator" => some (·.isSeparator)
  | "zs" | "spaceseparator" => some (· = .spaceSeparator)
  | "zl" | "lineseparator" => some (· = .lineSeparator)
  | "zp" | "paragraphseparator" => some (· = .paragraphSeparator)
  | "c" | "other" => some (·.isOther)
  | "cc" | "control" | "cntrl" => some (· = .control)
  | "cf" | "format" => some (· = .format)
  | "co" | "privateuse" => some (· = .privateUse)
  | "cn" | "unassigned" => some (· = .unassigned)
  | _ => .none

def category? : String → Option CharSet
  | "any" => some all
  | "ascii" => some ascii
  | "assigned" => some (Unicode.ofCategory .unassigned).compl
  | name => (categoryNamed? name).map Unicode.inCategory

def scriptCode? (name : String) : Option String :=
  (Unicode.scriptAliases.find? fun names =>
    names.any fun n => String.ofList (normalized n.toList) = name).bind List.head?

def script? (name : String) : Option CharSet :=
  (scriptCode? name).map Unicode.ofScript

/-- The set of an edition, given by its number or by a `v` and its digits. -/
def edition? (name : String) : Option CharSet :=
  (Unicode.arrivals.find? fun (edition, _) =>
    name = edition || name.toList = 'v' :: edition.toList.filter Char.isDigit).bind
      fun (edition, _) => Unicode.heldByEdition? edition

def property? : String → Option CharSet
  | "ahex" | "asciihexdigit" => some Unicode.asciiHexDigit
  | "alpha" | "alphabetic" => some Unicode.alphabetic
  | "bidic" | "bidicontrol" => some Unicode.bidiControl
  | "bidim" | "bidimirrored" => some Unicode.bidiMirrored
  | "ci" | "caseignorable" => some Unicode.caseIgnorable
  | "cased" => some Unicode.cased
  | "cwcf" | "changeswhencasefolded" => some Unicode.changesWhenCasefolded
  | "cwcm" | "changeswhencasemapped" => some Unicode.changesWhenCasemapped
  | "cwl" | "changeswhenlowercased" => some Unicode.changesWhenLowercased
  | "cwt" | "changeswhentitlecased" => some Unicode.changesWhenTitlecased
  | "cwu" | "changeswhenuppercased" => some Unicode.changesWhenUppercased
  | "dash" => some Unicode.dash
  | "di" | "defaultignorablecodepoint" => some Unicode.defaultIgnorable
  | "dep" | "deprecated" => some Unicode.deprecated
  | "dia" | "diacritic" => some Unicode.diacritic
  | "emoji" => some Unicode.emoji
  | "ecomp" | "emojicomponent" => some Unicode.emojiComponent
  | "emod" | "emojimodifier" => some Unicode.emojiModifier
  | "ebase" | "emojimodifierbase" => some Unicode.emojiModifierBase
  | "epres" | "emojipresentation" => some Unicode.emojiPresentation
  | "extpict" | "extendedpictographic" => some Unicode.extendedPictographic
  | "ext" | "extender" => some Unicode.extender
  | "grbase" | "graphemebase" => some Unicode.graphemeBase
  | "grext" | "graphemeextend" => some Unicode.graphemeExtend
  | "grlink" | "graphemelink" => some Unicode.graphemeLink
  | "hex" | "hexdigit" => some Unicode.hexDigit
  | "hyphen" => some Unicode.hyphen
  | "idsb" | "idsbinaryoperator" => some Unicode.idsBinaryOperator
  | "idst" | "idstrinaryoperator" => some Unicode.idsTrinaryOperator
  | "idsu" | "idsunaryoperator" => some Unicode.idsUnaryOperator
  | "idcompatmathcontinue" => some Unicode.idCompatMathContinue
  | "idcompatmathstart" => some Unicode.idCompatMathStart
  | "idc" | "idcontinue" => some Unicode.idContinue
  | "ids" | "idstart" => some Unicode.idStart
  | "ideo" | "ideographic" => some Unicode.ideographic
  | "joinc" | "joincontrol" => some Unicode.joinControl
  | "loe" | "logicalorderexception" => some Unicode.logicalOrderException
  | "lower" | "lowercase" => some Unicode.lowercaseSet
  | "math" => some Unicode.math
  | "mcm" | "modifiercombiningmark" => some Unicode.modifierCombiningMark
  | "nchar" | "noncharactercodepoint" => some Unicode.noncharacter
  | "oalpha" | "otheralphabetic" => some Unicode.otherAlphabetic
  | "odi" | "otherdefaultignorablecodepoint" => some Unicode.otherDefaultIgnorable
  | "ogrext" | "othergraphemeextend" => some Unicode.otherGraphemeExtend
  | "oidc" | "otheridcontinue" => some Unicode.otherIdContinue
  | "oids" | "otheridstart" => some Unicode.otherIdStart
  | "olower" | "otherlowercase" => some Unicode.otherLowercase
  | "omath" | "othermath" => some Unicode.otherMath
  | "oupper" | "otheruppercase" => some Unicode.otherUppercase
  | "patsyn" | "patternsyntax" => some Unicode.patternSyntax
  | "patws" | "patternwhitespace" => some Unicode.patternWhiteSpace
  | "pcm" | "prependedconcatenationmark" => some Unicode.prependedConcatenationMark
  | "qmark" | "quotationmark" => some Unicode.quotationMark
  | "radical" => some Unicode.radical
  | "ri" | "regionalindicator" => some Unicode.regionalIndicator
  | "sterm" | "sentenceterminal" => some Unicode.sentenceTerminal
  | "sd" | "softdotted" => some Unicode.softDotted
  | "term" | "terminalpunctuation" => some Unicode.terminalPunctuation
  | "uideo" | "unifiedideograph" => some Unicode.unifiedIdeograph
  | "upper" | "uppercase" => some Unicode.uppercaseSet
  | "vs" | "variationselector" => some Unicode.variationSelector
  | "space" | "wspace" | "whitespace" => some Unicode.whiteSpace
  | "xidc" | "xidcontinue" => some Unicode.xidContinue
  | "xids" | "xidstart" => some Unicode.xidStart
  | _ => .none

/-- The set of a name: a property, a category or a script, in this order. -/
def named? (name : List Char) : Option CharSet :=
  let name := String.ofList (normalized name)
  property? name <|> category? name <|> script? name

/-- The set of a property that has the given value. -/
def valued? (name value : List Char) : Option CharSet :=
  let value := String.ofList (normalized value)
  match String.ofList (normalized name) with
  | "gc" | "generalcategory" => category? value
  | "sc" | "script" => script? value
  | "scx" | "scriptextensions" => (scriptCode? value).map Unicode.usedWithScript
  | "age" => edition? value
  | "gcb" | "graphemeclusterbreak" => Unicode.graphemeClass? value
  | "wb" | "wordbreak" => Unicode.wordClass? value
  | "sb" | "sentencebreak" => Unicode.sentenceClass? value
  | _ => .none

end RollCall.CharSet
