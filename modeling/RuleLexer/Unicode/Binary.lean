import RuleLexer.Unicode.BinaryTable
import RuleLexer.Unicode.CategoryTable

/-! Properties that a character has or has not. Most are put together from general categories and
from characters listed one by one. -/

namespace RuleLexer.Unicode

/-! ### Sets that other sets are made of -/

def whiteSpaceSet : CharSet := .ofRuns whiteSpaceRuns

def lowercaseSet : CharSet :=
  Category.lowercaseLetter.set.union (.ofRuns otherLowercaseRuns)

def uppercaseSet : CharSet :=
  Category.uppercaseLetter.set.union (.ofRuns otherUppercaseRuns)

def alphabeticSet : CharSet :=
  (categoriesSet (.letterNumber :: Category.letters)).union (.ofRuns otherAlphabeticRuns)

/-- Characters that are drawn on the one before them. -/
def graphemeExtendSet : CharSet :=
  (categoriesSet [.nonspacingMark, .enclosingMark]).union (.ofRuns otherGraphemeExtendRuns)

/-- Letters, marks, decimal digits, connectors such as `_`, and the two joiners. -/
def wordSet : CharSet :=
  (alphabeticSet.union (categoriesSet (.decimalNumber :: .connectorPunctuation :: Category.marks)))
    |>.union (.ofRuns joinControlRuns)

/-- Characters with a role in the syntax of programs, which identifiers leave out. -/
def syntaxSet : CharSet :=
  (CharSet.ofRuns patternSyntaxRuns).union (.ofRuns patternWhiteSpaceRuns)

def idStartSet : CharSet :=
  (categoriesSet (.letterNumber :: Category.letters)).union (.ofRuns otherIdStartRuns)
    |>.diff syntaxSet

def idContinueSet : CharSet :=
  CharSet.unions [idStartSet, .ofRuns otherIdContinueRuns, categoriesSet
    [.nonspacingMark, .spacingMark, .decimalNumber, .connectorPunctuation]]
    |>.diff syntaxSet

/-- Characters that are shown as nothing where they are not supported. Marks that join others and
signs that are written above a number are left out. -/
def defaultIgnorableSet : CharSet :=
  CharSet.unions [Category.format.set, .ofRuns otherDefaultIgnorableRuns,
    .ofRuns variationSelectorRuns]
    |>.diff (CharSet.unions [whiteSpaceSet, .ofRuns prependedConcatenationMarkRuns,
      .ofRuns [.all 0xFFF9 0xFFFB, .all 0x13430 0x13440]])

/-- Punctuation inside words and numbers. -/
def midLetterRuns : List Run :=
  [.one 0x003A, .one 0x00B7, .one 0x0387, .one 0x055F, .one 0x05F4, .one 0x2027, .one 0xFE13,
   .one 0xFE55, .one 0xFF1A]

def midNumberLetterRuns : List Run :=
  [.one 0x002E, .all 0x2018 0x2019, .one 0x2024, .one 0xFE52, .one 0xFF07, .one 0xFF0E]

def changesWhenTitlecasedSet : CharSet :=
  (CharSet.ofRuns changesWhenUppercasedRuns).diff (.ofRuns titlecaseStableRuns)
    |>.union (.ofRuns titlecaseOnlyRuns)

/-! ### Properties -/

inductive BinaryProperty
  | asciiHexDigit | alphabetic | bidiControl | bidiMirrored | caseIgnorable | cased
  | changesWhenCasefolded | changesWhenCasemapped | changesWhenLowercased | changesWhenTitlecased
  | changesWhenUppercased | dash | defaultIgnorable | deprecated | diacritic | emoji
  | emojiComponent | emojiModifier | emojiModifierBase | emojiPresentation | extendedPictographic
  | extender | graphemeBase | graphemeExtend | graphemeLink | hexDigit | hyphen
  | binaryIdeographicOperator | trinaryIdeographicOperator | unaryIdeographicOperator
  | compatMathContinue | compatMathStart | idContinue | idStart | ideographic | joinControl
  | logicalOrderException | lowercase | math | modifierCombiningMark | noncharacter
  | otherAlphabetic | otherDefaultIgnorable | otherGraphemeExtend | otherIdContinue
  | otherIdStart | otherLowercase | otherMath | otherUppercase | patternSyntax
  | patternWhiteSpace | prependedConcatenationMark | quotationMark | radical | regionalIndicator
  | sentenceTerminal | softDotted | terminalPunctuation | unifiedIdeograph | uppercase
  | variationSelector | whiteSpace | stableIdContinue | stableIdStart
  deriving DecidableEq

namespace BinaryProperty

/-- Every property with its names, lower case and without separators. -/
def names : List (BinaryProperty × List String) := [
  (.asciiHexDigit, ["ahex", "asciihexdigit"]),
  (.alphabetic, ["alpha", "alphabetic"]),
  (.bidiControl, ["bidic", "bidicontrol"]),
  (.bidiMirrored, ["bidim", "bidimirrored"]),
  (.caseIgnorable, ["ci", "caseignorable"]),
  (.cased, ["cased"]),
  (.changesWhenCasefolded, ["cwcf", "changeswhencasefolded"]),
  (.changesWhenCasemapped, ["cwcm", "changeswhencasemapped"]),
  (.changesWhenLowercased, ["cwl", "changeswhenlowercased"]),
  (.changesWhenTitlecased, ["cwt", "changeswhentitlecased"]),
  (.changesWhenUppercased, ["cwu", "changeswhenuppercased"]),
  (.dash, ["dash"]),
  (.defaultIgnorable, ["di", "defaultignorablecodepoint"]),
  (.deprecated, ["dep", "deprecated"]),
  (.diacritic, ["dia", "diacritic"]),
  (.emoji, ["emoji"]),
  (.emojiComponent, ["ecomp", "emojicomponent"]),
  (.emojiModifier, ["emod", "emojimodifier"]),
  (.emojiModifierBase, ["ebase", "emojimodifierbase"]),
  (.emojiPresentation, ["epres", "emojipresentation"]),
  (.extendedPictographic, ["extpict", "extendedpictographic"]),
  (.extender, ["ext", "extender"]),
  (.graphemeBase, ["grbase", "graphemebase"]),
  (.graphemeExtend, ["grext", "graphemeextend"]),
  (.graphemeLink, ["grlink", "graphemelink"]),
  (.hexDigit, ["hex", "hexdigit"]),
  (.hyphen, ["hyphen"]),
  (.binaryIdeographicOperator, ["idsb", "idsbinaryoperator"]),
  (.trinaryIdeographicOperator, ["idst", "idstrinaryoperator"]),
  (.unaryIdeographicOperator, ["idsu", "idsunaryoperator"]),
  (.compatMathContinue, ["idcompatmathcontinue"]),
  (.compatMathStart, ["idcompatmathstart"]),
  (.idContinue, ["idc", "idcontinue"]),
  (.idStart, ["ids", "idstart"]),
  (.ideographic, ["ideo", "ideographic"]),
  (.joinControl, ["joinc", "joincontrol"]),
  (.logicalOrderException, ["loe", "logicalorderexception"]),
  (.lowercase, ["lower", "lowercase"]),
  (.math, ["math"]),
  (.modifierCombiningMark, ["mcm", "modifiercombiningmark"]),
  (.noncharacter, ["nchar", "noncharactercodepoint"]),
  (.otherAlphabetic, ["oalpha", "otheralphabetic"]),
  (.otherDefaultIgnorable, ["odi", "otherdefaultignorablecodepoint"]),
  (.otherGraphemeExtend, ["ogrext", "othergraphemeextend"]),
  (.otherIdContinue, ["oidc", "otheridcontinue"]),
  (.otherIdStart, ["oids", "otheridstart"]),
  (.otherLowercase, ["olower", "otherlowercase"]),
  (.otherMath, ["omath", "othermath"]),
  (.otherUppercase, ["oupper", "otheruppercase"]),
  (.patternSyntax, ["patsyn", "patternsyntax"]),
  (.patternWhiteSpace, ["patws", "patternwhitespace"]),
  (.prependedConcatenationMark, ["pcm", "prependedconcatenationmark"]),
  (.quotationMark, ["qmark", "quotationmark"]),
  (.radical, ["radical"]),
  (.regionalIndicator, ["ri", "regionalindicator"]),
  (.sentenceTerminal, ["sterm", "sentenceterminal"]),
  (.softDotted, ["sd", "softdotted"]),
  (.terminalPunctuation, ["term", "terminalpunctuation"]),
  (.unifiedIdeograph, ["uideo", "unifiedideograph"]),
  (.uppercase, ["upper", "uppercase"]),
  (.variationSelector, ["vs", "variationselector"]),
  (.whiteSpace, ["space", "wspace", "whitespace"]),
  (.stableIdContinue, ["xidc", "xidcontinue"]),
  (.stableIdStart, ["xids", "xidstart"])]

def set : BinaryProperty → CharSet
  | asciiHexDigit => .ofRuns asciiHexDigitRuns
  | alphabetic => alphabeticSet
  | bidiControl => .ofRuns bidiControlRuns
  | bidiMirrored => .ofRuns bidiMirroredRuns
  | caseIgnorable =>
    CharSet.unions [.one '\'', .ofRuns midLetterRuns, .ofRuns midNumberLetterRuns, categoriesSet
      [.nonspacingMark, .enclosingMark, .format, .modifierLetter, .modifierSymbol]]
  | cased => CharSet.unions [lowercaseSet, uppercaseSet, Category.titlecaseLetter.set]
  | changesWhenCasefolded =>
    (CharSet.ofRuns changesWhenLowercasedRuns).diff (.ofRuns foldStableRuns)
      |>.union (.ofRuns foldOnlyRuns)
  | changesWhenCasemapped =>
    CharSet.unions [.ofRuns changesWhenLowercasedRuns, .ofRuns changesWhenUppercasedRuns,
      changesWhenTitlecasedSet]
  | changesWhenLowercased => .ofRuns changesWhenLowercasedRuns
  | changesWhenTitlecased => changesWhenTitlecasedSet
  | changesWhenUppercased => .ofRuns changesWhenUppercasedRuns
  | dash => .ofRuns dashRuns
  | defaultIgnorable => defaultIgnorableSet
  | deprecated => .ofRuns deprecatedRuns
  | diacritic => .ofRuns diacriticRuns
  | emoji => .ofRuns emojiRuns
  | emojiComponent => .ofRuns emojiComponentRuns
  | emojiModifier => .ofRuns emojiModifierRuns
  | emojiModifierBase => .ofRuns emojiModifierBaseRuns
  | emojiPresentation => .ofRuns emojiPresentationRuns
  | extendedPictographic => .ofRuns extendedPictographicRuns
  | extender => .ofRuns extenderRuns
  | graphemeBase =>
    (categoriesSet (.lineSeparator :: .paragraphSeparator :: Category.others)).union
      graphemeExtendSet |>.compl
  | graphemeExtend => graphemeExtendSet
  | graphemeLink => .ofRuns graphemeLinkRuns
  | hexDigit => .ofRuns hexDigitRuns
  | hyphen => .ofRuns hyphenRuns
  | binaryIdeographicOperator => .ofRuns binaryIdeographicOperatorRuns
  | trinaryIdeographicOperator => .ofRuns trinaryIdeographicOperatorRuns
  | unaryIdeographicOperator => .ofRuns unaryIdeographicOperatorRuns
  | compatMathContinue => .ofRuns compatMathContinueRuns
  | compatMathStart => .ofRuns compatMathStartRuns
  | idContinue => idContinueSet
  | idStart => idStartSet
  | ideographic =>
    (CharSet.ofRuns unifiedIdeographRuns).union (.ofRuns otherIdeographicRuns)
  | joinControl => .ofRuns joinControlRuns
  | logicalOrderException => .ofRuns logicalOrderExceptionRuns
  | lowercase => lowercaseSet
  | math => Category.mathSymbol.set.union (.ofRuns otherMathRuns)
  | modifierCombiningMark => .ofRuns modifierCombiningMarkRuns
  | noncharacter => .ofRuns noncharacterRuns
  | otherAlphabetic => .ofRuns otherAlphabeticRuns
  | otherDefaultIgnorable => .ofRuns otherDefaultIgnorableRuns
  | otherGraphemeExtend => .ofRuns otherGraphemeExtendRuns
  | otherIdContinue => .ofRuns otherIdContinueRuns
  | otherIdStart => .ofRuns otherIdStartRuns
  | otherLowercase => .ofRuns otherLowercaseRuns
  | otherMath => .ofRuns otherMathRuns
  | otherUppercase => .ofRuns otherUppercaseRuns
  | patternSyntax => .ofRuns patternSyntaxRuns
  | patternWhiteSpace => .ofRuns patternWhiteSpaceRuns
  | prependedConcatenationMark => .ofRuns prependedConcatenationMarkRuns
  | quotationMark => .ofRuns quotationMarkRuns
  | radical => .ofRuns radicalRuns
  | regionalIndicator => .ofRuns regionalIndicatorRuns
  | sentenceTerminal => .ofRuns sentenceTerminalRuns
  | softDotted => .ofRuns softDottedRuns
  | terminalPunctuation => .ofRuns terminalPunctuationRuns
  | unifiedIdeograph => .ofRuns unifiedIdeographRuns
  | uppercase => uppercaseSet
  | variationSelector => .ofRuns variationSelectorRuns
  | whiteSpace => whiteSpaceSet
  | stableIdContinue => idContinueSet.diff (.ofRuns unstableIdContinueRuns)
  | stableIdStart => idStartSet.diff (.ofRuns unstableIdStartRuns)

end BinaryProperty

/-! ### Characters -/

def isWhiteSpace (c : Char) : Bool := whiteSpaceSet.contains c

def isWord (c : Char) : Bool := wordSet.contains c

end RuleLexer.Unicode
