import RuleLexer.Unicode.Binary
import RuleLexer.Unicode.ScriptTable

/-! Properties that tell where a text may be cut into the characters a reader sees, into words and
into sentences. The values of each property are apart from one another. -/

namespace RuleLexer.Unicode

/-- Signs written around a number, which are digits where words and sentences are cut. -/
def numberSignRuns : List Run :=
  [.all 0x0600 0x0605, .one 0x06DD, .all 0x0890 0x0891, .one 0x08E2, .one 0x110BD, .one 0x110CD]

def zeroWidthJoiner : CharSet := .one '\u200D'

/-! ### Characters as a reader sees them -/

inductive GraphemeBreak
  | carriageReturn | lineFeed | control | extend | joiner | preposed | regionalIndicator
  | spacingMark | leadingJamo | vowelJamo | trailingJamo | syllable | closedSyllable
  deriving DecidableEq

namespace GraphemeBreak

def names : List (GraphemeBreak × List String) := [
  (carriageReturn, ["cr"]),
  (lineFeed, ["lf"]),
  (control, ["cn", "control"]),
  (extend, ["ex", "extend"]),
  (joiner, ["zwj"]),
  (preposed, ["pp", "prepend"]),
  (regionalIndicator, ["ri", "regionalindicator"]),
  (spacingMark, ["sm", "spacingmark"]),
  (leadingJamo, ["l"]),
  (vowelJamo, ["v"]),
  (trailingJamo, ["t"]),
  (syllable, ["lv"]),
  (closedSyllable, ["lvt"])]

/-- Syllables that end in a vowel: every twenty-eighth. -/
def syllableSet : CharSet := .ofRuns [⟨0xAC00, 0xD788, 28⟩]

def set : GraphemeBreak → CharSet
  | carriageReturn => .one '\r'
  | lineFeed => .one '\n'
  | control =>
    (categoriesSet [.lineSeparator, .paragraphSeparator, .control, .format]).union
      (Category.unassigned.set.inter defaultIgnorableSet)
      |>.diff (CharSet.unions [.ofList ['\r', '\n'], zeroWidthJoiner, graphemeExtendSet,
        .ofRuns prependedConcatenationMarkRuns])
  | extend => graphemeExtendSet.union (.ofRuns emojiModifierRuns)
  | joiner => zeroWidthJoiner
  | preposed =>
    (CharSet.ofRuns prependedConcatenationMarkRuns).union (.ofRuns
      [.one 0x0D4E, .all 0x111C2 0x111C3, .one 0x113D1, .alternate 0x1193F 0x11941, .one 0x11A3A,
       .all 0x11A84 0x11A89, .one 0x11D46, .one 0x11F02])
  | regionalIndicator => .ofRuns regionalIndicatorRuns
  | spacingMark =>
    Category.spacingMark.set.diff (graphemeExtendSet.union (.ofRuns
      [.all 0x102B 0x102C, .one 0x1038, .all 0x1062 0x1064, .all 0x1067 0x106D, .one 0x1083,
       .all 0x1087 0x108C, .one 0x108F, .all 0x109A 0x109C, .one 0x1A61, .all 0x1A63 0x1A64,
       .alternate 0xAA7B 0xAA7D, .all 0x11720 0x11721]))
      |>.union (.ofRuns [.one 0x0E33, .one 0x0EB3])
  | leadingJamo => .ofRuns [.all 0x1100 0x115F, .all 0xA960 0xA97C]
  | vowelJamo =>
    .ofRuns [.all 0x1160 0x11A7, .all 0xD7B0 0xD7C6, .one 0x16D63, .all 0x16D67 0x16D6A]
  | trailingJamo => .ofRuns [.all 0x11A8 0x11FF, .all 0xD7CB 0xD7FB]
  | syllable => syllableSet
  | closedSyllable => (CharSet.ofRuns [.all 0xAC00 0xD7A3]).diff syllableSet

end GraphemeBreak

/-! ### Words -/

inductive WordBreak
  | letter | carriageReturn | doubleQuote | extend | extendNumberLetter | format | hebrewLetter
  | katakana | lineFeed | midLetter | midNumber | midNumberLetter | newline | numeric
  | regionalIndicator | singleQuote | space | joiner
  deriving DecidableEq

namespace WordBreak

def names : List (WordBreak × List String) := [
  (letter, ["le", "aletter"]),
  (carriageReturn, ["cr"]),
  (doubleQuote, ["dq", "doublequote"]),
  (extend, ["extend"]),
  (extendNumberLetter, ["ex", "extendnumlet"]),
  (format, ["fo", "format"]),
  (hebrewLetter, ["hl", "hebrewletter"]),
  (katakana, ["ka", "katakana"]),
  (lineFeed, ["lf"]),
  (midLetter, ["ml", "midletter"]),
  (midNumber, ["mn", "midnum"]),
  (midNumberLetter, ["mb", "midnumlet"]),
  (newline, ["nl", "newline"]),
  (numeric, ["nu", "numeric"]),
  (regionalIndicator, ["ri", "regionalindicator"]),
  (singleQuote, ["sq", "singlequote"]),
  (space, ["wsegspace"]),
  (joiner, ["zwj"])]

def katakanaSet : CharSet :=
  Script.katakana.set.union (.ofRuns
    [.all 0x3031 0x3035, .all 0x309B 0x309C, .one 0x30A0, .one 0x30FC, .one 0xFF70])

def hebrewLetterSet : CharSet := Script.hebrew.set.inter Category.otherLetter.set

def extendSet : CharSet :=
  CharSet.unions [graphemeExtendSet, Category.spacingMark.set, .ofRuns emojiModifierRuns]

/-- Scripts that are written without spaces between words and need a dictionary to cut them. -/
def unspacedScripts : List Script :=
  [.thai, .lao, .myanmar, .khmer, .taiLe, .newTaiLue, .taiTham, .taiViet, .ahom]

/-- Characters that stand in words though they are not alphabetic. -/
def otherLetterRuns : List Run :=
  [.all 0x02C2 0x02C5, .all 0x02D2 0x02D7, .all 0x02DE 0x02DF, .all 0x02E5 0x02EB, .one 0x02ED,
   .all 0x02EF 0x02FF, .all 0x055A 0x055C, .one 0x055E, .one 0x058A, .one 0x05F3, .one 0x070F,
   .all 0xA708 0xA716, .all 0xA720 0xA721, .all 0xA789 0xA78A, .one 0xAB5B]

def set : WordBreak → CharSet
  | letter =>
    alphabeticSet.diff (CharSet.unions ([BinaryProperty.ideographic.set, katakanaSet,
      Script.hiragana.set, extendSet, hebrewLetterSet] ++ unspacedScripts.map Script.set))
      |>.union (.ofRuns otherLetterRuns)
  | carriageReturn => .one '\r'
  | doubleQuote => .one '"'
  | extend => extendSet
  | extendNumberLetter => Category.connectorPunctuation.set.union (.one '\u202F')
  | format =>
    Category.format.set.diff (CharSet.unions [.ofRuns numberSignRuns, .one '\u070F', .one '\u200B',
      zeroWidthJoiner, graphemeExtendSet])
  | hebrewLetter => hebrewLetterSet
  | katakana => katakanaSet
  | lineFeed => .one '\n'
  | midLetter => .ofRuns midLetterRuns
  | midNumber => .ofRuns
    [.one 0x002C, .one 0x003B, .one 0x037E, .one 0x0589, .all 0x060C 0x060D, .one 0x066C,
     .one 0x07F8, .one 0x2044, .one 0xFE50, .one 0xFE54, .one 0xFF0C, .one 0xFF1B]
  | midNumberLetter => .ofRuns midNumberLetterRuns
  | newline => .ofRuns [.all 0x000B 0x000C, .one 0x0085, .all 0x2028 0x2029]
  | numeric =>
    CharSet.unions [Category.decimalNumber.set, .ofRuns numberSignRuns, .one '\u066B',
      .one '\u19DA']
  | regionalIndicator => .ofRuns regionalIndicatorRuns
  | singleQuote => .one '\''
  | space => .ofRuns
    [.one 0x0020, .one 0x1680, .all 0x2000 0x2006, .all 0x2008 0x200A, .one 0x205F, .one 0x3000]
  | joiner => zeroWidthJoiner

end WordBreak

/-! ### Sentences -/

inductive SentenceBreak
  | fullStop | carriageReturn | close | extend | format | lineFeed | lower | numeric | letter
  | inside | terminal | separator | space | upper
  deriving DecidableEq

namespace SentenceBreak

def names : List (SentenceBreak × List String) := [
  (fullStop, ["at", "aterm"]),
  (carriageReturn, ["cr"]),
  (close, ["cl", "close"]),
  (extend, ["ex", "extend"]),
  (format, ["fo", "format"]),
  (lineFeed, ["lf"]),
  (lower, ["lo", "lower"]),
  (numeric, ["nu", "numeric"]),
  (letter, ["le", "oletter"]),
  (inside, ["sc", "scontinue"]),
  (terminal, ["st", "sterm"]),
  (separator, ["se", "sep"]),
  (space, ["sp"]),
  (upper, ["up", "upper"])]

def fullStopSet : CharSet := .ofList ['.', '\u2024', '\uFE52', '\uFF0E']

def extendSet : CharSet :=
  CharSet.unions [graphemeExtendSet, zeroWidthJoiner, Category.spacingMark.set]

/-- Letters whose case says nothing about where a sentence begins. -/
def caselessLetterSet : CharSet :=
  .ofRuns [.all 0x10D0 0x10FA, .all 0x10FD 0x10FF, .all 0x1C90 0x1CBA, .all 0x1CBD 0x1CBF]

def lowerSet : CharSet := lowercaseSet.diff (graphemeExtendSet.union caselessLetterSet)

def upperSet : CharSet :=
  (uppercaseSet.union Category.titlecaseLetter.set).diff caselessLetterSet

def set : SentenceBreak → CharSet
  | fullStop => fullStopSet
  | carriageReturn => .one '\r'
  | close =>
    (categoriesSet [.openPunctuation, .closePunctuation, .initialPunctuation, .finalPunctuation])
      |>.union (.ofRuns
        [.one 0x0022, .one 0x0027, .all 0x275B 0x2760, .all 0x2E00 0x2E01, .all 0x2E06 0x2E08,
         .one 0x2E0B, .all 0x1F676 0x1F678])
  | extend => extendSet
  | format =>
    Category.format.set.diff (CharSet.unions [.ofRuns numberSignRuns, zeroWidthJoiner,
      graphemeExtendSet])
  | lineFeed => .one '\n'
  | lower => lowerSet
  | numeric =>
    CharSet.unions [Category.decimalNumber.set, .ofRuns numberSignRuns, .one '\u066B',
      .one '\u066C', .one '\u19DA']
  | letter =>
    (alphabeticSet.union (.one '\u05F3')).diff (CharSet.unions [lowerSet, upperSet, extendSet])
  | inside => .ofRuns
    [.all 0x002C 0x002D, .all 0x003A 0x003B, .one 0x037E, .one 0x055D, .all 0x060C 0x060D,
     .one 0x07F8, .one 0x1802, .one 0x1808, .all 0x2013 0x2014, .one 0x3001, .all 0xFE10 0xFE11,
     .all 0xFE13 0xFE14, .all 0xFE31 0xFE32, .all 0xFE50 0xFE51, .all 0xFE54 0xFE55, .one 0xFE58,
     .one 0xFE63, .all 0xFF0C 0xFF0D, .all 0xFF1A 0xFF1B, .one 0xFF64]
  | terminal => (CharSet.ofRuns sentenceTerminalRuns).diff fullStopSet
  | separator => .ofRuns [.one 0x0085, .all 0x2028 0x2029]
  | space =>
    whiteSpaceSet.diff (.ofRuns [.one 0x000A, .one 0x000D, .one 0x0085, .all 0x2028 0x2029])
  | upper => upperSet

end SentenceBreak

end RuleLexer.Unicode
