import RuleLexer.Unicode.Binary

/-! Characters that version 17.0 of the character database added. Patterns go by version 16.0, the
names of groups and quoted texts by version 17.0. -/

namespace RuleLexer.Unicode

/-! ### Tables -/

def addedRuns : List Run :=
  [.one 0x088F, .one 0x0C5C, .one 0x0CDC, .all 0x1ACF 0x1ADD, .all 0x1AE0 0x1AEB, .one 0x20C1,
   .one 0x2B96, .all 0xA7CE 0xA7CF, .alternate 0xA7D2 0xA7D4, .one 0xA7F1, .all 0xFBC3 0xFBD2,
   .all 0xFD90 0xFD91, .all 0xFDC8 0xFDCE, .all 0x10940 0x10959, .all 0x10EC5 0x10EC7,
   .all 0x10ED0 0x10ED8, .all 0x10EFA 0x10EFB, .all 0x11B60 0x11B67, .all 0x11DB0 0x11DDB,
   .all 0x11DE0 0x11DE9, .all 0x16EA0 0x16EB8, .all 0x16EBB 0x16ED3, .all 0x16FF2 0x16FF6,
   .all 0x187F8 0x187FF, .all 0x18D09 0x18D1E, .all 0x18D80 0x18DF2, .all 0x1CCFA 0x1CCFC,
   .all 0x1CEBA 0x1CED0, .all 0x1CEE0 0x1CEF0, .all 0x1E6C0 0x1E6DE, .all 0x1E6E0 0x1E6F5,
   .all 0x1E6FE 0x1E6FF, .one 0x1F6D8, .all 0x1F777 0x1F77A, .all 0x1F8D0 0x1F8D8,
   .all 0x1FA54 0x1FA57, .one 0x1FA8A, .one 0x1FA8E, .one 0x1FAC8, .one 0x1FACD, .one 0x1FAEA,
   .one 0x1FAEF, .one 0x1FBFA, .all 0x2B73A 0x2B73F, .all 0x2CEA2 0x2CEAD, .all 0x323B0 0x33479]

def addedAlphabeticRuns : List Run :=
  [.one 0x088F, .one 0x0C5C, .one 0x0CDC, .all 0xA7CE 0xA7CF, .alternate 0xA7D2 0xA7D4,
   .one 0xA7F1, .all 0x10940 0x10959, .all 0x10EC5 0x10EC7, .all 0x10EFA 0x10EFB,
   .all 0x11B60 0x11B67, .all 0x11DB0 0x11DDB, .all 0x16EA0 0x16EB8, .all 0x16EBB 0x16ED3,
   .all 0x16FF2 0x16FF6, .all 0x187F8 0x187FF, .all 0x18D09 0x18D1E, .all 0x18D80 0x18DF2,
   .all 0x1E6C0 0x1E6DE, .all 0x1E6E0 0x1E6F5, .all 0x1E6FE 0x1E6FF, .all 0x2B73A 0x2B73F,
   .all 0x2CEA2 0x2CEAD, .all 0x323B0 0x33479]

/-- Decimal digits; the letter numbers that were added are alphabetic. -/
def addedNumberRuns : List Run := [.all 0x11DE0 0x11DE9]

def addedGraphemeExtendRuns : List Run :=
  [.all 0x1ACF 0x1ADD, .all 0x1AE0 0x1AEB, .all 0x10EFA 0x10EFB, .one 0x11B60,
   .all 0x11B62 0x11B64, .one 0x11B66, .one 0x1E6E3, .one 0x1E6E6, .all 0x1E6EE 0x1E6EF,
   .one 0x1E6F5]

/-! ### Sets -/

def latestAlphabeticSet : CharSet := alphabeticSet.union (.ofRuns addedAlphabeticRuns)

def latestAlphanumericSet : CharSet :=
  CharSet.unions [latestAlphabeticSet, categoriesSet Category.numbers, .ofRuns addedNumberRuns]

/-- The marks of voice beside a halfwidth letter, which take a place of their own. -/
def halfwidthMarkSet : CharSet := .range '\uFF9E' '\uFF9F'

/-- Characters that a reader sees, each apart from the one before it: none that is a control or a
format character, a separator other than the space, private, unassigned, drawn on another or drawn
as nothing. -/
def visibleSet : CharSet :=
  (assignedSet.union (.ofRuns addedRuns)).diff (CharSet.unions
    [categoriesSet (.control :: .format :: .privateUse :: Category.separators),
     defaultIgnorableSet, graphemeExtendSet.diff halfwidthMarkSet,
     .ofRuns addedGraphemeExtendRuns])
    |>.union (.one ' ')

/-! ### Characters -/

def isAlphabetic (c : Char) : Bool := latestAlphabeticSet.contains c

def isAlphanumeric (c : Char) : Bool := latestAlphanumericSet.contains c

def isVisible (c : Char) : Bool :=
  if c.toNat < 0x7F then decide (0x20 ≤ c.toNat) else visibleSet.contains c

end RuleLexer.Unicode
