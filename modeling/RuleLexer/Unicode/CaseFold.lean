import RuleLexer.CharSet

/-! Simple case folding: the characters that differ from one another by case alone, one
character against one, after version 16.0 of the character database. -/

namespace RuleLexer.Unicode

/-- Each run moves by its offset onto the character that stands for its case class. -/
def foldings : List (Run × Int) :=
  [(.all 0x0041 0x005A, 32), (.all 0x00C0 0x00D6, 32), (.all 0x00D8 0x00DE, 32),
   (.alternate 0x0100 0x012E, 1), (.alternate 0x0132 0x0136, 1), (.alternate 0x0139 0x0147, 1),
   (.alternate 0x014A 0x0176, 1), (.one 0x0178, -121), (.alternate 0x0179 0x017D, 1),
   (.one 0x017F, -268), (.one 0x0181, 210), (.alternate 0x0182 0x0184, 1), (.one 0x0186, 206),
   (.one 0x0187, 1), (.all 0x0189 0x018A, 205), (.one 0x018B, 1), (.one 0x018E, 79),
   (.one 0x018F, 202), (.one 0x0190, 203), (.one 0x0191, 1), (.one 0x0193, 205),
   (.one 0x0194, 207), (.one 0x0196, 211), (.one 0x0197, 209), (.one 0x0198, 1),
   (.one 0x019C, 211), (.one 0x019D, 213), (.one 0x019F, 214), (.alternate 0x01A0 0x01A4, 1),
   (.one 0x01A6, 218), (.one 0x01A7, 1), (.one 0x01A9, 218), (.one 0x01AC, 1), (.one 0x01AE, 218),
   (.one 0x01AF, 1), (.all 0x01B1 0x01B2, 217), (.alternate 0x01B3 0x01B5, 1), (.one 0x01B7, 219),
   (.one 0x01B8, 1), (.one 0x01BC, 1), (.one 0x01C4, 2), (.one 0x01C5, 1), (.one 0x01C7, 2),
   (.one 0x01C8, 1), (.one 0x01CA, 2), (.alternate 0x01CB 0x01DB, 1),
   (.alternate 0x01DE 0x01EE, 1), (.one 0x01F1, 2), (.alternate 0x01F2 0x01F4, 1),
   (.one 0x01F6, -97), (.one 0x01F7, -56), (.alternate 0x01F8 0x021E, 1), (.one 0x0220, -130),
   (.alternate 0x0222 0x0232, 1), (.one 0x023A, 10795), (.one 0x023B, 1), (.one 0x023D, -163),
   (.one 0x023E, 10792), (.one 0x0241, 1), (.one 0x0243, -195), (.one 0x0244, 69),
   (.one 0x0245, 71), (.alternate 0x0246 0x024E, 1), (.alternate 0x0370 0x0372, 1),
   (.one 0x0376, 1), (.one 0x037F, 116), (.one 0x0386, 38), (.all 0x0388 0x038A, 37),
   (.one 0x038C, 64), (.all 0x038E 0x038F, 63), (.all 0x0391 0x0398, 32), (.one 0x0399, -84),
   (.all 0x039A 0x039B, 32), (.one 0x039C, -743), (.all 0x039D 0x03A1, 32), (.one 0x03A3, 31),
   (.all 0x03A4 0x03AB, 32), (.one 0x03B9, -116), (.one 0x03BC, -775), (.one 0x03C3, -1),
   (.one 0x03CF, 8), (.one 0x03D0, -30), (.one 0x03D1, -25), (.one 0x03D5, -15),
   (.one 0x03D6, -22), (.alternate 0x03D8 0x03EE, 1), (.one 0x03F0, -54), (.one 0x03F1, -48),
   (.one 0x03F4, -60), (.one 0x03F5, -64), (.one 0x03F7, 1), (.one 0x03F9, -7), (.one 0x03FA, 1),
   (.all 0x03FD 0x03FF, -130), (.all 0x0400 0x040F, 80), (.all 0x0410 0x042F, 32),
   (.alternate 0x0460 0x0480, 1), (.alternate 0x048A 0x04BE, 1), (.one 0x04C0, 15),
   (.alternate 0x04C1 0x04CD, 1), (.alternate 0x04D0 0x052E, 1), (.all 0x0531 0x0556, 48),
   (.all 0x10A0 0x10C5, 7264), (.one 0x10C7, 7264), (.one 0x10CD, 7264),
   (.all 0x13A0 0x13EF, 38864), (.all 0x13F0 0x13F5, 8), (.one 0x1C80, -6222),
   (.one 0x1C81, -6221), (.one 0x1C82, -6212), (.all 0x1C83 0x1C84, -6210), (.one 0x1C85, -6211),
   (.one 0x1C86, -6204), (.one 0x1C87, -6180), (.one 0x1C89, 1), (.all 0x1C90 0x1CBA, -3008),
   (.all 0x1CBD 0x1CBF, -3008), (.alternate 0x1E00 0x1E94, 1), (.one 0x1E9B, -58),
   (.one 0x1E9E, -7615), (.alternate 0x1EA0 0x1EFE, 1), (.all 0x1F08 0x1F0F, -8),
   (.all 0x1F18 0x1F1D, -8), (.all 0x1F28 0x1F2F, -8), (.all 0x1F38 0x1F3F, -8),
   (.all 0x1F48 0x1F4D, -8), (.alternate 0x1F59 0x1F5F, -8), (.all 0x1F68 0x1F6F, -8),
   (.all 0x1F88 0x1F8F, -8), (.all 0x1F98 0x1F9F, -8), (.all 0x1FA8 0x1FAF, -8),
   (.all 0x1FB8 0x1FB9, -8), (.all 0x1FBA 0x1FBB, -74), (.one 0x1FBC, -9), (.one 0x1FBE, -7289),
   (.all 0x1FC8 0x1FCB, -86), (.one 0x1FCC, -9), (.one 0x1FD3, -7235), (.all 0x1FD8 0x1FD9, -8),
   (.all 0x1FDA 0x1FDB, -100), (.one 0x1FE3, -7219), (.all 0x1FE8 0x1FE9, -8),
   (.all 0x1FEA 0x1FEB, -112), (.one 0x1FEC, -7), (.all 0x1FF8 0x1FF9, -128),
   (.all 0x1FFA 0x1FFB, -126), (.one 0x1FFC, -9), (.one 0x2126, -7517), (.one 0x212A, -8383),
   (.one 0x212B, -8262), (.one 0x2132, 28), (.all 0x2160 0x216F, 16), (.one 0x2183, 1),
   (.all 0x24B6 0x24CF, 26), (.all 0x2C00 0x2C2F, 48), (.one 0x2C60, 1), (.one 0x2C62, -10743),
   (.one 0x2C63, -3814), (.one 0x2C64, -10727), (.alternate 0x2C67 0x2C6B, 1),
   (.one 0x2C6D, -10780), (.one 0x2C6E, -10749), (.one 0x2C6F, -10783), (.one 0x2C70, -10782),
   (.one 0x2C72, 1), (.one 0x2C75, 1), (.all 0x2C7E 0x2C7F, -10815),
   (.alternate 0x2C80 0x2CE2, 1), (.alternate 0x2CEB 0x2CED, 1), (.one 0x2CF2, 1),
   (.alternate 0xA640 0xA648, 1), (.one 0xA64A, -35266), (.one 0xA64B, -35267),
   (.alternate 0xA64C 0xA66C, 1), (.alternate 0xA680 0xA69A, 1), (.alternate 0xA722 0xA72E, 1),
   (.alternate 0xA732 0xA76E, 1), (.alternate 0xA779 0xA77B, 1), (.one 0xA77D, -35332),
   (.alternate 0xA77E 0xA786, 1), (.one 0xA78B, 1), (.one 0xA78D, -42280),
   (.alternate 0xA790 0xA792, 1), (.alternate 0xA796 0xA7A8, 1), (.one 0xA7AA, -42308),
   (.one 0xA7AB, -42319), (.one 0xA7AC, -42315), (.one 0xA7AD, -42305), (.one 0xA7AE, -42308),
   (.one 0xA7B0, -42258), (.one 0xA7B1, -42282), (.one 0xA7B2, -42261), (.one 0xA7B3, 928),
   (.alternate 0xA7B4 0xA7C2, 1), (.one 0xA7C4, -48), (.one 0xA7C5, -42307),
   (.one 0xA7C6, -35384), (.alternate 0xA7C7 0xA7C9, 1), (.one 0xA7CB, -42343), (.one 0xA7CC, 1),
   (.one 0xA7D0, 1), (.alternate 0xA7D6 0xA7DA, 1), (.one 0xA7DC, -42561), (.one 0xA7F5, 1),
   (.one 0xFB06, -1), (.all 0xFF21 0xFF3A, 32), (.all 0x10400 0x10427, 40),
   (.all 0x104B0 0x104D3, 40), (.all 0x10570 0x1057A, 39), (.all 0x1057C 0x1058A, 39),
   (.all 0x1058C 0x10592, 39), (.all 0x10594 0x10595, 39), (.all 0x10C80 0x10CB2, 64),
   (.all 0x10D50 0x10D65, 32), (.all 0x118A0 0x118BF, 32), (.all 0x16E40 0x16E5F, 32),
   (.all 0x1E900 0x1E921, 34)]

/-- Every code point that moves, in ascending order, with the one it moves to. -/
def foldPairs : List (Nat × Nat) :=
  foldings.flatMap fun f => f.1.points.map fun point => (point, ((point : Int) + f.2).toNat)

/-- The same pairs the other way round. -/
def unfoldPairs : List (Nat × Nat) :=
  (foldPairs.map Prod.swap).mergeSort fun p q => decide (p.1 ≤ q.1)

/-- The basic letters with what they are in the other case. -/
def asciiCasePairs : List (Nat × Nat) :=
  ((Run.all 0x41 0x5A).points.map fun point => (point, point + 32))
    ++ (Run.all 0x61 0x7A).points.map fun point => (point, point - 32)

end RuleLexer.Unicode

namespace RuleLexer.CharSet

/-- The characters equal, up to case, to one in the set. -/
def ignoringCase (s : CharSet) : CharSet :=
  let folded := s.union (s.image Unicode.foldPairs)
  folded.union (folded.image Unicode.unfoldPairs)

/-- The same with the case of the 26 basic letters alone. -/
def ignoringAsciiCase (s : CharSet) : CharSet :=
  s.union (s.image Unicode.asciiCasePairs)

end RuleLexer.CharSet
