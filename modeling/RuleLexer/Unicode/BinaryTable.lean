import RuleLexer.Unicode.Run

/-! The characters of properties that nothing else decides, after version 16.0 of the character
database. -/

namespace RuleLexer.Unicode

def bidiControlRuns : List Run :=
  [.one 0x061C, .all 0x200E 0x200F, .all 0x202A 0x202E, .all 0x2066 0x2069]

def bidiMirroredRuns : List Run :=
  [.all 0x0028 0x0029, .alternate 0x003C 0x003E, .alternate 0x005B 0x005D,
   .alternate 0x007B 0x007D, .one 0x00AB, .one 0x00BB, .all 0x0F3A 0x0F3D, .all 0x169B 0x169C,
   .all 0x2039 0x203A, .all 0x2045 0x2046, .all 0x207D 0x207E, .all 0x208D 0x208E, .one 0x2140,
   .all 0x2201 0x2204, .all 0x2208 0x220D, .one 0x2211, .all 0x2215 0x2216, .all 0x221A 0x221D,
   .all 0x221F 0x2222, .alternate 0x2224 0x2226, .all 0x222B 0x2233, .one 0x2239,
   .all 0x223B 0x224C, .all 0x2252 0x2255, .all 0x225F 0x2260, .one 0x2262, .all 0x2264 0x226B,
   .all 0x226D 0x228C, .all 0x228F 0x2292, .one 0x2298, .all 0x22A2 0x22A3, .all 0x22A6 0x22B8,
   .all 0x22BE 0x22BF, .all 0x22C9 0x22CD, .all 0x22D0 0x22D1, .all 0x22D6 0x22ED,
   .all 0x22F0 0x22FF, .all 0x2308 0x230B, .all 0x2320 0x2321, .all 0x2329 0x232A,
   .all 0x2768 0x2775, .one 0x27C0, .all 0x27C3 0x27C6, .all 0x27C8 0x27C9, .all 0x27CB 0x27CD,
   .all 0x27D3 0x27D6, .all 0x27DC 0x27DE, .all 0x27E2 0x27EF, .all 0x2983 0x2998,
   .all 0x299B 0x29A0, .all 0x29A2 0x29AF, .one 0x29B8, .all 0x29C0 0x29C5, .one 0x29C9,
   .all 0x29CE 0x29D2, .all 0x29D4 0x29D5, .all 0x29D8 0x29DC, .one 0x29E1, .all 0x29E3 0x29E5,
   .all 0x29E8 0x29E9, .all 0x29F4 0x29F9, .all 0x29FC 0x29FD, .all 0x2A0A 0x2A1C,
   .all 0x2A1E 0x2A21, .alternate 0x2A24 0x2A26, .one 0x2A29, .all 0x2A2B 0x2A2E,
   .all 0x2A34 0x2A35, .all 0x2A3C 0x2A3E, .all 0x2A57 0x2A58, .all 0x2A64 0x2A65,
   .all 0x2A6A 0x2A6D, .all 0x2A6F 0x2A70, .all 0x2A73 0x2A74, .all 0x2A79 0x2AA3,
   .all 0x2AA6 0x2AAD, .all 0x2AAF 0x2AD6, .alternate 0x2ADC 0x2ADE, .all 0x2AE2 0x2AE6,
   .all 0x2AEC 0x2AEE, .one 0x2AF3, .all 0x2AF7 0x2AFB, .one 0x2AFD, .one 0x2BFE,
   .all 0x2E02 0x2E05, .all 0x2E09 0x2E0A, .all 0x2E0C 0x2E0D, .all 0x2E1C 0x2E1D,
   .all 0x2E20 0x2E29, .all 0x2E55 0x2E5C, .all 0x3008 0x3011, .all 0x3014 0x301B,
   .all 0xFE59 0xFE5E, .all 0xFE64 0xFE65, .all 0xFF08 0xFF09, .alternate 0xFF1C 0xFF1E,
   .alternate 0xFF3B 0xFF3D, .alternate 0xFF5B 0xFF5D, .all 0xFF5F 0xFF60, .all 0xFF62 0xFF63,
   .one 0x1D6DB, .one 0x1D715, .one 0x1D74F, .one 0x1D789, .one 0x1D7C3]

def dashRuns : List Run :=
  [.one 0x002D, .one 0x058A, .one 0x05BE, .one 0x1400, .one 0x1806, .all 0x2010 0x2015,
   .one 0x2053, .one 0x207B, .one 0x208B, .one 0x2212, .one 0x2E17, .one 0x2E1A,
   .all 0x2E3A 0x2E3B, .one 0x2E40, .one 0x2E5D, .one 0x301C, .one 0x3030, .one 0x30A0,
   .all 0xFE31 0xFE32, .one 0xFE58, .one 0xFE63, .one 0xFF0D, .one 0x10D6E, .one 0x10EAD]

def deprecatedRuns : List Run :=
  [.one 0x0149, .one 0x0673, .alternate 0x0F77 0x0F79, .all 0x17A3 0x17A4, .all 0x206A 0x206F,
   .all 0x2329 0x232A, .one 0xE0001]

def diacriticRuns : List Run :=
  [.alternate 0x005E 0x0060, .one 0x00A8, .one 0x00AF, .one 0x00B4, .all 0x00B7 0x00B8,
   .all 0x02B0 0x034E, .all 0x0350 0x0357, .all 0x035D 0x0362, .all 0x0374 0x0375, .one 0x037A,
   .all 0x0384 0x0385, .all 0x0483 0x0487, .one 0x0559, .all 0x0591 0x05A1, .all 0x05A3 0x05BD,
   .one 0x05BF, .all 0x05C1 0x05C2, .one 0x05C4, .all 0x064B 0x0652, .all 0x0657 0x0658,
   .all 0x06DF 0x06E0, .all 0x06E5 0x06E6, .all 0x06EA 0x06EC, .all 0x0730 0x074A,
   .all 0x07A6 0x07B0, .all 0x07EB 0x07F5, .all 0x0818 0x0819, .all 0x0898 0x089F,
   .all 0x08C9 0x08D2, .all 0x08E3 0x08FE, .one 0x093C, .one 0x094D, .all 0x0951 0x0954,
   .one 0x0971, .one 0x09BC, .one 0x09CD, .one 0x0A3C, .one 0x0A4D, .one 0x0ABC, .one 0x0ACD,
   .all 0x0AFD 0x0AFF, .one 0x0B3C, .one 0x0B4D, .one 0x0B55, .one 0x0BCD, .one 0x0C3C,
   .one 0x0C4D, .one 0x0CBC, .one 0x0CCD, .all 0x0D3B 0x0D3C, .one 0x0D4D, .one 0x0DCA,
   .one 0x0E3A, .all 0x0E47 0x0E4C, .one 0x0E4E, .one 0x0EBA, .all 0x0EC8 0x0ECC,
   .all 0x0F18 0x0F19, .alternate 0x0F35 0x0F39, .all 0x0F3E 0x0F3F, .all 0x0F82 0x0F84,
   .all 0x0F86 0x0F87, .one 0x0FC6, .one 0x1037, .all 0x1039 0x103A, .all 0x1063 0x1064,
   .all 0x1069 0x106D, .all 0x1087 0x108D, .one 0x108F, .all 0x109A 0x109B, .all 0x135D 0x135F,
   .all 0x1714 0x1715, .one 0x1734, .all 0x17C9 0x17D3, .one 0x17DD, .all 0x1939 0x193B,
   .one 0x1A60, .all 0x1A75 0x1A7C, .one 0x1A7F, .all 0x1AB0 0x1ABE, .all 0x1AC1 0x1ACB,
   .one 0x1B34, .one 0x1B44, .all 0x1B6B 0x1B73, .all 0x1BAA 0x1BAB, .one 0x1BE6,
   .all 0x1BF2 0x1BF3, .all 0x1C36 0x1C37, .all 0x1C78 0x1C7D, .all 0x1CD0 0x1CE8, .one 0x1CED,
   .one 0x1CF4, .all 0x1CF7 0x1CF9, .all 0x1D2C 0x1D6A, .all 0x1DC4 0x1DCF, .all 0x1DF5 0x1DFF,
   .one 0x1FBD, .all 0x1FBF 0x1FC1, .all 0x1FCD 0x1FCF, .all 0x1FDD 0x1FDF, .all 0x1FED 0x1FEF,
   .all 0x1FFD 0x1FFE, .all 0x2CEF 0x2CF1, .one 0x2E2F, .all 0x302A 0x302F, .all 0x3099 0x309C,
   .one 0x30FC, .one 0xA66F, .all 0xA67C 0xA67D, .one 0xA67F, .all 0xA69C 0xA69D,
   .all 0xA6F0 0xA6F1, .all 0xA700 0xA721, .all 0xA788 0xA78A, .all 0xA7F8 0xA7F9, .one 0xA806,
   .one 0xA82C, .one 0xA8C4, .all 0xA8E0 0xA8F1, .all 0xA92B 0xA92E, .one 0xA953, .one 0xA9B3,
   .one 0xA9C0, .one 0xA9E5, .all 0xAA7B 0xAA7D, .all 0xAABF 0xAAC2, .one 0xAAF6,
   .all 0xAB5B 0xAB5F, .all 0xAB69 0xAB6B, .all 0xABEC 0xABED, .one 0xFB1E, .all 0xFE20 0xFE2F,
   .alternate 0xFF3E 0xFF40, .one 0xFF70, .all 0xFF9E 0xFF9F, .one 0xFFE3, .one 0x102E0,
   .all 0x10780 0x10785, .all 0x10787 0x107B0, .all 0x107B2 0x107BA, .all 0x10A38 0x10A3A,
   .one 0x10A3F, .all 0x10AE5 0x10AE6, .all 0x10D22 0x10D27, .one 0x10D4E, .all 0x10D69 0x10D6D,
   .all 0x10EFD 0x10EFF, .all 0x10F46 0x10F50, .all 0x10F82 0x10F85, .one 0x11046, .one 0x11070,
   .all 0x110B9 0x110BA, .all 0x11133 0x11134, .one 0x11173, .one 0x111C0, .all 0x111CA 0x111CC,
   .all 0x11235 0x11236, .all 0x112E9 0x112EA, .all 0x1133B 0x1133C, .one 0x1134D,
   .all 0x11366 0x1136C, .all 0x11370 0x11374, .all 0x113CE 0x113D0, .all 0x113D2 0x113D3,
   .all 0x113E1 0x113E2, .one 0x11442, .one 0x11446, .all 0x114C2 0x114C3, .all 0x115BF 0x115C0,
   .one 0x1163F, .all 0x116B6 0x116B7, .one 0x1172B, .all 0x11839 0x1183A, .all 0x1193D 0x1193E,
   .one 0x11943, .one 0x119E0, .one 0x11A34, .one 0x11A47, .one 0x11A99, .one 0x11C3F,
   .one 0x11D42, .all 0x11D44 0x11D45, .one 0x11D97, .all 0x11F41 0x11F42, .one 0x11F5A,
   .all 0x13447 0x13455, .one 0x1612F, .all 0x16AF0 0x16AF4, .all 0x16B30 0x16B36,
   .all 0x16D6B 0x16D6C, .all 0x16F8F 0x16F9F, .all 0x16FF0 0x16FF1, .all 0x1AFF0 0x1AFF3,
   .all 0x1AFF5 0x1AFFB, .all 0x1AFFD 0x1AFFE, .all 0x1CF00 0x1CF2D, .all 0x1CF30 0x1CF46,
   .all 0x1D167 0x1D169, .all 0x1D16D 0x1D172, .all 0x1D17B 0x1D182, .all 0x1D185 0x1D18B,
   .all 0x1D1AA 0x1D1AD, .all 0x1E030 0x1E06D, .all 0x1E130 0x1E136, .one 0x1E2AE,
   .all 0x1E2EC 0x1E2EF, .all 0x1E5EE 0x1E5EF, .all 0x1E8D0 0x1E8D6, .all 0x1E944 0x1E946,
   .all 0x1E948 0x1E94A]

def emojiRuns : List Run :=
  [.one 0x0023, .one 0x002A, .all 0x0030 0x0039, .one 0x00A9, .one 0x00AE, .one 0x203C,
   .one 0x2049, .one 0x2122, .one 0x2139, .all 0x2194 0x2199, .all 0x21A9 0x21AA,
   .all 0x231A 0x231B, .one 0x2328, .one 0x23CF, .all 0x23E9 0x23F3, .all 0x23F8 0x23FA,
   .one 0x24C2, .all 0x25AA 0x25AB, .one 0x25B6, .one 0x25C0, .all 0x25FB 0x25FE,
   .all 0x2600 0x2604, .one 0x260E, .one 0x2611, .all 0x2614 0x2615, .one 0x2618, .one 0x261D,
   .one 0x2620, .all 0x2622 0x2623, .one 0x2626, .one 0x262A, .all 0x262E 0x262F,
   .all 0x2638 0x263A, .alternate 0x2640 0x2642, .all 0x2648 0x2653, .all 0x265F 0x2660,
   .one 0x2663, .all 0x2665 0x2666, .one 0x2668, .one 0x267B, .all 0x267E 0x267F,
   .all 0x2692 0x2697, .one 0x2699, .all 0x269B 0x269C, .all 0x26A0 0x26A1, .one 0x26A7,
   .all 0x26AA 0x26AB, .all 0x26B0 0x26B1, .all 0x26BD 0x26BE, .all 0x26C4 0x26C5, .one 0x26C8,
   .all 0x26CE 0x26CF, .one 0x26D1, .all 0x26D3 0x26D4, .all 0x26E9 0x26EA, .all 0x26F0 0x26F5,
   .all 0x26F7 0x26FA, .one 0x26FD, .one 0x2702, .one 0x2705, .all 0x2708 0x270D, .one 0x270F,
   .alternate 0x2712 0x2716, .one 0x271D, .one 0x2721, .one 0x2728, .all 0x2733 0x2734,
   .one 0x2744, .one 0x2747, .alternate 0x274C 0x274E, .all 0x2753 0x2755, .one 0x2757,
   .all 0x2763 0x2764, .all 0x2795 0x2797, .one 0x27A1, .one 0x27B0, .one 0x27BF,
   .all 0x2934 0x2935, .all 0x2B05 0x2B07, .all 0x2B1B 0x2B1C, .one 0x2B50, .one 0x2B55,
   .one 0x3030, .one 0x303D, .alternate 0x3297 0x3299, .one 0x1F004, .one 0x1F0CF,
   .all 0x1F170 0x1F171, .all 0x1F17E 0x1F17F, .one 0x1F18E, .all 0x1F191 0x1F19A,
   .all 0x1F1E6 0x1F1FF, .all 0x1F201 0x1F202, .one 0x1F21A, .one 0x1F22F, .all 0x1F232 0x1F23A,
   .all 0x1F250 0x1F251, .all 0x1F300 0x1F321, .all 0x1F324 0x1F393, .all 0x1F396 0x1F397,
   .all 0x1F399 0x1F39B, .all 0x1F39E 0x1F3F0, .all 0x1F3F3 0x1F3F5, .all 0x1F3F7 0x1F4FD,
   .all 0x1F4FF 0x1F53D, .all 0x1F549 0x1F54E, .all 0x1F550 0x1F567, .all 0x1F56F 0x1F570,
   .all 0x1F573 0x1F57A, .one 0x1F587, .all 0x1F58A 0x1F58D, .one 0x1F590, .all 0x1F595 0x1F596,
   .all 0x1F5A4 0x1F5A5, .one 0x1F5A8, .all 0x1F5B1 0x1F5B2, .one 0x1F5BC, .all 0x1F5C2 0x1F5C4,
   .all 0x1F5D1 0x1F5D3, .all 0x1F5DC 0x1F5DE, .alternate 0x1F5E1 0x1F5E3, .one 0x1F5E8,
   .one 0x1F5EF, .one 0x1F5F3, .all 0x1F5FA 0x1F64F, .all 0x1F680 0x1F6C5, .all 0x1F6CB 0x1F6D2,
   .all 0x1F6D5 0x1F6D7, .all 0x1F6DC 0x1F6E5, .one 0x1F6E9, .all 0x1F6EB 0x1F6EC, .one 0x1F6F0,
   .all 0x1F6F3 0x1F6FC, .all 0x1F7E0 0x1F7EB, .one 0x1F7F0, .all 0x1F90C 0x1F93A,
   .all 0x1F93C 0x1F945, .all 0x1F947 0x1F9FF, .all 0x1FA70 0x1FA7C, .all 0x1FA80 0x1FA89,
   .all 0x1FA8F 0x1FAC6, .all 0x1FACE 0x1FADC, .all 0x1FADF 0x1FAE9, .all 0x1FAF0 0x1FAF8]

def emojiComponentRuns : List Run :=
  [.one 0x0023, .one 0x002A, .all 0x0030 0x0039, .one 0x200D, .one 0x20E3, .one 0xFE0F,
   .all 0x1F1E6 0x1F1FF, .all 0x1F3FB 0x1F3FF, .all 0x1F9B0 0x1F9B3, .all 0xE0020 0xE007F]

def emojiModifierRuns : List Run :=
  [.all 0x1F3FB 0x1F3FF]

def emojiModifierBaseRuns : List Run :=
  [.one 0x261D, .one 0x26F9, .all 0x270A 0x270D, .one 0x1F385, .all 0x1F3C2 0x1F3C4, .one 0x1F3C7,
   .all 0x1F3CA 0x1F3CC, .all 0x1F442 0x1F443, .all 0x1F446 0x1F450, .all 0x1F466 0x1F478,
   .one 0x1F47C, .all 0x1F481 0x1F483, .all 0x1F485 0x1F487, .alternate 0x1F48F 0x1F491,
   .one 0x1F4AA, .all 0x1F574 0x1F575, .one 0x1F57A, .one 0x1F590, .all 0x1F595 0x1F596,
   .all 0x1F645 0x1F647, .all 0x1F64B 0x1F64F, .one 0x1F6A3, .all 0x1F6B4 0x1F6B6, .one 0x1F6C0,
   .one 0x1F6CC, .one 0x1F90C, .one 0x1F90F, .all 0x1F918 0x1F91F, .one 0x1F926,
   .all 0x1F930 0x1F939, .all 0x1F93C 0x1F93E, .one 0x1F977, .all 0x1F9B5 0x1F9B6,
   .all 0x1F9B8 0x1F9B9, .one 0x1F9BB, .all 0x1F9CD 0x1F9CF, .all 0x1F9D1 0x1F9DD,
   .all 0x1FAC3 0x1FAC5, .all 0x1FAF0 0x1FAF8]

def emojiPresentationRuns : List Run :=
  [.all 0x231A 0x231B, .all 0x23E9 0x23EC, .one 0x23F0, .one 0x23F3, .all 0x25FD 0x25FE,
   .all 0x2614 0x2615, .all 0x2648 0x2653, .one 0x267F, .one 0x2693, .one 0x26A1,
   .all 0x26AA 0x26AB, .all 0x26BD 0x26BE, .all 0x26C4 0x26C5, .one 0x26CE, .one 0x26D4,
   .one 0x26EA, .all 0x26F2 0x26F3, .one 0x26F5, .one 0x26FA, .one 0x26FD, .one 0x2705,
   .all 0x270A 0x270B, .one 0x2728, .alternate 0x274C 0x274E, .all 0x2753 0x2755, .one 0x2757,
   .all 0x2795 0x2797, .one 0x27B0, .one 0x27BF, .all 0x2B1B 0x2B1C, .one 0x2B50, .one 0x2B55,
   .one 0x1F004, .one 0x1F0CF, .one 0x1F18E, .all 0x1F191 0x1F19A, .all 0x1F1E6 0x1F1FF,
   .one 0x1F201, .one 0x1F21A, .one 0x1F22F, .all 0x1F232 0x1F236, .all 0x1F238 0x1F23A,
   .all 0x1F250 0x1F251, .all 0x1F300 0x1F320, .all 0x1F32D 0x1F335, .all 0x1F337 0x1F37C,
   .all 0x1F37E 0x1F393, .all 0x1F3A0 0x1F3CA, .all 0x1F3CF 0x1F3D3, .all 0x1F3E0 0x1F3F0,
   .one 0x1F3F4, .all 0x1F3F8 0x1F43E, .one 0x1F440, .all 0x1F442 0x1F4FC, .all 0x1F4FF 0x1F53D,
   .all 0x1F54B 0x1F54E, .all 0x1F550 0x1F567, .one 0x1F57A, .all 0x1F595 0x1F596, .one 0x1F5A4,
   .all 0x1F5FB 0x1F64F, .all 0x1F680 0x1F6C5, .one 0x1F6CC, .all 0x1F6D0 0x1F6D2,
   .all 0x1F6D5 0x1F6D7, .all 0x1F6DC 0x1F6DF, .all 0x1F6EB 0x1F6EC, .all 0x1F6F4 0x1F6FC,
   .all 0x1F7E0 0x1F7EB, .one 0x1F7F0, .all 0x1F90C 0x1F93A, .all 0x1F93C 0x1F945,
   .all 0x1F947 0x1F9FF, .all 0x1FA70 0x1FA7C, .all 0x1FA80 0x1FA89, .all 0x1FA8F 0x1FAC6,
   .all 0x1FACE 0x1FADC, .all 0x1FADF 0x1FAE9, .all 0x1FAF0 0x1FAF8]

def extendedPictographicRuns : List Run :=
  [.one 0x00A9, .one 0x00AE, .one 0x203C, .one 0x2049, .one 0x2122, .one 0x2139,
   .all 0x2194 0x2199, .all 0x21A9 0x21AA, .all 0x231A 0x231B, .one 0x2328, .one 0x2388,
   .one 0x23CF, .all 0x23E9 0x23F3, .all 0x23F8 0x23FA, .one 0x24C2, .all 0x25AA 0x25AB,
   .one 0x25B6, .one 0x25C0, .all 0x25FB 0x25FE, .all 0x2600 0x2605, .all 0x2607 0x2612,
   .all 0x2614 0x2685, .all 0x2690 0x2705, .all 0x2708 0x2712, .alternate 0x2714 0x2716,
   .one 0x271D, .one 0x2721, .one 0x2728, .all 0x2733 0x2734, .one 0x2744, .one 0x2747,
   .alternate 0x274C 0x274E, .all 0x2753 0x2755, .one 0x2757, .all 0x2763 0x2767,
   .all 0x2795 0x2797, .one 0x27A1, .one 0x27B0, .one 0x27BF, .all 0x2934 0x2935,
   .all 0x2B05 0x2B07, .all 0x2B1B 0x2B1C, .one 0x2B50, .one 0x2B55, .one 0x3030, .one 0x303D,
   .alternate 0x3297 0x3299, .all 0x1F000 0x1F0FF, .all 0x1F10D 0x1F10F, .one 0x1F12F,
   .all 0x1F16C 0x1F171, .all 0x1F17E 0x1F17F, .one 0x1F18E, .all 0x1F191 0x1F19A,
   .all 0x1F1AD 0x1F1E5, .all 0x1F201 0x1F20F, .one 0x1F21A, .one 0x1F22F, .all 0x1F232 0x1F23A,
   .all 0x1F23C 0x1F23F, .all 0x1F249 0x1F3FA, .all 0x1F400 0x1F53D, .all 0x1F546 0x1F64F,
   .all 0x1F680 0x1F6FF, .all 0x1F774 0x1F77F, .all 0x1F7D5 0x1F7FF, .all 0x1F80C 0x1F80F,
   .all 0x1F848 0x1F84F, .all 0x1F85A 0x1F85F, .all 0x1F888 0x1F88F, .all 0x1F8AE 0x1F8FF,
   .all 0x1F90C 0x1F93A, .all 0x1F93C 0x1F945, .all 0x1F947 0x1FAFF, .all 0x1FC00 0x1FFFD]

def extenderRuns : List Run :=
  [.one 0x00B7, .all 0x02D0 0x02D1, .one 0x0640, .one 0x07FA, .one 0x0A71, .one 0x0AFB,
   .one 0x0B55, .one 0x0E46, .one 0x0EC6, .one 0x180A, .one 0x1843, .one 0x1AA7, .one 0x1C36,
   .one 0x1C7B, .one 0x3005, .all 0x3031 0x3035, .all 0x309D 0x309E, .all 0x30FC 0x30FE,
   .one 0xA015, .one 0xA60C, .one 0xA9CF, .one 0xA9E6, .one 0xAA70, .one 0xAADD,
   .all 0xAAF3 0xAAF4, .one 0xFF70, .all 0x10781 0x10782, .one 0x10D4E, .one 0x10D6A,
   .one 0x10D6F, .one 0x11237, .one 0x1135D, .all 0x113D2 0x113D3, .all 0x115C6 0x115C8,
   .one 0x11A98, .all 0x16B42 0x16B43, .all 0x16FE0 0x16FE1, .one 0x16FE3, .all 0x1E13C 0x1E13D,
   .one 0x1E5EF, .all 0x1E944 0x1E946]

def graphemeLinkRuns : List Run :=
  [.one 0x094D, .one 0x09CD, .one 0x0A4D, .one 0x0ACD, .one 0x0B4D, .one 0x0BCD, .one 0x0C4D,
   .one 0x0CCD, .all 0x0D3B 0x0D3C, .one 0x0D4D, .one 0x0DCA, .one 0x0E3A, .one 0x0EBA,
   .one 0x0F84, .all 0x1039 0x103A, .all 0x1714 0x1715, .one 0x1734, .one 0x17D2, .one 0x1A60,
   .one 0x1B44, .all 0x1BAA 0x1BAB, .all 0x1BF2 0x1BF3, .one 0x2D7F, .one 0xA806, .one 0xA82C,
   .one 0xA8C4, .one 0xA953, .one 0xA9C0, .one 0xAAF6, .one 0xABED, .one 0x10A3F, .one 0x11046,
   .one 0x11070, .one 0x1107F, .one 0x110B9, .all 0x11133 0x11134, .one 0x111C0, .one 0x11235,
   .one 0x112EA, .one 0x1134D, .all 0x113CE 0x113D0, .one 0x11442, .one 0x114C2, .one 0x115BF,
   .one 0x1163F, .one 0x116B6, .one 0x1172B, .one 0x11839, .all 0x1193D 0x1193E, .one 0x119E0,
   .one 0x11A34, .one 0x11A47, .one 0x11A99, .one 0x11C3F, .all 0x11D44 0x11D45, .one 0x11D97,
   .all 0x11F41 0x11F42, .one 0x1612F]

def asciiHexDigitRuns : List Run :=
  [.all 0x0030 0x0039, .all 0x0041 0x0046, .all 0x0061 0x0066]

def hexDigitRuns : List Run :=
  [.all 0x0030 0x0039, .all 0x0041 0x0046, .all 0x0061 0x0066, .all 0xFF10 0xFF19,
   .all 0xFF21 0xFF26, .all 0xFF41 0xFF46]

def hyphenRuns : List Run :=
  [.one 0x002D, .one 0x00AD, .one 0x058A, .one 0x1806, .all 0x2010 0x2011, .one 0x2E17,
   .one 0x30FB, .one 0xFE63, .one 0xFF0D, .one 0xFF65]

def binaryIdeographicOperatorRuns : List Run :=
  [.all 0x2FF0 0x2FF1, .all 0x2FF4 0x2FFD, .one 0x31EF]

def trinaryIdeographicOperatorRuns : List Run :=
  [.all 0x2FF2 0x2FF3]

def unaryIdeographicOperatorRuns : List Run :=
  [.all 0x2FFE 0x2FFF]

def compatMathContinueRuns : List Run :=
  [.all 0x00B2 0x00B3, .one 0x00B9, .one 0x2070, .all 0x2074 0x207E, .all 0x2080 0x208E,
   .one 0x2202, .one 0x2207, .one 0x221E, .one 0x1D6C1, .one 0x1D6DB, .one 0x1D6FB, .one 0x1D715,
   .one 0x1D735, .one 0x1D74F, .one 0x1D76F, .one 0x1D789, .one 0x1D7A9, .one 0x1D7C3]

def compatMathStartRuns : List Run :=
  [.one 0x2202, .one 0x2207, .one 0x221E, .one 0x1D6C1, .one 0x1D6DB, .one 0x1D6FB, .one 0x1D715,
   .one 0x1D735, .one 0x1D74F, .one 0x1D76F, .one 0x1D789, .one 0x1D7A9, .one 0x1D7C3]

def joinControlRuns : List Run :=
  [.all 0x200C 0x200D]

def logicalOrderExceptionRuns : List Run :=
  [.all 0x0E40 0x0E44, .all 0x0EC0 0x0EC4, .all 0x19B5 0x19B7, .one 0x19BA, .all 0xAAB5 0xAAB6,
   .one 0xAAB9, .all 0xAABB 0xAABC]

def modifierCombiningMarkRuns : List Run :=
  [.all 0x0654 0x0655, .one 0x0658, .one 0x06DC, .one 0x06E3, .all 0x06E7 0x06E8,
   .all 0x08CA 0x08CB, .all 0x08CD 0x08CF, .one 0x08D3, .one 0x08F3]

def noncharacterRuns : List Run :=
  [.all 0xFDD0 0xFDEF, .all 0xFFFE 0xFFFF, .all 0x1FFFE 0x1FFFF, .all 0x2FFFE 0x2FFFF,
   .all 0x3FFFE 0x3FFFF, .all 0x4FFFE 0x4FFFF, .all 0x5FFFE 0x5FFFF, .all 0x6FFFE 0x6FFFF,
   .all 0x7FFFE 0x7FFFF, .all 0x8FFFE 0x8FFFF, .all 0x9FFFE 0x9FFFF, .all 0xAFFFE 0xAFFFF,
   .all 0xBFFFE 0xBFFFF, .all 0xCFFFE 0xCFFFF, .all 0xDFFFE 0xDFFFF, .all 0xEFFFE 0xEFFFF,
   .all 0xFFFFE 0xFFFFF, .all 0x10FFFE 0x10FFFF]

/-- Alphabetic characters that are neither letters nor letter numbers. -/
def otherAlphabeticRuns : List Run :=
  [.one 0x0345, .all 0x0363 0x036F, .all 0x05B0 0x05BD, .one 0x05BF, .all 0x05C1 0x05C2,
   .all 0x05C4 0x05C5, .one 0x05C7, .all 0x0610 0x061A, .all 0x064B 0x0657, .all 0x0659 0x065F,
   .one 0x0670, .all 0x06D6 0x06DC, .all 0x06E1 0x06E4, .all 0x06E7 0x06E8, .one 0x06ED,
   .one 0x0711, .all 0x0730 0x073F, .all 0x07A6 0x07B0, .all 0x0816 0x0817, .all 0x081B 0x0823,
   .all 0x0825 0x0827, .all 0x0829 0x082C, .one 0x0897, .all 0x08D4 0x08DF, .all 0x08E3 0x08E9,
   .all 0x08F0 0x0903, .all 0x093A 0x093B, .all 0x093E 0x094C, .all 0x094E 0x094F,
   .all 0x0955 0x0957, .all 0x0962 0x0963, .all 0x0981 0x0983, .all 0x09BE 0x09C4,
   .all 0x09C7 0x09C8, .all 0x09CB 0x09CC, .one 0x09D7, .all 0x09E2 0x09E3, .all 0x0A01 0x0A03,
   .all 0x0A3E 0x0A42, .all 0x0A47 0x0A48, .all 0x0A4B 0x0A4C, .one 0x0A51, .all 0x0A70 0x0A71,
   .one 0x0A75, .all 0x0A81 0x0A83, .all 0x0ABE 0x0AC5, .all 0x0AC7 0x0AC9, .all 0x0ACB 0x0ACC,
   .all 0x0AE2 0x0AE3, .all 0x0AFA 0x0AFC, .all 0x0B01 0x0B03, .all 0x0B3E 0x0B44,
   .all 0x0B47 0x0B48, .all 0x0B4B 0x0B4C, .all 0x0B56 0x0B57, .all 0x0B62 0x0B63, .one 0x0B82,
   .all 0x0BBE 0x0BC2, .all 0x0BC6 0x0BC8, .all 0x0BCA 0x0BCC, .one 0x0BD7, .all 0x0C00 0x0C04,
   .all 0x0C3E 0x0C44, .all 0x0C46 0x0C48, .all 0x0C4A 0x0C4C, .all 0x0C55 0x0C56,
   .all 0x0C62 0x0C63, .all 0x0C81 0x0C83, .all 0x0CBE 0x0CC4, .all 0x0CC6 0x0CC8,
   .all 0x0CCA 0x0CCC, .all 0x0CD5 0x0CD6, .all 0x0CE2 0x0CE3, .one 0x0CF3, .all 0x0D00 0x0D03,
   .all 0x0D3E 0x0D44, .all 0x0D46 0x0D48, .all 0x0D4A 0x0D4C, .one 0x0D57, .all 0x0D62 0x0D63,
   .all 0x0D81 0x0D83, .all 0x0DCF 0x0DD4, .one 0x0DD6, .all 0x0DD8 0x0DDF, .all 0x0DF2 0x0DF3,
   .one 0x0E31, .all 0x0E34 0x0E3A, .one 0x0E4D, .one 0x0EB1, .all 0x0EB4 0x0EB9,
   .all 0x0EBB 0x0EBC, .one 0x0ECD, .all 0x0F71 0x0F83, .all 0x0F8D 0x0F97, .all 0x0F99 0x0FBC,
   .all 0x102B 0x1036, .one 0x1038, .all 0x103B 0x103E, .all 0x1056 0x1059, .all 0x105E 0x1060,
   .all 0x1062 0x1064, .all 0x1067 0x106D, .all 0x1071 0x1074, .all 0x1082 0x108D, .one 0x108F,
   .all 0x109A 0x109D, .all 0x1712 0x1713, .all 0x1732 0x1733, .all 0x1752 0x1753,
   .all 0x1772 0x1773, .all 0x17B6 0x17C8, .all 0x1885 0x1886, .one 0x18A9, .all 0x1920 0x192B,
   .all 0x1930 0x1938, .all 0x1A17 0x1A1B, .all 0x1A55 0x1A5E, .all 0x1A61 0x1A74,
   .all 0x1ABF 0x1AC0, .all 0x1ACC 0x1ACE, .all 0x1B00 0x1B04, .all 0x1B35 0x1B43,
   .all 0x1B80 0x1B82, .all 0x1BA1 0x1BA9, .all 0x1BAC 0x1BAD, .all 0x1BE7 0x1BF1,
   .all 0x1C24 0x1C36, .all 0x1DD3 0x1DF4, .all 0x24B6 0x24E9, .all 0x2DE0 0x2DFF,
   .all 0xA674 0xA67B, .all 0xA69E 0xA69F, .one 0xA802, .one 0xA80B, .all 0xA823 0xA827,
   .all 0xA880 0xA881, .all 0xA8B4 0xA8C3, .one 0xA8C5, .one 0xA8FF, .all 0xA926 0xA92A,
   .all 0xA947 0xA952, .all 0xA980 0xA983, .all 0xA9B4 0xA9BF, .one 0xA9E5, .all 0xAA29 0xAA36,
   .one 0xAA43, .all 0xAA4C 0xAA4D, .all 0xAA7B 0xAA7D, .one 0xAAB0, .all 0xAAB2 0xAAB4,
   .all 0xAAB7 0xAAB8, .one 0xAABE, .all 0xAAEB 0xAAEF, .one 0xAAF5, .all 0xABE3 0xABEA,
   .one 0xFB1E, .all 0x10376 0x1037A, .all 0x10A01 0x10A03, .all 0x10A05 0x10A06,
   .all 0x10A0C 0x10A0F, .all 0x10D24 0x10D27, .one 0x10D69, .all 0x10EAB 0x10EAC, .one 0x10EFC,
   .all 0x11000 0x11002, .all 0x11038 0x11045, .all 0x11073 0x11074, .all 0x11080 0x11082,
   .all 0x110B0 0x110B8, .one 0x110C2, .all 0x11100 0x11102, .all 0x11127 0x11132,
   .all 0x11145 0x11146, .all 0x11180 0x11182, .all 0x111B3 0x111BF, .all 0x111CE 0x111CF,
   .all 0x1122C 0x11234, .one 0x11237, .one 0x1123E, .one 0x11241, .all 0x112DF 0x112E8,
   .all 0x11300 0x11303, .all 0x1133E 0x11344, .all 0x11347 0x11348, .all 0x1134B 0x1134C,
   .one 0x11357, .all 0x11362 0x11363, .all 0x113B8 0x113C0, .one 0x113C2, .one 0x113C5,
   .all 0x113C7 0x113CA, .all 0x113CC 0x113CD, .all 0x11435 0x11441, .all 0x11443 0x11445,
   .all 0x114B0 0x114C1, .all 0x115AF 0x115B5, .all 0x115B8 0x115BE, .all 0x115DC 0x115DD,
   .all 0x11630 0x1163E, .one 0x11640, .all 0x116AB 0x116B5, .all 0x1171D 0x1172A,
   .all 0x1182C 0x11838, .all 0x11930 0x11935, .all 0x11937 0x11938, .all 0x1193B 0x1193C,
   .alternate 0x11940 0x11942, .all 0x119D1 0x119D7, .all 0x119DA 0x119DF, .one 0x119E4,
   .all 0x11A01 0x11A0A, .all 0x11A35 0x11A39, .all 0x11A3B 0x11A3E, .all 0x11A51 0x11A5B,
   .all 0x11A8A 0x11A97, .all 0x11C2F 0x11C36, .all 0x11C38 0x11C3E, .all 0x11C92 0x11CA7,
   .all 0x11CA9 0x11CB6, .all 0x11D31 0x11D36, .one 0x11D3A, .all 0x11D3C 0x11D3D,
   .all 0x11D3F 0x11D41, .one 0x11D43, .one 0x11D47, .all 0x11D8A 0x11D8E, .all 0x11D90 0x11D91,
   .all 0x11D93 0x11D96, .all 0x11EF3 0x11EF6, .all 0x11F00 0x11F01, .one 0x11F03,
   .all 0x11F34 0x11F3A, .all 0x11F3E 0x11F40, .all 0x1611E 0x1612E, .one 0x16F4F,
   .all 0x16F51 0x16F87, .all 0x16F8F 0x16F92, .all 0x16FF0 0x16FF1, .one 0x1BC9E,
   .all 0x1E000 0x1E006, .all 0x1E008 0x1E018, .all 0x1E01B 0x1E021, .all 0x1E023 0x1E024,
   .all 0x1E026 0x1E02A, .one 0x1E08F, .one 0x1E947, .all 0x1F130 0x1F149, .all 0x1F150 0x1F169,
   .all 0x1F170 0x1F189]

def otherDefaultIgnorableRuns : List Run :=
  [.one 0x034F, .all 0x115F 0x1160, .all 0x17B4 0x17B5, .one 0x2065, .one 0x3164, .one 0xFFA0,
   .all 0xFFF0 0xFFF8, .one 0xE0000, .all 0xE0002 0xE001F, .all 0xE0080 0xE00FF,
   .all 0xE01F0 0xE0FFF]

/-- Characters that extend the one before them and are neither nonspacing nor enclosing marks. -/
def otherGraphemeExtendRuns : List Run :=
  [.one 0x09BE, .one 0x09D7, .one 0x0B3E, .one 0x0B57, .one 0x0BBE, .one 0x0BD7,
   .alternate 0x0CC0 0x0CC2, .all 0x0CC7 0x0CC8, .all 0x0CCA 0x0CCB, .all 0x0CD5 0x0CD6,
   .one 0x0D3E, .one 0x0D57, .one 0x0DCF, .one 0x0DDF, .one 0x1715, .one 0x1734, .one 0x1B35,
   .alternate 0x1B3B 0x1B3D, .all 0x1B43 0x1B44, .one 0x1BAA, .all 0x1BF2 0x1BF3, .one 0x200C,
   .all 0x302E 0x302F, .one 0xA953, .one 0xA9C0, .all 0xFF9E 0xFF9F, .one 0x111C0, .one 0x11235,
   .one 0x1133E, .one 0x1134D, .one 0x11357, .one 0x113B8, .one 0x113C2, .one 0x113C5,
   .all 0x113C7 0x113C9, .one 0x113CF, .one 0x114B0, .one 0x114BD, .one 0x115AF, .one 0x116B6,
   .one 0x11930, .one 0x1193D, .one 0x11F41, .all 0x16FF0 0x16FF1, .all 0x1D165 0x1D166,
   .all 0x1D16D 0x1D172, .all 0xE0020 0xE007F]

def otherIdContinueRuns : List Run :=
  [.one 0x00B7, .one 0x0387, .all 0x1369 0x1371, .one 0x19DA, .all 0x200C 0x200D, .one 0x30FB,
   .one 0xFF65]

def otherIdStartRuns : List Run :=
  [.all 0x1885 0x1886, .one 0x2118, .one 0x212E, .all 0x309B 0x309C]

/-- Lowercase characters that are no lowercase letters. -/
def otherLowercaseRuns : List Run :=
  [.one 0x00AA, .one 0x00BA, .all 0x02B0 0x02B8, .all 0x02C0 0x02C1, .all 0x02E0 0x02E4,
   .one 0x0345, .one 0x037A, .one 0x10FC, .all 0x1D2C 0x1D6A, .one 0x1D78, .all 0x1D9B 0x1DBF,
   .one 0x2071, .one 0x207F, .all 0x2090 0x209C, .all 0x2170 0x217F, .all 0x24D0 0x24E9,
   .all 0x2C7C 0x2C7D, .all 0xA69C 0xA69D, .one 0xA770, .all 0xA7F2 0xA7F4, .all 0xA7F8 0xA7F9,
   .all 0xAB5C 0xAB5F, .one 0xAB69, .one 0x10780, .all 0x10783 0x10785, .all 0x10787 0x107B0,
   .all 0x107B2 0x107BA, .all 0x1E030 0x1E06D]

/-- Mathematical characters that are no mathematical symbols. -/
def otherMathRuns : List Run :=
  [.one 0x005E, .all 0x03D0 0x03D2, .one 0x03D5, .all 0x03F0 0x03F1, .all 0x03F4 0x03F5,
   .one 0x2016, .all 0x2032 0x2034, .one 0x2040, .all 0x2061 0x2064, .all 0x207D 0x207E,
   .all 0x208D 0x208E, .all 0x20D0 0x20DC, .one 0x20E1, .all 0x20E5 0x20E6, .all 0x20EB 0x20EF,
   .one 0x2102, .one 0x2107, .all 0x210A 0x2113, .one 0x2115, .all 0x2119 0x211D, .one 0x2124,
   .all 0x2128 0x2129, .all 0x212C 0x212D, .all 0x212F 0x2131, .all 0x2133 0x2138,
   .all 0x213C 0x213F, .all 0x2145 0x2149, .all 0x2195 0x2199, .all 0x219C 0x219F,
   .all 0x21A1 0x21A2, .all 0x21A4 0x21A5, .one 0x21A7, .all 0x21A9 0x21AD, .all 0x21B0 0x21B1,
   .all 0x21B6 0x21B7, .all 0x21BC 0x21CD, .all 0x21D0 0x21D1, .one 0x21D3, .all 0x21D5 0x21DB,
   .one 0x21DD, .all 0x21E4 0x21E5, .all 0x2308 0x230B, .all 0x23B4 0x23B5, .one 0x23B7,
   .one 0x23D0, .one 0x23E2, .all 0x25A0 0x25A1, .all 0x25AE 0x25B6, .all 0x25BC 0x25C0,
   .all 0x25C6 0x25C7, .all 0x25CA 0x25CB, .all 0x25CF 0x25D3, .alternate 0x25E2 0x25E4,
   .all 0x25E7 0x25EC, .all 0x2605 0x2606, .alternate 0x2640 0x2642, .all 0x2660 0x2663,
   .all 0x266D 0x266E, .all 0x27C5 0x27C6, .all 0x27E6 0x27EF, .all 0x2983 0x2998,
   .all 0x29D8 0x29DB, .all 0x29FC 0x29FD, .alternate 0xFE61 0xFE63, .one 0xFE68,
   .alternate 0xFF3C 0xFF3E, .all 0x1D400 0x1D454, .all 0x1D456 0x1D49C, .all 0x1D49E 0x1D49F,
   .one 0x1D4A2, .all 0x1D4A5 0x1D4A6, .all 0x1D4A9 0x1D4AC, .all 0x1D4AE 0x1D4B9, .one 0x1D4BB,
   .all 0x1D4BD 0x1D4C3, .all 0x1D4C5 0x1D505, .all 0x1D507 0x1D50A, .all 0x1D50D 0x1D514,
   .all 0x1D516 0x1D51C, .all 0x1D51E 0x1D539, .all 0x1D53B 0x1D53E, .all 0x1D540 0x1D544,
   .one 0x1D546, .all 0x1D54A 0x1D550, .all 0x1D552 0x1D6A5, .all 0x1D6A8 0x1D6C0,
   .all 0x1D6C2 0x1D6DA, .all 0x1D6DC 0x1D6FA, .all 0x1D6FC 0x1D714, .all 0x1D716 0x1D734,
   .all 0x1D736 0x1D74E, .all 0x1D750 0x1D76E, .all 0x1D770 0x1D788, .all 0x1D78A 0x1D7A8,
   .all 0x1D7AA 0x1D7C2, .all 0x1D7C4 0x1D7CB, .all 0x1D7CE 0x1D7FF, .all 0x1EE00 0x1EE03,
   .all 0x1EE05 0x1EE1F, .all 0x1EE21 0x1EE22, .one 0x1EE24, .one 0x1EE27, .all 0x1EE29 0x1EE32,
   .all 0x1EE34 0x1EE37, .alternate 0x1EE39 0x1EE3B, .one 0x1EE42, .alternate 0x1EE47 0x1EE4B,
   .all 0x1EE4D 0x1EE4F, .all 0x1EE51 0x1EE52, .one 0x1EE54, .alternate 0x1EE57 0x1EE5F,
   .all 0x1EE61 0x1EE62, .one 0x1EE64, .all 0x1EE67 0x1EE6A, .all 0x1EE6C 0x1EE72,
   .all 0x1EE74 0x1EE77, .all 0x1EE79 0x1EE7C, .one 0x1EE7E, .all 0x1EE80 0x1EE89,
   .all 0x1EE8B 0x1EE9B, .all 0x1EEA1 0x1EEA3, .all 0x1EEA5 0x1EEA9, .all 0x1EEAB 0x1EEBB]

/-- Uppercase characters that are no uppercase letters. -/
def otherUppercaseRuns : List Run :=
  [.all 0x2160 0x216F, .all 0x24B6 0x24CF, .all 0x1F130 0x1F149, .all 0x1F150 0x1F169,
   .all 0x1F170 0x1F189]

def patternSyntaxRuns : List Run :=
  [.all 0x0021 0x002F, .all 0x003A 0x0040, .all 0x005B 0x005E, .one 0x0060, .all 0x007B 0x007E,
   .all 0x00A1 0x00A7, .one 0x00A9, .all 0x00AB 0x00AC, .one 0x00AE, .all 0x00B0 0x00B1,
   .one 0x00B6, .one 0x00BB, .one 0x00BF, .one 0x00D7, .one 0x00F7, .all 0x2010 0x2027,
   .all 0x2030 0x203E, .all 0x2041 0x2053, .all 0x2055 0x205E, .all 0x2190 0x245F,
   .all 0x2500 0x2775, .all 0x2794 0x2BFF, .all 0x2E00 0x2E7F, .all 0x3001 0x3003,
   .all 0x3008 0x3020, .one 0x3030, .all 0xFD3E 0xFD3F, .all 0xFE45 0xFE46]

def patternWhiteSpaceRuns : List Run :=
  [.all 0x0009 0x000D, .one 0x0020, .one 0x0085, .all 0x200E 0x200F, .all 0x2028 0x2029]

def prependedConcatenationMarkRuns : List Run :=
  [.all 0x0600 0x0605, .one 0x06DD, .one 0x070F, .all 0x0890 0x0891, .one 0x08E2, .one 0x110BD,
   .one 0x110CD]

def quotationMarkRuns : List Run :=
  [.one 0x0022, .one 0x0027, .one 0x00AB, .one 0x00BB, .all 0x2018 0x201F, .all 0x2039 0x203A,
   .one 0x2E42, .all 0x300C 0x300F, .all 0x301D 0x301F, .all 0xFE41 0xFE44, .one 0xFF02,
   .one 0xFF07, .all 0xFF62 0xFF63]

def radicalRuns : List Run :=
  [.all 0x2E80 0x2E99, .all 0x2E9B 0x2EF3, .all 0x2F00 0x2FD5]

def regionalIndicatorRuns : List Run :=
  [.all 0x1F1E6 0x1F1FF]

def sentenceTerminalRuns : List Run :=
  [.one 0x0021, .one 0x002E, .one 0x003F, .one 0x0589, .all 0x061D 0x061F, .one 0x06D4,
   .all 0x0700 0x0702, .one 0x07F9, .alternate 0x0837 0x0839, .all 0x083D 0x083E,
   .all 0x0964 0x0965, .all 0x104A 0x104B, .one 0x1362, .all 0x1367 0x1368, .one 0x166E,
   .all 0x1735 0x1736, .all 0x17D4 0x17D5, .one 0x1803, .one 0x1809, .all 0x1944 0x1945,
   .all 0x1AA8 0x1AAB, .all 0x1B4E 0x1B4F, .all 0x1B5A 0x1B5B, .all 0x1B5E 0x1B5F,
   .all 0x1B7D 0x1B7F, .all 0x1C3B 0x1C3C, .all 0x1C7E 0x1C7F, .one 0x2024, .all 0x203C 0x203D,
   .all 0x2047 0x2049, .all 0x2CF9 0x2CFB, .one 0x2E2E, .one 0x2E3C, .all 0x2E53 0x2E54,
   .one 0x3002, .one 0xA4FF, .all 0xA60E 0xA60F, .one 0xA6F3, .one 0xA6F7, .all 0xA876 0xA877,
   .all 0xA8CE 0xA8CF, .one 0xA92F, .all 0xA9C8 0xA9C9, .all 0xAA5D 0xAA5F, .all 0xAAF0 0xAAF1,
   .one 0xABEB, .one 0xFE12, .all 0xFE15 0xFE16, .one 0xFE52, .all 0xFE56 0xFE57, .one 0xFF01,
   .one 0xFF0E, .one 0xFF1F, .one 0xFF61, .all 0x10A56 0x10A57, .all 0x10F55 0x10F59,
   .all 0x10F86 0x10F89, .all 0x11047 0x11048, .all 0x110BE 0x110C1, .all 0x11141 0x11143,
   .all 0x111C5 0x111C6, .one 0x111CD, .all 0x111DE 0x111DF, .all 0x11238 0x11239,
   .all 0x1123B 0x1123C, .one 0x112A9, .all 0x113D4 0x113D5, .all 0x1144B 0x1144C,
   .all 0x115C2 0x115C3, .all 0x115C9 0x115D7, .all 0x11641 0x11642, .all 0x1173C 0x1173E,
   .alternate 0x11944 0x11946, .all 0x11A42 0x11A43, .all 0x11A9B 0x11A9C, .all 0x11C41 0x11C42,
   .all 0x11EF7 0x11EF8, .all 0x11F43 0x11F44, .all 0x16A6E 0x16A6F, .one 0x16AF5,
   .all 0x16B37 0x16B38, .one 0x16B44, .all 0x16D6E 0x16D6F, .one 0x16E98, .one 0x1BC9F,
   .one 0x1DA88]

def softDottedRuns : List Run :=
  [.all 0x0069 0x006A, .one 0x012F, .one 0x0249, .one 0x0268, .one 0x029D, .one 0x02B2,
   .one 0x03F3, .alternate 0x0456 0x0458, .one 0x1D62, .one 0x1D96, .one 0x1DA4, .one 0x1DA8,
   .one 0x1E2D, .one 0x1ECB, .one 0x2071, .all 0x2148 0x2149, .one 0x2C7C, .all 0x1D422 0x1D423,
   .all 0x1D456 0x1D457, .all 0x1D48A 0x1D48B, .all 0x1D4BE 0x1D4BF, .all 0x1D4F2 0x1D4F3,
   .all 0x1D526 0x1D527, .all 0x1D55A 0x1D55B, .all 0x1D58E 0x1D58F, .all 0x1D5C2 0x1D5C3,
   .all 0x1D5F6 0x1D5F7, .all 0x1D62A 0x1D62B, .all 0x1D65E 0x1D65F, .all 0x1D692 0x1D693,
   .one 0x1DF1A, .all 0x1E04C 0x1E04D, .one 0x1E068]

def terminalPunctuationRuns : List Run :=
  [.one 0x0021, .alternate 0x002C 0x002E, .all 0x003A 0x003B, .one 0x003F, .one 0x037E,
   .one 0x0387, .one 0x0589, .one 0x05C3, .one 0x060C, .one 0x061B, .all 0x061D 0x061F,
   .one 0x06D4, .all 0x0700 0x070A, .one 0x070C, .all 0x07F8 0x07F9, .all 0x0830 0x0835,
   .all 0x0837 0x083E, .one 0x085E, .all 0x0964 0x0965, .all 0x0E5A 0x0E5B, .one 0x0F08,
   .all 0x0F0D 0x0F12, .all 0x104A 0x104B, .all 0x1361 0x1368, .one 0x166E, .all 0x16EB 0x16ED,
   .all 0x1735 0x1736, .all 0x17D4 0x17D6, .one 0x17DA, .all 0x1802 0x1805, .all 0x1808 0x1809,
   .all 0x1944 0x1945, .all 0x1AA8 0x1AAB, .all 0x1B4E 0x1B4F, .all 0x1B5A 0x1B5B,
   .all 0x1B5D 0x1B5F, .all 0x1B7D 0x1B7F, .all 0x1C3B 0x1C3F, .all 0x1C7E 0x1C7F, .one 0x2024,
   .all 0x203C 0x203D, .all 0x2047 0x2049, .all 0x2CF9 0x2CFB, .one 0x2E2E, .one 0x2E3C,
   .one 0x2E41, .one 0x2E4C, .all 0x2E4E 0x2E4F, .all 0x2E53 0x2E54, .all 0x3001 0x3002,
   .all 0xA4FE 0xA4FF, .all 0xA60D 0xA60F, .all 0xA6F3 0xA6F7, .all 0xA876 0xA877,
   .all 0xA8CE 0xA8CF, .one 0xA92F, .all 0xA9C7 0xA9C9, .all 0xAA5D 0xAA5F, .one 0xAADF,
   .all 0xAAF0 0xAAF1, .one 0xABEB, .one 0xFE12, .all 0xFE15 0xFE16, .all 0xFE50 0xFE52,
   .all 0xFE54 0xFE57, .one 0xFF01, .alternate 0xFF0C 0xFF0E, .all 0xFF1A 0xFF1B, .one 0xFF1F,
   .one 0xFF61, .one 0xFF64, .one 0x1039F, .one 0x103D0, .one 0x10857, .one 0x1091F,
   .all 0x10A56 0x10A57, .all 0x10AF0 0x10AF5, .all 0x10B3A 0x10B3F, .all 0x10B99 0x10B9C,
   .all 0x10F55 0x10F59, .all 0x10F86 0x10F89, .all 0x11047 0x1104D, .all 0x110BE 0x110C1,
   .all 0x11141 0x11143, .all 0x111C5 0x111C6, .one 0x111CD, .all 0x111DE 0x111DF,
   .all 0x11238 0x1123C, .one 0x112A9, .all 0x113D4 0x113D5, .all 0x1144B 0x1144D,
   .all 0x1145A 0x1145B, .all 0x115C2 0x115C5, .all 0x115C9 0x115D7, .all 0x11641 0x11642,
   .all 0x1173C 0x1173E, .alternate 0x11944 0x11946, .all 0x11A42 0x11A43, .all 0x11A9B 0x11A9C,
   .all 0x11AA1 0x11AA2, .all 0x11C41 0x11C43, .one 0x11C71, .all 0x11EF7 0x11EF8,
   .all 0x11F43 0x11F44, .all 0x12470 0x12474, .all 0x16A6E 0x16A6F, .one 0x16AF5,
   .all 0x16B37 0x16B39, .one 0x16B44, .all 0x16D6E 0x16D6F, .all 0x16E97 0x16E98, .one 0x1BC9F,
   .all 0x1DA87 0x1DA8A]

def unifiedIdeographRuns : List Run :=
  [.all 0x3400 0x4DBF, .all 0x4E00 0x9FFF, .all 0xFA0E 0xFA0F, .one 0xFA11, .all 0xFA13 0xFA14,
   .alternate 0xFA1F 0xFA21, .all 0xFA23 0xFA24, .all 0xFA27 0xFA29, .all 0x20000 0x2A6DF,
   .all 0x2A700 0x2B739, .all 0x2B740 0x2B81D, .all 0x2B820 0x2CEA1, .all 0x2CEB0 0x2EBE0,
   .all 0x2EBF0 0x2EE5D, .all 0x30000 0x3134A, .all 0x31350 0x323AF]

def variationSelectorRuns : List Run :=
  [.all 0x180B 0x180D, .one 0x180F, .all 0xFE00 0xFE0F, .all 0xE0100 0xE01EF]

def whiteSpaceRuns : List Run :=
  [.all 0x0009 0x000D, .one 0x0020, .one 0x0085, .one 0x00A0, .one 0x1680, .all 0x2000 0x200A,
   .all 0x2028 0x2029, .one 0x202F, .one 0x205F, .one 0x3000]

def changesWhenLowercasedRuns : List Run :=
  [.all 0x0041 0x005A, .all 0x00C0 0x00D6, .all 0x00D8 0x00DE, .alternate 0x0100 0x0136,
   .alternate 0x0139 0x0147, .alternate 0x014A 0x0176, .all 0x0178 0x0179,
   .alternate 0x017B 0x017D, .all 0x0181 0x0182, .one 0x0184, .all 0x0186 0x0187,
   .all 0x0189 0x018B, .all 0x018E 0x0191, .all 0x0193 0x0194, .all 0x0196 0x0198,
   .all 0x019C 0x019D, .all 0x019F 0x01A0, .alternate 0x01A2 0x01A4, .all 0x01A6 0x01A7,
   .one 0x01A9, .one 0x01AC, .all 0x01AE 0x01AF, .all 0x01B1 0x01B3, .one 0x01B5,
   .all 0x01B7 0x01B8, .one 0x01BC, .all 0x01C4 0x01C5, .all 0x01C7 0x01C8, .all 0x01CA 0x01CB,
   .alternate 0x01CD 0x01DB, .alternate 0x01DE 0x01EE, .all 0x01F1 0x01F2, .one 0x01F4,
   .all 0x01F6 0x01F8, .alternate 0x01FA 0x0232, .all 0x023A 0x023B, .all 0x023D 0x023E,
   .one 0x0241, .all 0x0243 0x0246, .alternate 0x0248 0x024E, .alternate 0x0370 0x0372,
   .one 0x0376, .one 0x037F, .one 0x0386, .all 0x0388 0x038A, .one 0x038C, .all 0x038E 0x038F,
   .all 0x0391 0x03A1, .all 0x03A3 0x03AB, .one 0x03CF, .alternate 0x03D8 0x03EE, .one 0x03F4,
   .one 0x03F7, .all 0x03F9 0x03FA, .all 0x03FD 0x042F, .alternate 0x0460 0x0480,
   .alternate 0x048A 0x04BE, .all 0x04C0 0x04C1, .alternate 0x04C3 0x04CD,
   .alternate 0x04D0 0x052E, .all 0x0531 0x0556, .all 0x10A0 0x10C5, .one 0x10C7, .one 0x10CD,
   .all 0x13A0 0x13F5, .one 0x1C89, .all 0x1C90 0x1CBA, .all 0x1CBD 0x1CBF,
   .alternate 0x1E00 0x1E94, .alternate 0x1E9E 0x1EFE, .all 0x1F08 0x1F0F, .all 0x1F18 0x1F1D,
   .all 0x1F28 0x1F2F, .all 0x1F38 0x1F3F, .all 0x1F48 0x1F4D, .alternate 0x1F59 0x1F5F,
   .all 0x1F68 0x1F6F, .all 0x1F88 0x1F8F, .all 0x1F98 0x1F9F, .all 0x1FA8 0x1FAF,
   .all 0x1FB8 0x1FBC, .all 0x1FC8 0x1FCC, .all 0x1FD8 0x1FDB, .all 0x1FE8 0x1FEC,
   .all 0x1FF8 0x1FFC, .one 0x2126, .all 0x212A 0x212B, .one 0x2132, .all 0x2160 0x216F,
   .one 0x2183, .all 0x24B6 0x24CF, .all 0x2C00 0x2C2F, .one 0x2C60, .all 0x2C62 0x2C64,
   .alternate 0x2C67 0x2C6B, .all 0x2C6D 0x2C70, .one 0x2C72, .one 0x2C75, .all 0x2C7E 0x2C80,
   .alternate 0x2C82 0x2CE2, .alternate 0x2CEB 0x2CED, .one 0x2CF2, .alternate 0xA640 0xA66C,
   .alternate 0xA680 0xA69A, .alternate 0xA722 0xA72E, .alternate 0xA732 0xA76E,
   .alternate 0xA779 0xA77B, .all 0xA77D 0xA77E, .alternate 0xA780 0xA786,
   .alternate 0xA78B 0xA78D, .alternate 0xA790 0xA792, .alternate 0xA796 0xA7A8,
   .all 0xA7AA 0xA7AE, .all 0xA7B0 0xA7B4, .alternate 0xA7B6 0xA7C2, .all 0xA7C4 0xA7C7,
   .one 0xA7C9, .all 0xA7CB 0xA7CC, .one 0xA7D0, .alternate 0xA7D6 0xA7DC, .one 0xA7F5,
   .all 0xFF21 0xFF3A, .all 0x10400 0x10427, .all 0x104B0 0x104D3, .all 0x10570 0x1057A,
   .all 0x1057C 0x1058A, .all 0x1058C 0x10592, .all 0x10594 0x10595, .all 0x10C80 0x10CB2,
   .all 0x10D50 0x10D65, .all 0x118A0 0x118BF, .all 0x16E40 0x16E5F, .all 0x1E900 0x1E921]

def changesWhenUppercasedRuns : List Run :=
  [.all 0x0061 0x007A, .one 0x00B5, .all 0x00DF 0x00F6, .all 0x00F8 0x00FF,
   .alternate 0x0101 0x0137, .alternate 0x013A 0x0146, .all 0x0148 0x0149,
   .alternate 0x014B 0x0177, .alternate 0x017A 0x017C, .all 0x017E 0x0180,
   .alternate 0x0183 0x0185, .one 0x0188, .one 0x018C, .one 0x0192, .one 0x0195,
   .all 0x0199 0x019B, .one 0x019E, .alternate 0x01A1 0x01A5, .one 0x01A8, .one 0x01AD,
   .one 0x01B0, .alternate 0x01B4 0x01B6, .one 0x01B9, .alternate 0x01BD 0x01BF,
   .all 0x01C5 0x01C6, .all 0x01C8 0x01C9, .all 0x01CB 0x01CC, .alternate 0x01CE 0x01DA,
   .all 0x01DC 0x01DD, .alternate 0x01DF 0x01ED, .all 0x01EF 0x01F0, .all 0x01F2 0x01F3,
   .one 0x01F5, .alternate 0x01F9 0x021F, .alternate 0x0223 0x0233, .one 0x023C,
   .all 0x023F 0x0240, .one 0x0242, .alternate 0x0247 0x024D, .all 0x024F 0x0254,
   .all 0x0256 0x0257, .one 0x0259, .all 0x025B 0x025C, .all 0x0260 0x0261, .all 0x0263 0x0266,
   .all 0x0268 0x026C, .one 0x026F, .all 0x0271 0x0272, .one 0x0275, .one 0x027D, .one 0x0280,
   .all 0x0282 0x0283, .all 0x0287 0x028C, .one 0x0292, .all 0x029D 0x029E, .one 0x0345,
   .alternate 0x0371 0x0373, .one 0x0377, .all 0x037B 0x037D, .one 0x0390, .all 0x03AC 0x03CE,
   .all 0x03D0 0x03D1, .all 0x03D5 0x03D7, .alternate 0x03D9 0x03ED, .all 0x03EF 0x03F3,
   .one 0x03F5, .one 0x03F8, .one 0x03FB, .all 0x0430 0x045F, .alternate 0x0461 0x0481,
   .alternate 0x048B 0x04BF, .alternate 0x04C2 0x04CC, .all 0x04CE 0x04CF,
   .alternate 0x04D1 0x052F, .all 0x0561 0x0587, .all 0x10D0 0x10FA, .all 0x10FD 0x10FF,
   .all 0x13F8 0x13FD, .all 0x1C80 0x1C88, .one 0x1C8A, .one 0x1D79, .one 0x1D7D, .one 0x1D8E,
   .alternate 0x1E01 0x1E93, .all 0x1E95 0x1E9B, .alternate 0x1EA1 0x1EFD, .all 0x1EFF 0x1F07,
   .all 0x1F10 0x1F15, .all 0x1F20 0x1F27, .all 0x1F30 0x1F37, .all 0x1F40 0x1F45,
   .all 0x1F50 0x1F57, .all 0x1F60 0x1F67, .all 0x1F70 0x1F7D, .all 0x1F80 0x1FB4,
   .all 0x1FB6 0x1FB7, .alternate 0x1FBC 0x1FBE, .all 0x1FC2 0x1FC4, .all 0x1FC6 0x1FC7,
   .one 0x1FCC, .all 0x1FD0 0x1FD3, .all 0x1FD6 0x1FD7, .all 0x1FE0 0x1FE7, .all 0x1FF2 0x1FF4,
   .all 0x1FF6 0x1FF7, .one 0x1FFC, .one 0x214E, .all 0x2170 0x217F, .one 0x2184,
   .all 0x24D0 0x24E9, .all 0x2C30 0x2C5F, .one 0x2C61, .all 0x2C65 0x2C66,
   .alternate 0x2C68 0x2C6C, .one 0x2C73, .one 0x2C76, .alternate 0x2C81 0x2CE3,
   .alternate 0x2CEC 0x2CEE, .one 0x2CF3, .all 0x2D00 0x2D25, .one 0x2D27, .one 0x2D2D,
   .alternate 0xA641 0xA66D, .alternate 0xA681 0xA69B, .alternate 0xA723 0xA72F,
   .alternate 0xA733 0xA76F, .alternate 0xA77A 0xA77C, .alternate 0xA77F 0xA787, .one 0xA78C,
   .one 0xA791, .all 0xA793 0xA794, .alternate 0xA797 0xA7A9, .alternate 0xA7B5 0xA7C3,
   .alternate 0xA7C8 0xA7CA, .one 0xA7CD, .one 0xA7D1, .alternate 0xA7D7 0xA7DB, .one 0xA7F6,
   .one 0xAB53, .all 0xAB70 0xABBF, .all 0xFB00 0xFB06, .all 0xFB13 0xFB17, .all 0xFF41 0xFF5A,
   .all 0x10428 0x1044F, .all 0x104D8 0x104FB, .all 0x10597 0x105A1, .all 0x105A3 0x105B1,
   .all 0x105B3 0x105B9, .all 0x105BB 0x105BC, .all 0x10CC0 0x10CF2, .all 0x10D70 0x10D85,
   .all 0x118C0 0x118DF, .all 0x16E60 0x16E7F, .all 0x1E922 0x1E943]

/-- Ideographs that are not unified ones. -/
def otherIdeographicRuns : List Run :=
  [.all 0x3006 0x3007, .all 0x3021 0x3029, .all 0x3038 0x303A, .all 0xF900 0xFA0D,
   .alternate 0xFA10 0xFA12, .all 0xFA15 0xFA1E, .alternate 0xFA20 0xFA22, .all 0xFA25 0xFA26,
   .all 0xFA2A 0xFA6D, .all 0xFA70 0xFAD9, .one 0x16FE4, .all 0x17000 0x187F7,
   .all 0x18800 0x18CD5, .all 0x18CFF 0x18D08, .all 0x1B170 0x1B2FB, .all 0x2F800 0x2FA1D]

/-- Characters that start an identifier and may not do so in another normal form. -/
def unstableIdStartRuns : List Run :=
  [.one 0x037A, .one 0x0E33, .one 0x0EB3, .all 0x309B 0x309C, .all 0xFC5E 0xFC63,
   .all 0xFDFA 0xFDFB, .alternate 0xFE70 0xFE7E, .all 0xFF9E 0xFF9F]

/-- Characters of an identifier that may not stand there in another normal form. -/
def unstableIdContinueRuns : List Run :=
  [.one 0x037A, .all 0x309B 0x309C, .all 0xFC5E 0xFC63, .all 0xFDFA 0xFDFB,
   .alternate 0xFE70 0xFE7E]

/-- Characters with an uppercase form that are their own titlecase form. -/
def titlecaseStableRuns : List Run :=
  [.one 0x01C5, .one 0x01C8, .one 0x01CB, .one 0x01F2, .all 0x10D0 0x10FA, .all 0x10FD 0x10FF,
   .all 0x1F88 0x1F8F, .all 0x1F98 0x1F9F, .all 0x1FA8 0x1FAF, .one 0x1FBC, .one 0x1FCC,
   .one 0x1FFC]

/-- Characters without another uppercase form that have a titlecase form. -/
def titlecaseOnlyRuns : List Run :=
  [.one 0x01C4, .one 0x01C7, .one 0x01CA, .one 0x01F1]

/-- Characters with a lowercase form that stand for both in case folding. -/
def foldStableRuns : List Run :=
  [.all 0x13A0 0x13F5]

/-- Characters without another lowercase form that case folding changes. -/
def foldOnlyRuns : List Run :=
  [.one 0x00B5, .one 0x00DF, .one 0x0149, .one 0x017F, .one 0x0345, .one 0x03C2,
   .all 0x03D0 0x03D1, .all 0x03D5 0x03D6, .all 0x03F0 0x03F1, .one 0x03F5, .one 0x0587,
   .all 0x13F8 0x13FD, .all 0x1C80 0x1C88, .all 0x1E9A 0x1E9B, .all 0x1F80 0x1F87,
   .all 0x1F90 0x1F97, .all 0x1FA0 0x1FA7, .all 0x1FB2 0x1FB4, .one 0x1FB7, .all 0x1FC2 0x1FC4,
   .one 0x1FC7, .all 0x1FF2 0x1FF4, .one 0x1FF7, .all 0xAB70 0xABBF, .all 0xFB00 0xFB06,
   .all 0xFB13 0xFB17]

end RuleLexer.Unicode
