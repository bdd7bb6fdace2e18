import RuleLexer.CharSet
import RuleLexer.Unicode.Script

/-! The characters of each script, after version 16.0 of the character database. -/

namespace RuleLexer.Unicode

def Script.runs : Script → List Run
  | .adlam => [.all 0x1E900 0x1E94B, .all 0x1E950 0x1E959, .all 0x1E95E 0x1E95F]
  | .ahom => [.all 0x11700 0x1171A, .all 0x1171D 0x1172B, .all 0x11730 0x11746]
  | .anatolianHieroglyphs => [.all 0x14400 0x14646]
  | .arabic =>
    [.all 0x0600 0x0604, .all 0x0606 0x060B, .all 0x060D 0x061A, .all 0x061C 0x061E,
     .all 0x0620 0x063F, .all 0x0641 0x064A, .all 0x0656 0x066F, .all 0x0671 0x06DC,
     .all 0x06DE 0x06FF, .all 0x0750 0x077F, .all 0x0870 0x088E, .all 0x0890 0x0891,
     .all 0x0897 0x08E1, .all 0x08E3 0x08FF, .all 0xFB50 0xFBC2, .all 0xFBD3 0xFD3D,
     .all 0xFD40 0xFD8F, .all 0xFD92 0xFDC7, .one 0xFDCF, .all 0xFDF0 0xFDFF, .all 0xFE70 0xFE74,
     .all 0xFE76 0xFEFC, .all 0x10E60 0x10E7E, .all 0x10EC2 0x10EC4, .all 0x10EFC 0x10EFF,
     .all 0x1EE00 0x1EE03, .all 0x1EE05 0x1EE1F, .all 0x1EE21 0x1EE22, .one 0x1EE24, .one 0x1EE27,
     .all 0x1EE29 0x1EE32, .all 0x1EE34 0x1EE37, .alternate 0x1EE39 0x1EE3B, .one 0x1EE42,
     .alternate 0x1EE47 0x1EE4B, .all 0x1EE4D 0x1EE4F, .all 0x1EE51 0x1EE52, .one 0x1EE54,
     .alternate 0x1EE57 0x1EE5F, .all 0x1EE61 0x1EE62, .one 0x1EE64, .all 0x1EE67 0x1EE6A,
     .all 0x1EE6C 0x1EE72, .all 0x1EE74 0x1EE77, .all 0x1EE79 0x1EE7C, .one 0x1EE7E,
     .all 0x1EE80 0x1EE89, .all 0x1EE8B 0x1EE9B, .all 0x1EEA1 0x1EEA3, .all 0x1EEA5 0x1EEA9,
     .all 0x1EEAB 0x1EEBB, .all 0x1EEF0 0x1EEF1]
  | .armenian => [.all 0x0531 0x0556, .all 0x0559 0x058A, .all 0x058D 0x058F, .all 0xFB13 0xFB17]
  | .avestan => [.all 0x10B00 0x10B35, .all 0x10B39 0x10B3F]
  | .balinese => [.all 0x1B00 0x1B4C, .all 0x1B4E 0x1B7F]
  | .bamum => [.all 0xA6A0 0xA6F7, .all 0x16800 0x16A38]
  | .bassaVah => [.all 0x16AD0 0x16AED, .all 0x16AF0 0x16AF5]
  | .batak => [.all 0x1BC0 0x1BF3, .all 0x1BFC 0x1BFF]
  | .bengali =>
    [.all 0x0980 0x0983, .all 0x0985 0x098C, .all 0x098F 0x0990, .all 0x0993 0x09A8,
     .all 0x09AA 0x09B0, .one 0x09B2, .all 0x09B6 0x09B9, .all 0x09BC 0x09C4, .all 0x09C7 0x09C8,
     .all 0x09CB 0x09CE, .one 0x09D7, .all 0x09DC 0x09DD, .all 0x09DF 0x09E3, .all 0x09E6 0x09FE]
  | .bhaiksuki =>
    [.all 0x11C00 0x11C08, .all 0x11C0A 0x11C36, .all 0x11C38 0x11C45, .all 0x11C50 0x11C6C]
  | .bopomofo => [.all 0x02EA 0x02EB, .all 0x3105 0x312F, .all 0x31A0 0x31BF]
  | .brahmi => [.all 0x11000 0x1104D, .all 0x11052 0x11075, .one 0x1107F]
  | .braille => [.all 0x2800 0x28FF]
  | .buginese => [.all 0x1A00 0x1A1B, .all 0x1A1E 0x1A1F]
  | .buhid => [.all 0x1740 0x1753]
  | .canadianAboriginal => [.all 0x1400 0x167F, .all 0x18B0 0x18F5, .all 0x11AB0 0x11ABF]
  | .carian => [.all 0x102A0 0x102D0]
  | .caucasianAlbanian => [.all 0x10530 0x10563, .one 0x1056F]
  | .chakma => [.all 0x11100 0x11134, .all 0x11136 0x11147]
  | .cham => [.all 0xAA00 0xAA36, .all 0xAA40 0xAA4D, .all 0xAA50 0xAA59, .all 0xAA5C 0xAA5F]
  | .cherokee => [.all 0x13A0 0x13F5, .all 0x13F8 0x13FD, .all 0xAB70 0xABBF]
  | .chorasmian => [.all 0x10FB0 0x10FCB]
  | .common =>
    [.all 0x0000 0x0040, .all 0x005B 0x0060, .all 0x007B 0x00A9, .all 0x00AB 0x00B9,
     .all 0x00BB 0x00BF, .one 0x00D7, .one 0x00F7, .all 0x02B9 0x02DF, .all 0x02E5 0x02E9,
     .all 0x02EC 0x02FF, .one 0x0374, .one 0x037E, .alternate 0x0385 0x0387, .one 0x0605,
     .one 0x060C, .one 0x061B, .one 0x061F, .one 0x0640, .one 0x06DD, .one 0x08E2,
     .all 0x0964 0x0965, .one 0x0E3F, .all 0x0FD5 0x0FD8, .one 0x10FB, .all 0x16EB 0x16ED,
     .all 0x1735 0x1736, .all 0x1802 0x1803, .one 0x1805, .one 0x1CD3, .one 0x1CE1,
     .all 0x1CE9 0x1CEC, .all 0x1CEE 0x1CF3, .all 0x1CF5 0x1CF7, .one 0x1CFA, .all 0x2000 0x200B,
     .all 0x200E 0x2064, .all 0x2066 0x2070, .all 0x2074 0x207E, .all 0x2080 0x208E,
     .all 0x20A0 0x20C0, .all 0x2100 0x2125, .all 0x2127 0x2129, .all 0x212C 0x2131,
     .all 0x2133 0x214D, .all 0x214F 0x215F, .all 0x2189 0x218B, .all 0x2190 0x2429,
     .all 0x2440 0x244A, .all 0x2460 0x27FF, .all 0x2900 0x2B73, .all 0x2B76 0x2B95,
     .all 0x2B97 0x2BFF, .all 0x2E00 0x2E5D, .all 0x2FF0 0x3004, .one 0x3006, .all 0x3008 0x3020,
     .all 0x3030 0x3037, .all 0x303C 0x303F, .all 0x309B 0x309C, .one 0x30A0, .all 0x30FB 0x30FC,
     .all 0x3190 0x319F, .all 0x31C0 0x31E5, .one 0x31EF, .all 0x3220 0x325F, .all 0x327F 0x32CF,
     .one 0x32FF, .all 0x3358 0x33FF, .all 0x4DC0 0x4DFF, .all 0xA700 0xA721, .all 0xA788 0xA78A,
     .all 0xA830 0xA839, .one 0xA92E, .one 0xA9CF, .one 0xAB5B, .all 0xAB6A 0xAB6B,
     .all 0xFD3E 0xFD3F, .all 0xFE10 0xFE19, .all 0xFE30 0xFE52, .all 0xFE54 0xFE66,
     .all 0xFE68 0xFE6B, .one 0xFEFF, .all 0xFF01 0xFF20, .all 0xFF3B 0xFF40, .all 0xFF5B 0xFF65,
     .one 0xFF70, .all 0xFF9E 0xFF9F, .all 0xFFE0 0xFFE6, .all 0xFFE8 0xFFEE, .all 0xFFF9 0xFFFD,
     .all 0x10100 0x10102, .all 0x10107 0x10133, .all 0x10137 0x1013F, .all 0x10190 0x1019C,
     .all 0x101D0 0x101FC, .all 0x102E1 0x102FB, .all 0x1BCA0 0x1BCA3, .all 0x1CC00 0x1CCF9,
     .all 0x1CD00 0x1CEB3, .all 0x1CF50 0x1CFC3, .all 0x1D000 0x1D0F5, .all 0x1D100 0x1D126,
     .all 0x1D129 0x1D166, .all 0x1D16A 0x1D17A, .all 0x1D183 0x1D184, .all 0x1D18C 0x1D1A9,
     .all 0x1D1AE 0x1D1EA, .all 0x1D2C0 0x1D2D3, .all 0x1D2E0 0x1D2F3, .all 0x1D300 0x1D356,
     .all 0x1D360 0x1D378, .all 0x1D400 0x1D454, .all 0x1D456 0x1D49C, .all 0x1D49E 0x1D49F,
     .one 0x1D4A2, .all 0x1D4A5 0x1D4A6, .all 0x1D4A9 0x1D4AC, .all 0x1D4AE 0x1D4B9, .one 0x1D4BB,
     .all 0x1D4BD 0x1D4C3, .all 0x1D4C5 0x1D505, .all 0x1D507 0x1D50A, .all 0x1D50D 0x1D514,
     .all 0x1D516 0x1D51C, .all 0x1D51E 0x1D539, .all 0x1D53B 0x1D53E, .all 0x1D540 0x1D544,
     .one 0x1D546, .all 0x1D54A 0x1D550, .all 0x1D552 0x1D6A5, .all 0x1D6A8 0x1D7CB,
     .all 0x1D7CE 0x1D7FF, .all 0x1EC71 0x1ECB4, .all 0x1ED01 0x1ED3D, .all 0x1F000 0x1F02B,
     .all 0x1F030 0x1F093, .all 0x1F0A0 0x1F0AE, .all 0x1F0B1 0x1F0BF, .all 0x1F0C1 0x1F0CF,
     .all 0x1F0D1 0x1F0F5, .all 0x1F100 0x1F1AD, .all 0x1F1E6 0x1F1FF, .all 0x1F201 0x1F202,
     .all 0x1F210 0x1F23B, .all 0x1F240 0x1F248, .all 0x1F250 0x1F251, .all 0x1F260 0x1F265,
     .all 0x1F300 0x1F6D7, .all 0x1F6DC 0x1F6EC, .all 0x1F6F0 0x1F6FC, .all 0x1F700 0x1F776,
     .all 0x1F77B 0x1F7D9, .all 0x1F7E0 0x1F7EB, .one 0x1F7F0, .all 0x1F800 0x1F80B,
     .all 0x1F810 0x1F847, .all 0x1F850 0x1F859, .all 0x1F860 0x1F887, .all 0x1F890 0x1F8AD,
     .all 0x1F8B0 0x1F8BB, .all 0x1F8C0 0x1F8C1, .all 0x1F900 0x1FA53, .all 0x1FA60 0x1FA6D,
     .all 0x1FA70 0x1FA7C, .all 0x1FA80 0x1FA89, .all 0x1FA8F 0x1FAC6, .all 0x1FACE 0x1FADC,
     .all 0x1FADF 0x1FAE9, .all 0x1FAF0 0x1FAF8, .all 0x1FB00 0x1FB92, .all 0x1FB94 0x1FBF9,
     .one 0xE0001, .all 0xE0020 0xE007F]
  | .coptic => [.all 0x03E2 0x03EF, .all 0x2C80 0x2CF3, .all 0x2CF9 0x2CFF]
  | .cuneiform =>
    [.all 0x12000 0x12399, .all 0x12400 0x1246E, .all 0x12470 0x12474, .all 0x12480 0x12543]
  | .cypriot =>
    [.all 0x10800 0x10805, .one 0x10808, .all 0x1080A 0x10835, .all 0x10837 0x10838, .one 0x1083C,
     .one 0x1083F]
  | .cyproMinoan => [.all 0x12F90 0x12FF2]
  | .cyrillic =>
    [.all 0x0400 0x0484, .all 0x0487 0x052F, .all 0x1C80 0x1C8A, .one 0x1D2B, .one 0x1D78,
     .all 0x2DE0 0x2DFF, .all 0xA640 0xA69F, .all 0xFE2E 0xFE2F, .all 0x1E030 0x1E06D,
     .one 0x1E08F]
  | .deseret => [.all 0x10400 0x1044F]
  | .devanagari =>
    [.all 0x0900 0x0950, .all 0x0955 0x0963, .all 0x0966 0x097F, .all 0xA8E0 0xA8FF,
     .all 0x11B00 0x11B09]
  | .divesAkuru =>
    [.all 0x11900 0x11906, .one 0x11909, .all 0x1190C 0x11913, .all 0x11915 0x11916,
     .all 0x11918 0x11935, .all 0x11937 0x11938, .all 0x1193B 0x11946, .all 0x11950 0x11959]
  | .dogra => [.all 0x11800 0x1183B]
  | .duployan =>
    [.all 0x1BC00 0x1BC6A, .all 0x1BC70 0x1BC7C, .all 0x1BC80 0x1BC88, .all 0x1BC90 0x1BC99,
     .all 0x1BC9C 0x1BC9F]
  | .egyptianHieroglyphs => [.all 0x13000 0x13455, .all 0x13460 0x143FA]
  | .elbasan => [.all 0x10500 0x10527]
  | .elymaic => [.all 0x10FE0 0x10FF6]
  | .ethiopic =>
    [.all 0x1200 0x1248, .all 0x124A 0x124D, .all 0x1250 0x1256, .one 0x1258, .all 0x125A 0x125D,
     .all 0x1260 0x1288, .all 0x128A 0x128D, .all 0x1290 0x12B0, .all 0x12B2 0x12B5,
     .all 0x12B8 0x12BE, .one 0x12C0, .all 0x12C2 0x12C5, .all 0x12C8 0x12D6, .all 0x12D8 0x1310,
     .all 0x1312 0x1315, .all 0x1318 0x135A, .all 0x135D 0x137C, .all 0x1380 0x1399,
     .all 0x2D80 0x2D96, .all 0x2DA0 0x2DA6, .all 0x2DA8 0x2DAE, .all 0x2DB0 0x2DB6,
     .all 0x2DB8 0x2DBE, .all 0x2DC0 0x2DC6, .all 0x2DC8 0x2DCE, .all 0x2DD0 0x2DD6,
     .all 0x2DD8 0x2DDE, .all 0xAB01 0xAB06, .all 0xAB09 0xAB0E, .all 0xAB11 0xAB16,
     .all 0xAB20 0xAB26, .all 0xAB28 0xAB2E, .all 0x1E7E0 0x1E7E6, .all 0x1E7E8 0x1E7EB,
     .all 0x1E7ED 0x1E7EE, .all 0x1E7F0 0x1E7FE]
  | .garay => [.all 0x10D40 0x10D65, .all 0x10D69 0x10D85, .all 0x10D8E 0x10D8F]
  | .georgian =>
    [.all 0x10A0 0x10C5, .one 0x10C7, .one 0x10CD, .all 0x10D0 0x10FA, .all 0x10FC 0x10FF,
     .all 0x1C90 0x1CBA, .all 0x1CBD 0x1CBF, .all 0x2D00 0x2D25, .one 0x2D27, .one 0x2D2D]
  | .glagolitic =>
    [.all 0x2C00 0x2C5F, .all 0x1E000 0x1E006, .all 0x1E008 0x1E018, .all 0x1E01B 0x1E021,
     .all 0x1E023 0x1E024, .all 0x1E026 0x1E02A]
  | .gothic => [.all 0x10330 0x1034A]
  | .grantha =>
    [.all 0x11300 0x11303, .all 0x11305 0x1130C, .all 0x1130F 0x11310, .all 0x11313 0x11328,
     .all 0x1132A 0x11330, .all 0x11332 0x11333, .all 0x11335 0x11339, .all 0x1133C 0x11344,
     .all 0x11347 0x11348, .all 0x1134B 0x1134D, .one 0x11350, .one 0x11357, .all 0x1135D 0x11363,
     .all 0x11366 0x1136C, .all 0x11370 0x11374]
  | .greek =>
    [.all 0x0370 0x0373, .all 0x0375 0x0377, .all 0x037A 0x037D, .one 0x037F,
     .alternate 0x0384 0x0386, .all 0x0388 0x038A, .one 0x038C, .all 0x038E 0x03A1,
     .all 0x03A3 0x03E1, .all 0x03F0 0x03FF, .all 0x1D26 0x1D2A, .all 0x1D5D 0x1D61,
     .all 0x1D66 0x1D6A, .one 0x1DBF, .all 0x1F00 0x1F15, .all 0x1F18 0x1F1D, .all 0x1F20 0x1F45,
     .all 0x1F48 0x1F4D, .all 0x1F50 0x1F57, .alternate 0x1F59 0x1F5D, .all 0x1F5F 0x1F7D,
     .all 0x1F80 0x1FB4, .all 0x1FB6 0x1FC4, .all 0x1FC6 0x1FD3, .all 0x1FD6 0x1FDB,
     .all 0x1FDD 0x1FEF, .all 0x1FF2 0x1FF4, .all 0x1FF6 0x1FFE, .one 0x2126, .one 0xAB65,
     .all 0x10140 0x1018E, .one 0x101A0, .all 0x1D200 0x1D245]
  | .gujarati =>
    [.all 0x0A81 0x0A83, .all 0x0A85 0x0A8D, .all 0x0A8F 0x0A91, .all 0x0A93 0x0AA8,
     .all 0x0AAA 0x0AB0, .all 0x0AB2 0x0AB3, .all 0x0AB5 0x0AB9, .all 0x0ABC 0x0AC5,
     .all 0x0AC7 0x0AC9, .all 0x0ACB 0x0ACD, .one 0x0AD0, .all 0x0AE0 0x0AE3, .all 0x0AE6 0x0AF1,
     .all 0x0AF9 0x0AFF]
  | .gunjalaGondi =>
    [.all 0x11D60 0x11D65, .all 0x11D67 0x11D68, .all 0x11D6A 0x11D8E, .all 0x11D90 0x11D91,
     .all 0x11D93 0x11D98, .all 0x11DA0 0x11DA9]
  | .gurmukhi =>
    [.all 0x0A01 0x0A03, .all 0x0A05 0x0A0A, .all 0x0A0F 0x0A10, .all 0x0A13 0x0A28,
     .all 0x0A2A 0x0A30, .all 0x0A32 0x0A33, .all 0x0A35 0x0A36, .all 0x0A38 0x0A39, .one 0x0A3C,
     .all 0x0A3E 0x0A42, .all 0x0A47 0x0A48, .all 0x0A4B 0x0A4D, .one 0x0A51, .all 0x0A59 0x0A5C,
     .one 0x0A5E, .all 0x0A66 0x0A76]
  | .gurungKhema => [.all 0x16100 0x16139]
  | .han =>
    [.all 0x2E80 0x2E99, .all 0x2E9B 0x2EF3, .all 0x2F00 0x2FD5, .alternate 0x3005 0x3007,
     .all 0x3021 0x3029, .all 0x3038 0x303B, .all 0x3400 0x4DBF, .all 0x4E00 0x9FFF,
     .all 0xF900 0xFA6D, .all 0xFA70 0xFAD9, .all 0x16FE2 0x16FE3, .all 0x16FF0 0x16FF1,
     .all 0x20000 0x2A6DF, .all 0x2A700 0x2B739, .all 0x2B740 0x2B81D, .all 0x2B820 0x2CEA1,
     .all 0x2CEB0 0x2EBE0, .all 0x2EBF0 0x2EE5D, .all 0x2F800 0x2FA1D, .all 0x30000 0x3134A,
     .all 0x31350 0x323AF]
  | .hangul =>
    [.all 0x1100 0x11FF, .all 0x302E 0x302F, .all 0x3131 0x318E, .all 0x3200 0x321E,
     .all 0x3260 0x327E, .all 0xA960 0xA97C, .all 0xAC00 0xD7A3, .all 0xD7B0 0xD7C6,
     .all 0xD7CB 0xD7FB, .all 0xFFA0 0xFFBE, .all 0xFFC2 0xFFC7, .all 0xFFCA 0xFFCF,
     .all 0xFFD2 0xFFD7, .all 0xFFDA 0xFFDC]
  | .hanifiRohingya => [.all 0x10D00 0x10D27, .all 0x10D30 0x10D39]
  | .hanunoo => [.all 0x1720 0x1734]
  | .hatran => [.all 0x108E0 0x108F2, .all 0x108F4 0x108F5, .all 0x108FB 0x108FF]
  | .hebrew =>
    [.all 0x0591 0x05C7, .all 0x05D0 0x05EA, .all 0x05EF 0x05F4, .all 0xFB1D 0xFB36,
     .all 0xFB38 0xFB3C, .one 0xFB3E, .all 0xFB40 0xFB41, .all 0xFB43 0xFB44, .all 0xFB46 0xFB4F]
  | .hiragana =>
    [.all 0x3041 0x3096, .all 0x309D 0x309F, .all 0x1B001 0x1B11F, .one 0x1B132,
     .all 0x1B150 0x1B152, .one 0x1F200]
  | .imperialAramaic => [.all 0x10840 0x10855, .all 0x10857 0x1085F]
  | .inherited =>
    [.all 0x0300 0x036F, .all 0x0485 0x0486, .all 0x064B 0x0655, .one 0x0670, .all 0x0951 0x0954,
     .all 0x1AB0 0x1ACE, .all 0x1CD0 0x1CD2, .all 0x1CD4 0x1CE0, .all 0x1CE2 0x1CE8, .one 0x1CED,
     .one 0x1CF4, .all 0x1CF8 0x1CF9, .all 0x1DC0 0x1DFF, .all 0x200C 0x200D, .all 0x20D0 0x20F0,
     .all 0x302A 0x302D, .all 0x3099 0x309A, .all 0xFE00 0xFE0F, .all 0xFE20 0xFE2D, .one 0x101FD,
     .one 0x102E0, .one 0x1133B, .all 0x1CF00 0x1CF2D, .all 0x1CF30 0x1CF46, .all 0x1D167 0x1D169,
     .all 0x1D17B 0x1D182, .all 0x1D185 0x1D18B, .all 0x1D1AA 0x1D1AD, .all 0xE0100 0xE01EF]
  | .inscriptionalPahlavi => [.all 0x10B60 0x10B72, .all 0x10B78 0x10B7F]
  | .inscriptionalParthian => [.all 0x10B40 0x10B55, .all 0x10B58 0x10B5F]
  | .javanese => [.all 0xA980 0xA9CD, .all 0xA9D0 0xA9D9, .all 0xA9DE 0xA9DF]
  | .kaithi => [.all 0x11080 0x110C2, .one 0x110CD]
  | .kannada =>
    [.all 0x0C80 0x0C8C, .all 0x0C8E 0x0C90, .all 0x0C92 0x0CA8, .all 0x0CAA 0x0CB3,
     .all 0x0CB5 0x0CB9, .all 0x0CBC 0x0CC4, .all 0x0CC6 0x0CC8, .all 0x0CCA 0x0CCD,
     .all 0x0CD5 0x0CD6, .all 0x0CDD 0x0CDE, .all 0x0CE0 0x0CE3, .all 0x0CE6 0x0CEF,
     .all 0x0CF1 0x0CF3]
  | .katakana =>
    [.all 0x30A1 0x30FA, .all 0x30FD 0x30FF, .all 0x31F0 0x31FF, .all 0x32D0 0x32FE,
     .all 0x3300 0x3357, .all 0xFF66 0xFF6F, .all 0xFF71 0xFF9D, .all 0x1AFF0 0x1AFF3,
     .all 0x1AFF5 0x1AFFB, .all 0x1AFFD 0x1AFFE, .one 0x1B000, .all 0x1B120 0x1B122, .one 0x1B155,
     .all 0x1B164 0x1B167]
  | .kawi => [.all 0x11F00 0x11F10, .all 0x11F12 0x11F3A, .all 0x11F3E 0x11F5A]
  | .kayahLi => [.all 0xA900 0xA92D, .one 0xA92F]
  | .kharoshthi =>
    [.all 0x10A00 0x10A03, .all 0x10A05 0x10A06, .all 0x10A0C 0x10A13, .all 0x10A15 0x10A17,
     .all 0x10A19 0x10A35, .all 0x10A38 0x10A3A, .all 0x10A3F 0x10A48, .all 0x10A50 0x10A58]
  | .khitanSmallScript => [.one 0x16FE4, .all 0x18B00 0x18CD5, .one 0x18CFF]
  | .khmer => [.all 0x1780 0x17DD, .all 0x17E0 0x17E9, .all 0x17F0 0x17F9, .all 0x19E0 0x19FF]
  | .khojki => [.all 0x11200 0x11211, .all 0x11213 0x11241]
  | .khudawadi => [.all 0x112B0 0x112EA, .all 0x112F0 0x112F9]
  | .kiratRai => [.all 0x16D40 0x16D79]
  | .lao =>
    [.all 0x0E81 0x0E82, .one 0x0E84, .all 0x0E86 0x0E8A, .all 0x0E8C 0x0EA3, .one 0x0EA5,
     .all 0x0EA7 0x0EBD, .all 0x0EC0 0x0EC4, .one 0x0EC6, .all 0x0EC8 0x0ECE, .all 0x0ED0 0x0ED9,
     .all 0x0EDC 0x0EDF]
  | .latin =>
    [.all 0x0041 0x005A, .all 0x0061 0x007A, .one 0x00AA, .one 0x00BA, .all 0x00C0 0x00D6,
     .all 0x00D8 0x00F6, .all 0x00F8 0x02B8, .all 0x02E0 0x02E4, .all 0x1D00 0x1D25,
     .all 0x1D2C 0x1D5C, .all 0x1D62 0x1D65, .all 0x1D6B 0x1D77, .all 0x1D79 0x1DBE,
     .all 0x1E00 0x1EFF, .one 0x2071, .one 0x207F, .all 0x2090 0x209C, .all 0x212A 0x212B,
     .one 0x2132, .one 0x214E, .all 0x2160 0x2188, .all 0x2C60 0x2C7F, .all 0xA722 0xA787,
     .all 0xA78B 0xA7CD, .all 0xA7D0 0xA7D1, .one 0xA7D3, .all 0xA7D5 0xA7DC, .all 0xA7F2 0xA7FF,
     .all 0xAB30 0xAB5A, .all 0xAB5C 0xAB64, .all 0xAB66 0xAB69, .all 0xFB00 0xFB06,
     .all 0xFF21 0xFF3A, .all 0xFF41 0xFF5A, .all 0x10780 0x10785, .all 0x10787 0x107B0,
     .all 0x107B2 0x107BA, .all 0x1DF00 0x1DF1E, .all 0x1DF25 0x1DF2A]
  | .lepcha => [.all 0x1C00 0x1C37, .all 0x1C3B 0x1C49, .all 0x1C4D 0x1C4F]
  | .limbu =>
    [.all 0x1900 0x191E, .all 0x1920 0x192B, .all 0x1930 0x193B, .one 0x1940, .all 0x1944 0x194F]
  | .linearA => [.all 0x10600 0x10736, .all 0x10740 0x10755, .all 0x10760 0x10767]
  | .linearB =>
    [.all 0x10000 0x1000B, .all 0x1000D 0x10026, .all 0x10028 0x1003A, .all 0x1003C 0x1003D,
     .all 0x1003F 0x1004D, .all 0x10050 0x1005D, .all 0x10080 0x100FA]
  | .lisu => [.all 0xA4D0 0xA4FF, .one 0x11FB0]
  | .lycian => [.all 0x10280 0x1029C]
  | .lydian => [.all 0x10920 0x10939, .one 0x1093F]
  | .mahajani => [.all 0x11150 0x11176]
  | .makasar => [.all 0x11EE0 0x11EF8]
  | .malayalam =>
    [.all 0x0D00 0x0D0C, .all 0x0D0E 0x0D10, .all 0x0D12 0x0D44, .all 0x0D46 0x0D48,
     .all 0x0D4A 0x0D4F, .all 0x0D54 0x0D63, .all 0x0D66 0x0D7F]
  | .mandaic => [.all 0x0840 0x085B, .one 0x085E]
  | .manichaean => [.all 0x10AC0 0x10AE6, .all 0x10AEB 0x10AF6]
  | .marchen => [.all 0x11C70 0x11C8F, .all 0x11C92 0x11CA7, .all 0x11CA9 0x11CB6]
  | .masaramGondi =>
    [.all 0x11D00 0x11D06, .all 0x11D08 0x11D09, .all 0x11D0B 0x11D36, .one 0x11D3A,
     .all 0x11D3C 0x11D3D, .all 0x11D3F 0x11D47, .all 0x11D50 0x11D59]
  | .medefaidrin => [.all 0x16E40 0x16E9A]
  | .meeteiMayek => [.all 0xAAE0 0xAAF6, .all 0xABC0 0xABED, .all 0xABF0 0xABF9]
  | .mendeKikakui => [.all 0x1E800 0x1E8C4, .all 0x1E8C7 0x1E8D6]
  | .meroiticCursive => [.all 0x109A0 0x109B7, .all 0x109BC 0x109CF, .all 0x109D2 0x109FF]
  | .meroiticHieroglyphs => [.all 0x10980 0x1099F]
  | .miao => [.all 0x16F00 0x16F4A, .all 0x16F4F 0x16F87, .all 0x16F8F 0x16F9F]
  | .modi => [.all 0x11600 0x11644, .all 0x11650 0x11659]
  | .mongolian =>
    [.all 0x1800 0x1801, .one 0x1804, .all 0x1806 0x1819, .all 0x1820 0x1878, .all 0x1880 0x18AA,
     .all 0x11660 0x1166C]
  | .mro => [.all 0x16A40 0x16A5E, .all 0x16A60 0x16A69, .all 0x16A6E 0x16A6F]
  | .multani =>
    [.all 0x11280 0x11286, .one 0x11288, .all 0x1128A 0x1128D, .all 0x1128F 0x1129D,
     .all 0x1129F 0x112A9]
  | .myanmar => [.all 0x1000 0x109F, .all 0xA9E0 0xA9FE, .all 0xAA60 0xAA7F, .all 0x116D0 0x116E3]
  | .nabataean => [.all 0x10880 0x1089E, .all 0x108A7 0x108AF]
  | .nagMundari => [.all 0x1E4D0 0x1E4F9]
  | .nandinagari => [.all 0x119A0 0x119A7, .all 0x119AA 0x119D7, .all 0x119DA 0x119E4]
  | .newTaiLue => [.all 0x1980 0x19AB, .all 0x19B0 0x19C9, .all 0x19D0 0x19DA, .all 0x19DE 0x19DF]
  | .newa => [.all 0x11400 0x1145B, .all 0x1145D 0x11461]
  | .nko => [.all 0x07C0 0x07FA, .all 0x07FD 0x07FF]
  | .nushu => [.one 0x16FE1, .all 0x1B170 0x1B2FB]
  | .nyiakengPuachueHmong =>
    [.all 0x1E100 0x1E12C, .all 0x1E130 0x1E13D, .all 0x1E140 0x1E149, .all 0x1E14E 0x1E14F]
  | .ogham => [.all 0x1680 0x169C]
  | .olChiki => [.all 0x1C50 0x1C7F]
  | .olOnal => [.all 0x1E5D0 0x1E5FA, .one 0x1E5FF]
  | .oldHungarian => [.all 0x10C80 0x10CB2, .all 0x10CC0 0x10CF2, .all 0x10CFA 0x10CFF]
  | .oldItalic => [.all 0x10300 0x10323, .all 0x1032D 0x1032F]
  | .oldNorthArabian => [.all 0x10A80 0x10A9F]
  | .oldPermic => [.all 0x10350 0x1037A]
  | .oldPersian => [.all 0x103A0 0x103C3, .all 0x103C8 0x103D5]
  | .oldSogdian => [.all 0x10F00 0x10F27]
  | .oldSouthArabian => [.all 0x10A60 0x10A7F]
  | .oldTurkic => [.all 0x10C00 0x10C48]
  | .oldUyghur => [.all 0x10F70 0x10F89]
  | .oriya =>
    [.all 0x0B01 0x0B03, .all 0x0B05 0x0B0C, .all 0x0B0F 0x0B10, .all 0x0B13 0x0B28,
     .all 0x0B2A 0x0B30, .all 0x0B32 0x0B33, .all 0x0B35 0x0B39, .all 0x0B3C 0x0B44,
     .all 0x0B47 0x0B48, .all 0x0B4B 0x0B4D, .all 0x0B55 0x0B57, .all 0x0B5C 0x0B5D,
     .all 0x0B5F 0x0B63, .all 0x0B66 0x0B77]
  | .osage => [.all 0x104B0 0x104D3, .all 0x104D8 0x104FB]
  | .osmanya => [.all 0x10480 0x1049D, .all 0x104A0 0x104A9]
  | .pahawhHmong =>
    [.all 0x16B00 0x16B45, .all 0x16B50 0x16B59, .all 0x16B5B 0x16B61, .all 0x16B63 0x16B77,
     .all 0x16B7D 0x16B8F]
  | .palmyrene => [.all 0x10860 0x1087F]
  | .pauCinHau => [.all 0x11AC0 0x11AF8]
  | .phagsPa => [.all 0xA840 0xA877]
  | .phoenician => [.all 0x10900 0x1091B, .one 0x1091F]
  | .psalterPahlavi => [.all 0x10B80 0x10B91, .all 0x10B99 0x10B9C, .all 0x10BA9 0x10BAF]
  | .rejang => [.all 0xA930 0xA953, .one 0xA95F]
  | .runic => [.all 0x16A0 0x16EA, .all 0x16EE 0x16F8]
  | .samaritan => [.all 0x0800 0x082D, .all 0x0830 0x083E]
  | .saurashtra => [.all 0xA880 0xA8C5, .all 0xA8CE 0xA8D9]
  | .sharada => [.all 0x11180 0x111DF]
  | .shavian => [.all 0x10450 0x1047F]
  | .siddham => [.all 0x11580 0x115B5, .all 0x115B8 0x115DD]
  | .signwriting => [.all 0x1D800 0x1DA8B, .all 0x1DA9B 0x1DA9F, .all 0x1DAA1 0x1DAAF]
  | .sinhala =>
    [.all 0x0D81 0x0D83, .all 0x0D85 0x0D96, .all 0x0D9A 0x0DB1, .all 0x0DB3 0x0DBB, .one 0x0DBD,
     .all 0x0DC0 0x0DC6, .one 0x0DCA, .all 0x0DCF 0x0DD4, .one 0x0DD6, .all 0x0DD8 0x0DDF,
     .all 0x0DE6 0x0DEF, .all 0x0DF2 0x0DF4, .all 0x111E1 0x111F4]
  | .sogdian => [.all 0x10F30 0x10F59]
  | .soraSompeng => [.all 0x110D0 0x110E8, .all 0x110F0 0x110F9]
  | .soyombo => [.all 0x11A50 0x11AA2]
  | .sundanese => [.all 0x1B80 0x1BBF, .all 0x1CC0 0x1CC7]
  | .sunuwar => [.all 0x11BC0 0x11BE1, .all 0x11BF0 0x11BF9]
  | .sylotiNagri => [.all 0xA800 0xA82C]
  | .syriac => [.all 0x0700 0x070D, .all 0x070F 0x074A, .all 0x074D 0x074F, .all 0x0860 0x086A]
  | .tagalog => [.all 0x1700 0x1715, .one 0x171F]
  | .tagbanwa => [.all 0x1760 0x176C, .all 0x176E 0x1770, .all 0x1772 0x1773]
  | .taiLe => [.all 0x1950 0x196D, .all 0x1970 0x1974]
  | .taiTham =>
    [.all 0x1A20 0x1A5E, .all 0x1A60 0x1A7C, .all 0x1A7F 0x1A89, .all 0x1A90 0x1A99,
     .all 0x1AA0 0x1AAD]
  | .taiViet => [.all 0xAA80 0xAAC2, .all 0xAADB 0xAADF]
  | .takri => [.all 0x11680 0x116B9, .all 0x116C0 0x116C9]
  | .tamil =>
    [.all 0x0B82 0x0B83, .all 0x0B85 0x0B8A, .all 0x0B8E 0x0B90, .all 0x0B92 0x0B95,
     .all 0x0B99 0x0B9A, .one 0x0B9C, .all 0x0B9E 0x0B9F, .all 0x0BA3 0x0BA4, .all 0x0BA8 0x0BAA,
     .all 0x0BAE 0x0BB9, .all 0x0BBE 0x0BC2, .all 0x0BC6 0x0BC8, .all 0x0BCA 0x0BCD, .one 0x0BD0,
     .one 0x0BD7, .all 0x0BE6 0x0BFA, .all 0x11FC0 0x11FF1, .one 0x11FFF]
  | .tangsa => [.all 0x16A70 0x16ABE, .all 0x16AC0 0x16AC9]
  | .tangut => [.one 0x16FE0, .all 0x17000 0x187F7, .all 0x18800 0x18AFF, .all 0x18D00 0x18D08]
  | .telugu =>
    [.all 0x0C00 0x0C0C, .all 0x0C0E 0x0C10, .all 0x0C12 0x0C28, .all 0x0C2A 0x0C39,
     .all 0x0C3C 0x0C44, .all 0x0C46 0x0C48, .all 0x0C4A 0x0C4D, .all 0x0C55 0x0C56,
     .all 0x0C58 0x0C5A, .one 0x0C5D, .all 0x0C60 0x0C63, .all 0x0C66 0x0C6F, .all 0x0C77 0x0C7F]
  | .thaana => [.all 0x0780 0x07B1]
  | .thai => [.all 0x0E01 0x0E3A, .all 0x0E40 0x0E5B]
  | .tibetan =>
    [.all 0x0F00 0x0F47, .all 0x0F49 0x0F6C, .all 0x0F71 0x0F97, .all 0x0F99 0x0FBC,
     .all 0x0FBE 0x0FCC, .all 0x0FCE 0x0FD4, .all 0x0FD9 0x0FDA]
  | .tifinagh => [.all 0x2D30 0x2D67, .all 0x2D6F 0x2D70, .one 0x2D7F]
  | .tirhuta => [.all 0x11480 0x114C7, .all 0x114D0 0x114D9]
  | .todhri => [.all 0x105C0 0x105F3]
  | .toto => [.all 0x1E290 0x1E2AE]
  | .tuluTigalari =>
    [.all 0x11380 0x11389, .one 0x1138B, .one 0x1138E, .all 0x11390 0x113B5, .all 0x113B7 0x113C0,
     .one 0x113C2, .one 0x113C5, .all 0x113C7 0x113CA, .all 0x113CC 0x113D5, .all 0x113D7 0x113D8,
     .all 0x113E1 0x113E2]
  | .ugaritic => [.all 0x10380 0x1039D, .one 0x1039F]
  | .vai => [.all 0xA500 0xA62B]
  | .vithkuqi =>
    [.all 0x10570 0x1057A, .all 0x1057C 0x1058A, .all 0x1058C 0x10592, .all 0x10594 0x10595,
     .all 0x10597 0x105A1, .all 0x105A3 0x105B1, .all 0x105B3 0x105B9, .all 0x105BB 0x105BC]
  | .wancho => [.all 0x1E2C0 0x1E2F9, .one 0x1E2FF]
  | .warangCiti => [.all 0x118A0 0x118F2, .one 0x118FF]
  | .yezidi => [.all 0x10E80 0x10EA9, .all 0x10EAB 0x10EAD, .all 0x10EB0 0x10EB1]
  | .yi => [.all 0xA000 0xA48C, .all 0xA490 0xA4C6]
  | .zanabazarSquare => [.all 0x11A00 0x11A47]

/-- Characters that belong to no script alone, or to another, and are used in this one too. -/
def Script.sharedRuns : Script → List Run
  | .adlam => [.one 0x061F, .one 0x0640, .one 0x204F, .one 0x2E41]
  | .arabic =>
    [.one 0x060C, .one 0x061B, .one 0x061F, .one 0x0640, .all 0x064B 0x0655, .one 0x0670,
     .one 0x204F, .one 0x2E41, .all 0xFD3E 0xFD3F, .all 0x102E0 0x102FB]
  | .armenian => [.one 0x0308]
  | .avestan => [.one 0x00B7, .all 0x2E30 0x2E31]
  | .bengali =>
    [.one 0x02BC, .all 0x0951 0x0952, .all 0x0964 0x0965, .alternate 0x1CD0 0x1CD2,
     .all 0x1CD5 0x1CD6, .one 0x1CD8, .one 0x1CE1, .one 0x1CEA, .one 0x1CED, .one 0x1CF2,
     .all 0x1CF5 0x1CF7, .one 0xA8F1]
  | .bopomofo =>
    [.one 0x02C7, .all 0x02C9 0x02CB, .one 0x02D9, .all 0x3001 0x3003, .all 0x3008 0x3011,
     .all 0x3013 0x301F, .all 0x302A 0x302D, .one 0x3030, .one 0x3037, .one 0x30FB,
     .all 0xFE45 0xFE46, .all 0xFF61 0xFF65]
  | .buginese => [.one 0xA9CF]
  | .buhid => [.all 0x1735 0x1736]
  | .carian => [.one 0x00B7, .one 0x205A, .one 0x205D, .one 0x2E31]
  | .caucasianAlbanian => [.one 0x0304, .one 0x0331, .one 0x035E]
  | .chakma => [.all 0x09E6 0x09EF, .all 0x1040 0x1049]
  | .cherokee =>
    [.all 0x0300 0x0302, .one 0x0304, .all 0x030B 0x030C, .all 0x0323 0x0324, .all 0x0330 0x0331]
  | .coptic =>
    [.one 0x00B7, .one 0x0300, .all 0x0304 0x0305, .one 0x0307, .all 0x0374 0x0375, .one 0x2E17,
     .all 0x102E0 0x102FB]
  | .cypriot => [.all 0x10100 0x10102, .all 0x10107 0x10133, .all 0x10137 0x1013F]
  | .cyproMinoan => [.all 0x10100 0x10101]
  | .cyrillic =>
    [.one 0x02BC, .all 0x0300 0x0302, .alternate 0x0304 0x0308, .one 0x030B, .one 0x0311,
     .all 0x0485 0x0486, .one 0x1DF8, .one 0x2E43]
  | .devanagari =>
    [.one 0x02BC, .all 0x0951 0x0952, .all 0x0964 0x0965, .all 0x1CD0 0x1CF6, .all 0x1CF8 0x1CF9,
     .one 0x20F0, .all 0xA830 0xA839]
  | .dogra => [.all 0x0964 0x096F, .all 0xA830 0xA839]
  | .duployan =>
    [.one 0x00B7, .all 0x0307 0x0308, .one 0x030A, .all 0x0323 0x0324, .one 0x2E3C,
     .all 0x1BCA0 0x1BCA3]
  | .elbasan => [.one 0x00B7, .one 0x0305]
  | .ethiopic => [.one 0x030E]
  | .garay => [.one 0x060C, .one 0x061B, .one 0x061F]
  | .georgian => [.one 0x00B7, .one 0x0589, .one 0x10FB, .one 0x205A, .one 0x2E31]
  | .glagolitic =>
    [.one 0x00B7, .alternate 0x0303 0x0305, .one 0x0484, .one 0x0487, .one 0x0589, .one 0x10FB,
     .one 0x205A, .one 0x2E43, .one 0xA66F]
  | .gothic => [.one 0x00B7, .all 0x0304 0x0305, .one 0x0308, .one 0x0331]
  | .grantha =>
    [.all 0x0951 0x0952, .all 0x0964 0x0965, .all 0x0BE6 0x0BF3, .one 0x1CD0, .all 0x1CD2 0x1CD3,
     .all 0x1CF2 0x1CF4, .all 0x1CF8 0x1CF9, .one 0x20F0, .one 0x1133B, .all 0x11FD0 0x11FD1,
     .one 0x11FD3]
  | .greek =>
    [.one 0x00B7, .all 0x0300 0x0301, .alternate 0x0304 0x0308, .one 0x0313, .one 0x0342,
     .one 0x0345, .one 0x0374, .all 0x1DC0 0x1DC1, .one 0x205D]
  | .gujarati => [.all 0x0951 0x0952, .all 0x0964 0x0965, .all 0xA830 0xA839]
  | .gunjalaGondi => [.one 0x00B7, .all 0x0964 0x0965]
  | .gurmukhi => [.all 0x0951 0x0952, .all 0x0964 0x0965, .all 0xA830 0xA839]
  | .gurungKhema => [.one 0x0965]
  | .han =>
    [.one 0x00B7, .all 0x2FF0 0x2FFF, .all 0x3001 0x3003, .one 0x3006, .all 0x3008 0x3011,
     .all 0x3013 0x301F, .all 0x302A 0x302D, .one 0x3030, .one 0x3037, .all 0x303C 0x303F,
     .one 0x30FB, .all 0x3190 0x319F, .all 0x31C0 0x31E5, .one 0x31EF, .all 0x3220 0x3247,
     .all 0x3280 0x32B0, .all 0x32C0 0x32CB, .one 0x32FF, .all 0x3358 0x3370, .all 0x337B 0x337F,
     .all 0x33E0 0x33FE, .all 0xA700 0xA707, .all 0xFE45 0xFE46, .all 0xFF61 0xFF65,
     .all 0x1D360 0x1D371, .all 0x1F250 0x1F251]
  | .hangul =>
    [.all 0x3001 0x3003, .all 0x3008 0x3011, .all 0x3013 0x301F, .one 0x3030, .one 0x3037,
     .one 0x30FB, .all 0xFE45 0xFE46, .all 0xFF61 0xFF65]
  | .hanifiRohingya => [.one 0x060C, .one 0x061B, .one 0x061F, .one 0x0640, .one 0x06D4]
  | .hanunoo => [.all 0x1735 0x1736]
  | .hebrew => [.all 0x0307 0x0308]
  | .hiragana =>
    [.all 0x3001 0x3003, .all 0x3008 0x3011, .all 0x3013 0x301F, .all 0x3030 0x3035, .one 0x3037,
     .all 0x303C 0x303D, .all 0x3099 0x309C, .one 0x30A0, .all 0x30FB 0x30FC, .all 0xFE45 0xFE46,
     .all 0xFF61 0xFF65, .one 0xFF70, .all 0xFF9E 0xFF9F]
  | .javanese => [.one 0xA9CF]
  | .kaithi => [.all 0x0966 0x096F, .one 0x2E31, .all 0xA830 0xA839]
  | .kannada =>
    [.all 0x0951 0x0952, .all 0x0964 0x0965, .one 0x1CD0, .all 0x1CD2 0x1CD3, .one 0x1CDA,
     .alternate 0x1CF2 0x1CF4, .all 0xA830 0xA835]
  | .katakana =>
    [.one 0x0305, .one 0x0323, .all 0x3001 0x3003, .all 0x3008 0x3011, .all 0x3013 0x301F,
     .all 0x3030 0x3035, .one 0x3037, .all 0x303C 0x303D, .all 0x3099 0x309C, .one 0x30A0,
     .all 0x30FB 0x30FC, .all 0xFE45 0xFE46, .all 0xFF61 0xFF65, .one 0xFF70, .all 0xFF9E 0xFF9F]
  | .kayahLi => [.one 0xA92E]
  | .khojki => [.all 0x0AE6 0x0AEF, .all 0xA830 0xA839]
  | .khudawadi => [.all 0x0964 0x0965, .all 0xA830 0xA839]
  | .latin =>
    [.one 0x00B7, .one 0x02BC, .one 0x02C7, .all 0x02C9 0x02CB, .one 0x02CD,
     .alternate 0x02D7 0x02D9, .all 0x0300 0x030E, .all 0x0310 0x0311, .one 0x0313, .one 0x0320,
     .all 0x0323 0x0325, .all 0x032D 0x032E, .all 0x0330 0x0331, .one 0x0358, .one 0x035E,
     .all 0x0363 0x036F, .all 0x0485 0x0486, .all 0x0951 0x0952, .one 0x10FB, .one 0x1DF8,
     .one 0x202F, .one 0x20F0, .one 0x2E17, .all 0xA700 0xA707, .one 0xA92E]
  | .limbu => [.one 0x0965]
  | .linearA => [.all 0x10107 0x10133]
  | .linearB => [.all 0x10100 0x10102, .all 0x10107 0x10133, .all 0x10137 0x1013F]
  | .lisu => [.one 0x02BC, .one 0x02CD, .all 0x300A 0x300B]
  | .lycian => [.one 0x205A]
  | .lydian => [.one 0x00B7, .one 0x2E31]
  | .mahajani => [.one 0x00B7, .all 0x0964 0x096F, .all 0xA830 0xA839]
  | .malayalam =>
    [.all 0x0951 0x0952, .all 0x0964 0x0965, .one 0x1CDA, .one 0x1CF2, .all 0xA830 0xA832]
  | .mandaic => [.one 0x0640]
  | .manichaean => [.one 0x0640]
  | .masaramGondi => [.all 0x0964 0x0965]
  | .meroiticHieroglyphs => [.one 0x205D]
  | .modi => [.all 0xA830 0xA839]
  | .mongolian =>
    [.all 0x1802 0x1803, .one 0x1805, .one 0x202F, .all 0x3001 0x3002, .all 0x3008 0x300B]
  | .multani => [.all 0x0A66 0x0A6F]
  | .myanmar => [.one 0xA92E]
  | .nandinagari =>
    [.all 0x0964 0x0965, .all 0x0CE6 0x0CEF, .one 0x1CE9, .one 0x1CF2, .one 0x1CFA,
     .all 0xA830 0xA835]
  | .nko => [.one 0x060C, .one 0x061B, .one 0x061F, .all 0xFD3E 0xFD3F]
  | .olOnal => [.all 0x0964 0x0965]
  | .oldHungarian => [.one 0x205A, .one 0x205D, .one 0x2E31, .one 0x2E41]
  | .oldPermic => [.one 0x00B7, .one 0x0300, .all 0x0306 0x0308, .one 0x0313, .one 0x0483]
  | .oldTurkic => [.one 0x205A, .one 0x2E30]
  | .oldUyghur => [.one 0x0640, .one 0x10AF2]
  | .oriya => [.all 0x0951 0x0952, .all 0x0964 0x0965, .one 0x1CDA, .one 0x1CF2]
  | .osage => [.one 0x0301, .one 0x0304, .one 0x030B, .one 0x0358]
  | .phagsPa => [.all 0x1802 0x1803, .one 0x1805, .one 0x202F, .one 0x3002]
  | .psalterPahlavi => [.one 0x0640]
  | .runic => [.all 0x16EB 0x16ED]
  | .samaritan => [.one 0x2E31]
  | .sharada =>
    [.one 0x0951, .alternate 0x1CD7 0x1CD9, .all 0x1CDC 0x1CDD, .one 0x1CE0, .all 0xA830 0xA835,
     .one 0xA838]
  | .shavian => [.one 0x00B7]
  | .sinhala => [.all 0x0964 0x0965, .one 0x1CF2]
  | .sogdian => [.one 0x0640]
  | .sunuwar =>
    [.all 0x0300 0x0301, .one 0x0303, .one 0x030D, .one 0x0310, .one 0x032D, .one 0x0331]
  | .sylotiNagri => [.all 0x0964 0x0965, .all 0x09E6 0x09EF]
  | .syriac =>
    [.all 0x0303 0x0304, .all 0x0307 0x0308, .one 0x030A, .one 0x0320, .all 0x0323 0x0325,
     .all 0x032D 0x032E, .one 0x0330, .one 0x060C, .all 0x061B 0x061C, .one 0x061F, .one 0x0640,
     .all 0x064B 0x0655, .one 0x0670, .alternate 0x1DF8 0x1DFA]
  | .tagalog => [.all 0x1735 0x1736]
  | .tagbanwa => [.all 0x1735 0x1736]
  | .taiLe => [.all 0x0300 0x0301, .all 0x0307 0x0308, .one 0x030C, .all 0x1040 0x1049]
  | .takri => [.all 0x0964 0x0965, .all 0xA830 0xA839]
  | .tamil =>
    [.all 0x0951 0x0952, .all 0x0964 0x0965, .one 0x1CDA, .one 0xA8F3, .alternate 0x11301 0x11303,
     .all 0x1133B 0x1133C]
  | .tangut => [.all 0x2FF0 0x2FFF, .one 0x31EF]
  | .telugu => [.all 0x0951 0x0952, .all 0x0964 0x0965, .one 0x1CDA, .one 0x1CF2]
  | .thaana =>
    [.one 0x060C, .all 0x061B 0x061C, .one 0x061F, .all 0x0660 0x0669, .one 0xFDF2, .one 0xFDFD]
  | .thai => [.one 0x02BC, .one 0x02D7, .one 0x0303, .one 0x0331]
  | .tibetan => [.all 0x3008 0x300B]
  | .tifinagh => [.alternate 0x0302 0x0304, .alternate 0x0307 0x0309]
  | .tirhuta => [.all 0x0951 0x0952, .all 0x0964 0x0965, .one 0x1CF2, .all 0xA830 0xA839]
  | .todhri => [.one 0x0301, .one 0x0304, .one 0x0307, .alternate 0x0311 0x0313, .one 0x035E]
  | .toto => [.one 0x02BC]
  | .tuluTigalari =>
    [.all 0x0CE6 0x0CEF, .alternate 0x1CF2 0x1CF4, .all 0xA830 0xA835, .one 0xA8F1]
  | .yezidi => [.one 0x060C, .one 0x061B, .one 0x061F, .all 0x0660 0x0669]
  | .yi =>
    [.all 0x3001 0x3002, .all 0x3008 0x3011, .all 0x3014 0x301B, .one 0x30FB, .all 0xFF61 0xFF65]
  | _ => []

namespace Script

def set (s : Script) : CharSet := .ofRuns s.runs

def shared (s : Script) : CharSet := .ofRuns s.sharedRuns

/-- Characters that are listed with the scripts that use them. -/
def listed : CharSet := CharSet.unions (names.map fun entry => entry.1.shared)

/-- The characters that are used in a script. Those common to all scripts, or taking the script of
the character before them, are so only if they are not listed with some. -/
def extensionSet : Script → CharSet
  | .common => set .common |>.diff listed
  | .inherited => set .inherited |>.diff listed
  | s => s.set.union s.shared

end Script

end RuleLexer.Unicode
