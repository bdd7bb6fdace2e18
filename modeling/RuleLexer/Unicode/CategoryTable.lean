import RuleLexer.CharSet
import RuleLexer.Unicode.Category

/-! The characters of each general category, after version 16.0 of the character database. -/

namespace RuleLexer.Unicode

def uppercaseLetterRuns : List Run :=
  [.all 0x0041 0x005A, .all 0x00C0 0x00D6, .all 0x00D8 0x00DE, .alternate 0x0100 0x0136,
   .alternate 0x0139 0x0147, .alternate 0x014A 0x0176, .all 0x0178 0x0179,
   .alternate 0x017B 0x017D, .all 0x0181 0x0182, .one 0x0184, .all 0x0186 0x0187,
   .all 0x0189 0x018B, .all 0x018E 0x0191, .all 0x0193 0x0194, .all 0x0196 0x0198,
   .all 0x019C 0x019D, .all 0x019F 0x01A0, .alternate 0x01A2 0x01A4, .all 0x01A6 0x01A7,
   .one 0x01A9, .one 0x01AC, .all 0x01AE 0x01AF, .all 0x01B1 0x01B3, .one 0x01B5,
   .all 0x01B7 0x01B8, .one 0x01BC, .one 0x01C4, .one 0x01C7, .one 0x01CA,
   .alternate 0x01CD 0x01DB, .alternate 0x01DE 0x01EE, .one 0x01F1, .one 0x01F4,
   .all 0x01F6 0x01F8, .alternate 0x01FA 0x0232, .all 0x023A 0x023B, .all 0x023D 0x023E,
   .one 0x0241, .all 0x0243 0x0246, .alternate 0x0248 0x024E, .alternate 0x0370 0x0372,
   .one 0x0376, .one 0x037F, .one 0x0386, .all 0x0388 0x038A, .one 0x038C, .all 0x038E 0x038F,
   .all 0x0391 0x03A1, .all 0x03A3 0x03AB, .one 0x03CF, .all 0x03D2 0x03D4,
   .alternate 0x03D8 0x03EE, .one 0x03F4, .one 0x03F7, .all 0x03F9 0x03FA, .all 0x03FD 0x042F,
   .alternate 0x0460 0x0480, .alternate 0x048A 0x04BE, .all 0x04C0 0x04C1,
   .alternate 0x04C3 0x04CD, .alternate 0x04D0 0x052E, .all 0x0531 0x0556, .all 0x10A0 0x10C5,
   .one 0x10C7, .one 0x10CD, .all 0x13A0 0x13F5, .one 0x1C89, .all 0x1C90 0x1CBA,
   .all 0x1CBD 0x1CBF, .alternate 0x1E00 0x1E94, .alternate 0x1E9E 0x1EFE, .all 0x1F08 0x1F0F,
   .all 0x1F18 0x1F1D, .all 0x1F28 0x1F2F, .all 0x1F38 0x1F3F, .all 0x1F48 0x1F4D,
   .alternate 0x1F59 0x1F5F, .all 0x1F68 0x1F6F, .all 0x1FB8 0x1FBB, .all 0x1FC8 0x1FCB,
   .all 0x1FD8 0x1FDB, .all 0x1FE8 0x1FEC, .all 0x1FF8 0x1FFB, .one 0x2102, .one 0x2107,
   .all 0x210B 0x210D, .all 0x2110 0x2112, .one 0x2115, .all 0x2119 0x211D,
   .alternate 0x2124 0x2128, .all 0x212A 0x212D, .all 0x2130 0x2133, .all 0x213E 0x213F,
   .one 0x2145, .one 0x2183, .all 0x2C00 0x2C2F, .one 0x2C60, .all 0x2C62 0x2C64,
   .alternate 0x2C67 0x2C6B, .all 0x2C6D 0x2C70, .one 0x2C72, .one 0x2C75, .all 0x2C7E 0x2C80,
   .alternate 0x2C82 0x2CE2, .alternate 0x2CEB 0x2CED, .one 0x2CF2, .alternate 0xA640 0xA66C,
   .alternate 0xA680 0xA69A, .alternate 0xA722 0xA72E, .alternate 0xA732 0xA76E,
   .alternate 0xA779 0xA77B, .all 0xA77D 0xA77E, .alternate 0xA780 0xA786,
   .alternate 0xA78B 0xA78D, .alternate 0xA790 0xA792, .alternate 0xA796 0xA7A8,
   .all 0xA7AA 0xA7AE, .all 0xA7B0 0xA7B4, .alternate 0xA7B6 0xA7C2, .all 0xA7C4 0xA7C7,
   .one 0xA7C9, .all 0xA7CB 0xA7CC, .one 0xA7D0, .alternate 0xA7D6 0xA7DC, .one 0xA7F5,
   .all 0xFF21 0xFF3A, .all 0x10400 0x10427, .all 0x104B0 0x104D3, .all 0x10570 0x1057A,
   .all 0x1057C 0x1058A, .all 0x1058C 0x10592, .all 0x10594 0x10595, .all 0x10C80 0x10CB2,
   .all 0x10D50 0x10D65, .all 0x118A0 0x118BF, .all 0x16E40 0x16E5F, .all 0x1D400 0x1D419,
   .all 0x1D434 0x1D44D, .all 0x1D468 0x1D481, .one 0x1D49C, .all 0x1D49E 0x1D49F, .one 0x1D4A2,
   .all 0x1D4A5 0x1D4A6, .all 0x1D4A9 0x1D4AC, .all 0x1D4AE 0x1D4B5, .all 0x1D4D0 0x1D4E9,
   .all 0x1D504 0x1D505, .all 0x1D507 0x1D50A, .all 0x1D50D 0x1D514, .all 0x1D516 0x1D51C,
   .all 0x1D538 0x1D539, .all 0x1D53B 0x1D53E, .all 0x1D540 0x1D544, .one 0x1D546,
   .all 0x1D54A 0x1D550, .all 0x1D56C 0x1D585, .all 0x1D5A0 0x1D5B9, .all 0x1D5D4 0x1D5ED,
   .all 0x1D608 0x1D621, .all 0x1D63C 0x1D655, .all 0x1D670 0x1D689, .all 0x1D6A8 0x1D6C0,
   .all 0x1D6E2 0x1D6FA, .all 0x1D71C 0x1D734, .all 0x1D756 0x1D76E, .all 0x1D790 0x1D7A8,
   .one 0x1D7CA, .all 0x1E900 0x1E921]

def lowercaseLetterRuns : List Run :=
  [.all 0x0061 0x007A, .one 0x00B5, .all 0x00DF 0x00F6, .all 0x00F8 0x00FF,
   .alternate 0x0101 0x0135, .all 0x0137 0x0138, .alternate 0x013A 0x0146, .all 0x0148 0x0149,
   .alternate 0x014B 0x0177, .alternate 0x017A 0x017C, .all 0x017E 0x0180,
   .alternate 0x0183 0x0185, .one 0x0188, .all 0x018C 0x018D, .one 0x0192, .one 0x0195,
   .all 0x0199 0x019B, .one 0x019E, .alternate 0x01A1 0x01A5, .one 0x01A8, .all 0x01AA 0x01AB,
   .one 0x01AD, .one 0x01B0, .alternate 0x01B4 0x01B6, .all 0x01B9 0x01BA, .all 0x01BD 0x01BF,
   .one 0x01C6, .one 0x01C9, .alternate 0x01CC 0x01DA, .all 0x01DC 0x01DD,
   .alternate 0x01DF 0x01ED, .all 0x01EF 0x01F0, .alternate 0x01F3 0x01F5,
   .alternate 0x01F9 0x0231, .all 0x0233 0x0239, .one 0x023C, .all 0x023F 0x0240, .one 0x0242,
   .alternate 0x0247 0x024D, .all 0x024F 0x0293, .all 0x0295 0x02AF, .alternate 0x0371 0x0373,
   .one 0x0377, .all 0x037B 0x037D, .one 0x0390, .all 0x03AC 0x03CE, .all 0x03D0 0x03D1,
   .all 0x03D5 0x03D7, .alternate 0x03D9 0x03ED, .all 0x03EF 0x03F3, .one 0x03F5, .one 0x03F8,
   .all 0x03FB 0x03FC, .all 0x0430 0x045F, .alternate 0x0461 0x0481, .alternate 0x048B 0x04BF,
   .alternate 0x04C2 0x04CC, .all 0x04CE 0x04CF, .alternate 0x04D1 0x052F, .all 0x0560 0x0588,
   .all 0x10D0 0x10FA, .all 0x10FD 0x10FF, .all 0x13F8 0x13FD, .all 0x1C80 0x1C88, .one 0x1C8A,
   .all 0x1D00 0x1D2B, .all 0x1D6B 0x1D77, .all 0x1D79 0x1D9A, .alternate 0x1E01 0x1E93,
   .all 0x1E95 0x1E9D, .alternate 0x1E9F 0x1EFD, .all 0x1EFF 0x1F07, .all 0x1F10 0x1F15,
   .all 0x1F20 0x1F27, .all 0x1F30 0x1F37, .all 0x1F40 0x1F45, .all 0x1F50 0x1F57,
   .all 0x1F60 0x1F67, .all 0x1F70 0x1F7D, .all 0x1F80 0x1F87, .all 0x1F90 0x1F97,
   .all 0x1FA0 0x1FA7, .all 0x1FB0 0x1FB4, .all 0x1FB6 0x1FB7, .one 0x1FBE, .all 0x1FC2 0x1FC4,
   .all 0x1FC6 0x1FC7, .all 0x1FD0 0x1FD3, .all 0x1FD6 0x1FD7, .all 0x1FE0 0x1FE7,
   .all 0x1FF2 0x1FF4, .all 0x1FF6 0x1FF7, .one 0x210A, .all 0x210E 0x210F, .one 0x2113,
   .one 0x212F, .one 0x2134, .one 0x2139, .all 0x213C 0x213D, .all 0x2146 0x2149, .one 0x214E,
   .one 0x2184, .all 0x2C30 0x2C5F, .one 0x2C61, .all 0x2C65 0x2C66, .alternate 0x2C68 0x2C6C,
   .one 0x2C71, .all 0x2C73 0x2C74, .all 0x2C76 0x2C7B, .alternate 0x2C81 0x2CE1,
   .all 0x2CE3 0x2CE4, .alternate 0x2CEC 0x2CEE, .one 0x2CF3, .all 0x2D00 0x2D25, .one 0x2D27,
   .one 0x2D2D, .alternate 0xA641 0xA66D, .alternate 0xA681 0xA69B, .alternate 0xA723 0xA72D,
   .all 0xA72F 0xA731, .alternate 0xA733 0xA76F, .all 0xA771 0xA778, .alternate 0xA77A 0xA77C,
   .alternate 0xA77F 0xA787, .alternate 0xA78C 0xA78E, .one 0xA791, .all 0xA793 0xA795,
   .alternate 0xA797 0xA7A9, .one 0xA7AF, .alternate 0xA7B5 0xA7C3, .alternate 0xA7C8 0xA7CA,
   .one 0xA7CD, .alternate 0xA7D1 0xA7DB, .one 0xA7F6, .one 0xA7FA, .all 0xAB30 0xAB5A,
   .all 0xAB60 0xAB68, .all 0xAB70 0xABBF, .all 0xFB00 0xFB06, .all 0xFB13 0xFB17,
   .all 0xFF41 0xFF5A, .all 0x10428 0x1044F, .all 0x104D8 0x104FB, .all 0x10597 0x105A1,
   .all 0x105A3 0x105B1, .all 0x105B3 0x105B9, .all 0x105BB 0x105BC, .all 0x10CC0 0x10CF2,
   .all 0x10D70 0x10D85, .all 0x118C0 0x118DF, .all 0x16E60 0x16E7F, .all 0x1D41A 0x1D433,
   .all 0x1D44E 0x1D454, .all 0x1D456 0x1D467, .all 0x1D482 0x1D49B, .all 0x1D4B6 0x1D4B9,
   .one 0x1D4BB, .all 0x1D4BD 0x1D4C3, .all 0x1D4C5 0x1D4CF, .all 0x1D4EA 0x1D503,
   .all 0x1D51E 0x1D537, .all 0x1D552 0x1D56B, .all 0x1D586 0x1D59F, .all 0x1D5BA 0x1D5D3,
   .all 0x1D5EE 0x1D607, .all 0x1D622 0x1D63B, .all 0x1D656 0x1D66F, .all 0x1D68A 0x1D6A5,
   .all 0x1D6C2 0x1D6DA, .all 0x1D6DC 0x1D6E1, .all 0x1D6FC 0x1D714, .all 0x1D716 0x1D71B,
   .all 0x1D736 0x1D74E, .all 0x1D750 0x1D755, .all 0x1D770 0x1D788, .all 0x1D78A 0x1D78F,
   .all 0x1D7AA 0x1D7C2, .all 0x1D7C4 0x1D7C9, .one 0x1D7CB, .all 0x1DF00 0x1DF09,
   .all 0x1DF0B 0x1DF1E, .all 0x1DF25 0x1DF2A, .all 0x1E922 0x1E943]

def titlecaseLetterRuns : List Run :=
  [.one 0x01C5, .one 0x01C8, .one 0x01CB, .one 0x01F2, .all 0x1F88 0x1F8F, .all 0x1F98 0x1F9F,
   .all 0x1FA8 0x1FAF, .one 0x1FBC, .one 0x1FCC, .one 0x1FFC]

def modifierLetterRuns : List Run :=
  [.all 0x02B0 0x02C1, .all 0x02C6 0x02D1, .all 0x02E0 0x02E4, .alternate 0x02EC 0x02EE,
   .one 0x0374, .one 0x037A, .one 0x0559, .one 0x0640, .all 0x06E5 0x06E6, .all 0x07F4 0x07F5,
   .one 0x07FA, .one 0x081A, .one 0x0824, .one 0x0828, .one 0x08C9, .one 0x0971, .one 0x0E46,
   .one 0x0EC6, .one 0x10FC, .one 0x17D7, .one 0x1843, .one 0x1AA7, .all 0x1C78 0x1C7D,
   .all 0x1D2C 0x1D6A, .one 0x1D78, .all 0x1D9B 0x1DBF, .one 0x2071, .one 0x207F,
   .all 0x2090 0x209C, .all 0x2C7C 0x2C7D, .one 0x2D6F, .one 0x2E2F, .one 0x3005,
   .all 0x3031 0x3035, .one 0x303B, .all 0x309D 0x309E, .all 0x30FC 0x30FE, .one 0xA015,
   .all 0xA4F8 0xA4FD, .one 0xA60C, .one 0xA67F, .all 0xA69C 0xA69D, .all 0xA717 0xA71F,
   .one 0xA770, .one 0xA788, .all 0xA7F2 0xA7F4, .all 0xA7F8 0xA7F9, .one 0xA9CF, .one 0xA9E6,
   .one 0xAA70, .one 0xAADD, .all 0xAAF3 0xAAF4, .all 0xAB5C 0xAB5F, .one 0xAB69, .one 0xFF70,
   .all 0xFF9E 0xFF9F, .all 0x10780 0x10785, .all 0x10787 0x107B0, .all 0x107B2 0x107BA,
   .one 0x10D4E, .one 0x10D6F, .all 0x16B40 0x16B43, .all 0x16D40 0x16D42, .all 0x16D6B 0x16D6C,
   .all 0x16F93 0x16F9F, .all 0x16FE0 0x16FE1, .one 0x16FE3, .all 0x1AFF0 0x1AFF3,
   .all 0x1AFF5 0x1AFFB, .all 0x1AFFD 0x1AFFE, .all 0x1E030 0x1E06D, .all 0x1E137 0x1E13D,
   .one 0x1E4EB, .one 0x1E94B]

def otherLetterRuns : List Run :=
  [.one 0x00AA, .one 0x00BA, .one 0x01BB, .all 0x01C0 0x01C3, .one 0x0294, .all 0x05D0 0x05EA,
   .all 0x05EF 0x05F2, .all 0x0620 0x063F, .all 0x0641 0x064A, .all 0x066E 0x066F,
   .all 0x0671 0x06D3, .one 0x06D5, .all 0x06EE 0x06EF, .all 0x06FA 0x06FC, .one 0x06FF,
   .one 0x0710, .all 0x0712 0x072F, .all 0x074D 0x07A5, .one 0x07B1, .all 0x07CA 0x07EA,
   .all 0x0800 0x0815, .all 0x0840 0x0858, .all 0x0860 0x086A, .all 0x0870 0x0887,
   .all 0x0889 0x088E, .all 0x08A0 0x08C8, .all 0x0904 0x0939, .one 0x093D, .one 0x0950,
   .all 0x0958 0x0961, .all 0x0972 0x0980, .all 0x0985 0x098C, .all 0x098F 0x0990,
   .all 0x0993 0x09A8, .all 0x09AA 0x09B0, .one 0x09B2, .all 0x09B6 0x09B9, .one 0x09BD,
   .one 0x09CE, .all 0x09DC 0x09DD, .all 0x09DF 0x09E1, .all 0x09F0 0x09F1, .one 0x09FC,
   .all 0x0A05 0x0A0A, .all 0x0A0F 0x0A10, .all 0x0A13 0x0A28, .all 0x0A2A 0x0A30,
   .all 0x0A32 0x0A33, .all 0x0A35 0x0A36, .all 0x0A38 0x0A39, .all 0x0A59 0x0A5C, .one 0x0A5E,
   .all 0x0A72 0x0A74, .all 0x0A85 0x0A8D, .all 0x0A8F 0x0A91, .all 0x0A93 0x0AA8,
   .all 0x0AAA 0x0AB0, .all 0x0AB2 0x0AB3, .all 0x0AB5 0x0AB9, .one 0x0ABD, .one 0x0AD0,
   .all 0x0AE0 0x0AE1, .one 0x0AF9, .all 0x0B05 0x0B0C, .all 0x0B0F 0x0B10, .all 0x0B13 0x0B28,
   .all 0x0B2A 0x0B30, .all 0x0B32 0x0B33, .all 0x0B35 0x0B39, .one 0x0B3D, .all 0x0B5C 0x0B5D,
   .all 0x0B5F 0x0B61, .one 0x0B71, .one 0x0B83, .all 0x0B85 0x0B8A, .all 0x0B8E 0x0B90,
   .all 0x0B92 0x0B95, .all 0x0B99 0x0B9A, .one 0x0B9C, .all 0x0B9E 0x0B9F, .all 0x0BA3 0x0BA4,
   .all 0x0BA8 0x0BAA, .all 0x0BAE 0x0BB9, .one 0x0BD0, .all 0x0C05 0x0C0C, .all 0x0C0E 0x0C10,
   .all 0x0C12 0x0C28, .all 0x0C2A 0x0C39, .one 0x0C3D, .all 0x0C58 0x0C5A, .one 0x0C5D,
   .all 0x0C60 0x0C61, .one 0x0C80, .all 0x0C85 0x0C8C, .all 0x0C8E 0x0C90, .all 0x0C92 0x0CA8,
   .all 0x0CAA 0x0CB3, .all 0x0CB5 0x0CB9, .one 0x0CBD, .all 0x0CDD 0x0CDE, .all 0x0CE0 0x0CE1,
   .all 0x0CF1 0x0CF2, .all 0x0D04 0x0D0C, .all 0x0D0E 0x0D10, .all 0x0D12 0x0D3A, .one 0x0D3D,
   .one 0x0D4E, .all 0x0D54 0x0D56, .all 0x0D5F 0x0D61, .all 0x0D7A 0x0D7F, .all 0x0D85 0x0D96,
   .all 0x0D9A 0x0DB1, .all 0x0DB3 0x0DBB, .one 0x0DBD, .all 0x0DC0 0x0DC6, .all 0x0E01 0x0E30,
   .all 0x0E32 0x0E33, .all 0x0E40 0x0E45, .all 0x0E81 0x0E82, .one 0x0E84, .all 0x0E86 0x0E8A,
   .all 0x0E8C 0x0EA3, .one 0x0EA5, .all 0x0EA7 0x0EB0, .all 0x0EB2 0x0EB3, .one 0x0EBD,
   .all 0x0EC0 0x0EC4, .all 0x0EDC 0x0EDF, .one 0x0F00, .all 0x0F40 0x0F47, .all 0x0F49 0x0F6C,
   .all 0x0F88 0x0F8C, .all 0x1000 0x102A, .one 0x103F, .all 0x1050 0x1055, .all 0x105A 0x105D,
   .one 0x1061, .all 0x1065 0x1066, .all 0x106E 0x1070, .all 0x1075 0x1081, .one 0x108E,
   .all 0x1100 0x1248, .all 0x124A 0x124D, .all 0x1250 0x1256, .one 0x1258, .all 0x125A 0x125D,
   .all 0x1260 0x1288, .all 0x128A 0x128D, .all 0x1290 0x12B0, .all 0x12B2 0x12B5,
   .all 0x12B8 0x12BE, .one 0x12C0, .all 0x12C2 0x12C5, .all 0x12C8 0x12D6, .all 0x12D8 0x1310,
   .all 0x1312 0x1315, .all 0x1318 0x135A, .all 0x1380 0x138F, .all 0x1401 0x166C,
   .all 0x166F 0x167F, .all 0x1681 0x169A, .all 0x16A0 0x16EA, .all 0x16F1 0x16F8,
   .all 0x1700 0x1711, .all 0x171F 0x1731, .all 0x1740 0x1751, .all 0x1760 0x176C,
   .all 0x176E 0x1770, .all 0x1780 0x17B3, .one 0x17DC, .all 0x1820 0x1842, .all 0x1844 0x1878,
   .all 0x1880 0x1884, .all 0x1887 0x18A8, .one 0x18AA, .all 0x18B0 0x18F5, .all 0x1900 0x191E,
   .all 0x1950 0x196D, .all 0x1970 0x1974, .all 0x1980 0x19AB, .all 0x19B0 0x19C9,
   .all 0x1A00 0x1A16, .all 0x1A20 0x1A54, .all 0x1B05 0x1B33, .all 0x1B45 0x1B4C,
   .all 0x1B83 0x1BA0, .all 0x1BAE 0x1BAF, .all 0x1BBA 0x1BE5, .all 0x1C00 0x1C23,
   .all 0x1C4D 0x1C4F, .all 0x1C5A 0x1C77, .all 0x1CE9 0x1CEC, .all 0x1CEE 0x1CF3,
   .all 0x1CF5 0x1CF6, .one 0x1CFA, .all 0x2135 0x2138, .all 0x2D30 0x2D67, .all 0x2D80 0x2D96,
   .all 0x2DA0 0x2DA6, .all 0x2DA8 0x2DAE, .all 0x2DB0 0x2DB6, .all 0x2DB8 0x2DBE,
   .all 0x2DC0 0x2DC6, .all 0x2DC8 0x2DCE, .all 0x2DD0 0x2DD6, .all 0x2DD8 0x2DDE, .one 0x3006,
   .one 0x303C, .all 0x3041 0x3096, .one 0x309F, .all 0x30A1 0x30FA, .one 0x30FF,
   .all 0x3105 0x312F, .all 0x3131 0x318E, .all 0x31A0 0x31BF, .all 0x31F0 0x31FF,
   .all 0x3400 0x4DBF, .all 0x4E00 0xA014, .all 0xA016 0xA48C, .all 0xA4D0 0xA4F7,
   .all 0xA500 0xA60B, .all 0xA610 0xA61F, .all 0xA62A 0xA62B, .one 0xA66E, .all 0xA6A0 0xA6E5,
   .one 0xA78F, .one 0xA7F7, .all 0xA7FB 0xA801, .all 0xA803 0xA805, .all 0xA807 0xA80A,
   .all 0xA80C 0xA822, .all 0xA840 0xA873, .all 0xA882 0xA8B3, .all 0xA8F2 0xA8F7, .one 0xA8FB,
   .all 0xA8FD 0xA8FE, .all 0xA90A 0xA925, .all 0xA930 0xA946, .all 0xA960 0xA97C,
   .all 0xA984 0xA9B2, .all 0xA9E0 0xA9E4, .all 0xA9E7 0xA9EF, .all 0xA9FA 0xA9FE,
   .all 0xAA00 0xAA28, .all 0xAA40 0xAA42, .all 0xAA44 0xAA4B, .all 0xAA60 0xAA6F,
   .all 0xAA71 0xAA76, .one 0xAA7A, .all 0xAA7E 0xAAAF, .one 0xAAB1, .all 0xAAB5 0xAAB6,
   .all 0xAAB9 0xAABD, .alternate 0xAAC0 0xAAC2, .all 0xAADB 0xAADC, .all 0xAAE0 0xAAEA,
   .one 0xAAF2, .all 0xAB01 0xAB06, .all 0xAB09 0xAB0E, .all 0xAB11 0xAB16, .all 0xAB20 0xAB26,
   .all 0xAB28 0xAB2E, .all 0xABC0 0xABE2, .all 0xAC00 0xD7A3, .all 0xD7B0 0xD7C6,
   .all 0xD7CB 0xD7FB, .all 0xF900 0xFA6D, .all 0xFA70 0xFAD9, .one 0xFB1D, .all 0xFB1F 0xFB28,
   .all 0xFB2A 0xFB36, .all 0xFB38 0xFB3C, .one 0xFB3E, .all 0xFB40 0xFB41, .all 0xFB43 0xFB44,
   .all 0xFB46 0xFBB1, .all 0xFBD3 0xFD3D, .all 0xFD50 0xFD8F, .all 0xFD92 0xFDC7,
   .all 0xFDF0 0xFDFB, .all 0xFE70 0xFE74, .all 0xFE76 0xFEFC, .all 0xFF66 0xFF6F,
   .all 0xFF71 0xFF9D, .all 0xFFA0 0xFFBE, .all 0xFFC2 0xFFC7, .all 0xFFCA 0xFFCF,
   .all 0xFFD2 0xFFD7, .all 0xFFDA 0xFFDC, .all 0x10000 0x1000B, .all 0x1000D 0x10026,
   .all 0x10028 0x1003A, .all 0x1003C 0x1003D, .all 0x1003F 0x1004D, .all 0x10050 0x1005D,
   .all 0x10080 0x100FA, .all 0x10280 0x1029C, .all 0x102A0 0x102D0, .all 0x10300 0x1031F,
   .all 0x1032D 0x10340, .all 0x10342 0x10349, .all 0x10350 0x10375, .all 0x10380 0x1039D,
   .all 0x103A0 0x103C3, .all 0x103C8 0x103CF, .all 0x10450 0x1049D, .all 0x10500 0x10527,
   .all 0x10530 0x10563, .all 0x105C0 0x105F3, .all 0x10600 0x10736, .all 0x10740 0x10755,
   .all 0x10760 0x10767, .all 0x10800 0x10805, .one 0x10808, .all 0x1080A 0x10835,
   .all 0x10837 0x10838, .one 0x1083C, .all 0x1083F 0x10855, .all 0x10860 0x10876,
   .all 0x10880 0x1089E, .all 0x108E0 0x108F2, .all 0x108F4 0x108F5, .all 0x10900 0x10915,
   .all 0x10920 0x10939, .all 0x10980 0x109B7, .all 0x109BE 0x109BF, .one 0x10A00,
   .all 0x10A10 0x10A13, .all 0x10A15 0x10A17, .all 0x10A19 0x10A35, .all 0x10A60 0x10A7C,
   .all 0x10A80 0x10A9C, .all 0x10AC0 0x10AC7, .all 0x10AC9 0x10AE4, .all 0x10B00 0x10B35,
   .all 0x10B40 0x10B55, .all 0x10B60 0x10B72, .all 0x10B80 0x10B91, .all 0x10C00 0x10C48,
   .all 0x10D00 0x10D23, .all 0x10D4A 0x10D4D, .one 0x10D4F, .all 0x10E80 0x10EA9,
   .all 0x10EB0 0x10EB1, .all 0x10EC2 0x10EC4, .all 0x10F00 0x10F1C, .one 0x10F27,
   .all 0x10F30 0x10F45, .all 0x10F70 0x10F81, .all 0x10FB0 0x10FC4, .all 0x10FE0 0x10FF6,
   .all 0x11003 0x11037, .all 0x11071 0x11072, .one 0x11075, .all 0x11083 0x110AF,
   .all 0x110D0 0x110E8, .all 0x11103 0x11126, .one 0x11144, .one 0x11147, .all 0x11150 0x11172,
   .one 0x11176, .all 0x11183 0x111B2, .all 0x111C1 0x111C4, .alternate 0x111DA 0x111DC,
   .all 0x11200 0x11211, .all 0x11213 0x1122B, .all 0x1123F 0x11240, .all 0x11280 0x11286,
   .one 0x11288, .all 0x1128A 0x1128D, .all 0x1128F 0x1129D, .all 0x1129F 0x112A8,
   .all 0x112B0 0x112DE, .all 0x11305 0x1130C, .all 0x1130F 0x11310, .all 0x11313 0x11328,
   .all 0x1132A 0x11330, .all 0x11332 0x11333, .all 0x11335 0x11339, .one 0x1133D, .one 0x11350,
   .all 0x1135D 0x11361, .all 0x11380 0x11389, .one 0x1138B, .one 0x1138E, .all 0x11390 0x113B5,
   .one 0x113B7, .alternate 0x113D1 0x113D3, .all 0x11400 0x11434, .all 0x11447 0x1144A,
   .all 0x1145F 0x11461, .all 0x11480 0x114AF, .all 0x114C4 0x114C5, .one 0x114C7,
   .all 0x11580 0x115AE, .all 0x115D8 0x115DB, .all 0x11600 0x1162F, .one 0x11644,
   .all 0x11680 0x116AA, .one 0x116B8, .all 0x11700 0x1171A, .all 0x11740 0x11746,
   .all 0x11800 0x1182B, .all 0x118FF 0x11906, .one 0x11909, .all 0x1190C 0x11913,
   .all 0x11915 0x11916, .all 0x11918 0x1192F, .alternate 0x1193F 0x11941, .all 0x119A0 0x119A7,
   .all 0x119AA 0x119D0, .alternate 0x119E1 0x119E3, .one 0x11A00, .all 0x11A0B 0x11A32,
   .one 0x11A3A, .one 0x11A50, .all 0x11A5C 0x11A89, .one 0x11A9D, .all 0x11AB0 0x11AF8,
   .all 0x11BC0 0x11BE0, .all 0x11C00 0x11C08, .all 0x11C0A 0x11C2E, .one 0x11C40,
   .all 0x11C72 0x11C8F, .all 0x11D00 0x11D06, .all 0x11D08 0x11D09, .all 0x11D0B 0x11D30,
   .one 0x11D46, .all 0x11D60 0x11D65, .all 0x11D67 0x11D68, .all 0x11D6A 0x11D89, .one 0x11D98,
   .all 0x11EE0 0x11EF2, .one 0x11F02, .all 0x11F04 0x11F10, .all 0x11F12 0x11F33, .one 0x11FB0,
   .all 0x12000 0x12399, .all 0x12480 0x12543, .all 0x12F90 0x12FF0, .all 0x13000 0x1342F,
   .all 0x13441 0x13446, .all 0x13460 0x143FA, .all 0x14400 0x14646, .all 0x16100 0x1611D,
   .all 0x16800 0x16A38, .all 0x16A40 0x16A5E, .all 0x16A70 0x16ABE, .all 0x16AD0 0x16AED,
   .all 0x16B00 0x16B2F, .all 0x16B63 0x16B77, .all 0x16B7D 0x16B8F, .all 0x16D43 0x16D6A,
   .all 0x16F00 0x16F4A, .one 0x16F50, .all 0x17000 0x187F7, .all 0x18800 0x18CD5,
   .all 0x18CFF 0x18D08, .all 0x1B000 0x1B122, .one 0x1B132, .all 0x1B150 0x1B152, .one 0x1B155,
   .all 0x1B164 0x1B167, .all 0x1B170 0x1B2FB, .all 0x1BC00 0x1BC6A, .all 0x1BC70 0x1BC7C,
   .all 0x1BC80 0x1BC88, .all 0x1BC90 0x1BC99, .one 0x1DF0A, .all 0x1E100 0x1E12C, .one 0x1E14E,
   .all 0x1E290 0x1E2AD, .all 0x1E2C0 0x1E2EB, .all 0x1E4D0 0x1E4EA, .all 0x1E5D0 0x1E5ED,
   .one 0x1E5F0, .all 0x1E7E0 0x1E7E6, .all 0x1E7E8 0x1E7EB, .all 0x1E7ED 0x1E7EE,
   .all 0x1E7F0 0x1E7FE, .all 0x1E800 0x1E8C4, .all 0x1EE00 0x1EE03, .all 0x1EE05 0x1EE1F,
   .all 0x1EE21 0x1EE22, .one 0x1EE24, .one 0x1EE27, .all 0x1EE29 0x1EE32, .all 0x1EE34 0x1EE37,
   .alternate 0x1EE39 0x1EE3B, .one 0x1EE42, .alternate 0x1EE47 0x1EE4B, .all 0x1EE4D 0x1EE4F,
   .all 0x1EE51 0x1EE52, .one 0x1EE54, .alternate 0x1EE57 0x1EE5F, .all 0x1EE61 0x1EE62,
   .one 0x1EE64, .all 0x1EE67 0x1EE6A, .all 0x1EE6C 0x1EE72, .all 0x1EE74 0x1EE77,
   .all 0x1EE79 0x1EE7C, .one 0x1EE7E, .all 0x1EE80 0x1EE89, .all 0x1EE8B 0x1EE9B,
   .all 0x1EEA1 0x1EEA3, .all 0x1EEA5 0x1EEA9, .all 0x1EEAB 0x1EEBB, .all 0x20000 0x2A6DF,
   .all 0x2A700 0x2B739, .all 0x2B740 0x2B81D, .all 0x2B820 0x2CEA1, .all 0x2CEB0 0x2EBE0,
   .all 0x2EBF0 0x2EE5D, .all 0x2F800 0x2FA1D, .all 0x30000 0x3134A, .all 0x31350 0x323AF]

def nonspacingMarkRuns : List Run :=
  [.all 0x0300 0x036F, .all 0x0483 0x0487, .all 0x0591 0x05BD, .one 0x05BF, .all 0x05C1 0x05C2,
   .all 0x05C4 0x05C5, .one 0x05C7, .all 0x0610 0x061A, .all 0x064B 0x065F, .one 0x0670,
   .all 0x06D6 0x06DC, .all 0x06DF 0x06E4, .all 0x06E7 0x06E8, .all 0x06EA 0x06ED, .one 0x0711,
   .all 0x0730 0x074A, .all 0x07A6 0x07B0, .all 0x07EB 0x07F3, .one 0x07FD, .all 0x0816 0x0819,
   .all 0x081B 0x0823, .all 0x0825 0x0827, .all 0x0829 0x082D, .all 0x0859 0x085B,
   .all 0x0897 0x089F, .all 0x08CA 0x08E1, .all 0x08E3 0x0902, .alternate 0x093A 0x093C,
   .all 0x0941 0x0948, .one 0x094D, .all 0x0951 0x0957, .all 0x0962 0x0963, .one 0x0981,
   .one 0x09BC, .all 0x09C1 0x09C4, .one 0x09CD, .all 0x09E2 0x09E3, .one 0x09FE,
   .all 0x0A01 0x0A02, .one 0x0A3C, .all 0x0A41 0x0A42, .all 0x0A47 0x0A48, .all 0x0A4B 0x0A4D,
   .one 0x0A51, .all 0x0A70 0x0A71, .one 0x0A75, .all 0x0A81 0x0A82, .one 0x0ABC,
   .all 0x0AC1 0x0AC5, .all 0x0AC7 0x0AC8, .one 0x0ACD, .all 0x0AE2 0x0AE3, .all 0x0AFA 0x0AFF,
   .one 0x0B01, .one 0x0B3C, .one 0x0B3F, .all 0x0B41 0x0B44, .one 0x0B4D, .all 0x0B55 0x0B56,
   .all 0x0B62 0x0B63, .one 0x0B82, .one 0x0BC0, .one 0x0BCD, .one 0x0C00, .one 0x0C04,
   .one 0x0C3C, .all 0x0C3E 0x0C40, .all 0x0C46 0x0C48, .all 0x0C4A 0x0C4D, .all 0x0C55 0x0C56,
   .all 0x0C62 0x0C63, .one 0x0C81, .one 0x0CBC, .one 0x0CBF, .one 0x0CC6, .all 0x0CCC 0x0CCD,
   .all 0x0CE2 0x0CE3, .all 0x0D00 0x0D01, .all 0x0D3B 0x0D3C, .all 0x0D41 0x0D44, .one 0x0D4D,
   .all 0x0D62 0x0D63, .one 0x0D81, .one 0x0DCA, .all 0x0DD2 0x0DD4, .one 0x0DD6, .one 0x0E31,
   .all 0x0E34 0x0E3A, .all 0x0E47 0x0E4E, .one 0x0EB1, .all 0x0EB4 0x0EBC, .all 0x0EC8 0x0ECE,
   .all 0x0F18 0x0F19, .alternate 0x0F35 0x0F39, .all 0x0F71 0x0F7E, .all 0x0F80 0x0F84,
   .all 0x0F86 0x0F87, .all 0x0F8D 0x0F97, .all 0x0F99 0x0FBC, .one 0x0FC6, .all 0x102D 0x1030,
   .all 0x1032 0x1037, .all 0x1039 0x103A, .all 0x103D 0x103E, .all 0x1058 0x1059,
   .all 0x105E 0x1060, .all 0x1071 0x1074, .one 0x1082, .all 0x1085 0x1086, .one 0x108D,
   .one 0x109D, .all 0x135D 0x135F, .all 0x1712 0x1714, .all 0x1732 0x1733, .all 0x1752 0x1753,
   .all 0x1772 0x1773, .all 0x17B4 0x17B5, .all 0x17B7 0x17BD, .one 0x17C6, .all 0x17C9 0x17D3,
   .one 0x17DD, .all 0x180B 0x180D, .one 0x180F, .all 0x1885 0x1886, .one 0x18A9,
   .all 0x1920 0x1922, .all 0x1927 0x1928, .one 0x1932, .all 0x1939 0x193B, .all 0x1A17 0x1A18,
   .one 0x1A1B, .one 0x1A56, .all 0x1A58 0x1A5E, .alternate 0x1A60 0x1A62, .all 0x1A65 0x1A6C,
   .all 0x1A73 0x1A7C, .one 0x1A7F, .all 0x1AB0 0x1ABD, .all 0x1ABF 0x1ACE, .all 0x1B00 0x1B03,
   .one 0x1B34, .all 0x1B36 0x1B3A, .one 0x1B3C, .one 0x1B42, .all 0x1B6B 0x1B73,
   .all 0x1B80 0x1B81, .all 0x1BA2 0x1BA5, .all 0x1BA8 0x1BA9, .all 0x1BAB 0x1BAD, .one 0x1BE6,
   .all 0x1BE8 0x1BE9, .one 0x1BED, .all 0x1BEF 0x1BF1, .all 0x1C2C 0x1C33, .all 0x1C36 0x1C37,
   .all 0x1CD0 0x1CD2, .all 0x1CD4 0x1CE0, .all 0x1CE2 0x1CE8, .one 0x1CED, .one 0x1CF4,
   .all 0x1CF8 0x1CF9, .all 0x1DC0 0x1DFF, .all 0x20D0 0x20DC, .one 0x20E1, .all 0x20E5 0x20F0,
   .all 0x2CEF 0x2CF1, .one 0x2D7F, .all 0x2DE0 0x2DFF, .all 0x302A 0x302D, .all 0x3099 0x309A,
   .one 0xA66F, .all 0xA674 0xA67D, .all 0xA69E 0xA69F, .all 0xA6F0 0xA6F1, .one 0xA802,
   .one 0xA806, .one 0xA80B, .all 0xA825 0xA826, .one 0xA82C, .all 0xA8C4 0xA8C5,
   .all 0xA8E0 0xA8F1, .one 0xA8FF, .all 0xA926 0xA92D, .all 0xA947 0xA951, .all 0xA980 0xA982,
   .one 0xA9B3, .all 0xA9B6 0xA9B9, .all 0xA9BC 0xA9BD, .one 0xA9E5, .all 0xAA29 0xAA2E,
   .all 0xAA31 0xAA32, .all 0xAA35 0xAA36, .one 0xAA43, .one 0xAA4C, .one 0xAA7C, .one 0xAAB0,
   .all 0xAAB2 0xAAB4, .all 0xAAB7 0xAAB8, .all 0xAABE 0xAABF, .one 0xAAC1, .all 0xAAEC 0xAAED,
   .one 0xAAF6, .one 0xABE5, .one 0xABE8, .one 0xABED, .one 0xFB1E, .all 0xFE00 0xFE0F,
   .all 0xFE20 0xFE2F, .one 0x101FD, .one 0x102E0, .all 0x10376 0x1037A, .all 0x10A01 0x10A03,
   .all 0x10A05 0x10A06, .all 0x10A0C 0x10A0F, .all 0x10A38 0x10A3A, .one 0x10A3F,
   .all 0x10AE5 0x10AE6, .all 0x10D24 0x10D27, .all 0x10D69 0x10D6D, .all 0x10EAB 0x10EAC,
   .all 0x10EFC 0x10EFF, .all 0x10F46 0x10F50, .all 0x10F82 0x10F85, .one 0x11001,
   .all 0x11038 0x11046, .one 0x11070, .all 0x11073 0x11074, .all 0x1107F 0x11081,
   .all 0x110B3 0x110B6, .all 0x110B9 0x110BA, .one 0x110C2, .all 0x11100 0x11102,
   .all 0x11127 0x1112B, .all 0x1112D 0x11134, .one 0x11173, .all 0x11180 0x11181,
   .all 0x111B6 0x111BE, .all 0x111C9 0x111CC, .one 0x111CF, .all 0x1122F 0x11231, .one 0x11234,
   .all 0x11236 0x11237, .one 0x1123E, .one 0x11241, .one 0x112DF, .all 0x112E3 0x112EA,
   .all 0x11300 0x11301, .all 0x1133B 0x1133C, .one 0x11340, .all 0x11366 0x1136C,
   .all 0x11370 0x11374, .all 0x113BB 0x113C0, .alternate 0x113CE 0x113D2, .all 0x113E1 0x113E2,
   .all 0x11438 0x1143F, .all 0x11442 0x11444, .one 0x11446, .one 0x1145E, .all 0x114B3 0x114B8,
   .one 0x114BA, .all 0x114BF 0x114C0, .all 0x114C2 0x114C3, .all 0x115B2 0x115B5,
   .all 0x115BC 0x115BD, .all 0x115BF 0x115C0, .all 0x115DC 0x115DD, .all 0x11633 0x1163A,
   .one 0x1163D, .all 0x1163F 0x11640, .alternate 0x116AB 0x116AD, .all 0x116B0 0x116B5,
   .one 0x116B7, .alternate 0x1171D 0x1171F, .all 0x11722 0x11725, .all 0x11727 0x1172B,
   .all 0x1182F 0x11837, .all 0x11839 0x1183A, .all 0x1193B 0x1193C, .one 0x1193E, .one 0x11943,
   .all 0x119D4 0x119D7, .all 0x119DA 0x119DB, .one 0x119E0, .all 0x11A01 0x11A0A,
   .all 0x11A33 0x11A38, .all 0x11A3B 0x11A3E, .one 0x11A47, .all 0x11A51 0x11A56,
   .all 0x11A59 0x11A5B, .all 0x11A8A 0x11A96, .all 0x11A98 0x11A99, .all 0x11C30 0x11C36,
   .all 0x11C38 0x11C3D, .one 0x11C3F, .all 0x11C92 0x11CA7, .all 0x11CAA 0x11CB0,
   .all 0x11CB2 0x11CB3, .all 0x11CB5 0x11CB6, .all 0x11D31 0x11D36, .one 0x11D3A,
   .all 0x11D3C 0x11D3D, .all 0x11D3F 0x11D45, .one 0x11D47, .all 0x11D90 0x11D91,
   .alternate 0x11D95 0x11D97, .all 0x11EF3 0x11EF4, .all 0x11F00 0x11F01, .all 0x11F36 0x11F3A,
   .alternate 0x11F40 0x11F42, .one 0x11F5A, .one 0x13440, .all 0x13447 0x13455,
   .all 0x1611E 0x16129, .all 0x1612D 0x1612F, .all 0x16AF0 0x16AF4, .all 0x16B30 0x16B36,
   .one 0x16F4F, .all 0x16F8F 0x16F92, .one 0x16FE4, .all 0x1BC9D 0x1BC9E, .all 0x1CF00 0x1CF2D,
   .all 0x1CF30 0x1CF46, .all 0x1D167 0x1D169, .all 0x1D17B 0x1D182, .all 0x1D185 0x1D18B,
   .all 0x1D1AA 0x1D1AD, .all 0x1D242 0x1D244, .all 0x1DA00 0x1DA36, .all 0x1DA3B 0x1DA6C,
   .one 0x1DA75, .one 0x1DA84, .all 0x1DA9B 0x1DA9F, .all 0x1DAA1 0x1DAAF, .all 0x1E000 0x1E006,
   .all 0x1E008 0x1E018, .all 0x1E01B 0x1E021, .all 0x1E023 0x1E024, .all 0x1E026 0x1E02A,
   .one 0x1E08F, .all 0x1E130 0x1E136, .one 0x1E2AE, .all 0x1E2EC 0x1E2EF, .all 0x1E4EC 0x1E4EF,
   .all 0x1E5EE 0x1E5EF, .all 0x1E8D0 0x1E8D6, .all 0x1E944 0x1E94A, .all 0xE0100 0xE01EF]

def spacingMarkRuns : List Run :=
  [.one 0x0903, .one 0x093B, .all 0x093E 0x0940, .all 0x0949 0x094C, .all 0x094E 0x094F,
   .all 0x0982 0x0983, .all 0x09BE 0x09C0, .all 0x09C7 0x09C8, .all 0x09CB 0x09CC, .one 0x09D7,
   .one 0x0A03, .all 0x0A3E 0x0A40, .one 0x0A83, .all 0x0ABE 0x0AC0, .one 0x0AC9,
   .all 0x0ACB 0x0ACC, .all 0x0B02 0x0B03, .alternate 0x0B3E 0x0B40, .all 0x0B47 0x0B48,
   .all 0x0B4B 0x0B4C, .one 0x0B57, .all 0x0BBE 0x0BBF, .all 0x0BC1 0x0BC2, .all 0x0BC6 0x0BC8,
   .all 0x0BCA 0x0BCC, .one 0x0BD7, .all 0x0C01 0x0C03, .all 0x0C41 0x0C44, .all 0x0C82 0x0C83,
   .one 0x0CBE, .all 0x0CC0 0x0CC4, .all 0x0CC7 0x0CC8, .all 0x0CCA 0x0CCB, .all 0x0CD5 0x0CD6,
   .one 0x0CF3, .all 0x0D02 0x0D03, .all 0x0D3E 0x0D40, .all 0x0D46 0x0D48, .all 0x0D4A 0x0D4C,
   .one 0x0D57, .all 0x0D82 0x0D83, .all 0x0DCF 0x0DD1, .all 0x0DD8 0x0DDF, .all 0x0DF2 0x0DF3,
   .all 0x0F3E 0x0F3F, .one 0x0F7F, .all 0x102B 0x102C, .one 0x1031, .one 0x1038,
   .all 0x103B 0x103C, .all 0x1056 0x1057, .all 0x1062 0x1064, .all 0x1067 0x106D,
   .all 0x1083 0x1084, .all 0x1087 0x108C, .one 0x108F, .all 0x109A 0x109C, .one 0x1715,
   .one 0x1734, .one 0x17B6, .all 0x17BE 0x17C5, .all 0x17C7 0x17C8, .all 0x1923 0x1926,
   .all 0x1929 0x192B, .all 0x1930 0x1931, .all 0x1933 0x1938, .all 0x1A19 0x1A1A,
   .alternate 0x1A55 0x1A57, .one 0x1A61, .all 0x1A63 0x1A64, .all 0x1A6D 0x1A72, .one 0x1B04,
   .one 0x1B35, .one 0x1B3B, .all 0x1B3D 0x1B41, .all 0x1B43 0x1B44, .one 0x1B82, .one 0x1BA1,
   .all 0x1BA6 0x1BA7, .one 0x1BAA, .one 0x1BE7, .all 0x1BEA 0x1BEC, .one 0x1BEE,
   .all 0x1BF2 0x1BF3, .all 0x1C24 0x1C2B, .all 0x1C34 0x1C35, .one 0x1CE1, .one 0x1CF7,
   .all 0x302E 0x302F, .all 0xA823 0xA824, .one 0xA827, .all 0xA880 0xA881, .all 0xA8B4 0xA8C3,
   .all 0xA952 0xA953, .one 0xA983, .all 0xA9B4 0xA9B5, .all 0xA9BA 0xA9BB, .all 0xA9BE 0xA9C0,
   .all 0xAA2F 0xAA30, .all 0xAA33 0xAA34, .one 0xAA4D, .alternate 0xAA7B 0xAA7D, .one 0xAAEB,
   .all 0xAAEE 0xAAEF, .one 0xAAF5, .all 0xABE3 0xABE4, .all 0xABE6 0xABE7, .all 0xABE9 0xABEA,
   .one 0xABEC, .alternate 0x11000 0x11002, .one 0x11082, .all 0x110B0 0x110B2,
   .all 0x110B7 0x110B8, .one 0x1112C, .all 0x11145 0x11146, .one 0x11182, .all 0x111B3 0x111B5,
   .all 0x111BF 0x111C0, .one 0x111CE, .all 0x1122C 0x1122E, .all 0x11232 0x11233, .one 0x11235,
   .all 0x112E0 0x112E2, .all 0x11302 0x11303, .all 0x1133E 0x1133F, .all 0x11341 0x11344,
   .all 0x11347 0x11348, .all 0x1134B 0x1134D, .one 0x11357, .all 0x11362 0x11363,
   .all 0x113B8 0x113BA, .one 0x113C2, .one 0x113C5, .all 0x113C7 0x113CA, .all 0x113CC 0x113CD,
   .one 0x113CF, .all 0x11435 0x11437, .all 0x11440 0x11441, .one 0x11445, .all 0x114B0 0x114B2,
   .one 0x114B9, .all 0x114BB 0x114BE, .one 0x114C1, .all 0x115AF 0x115B1, .all 0x115B8 0x115BB,
   .one 0x115BE, .all 0x11630 0x11632, .all 0x1163B 0x1163C, .one 0x1163E, .one 0x116AC,
   .all 0x116AE 0x116AF, .one 0x116B6, .one 0x1171E, .all 0x11720 0x11721, .one 0x11726,
   .all 0x1182C 0x1182E, .one 0x11838, .all 0x11930 0x11935, .all 0x11937 0x11938, .one 0x1193D,
   .alternate 0x11940 0x11942, .all 0x119D1 0x119D3, .all 0x119DC 0x119DF, .one 0x119E4,
   .one 0x11A39, .all 0x11A57 0x11A58, .one 0x11A97, .one 0x11C2F, .one 0x11C3E, .one 0x11CA9,
   .one 0x11CB1, .one 0x11CB4, .all 0x11D8A 0x11D8E, .all 0x11D93 0x11D94, .one 0x11D96,
   .all 0x11EF5 0x11EF6, .one 0x11F03, .all 0x11F34 0x11F35, .all 0x11F3E 0x11F3F, .one 0x11F41,
   .all 0x1612A 0x1612C, .all 0x16F51 0x16F87, .all 0x16FF0 0x16FF1, .all 0x1D165 0x1D166,
   .all 0x1D16D 0x1D172]

def enclosingMarkRuns : List Run :=
  [.all 0x0488 0x0489, .one 0x1ABE, .all 0x20DD 0x20E0, .all 0x20E2 0x20E4, .all 0xA670 0xA672]

def decimalNumberRuns : List Run :=
  [.all 0x0030 0x0039, .all 0x0660 0x0669, .all 0x06F0 0x06F9, .all 0x07C0 0x07C9,
   .all 0x0966 0x096F, .all 0x09E6 0x09EF, .all 0x0A66 0x0A6F, .all 0x0AE6 0x0AEF,
   .all 0x0B66 0x0B6F, .all 0x0BE6 0x0BEF, .all 0x0C66 0x0C6F, .all 0x0CE6 0x0CEF,
   .all 0x0D66 0x0D6F, .all 0x0DE6 0x0DEF, .all 0x0E50 0x0E59, .all 0x0ED0 0x0ED9,
   .all 0x0F20 0x0F29, .all 0x1040 0x1049, .all 0x1090 0x1099, .all 0x17E0 0x17E9,
   .all 0x1810 0x1819, .all 0x1946 0x194F, .all 0x19D0 0x19D9, .all 0x1A80 0x1A89,
   .all 0x1A90 0x1A99, .all 0x1B50 0x1B59, .all 0x1BB0 0x1BB9, .all 0x1C40 0x1C49,
   .all 0x1C50 0x1C59, .all 0xA620 0xA629, .all 0xA8D0 0xA8D9, .all 0xA900 0xA909,
   .all 0xA9D0 0xA9D9, .all 0xA9F0 0xA9F9, .all 0xAA50 0xAA59, .all 0xABF0 0xABF9,
   .all 0xFF10 0xFF19, .all 0x104A0 0x104A9, .all 0x10D30 0x10D39, .all 0x10D40 0x10D49,
   .all 0x11066 0x1106F, .all 0x110F0 0x110F9, .all 0x11136 0x1113F, .all 0x111D0 0x111D9,
   .all 0x112F0 0x112F9, .all 0x11450 0x11459, .all 0x114D0 0x114D9, .all 0x11650 0x11659,
   .all 0x116C0 0x116C9, .all 0x116D0 0x116E3, .all 0x11730 0x11739, .all 0x118E0 0x118E9,
   .all 0x11950 0x11959, .all 0x11BF0 0x11BF9, .all 0x11C50 0x11C59, .all 0x11D50 0x11D59,
   .all 0x11DA0 0x11DA9, .all 0x11F50 0x11F59, .all 0x16130 0x16139, .all 0x16A60 0x16A69,
   .all 0x16AC0 0x16AC9, .all 0x16B50 0x16B59, .all 0x16D70 0x16D79, .all 0x1CCF0 0x1CCF9,
   .all 0x1D7CE 0x1D7FF, .all 0x1E140 0x1E149, .all 0x1E2F0 0x1E2F9, .all 0x1E4F0 0x1E4F9,
   .all 0x1E5F1 0x1E5FA, .all 0x1E950 0x1E959, .all 0x1FBF0 0x1FBF9]

def letterNumberRuns : List Run :=
  [.all 0x16EE 0x16F0, .all 0x2160 0x2182, .all 0x2185 0x2188, .one 0x3007, .all 0x3021 0x3029,
   .all 0x3038 0x303A, .all 0xA6E6 0xA6EF, .all 0x10140 0x10174, .one 0x10341, .one 0x1034A,
   .all 0x103D1 0x103D5, .all 0x12400 0x1246E]

def otherNumberRuns : List Run :=
  [.all 0x00B2 0x00B3, .one 0x00B9, .all 0x00BC 0x00BE, .all 0x09F4 0x09F9, .all 0x0B72 0x0B77,
   .all 0x0BF0 0x0BF2, .all 0x0C78 0x0C7E, .all 0x0D58 0x0D5E, .all 0x0D70 0x0D78,
   .all 0x0F2A 0x0F33, .all 0x1369 0x137C, .all 0x17F0 0x17F9, .one 0x19DA, .one 0x2070,
   .all 0x2074 0x2079, .all 0x2080 0x2089, .all 0x2150 0x215F, .one 0x2189, .all 0x2460 0x249B,
   .all 0x24EA 0x24FF, .all 0x2776 0x2793, .one 0x2CFD, .all 0x3192 0x3195, .all 0x3220 0x3229,
   .all 0x3248 0x324F, .all 0x3251 0x325F, .all 0x3280 0x3289, .all 0x32B1 0x32BF,
   .all 0xA830 0xA835, .all 0x10107 0x10133, .all 0x10175 0x10178, .all 0x1018A 0x1018B,
   .all 0x102E1 0x102FB, .all 0x10320 0x10323, .all 0x10858 0x1085F, .all 0x10879 0x1087F,
   .all 0x108A7 0x108AF, .all 0x108FB 0x108FF, .all 0x10916 0x1091B, .all 0x109BC 0x109BD,
   .all 0x109C0 0x109CF, .all 0x109D2 0x109FF, .all 0x10A40 0x10A48, .all 0x10A7D 0x10A7E,
   .all 0x10A9D 0x10A9F, .all 0x10AEB 0x10AEF, .all 0x10B58 0x10B5F, .all 0x10B78 0x10B7F,
   .all 0x10BA9 0x10BAF, .all 0x10CFA 0x10CFF, .all 0x10E60 0x10E7E, .all 0x10F1D 0x10F26,
   .all 0x10F51 0x10F54, .all 0x10FC5 0x10FCB, .all 0x11052 0x11065, .all 0x111E1 0x111F4,
   .all 0x1173A 0x1173B, .all 0x118EA 0x118F2, .all 0x11C5A 0x11C6C, .all 0x11FC0 0x11FD4,
   .all 0x16B5B 0x16B61, .all 0x16E80 0x16E96, .all 0x1D2C0 0x1D2D3, .all 0x1D2E0 0x1D2F3,
   .all 0x1D360 0x1D378, .all 0x1E8C7 0x1E8CF, .all 0x1EC71 0x1ECAB, .all 0x1ECAD 0x1ECAF,
   .all 0x1ECB1 0x1ECB4, .all 0x1ED01 0x1ED2D, .all 0x1ED2F 0x1ED3D, .all 0x1F100 0x1F10C]

def connectorPunctuationRuns : List Run :=
  [.one 0x005F, .all 0x203F 0x2040, .one 0x2054, .all 0xFE33 0xFE34, .all 0xFE4D 0xFE4F,
   .one 0xFF3F]

def dashPunctuationRuns : List Run :=
  [.one 0x002D, .one 0x058A, .one 0x05BE, .one 0x1400, .one 0x1806, .all 0x2010 0x2015,
   .one 0x2E17, .one 0x2E1A, .all 0x2E3A 0x2E3B, .one 0x2E40, .one 0x2E5D, .one 0x301C,
   .one 0x3030, .one 0x30A0, .all 0xFE31 0xFE32, .one 0xFE58, .one 0xFE63, .one 0xFF0D,
   .one 0x10D6E, .one 0x10EAD]

def openPunctuationRuns : List Run :=
  [.one 0x0028, .one 0x005B, .one 0x007B, .alternate 0x0F3A 0x0F3C, .one 0x169B, .one 0x201A,
   .one 0x201E, .one 0x2045, .one 0x207D, .one 0x208D, .alternate 0x2308 0x230A, .one 0x2329,
   .alternate 0x2768 0x2774, .one 0x27C5, .alternate 0x27E6 0x27EE, .alternate 0x2983 0x2997,
   .alternate 0x29D8 0x29DA, .one 0x29FC, .alternate 0x2E22 0x2E28, .one 0x2E42,
   .alternate 0x2E55 0x2E5B, .alternate 0x3008 0x3010, .alternate 0x3014 0x301A, .one 0x301D,
   .one 0xFD3F, .one 0xFE17, .alternate 0xFE35 0xFE43, .one 0xFE47, .alternate 0xFE59 0xFE5D,
   .one 0xFF08, .one 0xFF3B, .one 0xFF5B, .one 0xFF5F, .one 0xFF62]

def closePunctuationRuns : List Run :=
  [.one 0x0029, .one 0x005D, .one 0x007D, .alternate 0x0F3B 0x0F3D, .one 0x169C, .one 0x2046,
   .one 0x207E, .one 0x208E, .alternate 0x2309 0x230B, .one 0x232A, .alternate 0x2769 0x2775,
   .one 0x27C6, .alternate 0x27E7 0x27EF, .alternate 0x2984 0x2998, .alternate 0x29D9 0x29DB,
   .one 0x29FD, .alternate 0x2E23 0x2E29, .alternate 0x2E56 0x2E5C, .alternate 0x3009 0x3011,
   .alternate 0x3015 0x301B, .all 0x301E 0x301F, .one 0xFD3E, .one 0xFE18,
   .alternate 0xFE36 0xFE44, .one 0xFE48, .alternate 0xFE5A 0xFE5E, .one 0xFF09, .one 0xFF3D,
   .one 0xFF5D, .one 0xFF60, .one 0xFF63]

def initialPunctuationRuns : List Run :=
  [.one 0x00AB, .one 0x2018, .all 0x201B 0x201C, .one 0x201F, .one 0x2039,
   .alternate 0x2E02 0x2E04, .one 0x2E09, .one 0x2E0C, .one 0x2E1C, .one 0x2E20]

def finalPunctuationRuns : List Run :=
  [.one 0x00BB, .one 0x2019, .one 0x201D, .one 0x203A, .alternate 0x2E03 0x2E05, .one 0x2E0A,
   .one 0x2E0D, .one 0x2E1D, .one 0x2E21]

def otherPunctuationRuns : List Run :=
  [.all 0x0021 0x0023, .all 0x0025 0x0027, .alternate 0x002A 0x002C, .all 0x002E 0x002F,
   .all 0x003A 0x003B, .all 0x003F 0x0040, .one 0x005C, .one 0x00A1, .one 0x00A7,
   .all 0x00B6 0x00B7, .one 0x00BF, .one 0x037E, .one 0x0387, .all 0x055A 0x055F, .one 0x0589,
   .one 0x05C0, .one 0x05C3, .one 0x05C6, .all 0x05F3 0x05F4, .all 0x0609 0x060A,
   .all 0x060C 0x060D, .one 0x061B, .all 0x061D 0x061F, .all 0x066A 0x066D, .one 0x06D4,
   .all 0x0700 0x070D, .all 0x07F7 0x07F9, .all 0x0830 0x083E, .one 0x085E, .all 0x0964 0x0965,
   .one 0x0970, .one 0x09FD, .one 0x0A76, .one 0x0AF0, .one 0x0C77, .one 0x0C84, .one 0x0DF4,
   .one 0x0E4F, .all 0x0E5A 0x0E5B, .all 0x0F04 0x0F12, .one 0x0F14, .one 0x0F85,
   .all 0x0FD0 0x0FD4, .all 0x0FD9 0x0FDA, .all 0x104A 0x104F, .one 0x10FB, .all 0x1360 0x1368,
   .one 0x166E, .all 0x16EB 0x16ED, .all 0x1735 0x1736, .all 0x17D4 0x17D6, .all 0x17D8 0x17DA,
   .all 0x1800 0x1805, .all 0x1807 0x180A, .all 0x1944 0x1945, .all 0x1A1E 0x1A1F,
   .all 0x1AA0 0x1AA6, .all 0x1AA8 0x1AAD, .all 0x1B4E 0x1B4F, .all 0x1B5A 0x1B60,
   .all 0x1B7D 0x1B7F, .all 0x1BFC 0x1BFF, .all 0x1C3B 0x1C3F, .all 0x1C7E 0x1C7F,
   .all 0x1CC0 0x1CC7, .one 0x1CD3, .all 0x2016 0x2017, .all 0x2020 0x2027, .all 0x2030 0x2038,
   .all 0x203B 0x203E, .all 0x2041 0x2043, .all 0x2047 0x2051, .one 0x2053, .all 0x2055 0x205E,
   .all 0x2CF9 0x2CFC, .all 0x2CFE 0x2CFF, .one 0x2D70, .all 0x2E00 0x2E01, .all 0x2E06 0x2E08,
   .one 0x2E0B, .all 0x2E0E 0x2E16, .all 0x2E18 0x2E19, .one 0x2E1B, .all 0x2E1E 0x2E1F,
   .all 0x2E2A 0x2E2E, .all 0x2E30 0x2E39, .all 0x2E3C 0x2E3F, .one 0x2E41, .all 0x2E43 0x2E4F,
   .all 0x2E52 0x2E54, .all 0x3001 0x3003, .one 0x303D, .one 0x30FB, .all 0xA4FE 0xA4FF,
   .all 0xA60D 0xA60F, .one 0xA673, .one 0xA67E, .all 0xA6F2 0xA6F7, .all 0xA874 0xA877,
   .all 0xA8CE 0xA8CF, .all 0xA8F8 0xA8FA, .one 0xA8FC, .all 0xA92E 0xA92F, .one 0xA95F,
   .all 0xA9C1 0xA9CD, .all 0xA9DE 0xA9DF, .all 0xAA5C 0xAA5F, .all 0xAADE 0xAADF,
   .all 0xAAF0 0xAAF1, .one 0xABEB, .all 0xFE10 0xFE16, .one 0xFE19, .one 0xFE30,
   .all 0xFE45 0xFE46, .all 0xFE49 0xFE4C, .all 0xFE50 0xFE52, .all 0xFE54 0xFE57,
   .all 0xFE5F 0xFE61, .one 0xFE68, .all 0xFE6A 0xFE6B, .all 0xFF01 0xFF03, .all 0xFF05 0xFF07,
   .alternate 0xFF0A 0xFF0C, .all 0xFF0E 0xFF0F, .all 0xFF1A 0xFF1B, .all 0xFF1F 0xFF20,
   .one 0xFF3C, .one 0xFF61, .all 0xFF64 0xFF65, .all 0x10100 0x10102, .one 0x1039F, .one 0x103D0,
   .one 0x1056F, .one 0x10857, .one 0x1091F, .one 0x1093F, .all 0x10A50 0x10A58, .one 0x10A7F,
   .all 0x10AF0 0x10AF6, .all 0x10B39 0x10B3F, .all 0x10B99 0x10B9C, .all 0x10F55 0x10F59,
   .all 0x10F86 0x10F89, .all 0x11047 0x1104D, .all 0x110BB 0x110BC, .all 0x110BE 0x110C1,
   .all 0x11140 0x11143, .all 0x11174 0x11175, .all 0x111C5 0x111C8, .one 0x111CD, .one 0x111DB,
   .all 0x111DD 0x111DF, .all 0x11238 0x1123D, .one 0x112A9, .all 0x113D4 0x113D5,
   .all 0x113D7 0x113D8, .all 0x1144B 0x1144F, .all 0x1145A 0x1145B, .one 0x1145D, .one 0x114C6,
   .all 0x115C1 0x115D7, .all 0x11641 0x11643, .all 0x11660 0x1166C, .one 0x116B9,
   .all 0x1173C 0x1173E, .one 0x1183B, .all 0x11944 0x11946, .one 0x119E2, .all 0x11A3F 0x11A46,
   .all 0x11A9A 0x11A9C, .all 0x11A9E 0x11AA2, .all 0x11B00 0x11B09, .one 0x11BE1,
   .all 0x11C41 0x11C45, .all 0x11C70 0x11C71, .all 0x11EF7 0x11EF8, .all 0x11F43 0x11F4F,
   .one 0x11FFF, .all 0x12470 0x12474, .all 0x12FF1 0x12FF2, .all 0x16A6E 0x16A6F, .one 0x16AF5,
   .all 0x16B37 0x16B3B, .one 0x16B44, .all 0x16D6D 0x16D6F, .all 0x16E97 0x16E9A, .one 0x16FE2,
   .one 0x1BC9F, .all 0x1DA87 0x1DA8B, .one 0x1E5FF, .all 0x1E95E 0x1E95F]

def mathSymbolRuns : List Run :=
  [.one 0x002B, .all 0x003C 0x003E, .alternate 0x007C 0x007E, .one 0x00AC, .one 0x00B1,
   .one 0x00D7, .one 0x00F7, .one 0x03F6, .all 0x0606 0x0608, .one 0x2044, .one 0x2052,
   .all 0x207A 0x207C, .all 0x208A 0x208C, .one 0x2118, .all 0x2140 0x2144, .one 0x214B,
   .all 0x2190 0x2194, .all 0x219A 0x219B, .one 0x21A0, .one 0x21A3, .one 0x21A6, .one 0x21AE,
   .all 0x21CE 0x21CF, .alternate 0x21D2 0x21D4, .all 0x21F4 0x22FF, .all 0x2320 0x2321,
   .one 0x237C, .all 0x239B 0x23B3, .all 0x23DC 0x23E1, .one 0x25B7, .one 0x25C1,
   .all 0x25F8 0x25FF, .one 0x266F, .all 0x27C0 0x27C4, .all 0x27C7 0x27E5, .all 0x27F0 0x27FF,
   .all 0x2900 0x2982, .all 0x2999 0x29D7, .all 0x29DC 0x29FB, .all 0x29FE 0x2AFF,
   .all 0x2B30 0x2B44, .all 0x2B47 0x2B4C, .one 0xFB29, .one 0xFE62, .all 0xFE64 0xFE66,
   .one 0xFF0B, .all 0xFF1C 0xFF1E, .alternate 0xFF5C 0xFF5E, .one 0xFFE2, .all 0xFFE9 0xFFEC,
   .all 0x10D8E 0x10D8F, .one 0x1D6C1, .one 0x1D6DB, .one 0x1D6FB, .one 0x1D715, .one 0x1D735,
   .one 0x1D74F, .one 0x1D76F, .one 0x1D789, .one 0x1D7A9, .one 0x1D7C3, .all 0x1EEF0 0x1EEF1]

def currencySymbolRuns : List Run :=
  [.one 0x0024, .all 0x00A2 0x00A5, .one 0x058F, .one 0x060B, .all 0x07FE 0x07FF,
   .all 0x09F2 0x09F3, .one 0x09FB, .one 0x0AF1, .one 0x0BF9, .one 0x0E3F, .one 0x17DB,
   .all 0x20A0 0x20C0, .one 0xA838, .one 0xFDFC, .one 0xFE69, .one 0xFF04, .all 0xFFE0 0xFFE1,
   .all 0xFFE5 0xFFE6, .all 0x11FDD 0x11FE0, .one 0x1E2FF, .one 0x1ECB0]

def modifierSymbolRuns : List Run :=
  [.alternate 0x005E 0x0060, .one 0x00A8, .one 0x00AF, .one 0x00B4, .one 0x00B8,
   .all 0x02C2 0x02C5, .all 0x02D2 0x02DF, .all 0x02E5 0x02EB, .one 0x02ED, .all 0x02EF 0x02FF,
   .one 0x0375, .all 0x0384 0x0385, .one 0x0888, .one 0x1FBD, .all 0x1FBF 0x1FC1,
   .all 0x1FCD 0x1FCF, .all 0x1FDD 0x1FDF, .all 0x1FED 0x1FEF, .all 0x1FFD 0x1FFE,
   .all 0x309B 0x309C, .all 0xA700 0xA716, .all 0xA720 0xA721, .all 0xA789 0xA78A, .one 0xAB5B,
   .all 0xAB6A 0xAB6B, .all 0xFBB2 0xFBC2, .alternate 0xFF3E 0xFF40, .one 0xFFE3,
   .all 0x1F3FB 0x1F3FF]

def otherSymbolRuns : List Run :=
  [.one 0x00A6, .one 0x00A9, .alternate 0x00AE 0x00B0, .one 0x0482, .all 0x058D 0x058E,
   .all 0x060E 0x060F, .one 0x06DE, .one 0x06E9, .all 0x06FD 0x06FE, .one 0x07F6, .one 0x09FA,
   .one 0x0B70, .all 0x0BF3 0x0BF8, .one 0x0BFA, .one 0x0C7F, .one 0x0D4F, .one 0x0D79,
   .all 0x0F01 0x0F03, .one 0x0F13, .all 0x0F15 0x0F17, .all 0x0F1A 0x0F1F,
   .alternate 0x0F34 0x0F38, .all 0x0FBE 0x0FC5, .all 0x0FC7 0x0FCC, .all 0x0FCE 0x0FCF,
   .all 0x0FD5 0x0FD8, .all 0x109E 0x109F, .all 0x1390 0x1399, .one 0x166D, .one 0x1940,
   .all 0x19DE 0x19FF, .all 0x1B61 0x1B6A, .all 0x1B74 0x1B7C, .all 0x2100 0x2101,
   .all 0x2103 0x2106, .all 0x2108 0x2109, .one 0x2114, .all 0x2116 0x2117, .all 0x211E 0x2123,
   .alternate 0x2125 0x2129, .one 0x212E, .all 0x213A 0x213B, .one 0x214A, .all 0x214C 0x214D,
   .one 0x214F, .all 0x218A 0x218B, .all 0x2195 0x2199, .all 0x219C 0x219F, .all 0x21A1 0x21A2,
   .all 0x21A4 0x21A5, .all 0x21A7 0x21AD, .all 0x21AF 0x21CD, .all 0x21D0 0x21D1, .one 0x21D3,
   .all 0x21D5 0x21F3, .all 0x2300 0x2307, .all 0x230C 0x231F, .all 0x2322 0x2328,
   .all 0x232B 0x237B, .all 0x237D 0x239A, .all 0x23B4 0x23DB, .all 0x23E2 0x2429,
   .all 0x2440 0x244A, .all 0x249C 0x24E9, .all 0x2500 0x25B6, .all 0x25B8 0x25C0,
   .all 0x25C2 0x25F7, .all 0x2600 0x266E, .all 0x2670 0x2767, .all 0x2794 0x27BF,
   .all 0x2800 0x28FF, .all 0x2B00 0x2B2F, .all 0x2B45 0x2B46, .all 0x2B4D 0x2B73,
   .all 0x2B76 0x2B95, .all 0x2B97 0x2BFF, .all 0x2CE5 0x2CEA, .all 0x2E50 0x2E51,
   .all 0x2E80 0x2E99, .all 0x2E9B 0x2EF3, .all 0x2F00 0x2FD5, .all 0x2FF0 0x2FFF, .one 0x3004,
   .all 0x3012 0x3013, .one 0x3020, .all 0x3036 0x3037, .all 0x303E 0x303F, .all 0x3190 0x3191,
   .all 0x3196 0x319F, .all 0x31C0 0x31E5, .one 0x31EF, .all 0x3200 0x321E, .all 0x322A 0x3247,
   .one 0x3250, .all 0x3260 0x327F, .all 0x328A 0x32B0, .all 0x32C0 0x33FF, .all 0x4DC0 0x4DFF,
   .all 0xA490 0xA4C6, .all 0xA828 0xA82B, .all 0xA836 0xA837, .one 0xA839, .all 0xAA77 0xAA79,
   .all 0xFD40 0xFD4F, .one 0xFDCF, .all 0xFDFD 0xFDFF, .one 0xFFE4, .one 0xFFE8,
   .all 0xFFED 0xFFEE, .all 0xFFFC 0xFFFD, .all 0x10137 0x1013F, .all 0x10179 0x10189,
   .all 0x1018C 0x1018E, .all 0x10190 0x1019C, .one 0x101A0, .all 0x101D0 0x101FC,
   .all 0x10877 0x10878, .one 0x10AC8, .one 0x1173F, .all 0x11FD5 0x11FDC, .all 0x11FE1 0x11FF1,
   .all 0x16B3C 0x16B3F, .one 0x16B45, .one 0x1BC9C, .all 0x1CC00 0x1CCEF, .all 0x1CD00 0x1CEB3,
   .all 0x1CF50 0x1CFC3, .all 0x1D000 0x1D0F5, .all 0x1D100 0x1D126, .all 0x1D129 0x1D164,
   .all 0x1D16A 0x1D16C, .all 0x1D183 0x1D184, .all 0x1D18C 0x1D1A9, .all 0x1D1AE 0x1D1EA,
   .all 0x1D200 0x1D241, .one 0x1D245, .all 0x1D300 0x1D356, .all 0x1D800 0x1D9FF,
   .all 0x1DA37 0x1DA3A, .all 0x1DA6D 0x1DA74, .all 0x1DA76 0x1DA83, .all 0x1DA85 0x1DA86,
   .one 0x1E14F, .one 0x1ECAC, .one 0x1ED2E, .all 0x1F000 0x1F02B, .all 0x1F030 0x1F093,
   .all 0x1F0A0 0x1F0AE, .all 0x1F0B1 0x1F0BF, .all 0x1F0C1 0x1F0CF, .all 0x1F0D1 0x1F0F5,
   .all 0x1F10D 0x1F1AD, .all 0x1F1E6 0x1F202, .all 0x1F210 0x1F23B, .all 0x1F240 0x1F248,
   .all 0x1F250 0x1F251, .all 0x1F260 0x1F265, .all 0x1F300 0x1F3FA, .all 0x1F400 0x1F6D7,
   .all 0x1F6DC 0x1F6EC, .all 0x1F6F0 0x1F6FC, .all 0x1F700 0x1F776, .all 0x1F77B 0x1F7D9,
   .all 0x1F7E0 0x1F7EB, .one 0x1F7F0, .all 0x1F800 0x1F80B, .all 0x1F810 0x1F847,
   .all 0x1F850 0x1F859, .all 0x1F860 0x1F887, .all 0x1F890 0x1F8AD, .all 0x1F8B0 0x1F8BB,
   .all 0x1F8C0 0x1F8C1, .all 0x1F900 0x1FA53, .all 0x1FA60 0x1FA6D, .all 0x1FA70 0x1FA7C,
   .all 0x1FA80 0x1FA89, .all 0x1FA8F 0x1FAC6, .all 0x1FACE 0x1FADC, .all 0x1FADF 0x1FAE9,
   .all 0x1FAF0 0x1FAF8, .all 0x1FB00 0x1FB92, .all 0x1FB94 0x1FBEF]

def spaceSeparatorRuns : List Run :=
  [.one 0x0020, .one 0x00A0, .one 0x1680, .all 0x2000 0x200A, .one 0x202F, .one 0x205F,
   .one 0x3000]

def lineSeparatorRuns : List Run :=
  [.one 0x2028]

def paragraphSeparatorRuns : List Run :=
  [.one 0x2029]

def controlRuns : List Run :=
  [.all 0x0000 0x001F, .all 0x007F 0x009F]

def formatRuns : List Run :=
  [.one 0x00AD, .all 0x0600 0x0605, .one 0x061C, .one 0x06DD, .one 0x070F, .all 0x0890 0x0891,
   .one 0x08E2, .one 0x180E, .all 0x200B 0x200F, .all 0x202A 0x202E, .all 0x2060 0x2064,
   .all 0x2066 0x206F, .one 0xFEFF, .all 0xFFF9 0xFFFB, .one 0x110BD, .one 0x110CD,
   .all 0x13430 0x1343F, .all 0x1BCA0 0x1BCA3, .all 0x1D173 0x1D17A, .one 0xE0001,
   .all 0xE0020 0xE007F]

def privateUseRuns : List Run :=
  [.all 0xE000 0xF8FF, .all 0xF0000 0xFFFFD, .all 0x100000 0x10FFFD]

/-- The runs of a category; `unassigned` is what no other category lists. -/
def Category.runs : Category → List Run
  | .uppercaseLetter => uppercaseLetterRuns
  | .lowercaseLetter => lowercaseLetterRuns
  | .titlecaseLetter => titlecaseLetterRuns
  | .modifierLetter => modifierLetterRuns
  | .otherLetter => otherLetterRuns
  | .nonspacingMark => nonspacingMarkRuns
  | .spacingMark => spacingMarkRuns
  | .enclosingMark => enclosingMarkRuns
  | .decimalNumber => decimalNumberRuns
  | .letterNumber => letterNumberRuns
  | .otherNumber => otherNumberRuns
  | .connectorPunctuation => connectorPunctuationRuns
  | .dashPunctuation => dashPunctuationRuns
  | .openPunctuation => openPunctuationRuns
  | .closePunctuation => closePunctuationRuns
  | .initialPunctuation => initialPunctuationRuns
  | .finalPunctuation => finalPunctuationRuns
  | .otherPunctuation => otherPunctuationRuns
  | .mathSymbol => mathSymbolRuns
  | .currencySymbol => currencySymbolRuns
  | .modifierSymbol => modifierSymbolRuns
  | .otherSymbol => otherSymbolRuns
  | .spaceSeparator => spaceSeparatorRuns
  | .lineSeparator => lineSeparatorRuns
  | .paragraphSeparator => paragraphSeparatorRuns
  | .control => controlRuns
  | .format => formatRuns
  | .privateUse => privateUseRuns
  | .unassigned => []

/-- Every character that has a category of its own. -/
def assignedSet : CharSet :=
  CharSet.unions (Category.assigned.map fun k => .ofRuns k.runs)

def Category.set : Category → CharSet
  | .unassigned => assignedSet.compl
  | k => .ofRuns k.runs

def categoriesSet (categories : List Category) : CharSet :=
  CharSet.unions (categories.map Category.set)

end RuleLexer.Unicode
