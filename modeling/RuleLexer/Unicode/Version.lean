import RuleLexer.CharSet

/-! The versions of the character database and the code points that each assigned first. -/

namespace RuleLexer.Unicode

structure Version where
  major : Nat
  minor : Nat
  deriving DecidableEq, Repr

namespace Version

/-- The names of a version: its numbers with a point between them, or after a `v`. -/
def names (v : Version) : List String :=
  [Nat.repr v.major ++ "." ++ Nat.repr v.minor, "v" ++ Nat.repr v.major ++ Nat.repr v.minor]

end Version

/-! ### Additions -/

def version1_1Runs : List Run :=
  [.all 0x0000 0x01F5, .all 0x01FA 0x0217, .all 0x0250 0x02A8, .all 0x02B0 0x02DE,
   .all 0x02E0 0x02E9, .all 0x0300 0x0345, .all 0x0360 0x0361, .all 0x0374 0x0375, .one 0x037A,
   .one 0x037E, .all 0x0384 0x038A, .one 0x038C, .all 0x038E 0x03A1, .all 0x03A3 0x03CE,
   .all 0x03D0 0x03D6, .alternate 0x03DA 0x03E0, .all 0x03E2 0x03F3, .all 0x0401 0x040C,
   .all 0x040E 0x044F, .all 0x0451 0x045C, .all 0x045E 0x0486, .all 0x0490 0x04C4,
   .all 0x04C7 0x04C8, .all 0x04CB 0x04CC, .all 0x04D0 0x04EB, .all 0x04EE 0x04F5,
   .all 0x04F8 0x04F9, .all 0x0531 0x0556, .all 0x0559 0x055F, .all 0x0561 0x0587, .one 0x0589,
   .all 0x05B0 0x05B9, .all 0x05BB 0x05C3, .all 0x05D0 0x05EA, .all 0x05F0 0x05F4, .one 0x060C,
   .one 0x061B, .one 0x061F, .all 0x0621 0x063A, .all 0x0640 0x0652, .all 0x0660 0x066D,
   .all 0x0670 0x06B7, .all 0x06BA 0x06BE, .all 0x06C0 0x06CE, .all 0x06D0 0x06ED,
   .all 0x06F0 0x06F9, .all 0x0901 0x0903, .all 0x0905 0x0939, .all 0x093C 0x094D,
   .all 0x0950 0x0954, .all 0x0958 0x0970, .all 0x0981 0x0983, .all 0x0985 0x098C,
   .all 0x098F 0x0990, .all 0x0993 0x09A8, .all 0x09AA 0x09B0, .one 0x09B2, .all 0x09B6 0x09B9,
   .one 0x09BC, .all 0x09BE 0x09C4, .all 0x09C7 0x09C8, .all 0x09CB 0x09CD, .one 0x09D7,
   .all 0x09DC 0x09DD, .all 0x09DF 0x09E3, .all 0x09E6 0x09FA, .one 0x0A02, .all 0x0A05 0x0A0A,
   .all 0x0A0F 0x0A10, .all 0x0A13 0x0A28, .all 0x0A2A 0x0A30, .all 0x0A32 0x0A33,
   .all 0x0A35 0x0A36, .all 0x0A38 0x0A39, .one 0x0A3C, .all 0x0A3E 0x0A42, .all 0x0A47 0x0A48,
   .all 0x0A4B 0x0A4D, .all 0x0A59 0x0A5C, .one 0x0A5E, .all 0x0A66 0x0A74, .all 0x0A81 0x0A83,
   .all 0x0A85 0x0A8B, .one 0x0A8D, .all 0x0A8F 0x0A91, .all 0x0A93 0x0AA8, .all 0x0AAA 0x0AB0,
   .all 0x0AB2 0x0AB3, .all 0x0AB5 0x0AB9, .all 0x0ABC 0x0AC5, .all 0x0AC7 0x0AC9,
   .all 0x0ACB 0x0ACD, .one 0x0AD0, .one 0x0AE0, .all 0x0AE6 0x0AEF, .all 0x0B01 0x0B03,
   .all 0x0B05 0x0B0C, .all 0x0B0F 0x0B10, .all 0x0B13 0x0B28, .all 0x0B2A 0x0B30,
   .all 0x0B32 0x0B33, .all 0x0B36 0x0B39, .all 0x0B3C 0x0B43, .all 0x0B47 0x0B48,
   .all 0x0B4B 0x0B4D, .all 0x0B56 0x0B57, .all 0x0B5C 0x0B5D, .all 0x0B5F 0x0B61,
   .all 0x0B66 0x0B70, .all 0x0B82 0x0B83, .all 0x0B85 0x0B8A, .all 0x0B8E 0x0B90,
   .all 0x0B92 0x0B95, .all 0x0B99 0x0B9A, .one 0x0B9C, .all 0x0B9E 0x0B9F, .all 0x0BA3 0x0BA4,
   .all 0x0BA8 0x0BAA, .all 0x0BAE 0x0BB5, .all 0x0BB7 0x0BB9, .all 0x0BBE 0x0BC2,
   .all 0x0BC6 0x0BC8, .all 0x0BCA 0x0BCD, .one 0x0BD7, .all 0x0BE7 0x0BF2, .all 0x0C01 0x0C03,
   .all 0x0C05 0x0C0C, .all 0x0C0E 0x0C10, .all 0x0C12 0x0C28, .all 0x0C2A 0x0C33,
   .all 0x0C35 0x0C39, .all 0x0C3E 0x0C44, .all 0x0C46 0x0C48, .all 0x0C4A 0x0C4D,
   .all 0x0C55 0x0C56, .all 0x0C60 0x0C61, .all 0x0C66 0x0C6F, .all 0x0C82 0x0C83,
   .all 0x0C85 0x0C8C, .all 0x0C8E 0x0C90, .all 0x0C92 0x0CA8, .all 0x0CAA 0x0CB3,
   .all 0x0CB5 0x0CB9, .all 0x0CBE 0x0CC4, .all 0x0CC6 0x0CC8, .all 0x0CCA 0x0CCD,
   .all 0x0CD5 0x0CD6, .one 0x0CDE, .all 0x0CE0 0x0CE1, .all 0x0CE6 0x0CEF, .all 0x0D02 0x0D03,
   .all 0x0D05 0x0D0C, .all 0x0D0E 0x0D10, .all 0x0D12 0x0D28, .all 0x0D2A 0x0D39,
   .all 0x0D3E 0x0D43, .all 0x0D46 0x0D48, .all 0x0D4A 0x0D4D, .one 0x0D57, .all 0x0D60 0x0D61,
   .all 0x0D66 0x0D6F, .all 0x0E01 0x0E3A, .all 0x0E3F 0x0E5B, .all 0x0E81 0x0E82, .one 0x0E84,
   .all 0x0E87 0x0E88, .one 0x0E8A, .one 0x0E8D, .all 0x0E94 0x0E97, .all 0x0E99 0x0E9F,
   .all 0x0EA1 0x0EA3, .alternate 0x0EA5 0x0EA7, .all 0x0EAA 0x0EAB, .all 0x0EAD 0x0EB9,
   .all 0x0EBB 0x0EBD, .all 0x0EC0 0x0EC4, .one 0x0EC6, .all 0x0EC8 0x0ECD, .all 0x0ED0 0x0ED9,
   .all 0x0EDC 0x0EDD, .all 0x10A0 0x10C5, .all 0x10D0 0x10F6, .one 0x10FB, .all 0x1100 0x1159,
   .all 0x115F 0x11A2, .all 0x11A8 0x11F9, .all 0x1E00 0x1E9A, .all 0x1EA0 0x1EF9,
   .all 0x1F00 0x1F15, .all 0x1F18 0x1F1D, .all 0x1F20 0x1F45, .all 0x1F48 0x1F4D,
   .all 0x1F50 0x1F57, .alternate 0x1F59 0x1F5D, .all 0x1F5F 0x1F7D, .all 0x1F80 0x1FB4,
   .all 0x1FB6 0x1FC4, .all 0x1FC6 0x1FD3, .all 0x1FD6 0x1FDB, .all 0x1FDD 0x1FEF,
   .all 0x1FF2 0x1FF4, .all 0x1FF6 0x1FFE, .all 0x2000 0x202E, .all 0x2030 0x2046,
   .all 0x206A 0x2070, .all 0x2074 0x208E, .all 0x20A0 0x20AA, .all 0x20D0 0x20E1,
   .all 0x2100 0x2138, .all 0x2153 0x2182, .all 0x2190 0x21EA, .all 0x2200 0x22F1, .one 0x2300,
   .all 0x2302 0x237A, .all 0x2400 0x2424, .all 0x2440 0x244A, .all 0x2460 0x24EA,
   .all 0x2500 0x2595, .all 0x25A0 0x25EF, .all 0x2600 0x2613, .all 0x261A 0x266F,
   .all 0x2701 0x2704, .all 0x2706 0x2709, .all 0x270C 0x2727, .all 0x2729 0x274B, .one 0x274D,
   .all 0x274F 0x2752, .one 0x2756, .all 0x2758 0x275E, .all 0x2761 0x2767, .all 0x2776 0x2794,
   .all 0x2798 0x27AF, .all 0x27B1 0x27BE, .all 0x3000 0x3037, .one 0x303F, .all 0x3041 0x3094,
   .all 0x3099 0x309E, .all 0x30A1 0x30FE, .all 0x3105 0x312C, .all 0x3131 0x318E,
   .all 0x3190 0x319F, .all 0x3200 0x321C, .all 0x3220 0x3243, .all 0x3260 0x327B,
   .all 0x327F 0x32B0, .all 0x32C0 0x32CB, .all 0x32D0 0x32FE, .all 0x3300 0x3376,
   .all 0x337B 0x33DD, .all 0x33E0 0x33FE, .all 0x4E00 0x9FA5, .all 0xE000 0xFA2D,
   .all 0xFB00 0xFB06, .all 0xFB13 0xFB17, .all 0xFB1E 0xFB36, .all 0xFB38 0xFB3C, .one 0xFB3E,
   .all 0xFB40 0xFB41, .all 0xFB43 0xFB44, .all 0xFB46 0xFBB1, .all 0xFBD3 0xFD3F,
   .all 0xFD50 0xFD8F, .all 0xFD92 0xFDC7, .all 0xFDF0 0xFDFB, .all 0xFE20 0xFE23,
   .all 0xFE30 0xFE44, .all 0xFE49 0xFE52, .all 0xFE54 0xFE66, .all 0xFE68 0xFE6B,
   .all 0xFE70 0xFE72, .one 0xFE74, .all 0xFE76 0xFEFC, .one 0xFEFF, .all 0xFF01 0xFF5E,
   .all 0xFF61 0xFFBE, .all 0xFFC2 0xFFC7, .all 0xFFCA 0xFFCF, .all 0xFFD2 0xFFD7,
   .all 0xFFDA 0xFFDC, .all 0xFFE0 0xFFE6, .all 0xFFE8 0xFFEE, .all 0xFFFD 0xFFFF]

def version2_0Runs : List Run :=
  [.all 0x0591 0x05A1, .all 0x05A3 0x05AF, .one 0x05C4, .all 0x0F00 0x0F47, .all 0x0F49 0x0F69,
   .all 0x0F71 0x0F8B, .all 0x0F90 0x0F95, .one 0x0F97, .all 0x0F99 0x0FAD, .all 0x0FB1 0x0FB7,
   .one 0x0FB9, .one 0x1E9B, .one 0x20AB, .all 0xAC00 0xD7A3, .all 0x1FFFE 0x1FFFF,
   .all 0x2FFFE 0x2FFFF, .all 0x3FFFE 0x3FFFF, .all 0x4FFFE 0x4FFFF, .all 0x5FFFE 0x5FFFF,
   .all 0x6FFFE 0x6FFFF, .all 0x7FFFE 0x7FFFF, .all 0x8FFFE 0x8FFFF, .all 0x9FFFE 0x9FFFF,
   .all 0xAFFFE 0xAFFFF, .all 0xBFFFE 0xBFFFF, .all 0xCFFFE 0xCFFFF, .all 0xDFFFE 0xDFFFF,
   .all 0xEFFFE 0x10FFFF]

def version2_1Runs : List Run :=
  [.one 0x20AC, .one 0xFFFC]

def version3_0Runs : List Run :=
  [.all 0x01F6 0x01F9, .all 0x0218 0x021F, .all 0x0222 0x0233, .all 0x02A9 0x02AD, .one 0x02DF,
   .all 0x02EA 0x02EE, .all 0x0346 0x034E, .one 0x0362, .one 0x03D7, .alternate 0x03DB 0x03E1,
   .one 0x0400, .one 0x040D, .one 0x0450, .one 0x045D, .all 0x0488 0x0489, .all 0x048C 0x048F,
   .all 0x04EC 0x04ED, .one 0x058A, .all 0x0653 0x0655, .all 0x06B8 0x06B9, .one 0x06BF,
   .one 0x06CF, .all 0x06FA 0x06FE, .all 0x0700 0x070D, .all 0x070F 0x072C, .all 0x0730 0x074A,
   .all 0x0780 0x07B0, .all 0x0D82 0x0D83, .all 0x0D85 0x0D96, .all 0x0D9A 0x0DB1,
   .all 0x0DB3 0x0DBB, .one 0x0DBD, .all 0x0DC0 0x0DC6, .one 0x0DCA, .all 0x0DCF 0x0DD4,
   .one 0x0DD6, .all 0x0DD8 0x0DDF, .all 0x0DF2 0x0DF4, .one 0x0F6A, .one 0x0F96,
   .all 0x0FAE 0x0FB0, .one 0x0FB8, .all 0x0FBA 0x0FBC, .all 0x0FBE 0x0FCC, .one 0x0FCF,
   .all 0x1000 0x1021, .all 0x1023 0x1027, .all 0x1029 0x102A, .all 0x102C 0x1032,
   .all 0x1036 0x1039, .all 0x1040 0x1059, .all 0x1200 0x1206, .all 0x1208 0x1246, .one 0x1248,
   .all 0x124A 0x124D, .all 0x1250 0x1256, .one 0x1258, .all 0x125A 0x125D, .all 0x1260 0x1286,
   .one 0x1288, .all 0x128A 0x128D, .all 0x1290 0x12AE, .one 0x12B0, .all 0x12B2 0x12B5,
   .all 0x12B8 0x12BE, .one 0x12C0, .all 0x12C2 0x12C5, .all 0x12C8 0x12CE, .all 0x12D0 0x12D6,
   .all 0x12D8 0x12EE, .all 0x12F0 0x130E, .one 0x1310, .all 0x1312 0x1315, .all 0x1318 0x131E,
   .all 0x1320 0x1346, .all 0x1348 0x135A, .all 0x1361 0x137C, .all 0x13A0 0x13F4,
   .all 0x1401 0x1676, .all 0x1680 0x169C, .all 0x16A0 0x16F0, .all 0x1780 0x17DC,
   .all 0x17E0 0x17E9, .all 0x1800 0x180E, .all 0x1810 0x1819, .all 0x1820 0x1877,
   .all 0x1880 0x18A9, .one 0x202F, .all 0x2048 0x204D, .all 0x20AD 0x20AF, .all 0x20E2 0x20E3,
   .all 0x2139 0x213A, .one 0x2183, .all 0x21EB 0x21F3, .one 0x2301, .one 0x237B,
   .all 0x237D 0x239A, .all 0x2425 0x2426, .all 0x25F0 0x25F7, .one 0x2619, .all 0x2670 0x2671,
   .all 0x2800 0x28FF, .all 0x2E80 0x2E99, .all 0x2E9B 0x2EF3, .all 0x2F00 0x2FD5,
   .all 0x2FF0 0x2FFB, .all 0x3038 0x303A, .one 0x303E, .all 0x31A0 0x31B7, .all 0x3400 0x4DB5,
   .all 0xA000 0xA48C, .all 0xA490 0xA4A1, .all 0xA4A4 0xA4B3, .all 0xA4B5 0xA4C0,
   .all 0xA4C2 0xA4C4, .one 0xA4C6, .one 0xFB1D, .all 0xFFF9 0xFFFB]

def version3_1Runs : List Run :=
  [.all 0x03F4 0x03F5, .all 0xFDD0 0xFDEF, .all 0x10300 0x1031E, .all 0x10320 0x10323,
   .all 0x10330 0x1034A, .all 0x10400 0x10425, .all 0x10428 0x1044D, .all 0x1D000 0x1D0F5,
   .all 0x1D100 0x1D126, .all 0x1D12A 0x1D1DD, .all 0x1D400 0x1D454, .all 0x1D456 0x1D49C,
   .all 0x1D49E 0x1D49F, .one 0x1D4A2, .all 0x1D4A5 0x1D4A6, .all 0x1D4A9 0x1D4AC,
   .all 0x1D4AE 0x1D4B9, .one 0x1D4BB, .all 0x1D4BD 0x1D4C0, .all 0x1D4C2 0x1D4C3,
   .all 0x1D4C5 0x1D505, .all 0x1D507 0x1D50A, .all 0x1D50D 0x1D514, .all 0x1D516 0x1D51C,
   .all 0x1D51E 0x1D539, .all 0x1D53B 0x1D53E, .all 0x1D540 0x1D544, .one 0x1D546,
   .all 0x1D54A 0x1D550, .all 0x1D552 0x1D6A3, .all 0x1D6A8 0x1D7C9, .all 0x1D7CE 0x1D7FF,
   .all 0x20000 0x2A6D6, .all 0x2F800 0x2FA1D, .one 0xE0001, .all 0xE0020 0xE007F]

def version3_2Runs : List Run :=
  [.one 0x0220, .one 0x034F, .all 0x0363 0x036F, .all 0x03D8 0x03D9, .one 0x03F6,
   .all 0x048A 0x048B, .all 0x04C5 0x04C6, .all 0x04C9 0x04CA, .all 0x04CD 0x04CE,
   .all 0x0500 0x050F, .all 0x066E 0x066F, .one 0x07B1, .all 0x10F7 0x10F8, .all 0x1700 0x170C,
   .all 0x170E 0x1714, .all 0x1720 0x1736, .all 0x1740 0x1753, .all 0x1760 0x176C,
   .all 0x176E 0x1770, .all 0x1772 0x1773, .one 0x2047, .all 0x204E 0x2052, .one 0x2057,
   .all 0x205F 0x2063, .one 0x2071, .all 0x20B0 0x20B1, .all 0x20E4 0x20EA, .all 0x213D 0x214B,
   .all 0x21F4 0x21FF, .all 0x22F2 0x22FF, .one 0x237C, .all 0x239B 0x23CE, .all 0x24EB 0x24FE,
   .all 0x2596 0x259F, .all 0x25F8 0x25FF, .all 0x2616 0x2617, .all 0x2672 0x267D,
   .all 0x2680 0x2689, .all 0x2768 0x2775, .all 0x27D0 0x27EB, .all 0x27F0 0x27FF,
   .all 0x2900 0x2AFF, .all 0x303B 0x303D, .all 0x3095 0x3096, .all 0x309F 0x30A0, .one 0x30FF,
   .all 0x31F0 0x31FF, .all 0x3251 0x325F, .all 0x32B1 0x32BF, .all 0xA4A2 0xA4A3, .one 0xA4B4,
   .one 0xA4C1, .one 0xA4C5, .all 0xFA30 0xFA6A, .one 0xFDFC, .all 0xFE00 0xFE0F,
   .all 0xFE45 0xFE46, .one 0xFE73, .all 0xFF5F 0xFF60]

def version4_0Runs : List Run :=
  [.one 0x0221, .all 0x0234 0x0236, .all 0x02AE 0x02AF, .all 0x02EF 0x02FF, .all 0x0350 0x0357,
   .all 0x035D 0x035F, .all 0x03F7 0x03FB, .all 0x0600 0x0603, .all 0x060D 0x0615,
   .all 0x0656 0x0658, .all 0x06EE 0x06EF, .one 0x06FF, .all 0x072D 0x072F, .all 0x074D 0x074F,
   .one 0x0904, .one 0x09BD, .alternate 0x0A01 0x0A03, .one 0x0A8C, .all 0x0AE1 0x0AE3,
   .one 0x0AF1, .one 0x0B35, .one 0x0B71, .all 0x0BF3 0x0BFA, .all 0x0CBC 0x0CBD, .one 0x17DD,
   .all 0x17F0 0x17F9, .all 0x1900 0x191C, .all 0x1920 0x192B, .all 0x1930 0x193B, .one 0x1940,
   .all 0x1944 0x196D, .all 0x1970 0x1974, .all 0x19E0 0x19FF, .all 0x1D00 0x1D6B,
   .all 0x2053 0x2054, .one 0x213B, .all 0x23CF 0x23D0, .one 0x24FF, .all 0x2614 0x2615,
   .all 0x268A 0x2691, .all 0x26A0 0x26A1, .all 0x2B00 0x2B0D, .all 0x321D 0x321E, .one 0x3250,
   .all 0x327C 0x327D, .all 0x32CC 0x32CF, .all 0x3377 0x337A, .all 0x33DE 0x33DF, .one 0x33FF,
   .all 0x4DC0 0x4DFF, .one 0xFDFD, .all 0xFE47 0xFE48, .all 0x10000 0x1000B,
   .all 0x1000D 0x10026, .all 0x10028 0x1003A, .all 0x1003C 0x1003D, .all 0x1003F 0x1004D,
   .all 0x10050 0x1005D, .all 0x10080 0x100FA, .all 0x10100 0x10102, .all 0x10107 0x10133,
   .all 0x10137 0x1013F, .all 0x10380 0x1039D, .one 0x1039F, .all 0x10426 0x10427,
   .all 0x1044E 0x1049D, .all 0x104A0 0x104A9, .all 0x10800 0x10805, .one 0x10808,
   .all 0x1080A 0x10835, .all 0x10837 0x10838, .one 0x1083C, .one 0x1083F, .all 0x1D300 0x1D356,
   .one 0x1D4C1, .all 0xE0100 0xE01EF]

def version4_1Runs : List Run :=
  [.all 0x0237 0x0241, .all 0x0358 0x035C, .all 0x03FC 0x03FF, .all 0x04F6 0x04F7, .one 0x05A2,
   .all 0x05C5 0x05C7, .one 0x060B, .one 0x061E, .all 0x0659 0x065E, .all 0x0750 0x076D,
   .one 0x097D, .one 0x09CE, .one 0x0BB6, .one 0x0BE6, .all 0x0FD0 0x0FD1, .all 0x10F9 0x10FA,
   .one 0x10FC, .one 0x1207, .one 0x1247, .one 0x1287, .one 0x12AF, .one 0x12CF, .one 0x12EF,
   .one 0x130F, .one 0x131F, .one 0x1347, .all 0x135F 0x1360, .all 0x1380 0x1399,
   .all 0x1980 0x19A9, .all 0x19B0 0x19C9, .all 0x19D0 0x19D9, .all 0x19DE 0x19DF,
   .all 0x1A00 0x1A1B, .all 0x1A1E 0x1A1F, .all 0x1D6C 0x1DC3, .all 0x2055 0x2056,
   .all 0x2058 0x205E, .all 0x2090 0x2094, .all 0x20B2 0x20B5, .one 0x20EB, .one 0x213C,
   .one 0x214C, .all 0x23D1 0x23DB, .one 0x2618, .all 0x267E 0x267F, .all 0x2692 0x269C,
   .all 0x26A2 0x26B1, .all 0x27C0 0x27C6, .all 0x2B0E 0x2B13, .all 0x2C00 0x2C2E,
   .all 0x2C30 0x2C5E, .all 0x2C80 0x2CEA, .all 0x2CF9 0x2D25, .all 0x2D30 0x2D65, .one 0x2D6F,
   .all 0x2D80 0x2D96, .all 0x2DA0 0x2DA6, .all 0x2DA8 0x2DAE, .all 0x2DB0 0x2DB6,
   .all 0x2DB8 0x2DBE, .all 0x2DC0 0x2DC6, .all 0x2DC8 0x2DCE, .all 0x2DD0 0x2DD6,
   .all 0x2DD8 0x2DDE, .all 0x2E00 0x2E17, .all 0x2E1C 0x2E1D, .all 0x31C0 0x31CF, .one 0x327E,
   .all 0x9FA6 0x9FBB, .all 0xA700 0xA716, .all 0xA800 0xA82B, .all 0xFA70 0xFAD9,
   .all 0xFE10 0xFE19, .all 0x10140 0x1018A, .all 0x103A0 0x103C3, .all 0x103C8 0x103D5,
   .all 0x10A00 0x10A03, .all 0x10A05 0x10A06, .all 0x10A0C 0x10A13, .all 0x10A15 0x10A17,
   .all 0x10A19 0x10A33, .all 0x10A38 0x10A3A, .all 0x10A3F 0x10A47, .all 0x10A50 0x10A58,
   .all 0x1D200 0x1D245, .all 0x1D6A4 0x1D6A5]

def version5_0Runs : List Run :=
  [.all 0x0242 0x024F, .all 0x037B 0x037D, .one 0x04CF, .all 0x04FA 0x04FF, .all 0x0510 0x0513,
   .one 0x05BA, .all 0x07C0 0x07FA, .all 0x097B 0x097C, .all 0x097E 0x097F, .all 0x0CE2 0x0CE3,
   .all 0x0CF1 0x0CF2, .all 0x1B00 0x1B4B, .all 0x1B50 0x1B7C, .all 0x1DC4 0x1DCA,
   .all 0x1DFE 0x1DFF, .all 0x20EC 0x20EF, .all 0x214D 0x214E, .one 0x2184, .all 0x23DC 0x23E7,
   .one 0x26B2, .all 0x27C7 0x27CA, .all 0x2B14 0x2B1A, .all 0x2B20 0x2B23, .all 0x2C60 0x2C6C,
   .all 0x2C74 0x2C77, .all 0xA717 0xA71A, .all 0xA720 0xA721, .all 0xA840 0xA877,
   .all 0x10900 0x10919, .one 0x1091F, .all 0x12000 0x1236E, .all 0x12400 0x12462,
   .all 0x12470 0x12473, .all 0x1D360 0x1D371, .all 0x1D7CA 0x1D7CB]

def version5_1Runs : List Run :=
  [.all 0x0370 0x0373, .all 0x0376 0x0377, .one 0x03CF, .one 0x0487, .all 0x0514 0x0523,
   .all 0x0606 0x060A, .all 0x0616 0x061A, .all 0x063B 0x063F, .all 0x076E 0x077F,
   .all 0x0971 0x0972, .one 0x0A51, .one 0x0A75, .one 0x0B44, .all 0x0B62 0x0B63, .one 0x0BD0,
   .one 0x0C3D, .all 0x0C58 0x0C59, .all 0x0C62 0x0C63, .all 0x0C78 0x0C7F, .one 0x0D3D,
   .one 0x0D44, .all 0x0D62 0x0D63, .all 0x0D70 0x0D75, .all 0x0D79 0x0D7F, .all 0x0F6B 0x0F6C,
   .one 0x0FCE, .all 0x0FD2 0x0FD4, .one 0x1022, .one 0x1028, .one 0x102B, .all 0x1033 0x1035,
   .all 0x103A 0x103F, .all 0x105A 0x1099, .all 0x109E 0x109F, .one 0x18AA, .all 0x1B80 0x1BAA,
   .all 0x1BAE 0x1BB9, .all 0x1C00 0x1C37, .all 0x1C3B 0x1C49, .all 0x1C4D 0x1C7F,
   .all 0x1DCB 0x1DE6, .all 0x1E9C 0x1E9F, .all 0x1EFA 0x1EFF, .one 0x2064, .one 0x20F0,
   .one 0x214F, .all 0x2185 0x2188, .one 0x269D, .all 0x26B3 0x26BC, .all 0x26C0 0x26C3,
   .one 0x27CC, .all 0x27EC 0x27EF, .all 0x2B1B 0x2B1F, .all 0x2B24 0x2B4C, .all 0x2B50 0x2B54,
   .all 0x2C6D 0x2C6F, .all 0x2C71 0x2C73, .all 0x2C78 0x2C7D, .all 0x2DE0 0x2DFF,
   .all 0x2E18 0x2E1B, .all 0x2E1E 0x2E30, .one 0x312D, .all 0x31D0 0x31E3, .all 0x9FBC 0x9FC3,
   .all 0xA500 0xA62B, .all 0xA640 0xA65F, .all 0xA662 0xA673, .all 0xA67C 0xA697,
   .all 0xA71B 0xA71F, .all 0xA722 0xA78C, .all 0xA7FB 0xA7FF, .all 0xA880 0xA8C4,
   .all 0xA8CE 0xA8D9, .all 0xA900 0xA953, .one 0xA95F, .all 0xAA00 0xAA36, .all 0xAA40 0xAA4D,
   .all 0xAA50 0xAA59, .all 0xAA5C 0xAA5F, .all 0xFE24 0xFE26, .all 0x10190 0x1019B,
   .all 0x101D0 0x101FD, .all 0x10280 0x1029C, .all 0x102A0 0x102D0, .all 0x10920 0x10939,
   .one 0x1093F, .one 0x1D129, .all 0x1F000 0x1F02B, .all 0x1F030 0x1F093]

def version5_2Runs : List Run :=
  [.all 0x0524 0x0525, .all 0x0800 0x082D, .all 0x0830 0x083E, .one 0x0900, .one 0x094E,
   .one 0x0955, .all 0x0979 0x097A, .one 0x09FB, .all 0x0FD5 0x0FD8, .all 0x109A 0x109D,
   .all 0x115A 0x115E, .all 0x11A3 0x11A7, .all 0x11FA 0x11FF, .one 0x1400, .all 0x1677 0x167F,
   .all 0x18B0 0x18F5, .all 0x19AA 0x19AB, .one 0x19DA, .all 0x1A20 0x1A5E, .all 0x1A60 0x1A7C,
   .all 0x1A7F 0x1A89, .all 0x1A90 0x1A99, .all 0x1AA0 0x1AAD, .all 0x1CD0 0x1CF2, .one 0x1DFD,
   .all 0x20B6 0x20B8, .all 0x2150 0x2152, .one 0x2189, .one 0x23E8, .all 0x269E 0x269F,
   .all 0x26BD 0x26BF, .all 0x26C4 0x26CD, .all 0x26CF 0x26E1, .one 0x26E3, .all 0x26E8 0x26FF,
   .one 0x2757, .all 0x2B55 0x2B59, .one 0x2C70, .all 0x2C7E 0x2C7F, .all 0x2CEB 0x2CF1,
   .one 0x2E31, .all 0x3244 0x324F, .all 0x9FC4 0x9FCB, .all 0xA4D0 0xA4FF, .all 0xA6A0 0xA6F7,
   .all 0xA830 0xA839, .all 0xA8E0 0xA8FB, .all 0xA960 0xA97C, .all 0xA980 0xA9CD,
   .all 0xA9CF 0xA9D9, .all 0xA9DE 0xA9DF, .all 0xAA60 0xAA7B, .all 0xAA80 0xAAC2,
   .all 0xAADB 0xAADF, .all 0xABC0 0xABED, .all 0xABF0 0xABF9, .all 0xD7B0 0xD7C6,
   .all 0xD7CB 0xD7FB, .all 0xFA6B 0xFA6D, .all 0x10840 0x10855, .all 0x10857 0x1085F,
   .all 0x1091A 0x1091B, .all 0x10A60 0x10A7F, .all 0x10B00 0x10B35, .all 0x10B39 0x10B55,
   .all 0x10B58 0x10B72, .all 0x10B78 0x10B7F, .all 0x10C00 0x10C48, .all 0x10E60 0x10E7E,
   .all 0x11080 0x110C1, .all 0x13000 0x1342E, .all 0x1F100 0x1F10A, .all 0x1F110 0x1F12E,
   .one 0x1F131, .alternate 0x1F13D 0x1F13F, .one 0x1F142, .one 0x1F146, .all 0x1F14A 0x1F14E,
   .one 0x1F157, .one 0x1F15F, .one 0x1F179, .all 0x1F17B 0x1F17C, .one 0x1F17F,
   .all 0x1F18A 0x1F18D, .one 0x1F190, .one 0x1F200, .all 0x1F210 0x1F231, .all 0x1F240 0x1F248,
   .all 0x2A700 0x2B734]

def version6_0Runs : List Run :=
  [.all 0x0526 0x0527, .one 0x0620, .one 0x065F, .all 0x0840 0x085B, .one 0x085E,
   .all 0x093A 0x093B, .one 0x094F, .all 0x0956 0x0957, .all 0x0973 0x0977, .all 0x0B72 0x0B77,
   .one 0x0D29, .one 0x0D3A, .one 0x0D4E, .all 0x0F8C 0x0F8F, .all 0x0FD9 0x0FDA,
   .all 0x135D 0x135E, .all 0x1BC0 0x1BF3, .all 0x1BFC 0x1BFF, .one 0x1DFC, .all 0x2095 0x209C,
   .one 0x20B9, .all 0x23E9 0x23F3, .one 0x26CE, .one 0x26E2, .all 0x26E4 0x26E7, .one 0x2705,
   .all 0x270A 0x270B, .one 0x2728, .alternate 0x274C 0x274E, .all 0x2753 0x2755,
   .all 0x275F 0x2760, .all 0x2795 0x2797, .one 0x27B0, .one 0x27BF, .all 0x27CE 0x27CF,
   .one 0x2D70, .one 0x2D7F, .all 0x31B8 0x31BA, .all 0xA660 0xA661, .all 0xA78D 0xA78E,
   .all 0xA790 0xA791, .all 0xA7A0 0xA7A9, .one 0xA7FA, .all 0xAB01 0xAB06, .all 0xAB09 0xAB0E,
   .all 0xAB11 0xAB16, .all 0xAB20 0xAB26, .all 0xAB28 0xAB2E, .all 0xFBB2 0xFBC1,
   .all 0x11000 0x1104D, .all 0x11052 0x1106F, .all 0x16800 0x16A38, .all 0x1B000 0x1B001,
   .all 0x1F0A0 0x1F0AE, .all 0x1F0B1 0x1F0BE, .all 0x1F0C1 0x1F0CF, .all 0x1F0D1 0x1F0DF,
   .one 0x1F130, .all 0x1F132 0x1F13C, .one 0x1F13E, .all 0x1F140 0x1F141, .all 0x1F143 0x1F145,
   .all 0x1F147 0x1F149, .all 0x1F14F 0x1F156, .all 0x1F158 0x1F15E, .all 0x1F160 0x1F169,
   .all 0x1F170 0x1F178, .one 0x1F17A, .all 0x1F17D 0x1F17E, .all 0x1F180 0x1F189,
   .all 0x1F18E 0x1F18F, .all 0x1F191 0x1F19A, .all 0x1F1E6 0x1F1FF, .all 0x1F201 0x1F202,
   .all 0x1F232 0x1F23A, .all 0x1F250 0x1F251, .all 0x1F300 0x1F320, .all 0x1F330 0x1F335,
   .all 0x1F337 0x1F37C, .all 0x1F380 0x1F393, .all 0x1F3A0 0x1F3C4, .all 0x1F3C6 0x1F3CA,
   .all 0x1F3E0 0x1F3F0, .all 0x1F400 0x1F43E, .one 0x1F440, .all 0x1F442 0x1F4F7,
   .all 0x1F4F9 0x1F4FC, .all 0x1F500 0x1F53D, .all 0x1F550 0x1F567, .all 0x1F5FB 0x1F5FF,
   .all 0x1F601 0x1F610, .all 0x1F612 0x1F614, .alternate 0x1F616 0x1F61A, .all 0x1F61C 0x1F61E,
   .all 0x1F620 0x1F625, .all 0x1F628 0x1F62B, .one 0x1F62D, .all 0x1F630 0x1F633,
   .all 0x1F635 0x1F640, .all 0x1F645 0x1F64F, .all 0x1F680 0x1F6C5, .all 0x1F700 0x1F773,
   .all 0x2B740 0x2B81D]

def version6_1Runs : List Run :=
  [.one 0x058F, .one 0x0604, .one 0x08A0, .all 0x08A2 0x08AC, .all 0x08E4 0x08FE, .one 0x0AF0,
   .all 0x0EDE 0x0EDF, .one 0x10C7, .one 0x10CD, .all 0x10FD 0x10FF, .all 0x1BAB 0x1BAD,
   .all 0x1BBA 0x1BBF, .all 0x1CC0 0x1CC7, .all 0x1CF3 0x1CF6, .alternate 0x27CB 0x27CD,
   .all 0x2CF2 0x2CF3, .one 0x2D27, .one 0x2D2D, .all 0x2D66 0x2D67, .all 0x2E32 0x2E3B,
   .one 0x9FCC, .all 0xA674 0xA67B, .one 0xA69F, .all 0xA792 0xA793, .one 0xA7AA,
   .all 0xA7F8 0xA7F9, .all 0xAAE0 0xAAF6, .all 0xFA2E 0xFA2F, .all 0x10980 0x109B7,
   .all 0x109BE 0x109BF, .all 0x110D0 0x110E8, .all 0x110F0 0x110F9, .all 0x11100 0x11134,
   .all 0x11136 0x11143, .all 0x11180 0x111C8, .all 0x111D0 0x111D9, .all 0x11680 0x116B7,
   .all 0x116C0 0x116C9, .all 0x16F00 0x16F44, .all 0x16F50 0x16F7E, .all 0x16F8F 0x16F9F,
   .all 0x1EE00 0x1EE03, .all 0x1EE05 0x1EE1F, .all 0x1EE21 0x1EE22, .one 0x1EE24, .one 0x1EE27,
   .all 0x1EE29 0x1EE32, .all 0x1EE34 0x1EE37, .alternate 0x1EE39 0x1EE3B, .one 0x1EE42,
   .alternate 0x1EE47 0x1EE4B, .all 0x1EE4D 0x1EE4F, .all 0x1EE51 0x1EE52, .one 0x1EE54,
   .alternate 0x1EE57 0x1EE5F, .all 0x1EE61 0x1EE62, .one 0x1EE64, .all 0x1EE67 0x1EE6A,
   .all 0x1EE6C 0x1EE72, .all 0x1EE74 0x1EE77, .all 0x1EE79 0x1EE7C, .one 0x1EE7E,
   .all 0x1EE80 0x1EE89, .all 0x1EE8B 0x1EE9B, .all 0x1EEA1 0x1EEA3, .all 0x1EEA5 0x1EEA9,
   .all 0x1EEAB 0x1EEBB, .all 0x1EEF0 0x1EEF1, .all 0x1F16A 0x1F16B, .all 0x1F540 0x1F543,
   .one 0x1F600, .one 0x1F611, .alternate 0x1F615 0x1F61B, .one 0x1F61F, .all 0x1F626 0x1F627,
   .one 0x1F62C, .all 0x1F62E 0x1F62F, .one 0x1F634]

def version6_2Runs : List Run :=
  [.one 0x20BA]

def version6_3Runs : List Run :=
  [.one 0x061C, .all 0x2066 0x2069]

def version7_0Runs : List Run :=
  [.one 0x037F, .all 0x0528 0x052F, .all 0x058D 0x058E, .one 0x0605, .one 0x08A1,
   .all 0x08AD 0x08B2, .one 0x08FF, .one 0x0978, .one 0x0980, .one 0x0C00, .one 0x0C34,
   .one 0x0C81, .one 0x0D01, .all 0x0DE6 0x0DEF, .all 0x16F1 0x16F8, .all 0x191D 0x191E,
   .all 0x1AB0 0x1ABE, .all 0x1CF8 0x1CF9, .all 0x1DE7 0x1DF5, .all 0x20BB 0x20BD,
   .all 0x23F4 0x23FA, .one 0x2700, .all 0x2B4D 0x2B4F, .all 0x2B5A 0x2B73, .all 0x2B76 0x2B95,
   .all 0x2B98 0x2BB9, .all 0x2BBD 0x2BC8, .all 0x2BCA 0x2BD1, .all 0x2E3C 0x2E42,
   .all 0xA698 0xA69D, .all 0xA794 0xA79F, .all 0xA7AB 0xA7AD, .all 0xA7B0 0xA7B1, .one 0xA7F7,
   .all 0xA9E0 0xA9FE, .all 0xAA7C 0xAA7F, .all 0xAB30 0xAB5F, .all 0xAB64 0xAB65,
   .all 0xFE27 0xFE2D, .all 0x1018B 0x1018C, .one 0x101A0, .all 0x102E0 0x102FB, .one 0x1031F,
   .all 0x10350 0x1037A, .all 0x10500 0x10527, .all 0x10530 0x10563, .one 0x1056F,
   .all 0x10600 0x10736, .all 0x10740 0x10755, .all 0x10760 0x10767, .all 0x10860 0x1089E,
   .all 0x108A7 0x108AF, .all 0x10A80 0x10A9F, .all 0x10AC0 0x10AE6, .all 0x10AEB 0x10AF6,
   .all 0x10B80 0x10B91, .all 0x10B99 0x10B9C, .all 0x10BA9 0x10BAF, .one 0x1107F,
   .all 0x11150 0x11176, .one 0x111CD, .one 0x111DA, .all 0x111E1 0x111F4, .all 0x11200 0x11211,
   .all 0x11213 0x1123D, .all 0x112B0 0x112EA, .all 0x112F0 0x112F9, .all 0x11301 0x11303,
   .all 0x11305 0x1130C, .all 0x1130F 0x11310, .all 0x11313 0x11328, .all 0x1132A 0x11330,
   .all 0x11332 0x11333, .all 0x11335 0x11339, .all 0x1133C 0x11344, .all 0x11347 0x11348,
   .all 0x1134B 0x1134D, .one 0x11357, .all 0x1135D 0x11363, .all 0x11366 0x1136C,
   .all 0x11370 0x11374, .all 0x11480 0x114C7, .all 0x114D0 0x114D9, .all 0x11580 0x115B5,
   .all 0x115B8 0x115C9, .all 0x11600 0x11644, .all 0x11650 0x11659, .all 0x118A0 0x118F2,
   .one 0x118FF, .all 0x11AC0 0x11AF8, .all 0x1236F 0x12398, .all 0x12463 0x1246E, .one 0x12474,
   .all 0x16A40 0x16A5E, .all 0x16A60 0x16A69, .all 0x16A6E 0x16A6F, .all 0x16AD0 0x16AED,
   .all 0x16AF0 0x16AF5, .all 0x16B00 0x16B45, .all 0x16B50 0x16B59, .all 0x16B5B 0x16B61,
   .all 0x16B63 0x16B77, .all 0x16B7D 0x16B8F, .all 0x1BC00 0x1BC6A, .all 0x1BC70 0x1BC7C,
   .all 0x1BC80 0x1BC88, .all 0x1BC90 0x1BC99, .all 0x1BC9C 0x1BCA3, .all 0x1E800 0x1E8C4,
   .all 0x1E8C7 0x1E8D6, .one 0x1F0BF, .all 0x1F0E0 0x1F0F5, .all 0x1F10B 0x1F10C,
   .all 0x1F321 0x1F32C, .one 0x1F336, .one 0x1F37D, .all 0x1F394 0x1F39F, .one 0x1F3C5,
   .all 0x1F3CB 0x1F3CE, .all 0x1F3D4 0x1F3DF, .all 0x1F3F1 0x1F3F7, .alternate 0x1F43F 0x1F441,
   .one 0x1F4F8, .all 0x1F4FD 0x1F4FE, .all 0x1F53E 0x1F53F, .all 0x1F544 0x1F54A,
   .all 0x1F568 0x1F579, .all 0x1F57B 0x1F5A3, .all 0x1F5A5 0x1F5FA, .all 0x1F641 0x1F642,
   .all 0x1F650 0x1F67F, .all 0x1F6C6 0x1F6CF, .all 0x1F6E0 0x1F6EC, .all 0x1F6F0 0x1F6F3,
   .all 0x1F780 0x1F7D4, .all 0x1F800 0x1F80B, .all 0x1F810 0x1F847, .all 0x1F850 0x1F859,
   .all 0x1F860 0x1F887, .all 0x1F890 0x1F8AD]

def version8_0Runs : List Run :=
  [.all 0x08B3 0x08B4, .one 0x08E3, .one 0x0AF9, .one 0x0C5A, .one 0x0D5F, .one 0x13F5,
   .all 0x13F8 0x13FD, .one 0x20BE, .all 0x218A 0x218B, .all 0x2BEC 0x2BEF, .all 0x9FCD 0x9FD5,
   .one 0xA69E, .one 0xA78F, .all 0xA7B2 0xA7B7, .all 0xA8FC 0xA8FD, .all 0xAB60 0xAB63,
   .all 0xAB70 0xABBF, .all 0xFE2E 0xFE2F, .all 0x108E0 0x108F2, .all 0x108F4 0x108F5,
   .all 0x108FB 0x108FF, .all 0x109BC 0x109BD, .all 0x109C0 0x109CF, .all 0x109D2 0x109FF,
   .all 0x10C80 0x10CB2, .all 0x10CC0 0x10CF2, .all 0x10CFA 0x10CFF, .all 0x111C9 0x111CC,
   .all 0x111DB 0x111DF, .all 0x11280 0x11286, .one 0x11288, .all 0x1128A 0x1128D,
   .all 0x1128F 0x1129D, .all 0x1129F 0x112A9, .one 0x11300, .one 0x11350, .all 0x115CA 0x115DD,
   .all 0x11700 0x11719, .all 0x1171D 0x1172B, .all 0x11730 0x1173F, .one 0x12399,
   .all 0x12480 0x12543, .all 0x14400 0x14646, .all 0x1D1DE 0x1D1E8, .all 0x1D800 0x1DA8B,
   .all 0x1DA9B 0x1DA9F, .all 0x1DAA1 0x1DAAF, .all 0x1F32D 0x1F32F, .all 0x1F37E 0x1F37F,
   .all 0x1F3CF 0x1F3D3, .all 0x1F3F8 0x1F3FF, .one 0x1F4FF, .all 0x1F54B 0x1F54F,
   .all 0x1F643 0x1F644, .one 0x1F6D0, .all 0x1F910 0x1F918, .all 0x1F980 0x1F984, .one 0x1F9C0,
   .all 0x2B820 0x2CEA1]

def version9_0Runs : List Run :=
  [.all 0x08B6 0x08BD, .all 0x08D4 0x08E2, .one 0x0C80, .one 0x0D4F, .all 0x0D54 0x0D56,
   .all 0x0D58 0x0D5E, .all 0x0D76 0x0D78, .all 0x1C80 0x1C88, .one 0x1DFB, .all 0x23FB 0x23FE,
   .all 0x2E43 0x2E44, .one 0xA7AE, .one 0xA8C5, .all 0x1018D 0x1018E, .all 0x104B0 0x104D3,
   .all 0x104D8 0x104FB, .one 0x1123E, .all 0x11400 0x11459, .alternate 0x1145B 0x1145D,
   .all 0x11660 0x1166C, .all 0x11C00 0x11C08, .all 0x11C0A 0x11C36, .all 0x11C38 0x11C45,
   .all 0x11C50 0x11C6C, .all 0x11C70 0x11C8F, .all 0x11C92 0x11CA7, .all 0x11CA9 0x11CB6,
   .one 0x16FE0, .all 0x17000 0x187EC, .all 0x18800 0x18AF2, .all 0x1E000 0x1E006,
   .all 0x1E008 0x1E018, .all 0x1E01B 0x1E021, .all 0x1E023 0x1E024, .all 0x1E026 0x1E02A,
   .all 0x1E900 0x1E94A, .all 0x1E950 0x1E959, .all 0x1E95E 0x1E95F, .all 0x1F19B 0x1F1AC,
   .one 0x1F23B, .one 0x1F57A, .one 0x1F5A4, .all 0x1F6D1 0x1F6D2, .all 0x1F6F4 0x1F6F6,
   .all 0x1F919 0x1F91E, .all 0x1F920 0x1F927, .one 0x1F930, .all 0x1F933 0x1F93E,
   .all 0x1F940 0x1F94B, .all 0x1F950 0x1F95E, .all 0x1F985 0x1F991]

def version10_0Runs : List Run :=
  [.all 0x0860 0x086A, .all 0x09FC 0x09FD, .all 0x0AFA 0x0AFF, .one 0x0D00, .all 0x0D3B 0x0D3C,
   .one 0x1CF7, .all 0x1DF6 0x1DF9, .one 0x20BF, .one 0x23FF, .one 0x2BD2, .all 0x2E45 0x2E49,
   .one 0x312E, .all 0x9FD6 0x9FEA, .all 0x1032D 0x1032F, .all 0x11A00 0x11A47,
   .all 0x11A50 0x11A83, .all 0x11A86 0x11A9C, .all 0x11A9E 0x11AA2, .all 0x11D00 0x11D06,
   .all 0x11D08 0x11D09, .all 0x11D0B 0x11D36, .one 0x11D3A, .all 0x11D3C 0x11D3D,
   .all 0x11D3F 0x11D47, .all 0x11D50 0x11D59, .one 0x16FE1, .all 0x1B002 0x1B11E,
   .all 0x1B170 0x1B2FB, .all 0x1F260 0x1F265, .all 0x1F6D3 0x1F6D4, .all 0x1F6F7 0x1F6F8,
   .all 0x1F900 0x1F90B, .one 0x1F91F, .all 0x1F928 0x1F92F, .all 0x1F931 0x1F932, .one 0x1F94C,
   .all 0x1F95F 0x1F96B, .all 0x1F992 0x1F997, .all 0x1F9D0 0x1F9E6, .all 0x2CEB0 0x2EBE0]

def version11_0Runs : List Run :=
  [.one 0x0560, .one 0x0588, .one 0x05EF, .all 0x07FD 0x07FF, .one 0x08D3, .one 0x09FE,
   .one 0x0A76, .one 0x0C04, .one 0x0C84, .one 0x1878, .all 0x1C90 0x1CBA, .all 0x1CBD 0x1CBF,
   .all 0x2BBA 0x2BBC, .all 0x2BD3 0x2BEB, .all 0x2BF0 0x2BFE, .all 0x2E4A 0x2E4E, .one 0x312F,
   .all 0x9FEB 0x9FEF, .one 0xA7AF, .all 0xA7B8 0xA7B9, .all 0xA8FE 0xA8FF, .all 0x10A34 0x10A35,
   .one 0x10A48, .all 0x10D00 0x10D27, .all 0x10D30 0x10D39, .all 0x10F00 0x10F27,
   .all 0x10F30 0x10F59, .one 0x110CD, .all 0x11144 0x11146, .one 0x1133B, .one 0x1145E,
   .one 0x1171A, .all 0x11800 0x1183B, .one 0x11A9D, .all 0x11D60 0x11D65, .all 0x11D67 0x11D68,
   .all 0x11D6A 0x11D8E, .all 0x11D90 0x11D91, .all 0x11D93 0x11D98, .all 0x11DA0 0x11DA9,
   .all 0x11EE0 0x11EF8, .all 0x16E40 0x16E9A, .all 0x187ED 0x187F1, .all 0x1D2E0 0x1D2F3,
   .all 0x1D372 0x1D378, .all 0x1EC71 0x1ECB4, .one 0x1F12F, .one 0x1F6F9, .all 0x1F7D5 0x1F7D8,
   .all 0x1F94D 0x1F94F, .all 0x1F96C 0x1F970, .all 0x1F973 0x1F976, .one 0x1F97A,
   .all 0x1F97C 0x1F97F, .all 0x1F998 0x1F9A2, .all 0x1F9B0 0x1F9B9, .all 0x1F9C1 0x1F9C2,
   .all 0x1F9E7 0x1F9FF, .all 0x1FA60 0x1FA6D]

def version12_0Runs : List Run :=
  [.one 0x0C77, .one 0x0E86, .one 0x0E89, .one 0x0E8C, .all 0x0E8E 0x0E93, .one 0x0E98,
   .one 0x0EA0, .all 0x0EA8 0x0EA9, .one 0x0EAC, .one 0x0EBA, .one 0x1CFA, .one 0x2BC9,
   .one 0x2BFF, .one 0x2E4F, .all 0xA7BA 0xA7BF, .all 0xA7C2 0xA7C6, .all 0xAB66 0xAB67,
   .all 0x10FE0 0x10FF6, .one 0x1145F, .one 0x116B8, .all 0x119A0 0x119A7, .all 0x119AA 0x119D7,
   .all 0x119DA 0x119E4, .all 0x11A84 0x11A85, .all 0x11FC0 0x11FF1, .one 0x11FFF,
   .all 0x13430 0x13438, .all 0x16F45 0x16F4A, .one 0x16F4F, .all 0x16F7F 0x16F87,
   .all 0x16FE2 0x16FE3, .all 0x187F2 0x187F7, .all 0x1B150 0x1B152, .all 0x1B164 0x1B167,
   .all 0x1E100 0x1E12C, .all 0x1E130 0x1E13D, .all 0x1E140 0x1E149, .all 0x1E14E 0x1E14F,
   .all 0x1E2C0 0x1E2F9, .one 0x1E2FF, .one 0x1E94B, .all 0x1ED01 0x1ED3D, .one 0x1F16C,
   .one 0x1F6D5, .one 0x1F6FA, .all 0x1F7E0 0x1F7EB, .all 0x1F90D 0x1F90F, .one 0x1F93F,
   .one 0x1F971, .one 0x1F97B, .all 0x1F9A5 0x1F9AA, .all 0x1F9AE 0x1F9AF, .all 0x1F9BA 0x1F9BF,
   .all 0x1F9C3 0x1F9CA, .all 0x1F9CD 0x1F9CF, .all 0x1FA00 0x1FA53, .all 0x1FA70 0x1FA73,
   .all 0x1FA78 0x1FA7A, .all 0x1FA80 0x1FA82, .all 0x1FA90 0x1FA95]

def version12_1Runs : List Run :=
  [.one 0x32FF]

def version13_0Runs : List Run :=
  [.all 0x08BE 0x08C7, .one 0x0B55, .one 0x0D04, .one 0x0D81, .all 0x1ABF 0x1AC0, .one 0x2B97,
   .all 0x2E50 0x2E52, .all 0x31BB 0x31BF, .all 0x4DB6 0x4DBF, .all 0x9FF0 0x9FFC,
   .all 0xA7C7 0xA7CA, .all 0xA7F5 0xA7F6, .one 0xA82C, .all 0xAB68 0xAB6B, .one 0x1019C,
   .all 0x10E80 0x10EA9, .all 0x10EAB 0x10EAD, .all 0x10EB0 0x10EB1, .all 0x10FB0 0x10FCB,
   .one 0x11147, .all 0x111CE 0x111CF, .one 0x1145A, .all 0x11460 0x11461, .all 0x11900 0x11906,
   .one 0x11909, .all 0x1190C 0x11913, .all 0x11915 0x11916, .all 0x11918 0x11935,
   .all 0x11937 0x11938, .all 0x1193B 0x11946, .all 0x11950 0x11959, .one 0x11FB0, .one 0x16FE4,
   .all 0x16FF0 0x16FF1, .all 0x18AF3 0x18CD5, .all 0x18D00 0x18D08, .all 0x1F10D 0x1F10F,
   .all 0x1F16D 0x1F16F, .one 0x1F1AD, .all 0x1F6D6 0x1F6D7, .all 0x1F6FB 0x1F6FC,
   .all 0x1F8B0 0x1F8B1, .one 0x1F90C, .one 0x1F972, .all 0x1F977 0x1F978, .all 0x1F9A3 0x1F9A4,
   .all 0x1F9AB 0x1F9AD, .one 0x1F9CB, .one 0x1FA74, .all 0x1FA83 0x1FA86, .all 0x1FA96 0x1FAA8,
   .all 0x1FAB0 0x1FAB6, .all 0x1FAC0 0x1FAC2, .all 0x1FAD0 0x1FAD6, .all 0x1FB00 0x1FB92,
   .all 0x1FB94 0x1FBCA, .all 0x1FBF0 0x1FBF9, .all 0x2A6D7 0x2A6DD, .all 0x30000 0x3134A]

def version14_0Runs : List Run :=
  [.one 0x061D, .all 0x0870 0x088E, .all 0x0890 0x0891, .all 0x0898 0x089F, .one 0x08B5,
   .all 0x08C8 0x08D2, .one 0x0C3C, .one 0x0C5D, .one 0x0CDD, .one 0x170D, .one 0x1715,
   .one 0x171F, .one 0x180F, .all 0x1AC1 0x1ACE, .one 0x1B4C, .all 0x1B7D 0x1B7E, .one 0x1DFA,
   .one 0x20C0, .one 0x2C2F, .one 0x2C5F, .all 0x2E53 0x2E5D, .all 0x9FFD 0x9FFF,
   .all 0xA7C0 0xA7C1, .all 0xA7D0 0xA7D1, .one 0xA7D3, .all 0xA7D5 0xA7D9, .all 0xA7F2 0xA7F4,
   .one 0xFBC2, .all 0xFD40 0xFD4F, .one 0xFDCF, .all 0xFDFE 0xFDFF, .all 0x10570 0x1057A,
   .all 0x1057C 0x1058A, .all 0x1058C 0x10592, .all 0x10594 0x10595, .all 0x10597 0x105A1,
   .all 0x105A3 0x105B1, .all 0x105B3 0x105B9, .all 0x105BB 0x105BC, .all 0x10780 0x10785,
   .all 0x10787 0x107B0, .all 0x107B2 0x107BA, .all 0x10F70 0x10F89, .all 0x11070 0x11075,
   .one 0x110C2, .one 0x116B9, .all 0x11740 0x11746, .all 0x11AB0 0x11ABF, .all 0x12F90 0x12FF2,
   .all 0x16A70 0x16ABE, .all 0x16AC0 0x16AC9, .all 0x1AFF0 0x1AFF3, .all 0x1AFF5 0x1AFFB,
   .all 0x1AFFD 0x1AFFE, .all 0x1B11F 0x1B122, .all 0x1CF00 0x1CF2D, .all 0x1CF30 0x1CF46,
   .all 0x1CF50 0x1CFC3, .all 0x1D1E9 0x1D1EA, .all 0x1DF00 0x1DF1E, .all 0x1E290 0x1E2AE,
   .all 0x1E7E0 0x1E7E6, .all 0x1E7E8 0x1E7EB, .all 0x1E7ED 0x1E7EE, .all 0x1E7F0 0x1E7FE,
   .all 0x1F6DD 0x1F6DF, .one 0x1F7F0, .one 0x1F979, .one 0x1F9CC, .all 0x1FA7B 0x1FA7C,
   .all 0x1FAA9 0x1FAAC, .all 0x1FAB7 0x1FABA, .all 0x1FAC3 0x1FAC5, .all 0x1FAD7 0x1FAD9,
   .all 0x1FAE0 0x1FAE7, .all 0x1FAF0 0x1FAF6, .all 0x2A6DE 0x2A6DF, .all 0x2B735 0x2B738]

def version15_0Runs : List Run :=
  [.one 0x0CF3, .one 0x0ECE, .all 0x10EFD 0x10EFF, .all 0x1123F 0x11241, .all 0x11B00 0x11B09,
   .all 0x11F00 0x11F10, .all 0x11F12 0x11F3A, .all 0x11F3E 0x11F59, .one 0x1342F,
   .all 0x13439 0x13455, .one 0x1B132, .one 0x1B155, .all 0x1D2C0 0x1D2D3, .all 0x1DF25 0x1DF2A,
   .all 0x1E030 0x1E06D, .one 0x1E08F, .all 0x1E4D0 0x1E4F9, .one 0x1F6DC, .all 0x1F774 0x1F776,
   .all 0x1F77B 0x1F77F, .one 0x1F7D9, .all 0x1FA75 0x1FA77, .all 0x1FA87 0x1FA88,
   .all 0x1FAAD 0x1FAAF, .all 0x1FABB 0x1FABD, .one 0x1FABF, .all 0x1FACE 0x1FACF,
   .all 0x1FADA 0x1FADB, .one 0x1FAE8, .all 0x1FAF7 0x1FAF8, .one 0x2B739, .all 0x31350 0x323AF]

def version15_1Runs : List Run :=
  [.all 0x2FFC 0x2FFF, .one 0x31EF, .all 0x2EBF0 0x2EE5D]

def version16_0Runs : List Run :=
  [.one 0x0897, .all 0x1B4E 0x1B4F, .one 0x1B7F, .all 0x1C89 0x1C8A, .all 0x2427 0x2429,
   .all 0x31E4 0x31E5, .all 0xA7CB 0xA7CD, .all 0xA7DA 0xA7DC, .all 0x105C0 0x105F3,
   .all 0x10D40 0x10D65, .all 0x10D69 0x10D85, .all 0x10D8E 0x10D8F, .all 0x10EC2 0x10EC4,
   .one 0x10EFC, .all 0x11380 0x11389, .one 0x1138B, .one 0x1138E, .all 0x11390 0x113B5,
   .all 0x113B7 0x113C0, .one 0x113C2, .one 0x113C5, .all 0x113C7 0x113CA, .all 0x113CC 0x113D5,
   .all 0x113D7 0x113D8, .all 0x113E1 0x113E2, .all 0x116D0 0x116E3, .all 0x11BC0 0x11BE1,
   .all 0x11BF0 0x11BF9, .one 0x11F5A, .all 0x13460 0x143FA, .all 0x16100 0x16139,
   .all 0x16D40 0x16D79, .one 0x18CFF, .all 0x1CC00 0x1CCF9, .all 0x1CD00 0x1CEB3,
   .all 0x1E5D0 0x1E5FA, .one 0x1E5FF, .all 0x1F8B2 0x1F8BB, .all 0x1F8C0 0x1F8C1, .one 0x1FA89,
   .one 0x1FA8F, .one 0x1FABE, .one 0x1FAC6, .one 0x1FADC, .one 0x1FADF, .one 0x1FAE9,
   .all 0x1FBCB 0x1FBEF]

/-- The versions in order, each with what it added. -/
def additions : List (Version × List Run) :=
  [(⟨1, 1⟩, version1_1Runs), (⟨2, 0⟩, version2_0Runs), (⟨2, 1⟩, version2_1Runs),
   (⟨3, 0⟩, version3_0Runs), (⟨3, 1⟩, version3_1Runs), (⟨3, 2⟩, version3_2Runs),
   (⟨4, 0⟩, version4_0Runs), (⟨4, 1⟩, version4_1Runs), (⟨5, 0⟩, version5_0Runs),
   (⟨5, 1⟩, version5_1Runs), (⟨5, 2⟩, version5_2Runs), (⟨6, 0⟩, version6_0Runs),
   (⟨6, 1⟩, version6_1Runs), (⟨6, 2⟩, version6_2Runs), (⟨6, 3⟩, version6_3Runs),
   (⟨7, 0⟩, version7_0Runs), (⟨8, 0⟩, version8_0Runs), (⟨9, 0⟩, version9_0Runs),
   (⟨10, 0⟩, version10_0Runs), (⟨11, 0⟩, version11_0Runs), (⟨12, 0⟩, version12_0Runs),
   (⟨12, 1⟩, version12_1Runs), (⟨13, 0⟩, version13_0Runs), (⟨14, 0⟩, version14_0Runs),
   (⟨15, 0⟩, version15_0Runs), (⟨15, 1⟩, version15_1Runs), (⟨16, 0⟩, version16_0Runs)]

namespace Version

def named? (name : String) : Option Version :=
  (additions.find? fun entry => entry.1.names.contains name).map Prod.fst

def atMost (v w : Version) : Bool :=
  decide (v.major < w.major) || (v.major == w.major && decide (v.minor ≤ w.minor))

/-- The code points assigned in a version or before it. -/
def set (v : Version) : CharSet :=
  CharSet.unions ((additions.filter fun entry => entry.1.atMost v).map fun entry =>
    .ofRuns entry.2)

end Version

end RuleLexer.Unicode
