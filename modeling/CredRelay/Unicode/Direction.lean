import CredRelay.Unicode.Range
/-! The direction classes of characters, as far as names of hosts need them. Characters
that no table holds run left to right. -/
namespace CredRelay.Unicode

/-- The direction class of a character. -/
inductive Direction where
  | leftToRight
  | rightToLeft
  | arabicLetter
  | arabicNumber
  | europeanNumber
  | europeanSeparator
  | commonSeparator
  | europeanTerminator
  | otherNeutral
  | boundaryNeutral
  | nonspacingMark
  | separator
  deriving DecidableEq, Repr

/-- The right-to-left letters other than Arabic ones. -/
def rightToLeftRanges : List Range := Range.list
  [0x590, 0x5BE, 0x5C0, 0x5C3, 0x5C6, 0x5C8_0005FF, 0x7C0_0007EA, 0x7F4_0007F5,
  0x7FA_0007FC,
   0x7FE_000815, 0x81A, 0x824, 0x828, 0x82E_000858, 0x85C_00085F, 0x200F, 0xFB1D,
   0xFB1F_00FB28, 0xFB2A_00FB4F, 0x10800_01091E, 0x10920_010A00, 0x10A04, 0x10A07_010A0B,
   0x10A10_010A37, 0x10A3B_010A3E, 0x10A40_010AE4, 0x10AE7_010B38, 0x10B40_010CFF,
   0x10D40_010E5F, 0x10E7F_010EAA, 0x10EAD_010EBF, 0x10F00_010F2F, 0x10F70_010F81,
   0x10F86_010FFF, 0x1E800_01E8CF, 0x1E8D7_01E943, 0x1E94B_01EC6F, 0x1ECC0_01ECFF,
   0x1ED50_01EDFF, 0x1EF00_01EFFF]

/-- The Arabic letters. -/
def arabicLetterRanges : List Range := Range.list
  [0x608, 0x60B, 0x60D, 0x61B_00064A, 0x66D_00066F, 0x671_0006D5, 0x6E5_0006E6,
  0x6EE_0006EF,
   0x6FA_000710, 0x712_00072F, 0x74B_0007A5, 0x7B1_0007BF, 0x860_00088F, 0x892_000897,
   0x8A0_0008C9, 0xFB50_00FD3D, 0xFD50_00FDCE, 0xFDF0_00FDFC, 0xFE70_00FEFE,
   0x10D00_010D23, 0x10D28_010D2F, 0x10D3A_010D3F, 0x10EC0_010EFC, 0x10F30_010F45,
   0x10F51_010F6F, 0x1EC70_01ECBF, 0x1ED00_01ED4F, 0x1EE00_01EEEF, 0x1EEF2_01EEFF]

/-- The Arabic numbers. -/
def arabicNumberRanges : List Range := Range.list
  [0x600_000605, 0x660_000669, 0x66B_00066C, 0x6DD, 0x890_000891, 0x8E2, 0x10D30_010D39,
   0x10E60_010E7E]

/-- The European numbers. -/
def europeanNumberRanges : List Range := Range.list
  [0x30_000039, 0xB2_0000B3, 0xB9, 0x6F0_0006F9, 0x2070, 0x2074_002079, 0x2080_002089,
   0x2488_00249B, 0xFF10_00FF19, 0x102E1_0102FB, 0x1D7CE_01D7FF, 0x1F100_01F10A,
   0x1FBF0_01FBF9]

/-- The separators of European numbers. -/
def europeanSeparatorRanges : List Range := Range.list
  [0x2B, 0x2D, 0x207A_00207B, 0x208A_00208B, 0x2212, 0xFB29, 0xFE62_00FE63, 0xFF0B,
  0xFF0D]

/-- The common separators. -/
def commonSeparatorRanges : List Range := Range.list
  [0x2C, 0x2E_00002F, 0x3A, 0xA0, 0x60C, 0x202F, 0x2044, 0xFE50, 0xFE52, 0xFE55, 0xFF0C,
   0xFF0E_00FF0F, 0xFF1A]

/-- The terminators of European numbers. -/
def europeanTerminatorRanges : List Range := Range.list
  [0x23_000025, 0xA2_0000A5, 0xB0_0000B1, 0x58F, 0x609_00060A, 0x66A, 0x9F2_0009F3,
  0x9FB, 0xAF1,
   0xBF9, 0xE3F, 0x17DB, 0x2030_002034, 0x20A0_0020CF, 0x212E, 0x2213, 0xA838_00A839,
   0xFE5F, 0xFE69_00FE6A, 0xFF03_00FF05, 0xFFE0_00FFE1, 0xFFE5_00FFE6, 0x11FDD_011FE0,
   0x1E2FF]

/-- The other neutral characters. -/
def otherNeutralRanges : List Range := Range.list
  [0x21_000022, 0x26_00002A, 0x3B_000040, 0x5B_000060, 0x7B_00007E, 0xA1, 0xA6_0000A9,
  0xAB_0000AC,
   0xAE_0000AF, 0xB4, 0xB6_0000B8, 0xBB_0000BF, 0xD7, 0xF7, 0x2B9_0002BA, 0x2C2_0002CF,
   0x2D2_0002DF, 0x2E5_0002ED, 0x2EF_0002FF, 0x374_000375, 0x37E, 0x384_000385, 0x387,
   0x3F6, 0x58A, 0x58D_00058E, 0x606_000607, 0x60E_00060F, 0x6DE, 0x6E9, 0x7F6_0007F9,
   0xBF3_000BF8, 0xBFA, 0xC78_000C7E, 0xF3A_000F3D, 0x1390_001399, 0x1400, 0x169B_00169C,
   0x17F0_0017F9, 0x1800_00180A, 0x1940, 0x1944_001945, 0x19DE_0019FF, 0x1FBD,
   0x1FBF_001FC1, 0x1FCD_001FCF, 0x1FDD_001FDF, 0x1FED_001FEF, 0x1FFD_001FFE,
   0x2010_002027, 0x2035_002043, 0x2045_00205E, 0x207C_00207E, 0x208C_00208E,
   0x2100_002101, 0x2103_002106, 0x2108_002109, 0x2114, 0x2116_002118, 0x211E_002123,
   0x2125, 0x2127, 0x2129, 0x213A_00213B, 0x2140_002144, 0x214A_00214D, 0x2150_00215F,
   0x2189_00218B, 0x2190_002211, 0x2214_002335, 0x237B_002394, 0x2396_002426,
   0x2440_00244A, 0x2460_002487, 0x24EA_0026AB, 0x26AD_0027FF, 0x2900_002B73,
   0x2B76_002B95, 0x2B97_002BFF, 0x2CE5_002CEA, 0x2CF9_002CFF, 0x2E00_002E5D,
   0x2E80_002E99, 0x2E9B_002EF3, 0x2F00_002FD5, 0x2FF0_002FFB, 0x3001_003004,
   0x3008_003020, 0x3030, 0x3036_003037, 0x303D_00303F, 0x309B_00309C, 0x30A0, 0x30FB,
   0x31C0_0031E3, 0x321D_00321E, 0x3250_00325F, 0x327C_00327E, 0x32B1_0032BF,
   0x32CC_0032CF, 0x3377_00337A, 0x33DE_0033DF, 0x33FF, 0x4DC0_004DFF, 0xA490_00A4C6,
   0xA60D_00A60F, 0xA673, 0xA67E_00A67F, 0xA700_00A721, 0xA788, 0xA828_00A82B,
   0xA874_00A877, 0xAB6A_00AB6B, 0xFD3E_00FD4F, 0xFDCF, 0xFDFD_00FDFF, 0xFE10_00FE19,
   0xFE30_00FE4F, 0xFE51, 0xFE54, 0xFE56_00FE5E, 0xFE60_00FE61, 0xFE64_00FE66, 0xFE68,
   0xFE6B, 0xFF01_00FF02, 0xFF06_00FF0A, 0xFF1B_00FF20, 0xFF3B_00FF40, 0xFF5B_00FF65,
   0xFFE2_00FFE4, 0xFFE8_00FFEE, 0xFFF9_00FFFD, 0x10101, 0x10140_01018C, 0x10190_01019C,
   0x101A0, 0x1091F, 0x10B39_010B3F, 0x11052_011065, 0x11660_01166C, 0x11FD5_011FDC,
   0x11FE1_011FF1, 0x16FE2, 0x1D1E9_01D1EA, 0x1D200_01D241, 0x1D245, 0x1D300_01D356,
   0x1D6DB, 0x1D715, 0x1D74F, 0x1D789, 0x1D7C3, 0x1EEF0_01EEF1, 0x1F000_01F02B,
   0x1F030_01F093, 0x1F0A0_01F0AE, 0x1F0B1_01F0BF, 0x1F0C1_01F0CF, 0x1F0D1_01F0F5,
   0x1F10B_01F10F, 0x1F12F, 0x1F16A_01F16F, 0x1F1AD, 0x1F260_01F265, 0x1F300_01F6D7,
   0x1F6DC_01F6EC, 0x1F6F0_01F6FC, 0x1F700_01F776, 0x1F77B_01F7D9, 0x1F7E0_01F7EB,
   0x1F7F0, 0x1F800_01F80B, 0x1F810_01F847, 0x1F850_01F859, 0x1F860_01F887,
   0x1F890_01F8AD, 0x1F8B0_01F8B1, 0x1F900_01FA53, 0x1FA60_01FA6D, 0x1FA70_01FA7C,
   0x1FA80_01FA88, 0x1FA90_01FABD, 0x1FABF_01FAC5, 0x1FACE_01FADB, 0x1FAE0_01FAE8,
   0x1FAF0_01FAF8, 0x1FB00_01FB92, 0x1FB94_01FBCA]

/-- The neutral boundaries. -/
def boundaryNeutralRanges : List Range := Range.list
  [0x0, 0x1_000008, 0xE_00001B, 0x7F_000084, 0x86_00009F, 0xAD, 0x180E, 0x200B_00200D,
   0x2060_002065, 0x206A_00206F, 0xFDD0_00FDEF, 0xFEFF, 0xFFF0_00FFF8, 0xFFFE_00FFFF,
   0x1BCA0_01BCA3, 0x1D173_01D17A, 0x1FFFE_01FFFF, 0x2FFFE_02FFFF, 0x3FFFE_03FFFF,
   0x4FFFE_04FFFF, 0x5FFFE_05FFFF, 0x6FFFE_06FFFF, 0x7FFFE_07FFFF, 0x8FFFE_08FFFF,
   0x9FFFE_09FFFF, 0xAFFFE_0AFFFF, 0xBFFFE_0BFFFF, 0xCFFFE_0CFFFF, 0xDFFFE_0E00FF,
   0xE01F0_0E0FFF, 0xEFFFE_0EFFFF, 0xFFFFE_0FFFFF, 0x10FFFE_10FFFF]

/-- The nonspacing marks. -/
def nonspacingMarkRanges : List Range := Range.list
  [0x300_00036F, 0x483_000489, 0x591_0005BD, 0x5BF, 0x5C1_0005C2, 0x5C4_0005C5, 0x5C7,
  0x610_00061A,
   0x64B_00065F, 0x670, 0x6D6_0006DC, 0x6DF_0006E4, 0x6E7_0006E8, 0x6EA_0006ED, 0x711,
   0x730_00074A, 0x7A6_0007B0, 0x7EB_0007F3, 0x7FD, 0x816_000819, 0x81B_000823,
   0x825_000827, 0x829_00082D, 0x859_00085B, 0x898_00089F, 0x8CA_0008E1, 0x8E3_000902,
   0x93A, 0x93C, 0x941_000948, 0x94D, 0x951_000957, 0x962_000963, 0x981, 0x9BC,
   0x9C1_0009C4, 0x9CD, 0x9E2_0009E3, 0x9FE, 0xA01_000A02, 0xA3C, 0xA41_000A42,
   0xA47_000A48, 0xA4B_000A4D, 0xA51, 0xA70_000A71, 0xA75, 0xA81_000A82, 0xABC,
   0xAC1_000AC5, 0xAC7_000AC8, 0xACD, 0xAE2_000AE3, 0xAFA_000AFF, 0xB01, 0xB3C, 0xB3F,
   0xB41_000B44, 0xB4D, 0xB55_000B56, 0xB62_000B63, 0xB82, 0xBC0, 0xBCD, 0xC00, 0xC04,
   0xC3C, 0xC3E_000C40, 0xC46_000C48, 0xC4A_000C4D, 0xC55_000C56, 0xC62_000C63, 0xC81,
   0xCBC, 0xCCC_000CCD, 0xCE2_000CE3, 0xD00_000D01, 0xD3B_000D3C, 0xD41_000D44, 0xD4D,
   0xD62_000D63, 0xD81, 0xDCA, 0xDD2_000DD4, 0xDD6, 0xE31, 0xE34_000E3A, 0xE47_000E4E,
   0xEB1, 0xEB4_000EBC, 0xEC8_000ECE, 0xF18_000F19, 0xF35, 0xF37, 0xF39, 0xF71_000F7E,
   0xF80_000F84, 0xF86_000F87, 0xF8D_000F97, 0xF99_000FBC, 0xFC6, 0x102D_001030,
   0x1032_001037, 0x1039_00103A, 0x103D_00103E, 0x1058_001059, 0x105E_001060,
   0x1071_001074, 0x1082, 0x1085_001086, 0x108D, 0x109D, 0x135D_00135F, 0x1712_001714,
   0x1732_001733, 0x1752_001753, 0x1772_001773, 0x17B4_0017B5, 0x17B7_0017BD, 0x17C6,
   0x17C9_0017D3, 0x17DD, 0x180B_00180D, 0x180F, 0x1885_001886, 0x18A9, 0x1920_001922,
   0x1927_001928, 0x1932, 0x1939_00193B, 0x1A17_001A18, 0x1A1B, 0x1A56, 0x1A58_001A5E,
   0x1A60, 0x1A62, 0x1A65_001A6C, 0x1A73_001A7C, 0x1A7F, 0x1AB0_001ACE, 0x1B00_001B03,
   0x1B34, 0x1B36_001B3A, 0x1B3C, 0x1B42, 0x1B6B_001B73, 0x1B80_001B81, 0x1BA2_001BA5,
   0x1BA8_001BA9, 0x1BAB_001BAD, 0x1BE6, 0x1BE8_001BE9, 0x1BED, 0x1BEF_001BF1,
   0x1C2C_001C33, 0x1C36_001C37, 0x1CD0_001CD2, 0x1CD4_001CE0, 0x1CE2_001CE8, 0x1CED,
   0x1CF4, 0x1CF8_001CF9, 0x1DC0_001DFF, 0x20D0_0020F0, 0x2CEF_002CF1, 0x2D7F,
   0x2DE0_002DFF, 0x302A_00302D, 0x3099_00309A, 0xA66F_00A672, 0xA674_00A67D,
   0xA69E_00A69F, 0xA6F0_00A6F1, 0xA802, 0xA806, 0xA80B, 0xA825_00A826, 0xA82C,
   0xA8C4_00A8C5, 0xA8E0_00A8F1, 0xA8FF, 0xA926_00A92D, 0xA947_00A951, 0xA980_00A982,
   0xA9B3, 0xA9B6_00A9B9, 0xA9BC_00A9BD, 0xA9E5, 0xAA29_00AA2E, 0xAA31_00AA32,
   0xAA35_00AA36, 0xAA43, 0xAA4C, 0xAA7C, 0xAAB0, 0xAAB2_00AAB4, 0xAAB7_00AAB8,
   0xAABE_00AABF, 0xAAC1, 0xAAEC_00AAED, 0xAAF6, 0xABE5, 0xABE8, 0xABED, 0xFB1E,
   0xFE00_00FE0F, 0xFE20_00FE2F, 0x101FD, 0x102E0, 0x10376_01037A, 0x10A01_010A03,
   0x10A05_010A06, 0x10A0C_010A0F, 0x10A38_010A3A, 0x10A3F, 0x10AE5_010AE6,
   0x10D24_010D27, 0x10EAB_010EAC, 0x10EFD_010EFF, 0x10F46_010F50, 0x10F82_010F85,
   0x11001, 0x11038_011046, 0x11070, 0x11073_011074, 0x1107F_011081, 0x110B3_0110B6,
   0x110B9_0110BA, 0x110C2, 0x11100_011102, 0x11127_01112B, 0x1112D_011134, 0x11173,
   0x11180_011181, 0x111B6_0111BE, 0x111C9_0111CC, 0x111CF, 0x1122F_011231, 0x11234,
   0x11236_011237, 0x1123E, 0x11241, 0x112DF, 0x112E3_0112EA, 0x11300_011301,
   0x1133B_01133C, 0x11340, 0x11366_01136C, 0x11370_011374, 0x11438_01143F,
   0x11442_011444, 0x11446, 0x1145E, 0x114B3_0114B8, 0x114BA, 0x114BF_0114C0,
   0x114C2_0114C3, 0x115B2_0115B5, 0x115BC_0115BD, 0x115BF_0115C0, 0x115DC_0115DD,
   0x11633_01163A, 0x1163D, 0x1163F_011640, 0x116AB, 0x116AD, 0x116B0_0116B5, 0x116B7,
   0x1171D_01171F, 0x11722_011725, 0x11727_01172B, 0x1182F_011837, 0x11839_01183A,
   0x1193B_01193C, 0x1193E, 0x11943, 0x119D4_0119D7, 0x119DA_0119DB, 0x119E0,
   0x11A01_011A06, 0x11A09_011A0A, 0x11A33_011A38, 0x11A3B_011A3E, 0x11A47,
   0x11A51_011A56, 0x11A59_011A5B, 0x11A8A_011A96, 0x11A98_011A99, 0x11C30_011C36,
   0x11C38_011C3D, 0x11C92_011CA7, 0x11CAA_011CB0, 0x11CB2_011CB3, 0x11CB5_011CB6,
   0x11D31_011D36, 0x11D3A, 0x11D3C_011D3D, 0x11D3F_011D45, 0x11D47, 0x11D90_011D91,
   0x11D95, 0x11D97, 0x11EF3_011EF4, 0x11F00_011F01, 0x11F36_011F3A, 0x11F40, 0x11F42,
   0x13440, 0x13447_013455, 0x16AF0_016AF4, 0x16B30_016B36, 0x16F4F, 0x16F8F_016F92,
   0x16FE4, 0x1BC9D_01BC9E, 0x1CF00_01CF2D, 0x1CF30_01CF46, 0x1D167_01D169,
   0x1D17B_01D182, 0x1D185_01D18B, 0x1D1AA_01D1AD, 0x1D242_01D244, 0x1DA00_01DA36,
   0x1DA3B_01DA6C, 0x1DA75, 0x1DA84, 0x1DA9B_01DA9F, 0x1DAA1_01DAAF, 0x1E000_01E006,
   0x1E008_01E018, 0x1E01B_01E021, 0x1E023_01E024, 0x1E026_01E02A, 0x1E08F,
   0x1E130_01E136, 0x1E2AE, 0x1E2EC_01E2EF, 0x1E4EC_01E4EF, 0x1E8D0_01E8D6,
   0x1E944_01E94A, 0xE0100_0E01EF]

/-- White space, paragraph separators and explicit controls of direction. -/
def separatorRanges : List Range := Range.list
  [0x9_00000D, 0x1C_000020, 0x85, 0x1680, 0x2000_00200A, 0x2028_00202E, 0x205F,
  0x2066_002069,
   0x3000]

/-- The direction class of a character. -/
def direction (c : Char) : Direction :=
  if Range.holds rightToLeftRanges c then .rightToLeft
  else if Range.holds arabicLetterRanges c then .arabicLetter
  else if Range.holds arabicNumberRanges c then .arabicNumber
  else if Range.holds europeanNumberRanges c then .europeanNumber
  else if Range.holds europeanSeparatorRanges c then .europeanSeparator
  else if Range.holds commonSeparatorRanges c then .commonSeparator
  else if Range.holds europeanTerminatorRanges c then .europeanTerminator
  else if Range.holds otherNeutralRanges c then .otherNeutral
  else if Range.holds boundaryNeutralRanges c then .boundaryNeutral
  else if Range.holds nonspacingMarkRanges c then .nonspacingMark
  else if Range.holds separatorRanges c then .separator
  else .leftToRight

end CredRelay.Unicode
