import CredRelay.Unicode.Range
/-! How letters join in cursive scripts, and the marks that kill an inherent vowel. -/
namespace CredRelay.Unicode

/-- Characters that join on their left. -/
def joinsLeftRanges : List Range := Range.list
  [0x620, 0x626, 0x628, 0x62A_00062E, 0x633_00063F, 0x641_000647, 0x649_00064A,
  0x66E_00066F,
   0x678_000687, 0x69A_0006BF, 0x6C1_0006C2, 0x6CC, 0x6CE, 0x6D0_0006D1, 0x6FA_0006FC,
   0x6FF, 0x712_000714, 0x71A_00071D, 0x71F_000727, 0x729, 0x72B, 0x72D_00072E,
   0x74E_000758, 0x75C_00076A, 0x76D_000770, 0x772, 0x775_000777, 0x77A_00077F,
   0x7CA_0007EA, 0x841_000845, 0x848, 0x84A_000853, 0x855, 0x860, 0x862_000865, 0x868,
   0x886, 0x889_00088D, 0x8A0_0008A9, 0x8AF_0008B0, 0x8B3_0008B8, 0x8BA_0008C8, 0x1807,
   0x1820_001878, 0x1887_0018A8, 0x18AA, 0xA840_00A872, 0x10AC0_010AC4, 0x10ACD,
   0x10AD3_010ADC, 0x10ADE_010AE0, 0x10AEB_010AEE, 0x10B80, 0x10B82, 0x10B86_010B88,
   0x10B8A_010B8B, 0x10B8D, 0x10B90, 0x10BAD_010BAE, 0x10D00_010D21, 0x10D23,
   0x10F30_010F32, 0x10F34_010F44, 0x10F51_010F53, 0x10F70_010F73, 0x10F76_010F81,
   0x10FB0, 0x10FB2_010FB3, 0x10FB8, 0x10FBB_010FBC, 0x10FBE_010FBF, 0x10FC1, 0x10FC4,
   0x10FCA_010FCB, 0x1E900_01E943]

/-- Characters that join on their right. -/
def joinsRightRanges : List Range := Range.list
  [0x620, 0x622_00063F, 0x641_00064A, 0x66E_00066F, 0x671_000673, 0x675_0006D3, 0x6D5,
  0x6EE_0006EF,
   0x6FA_0006FC, 0x6FF, 0x710, 0x712_00072F, 0x74D_00077F, 0x7CA_0007EA, 0x840_000858,
   0x860, 0x862_000865, 0x867_00086A, 0x870_000882, 0x886, 0x889_00088E, 0x8A0_0008AC,
   0x8AE_0008C8, 0x1807, 0x1820_001878, 0x1887_0018A8, 0x18AA, 0xA840_00A871,
   0x10AC0_010AC5, 0x10AC7, 0x10AC9_010ACA, 0x10ACE_010AD6, 0x10AD8_010AE1, 0x10AE4,
   0x10AEB_010AEF, 0x10B80_010B91, 0x10BA9_010BAE, 0x10D01_010D23, 0x10F30_010F44,
   0x10F51_010F54, 0x10F70_010F81, 0x10FB0, 0x10FB2_010FB6, 0x10FB8_010FBF,
   0x10FC1_010FC4, 0x10FC9_010FCA, 0x1E900_01E943]

/-- Characters that joining looks through. -/
def transparentRanges : List Range := Range.list
  [0xAD, 0x300_00036F, 0x483_000489, 0x591_0005BD, 0x5BF, 0x5C1_0005C2, 0x5C4_0005C5,
  0x5C7,
   0x610_00061A, 0x61C, 0x64B_00065F, 0x670, 0x6D6_0006DC, 0x6DF_0006E4, 0x6E7_0006E8,
   0x6EA_0006ED, 0x70F, 0x711, 0x730_00074A, 0x7A6_0007B0, 0x7EB_0007F3, 0x7FD,
   0x816_000819, 0x81B_000823, 0x825_000827, 0x829_00082D, 0x859_00085B, 0x898_00089F,
   0x8CA_0008E1, 0x8E3_000902, 0x93A, 0x93C, 0x941_000948, 0x94D, 0x951_000957,
   0x962_000963, 0x981, 0x9BC, 0x9C1_0009C4, 0x9CD, 0x9E2_0009E3, 0x9FE, 0xA01_000A02,
   0xA3C, 0xA41_000A42, 0xA47_000A48, 0xA4B_000A4D, 0xA51, 0xA70_000A71, 0xA75,
   0xA81_000A82, 0xABC, 0xAC1_000AC5, 0xAC7_000AC8, 0xACD, 0xAE2_000AE3, 0xAFA_000AFF,
   0xB01, 0xB3C, 0xB3F, 0xB41_000B44, 0xB4D, 0xB55_000B56, 0xB62_000B63, 0xB82, 0xBC0,
   0xBCD, 0xC00, 0xC04, 0xC3C, 0xC3E_000C40, 0xC46_000C48, 0xC4A_000C4D, 0xC55_000C56,
   0xC62_000C63, 0xC81, 0xCBC, 0xCBF, 0xCC6, 0xCCC_000CCD, 0xCE2_000CE3, 0xD00_000D01,
   0xD3B_000D3C, 0xD41_000D44, 0xD4D, 0xD62_000D63, 0xD81, 0xDCA, 0xDD2_000DD4, 0xDD6,
   0xE31, 0xE34_000E3A, 0xE47_000E4E, 0xEB1, 0xEB4_000EBC, 0xEC8_000ECE, 0xF18_000F19,
   0xF35, 0xF37, 0xF39, 0xF71_000F7E, 0xF80_000F84, 0xF86_000F87, 0xF8D_000F97,
   0xF99_000FBC, 0xFC6, 0x102D_001030, 0x1032_001037, 0x1039_00103A, 0x103D_00103E,
   0x1058_001059, 0x105E_001060, 0x1071_001074, 0x1082, 0x1085_001086, 0x108D, 0x109D,
   0x135D_00135F, 0x1712_001714, 0x1732_001733, 0x1752_001753, 0x1772_001773,
   0x17B4_0017B5, 0x17B7_0017BD, 0x17C6, 0x17C9_0017D3, 0x17DD, 0x180B_00180D, 0x180F,
   0x1885_001886, 0x18A9, 0x1920_001922, 0x1927_001928, 0x1932, 0x1939_00193B,
   0x1A17_001A18, 0x1A1B, 0x1A56, 0x1A58_001A5E, 0x1A60, 0x1A62, 0x1A65_001A6C,
   0x1A73_001A7C, 0x1A7F, 0x1AB0_001ACE, 0x1B00_001B03, 0x1B34, 0x1B36_001B3A, 0x1B3C,
   0x1B42, 0x1B6B_001B73, 0x1B80_001B81, 0x1BA2_001BA5, 0x1BA8_001BA9, 0x1BAB_001BAD,
   0x1BE6, 0x1BE8_001BE9, 0x1BED, 0x1BEF_001BF1, 0x1C2C_001C33, 0x1C36_001C37,
   0x1CD0_001CD2, 0x1CD4_001CE0, 0x1CE2_001CE8, 0x1CED, 0x1CF4, 0x1CF8_001CF9,
   0x1DC0_001DFF, 0x200B, 0x200E_00200F, 0x202A_00202E, 0x2060_002064, 0x206A_00206F,
   0x20D0_0020F0, 0x2CEF_002CF1, 0x2D7F, 0x2DE0_002DFF, 0x302A_00302D, 0x3099_00309A,
   0xA66F_00A672, 0xA674_00A67D, 0xA69E_00A69F, 0xA6F0_00A6F1, 0xA802, 0xA806, 0xA80B,
   0xA825_00A826, 0xA82C, 0xA8C4_00A8C5, 0xA8E0_00A8F1, 0xA8FF, 0xA926_00A92D,
   0xA947_00A951, 0xA980_00A982, 0xA9B3, 0xA9B6_00A9B9, 0xA9BC_00A9BD, 0xA9E5,
   0xAA29_00AA2E, 0xAA31_00AA32, 0xAA35_00AA36, 0xAA43, 0xAA4C, 0xAA7C, 0xAAB0,
   0xAAB2_00AAB4, 0xAAB7_00AAB8, 0xAABE_00AABF, 0xAAC1, 0xAAEC_00AAED, 0xAAF6, 0xABE5,
   0xABE8, 0xABED, 0xFB1E, 0xFE00_00FE0F, 0xFE20_00FE2F, 0xFEFF, 0xFFF9_00FFFB, 0x101FD,
   0x102E0, 0x10376_01037A, 0x10A01_010A03, 0x10A05_010A06, 0x10A0C_010A0F,
   0x10A38_010A3A, 0x10A3F, 0x10AE5_010AE6, 0x10D24_010D27, 0x10EAB_010EAC,
   0x10EFD_010EFF, 0x10F46_010F50, 0x10F82_010F85, 0x11001, 0x11038_011046, 0x11070,
   0x11073_011074, 0x1107F_011081, 0x110B3_0110B6, 0x110B9_0110BA, 0x110C2,
   0x11100_011102, 0x11127_01112B, 0x1112D_011134, 0x11173, 0x11180_011181,
   0x111B6_0111BE, 0x111C9_0111CC, 0x111CF, 0x1122F_011231, 0x11234, 0x11236_011237,
   0x1123E, 0x11241, 0x112DF, 0x112E3_0112EA, 0x11300_011301, 0x1133B_01133C, 0x11340,
   0x11366_01136C, 0x11370_011374, 0x11438_01143F, 0x11442_011444, 0x11446, 0x1145E,
   0x114B3_0114B8, 0x114BA, 0x114BF_0114C0, 0x114C2_0114C3, 0x115B2_0115B5,
   0x115BC_0115BD, 0x115BF_0115C0, 0x115DC_0115DD, 0x11633_01163A, 0x1163D,
   0x1163F_011640, 0x116AB, 0x116AD, 0x116B0_0116B5, 0x116B7, 0x1171D_01171F,
   0x11722_011725, 0x11727_01172B, 0x1182F_011837, 0x11839_01183A, 0x1193B_01193C,
   0x1193E, 0x11943, 0x119D4_0119D7, 0x119DA_0119DB, 0x119E0, 0x11A01_011A0A,
   0x11A33_011A38, 0x11A3B_011A3E, 0x11A47, 0x11A51_011A56, 0x11A59_011A5B,
   0x11A8A_011A96, 0x11A98_011A99, 0x11C30_011C36, 0x11C38_011C3D, 0x11C3F,
   0x11C92_011CA7, 0x11CAA_011CB0, 0x11CB2_011CB3, 0x11CB5_011CB6, 0x11D31_011D36,
   0x11D3A, 0x11D3C_011D3D, 0x11D3F_011D45, 0x11D47, 0x11D90_011D91, 0x11D95, 0x11D97,
   0x11EF3_011EF4, 0x11F00_011F01, 0x11F36_011F3A, 0x11F40, 0x11F42, 0x13430_013440,
   0x13447_013455, 0x16AF0_016AF4, 0x16B30_016B36, 0x16F4F, 0x16F8F_016F92, 0x16FE4,
   0x1BC9D_01BC9E, 0x1BCA0_01BCA3, 0x1CF00_01CF2D, 0x1CF30_01CF46, 0x1D167_01D169,
   0x1D173_01D182, 0x1D185_01D18B, 0x1D1AA_01D1AD, 0x1D242_01D244, 0x1DA00_01DA36,
   0x1DA3B_01DA6C, 0x1DA75, 0x1DA84, 0x1DA9B_01DA9F, 0x1DAA1_01DAAF, 0x1E000_01E006,
   0x1E008_01E018, 0x1E01B_01E021, 0x1E023_01E024, 0x1E026_01E02A, 0x1E08F,
   0x1E130_01E136, 0x1E2AE, 0x1E2EC_01E2EF, 0x1E4EC_01E4EF, 0x1E8D0_01E8D6,
   0x1E944_01E94B, 0xE0001, 0xE0020_0E007F, 0xE0100_0E01EF]

/-- Marks of combining class nine. -/
def viramaRanges : List Range := Range.list
  [0x94D, 0x9CD, 0xA4D, 0xACD, 0xB4D, 0xBCD, 0xC4D, 0xCCD, 0xD3B_000D3C, 0xD4D, 0xDCA,
  0xE3A, 0xEBA,
   0xF84, 0x1039_00103A, 0x1714_001715, 0x1734, 0x17D2, 0x1A60, 0x1B44, 0x1BAA_001BAB,
   0x1BF2_001BF3, 0x2D7F, 0xA806, 0xA82C, 0xA8C4, 0xA953, 0xA9C0, 0xAAF6, 0xABED,
   0x10A3F, 0x11046, 0x11070, 0x1107F, 0x110B9, 0x11133_011134, 0x111C0, 0x11235,
   0x112EA, 0x1134D, 0x11442, 0x114C2, 0x115BF, 0x1163F, 0x116B6, 0x1172B, 0x11839,
   0x1193D_01193E, 0x119E0, 0x11A34, 0x11A47, 0x11A99, 0x11C3F, 0x11D44_011D45, 0x11D97,
   0x11F41_011F42]

/-- Marks of all kinds. -/
def markRanges : List Range := Range.list
  [0x300_00036F, 0x483_000489, 0x591_0005BD, 0x5BF, 0x5C1_0005C2, 0x5C4_0005C5, 0x5C7,
  0x610_00061A,
   0x64B_00065F, 0x670, 0x6D6_0006DC, 0x6DF_0006E4, 0x6E7_0006E8, 0x6EA_0006ED, 0x711,
   0x730_00074A, 0x7A6_0007B0, 0x7EB_0007F3, 0x7FD, 0x816_000819, 0x81B_000823,
   0x825_000827, 0x829_00082D, 0x859_00085B, 0x898_00089F, 0x8CA_0008E1, 0x8E3_000903,
   0x93A_00093C, 0x93E_00094F, 0x951_000957, 0x962_000963, 0x981_000983, 0x9BC,
   0x9BE_0009C4, 0x9C7_0009C8, 0x9CB_0009CD, 0x9D7, 0x9E2_0009E3, 0x9FE, 0xA01_000A03,
   0xA3C, 0xA3E_000A42, 0xA47_000A48, 0xA4B_000A4D, 0xA51, 0xA70_000A71, 0xA75,
   0xA81_000A83, 0xABC, 0xABE_000AC5, 0xAC7_000AC9, 0xACB_000ACD, 0xAE2_000AE3,
   0xAFA_000AFF, 0xB01_000B03, 0xB3C, 0xB3E_000B44, 0xB47_000B48, 0xB4B_000B4D,
   0xB55_000B57, 0xB62_000B63, 0xB82, 0xBBE_000BC2, 0xBC6_000BC8, 0xBCA_000BCD, 0xBD7,
   0xC00_000C04, 0xC3C, 0xC3E_000C44, 0xC46_000C48, 0xC4A_000C4D, 0xC55_000C56,
   0xC62_000C63, 0xC81_000C83, 0xCBC, 0xCBE_000CC4, 0xCC6_000CC8, 0xCCA_000CCD,
   0xCD5_000CD6, 0xCE2_000CE3, 0xCF3, 0xD00_000D03, 0xD3B_000D3C, 0xD3E_000D44,
   0xD46_000D48, 0xD4A_000D4D, 0xD57, 0xD62_000D63, 0xD81_000D83, 0xDCA, 0xDCF_000DD4,
   0xDD6, 0xDD8_000DDF, 0xDF2_000DF3, 0xE31, 0xE34_000E3A, 0xE47_000E4E, 0xEB1,
   0xEB4_000EBC, 0xEC8_000ECE, 0xF18_000F19, 0xF35, 0xF37, 0xF39, 0xF3E_000F3F,
   0xF71_000F84, 0xF86_000F87, 0xF8D_000F97, 0xF99_000FBC, 0xFC6, 0x102B_00103E,
   0x1056_001059, 0x105E_001060, 0x1062_001064, 0x1067_00106D, 0x1071_001074,
   0x1082_00108D, 0x108F, 0x109A_00109D, 0x135D_00135F, 0x1712_001715, 0x1732_001734,
   0x1752_001753, 0x1772_001773, 0x17B4_0017D3, 0x17DD, 0x180B_00180D, 0x180F,
   0x1885_001886, 0x18A9, 0x1920_00192B, 0x1930_00193B, 0x1A17_001A1B, 0x1A55_001A5E,
   0x1A60_001A7C, 0x1A7F, 0x1AB0_001ACE, 0x1B00_001B04, 0x1B34_001B44, 0x1B6B_001B73,
   0x1B80_001B82, 0x1BA1_001BAD, 0x1BE6_001BF3, 0x1C24_001C37, 0x1CD0_001CD2,
   0x1CD4_001CE8, 0x1CED, 0x1CF4, 0x1CF7_001CF9, 0x1DC0_001DFF, 0x20D0_0020F0,
   0x2CEF_002CF1, 0x2D7F, 0x2DE0_002DFF, 0x302A_00302F, 0x3099_00309A, 0xA66F_00A672,
   0xA674_00A67D, 0xA69E_00A69F, 0xA6F0_00A6F1, 0xA802, 0xA806, 0xA80B, 0xA823_00A827,
   0xA82C, 0xA880_00A881, 0xA8B4_00A8C5, 0xA8E0_00A8F1, 0xA8FF, 0xA926_00A92D,
   0xA947_00A953, 0xA980_00A983, 0xA9B3_00A9C0, 0xA9E5, 0xAA29_00AA36, 0xAA43,
   0xAA4C_00AA4D, 0xAA7B_00AA7D, 0xAAB0, 0xAAB2_00AAB4, 0xAAB7_00AAB8, 0xAABE_00AABF,
   0xAAC1, 0xAAEB_00AAEF, 0xAAF5_00AAF6, 0xABE3_00ABEA, 0xABEC_00ABED, 0xFB1E,
   0xFE00_00FE0F, 0xFE20_00FE2F, 0x101FD, 0x102E0, 0x10376_01037A, 0x10A01_010A03,
   0x10A05_010A06, 0x10A0C_010A0F, 0x10A38_010A3A, 0x10A3F, 0x10AE5_010AE6,
   0x10D24_010D27, 0x10EAB_010EAC, 0x10EFD_010EFF, 0x10F46_010F50, 0x10F82_010F85,
   0x11000_011002, 0x11038_011046, 0x11070, 0x11073_011074, 0x1107F_011082,
   0x110B0_0110BA, 0x110C2, 0x11100_011102, 0x11127_011134, 0x11145_011146, 0x11173,
   0x11180_011182, 0x111B3_0111C0, 0x111C9_0111CC, 0x111CE_0111CF, 0x1122C_011237,
   0x1123E, 0x11241, 0x112DF_0112EA, 0x11300_011303, 0x1133B_01133C, 0x1133E_011344,
   0x11347_011348, 0x1134B_01134D, 0x11357, 0x11362_011363, 0x11366_01136C,
   0x11370_011374, 0x11435_011446, 0x1145E, 0x114B0_0114C3, 0x115AF_0115B5,
   0x115B8_0115C0, 0x115DC_0115DD, 0x11630_011640, 0x116AB_0116B7, 0x1171D_01172B,
   0x1182C_01183A, 0x11930_011935, 0x11937_011938, 0x1193B_01193E, 0x11940,
   0x11942_011943, 0x119D1_0119D7, 0x119DA_0119E0, 0x119E4, 0x11A01_011A0A,
   0x11A33_011A39, 0x11A3B_011A3E, 0x11A47, 0x11A51_011A5B, 0x11A8A_011A99,
   0x11C2F_011C36, 0x11C38_011C3F, 0x11C92_011CA7, 0x11CA9_011CB6, 0x11D31_011D36,
   0x11D3A, 0x11D3C_011D3D, 0x11D3F_011D45, 0x11D47, 0x11D8A_011D8E, 0x11D90_011D91,
   0x11D93_011D97, 0x11EF3_011EF6, 0x11F00_011F01, 0x11F03, 0x11F34_011F3A,
   0x11F3E_011F42, 0x13440, 0x13447_013455, 0x16AF0_016AF4, 0x16B30_016B36, 0x16F4F,
   0x16F51_016F87, 0x16F8F_016F92, 0x16FE4, 0x16FF0_016FF1, 0x1BC9D_01BC9E,
   0x1CF00_01CF2D, 0x1CF30_01CF46, 0x1D165_01D169, 0x1D16D_01D172, 0x1D17B_01D182,
   0x1D185_01D18B, 0x1D1AA_01D1AD, 0x1D242_01D244, 0x1DA00_01DA36, 0x1DA3B_01DA6C,
   0x1DA75, 0x1DA84, 0x1DA9B_01DA9F, 0x1DAA1_01DAAF, 0x1E000_01E006, 0x1E008_01E018,
   0x1E01B_01E021, 0x1E023_01E024, 0x1E026_01E02A, 0x1E08F, 0x1E130_01E136, 0x1E2AE,
   0x1E2EC_01E2EF, 0x1E4EC_01E4EF, 0x1E8D0_01E8D6, 0x1E944_01E94A, 0xE0100_0E01EF]

/-- Whether a character joins on its left. -/
def joinsLeft (c : Char) : Bool := Range.holds joinsLeftRanges c

/-- Whether a character joins on its right. -/
def joinsRight (c : Char) : Bool := Range.holds joinsRightRanges c

/-- Whether joining looks through a character. -/
def isTransparent (c : Char) : Bool := Range.holds transparentRanges c

/-- Whether a character kills the vowel of the letter before it. -/
def isVirama (c : Char) : Bool := Range.holds viramaRanges c

/-- Whether a character is a mark on the one before it. -/
def isMark (c : Char) : Bool := Range.holds markRanges c

end CredRelay.Unicode
