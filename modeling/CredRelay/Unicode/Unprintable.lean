import CredRelay.Unicode.Range
/-! Characters that do not show by themselves: controls, format characters, surrogates,
private and unassigned code points, separators other than the space, and marks that extend
the character before them. -/
namespace CredRelay.Unicode

set_option maxRecDepth 20000 in
/-- The characters that do not show by themselves, outside ASCII. -/
def unprintableRanges : List Range := Range.list
  [0x80_0000A0, 0xAD, 0x300_00036F, 0x378_000379, 0x380_000383, 0x38B, 0x38D, 0x3A2,
  0x483_000489,
   0x530, 0x557_000558, 0x58B_00058C, 0x590_0005BD, 0x5BF, 0x5C1_0005C2, 0x5C4_0005C5,
   0x5C7_0005CF, 0x5EB_0005EE, 0x5F5_000605, 0x610_00061A, 0x61C, 0x64B_00065F, 0x670,
   0x6D6_0006DD, 0x6DF_0006E4, 0x6E7_0006E8, 0x6EA_0006ED, 0x70E_00070F, 0x711,
   0x730_00074C, 0x7A6_0007B0, 0x7B2_0007BF, 0x7EB_0007F3, 0x7FB_0007FD, 0x816_000819,
   0x81B_000823, 0x825_000827, 0x829_00082F, 0x83F, 0x859_00085D, 0x85F, 0x86B_00086F,
   0x88F_00089F, 0x8CA_000902, 0x93A, 0x93C, 0x941_000948, 0x94D, 0x951_000957,
   0x962_000963, 0x981, 0x984, 0x98D_00098E, 0x991_000992, 0x9A9, 0x9B1, 0x9B3_0009B5,
   0x9BA_0009BC, 0x9BE, 0x9C1_0009C6, 0x9C9_0009CA, 0x9CD, 0x9CF_0009DB, 0x9DE,
   0x9E2_0009E5, 0x9FE_000A02, 0xA04, 0xA0B_000A0E, 0xA11_000A12, 0xA29, 0xA31, 0xA34,
   0xA37, 0xA3A_000A3D, 0xA41_000A58, 0xA5D, 0xA5F_000A65, 0xA70_000A71, 0xA75,
   0xA77_000A82, 0xA84, 0xA8E, 0xA92, 0xAA9, 0xAB1, 0xAB4, 0xABA_000ABC, 0xAC1_000AC8,
   0xACA, 0xACD_000ACF, 0xAD1_000ADF, 0xAE2_000AE5, 0xAF2_000AF8, 0xAFA_000B01, 0xB04,
   0xB0D_000B0E, 0xB11_000B12, 0xB29, 0xB31, 0xB34, 0xB3A_000B3C, 0xB3E_000B3F,
   0xB41_000B46, 0xB49_000B4A, 0xB4D_000B5B, 0xB5E, 0xB62_000B65, 0xB78_000B82, 0xB84,
   0xB8B_000B8D, 0xB91, 0xB96_000B98, 0xB9B, 0xB9D, 0xBA0_000BA2, 0xBA5_000BA7,
   0xBAB_000BAD, 0xBBA_000BBE, 0xBC0, 0xBC3_000BC5, 0xBC9, 0xBCD_000BCF, 0xBD1_000BE5,
   0xBFB_000C00, 0xC04, 0xC0D, 0xC11, 0xC29, 0xC3A_000C3C, 0xC3E_000C40, 0xC45_000C57,
   0xC5B_000C5C, 0xC5E_000C5F, 0xC62_000C65, 0xC70_000C76, 0xC81, 0xC8D, 0xC91, 0xCA9,
   0xCB4, 0xCBA_000CBC, 0xCBF, 0xCC2, 0xCC5_000CC6, 0xCC9, 0xCCC_000CDC, 0xCDF,
   0xCE2_000CE5, 0xCF0, 0xCF4_000D01, 0xD0D, 0xD11, 0xD3B_000D3C, 0xD3E, 0xD41_000D45,
   0xD49, 0xD4D, 0xD50_000D53, 0xD57, 0xD62_000D65, 0xD80_000D81, 0xD84, 0xD97_000D99,
   0xDB2, 0xDBC, 0xDBE_000DBF, 0xDC7_000DCF, 0xDD2_000DD7, 0xDDF_000DE5, 0xDF0_000DF1,
   0xDF5_000E00, 0xE31, 0xE34_000E3E, 0xE47_000E4E, 0xE5C_000E80, 0xE83, 0xE85, 0xE8B,
   0xEA4, 0xEA6, 0xEB1, 0xEB4_000EBC, 0xEBE_000EBF, 0xEC5, 0xEC7_000ECF, 0xEDA_000EDB,
   0xEE0_000EFF, 0xF18_000F19, 0xF35, 0xF37, 0xF39, 0xF48, 0xF6D_000F7E, 0xF80_000F84,
   0xF86_000F87, 0xF8D_000FBD, 0xFC6, 0xFCD, 0xFDB_000FFF, 0x102D_001030, 0x1032_001037,
   0x1039_00103A, 0x103D_00103E, 0x1058_001059, 0x105E_001060, 0x1071_001074, 0x1082,
   0x1085_001086, 0x108D, 0x109D, 0x10C6, 0x10C8_0010CC, 0x10CE_0010CF, 0x1249,
   0x124E_00124F, 0x1257, 0x1259, 0x125E_00125F, 0x1289, 0x128E_00128F, 0x12B1,
   0x12B6_0012B7, 0x12BF, 0x12C1, 0x12C6_0012C7, 0x12D7, 0x1311, 0x1316_001317,
   0x135B_00135F, 0x137D_00137F, 0x139A_00139F, 0x13F6_0013F7, 0x13FE_0013FF, 0x1680,
   0x169D_00169F, 0x16F9_0016FF, 0x1712_001714, 0x1716_00171E, 0x1732_001733,
   0x1737_00173F, 0x1752_00175F, 0x176D, 0x1771_00177F, 0x17B4_0017B5, 0x17B7_0017BD,
   0x17C6, 0x17C9_0017D3, 0x17DD_0017DF, 0x17EA_0017EF, 0x17FA_0017FF, 0x180B_00180F,
   0x181A_00181F, 0x1879_00187F, 0x1885_001886, 0x18A9, 0x18AB_0018AF, 0x18F6_0018FF,
   0x191F_001922, 0x1927_001928, 0x192C_00192F, 0x1932, 0x1939_00193F, 0x1941_001943,
   0x196E_00196F, 0x1975_00197F, 0x19AC_0019AF, 0x19CA_0019CF, 0x19DB_0019DD,
   0x1A17_001A18, 0x1A1B_001A1D, 0x1A56, 0x1A58_001A60, 0x1A62, 0x1A65_001A6C,
   0x1A73_001A7F, 0x1A8A_001A8F, 0x1A9A_001A9F, 0x1AAE_001B03, 0x1B34_001B3A, 0x1B3C,
   0x1B42, 0x1B4D_001B4F, 0x1B6B_001B73, 0x1B7F_001B81, 0x1BA2_001BA5, 0x1BA8_001BA9,
   0x1BAB_001BAD, 0x1BE6, 0x1BE8_001BE9, 0x1BED, 0x1BEF_001BF1, 0x1BF4_001BFB,
   0x1C2C_001C33, 0x1C36_001C3A, 0x1C4A_001C4C, 0x1C89_001C8F, 0x1CBB_001CBC,
   0x1CC8_001CD2, 0x1CD4_001CE0, 0x1CE2_001CE8, 0x1CED, 0x1CF4, 0x1CF8_001CF9,
   0x1CFB_001CFF, 0x1DC0_001DFF, 0x1F16_001F17, 0x1F1E_001F1F, 0x1F46_001F47,
   0x1F4E_001F4F, 0x1F58, 0x1F5A, 0x1F5C, 0x1F5E, 0x1F7E_001F7F, 0x1FB5, 0x1FC5,
   0x1FD4_001FD5, 0x1FDC, 0x1FF0_001FF1, 0x1FF5, 0x1FFF_00200F, 0x2028_00202F,
   0x205F_00206F, 0x2072_002073, 0x208F, 0x209D_00209F, 0x20C1_0020FF, 0x218C_00218F,
   0x2427_00243F, 0x244B_00245F, 0x2B74_002B75, 0x2B96, 0x2CEF_002CF1, 0x2CF4_002CF8,
   0x2D26, 0x2D28_002D2C, 0x2D2E_002D2F, 0x2D68_002D6E, 0x2D71_002D7F, 0x2D97_002D9F,
   0x2DA7, 0x2DAF, 0x2DB7, 0x2DBF, 0x2DC7, 0x2DCF, 0x2DD7, 0x2DDF_002DFF, 0x2E5E_002E7F,
   0x2E9A, 0x2EF4_002EFF, 0x2FD6_002FEF, 0x2FFC_003000, 0x302A_00302F, 0x3040,
   0x3097_00309A, 0x3100_003104, 0x3130, 0x318F, 0x31E4_0031EF, 0x321F, 0xA48D_00A48F,
   0xA4C7_00A4CF, 0xA62C_00A63F, 0xA66F_00A672, 0xA674_00A67D, 0xA69E_00A69F,
   0xA6F0_00A6F1, 0xA6F8_00A6FF, 0xA7CB_00A7CF, 0xA7D2, 0xA7D4, 0xA7DA_00A7F1, 0xA802,
   0xA806, 0xA80B, 0xA825_00A826, 0xA82C_00A82F, 0xA83A_00A83F, 0xA878_00A87F,
   0xA8C4_00A8CD, 0xA8DA_00A8F1, 0xA8FF, 0xA926_00A92D, 0xA947_00A951, 0xA954_00A95E,
   0xA97D_00A982, 0xA9B3, 0xA9B6_00A9B9, 0xA9BC_00A9BD, 0xA9CE, 0xA9DA_00A9DD, 0xA9E5,
   0xA9FF, 0xAA29_00AA2E, 0xAA31_00AA32, 0xAA35_00AA3F, 0xAA43, 0xAA4C, 0xAA4E_00AA4F,
   0xAA5A_00AA5B, 0xAA7C, 0xAAB0, 0xAAB2_00AAB4, 0xAAB7_00AAB8, 0xAABE_00AABF, 0xAAC1,
   0xAAC3_00AADA, 0xAAEC_00AAED, 0xAAF6_00AB00, 0xAB07_00AB08, 0xAB0F_00AB10,
   0xAB17_00AB1F, 0xAB27, 0xAB2F, 0xAB6C_00AB6F, 0xABE5, 0xABE8, 0xABED_00ABEF,
   0xABFA_00ABFF, 0xD7A4_00D7AF, 0xD7C7_00D7CA, 0xD7FC_00F8FF, 0xFA6E_00FA6F,
   0xFADA_00FAFF, 0xFB07_00FB12, 0xFB18_00FB1C, 0xFB1E, 0xFB37, 0xFB3D, 0xFB3F, 0xFB42,
   0xFB45, 0xFBC3_00FBD2, 0xFD90_00FD91, 0xFDC8_00FDCE, 0xFDD0_00FDEF, 0xFE00_00FE0F,
   0xFE1A_00FE2F, 0xFE53, 0xFE67, 0xFE6C_00FE6F, 0xFE75, 0xFEFD_00FF00, 0xFF9E_00FF9F,
   0xFFBF_00FFC1, 0xFFC8_00FFC9, 0xFFD0_00FFD1, 0xFFD8_00FFD9, 0xFFDD_00FFDF, 0xFFE7,
   0xFFEF_00FFFB, 0xFFFE_00FFFF, 0x1000C, 0x10027, 0x1003B, 0x1003E, 0x1004E_01004F,
   0x1005E_01007F, 0x100FB_0100FF, 0x10103_010106, 0x10134_010136, 0x1018F,
   0x1019D_01019F, 0x101A1_0101CF, 0x101FD_01027F, 0x1029D_01029F, 0x102D1_0102E0,
   0x102FC_0102FF, 0x10324_01032C, 0x1034B_01034F, 0x10376_01037F, 0x1039E,
   0x103C4_0103C7, 0x103D6_0103FF, 0x1049E_01049F, 0x104AA_0104AF, 0x104D4_0104D7,
   0x104FC_0104FF, 0x10528_01052F, 0x10564_01056E, 0x1057B, 0x1058B, 0x10593, 0x10596,
   0x105A2, 0x105B2, 0x105BA, 0x105BD_0105FF, 0x10737_01073F, 0x10756_01075F,
   0x10768_01077F, 0x10786, 0x107B1, 0x107BB_0107FF, 0x10806_010807, 0x10809, 0x10836,
   0x10839_01083B, 0x1083D_01083E, 0x10856, 0x1089F_0108A6, 0x108B0_0108DF, 0x108F3,
   0x108F6_0108FA, 0x1091C_01091E, 0x1093A_01093E, 0x10940_01097F, 0x109B8_0109BB,
   0x109D0_0109D1, 0x10A01_010A0F, 0x10A14, 0x10A18, 0x10A36_010A3F, 0x10A49_010A4F,
   0x10A59_010A5F, 0x10AA0_010ABF, 0x10AE5_010AEA, 0x10AF7_010AFF, 0x10B36_010B38,
   0x10B56_010B57, 0x10B73_010B77, 0x10B92_010B98, 0x10B9D_010BA8, 0x10BB0_010BFF,
   0x10C49_010C7F, 0x10CB3_010CBF, 0x10CF3_010CF9, 0x10D24_010D2F, 0x10D3A_010E5F,
   0x10E7F, 0x10EAA_010EAC, 0x10EAE_010EAF, 0x10EB2_010EFF, 0x10F28_010F2F,
   0x10F46_010F50, 0x10F5A_010F6F, 0x10F82_010F85, 0x10F8A_010FAF, 0x10FCC_010FDF,
   0x10FF7_010FFF, 0x11001, 0x11038_011046, 0x1104E_011051, 0x11070, 0x11073_011074,
   0x11076_011081, 0x110B3_0110B6, 0x110B9_0110BA, 0x110BD, 0x110C2_0110CF,
   0x110E9_0110EF, 0x110FA_011102, 0x11127_01112B, 0x1112D_011135, 0x11148_01114F,
   0x11173, 0x11177_011181, 0x111B6_0111BE, 0x111C9_0111CC, 0x111CF, 0x111E0,
   0x111F5_0111FF, 0x11212, 0x1122F_011231, 0x11234, 0x11236_011237, 0x1123E,
   0x11241_01127F, 0x11287, 0x11289, 0x1128E, 0x1129E, 0x112AA_0112AF, 0x112DF,
   0x112E3_0112EF, 0x112FA_011301, 0x11304, 0x1130D_01130E, 0x11311_011312, 0x11329,
   0x11331, 0x11334, 0x1133A_01133C, 0x1133E, 0x11340, 0x11345_011346, 0x11349_01134A,
   0x1134E_01134F, 0x11351_01135C, 0x11364_0113FF, 0x11438_01143F, 0x11442_011444,
   0x11446, 0x1145C, 0x1145E, 0x11462_01147F, 0x114B0, 0x114B3_0114B8, 0x114BA, 0x114BD,
   0x114BF_0114C0, 0x114C2_0114C3, 0x114C8_0114CF, 0x114DA_01157F, 0x115AF,
   0x115B2_0115B7, 0x115BC_0115BD, 0x115BF_0115C0, 0x115DC_0115FF, 0x11633_01163A,
   0x1163D, 0x1163F_011640, 0x11645_01164F, 0x1165A_01165F, 0x1166D_01167F, 0x116AB,
   0x116AD, 0x116B0_0116B5, 0x116B7, 0x116BA_0116BF, 0x116CA_0116FF, 0x1171B_01171F,
   0x11722_011725, 0x11727_01172F, 0x11747_0117FF, 0x1182F_011837, 0x11839_01183A,
   0x1183C_01189F, 0x118F3_0118FE, 0x11907_011908, 0x1190A_01190B, 0x11914, 0x11917,
   0x11930, 0x11936, 0x11939_01193C, 0x1193E, 0x11943, 0x11947_01194F, 0x1195A_01199F,
   0x119A8_0119A9, 0x119D4_0119DB, 0x119E0, 0x119E5_0119FF, 0x11A01_011A0A,
   0x11A33_011A38, 0x11A3B_011A3E, 0x11A47_011A4F, 0x11A51_011A56, 0x11A59_011A5B,
   0x11A8A_011A96, 0x11A98_011A99, 0x11AA3_011AAF, 0x11AF9_011AFF, 0x11B0A_011BFF,
   0x11C09, 0x11C30_011C3D, 0x11C3F, 0x11C46_011C4F, 0x11C6D_011C6F, 0x11C90_011CA8,
   0x11CAA_011CB0, 0x11CB2_011CB3, 0x11CB5_011CFF, 0x11D07, 0x11D0A, 0x11D31_011D45,
   0x11D47_011D4F, 0x11D5A_011D5F, 0x11D66, 0x11D69, 0x11D8F_011D92, 0x11D95, 0x11D97,
   0x11D99_011D9F, 0x11DAA_011EDF, 0x11EF3_011EF4, 0x11EF9_011F01, 0x11F11,
   0x11F36_011F3D, 0x11F40, 0x11F42, 0x11F5A_011FAF, 0x11FB1_011FBF, 0x11FF2_011FFE,
   0x1239A_0123FF, 0x1246F, 0x12475_01247F, 0x12544_012F8F, 0x12FF3_012FFF,
   0x13430_013440, 0x13447_0143FF, 0x14647_0167FF, 0x16A39_016A3F, 0x16A5F,
   0x16A6A_016A6D, 0x16ABF, 0x16ACA_016ACF, 0x16AEE_016AF4, 0x16AF6_016AFF,
   0x16B30_016B36, 0x16B46_016B4F, 0x16B5A, 0x16B62, 0x16B78_016B7C, 0x16B90_016E3F,
   0x16E9B_016EFF, 0x16F4B_016F4F, 0x16F88_016F92, 0x16FA0_016FDF, 0x16FE4_016FEF,
   0x16FF2_016FFF, 0x187F8_0187FF, 0x18CD6_018CFF, 0x18D09_01AFEF, 0x1AFF4, 0x1AFFC,
   0x1AFFF, 0x1B123_01B131, 0x1B133_01B14F, 0x1B153_01B154, 0x1B156_01B163,
   0x1B168_01B16F, 0x1B2FC_01BBFF, 0x1BC6B_01BC6F, 0x1BC7D_01BC7F, 0x1BC89_01BC8F,
   0x1BC9A_01BC9B, 0x1BC9D_01BC9E, 0x1BCA0_01CF4F, 0x1CFC4_01CFFF, 0x1D0F6_01D0FF,
   0x1D127_01D128, 0x1D165, 0x1D167_01D169, 0x1D16E_01D182, 0x1D185_01D18B,
   0x1D1AA_01D1AD, 0x1D1EB_01D1FF, 0x1D242_01D244, 0x1D246_01D2BF, 0x1D2D4_01D2DF,
   0x1D2F4_01D2FF, 0x1D357_01D35F, 0x1D379_01D3FF, 0x1D455, 0x1D49D, 0x1D4A0_01D4A1,
   0x1D4A3_01D4A4, 0x1D4A7_01D4A8, 0x1D4AD, 0x1D4BA, 0x1D4BC, 0x1D4C4, 0x1D506,
   0x1D50B_01D50C, 0x1D515, 0x1D51D, 0x1D53A, 0x1D53F, 0x1D545, 0x1D547_01D549, 0x1D551,
   0x1D6A6_01D6A7, 0x1D7CC_01D7CD, 0x1DA00_01DA36, 0x1DA3B_01DA6C, 0x1DA75, 0x1DA84,
   0x1DA8C_01DEFF, 0x1DF1F_01DF24, 0x1DF2B_01E02F, 0x1E06E_01E0FF, 0x1E12D_01E136,
   0x1E13E_01E13F, 0x1E14A_01E14D, 0x1E150_01E28F, 0x1E2AE_01E2BF, 0x1E2EC_01E2EF,
   0x1E2FA_01E2FE, 0x1E300_01E4CF, 0x1E4EC_01E4EF, 0x1E4FA_01E7DF, 0x1E7E7, 0x1E7EC,
   0x1E7EF, 0x1E7FF, 0x1E8C5_01E8C6, 0x1E8D0_01E8FF, 0x1E944_01E94A, 0x1E94C_01E94F,
   0x1E95A_01E95D, 0x1E960_01EC70, 0x1ECB5_01ED00, 0x1ED3E_01EDFF, 0x1EE04, 0x1EE20,
   0x1EE23, 0x1EE25_01EE26, 0x1EE28, 0x1EE33, 0x1EE38, 0x1EE3A, 0x1EE3C_01EE41,
   0x1EE43_01EE46, 0x1EE48, 0x1EE4A, 0x1EE4C, 0x1EE50, 0x1EE53, 0x1EE55_01EE56, 0x1EE58,
   0x1EE5A, 0x1EE5C, 0x1EE5E, 0x1EE60, 0x1EE63, 0x1EE65_01EE66, 0x1EE6B, 0x1EE73, 0x1EE78,
   0x1EE7D, 0x1EE7F, 0x1EE8A, 0x1EE9C_01EEA0, 0x1EEA4, 0x1EEAA, 0x1EEBC_01EEEF,
   0x1EEF2_01EFFF, 0x1F02C_01F02F, 0x1F094_01F09F, 0x1F0AF_01F0B0, 0x1F0C0, 0x1F0D0,
   0x1F0F6_01F0FF, 0x1F1AE_01F1E5, 0x1F203_01F20F, 0x1F23C_01F23F, 0x1F249_01F24F,
   0x1F252_01F25F, 0x1F266_01F2FF, 0x1F6D8_01F6DB, 0x1F6ED_01F6EF, 0x1F6FD_01F6FF,
   0x1F777_01F77A, 0x1F7DA_01F7DF, 0x1F7EC_01F7EF, 0x1F7F1_01F7FF, 0x1F80C_01F80F,
   0x1F848_01F84F, 0x1F85A_01F85F, 0x1F888_01F88F, 0x1F8AE_01F8AF, 0x1F8B2_01F8FF,
   0x1FA54_01FA5F, 0x1FA6E_01FA6F, 0x1FA7D_01FA7F, 0x1FA89_01FA8F, 0x1FABE,
   0x1FAC6_01FACD, 0x1FADC_01FADF, 0x1FAE9_01FAEF, 0x1FAF9_01FAFF, 0x1FB93,
   0x1FBCB_01FBEF, 0x1FBFA_01FFFF, 0x2A6E0_02A6FF, 0x2B73A_02B73F, 0x2B81E_02B81F,
   0x2CEA2_02CEAF, 0x2EBE1_02F7FF, 0x2FA1E_02FFFF, 0x3134B_03134F, 0x323B0_10FFFF]

/-- Whether a character does not show by itself. -/
def isUnprintable (c : Char) : Bool :=
  if c.toNat < 0x80 then c.toNat < 0x20 || c.toNat ==
    0x7F else Range.holds unprintableRanges c

end CredRelay.Unicode
