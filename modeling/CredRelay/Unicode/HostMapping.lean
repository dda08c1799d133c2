import CredRelay.Unicode.Range
/-! How characters outside ASCII are mapped in names of hosts: some are left out, some are
not admitted, some stand for one or more others, and the rest stand for themselves. -/
namespace CredRelay.Unicode

/-- The characters that are left out. -/
def omittedRanges : List Range := Range.list
  [0xAD, 0x34F, 0x115F_001160, 0x17B4_0017B5, 0x180B_00180F, 0x200B, 0x2060_002064,
  0x206A_00206F,
   0x3164, 0xFE00_00FE0F, 0xFEFF, 0xFFA0, 0x1BCA0_01BCA3, 0x1D173_01D17A, 0xE0100_0E01EF]

set_option maxRecDepth 20000 in
/-- The characters that are not admitted. -/
def refusedRanges : List Range := Range.list
  [0x80_00009F, 0x378_000379, 0x380_000383, 0x38B, 0x38D, 0x3A2, 0x530, 0x557_000558,
  0x58B_00058C,
   0x590, 0x5C8_0005CF, 0x5EB_0005EE, 0x5F5_000605, 0x61C, 0x6DD, 0x70E_00070F,
   0x74B_00074C, 0x7B2_0007BF, 0x7FB_0007FC, 0x82E_00082F, 0x83F, 0x85C_00085D, 0x85F,
   0x86B_00086F, 0x890_000896, 0x8E2, 0x984, 0x98D_00098E, 0x991_000992, 0x9A9, 0x9B1,
   0x9B3_0009B5, 0x9BA_0009BB, 0x9C5_0009C6, 0x9C9_0009CA, 0x9CF_0009D6, 0x9D8_0009DB,
   0x9DE, 0x9E4_0009E5, 0x9FF_000A00, 0xA04, 0xA0B_000A0E, 0xA11_000A12, 0xA29, 0xA31,
   0xA34, 0xA37, 0xA3A_000A3B, 0xA3D, 0xA43_000A46, 0xA49_000A4A, 0xA4E_000A50,
   0xA52_000A58, 0xA5D, 0xA5F_000A65, 0xA77_000A80, 0xA84, 0xA8E, 0xA92, 0xAA9, 0xAB1,
   0xAB4, 0xABA_000ABB, 0xAC6, 0xACA, 0xACE_000ACF, 0xAD1_000ADF, 0xAE4_000AE5,
   0xAF2_000AF8, 0xB00, 0xB04, 0xB0D_000B0E, 0xB11_000B12, 0xB29, 0xB31, 0xB34,
   0xB3A_000B3B, 0xB45_000B46, 0xB49_000B4A, 0xB4E_000B54, 0xB58_000B5B, 0xB5E,
   0xB64_000B65, 0xB78_000B81, 0xB84, 0xB8B_000B8D, 0xB91, 0xB96_000B98, 0xB9B, 0xB9D,
   0xBA0_000BA2, 0xBA5_000BA7, 0xBAB_000BAD, 0xBBA_000BBD, 0xBC3_000BC5, 0xBC9,
   0xBCE_000BCF, 0xBD1_000BD6, 0xBD8_000BE5, 0xBFB_000BFF, 0xC0D, 0xC11, 0xC29,
   0xC3A_000C3B, 0xC45, 0xC49, 0xC4E_000C54, 0xC57, 0xC5B, 0xC5E_000C5F, 0xC64_000C65,
   0xC70_000C76, 0xC8D, 0xC91, 0xCA9, 0xCB4, 0xCBA_000CBB, 0xCC5, 0xCC9, 0xCCE_000CD4,
   0xCD7_000CDB, 0xCDF, 0xCE4_000CE5, 0xCF0, 0xCF4_000CFF, 0xD0D, 0xD11, 0xD45, 0xD49,
   0xD50_000D53, 0xD64_000D65, 0xD80, 0xD84, 0xD97_000D99, 0xDB2, 0xDBC, 0xDBE_000DBF,
   0xDC7_000DC9, 0xDCB_000DCE, 0xDD5, 0xDD7, 0xDE0_000DE5, 0xDF0_000DF1, 0xDF5_000E00,
   0xE3B_000E3E, 0xE5C_000E80, 0xE83, 0xE85, 0xE8B, 0xEA4, 0xEA6, 0xEBE_000EBF, 0xEC5,
   0xEC7, 0xECF, 0xEDA_000EDB, 0xEE0_000EFF, 0xF48, 0xF6D_000F70, 0xF98, 0xFBD, 0xFCD,
   0xFDB_000FFF, 0x10C6, 0x10C8_0010CC, 0x10CE_0010CF, 0x1249, 0x124E_00124F, 0x1257,
   0x1259, 0x125E_00125F, 0x1289, 0x128E_00128F, 0x12B1, 0x12B6_0012B7, 0x12BF, 0x12C1,
   0x12C6_0012C7, 0x12D7, 0x1311, 0x1316_001317, 0x135B_00135C, 0x137D_00137F,
   0x139A_00139F, 0x13F6_0013F7, 0x13FE_0013FF, 0x1680, 0x169D_00169F, 0x16F9_0016FF,
   0x1716_00171E, 0x1737_00173F, 0x1754_00175F, 0x176D, 0x1771, 0x1774_00177F,
   0x17DE_0017DF, 0x17EA_0017EF, 0x17FA_0017FF, 0x181A_00181F, 0x1879_00187F,
   0x18AB_0018AF, 0x18F6_0018FF, 0x191F, 0x192C_00192F, 0x193C_00193F, 0x1941_001943,
   0x196E_00196F, 0x1975_00197F, 0x19AC_0019AF, 0x19CA_0019CF, 0x19DB_0019DD,
   0x1A1C_001A1D, 0x1A5F, 0x1A7D_001A7E, 0x1A8A_001A8F, 0x1A9A_001A9F, 0x1AAE_001AAF,
   0x1ADE_001ADF, 0x1AEC_001AFF, 0x1B4D, 0x1BF4_001BFB, 0x1C38_001C3A, 0x1C4A_001C4C,
   0x1C8B_001C8F, 0x1CBB_001CBC, 0x1CC8_001CCF, 0x1CFB_001CFF, 0x1F16_001F17,
   0x1F1E_001F1F, 0x1F46_001F47, 0x1F4E_001F4F, 0x1F58, 0x1F5A, 0x1F5C, 0x1F5E,
   0x1F7E_001F7F, 0x1FB5, 0x1FC5, 0x1FD4_001FD5, 0x1FDC, 0x1FF0_001FF1, 0x1FF5, 0x1FFF,
   0x200E_00200F, 0x2024_002026, 0x2028_00202E, 0x2065_002069, 0x2072_002073, 0x208F,
   0x209D_00209F, 0x20C2_0020CF, 0x20F1_0020FF, 0x218C_00218F, 0x242A_00243F,
   0x244B_00245F, 0x2488_00249B, 0x2B74_002B75, 0x2CF4_002CF8, 0x2D26, 0x2D28_002D2C,
   0x2D2E_002D2F, 0x2D68_002D6E, 0x2D71_002D7E, 0x2D97_002D9F, 0x2DA7, 0x2DAF, 0x2DB7,
   0x2DBF, 0x2DC7, 0x2DCF, 0x2DD7, 0x2DDF, 0x2E5E_002E7F, 0x2E9A, 0x2EF4_002EFF,
   0x2FD6_002FFF, 0x3040, 0x3097_003098, 0x3100_003104, 0x3130, 0x318F, 0x31E6_0031EF,
   0x321F, 0x33C2, 0x33C7, 0x33D8, 0xA48D_00A48F, 0xA4C7_00A4CF, 0xA62C_00A63F,
   0xA6F8_00A6FF, 0xA7DD_00A7F0, 0xA82D_00A82F, 0xA83A_00A83F, 0xA878_00A87F,
   0xA8C6_00A8CD, 0xA8DA_00A8DF, 0xA954_00A95E, 0xA97D_00A97F, 0xA9CE, 0xA9DA_00A9DD,
   0xA9FF, 0xAA37_00AA3F, 0xAA4E_00AA4F, 0xAA5A_00AA5B, 0xAAC3_00AADA, 0xAAF7_00AB00,
   0xAB07_00AB08, 0xAB0F_00AB10, 0xAB17_00AB1F, 0xAB27, 0xAB2F, 0xAB6C_00AB6F,
   0xABEE_00ABEF, 0xABFA_00ABFF, 0xD7A4_00D7AF, 0xD7C7_00D7CA, 0xD7FC_00D7FF,
   0xE000_00F8FF, 0xFA6E_00FA6F, 0xFADA_00FAFF, 0xFB07_00FB12, 0xFB18_00FB1C, 0xFB37,
   0xFB3D, 0xFB3F, 0xFB42, 0xFB45, 0xFDD0_00FDEF, 0xFE12, 0xFE19_00FE1F, 0xFE30,
   0xFE52_00FE53, 0xFE67, 0xFE6C_00FE6F, 0xFE75, 0xFEFD_00FEFE, 0xFF00, 0xFFBF_00FFC1,
   0xFFC8_00FFC9, 0xFFD0_00FFD1, 0xFFD8_00FFD9, 0xFFDD_00FFDF, 0xFFE7, 0xFFEF_00FFFF,
   0x1000C, 0x10027, 0x1003B, 0x1003E, 0x1004E_01004F, 0x1005E_01007F, 0x100FB_0100FF,
   0x10103_010106, 0x10134_010136, 0x1018F, 0x1019D_01019F, 0x101A1_0101CF,
   0x101FE_01027F, 0x1029D_01029F, 0x102D1_0102DF, 0x102FC_0102FF, 0x10324_01032C,
   0x1034B_01034F, 0x1037B_01037F, 0x1039E, 0x103C4_0103C7, 0x103D6_0103FF,
   0x1049E_01049F, 0x104AA_0104AF, 0x104D4_0104D7, 0x104FC_0104FF, 0x10528_01052F,
   0x10564_01056E, 0x1057B, 0x1058B, 0x10593, 0x10596, 0x105A2, 0x105B2, 0x105BA,
   0x105BD_0105BF, 0x105F4_0105FF, 0x10737_01073F, 0x10756_01075F, 0x10768_01077F,
   0x10786, 0x107B1, 0x107BB_0107FF, 0x10806_010807, 0x10809, 0x10836, 0x10839_01083B,
   0x1083D_01083E, 0x10856, 0x1089F_0108A6, 0x108B0_0108DF, 0x108F3, 0x108F6_0108FA,
   0x1091C_01091E, 0x1093A_01093E, 0x1095A_01097F, 0x109B8_0109BB, 0x109D0_0109D1,
   0x10A04, 0x10A07_010A0B, 0x10A14, 0x10A18, 0x10A36_010A37, 0x10A3B_010A3E,
   0x10A49_010A4F, 0x10A59_010A5F, 0x10AA0_010ABF, 0x10AE7_010AEA, 0x10AF7_010AFF,
   0x10B36_010B38, 0x10B56_010B57, 0x10B73_010B77, 0x10B92_010B98, 0x10B9D_010BA8,
   0x10BB0_010BFF, 0x10C49_010C7F, 0x10CB3_010CBF, 0x10CF3_010CF9, 0x10D28_010D2F,
   0x10D3A_010D3F, 0x10D66_010D68, 0x10D86_010D8D, 0x10D90_010E5F, 0x10E7F, 0x10EAA,
   0x10EAE_010EAF, 0x10EB2_010EC1, 0x10EC8_010ECF, 0x10ED9_010EF9, 0x10F28_010F2F,
   0x10F5A_010F6F, 0x10F8A_010FAF, 0x10FCC_010FDF, 0x10FF7_010FFF, 0x1104E_011051,
   0x11076_01107E, 0x110BD, 0x110C3_0110CF, 0x110E9_0110EF, 0x110FA_0110FF, 0x11135,
   0x11148_01114F, 0x11177_01117F, 0x111E0, 0x111F5_0111FF, 0x11212, 0x11242_01127F,
   0x11287, 0x11289, 0x1128E, 0x1129E, 0x112AA_0112AF, 0x112EB_0112EF, 0x112FA_0112FF,
   0x11304, 0x1130D_01130E, 0x11311_011312, 0x11329, 0x11331, 0x11334, 0x1133A,
   0x11345_011346, 0x11349_01134A, 0x1134E_01134F, 0x11351_011356, 0x11358_01135C,
   0x11364_011365, 0x1136D_01136F, 0x11375_01137F, 0x1138A, 0x1138C_01138D, 0x1138F,
   0x113B6, 0x113C1, 0x113C3_0113C4, 0x113C6, 0x113CB, 0x113D6, 0x113D9_0113E0,
   0x113E3_0113FF, 0x1145C, 0x11462_01147F, 0x114C8_0114CF, 0x114DA_01157F,
   0x115B6_0115B7, 0x115DE_0115FF, 0x11645_01164F, 0x1165A_01165F, 0x1166D_01167F,
   0x116BA_0116BF, 0x116CA_0116CF, 0x116E4_0116FF, 0x1171B_01171C, 0x1172C_01172F,
   0x11747_0117FF, 0x1183C_01189F, 0x118F3_0118FE, 0x11907_011908, 0x1190A_01190B,
   0x11914, 0x11917, 0x11936, 0x11939_01193A, 0x11947_01194F, 0x1195A_01199F,
   0x119A8_0119A9, 0x119D8_0119D9, 0x119E5_0119FF, 0x11A48_011A4F, 0x11AA3_011AAF,
   0x11AF9_011AFF, 0x11B0A_011B5F, 0x11B68_011BBF, 0x11BE2_011BEF, 0x11BFA_011BFF,
   0x11C09, 0x11C37, 0x11C46_011C4F, 0x11C6D_011C6F, 0x11C90_011C91, 0x11CA8,
   0x11CB7_011CFF, 0x11D07, 0x11D0A, 0x11D37_011D39, 0x11D3B, 0x11D3E, 0x11D48_011D4F,
   0x11D5A_011D5F, 0x11D66, 0x11D69, 0x11D8F, 0x11D92, 0x11D99_011D9F, 0x11DAA_011DAF,
   0x11DDC_011DDF, 0x11DEA_011EDF, 0x11EF9_011EFF, 0x11F11, 0x11F3B_011F3D,
   0x11F5B_011FAF, 0x11FB1_011FBF, 0x11FF2_011FFE, 0x1239A_0123FF, 0x1246F,
   0x12475_01247F, 0x12544_012F8F, 0x12FF3_012FFF, 0x13430_01343F, 0x13456_01345F,
   0x143FB_0143FF, 0x14647_0160FF, 0x1613A_0167FF, 0x16A39_016A3F, 0x16A5F,
   0x16A6A_016A6D, 0x16ABF, 0x16ACA_016ACF, 0x16AEE_016AEF, 0x16AF6_016AFF,
   0x16B46_016B4F, 0x16B5A, 0x16B62, 0x16B78_016B7C, 0x16B90_016D3F, 0x16D7A_016E3F,
   0x16E9B_016E9F, 0x16EB9_016EBA, 0x16ED4_016EFF, 0x16F4B_016F4E, 0x16F88_016F8E,
   0x16FA0_016FDF, 0x16FE5_016FEF, 0x16FF7_016FFF, 0x18CD6_018CFE, 0x18D1F_018D7F,
   0x18DF3_01AFEF, 0x1AFF4, 0x1AFFC, 0x1AFFF, 0x1B123_01B131, 0x1B133_01B14F,
   0x1B153_01B154, 0x1B156_01B163, 0x1B168_01B16F, 0x1B2FC_01BBFF, 0x1BC6B_01BC6F,
   0x1BC7D_01BC7F, 0x1BC89_01BC8F, 0x1BC9A_01BC9B, 0x1BCA4_01CBFF, 0x1CCFD_01CCFF,
   0x1CEB4_01CEB9, 0x1CED1_01CEDF, 0x1CEF1_01CEFF, 0x1CF2E_01CF2F, 0x1CF47_01CF4F,
   0x1CFC4_01CFFF, 0x1D0F6_01D0FF, 0x1D127_01D128, 0x1D1EB_01D1FF, 0x1D246_01D2BF,
   0x1D2D4_01D2DF, 0x1D2F4_01D2FF, 0x1D357_01D35F, 0x1D379_01D3FF, 0x1D455, 0x1D49D,
   0x1D4A0_01D4A1, 0x1D4A3_01D4A4, 0x1D4A7_01D4A8, 0x1D4AD, 0x1D4BA, 0x1D4BC, 0x1D4C4,
   0x1D506, 0x1D50B_01D50C, 0x1D515, 0x1D51D, 0x1D53A, 0x1D53F, 0x1D545, 0x1D547_01D549,
   0x1D551, 0x1D6A6_01D6A7, 0x1D7CC_01D7CD, 0x1DA8C_01DA9A, 0x1DAA0, 0x1DAB0_01DEFF,
   0x1DF1F_01DF24, 0x1DF2B_01DFFF, 0x1E007, 0x1E019_01E01A, 0x1E022, 0x1E025,
   0x1E02B_01E02F, 0x1E06E_01E08E, 0x1E090_01E0FF, 0x1E12D_01E12F, 0x1E13E_01E13F,
   0x1E14A_01E14D, 0x1E150_01E28F, 0x1E2AF_01E2BF, 0x1E2FA_01E2FE, 0x1E300_01E4CF,
   0x1E4FA_01E5CF, 0x1E5FB_01E5FE, 0x1E600_01E6BF, 0x1E6DF, 0x1E6F6_01E6FD,
   0x1E700_01E7DF, 0x1E7E7, 0x1E7EC, 0x1E7EF, 0x1E7FF, 0x1E8C5_01E8C6, 0x1E8D7_01E8FF,
   0x1E94C_01E94F, 0x1E95A_01E95D, 0x1E960_01EC70, 0x1ECB5_01ED00, 0x1ED3E_01EDFF,
   0x1EE04, 0x1EE20, 0x1EE23, 0x1EE25_01EE26, 0x1EE28, 0x1EE33, 0x1EE38, 0x1EE3A,
   0x1EE3C_01EE41, 0x1EE43_01EE46, 0x1EE48, 0x1EE4A, 0x1EE4C, 0x1EE50, 0x1EE53,
   0x1EE55_01EE56, 0x1EE58, 0x1EE5A, 0x1EE5C, 0x1EE5E, 0x1EE60, 0x1EE63, 0x1EE65_01EE66,
   0x1EE6B, 0x1EE73, 0x1EE78, 0x1EE7D, 0x1EE7F, 0x1EE8A, 0x1EE9C_01EEA0, 0x1EEA4,
   0x1EEAA, 0x1EEBC_01EEEF, 0x1EEF2_01EFFF, 0x1F02C_01F02F, 0x1F094_01F09F,
   0x1F0AF_01F0B0, 0x1F0C0, 0x1F0D0, 0x1F0F6_01F100, 0x1F1AE_01F1E5, 0x1F203_01F20F,
   0x1F23C_01F23F, 0x1F249_01F24F, 0x1F252_01F25F, 0x1F266_01F2FF, 0x1F6D9_01F6DB,
   0x1F6ED_01F6EF, 0x1F6FD_01F6FF, 0x1F7DA_01F7DF, 0x1F7EC_01F7EF, 0x1F7F1_01F7FF,
   0x1F80C_01F80F, 0x1F848_01F84F, 0x1F85A_01F85F, 0x1F888_01F88F, 0x1F8AE_01F8AF,
   0x1F8BC_01F8BF, 0x1F8C2_01F8CF, 0x1F8D9_01F8FF, 0x1FA58_01FA5F, 0x1FA6E_01FA6F,
   0x1FA7D_01FA7F, 0x1FA8B_01FA8D, 0x1FAC7, 0x1FAC9_01FACC, 0x1FADD_01FADE,
   0x1FAEB_01FAEE, 0x1FAF9_01FAFF, 0x1FB93, 0x1FBFB_01FFFF, 0x2A6E0_02A6FF,
   0x2B81E_02B81F, 0x2CEAE_02CEAF, 0x2EBE1_02EBEF, 0x2EE5E_02F7FF, 0x2FA1E_02FFFF,
   0x3134B_03134F, 0x3347A_0E00FF, 0xE01F0_10FFFF]

set_option maxRecDepth 20000 in
/-- The characters that stand for one other. -/
def substitutions : List (Range × Nat) := Range.shifts
  [0xA0_000020, 0xAA_000061, 0xB2_0000B3_000032, 0xB5_0003BC, 0xB9_000031, 0xBA_00006F,
   0xC0_0000D6_0000E0, 0xD8_0000DE_0000F8, 0x100_000101, 0x102_000103, 0x104_000105,
   0x106_000107, 0x108_000109, 0x10A_00010B, 0x10C_00010D, 0x10E_00010F, 0x110_000111,
   0x112_000113, 0x114_000115, 0x116_000117, 0x118_000119, 0x11A_00011B, 0x11C_00011D,
   0x11E_00011F, 0x120_000121, 0x122_000123, 0x124_000125, 0x126_000127, 0x128_000129,
   0x12A_00012B, 0x12C_00012D, 0x12E_00012F, 0x134_000135, 0x136_000137, 0x139_00013A,
   0x13B_00013C, 0x13D_00013E, 0x141_000142, 0x143_000144, 0x145_000146, 0x147_000148,
   0x14A_00014B, 0x14C_00014D, 0x14E_00014F, 0x150_000151, 0x152_000153, 0x154_000155,
   0x156_000157, 0x158_000159, 0x15A_00015B, 0x15C_00015D, 0x15E_00015F, 0x160_000161,
   0x162_000163, 0x164_000165, 0x166_000167, 0x168_000169, 0x16A_00016B, 0x16C_00016D,
   0x16E_00016F, 0x170_000171, 0x172_000173, 0x174_000175, 0x176_000177, 0x178_0000FF,
   0x179_00017A, 0x17B_00017C, 0x17D_00017E, 0x17F_000073, 0x181_000253, 0x182_000183,
   0x184_000185, 0x186_000254, 0x187_000188, 0x189_00018A_000256, 0x18B_00018C,
   0x18E_0001DD, 0x18F_000259, 0x190_00025B, 0x191_000192, 0x193_000260, 0x194_000263,
   0x196_000269, 0x197_000268, 0x198_000199, 0x19C_00026F, 0x19D_000272, 0x19F_000275,
   0x1A0_0001A1, 0x1A2_0001A3, 0x1A4_0001A5, 0x1A6_000280, 0x1A7_0001A8, 0x1A9_000283,
   0x1AC_0001AD, 0x1AE_000288, 0x1AF_0001B0, 0x1B1_0001B2_00028A, 0x1B3_0001B4,
   0x1B5_0001B6, 0x1B7_000292, 0x1B8_0001B9, 0x1BC_0001BD, 0x1CD_0001CE, 0x1CF_0001D0,
   0x1D1_0001D2, 0x1D3_0001D4, 0x1D5_0001D6, 0x1D7_0001D8, 0x1D9_0001DA, 0x1DB_0001DC,
   0x1DE_0001DF, 0x1E0_0001E1, 0x1E2_0001E3, 0x1E4_0001E5, 0x1E6_0001E7, 0x1E8_0001E9,
   0x1EA_0001EB, 0x1EC_0001ED, 0x1EE_0001EF, 0x1F4_0001F5, 0x1F6_000195, 0x1F7_0001BF,
   0x1F8_0001F9, 0x1FA_0001FB, 0x1FC_0001FD, 0x1FE_0001FF, 0x200_000201, 0x202_000203,
   0x204_000205, 0x206_000207, 0x208_000209, 0x20A_00020B, 0x20C_00020D, 0x20E_00020F,
   0x210_000211, 0x212_000213, 0x214_000215, 0x216_000217, 0x218_000219, 0x21A_00021B,
   0x21C_00021D, 0x21E_00021F, 0x220_00019E, 0x222_000223, 0x224_000225, 0x226_000227,
   0x228_000229, 0x22A_00022B, 0x22C_00022D, 0x22E_00022F, 0x230_000231, 0x232_000233,
   0x23A_002C65, 0x23B_00023C, 0x23D_00019A, 0x23E_002C66, 0x241_000242, 0x243_000180,
   0x244_000289, 0x245_00028C, 0x246_000247, 0x248_000249, 0x24A_00024B, 0x24C_00024D,
   0x24E_00024F, 0x2B0_000068, 0x2B1_000266, 0x2B2_00006A, 0x2B3_000072, 0x2B4_000279,
   0x2B5_00027B, 0x2B6_000281, 0x2B7_000077, 0x2B8_000079, 0x2E0_000263, 0x2E1_00006C,
   0x2E2_000073, 0x2E3_000078, 0x2E4_000295, 0x340_000341_000300, 0x343_000313,
   0x345_0003B9, 0x370_000371, 0x372_000373, 0x374_0002B9, 0x376_000377, 0x37E_00003B,
   0x37F_0003F3, 0x386_0003AC, 0x387_0000B7, 0x388_00038A_0003AD, 0x38C_0003CC,
   0x38E_00038F_0003CD, 0x391_0003A1_0003B1, 0x3A3_0003AB_0003C3, 0x3CF_0003D7,
   0x3D0_0003B2, 0x3D1_0003B8, 0x3D2_0003C5, 0x3D3_0003CD, 0x3D4_0003CB, 0x3D5_0003C6,
   0x3D6_0003C0, 0x3D8_0003D9, 0x3DA_0003DB, 0x3DC_0003DD, 0x3DE_0003DF, 0x3E0_0003E1,
   0x3E2_0003E3, 0x3E4_0003E5, 0x3E6_0003E7, 0x3E8_0003E9, 0x3EA_0003EB, 0x3EC_0003ED,
   0x3EE_0003EF, 0x3F0_0003BA, 0x3F1_0003C1, 0x3F2_0003C3, 0x3F4_0003B8, 0x3F5_0003B5,
   0x3F7_0003F8, 0x3F9_0003C3, 0x3FA_0003FB, 0x3FD_0003FF_00037B, 0x400_00040F_000450,
   0x410_00042F_000430, 0x460_000461, 0x462_000463, 0x464_000465, 0x466_000467,
   0x468_000469, 0x46A_00046B, 0x46C_00046D, 0x46E_00046F, 0x470_000471, 0x472_000473,
   0x474_000475, 0x476_000477, 0x478_000479, 0x47A_00047B, 0x47C_00047D, 0x47E_00047F,
   0x480_000481, 0x48A_00048B, 0x48C_00048D, 0x48E_00048F, 0x490_000491, 0x492_000493,
   0x494_000495, 0x496_000497, 0x498_000499, 0x49A_00049B, 0x49C_00049D, 0x49E_00049F,
   0x4A0_0004A1, 0x4A2_0004A3, 0x4A4_0004A5, 0x4A6_0004A7, 0x4A8_0004A9, 0x4AA_0004AB,
   0x4AC_0004AD, 0x4AE_0004AF, 0x4B0_0004B1, 0x4B2_0004B3, 0x4B4_0004B5, 0x4B6_0004B7,
   0x4B8_0004B9, 0x4BA_0004BB, 0x4BC_0004BD, 0x4BE_0004BF, 0x4C0_0004CF, 0x4C1_0004C2,
   0x4C3_0004C4, 0x4C5_0004C6, 0x4C7_0004C8, 0x4C9_0004CA, 0x4CB_0004CC, 0x4CD_0004CE,
   0x4D0_0004D1, 0x4D2_0004D3, 0x4D4_0004D5, 0x4D6_0004D7, 0x4D8_0004D9, 0x4DA_0004DB,
   0x4DC_0004DD, 0x4DE_0004DF, 0x4E0_0004E1, 0x4E2_0004E3, 0x4E4_0004E5, 0x4E6_0004E7,
   0x4E8_0004E9, 0x4EA_0004EB, 0x4EC_0004ED, 0x4EE_0004EF, 0x4F0_0004F1, 0x4F2_0004F3,
   0x4F4_0004F5, 0x4F6_0004F7, 0x4F8_0004F9, 0x4FA_0004FB, 0x4FC_0004FD, 0x4FE_0004FF,
   0x500_000501, 0x502_000503, 0x504_000505, 0x506_000507, 0x508_000509, 0x50A_00050B,
   0x50C_00050D, 0x50E_00050F, 0x510_000511, 0x512_000513, 0x514_000515, 0x516_000517,
   0x518_000519, 0x51A_00051B, 0x51C_00051D, 0x51E_00051F, 0x520_000521, 0x522_000523,
   0x524_000525, 0x526_000527, 0x528_000529, 0x52A_00052B, 0x52C_00052D, 0x52E_00052F,
   0x531_000556_000561, 0xF0C_000F0B, 0x10A0_0010C5_002D00, 0x10C7_002D27, 0x10CD_002D2D,
   0x10FC_0010DC, 0x13F8_0013FD_0013F0, 0x1C80_000432, 0x1C81_000434, 0x1C82_00043E,
   0x1C83_001C84_000441, 0x1C85_000442, 0x1C86_00044A, 0x1C87_000463, 0x1C88_00A64B,
   0x1C89_001C8A, 0x1C90_001CBA_0010D0, 0x1CBD_001CBF_0010FD, 0x1D2C_000061,
   0x1D2D_0000E6, 0x1D2E_000062, 0x1D30_001D31_000064, 0x1D32_0001DD,
   0x1D33_001D3A_000067, 0x1D3C_00006F, 0x1D3D_000223, 0x1D3E_000070, 0x1D3F_000072,
   0x1D40_001D41_000074, 0x1D42_000077, 0x1D43_000061, 0x1D44_001D45_000250,
   0x1D46_001D02, 0x1D47_000062, 0x1D48_001D49_000064, 0x1D4A_000259,
   0x1D4B_001D4C_00025B, 0x1D4D_000067, 0x1D4F_00006B, 0x1D50_00006D, 0x1D51_00014B,
   0x1D52_00006F, 0x1D53_000254, 0x1D54_001D55_001D16, 0x1D56_000070,
   0x1D57_001D58_000074, 0x1D59_001D1D, 0x1D5A_00026F, 0x1D5B_000076, 0x1D5C_001D25,
   0x1D5D_001D5F_0003B2, 0x1D60_001D61_0003C6, 0x1D62_000069, 0x1D63_000072,
   0x1D64_001D65_000075, 0x1D66_001D67_0003B2, 0x1D68_0003C1, 0x1D69_001D6A_0003C6,
   0x1D78_00043D, 0x1D9B_000252, 0x1D9C_000063, 0x1D9D_000255, 0x1D9E_0000F0,
   0x1D9F_00025C, 0x1DA0_000066, 0x1DA1_00025F, 0x1DA2_000261, 0x1DA3_000265,
   0x1DA4_001DA6_000268, 0x1DA7_001D7B, 0x1DA8_00029D, 0x1DA9_00026D, 0x1DAA_001D85,
   0x1DAB_00029F, 0x1DAC_000271, 0x1DAD_000270, 0x1DAE_001DB1_000272, 0x1DB2_000278,
   0x1DB3_001DB4_000282, 0x1DB5_0001AB, 0x1DB6_001DB7_000289, 0x1DB8_001D1C,
   0x1DB9_001DBA_00028B, 0x1DBB_00007A, 0x1DBC_001DBE_000290, 0x1DBF_0003B8,
   0x1E00_001E01, 0x1E02_001E03, 0x1E04_001E05, 0x1E06_001E07, 0x1E08_001E09,
   0x1E0A_001E0B, 0x1E0C_001E0D, 0x1E0E_001E0F, 0x1E10_001E11, 0x1E12_001E13,
   0x1E14_001E15, 0x1E16_001E17, 0x1E18_001E19, 0x1E1A_001E1B, 0x1E1C_001E1D,
   0x1E1E_001E1F, 0x1E20_001E21, 0x1E22_001E23, 0x1E24_001E25, 0x1E26_001E27,
   0x1E28_001E29, 0x1E2A_001E2B, 0x1E2C_001E2D, 0x1E2E_001E2F, 0x1E30_001E31,
   0x1E32_001E33, 0x1E34_001E35, 0x1E36_001E37, 0x1E38_001E39, 0x1E3A_001E3B,
   0x1E3C_001E3D, 0x1E3E_001E3F, 0x1E40_001E41, 0x1E42_001E43, 0x1E44_001E45,
   0x1E46_001E47, 0x1E48_001E49, 0x1E4A_001E4B, 0x1E4C_001E4D, 0x1E4E_001E4F,
   0x1E50_001E51, 0x1E52_001E53, 0x1E54_001E55, 0x1E56_001E57, 0x1E58_001E59,
   0x1E5A_001E5B, 0x1E5C_001E5D, 0x1E5E_001E5F, 0x1E60_001E61, 0x1E62_001E63,
   0x1E64_001E65, 0x1E66_001E67, 0x1E68_001E69, 0x1E6A_001E6B, 0x1E6C_001E6D,
   0x1E6E_001E6F, 0x1E70_001E71, 0x1E72_001E73, 0x1E74_001E75, 0x1E76_001E77,
   0x1E78_001E79, 0x1E7A_001E7B, 0x1E7C_001E7D, 0x1E7E_001E7F, 0x1E80_001E81,
   0x1E82_001E83, 0x1E84_001E85, 0x1E86_001E87, 0x1E88_001E89, 0x1E8A_001E8B,
   0x1E8C_001E8D, 0x1E8E_001E8F, 0x1E90_001E91, 0x1E92_001E93, 0x1E94_001E95,
   0x1E9B_001E61, 0x1E9E_0000DF, 0x1EA0_001EA1, 0x1EA2_001EA3, 0x1EA4_001EA5,
   0x1EA6_001EA7, 0x1EA8_001EA9, 0x1EAA_001EAB, 0x1EAC_001EAD, 0x1EAE_001EAF,
   0x1EB0_001EB1, 0x1EB2_001EB3, 0x1EB4_001EB5, 0x1EB6_001EB7, 0x1EB8_001EB9,
   0x1EBA_001EBB, 0x1EBC_001EBD, 0x1EBE_001EBF, 0x1EC0_001EC1, 0x1EC2_001EC3,
   0x1EC4_001EC5, 0x1EC6_001EC7, 0x1EC8_001EC9, 0x1ECA_001ECB, 0x1ECC_001ECD,
   0x1ECE_001ECF, 0x1ED0_001ED1, 0x1ED2_001ED3, 0x1ED4_001ED5, 0x1ED6_001ED7,
   0x1ED8_001ED9, 0x1EDA_001EDB, 0x1EDC_001EDD, 0x1EDE_001EDF, 0x1EE0_001EE1,
   0x1EE2_001EE3, 0x1EE4_001EE5, 0x1EE6_001EE7, 0x1EE8_001EE9, 0x1EEA_001EEB,
   0x1EEC_001EED, 0x1EEE_001EEF, 0x1EF0_001EF1, 0x1EF2_001EF3, 0x1EF4_001EF5,
   0x1EF6_001EF7, 0x1EF8_001EF9, 0x1EFA_001EFB, 0x1EFC_001EFD, 0x1EFE_001EFF,
   0x1F08_001F0F_001F00, 0x1F18_001F1D_001F10, 0x1F28_001F2F_001F20, 0x1F38_001F3F_001F30,
   0x1F48_001F4D_001F40, 0x1F59_001F51, 0x1F5B_001F53, 0x1F5D_001F55, 0x1F5F_001F57,
   0x1F68_001F6F_001F60, 0x1F71_0003AC, 0x1F73_0003AD, 0x1F75_0003AE, 0x1F77_0003AF,
   0x1F79_0003CC, 0x1F7B_0003CD, 0x1F7D_0003CE, 0x1FB8_001FB9_001FB0, 0x1FBA_001F70,
   0x1FBB_0003AC, 0x1FBE_0003B9, 0x1FC8_001F72, 0x1FC9_0003AD, 0x1FCA_001F74,
   0x1FCB_0003AE, 0x1FD3_000390, 0x1FD8_001FD9_001FD0, 0x1FDA_001F76, 0x1FDB_0003AF,
   0x1FE3_0003B0, 0x1FE8_001FE9_001FE0, 0x1FEA_001F7A, 0x1FEB_0003CD, 0x1FEC_001FE5,
   0x1FEF_000060, 0x1FF8_001F78, 0x1FF9_0003CC, 0x1FFA_001F7C, 0x1FFB_0003CE,
   0x2000_000020, 0x2001_000020, 0x2002_000020, 0x2003_000020, 0x2004_000020,
   0x2005_000020, 0x2006_000020, 0x2007_000020, 0x2008_000020, 0x2009_000020,
   0x200A_000020, 0x2011_002010, 0x202F_000020, 0x205F_000020, 0x2070_000030,
   0x2071_000069, 0x2074_002079_000034, 0x207A_00002B, 0x207B_002212, 0x207C_00003D,
   0x207D_00207E_000028, 0x207F_00006E, 0x2080_002089_000030, 0x208A_00002B,
   0x208B_002212, 0x208C_00003D, 0x208D_00208E_000028, 0x2090_000061, 0x2091_000065,
   0x2092_00006F, 0x2093_000078, 0x2094_000259, 0x2095_000068, 0x2096_002099_00006B,
   0x209A_000070, 0x209B_00209C_000073, 0x2102_000063, 0x2107_00025B,
   0x210A_00210B_000067, 0x210C_000068, 0x210D_000068, 0x210E_000068, 0x210F_000127,
   0x2110_000069, 0x2111_000069, 0x2112_00006C, 0x2113_00006C, 0x2115_00006E,
   0x2119_00211B_000070, 0x211C_000072, 0x211D_000072, 0x2124_00007A, 0x2126_0003C9,
   0x2128_00007A, 0x212A_00006B, 0x212B_0000E5, 0x212C_00212D_000062, 0x212F_000065,
   0x2130_002131_000065, 0x2132_00214E, 0x2133_00006D, 0x2134_00006F,
   0x2135_002138_0005D0, 0x2139_000069, 0x213C_0003C0, 0x213D_0003B3, 0x213E_0003B3,
   0x213F_0003C0, 0x2140_002211, 0x2145_000064, 0x2146_002147_000064,
   0x2148_002149_000069, 0x2160_000069, 0x2164_000076, 0x2169_000078, 0x216C_00006C,
   0x216D_00216E_000063, 0x216F_00006D, 0x2170_000069, 0x2174_000076, 0x2179_000078,
   0x217C_00006C, 0x217D_00217E_000063, 0x217F_00006D, 0x2183_002184,
   0x2329_00232A_003008, 0x2460_002468_000031, 0x24B6_0024CF_000061, 0x24D0_0024E9_000061,
   0x24EA_000030, 0x2C00_002C2F_002C30, 0x2C60_002C61, 0x2C62_00026B, 0x2C63_001D7D,
   0x2C64_00027D, 0x2C67_002C68, 0x2C69_002C6A, 0x2C6B_002C6C, 0x2C6D_000251,
   0x2C6E_000271, 0x2C6F_000250, 0x2C70_000252, 0x2C72_002C73, 0x2C75_002C76,
   0x2C7C_00006A, 0x2C7D_000076, 0x2C7E_002C7F_00023F, 0x2C80_002C81, 0x2C82_002C83,
   0x2C84_002C85, 0x2C86_002C87, 0x2C88_002C89, 0x2C8A_002C8B, 0x2C8C_002C8D,
   0x2C8E_002C8F, 0x2C90_002C91, 0x2C92_002C93, 0x2C94_002C95, 0x2C96_002C97,
   0x2C98_002C99, 0x2C9A_002C9B, 0x2C9C_002C9D, 0x2C9E_002C9F, 0x2CA0_002CA1,
   0x2CA2_002CA3, 0x2CA4_002CA5, 0x2CA6_002CA7, 0x2CA8_002CA9, 0x2CAA_002CAB,
   0x2CAC_002CAD, 0x2CAE_002CAF, 0x2CB0_002CB1, 0x2CB2_002CB3, 0x2CB4_002CB5,
   0x2CB6_002CB7, 0x2CB8_002CB9, 0x2CBA_002CBB, 0x2CBC_002CBD, 0x2CBE_002CBF,
   0x2CC0_002CC1, 0x2CC2_002CC3, 0x2CC4_002CC5, 0x2CC6_002CC7, 0x2CC8_002CC9,
   0x2CCA_002CCB, 0x2CCC_002CCD, 0x2CCE_002CCF, 0x2CD0_002CD1, 0x2CD2_002CD3,
   0x2CD4_002CD5, 0x2CD6_002CD7, 0x2CD8_002CD9, 0x2CDA_002CDB, 0x2CDC_002CDD,
   0x2CDE_002CDF, 0x2CE0_002CE1, 0x2CE2_002CE3, 0x2CEB_002CEC, 0x2CED_002CEE,
   0x2CF2_002CF3, 0x2D6F_002D61, 0x2E9F_006BCD, 0x2EF3_009F9F, 0x2F00_004E00,
   0x2F01_004E28, 0x2F02_004E36, 0x2F03_004E3F, 0x2F04_004E59, 0x2F05_004E85,
   0x2F06_004E8C, 0x2F07_004EA0, 0x2F08_004EBA, 0x2F09_00513F, 0x2F0A_005165,
   0x2F0B_00516B, 0x2F0C_005182, 0x2F0D_005196, 0x2F0E_0051AB, 0x2F0F_0051E0,
   0x2F10_0051F5, 0x2F11_005200, 0x2F12_00529B, 0x2F13_0052F9, 0x2F14_005315,
   0x2F15_00531A, 0x2F16_005338, 0x2F17_005341, 0x2F18_00535C, 0x2F19_005369,
   0x2F1A_005382, 0x2F1B_0053B6, 0x2F1C_0053C8, 0x2F1D_0053E3, 0x2F1E_0056D7,
   0x2F1F_00571F, 0x2F20_0058EB, 0x2F21_005902, 0x2F22_00590A, 0x2F23_005915,
   0x2F24_005927, 0x2F25_005973, 0x2F26_005B50, 0x2F27_005B80, 0x2F28_005BF8,
   0x2F29_005C0F, 0x2F2A_005C22, 0x2F2B_005C38, 0x2F2C_005C6E, 0x2F2D_005C71,
   0x2F2E_005DDB, 0x2F2F_005DE5, 0x2F30_005DF1, 0x2F31_005DFE, 0x2F32_005E72,
   0x2F33_005E7A, 0x2F34_005E7F, 0x2F35_005EF4, 0x2F36_005EFE, 0x2F37_005F0B,
   0x2F38_005F13, 0x2F39_005F50, 0x2F3A_005F61, 0x2F3B_005F73, 0x2F3C_005FC3,
   0x2F3D_006208, 0x2F3E_006236, 0x2F3F_00624B, 0x2F40_00652F, 0x2F41_006534,
   0x2F42_006587, 0x2F43_006597, 0x2F44_0065A4, 0x2F45_0065B9, 0x2F46_0065E0,
   0x2F47_0065E5, 0x2F48_0066F0, 0x2F49_006708, 0x2F4A_006728, 0x2F4B_006B20,
   0x2F4C_006B62, 0x2F4D_006B79, 0x2F4E_006BB3, 0x2F4F_006BCB, 0x2F50_006BD4,
   0x2F51_006BDB, 0x2F52_006C0F, 0x2F53_006C14, 0x2F54_006C34, 0x2F55_00706B,
   0x2F56_00722A, 0x2F57_007236, 0x2F58_00723B, 0x2F59_00723F, 0x2F5A_007247,
   0x2F5B_007259, 0x2F5C_00725B, 0x2F5D_0072AC, 0x2F5E_007384, 0x2F5F_007389,
   0x2F60_0074DC, 0x2F61_0074E6, 0x2F62_007518, 0x2F63_00751F, 0x2F64_007528,
   0x2F65_007530, 0x2F66_00758B, 0x2F67_007592, 0x2F68_007676, 0x2F69_00767D,
   0x2F6A_0076AE, 0x2F6B_0076BF, 0x2F6C_0076EE, 0x2F6D_0077DB, 0x2F6E_0077E2,
   0x2F6F_0077F3, 0x2F70_00793A, 0x2F71_0079B8, 0x2F72_0079BE, 0x2F73_007A74,
   0x2F74_007ACB, 0x2F75_007AF9, 0x2F76_007C73, 0x2F77_007CF8, 0x2F78_007F36,
   0x2F79_007F51, 0x2F7A_007F8A, 0x2F7B_007FBD, 0x2F7C_008001, 0x2F7D_00800C,
   0x2F7E_008012, 0x2F7F_008033, 0x2F80_00807F, 0x2F81_008089, 0x2F82_0081E3,
   0x2F83_0081EA, 0x2F84_0081F3, 0x2F85_0081FC, 0x2F86_00820C, 0x2F87_00821B,
   0x2F88_00821F, 0x2F89_00826E, 0x2F8A_008272, 0x2F8B_008278, 0x2F8C_00864D,
   0x2F8D_00866B, 0x2F8E_008840, 0x2F8F_00884C, 0x2F90_008863, 0x2F91_00897E,
   0x2F92_00898B, 0x2F93_0089D2, 0x2F94_008A00, 0x2F95_008C37, 0x2F96_008C46,
   0x2F97_008C55, 0x2F98_008C78, 0x2F99_008C9D, 0x2F9A_008D64, 0x2F9B_008D70,
   0x2F9C_008DB3, 0x2F9D_008EAB, 0x2F9E_008ECA, 0x2F9F_008F9B, 0x2FA0_008FB0,
   0x2FA1_008FB5, 0x2FA2_009091, 0x2FA3_009149, 0x2FA4_0091C6, 0x2FA5_0091CC,
   0x2FA6_0091D1, 0x2FA7_009577, 0x2FA8_009580, 0x2FA9_00961C, 0x2FAA_0096B6,
   0x2FAB_0096B9, 0x2FAC_0096E8, 0x2FAD_009751, 0x2FAE_00975E, 0x2FAF_009762,
   0x2FB0_009769, 0x2FB1_0097CB, 0x2FB2_0097ED, 0x2FB3_0097F3, 0x2FB4_009801,
   0x2FB5_0098A8, 0x2FB6_0098DB, 0x2FB7_0098DF, 0x2FB8_009996, 0x2FB9_009999,
   0x2FBA_0099AC, 0x2FBB_009AA8, 0x2FBC_009AD8, 0x2FBD_009ADF, 0x2FBE_009B25,
   0x2FBF_009B2F, 0x2FC0_009B32, 0x2FC1_009B3C, 0x2FC2_009B5A, 0x2FC3_009CE5,
   0x2FC4_009E75, 0x2FC5_009E7F, 0x2FC6_009EA5, 0x2FC7_009EBB, 0x2FC8_009EC3,
   0x2FC9_009ECD, 0x2FCA_009ED1, 0x2FCB_009EF9, 0x2FCC_009EFD, 0x2FCD_009F0E,
   0x2FCE_009F13, 0x2FCF_009F20, 0x2FD0_009F3B, 0x2FD1_009F4A, 0x2FD2_009F52,
   0x2FD3_009F8D, 0x2FD4_009F9C, 0x2FD5_009FA0, 0x3000_000020, 0x3002_00002E,
   0x3036_003012, 0x3038_005341, 0x3039_00303A_005344, 0x3131_003132_001100,
   0x3133_0011AA, 0x3134_001102, 0x3135_003136_0011AC, 0x3137_003139_001103,
   0x313A_00313F_0011B0, 0x3140_00111A, 0x3141_003143_001106, 0x3144_001121,
   0x3145_00314E_001109, 0x314F_003163_001161, 0x3165_003166_001114,
   0x3167_003168_0011C7, 0x3169_0011CC, 0x316A_0011CE, 0x316B_0011D3, 0x316C_0011D7,
   0x316D_0011D9, 0x316E_00111C, 0x316F_0011DD, 0x3170_0011DF, 0x3171_003172_00111D,
   0x3173_001120, 0x3174_003175_001122, 0x3176_001127, 0x3177_001129,
   0x3178_00317C_00112B, 0x317D_001132, 0x317E_001136, 0x317F_001140, 0x3180_001147,
   0x3181_00114C, 0x3182_003183_0011F1, 0x3184_003186_001157, 0x3187_003188_001184,
   0x3189_001188, 0x318A_00318B_001191, 0x318C_001194, 0x318D_00119E, 0x318E_0011A1,
   0x3192_004E00, 0x3193_004E8C, 0x3194_004E09, 0x3195_0056DB, 0x3196_004E0A,
   0x3197_004E2D, 0x3198_004E0B, 0x3199_007532, 0x319A_004E59, 0x319B_004E19,
   0x319C_004E01, 0x319D_005929, 0x319E_005730, 0x319F_004EBA, 0x3244_00554F,
   0x3245_005E7C, 0x3246_006587, 0x3247_007B8F, 0x3260_001100, 0x3261_003262_001102,
   0x3263_003265_001105, 0x3266_001109, 0x3267_003268_00110B, 0x3269_00326D_00110E,
   0x326E_00AC00, 0x326F_00B098, 0x3270_00B2E4, 0x3271_00B77C, 0x3272_00B9C8,
   0x3273_00BC14, 0x3274_00C0AC, 0x3275_00C544, 0x3276_00C790, 0x3277_00CC28,
   0x3278_00CE74, 0x3279_00D0C0, 0x327A_00D30C, 0x327B_00D558, 0x327E_00C6B0,
   0x3280_004E00, 0x3281_004E8C, 0x3282_004E09, 0x3283_0056DB, 0x3284_004E94,
   0x3285_00516D, 0x3286_004E03, 0x3287_00516B, 0x3288_004E5D, 0x3289_005341,
   0x328A_006708, 0x328B_00706B, 0x328C_006C34, 0x328D_006728, 0x328E_0091D1,
   0x328F_00571F, 0x3290_0065E5, 0x3291_00682A, 0x3292_006709, 0x3293_00793E,
   0x3294_00540D, 0x3295_007279, 0x3296_008CA1, 0x3297_00795D, 0x3298_0052B4,
   0x3299_0079D8, 0x329A_007537, 0x329B_005973, 0x329C_009069, 0x329D_00512A,
   0x329E_005370, 0x329F_006CE8, 0x32A0_009805, 0x32A1_004F11, 0x32A2_005199,
   0x32A3_006B63, 0x32A4_004E0A, 0x32A5_004E2D, 0x32A6_004E0B, 0x32A7_005DE6,
   0x32A8_0053F3, 0x32A9_00533B, 0x32AA_005B97, 0x32AB_005B66, 0x32AC_0076E3,
   0x32AD_004F01, 0x32AE_008CC7, 0x32AF_005354, 0x32B0_00591C, 0x32D0_0030A2,
   0x32D1_0030A4, 0x32D2_0030A6, 0x32D3_0030A8, 0x32D4_0032D5_0030AA, 0x32D6_0030AD,
   0x32D7_0030AF, 0x32D8_0030B1, 0x32D9_0030B3, 0x32DA_0030B5, 0x32DB_0030B7,
   0x32DC_0030B9, 0x32DD_0030BB, 0x32DE_0030BD, 0x32DF_0030BF, 0x32E0_0030C1,
   0x32E1_0030C4, 0x32E2_0030C6, 0x32E3_0030C8, 0x32E4_0032E9_0030CA, 0x32EA_0030D2,
   0x32EB_0030D5, 0x32EC_0030D8, 0x32ED_0030DB, 0x32EE_0032F2_0030DE, 0x32F3_0030E4,
   0x32F4_0030E6, 0x32F5_0032FA_0030E8, 0x32FB_0032FE_0030EF, 0xA640_00A641,
   0xA642_00A643, 0xA644_00A645, 0xA646_00A647, 0xA648_00A649, 0xA64A_00A64B,
   0xA64C_00A64D, 0xA64E_00A64F, 0xA650_00A651, 0xA652_00A653, 0xA654_00A655,
   0xA656_00A657, 0xA658_00A659, 0xA65A_00A65B, 0xA65C_00A65D, 0xA65E_00A65F,
   0xA660_00A661, 0xA662_00A663, 0xA664_00A665, 0xA666_00A667, 0xA668_00A669,
   0xA66A_00A66B, 0xA66C_00A66D, 0xA680_00A681, 0xA682_00A683, 0xA684_00A685,
   0xA686_00A687, 0xA688_00A689, 0xA68A_00A68B, 0xA68C_00A68D, 0xA68E_00A68F,
   0xA690_00A691, 0xA692_00A693, 0xA694_00A695, 0xA696_00A697, 0xA698_00A699,
   0xA69A_00A69B, 0xA69C_00044A, 0xA69D_00044C, 0xA722_00A723, 0xA724_00A725,
   0xA726_00A727, 0xA728_00A729, 0xA72A_00A72B, 0xA72C_00A72D, 0xA72E_00A72F,
   0xA732_00A733, 0xA734_00A735, 0xA736_00A737, 0xA738_00A739, 0xA73A_00A73B,
   0xA73C_00A73D, 0xA73E_00A73F, 0xA740_00A741, 0xA742_00A743, 0xA744_00A745,
   0xA746_00A747, 0xA748_00A749, 0xA74A_00A74B, 0xA74C_00A74D, 0xA74E_00A74F,
   0xA750_00A751, 0xA752_00A753, 0xA754_00A755, 0xA756_00A757, 0xA758_00A759,
   0xA75A_00A75B, 0xA75C_00A75D, 0xA75E_00A75F, 0xA760_00A761, 0xA762_00A763,
   0xA764_00A765, 0xA766_00A767, 0xA768_00A769, 0xA76A_00A76B, 0xA76C_00A76D,
   0xA76E_00A76F, 0xA770_00A76F, 0xA779_00A77A, 0xA77B_00A77C, 0xA77D_001D79,
   0xA77E_00A77F, 0xA780_00A781, 0xA782_00A783, 0xA784_00A785, 0xA786_00A787,
   0xA78B_00A78C, 0xA78D_000265, 0xA790_00A791, 0xA792_00A793, 0xA796_00A797,
   0xA798_00A799, 0xA79A_00A79B, 0xA79C_00A79D, 0xA79E_00A79F, 0xA7A0_00A7A1,
   0xA7A2_00A7A3, 0xA7A4_00A7A5, 0xA7A6_00A7A7, 0xA7A8_00A7A9, 0xA7AA_000266,
   0xA7AB_00025C, 0xA7AC_000261, 0xA7AD_00026C, 0xA7AE_00026A, 0xA7B0_00029E,
   0xA7B1_000287, 0xA7B2_00029D, 0xA7B3_00AB53, 0xA7B4_00A7B5, 0xA7B6_00A7B7,
   0xA7B8_00A7B9, 0xA7BA_00A7BB, 0xA7BC_00A7BD, 0xA7BE_00A7BF, 0xA7C0_00A7C1,
   0xA7C2_00A7C3, 0xA7C4_00A794, 0xA7C5_000282, 0xA7C6_001D8E, 0xA7C7_00A7C8,
   0xA7C9_00A7CA, 0xA7CB_000264, 0xA7CC_00A7CD, 0xA7CE_00A7CF, 0xA7D0_00A7D1,
   0xA7D2_00A7D3, 0xA7D4_00A7D5, 0xA7D6_00A7D7, 0xA7D8_00A7D9, 0xA7DA_00A7DB,
   0xA7DC_00019B, 0xA7F1_000073, 0xA7F2_000063, 0xA7F3_000066, 0xA7F4_000071,
   0xA7F5_00A7F6, 0xA7F8_000127, 0xA7F9_000153, 0xAB5C_00A727, 0xAB5D_00AB37,
   0xAB5E_00026B, 0xAB5F_00AB52, 0xAB69_00028D, 0xAB70_00ABBF_0013A0, 0xF900_008C48,
   0xF901_0066F4, 0xF902_008ECA, 0xF903_008CC8, 0xF904_006ED1, 0xF905_004E32,
   0xF906_0053E5, 0xF907_009F9C, 0xF908_009F9C, 0xF909_005951, 0xF90A_0091D1,
   0xF90B_005587, 0xF90C_005948, 0xF90D_0061F6, 0xF90E_007669, 0xF90F_007F85,
   0xF910_00863F, 0xF911_0087BA, 0xF912_0088F8, 0xF913_00908F, 0xF914_006A02,
   0xF915_006D1B, 0xF916_0070D9, 0xF917_0073DE, 0xF918_00843D, 0xF919_00916A,
   0xF91A_0099F1, 0xF91B_004E82, 0xF91C_005375, 0xF91D_006B04, 0xF91E_00721B,
   0xF91F_00862D, 0xF920_009E1E, 0xF921_005D50, 0xF922_006FEB, 0xF923_0085CD,
   0xF924_008964, 0xF925_0062C9, 0xF926_0081D8, 0xF927_00881F, 0xF928_005ECA,
   0xF929_006717, 0xF92A_006D6A, 0xF92B_0072FC, 0xF92C_0090CE, 0xF92D_004F86,
   0xF92E_0051B7, 0xF92F_0052DE, 0xF930_0064C4, 0xF931_006AD3, 0xF932_007210,
   0xF933_0076E7, 0xF934_008001, 0xF935_008606, 0xF936_00865C, 0xF937_008DEF,
   0xF938_009732, 0xF939_009B6F, 0xF93A_009DFA, 0xF93B_00788C, 0xF93C_00797F,
   0xF93D_007DA0, 0xF93E_0083C9, 0xF93F_009304, 0xF940_009E7F, 0xF941_008AD6,
   0xF942_0058DF, 0xF943_005F04, 0xF944_007C60, 0xF945_00807E, 0xF946_007262,
   0xF947_0078CA, 0xF948_008CC2, 0xF949_0096F7, 0xF94A_0058D8, 0xF94B_005C62,
   0xF94C_006A13, 0xF94D_006DDA, 0xF94E_006F0F, 0xF94F_007D2F, 0xF950_007E37,
   0xF951_00964B, 0xF952_0052D2, 0xF953_00808B, 0xF954_0051DC, 0xF955_0051CC,
   0xF956_007A1C, 0xF957_007DBE, 0xF958_0083F1, 0xF959_009675, 0xF95A_008B80,
   0xF95B_0062CF, 0xF95C_006A02, 0xF95D_008AFE, 0xF95E_004E39, 0xF95F_005BE7,
   0xF960_006012, 0xF961_007387, 0xF962_007570, 0xF963_005317, 0xF964_0078FB,
   0xF965_004FBF, 0xF966_005FA9, 0xF967_004E0D, 0xF968_006CCC, 0xF969_006578,
   0xF96A_007D22, 0xF96B_0053C3, 0xF96C_00585E, 0xF96D_007701, 0xF96E_008449,
   0xF96F_008AAA, 0xF970_006BBA, 0xF971_008FB0, 0xF972_006C88, 0xF973_0062FE,
   0xF974_0082E5, 0xF975_0063A0, 0xF976_007565, 0xF977_004EAE, 0xF978_005169,
   0xF979_0051C9, 0xF97A_006881, 0xF97B_007CE7, 0xF97C_00826F, 0xF97D_008AD2,
   0xF97E_0091CF, 0xF97F_0052F5, 0xF980_005442, 0xF981_005973, 0xF982_005EEC,
   0xF983_0065C5, 0xF984_006FFE, 0xF985_00792A, 0xF986_0095AD, 0xF987_009A6A,
   0xF988_009E97, 0xF989_009ECE, 0xF98A_00529B, 0xF98B_0066C6, 0xF98C_006B77,
   0xF98D_008F62, 0xF98E_005E74, 0xF98F_006190, 0xF990_006200, 0xF991_00649A,
   0xF992_006F23, 0xF993_007149, 0xF994_007489, 0xF995_0079CA, 0xF996_007DF4,
   0xF997_00806F, 0xF998_008F26, 0xF999_0084EE, 0xF99A_009023, 0xF99B_00934A,
   0xF99C_005217, 0xF99D_0052A3, 0xF99E_0054BD, 0xF99F_0070C8, 0xF9A0_0088C2,
   0xF9A1_008AAA, 0xF9A2_005EC9, 0xF9A3_005FF5, 0xF9A4_00637B, 0xF9A5_006BAE,
   0xF9A6_007C3E, 0xF9A7_007375, 0xF9A8_004EE4, 0xF9A9_0056F9, 0xF9AA_005BE7,
   0xF9AB_005DBA, 0xF9AC_00601C, 0xF9AD_0073B2, 0xF9AE_007469, 0xF9AF_007F9A,
   0xF9B0_008046, 0xF9B1_009234, 0xF9B2_0096F6, 0xF9B3_009748, 0xF9B4_009818,
   0xF9B5_004F8B, 0xF9B6_0079AE, 0xF9B7_0091B4, 0xF9B8_0096B8, 0xF9B9_0060E1,
   0xF9BA_004E86, 0xF9BB_0050DA, 0xF9BC_005BEE, 0xF9BD_005C3F, 0xF9BE_006599,
   0xF9BF_006A02, 0xF9C0_0071CE, 0xF9C1_007642, 0xF9C2_0084FC, 0xF9C3_00907C,
   0xF9C4_009F8D, 0xF9C5_006688, 0xF9C6_00962E, 0xF9C7_005289, 0xF9C8_00677B,
   0xF9C9_0067F3, 0xF9CA_006D41, 0xF9CB_006E9C, 0xF9CC_007409, 0xF9CD_007559,
   0xF9CE_00786B, 0xF9CF_007D10, 0xF9D0_00985E, 0xF9D1_00516D, 0xF9D2_00622E,
   0xF9D3_009678, 0xF9D4_00502B, 0xF9D5_005D19, 0xF9D6_006DEA, 0xF9D7_008F2A,
   0xF9D8_005F8B, 0xF9D9_006144, 0xF9DA_006817, 0xF9DB_007387, 0xF9DC_009686,
   0xF9DD_005229, 0xF9DE_00540F, 0xF9DF_005C65, 0xF9E0_006613, 0xF9E1_00674E,
   0xF9E2_0068A8, 0xF9E3_006CE5, 0xF9E4_007406, 0xF9E5_0075E2, 0xF9E6_007F79,
   0xF9E7_0088CF, 0xF9E8_0088E1, 0xF9E9_0091CC, 0xF9EA_0096E2, 0xF9EB_00533F,
   0xF9EC_006EBA, 0xF9ED_00541D, 0xF9EE_0071D0, 0xF9EF_007498, 0xF9F0_0085FA,
   0xF9F1_0096A3, 0xF9F2_009C57, 0xF9F3_009E9F, 0xF9F4_006797, 0xF9F5_006DCB,
   0xF9F6_0081E8, 0xF9F7_007ACB, 0xF9F8_007B20, 0xF9F9_007C92, 0xF9FA_0072C0,
   0xF9FB_007099, 0xF9FC_008B58, 0xF9FD_004EC0, 0xF9FE_008336, 0xF9FF_00523A,
   0xFA00_005207, 0xFA01_005EA6, 0xFA02_0062D3, 0xFA03_007CD6, 0xFA04_005B85,
   0xFA05_006D1E, 0xFA06_0066B4, 0xFA07_008F3B, 0xFA08_00884C, 0xFA09_00964D,
   0xFA0A_00898B, 0xFA0B_005ED3, 0xFA0C_005140, 0xFA0D_0055C0, 0xFA10_00585A,
   0xFA12_006674, 0xFA15_0051DE, 0xFA16_00732A, 0xFA17_0076CA, 0xFA18_00793C,
   0xFA19_00795E, 0xFA1A_007965, 0xFA1B_00798F, 0xFA1C_009756, 0xFA1D_007CBE,
   0xFA1E_007FBD, 0xFA20_008612, 0xFA22_008AF8, 0xFA25_009038, 0xFA26_0090FD,
   0xFA2A_0098EF, 0xFA2B_0098FC, 0xFA2C_009928, 0xFA2D_009DB4, 0xFA2E_0090DE,
   0xFA2F_0096B7, 0xFA30_004FAE, 0xFA31_0050E7, 0xFA32_00514D, 0xFA33_0052C9,
   0xFA34_0052E4, 0xFA35_005351, 0xFA36_00559D, 0xFA37_005606, 0xFA38_005668,
   0xFA39_005840, 0xFA3A_0058A8, 0xFA3B_005C64, 0xFA3C_005C6E, 0xFA3D_006094,
   0xFA3E_006168, 0xFA3F_00618E, 0xFA40_0061F2, 0xFA41_00654F, 0xFA42_0065E2,
   0xFA43_006691, 0xFA44_006885, 0xFA45_006D77, 0xFA46_006E1A, 0xFA47_006F22,
   0xFA48_00716E, 0xFA49_00722B, 0xFA4A_007422, 0xFA4B_007891, 0xFA4C_00793E,
   0xFA4D_007949, 0xFA4E_007948, 0xFA4F_007950, 0xFA50_007956, 0xFA51_00795D,
   0xFA52_00FA53_00798D, 0xFA54_007A40, 0xFA55_007A81, 0xFA56_007BC0, 0xFA57_007DF4,
   0xFA58_007E09, 0xFA59_007E41, 0xFA5A_007F72, 0xFA5B_008005, 0xFA5C_0081ED,
   0xFA5D_008279, 0xFA5E_008279, 0xFA5F_008457, 0xFA60_008910, 0xFA61_008996,
   0xFA62_008B01, 0xFA63_008B39, 0xFA64_008CD3, 0xFA65_008D08, 0xFA66_008FB6,
   0xFA67_009038, 0xFA68_0096E3, 0xFA69_0097FF, 0xFA6A_00983B, 0xFA6B_006075,
   0xFA6C_0242EE, 0xFA6D_008218, 0xFA70_004E26, 0xFA71_0051B5, 0xFA72_005168,
   0xFA73_004F80, 0xFA74_005145, 0xFA75_005180, 0xFA76_0052C7, 0xFA77_0052FA,
   0xFA78_00559D, 0xFA79_005555, 0xFA7A_005599, 0xFA7B_0055E2, 0xFA7C_00585A,
   0xFA7D_0058B3, 0xFA7E_005944, 0xFA7F_005954, 0xFA80_005A62, 0xFA81_005B28,
   0xFA82_005ED2, 0xFA83_005ED9, 0xFA84_005F69, 0xFA85_005FAD, 0xFA86_0060D8,
   0xFA87_00614E, 0xFA88_006108, 0xFA89_00618E, 0xFA8A_006160, 0xFA8B_0061F2,
   0xFA8C_006234, 0xFA8D_0063C4, 0xFA8E_00641C, 0xFA8F_006452, 0xFA90_006556,
   0xFA91_006674, 0xFA92_006717, 0xFA93_00671B, 0xFA94_006756, 0xFA95_006B79,
   0xFA96_006BBA, 0xFA97_006D41, 0xFA98_006EDB, 0xFA99_006ECB, 0xFA9A_006F22,
   0xFA9B_00701E, 0xFA9C_00716E, 0xFA9D_0077A7, 0xFA9E_007235, 0xFA9F_0072AF,
   0xFAA0_00732A, 0xFAA1_007471, 0xFAA2_007506, 0xFAA3_00753B, 0xFAA4_00761D,
   0xFAA5_00761F, 0xFAA6_0076CA, 0xFAA7_0076DB, 0xFAA8_0076F4, 0xFAA9_00774A,
   0xFAAA_007740, 0xFAAB_0078CC, 0xFAAC_007AB1, 0xFAAD_007BC0, 0xFAAE_007C7B,
   0xFAAF_007D5B, 0xFAB0_007DF4, 0xFAB1_007F3E, 0xFAB2_008005, 0xFAB3_008352,
   0xFAB4_0083EF, 0xFAB5_008779, 0xFAB6_008941, 0xFAB7_008986, 0xFAB8_008996,
   0xFAB9_008ABF, 0xFABA_008AF8, 0xFABB_008ACB, 0xFABC_008B01, 0xFABD_008AFE,
   0xFABE_008AED, 0xFABF_008B39, 0xFAC0_008B8A, 0xFAC1_008D08, 0xFAC2_008F38,
   0xFAC3_009072, 0xFAC4_009199, 0xFAC5_009276, 0xFAC6_00967C, 0xFAC7_0096E3,
   0xFAC8_009756, 0xFAC9_0097DB, 0xFACA_0097FF, 0xFACB_00980B, 0xFACC_00983B,
   0xFACD_009B12, 0xFACE_009F9C, 0xFACF_02284A, 0xFAD0_022844, 0xFAD1_0233D5,
   0xFAD2_003B9D, 0xFAD3_004018, 0xFAD4_004039, 0xFAD5_025249, 0xFAD6_025CD0,
   0xFAD7_027ED3, 0xFAD8_009F43, 0xFAD9_009F8E, 0xFB20_0005E2, 0xFB21_0005D0,
   0xFB22_00FB23_0005D3, 0xFB24_00FB26_0005DB, 0xFB27_0005E8, 0xFB28_0005EA,
   0xFB29_00002B, 0xFB50_000671, 0xFB51_000671, 0xFB52_00067B, 0xFB53_00067B,
   0xFB54_00067B, 0xFB55_00067B, 0xFB56_00067E, 0xFB57_00067E, 0xFB58_00067E,
   0xFB59_00067E, 0xFB5A_000680, 0xFB5B_000680, 0xFB5C_000680, 0xFB5D_000680,
   0xFB5E_00067A, 0xFB5F_00067A, 0xFB60_00067A, 0xFB61_00067A, 0xFB62_00067F,
   0xFB63_00067F, 0xFB64_00067F, 0xFB65_00067F, 0xFB66_000679, 0xFB67_000679,
   0xFB68_000679, 0xFB69_000679, 0xFB6A_0006A4, 0xFB6B_0006A4, 0xFB6C_0006A4,
   0xFB6D_0006A4, 0xFB6E_0006A6, 0xFB6F_0006A6, 0xFB70_0006A6, 0xFB71_0006A6,
   0xFB72_000684, 0xFB73_000684, 0xFB74_000684, 0xFB75_000684, 0xFB76_000683,
   0xFB77_000683, 0xFB78_000683, 0xFB79_000683, 0xFB7A_000686, 0xFB7B_000686,
   0xFB7C_000686, 0xFB7D_00FB7E_000686, 0xFB7F_000687, 0xFB80_000687, 0xFB81_000687,
   0xFB82_00068D, 0xFB83_00068D, 0xFB84_00068C, 0xFB85_00068C, 0xFB86_00068E,
   0xFB87_00068E, 0xFB88_000688, 0xFB89_000688, 0xFB8A_000698, 0xFB8B_000698,
   0xFB8C_000691, 0xFB8D_000691, 0xFB8E_0006A9, 0xFB8F_0006A9, 0xFB90_0006A9,
   0xFB91_0006A9, 0xFB92_0006AF, 0xFB93_0006AF, 0xFB94_0006AF, 0xFB95_0006AF,
   0xFB96_0006B3, 0xFB97_0006B3, 0xFB98_0006B3, 0xFB99_0006B3, 0xFB9A_0006B1,
   0xFB9B_0006B1, 0xFB9C_0006B1, 0xFB9D_0006B1, 0xFB9E_0006BA, 0xFB9F_00FBA0_0006BA,
   0xFBA1_0006BB, 0xFBA2_0006BB, 0xFBA3_0006BB, 0xFBA4_0006C0, 0xFBA5_00FBA6_0006C0,
   0xFBA7_0006C1, 0xFBA8_0006C1, 0xFBA9_0006C1, 0xFBAA_0006BE, 0xFBAB_0006BE,
   0xFBAC_0006BE, 0xFBAD_0006BE, 0xFBAE_0006D2, 0xFBAF_00FBB0_0006D2, 0xFBB1_0006D3,
   0xFBD3_0006AD, 0xFBD4_0006AD, 0xFBD5_0006AD, 0xFBD6_0006AD, 0xFBD7_0006C7,
   0xFBD8_0006C7, 0xFBD9_0006C6, 0xFBDA_0006C6, 0xFBDB_0006C8, 0xFBDC_0006C8,
   0xFBDE_0006CB, 0xFBDF_0006CB, 0xFBE0_0006C5, 0xFBE1_0006C5, 0xFBE2_0006C9,
   0xFBE3_0006C9, 0xFBE4_0006D0, 0xFBE5_0006D0, 0xFBE6_0006D0, 0xFBE7_0006D0,
   0xFBE8_000649, 0xFBE9_000649, 0xFBFC_0006CC, 0xFBFD_0006CC, 0xFBFE_0006CC,
   0xFBFF_0006CC, 0xFE10_00002C, 0xFE11_003001, 0xFE13_00FE14_00003A, 0xFE15_000021,
   0xFE16_00003F, 0xFE17_00FE18_003016, 0xFE31_002014, 0xFE32_002013, 0xFE33_00005F,
   0xFE34_00005F, 0xFE35_00FE36_000028, 0xFE37_00007B, 0xFE38_00007D,
   0xFE39_00FE3A_003014, 0xFE3B_00FE3C_003010, 0xFE3D_00FE3E_00300A,
   0xFE3F_00FE40_003008, 0xFE41_00FE44_00300C, 0xFE47_00005B, 0xFE48_00005D,
   0xFE4D_00005F, 0xFE4E_00005F, 0xFE4F_00005F, 0xFE50_00002C, 0xFE51_003001,
   0xFE54_00003B, 0xFE55_00003A, 0xFE56_00003F, 0xFE57_000021, 0xFE58_002014,
   0xFE59_00FE5A_000028, 0xFE5B_00007B, 0xFE5C_00007D, 0xFE5D_00FE5E_003014,
   0xFE5F_000023, 0xFE60_000026, 0xFE61_00FE62_00002A, 0xFE63_00002D, 0xFE64_00003C,
   0xFE65_00003E, 0xFE66_00003D, 0xFE68_00005C, 0xFE69_00FE6A_000024, 0xFE6B_000040,
   0xFE80_00FE81_000621, 0xFE82_00FE83_000622, 0xFE84_00FE85_000623,
   0xFE86_00FE87_000624, 0xFE88_00FE89_000625, 0xFE8A_000626, 0xFE8B_000626,
   0xFE8C_00FE8D_000626, 0xFE8E_00FE8F_000627, 0xFE90_000628, 0xFE91_000628,
   0xFE92_00FE93_000628, 0xFE94_00FE95_000629, 0xFE96_00062A, 0xFE97_00062A,
   0xFE98_00FE99_00062A, 0xFE9A_00062B, 0xFE9B_00062B, 0xFE9C_00FE9D_00062B,
   0xFE9E_00062C, 0xFE9F_00062C, 0xFEA0_00FEA1_00062C, 0xFEA2_00062D, 0xFEA3_00062D,
   0xFEA4_00FEA5_00062D, 0xFEA6_00062E, 0xFEA7_00062E, 0xFEA8_00FEA9_00062E,
   0xFEAA_00FEAB_00062F, 0xFEAC_00FEAD_000630, 0xFEAE_00FEAF_000631,
   0xFEB0_00FEB1_000632, 0xFEB2_000633, 0xFEB3_000633, 0xFEB4_00FEB5_000633,
   0xFEB6_000634, 0xFEB7_000634, 0xFEB8_00FEB9_000634, 0xFEBA_000635, 0xFEBB_000635,
   0xFEBC_00FEBD_000635, 0xFEBE_000636, 0xFEBF_000636, 0xFEC0_00FEC1_000636,
   0xFEC2_000637, 0xFEC3_000637, 0xFEC4_00FEC5_000637, 0xFEC6_000638, 0xFEC7_000638,
   0xFEC8_00FEC9_000638, 0xFECA_000639, 0xFECB_000639, 0xFECC_00FECD_000639,
   0xFECE_00063A, 0xFECF_00063A, 0xFED0_00063A, 0xFED1_000641, 0xFED2_000641,
   0xFED3_000641, 0xFED4_00FED5_000641, 0xFED6_000642, 0xFED7_000642,
   0xFED8_00FED9_000642, 0xFEDA_000643, 0xFEDB_000643, 0xFEDC_00FEDD_000643,
   0xFEDE_000644, 0xFEDF_000644, 0xFEE0_00FEE1_000644, 0xFEE2_000645, 0xFEE3_000645,
   0xFEE4_00FEE5_000645, 0xFEE6_000646, 0xFEE7_000646, 0xFEE8_00FEE9_000646,
   0xFEEA_000647, 0xFEEB_000647, 0xFEEC_00FEED_000647, 0xFEEE_00FEEF_000648,
   0xFEF0_00FEF1_000649, 0xFEF2_00064A, 0xFEF3_00064A, 0xFEF4_00064A,
   0xFF01_00FF20_000021, 0xFF21_00FF3A_000061, 0xFF3B_00FF5E_00005B,
   0xFF5F_00FF60_002985, 0xFF61_00002E, 0xFF62_00FF63_00300C, 0xFF64_003001,
   0xFF65_0030FB, 0xFF66_0030F2, 0xFF67_0030A1, 0xFF68_0030A3, 0xFF69_0030A5,
   0xFF6A_0030A7, 0xFF6B_0030A9, 0xFF6C_0030E3, 0xFF6D_0030E5, 0xFF6E_0030E7,
   0xFF6F_0030C3, 0xFF70_0030FC, 0xFF71_0030A2, 0xFF72_0030A4, 0xFF73_0030A6,
   0xFF74_0030A8, 0xFF75_00FF76_0030AA, 0xFF77_0030AD, 0xFF78_0030AF, 0xFF79_0030B1,
   0xFF7A_0030B3, 0xFF7B_0030B5, 0xFF7C_0030B7, 0xFF7D_0030B9, 0xFF7E_0030BB,
   0xFF7F_0030BD, 0xFF80_0030BF, 0xFF81_0030C1, 0xFF82_0030C4, 0xFF83_0030C6,
   0xFF84_0030C8, 0xFF85_00FF8A_0030CA, 0xFF8B_0030D2, 0xFF8C_0030D5, 0xFF8D_0030D8,
   0xFF8E_0030DB, 0xFF8F_00FF93_0030DE, 0xFF94_0030E4, 0xFF95_0030E6,
   0xFF96_00FF9B_0030E8, 0xFF9C_0030EF, 0xFF9D_0030F3, 0xFF9E_00FF9F_003099,
   0xFFA1_00FFA2_001100, 0xFFA3_0011AA, 0xFFA4_001102, 0xFFA5_00FFA6_0011AC,
   0xFFA7_00FFA9_001103, 0xFFAA_00FFAF_0011B0, 0xFFB0_00111A, 0xFFB1_00FFB3_001106,
   0xFFB4_001121, 0xFFB5_00FFBE_001109, 0xFFC2_00FFC7_001161, 0xFFCA_00FFCF_001167,
   0xFFD2_00FFD7_00116D, 0xFFDA_00FFDC_001173, 0xFFE0_00FFE1_0000A2, 0xFFE2_0000AC,
   0xFFE4_0000A6, 0xFFE5_0000A5, 0xFFE6_0020A9, 0xFFE8_002502, 0xFFE9_00FFEC_002190,
   0xFFED_0025A0, 0xFFEE_0025CB, 0x10400_010427_010428, 0x104B0_0104D3_0104D8,
   0x10570_01057A_010597, 0x1057C_01058A_0105A3, 0x1058C_010592_0105B3,
   0x10594_010595_0105BB, 0x10781_010782_0002D0, 0x10783_0000E6, 0x10784_000299,
   0x10785_000253, 0x10787_0002A3, 0x10788_00AB66, 0x10789_0002A5, 0x1078A_0002A4,
   0x1078B_01078C_000256, 0x1078D_001D91, 0x1078E_000258, 0x1078F_00025E, 0x10790_0002A9,
   0x10791_000264, 0x10792_000262, 0x10793_000260, 0x10794_00029B, 0x10795_000127,
   0x10796_00029C, 0x10797_000267, 0x10798_000284, 0x10799_01079A_0002AA, 0x1079B_00026C,
   0x1079C_01DF04, 0x1079D_00A78E, 0x1079E_00026E, 0x1079F_01DF05, 0x107A0_00028E,
   0x107A1_01DF06, 0x107A2_0000F8, 0x107A3_0107A4_000276, 0x107A5_000071, 0x107A6_00027A,
   0x107A7_01DF08, 0x107A8_0107A9_00027D, 0x107AA_000280, 0x107AB_0002A8, 0x107AC_0002A6,
   0x107AD_00AB67, 0x107AE_0002A7, 0x107AF_000288, 0x107B0_002C71, 0x107B2_00028F,
   0x107B3_0107B4_0002A1, 0x107B5_000298, 0x107B6_0107B8_0001C0, 0x107B9_01DF0A,
   0x107BA_01DF1E, 0x10C80_010CB2_010CC0, 0x10D50_010D65_010D70, 0x118A0_0118BF_0118C0,
   0x16E40_016E5F_016E60, 0x16EA0_016EB8_016EBB, 0x1CCD6_01CCEF_000061,
   0x1CCF0_01CCF9_000030, 0x1D400_01D419_000061, 0x1D41A_01D433_000061,
   0x1D434_01D44D_000061, 0x1D44E_01D454_000061, 0x1D456_01D467_000069,
   0x1D468_01D481_000061, 0x1D482_01D49B_000061, 0x1D49C_000061, 0x1D49E_01D49F_000063,
   0x1D4A2_000067, 0x1D4A5_01D4A6_00006A, 0x1D4A9_01D4AC_00006E, 0x1D4AE_01D4B5_000073,
   0x1D4B6_01D4B9_000061, 0x1D4BB_000066, 0x1D4BD_01D4C3_000068, 0x1D4C5_01D4CF_000070,
   0x1D4D0_01D4E9_000061, 0x1D4EA_01D503_000061, 0x1D504_01D505_000061,
   0x1D507_01D50A_000064, 0x1D50D_01D514_00006A, 0x1D516_01D51C_000073,
   0x1D51E_01D537_000061, 0x1D538_01D539_000061, 0x1D53B_01D53E_000064,
   0x1D540_01D544_000069, 0x1D546_00006F, 0x1D54A_01D550_000073, 0x1D552_01D56B_000061,
   0x1D56C_01D585_000061, 0x1D586_01D59F_000061, 0x1D5A0_01D5B9_000061,
   0x1D5BA_01D5D3_000061, 0x1D5D4_01D5ED_000061, 0x1D5EE_01D607_000061,
   0x1D608_01D621_000061, 0x1D622_01D63B_000061, 0x1D63C_01D655_000061,
   0x1D656_01D66F_000061, 0x1D670_01D689_000061, 0x1D68A_01D6A3_000061, 0x1D6A4_000131,
   0x1D6A5_000237, 0x1D6A8_01D6B8_0003B1, 0x1D6B9_0003B8, 0x1D6BA_01D6C0_0003C3,
   0x1D6C1_002207, 0x1D6C2_01D6D2_0003B1, 0x1D6D3_0003C3, 0x1D6D4_01D6DA_0003C3,
   0x1D6DB_002202, 0x1D6DC_0003B5, 0x1D6DD_0003B8, 0x1D6DE_0003BA, 0x1D6DF_0003C6,
   0x1D6E0_0003C1, 0x1D6E1_0003C0, 0x1D6E2_01D6F2_0003B1, 0x1D6F3_0003B8,
   0x1D6F4_01D6FA_0003C3, 0x1D6FB_002207, 0x1D6FC_01D70C_0003B1, 0x1D70D_0003C3,
   0x1D70E_01D714_0003C3, 0x1D715_002202, 0x1D716_0003B5, 0x1D717_0003B8, 0x1D718_0003BA,
   0x1D719_0003C6, 0x1D71A_0003C1, 0x1D71B_0003C0, 0x1D71C_01D72C_0003B1, 0x1D72D_0003B8,
   0x1D72E_01D734_0003C3, 0x1D735_002207, 0x1D736_01D746_0003B1, 0x1D747_0003C3,
   0x1D748_01D74E_0003C3, 0x1D74F_002202, 0x1D750_0003B5, 0x1D751_0003B8, 0x1D752_0003BA,
   0x1D753_0003C6, 0x1D754_0003C1, 0x1D755_0003C0, 0x1D756_01D766_0003B1, 0x1D767_0003B8,
   0x1D768_01D76E_0003C3, 0x1D76F_002207, 0x1D770_01D780_0003B1, 0x1D781_0003C3,
   0x1D782_01D788_0003C3, 0x1D789_002202, 0x1D78A_0003B5, 0x1D78B_0003B8, 0x1D78C_0003BA,
   0x1D78D_0003C6, 0x1D78E_0003C1, 0x1D78F_0003C0, 0x1D790_01D7A0_0003B1, 0x1D7A1_0003B8,
   0x1D7A2_01D7A8_0003C3, 0x1D7A9_002207, 0x1D7AA_01D7BA_0003B1, 0x1D7BB_0003C3,
   0x1D7BC_01D7C2_0003C3, 0x1D7C3_002202, 0x1D7C4_0003B5, 0x1D7C5_0003B8, 0x1D7C6_0003BA,
   0x1D7C7_0003C6, 0x1D7C8_0003C1, 0x1D7C9_0003C0, 0x1D7CA_0003DD, 0x1D7CB_0003DD,
   0x1D7CE_01D7D7_000030, 0x1D7D8_01D7E1_000030, 0x1D7E2_01D7EB_000030,
   0x1D7EC_01D7F5_000030, 0x1D7F6_01D7FF_000030, 0x1E030_01E038_000430,
   0x1E039_01E03B_00043A, 0x1E03C_01E046_00043E, 0x1E047_00044B, 0x1E048_01E049_00044D,
   0x1E04A_00A689, 0x1E04B_0004D9, 0x1E04C_000456, 0x1E04D_000458, 0x1E04E_0004E9,
   0x1E04F_0004AF, 0x1E050_0004CF, 0x1E051_01E059_000430, 0x1E05A_01E05B_00043A,
   0x1E05C_01E05D_00043E, 0x1E05E_000441, 0x1E05F_01E064_000443, 0x1E065_01E066_00044A,
   0x1E067_000491, 0x1E068_000456, 0x1E069_000455, 0x1E06A_00045F, 0x1E06B_0004AB,
   0x1E06C_00A651, 0x1E06D_0004B1, 0x1E900_01E921_01E922, 0x1EE00_01EE01_000627,
   0x1EE02_00062C, 0x1EE03_00062F, 0x1EE05_000648, 0x1EE06_000632, 0x1EE07_00062D,
   0x1EE08_000637, 0x1EE09_00064A, 0x1EE0A_01EE0D_000643, 0x1EE0E_000633, 0x1EE0F_000639,
   0x1EE10_000641, 0x1EE11_000635, 0x1EE12_000642, 0x1EE13_000631, 0x1EE14_000634,
   0x1EE15_01EE16_00062A, 0x1EE17_00062E, 0x1EE18_000630, 0x1EE19_000636, 0x1EE1A_000638,
   0x1EE1B_00063A, 0x1EE1C_00066E, 0x1EE1D_0006BA, 0x1EE1E_0006A1, 0x1EE1F_00066F,
   0x1EE21_000628, 0x1EE22_00062C, 0x1EE24_000647, 0x1EE27_00062D, 0x1EE29_00064A,
   0x1EE2A_01EE2D_000643, 0x1EE2E_000633, 0x1EE2F_000639, 0x1EE30_000641, 0x1EE31_000635,
   0x1EE32_000642, 0x1EE34_000634, 0x1EE35_01EE36_00062A, 0x1EE37_00062E, 0x1EE39_000636,
   0x1EE3B_00063A, 0x1EE42_00062C, 0x1EE47_00062D, 0x1EE49_00064A, 0x1EE4B_000644,
   0x1EE4D_000646, 0x1EE4E_000633, 0x1EE4F_000639, 0x1EE51_000635, 0x1EE52_000642,
   0x1EE54_000634, 0x1EE57_00062E, 0x1EE59_000636, 0x1EE5B_00063A, 0x1EE5D_0006BA,
   0x1EE5F_00066F, 0x1EE61_000628, 0x1EE62_00062C, 0x1EE64_000647, 0x1EE67_00062D,
   0x1EE68_000637, 0x1EE69_00064A, 0x1EE6A_000643, 0x1EE6C_01EE6D_000645, 0x1EE6E_000633,
   0x1EE6F_000639, 0x1EE70_000641, 0x1EE71_000635, 0x1EE72_000642, 0x1EE74_000634,
   0x1EE75_01EE76_00062A, 0x1EE77_00062E, 0x1EE79_000636, 0x1EE7A_000638, 0x1EE7B_00063A,
   0x1EE7C_00066E, 0x1EE7E_0006A1, 0x1EE80_01EE81_000627, 0x1EE82_00062C, 0x1EE83_00062F,
   0x1EE84_01EE85_000647, 0x1EE86_000632, 0x1EE87_00062D, 0x1EE88_000637, 0x1EE89_00064A,
   0x1EE8B_01EE8D_000644, 0x1EE8E_000633, 0x1EE8F_000639, 0x1EE90_000641, 0x1EE91_000635,
   0x1EE92_000642, 0x1EE93_000631, 0x1EE94_000634, 0x1EE95_01EE96_00062A, 0x1EE97_00062E,
   0x1EE98_000630, 0x1EE99_000636, 0x1EE9A_000638, 0x1EE9B_00063A, 0x1EEA1_000628,
   0x1EEA2_00062C, 0x1EEA3_00062F, 0x1EEA5_000648, 0x1EEA6_000632, 0x1EEA7_00062D,
   0x1EEA8_000637, 0x1EEA9_00064A, 0x1EEAB_01EEAD_000644, 0x1EEAE_000633, 0x1EEAF_000639,
   0x1EEB0_000641, 0x1EEB1_000635, 0x1EEB2_000642, 0x1EEB3_000631, 0x1EEB4_000634,
   0x1EEB5_01EEB6_00062A, 0x1EEB7_00062E, 0x1EEB8_000630, 0x1EEB9_000636, 0x1EEBA_000638,
   0x1EEBB_00063A, 0x1F12B_000063, 0x1F12C_000072, 0x1F130_01F149_000061, 0x1F202_0030B5,
   0x1F210_00624B, 0x1F211_005B57, 0x1F212_0053CC, 0x1F213_0030C7, 0x1F214_004E8C,
   0x1F215_00591A, 0x1F216_0089E3, 0x1F217_005929, 0x1F218_004EA4, 0x1F219_006620,
   0x1F21A_007121, 0x1F21B_006599, 0x1F21C_00524D, 0x1F21D_005F8C, 0x1F21E_00518D,
   0x1F21F_0065B0, 0x1F220_00521D, 0x1F221_007D42, 0x1F222_00751F, 0x1F223_008CA9,
   0x1F224_0058F0, 0x1F225_005439, 0x1F226_006F14, 0x1F227_006295, 0x1F228_006355,
   0x1F229_004E00, 0x1F22A_004E09, 0x1F22B_00904A, 0x1F22C_005DE6, 0x1F22D_004E2D,
   0x1F22E_0053F3, 0x1F22F_006307, 0x1F230_008D70, 0x1F231_006253, 0x1F232_007981,
   0x1F233_007A7A, 0x1F234_005408, 0x1F235_006E80, 0x1F236_006709, 0x1F237_006708,
   0x1F238_007533, 0x1F239_005272, 0x1F23A_0055B6, 0x1F23B_00914D, 0x1F250_005F97,
   0x1F251_0053EF, 0x1FBF0_01FBF9_000030, 0x2F800_004E3D, 0x2F801_004E38, 0x2F802_004E41,
   0x2F803_020122, 0x2F804_004F60, 0x2F805_004FAE, 0x2F806_004FBB, 0x2F807_005002,
   0x2F808_00507A, 0x2F809_005099, 0x2F80A_0050E7, 0x2F80B_0050CF, 0x2F80C_00349E,
   0x2F80D_02063A, 0x2F80E_00514D, 0x2F80F_005154, 0x2F810_005164, 0x2F811_005177,
   0x2F812_02051C, 0x2F813_0034B9, 0x2F814_005167, 0x2F815_00518D, 0x2F816_02054B,
   0x2F817_005197, 0x2F818_0051A4, 0x2F819_004ECC, 0x2F81A_0051AC, 0x2F81B_0051B5,
   0x2F81C_0291DF, 0x2F81D_0051F5, 0x2F81E_005203, 0x2F81F_0034DF, 0x2F820_00523B,
   0x2F821_005246, 0x2F822_005272, 0x2F823_005277, 0x2F824_003515, 0x2F825_0052C7,
   0x2F826_0052C9, 0x2F827_0052E4, 0x2F828_0052FA, 0x2F829_02F82A_005305, 0x2F82B_005317,
   0x2F82C_005349, 0x2F82D_005351, 0x2F82E_00535A, 0x2F82F_005373, 0x2F830_00537D,
   0x2F831_00537F, 0x2F832_00537F, 0x2F833_00537F, 0x2F834_020A2C, 0x2F835_007070,
   0x2F836_0053CA, 0x2F837_0053DF, 0x2F838_020B63, 0x2F839_0053EB, 0x2F83A_0053F1,
   0x2F83B_005406, 0x2F83C_00549E, 0x2F83D_005438, 0x2F83E_005448, 0x2F83F_005468,
   0x2F840_0054A2, 0x2F841_0054F6, 0x2F842_005510, 0x2F843_005553, 0x2F844_005563,
   0x2F845_005584, 0x2F846_005584, 0x2F847_005599, 0x2F848_0055AB, 0x2F849_0055B3,
   0x2F84A_0055C2, 0x2F84B_005716, 0x2F84C_005606, 0x2F84D_005717, 0x2F84E_005651,
   0x2F84F_005674, 0x2F850_005207, 0x2F851_0058EE, 0x2F852_0057CE, 0x2F853_0057F4,
   0x2F854_00580D, 0x2F855_00578B, 0x2F856_005832, 0x2F857_005831, 0x2F858_0058AC,
   0x2F859_0214E4, 0x2F85A_0058F2, 0x2F85B_0058F7, 0x2F85C_005906, 0x2F85D_00591A,
   0x2F85E_005922, 0x2F85F_005962, 0x2F860_0216A8, 0x2F861_0216EA, 0x2F862_0059EC,
   0x2F863_005A1B, 0x2F864_005A27, 0x2F865_0059D8, 0x2F866_005A66, 0x2F867_0036EE,
   0x2F868_0036FC, 0x2F869_005B08, 0x2F86A_005B3E, 0x2F86B_005B3E, 0x2F86C_0219C8,
   0x2F86D_005BC3, 0x2F86E_005BD8, 0x2F86F_005BE7, 0x2F870_005BF3, 0x2F871_021B18,
   0x2F872_005BFF, 0x2F873_005C06, 0x2F874_005F53, 0x2F875_005C22, 0x2F876_003781,
   0x2F877_005C60, 0x2F878_005C6E, 0x2F879_005CC0, 0x2F87A_005C8D, 0x2F87B_021DE4,
   0x2F87C_005D43, 0x2F87D_021DE6, 0x2F87E_005D6E, 0x2F87F_005D6B, 0x2F880_005D7C,
   0x2F881_02F882_005DE1, 0x2F883_00382F, 0x2F884_005DFD, 0x2F885_005E28, 0x2F886_005E3D,
   0x2F887_005E69, 0x2F888_003862, 0x2F889_022183, 0x2F88A_00387C, 0x2F88B_005EB0,
   0x2F88C_005EB3, 0x2F88D_005EB6, 0x2F88E_005ECA, 0x2F88F_02A392, 0x2F890_005EFE,
   0x2F891_022331, 0x2F892_022331, 0x2F893_008201, 0x2F894_005F22, 0x2F895_005F22,
   0x2F896_0038C7, 0x2F897_0232B8, 0x2F898_0261DA, 0x2F899_005F62, 0x2F89A_005F6B,
   0x2F89B_0038E3, 0x2F89C_005F9A, 0x2F89D_005FCD, 0x2F89E_005FD7, 0x2F89F_005FF9,
   0x2F8A0_006081, 0x2F8A1_00393A, 0x2F8A2_00391C, 0x2F8A3_006094, 0x2F8A4_0226D4,
   0x2F8A5_0060C7, 0x2F8A6_006148, 0x2F8A7_00614C, 0x2F8A8_00614E, 0x2F8A9_00614C,
   0x2F8AA_00617A, 0x2F8AB_00618E, 0x2F8AC_0061B2, 0x2F8AD_0061A4, 0x2F8AE_0061AF,
   0x2F8AF_0061DE, 0x2F8B0_0061F2, 0x2F8B1_0061F6, 0x2F8B2_006210, 0x2F8B3_00621B,
   0x2F8B4_00625D, 0x2F8B5_0062B1, 0x2F8B6_0062D4, 0x2F8B7_006350, 0x2F8B8_022B0C,
   0x2F8B9_00633D, 0x2F8BA_0062FC, 0x2F8BB_006368, 0x2F8BC_006383, 0x2F8BD_0063E4,
   0x2F8BE_022BF1, 0x2F8BF_006422, 0x2F8C0_0063C5, 0x2F8C1_0063A9, 0x2F8C2_003A2E,
   0x2F8C3_006469, 0x2F8C4_00647E, 0x2F8C5_00649D, 0x2F8C6_006477, 0x2F8C7_003A6C,
   0x2F8C8_00654F, 0x2F8C9_00656C, 0x2F8CA_02300A, 0x2F8CB_0065E3, 0x2F8CC_0066F8,
   0x2F8CD_006649, 0x2F8CE_003B19, 0x2F8CF_006691, 0x2F8D0_003B08, 0x2F8D1_003AE4,
   0x2F8D2_005192, 0x2F8D3_005195, 0x2F8D4_006700, 0x2F8D5_00669C, 0x2F8D6_0080AD,
   0x2F8D7_0043D9, 0x2F8D8_006717, 0x2F8D9_00671B, 0x2F8DA_006721, 0x2F8DB_00675E,
   0x2F8DC_006753, 0x2F8DD_0233C3, 0x2F8DE_003B49, 0x2F8DF_0067FA, 0x2F8E0_006785,
   0x2F8E1_006852, 0x2F8E2_006885, 0x2F8E3_02346D, 0x2F8E4_00688E, 0x2F8E5_00681F,
   0x2F8E6_006914, 0x2F8E7_003B9D, 0x2F8E8_006942, 0x2F8E9_0069A3, 0x2F8EA_0069EA,
   0x2F8EB_006AA8, 0x2F8EC_0236A3, 0x2F8ED_006ADB, 0x2F8EE_003C18, 0x2F8EF_006B21,
   0x2F8F0_0238A7, 0x2F8F1_006B54, 0x2F8F2_003C4E, 0x2F8F3_006B72, 0x2F8F4_006B9F,
   0x2F8F5_02F8F6_006BBA, 0x2F8F7_023A8D, 0x2F8F8_021D0B, 0x2F8F9_023AFA, 0x2F8FA_006C4E,
   0x2F8FB_023CBC, 0x2F8FC_006CBF, 0x2F8FD_006CCD, 0x2F8FE_006C67, 0x2F8FF_006D16,
   0x2F900_006D3E, 0x2F901_006D77, 0x2F902_006D41, 0x2F903_006D69, 0x2F904_006D78,
   0x2F905_006D85, 0x2F906_023D1E, 0x2F907_006D34, 0x2F908_006E2F, 0x2F909_006E6E,
   0x2F90A_003D33, 0x2F90B_006ECB, 0x2F90C_006EC7, 0x2F90D_023ED1, 0x2F90E_006DF9,
   0x2F90F_006F6E, 0x2F910_023F5E, 0x2F911_023F8E, 0x2F912_006FC6, 0x2F913_007039,
   0x2F914_00701E, 0x2F915_00701B, 0x2F916_003D96, 0x2F917_00704A, 0x2F918_00707D,
   0x2F919_007077, 0x2F91A_0070AD, 0x2F91B_020525, 0x2F91C_007145, 0x2F91D_024263,
   0x2F91E_00719C, 0x2F91F_0243AB, 0x2F920_007228, 0x2F921_007235, 0x2F922_007250,
   0x2F923_024608, 0x2F924_007280, 0x2F925_007295, 0x2F926_024735, 0x2F927_024814,
   0x2F928_00737A, 0x2F929_00738B, 0x2F92A_003EAC, 0x2F92B_0073A5, 0x2F92C_003EB8,
   0x2F92D_003EB8, 0x2F92E_007447, 0x2F92F_00745C, 0x2F930_007471, 0x2F931_007485,
   0x2F932_0074CA, 0x2F933_003F1B, 0x2F934_007524, 0x2F935_024C36, 0x2F936_00753E,
   0x2F937_024C92, 0x2F938_007570, 0x2F939_02219F, 0x2F93A_007610, 0x2F93B_024FA1,
   0x2F93C_024FB8, 0x2F93D_025044, 0x2F93E_003FFC, 0x2F93F_004008, 0x2F940_0076F4,
   0x2F941_0250F3, 0x2F942_0250F2, 0x2F943_025119, 0x2F944_025133, 0x2F945_02F946_00771E,
   0x2F947_00771F, 0x2F948_00774A, 0x2F949_004039, 0x2F94A_00778B, 0x2F94B_004046,
   0x2F94C_004096, 0x2F94D_02541D, 0x2F94E_00784E, 0x2F94F_00788C, 0x2F950_0078CC,
   0x2F951_0040E3, 0x2F952_025626, 0x2F953_007956, 0x2F954_02569A, 0x2F955_0256C5,
   0x2F956_00798F, 0x2F957_0079EB, 0x2F958_00412F, 0x2F959_007A40, 0x2F95A_007A4A,
   0x2F95B_007A4F, 0x2F95C_02597C, 0x2F95D_025AA7, 0x2F95E_025AA7, 0x2F95F_007AEE,
   0x2F960_004202, 0x2F961_025BAB, 0x2F962_007BC6, 0x2F963_007BC9, 0x2F964_004227,
   0x2F965_025C80, 0x2F966_007CD2, 0x2F967_0042A0, 0x2F968_007CE8, 0x2F969_007CE3,
   0x2F96A_007D00, 0x2F96B_025F86, 0x2F96C_007D63, 0x2F96D_004301, 0x2F96E_007DC7,
   0x2F96F_007E02, 0x2F970_007E45, 0x2F971_004334, 0x2F972_026228, 0x2F973_026247,
   0x2F974_004359, 0x2F975_0262D9, 0x2F976_007F7A, 0x2F977_02633E, 0x2F978_007F95,
   0x2F979_007FFA, 0x2F97A_008005, 0x2F97B_0264DA, 0x2F97C_026523, 0x2F97D_008060,
   0x2F97E_0265A8, 0x2F97F_008070, 0x2F980_02335F, 0x2F981_0043D5, 0x2F982_0080B2,
   0x2F983_008103, 0x2F984_00440B, 0x2F985_00813E, 0x2F986_005AB5, 0x2F987_0267A7,
   0x2F988_0267B5, 0x2F989_023393, 0x2F98A_02339C, 0x2F98B_008201, 0x2F98C_008204,
   0x2F98D_008F9E, 0x2F98E_00446B, 0x2F98F_008291, 0x2F990_00828B, 0x2F991_00829D,
   0x2F992_0052B3, 0x2F993_0082B1, 0x2F994_0082B3, 0x2F995_0082BD, 0x2F996_0082E6,
   0x2F997_026B3C, 0x2F998_0082E5, 0x2F999_00831D, 0x2F99A_008363, 0x2F99B_0083AD,
   0x2F99C_008323, 0x2F99D_0083BD, 0x2F99E_0083E7, 0x2F99F_008457, 0x2F9A0_008353,
   0x2F9A1_0083CA, 0x2F9A2_0083CC, 0x2F9A3_0083DC, 0x2F9A4_026C36, 0x2F9A5_026D6B,
   0x2F9A6_026CD5, 0x2F9A7_00452B, 0x2F9A8_0084F1, 0x2F9A9_0084F3, 0x2F9AA_008516,
   0x2F9AB_0273CA, 0x2F9AC_008564, 0x2F9AD_026F2C, 0x2F9AE_00455D, 0x2F9AF_004561,
   0x2F9B0_026FB1, 0x2F9B1_0270D2, 0x2F9B2_00456B, 0x2F9B3_008650, 0x2F9B4_00865C,
   0x2F9B5_008667, 0x2F9B6_008669, 0x2F9B7_0086A9, 0x2F9B8_008688, 0x2F9B9_00870E,
   0x2F9BA_0086E2, 0x2F9BB_008779, 0x2F9BC_008728, 0x2F9BD_00876B, 0x2F9BE_008786,
   0x2F9BF_0045D7, 0x2F9C0_0087E1, 0x2F9C1_008801, 0x2F9C2_0045F9, 0x2F9C3_008860,
   0x2F9C4_008863, 0x2F9C5_027667, 0x2F9C6_0088D7, 0x2F9C7_0088DE, 0x2F9C8_004635,
   0x2F9C9_0088FA, 0x2F9CA_0034BB, 0x2F9CB_0278AE, 0x2F9CC_027966, 0x2F9CD_0046BE,
   0x2F9CE_0046C7, 0x2F9CF_008AA0, 0x2F9D0_008AED, 0x2F9D1_008B8A, 0x2F9D2_008C55,
   0x2F9D3_027CA8, 0x2F9D4_008CAB, 0x2F9D5_008CC1, 0x2F9D6_008D1B, 0x2F9D7_008D77,
   0x2F9D8_027F2F, 0x2F9D9_020804, 0x2F9DA_008DCB, 0x2F9DB_008DBC, 0x2F9DC_008DF0,
   0x2F9DD_0208DE, 0x2F9DE_008ED4, 0x2F9DF_008F38, 0x2F9E0_0285D2, 0x2F9E1_0285ED,
   0x2F9E2_009094, 0x2F9E3_0090F1, 0x2F9E4_009111, 0x2F9E5_02872E, 0x2F9E6_00911B,
   0x2F9E7_009238, 0x2F9E8_02F9E9_0092D7, 0x2F9EA_00927C, 0x2F9EB_0093F9, 0x2F9EC_009415,
   0x2F9ED_028BFA, 0x2F9EE_00958B, 0x2F9EF_004995, 0x2F9F0_0095B7, 0x2F9F1_028D77,
   0x2F9F2_0049E6, 0x2F9F3_0096C3, 0x2F9F4_005DB2, 0x2F9F5_009723, 0x2F9F6_029145,
   0x2F9F7_02921A, 0x2F9F8_004A6E, 0x2F9F9_004A76, 0x2F9FA_0097E0, 0x2F9FB_02940A,
   0x2F9FC_004AB2, 0x2F9FD_029496, 0x2F9FE_00980B, 0x2F9FF_00980B, 0x2FA00_009829,
   0x2FA01_0295B6, 0x2FA02_0098E2, 0x2FA03_004B33, 0x2FA04_009929, 0x2FA05_0099A7,
   0x2FA06_0099C2, 0x2FA07_0099FE, 0x2FA08_004BCE, 0x2FA09_029B30, 0x2FA0A_009B12,
   0x2FA0B_009C40, 0x2FA0C_009CFD, 0x2FA0D_004CCE, 0x2FA0E_004CED, 0x2FA0F_009D67,
   0x2FA10_02A0CE, 0x2FA11_004CF8, 0x2FA12_02A105, 0x2FA13_02A20E, 0x2FA14_02A291,
   0x2FA15_009EBB, 0x2FA16_004D56, 0x2FA17_009EF9, 0x2FA18_009EFE, 0x2FA19_009F05,
   0x2FA1A_009F0F, 0x2FA1B_009F16, 0x2FA1C_009F3B, 0x2FA1D_02A600]

set_option maxRecDepth 20000 in
/-- The characters that stand for several others. -/
def spellings : List (Nat × List Nat) := expansions
  [0xA8_000020_000308, 0xAF_000020_000304, 0xB4_000020_000301, 0xB8_000020_000327,
   0xBC_000031_002044_000034, 0xBD_000031_002044_000032, 0xBE_000033_002044_000034,
   0x130_000069_000307, 0x132_000069_00006A, 0x133_000069_00006A, 0x13F_00006C_0000B7,
   0x140_00006C_0000B7, 0x149_0002BC_00006E, 0x1C4_000064_00017E, 0x1C5_000064_00017E,
   0x1C6_000064_00017E, 0x1C7_00006C_00006A, 0x1C8_00006C_00006A, 0x1C9_00006C_00006A,
   0x1CA_00006E_00006A, 0x1CB_00006E_00006A, 0x1CC_00006E_00006A, 0x1F1_000064_00007A,
   0x1F2_000064_00007A, 0x1F3_000064_00007A, 0x2D8_000020_000306, 0x2D9_000020_000307,
   0x2DA_000020_00030A, 0x2DB_000020_000328, 0x2DC_000020_000303, 0x2DD_000020_00030B,
   0x344_000308_000301, 0x37A_000020_0003B9, 0x384_000020_000301,
   0x385_000020_000308_000301, 0x587_000565_000582, 0x675_000627_000674,
   0x676_000648_000674, 0x677_0006C7_000674, 0x678_00064A_000674, 0x958_000915_00093C,
   0x959_000916_00093C, 0x95A_000917_00093C, 0x95B_00091C_00093C, 0x95C_000921_00093C,
   0x95D_000922_00093C, 0x95E_00092B_00093C, 0x95F_00092F_00093C, 0x9DC_0009A1_0009BC,
   0x9DD_0009A2_0009BC, 0x9DF_0009AF_0009BC, 0xA33_000A32_000A3C, 0xA36_000A38_000A3C,
   0xA59_000A16_000A3C, 0xA5A_000A17_000A3C, 0xA5B_000A1C_000A3C, 0xA5E_000A2B_000A3C,
   0xB5C_000B21_000B3C, 0xB5D_000B22_000B3C, 0xE33_000E4D_000E32, 0xEB3_000ECD_000EB2,
   0xEDC_000EAB_000E99, 0xEDD_000EAB_000EA1, 0xF43_000F42_000FB7, 0xF4D_000F4C_000FB7,
   0xF52_000F51_000FB7, 0xF57_000F56_000FB7, 0xF5C_000F5B_000FB7, 0xF69_000F40_000FB5,
   0xF73_000F71_000F72, 0xF75_000F71_000F74, 0xF76_000FB2_000F80,
   0xF77_000FB2_000F71_000F80, 0xF78_000FB3_000F80, 0xF79_000FB3_000F71_000F80,
   0xF81_000F71_000F80, 0xF93_000F92_000FB7, 0xF9D_000F9C_000FB7, 0xFA2_000FA1_000FB7,
   0xFA7_000FA6_000FB7, 0xFAC_000FAB_000FB7, 0xFB9_000F90_000FB5, 0x1E9A_000061_0002BE,
   0x1F80_001F00_0003B9, 0x1F81_001F01_0003B9, 0x1F82_001F02_0003B9, 0x1F83_001F03_0003B9,
   0x1F84_001F04_0003B9, 0x1F85_001F05_0003B9, 0x1F86_001F06_0003B9, 0x1F87_001F07_0003B9,
   0x1F88_001F00_0003B9, 0x1F89_001F01_0003B9, 0x1F8A_001F02_0003B9, 0x1F8B_001F03_0003B9,
   0x1F8C_001F04_0003B9, 0x1F8D_001F05_0003B9, 0x1F8E_001F06_0003B9, 0x1F8F_001F07_0003B9,
   0x1F90_001F20_0003B9, 0x1F91_001F21_0003B9, 0x1F92_001F22_0003B9, 0x1F93_001F23_0003B9,
   0x1F94_001F24_0003B9, 0x1F95_001F25_0003B9, 0x1F96_001F26_0003B9, 0x1F97_001F27_0003B9,
   0x1F98_001F20_0003B9, 0x1F99_001F21_0003B9, 0x1F9A_001F22_0003B9, 0x1F9B_001F23_0003B9,
   0x1F9C_001F24_0003B9, 0x1F9D_001F25_0003B9, 0x1F9E_001F26_0003B9, 0x1F9F_001F27_0003B9,
   0x1FA0_001F60_0003B9, 0x1FA1_001F61_0003B9, 0x1FA2_001F62_0003B9, 0x1FA3_001F63_0003B9,
   0x1FA4_001F64_0003B9, 0x1FA5_001F65_0003B9, 0x1FA6_001F66_0003B9, 0x1FA7_001F67_0003B9,
   0x1FA8_001F60_0003B9, 0x1FA9_001F61_0003B9, 0x1FAA_001F62_0003B9, 0x1FAB_001F63_0003B9,
   0x1FAC_001F64_0003B9, 0x1FAD_001F65_0003B9, 0x1FAE_001F66_0003B9, 0x1FAF_001F67_0003B9,
   0x1FB2_001F70_0003B9, 0x1FB3_0003B1_0003B9, 0x1FB4_0003AC_0003B9, 0x1FB7_001FB6_0003B9,
   0x1FBC_0003B1_0003B9, 0x1FBD_000020_000313, 0x1FBF_000020_000313, 0x1FC0_000020_000342,
   0x1FC1_000020_000308_000342, 0x1FC2_001F74_0003B9, 0x1FC3_0003B7_0003B9,
   0x1FC4_0003AE_0003B9, 0x1FC7_001FC6_0003B9, 0x1FCC_0003B7_0003B9,
   0x1FCD_000020_000313_000300, 0x1FCE_000020_000313_000301, 0x1FCF_000020_000313_000342,
   0x1FDD_000020_000314_000300, 0x1FDE_000020_000314_000301, 0x1FDF_000020_000314_000342,
   0x1FED_000020_000308_000300, 0x1FEE_000020_000308_000301, 0x1FF2_001F7C_0003B9,
   0x1FF3_0003C9_0003B9, 0x1FF4_0003CE_0003B9, 0x1FF7_001FF6_0003B9,
   0x1FFC_0003C9_0003B9, 0x1FFD_000020_000301, 0x1FFE_000020_000314,
   0x2017_000020_000333, 0x2033_002032_002032, 0x2034_002032_002032_002032,
   0x2036_002035_002035, 0x2037_002035_002035_002035, 0x203C_000021_000021,
   0x203E_000020_000305, 0x2047_00003F_00003F, 0x2048_00003F_000021,
   0x2049_000021_00003F, 0x2057_002032_002032_002032_002032, 0x20A8_000072_000073,
   0x2100_000061_00002F_000063, 0x2101_000061_00002F_000073, 0x2103_0000B0_000063,
   0x2105_000063_00002F_00006F, 0x2106_000063_00002F_000075, 0x2109_0000B0_000066,
   0x2116_00006E_00006F, 0x2120_000073_00006D, 0x2121_000074_000065_00006C,
   0x2122_000074_00006D, 0x213B_000066_000061_000078, 0x2150_000031_002044_000037,
   0x2151_000031_002044_000039, 0x2152_000031_002044_000031_000030,
   0x2153_000031_002044_000033, 0x2154_000032_002044_000033, 0x2155_000031_002044_000035,
   0x2156_000032_002044_000035, 0x2157_000033_002044_000035, 0x2158_000034_002044_000035,
   0x2159_000031_002044_000036, 0x215A_000035_002044_000036, 0x215B_000031_002044_000038,
   0x215C_000033_002044_000038, 0x215D_000035_002044_000038, 0x215E_000037_002044_000038,
   0x215F_000031_002044, 0x2161_000069_000069, 0x2162_000069_000069_000069,
   0x2163_000069_000076, 0x2165_000076_000069, 0x2166_000076_000069_000069,
   0x2167_000076_000069_000069_000069, 0x2168_000069_000078, 0x216A_000078_000069,
   0x216B_000078_000069_000069, 0x2171_000069_000069, 0x2172_000069_000069_000069,
   0x2173_000069_000076, 0x2175_000076_000069, 0x2176_000076_000069_000069,
   0x2177_000076_000069_000069_000069, 0x2178_000069_000078, 0x217A_000078_000069,
   0x217B_000078_000069_000069, 0x2189_000030_002044_000033, 0x222C_00222B_00222B,
   0x222D_00222B_00222B_00222B, 0x222F_00222E_00222E, 0x2230_00222E_00222E_00222E,
   0x2469_000031_000030, 0x246A_000031_000031, 0x246B_000031_000032,
   0x246C_000031_000033, 0x246D_000031_000034, 0x246E_000031_000035, 0x246F_000031_000036,
   0x2470_000031_000037, 0x2471_000031_000038, 0x2472_000031_000039, 0x2473_000032_000030,
   0x2474_000028_000031_000029, 0x2475_000028_000032_000029, 0x2476_000028_000033_000029,
   0x2477_000028_000034_000029, 0x2478_000028_000035_000029, 0x2479_000028_000036_000029,
   0x247A_000028_000037_000029, 0x247B_000028_000038_000029, 0x247C_000028_000039_000029,
   0x247D_000028_000031_000030_000029, 0x247E_000028_000031_000031_000029,
   0x247F_000028_000031_000032_000029, 0x2480_000028_000031_000033_000029,
   0x2481_000028_000031_000034_000029, 0x2482_000028_000031_000035_000029,
   0x2483_000028_000031_000036_000029, 0x2484_000028_000031_000037_000029,
   0x2485_000028_000031_000038_000029, 0x2486_000028_000031_000039_000029,
   0x2487_000028_000032_000030_000029, 0x249C_000028_000061_000029,
   0x249D_000028_000062_000029, 0x249E_000028_000063_000029, 0x249F_000028_000064_000029,
   0x24A0_000028_000065_000029, 0x24A1_000028_000066_000029, 0x24A2_000028_000067_000029,
   0x24A3_000028_000068_000029, 0x24A4_000028_000069_000029, 0x24A5_000028_00006A_000029,
   0x24A6_000028_00006B_000029, 0x24A7_000028_00006C_000029, 0x24A8_000028_00006D_000029,
   0x24A9_000028_00006E_000029, 0x24AA_000028_00006F_000029, 0x24AB_000028_000070_000029,
   0x24AC_000028_000071_000029, 0x24AD_000028_000072_000029, 0x24AE_000028_000073_000029,
   0x24AF_000028_000074_000029, 0x24B0_000028_000075_000029, 0x24B1_000028_000076_000029,
   0x24B2_000028_000077_000029, 0x24B3_000028_000078_000029, 0x24B4_000028_000079_000029,
   0x24B5_000028_00007A_000029, 0x2A0C_00222B_00222B_00222B_00222B,
   0x2A74_00003A_00003A_00003D, 0x2A75_00003D_00003D, 0x2A76_00003D_00003D_00003D,
   0x2ADC_002ADD_000338, 0x309B_000020_003099, 0x309C_000020_00309A,
   0x309F_003088_00308A, 0x30FF_0030B3_0030C8, 0x3200_000028_001100_000029,
   0x3201_000028_001102_000029, 0x3202_000028_001103_000029, 0x3203_000028_001105_000029,
   0x3204_000028_001106_000029, 0x3205_000028_001107_000029, 0x3206_000028_001109_000029,
   0x3207_000028_00110B_000029, 0x3208_000028_00110C_000029, 0x3209_000028_00110E_000029,
   0x320A_000028_00110F_000029, 0x320B_000028_001110_000029, 0x320C_000028_001111_000029,
   0x320D_000028_001112_000029, 0x320E_000028_00AC00_000029, 0x320F_000028_00B098_000029,
   0x3210_000028_00B2E4_000029, 0x3211_000028_00B77C_000029, 0x3212_000028_00B9C8_000029,
   0x3213_000028_00BC14_000029, 0x3214_000028_00C0AC_000029, 0x3215_000028_00C544_000029,
   0x3216_000028_00C790_000029, 0x3217_000028_00CC28_000029, 0x3218_000028_00CE74_000029,
   0x3219_000028_00D0C0_000029, 0x321A_000028_00D30C_000029, 0x321B_000028_00D558_000029,
   0x321C_000028_00C8FC_000029, 0x321D_000028_00C624_00C804_000029,
   0x321E_000028_00C624_00D6C4_000029, 0x3220_000028_004E00_000029,
   0x3221_000028_004E8C_000029, 0x3222_000028_004E09_000029, 0x3223_000028_0056DB_000029,
   0x3224_000028_004E94_000029, 0x3225_000028_00516D_000029, 0x3226_000028_004E03_000029,
   0x3227_000028_00516B_000029, 0x3228_000028_004E5D_000029, 0x3229_000028_005341_000029,
   0x322A_000028_006708_000029, 0x322B_000028_00706B_000029, 0x322C_000028_006C34_000029,
   0x322D_000028_006728_000029, 0x322E_000028_0091D1_000029, 0x322F_000028_00571F_000029,
   0x3230_000028_0065E5_000029, 0x3231_000028_00682A_000029, 0x3232_000028_006709_000029,
   0x3233_000028_00793E_000029, 0x3234_000028_00540D_000029, 0x3235_000028_007279_000029,
   0x3236_000028_008CA1_000029, 0x3237_000028_00795D_000029, 0x3238_000028_0052B4_000029,
   0x3239_000028_004EE3_000029, 0x323A_000028_00547C_000029, 0x323B_000028_005B66_000029,
   0x323C_000028_0076E3_000029, 0x323D_000028_004F01_000029, 0x323E_000028_008CC7_000029,
   0x323F_000028_005354_000029, 0x3240_000028_00796D_000029, 0x3241_000028_004F11_000029,
   0x3242_000028_0081EA_000029, 0x3243_000028_0081F3_000029, 0x3250_000070_000074_000065,
   0x3251_000032_000031, 0x3252_000032_000032, 0x3253_000032_000033,
   0x3254_000032_000034, 0x3255_000032_000035, 0x3256_000032_000036,
   0x3257_000032_000037, 0x3258_000032_000038, 0x3259_000032_000039,
   0x325A_000033_000030, 0x325B_000033_000031, 0x325C_000033_000032, 0x325D_000033_000033,
   0x325E_000033_000034, 0x325F_000033_000035, 0x327C_00CC38_00ACE0, 0x327D_00C8FC_00C758,
   0x32B1_000033_000036, 0x32B2_000033_000037, 0x32B3_000033_000038, 0x32B4_000033_000039,
   0x32B5_000034_000030, 0x32B6_000034_000031, 0x32B7_000034_000032, 0x32B8_000034_000033,
   0x32B9_000034_000034, 0x32BA_000034_000035, 0x32BB_000034_000036, 0x32BC_000034_000037,
   0x32BD_000034_000038, 0x32BE_000034_000039, 0x32BF_000035_000030, 0x32C0_000031_006708,
   0x32C1_000032_006708, 0x32C2_000033_006708, 0x32C3_000034_006708, 0x32C4_000035_006708,
   0x32C5_000036_006708, 0x32C6_000037_006708, 0x32C7_000038_006708, 0x32C8_000039_006708,
   0x32C9_000031_000030_006708, 0x32CA_000031_000031_006708, 0x32CB_000031_000032_006708,
   0x32CC_000068_000067, 0x32CD_000065_000072_000067, 0x32CE_000065_000076,
   0x32CF_00006C_000074_000064, 0x32FF_004EE4_00548C, 0x3300_0030A2_0030D1_0030FC_0030C8,
   0x3301_0030A2_0030EB_0030D5_0030A1, 0x3302_0030A2_0030F3_0030DA_0030A2,
   0x3303_0030A2_0030FC_0030EB, 0x3304_0030A4_0030CB_0030F3_0030B0,
   0x3305_0030A4_0030F3_0030C1, 0x3306_0030A6_0030A9_0030F3,
   0x3307_0030A8_0030B9_0030AF_0030FC_0030C9, 0x3308_0030A8_0030FC_0030AB_0030FC,
   0x3309_0030AA_0030F3_0030B9, 0x330A_0030AA_0030FC_0030E0, 0x330B_0030AB_0030A4_0030EA,
   0x330C_0030AB_0030E9_0030C3_0030C8, 0x330D_0030AB_0030ED_0030EA_0030FC,
   0x330E_0030AC_0030ED_0030F3, 0x330F_0030AC_0030F3_0030DE, 0x3310_0030AE_0030AC,
   0x3311_0030AE_0030CB_0030FC, 0x3312_0030AD_0030E5_0030EA_0030FC,
   0x3313_0030AE_0030EB_0030C0_0030FC, 0x3314_0030AD_0030ED,
   0x3315_0030AD_0030ED_0030B0_0030E9_0030E0,
   0x3316_0030AD_0030ED_0030E1_0030FC_0030C8_0030EB,
   0x3317_0030AD_0030ED_0030EF_0030C3_0030C8, 0x3318_0030B0_0030E9_0030E0,
   0x3319_0030B0_0030E9_0030E0_0030C8_0030F3, 0x331A_0030AF_0030EB_0030BC_0030A4_0030ED,
   0x331B_0030AF_0030ED_0030FC_0030CD, 0x331C_0030B1_0030FC_0030B9,
   0x331D_0030B3_0030EB_0030CA, 0x331E_0030B3_0030FC_0030DD,
   0x331F_0030B5_0030A4_0030AF_0030EB, 0x3320_0030B5_0030F3_0030C1_0030FC_0030E0,
   0x3321_0030B7_0030EA_0030F3_0030B0, 0x3322_0030BB_0030F3_0030C1,
   0x3323_0030BB_0030F3_0030C8, 0x3324_0030C0_0030FC_0030B9, 0x3325_0030C7_0030B7,
   0x3326_0030C9_0030EB, 0x3327_0030C8_0030F3, 0x3328_0030CA_0030CE,
   0x3329_0030CE_0030C3_0030C8, 0x332A_0030CF_0030A4_0030C4,
   0x332B_0030D1_0030FC_0030BB_0030F3_0030C8, 0x332C_0030D1_0030FC_0030C4,
   0x332D_0030D0_0030FC_0030EC_0030EB, 0x332E_0030D4_0030A2_0030B9_0030C8_0030EB,
   0x332F_0030D4_0030AF_0030EB, 0x3330_0030D4_0030B3, 0x3331_0030D3_0030EB,
   0x3332_0030D5_0030A1_0030E9_0030C3_0030C9, 0x3333_0030D5_0030A3_0030FC_0030C8,
   0x3334_0030D6_0030C3_0030B7_0030A7_0030EB, 0x3335_0030D5_0030E9_0030F3,
   0x3336_0030D8_0030AF_0030BF_0030FC_0030EB, 0x3337_0030DA_0030BD,
   0x3338_0030DA_0030CB_0030D2, 0x3339_0030D8_0030EB_0030C4, 0x333A_0030DA_0030F3_0030B9,
   0x333B_0030DA_0030FC_0030B8, 0x333C_0030D9_0030FC_0030BF,
   0x333D_0030DD_0030A4_0030F3_0030C8, 0x333E_0030DC_0030EB_0030C8, 0x333F_0030DB_0030F3,
   0x3340_0030DD_0030F3_0030C9, 0x3341_0030DB_0030FC_0030EB, 0x3342_0030DB_0030FC_0030F3,
   0x3343_0030DE_0030A4_0030AF_0030ED, 0x3344_0030DE_0030A4_0030EB,
   0x3345_0030DE_0030C3_0030CF, 0x3346_0030DE_0030EB_0030AF,
   0x3347_0030DE_0030F3_0030B7_0030E7_0030F3, 0x3348_0030DF_0030AF_0030ED_0030F3,
   0x3349_0030DF_0030EA, 0x334A_0030DF_0030EA_0030D0_0030FC_0030EB, 0x334B_0030E1_0030AC,
   0x334C_0030E1_0030AC_0030C8_0030F3, 0x334D_0030E1_0030FC_0030C8_0030EB,
   0x334E_0030E4_0030FC_0030C9, 0x334F_0030E4_0030FC_0030EB, 0x3350_0030E6_0030A2_0030F3,
   0x3351_0030EA_0030C3_0030C8_0030EB, 0x3352_0030EA_0030E9, 0x3353_0030EB_0030D4_0030FC,
   0x3354_0030EB_0030FC_0030D6_0030EB, 0x3355_0030EC_0030E0,
   0x3356_0030EC_0030F3_0030C8_0030B2_0030F3, 0x3357_0030EF_0030C3_0030C8,
   0x3358_000030_0070B9, 0x3359_000031_0070B9, 0x335A_000032_0070B9,
   0x335B_000033_0070B9, 0x335C_000034_0070B9, 0x335D_000035_0070B9,
   0x335E_000036_0070B9, 0x335F_000037_0070B9, 0x3360_000038_0070B9,
   0x3361_000039_0070B9, 0x3362_000031_000030_0070B9, 0x3363_000031_000031_0070B9,
   0x3364_000031_000032_0070B9, 0x3365_000031_000033_0070B9, 0x3366_000031_000034_0070B9,
   0x3367_000031_000035_0070B9, 0x3368_000031_000036_0070B9, 0x3369_000031_000037_0070B9,
   0x336A_000031_000038_0070B9, 0x336B_000031_000039_0070B9, 0x336C_000032_000030_0070B9,
   0x336D_000032_000031_0070B9, 0x336E_000032_000032_0070B9, 0x336F_000032_000033_0070B9,
   0x3370_000032_000034_0070B9, 0x3371_000068_000070_000061, 0x3372_000064_000061,
   0x3373_000061_000075, 0x3374_000062_000061_000072, 0x3375_00006F_000076,
   0x3376_000070_000063, 0x3377_000064_00006D, 0x3378_000064_00006D_000032,
   0x3379_000064_00006D_000033, 0x337A_000069_000075, 0x337B_005E73_006210,
   0x337C_00662D_00548C, 0x337D_005927_006B63, 0x337E_00660E_006CBB,
   0x337F_00682A_005F0F_004F1A_00793E, 0x3380_000070_000061, 0x3381_00006E_000061,
   0x3382_0003BC_000061, 0x3383_00006D_000061, 0x3384_00006B_000061,
   0x3385_00006B_000062, 0x3386_00006D_000062, 0x3387_000067_000062,
   0x3388_000063_000061_00006C, 0x3389_00006B_000063_000061_00006C, 0x338A_000070_000066,
   0x338B_00006E_000066, 0x338C_0003BC_000066, 0x338D_0003BC_000067,
   0x338E_00006D_000067, 0x338F_00006B_000067, 0x3390_000068_00007A,
   0x3391_00006B_000068_00007A, 0x3392_00006D_000068_00007A, 0x3393_000067_000068_00007A,
   0x3394_000074_000068_00007A, 0x3395_0003BC_00006C, 0x3396_00006D_00006C,
   0x3397_000064_00006C, 0x3398_00006B_00006C, 0x3399_000066_00006D,
   0x339A_00006E_00006D, 0x339B_0003BC_00006D, 0x339C_00006D_00006D, 0x339D_000063_00006D,
   0x339E_00006B_00006D, 0x339F_00006D_00006D_000032, 0x33A0_000063_00006D_000032,
   0x33A1_00006D_000032, 0x33A2_00006B_00006D_000032, 0x33A3_00006D_00006D_000033,
   0x33A4_000063_00006D_000033, 0x33A5_00006D_000033, 0x33A6_00006B_00006D_000033,
   0x33A7_00006D_002215_000073, 0x33A8_00006D_002215_000073_000032, 0x33A9_000070_000061,
   0x33AA_00006B_000070_000061, 0x33AB_00006D_000070_000061, 0x33AC_000067_000070_000061,
   0x33AD_000072_000061_000064, 0x33AE_000072_000061_000064_002215_000073,
   0x33AF_000072_000061_000064_002215_000073_000032, 0x33B0_000070_000073,
   0x33B1_00006E_000073, 0x33B2_0003BC_000073, 0x33B3_00006D_000073,
   0x33B4_000070_000076, 0x33B5_00006E_000076, 0x33B6_0003BC_000076,
   0x33B7_00006D_000076, 0x33B8_00006B_000076, 0x33B9_00006D_000076,
   0x33BA_000070_000077, 0x33BB_00006E_000077, 0x33BC_0003BC_000077, 0x33BD_00006D_000077,
   0x33BE_00006B_000077, 0x33BF_00006D_000077, 0x33C0_00006B_0003C9, 0x33C1_00006D_0003C9,
   0x33C3_000062_000071, 0x33C4_000063_000063, 0x33C5_000063_000064,
   0x33C6_000063_002215_00006B_000067, 0x33C8_000064_000062, 0x33C9_000067_000079,
   0x33CA_000068_000061, 0x33CB_000068_000070, 0x33CC_000069_00006E, 0x33CD_00006B_00006B,
   0x33CE_00006B_00006D, 0x33CF_00006B_000074, 0x33D0_00006C_00006D, 0x33D1_00006C_00006E,
   0x33D2_00006C_00006F_000067, 0x33D3_00006C_000078, 0x33D4_00006D_000062,
   0x33D5_00006D_000069_00006C, 0x33D6_00006D_00006F_00006C, 0x33D7_000070_000068,
   0x33D9_000070_000070_00006D, 0x33DA_000070_000072, 0x33DB_000073_000072,
   0x33DC_000073_000076, 0x33DD_000077_000062, 0x33DE_000076_002215_00006D,
   0x33DF_000061_002215_00006D, 0x33E0_000031_0065E5, 0x33E1_000032_0065E5,
   0x33E2_000033_0065E5, 0x33E3_000034_0065E5, 0x33E4_000035_0065E5,
   0x33E5_000036_0065E5, 0x33E6_000037_0065E5, 0x33E7_000038_0065E5,
   0x33E8_000039_0065E5, 0x33E9_000031_000030_0065E5, 0x33EA_000031_000031_0065E5,
   0x33EB_000031_000032_0065E5, 0x33EC_000031_000033_0065E5, 0x33ED_000031_000034_0065E5,
   0x33EE_000031_000035_0065E5, 0x33EF_000031_000036_0065E5, 0x33F0_000031_000037_0065E5,
   0x33F1_000031_000038_0065E5, 0x33F2_000031_000039_0065E5, 0x33F3_000032_000030_0065E5,
   0x33F4_000032_000031_0065E5, 0x33F5_000032_000032_0065E5, 0x33F6_000032_000033_0065E5,
   0x33F7_000032_000034_0065E5, 0x33F8_000032_000035_0065E5, 0x33F9_000032_000036_0065E5,
   0x33FA_000032_000037_0065E5, 0x33FB_000032_000038_0065E5, 0x33FC_000032_000039_0065E5,
   0x33FD_000033_000030_0065E5, 0x33FE_000033_000031_0065E5, 0x33FF_000067_000061_00006C,
   0xFB00_000066_000066, 0xFB01_000066_000069, 0xFB02_000066_00006C,
   0xFB03_000066_000066_000069, 0xFB04_000066_000066_00006C, 0xFB05_000073_000074,
   0xFB06_000073_000074, 0xFB13_000574_000576, 0xFB14_000574_000565,
   0xFB15_000574_00056B, 0xFB16_00057E_000576, 0xFB17_000574_00056D,
   0xFB1D_0005D9_0005B4, 0xFB1F_0005F2_0005B7, 0xFB2A_0005E9_0005C1, 0xFB2B_0005E9_0005C2,
   0xFB2C_0005E9_0005BC_0005C1, 0xFB2D_0005E9_0005BC_0005C2, 0xFB2E_0005D0_0005B7,
   0xFB2F_0005D0_0005B8, 0xFB30_0005D0_0005BC, 0xFB31_0005D1_0005BC, 0xFB32_0005D2_0005BC,
   0xFB33_0005D3_0005BC, 0xFB34_0005D4_0005BC, 0xFB35_0005D5_0005BC, 0xFB36_0005D6_0005BC,
   0xFB38_0005D8_0005BC, 0xFB39_0005D9_0005BC, 0xFB3A_0005DA_0005BC, 0xFB3B_0005DB_0005BC,
   0xFB3C_0005DC_0005BC, 0xFB3E_0005DE_0005BC, 0xFB40_0005E0_0005BC, 0xFB41_0005E1_0005BC,
   0xFB43_0005E3_0005BC, 0xFB44_0005E4_0005BC, 0xFB46_0005E6_0005BC, 0xFB47_0005E7_0005BC,
   0xFB48_0005E8_0005BC, 0xFB49_0005E9_0005BC, 0xFB4A_0005EA_0005BC, 0xFB4B_0005D5_0005B9,
   0xFB4C_0005D1_0005BF, 0xFB4D_0005DB_0005BF, 0xFB4E_0005E4_0005BF, 0xFB4F_0005D0_0005DC,
   0xFBDD_0006C7_000674, 0xFBEA_000626_000627, 0xFBEB_000626_000627, 0xFBEC_000626_0006D5,
   0xFBED_000626_0006D5, 0xFBEE_000626_000648, 0xFBEF_000626_000648, 0xFBF0_000626_0006C7,
   0xFBF1_000626_0006C7, 0xFBF2_000626_0006C6, 0xFBF3_000626_0006C6, 0xFBF4_000626_0006C8,
   0xFBF5_000626_0006C8, 0xFBF6_000626_0006D0, 0xFBF7_000626_0006D0, 0xFBF8_000626_0006D0,
   0xFBF9_000626_000649, 0xFBFA_000626_000649, 0xFBFB_000626_000649, 0xFC00_000626_00062C,
   0xFC01_000626_00062D, 0xFC02_000626_000645, 0xFC03_000626_000649, 0xFC04_000626_00064A,
   0xFC05_000628_00062C, 0xFC06_000628_00062D, 0xFC07_000628_00062E, 0xFC08_000628_000645,
   0xFC09_000628_000649, 0xFC0A_000628_00064A, 0xFC0B_00062A_00062C, 0xFC0C_00062A_00062D,
   0xFC0D_00062A_00062E, 0xFC0E_00062A_000645, 0xFC0F_00062A_000649, 0xFC10_00062A_00064A,
   0xFC11_00062B_00062C, 0xFC12_00062B_000645, 0xFC13_00062B_000649, 0xFC14_00062B_00064A,
   0xFC15_00062C_00062D, 0xFC16_00062C_000645, 0xFC17_00062D_00062C, 0xFC18_00062D_000645,
   0xFC19_00062E_00062C, 0xFC1A_00062E_00062D, 0xFC1B_00062E_000645, 0xFC1C_000633_00062C,
   0xFC1D_000633_00062D, 0xFC1E_000633_00062E, 0xFC1F_000633_000645, 0xFC20_000635_00062D,
   0xFC21_000635_000645, 0xFC22_000636_00062C, 0xFC23_000636_00062D, 0xFC24_000636_00062E,
   0xFC25_000636_000645, 0xFC26_000637_00062D, 0xFC27_000637_000645, 0xFC28_000638_000645,
   0xFC29_000639_00062C, 0xFC2A_000639_000645, 0xFC2B_00063A_00062C, 0xFC2C_00063A_000645,
   0xFC2D_000641_00062C, 0xFC2E_000641_00062D, 0xFC2F_000641_00062E, 0xFC30_000641_000645,
   0xFC31_000641_000649, 0xFC32_000641_00064A, 0xFC33_000642_00062D, 0xFC34_000642_000645,
   0xFC35_000642_000649, 0xFC36_000642_00064A, 0xFC37_000643_000627, 0xFC38_000643_00062C,
   0xFC39_000643_00062D, 0xFC3A_000643_00062E, 0xFC3B_000643_000644, 0xFC3C_000643_000645,
   0xFC3D_000643_000649, 0xFC3E_000643_00064A, 0xFC3F_000644_00062C, 0xFC40_000644_00062D,
   0xFC41_000644_00062E, 0xFC42_000644_000645, 0xFC43_000644_000649, 0xFC44_000644_00064A,
   0xFC45_000645_00062C, 0xFC46_000645_00062D, 0xFC47_000645_00062E, 0xFC48_000645_000645,
   0xFC49_000645_000649, 0xFC4A_000645_00064A, 0xFC4B_000646_00062C, 0xFC4C_000646_00062D,
   0xFC4D_000646_00062E, 0xFC4E_000646_000645, 0xFC4F_000646_000649, 0xFC50_000646_00064A,
   0xFC51_000647_00062C, 0xFC52_000647_000645, 0xFC53_000647_000649, 0xFC54_000647_00064A,
   0xFC55_00064A_00062C, 0xFC56_00064A_00062D, 0xFC57_00064A_00062E, 0xFC58_00064A_000645,
   0xFC59_00064A_000649, 0xFC5A_00064A_00064A, 0xFC5B_000630_000670, 0xFC5C_000631_000670,
   0xFC5D_000649_000670, 0xFC5E_000020_00064C_000651, 0xFC5F_000020_00064D_000651,
   0xFC60_000020_00064E_000651, 0xFC61_000020_00064F_000651, 0xFC62_000020_000650_000651,
   0xFC63_000020_000651_000670, 0xFC64_000626_000631, 0xFC65_000626_000632,
   0xFC66_000626_000645, 0xFC67_000626_000646, 0xFC68_000626_000649,
   0xFC69_000626_00064A, 0xFC6A_000628_000631, 0xFC6B_000628_000632,
   0xFC6C_000628_000645, 0xFC6D_000628_000646, 0xFC6E_000628_000649,
   0xFC6F_000628_00064A, 0xFC70_00062A_000631, 0xFC71_00062A_000632, 0xFC72_00062A_000645,
   0xFC73_00062A_000646, 0xFC74_00062A_000649, 0xFC75_00062A_00064A, 0xFC76_00062B_000631,
   0xFC77_00062B_000632, 0xFC78_00062B_000645, 0xFC79_00062B_000646, 0xFC7A_00062B_000649,
   0xFC7B_00062B_00064A, 0xFC7C_000641_000649, 0xFC7D_000641_00064A, 0xFC7E_000642_000649,
   0xFC7F_000642_00064A, 0xFC80_000643_000627, 0xFC81_000643_000644, 0xFC82_000643_000645,
   0xFC83_000643_000649, 0xFC84_000643_00064A, 0xFC85_000644_000645, 0xFC86_000644_000649,
   0xFC87_000644_00064A, 0xFC88_000645_000627, 0xFC89_000645_000645, 0xFC8A_000646_000631,
   0xFC8B_000646_000632, 0xFC8C_000646_000645, 0xFC8D_000646_000646, 0xFC8E_000646_000649,
   0xFC8F_000646_00064A, 0xFC90_000649_000670, 0xFC91_00064A_000631, 0xFC92_00064A_000632,
   0xFC93_00064A_000645, 0xFC94_00064A_000646, 0xFC95_00064A_000649, 0xFC96_00064A_00064A,
   0xFC97_000626_00062C, 0xFC98_000626_00062D, 0xFC99_000626_00062E, 0xFC9A_000626_000645,
   0xFC9B_000626_000647, 0xFC9C_000628_00062C, 0xFC9D_000628_00062D, 0xFC9E_000628_00062E,
   0xFC9F_000628_000645, 0xFCA0_000628_000647, 0xFCA1_00062A_00062C, 0xFCA2_00062A_00062D,
   0xFCA3_00062A_00062E, 0xFCA4_00062A_000645, 0xFCA5_00062A_000647, 0xFCA6_00062B_000645,
   0xFCA7_00062C_00062D, 0xFCA8_00062C_000645, 0xFCA9_00062D_00062C, 0xFCAA_00062D_000645,
   0xFCAB_00062E_00062C, 0xFCAC_00062E_000645, 0xFCAD_000633_00062C, 0xFCAE_000633_00062D,
   0xFCAF_000633_00062E, 0xFCB0_000633_000645, 0xFCB1_000635_00062D, 0xFCB2_000635_00062E,
   0xFCB3_000635_000645, 0xFCB4_000636_00062C, 0xFCB5_000636_00062D, 0xFCB6_000636_00062E,
   0xFCB7_000636_000645, 0xFCB8_000637_00062D, 0xFCB9_000638_000645, 0xFCBA_000639_00062C,
   0xFCBB_000639_000645, 0xFCBC_00063A_00062C, 0xFCBD_00063A_000645, 0xFCBE_000641_00062C,
   0xFCBF_000641_00062D, 0xFCC0_000641_00062E, 0xFCC1_000641_000645, 0xFCC2_000642_00062D,
   0xFCC3_000642_000645, 0xFCC4_000643_00062C, 0xFCC5_000643_00062D, 0xFCC6_000643_00062E,
   0xFCC7_000643_000644, 0xFCC8_000643_000645, 0xFCC9_000644_00062C, 0xFCCA_000644_00062D,
   0xFCCB_000644_00062E, 0xFCCC_000644_000645, 0xFCCD_000644_000647, 0xFCCE_000645_00062C,
   0xFCCF_000645_00062D, 0xFCD0_000645_00062E, 0xFCD1_000645_000645, 0xFCD2_000646_00062C,
   0xFCD3_000646_00062D, 0xFCD4_000646_00062E, 0xFCD5_000646_000645, 0xFCD6_000646_000647,
   0xFCD7_000647_00062C, 0xFCD8_000647_000645, 0xFCD9_000647_000670, 0xFCDA_00064A_00062C,
   0xFCDB_00064A_00062D, 0xFCDC_00064A_00062E, 0xFCDD_00064A_000645, 0xFCDE_00064A_000647,
   0xFCDF_000626_000645, 0xFCE0_000626_000647, 0xFCE1_000628_000645, 0xFCE2_000628_000647,
   0xFCE3_00062A_000645, 0xFCE4_00062A_000647, 0xFCE5_00062B_000645, 0xFCE6_00062B_000647,
   0xFCE7_000633_000645, 0xFCE8_000633_000647, 0xFCE9_000634_000645, 0xFCEA_000634_000647,
   0xFCEB_000643_000644, 0xFCEC_000643_000645, 0xFCED_000644_000645, 0xFCEE_000646_000645,
   0xFCEF_000646_000647, 0xFCF0_00064A_000645, 0xFCF1_00064A_000647,
   0xFCF2_000640_00064E_000651, 0xFCF3_000640_00064F_000651, 0xFCF4_000640_000650_000651,
   0xFCF5_000637_000649, 0xFCF6_000637_00064A, 0xFCF7_000639_000649,
   0xFCF8_000639_00064A, 0xFCF9_00063A_000649, 0xFCFA_00063A_00064A,
   0xFCFB_000633_000649, 0xFCFC_000633_00064A, 0xFCFD_000634_000649,
   0xFCFE_000634_00064A, 0xFCFF_00062D_000649, 0xFD00_00062D_00064A, 0xFD01_00062C_000649,
   0xFD02_00062C_00064A, 0xFD03_00062E_000649, 0xFD04_00062E_00064A, 0xFD05_000635_000649,
   0xFD06_000635_00064A, 0xFD07_000636_000649, 0xFD08_000636_00064A, 0xFD09_000634_00062C,
   0xFD0A_000634_00062D, 0xFD0B_000634_00062E, 0xFD0C_000634_000645, 0xFD0D_000634_000631,
   0xFD0E_000633_000631, 0xFD0F_000635_000631, 0xFD10_000636_000631, 0xFD11_000637_000649,
   0xFD12_000637_00064A, 0xFD13_000639_000649, 0xFD14_000639_00064A, 0xFD15_00063A_000649,
   0xFD16_00063A_00064A, 0xFD17_000633_000649, 0xFD18_000633_00064A, 0xFD19_000634_000649,
   0xFD1A_000634_00064A, 0xFD1B_00062D_000649, 0xFD1C_00062D_00064A, 0xFD1D_00062C_000649,
   0xFD1E_00062C_00064A, 0xFD1F_00062E_000649, 0xFD20_00062E_00064A, 0xFD21_000635_000649,
   0xFD22_000635_00064A, 0xFD23_000636_000649, 0xFD24_000636_00064A, 0xFD25_000634_00062C,
   0xFD26_000634_00062D, 0xFD27_000634_00062E, 0xFD28_000634_000645, 0xFD29_000634_000631,
   0xFD2A_000633_000631, 0xFD2B_000635_000631, 0xFD2C_000636_000631, 0xFD2D_000634_00062C,
   0xFD2E_000634_00062D, 0xFD2F_000634_00062E, 0xFD30_000634_000645, 0xFD31_000633_000647,
   0xFD32_000634_000647, 0xFD33_000637_000645, 0xFD34_000633_00062C, 0xFD35_000633_00062D,
   0xFD36_000633_00062E, 0xFD37_000634_00062C, 0xFD38_000634_00062D, 0xFD39_000634_00062E,
   0xFD3A_000637_000645, 0xFD3B_000638_000645, 0xFD3C_000627_00064B, 0xFD3D_000627_00064B,
   0xFD50_00062A_00062C_000645, 0xFD51_00062A_00062D_00062C, 0xFD52_00062A_00062D_00062C,
   0xFD53_00062A_00062D_000645, 0xFD54_00062A_00062E_000645, 0xFD55_00062A_000645_00062C,
   0xFD56_00062A_000645_00062D, 0xFD57_00062A_000645_00062E, 0xFD58_00062C_000645_00062D,
   0xFD59_00062C_000645_00062D, 0xFD5A_00062D_000645_00064A, 0xFD5B_00062D_000645_000649,
   0xFD5C_000633_00062D_00062C, 0xFD5D_000633_00062C_00062D, 0xFD5E_000633_00062C_000649,
   0xFD5F_000633_000645_00062D, 0xFD60_000633_000645_00062D, 0xFD61_000633_000645_00062C,
   0xFD62_000633_000645_000645, 0xFD63_000633_000645_000645, 0xFD64_000635_00062D_00062D,
   0xFD65_000635_00062D_00062D, 0xFD66_000635_000645_000645, 0xFD67_000634_00062D_000645,
   0xFD68_000634_00062D_000645, 0xFD69_000634_00062C_00064A, 0xFD6A_000634_000645_00062E,
   0xFD6B_000634_000645_00062E, 0xFD6C_000634_000645_000645, 0xFD6D_000634_000645_000645,
   0xFD6E_000636_00062D_000649, 0xFD6F_000636_00062E_000645, 0xFD70_000636_00062E_000645,
   0xFD71_000637_000645_00062D, 0xFD72_000637_000645_00062D, 0xFD73_000637_000645_000645,
   0xFD74_000637_000645_00064A, 0xFD75_000639_00062C_000645, 0xFD76_000639_000645_000645,
   0xFD77_000639_000645_000645, 0xFD78_000639_000645_000649, 0xFD79_00063A_000645_000645,
   0xFD7A_00063A_000645_00064A, 0xFD7B_00063A_000645_000649, 0xFD7C_000641_00062E_000645,
   0xFD7D_000641_00062E_000645, 0xFD7E_000642_000645_00062D, 0xFD7F_000642_000645_000645,
   0xFD80_000644_00062D_000645, 0xFD81_000644_00062D_00064A, 0xFD82_000644_00062D_000649,
   0xFD83_000644_00062C_00062C, 0xFD84_000644_00062C_00062C, 0xFD85_000644_00062E_000645,
   0xFD86_000644_00062E_000645, 0xFD87_000644_000645_00062D, 0xFD88_000644_000645_00062D,
   0xFD89_000645_00062D_00062C, 0xFD8A_000645_00062D_000645, 0xFD8B_000645_00062D_00064A,
   0xFD8C_000645_00062C_00062D, 0xFD8D_000645_00062C_000645, 0xFD8E_000645_00062E_00062C,
   0xFD8F_000645_00062E_000645, 0xFD92_000645_00062C_00062E, 0xFD93_000647_000645_00062C,
   0xFD94_000647_000645_000645, 0xFD95_000646_00062D_000645, 0xFD96_000646_00062D_000649,
   0xFD97_000646_00062C_000645, 0xFD98_000646_00062C_000645, 0xFD99_000646_00062C_000649,
   0xFD9A_000646_000645_00064A, 0xFD9B_000646_000645_000649, 0xFD9C_00064A_000645_000645,
   0xFD9D_00064A_000645_000645, 0xFD9E_000628_00062E_00064A, 0xFD9F_00062A_00062C_00064A,
   0xFDA0_00062A_00062C_000649, 0xFDA1_00062A_00062E_00064A, 0xFDA2_00062A_00062E_000649,
   0xFDA3_00062A_000645_00064A, 0xFDA4_00062A_000645_000649, 0xFDA5_00062C_000645_00064A,
   0xFDA6_00062C_00062D_000649, 0xFDA7_00062C_000645_000649, 0xFDA8_000633_00062E_000649,
   0xFDA9_000635_00062D_00064A, 0xFDAA_000634_00062D_00064A, 0xFDAB_000636_00062D_00064A,
   0xFDAC_000644_00062C_00064A, 0xFDAD_000644_000645_00064A, 0xFDAE_00064A_00062D_00064A,
   0xFDAF_00064A_00062C_00064A, 0xFDB0_00064A_000645_00064A, 0xFDB1_000645_000645_00064A,
   0xFDB2_000642_000645_00064A, 0xFDB3_000646_00062D_00064A, 0xFDB4_000642_000645_00062D,
   0xFDB5_000644_00062D_000645, 0xFDB6_000639_000645_00064A, 0xFDB7_000643_000645_00064A,
   0xFDB8_000646_00062C_00062D, 0xFDB9_000645_00062E_00064A, 0xFDBA_000644_00062C_000645,
   0xFDBB_000643_000645_000645, 0xFDBC_000644_00062C_000645, 0xFDBD_000646_00062C_00062D,
   0xFDBE_00062C_00062D_00064A, 0xFDBF_00062D_00062C_00064A, 0xFDC0_000645_00062C_00064A,
   0xFDC1_000641_000645_00064A, 0xFDC2_000628_00062D_00064A, 0xFDC3_000643_000645_000645,
   0xFDC4_000639_00062C_000645, 0xFDC5_000635_000645_000645, 0xFDC6_000633_00062E_00064A,
   0xFDC7_000646_00062C_00064A, 0xFDF0_000635_000644_0006D2, 0xFDF1_000642_000644_0006D2,
   0xFDF2_000627_000644_000644_000647, 0xFDF3_000627_000643_000628_000631,
   0xFDF4_000645_00062D_000645_00062F, 0xFDF5_000635_000644_000639_000645,
   0xFDF6_000631_000633_000648_000644, 0xFDF7_000639_000644_00064A_000647,
   0xFDF8_000648_000633_000644_000645, 0xFDF9_000635_000644_000649,
   0xFDFA_000635_000644_000649_000020_000627_000644_000644_000647_000020 <<< 216 +
     0x000639_000644_00064A_000647_000020_000648_000633_000644_000645,
   0xFDFB_00062C_000644_000020_00062C_000644_000627_000644_000647,
   0xFDFC_000631_0006CC_000627_000644, 0xFE49_000020_000305, 0xFE4A_000020_000305,
   0xFE4B_000020_000305, 0xFE4C_000020_000305, 0xFE70_000020_00064B, 0xFE71_000640_00064B,
   0xFE72_000020_00064C, 0xFE74_000020_00064D, 0xFE76_000020_00064E, 0xFE77_000640_00064E,
   0xFE78_000020_00064F, 0xFE79_000640_00064F, 0xFE7A_000020_000650, 0xFE7B_000640_000650,
   0xFE7C_000020_000651, 0xFE7D_000640_000651, 0xFE7E_000020_000652, 0xFE7F_000640_000652,
   0xFEF5_000644_000622, 0xFEF6_000644_000622, 0xFEF7_000644_000623, 0xFEF8_000644_000623,
   0xFEF9_000644_000625, 0xFEFA_000644_000625, 0xFEFB_000644_000627, 0xFEFC_000644_000627,
   0xFFE3_000020_000304, 0x1D15E_01D157_01D165, 0x1D15F_01D158_01D165,
   0x1D160_01D158_01D165_01D16E, 0x1D161_01D158_01D165_01D16F,
   0x1D162_01D158_01D165_01D170, 0x1D163_01D158_01D165_01D171,
   0x1D164_01D158_01D165_01D172, 0x1D1BB_01D1B9_01D165, 0x1D1BC_01D1BA_01D165,
   0x1D1BD_01D1B9_01D165_01D16E, 0x1D1BE_01D1BA_01D165_01D16E,
   0x1D1BF_01D1B9_01D165_01D16F, 0x1D1C0_01D1BA_01D165_01D16F, 0x1F101_000030_00002C,
   0x1F102_000031_00002C, 0x1F103_000032_00002C, 0x1F104_000033_00002C,
   0x1F105_000034_00002C, 0x1F106_000035_00002C, 0x1F107_000036_00002C,
   0x1F108_000037_00002C, 0x1F109_000038_00002C, 0x1F10A_000039_00002C,
   0x1F110_000028_000061_000029, 0x1F111_000028_000062_000029,
   0x1F112_000028_000063_000029, 0x1F113_000028_000064_000029,
   0x1F114_000028_000065_000029, 0x1F115_000028_000066_000029,
   0x1F116_000028_000067_000029, 0x1F117_000028_000068_000029,
   0x1F118_000028_000069_000029, 0x1F119_000028_00006A_000029,
   0x1F11A_000028_00006B_000029, 0x1F11B_000028_00006C_000029,
   0x1F11C_000028_00006D_000029, 0x1F11D_000028_00006E_000029,
   0x1F11E_000028_00006F_000029, 0x1F11F_000028_000070_000029,
   0x1F120_000028_000071_000029, 0x1F121_000028_000072_000029,
   0x1F122_000028_000073_000029, 0x1F123_000028_000074_000029,
   0x1F124_000028_000075_000029, 0x1F125_000028_000076_000029,
   0x1F126_000028_000077_000029, 0x1F127_000028_000078_000029,
   0x1F128_000028_000079_000029, 0x1F129_000028_00007A_000029,
   0x1F12A_003014_000073_003015, 0x1F12D_000063_000064, 0x1F12E_000077_00007A,
   0x1F14A_000068_000076, 0x1F14B_00006D_000076, 0x1F14C_000073_000064,
   0x1F14D_000073_000073, 0x1F14E_000070_000070_000076, 0x1F14F_000077_000063,
   0x1F16A_00006D_000063, 0x1F16B_00006D_000064, 0x1F16C_00006D_000072,
   0x1F190_000064_00006A, 0x1F200_00307B_00304B, 0x1F201_0030B3_0030B3,
   0x1F240_003014_00672C_003015, 0x1F241_003014_004E09_003015,
   0x1F242_003014_004E8C_003015, 0x1F243_003014_005B89_003015,
   0x1F244_003014_0070B9_003015, 0x1F245_003014_006253_003015,
   0x1F246_003014_0076D7_003015, 0x1F247_003014_0052DD_003015,
   0x1F248_003014_006557_003015]

end CredRelay.Unicode
