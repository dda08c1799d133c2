import CredRelay.Unicode.Range
/-! Letters and numbers of all scripts: the characters with the property Alphabetic and
those of the categories for numbers. Within ASCII these are the letters and the decimal
digits. -/
namespace CredRelay.Unicode

set_option maxRecDepth 20000 in
/-- The characters that are alphabetic or numeric. -/
def alphanumericRanges : List Range := Range.list
  [0xAA, 0xB2_0000B3, 0xB5, 0xB9_0000BA, 0xBC_0000BE, 0xC0_0000D6, 0xD8_0000F6,
  0xF8_0002C1,
   0x2C6_0002D1, 0x2E0_0002E4, 0x2EC, 0x2EE, 0x345, 0x370_000374, 0x376_000377,
   0x37A_00037D, 0x37F, 0x386, 0x388_00038A, 0x38C, 0x38E_0003A1, 0x3A3_0003F5,
   0x3F7_000481, 0x48A_00052F, 0x531_000556, 0x559, 0x560_000588, 0x5B0_0005BD, 0x5BF,
   0x5C1_0005C2, 0x5C4_0005C5, 0x5C7, 0x5D0_0005EA, 0x5EF_0005F2, 0x610_00061A,
   0x620_000657, 0x659_000669, 0x66E_0006D3, 0x6D5_0006DC, 0x6E1_0006E8, 0x6ED_0006FC,
   0x6FF, 0x710_00073F, 0x74D_0007B1, 0x7C0_0007EA, 0x7F4_0007F5, 0x7FA, 0x800_000817,
   0x81A_00082C, 0x840_000858, 0x860_00086A, 0x870_000887, 0x889_00088E, 0x8A0_0008C9,
   0x8D4_0008DF, 0x8E3_0008E9, 0x8F0_00093B, 0x93D_00094C, 0x94E_000950, 0x955_000963,
   0x966_00096F, 0x971_000983, 0x985_00098C, 0x98F_000990, 0x993_0009A8, 0x9AA_0009B0,
   0x9B2, 0x9B6_0009B9, 0x9BD_0009C4, 0x9C7_0009C8, 0x9CB_0009CC, 0x9CE, 0x9D7,
   0x9DC_0009DD, 0x9DF_0009E3, 0x9E6_0009F1, 0x9F4_0009F9, 0x9FC, 0xA01_000A03,
   0xA05_000A0A, 0xA0F_000A10, 0xA13_000A28, 0xA2A_000A30, 0xA32_000A33, 0xA35_000A36,
   0xA38_000A39, 0xA3E_000A42, 0xA47_000A48, 0xA4B_000A4C, 0xA51, 0xA59_000A5C, 0xA5E,
   0xA66_000A75, 0xA81_000A83, 0xA85_000A8D, 0xA8F_000A91, 0xA93_000AA8, 0xAAA_000AB0,
   0xAB2_000AB3, 0xAB5_000AB9, 0xABD_000AC5, 0xAC7_000AC9, 0xACB_000ACC, 0xAD0,
   0xAE0_000AE3, 0xAE6_000AEF, 0xAF9_000AFC, 0xB01_000B03, 0xB05_000B0C, 0xB0F_000B10,
   0xB13_000B28, 0xB2A_000B30, 0xB32_000B33, 0xB35_000B39, 0xB3D_000B44, 0xB47_000B48,
   0xB4B_000B4C, 0xB56_000B57, 0xB5C_000B5D, 0xB5F_000B63, 0xB66_000B6F, 0xB71_000B77,
   0xB82_000B83, 0xB85_000B8A, 0xB8E_000B90, 0xB92_000B95, 0xB99_000B9A, 0xB9C,
   0xB9E_000B9F, 0xBA3_000BA4, 0xBA8_000BAA, 0xBAE_000BB9, 0xBBE_000BC2, 0xBC6_000BC8,
   0xBCA_000BCC, 0xBD0, 0xBD7, 0xBE6_000BF2, 0xC00_000C0C, 0xC0E_000C10, 0xC12_000C28,
   0xC2A_000C39, 0xC3D_000C44, 0xC46_000C48, 0xC4A_000C4C, 0xC55_000C56, 0xC58_000C5A,
   0xC5D, 0xC60_000C63, 0xC66_000C6F, 0xC78_000C7E, 0xC80_000C83, 0xC85_000C8C,
   0xC8E_000C90, 0xC92_000CA8, 0xCAA_000CB3, 0xCB5_000CB9, 0xCBD_000CC4, 0xCC6_000CC8,
   0xCCA_000CCC, 0xCD5_000CD6, 0xCDD_000CDE, 0xCE0_000CE3, 0xCE6_000CEF, 0xCF1_000CF3,
   0xD00_000D0C, 0xD0E_000D10, 0xD12_000D3A, 0xD3D_000D44, 0xD46_000D48, 0xD4A_000D4C,
   0xD4E, 0xD54_000D63, 0xD66_000D78, 0xD7A_000D7F, 0xD81_000D83, 0xD85_000D96,
   0xD9A_000DB1, 0xDB3_000DBB, 0xDBD, 0xDC0_000DC6, 0xDCF_000DD4, 0xDD6, 0xDD8_000DDF,
   0xDE6_000DEF, 0xDF2_000DF3, 0xE01_000E3A, 0xE40_000E46, 0xE4D, 0xE50_000E59,
   0xE81_000E82, 0xE84, 0xE86_000E8A, 0xE8C_000EA3, 0xEA5, 0xEA7_000EB9, 0xEBB_000EBD,
   0xEC0_000EC4, 0xEC6, 0xECD, 0xED0_000ED9, 0xEDC_000EDF, 0xF00, 0xF20_000F33,
   0xF40_000F47, 0xF49_000F6C, 0xF71_000F83, 0xF88_000F97, 0xF99_000FBC, 0x1000_001036,
   0x1038, 0x103B_001049, 0x1050_00109D, 0x10A0_0010C5, 0x10C7, 0x10CD, 0x10D0_0010FA,
   0x10FC_001248, 0x124A_00124D, 0x1250_001256, 0x1258, 0x125A_00125D, 0x1260_001288,
   0x128A_00128D, 0x1290_0012B0, 0x12B2_0012B5, 0x12B8_0012BE, 0x12C0, 0x12C2_0012C5,
   0x12C8_0012D6, 0x12D8_001310, 0x1312_001315, 0x1318_00135A, 0x1369_00137C,
   0x1380_00138F, 0x13A0_0013F5, 0x13F8_0013FD, 0x1401_00166C, 0x166F_00167F,
   0x1681_00169A, 0x16A0_0016EA, 0x16EE_0016F8, 0x1700_001713, 0x171F_001733,
   0x1740_001753, 0x1760_00176C, 0x176E_001770, 0x1772_001773, 0x1780_0017B3,
   0x17B6_0017C8, 0x17D7, 0x17DC, 0x17E0_0017E9, 0x17F0_0017F9, 0x1810_001819,
   0x1820_001878, 0x1880_0018AA, 0x18B0_0018F5, 0x1900_00191E, 0x1920_00192B,
   0x1930_001938, 0x1946_00196D, 0x1970_001974, 0x1980_0019AB, 0x19B0_0019C9,
   0x19D0_0019DA, 0x1A00_001A1B, 0x1A20_001A5E, 0x1A61_001A74, 0x1A80_001A89,
   0x1A90_001A99, 0x1AA7, 0x1ABF_001AC0, 0x1ACC_001ACE, 0x1B00_001B33, 0x1B35_001B43,
   0x1B45_001B4C, 0x1B50_001B59, 0x1B80_001BA9, 0x1BAC_001BE5, 0x1BE7_001BF1,
   0x1C00_001C36, 0x1C40_001C49, 0x1C4D_001C7D, 0x1C80_001C88, 0x1C90_001CBA,
   0x1CBD_001CBF, 0x1CE9_001CEC, 0x1CEE_001CF3, 0x1CF5_001CF6, 0x1CFA, 0x1D00_001DBF,
   0x1DE7_001DF4, 0x1E00_001F15, 0x1F18_001F1D, 0x1F20_001F45, 0x1F48_001F4D,
   0x1F50_001F57, 0x1F59, 0x1F5B, 0x1F5D, 0x1F5F_001F7D, 0x1F80_001FB4, 0x1FB6_001FBC,
   0x1FBE, 0x1FC2_001FC4, 0x1FC6_001FCC, 0x1FD0_001FD3, 0x1FD6_001FDB, 0x1FE0_001FEC,
   0x1FF2_001FF4, 0x1FF6_001FFC, 0x2070_002071, 0x2074_002079, 0x207F_002089,
   0x2090_00209C, 0x2102, 0x2107, 0x210A_002113, 0x2115, 0x2119_00211D, 0x2124, 0x2126,
   0x2128, 0x212A_00212D, 0x212F_002139, 0x213C_00213F, 0x2145_002149, 0x214E,
   0x2150_002189, 0x2460_00249B, 0x24B6_0024FF, 0x2776_002793, 0x2C00_002CE4,
   0x2CEB_002CEE, 0x2CF2_002CF3, 0x2CFD, 0x2D00_002D25, 0x2D27, 0x2D2D, 0x2D30_002D67,
   0x2D6F, 0x2D80_002D96, 0x2DA0_002DA6, 0x2DA8_002DAE, 0x2DB0_002DB6, 0x2DB8_002DBE,
   0x2DC0_002DC6, 0x2DC8_002DCE, 0x2DD0_002DD6, 0x2DD8_002DDE, 0x2DE0_002DFF, 0x2E2F,
   0x3005_003007, 0x3021_003029, 0x3031_003035, 0x3038_00303C, 0x3041_003096,
   0x309D_00309F, 0x30A1_0030FA, 0x30FC_0030FF, 0x3105_00312F, 0x3131_00318E,
   0x3192_003195, 0x31A0_0031BF, 0x31F0_0031FF, 0x3220_003229, 0x3248_00324F,
   0x3251_00325F, 0x3280_003289, 0x32B1_0032BF, 0x3400_004DBF, 0x4E00_00A48C,
   0xA4D0_00A4FD, 0xA500_00A60C, 0xA610_00A62B, 0xA640_00A66E, 0xA674_00A67B,
   0xA67F_00A6EF, 0xA717_00A71F, 0xA722_00A788, 0xA78B_00A7CA, 0xA7D0_00A7D1, 0xA7D3,
   0xA7D5_00A7D9, 0xA7F2_00A805, 0xA807_00A827, 0xA830_00A835, 0xA840_00A873,
   0xA880_00A8C3, 0xA8C5, 0xA8D0_00A8D9, 0xA8F2_00A8F7, 0xA8FB, 0xA8FD_00A92A,
   0xA930_00A952, 0xA960_00A97C, 0xA980_00A9B2, 0xA9B4_00A9BF, 0xA9CF_00A9D9,
   0xA9E0_00A9FE, 0xAA00_00AA36, 0xAA40_00AA4D, 0xAA50_00AA59, 0xAA60_00AA76,
   0xAA7A_00AABE, 0xAAC0, 0xAAC2, 0xAADB_00AADD, 0xAAE0_00AAEF, 0xAAF2_00AAF5,
   0xAB01_00AB06, 0xAB09_00AB0E, 0xAB11_00AB16, 0xAB20_00AB26, 0xAB28_00AB2E,
   0xAB30_00AB5A, 0xAB5C_00AB69, 0xAB70_00ABEA, 0xABF0_00ABF9, 0xAC00_00D7A3,
   0xD7B0_00D7C6, 0xD7CB_00D7FB, 0xF900_00FA6D, 0xFA70_00FAD9, 0xFB00_00FB06,
   0xFB13_00FB17, 0xFB1D_00FB28, 0xFB2A_00FB36, 0xFB38_00FB3C, 0xFB3E, 0xFB40_00FB41,
   0xFB43_00FB44, 0xFB46_00FBB1, 0xFBD3_00FD3D, 0xFD50_00FD8F, 0xFD92_00FDC7,
   0xFDF0_00FDFB, 0xFE70_00FE74, 0xFE76_00FEFC, 0xFF10_00FF19, 0xFF21_00FF3A,
   0xFF41_00FF5A, 0xFF66_00FFBE, 0xFFC2_00FFC7, 0xFFCA_00FFCF, 0xFFD2_00FFD7,
   0xFFDA_00FFDC, 0x10000_01000B, 0x1000D_010026, 0x10028_01003A, 0x1003C_01003D,
   0x1003F_01004D, 0x10050_01005D, 0x10080_0100FA, 0x10107_010133, 0x10140_010178,
   0x1018A_01018B, 0x10280_01029C, 0x102A0_0102D0, 0x102E1_0102FB, 0x10300_010323,
   0x1032D_01034A, 0x10350_01037A, 0x10380_01039D, 0x103A0_0103C3, 0x103C8_0103CF,
   0x103D1_0103D5, 0x10400_01049D, 0x104A0_0104A9, 0x104B0_0104D3, 0x104D8_0104FB,
   0x10500_010527, 0x10530_010563, 0x10570_01057A, 0x1057C_01058A, 0x1058C_010592,
   0x10594_010595, 0x10597_0105A1, 0x105A3_0105B1, 0x105B3_0105B9, 0x105BB_0105BC,
   0x10600_010736, 0x10740_010755, 0x10760_010767, 0x10780_010785, 0x10787_0107B0,
   0x107B2_0107BA, 0x10800_010805, 0x10808, 0x1080A_010835, 0x10837_010838, 0x1083C,
   0x1083F_010855, 0x10858_010876, 0x10879_01089E, 0x108A7_0108AF, 0x108E0_0108F2,
   0x108F4_0108F5, 0x108FB_01091B, 0x10920_010939, 0x10980_0109B7, 0x109BC_0109CF,
   0x109D2_010A03, 0x10A05_010A06, 0x10A0C_010A13, 0x10A15_010A17, 0x10A19_010A35,
   0x10A40_010A48, 0x10A60_010A7E, 0x10A80_010A9F, 0x10AC0_010AC7, 0x10AC9_010AE4,
   0x10AEB_010AEF, 0x10B00_010B35, 0x10B40_010B55, 0x10B58_010B72, 0x10B78_010B91,
   0x10BA9_010BAF, 0x10C00_010C48, 0x10C80_010CB2, 0x10CC0_010CF2, 0x10CFA_010D27,
   0x10D30_010D39, 0x10E60_010E7E, 0x10E80_010EA9, 0x10EAB_010EAC, 0x10EB0_010EB1,
   0x10F00_010F27, 0x10F30_010F45, 0x10F51_010F54, 0x10F70_010F81, 0x10FB0_010FCB,
   0x10FE0_010FF6, 0x11000_011045, 0x11052_01106F, 0x11071_011075, 0x11080_0110B8,
   0x110C2, 0x110D0_0110E8, 0x110F0_0110F9, 0x11100_011132, 0x11136_01113F,
   0x11144_011147, 0x11150_011172, 0x11176, 0x11180_0111BF, 0x111C1_0111C4,
   0x111CE_0111DA, 0x111DC, 0x111E1_0111F4, 0x11200_011211, 0x11213_011234, 0x11237,
   0x1123E_011241, 0x11280_011286, 0x11288, 0x1128A_01128D, 0x1128F_01129D,
   0x1129F_0112A8, 0x112B0_0112E8, 0x112F0_0112F9, 0x11300_011303, 0x11305_01130C,
   0x1130F_011310, 0x11313_011328, 0x1132A_011330, 0x11332_011333, 0x11335_011339,
   0x1133D_011344, 0x11347_011348, 0x1134B_01134C, 0x11350, 0x11357, 0x1135D_011363,
   0x11400_011441, 0x11443_011445, 0x11447_01144A, 0x11450_011459, 0x1145F_011461,
   0x11480_0114C1, 0x114C4_0114C5, 0x114C7, 0x114D0_0114D9, 0x11580_0115B5,
   0x115B8_0115BE, 0x115D8_0115DD, 0x11600_01163E, 0x11640, 0x11644, 0x11650_011659,
   0x11680_0116B5, 0x116B8, 0x116C0_0116C9, 0x11700_01171A, 0x1171D_01172A,
   0x11730_01173B, 0x11740_011746, 0x11800_011838, 0x118A0_0118F2, 0x118FF_011906,
   0x11909, 0x1190C_011913, 0x11915_011916, 0x11918_011935, 0x11937_011938,
   0x1193B_01193C, 0x1193F_011942, 0x11950_011959, 0x119A0_0119A7, 0x119AA_0119D7,
   0x119DA_0119DF, 0x119E1, 0x119E3_0119E4, 0x11A00_011A32, 0x11A35_011A3E,
   0x11A50_011A97, 0x11A9D, 0x11AB0_011AF8, 0x11C00_011C08, 0x11C0A_011C36,
   0x11C38_011C3E, 0x11C40, 0x11C50_011C6C, 0x11C72_011C8F, 0x11C92_011CA7,
   0x11CA9_011CB6, 0x11D00_011D06, 0x11D08_011D09, 0x11D0B_011D36, 0x11D3A,
   0x11D3C_011D3D, 0x11D3F_011D41, 0x11D43, 0x11D46_011D47, 0x11D50_011D59,
   0x11D60_011D65, 0x11D67_011D68, 0x11D6A_011D8E, 0x11D90_011D91, 0x11D93_011D96,
   0x11D98, 0x11DA0_011DA9, 0x11EE0_011EF6, 0x11F00_011F10, 0x11F12_011F3A,
   0x11F3E_011F40, 0x11F50_011F59, 0x11FB0, 0x11FC0_011FD4, 0x12000_012399,
   0x12400_01246E, 0x12480_012543, 0x12F90_012FF0, 0x13000_01342F, 0x13441_013446,
   0x14400_014646, 0x16800_016A38, 0x16A40_016A5E, 0x16A60_016A69, 0x16A70_016ABE,
   0x16AC0_016AC9, 0x16AD0_016AED, 0x16B00_016B2F, 0x16B40_016B43, 0x16B50_016B59,
   0x16B5B_016B61, 0x16B63_016B77, 0x16B7D_016B8F, 0x16E40_016E96, 0x16F00_016F4A,
   0x16F4F_016F87, 0x16F8F_016F9F, 0x16FE0_016FE1, 0x16FE3, 0x16FF0_016FF1,
   0x17000_0187F7, 0x18800_018CD5, 0x18D00_018D08, 0x1AFF0_01AFF3, 0x1AFF5_01AFFB,
   0x1AFFD_01AFFE, 0x1B000_01B122, 0x1B132, 0x1B150_01B152, 0x1B155, 0x1B164_01B167,
   0x1B170_01B2FB, 0x1BC00_01BC6A, 0x1BC70_01BC7C, 0x1BC80_01BC88, 0x1BC90_01BC99,
   0x1BC9E, 0x1D2C0_01D2D3, 0x1D2E0_01D2F3, 0x1D360_01D378, 0x1D400_01D454,
   0x1D456_01D49C, 0x1D49E_01D49F, 0x1D4A2, 0x1D4A5_01D4A6, 0x1D4A9_01D4AC,
   0x1D4AE_01D4B9, 0x1D4BB, 0x1D4BD_01D4C3, 0x1D4C5_01D505, 0x1D507_01D50A,
   0x1D50D_01D514, 0x1D516_01D51C, 0x1D51E_01D539, 0x1D53B_01D53E, 0x1D540_01D544,
   0x1D546, 0x1D54A_01D550, 0x1D552_01D6A5, 0x1D6A8_01D6C0, 0x1D6C2_01D6DA,
   0x1D6DC_01D6FA, 0x1D6FC_01D714, 0x1D716_01D734, 0x1D736_01D74E, 0x1D750_01D76E,
   0x1D770_01D788, 0x1D78A_01D7A8, 0x1D7AA_01D7C2, 0x1D7C4_01D7CB, 0x1D7CE_01D7FF,
   0x1DF00_01DF1E, 0x1DF25_01DF2A, 0x1E000_01E006, 0x1E008_01E018, 0x1E01B_01E021,
   0x1E023_01E024, 0x1E026_01E02A, 0x1E030_01E06D, 0x1E08F, 0x1E100_01E12C,
   0x1E137_01E13D, 0x1E140_01E149, 0x1E14E, 0x1E290_01E2AD, 0x1E2C0_01E2EB,
   0x1E2F0_01E2F9, 0x1E4D0_01E4EB, 0x1E4F0_01E4F9, 0x1E7E0_01E7E6, 0x1E7E8_01E7EB,
   0x1E7ED_01E7EE, 0x1E7F0_01E7FE, 0x1E800_01E8C4, 0x1E8C7_01E8CF, 0x1E900_01E943,
   0x1E947, 0x1E94B, 0x1E950_01E959, 0x1EC71_01ECAB, 0x1ECAD_01ECAF, 0x1ECB1_01ECB4,
   0x1ED01_01ED2D, 0x1ED2F_01ED3D, 0x1EE00_01EE03, 0x1EE05_01EE1F, 0x1EE21_01EE22,
   0x1EE24, 0x1EE27, 0x1EE29_01EE32, 0x1EE34_01EE37, 0x1EE39, 0x1EE3B, 0x1EE42, 0x1EE47,
   0x1EE49, 0x1EE4B, 0x1EE4D_01EE4F, 0x1EE51_01EE52, 0x1EE54, 0x1EE57, 0x1EE59, 0x1EE5B,
   0x1EE5D, 0x1EE5F, 0x1EE61_01EE62, 0x1EE64, 0x1EE67_01EE6A, 0x1EE6C_01EE72,
   0x1EE74_01EE77, 0x1EE79_01EE7C, 0x1EE7E, 0x1EE80_01EE89, 0x1EE8B_01EE9B,
   0x1EEA1_01EEA3, 0x1EEA5_01EEA9, 0x1EEAB_01EEBB, 0x1F100_01F10C, 0x1F130_01F149,
   0x1F150_01F169, 0x1F170_01F189, 0x1FBF0_01FBF9, 0x20000_02A6DF, 0x2A700_02B739,
   0x2B740_02B81D, 0x2B820_02CEA1, 0x2CEB0_02EBE0, 0x2F800_02FA1D, 0x30000_03134A,
   0x31350_0323AF]

/-- Whether a character is alphabetic or numeric. -/
def isAlphanumeric (c : Char) : Bool :=
  if c.toNat < 0x80 then c.isAlphanum else Range.holds alphanumericRanges c

end CredRelay.Unicode
