import CredRelay.Unicode.Range
/-! Canonical compositions, decompositions and combining classes, without the Hangul
syllables, which follow from arithmetic. What a pair makes is decomposed into that pair
again; a decomposition of its own, given in full, stands only where the parts do not
compose. -/
namespace CredRelay.Unicode

/-- The combining classes other than zero. -/
def combiningClasses : List (Range × Nat) := Range.shifts
  [0x300_000314_0000E6, 0x315_0000E8, 0x316_000319_0000DC, 0x31A_0000E8, 0x31B_0000D8,
   0x31C_000320_0000DC, 0x321_000322_0000CA, 0x323_000326_0000DC, 0x327_000328_0000CA,
   0x329_000333_0000DC, 0x334_000338_000001, 0x339_00033C_0000DC, 0x33D_000344_0000E6,
   0x345_0000F0, 0x346_0000E6, 0x347_000349_0000DC, 0x34A_00034C_0000E6,
   0x34D_00034E_0000DC, 0x350_000352_0000E6, 0x353_000356_0000DC, 0x357_0000E6,
   0x358_0000E8, 0x359_00035A_0000DC, 0x35B_0000E6, 0x35C_0000E9, 0x35D_00035E_0000EA,
   0x35F_0000E9, 0x360_000361_0000EA, 0x362_0000E9, 0x363_00036F_0000E6,
   0x483_000487_0000E6, 0x591_0000DC, 0x592_000595_0000E6, 0x596_0000DC,
   0x597_000599_0000E6, 0x59A_0000DE, 0x59B_0000DC, 0x59C_0005A1_0000E6,
   0x5A2_0005A7_0000DC, 0x5A8_0005A9_0000E6, 0x5AA_0000DC, 0x5AB_0005AC_0000E6,
   0x5AD_0000DE, 0x5AE_0000E4, 0x5AF_0000E6, 0x5B0_00000A, 0x5B1_00000B, 0x5B2_00000C,
   0x5B3_00000D, 0x5B4_00000E, 0x5B5_00000F, 0x5B6_000010, 0x5B7_000011, 0x5B8_000012,
   0x5B9_0005BA_000013, 0x5BB_000014, 0x5BC_000015, 0x5BD_000016, 0x5BF_000017,
   0x5C1_000018, 0x5C2_000019, 0x5C4_0000E6, 0x5C5_0000DC, 0x5C7_000012,
   0x610_000617_0000E6, 0x618_00001E, 0x619_00001F, 0x61A_000020, 0x64B_00001B,
   0x64C_00001C, 0x64D_00001D, 0x64E_00001E, 0x64F_00001F, 0x650_000020, 0x651_000021,
   0x652_000022, 0x653_000654_0000E6, 0x655_000656_0000DC, 0x657_00065B_0000E6,
   0x65C_0000DC, 0x65D_00065E_0000E6, 0x65F_0000DC, 0x670_000023, 0x6D6_0006DC_0000E6,
   0x6DF_0006E2_0000E6, 0x6E3_0000DC, 0x6E4_0000E6, 0x6E7_0006E8_0000E6, 0x6EA_0000DC,
   0x6EB_0006EC_0000E6, 0x6ED_0000DC, 0x711_000024, 0x730_0000E6, 0x731_0000DC,
   0x732_000733_0000E6, 0x734_0000DC, 0x735_000736_0000E6, 0x737_000739_0000DC,
   0x73A_0000E6, 0x73B_00073C_0000DC, 0x73D_0000E6, 0x73E_0000DC, 0x73F_000741_0000E6,
   0x742_0000DC, 0x743_0000E6, 0x744_0000DC, 0x745_0000E6, 0x746_0000DC, 0x747_0000E6,
   0x748_0000DC, 0x749_00074A_0000E6, 0x7EB_0007F1_0000E6, 0x7F2_0000DC, 0x7F3_0000E6,
   0x7FD_0000DC, 0x816_000819_0000E6, 0x81B_000823_0000E6, 0x825_000827_0000E6,
   0x829_00082D_0000E6, 0x859_00085B_0000DC, 0x898_0000E6, 0x899_00089B_0000DC,
   0x89C_00089F_0000E6, 0x8CA_0008CE_0000E6, 0x8CF_0008D3_0000DC, 0x8D4_0008E1_0000E6,
   0x8E3_0000DC, 0x8E4_0008E5_0000E6, 0x8E6_0000DC, 0x8E7_0008E8_0000E6, 0x8E9_0000DC,
   0x8EA_0008EC_0000E6, 0x8ED_0008EF_0000DC, 0x8F0_00001B, 0x8F1_00001C, 0x8F2_00001D,
   0x8F3_0008F5_0000E6, 0x8F6_0000DC, 0x8F7_0008F8_0000E6, 0x8F9_0008FA_0000DC,
   0x8FB_0008FF_0000E6, 0x93C_000007, 0x94D_000009, 0x951_0000E6, 0x952_0000DC,
   0x953_000954_0000E6, 0x9BC_000007, 0x9CD_000009, 0x9FE_0000E6, 0xA3C_000007,
   0xA4D_000009, 0xABC_000007, 0xACD_000009, 0xB3C_000007, 0xB4D_000009, 0xBCD_000009,
   0xC3C_000007, 0xC4D_000009, 0xC55_000054, 0xC56_00005B, 0xCBC_000007, 0xCCD_000009,
   0xD3B_000D3C_000009, 0xD4D_000009, 0xDCA_000009, 0xE38_000E39_000067, 0xE3A_000009,
   0xE48_000E4B_00006B, 0xEB8_000EB9_000076, 0xEBA_000009, 0xEC8_000ECB_00007A,
   0xF18_000F19_0000DC, 0xF35_0000DC, 0xF37_0000DC, 0xF39_0000D8, 0xF71_000081,
   0xF72_000082, 0xF74_000084, 0xF7A_000F7D_000082, 0xF80_000082, 0xF82_000F83_0000E6,
   0xF84_000009, 0xF86_000F87_0000E6, 0xFC6_0000DC, 0x1037_000007, 0x1039_00103A_000009,
   0x108D_0000DC, 0x135D_00135F_0000E6, 0x1714_001715_000009, 0x1734_000009,
   0x17D2_000009, 0x17DD_0000E6, 0x18A9_0000E4, 0x1939_0000DE, 0x193A_0000E6,
   0x193B_0000DC, 0x1A17_0000E6, 0x1A18_0000DC, 0x1A60_000009, 0x1A75_001A7C_0000E6,
   0x1A7F_0000DC, 0x1AB0_001AB4_0000E6, 0x1AB5_001ABA_0000DC, 0x1ABB_001ABC_0000E6,
   0x1ABD_0000DC, 0x1ABF_001AC0_0000DC, 0x1AC1_001AC2_0000E6, 0x1AC3_001AC4_0000DC,
   0x1AC5_001AC9_0000E6, 0x1ACA_0000DC, 0x1ACB_001ACE_0000E6, 0x1B34_000007,
   0x1B44_000009, 0x1B6B_0000E6, 0x1B6C_0000DC, 0x1B6D_001B73_0000E6,
   0x1BAA_001BAB_000009, 0x1BE6_000007, 0x1BF2_001BF3_000009, 0x1C37_000007,
   0x1CD0_001CD2_0000E6, 0x1CD4_000001, 0x1CD5_001CD9_0000DC, 0x1CDA_001CDB_0000E6,
   0x1CDC_001CDF_0000DC, 0x1CE0_0000E6, 0x1CE2_001CE8_000001, 0x1CED_0000DC,
   0x1CF4_0000E6, 0x1CF8_001CF9_0000E6, 0x1DC0_001DC1_0000E6, 0x1DC2_0000DC,
   0x1DC3_001DC9_0000E6, 0x1DCA_0000DC, 0x1DCB_001DCC_0000E6, 0x1DCD_0000EA,
   0x1DCE_0000D6, 0x1DCF_0000DC, 0x1DD0_0000CA, 0x1DD1_001DF5_0000E6, 0x1DF6_0000E8,
   0x1DF7_001DF8_0000E4, 0x1DF9_0000DC, 0x1DFA_0000DA, 0x1DFB_0000E6, 0x1DFC_0000E9,
   0x1DFD_0000DC, 0x1DFE_0000E6, 0x1DFF_0000DC, 0x20D0_0020D1_0000E6,
   0x20D2_0020D3_000001, 0x20D4_0020D7_0000E6, 0x20D8_0020DA_000001, 0x20DB_0020DC_0000E6,
   0x20E1_0000E6, 0x20E5_0020E6_000001, 0x20E7_0000E6, 0x20E8_0000DC, 0x20E9_0000E6,
   0x20EA_0020EB_000001, 0x20EC_0020EF_0000DC, 0x20F0_0000E6, 0x2CEF_002CF1_0000E6,
   0x2D7F_000009, 0x2DE0_002DFF_0000E6, 0x302A_0000DA, 0x302B_0000E4, 0x302C_0000E8,
   0x302D_0000DE, 0x302E_00302F_0000E0, 0x3099_00309A_000008, 0xA66F_0000E6,
   0xA674_00A67D_0000E6, 0xA69E_00A69F_0000E6, 0xA6F0_00A6F1_0000E6, 0xA806_000009,
   0xA82C_000009, 0xA8C4_000009, 0xA8E0_00A8F1_0000E6, 0xA92B_00A92D_0000DC,
   0xA953_000009, 0xA9B3_000007, 0xA9C0_000009, 0xAAB0_0000E6, 0xAAB2_00AAB3_0000E6,
   0xAAB4_0000DC, 0xAAB7_00AAB8_0000E6, 0xAABE_00AABF_0000E6, 0xAAC1_0000E6,
   0xAAF6_000009, 0xABED_000009, 0xFB1E_00001A, 0xFE20_00FE26_0000E6,
   0xFE27_00FE2D_0000DC, 0xFE2E_00FE2F_0000E6, 0x101FD_0000DC, 0x102E0_0000DC,
   0x10376_01037A_0000E6, 0x10A0D_0000DC, 0x10A0F_0000E6, 0x10A38_0000E6, 0x10A39_000001,
   0x10A3A_0000DC, 0x10A3F_000009, 0x10AE5_0000E6, 0x10AE6_0000DC, 0x10D24_010D27_0000E6,
   0x10EAB_010EAC_0000E6, 0x10EFD_010EFF_0000DC, 0x10F46_010F47_0000DC,
   0x10F48_010F4A_0000E6, 0x10F4B_0000DC, 0x10F4C_0000E6, 0x10F4D_010F50_0000DC,
   0x10F82_0000E6, 0x10F83_0000DC, 0x10F84_0000E6, 0x10F85_0000DC, 0x11046_000009,
   0x11070_000009, 0x1107F_000009, 0x110B9_000009, 0x110BA_000007, 0x11100_011102_0000E6,
   0x11133_011134_000009, 0x11173_000007, 0x111C0_000009, 0x111CA_000007, 0x11235_000009,
   0x11236_000007, 0x112E9_000007, 0x112EA_000009, 0x1133B_01133C_000007, 0x1134D_000009,
   0x11366_01136C_0000E6, 0x11370_011374_0000E6, 0x11442_000009, 0x11446_000007,
   0x1145E_0000E6, 0x114C2_000009, 0x114C3_000007, 0x115BF_000009, 0x115C0_000007,
   0x1163F_000009, 0x116B6_000009, 0x116B7_000007, 0x1172B_000009, 0x11839_000009,
   0x1183A_000007, 0x1193D_01193E_000009, 0x11943_000007, 0x119E0_000009, 0x11A34_000009,
   0x11A47_000009, 0x11A99_000009, 0x11C3F_000009, 0x11D42_000007, 0x11D44_011D45_000009,
   0x11D97_000009, 0x11F41_011F42_000009, 0x16AF0_016AF4_000001, 0x16B30_016B36_0000E6,
   0x16FF0_016FF1_000006, 0x1BC9E_000001, 0x1D165_01D166_0000D8, 0x1D167_01D169_000001,
   0x1D16D_0000E2, 0x1D16E_01D172_0000D8, 0x1D17B_01D182_0000DC, 0x1D185_01D189_0000E6,
   0x1D18A_01D18B_0000DC, 0x1D1AA_01D1AD_0000E6, 0x1D242_01D244_0000E6,
   0x1E000_01E006_0000E6, 0x1E008_01E018_0000E6, 0x1E01B_01E021_0000E6,
   0x1E023_01E024_0000E6, 0x1E026_01E02A_0000E6, 0x1E08F_0000E6, 0x1E130_01E136_0000E6,
   0x1E2AE_0000E6, 0x1E2EC_01E2EF_0000E6, 0x1E4EC_01E4ED_0000E8, 0x1E4EE_0000DC,
   0x1E4EF_0000E6, 0x1E8D0_01E8D6_0000DC, 0x1E944_01E949_0000E6, 0x1E94A_000007]

set_option maxRecDepth 20000 in
/-- The decompositions of characters that no pair makes. -/
def decompositions : List (Nat × List Nat) := expansions
  [0x340_000300, 0x341_000301, 0x343_000313, 0x344_000308_000301, 0x374_0002B9,
  0x37E_00003B,
   0x387_0000B7, 0x958_000915_00093C, 0x959_000916_00093C, 0x95A_000917_00093C,
   0x95B_00091C_00093C, 0x95C_000921_00093C, 0x95D_000922_00093C, 0x95E_00092B_00093C,
   0x95F_00092F_00093C, 0x9DC_0009A1_0009BC, 0x9DD_0009A2_0009BC, 0x9DF_0009AF_0009BC,
   0xA33_000A32_000A3C, 0xA36_000A38_000A3C, 0xA59_000A16_000A3C, 0xA5A_000A17_000A3C,
   0xA5B_000A1C_000A3C, 0xA5E_000A2B_000A3C, 0xB5C_000B21_000B3C, 0xB5D_000B22_000B3C,
   0xF43_000F42_000FB7, 0xF4D_000F4C_000FB7, 0xF52_000F51_000FB7, 0xF57_000F56_000FB7,
   0xF5C_000F5B_000FB7, 0xF69_000F40_000FB5, 0xF73_000F71_000F72, 0xF75_000F71_000F74,
   0xF76_000FB2_000F80, 0xF78_000FB3_000F80, 0xF81_000F71_000F80, 0xF93_000F92_000FB7,
   0xF9D_000F9C_000FB7, 0xFA2_000FA1_000FB7, 0xFA7_000FA6_000FB7, 0xFAC_000FAB_000FB7,
   0xFB9_000F90_000FB5, 0x1F71_0003B1_000301, 0x1F73_0003B5_000301, 0x1F75_0003B7_000301,
   0x1F77_0003B9_000301, 0x1F79_0003BF_000301, 0x1F7B_0003C5_000301,
   0x1F7D_0003C9_000301, 0x1FBB_000391_000301, 0x1FBE_0003B9, 0x1FC9_000395_000301,
   0x1FCB_000397_000301, 0x1FD3_0003B9_000308_000301, 0x1FDB_000399_000301,
   0x1FE3_0003C5_000308_000301, 0x1FEB_0003A5_000301, 0x1FEE_0000A8_000301,
   0x1FEF_000060, 0x1FF9_00039F_000301, 0x1FFB_0003A9_000301, 0x1FFD_0000B4,
   0x2000_002002, 0x2001_002003, 0x2126_0003A9, 0x212A_00004B, 0x212B_000041_00030A,
   0x2329_003008, 0x232A_003009, 0x2ADC_002ADD_000338, 0xF900_008C48, 0xF901_0066F4,
   0xF902_008ECA, 0xF903_008CC8, 0xF904_006ED1, 0xF905_004E32, 0xF906_0053E5,
   0xF907_009F9C, 0xF908_009F9C, 0xF909_005951, 0xF90A_0091D1, 0xF90B_005587,
   0xF90C_005948, 0xF90D_0061F6, 0xF90E_007669, 0xF90F_007F85, 0xF910_00863F,
   0xF911_0087BA, 0xF912_0088F8, 0xF913_00908F, 0xF914_006A02, 0xF915_006D1B,
   0xF916_0070D9, 0xF917_0073DE, 0xF918_00843D, 0xF919_00916A, 0xF91A_0099F1,
   0xF91B_004E82, 0xF91C_005375, 0xF91D_006B04, 0xF91E_00721B, 0xF91F_00862D,
   0xF920_009E1E, 0xF921_005D50, 0xF922_006FEB, 0xF923_0085CD, 0xF924_008964,
   0xF925_0062C9, 0xF926_0081D8, 0xF927_00881F, 0xF928_005ECA, 0xF929_006717,
   0xF92A_006D6A, 0xF92B_0072FC, 0xF92C_0090CE, 0xF92D_004F86, 0xF92E_0051B7,
   0xF92F_0052DE, 0xF930_0064C4, 0xF931_006AD3, 0xF932_007210, 0xF933_0076E7,
   0xF934_008001, 0xF935_008606, 0xF936_00865C, 0xF937_008DEF, 0xF938_009732,
   0xF939_009B6F, 0xF93A_009DFA, 0xF93B_00788C, 0xF93C_00797F, 0xF93D_007DA0,
   0xF93E_0083C9, 0xF93F_009304, 0xF940_009E7F, 0xF941_008AD6, 0xF942_0058DF,
   0xF943_005F04, 0xF944_007C60, 0xF945_00807E, 0xF946_007262, 0xF947_0078CA,
   0xF948_008CC2, 0xF949_0096F7, 0xF94A_0058D8, 0xF94B_005C62, 0xF94C_006A13,
   0xF94D_006DDA, 0xF94E_006F0F, 0xF94F_007D2F, 0xF950_007E37, 0xF951_00964B,
   0xF952_0052D2, 0xF953_00808B, 0xF954_0051DC, 0xF955_0051CC, 0xF956_007A1C,
   0xF957_007DBE, 0xF958_0083F1, 0xF959_009675, 0xF95A_008B80, 0xF95B_0062CF,
   0xF95C_006A02, 0xF95D_008AFE, 0xF95E_004E39, 0xF95F_005BE7, 0xF960_006012,
   0xF961_007387, 0xF962_007570, 0xF963_005317, 0xF964_0078FB, 0xF965_004FBF,
   0xF966_005FA9, 0xF967_004E0D, 0xF968_006CCC, 0xF969_006578, 0xF96A_007D22,
   0xF96B_0053C3, 0xF96C_00585E, 0xF96D_007701, 0xF96E_008449, 0xF96F_008AAA,
   0xF970_006BBA, 0xF971_008FB0, 0xF972_006C88, 0xF973_0062FE, 0xF974_0082E5,
   0xF975_0063A0, 0xF976_007565, 0xF977_004EAE, 0xF978_005169, 0xF979_0051C9,
   0xF97A_006881, 0xF97B_007CE7, 0xF97C_00826F, 0xF97D_008AD2, 0xF97E_0091CF,
   0xF97F_0052F5, 0xF980_005442, 0xF981_005973, 0xF982_005EEC, 0xF983_0065C5,
   0xF984_006FFE, 0xF985_00792A, 0xF986_0095AD, 0xF987_009A6A, 0xF988_009E97,
   0xF989_009ECE, 0xF98A_00529B, 0xF98B_0066C6, 0xF98C_006B77, 0xF98D_008F62,
   0xF98E_005E74, 0xF98F_006190, 0xF990_006200, 0xF991_00649A, 0xF992_006F23,
   0xF993_007149, 0xF994_007489, 0xF995_0079CA, 0xF996_007DF4, 0xF997_00806F,
   0xF998_008F26, 0xF999_0084EE, 0xF99A_009023, 0xF99B_00934A, 0xF99C_005217,
   0xF99D_0052A3, 0xF99E_0054BD, 0xF99F_0070C8, 0xF9A0_0088C2, 0xF9A1_008AAA,
   0xF9A2_005EC9, 0xF9A3_005FF5, 0xF9A4_00637B, 0xF9A5_006BAE, 0xF9A6_007C3E,
   0xF9A7_007375, 0xF9A8_004EE4, 0xF9A9_0056F9, 0xF9AA_005BE7, 0xF9AB_005DBA,
   0xF9AC_00601C, 0xF9AD_0073B2, 0xF9AE_007469, 0xF9AF_007F9A, 0xF9B0_008046,
   0xF9B1_009234, 0xF9B2_0096F6, 0xF9B3_009748, 0xF9B4_009818, 0xF9B5_004F8B,
   0xF9B6_0079AE, 0xF9B7_0091B4, 0xF9B8_0096B8, 0xF9B9_0060E1, 0xF9BA_004E86,
   0xF9BB_0050DA, 0xF9BC_005BEE, 0xF9BD_005C3F, 0xF9BE_006599, 0xF9BF_006A02,
   0xF9C0_0071CE, 0xF9C1_007642, 0xF9C2_0084FC, 0xF9C3_00907C, 0xF9C4_009F8D,
   0xF9C5_006688, 0xF9C6_00962E, 0xF9C7_005289, 0xF9C8_00677B, 0xF9C9_0067F3,
   0xF9CA_006D41, 0xF9CB_006E9C, 0xF9CC_007409, 0xF9CD_007559, 0xF9CE_00786B,
   0xF9CF_007D10, 0xF9D0_00985E, 0xF9D1_00516D, 0xF9D2_00622E, 0xF9D3_009678,
   0xF9D4_00502B, 0xF9D5_005D19, 0xF9D6_006DEA, 0xF9D7_008F2A, 0xF9D8_005F8B,
   0xF9D9_006144, 0xF9DA_006817, 0xF9DB_007387, 0xF9DC_009686, 0xF9DD_005229,
   0xF9DE_00540F, 0xF9DF_005C65, 0xF9E0_006613, 0xF9E1_00674E, 0xF9E2_0068A8,
   0xF9E3_006CE5, 0xF9E4_007406, 0xF9E5_0075E2, 0xF9E6_007F79, 0xF9E7_0088CF,
   0xF9E8_0088E1, 0xF9E9_0091CC, 0xF9EA_0096E2, 0xF9EB_00533F, 0xF9EC_006EBA,
   0xF9ED_00541D, 0xF9EE_0071D0, 0xF9EF_007498, 0xF9F0_0085FA, 0xF9F1_0096A3,
   0xF9F2_009C57, 0xF9F3_009E9F, 0xF9F4_006797, 0xF9F5_006DCB, 0xF9F6_0081E8,
   0xF9F7_007ACB, 0xF9F8_007B20, 0xF9F9_007C92, 0xF9FA_0072C0, 0xF9FB_007099,
   0xF9FC_008B58, 0xF9FD_004EC0, 0xF9FE_008336, 0xF9FF_00523A, 0xFA00_005207,
   0xFA01_005EA6, 0xFA02_0062D3, 0xFA03_007CD6, 0xFA04_005B85, 0xFA05_006D1E,
   0xFA06_0066B4, 0xFA07_008F3B, 0xFA08_00884C, 0xFA09_00964D, 0xFA0A_00898B,
   0xFA0B_005ED3, 0xFA0C_005140, 0xFA0D_0055C0, 0xFA10_00585A, 0xFA12_006674,
   0xFA15_0051DE, 0xFA16_00732A, 0xFA17_0076CA, 0xFA18_00793C, 0xFA19_00795E,
   0xFA1A_007965, 0xFA1B_00798F, 0xFA1C_009756, 0xFA1D_007CBE, 0xFA1E_007FBD,
   0xFA20_008612, 0xFA22_008AF8, 0xFA25_009038, 0xFA26_0090FD, 0xFA2A_0098EF,
   0xFA2B_0098FC, 0xFA2C_009928, 0xFA2D_009DB4, 0xFA2E_0090DE, 0xFA2F_0096B7,
   0xFA30_004FAE, 0xFA31_0050E7, 0xFA32_00514D, 0xFA33_0052C9, 0xFA34_0052E4,
   0xFA35_005351, 0xFA36_00559D, 0xFA37_005606, 0xFA38_005668, 0xFA39_005840,
   0xFA3A_0058A8, 0xFA3B_005C64, 0xFA3C_005C6E, 0xFA3D_006094, 0xFA3E_006168,
   0xFA3F_00618E, 0xFA40_0061F2, 0xFA41_00654F, 0xFA42_0065E2, 0xFA43_006691,
   0xFA44_006885, 0xFA45_006D77, 0xFA46_006E1A, 0xFA47_006F22, 0xFA48_00716E,
   0xFA49_00722B, 0xFA4A_007422, 0xFA4B_007891, 0xFA4C_00793E, 0xFA4D_007949,
   0xFA4E_007948, 0xFA4F_007950, 0xFA50_007956, 0xFA51_00795D, 0xFA52_00798D,
   0xFA53_00798E, 0xFA54_007A40, 0xFA55_007A81, 0xFA56_007BC0, 0xFA57_007DF4,
   0xFA58_007E09, 0xFA59_007E41, 0xFA5A_007F72, 0xFA5B_008005, 0xFA5C_0081ED,
   0xFA5D_008279, 0xFA5E_008279, 0xFA5F_008457, 0xFA60_008910, 0xFA61_008996,
   0xFA62_008B01, 0xFA63_008B39, 0xFA64_008CD3, 0xFA65_008D08, 0xFA66_008FB6,
   0xFA67_009038, 0xFA68_0096E3, 0xFA69_0097FF, 0xFA6A_00983B, 0xFA6B_006075,
   0xFA6C_0242EE, 0xFA6D_008218, 0xFA70_004E26, 0xFA71_0051B5, 0xFA72_005168,
   0xFA73_004F80, 0xFA74_005145, 0xFA75_005180, 0xFA76_0052C7, 0xFA77_0052FA,
   0xFA78_00559D, 0xFA79_005555, 0xFA7A_005599, 0xFA7B_0055E2, 0xFA7C_00585A,
   0xFA7D_0058B3, 0xFA7E_005944, 0xFA7F_005954, 0xFA80_005A62, 0xFA81_005B28,
   0xFA82_005ED2, 0xFA83_005ED9, 0xFA84_005F69, 0xFA85_005FAD, 0xFA86_0060D8,
   0xFA87_00614E, 0xFA88_006108, 0xFA89_00618E, 0xFA8A_006160, 0xFA8B_0061F2,
   0xFA8C_006234, 0xFA8D_0063C4, 0xFA8E_00641C, 0xFA8F_006452, 0xFA90_006556,
   0xFA91_006674, 0xFA92_006717, 0xFA93_00671B, 0xFA94_006756, 0xFA95_006B79,
   0xFA96_006BBA, 0xFA97_006D41, 0xFA98_006EDB, 0xFA99_006ECB, 0xFA9A_006F22,
   0xFA9B_00701E, 0xFA9C_00716E, 0xFA9D_0077A7, 0xFA9E_007235, 0xFA9F_0072AF,
   0xFAA0_00732A, 0xFAA1_007471, 0xFAA2_007506, 0xFAA3_00753B, 0xFAA4_00761D,
   0xFAA5_00761F, 0xFAA6_0076CA, 0xFAA7_0076DB, 0xFAA8_0076F4, 0xFAA9_00774A,
   0xFAAA_007740, 0xFAAB_0078CC, 0xFAAC_007AB1, 0xFAAD_007BC0, 0xFAAE_007C7B,
   0xFAAF_007D5B, 0xFAB0_007DF4, 0xFAB1_007F3E, 0xFAB2_008005, 0xFAB3_008352,
   0xFAB4_0083EF, 0xFAB5_008779, 0xFAB6_008941, 0xFAB7_008986, 0xFAB8_008996,
   0xFAB9_008ABF, 0xFABA_008AF8, 0xFABB_008ACB, 0xFABC_008B01, 0xFABD_008AFE,
   0xFABE_008AED, 0xFABF_008B39, 0xFAC0_008B8A, 0xFAC1_008D08, 0xFAC2_008F38,
   0xFAC3_009072, 0xFAC4_009199, 0xFAC5_009276, 0xFAC6_00967C, 0xFAC7_0096E3,
   0xFAC8_009756, 0xFAC9_0097DB, 0xFACA_0097FF, 0xFACB_00980B, 0xFACC_00983B,
   0xFACD_009B12, 0xFACE_009F9C, 0xFACF_02284A, 0xFAD0_022844, 0xFAD1_0233D5,
   0xFAD2_003B9D, 0xFAD3_004018, 0xFAD4_004039, 0xFAD5_025249, 0xFAD6_025CD0,
   0xFAD7_027ED3, 0xFAD8_009F43, 0xFAD9_009F8E, 0xFB1D_0005D9_0005B4,
   0xFB1F_0005F2_0005B7, 0xFB2A_0005E9_0005C1, 0xFB2B_0005E9_0005C2,
   0xFB2C_0005E9_0005BC_0005C1, 0xFB2D_0005E9_0005BC_0005C2, 0xFB2E_0005D0_0005B7,
   0xFB2F_0005D0_0005B8, 0xFB30_0005D0_0005BC, 0xFB31_0005D1_0005BC,
   0xFB32_0005D2_0005BC, 0xFB33_0005D3_0005BC, 0xFB34_0005D4_0005BC,
   0xFB35_0005D5_0005BC, 0xFB36_0005D6_0005BC, 0xFB38_0005D8_0005BC, 0xFB39_0005D9_0005BC,
   0xFB3A_0005DA_0005BC, 0xFB3B_0005DB_0005BC, 0xFB3C_0005DC_0005BC, 0xFB3E_0005DE_0005BC,
   0xFB40_0005E0_0005BC, 0xFB41_0005E1_0005BC, 0xFB43_0005E3_0005BC, 0xFB44_0005E4_0005BC,
   0xFB46_0005E6_0005BC, 0xFB47_0005E7_0005BC, 0xFB48_0005E8_0005BC, 0xFB49_0005E9_0005BC,
   0xFB4A_0005EA_0005BC, 0xFB4B_0005D5_0005B9, 0xFB4C_0005D1_0005BF, 0xFB4D_0005DB_0005BF,
   0xFB4E_0005E4_0005BF, 0x1D15E_01D157_01D165, 0x1D15F_01D158_01D165,
   0x1D160_01D158_01D165_01D16E, 0x1D161_01D158_01D165_01D16F,
   0x1D162_01D158_01D165_01D170, 0x1D163_01D158_01D165_01D171,
   0x1D164_01D158_01D165_01D172, 0x1D1BB_01D1B9_01D165, 0x1D1BC_01D1BA_01D165,
   0x1D1BD_01D1B9_01D165_01D16E, 0x1D1BE_01D1BA_01D165_01D16E,
   0x1D1BF_01D1B9_01D165_01D16F, 0x1D1C0_01D1BA_01D165_01D16F, 0x2F800_004E3D,
   0x2F801_004E38, 0x2F802_004E41, 0x2F803_020122, 0x2F804_004F60, 0x2F805_004FAE,
   0x2F806_004FBB, 0x2F807_005002, 0x2F808_00507A, 0x2F809_005099, 0x2F80A_0050E7,
   0x2F80B_0050CF, 0x2F80C_00349E, 0x2F80D_02063A, 0x2F80E_00514D, 0x2F80F_005154,
   0x2F810_005164, 0x2F811_005177, 0x2F812_02051C, 0x2F813_0034B9, 0x2F814_005167,
   0x2F815_00518D, 0x2F816_02054B, 0x2F817_005197, 0x2F818_0051A4, 0x2F819_004ECC,
   0x2F81A_0051AC, 0x2F81B_0051B5, 0x2F81C_0291DF, 0x2F81D_0051F5, 0x2F81E_005203,
   0x2F81F_0034DF, 0x2F820_00523B, 0x2F821_005246, 0x2F822_005272, 0x2F823_005277,
   0x2F824_003515, 0x2F825_0052C7, 0x2F826_0052C9, 0x2F827_0052E4, 0x2F828_0052FA,
   0x2F829_005305, 0x2F82A_005306, 0x2F82B_005317, 0x2F82C_005349, 0x2F82D_005351,
   0x2F82E_00535A, 0x2F82F_005373, 0x2F830_00537D, 0x2F831_00537F, 0x2F832_00537F,
   0x2F833_00537F, 0x2F834_020A2C, 0x2F835_007070, 0x2F836_0053CA, 0x2F837_0053DF,
   0x2F838_020B63, 0x2F839_0053EB, 0x2F83A_0053F1, 0x2F83B_005406, 0x2F83C_00549E,
   0x2F83D_005438, 0x2F83E_005448, 0x2F83F_005468, 0x2F840_0054A2, 0x2F841_0054F6,
   0x2F842_005510, 0x2F843_005553, 0x2F844_005563, 0x2F845_005584, 0x2F846_005584,
   0x2F847_005599, 0x2F848_0055AB, 0x2F849_0055B3, 0x2F84A_0055C2, 0x2F84B_005716,
   0x2F84C_005606, 0x2F84D_005717, 0x2F84E_005651, 0x2F84F_005674, 0x2F850_005207,
   0x2F851_0058EE, 0x2F852_0057CE, 0x2F853_0057F4, 0x2F854_00580D, 0x2F855_00578B,
   0x2F856_005832, 0x2F857_005831, 0x2F858_0058AC, 0x2F859_0214E4, 0x2F85A_0058F2,
   0x2F85B_0058F7, 0x2F85C_005906, 0x2F85D_00591A, 0x2F85E_005922, 0x2F85F_005962,
   0x2F860_0216A8, 0x2F861_0216EA, 0x2F862_0059EC, 0x2F863_005A1B, 0x2F864_005A27,
   0x2F865_0059D8, 0x2F866_005A66, 0x2F867_0036EE, 0x2F868_0036FC, 0x2F869_005B08,
   0x2F86A_005B3E, 0x2F86B_005B3E, 0x2F86C_0219C8, 0x2F86D_005BC3, 0x2F86E_005BD8,
   0x2F86F_005BE7, 0x2F870_005BF3, 0x2F871_021B18, 0x2F872_005BFF, 0x2F873_005C06,
   0x2F874_005F53, 0x2F875_005C22, 0x2F876_003781, 0x2F877_005C60, 0x2F878_005C6E,
   0x2F879_005CC0, 0x2F87A_005C8D, 0x2F87B_021DE4, 0x2F87C_005D43, 0x2F87D_021DE6,
   0x2F87E_005D6E, 0x2F87F_005D6B, 0x2F880_005D7C, 0x2F881_005DE1, 0x2F882_005DE2,
   0x2F883_00382F, 0x2F884_005DFD, 0x2F885_005E28, 0x2F886_005E3D, 0x2F887_005E69,
   0x2F888_003862, 0x2F889_022183, 0x2F88A_00387C, 0x2F88B_005EB0, 0x2F88C_005EB3,
   0x2F88D_005EB6, 0x2F88E_005ECA, 0x2F88F_02A392, 0x2F890_005EFE, 0x2F891_022331,
   0x2F892_022331, 0x2F893_008201, 0x2F894_005F22, 0x2F895_005F22, 0x2F896_0038C7,
   0x2F897_0232B8, 0x2F898_0261DA, 0x2F899_005F62, 0x2F89A_005F6B, 0x2F89B_0038E3,
   0x2F89C_005F9A, 0x2F89D_005FCD, 0x2F89E_005FD7, 0x2F89F_005FF9, 0x2F8A0_006081,
   0x2F8A1_00393A, 0x2F8A2_00391C, 0x2F8A3_006094, 0x2F8A4_0226D4, 0x2F8A5_0060C7,
   0x2F8A6_006148, 0x2F8A7_00614C, 0x2F8A8_00614E, 0x2F8A9_00614C, 0x2F8AA_00617A,
   0x2F8AB_00618E, 0x2F8AC_0061B2, 0x2F8AD_0061A4, 0x2F8AE_0061AF, 0x2F8AF_0061DE,
   0x2F8B0_0061F2, 0x2F8B1_0061F6, 0x2F8B2_006210, 0x2F8B3_00621B, 0x2F8B4_00625D,
   0x2F8B5_0062B1, 0x2F8B6_0062D4, 0x2F8B7_006350, 0x2F8B8_022B0C, 0x2F8B9_00633D,
   0x2F8BA_0062FC, 0x2F8BB_006368, 0x2F8BC_006383, 0x2F8BD_0063E4, 0x2F8BE_022BF1,
   0x2F8BF_006422, 0x2F8C0_0063C5, 0x2F8C1_0063A9, 0x2F8C2_003A2E, 0x2F8C3_006469,
   0x2F8C4_00647E, 0x2F8C5_00649D, 0x2F8C6_006477, 0x2F8C7_003A6C, 0x2F8C8_00654F,
   0x2F8C9_00656C, 0x2F8CA_02300A, 0x2F8CB_0065E3, 0x2F8CC_0066F8, 0x2F8CD_006649,
   0x2F8CE_003B19, 0x2F8CF_006691, 0x2F8D0_003B08, 0x2F8D1_003AE4, 0x2F8D2_005192,
   0x2F8D3_005195, 0x2F8D4_006700, 0x2F8D5_00669C, 0x2F8D6_0080AD, 0x2F8D7_0043D9,
   0x2F8D8_006717, 0x2F8D9_00671B, 0x2F8DA_006721, 0x2F8DB_00675E, 0x2F8DC_006753,
   0x2F8DD_0233C3, 0x2F8DE_003B49, 0x2F8DF_0067FA, 0x2F8E0_006785, 0x2F8E1_006852,
   0x2F8E2_006885, 0x2F8E3_02346D, 0x2F8E4_00688E, 0x2F8E5_00681F, 0x2F8E6_006914,
   0x2F8E7_003B9D, 0x2F8E8_006942, 0x2F8E9_0069A3, 0x2F8EA_0069EA, 0x2F8EB_006AA8,
   0x2F8EC_0236A3, 0x2F8ED_006ADB, 0x2F8EE_003C18, 0x2F8EF_006B21, 0x2F8F0_0238A7,
   0x2F8F1_006B54, 0x2F8F2_003C4E, 0x2F8F3_006B72, 0x2F8F4_006B9F, 0x2F8F5_006BBA,
   0x2F8F6_006BBB, 0x2F8F7_023A8D, 0x2F8F8_021D0B, 0x2F8F9_023AFA, 0x2F8FA_006C4E,
   0x2F8FB_023CBC, 0x2F8FC_006CBF, 0x2F8FD_006CCD, 0x2F8FE_006C67, 0x2F8FF_006D16,
   0x2F900_006D3E, 0x2F901_006D77, 0x2F902_006D41, 0x2F903_006D69, 0x2F904_006D78,
   0x2F905_006D85, 0x2F906_023D1E, 0x2F907_006D34, 0x2F908_006E2F, 0x2F909_006E6E,
   0x2F90A_003D33, 0x2F90B_006ECB, 0x2F90C_006EC7, 0x2F90D_023ED1, 0x2F90E_006DF9,
   0x2F90F_006F6E, 0x2F910_023F5E, 0x2F911_023F8E, 0x2F912_006FC6, 0x2F913_007039,
   0x2F914_00701E, 0x2F915_00701B, 0x2F916_003D96, 0x2F917_00704A, 0x2F918_00707D,
   0x2F919_007077, 0x2F91A_0070AD, 0x2F91B_020525, 0x2F91C_007145, 0x2F91D_024263,
   0x2F91E_00719C, 0x2F91F_0243AB, 0x2F920_007228, 0x2F921_007235, 0x2F922_007250,
   0x2F923_024608, 0x2F924_007280, 0x2F925_007295, 0x2F926_024735, 0x2F927_024814,
   0x2F928_00737A, 0x2F929_00738B, 0x2F92A_003EAC, 0x2F92B_0073A5, 0x2F92C_003EB8,
   0x2F92D_003EB8, 0x2F92E_007447, 0x2F92F_00745C, 0x2F930_007471, 0x2F931_007485,
   0x2F932_0074CA, 0x2F933_003F1B, 0x2F934_007524, 0x2F935_024C36, 0x2F936_00753E,
   0x2F937_024C92, 0x2F938_007570, 0x2F939_02219F, 0x2F93A_007610, 0x2F93B_024FA1,
   0x2F93C_024FB8, 0x2F93D_025044, 0x2F93E_003FFC, 0x2F93F_004008, 0x2F940_0076F4,
   0x2F941_0250F3, 0x2F942_0250F2, 0x2F943_025119, 0x2F944_025133, 0x2F945_00771E,
   0x2F946_00771F, 0x2F947_00771F, 0x2F948_00774A, 0x2F949_004039, 0x2F94A_00778B,
   0x2F94B_004046, 0x2F94C_004096, 0x2F94D_02541D, 0x2F94E_00784E, 0x2F94F_00788C,
   0x2F950_0078CC, 0x2F951_0040E3, 0x2F952_025626, 0x2F953_007956, 0x2F954_02569A,
   0x2F955_0256C5, 0x2F956_00798F, 0x2F957_0079EB, 0x2F958_00412F, 0x2F959_007A40,
   0x2F95A_007A4A, 0x2F95B_007A4F, 0x2F95C_02597C, 0x2F95D_025AA7, 0x2F95E_025AA7,
   0x2F95F_007AEE, 0x2F960_004202, 0x2F961_025BAB, 0x2F962_007BC6, 0x2F963_007BC9,
   0x2F964_004227, 0x2F965_025C80, 0x2F966_007CD2, 0x2F967_0042A0, 0x2F968_007CE8,
   0x2F969_007CE3, 0x2F96A_007D00, 0x2F96B_025F86, 0x2F96C_007D63, 0x2F96D_004301,
   0x2F96E_007DC7, 0x2F96F_007E02, 0x2F970_007E45, 0x2F971_004334, 0x2F972_026228,
   0x2F973_026247, 0x2F974_004359, 0x2F975_0262D9, 0x2F976_007F7A, 0x2F977_02633E,
   0x2F978_007F95, 0x2F979_007FFA, 0x2F97A_008005, 0x2F97B_0264DA, 0x2F97C_026523,
   0x2F97D_008060, 0x2F97E_0265A8, 0x2F97F_008070, 0x2F980_02335F, 0x2F981_0043D5,
   0x2F982_0080B2, 0x2F983_008103, 0x2F984_00440B, 0x2F985_00813E, 0x2F986_005AB5,
   0x2F987_0267A7, 0x2F988_0267B5, 0x2F989_023393, 0x2F98A_02339C, 0x2F98B_008201,
   0x2F98C_008204, 0x2F98D_008F9E, 0x2F98E_00446B, 0x2F98F_008291, 0x2F990_00828B,
   0x2F991_00829D, 0x2F992_0052B3, 0x2F993_0082B1, 0x2F994_0082B3, 0x2F995_0082BD,
   0x2F996_0082E6, 0x2F997_026B3C, 0x2F998_0082E5, 0x2F999_00831D, 0x2F99A_008363,
   0x2F99B_0083AD, 0x2F99C_008323, 0x2F99D_0083BD, 0x2F99E_0083E7, 0x2F99F_008457,
   0x2F9A0_008353, 0x2F9A1_0083CA, 0x2F9A2_0083CC, 0x2F9A3_0083DC, 0x2F9A4_026C36,
   0x2F9A5_026D6B, 0x2F9A6_026CD5, 0x2F9A7_00452B, 0x2F9A8_0084F1, 0x2F9A9_0084F3,
   0x2F9AA_008516, 0x2F9AB_0273CA, 0x2F9AC_008564, 0x2F9AD_026F2C, 0x2F9AE_00455D,
   0x2F9AF_004561, 0x2F9B0_026FB1, 0x2F9B1_0270D2, 0x2F9B2_00456B, 0x2F9B3_008650,
   0x2F9B4_00865C, 0x2F9B5_008667, 0x2F9B6_008669, 0x2F9B7_0086A9, 0x2F9B8_008688,
   0x2F9B9_00870E, 0x2F9BA_0086E2, 0x2F9BB_008779, 0x2F9BC_008728, 0x2F9BD_00876B,
   0x2F9BE_008786, 0x2F9BF_0045D7, 0x2F9C0_0087E1, 0x2F9C1_008801, 0x2F9C2_0045F9,
   0x2F9C3_008860, 0x2F9C4_008863, 0x2F9C5_027667, 0x2F9C6_0088D7, 0x2F9C7_0088DE,
   0x2F9C8_004635, 0x2F9C9_0088FA, 0x2F9CA_0034BB, 0x2F9CB_0278AE, 0x2F9CC_027966,
   0x2F9CD_0046BE, 0x2F9CE_0046C7, 0x2F9CF_008AA0, 0x2F9D0_008AED, 0x2F9D1_008B8A,
   0x2F9D2_008C55, 0x2F9D3_027CA8, 0x2F9D4_008CAB, 0x2F9D5_008CC1, 0x2F9D6_008D1B,
   0x2F9D7_008D77, 0x2F9D8_027F2F, 0x2F9D9_020804, 0x2F9DA_008DCB, 0x2F9DB_008DBC,
   0x2F9DC_008DF0, 0x2F9DD_0208DE, 0x2F9DE_008ED4, 0x2F9DF_008F38, 0x2F9E0_0285D2,
   0x2F9E1_0285ED, 0x2F9E2_009094, 0x2F9E3_0090F1, 0x2F9E4_009111, 0x2F9E5_02872E,
   0x2F9E6_00911B, 0x2F9E7_009238, 0x2F9E8_0092D7, 0x2F9E9_0092D8, 0x2F9EA_00927C,
   0x2F9EB_0093F9, 0x2F9EC_009415, 0x2F9ED_028BFA, 0x2F9EE_00958B, 0x2F9EF_004995,
   0x2F9F0_0095B7, 0x2F9F1_028D77, 0x2F9F2_0049E6, 0x2F9F3_0096C3, 0x2F9F4_005DB2,
   0x2F9F5_009723, 0x2F9F6_029145, 0x2F9F7_02921A, 0x2F9F8_004A6E, 0x2F9F9_004A76,
   0x2F9FA_0097E0, 0x2F9FB_02940A, 0x2F9FC_004AB2, 0x2F9FD_029496, 0x2F9FE_00980B,
   0x2F9FF_00980B, 0x2FA00_009829, 0x2FA01_0295B6, 0x2FA02_0098E2, 0x2FA03_004B33,
   0x2FA04_009929, 0x2FA05_0099A7, 0x2FA06_0099C2, 0x2FA07_0099FE, 0x2FA08_004BCE,
   0x2FA09_029B30, 0x2FA0A_009B12, 0x2FA0B_009C40, 0x2FA0C_009CFD, 0x2FA0D_004CCE,
   0x2FA0E_004CED, 0x2FA0F_009D67, 0x2FA10_02A0CE, 0x2FA11_004CF8, 0x2FA12_02A105,
   0x2FA13_02A20E, 0x2FA14_02A291, 0x2FA15_009EBB, 0x2FA16_004D56, 0x2FA17_009EF9,
   0x2FA18_009EFE, 0x2FA19_009F05, 0x2FA1A_009F0F, 0x2FA1B_009F16, 0x2FA1C_009F3B,
   0x2FA1D_02A600]

set_option maxRecDepth 20000 in
/-- The pairs that compose, with what they compose to. A pair stands before the one that
makes its first part. -/
def compositions : List ((Nat × Nat) × Nat) := pairs
  [0x3CB_000301_0003B0, 0x3CA_000301_000390, 0x227_000304_0001E1, 0x226_000304_0001E0,
   0x11935_011930_011938, 0x115B9_0115AF_0115BB, 0x115B8_0115AF_0115BA,
   0x114B9_0114BD_0114BE, 0x114B9_0114B0_0114BC, 0x114B9_0114BA_0114BB,
   0x11347_011357_01134C, 0x11347_01133E_01134B, 0x11132_011127_01112F,
   0x11131_011127_01112E, 0x110A5_0110BA_0110AB, 0x1109B_0110BA_01109C,
   0x11099_0110BA_01109A, 0x30FD_003099_0030FE, 0x30F2_003099_0030FA,
   0x30F1_003099_0030F9, 0x30F0_003099_0030F8, 0x30EF_003099_0030F7,
   0x30A6_003099_0030F4, 0x30DB_00309A_0030DD, 0x30DB_003099_0030DC,
   0x30D8_00309A_0030DA, 0x30D8_003099_0030D9, 0x30D5_00309A_0030D7,
   0x30D5_003099_0030D6, 0x30D2_00309A_0030D4, 0x30D2_003099_0030D3, 0x30CF_00309A_0030D1,
   0x30CF_003099_0030D0, 0x30C8_003099_0030C9, 0x30C6_003099_0030C7, 0x30C4_003099_0030C5,
   0x30C1_003099_0030C2, 0x30BF_003099_0030C0, 0x30BD_003099_0030BE, 0x30BB_003099_0030BC,
   0x30B9_003099_0030BA, 0x30B7_003099_0030B8, 0x30B5_003099_0030B6, 0x30B3_003099_0030B4,
   0x30B1_003099_0030B2, 0x30AF_003099_0030B0, 0x30AD_003099_0030AE, 0x30AB_003099_0030AC,
   0x309D_003099_00309E, 0x3046_003099_003094, 0x307B_00309A_00307D, 0x307B_003099_00307C,
   0x3078_00309A_00307A, 0x3078_003099_003079, 0x3075_00309A_003077, 0x3075_003099_003076,
   0x3072_00309A_003074, 0x3072_003099_003073, 0x306F_00309A_003071, 0x306F_003099_003070,
   0x3068_003099_003069, 0x3066_003099_003067, 0x3064_003099_003065, 0x3061_003099_003062,
   0x305F_003099_003060, 0x305D_003099_00305E, 0x305B_003099_00305C, 0x3059_003099_00305A,
   0x3057_003099_003058, 0x3055_003099_003056, 0x3053_003099_003054, 0x3051_003099_003052,
   0x304F_003099_003050, 0x304D_003099_00304E, 0x304B_003099_00304C, 0x22B5_000338_0022ED,
   0x22B4_000338_0022EC, 0x22B3_000338_0022EB, 0x22B2_000338_0022EA, 0x2292_000338_0022E3,
   0x2291_000338_0022E2, 0x227D_000338_0022E1, 0x227C_000338_0022E0, 0x22AB_000338_0022AF,
   0x22A9_000338_0022AE, 0x22A8_000338_0022AD, 0x22A2_000338_0022AC, 0x2287_000338_002289,
   0x2286_000338_002288, 0x2283_000338_002285, 0x2282_000338_002284, 0x227B_000338_002281,
   0x227A_000338_002280, 0x2277_000338_002279, 0x2276_000338_002278, 0x2273_000338_002275,
   0x2272_000338_002274, 0x2265_000338_002271, 0x2264_000338_002270, 0x3E_000338_00226F,
   0x3C_000338_00226E, 0x224D_000338_00226D, 0x2261_000338_002262, 0x3D_000338_002260,
   0x2248_000338_002249, 0x2245_000338_002247, 0x2243_000338_002244, 0x223C_000338_002241,
   0x2225_000338_002226, 0x2223_000338_002224, 0x220B_000338_00220C, 0x2208_000338_002209,
   0x2203_000338_002204, 0x21D2_000338_0021CF, 0x21D4_000338_0021CE, 0x21D0_000338_0021CD,
   0x2194_000338_0021AE, 0x2192_000338_00219B, 0x2190_000338_00219A, 0x3A9_000345_001FFC,
   0x3A9_000300_001FFA, 0x39F_000300_001FF8, 0x1FF6_000345_001FF7, 0x3C9_000342_001FF6,
   0x3CE_000345_001FF4, 0x3C9_000345_001FF3, 0x1F7C_000345_001FF2, 0xA8_000300_001FED,
   0x3A1_000314_001FEC, 0x3A5_000300_001FEA, 0x3A5_000304_001FE9, 0x3A5_000306_001FE8,
   0x3CB_000342_001FE7, 0x3C5_000342_001FE6, 0x3C1_000314_001FE5, 0x3C1_000313_001FE4,
   0x3CB_000300_001FE2, 0x3C5_000304_001FE1, 0x3C5_000306_001FE0, 0x1FFE_000342_001FDF,
   0x1FFE_000301_001FDE, 0x1FFE_000300_001FDD, 0x399_000300_001FDA, 0x399_000304_001FD9,
   0x399_000306_001FD8, 0x3CA_000342_001FD7, 0x3B9_000342_001FD6, 0x3CA_000300_001FD2,
   0x3B9_000304_001FD1, 0x3B9_000306_001FD0, 0x1FBF_000342_001FCF, 0x1FBF_000301_001FCE,
   0x1FBF_000300_001FCD, 0x397_000345_001FCC, 0x397_000300_001FCA, 0x395_000300_001FC8,
   0x1FC6_000345_001FC7, 0x3B7_000342_001FC6, 0x3AE_000345_001FC4, 0x3B7_000345_001FC3,
   0x1F74_000345_001FC2, 0xA8_000342_001FC1, 0x391_000345_001FBC, 0x391_000300_001FBA,
   0x391_000304_001FB9, 0x391_000306_001FB8, 0x1FB6_000345_001FB7, 0x3B1_000342_001FB6,
   0x3AC_000345_001FB4, 0x3B1_000345_001FB3, 0x1F70_000345_001FB2, 0x3B1_000304_001FB1,
   0x3B1_000306_001FB0, 0x1F6F_000345_001FAF, 0x1F6E_000345_001FAE, 0x1F6D_000345_001FAD,
   0x1F6C_000345_001FAC, 0x1F6B_000345_001FAB, 0x1F6A_000345_001FAA, 0x1F69_000345_001FA9,
   0x1F68_000345_001FA8, 0x1F67_000345_001FA7, 0x1F66_000345_001FA6, 0x1F65_000345_001FA5,
   0x1F64_000345_001FA4, 0x1F63_000345_001FA3, 0x1F62_000345_001FA2, 0x1F61_000345_001FA1,
   0x1F60_000345_001FA0, 0x1F2F_000345_001F9F, 0x1F2E_000345_001F9E, 0x1F2D_000345_001F9D,
   0x1F2C_000345_001F9C, 0x1F2B_000345_001F9B, 0x1F2A_000345_001F9A, 0x1F29_000345_001F99,
   0x1F28_000345_001F98, 0x1F27_000345_001F97, 0x1F26_000345_001F96, 0x1F25_000345_001F95,
   0x1F24_000345_001F94, 0x1F23_000345_001F93, 0x1F22_000345_001F92, 0x1F21_000345_001F91,
   0x1F20_000345_001F90, 0x1F0F_000345_001F8F, 0x1F0E_000345_001F8E, 0x1F0D_000345_001F8D,
   0x1F0C_000345_001F8C, 0x1F0B_000345_001F8B, 0x1F0A_000345_001F8A, 0x1F09_000345_001F89,
   0x1F08_000345_001F88, 0x1F07_000345_001F87, 0x1F06_000345_001F86, 0x1F05_000345_001F85,
   0x1F04_000345_001F84, 0x1F03_000345_001F83, 0x1F02_000345_001F82, 0x1F01_000345_001F81,
   0x1F00_000345_001F80, 0x3C9_000300_001F7C, 0x3C5_000300_001F7A, 0x3BF_000300_001F78,
   0x3B9_000300_001F76, 0x3B7_000300_001F74, 0x3B5_000300_001F72, 0x3B1_000300_001F70,
   0x1F69_000342_001F6F, 0x1F68_000342_001F6E, 0x1F69_000301_001F6D, 0x1F68_000301_001F6C,
   0x1F69_000300_001F6B, 0x1F68_000300_001F6A, 0x3A9_000314_001F69, 0x3A9_000313_001F68,
   0x1F61_000342_001F67, 0x1F60_000342_001F66, 0x1F61_000301_001F65, 0x1F60_000301_001F64,
   0x1F61_000300_001F63, 0x1F60_000300_001F62, 0x3C9_000314_001F61, 0x3C9_000313_001F60,
   0x1F59_000342_001F5F, 0x1F59_000301_001F5D, 0x1F59_000300_001F5B, 0x3A5_000314_001F59,
   0x1F51_000342_001F57, 0x1F50_000342_001F56, 0x1F51_000301_001F55, 0x1F50_000301_001F54,
   0x1F51_000300_001F53, 0x1F50_000300_001F52, 0x3C5_000314_001F51, 0x3C5_000313_001F50,
   0x1F49_000301_001F4D, 0x1F48_000301_001F4C, 0x1F49_000300_001F4B, 0x1F48_000300_001F4A,
   0x39F_000314_001F49, 0x39F_000313_001F48, 0x1F41_000301_001F45, 0x1F40_000301_001F44,
   0x1F41_000300_001F43, 0x1F40_000300_001F42, 0x3BF_000314_001F41, 0x3BF_000313_001F40,
   0x1F39_000342_001F3F, 0x1F38_000342_001F3E, 0x1F39_000301_001F3D, 0x1F38_000301_001F3C,
   0x1F39_000300_001F3B, 0x1F38_000300_001F3A, 0x399_000314_001F39, 0x399_000313_001F38,
   0x1F31_000342_001F37, 0x1F30_000342_001F36, 0x1F31_000301_001F35, 0x1F30_000301_001F34,
   0x1F31_000300_001F33, 0x1F30_000300_001F32, 0x3B9_000314_001F31, 0x3B9_000313_001F30,
   0x1F29_000342_001F2F, 0x1F28_000342_001F2E, 0x1F29_000301_001F2D, 0x1F28_000301_001F2C,
   0x1F29_000300_001F2B, 0x1F28_000300_001F2A, 0x397_000314_001F29, 0x397_000313_001F28,
   0x1F21_000342_001F27, 0x1F20_000342_001F26, 0x1F21_000301_001F25, 0x1F20_000301_001F24,
   0x1F21_000300_001F23, 0x1F20_000300_001F22, 0x3B7_000314_001F21, 0x3B7_000313_001F20,
   0x1F19_000301_001F1D, 0x1F18_000301_001F1C, 0x1F19_000300_001F1B, 0x1F18_000300_001F1A,
   0x395_000314_001F19, 0x395_000313_001F18, 0x1F11_000301_001F15, 0x1F10_000301_001F14,
   0x1F11_000300_001F13, 0x1F10_000300_001F12, 0x3B5_000314_001F11, 0x3B5_000313_001F10,
   0x1F09_000342_001F0F, 0x1F08_000342_001F0E, 0x1F09_000301_001F0D, 0x1F08_000301_001F0C,
   0x1F09_000300_001F0B, 0x1F08_000300_001F0A, 0x391_000314_001F09, 0x391_000313_001F08,
   0x1F01_000342_001F07, 0x1F00_000342_001F06, 0x1F01_000301_001F05, 0x1F00_000301_001F04,
   0x1F01_000300_001F03, 0x1F00_000300_001F02, 0x3B1_000314_001F01, 0x3B1_000313_001F00,
   0x79_000303_001EF9, 0x59_000303_001EF8, 0x79_000309_001EF7, 0x59_000309_001EF6,
   0x79_000323_001EF5, 0x59_000323_001EF4, 0x79_000300_001EF3, 0x59_000300_001EF2,
   0x1B0_000323_001EF1, 0x1AF_000323_001EF0, 0x1B0_000303_001EEF, 0x1AF_000303_001EEE,
   0x1B0_000309_001EED, 0x1AF_000309_001EEC, 0x1B0_000300_001EEB, 0x1AF_000300_001EEA,
   0x1B0_000301_001EE9, 0x1AF_000301_001EE8, 0x75_000309_001EE7, 0x55_000309_001EE6,
   0x75_000323_001EE5, 0x55_000323_001EE4, 0x1A1_000323_001EE3, 0x1A0_000323_001EE2,
   0x1A1_000303_001EE1, 0x1A0_000303_001EE0, 0x1A1_000309_001EDF, 0x1A0_000309_001EDE,
   0x1A1_000300_001EDD, 0x1A0_000300_001EDC, 0x1A1_000301_001EDB, 0x1A0_000301_001EDA,
   0x1ECD_000302_001ED9, 0x1ECC_000302_001ED8, 0xF4_000303_001ED7, 0xD4_000303_001ED6,
   0xF4_000309_001ED5, 0xD4_000309_001ED4, 0xF4_000300_001ED3, 0xD4_000300_001ED2,
   0xF4_000301_001ED1, 0xD4_000301_001ED0, 0x6F_000309_001ECF, 0x4F_000309_001ECE,
   0x6F_000323_001ECD, 0x4F_000323_001ECC, 0x69_000323_001ECB, 0x49_000323_001ECA,
   0x69_000309_001EC9, 0x49_000309_001EC8, 0x1EB9_000302_001EC7, 0x1EB8_000302_001EC6,
   0xEA_000303_001EC5, 0xCA_000303_001EC4, 0xEA_000309_001EC3, 0xCA_000309_001EC2,
   0xEA_000300_001EC1, 0xCA_000300_001EC0, 0xEA_000301_001EBF, 0xCA_000301_001EBE,
   0x65_000303_001EBD, 0x45_000303_001EBC, 0x65_000309_001EBB, 0x45_000309_001EBA,
   0x65_000323_001EB9, 0x45_000323_001EB8, 0x1EA1_000306_001EB7, 0x1EA0_000306_001EB6,
   0x103_000303_001EB5, 0x102_000303_001EB4, 0x103_000309_001EB3, 0x102_000309_001EB2,
   0x103_000300_001EB1, 0x102_000300_001EB0, 0x103_000301_001EAF, 0x102_000301_001EAE,
   0x1EA1_000302_001EAD, 0x1EA0_000302_001EAC, 0xE2_000303_001EAB, 0xC2_000303_001EAA,
   0xE2_000309_001EA9, 0xC2_000309_001EA8, 0xE2_000300_001EA7, 0xC2_000300_001EA6,
   0xE2_000301_001EA5, 0xC2_000301_001EA4, 0x61_000309_001EA3, 0x41_000309_001EA2,
   0x61_000323_001EA1, 0x41_000323_001EA0, 0x17F_000307_001E9B, 0x79_00030A_001E99,
   0x77_00030A_001E98, 0x74_000308_001E97, 0x68_000331_001E96, 0x7A_000331_001E95,
   0x5A_000331_001E94, 0x7A_000323_001E93, 0x5A_000323_001E92, 0x7A_000302_001E91,
   0x5A_000302_001E90, 0x79_000307_001E8F, 0x59_000307_001E8E, 0x78_000308_001E8D,
   0x58_000308_001E8C, 0x78_000307_001E8B, 0x58_000307_001E8A, 0x77_000323_001E89,
   0x57_000323_001E88, 0x77_000307_001E87, 0x57_000307_001E86, 0x77_000308_001E85,
   0x57_000308_001E84, 0x77_000301_001E83, 0x57_000301_001E82, 0x77_000300_001E81,
   0x57_000300_001E80, 0x76_000323_001E7F, 0x56_000323_001E7E, 0x76_000303_001E7D,
   0x56_000303_001E7C, 0x16B_000308_001E7B, 0x16A_000308_001E7A, 0x169_000301_001E79,
   0x168_000301_001E78, 0x75_00032D_001E77, 0x55_00032D_001E76, 0x75_000330_001E75,
   0x55_000330_001E74, 0x75_000324_001E73, 0x55_000324_001E72, 0x74_00032D_001E71,
   0x54_00032D_001E70, 0x74_000331_001E6F, 0x54_000331_001E6E, 0x74_000323_001E6D,
   0x54_000323_001E6C, 0x74_000307_001E6B, 0x54_000307_001E6A, 0x1E63_000307_001E69,
   0x1E62_000307_001E68, 0x161_000307_001E67, 0x160_000307_001E66, 0x15B_000307_001E65,
   0x15A_000307_001E64, 0x73_000323_001E63, 0x53_000323_001E62, 0x73_000307_001E61,
   0x53_000307_001E60, 0x72_000331_001E5F, 0x52_000331_001E5E, 0x1E5B_000304_001E5D,
   0x1E5A_000304_001E5C, 0x72_000323_001E5B, 0x52_000323_001E5A, 0x72_000307_001E59,
   0x52_000307_001E58, 0x70_000307_001E57, 0x50_000307_001E56, 0x70_000301_001E55,
   0x50_000301_001E54, 0x14D_000301_001E53, 0x14C_000301_001E52, 0x14D_000300_001E51,
   0x14C_000300_001E50, 0xF5_000308_001E4F, 0xD5_000308_001E4E, 0xF5_000301_001E4D,
   0xD5_000301_001E4C, 0x6E_00032D_001E4B, 0x4E_00032D_001E4A, 0x6E_000331_001E49,
   0x4E_000331_001E48, 0x6E_000323_001E47, 0x4E_000323_001E46, 0x6E_000307_001E45,
   0x4E_000307_001E44, 0x6D_000323_001E43, 0x4D_000323_001E42, 0x6D_000307_001E41,
   0x4D_000307_001E40, 0x6D_000301_001E3F, 0x4D_000301_001E3E, 0x6C_00032D_001E3D,
   0x4C_00032D_001E3C, 0x6C_000331_001E3B, 0x4C_000331_001E3A, 0x1E37_000304_001E39,
   0x1E36_000304_001E38, 0x6C_000323_001E37, 0x4C_000323_001E36, 0x6B_000331_001E35,
   0x4B_000331_001E34, 0x6B_000323_001E33, 0x4B_000323_001E32, 0x6B_000301_001E31,
   0x4B_000301_001E30, 0xEF_000301_001E2F, 0xCF_000301_001E2E, 0x69_000330_001E2D,
   0x49_000330_001E2C, 0x68_00032E_001E2B, 0x48_00032E_001E2A, 0x68_000327_001E29,
   0x48_000327_001E28, 0x68_000308_001E27, 0x48_000308_001E26, 0x68_000323_001E25,
   0x48_000323_001E24, 0x68_000307_001E23, 0x48_000307_001E22, 0x67_000304_001E21,
   0x47_000304_001E20, 0x66_000307_001E1F, 0x46_000307_001E1E, 0x229_000306_001E1D,
   0x228_000306_001E1C, 0x65_000330_001E1B, 0x45_000330_001E1A, 0x65_00032D_001E19,
   0x45_00032D_001E18, 0x113_000301_001E17, 0x112_000301_001E16, 0x113_000300_001E15,
   0x112_000300_001E14, 0x64_00032D_001E13, 0x44_00032D_001E12, 0x64_000327_001E11,
   0x44_000327_001E10, 0x64_000331_001E0F, 0x44_000331_001E0E, 0x64_000323_001E0D,
   0x44_000323_001E0C, 0x64_000307_001E0B, 0x44_000307_001E0A, 0xE7_000301_001E09,
   0xC7_000301_001E08, 0x62_000331_001E07, 0x42_000331_001E06, 0x62_000323_001E05,
   0x42_000323_001E04, 0x62_000307_001E03, 0x42_000307_001E02, 0x61_000325_001E01,
   0x41_000325_001E00, 0x1B42_001B35_001B43, 0x1B3F_001B35_001B41, 0x1B3E_001B35_001B40,
   0x1B3C_001B35_001B3D, 0x1B3A_001B35_001B3B, 0x1B11_001B35_001B12, 0x1B0D_001B35_001B0E,
   0x1B0B_001B35_001B0C, 0x1B09_001B35_001B0A, 0x1B07_001B35_001B08, 0x1B05_001B35_001B06,
   0x1025_00102E_001026, 0xDD9_000DDF_000DDE, 0xDDC_000DCA_000DDD, 0xDD9_000DCF_000DDC,
   0xDD9_000DCA_000DDA, 0xD46_000D57_000D4C, 0xD47_000D3E_000D4B, 0xD46_000D3E_000D4A,
   0xCCA_000CD5_000CCB, 0xCC6_000CC2_000CCA, 0xCC6_000CD6_000CC8, 0xCC6_000CD5_000CC7,
   0xCBF_000CD5_000CC0, 0xC46_000C56_000C48, 0xBC6_000BD7_000BCC, 0xBC7_000BBE_000BCB,
   0xBC6_000BBE_000BCA, 0xB92_000BD7_000B94, 0xB47_000B57_000B4C, 0xB47_000B3E_000B4B,
   0xB47_000B56_000B48, 0x9C7_0009D7_0009CC, 0x9C7_0009BE_0009CB, 0x933_00093C_000934,
   0x930_00093C_000931, 0x928_00093C_000929, 0x6D2_000654_0006D3, 0x6C1_000654_0006C2,
   0x6D5_000654_0006C0, 0x64A_000654_000626, 0x627_000655_000625, 0x648_000654_000624,
   0x627_000654_000623, 0x627_000653_000622, 0x44B_000308_0004F9, 0x42B_000308_0004F8,
   0x447_000308_0004F5, 0x427_000308_0004F4, 0x443_00030B_0004F3, 0x423_00030B_0004F2,
   0x443_000308_0004F1, 0x423_000308_0004F0, 0x443_000304_0004EF, 0x423_000304_0004EE,
   0x44D_000308_0004ED, 0x42D_000308_0004EC, 0x4E9_000308_0004EB, 0x4E8_000308_0004EA,
   0x43E_000308_0004E7, 0x41E_000308_0004E6, 0x438_000308_0004E5, 0x418_000308_0004E4,
   0x438_000304_0004E3, 0x418_000304_0004E2, 0x437_000308_0004DF, 0x417_000308_0004DE,
   0x436_000308_0004DD, 0x416_000308_0004DC, 0x4D9_000308_0004DB, 0x4D8_000308_0004DA,
   0x435_000306_0004D7, 0x415_000306_0004D6, 0x430_000308_0004D3, 0x410_000308_0004D2,
   0x430_000306_0004D1, 0x410_000306_0004D0, 0x436_000306_0004C2, 0x416_000306_0004C1,
   0x475_00030F_000477, 0x474_00030F_000476, 0x443_000306_00045E, 0x438_000300_00045D,
   0x43A_000301_00045C, 0x456_000308_000457, 0x433_000301_000453, 0x435_000308_000451,
   0x435_000300_000450, 0x438_000306_000439, 0x418_000306_000419, 0x423_000306_00040E,
   0x418_000300_00040D, 0x41A_000301_00040C, 0x406_000308_000407, 0x413_000301_000403,
   0x415_000308_000401, 0x415_000300_000400, 0x3D2_000308_0003D4, 0x3D2_000301_0003D3,
   0x3C9_000301_0003CE, 0x3C5_000301_0003CD, 0x3BF_000301_0003CC, 0x3C5_000308_0003CB,
   0x3B9_000308_0003CA, 0x3B9_000301_0003AF, 0x3B7_000301_0003AE, 0x3B5_000301_0003AD,
   0x3B1_000301_0003AC, 0x3A5_000308_0003AB, 0x399_000308_0003AA, 0x3A9_000301_00038F,
   0x3A5_000301_00038E, 0x39F_000301_00038C, 0x399_000301_00038A, 0x397_000301_000389,
   0x395_000301_000388, 0x391_000301_000386, 0xA8_000301_000385, 0x79_000304_000233,
   0x59_000304_000232, 0x22F_000304_000231, 0x22E_000304_000230, 0x6F_000307_00022F,
   0x4F_000307_00022E, 0xF5_000304_00022D, 0xD5_000304_00022C, 0xF6_000304_00022B,
   0xD6_000304_00022A, 0x65_000327_000229, 0x45_000327_000228, 0x61_000307_000227,
   0x41_000307_000226, 0x68_00030C_00021F, 0x48_00030C_00021E, 0x74_000326_00021B,
   0x54_000326_00021A, 0x73_000326_000219, 0x53_000326_000218, 0x75_000311_000217,
   0x55_000311_000216, 0x75_00030F_000215, 0x55_00030F_000214, 0x72_000311_000213,
   0x52_000311_000212, 0x72_00030F_000211, 0x52_00030F_000210, 0x6F_000311_00020F,
   0x4F_000311_00020E, 0x6F_00030F_00020D, 0x4F_00030F_00020C, 0x69_000311_00020B,
   0x49_000311_00020A, 0x69_00030F_000209, 0x49_00030F_000208, 0x65_000311_000207,
   0x45_000311_000206, 0x65_00030F_000205, 0x45_00030F_000204, 0x61_000311_000203,
   0x41_000311_000202, 0x61_00030F_000201, 0x41_00030F_000200, 0xF8_000301_0001FF,
   0xD8_000301_0001FE, 0xE6_000301_0001FD, 0xC6_000301_0001FC, 0xE5_000301_0001FB,
   0xC5_000301_0001FA, 0x6E_000300_0001F9, 0x4E_000300_0001F8, 0x67_000301_0001F5,
   0x47_000301_0001F4, 0x6A_00030C_0001F0, 0x292_00030C_0001EF, 0x1B7_00030C_0001EE,
   0x1EB_000304_0001ED, 0x1EA_000304_0001EC, 0x6F_000328_0001EB, 0x4F_000328_0001EA,
   0x6B_00030C_0001E9, 0x4B_00030C_0001E8, 0x67_00030C_0001E7, 0x47_00030C_0001E6,
   0xE6_000304_0001E3, 0xC6_000304_0001E2, 0xE4_000304_0001DF, 0xC4_000304_0001DE,
   0xFC_000300_0001DC, 0xDC_000300_0001DB, 0xFC_00030C_0001DA, 0xDC_00030C_0001D9,
   0xFC_000301_0001D8, 0xDC_000301_0001D7, 0xFC_000304_0001D6, 0xDC_000304_0001D5,
   0x75_00030C_0001D4, 0x55_00030C_0001D3, 0x6F_00030C_0001D2, 0x4F_00030C_0001D1,
   0x69_00030C_0001D0, 0x49_00030C_0001CF, 0x61_00030C_0001CE, 0x41_00030C_0001CD,
   0x75_00031B_0001B0, 0x55_00031B_0001AF, 0x6F_00031B_0001A1, 0x4F_00031B_0001A0,
   0x7A_00030C_00017E, 0x5A_00030C_00017D, 0x7A_000307_00017C, 0x5A_000307_00017B,
   0x7A_000301_00017A, 0x5A_000301_000179, 0x59_000308_000178, 0x79_000302_000177,
   0x59_000302_000176, 0x77_000302_000175, 0x57_000302_000174, 0x75_000328_000173,
   0x55_000328_000172, 0x75_00030B_000171, 0x55_00030B_000170, 0x75_00030A_00016F,
   0x55_00030A_00016E, 0x75_000306_00016D, 0x55_000306_00016C, 0x75_000304_00016B,
   0x55_000304_00016A, 0x75_000303_000169, 0x55_000303_000168, 0x74_00030C_000165,
   0x54_00030C_000164, 0x74_000327_000163, 0x54_000327_000162, 0x73_00030C_000161,
   0x53_00030C_000160, 0x73_000327_00015F, 0x53_000327_00015E, 0x73_000302_00015D,
   0x53_000302_00015C, 0x73_000301_00015B, 0x53_000301_00015A, 0x72_00030C_000159,
   0x52_00030C_000158, 0x72_000327_000157, 0x52_000327_000156, 0x72_000301_000155,
   0x52_000301_000154, 0x6F_00030B_000151, 0x4F_00030B_000150, 0x6F_000306_00014F,
   0x4F_000306_00014E, 0x6F_000304_00014D, 0x4F_000304_00014C, 0x6E_00030C_000148,
   0x4E_00030C_000147, 0x6E_000327_000146, 0x4E_000327_000145, 0x6E_000301_000144,
   0x4E_000301_000143, 0x6C_00030C_00013E, 0x4C_00030C_00013D, 0x6C_000327_00013C,
   0x4C_000327_00013B, 0x6C_000301_00013A, 0x4C_000301_000139, 0x6B_000327_000137,
   0x4B_000327_000136, 0x6A_000302_000135, 0x4A_000302_000134, 0x49_000307_000130,
   0x69_000328_00012F, 0x49_000328_00012E, 0x69_000306_00012D, 0x49_000306_00012C,
   0x69_000304_00012B, 0x49_000304_00012A, 0x69_000303_000129, 0x49_000303_000128,
   0x68_000302_000125, 0x48_000302_000124, 0x67_000327_000123, 0x47_000327_000122,
   0x67_000307_000121, 0x47_000307_000120, 0x67_000306_00011F, 0x47_000306_00011E,
   0x67_000302_00011D, 0x47_000302_00011C, 0x65_00030C_00011B, 0x45_00030C_00011A,
   0x65_000328_000119, 0x45_000328_000118, 0x65_000307_000117, 0x45_000307_000116,
   0x65_000306_000115, 0x45_000306_000114, 0x65_000304_000113, 0x45_000304_000112,
   0x64_00030C_00010F, 0x44_00030C_00010E, 0x63_00030C_00010D, 0x43_00030C_00010C,
   0x63_000307_00010B, 0x43_000307_00010A, 0x63_000302_000109, 0x43_000302_000108,
   0x63_000301_000107, 0x43_000301_000106, 0x61_000328_000105, 0x41_000328_000104,
   0x61_000306_000103, 0x41_000306_000102, 0x61_000304_000101, 0x41_000304_000100,
   0x79_000308_0000FF, 0x79_000301_0000FD, 0x75_000308_0000FC, 0x75_000302_0000FB,
   0x75_000301_0000FA, 0x75_000300_0000F9, 0x6F_000308_0000F6, 0x6F_000303_0000F5,
   0x6F_000302_0000F4, 0x6F_000301_0000F3, 0x6F_000300_0000F2, 0x6E_000303_0000F1,
   0x69_000308_0000EF, 0x69_000302_0000EE, 0x69_000301_0000ED, 0x69_000300_0000EC,
   0x65_000308_0000EB, 0x65_000302_0000EA, 0x65_000301_0000E9, 0x65_000300_0000E8,
   0x63_000327_0000E7, 0x61_00030A_0000E5, 0x61_000308_0000E4, 0x61_000303_0000E3,
   0x61_000302_0000E2, 0x61_000301_0000E1, 0x61_000300_0000E0, 0x59_000301_0000DD,
   0x55_000308_0000DC, 0x55_000302_0000DB, 0x55_000301_0000DA, 0x55_000300_0000D9,
   0x4F_000308_0000D6, 0x4F_000303_0000D5, 0x4F_000302_0000D4, 0x4F_000301_0000D3,
   0x4F_000300_0000D2, 0x4E_000303_0000D1, 0x49_000308_0000CF, 0x49_000302_0000CE,
   0x49_000301_0000CD, 0x49_000300_0000CC, 0x45_000308_0000CB, 0x45_000302_0000CA,
   0x45_000301_0000C9, 0x45_000300_0000C8, 0x43_000327_0000C7, 0x41_00030A_0000C5,
   0x41_000308_0000C4, 0x41_000303_0000C3, 0x41_000302_0000C2, 0x41_000301_0000C1,
   0x41_000300_0000C0]

end CredRelay.Unicode
