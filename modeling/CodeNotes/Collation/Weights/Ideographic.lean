import CodeNotes.Collation.Weight
/-!
Collation weights of radicals, and of ideographs and kana in circles, brackets and squares.
-/
namespace CodeNotes.Collation

def cjkRadicalsSupplement : Chart :=
  ⟨0x2E80, 0x2EFF,
    [⟨0x2E80, 1, .variant 0x4E36 0x11E⟩, ⟨0x2E81, 1, .variant 0x5382 0x11E⟩,
      ⟨0x2E82, 1, .spelled [0x4E5B] 0x4 0x4⟩, ⟨0x2E83, 1, .spelled [0x4E5A] 0x4 0x4⟩,
      ⟨0x2E84, 1, .variant 0x4E59 0x11E⟩, ⟨0x2E85, 1, .spelled [0x4EBB] 0x4 0x4⟩,
      ⟨0x2E86, 1, .variant 0x5182 0x11E⟩, ⟨0x2E87, 1, .variant 0x51E0 0x11E⟩,
      ⟨0x2E88, 1, .variant 0x5200 0x11E⟩, ⟨0x2E89, 1, .spelled [0x5202] 0x4 0x4⟩,
      ⟨0x2E8A, 1, .variant 0x535C 0x11E⟩, ⟨0x2E8B, 1, .variant 0x5369 0x11E⟩,
      ⟨0x2E8C, 1, .variant 0x5C0F 0x11E⟩, ⟨0x2E8D, 1, .variant 0x5C0F 0x124⟩,
      ⟨0x2E8E, 1, .variant 0x5C22 0x11E⟩, ⟨0x2E8F, 1, .spelled [0x5C23] 0x4 0x4⟩,
      ⟨0x2E90, 1, .spelled [0x5C22] 0x4 0x4⟩, ⟨0x2E91, 1, .variant 0x5C23 0x11E⟩,
      ⟨0x2E92, 1, .spelled [0x5DF3] 0x4 0x4⟩, ⟨0x2E93, 1, .spelled [0x5E7A] 0x4 0x4⟩,
      ⟨0x2E94, 1, .spelled [0x5F51] 0x4 0x4⟩, ⟨0x2E95, 1, .variant 0x5F50 0x11E⟩,
      ⟨0x2E96, 1, .spelled [0x5FC4] 0x4 0x4⟩, ⟨0x2E97, 1, .variant 0x5FC3 0x11E⟩,
      ⟨0x2E98, 1, .spelled [0x624C] 0x4 0x4⟩, ⟨0x2E99, 1, .spelled [0x6535] 0x4 0x4⟩,
      ⟨0x2E9B, 1, .spelled [0x65E1] 0x4 0x4⟩, ⟨0x2E9C, 1, .variant 0x65E5 0x11E⟩,
      ⟨0x2E9D, 1, .variant 0x6708 0x11E⟩, ⟨0x2E9E, 1, .variant 0x6B7A 0x11E⟩,
      ⟨0x2E9F, 1, .spelled [0x6BCD] 0x4 0x4⟩, ⟨0x2EA0, 1, .spelled [0x6C11] 0x4 0x4⟩,
      ⟨0x2EA1, 1, .spelled [0x6C35] 0x4 0x4⟩, ⟨0x2EA2, 1, .spelled [0x6C3A] 0x4 0x4⟩,
      ⟨0x2EA3, 1, .spelled [0x706C] 0x4 0x4⟩, ⟨0x2EA4, 1, .spelled [0x722B] 0x4 0x4⟩,
      ⟨0x2EA5, 1, .variant 0x722B 0x11E⟩, ⟨0x2EA6, 1, .spelled [0x4E2C] 0x4 0x4⟩,
      ⟨0x2EA7, 1, .variant 0x725B 0x11E⟩, ⟨0x2EA8, 1, .spelled [0x72AD] 0x4 0x4⟩,
      ⟨0x2EA9, 1, .variant 0x738B 0x11E⟩, ⟨0x2EAA, 1, .variant 0x758B 0x11E⟩,
      ⟨0x2EAB, 1, .variant 0x76EE 0x11E⟩, ⟨0x2EAC, 1, .variant 0x793A 0x11E⟩,
      ⟨0x2EAD, 1, .spelled [0x793B] 0x4 0x4⟩, ⟨0x2EAE, 1, .variant 0x7AF9 0x11E⟩,
      ⟨0x2EAF, 1, .spelled [0x7CF9] 0x4 0x4⟩, ⟨0x2EB0, 1, .spelled [0x7E9F] 0x4 0x4⟩,
      ⟨0x2EB1, 1, .spelled [0x7F53] 0x4 0x4⟩, ⟨0x2EB2, 1, .spelled [0x7F52] 0x4 0x4⟩,
      ⟨0x2EB3, 1, .variant 0x7F53 0x11E⟩, ⟨0x2EB4, 1, .variant 0x7F53 0x124⟩,
      ⟨0x2EB5, 1, .variant 0x7F52 0x11E⟩, ⟨0x2EB6, 1, .variant 0x7F8A 0x11E⟩,
      ⟨0x2EB7, 1, .variant 0x7F8A 0x124⟩, ⟨0x2EB8, 1, .spelled [0x7F8B] 0x4 0x4⟩,
      ⟨0x2EB9, 1, .spelled [0x8002] 0x4 0x4⟩, ⟨0x2EBA, 1, .spelled [0x8080] 0x4 0x4⟩,
      ⟨0x2EBB, 1, .variant 0x807F 0x11E⟩, ⟨0x2EBC, 1, .variant 0x8089 0x11E⟩,
      ⟨0x2EBD, 1, .variant 0x81FC 0x11E⟩, ⟨0x2EBE, 1, .spelled [0x8279] 0x4 0x4⟩,
      ⟨0x2EBF, 1, .variant 0x8279 0x11E⟩, ⟨0x2EC0, 1, .variant 0x8279 0x124⟩,
      ⟨0x2EC1, 1, .spelled [0x864E] 0x4 0x4⟩, ⟨0x2EC2, 1, .spelled [0x8864] 0x4 0x4⟩,
      ⟨0x2EC3, 1, .spelled [0x8980] 0x4 0x4⟩, ⟨0x2EC4, 1, .spelled [0x897F] 0x4 0x4⟩,
      ⟨0x2EC5, 1, .spelled [0x89C1] 0x4 0x4⟩, ⟨0x2EC6, 1, .spelled [0x89D2] 0x4 0x4⟩,
      ⟨0x2EC7, 1, .variant 0x89D2 0x11E⟩, ⟨0x2EC8, 1, .spelled [0x8BA0] 0x4 0x4⟩,
      ⟨0x2EC9, 1, .spelled [0x8D1D] 0x4 0x4⟩, ⟨0x2ECA, 1, .variant 0x8DB3 0x11E⟩,
      ⟨0x2ECB, 1, .spelled [0x8F66] 0x4 0x4⟩, ⟨0x2ECC, 1, .spelled [0x8FB6] 0x4 0x4⟩,
      ⟨0x2ECD, 1, .variant 0x8FB6 0x11E⟩, ⟨0x2ECE, 1, .variant 0x8FB6 0x124⟩,
      ⟨0x2ECF, 1, .variant 0x9091 0x11E⟩, ⟨0x2ED0, 1, .spelled [0x9485] 0x4 0x4⟩,
      ⟨0x2ED1, 1, .spelled [0x9577] 0x4 0x4⟩, ⟨0x2ED2, 1, .spelled [0x9578] 0x4 0x4⟩,
      ⟨0x2ED3, 1, .spelled [0x957F] 0x4 0x4⟩, ⟨0x2ED4, 1, .spelled [0x95E8] 0x4 0x4⟩,
      ⟨0x2ED5, 1, .variant 0x961C 0x11E⟩, ⟨0x2ED6, 1, .spelled [0x961D] 0x4 0x4⟩,
      ⟨0x2ED7, 1, .variant 0x96E8 0x11E⟩, ⟨0x2ED8, 1, .spelled [0x9752] 0x4 0x4⟩,
      ⟨0x2ED9, 1, .spelled [0x97E6] 0x4 0x4⟩, ⟨0x2EDA, 1, .spelled [0x9875] 0x4 0x4⟩,
      ⟨0x2EDB, 1, .spelled [0x98CE] 0x4 0x4⟩, ⟨0x2EDC, 1, .spelled [0x98DE] 0x4 0x4⟩,
      ⟨0x2EDD, 1, .spelled [0x98DF] 0x4 0x4⟩, ⟨0x2EDE, 1, .variant 0x98E0 0x11E⟩,
      ⟨0x2EDF, 1, .spelled [0x98E0] 0x4 0x4⟩, ⟨0x2EE0, 1, .spelled [0x9963] 0x4 0x4⟩,
      ⟨0x2EE1, 1, .variant 0x9996 0x11E⟩, ⟨0x2EE2, 1, .spelled [0x9A6C] 0x4 0x4⟩,
      ⟨0x2EE3, 1, .variant 0x9AA8 0x11E⟩, ⟨0x2EE4, 1, .variant 0x9B3C 0x11E⟩,
      ⟨0x2EE5, 1, .spelled [0x9C7C] 0x4 0x4⟩, ⟨0x2EE6, 1, .spelled [0x9E1F] 0x4 0x4⟩,
      ⟨0x2EE7, 1, .variant 0x9E75 0x11E⟩, ⟨0x2EE8, 1, .spelled [0x9EA6] 0x4 0x4⟩,
      ⟨0x2EE9, 1, .spelled [0x9EC4] 0x4 0x4⟩, ⟨0x2EEA, 1, .spelled [0x9EFE] 0x4 0x4⟩,
      ⟨0x2EEB, 1, .variant 0x9F4A 0x11E⟩, ⟨0x2EEC, 1, .spelled [0x9F50] 0x4 0x4⟩,
      ⟨0x2EED, 1, .variant 0x9F52 0x11E⟩, ⟨0x2EEE, 1, .spelled [0x9F7F] 0x4 0x4⟩,
      ⟨0x2EEF, 1, .variant 0x9F8D 0x11E⟩, ⟨0x2EF0, 1, .spelled [0x9F99] 0x4 0x4⟩,
      ⟨0x2EF1, 1, .variant 0x9F9C 0x11E⟩, ⟨0x2EF2, 1, .variant 0x9F9C 0x124⟩,
      ⟨0x2EF3, 1, .spelled [0x9F9F] 0x4 0x4⟩]⟩

def kangxiRadicalsSpans1 : List Span :=
  [⟨0x2F00, 1, .spelled [0x4E00] 0x4 0x4⟩, ⟨0x2F01, 1, .spelled [0x4E28] 0x4 0x4⟩,
    ⟨0x2F02, 1, .spelled [0x4E36] 0x4 0x4⟩, ⟨0x2F03, 1, .spelled [0x4E3F] 0x4 0x4⟩,
    ⟨0x2F04, 1, .spelled [0x4E59] 0x4 0x4⟩, ⟨0x2F05, 1, .spelled [0x4E85] 0x4 0x4⟩,
    ⟨0x2F06, 1, .spelled [0x4E8C] 0x4 0x4⟩, ⟨0x2F07, 1, .spelled [0x4EA0] 0x4 0x4⟩,
    ⟨0x2F08, 1, .spelled [0x4EBA] 0x4 0x4⟩, ⟨0x2F09, 1, .spelled [0x513F] 0x4 0x4⟩,
    ⟨0x2F0A, 1, .spelled [0x5165] 0x4 0x4⟩, ⟨0x2F0B, 1, .spelled [0x516B] 0x4 0x4⟩,
    ⟨0x2F0C, 1, .spelled [0x5182] 0x4 0x4⟩, ⟨0x2F0D, 1, .spelled [0x5196] 0x4 0x4⟩,
    ⟨0x2F0E, 1, .spelled [0x51AB] 0x4 0x4⟩, ⟨0x2F0F, 1, .spelled [0x51E0] 0x4 0x4⟩,
    ⟨0x2F10, 1, .spelled [0x51F5] 0x4 0x4⟩, ⟨0x2F11, 1, .spelled [0x5200] 0x4 0x4⟩,
    ⟨0x2F12, 1, .spelled [0x529B] 0x4 0x4⟩, ⟨0x2F13, 1, .spelled [0x52F9] 0x4 0x4⟩,
    ⟨0x2F14, 1, .spelled [0x5315] 0x4 0x4⟩, ⟨0x2F15, 1, .spelled [0x531A] 0x4 0x4⟩,
    ⟨0x2F16, 1, .spelled [0x5338] 0x4 0x4⟩, ⟨0x2F17, 1, .spelled [0x5341] 0x4 0x4⟩,
    ⟨0x2F18, 1, .spelled [0x535C] 0x4 0x4⟩, ⟨0x2F19, 1, .spelled [0x5369] 0x4 0x4⟩,
    ⟨0x2F1A, 1, .spelled [0x5382] 0x4 0x4⟩, ⟨0x2F1B, 1, .spelled [0x53B6] 0x4 0x4⟩,
    ⟨0x2F1C, 1, .spelled [0x53C8] 0x4 0x4⟩, ⟨0x2F1D, 1, .spelled [0x53E3] 0x4 0x4⟩,
    ⟨0x2F1E, 1, .spelled [0x56D7] 0x4 0x4⟩, ⟨0x2F1F, 1, .spelled [0x571F] 0x4 0x4⟩,
    ⟨0x2F20, 1, .spelled [0x58EB] 0x4 0x4⟩, ⟨0x2F21, 1, .spelled [0x5902] 0x4 0x4⟩,
    ⟨0x2F22, 1, .spelled [0x590A] 0x4 0x4⟩, ⟨0x2F23, 1, .spelled [0x5915] 0x4 0x4⟩,
    ⟨0x2F24, 1, .spelled [0x5927] 0x4 0x4⟩, ⟨0x2F25, 1, .spelled [0x5973] 0x4 0x4⟩,
    ⟨0x2F26, 1, .spelled [0x5B50] 0x4 0x4⟩, ⟨0x2F27, 1, .spelled [0x5B80] 0x4 0x4⟩,
    ⟨0x2F28, 1, .spelled [0x5BF8] 0x4 0x4⟩, ⟨0x2F29, 1, .spelled [0x5C0F] 0x4 0x4⟩,
    ⟨0x2F2A, 1, .spelled [0x5C22] 0x4 0x4⟩, ⟨0x2F2B, 1, .spelled [0x5C38] 0x4 0x4⟩,
    ⟨0x2F2C, 1, .spelled [0x5C6E] 0x4 0x4⟩, ⟨0x2F2D, 1, .spelled [0x5C71] 0x4 0x4⟩,
    ⟨0x2F2E, 1, .spelled [0x5DDB] 0x4 0x4⟩, ⟨0x2F2F, 1, .spelled [0x5DE5] 0x4 0x4⟩,
    ⟨0x2F30, 1, .spelled [0x5DF1] 0x4 0x4⟩, ⟨0x2F31, 1, .spelled [0x5DFE] 0x4 0x4⟩,
    ⟨0x2F32, 1, .spelled [0x5E72] 0x4 0x4⟩, ⟨0x2F33, 1, .spelled [0x5E7A] 0x4 0x4⟩,
    ⟨0x2F34, 1, .spelled [0x5E7F] 0x4 0x4⟩, ⟨0x2F35, 1, .spelled [0x5EF4] 0x4 0x4⟩,
    ⟨0x2F36, 1, .spelled [0x5EFE] 0x4 0x4⟩, ⟨0x2F37, 1, .spelled [0x5F0B] 0x4 0x4⟩,
    ⟨0x2F38, 1, .spelled [0x5F13] 0x4 0x4⟩, ⟨0x2F39, 1, .spelled [0x5F50] 0x4 0x4⟩,
    ⟨0x2F3A, 1, .spelled [0x5F61] 0x4 0x4⟩, ⟨0x2F3B, 1, .spelled [0x5F73] 0x4 0x4⟩,
    ⟨0x2F3C, 1, .spelled [0x5FC3] 0x4 0x4⟩, ⟨0x2F3D, 1, .spelled [0x6208] 0x4 0x4⟩,
    ⟨0x2F3E, 1, .spelled [0x6236] 0x4 0x4⟩, ⟨0x2F3F, 1, .spelled [0x624B] 0x4 0x4⟩,
    ⟨0x2F40, 1, .spelled [0x652F] 0x4 0x4⟩, ⟨0x2F41, 1, .spelled [0x6534] 0x4 0x4⟩,
    ⟨0x2F42, 1, .spelled [0x6587] 0x4 0x4⟩, ⟨0x2F43, 1, .spelled [0x6597] 0x4 0x4⟩,
    ⟨0x2F44, 1, .spelled [0x65A4] 0x4 0x4⟩, ⟨0x2F45, 1, .spelled [0x65B9] 0x4 0x4⟩,
    ⟨0x2F46, 1, .spelled [0x65E0] 0x4 0x4⟩, ⟨0x2F47, 1, .spelled [0x65E5] 0x4 0x4⟩,
    ⟨0x2F48, 1, .spelled [0x66F0] 0x4 0x4⟩, ⟨0x2F49, 1, .spelled [0x6708] 0x4 0x4⟩,
    ⟨0x2F4A, 1, .spelled [0x6728] 0x4 0x4⟩, ⟨0x2F4B, 1, .spelled [0x6B20] 0x4 0x4⟩,
    ⟨0x2F4C, 1, .spelled [0x6B62] 0x4 0x4⟩, ⟨0x2F4D, 1, .spelled [0x6B79] 0x4 0x4⟩,
    ⟨0x2F4E, 1, .spelled [0x6BB3] 0x4 0x4⟩, ⟨0x2F4F, 1, .spelled [0x6BCB] 0x4 0x4⟩,
    ⟨0x2F50, 1, .spelled [0x6BD4] 0x4 0x4⟩, ⟨0x2F51, 1, .spelled [0x6BDB] 0x4 0x4⟩,
    ⟨0x2F52, 1, .spelled [0x6C0F] 0x4 0x4⟩, ⟨0x2F53, 1, .spelled [0x6C14] 0x4 0x4⟩,
    ⟨0x2F54, 1, .spelled [0x6C34] 0x4 0x4⟩, ⟨0x2F55, 1, .spelled [0x706B] 0x4 0x4⟩,
    ⟨0x2F56, 1, .spelled [0x722A] 0x4 0x4⟩, ⟨0x2F57, 1, .spelled [0x7236] 0x4 0x4⟩,
    ⟨0x2F58, 1, .spelled [0x723B] 0x4 0x4⟩, ⟨0x2F59, 1, .spelled [0x723F] 0x4 0x4⟩,
    ⟨0x2F5A, 1, .spelled [0x7247] 0x4 0x4⟩, ⟨0x2F5B, 1, .spelled [0x7259] 0x4 0x4⟩,
    ⟨0x2F5C, 1, .spelled [0x725B] 0x4 0x4⟩, ⟨0x2F5D, 1, .spelled [0x72AC] 0x4 0x4⟩,
    ⟨0x2F5E, 1, .spelled [0x7384] 0x4 0x4⟩, ⟨0x2F5F, 1, .spelled [0x7389] 0x4 0x4⟩,
    ⟨0x2F60, 1, .spelled [0x74DC] 0x4 0x4⟩, ⟨0x2F61, 1, .spelled [0x74E6] 0x4 0x4⟩,
    ⟨0x2F62, 1, .spelled [0x7518] 0x4 0x4⟩, ⟨0x2F63, 1, .spelled [0x751F] 0x4 0x4⟩,
    ⟨0x2F64, 1, .spelled [0x7528] 0x4 0x4⟩, ⟨0x2F65, 1, .spelled [0x7530] 0x4 0x4⟩,
    ⟨0x2F66, 1, .spelled [0x758B] 0x4 0x4⟩, ⟨0x2F67, 1, .spelled [0x7592] 0x4 0x4⟩,
    ⟨0x2F68, 1, .spelled [0x7676] 0x4 0x4⟩, ⟨0x2F69, 1, .spelled [0x767D] 0x4 0x4⟩,
    ⟨0x2F6A, 1, .spelled [0x76AE] 0x4 0x4⟩, ⟨0x2F6B, 1, .spelled [0x76BF] 0x4 0x4⟩,
    ⟨0x2F6C, 1, .spelled [0x76EE] 0x4 0x4⟩, ⟨0x2F6D, 1, .spelled [0x77DB] 0x4 0x4⟩,
    ⟨0x2F6E, 1, .spelled [0x77E2] 0x4 0x4⟩, ⟨0x2F6F, 1, .spelled [0x77F3] 0x4 0x4⟩,
    ⟨0x2F70, 1, .spelled [0x793A] 0x4 0x4⟩, ⟨0x2F71, 1, .spelled [0x79B8] 0x4 0x4⟩,
    ⟨0x2F72, 1, .spelled [0x79BE] 0x4 0x4⟩, ⟨0x2F73, 1, .spelled [0x7A74] 0x4 0x4⟩,
    ⟨0x2F74, 1, .spelled [0x7ACB] 0x4 0x4⟩, ⟨0x2F75, 1, .spelled [0x7AF9] 0x4 0x4⟩,
    ⟨0x2F76, 1, .spelled [0x7C73] 0x4 0x4⟩, ⟨0x2F77, 1, .spelled [0x7CF8] 0x4 0x4⟩,
    ⟨0x2F78, 1, .spelled [0x7F36] 0x4 0x4⟩, ⟨0x2F79, 1, .spelled [0x7F51] 0x4 0x4⟩,
    ⟨0x2F7A, 1, .spelled [0x7F8A] 0x4 0x4⟩, ⟨0x2F7B, 1, .spelled [0x7FBD] 0x4 0x4⟩,
    ⟨0x2F7C, 1, .spelled [0x8001] 0x4 0x4⟩, ⟨0x2F7D, 1, .spelled [0x800C] 0x4 0x4⟩,
    ⟨0x2F7E, 1, .spelled [0x8012] 0x4 0x4⟩, ⟨0x2F7F, 1, .spelled [0x8033] 0x4 0x4⟩,
    ⟨0x2F80, 1, .spelled [0x807F] 0x4 0x4⟩, ⟨0x2F81, 1, .spelled [0x8089] 0x4 0x4⟩,
    ⟨0x2F82, 1, .spelled [0x81E3] 0x4 0x4⟩, ⟨0x2F83, 1, .spelled [0x81EA] 0x4 0x4⟩,
    ⟨0x2F84, 1, .spelled [0x81F3] 0x4 0x4⟩, ⟨0x2F85, 1, .spelled [0x81FC] 0x4 0x4⟩,
    ⟨0x2F86, 1, .spelled [0x820C] 0x4 0x4⟩, ⟨0x2F87, 1, .spelled [0x821B] 0x4 0x4⟩,
    ⟨0x2F88, 1, .spelled [0x821F] 0x4 0x4⟩, ⟨0x2F89, 1, .spelled [0x826E] 0x4 0x4⟩,
    ⟨0x2F8A, 1, .spelled [0x8272] 0x4 0x4⟩, ⟨0x2F8B, 1, .spelled [0x8278] 0x4 0x4⟩,
    ⟨0x2F8C, 1, .spelled [0x864D] 0x4 0x4⟩, ⟨0x2F8D, 1, .spelled [0x866B] 0x4 0x4⟩,
    ⟨0x2F8E, 1, .spelled [0x8840] 0x4 0x4⟩, ⟨0x2F8F, 1, .spelled [0x884C] 0x4 0x4⟩,
    ⟨0x2F90, 1, .spelled [0x8863] 0x4 0x4⟩, ⟨0x2F91, 1, .spelled [0x897E] 0x4 0x4⟩,
    ⟨0x2F92, 1, .spelled [0x898B] 0x4 0x4⟩, ⟨0x2F93, 1, .spelled [0x89D2] 0x4 0x4⟩,
    ⟨0x2F94, 1, .spelled [0x8A00] 0x4 0x4⟩, ⟨0x2F95, 1, .spelled [0x8C37] 0x4 0x4⟩]

def kangxiRadicalsSpans2 : List Span :=
  [⟨0x2F96, 1, .spelled [0x8C46] 0x4 0x4⟩, ⟨0x2F97, 1, .spelled [0x8C55] 0x4 0x4⟩,
    ⟨0x2F98, 1, .spelled [0x8C78] 0x4 0x4⟩, ⟨0x2F99, 1, .spelled [0x8C9D] 0x4 0x4⟩,
    ⟨0x2F9A, 1, .spelled [0x8D64] 0x4 0x4⟩, ⟨0x2F9B, 1, .spelled [0x8D70] 0x4 0x4⟩,
    ⟨0x2F9C, 1, .spelled [0x8DB3] 0x4 0x4⟩, ⟨0x2F9D, 1, .spelled [0x8EAB] 0x4 0x4⟩,
    ⟨0x2F9E, 1, .spelled [0x8ECA] 0x4 0x4⟩, ⟨0x2F9F, 1, .spelled [0x8F9B] 0x4 0x4⟩,
    ⟨0x2FA0, 1, .spelled [0x8FB0] 0x4 0x4⟩, ⟨0x2FA1, 1, .spelled [0x8FB5] 0x4 0x4⟩,
    ⟨0x2FA2, 1, .spelled [0x9091] 0x4 0x4⟩, ⟨0x2FA3, 1, .spelled [0x9149] 0x4 0x4⟩,
    ⟨0x2FA4, 1, .spelled [0x91C6] 0x4 0x4⟩, ⟨0x2FA5, 1, .spelled [0x91CC] 0x4 0x4⟩,
    ⟨0x2FA6, 1, .spelled [0x91D1] 0x4 0x4⟩, ⟨0x2FA7, 1, .spelled [0x9577] 0x4 0x4⟩,
    ⟨0x2FA8, 1, .spelled [0x9580] 0x4 0x4⟩, ⟨0x2FA9, 1, .spelled [0x961C] 0x4 0x4⟩,
    ⟨0x2FAA, 1, .spelled [0x96B6] 0x4 0x4⟩, ⟨0x2FAB, 1, .spelled [0x96B9] 0x4 0x4⟩,
    ⟨0x2FAC, 1, .spelled [0x96E8] 0x4 0x4⟩, ⟨0x2FAD, 1, .spelled [0x9751] 0x4 0x4⟩,
    ⟨0x2FAE, 1, .spelled [0x975E] 0x4 0x4⟩, ⟨0x2FAF, 1, .spelled [0x9762] 0x4 0x4⟩,
    ⟨0x2FB0, 1, .spelled [0x9769] 0x4 0x4⟩, ⟨0x2FB1, 1, .spelled [0x97CB] 0x4 0x4⟩,
    ⟨0x2FB2, 1, .spelled [0x97ED] 0x4 0x4⟩, ⟨0x2FB3, 1, .spelled [0x97F3] 0x4 0x4⟩,
    ⟨0x2FB4, 1, .spelled [0x9801] 0x4 0x4⟩, ⟨0x2FB5, 1, .spelled [0x98A8] 0x4 0x4⟩,
    ⟨0x2FB6, 1, .spelled [0x98DB] 0x4 0x4⟩, ⟨0x2FB7, 1, .spelled [0x98DF] 0x4 0x4⟩,
    ⟨0x2FB8, 1, .spelled [0x9996] 0x4 0x4⟩, ⟨0x2FB9, 1, .spelled [0x9999] 0x4 0x4⟩,
    ⟨0x2FBA, 1, .spelled [0x99AC] 0x4 0x4⟩, ⟨0x2FBB, 1, .spelled [0x9AA8] 0x4 0x4⟩,
    ⟨0x2FBC, 1, .spelled [0x9AD8] 0x4 0x4⟩, ⟨0x2FBD, 1, .spelled [0x9ADF] 0x4 0x4⟩,
    ⟨0x2FBE, 1, .spelled [0x9B25] 0x4 0x4⟩, ⟨0x2FBF, 1, .spelled [0x9B2F] 0x4 0x4⟩,
    ⟨0x2FC0, 1, .spelled [0x9B32] 0x4 0x4⟩, ⟨0x2FC1, 1, .spelled [0x9B3C] 0x4 0x4⟩,
    ⟨0x2FC2, 1, .spelled [0x9B5A] 0x4 0x4⟩, ⟨0x2FC3, 1, .spelled [0x9CE5] 0x4 0x4⟩,
    ⟨0x2FC4, 1, .spelled [0x9E75] 0x4 0x4⟩, ⟨0x2FC5, 1, .spelled [0x9E7F] 0x4 0x4⟩,
    ⟨0x2FC6, 1, .spelled [0x9EA5] 0x4 0x4⟩, ⟨0x2FC7, 1, .spelled [0x9EBB] 0x4 0x4⟩,
    ⟨0x2FC8, 1, .spelled [0x9EC3] 0x4 0x4⟩, ⟨0x2FC9, 1, .spelled [0x9ECD] 0x4 0x4⟩,
    ⟨0x2FCA, 1, .spelled [0x9ED1] 0x4 0x4⟩, ⟨0x2FCB, 1, .spelled [0x9EF9] 0x4 0x4⟩,
    ⟨0x2FCC, 1, .spelled [0x9EFD] 0x4 0x4⟩, ⟨0x2FCD, 1, .spelled [0x9F0E] 0x4 0x4⟩,
    ⟨0x2FCE, 1, .spelled [0x9F13] 0x4 0x4⟩, ⟨0x2FCF, 1, .spelled [0x9F20] 0x4 0x4⟩,
    ⟨0x2FD0, 1, .spelled [0x9F3B] 0x4 0x4⟩, ⟨0x2FD1, 1, .spelled [0x9F4A] 0x4 0x4⟩,
    ⟨0x2FD2, 1, .spelled [0x9F52] 0x4 0x4⟩, ⟨0x2FD3, 1, .spelled [0x9F8D] 0x4 0x4⟩,
    ⟨0x2FD4, 1, .spelled [0x9F9C] 0x4 0x4⟩, ⟨0x2FD5, 1, .spelled [0x9FA0] 0x4 0x4⟩]

def kangxiRadicals : Chart :=
  ⟨0x2F00, 0x2FDF, kangxiRadicalsSpans1 ++ kangxiRadicalsSpans2⟩

def ideographicDescriptionCharacters : Chart :=
  ⟨0x2FF0, 0x2FFF,
    [⟨0x2FF0, 16, .letter 0x20E8 0x20 0x2⟩]⟩

def kanbun : Chart :=
  ⟨0x3190, 0x319F,
    [⟨0x3190, 2, .letter 0x2126 0x20 0x2⟩, ⟨0x3192, 1, .spelled [0x4E00] 0x14 0x14⟩,
      ⟨0x3193, 1, .spelled [0x4E8C] 0x14 0x14⟩, ⟨0x3194, 1, .spelled [0x4E09] 0x14 0x14⟩,
      ⟨0x3195, 1, .spelled [0x56DB] 0x14 0x14⟩, ⟨0x3196, 1, .spelled [0x4E0A] 0x14 0x14⟩,
      ⟨0x3197, 1, .spelled [0x4E2D] 0x14 0x14⟩, ⟨0x3198, 1, .spelled [0x4E0B] 0x14 0x14⟩,
      ⟨0x3199, 1, .spelled [0x7532] 0x14 0x14⟩, ⟨0x319A, 1, .spelled [0x4E59] 0x14 0x14⟩,
      ⟨0x319B, 1, .spelled [0x4E19] 0x14 0x14⟩, ⟨0x319C, 1, .spelled [0x4E01] 0x14 0x14⟩,
      ⟨0x319D, 1, .spelled [0x5929] 0x14 0x14⟩, ⟨0x319E, 1, .spelled [0x5730] 0x14 0x14⟩,
      ⟨0x319F, 1, .spelled [0x4EBA] 0x14 0x14⟩]⟩

def cjkStrokes : Chart :=
  ⟨0x31C0, 0x31EF,
    [⟨0x31C0, 38, .letter 0x20F9 0x20 0x2⟩, ⟨0x31EF, 1, .letter 0x20F8 0x20 0x2⟩]⟩

def enclosedCjkLettersAndMonthsSpans1 : List Span :=
  [⟨0x3200, 1, .spelled [0x28, 0x1100, 0x29] 0x4 0x4⟩,
    ⟨0x3201, 1, .spelled [0x28, 0x1102, 0x29] 0x4 0x4⟩,
    ⟨0x3202, 1, .spelled [0x28, 0x1103, 0x29] 0x4 0x4⟩,
    ⟨0x3203, 1, .spelled [0x28, 0x1105, 0x29] 0x4 0x4⟩,
    ⟨0x3204, 1, .spelled [0x28, 0x1106, 0x29] 0x4 0x4⟩,
    ⟨0x3205, 1, .spelled [0x28, 0x1107, 0x29] 0x4 0x4⟩,
    ⟨0x3206, 1, .spelled [0x28, 0x1109, 0x29] 0x4 0x4⟩,
    ⟨0x3207, 1, .spelled [0x28, 0x110B, 0x29] 0x4 0x4⟩,
    ⟨0x3208, 1, .spelled [0x28, 0x110C, 0x29] 0x4 0x4⟩,
    ⟨0x3209, 1, .spelled [0x28, 0x110E, 0x29] 0x4 0x4⟩,
    ⟨0x320A, 1, .spelled [0x28, 0x110F, 0x29] 0x4 0x4⟩,
    ⟨0x320B, 1, .spelled [0x28, 0x1110, 0x29] 0x4 0x4⟩,
    ⟨0x320C, 1, .spelled [0x28, 0x1111, 0x29] 0x4 0x4⟩,
    ⟨0x320D, 1, .spelled [0x28, 0x1112, 0x29] 0x4 0x4⟩,
    ⟨0x320E, 1, .spelled [0x28, 0x1100, 0x1161, 0x29] 0x4 0x4⟩,
    ⟨0x320F, 1, .spelled [0x28, 0x1102, 0x1161, 0x29] 0x4 0x4⟩,
    ⟨0x3210, 1, .spelled [0x28, 0x1103, 0x1161, 0x29] 0x4 0x4⟩,
    ⟨0x3211, 1, .spelled [0x28, 0x1105, 0x1161, 0x29] 0x4 0x4⟩,
    ⟨0x3212, 1, .spelled [0x28, 0x1106, 0x1161, 0x29] 0x4 0x4⟩,
    ⟨0x3213, 1, .spelled [0x28, 0x1107, 0x1161, 0x29] 0x4 0x4⟩,
    ⟨0x3214, 1, .spelled [0x28, 0x1109, 0x1161, 0x29] 0x4 0x4⟩,
    ⟨0x3215, 1, .spelled [0x28, 0x110B, 0x1161, 0x29] 0x4 0x4⟩,
    ⟨0x3216, 1, .spelled [0x28, 0x110C, 0x1161, 0x29] 0x4 0x4⟩,
    ⟨0x3217, 1, .spelled [0x28, 0x110E, 0x1161, 0x29] 0x4 0x4⟩,
    ⟨0x3218, 1, .spelled [0x28, 0x110F, 0x1161, 0x29] 0x4 0x4⟩,
    ⟨0x3219, 1, .spelled [0x28, 0x1110, 0x1161, 0x29] 0x4 0x4⟩,
    ⟨0x321A, 1, .spelled [0x28, 0x1111, 0x1161, 0x29] 0x4 0x4⟩,
    ⟨0x321B, 1, .spelled [0x28, 0x1112, 0x1161, 0x29] 0x4 0x4⟩,
    ⟨0x321C, 1, .spelled [0x28, 0x110C, 0x116E, 0x29] 0x4 0x4⟩,
    ⟨0x321D, 1, .spelled [0x28, 0x110B, 0x1169, 0x110C, 0x1165, 0x11AB, 0x29] 0x4 0x4⟩,
    ⟨0x321E, 1, .spelled [0x28, 0x110B, 0x1169, 0x1112, 0x116E, 0x29] 0x4 0x4⟩,
    ⟨0x3220, 1, .spelled [0x28, 0x4E00, 0x29] 0x4 0x4⟩,
    ⟨0x3221, 1, .spelled [0x28, 0x4E8C, 0x29] 0x4 0x4⟩,
    ⟨0x3222, 1, .spelled [0x28, 0x4E09, 0x29] 0x4 0x4⟩,
    ⟨0x3223, 1, .spelled [0x28, 0x56DB, 0x29] 0x4 0x4⟩,
    ⟨0x3224, 1, .spelled [0x28, 0x4E94, 0x29] 0x4 0x4⟩,
    ⟨0x3225, 1, .spelled [0x28, 0x516D, 0x29] 0x4 0x4⟩,
    ⟨0x3226, 1, .spelled [0x28, 0x4E03, 0x29] 0x4 0x4⟩,
    ⟨0x3227, 1, .spelled [0x28, 0x516B, 0x29] 0x4 0x4⟩,
    ⟨0x3228, 1, .spelled [0x28, 0x4E5D, 0x29] 0x4 0x4⟩,
    ⟨0x3229, 1, .spelled [0x28, 0x5341, 0x29] 0x4 0x4⟩,
    ⟨0x322A, 1, .spelled [0x28, 0x6708, 0x29] 0x4 0x4⟩,
    ⟨0x322B, 1, .spelled [0x28, 0x706B, 0x29] 0x4 0x4⟩,
    ⟨0x322C, 1, .spelled [0x28, 0x6C34, 0x29] 0x4 0x4⟩,
    ⟨0x322D, 1, .spelled [0x28, 0x6728, 0x29] 0x4 0x4⟩,
    ⟨0x322E, 1, .spelled [0x28, 0x91D1, 0x29] 0x4 0x4⟩,
    ⟨0x322F, 1, .spelled [0x28, 0x571F, 0x29] 0x4 0x4⟩,
    ⟨0x3230, 1, .spelled [0x28, 0x65E5, 0x29] 0x4 0x4⟩,
    ⟨0x3231, 1, .spelled [0x28, 0x682A, 0x29] 0x4 0x4⟩,
    ⟨0x3232, 1, .spelled [0x28, 0x6709, 0x29] 0x4 0x4⟩,
    ⟨0x3233, 1, .spelled [0x28, 0x793E, 0x29] 0x4 0x4⟩,
    ⟨0x3234, 1, .spelled [0x28, 0x540D, 0x29] 0x4 0x4⟩,
    ⟨0x3235, 1, .spelled [0x28, 0x7279, 0x29] 0x4 0x4⟩,
    ⟨0x3236, 1, .spelled [0x28, 0x8CA1, 0x29] 0x4 0x4⟩,
    ⟨0x3237, 1, .spelled [0x28, 0x795D, 0x29] 0x4 0x4⟩,
    ⟨0x3238, 1, .spelled [0x28, 0x52B4, 0x29] 0x4 0x4⟩,
    ⟨0x3239, 1, .spelled [0x28, 0x4EE3, 0x29] 0x4 0x4⟩,
    ⟨0x323A, 1, .spelled [0x28, 0x547C, 0x29] 0x4 0x4⟩,
    ⟨0x323B, 1, .spelled [0x28, 0x5B66, 0x29] 0x4 0x4⟩,
    ⟨0x323C, 1, .spelled [0x28, 0x76E3, 0x29] 0x4 0x4⟩,
    ⟨0x323D, 1, .spelled [0x28, 0x4F01, 0x29] 0x4 0x4⟩,
    ⟨0x323E, 1, .spelled [0x28, 0x8CC7, 0x29] 0x4 0x4⟩,
    ⟨0x323F, 1, .spelled [0x28, 0x5354, 0x29] 0x4 0x4⟩,
    ⟨0x3240, 1, .spelled [0x28, 0x796D, 0x29] 0x4 0x4⟩,
    ⟨0x3241, 1, .spelled [0x28, 0x4F11, 0x29] 0x4 0x4⟩,
    ⟨0x3242, 1, .spelled [0x28, 0x81EA, 0x29] 0x4 0x4⟩,
    ⟨0x3243, 1, .spelled [0x28, 0x81F3, 0x29] 0x4 0x4⟩, ⟨0x3244, 1, .spelled [0x554F] 0x6 0x6⟩,
    ⟨0x3245, 1, .spelled [0x5E7C] 0x6 0x6⟩, ⟨0x3246, 1, .spelled [0x6587] 0x6 0x6⟩,
    ⟨0x3247, 1, .spelled [0x7B8F] 0x6 0x6⟩,
    ⟨0x3248, 1, .several [.letter 0x217E 0x20 0x6, .letter 0x217D 0x20 0x6]⟩,
    ⟨0x3249, 1, .several [.letter 0x217F 0x20 0x6, .letter 0x217D 0x20 0x6]⟩,
    ⟨0x324A, 1, .several [.letter 0x2180 0x20 0x6, .letter 0x217D 0x20 0x6]⟩,
    ⟨0x324B, 1, .several [.letter 0x2181 0x20 0x6, .letter 0x217D 0x20 0x6]⟩,
    ⟨0x324C, 1, .several [.letter 0x2182 0x20 0x6, .letter 0x217D 0x20 0x6]⟩,
    ⟨0x324D, 1, .several [.letter 0x2183 0x20 0x6, .letter 0x217D 0x20 0x6]⟩,
    ⟨0x324E, 1, .several [.letter 0x2184 0x20 0x6, .letter 0x217D 0x20 0x6]⟩,
    ⟨0x324F, 1, .several [.letter 0x2185 0x20 0x6, .letter 0x217D 0x20 0x6]⟩,
    ⟨0x3250, 1, .spelled [0x50, 0x54, 0x45] 0x1D 0x1D⟩,
    ⟨0x3251, 1, .spelled [0x32, 0x31] 0x6 0x6⟩, ⟨0x3252, 1, .spelled [0x32, 0x32] 0x6 0x6⟩,
    ⟨0x3253, 1, .spelled [0x32, 0x33] 0x6 0x6⟩, ⟨0x3254, 1, .spelled [0x32, 0x34] 0x6 0x6⟩,
    ⟨0x3255, 1, .spelled [0x32, 0x35] 0x6 0x6⟩, ⟨0x3256, 1, .spelled [0x32, 0x36] 0x6 0x6⟩,
    ⟨0x3257, 1, .spelled [0x32, 0x37] 0x6 0x6⟩, ⟨0x3258, 1, .spelled [0x32, 0x38] 0x6 0x6⟩,
    ⟨0x3259, 1, .spelled [0x32, 0x39] 0x6 0x6⟩, ⟨0x325A, 1, .spelled [0x33, 0x30] 0x6 0x6⟩,
    ⟨0x325B, 1, .spelled [0x33, 0x31] 0x6 0x6⟩, ⟨0x325C, 1, .spelled [0x33, 0x32] 0x6 0x6⟩,
    ⟨0x325D, 1, .spelled [0x33, 0x33] 0x6 0x6⟩, ⟨0x325E, 1, .spelled [0x33, 0x34] 0x6 0x6⟩,
    ⟨0x325F, 1, .spelled [0x33, 0x35] 0x6 0x6⟩, ⟨0x3260, 1, .letter 0x436A 0x20 0x6⟩,
    ⟨0x3261, 2, .letter 0x436C 0x20 0x6⟩, ⟨0x3263, 3, .letter 0x436F 0x20 0x6⟩,
    ⟨0x3266, 1, .letter 0x4373 0x20 0x6⟩, ⟨0x3267, 2, .letter 0x4375 0x20 0x6⟩,
    ⟨0x3269, 5, .letter 0x4378 0x20 0x6⟩, ⟨0x326E, 1, .spelled [0x1100, 0x1161] 0x6 0x6⟩,
    ⟨0x326F, 1, .spelled [0x1102, 0x1161] 0x6 0x6⟩,
    ⟨0x3270, 1, .spelled [0x1103, 0x1161] 0x6 0x6⟩,
    ⟨0x3271, 1, .spelled [0x1105, 0x1161] 0x6 0x6⟩,
    ⟨0x3272, 1, .spelled [0x1106, 0x1161] 0x6 0x6⟩,
    ⟨0x3273, 1, .spelled [0x1107, 0x1161] 0x6 0x6⟩,
    ⟨0x3274, 1, .spelled [0x1109, 0x1161] 0x6 0x6⟩,
    ⟨0x3275, 1, .spelled [0x110B, 0x1161] 0x6 0x6⟩,
    ⟨0x3276, 1, .spelled [0x110C, 0x1161] 0x6 0x6⟩,
    ⟨0x3277, 1, .spelled [0x110E, 0x1161] 0x6 0x6⟩,
    ⟨0x3278, 1, .spelled [0x110F, 0x1161] 0x6 0x6⟩,
    ⟨0x3279, 1, .spelled [0x1110, 0x1161] 0x6 0x6⟩,
    ⟨0x327A, 1, .spelled [0x1111, 0x1161] 0x6 0x6⟩,
    ⟨0x327B, 1, .spelled [0x1112, 0x1161] 0x6 0x6⟩,
    ⟨0x327C, 1, .spelled [0x110E, 0x1161, 0x11B7, 0x1100, 0x1169] 0x6 0x6⟩,
    ⟨0x327D, 1, .spelled [0x110C, 0x116E, 0x110B, 0x1174] 0x6 0x6⟩,
    ⟨0x327E, 1, .spelled [0x110B, 0x116E] 0x6 0x6⟩, ⟨0x327F, 1, .letter 0x2128 0x20 0x2⟩,
    ⟨0x3280, 1, .spelled [0x4E00] 0x6 0x6⟩, ⟨0x3281, 1, .spelled [0x4E8C] 0x6 0x6⟩,
    ⟨0x3282, 1, .spelled [0x4E09] 0x6 0x6⟩, ⟨0x3283, 1, .spelled [0x56DB] 0x6 0x6⟩,
    ⟨0x3284, 1, .spelled [0x4E94] 0x6 0x6⟩, ⟨0x3285, 1, .spelled [0x516D] 0x6 0x6⟩,
    ⟨0x3286, 1, .spelled [0x4E03] 0x6 0x6⟩, ⟨0x3287, 1, .spelled [0x516B] 0x6 0x6⟩,
    ⟨0x3288, 1, .spelled [0x4E5D] 0x6 0x6⟩, ⟨0x3289, 1, .spelled [0x5341] 0x6 0x6⟩,
    ⟨0x328A, 1, .spelled [0x6708] 0x6 0x6⟩, ⟨0x328B, 1, .spelled [0x706B] 0x6 0x6⟩,
    ⟨0x328C, 1, .spelled [0x6C34] 0x6 0x6⟩, ⟨0x328D, 1, .spelled [0x6728] 0x6 0x6⟩,
    ⟨0x328E, 1, .spelled [0x91D1] 0x6 0x6⟩, ⟨0x328F, 1, .spelled [0x571F] 0x6 0x6⟩,
    ⟨0x3290, 1, .spelled [0x65E5] 0x6 0x6⟩, ⟨0x3291, 1, .spelled [0x682A] 0x6 0x6⟩,
    ⟨0x3292, 1, .spelled [0x6709] 0x6 0x6⟩, ⟨0x3293, 1, .spelled [0x793E] 0x6 0x6⟩,
    ⟨0x3294, 1, .spelled [0x540D] 0x6 0x6⟩, ⟨0x3295, 1, .spelled [0x7279] 0x6 0x6⟩,
    ⟨0x3296, 1, .spelled [0x8CA1] 0x6 0x6⟩, ⟨0x3297, 1, .spelled [0x795D] 0x6 0x6⟩,
    ⟨0x3298, 1, .spelled [0x52B4] 0x6 0x6⟩, ⟨0x3299, 1, .spelled [0x79D8] 0x6 0x6⟩,
    ⟨0x329A, 1, .spelled [0x7537] 0x6 0x6⟩, ⟨0x329B, 1, .spelled [0x5973] 0x6 0x6⟩,
    ⟨0x329C, 1, .spelled [0x9069] 0x6 0x6⟩, ⟨0x329D, 1, .spelled [0x512A] 0x6 0x6⟩,
    ⟨0x329E, 1, .spelled [0x5370] 0x6 0x6⟩]

def enclosedCjkLettersAndMonthsSpans2 : List Span :=
  [⟨0x329F, 1, .spelled [0x6CE8] 0x6 0x6⟩, ⟨0x32A0, 1, .spelled [0x9805] 0x6 0x6⟩,
    ⟨0x32A1, 1, .spelled [0x4F11] 0x6 0x6⟩, ⟨0x32A2, 1, .spelled [0x5199] 0x6 0x6⟩,
    ⟨0x32A3, 1, .spelled [0x6B63] 0x6 0x6⟩, ⟨0x32A4, 1, .spelled [0x4E0A] 0x6 0x6⟩,
    ⟨0x32A5, 1, .spelled [0x4E2D] 0x6 0x6⟩, ⟨0x32A6, 1, .spelled [0x4E0B] 0x6 0x6⟩,
    ⟨0x32A7, 1, .spelled [0x5DE6] 0x6 0x6⟩, ⟨0x32A8, 1, .spelled [0x53F3] 0x6 0x6⟩,
    ⟨0x32A9, 1, .spelled [0x533B] 0x6 0x6⟩, ⟨0x32AA, 1, .spelled [0x5B97] 0x6 0x6⟩,
    ⟨0x32AB, 1, .spelled [0x5B66] 0x6 0x6⟩, ⟨0x32AC, 1, .spelled [0x76E3] 0x6 0x6⟩,
    ⟨0x32AD, 1, .spelled [0x4F01] 0x6 0x6⟩, ⟨0x32AE, 1, .spelled [0x8CC7] 0x6 0x6⟩,
    ⟨0x32AF, 1, .spelled [0x5354] 0x6 0x6⟩, ⟨0x32B0, 1, .spelled [0x591C] 0x6 0x6⟩,
    ⟨0x32B1, 1, .spelled [0x33, 0x36] 0x6 0x6⟩, ⟨0x32B2, 1, .spelled [0x33, 0x37] 0x6 0x6⟩,
    ⟨0x32B3, 1, .spelled [0x33, 0x38] 0x6 0x6⟩, ⟨0x32B4, 1, .spelled [0x33, 0x39] 0x6 0x6⟩,
    ⟨0x32B5, 1, .spelled [0x34, 0x30] 0x6 0x6⟩, ⟨0x32B6, 1, .spelled [0x34, 0x31] 0x6 0x6⟩,
    ⟨0x32B7, 1, .spelled [0x34, 0x32] 0x6 0x6⟩, ⟨0x32B8, 1, .spelled [0x34, 0x33] 0x6 0x6⟩,
    ⟨0x32B9, 1, .spelled [0x34, 0x34] 0x6 0x6⟩, ⟨0x32BA, 1, .spelled [0x34, 0x35] 0x6 0x6⟩,
    ⟨0x32BB, 1, .spelled [0x34, 0x36] 0x6 0x6⟩, ⟨0x32BC, 1, .spelled [0x34, 0x37] 0x6 0x6⟩,
    ⟨0x32BD, 1, .spelled [0x34, 0x38] 0x6 0x6⟩, ⟨0x32BE, 1, .spelled [0x34, 0x39] 0x6 0x6⟩,
    ⟨0x32BF, 1, .spelled [0x35, 0x30] 0x6 0x6⟩, ⟨0x32C0, 1, .spelled [0x31, 0x6708] 0x4 0x4⟩,
    ⟨0x32C1, 1, .spelled [0x32, 0x6708] 0x4 0x4⟩, ⟨0x32C2, 1, .spelled [0x33, 0x6708] 0x4 0x4⟩,
    ⟨0x32C3, 1, .spelled [0x34, 0x6708] 0x4 0x4⟩, ⟨0x32C4, 1, .spelled [0x35, 0x6708] 0x4 0x4⟩,
    ⟨0x32C5, 1, .spelled [0x36, 0x6708] 0x4 0x4⟩, ⟨0x32C6, 1, .spelled [0x37, 0x6708] 0x4 0x4⟩,
    ⟨0x32C7, 1, .spelled [0x38, 0x6708] 0x4 0x4⟩, ⟨0x32C8, 1, .spelled [0x39, 0x6708] 0x4 0x4⟩,
    ⟨0x32C9, 1, .spelled [0x31, 0x30, 0x6708] 0x4 0x4⟩,
    ⟨0x32CA, 1, .spelled [0x31, 0x31, 0x6708] 0x4 0x4⟩,
    ⟨0x32CB, 1, .spelled [0x31, 0x32, 0x6708] 0x4 0x4⟩,
    ⟨0x32CC, 1, .spelled [0x48, 0x67] 0x1C 0x1D⟩,
    ⟨0x32CD, 1, .spelled [0x65, 0x72, 0x67] 0x1C 0x1C⟩,
    ⟨0x32CE, 1, .spelled [0x65, 0x56] 0x1C 0x1D⟩,
    ⟨0x32CF, 1, .spelled [0x4C, 0x54, 0x44] 0x1D 0x1D⟩, ⟨0x32D0, 3, .letter 0x44CF 0x20 0x13⟩,
    ⟨0x32D3, 33, .letter 0x44D3 0x20 0x13⟩, ⟨0x32F4, 1, .letter 0x44F5 0x20 0x13⟩,
    ⟨0x32F5, 8, .letter 0x44F7 0x20 0x13⟩, ⟨0x32FD, 2, .letter 0x4500 0x20 0x13⟩,
    ⟨0x32FF, 1, .spelled [0x4EE4, 0x548C] 0x1C 0x1C⟩]

def enclosedCjkLettersAndMonths : Chart :=
  ⟨0x3200, 0x32FF, enclosedCjkLettersAndMonthsSpans1 ++ enclosedCjkLettersAndMonthsSpans2⟩

def cjkCompatibilitySpans1 : List Span :=
  [⟨0x3300, 1, .spelled [0x30A2, 0x30CF, 0x309A, 0x30FC, 0x30C8] 0x1C 0x1C⟩,
    ⟨0x3301, 1, .spelled [0x30A2, 0x30EB, 0x30D5, 0x30A1] 0x1C 0x1C⟩,
    ⟨0x3302, 1, .spelled [0x30A2, 0x30F3, 0x30D8, 0x309A, 0x30A2] 0x1C 0x1C⟩,
    ⟨0x3303, 1, .spelled [0x30A2, 0x30FC, 0x30EB] 0x1C 0x1C⟩,
    ⟨0x3304, 1, .spelled [0x30A4, 0x30CB, 0x30F3, 0x30AF, 0x3099] 0x1C 0x1C⟩,
    ⟨0x3305, 1, .spelled [0x30A4, 0x30F3, 0x30C1] 0x1C 0x1C⟩,
    ⟨0x3306, 1, .spelled [0x30A6, 0x30A9, 0x30F3] 0x1C 0x1C⟩,
    ⟨0x3307, 1, .spelled [0x30A8, 0x30B9, 0x30AF, 0x30FC, 0x30C8, 0x3099] 0x1C 0x1C⟩,
    ⟨0x3308, 1, .spelled [0x30A8, 0x30FC, 0x30AB, 0x30FC] 0x1C 0x1C⟩,
    ⟨0x3309, 1, .spelled [0x30AA, 0x30F3, 0x30B9] 0x1C 0x1C⟩,
    ⟨0x330A, 1, .spelled [0x30AA, 0x30FC, 0x30E0] 0x1C 0x1C⟩,
    ⟨0x330B, 1, .spelled [0x30AB, 0x30A4, 0x30EA] 0x1C 0x1C⟩,
    ⟨0x330C, 1, .spelled [0x30AB, 0x30E9, 0x30C3, 0x30C8] 0x1C 0x1C⟩,
    ⟨0x330D, 1, .spelled [0x30AB, 0x30ED, 0x30EA, 0x30FC] 0x1C 0x1C⟩,
    ⟨0x330E, 1, .spelled [0x30AB, 0x3099, 0x30ED, 0x30F3] 0x1C 0x1C⟩,
    ⟨0x330F, 1, .spelled [0x30AB, 0x3099, 0x30F3, 0x30DE] 0x1C 0x1C⟩,
    ⟨0x3310, 1, .spelled [0x30AD, 0x3099, 0x30AB, 0x3099] 0x1C 0x1C⟩,
    ⟨0x3311, 1, .spelled [0x30AD, 0x3099, 0x30CB, 0x30FC] 0x1C 0x1C⟩,
    ⟨0x3312, 1, .spelled [0x30AD, 0x30E5, 0x30EA, 0x30FC] 0x1C 0x1C⟩,
    ⟨0x3313, 1, .spelled [0x30AD, 0x3099, 0x30EB, 0x30BF, 0x3099, 0x30FC] 0x1C 0x1C⟩,
    ⟨0x3314, 1, .spelled [0x30AD, 0x30ED] 0x1C 0x1C⟩,
    ⟨0x3315, 1, .spelled [0x30AD, 0x30ED, 0x30AF, 0x3099, 0x30E9, 0x30E0] 0x1C 0x1C⟩,
    ⟨0x3316, 1, .spelled [0x30AD, 0x30ED, 0x30E1, 0x30FC, 0x30C8, 0x30EB] 0x1C 0x1C⟩,
    ⟨0x3317, 1, .spelled [0x30AD, 0x30ED, 0x30EF, 0x30C3, 0x30C8] 0x1C 0x1C⟩,
    ⟨0x3318, 1, .spelled [0x30AF, 0x3099, 0x30E9, 0x30E0] 0x1C 0x1C⟩,
    ⟨0x3319, 1, .spelled [0x30AF, 0x3099, 0x30E9, 0x30E0, 0x30C8, 0x30F3] 0x1C 0x1C⟩,
    ⟨0x331A, 1, .spelled [0x30AF, 0x30EB, 0x30BB, 0x3099, 0x30A4, 0x30ED] 0x1C 0x1C⟩,
    ⟨0x331B, 1, .spelled [0x30AF, 0x30ED, 0x30FC, 0x30CD] 0x1C 0x1C⟩,
    ⟨0x331C, 1, .spelled [0x30B1, 0x30FC, 0x30B9] 0x1C 0x1C⟩,
    ⟨0x331D, 1, .spelled [0x30B3, 0x30EB, 0x30CA] 0x1C 0x1C⟩,
    ⟨0x331E, 1, .spelled [0x30B3, 0x30FC, 0x30DB, 0x309A] 0x1C 0x1C⟩,
    ⟨0x331F, 1, .spelled [0x30B5, 0x30A4, 0x30AF, 0x30EB] 0x1C 0x1C⟩,
    ⟨0x3320, 1, .spelled [0x30B5, 0x30F3, 0x30C1, 0x30FC, 0x30E0] 0x1C 0x1C⟩,
    ⟨0x3321, 1, .spelled [0x30B7, 0x30EA, 0x30F3, 0x30AF, 0x3099] 0x1C 0x1C⟩,
    ⟨0x3322, 1, .spelled [0x30BB, 0x30F3, 0x30C1] 0x1C 0x1C⟩,
    ⟨0x3323, 1, .spelled [0x30BB, 0x30F3, 0x30C8] 0x1C 0x1C⟩,
    ⟨0x3324, 1, .spelled [0x30BF, 0x3099, 0x30FC, 0x30B9] 0x1C 0x1C⟩,
    ⟨0x3325, 1, .spelled [0x30C6, 0x3099, 0x30B7] 0x1C 0x1C⟩,
    ⟨0x3326, 1, .spelled [0x30C8, 0x3099, 0x30EB] 0x1C 0x1C⟩,
    ⟨0x3327, 1, .spelled [0x30C8, 0x30F3] 0x1C 0x1C⟩,
    ⟨0x3328, 1, .spelled [0x30CA, 0x30CE] 0x1C 0x1C⟩,
    ⟨0x3329, 1, .spelled [0x30CE, 0x30C3, 0x30C8] 0x1C 0x1C⟩,
    ⟨0x332A, 1, .spelled [0x30CF, 0x30A4, 0x30C4] 0x1C 0x1C⟩,
    ⟨0x332B, 1, .spelled [0x30CF, 0x309A, 0x30FC, 0x30BB, 0x30F3, 0x30C8] 0x1C 0x1C⟩,
    ⟨0x332C, 1, .spelled [0x30CF, 0x309A, 0x30FC, 0x30C4] 0x1C 0x1C⟩,
    ⟨0x332D, 1, .spelled [0x30CF, 0x3099, 0x30FC, 0x30EC, 0x30EB] 0x1C 0x1C⟩,
    ⟨0x332E, 1, .spelled [0x30D2, 0x309A, 0x30A2, 0x30B9, 0x30C8, 0x30EB] 0x1C 0x1C⟩,
    ⟨0x332F, 1, .spelled [0x30D2, 0x309A, 0x30AF, 0x30EB] 0x1C 0x1C⟩,
    ⟨0x3330, 1, .spelled [0x30D2, 0x309A, 0x30B3] 0x1C 0x1C⟩,
    ⟨0x3331, 1, .spelled [0x30D2, 0x3099, 0x30EB] 0x1C 0x1C⟩,
    ⟨0x3332, 1, .spelled [0x30D5, 0x30A1, 0x30E9, 0x30C3, 0x30C8, 0x3099] 0x1C 0x1C⟩,
    ⟨0x3333, 1, .spelled [0x30D5, 0x30A3, 0x30FC, 0x30C8] 0x1C 0x1C⟩,
    ⟨0x3334, 1, .spelled [0x30D5, 0x3099, 0x30C3, 0x30B7, 0x30A7, 0x30EB] 0x1C 0x1C⟩,
    ⟨0x3335, 1, .spelled [0x30D5, 0x30E9, 0x30F3] 0x1C 0x1C⟩,
    ⟨0x3336, 1, .spelled [0x30D8, 0x30AF, 0x30BF, 0x30FC, 0x30EB] 0x1C 0x1C⟩,
    ⟨0x3337, 1, .spelled [0x30D8, 0x309A, 0x30BD] 0x1C 0x1C⟩,
    ⟨0x3338, 1, .spelled [0x30D8, 0x309A, 0x30CB, 0x30D2] 0x1C 0x1C⟩,
    ⟨0x3339, 1, .spelled [0x30D8, 0x30EB, 0x30C4] 0x1C 0x1C⟩,
    ⟨0x333A, 1, .spelled [0x30D8, 0x309A, 0x30F3, 0x30B9] 0x1C 0x1C⟩,
    ⟨0x333B, 1, .spelled [0x30D8, 0x309A, 0x30FC, 0x30B7, 0x3099] 0x1C 0x1C⟩,
    ⟨0x333C, 1, .spelled [0x30D8, 0x3099, 0x30FC, 0x30BF] 0x1C 0x1C⟩,
    ⟨0x333D, 1, .spelled [0x30DB, 0x309A, 0x30A4, 0x30F3, 0x30C8] 0x1C 0x1C⟩,
    ⟨0x333E, 1, .spelled [0x30DB, 0x3099, 0x30EB, 0x30C8] 0x1C 0x1C⟩,
    ⟨0x333F, 1, .spelled [0x30DB, 0x30F3] 0x1C 0x1C⟩,
    ⟨0x3340, 1, .spelled [0x30DB, 0x309A, 0x30F3, 0x30C8, 0x3099] 0x1C 0x1C⟩,
    ⟨0x3341, 1, .spelled [0x30DB, 0x30FC, 0x30EB] 0x1C 0x1C⟩,
    ⟨0x3342, 1, .spelled [0x30DB, 0x30FC, 0x30F3] 0x1C 0x1C⟩,
    ⟨0x3343, 1, .spelled [0x30DE, 0x30A4, 0x30AF, 0x30ED] 0x1C 0x1C⟩,
    ⟨0x3344, 1, .spelled [0x30DE, 0x30A4, 0x30EB] 0x1C 0x1C⟩,
    ⟨0x3345, 1, .spelled [0x30DE, 0x30C3, 0x30CF] 0x1C 0x1C⟩,
    ⟨0x3346, 1, .spelled [0x30DE, 0x30EB, 0x30AF] 0x1C 0x1C⟩,
    ⟨0x3347, 1, .spelled [0x30DE, 0x30F3, 0x30B7, 0x30E7, 0x30F3] 0x1C 0x1C⟩,
    ⟨0x3348, 1, .spelled [0x30DF, 0x30AF, 0x30ED, 0x30F3] 0x1C 0x1C⟩,
    ⟨0x3349, 1, .spelled [0x30DF, 0x30EA] 0x1C 0x1C⟩,
    ⟨0x334A, 1, .spelled [0x30DF, 0x30EA, 0x30CF, 0x3099, 0x30FC, 0x30EB] 0x1C 0x1C⟩,
    ⟨0x334B, 1, .spelled [0x30E1, 0x30AB, 0x3099] 0x1C 0x1C⟩,
    ⟨0x334C, 1, .spelled [0x30E1, 0x30AB, 0x3099, 0x30C8, 0x30F3] 0x1C 0x1C⟩,
    ⟨0x334D, 1, .spelled [0x30E1, 0x30FC, 0x30C8, 0x30EB] 0x1C 0x1C⟩,
    ⟨0x334E, 1, .spelled [0x30E4, 0x30FC, 0x30C8, 0x3099] 0x1C 0x1C⟩,
    ⟨0x334F, 1, .spelled [0x30E4, 0x30FC, 0x30EB] 0x1C 0x1C⟩,
    ⟨0x3350, 1, .spelled [0x30E6, 0x30A2, 0x30F3] 0x1C 0x1C⟩,
    ⟨0x3351, 1, .spelled [0x30EA, 0x30C3, 0x30C8, 0x30EB] 0x1C 0x1C⟩,
    ⟨0x3352, 1, .spelled [0x30EA, 0x30E9] 0x1C 0x1C⟩,
    ⟨0x3353, 1, .spelled [0x30EB, 0x30D2, 0x309A, 0x30FC] 0x1C 0x1C⟩,
    ⟨0x3354, 1, .spelled [0x30EB, 0x30FC, 0x30D5, 0x3099, 0x30EB] 0x1C 0x1C⟩,
    ⟨0x3355, 1, .spelled [0x30EC, 0x30E0] 0x1C 0x1C⟩,
    ⟨0x3356, 1, .spelled [0x30EC, 0x30F3, 0x30C8, 0x30B1, 0x3099, 0x30F3] 0x1C 0x1C⟩,
    ⟨0x3357, 1, .spelled [0x30EF, 0x30C3, 0x30C8] 0x1C 0x1C⟩,
    ⟨0x3358, 1, .spelled [0x30, 0x70B9] 0x4 0x4⟩, ⟨0x3359, 1, .spelled [0x31, 0x70B9] 0x4 0x4⟩,
    ⟨0x335A, 1, .spelled [0x32, 0x70B9] 0x4 0x4⟩, ⟨0x335B, 1, .spelled [0x33, 0x70B9] 0x4 0x4⟩,
    ⟨0x335C, 1, .spelled [0x34, 0x70B9] 0x4 0x4⟩, ⟨0x335D, 1, .spelled [0x35, 0x70B9] 0x4 0x4⟩,
    ⟨0x335E, 1, .spelled [0x36, 0x70B9] 0x4 0x4⟩, ⟨0x335F, 1, .spelled [0x37, 0x70B9] 0x4 0x4⟩,
    ⟨0x3360, 1, .spelled [0x38, 0x70B9] 0x4 0x4⟩, ⟨0x3361, 1, .spelled [0x39, 0x70B9] 0x4 0x4⟩,
    ⟨0x3362, 1, .spelled [0x31, 0x30, 0x70B9] 0x4 0x4⟩,
    ⟨0x3363, 1, .spelled [0x31, 0x31, 0x70B9] 0x4 0x4⟩,
    ⟨0x3364, 1, .spelled [0x31, 0x32, 0x70B9] 0x4 0x4⟩,
    ⟨0x3365, 1, .spelled [0x31, 0x33, 0x70B9] 0x4 0x4⟩,
    ⟨0x3366, 1, .spelled [0x31, 0x34, 0x70B9] 0x4 0x4⟩,
    ⟨0x3367, 1, .spelled [0x31, 0x35, 0x70B9] 0x4 0x4⟩,
    ⟨0x3368, 1, .spelled [0x31, 0x36, 0x70B9] 0x4 0x4⟩,
    ⟨0x3369, 1, .spelled [0x31, 0x37, 0x70B9] 0x4 0x4⟩,
    ⟨0x336A, 1, .spelled [0x31, 0x38, 0x70B9] 0x4 0x4⟩,
    ⟨0x336B, 1, .spelled [0x31, 0x39, 0x70B9] 0x4 0x4⟩,
    ⟨0x336C, 1, .spelled [0x32, 0x30, 0x70B9] 0x4 0x4⟩,
    ⟨0x336D, 1, .spelled [0x32, 0x31, 0x70B9] 0x4 0x4⟩,
    ⟨0x336E, 1, .spelled [0x32, 0x32, 0x70B9] 0x4 0x4⟩,
    ⟨0x336F, 1, .spelled [0x32, 0x33, 0x70B9] 0x4 0x4⟩,
    ⟨0x3370, 1, .spelled [0x32, 0x34, 0x70B9] 0x4 0x4⟩,
    ⟨0x3371, 1, .spelled [0x68, 0x50, 0x61] 0x1C 0x1D⟩,
    ⟨0x3372, 1, .spelled [0x64, 0x61] 0x1C 0x1C⟩, ⟨0x3373, 1, .spelled [0x41, 0x55] 0x1D 0x1D⟩,
    ⟨0x3374, 1, .spelled [0x62, 0x61, 0x72] 0x1C 0x1C⟩,
    ⟨0x3375, 1, .spelled [0x6F, 0x56] 0x1C 0x1D⟩, ⟨0x3376, 1, .spelled [0x70, 0x63] 0x1C 0x1C⟩,
    ⟨0x3377, 1, .spelled [0x64, 0x6D] 0x1C 0x1C⟩,
    ⟨0x3378, 1, .spelled [0x64, 0x6D, 0x32] 0x1C 0x1C⟩,
    ⟨0x3379, 1, .spelled [0x64, 0x6D, 0x33] 0x1C 0x1C⟩,
    ⟨0x337A, 1, .spelled [0x49, 0x55] 0x1D 0x1D⟩,
    ⟨0x337B, 1, .spelled [0x5E73, 0x6210] 0x1C 0x1C⟩,
    ⟨0x337C, 1, .spelled [0x662D, 0x548C] 0x1C 0x1C⟩,
    ⟨0x337D, 1, .spelled [0x5927, 0x6B63] 0x1C 0x1C⟩,
    ⟨0x337E, 1, .spelled [0x660E, 0x6CBB] 0x1C 0x1C⟩,
    ⟨0x337F, 1, .spelled [0x682A, 0x5F0F, 0x4F1A, 0x793E] 0x1C 0x1C⟩,
    ⟨0x3380, 1, .spelled [0x70, 0x41] 0x1C 0x1D⟩, ⟨0x3381, 1, .spelled [0x6E, 0x41] 0x1C 0x1D⟩,
    ⟨0x3382, 1, .spelled [0x3BC, 0x41] 0x1C 0x1D⟩, ⟨0x3383, 1, .spelled [0x6D, 0x41] 0x1C 0x1D⟩,
    ⟨0x3384, 1, .spelled [0x6B, 0x41] 0x1C 0x1D⟩, ⟨0x3385, 1, .spelled [0x4B, 0x42] 0x1D 0x1D⟩,
    ⟨0x3386, 1, .spelled [0x4D, 0x42] 0x1D 0x1D⟩, ⟨0x3387, 1, .spelled [0x47, 0x42] 0x1D 0x1D⟩,
    ⟨0x3388, 1, .spelled [0x63, 0x61, 0x6C] 0x1C 0x1C⟩,
    ⟨0x3389, 1, .spelled [0x6B, 0x63, 0x61, 0x6C] 0x1C 0x1C⟩,
    ⟨0x338A, 1, .spelled [0x70, 0x46] 0x1C 0x1D⟩, ⟨0x338B, 1, .spelled [0x6E, 0x46] 0x1C 0x1D⟩,
    ⟨0x338C, 1, .spelled [0x3BC, 0x46] 0x1C 0x1D⟩, ⟨0x338D, 1, .spelled [0x3BC, 0x67] 0x1C 0x1C⟩,
    ⟨0x338E, 1, .spelled [0x6D, 0x67] 0x1C 0x1C⟩, ⟨0x338F, 1, .spelled [0x6B, 0x67] 0x1C 0x1C⟩,
    ⟨0x3390, 1, .spelled [0x48, 0x7A] 0x1C 0x1D⟩,
    ⟨0x3391, 1, .spelled [0x6B, 0x48, 0x7A] 0x1C 0x1D⟩,
    ⟨0x3392, 1, .spelled [0x4D, 0x48, 0x7A] 0x1C 0x1D⟩,
    ⟨0x3393, 1, .spelled [0x47, 0x48, 0x7A] 0x1C 0x1D⟩,
    ⟨0x3394, 1, .spelled [0x54, 0x48, 0x7A] 0x1C 0x1D⟩,
    ⟨0x3395, 1, .spelled [0x3BC, 0x6C] 0x1C 0x1C⟩]

def cjkCompatibilitySpans2 : List Span :=
  [⟨0x3396, 1, .spelled [0x6D, 0x6C] 0x1C 0x1C⟩, ⟨0x3397, 1, .spelled [0x64, 0x6C] 0x1C 0x1C⟩,
    ⟨0x3398, 1, .spelled [0x6B, 0x6C] 0x1C 0x1C⟩, ⟨0x3399, 1, .spelled [0x66, 0x6D] 0x1C 0x1C⟩,
    ⟨0x339A, 1, .spelled [0x6E, 0x6D] 0x1C 0x1C⟩, ⟨0x339B, 1, .spelled [0x3BC, 0x6D] 0x1C 0x1C⟩,
    ⟨0x339C, 1, .spelled [0x6D, 0x6D] 0x1C 0x1C⟩, ⟨0x339D, 1, .spelled [0x63, 0x6D] 0x1C 0x1C⟩,
    ⟨0x339E, 1, .spelled [0x6B, 0x6D] 0x1C 0x1C⟩,
    ⟨0x339F, 1, .spelled [0x6D, 0x6D, 0x32] 0x1C 0x1C⟩,
    ⟨0x33A0, 1, .spelled [0x63, 0x6D, 0x32] 0x1C 0x1C⟩,
    ⟨0x33A1, 1, .spelled [0x6D, 0x32] 0x1C 0x1C⟩,
    ⟨0x33A2, 1, .spelled [0x6B, 0x6D, 0x32] 0x1C 0x1C⟩,
    ⟨0x33A3, 1, .spelled [0x6D, 0x6D, 0x33] 0x1C 0x1C⟩,
    ⟨0x33A4, 1, .spelled [0x63, 0x6D, 0x33] 0x1C 0x1C⟩,
    ⟨0x33A5, 1, .spelled [0x6D, 0x33] 0x1C 0x1C⟩,
    ⟨0x33A6, 1, .spelled [0x6B, 0x6D, 0x33] 0x1C 0x1C⟩,
    ⟨0x33A7, 1, .spelled [0x6D, 0x2215, 0x73] 0x1C 0x1C⟩,
    ⟨0x33A8, 1, .spelled [0x6D, 0x2215, 0x73, 0x32] 0x1C 0x1C⟩,
    ⟨0x33A9, 1, .spelled [0x50, 0x61] 0x1C 0x1D⟩,
    ⟨0x33AA, 1, .spelled [0x6B, 0x50, 0x61] 0x1C 0x1D⟩,
    ⟨0x33AB, 1, .spelled [0x4D, 0x50, 0x61] 0x1C 0x1D⟩,
    ⟨0x33AC, 1, .spelled [0x47, 0x50, 0x61] 0x1C 0x1D⟩,
    ⟨0x33AD, 1, .spelled [0x72, 0x61, 0x64] 0x1C 0x1C⟩,
    ⟨0x33AE, 1, .spelled [0x72, 0x61, 0x64, 0x2215, 0x73] 0x1C 0x1C⟩,
    ⟨0x33AF, 1, .spelled [0x72, 0x61, 0x64, 0x2215, 0x73, 0x32] 0x1C 0x1C⟩,
    ⟨0x33B0, 1, .spelled [0x70, 0x73] 0x1C 0x1C⟩, ⟨0x33B1, 1, .spelled [0x6E, 0x73] 0x1C 0x1C⟩,
    ⟨0x33B2, 1, .spelled [0x3BC, 0x73] 0x1C 0x1C⟩, ⟨0x33B3, 1, .spelled [0x6D, 0x73] 0x1C 0x1C⟩,
    ⟨0x33B4, 1, .spelled [0x70, 0x56] 0x1C 0x1D⟩, ⟨0x33B5, 1, .spelled [0x6E, 0x56] 0x1C 0x1D⟩,
    ⟨0x33B6, 1, .spelled [0x3BC, 0x56] 0x1C 0x1D⟩, ⟨0x33B7, 1, .spelled [0x6D, 0x56] 0x1C 0x1D⟩,
    ⟨0x33B8, 1, .spelled [0x6B, 0x56] 0x1C 0x1D⟩, ⟨0x33B9, 1, .spelled [0x4D, 0x56] 0x1D 0x1D⟩,
    ⟨0x33BA, 1, .spelled [0x70, 0x57] 0x1C 0x1D⟩, ⟨0x33BB, 1, .spelled [0x6E, 0x57] 0x1C 0x1D⟩,
    ⟨0x33BC, 1, .spelled [0x3BC, 0x57] 0x1C 0x1D⟩, ⟨0x33BD, 1, .spelled [0x6D, 0x57] 0x1C 0x1D⟩,
    ⟨0x33BE, 1, .spelled [0x6B, 0x57] 0x1C 0x1D⟩, ⟨0x33BF, 1, .spelled [0x4D, 0x57] 0x1D 0x1D⟩,
    ⟨0x33C0, 1, .spelled [0x6B, 0x3A9] 0x1C 0x1D⟩, ⟨0x33C1, 1, .spelled [0x4D, 0x3A9] 0x1D 0x1D⟩,
    ⟨0x33C2, 1, .spelled [0x61, 0x2E, 0x6D, 0x2E] 0x1C 0x1C⟩,
    ⟨0x33C3, 1, .spelled [0x42, 0x71] 0x1C 0x1D⟩, ⟨0x33C4, 1, .spelled [0x63, 0x63] 0x1C 0x1C⟩,
    ⟨0x33C5, 1, .spelled [0x63, 0x64] 0x1C 0x1C⟩,
    ⟨0x33C6, 1, .spelled [0x43, 0x2215, 0x6B, 0x67] 0x1C 0x1D⟩,
    ⟨0x33C7, 1, .spelled [0x43, 0x6F, 0x2E] 0x1C 0x1D⟩,
    ⟨0x33C8, 1, .spelled [0x64, 0x42] 0x1C 0x1D⟩, ⟨0x33C9, 1, .spelled [0x47, 0x79] 0x1C 0x1D⟩,
    ⟨0x33CA, 1, .spelled [0x68, 0x61] 0x1C 0x1C⟩, ⟨0x33CB, 1, .spelled [0x48, 0x50] 0x1D 0x1D⟩,
    ⟨0x33CC, 1, .spelled [0x69, 0x6E] 0x1C 0x1C⟩, ⟨0x33CD, 1, .spelled [0x4B, 0x4B] 0x1D 0x1D⟩,
    ⟨0x33CE, 1, .spelled [0x4B, 0x4D] 0x1D 0x1D⟩, ⟨0x33CF, 1, .spelled [0x6B, 0x74] 0x1C 0x1C⟩,
    ⟨0x33D0, 1, .spelled [0x6C, 0x6D] 0x1C 0x1C⟩, ⟨0x33D1, 1, .spelled [0x6C, 0x6E] 0x1C 0x1C⟩,
    ⟨0x33D2, 1, .spelled [0x6C, 0x6F, 0x67] 0x1C 0x1C⟩,
    ⟨0x33D3, 1, .spelled [0x6C, 0x78] 0x1C 0x1C⟩, ⟨0x33D4, 1, .spelled [0x6D, 0x62] 0x1C 0x1C⟩,
    ⟨0x33D5, 1, .spelled [0x6D, 0x69, 0x6C] 0x1C 0x1C⟩,
    ⟨0x33D6, 1, .spelled [0x6D, 0x6F, 0x6C] 0x1C 0x1C⟩,
    ⟨0x33D7, 1, .spelled [0x50, 0x48] 0x1D 0x1D⟩,
    ⟨0x33D8, 1, .spelled [0x70, 0x2E, 0x6D, 0x2E] 0x1C 0x1C⟩,
    ⟨0x33D9, 1, .spelled [0x50, 0x50, 0x4D] 0x1D 0x1D⟩,
    ⟨0x33DA, 1, .spelled [0x50, 0x52] 0x1D 0x1D⟩, ⟨0x33DB, 1, .spelled [0x73, 0x72] 0x1C 0x1C⟩,
    ⟨0x33DC, 1, .spelled [0x53, 0x76] 0x1C 0x1D⟩, ⟨0x33DD, 1, .spelled [0x57, 0x62] 0x1C 0x1D⟩,
    ⟨0x33DE, 1, .spelled [0x56, 0x2215, 0x6D] 0x1C 0x1D⟩,
    ⟨0x33DF, 1, .spelled [0x41, 0x2215, 0x6D] 0x1C 0x1D⟩,
    ⟨0x33E0, 1, .spelled [0x31, 0x65E5] 0x4 0x4⟩, ⟨0x33E1, 1, .spelled [0x32, 0x65E5] 0x4 0x4⟩,
    ⟨0x33E2, 1, .spelled [0x33, 0x65E5] 0x4 0x4⟩, ⟨0x33E3, 1, .spelled [0x34, 0x65E5] 0x4 0x4⟩,
    ⟨0x33E4, 1, .spelled [0x35, 0x65E5] 0x4 0x4⟩, ⟨0x33E5, 1, .spelled [0x36, 0x65E5] 0x4 0x4⟩,
    ⟨0x33E6, 1, .spelled [0x37, 0x65E5] 0x4 0x4⟩, ⟨0x33E7, 1, .spelled [0x38, 0x65E5] 0x4 0x4⟩,
    ⟨0x33E8, 1, .spelled [0x39, 0x65E5] 0x4 0x4⟩,
    ⟨0x33E9, 1, .spelled [0x31, 0x30, 0x65E5] 0x4 0x4⟩,
    ⟨0x33EA, 1, .spelled [0x31, 0x31, 0x65E5] 0x4 0x4⟩,
    ⟨0x33EB, 1, .spelled [0x31, 0x32, 0x65E5] 0x4 0x4⟩,
    ⟨0x33EC, 1, .spelled [0x31, 0x33, 0x65E5] 0x4 0x4⟩,
    ⟨0x33ED, 1, .spelled [0x31, 0x34, 0x65E5] 0x4 0x4⟩,
    ⟨0x33EE, 1, .spelled [0x31, 0x35, 0x65E5] 0x4 0x4⟩,
    ⟨0x33EF, 1, .spelled [0x31, 0x36, 0x65E5] 0x4 0x4⟩,
    ⟨0x33F0, 1, .spelled [0x31, 0x37, 0x65E5] 0x4 0x4⟩,
    ⟨0x33F1, 1, .spelled [0x31, 0x38, 0x65E5] 0x4 0x4⟩,
    ⟨0x33F2, 1, .spelled [0x31, 0x39, 0x65E5] 0x4 0x4⟩,
    ⟨0x33F3, 1, .spelled [0x32, 0x30, 0x65E5] 0x4 0x4⟩,
    ⟨0x33F4, 1, .spelled [0x32, 0x31, 0x65E5] 0x4 0x4⟩,
    ⟨0x33F5, 1, .spelled [0x32, 0x32, 0x65E5] 0x4 0x4⟩,
    ⟨0x33F6, 1, .spelled [0x32, 0x33, 0x65E5] 0x4 0x4⟩,
    ⟨0x33F7, 1, .spelled [0x32, 0x34, 0x65E5] 0x4 0x4⟩,
    ⟨0x33F8, 1, .spelled [0x32, 0x35, 0x65E5] 0x4 0x4⟩,
    ⟨0x33F9, 1, .spelled [0x32, 0x36, 0x65E5] 0x4 0x4⟩,
    ⟨0x33FA, 1, .spelled [0x32, 0x37, 0x65E5] 0x4 0x4⟩,
    ⟨0x33FB, 1, .spelled [0x32, 0x38, 0x65E5] 0x4 0x4⟩,
    ⟨0x33FC, 1, .spelled [0x32, 0x39, 0x65E5] 0x4 0x4⟩,
    ⟨0x33FD, 1, .spelled [0x33, 0x30, 0x65E5] 0x4 0x4⟩,
    ⟨0x33FE, 1, .spelled [0x33, 0x31, 0x65E5] 0x4 0x4⟩,
    ⟨0x33FF, 1, .spelled [0x67, 0x61, 0x6C] 0x1C 0x1C⟩]

def cjkCompatibility : Chart :=
  ⟨0x3300, 0x33FF, cjkCompatibilitySpans1 ++ cjkCompatibilitySpans2⟩

def cjkCompatibilityIdeographs : Chart :=
  ⟨0xF900, 0xFAFF,
    [⟨0xFA0E, 2, .computed⟩, ⟨0xFA11, 1, .computed⟩, ⟨0xFA13, 2, .computed⟩,
      ⟨0xFA1F, 1, .computed⟩, ⟨0xFA21, 1, .computed⟩, ⟨0xFA23, 2, .computed⟩,
      ⟨0xFA27, 3, .computed⟩]⟩

def enclosedIdeographicSupplement : Chart :=
  ⟨0x1F200, 0x1F2FF,
    [⟨0x1F200, 1, .spelled [0x307B, 0x304B] 0x1C 0x1C⟩,
      ⟨0x1F201, 1, .spelled [0x30B3, 0x30B3] 0x1C 0x1C⟩, ⟨0x1F202, 1, .letter 0x44DA 0x20 0x1C⟩,
      ⟨0x1F210, 1, .spelled [0x624B] 0x1C 0x1C⟩, ⟨0x1F211, 1, .spelled [0x5B57] 0x1C 0x1C⟩,
      ⟨0x1F212, 1, .spelled [0x53CC] 0x1C 0x1C⟩,
      ⟨0x1F213, 1, .spelled [0x30C6, 0x3099] 0x1C 0x1C⟩,
      ⟨0x1F214, 1, .spelled [0x4E8C] 0x1C 0x1C⟩, ⟨0x1F215, 1, .spelled [0x591A] 0x1C 0x1C⟩,
      ⟨0x1F216, 1, .spelled [0x89E3] 0x1C 0x1C⟩, ⟨0x1F217, 1, .spelled [0x5929] 0x1C 0x1C⟩,
      ⟨0x1F218, 1, .spelled [0x4EA4] 0x1C 0x1C⟩, ⟨0x1F219, 1, .spelled [0x6620] 0x1C 0x1C⟩,
      ⟨0x1F21A, 1, .spelled [0x7121] 0x1C 0x1C⟩, ⟨0x1F21B, 1, .spelled [0x6599] 0x1C 0x1C⟩,
      ⟨0x1F21C, 1, .spelled [0x524D] 0x1C 0x1C⟩, ⟨0x1F21D, 1, .spelled [0x5F8C] 0x1C 0x1C⟩,
      ⟨0x1F21E, 1, .spelled [0x518D] 0x1C 0x1C⟩, ⟨0x1F21F, 1, .spelled [0x65B0] 0x1C 0x1C⟩,
      ⟨0x1F220, 1, .spelled [0x521D] 0x1C 0x1C⟩, ⟨0x1F221, 1, .spelled [0x7D42] 0x1C 0x1C⟩,
      ⟨0x1F222, 1, .spelled [0x751F] 0x1C 0x1C⟩, ⟨0x1F223, 1, .spelled [0x8CA9] 0x1C 0x1C⟩,
      ⟨0x1F224, 1, .spelled [0x58F0] 0x1C 0x1C⟩, ⟨0x1F225, 1, .spelled [0x5439] 0x1C 0x1C⟩,
      ⟨0x1F226, 1, .spelled [0x6F14] 0x1C 0x1C⟩, ⟨0x1F227, 1, .spelled [0x6295] 0x1C 0x1C⟩,
      ⟨0x1F228, 1, .spelled [0x6355] 0x1C 0x1C⟩, ⟨0x1F229, 1, .spelled [0x4E00] 0x1C 0x1C⟩,
      ⟨0x1F22A, 1, .spelled [0x4E09] 0x1C 0x1C⟩, ⟨0x1F22B, 1, .spelled [0x904A] 0x1C 0x1C⟩,
      ⟨0x1F22C, 1, .spelled [0x5DE6] 0x1C 0x1C⟩, ⟨0x1F22D, 1, .spelled [0x4E2D] 0x1C 0x1C⟩,
      ⟨0x1F22E, 1, .spelled [0x53F3] 0x1C 0x1C⟩, ⟨0x1F22F, 1, .spelled [0x6307] 0x1C 0x1C⟩,
      ⟨0x1F230, 1, .spelled [0x8D70] 0x1C 0x1C⟩, ⟨0x1F231, 1, .spelled [0x6253] 0x1C 0x1C⟩,
      ⟨0x1F232, 1, .spelled [0x7981] 0x1C 0x1C⟩, ⟨0x1F233, 1, .spelled [0x7A7A] 0x1C 0x1C⟩,
      ⟨0x1F234, 1, .spelled [0x5408] 0x1C 0x1C⟩, ⟨0x1F235, 1, .spelled [0x6E80] 0x1C 0x1C⟩,
      ⟨0x1F236, 1, .spelled [0x6709] 0x1C 0x1C⟩, ⟨0x1F237, 1, .spelled [0x6708] 0x1C 0x1C⟩,
      ⟨0x1F238, 1, .spelled [0x7533] 0x1C 0x1C⟩, ⟨0x1F239, 1, .spelled [0x5272] 0x1C 0x1C⟩,
      ⟨0x1F23A, 1, .spelled [0x55B6] 0x1C 0x1C⟩, ⟨0x1F23B, 1, .spelled [0x914D] 0x1C 0x1C⟩,
      ⟨0x1F240, 1, .spelled [0x3014, 0x672C, 0x3015] 0x4 0x4⟩,
      ⟨0x1F241, 1, .spelled [0x3014, 0x4E09, 0x3015] 0x4 0x4⟩,
      ⟨0x1F242, 1, .spelled [0x3014, 0x4E8C, 0x3015] 0x4 0x4⟩,
      ⟨0x1F243, 1, .spelled [0x3014, 0x5B89, 0x3015] 0x4 0x4⟩,
      ⟨0x1F244, 1, .spelled [0x3014, 0x70B9, 0x3015] 0x4 0x4⟩,
      ⟨0x1F245, 1, .spelled [0x3014, 0x6253, 0x3015] 0x4 0x4⟩,
      ⟨0x1F246, 1, .spelled [0x3014, 0x76D7, 0x3015] 0x4 0x4⟩,
      ⟨0x1F247, 1, .spelled [0x3014, 0x52DD, 0x3015] 0x4 0x4⟩,
      ⟨0x1F248, 1, .spelled [0x3014, 0x6557, 0x3015] 0x4 0x4⟩,
      ⟨0x1F250, 1, .spelled [0x5F97] 0x6 0x6⟩, ⟨0x1F251, 1, .spelled [0x53EF] 0x6 0x6⟩,
      ⟨0x1F260, 6, .letter 0x17D9 0x20 0x2⟩]⟩

def ideographicCharts : List Chart :=
  [cjkRadicalsSupplement, kangxiRadicals, ideographicDescriptionCharacters, kanbun, cjkStrokes,
    enclosedCjkLettersAndMonths, cjkCompatibility, cjkCompatibilityIdeographs,
    enclosedIdeographicSupplement]

end CodeNotes.Collation
