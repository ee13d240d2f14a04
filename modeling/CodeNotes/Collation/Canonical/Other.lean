import CodeNotes.Collation.Canonical.Form
/-!
Full canonical decompositions of signs and of the letters of all other scripts, by code point.
-/
namespace CodeNotes.Collation

def otherPage3 : FormPage :=
  ⟨0x3,
    [(0x340, [0x300]), (0x341, [0x301]), (0x343, [0x313]), (0x344, [0x308, 0x301])]⟩

def otherPage4 : FormPage :=
  ⟨0x4,
    [(0x400, [0x415, 0x300]), (0x401, [0x415, 0x308]), (0x403, [0x413, 0x301]),
      (0x407, [0x406, 0x308]), (0x40C, [0x41A, 0x301]), (0x40D, [0x418, 0x300]),
      (0x40E, [0x423, 0x306]), (0x419, [0x418, 0x306]), (0x439, [0x438, 0x306]),
      (0x450, [0x435, 0x300]), (0x451, [0x435, 0x308]), (0x453, [0x433, 0x301]),
      (0x457, [0x456, 0x308]), (0x45C, [0x43A, 0x301]), (0x45D, [0x438, 0x300]),
      (0x45E, [0x443, 0x306]), (0x476, [0x474, 0x30F]), (0x477, [0x475, 0x30F]),
      (0x4C1, [0x416, 0x306]), (0x4C2, [0x436, 0x306]), (0x4D0, [0x410, 0x306]),
      (0x4D1, [0x430, 0x306]), (0x4D2, [0x410, 0x308]), (0x4D3, [0x430, 0x308]),
      (0x4D6, [0x415, 0x306]), (0x4D7, [0x435, 0x306]), (0x4DA, [0x4D8, 0x308]),
      (0x4DB, [0x4D9, 0x308]), (0x4DC, [0x416, 0x308]), (0x4DD, [0x436, 0x308]),
      (0x4DE, [0x417, 0x308]), (0x4DF, [0x437, 0x308]), (0x4E2, [0x418, 0x304]),
      (0x4E3, [0x438, 0x304]), (0x4E4, [0x418, 0x308]), (0x4E5, [0x438, 0x308]),
      (0x4E6, [0x41E, 0x308]), (0x4E7, [0x43E, 0x308]), (0x4EA, [0x4E8, 0x308]),
      (0x4EB, [0x4E9, 0x308]), (0x4EC, [0x42D, 0x308]), (0x4ED, [0x44D, 0x308]),
      (0x4EE, [0x423, 0x304]), (0x4EF, [0x443, 0x304]), (0x4F0, [0x423, 0x308]),
      (0x4F1, [0x443, 0x308]), (0x4F2, [0x423, 0x30B]), (0x4F3, [0x443, 0x30B]),
      (0x4F4, [0x427, 0x308]), (0x4F5, [0x447, 0x308]), (0x4F8, [0x42B, 0x308]),
      (0x4F9, [0x44B, 0x308])]⟩

def otherPage6 : FormPage :=
  ⟨0x6,
    [(0x622, [0x627, 0x653]), (0x623, [0x627, 0x654]), (0x624, [0x648, 0x654]),
      (0x625, [0x627, 0x655]), (0x626, [0x64A, 0x654]), (0x6C0, [0x6D5, 0x654]),
      (0x6C2, [0x6C1, 0x654]), (0x6D3, [0x6D2, 0x654])]⟩

def otherPage9 : FormPage :=
  ⟨0x9,
    [(0x929, [0x928, 0x93C]), (0x931, [0x930, 0x93C]), (0x934, [0x933, 0x93C]),
      (0x958, [0x915, 0x93C]), (0x959, [0x916, 0x93C]), (0x95A, [0x917, 0x93C]),
      (0x95B, [0x91C, 0x93C]), (0x95C, [0x921, 0x93C]), (0x95D, [0x922, 0x93C]),
      (0x95E, [0x92B, 0x93C]), (0x95F, [0x92F, 0x93C]), (0x9CB, [0x9C7, 0x9BE]),
      (0x9CC, [0x9C7, 0x9D7]), (0x9DC, [0x9A1, 0x9BC]), (0x9DD, [0x9A2, 0x9BC]),
      (0x9DF, [0x9AF, 0x9BC])]⟩

def otherPageA : FormPage :=
  ⟨0xA,
    [(0xA33, [0xA32, 0xA3C]), (0xA36, [0xA38, 0xA3C]), (0xA59, [0xA16, 0xA3C]),
      (0xA5A, [0xA17, 0xA3C]), (0xA5B, [0xA1C, 0xA3C]), (0xA5E, [0xA2B, 0xA3C])]⟩

def otherPageB : FormPage :=
  ⟨0xB,
    [(0xB48, [0xB47, 0xB56]), (0xB4B, [0xB47, 0xB3E]), (0xB4C, [0xB47, 0xB57]),
      (0xB5C, [0xB21, 0xB3C]), (0xB5D, [0xB22, 0xB3C]), (0xB94, [0xB92, 0xBD7]),
      (0xBCA, [0xBC6, 0xBBE]), (0xBCB, [0xBC7, 0xBBE]), (0xBCC, [0xBC6, 0xBD7])]⟩

def otherPageC : FormPage :=
  ⟨0xC,
    [(0xC48, [0xC46, 0xC56]), (0xCC0, [0xCBF, 0xCD5]), (0xCC7, [0xCC6, 0xCD5]),
      (0xCC8, [0xCC6, 0xCD6]), (0xCCA, [0xCC6, 0xCC2]), (0xCCB, [0xCC6, 0xCC2, 0xCD5])]⟩

def otherPageD : FormPage :=
  ⟨0xD,
    [(0xD4A, [0xD46, 0xD3E]), (0xD4B, [0xD47, 0xD3E]), (0xD4C, [0xD46, 0xD57]),
      (0xDDA, [0xDD9, 0xDCA]), (0xDDC, [0xDD9, 0xDCF]), (0xDDD, [0xDD9, 0xDCF, 0xDCA]),
      (0xDDE, [0xDD9, 0xDDF])]⟩

def otherPageF : FormPage :=
  ⟨0xF,
    [(0xF43, [0xF42, 0xFB7]), (0xF4D, [0xF4C, 0xFB7]), (0xF52, [0xF51, 0xFB7]),
      (0xF57, [0xF56, 0xFB7]), (0xF5C, [0xF5B, 0xFB7]), (0xF69, [0xF40, 0xFB5]),
      (0xF73, [0xF71, 0xF72]), (0xF75, [0xF71, 0xF74]), (0xF76, [0xFB2, 0xF80]),
      (0xF78, [0xFB3, 0xF80]), (0xF81, [0xF71, 0xF80]), (0xF93, [0xF92, 0xFB7]),
      (0xF9D, [0xF9C, 0xFB7]), (0xFA2, [0xFA1, 0xFB7]), (0xFA7, [0xFA6, 0xFB7]),
      (0xFAC, [0xFAB, 0xFB7]), (0xFB9, [0xF90, 0xFB5])]⟩

def otherPage10 : FormPage := ⟨0x10, [(0x1026, [0x1025, 0x102E])]⟩

def otherPage1B : FormPage :=
  ⟨0x1B,
    [(0x1B06, [0x1B05, 0x1B35]), (0x1B08, [0x1B07, 0x1B35]), (0x1B0A, [0x1B09, 0x1B35]),
      (0x1B0C, [0x1B0B, 0x1B35]), (0x1B0E, [0x1B0D, 0x1B35]), (0x1B12, [0x1B11, 0x1B35]),
      (0x1B3B, [0x1B3A, 0x1B35]), (0x1B3D, [0x1B3C, 0x1B35]), (0x1B40, [0x1B3E, 0x1B35]),
      (0x1B41, [0x1B3F, 0x1B35]), (0x1B43, [0x1B42, 0x1B35])]⟩

def otherPage20 : FormPage := ⟨0x20, [(0x2000, [0x2002]), (0x2001, [0x2003])]⟩

def otherPage21 : FormPage :=
  ⟨0x21,
    [(0x2126, [0x3A9]), (0x212A, [0x4B]), (0x212B, [0x41, 0x30A]), (0x219A, [0x2190, 0x338]),
      (0x219B, [0x2192, 0x338]), (0x21AE, [0x2194, 0x338]), (0x21CD, [0x21D0, 0x338]),
      (0x21CE, [0x21D4, 0x338]), (0x21CF, [0x21D2, 0x338])]⟩

def otherPage22 : FormPage :=
  ⟨0x22,
    [(0x2204, [0x2203, 0x338]), (0x2209, [0x2208, 0x338]), (0x220C, [0x220B, 0x338]),
      (0x2224, [0x2223, 0x338]), (0x2226, [0x2225, 0x338]), (0x2241, [0x223C, 0x338]),
      (0x2244, [0x2243, 0x338]), (0x2247, [0x2245, 0x338]), (0x2249, [0x2248, 0x338]),
      (0x2260, [0x3D, 0x338]), (0x2262, [0x2261, 0x338]), (0x226D, [0x224D, 0x338]),
      (0x226E, [0x3C, 0x338]), (0x226F, [0x3E, 0x338]), (0x2270, [0x2264, 0x338]),
      (0x2271, [0x2265, 0x338]), (0x2274, [0x2272, 0x338]), (0x2275, [0x2273, 0x338]),
      (0x2278, [0x2276, 0x338]), (0x2279, [0x2277, 0x338]), (0x2280, [0x227A, 0x338]),
      (0x2281, [0x227B, 0x338]), (0x2284, [0x2282, 0x338]), (0x2285, [0x2283, 0x338]),
      (0x2288, [0x2286, 0x338]), (0x2289, [0x2287, 0x338]), (0x22AC, [0x22A2, 0x338]),
      (0x22AD, [0x22A8, 0x338]), (0x22AE, [0x22A9, 0x338]), (0x22AF, [0x22AB, 0x338]),
      (0x22E0, [0x227C, 0x338]), (0x22E1, [0x227D, 0x338]), (0x22E2, [0x2291, 0x338]),
      (0x22E3, [0x2292, 0x338]), (0x22EA, [0x22B2, 0x338]), (0x22EB, [0x22B3, 0x338]),
      (0x22EC, [0x22B4, 0x338]), (0x22ED, [0x22B5, 0x338])]⟩

def otherPage23 : FormPage := ⟨0x23, [(0x2329, [0x3008]), (0x232A, [0x3009])]⟩

def otherPage2A : FormPage := ⟨0x2A, [(0x2ADC, [0x2ADD, 0x338])]⟩

def otherPage30 : FormPage :=
  ⟨0x30,
    [(0x304C, [0x304B, 0x3099]), (0x304E, [0x304D, 0x3099]), (0x3050, [0x304F, 0x3099]),
      (0x3052, [0x3051, 0x3099]), (0x3054, [0x3053, 0x3099]), (0x3056, [0x3055, 0x3099]),
      (0x3058, [0x3057, 0x3099]), (0x305A, [0x3059, 0x3099]), (0x305C, [0x305B, 0x3099]),
      (0x305E, [0x305D, 0x3099]), (0x3060, [0x305F, 0x3099]), (0x3062, [0x3061, 0x3099]),
      (0x3065, [0x3064, 0x3099]), (0x3067, [0x3066, 0x3099]), (0x3069, [0x3068, 0x3099]),
      (0x3070, [0x306F, 0x3099]), (0x3071, [0x306F, 0x309A]), (0x3073, [0x3072, 0x3099]),
      (0x3074, [0x3072, 0x309A]), (0x3076, [0x3075, 0x3099]), (0x3077, [0x3075, 0x309A]),
      (0x3079, [0x3078, 0x3099]), (0x307A, [0x3078, 0x309A]), (0x307C, [0x307B, 0x3099]),
      (0x307D, [0x307B, 0x309A]), (0x3094, [0x3046, 0x3099]), (0x309E, [0x309D, 0x3099]),
      (0x30AC, [0x30AB, 0x3099]), (0x30AE, [0x30AD, 0x3099]), (0x30B0, [0x30AF, 0x3099]),
      (0x30B2, [0x30B1, 0x3099]), (0x30B4, [0x30B3, 0x3099]), (0x30B6, [0x30B5, 0x3099]),
      (0x30B8, [0x30B7, 0x3099]), (0x30BA, [0x30B9, 0x3099]), (0x30BC, [0x30BB, 0x3099]),
      (0x30BE, [0x30BD, 0x3099]), (0x30C0, [0x30BF, 0x3099]), (0x30C2, [0x30C1, 0x3099]),
      (0x30C5, [0x30C4, 0x3099]), (0x30C7, [0x30C6, 0x3099]), (0x30C9, [0x30C8, 0x3099]),
      (0x30D0, [0x30CF, 0x3099]), (0x30D1, [0x30CF, 0x309A]), (0x30D3, [0x30D2, 0x3099]),
      (0x30D4, [0x30D2, 0x309A]), (0x30D6, [0x30D5, 0x3099]), (0x30D7, [0x30D5, 0x309A]),
      (0x30D9, [0x30D8, 0x3099]), (0x30DA, [0x30D8, 0x309A]), (0x30DC, [0x30DB, 0x3099]),
      (0x30DD, [0x30DB, 0x309A]), (0x30F4, [0x30A6, 0x3099]), (0x30F7, [0x30EF, 0x3099]),
      (0x30F8, [0x30F0, 0x3099]), (0x30F9, [0x30F1, 0x3099]), (0x30FA, [0x30F2, 0x3099]),
      (0x30FE, [0x30FD, 0x3099])]⟩

def otherPageFB : FormPage :=
  ⟨0xFB,
    [(0xFB1D, [0x5D9, 0x5B4]), (0xFB1F, [0x5F2, 0x5B7]), (0xFB2A, [0x5E9, 0x5C1]),
      (0xFB2B, [0x5E9, 0x5C2]), (0xFB2C, [0x5E9, 0x5BC, 0x5C1]), (0xFB2D, [0x5E9, 0x5BC, 0x5C2]),
      (0xFB2E, [0x5D0, 0x5B7]), (0xFB2F, [0x5D0, 0x5B8]), (0xFB30, [0x5D0, 0x5BC]),
      (0xFB31, [0x5D1, 0x5BC]), (0xFB32, [0x5D2, 0x5BC]), (0xFB33, [0x5D3, 0x5BC]),
      (0xFB34, [0x5D4, 0x5BC]), (0xFB35, [0x5D5, 0x5BC]), (0xFB36, [0x5D6, 0x5BC]),
      (0xFB38, [0x5D8, 0x5BC]), (0xFB39, [0x5D9, 0x5BC]), (0xFB3A, [0x5DA, 0x5BC]),
      (0xFB3B, [0x5DB, 0x5BC]), (0xFB3C, [0x5DC, 0x5BC]), (0xFB3E, [0x5DE, 0x5BC]),
      (0xFB40, [0x5E0, 0x5BC]), (0xFB41, [0x5E1, 0x5BC]), (0xFB43, [0x5E3, 0x5BC]),
      (0xFB44, [0x5E4, 0x5BC]), (0xFB46, [0x5E6, 0x5BC]), (0xFB47, [0x5E7, 0x5BC]),
      (0xFB48, [0x5E8, 0x5BC]), (0xFB49, [0x5E9, 0x5BC]), (0xFB4A, [0x5EA, 0x5BC]),
      (0xFB4B, [0x5D5, 0x5B9]), (0xFB4C, [0x5D1, 0x5BF]), (0xFB4D, [0x5DB, 0x5BF]),
      (0xFB4E, [0x5E4, 0x5BF])]⟩

def otherPage105 : FormPage := ⟨0x105, [(0x105C9, [0x105D2, 0x307]), (0x105E4, [0x105DA, 0x307])]⟩

def otherPage110 : FormPage :=
  ⟨0x110,
    [(0x1109A, [0x11099, 0x110BA]), (0x1109C, [0x1109B, 0x110BA]), (0x110AB, [0x110A5, 0x110BA])]⟩

def otherPage111 : FormPage :=
  ⟨0x111,
    [(0x1112E, [0x11131, 0x11127]), (0x1112F, [0x11132, 0x11127])]⟩

def otherPage113 : FormPage :=
  ⟨0x113,
    [(0x1134B, [0x11347, 0x1133E]), (0x1134C, [0x11347, 0x11357]), (0x11383, [0x11382, 0x113C9]),
      (0x11385, [0x11384, 0x113BB]), (0x1138E, [0x1138B, 0x113C2]), (0x11391, [0x11390, 0x113C9]),
      (0x113C5, [0x113C2, 0x113C2]), (0x113C7, [0x113C2, 0x113B8]), (0x113C8, [0x113C2, 0x113C9])]⟩

def otherPage114 : FormPage :=
  ⟨0x114,
    [(0x114BB, [0x114B9, 0x114BA]), (0x114BC, [0x114B9, 0x114B0]), (0x114BE, [0x114B9, 0x114BD])]⟩

def otherPage115 : FormPage :=
  ⟨0x115,
    [(0x115BA, [0x115B8, 0x115AF]), (0x115BB, [0x115B9, 0x115AF])]⟩

def otherPage119 : FormPage := ⟨0x119, [(0x11938, [0x11935, 0x11930])]⟩

def otherPage161 : FormPage :=
  ⟨0x161,
    [(0x16121, [0x1611E, 0x1611E]), (0x16122, [0x1611E, 0x16129]), (0x16123, [0x1611E, 0x1611F]),
      (0x16124, [0x16129, 0x1611F]), (0x16125, [0x1611E, 0x16120]),
      (0x16126, [0x1611E, 0x1611E, 0x1611F]), (0x16127, [0x1611E, 0x16129, 0x1611F]),
      (0x16128, [0x1611E, 0x1611E, 0x16120])]⟩

def otherPage16D : FormPage :=
  ⟨0x16D,
    [(0x16D68, [0x16D67, 0x16D67]), (0x16D69, [0x16D63, 0x16D67]),
      (0x16D6A, [0x16D63, 0x16D67, 0x16D67])]⟩

def otherPage1D1 : FormPage :=
  ⟨0x1D1,
    [(0x1D15E, [0x1D157, 0x1D165]), (0x1D15F, [0x1D158, 0x1D165]),
      (0x1D160, [0x1D158, 0x1D165, 0x1D16E]), (0x1D161, [0x1D158, 0x1D165, 0x1D16F]),
      (0x1D162, [0x1D158, 0x1D165, 0x1D170]), (0x1D163, [0x1D158, 0x1D165, 0x1D171]),
      (0x1D164, [0x1D158, 0x1D165, 0x1D172]), (0x1D1BB, [0x1D1B9, 0x1D165]),
      (0x1D1BC, [0x1D1BA, 0x1D165]), (0x1D1BD, [0x1D1B9, 0x1D165, 0x1D16E]),
      (0x1D1BE, [0x1D1BA, 0x1D165, 0x1D16E]), (0x1D1BF, [0x1D1B9, 0x1D165, 0x1D16F]),
      (0x1D1C0, [0x1D1BA, 0x1D165, 0x1D16F])]⟩

def otherPages : List FormPage :=
  [otherPage3, otherPage4, otherPage6, otherPage9, otherPageA, otherPageB, otherPageC,
    otherPageD, otherPageF, otherPage10, otherPage1B, otherPage20, otherPage21, otherPage22,
    otherPage23, otherPage2A, otherPage30, otherPageFB, otherPage105, otherPage110, otherPage111,
    otherPage113, otherPage114, otherPage115, otherPage119, otherPage161, otherPage16D,
    otherPage1D1]

end CodeNotes.Collation
