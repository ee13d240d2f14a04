import CodeNotes.Collation.Weight
/-!
Collation weights of kana, Bopomofo, Hangul, Yi and Lisu.
-/
namespace CodeNotes.Collation

def hangulJamo : Chart :=
  ⟨0x1100, 0x11FF,
    [⟨0x1100, 95, .letter 0x436A 0x20 0x2⟩, ⟨0x115F, 73, .letter 0x43E6 0x20 0x2⟩,
      ⟨0x11A8, 88, .letter 0x4446 0x20 0x2⟩]⟩

def hiragana : Chart :=
  ⟨0x3040, 0x309F,
    [⟨0x3041, 1, .letter 0x44CF 0x20 0xD⟩, ⟨0x3042, 1, .letter 0x44CF 0x20 0xE⟩,
      ⟨0x3043, 1, .letter 0x44D0 0x20 0xD⟩, ⟨0x3044, 1, .letter 0x44D0 0x20 0xE⟩,
      ⟨0x3045, 1, .letter 0x44D1 0x20 0xD⟩, ⟨0x3046, 1, .letter 0x44D1 0x20 0xE⟩,
      ⟨0x3047, 1, .letter 0x44D3 0x20 0xD⟩, ⟨0x3048, 1, .letter 0x44D3 0x20 0xE⟩,
      ⟨0x3049, 1, .letter 0x44D4 0x20 0xD⟩, ⟨0x304A, 2, .letter 0x44D4 0x20 0xE⟩,
      ⟨0x304D, 1, .letter 0x44D6 0x20 0xE⟩, ⟨0x304F, 1, .letter 0x44D7 0x20 0xE⟩,
      ⟨0x3051, 1, .letter 0x44D8 0x20 0xE⟩, ⟨0x3053, 1, .letter 0x44D9 0x20 0xE⟩,
      ⟨0x3055, 1, .letter 0x44DA 0x20 0xE⟩, ⟨0x3057, 1, .letter 0x44DB 0x20 0xE⟩,
      ⟨0x3059, 1, .letter 0x44DC 0x20 0xE⟩, ⟨0x305B, 1, .letter 0x44DD 0x20 0xE⟩,
      ⟨0x305D, 1, .letter 0x44DE 0x20 0xE⟩, ⟨0x305F, 1, .letter 0x44DF 0x20 0xE⟩,
      ⟨0x3061, 1, .letter 0x44E0 0x20 0xE⟩, ⟨0x3063, 1, .letter 0x44E1 0x20 0xD⟩,
      ⟨0x3064, 1, .letter 0x44E1 0x20 0xE⟩, ⟨0x3066, 1, .letter 0x44E2 0x20 0xE⟩,
      ⟨0x3068, 1, .letter 0x44E3 0x20 0xE⟩, ⟨0x306A, 6, .letter 0x44E4 0x20 0xE⟩,
      ⟨0x3072, 1, .letter 0x44EA 0x20 0xE⟩, ⟨0x3075, 1, .letter 0x44EB 0x20 0xE⟩,
      ⟨0x3078, 1, .letter 0x44EC 0x20 0xE⟩, ⟨0x307B, 1, .letter 0x44ED 0x20 0xE⟩,
      ⟨0x307E, 5, .letter 0x44EE 0x20 0xE⟩, ⟨0x3083, 1, .letter 0x44F3 0x20 0xD⟩,
      ⟨0x3084, 1, .letter 0x44F3 0x20 0xE⟩, ⟨0x3085, 1, .letter 0x44F5 0x20 0xD⟩,
      ⟨0x3086, 1, .letter 0x44F5 0x20 0xE⟩, ⟨0x3087, 1, .letter 0x44F7 0x20 0xD⟩,
      ⟨0x3088, 6, .letter 0x44F7 0x20 0xE⟩, ⟨0x308E, 1, .letter 0x44FD 0x20 0xD⟩,
      ⟨0x308F, 2, .letter 0x44FD 0x20 0xE⟩, ⟨0x3091, 3, .letter 0x4500 0x20 0xE⟩,
      ⟨0x3095, 1, .letter 0x44D5 0x20 0xD⟩, ⟨0x3096, 1, .letter 0x44D8 0x20 0xD⟩,
      ⟨0x3099, 2, .mark 0x37 0x2⟩, ⟨0x309B, 2, .letter 0x4EF 0x20 0x2⟩,
      ⟨0x309D, 1, .letter 0x2144 0x20 0x2⟩, ⟨0x309F, 1, .spelled [0x3088, 0x308A] 0x16 0x16⟩]⟩

def katakana : Chart :=
  ⟨0x30A0, 0x30FF,
    [⟨0x30A0, 1, .blank 0x222⟩, ⟨0x30A1, 1, .letter 0x44CF 0x20 0xF⟩,
      ⟨0x30A2, 1, .letter 0x44CF 0x20 0x11⟩, ⟨0x30A3, 1, .letter 0x44D0 0x20 0xF⟩,
      ⟨0x30A4, 1, .letter 0x44D0 0x20 0x11⟩, ⟨0x30A5, 1, .letter 0x44D1 0x20 0xF⟩,
      ⟨0x30A6, 1, .letter 0x44D1 0x20 0x11⟩, ⟨0x30A7, 1, .letter 0x44D3 0x20 0xF⟩,
      ⟨0x30A8, 1, .letter 0x44D3 0x20 0x11⟩, ⟨0x30A9, 1, .letter 0x44D4 0x20 0xF⟩,
      ⟨0x30AA, 2, .letter 0x44D4 0x20 0x11⟩, ⟨0x30AD, 1, .letter 0x44D6 0x20 0x11⟩,
      ⟨0x30AF, 1, .letter 0x44D7 0x20 0x11⟩, ⟨0x30B1, 1, .letter 0x44D8 0x20 0x11⟩,
      ⟨0x30B3, 1, .letter 0x44D9 0x20 0x11⟩, ⟨0x30B5, 1, .letter 0x44DA 0x20 0x11⟩,
      ⟨0x30B7, 1, .letter 0x44DB 0x20 0x11⟩, ⟨0x30B9, 1, .letter 0x44DC 0x20 0x11⟩,
      ⟨0x30BB, 1, .letter 0x44DD 0x20 0x11⟩, ⟨0x30BD, 1, .letter 0x44DE 0x20 0x11⟩,
      ⟨0x30BF, 1, .letter 0x44DF 0x20 0x11⟩, ⟨0x30C1, 1, .letter 0x44E0 0x20 0x11⟩,
      ⟨0x30C3, 1, .letter 0x44E1 0x20 0xF⟩, ⟨0x30C4, 1, .letter 0x44E1 0x20 0x11⟩,
      ⟨0x30C6, 1, .letter 0x44E2 0x20 0x11⟩, ⟨0x30C8, 1, .letter 0x44E3 0x20 0x11⟩,
      ⟨0x30CA, 6, .letter 0x44E4 0x20 0x11⟩, ⟨0x30D2, 1, .letter 0x44EA 0x20 0x11⟩,
      ⟨0x30D5, 1, .letter 0x44EB 0x20 0x11⟩, ⟨0x30D8, 1, .letter 0x44EC 0x20 0x11⟩,
      ⟨0x30DB, 1, .letter 0x44ED 0x20 0x11⟩, ⟨0x30DE, 5, .letter 0x44EE 0x20 0x11⟩,
      ⟨0x30E3, 1, .letter 0x44F3 0x20 0xF⟩, ⟨0x30E4, 1, .letter 0x44F3 0x20 0x11⟩,
      ⟨0x30E5, 1, .letter 0x44F5 0x20 0xF⟩, ⟨0x30E6, 1, .letter 0x44F5 0x20 0x11⟩,
      ⟨0x30E7, 1, .letter 0x44F7 0x20 0xF⟩, ⟨0x30E8, 6, .letter 0x44F7 0x20 0x11⟩,
      ⟨0x30EE, 1, .letter 0x44FD 0x20 0xF⟩, ⟨0x30EF, 2, .letter 0x44FD 0x20 0x11⟩,
      ⟨0x30F1, 3, .letter 0x4500 0x20 0x11⟩, ⟨0x30F5, 1, .letter 0x44D5 0x20 0xF⟩,
      ⟨0x30F6, 1, .letter 0x44D8 0x20 0xF⟩, ⟨0x30FB, 1, .blank 0x223⟩,
      ⟨0x30FC, 2, .letter 0x2145 0x20 0x2⟩, ⟨0x30FF, 1, .spelled [0x30B3, 0x30C8] 0x16 0x16⟩]⟩

def bopomofo : Chart :=
  ⟨0x3100, 0x312F,
    [⟨0x3105, 3, .letter 0x4621 0x20 0x2⟩, ⟨0x3108, 1, .letter 0x4625 0x20 0x2⟩,
      ⟨0x3109, 3, .letter 0x4627 0x20 0x2⟩, ⟨0x310C, 3, .letter 0x462B 0x20 0x2⟩,
      ⟨0x310F, 3, .letter 0x4630 0x20 0x2⟩, ⟨0x3112, 1, .letter 0x4634 0x20 0x2⟩,
      ⟨0x3113, 7, .letter 0x4637 0x20 0x2⟩, ⟨0x311A, 2, .letter 0x4641 0x20 0x2⟩,
      ⟨0x311C, 2, .letter 0x4644 0x20 0x2⟩, ⟨0x311E, 7, .letter 0x4647 0x20 0x2⟩,
      ⟨0x3125, 1, .letter 0x464F 0x20 0x2⟩, ⟨0x3126, 4, .letter 0x4652 0x20 0x2⟩,
      ⟨0x312A, 1, .letter 0x4626 0x20 0x2⟩, ⟨0x312B, 1, .letter 0x462E 0x20 0x2⟩,
      ⟨0x312C, 1, .letter 0x4633 0x20 0x2⟩, ⟨0x312D, 1, .letter 0x4656 0x20 0x2⟩,
      ⟨0x312E, 1, .letter 0x4644 0x20 0x4⟩, ⟨0x312F, 1, .letter 0x462A 0x20 0x2⟩]⟩

def hangulCompatibilityJamo : Chart :=
  ⟨0x3130, 0x318F,
    [⟨0x3131, 2, .letter 0x436A 0x20 0x4⟩, ⟨0x3133, 1, .letter 0x4448 0x20 0x4⟩,
      ⟨0x3134, 1, .letter 0x436C 0x20 0x4⟩, ⟨0x3135, 2, .letter 0x444A 0x20 0x4⟩,
      ⟨0x3137, 3, .letter 0x436D 0x20 0x4⟩, ⟨0x313A, 6, .letter 0x444E 0x20 0x4⟩,
      ⟨0x3140, 1, .letter 0x4384 0x20 0x4⟩, ⟨0x3141, 3, .letter 0x4370 0x20 0x4⟩,
      ⟨0x3144, 1, .letter 0x438B 0x20 0x4⟩, ⟨0x3145, 10, .letter 0x4373 0x20 0x4⟩,
      ⟨0x314F, 21, .letter 0x43E8 0x20 0x4⟩, ⟨0x3164, 1, .letter 0x43E7 0x20 0x4⟩,
      ⟨0x3165, 2, .letter 0x437E 0x20 0x4⟩, ⟨0x3167, 2, .letter 0x4465 0x20 0x4⟩,
      ⟨0x3169, 1, .letter 0x446A 0x20 0x4⟩, ⟨0x316A, 1, .letter 0x446C 0x20 0x4⟩,
      ⟨0x316B, 1, .letter 0x4471 0x20 0x4⟩, ⟨0x316C, 1, .letter 0x4475 0x20 0x4⟩,
      ⟨0x316D, 1, .letter 0x4477 0x20 0x4⟩, ⟨0x316E, 1, .letter 0x4386 0x20 0x4⟩,
      ⟨0x316F, 1, .letter 0x447B 0x20 0x4⟩, ⟨0x3170, 1, .letter 0x447D 0x20 0x4⟩,
      ⟨0x3171, 2, .letter 0x4387 0x20 0x4⟩, ⟨0x3173, 1, .letter 0x438A 0x20 0x4⟩,
      ⟨0x3174, 2, .letter 0x438C 0x20 0x4⟩, ⟨0x3176, 1, .letter 0x4391 0x20 0x4⟩,
      ⟨0x3177, 1, .letter 0x4393 0x20 0x4⟩, ⟨0x3178, 5, .letter 0x4395 0x20 0x4⟩,
      ⟨0x317D, 1, .letter 0x439C 0x20 0x4⟩, ⟨0x317E, 1, .letter 0x43A0 0x20 0x4⟩,
      ⟨0x317F, 1, .letter 0x43AA 0x20 0x4⟩, ⟨0x3180, 1, .letter 0x43B1 0x20 0x4⟩,
      ⟨0x3181, 1, .letter 0x43B6 0x20 0x4⟩, ⟨0x3182, 2, .letter 0x448F 0x20 0x4⟩,
      ⟨0x3184, 3, .letter 0x43C1 0x20 0x4⟩, ⟨0x3187, 2, .letter 0x440B 0x20 0x4⟩,
      ⟨0x3189, 1, .letter 0x440F 0x20 0x4⟩, ⟨0x318A, 2, .letter 0x4418 0x20 0x4⟩,
      ⟨0x318C, 1, .letter 0x441B 0x20 0x4⟩, ⟨0x318D, 1, .letter 0x4425 0x20 0x4⟩,
      ⟨0x318E, 1, .letter 0x4428 0x20 0x4⟩]⟩

def bopomofoExtended : Chart :=
  ⟨0x31A0, 0x31BF,
    [⟨0x31A0, 1, .several [.letter 0x4621 0x20 0x4, .mark 0x11E 0x4]⟩,
      ⟨0x31A1, 1, .several [.letter 0x463B 0x20 0x4, .mark 0x11E 0x4]⟩,
      ⟨0x31A2, 1, .several [.letter 0x4631 0x20 0x4, .mark 0x11E 0x4]⟩,
      ⟨0x31A3, 1, .several [.letter 0x462C 0x20 0x4, .mark 0x11E 0x4]⟩,
      ⟨0x31A4, 1, .letter 0x4646 0x20 0x2⟩,
      ⟨0x31A5, 1, .several [.letter 0x4646 0x20 0x4, .mark 0x11E 0x4]⟩,
      ⟨0x31A6, 1, .letter 0x4643 0x20 0x2⟩,
      ⟨0x31A7, 1, .several [.letter 0x4642 0x20 0x4, .mark 0x11E 0x4]⟩,
      ⟨0x31A8, 1, .several [.letter 0x4654 0x20 0x4, .mark 0x124 0x4]⟩,
      ⟨0x31A9, 1, .several [.letter 0x4641 0x20 0x4, .mark 0x11E 0x4]⟩,
      ⟨0x31AA, 1, .several [.letter 0x4653 0x20 0x4, .mark 0x11E 0x4]⟩,
      ⟨0x31AB, 1, .several [.letter 0x4654 0x20 0x4, .mark 0x11E 0x4]⟩,
      ⟨0x31AC, 1, .letter 0x4624 0x20 0x2⟩, ⟨0x31AD, 1, .letter 0x462F 0x20 0x2⟩,
      ⟨0x31AE, 1, .several [.letter 0x4647 0x20 0x4, .mark 0x11E 0x4]⟩,
      ⟨0x31AF, 1, .several [.letter 0x4649 0x20 0x4, .mark 0x11E 0x4]⟩,
      ⟨0x31B0, 2, .letter 0x4650 0x20 0x2⟩, ⟨0x31B2, 1, .letter 0x464E 0x20 0x2⟩,
      ⟨0x31B3, 1, .several [.letter 0x4653 0x20 0x16, .mark 0x11E 0x16]⟩,
      ⟨0x31B4, 1, .letter 0x4622 0x20 0x19⟩, ⟨0x31B5, 1, .letter 0x4628 0x20 0x19⟩,
      ⟨0x31B6, 1, .letter 0x462D 0x20 0x19⟩, ⟨0x31B7, 1, .letter 0x4630 0x20 0x19⟩,
      ⟨0x31B8, 3, .letter 0x463E 0x20 0x2⟩, ⟨0x31BB, 1, .letter 0x462C 0x20 0x19⟩,
      ⟨0x31BC, 2, .letter 0x4635 0x20 0x2⟩, ⟨0x31BE, 2, .letter 0x4657 0x20 0x2⟩]⟩

def katakanaPhoneticExtensions : Chart :=
  ⟨0x31F0, 0x31FF,
    [⟨0x31F0, 1, .letter 0x44D7 0x20 0xF⟩, ⟨0x31F1, 2, .letter 0x44DB 0x20 0xF⟩,
      ⟨0x31F3, 1, .letter 0x44E3 0x20 0xF⟩, ⟨0x31F4, 1, .letter 0x44E6 0x20 0xF⟩,
      ⟨0x31F5, 5, .letter 0x44E9 0x20 0xF⟩, ⟨0x31FA, 1, .letter 0x44F0 0x20 0xF⟩,
      ⟨0x31FB, 5, .letter 0x44F8 0x20 0xF⟩]⟩

def yiSyllables : Chart := ⟨0xA000, 0xA48F, [⟨0xA000, 1165, .letter 0x4659 0x20 0x2⟩]⟩

def yiRadicals : Chart := ⟨0xA490, 0xA4CF, [⟨0xA490, 55, .letter 0x138F 0x20 0x2⟩]⟩

def lisu : Chart :=
  ⟨0xA4D0, 0xA4FF,
    [⟨0xA4D0, 26, .letter 0x4AEC 0x20 0x2⟩, ⟨0xA4EA, 1, .letter 0x4B08 0x20 0x2⟩,
      ⟨0xA4EB, 1, .letter 0x4B06 0x20 0x2⟩, ⟨0xA4EC, 1, .letter 0x4B09 0x20 0x2⟩,
      ⟨0xA4ED, 1, .letter 0x4B07 0x20 0x2⟩, ⟨0xA4EE, 10, .letter 0x4B0B 0x20 0x2⟩,
      ⟨0xA4F8, 4, .letter 0x4AE6 0x20 0x2⟩, ⟨0xA4FC, 1, .letter 0x4AEB 0x20 0x2⟩,
      ⟨0xA4FD, 1, .letter 0x4AEA 0x20 0x2⟩, ⟨0xA4FE, 1, .blank 0x234⟩, ⟨0xA4FF, 1, .blank 0x290⟩]⟩

def hangulJamoExtendedA : Chart := ⟨0xA960, 0xA97F, [⟨0xA960, 29, .letter 0x43C9 0x20 0x2⟩]⟩

def hangulJamoExtendedB : Chart :=
  ⟨0xD7B0, 0xD7FF,
    [⟨0xD7B0, 23, .letter 0x442F 0x20 0x2⟩, ⟨0xD7CB, 49, .letter 0x449E 0x20 0x2⟩]⟩

def lisuSupplement : Chart := ⟨0x11FB0, 0x11FBF, [⟨0x11FB0, 1, .letter 0x4B0A 0x20 0x2⟩]⟩

def ideographicSymbolsAndPunctuation : Chart :=
  ⟨0x16FE0, 0x16FFF,
    [⟨0x16FE0, 2, .letter 0x213E 0x20 0x2⟩, ⟨0x16FE2, 1, .blank 0x23B⟩,
      ⟨0x16FE3, 1, .letter 0x2140 0x20 0x2⟩, ⟨0x16FE4, 1, .ignored⟩,
      ⟨0x16FF0, 2, .mark 0x10E 0x2⟩]⟩

def kanaExtendedB : Chart :=
  ⟨0x1AFF0, 0x1AFFF,
    [⟨0x1AFF0, 4, .letter 0x556 0x20 0x2⟩, ⟨0x1AFF5, 7, .letter 0x55A 0x20 0x2⟩,
      ⟨0x1AFFD, 2, .letter 0x561 0x20 0x2⟩]⟩

def kanaSupplement : Chart :=
  ⟨0x1B000, 0x1B0FF,
    [⟨0x1B000, 1, .letter 0x44D2 0x20 0x11⟩, ⟨0x1B001, 1, .letter 0x4510 0x20 0x2⟩,
      ⟨0x1B002, 13, .letter 0x4503 0x20 0x2⟩, ⟨0x1B00F, 241, .letter 0x4511 0x20 0x2⟩]⟩

def kanaExtendedA : Chart :=
  ⟨0x1B100, 0x1B12F,
    [⟨0x1B100, 31, .letter 0x4602 0x20 0x2⟩, ⟨0x1B11F, 1, .letter 0x44FF 0x20 0x2⟩,
      ⟨0x1B120, 1, .letter 0x44F4 0x20 0x2⟩, ⟨0x1B121, 1, .letter 0x44F6 0x20 0x2⟩,
      ⟨0x1B122, 1, .letter 0x44FF 0x20 0x8⟩]⟩

def smallKanaExtension : Chart :=
  ⟨0x1B130, 0x1B16F,
    [⟨0x1B132, 1, .letter 0x44D9 0x20 0xD⟩, ⟨0x1B150, 1, .letter 0x44FE 0x20 0xD⟩,
      ⟨0x1B151, 2, .letter 0x4500 0x20 0xD⟩, ⟨0x1B155, 1, .letter 0x44D9 0x20 0xF⟩,
      ⟨0x1B164, 1, .letter 0x44FE 0x20 0xF⟩, ⟨0x1B165, 3, .letter 0x4500 0x20 0xF⟩]⟩

def eastAsianCharts : List Chart :=
  [hangulJamo, hiragana, katakana, bopomofo, hangulCompatibilityJamo, bopomofoExtended,
    katakanaPhoneticExtensions, yiSyllables, yiRadicals, lisu, hangulJamoExtendedA,
    hangulJamoExtendedB, lisuSupplement, ideographicSymbolsAndPunctuation, kanaExtendedB,
    kanaSupplement, kanaExtendedA, smallKanaExtension]

end CodeNotes.Collation
