import CodeNotes.Collation.Weight
/-!
Collation weights of the scripts of South-East Asia.
-/
namespace CodeNotes.Collation

def thai : Chart :=
  ⟨0xE00, 0xE7F,
    [⟨0xE01, 58, .letter 0x3383 0x20 0x2⟩, ⟨0xE3F, 1, .letter 0x215A 0x20 0x2⟩,
      ⟨0xE40, 6, .letter 0x33BD 0x20 0x2⟩, ⟨0xE46, 1, .letter 0x212D 0x20 0x2⟩,
      ⟨0xE47, 7, .mark 0xD6 0x2⟩, ⟨0xE4E, 1, .mark 0xD5 0x2⟩, ⟨0xE4F, 1, .blank 0x430⟩,
      ⟨0xE50, 10, .letter 0x217D 0x20 0x2⟩, ⟨0xE5A, 2, .blank 0x431⟩]⟩

def lao : Chart :=
  ⟨0xE80, 0xEFF,
    [⟨0xE81, 2, .letter 0x33C4 0x20 0x2⟩, ⟨0xE84, 1, .letter 0x33C6 0x20 0x2⟩,
      ⟨0xE86, 4, .letter 0x33C7 0x20 0x2⟩, ⟨0xE8A, 1, .letter 0x33CC 0x20 0x2⟩,
      ⟨0xE8C, 1, .letter 0x33CD 0x20 0x2⟩, ⟨0xE8D, 1, .letter 0x33D0 0x20 0x2⟩,
      ⟨0xE8E, 1, .letter 0x33CE 0x20 0x2⟩, ⟨0xE8F, 21, .letter 0x33D1 0x20 0x2⟩,
      ⟨0xEA5, 1, .letter 0x33E6 0x20 0x2⟩, ⟨0xEA7, 3, .letter 0x33E7 0x20 0x2⟩,
      ⟨0xEAA, 1, .letter 0x33CB 0x20 0x2⟩, ⟨0xEAB, 19, .letter 0x33EA 0x20 0x2⟩,
      ⟨0xEC0, 5, .letter 0x33FD 0x20 0x2⟩, ⟨0xEC6, 1, .letter 0x212E 0x20 0x2⟩,
      ⟨0xEC8, 6, .mark 0xDE 0x2⟩, ⟨0xECE, 1, .mark 0xDD 0x2⟩,
      ⟨0xED0, 10, .letter 0x217D 0x20 0x2⟩, ⟨0xEDC, 1, .spelled [0xEAB, 0xE99] 0x4 0x4⟩,
      ⟨0xEDD, 1, .spelled [0xEAB, 0xEA1] 0x4 0x4⟩, ⟨0xEDE, 1, .letter 0x33C3 0x20 0x2⟩,
      ⟨0xEDF, 1, .letter 0x33CF 0x20 0x2⟩]⟩

def myanmar : Chart :=
  ⟨0x1000, 0x109F,
    [⟨0x1000, 1, .letter 0x36DB 0x20 0x2⟩, ⟨0x1001, 1, .letter 0x36DD 0x20 0x2⟩,
      ⟨0x1002, 1, .letter 0x36DF 0x20 0x2⟩, ⟨0x1003, 1, .letter 0x36E3 0x20 0x2⟩,
      ⟨0x1004, 1, .letter 0x36E6 0x20 0x2⟩, ⟨0x1005, 1, .letter 0x36E8 0x20 0x2⟩,
      ⟨0x1006, 1, .letter 0x36EB 0x20 0x2⟩, ⟨0x1007, 1, .letter 0x36EF 0x20 0x2⟩,
      ⟨0x1008, 1, .letter 0x36F4 0x20 0x2⟩, ⟨0x1009, 1, .letter 0x36FB 0x20 0x2⟩,
      ⟨0x100A, 2, .letter 0x36FF 0x20 0x2⟩, ⟨0x100C, 1, .letter 0x3702 0x20 0x2⟩,
      ⟨0x100D, 1, .letter 0x3704 0x20 0x2⟩, ⟨0x100E, 1, .letter 0x3707 0x20 0x2⟩,
      ⟨0x100F, 1, .letter 0x370A 0x20 0x2⟩, ⟨0x1010, 3, .letter 0x370E 0x20 0x2⟩,
      ⟨0x1013, 1, .letter 0x3713 0x20 0x2⟩, ⟨0x1014, 1, .letter 0x3716 0x20 0x2⟩,
      ⟨0x1015, 2, .letter 0x371A 0x20 0x2⟩, ⟨0x1017, 1, .letter 0x3721 0x20 0x2⟩,
      ⟨0x1018, 1, .letter 0x3724 0x20 0x2⟩, ⟨0x1019, 1, .letter 0x3727 0x20 0x2⟩,
      ⟨0x101A, 1, .letter 0x3729 0x20 0x2⟩, ⟨0x101B, 1, .letter 0x372B 0x20 0x2⟩,
      ⟨0x101C, 1, .letter 0x372F 0x20 0x2⟩, ⟨0x101D, 1, .letter 0x3731 0x20 0x2⟩,
      ⟨0x101E, 1, .letter 0x3738 0x20 0x2⟩, ⟨0x101F, 1, .letter 0x373A 0x20 0x2⟩,
      ⟨0x1020, 1, .letter 0x3740 0x20 0x2⟩, ⟨0x1021, 5, .letter 0x3747 0x20 0x2⟩,
      ⟨0x1027, 4, .letter 0x3751 0x20 0x2⟩, ⟨0x102B, 1, .letter 0x3755 0x20 0x4⟩,
      ⟨0x102C, 1, .letter 0x3755 0x20 0x2⟩, ⟨0x102D, 1, .letter 0x3759 0x20 0x2⟩,
      ⟨0x102E, 1, .letter 0x375B 0x20 0x2⟩, ⟨0x102F, 1, .letter 0x375D 0x20 0x2⟩,
      ⟨0x1030, 1, .letter 0x3760 0x20 0x2⟩, ⟨0x1031, 1, .letter 0x3765 0x20 0x2⟩,
      ⟨0x1032, 1, .letter 0x3769 0x20 0x2⟩, ⟨0x1033, 1, .letter 0x375C 0x20 0x2⟩,
      ⟨0x1034, 1, .letter 0x376C 0x20 0x2⟩, ⟨0x1035, 1, .letter 0x3767 0x20 0x2⟩,
      ⟨0x1036, 1, .mark 0xC4 0x2⟩, ⟨0x1037, 1, .mark 0xEA 0x2⟩, ⟨0x1038, 1, .mark 0xC5 0x2⟩,
      ⟨0x1039, 2, .letter 0x3771 0x20 0x2⟩, ⟨0x103B, 1, .letter 0x372A 0x20 0x2⟩,
      ⟨0x103C, 1, .letter 0x372E 0x20 0x2⟩, ⟨0x103D, 1, .letter 0x3732 0x20 0x2⟩,
      ⟨0x103E, 1, .letter 0x373D 0x20 0x2⟩,
      ⟨0x103F, 1, .several [.letter 0x3738 0x20 0x4, .letter 0x3771 0x20 0x4,
        .letter 0x3738 0x20 0x4]⟩,
      ⟨0x1040, 10, .letter 0x217D 0x20 0x2⟩, ⟨0x104A, 2, .blank 0x2A5⟩,
      ⟨0x104C, 4, .blank 0x460⟩, ⟨0x1050, 2, .letter 0x3735 0x20 0x2⟩,
      ⟨0x1052, 4, .letter 0x374D 0x20 0x2⟩, ⟨0x1056, 4, .letter 0x3761 0x20 0x2⟩,
      ⟨0x105A, 1, .letter 0x36E7 0x20 0x2⟩, ⟨0x105B, 1, .letter 0x36F5 0x20 0x2⟩,
      ⟨0x105C, 2, .letter 0x3742 0x20 0x2⟩, ⟨0x105E, 1, .letter 0x3719 0x20 0x2⟩,
      ⟨0x105F, 1, .letter 0x3728 0x20 0x2⟩, ⟨0x1060, 1, .letter 0x3730 0x20 0x2⟩,
      ⟨0x1061, 1, .letter 0x36F9 0x20 0x2⟩, ⟨0x1062, 1, .letter 0x376D 0x20 0x2⟩,
      ⟨0x1063, 2, .letter 0x3773 0x20 0x2⟩, ⟨0x1065, 1, .letter 0x3737 0x20 0x2⟩,
      ⟨0x1066, 1, .letter 0x3746 0x20 0x2⟩, ⟨0x1067, 2, .letter 0x376E 0x20 0x2⟩,
      ⟨0x1069, 5, .letter 0x3775 0x20 0x2⟩, ⟨0x106E, 1, .letter 0x370B 0x20 0x2⟩,
      ⟨0x106F, 2, .letter 0x3744 0x20 0x2⟩, ⟨0x1071, 1, .letter 0x375A 0x20 0x2⟩,
      ⟨0x1072, 1, .letter 0x3757 0x20 0x2⟩, ⟨0x1073, 2, .letter 0x375E 0x20 0x2⟩,
      ⟨0x1075, 1, .letter 0x36DC 0x20 0x2⟩, ⟨0x1076, 1, .letter 0x36DE 0x20 0x2⟩,
      ⟨0x1077, 1, .letter 0x36E0 0x20 0x2⟩, ⟨0x1078, 1, .letter 0x36E9 0x20 0x2⟩,
      ⟨0x1079, 1, .letter 0x36F2 0x20 0x2⟩, ⟨0x107A, 1, .letter 0x36FC 0x20 0x2⟩,
      ⟨0x107B, 1, .letter 0x3711 0x20 0x2⟩, ⟨0x107C, 1, .letter 0x3717 0x20 0x2⟩,
      ⟨0x107D, 2, .letter 0x371C 0x20 0x2⟩, ⟨0x107F, 1, .letter 0x3722 0x20 0x2⟩,
      ⟨0x1080, 1, .letter 0x3734 0x20 0x2⟩, ⟨0x1081, 1, .letter 0x373B 0x20 0x2⟩,
      ⟨0x1082, 1, .letter 0x3733 0x20 0x2⟩, ⟨0x1083, 1, .letter 0x3756 0x20 0x2⟩,
      ⟨0x1084, 1, .letter 0x3766 0x20 0x2⟩, ⟨0x1085, 1, .letter 0x3768 0x20 0x2⟩,
      ⟨0x1086, 1, .letter 0x376B 0x20 0x2⟩, ⟨0x1087, 1, .letter 0x377A 0x20 0x2⟩,
      ⟨0x1088, 1, .letter 0x377C 0x20 0x2⟩, ⟨0x1089, 2, .letter 0x377F 0x20 0x2⟩,
      ⟨0x108B, 1, .letter 0x377B 0x20 0x2⟩, ⟨0x108C, 2, .letter 0x377D 0x20 0x2⟩,
      ⟨0x108E, 1, .letter 0x371F 0x20 0x2⟩, ⟨0x108F, 1, .letter 0x3781 0x20 0x2⟩,
      ⟨0x1090, 10, .letter 0x217D 0x20 0x2⟩, ⟨0x109A, 2, .letter 0x3782 0x20 0x2⟩,
      ⟨0x109C, 1, .letter 0x3758 0x20 0x2⟩, ⟨0x109D, 1, .letter 0x376A 0x20 0x2⟩,
      ⟨0x109E, 2, .letter 0x5E7 0x20 0x2⟩]⟩

def tagalog : Chart :=
  ⟨0x1700, 0x171F,
    [⟨0x1700, 14, .letter 0x35F2 0x20 0x2⟩, ⟨0x170E, 8, .letter 0x3601 0x20 0x2⟩,
      ⟨0x171F, 1, .letter 0x3600 0x20 0x2⟩]⟩

def hanunoo : Chart :=
  ⟨0x1720, 0x173F,
    [⟨0x1720, 21, .letter 0x3609 0x20 0x2⟩, ⟨0x1735, 2, .blank 0x2A2⟩]⟩

def buhid : Chart := ⟨0x1740, 0x175F, [⟨0x1740, 20, .letter 0x361E 0x20 0x2⟩]⟩

def tagbanwa : Chart :=
  ⟨0x1760, 0x177F,
    [⟨0x1760, 13, .letter 0x3632 0x20 0x2⟩, ⟨0x176E, 3, .letter 0x363F 0x20 0x2⟩,
      ⟨0x1772, 2, .letter 0x3642 0x20 0x2⟩]⟩

def khmer : Chart :=
  ⟨0x1780, 0x17FF,
    [⟨0x1780, 35, .letter 0x37E4 0x20 0x2⟩, ⟨0x17A3, 17, .letter 0x3808 0x20 0x2⟩,
      ⟨0x17B4, 2, .ignored⟩, ⟨0x17B6, 16, .letter 0x3819 0x20 0x2⟩, ⟨0x17C6, 2, .mark 0xC4 0x2⟩,
      ⟨0x17C8, 3, .mark 0xEB 0x2⟩, ⟨0x17CB, 1, .mark 0x33 0x2⟩, ⟨0x17CC, 1, .mark 0x33 0x2⟩,
      ⟨0x17CD, 1, .mark 0x33 0x2⟩, ⟨0x17CE, 1, .mark 0x33 0x2⟩, ⟨0x17CF, 1, .mark 0x33 0x2⟩,
      ⟨0x17D0, 1, .mark 0x33 0x2⟩, ⟨0x17D1, 1, .mark 0x33 0x2⟩,
      ⟨0x17D2, 1, .letter 0x3829 0x20 0x2⟩, ⟨0x17D3, 1, .ignored⟩, ⟨0x17D4, 2, .blank 0x2A7⟩,
      ⟨0x17D6, 1, .blank 0x262⟩, ⟨0x17D7, 1, .letter 0x212F 0x20 0x2⟩, ⟨0x17D8, 3, .blank 0x464⟩,
      ⟨0x17DB, 1, .letter 0x215B 0x20 0x2⟩, ⟨0x17DC, 1, .letter 0x3807 0x20 0x2⟩,
      ⟨0x17DD, 1, .mark 0x33 0x2⟩, ⟨0x17E0, 10, .letter 0x217D 0x20 0x2⟩,
      ⟨0x17F0, 10, .letter 0x217D 0x20 0x2⟩]⟩

def taiLe : Chart :=
  ⟨0x1950, 0x197F,
    [⟨0x1950, 30, .letter 0x382A 0x20 0x2⟩, ⟨0x1970, 5, .letter 0x3848 0x20 0x2⟩]⟩

def newTaiLue : Chart :=
  ⟨0x1980, 0x19DF,
    [⟨0x1980, 44, .letter 0x384D 0x20 0x2⟩, ⟨0x19B0, 26, .letter 0x3879 0x20 0x2⟩,
      ⟨0x19D0, 10, .letter 0x217D 0x20 0x2⟩, ⟨0x19DA, 1, .letter 0x217E 0x20 0x2⟩,
      ⟨0x19DE, 1, .several [.letter 0x3869 0x20 0x4, .letter 0x387F 0x20 0x4]⟩,
      ⟨0x19DF, 1, .several [.letter 0x3869 0x20 0x4, .letter 0x387F 0x20 0x4,
        .letter 0x388A 0x20 0x4]⟩]⟩

def khmerSymbols : Chart := ⟨0x19E0, 0x19FF, [⟨0x19E0, 32, .letter 0x5ED 0x20 0x2⟩]⟩

def buginese : Chart :=
  ⟨0x1A00, 0x1A1F,
    [⟨0x1A00, 28, .letter 0x3644 0x20 0x2⟩, ⟨0x1A1E, 2, .blank 0x2DF⟩]⟩

def taiTham : Chart :=
  ⟨0x1A20, 0x1AAF,
    [⟨0x1A20, 45, .letter 0x3893 0x20 0x2⟩, ⟨0x1A4D, 6, .letter 0x38C8 0x20 0x2⟩,
      ⟨0x1A53, 1, .letter 0x38C0 0x20 0x2⟩,
      ⟨0x1A54, 1, .several [.letter 0x38B9 0x20 0x4, .letter 0x38DF 0x20 0x4,
        .letter 0x38B9 0x20 0x4]⟩,
      ⟨0x1A55, 3, .letter 0x38C2 0x20 0x2⟩, ⟨0x1A58, 1, .letter 0x3899 0x20 0x4⟩,
      ⟨0x1A59, 1, .letter 0x3899 0x20 0x4⟩, ⟨0x1A5A, 1, .letter 0x38AE 0x20 0x4⟩,
      ⟨0x1A5B, 1, .letter 0x38AE 0x20 0x4⟩, ⟨0x1A5C, 3, .letter 0x38C5 0x20 0x2⟩,
      ⟨0x1A60, 1, .letter 0x38DF 0x20 0x2⟩, ⟨0x1A61, 1, .letter 0x38CE 0x20 0x2⟩,
      ⟨0x1A62, 2, .letter 0x38D0 0x20 0x2⟩, ⟨0x1A64, 1, .letter 0x38D1 0x20 0x4⟩,
      ⟨0x1A65, 6, .letter 0x38D2 0x20 0x2⟩, ⟨0x1A6B, 1, .letter 0x38C1 0x20 0x2⟩,
      ⟨0x1A6C, 1, .letter 0x38CF 0x20 0x2⟩, ⟨0x1A6D, 1, .letter 0x38DE 0x20 0x2⟩,
      ⟨0x1A6E, 2, .letter 0x38D8 0x20 0x2⟩, ⟨0x1A70, 3, .letter 0x38DB 0x20 0x2⟩,
      ⟨0x1A73, 1, .letter 0x38DA 0x20 0x2⟩, ⟨0x1A74, 1, .mark 0xC4 0x2⟩,
      ⟨0x1A75, 8, .mark 0xEE 0x2⟩, ⟨0x1A7F, 1, .ignored⟩, ⟨0x1A80, 10, .letter 0x217D 0x20 0x2⟩,
      ⟨0x1A90, 10, .letter 0x217D 0x20 0x2⟩, ⟨0x1AA0, 7, .blank 0x467⟩,
      ⟨0x1AA7, 1, .letter 0x2130 0x20 0x2⟩, ⟨0x1AA8, 4, .blank 0x2A9⟩, ⟨0x1AAC, 2, .blank 0x46E⟩]⟩

def balinese : Chart :=
  ⟨0x1B00, 0x1B7F,
    [⟨0x1B00, 1, .mark 0xC3 0x2⟩, ⟨0x1B01, 2, .mark 0xC3 0x2⟩, ⟨0x1B03, 1, .mark 0xC9 0x2⟩,
      ⟨0x1B04, 1, .mark 0xC5 0x2⟩, ⟨0x1B05, 1, .letter 0x3925 0x20 0x2⟩,
      ⟨0x1B07, 1, .letter 0x3927 0x20 0x2⟩, ⟨0x1B09, 1, .letter 0x3929 0x20 0x2⟩,
      ⟨0x1B0B, 1, .letter 0x392B 0x20 0x2⟩, ⟨0x1B0D, 1, .letter 0x392D 0x20 0x2⟩,
      ⟨0x1B0F, 3, .letter 0x392F 0x20 0x2⟩, ⟨0x1B13, 1, .letter 0x3933 0x20 0x2⟩,
      ⟨0x1B14, 15, .letter 0x3936 0x20 0x2⟩, ⟨0x1B23, 5, .letter 0x3946 0x20 0x2⟩,
      ⟨0x1B28, 8, .letter 0x394C 0x20 0x2⟩, ⟨0x1B30, 3, .letter 0x3955 0x20 0x2⟩,
      ⟨0x1B33, 1, .letter 0x395A 0x20 0x2⟩, ⟨0x1B34, 1, .mark 0xC2 0x2⟩,
      ⟨0x1B35, 6, .letter 0x395B 0x20 0x2⟩, ⟨0x1B3C, 1, .letter 0x3962 0x20 0x2⟩,
      ⟨0x1B3E, 2, .letter 0x3964 0x20 0x2⟩, ⟨0x1B42, 1, .letter 0x3968 0x20 0x2⟩,
      ⟨0x1B44, 1, .letter 0x396A 0x20 0x2⟩, ⟨0x1B45, 2, .letter 0x3934 0x20 0x2⟩,
      ⟨0x1B47, 1, .letter 0x3945 0x20 0x2⟩, ⟨0x1B48, 1, .letter 0x394B 0x20 0x2⟩,
      ⟨0x1B49, 1, .letter 0x3954 0x20 0x2⟩, ⟨0x1B4A, 2, .letter 0x3958 0x20 0x2⟩,
      ⟨0x1B4C, 1, .several [.letter 0x393C 0x20 0x4, .letter 0x396A 0x20 0x4,
        .letter 0x393E 0x20 0x4]⟩,
      ⟨0x1B4E, 1, .blank 0x2AE⟩, ⟨0x1B4F, 1, .blank 0x2B0⟩,
      ⟨0x1B50, 10, .letter 0x217D 0x20 0x2⟩, ⟨0x1B5A, 1, .blank 0x2E1⟩,
      ⟨0x1B5B, 1, .blank 0x2E3⟩, ⟨0x1B5C, 1, .blank 0x28B⟩, ⟨0x1B5D, 1, .blank 0x263⟩,
      ⟨0x1B5E, 1, .blank 0x2AD⟩, ⟨0x1B5F, 1, .blank 0x2AF⟩, ⟨0x1B60, 1, .blank 0x210⟩,
      ⟨0x1B61, 10, .letter 0x60D 0x20 0x2⟩, ⟨0x1B6B, 9, .ignored⟩,
      ⟨0x1B74, 9, .letter 0x617 0x20 0x2⟩, ⟨0x1B7D, 2, .blank 0x2E4⟩, ⟨0x1B7F, 1, .blank 0x2E2⟩]⟩

def sundanese : Chart :=
  ⟨0x1B80, 0x1BBF,
    [⟨0x1B80, 1, .mark 0xC4 0x2⟩, ⟨0x1B81, 1, .mark 0xCB 0x2⟩, ⟨0x1B82, 1, .mark 0xC5 0x2⟩,
      ⟨0x1B83, 8, .letter 0x32A0 0x20 0x2⟩, ⟨0x1B8B, 14, .letter 0x32A9 0x20 0x2⟩,
      ⟨0x1B99, 1, .letter 0x32B8 0x20 0x2⟩, ⟨0x1B9A, 1, .letter 0x32BA 0x20 0x2⟩,
      ⟨0x1B9B, 1, .letter 0x32BC 0x20 0x2⟩, ⟨0x1B9C, 1, .letter 0x32BF 0x20 0x2⟩,
      ⟨0x1B9D, 1, .letter 0x32C2 0x20 0x2⟩, ⟨0x1B9E, 2, .letter 0x32C4 0x20 0x2⟩,
      ⟨0x1BA0, 1, .letter 0x32C7 0x20 0x2⟩, ⟨0x1BA1, 1, .letter 0x32BB 0x20 0x2⟩,
      ⟨0x1BA2, 1, .letter 0x32BD 0x20 0x2⟩, ⟨0x1BA3, 1, .letter 0x32C0 0x20 0x2⟩,
      ⟨0x1BA4, 8, .letter 0x32C8 0x20 0x2⟩, ⟨0x1BAC, 1, .letter 0x32B9 0x20 0x2⟩,
      ⟨0x1BAD, 1, .letter 0x32C3 0x20 0x2⟩, ⟨0x1BAE, 1, .letter 0x32A8 0x20 0x2⟩,
      ⟨0x1BAF, 1, .letter 0x32C6 0x20 0x2⟩, ⟨0x1BB0, 10, .letter 0x217D 0x20 0x2⟩,
      ⟨0x1BBA, 1, .letter 0x32A0 0x20 0x4⟩, ⟨0x1BBB, 1, .letter 0x32BE 0x20 0x2⟩,
      ⟨0x1BBC, 1, .letter 0x32C1 0x20 0x2⟩, ⟨0x1BBD, 1, .letter 0x32B7 0x20 0x2⟩,
      ⟨0x1BBE, 1, .letter 0x32A7 0x20 0x19⟩, ⟨0x1BBF, 1, .letter 0x32B8 0x20 0x19⟩]⟩

def batak : Chart :=
  ⟨0x1BC0, 0x1BFF,
    [⟨0x1BC0, 1, .letter 0x3677 0x20 0x2⟩, ⟨0x1BC1, 1, .letter 0x3677 0x20 0x4⟩,
      ⟨0x1BC2, 1, .letter 0x3678 0x20 0x2⟩, ⟨0x1BC3, 1, .letter 0x3678 0x20 0x4⟩,
      ⟨0x1BC4, 1, .letter 0x3678 0x20 0x4⟩, ⟨0x1BC5, 1, .letter 0x3679 0x20 0x2⟩,
      ⟨0x1BC6, 1, .letter 0x3679 0x20 0x4⟩, ⟨0x1BC7, 1, .letter 0x367A 0x20 0x2⟩,
      ⟨0x1BC8, 1, .letter 0x367A 0x20 0x4⟩, ⟨0x1BC9, 1, .letter 0x367B 0x20 0x2⟩,
      ⟨0x1BCA, 1, .letter 0x367B 0x20 0x4⟩, ⟨0x1BCB, 1, .letter 0x367C 0x20 0x2⟩,
      ⟨0x1BCC, 1, .letter 0x367C 0x20 0x4⟩, ⟨0x1BCD, 1, .letter 0x367C 0x20 0x4⟩,
      ⟨0x1BCE, 1, .letter 0x367D 0x20 0x2⟩, ⟨0x1BCF, 1, .letter 0x367D 0x20 0x4⟩,
      ⟨0x1BD0, 3, .letter 0x367E 0x20 0x2⟩, ⟨0x1BD3, 1, .letter 0x3680 0x20 0x4⟩,
      ⟨0x1BD4, 1, .letter 0x3681 0x20 0x2⟩, ⟨0x1BD5, 1, .letter 0x3681 0x20 0x4⟩,
      ⟨0x1BD6, 1, .letter 0x3682 0x20 0x2⟩, ⟨0x1BD7, 1, .letter 0x3682 0x20 0x4⟩,
      ⟨0x1BD8, 1, .letter 0x3683 0x20 0x2⟩, ⟨0x1BD9, 1, .letter 0x3683 0x20 0x4⟩,
      ⟨0x1BDA, 1, .letter 0x3683 0x20 0x4⟩, ⟨0x1BDB, 1, .letter 0x3684 0x20 0x2⟩,
      ⟨0x1BDC, 1, .letter 0x3684 0x20 0x4⟩, ⟨0x1BDD, 2, .letter 0x3685 0x20 0x2⟩,
      ⟨0x1BDF, 1, .letter 0x3686 0x20 0x4⟩, ⟨0x1BE0, 6, .letter 0x3687 0x20 0x2⟩,
      ⟨0x1BE6, 1, .mark 0xC2 0x2⟩, ⟨0x1BE7, 1, .letter 0x368D 0x20 0x2⟩,
      ⟨0x1BE8, 1, .letter 0x368D 0x20 0x4⟩, ⟨0x1BE9, 2, .letter 0x368E 0x20 0x2⟩,
      ⟨0x1BEB, 1, .letter 0x368F 0x20 0x4⟩, ⟨0x1BEC, 1, .letter 0x3690 0x20 0x2⟩,
      ⟨0x1BED, 1, .letter 0x3690 0x20 0x4⟩, ⟨0x1BEE, 1, .letter 0x3691 0x20 0x2⟩,
      ⟨0x1BEF, 1, .letter 0x3691 0x20 0x4⟩, ⟨0x1BF0, 4, .letter 0x3692 0x20 0x2⟩,
      ⟨0x1BFC, 4, .blank 0x47B⟩]⟩

def sundaneseSupplement : Chart := ⟨0x1CC0, 0x1CCF, [⟨0x1CC0, 8, .blank 0x470⟩]⟩

def kayahLi : Chart :=
  ⟨0xA900, 0xA92F,
    [⟨0xA900, 10, .letter 0x217D 0x20 0x2⟩, ⟨0xA90A, 33, .letter 0x36BA 0x20 0x2⟩,
      ⟨0xA92B, 3, .mark 0xE7 0x2⟩, ⟨0xA92E, 1, .blank 0x47F⟩, ⟨0xA92F, 1, .blank 0x2A4⟩]⟩

def rejang : Chart :=
  ⟨0xA930, 0xA95F,
    [⟨0xA930, 36, .letter 0x3696 0x20 0x2⟩, ⟨0xA95F, 1, .blank 0x2F1⟩]⟩

def javanese : Chart :=
  ⟨0xA980, 0xA9DF,
    [⟨0xA980, 2, .mark 0xC3 0x2⟩, ⟨0xA982, 1, .mark 0xCA 0x2⟩, ⟨0xA983, 1, .mark 0xC5 0x2⟩,
      ⟨0xA984, 39, .letter 0x396B 0x20 0x2⟩, ⟨0xA9AB, 1, .letter 0x3993 0x20 0x2⟩,
      ⟨0xA9AC, 1, .letter 0x3993 0x20 0x4⟩, ⟨0xA9AD, 6, .letter 0x3995 0x20 0x2⟩,
      ⟨0xA9B3, 1, .mark 0xC2 0x2⟩, ⟨0xA9B4, 1, .letter 0x399B 0x20 0x2⟩,
      ⟨0xA9B5, 1, .letter 0x399B 0x20 0x4⟩, ⟨0xA9B6, 4, .letter 0x399D 0x20 0x2⟩,
      ⟨0xA9BA, 2, .letter 0x39A2 0x20 0x2⟩, ⟨0xA9BC, 1, .letter 0x399C 0x20 0x2⟩,
      ⟨0xA9BD, 1, .letter 0x39A1 0x20 0x2⟩, ⟨0xA9BE, 1, .letter 0x3992 0x20 0x2⟩,
      ⟨0xA9BF, 1, .letter 0x3994 0x20 0x2⟩, ⟨0xA9C0, 1, .letter 0x39A4 0x20 0x2⟩,
      ⟨0xA9C1, 6, .blank 0x2E6⟩, ⟨0xA9C7, 1, .blank 0x264⟩, ⟨0xA9C8, 2, .blank 0x2B1⟩,
      ⟨0xA9CA, 4, .blank 0x2EC⟩, ⟨0xA9CF, 1, .letter 0x2131 0x20 0x2⟩,
      ⟨0xA9D0, 10, .letter 0x217D 0x20 0x2⟩, ⟨0xA9DE, 2, .blank 0x480⟩]⟩

def myanmarExtendedB : Chart :=
  ⟨0xA9E0, 0xA9FF,
    [⟨0xA9E0, 1, .letter 0x36E4 0x20 0x2⟩, ⟨0xA9E1, 1, .letter 0x36EC 0x20 0x2⟩,
      ⟨0xA9E2, 1, .letter 0x36F6 0x20 0x2⟩, ⟨0xA9E3, 1, .letter 0x370C 0x20 0x2⟩,
      ⟨0xA9E4, 1, .letter 0x3725 0x20 0x2⟩, ⟨0xA9E5, 1, .letter 0x3770 0x20 0x2⟩,
      ⟨0xA9E6, 1, .letter 0x2132 0x20 0x2⟩, ⟨0xA9E7, 1, .letter 0x36FE 0x20 0x2⟩,
      ⟨0xA9E8, 1, .letter 0x3720 0x20 0x2⟩, ⟨0xA9E9, 1, .letter 0x36E2 0x20 0x2⟩,
      ⟨0xA9EA, 1, .letter 0x36E5 0x20 0x2⟩, ⟨0xA9EB, 1, .letter 0x36F1 0x20 0x2⟩,
      ⟨0xA9EC, 1, .letter 0x36F8 0x20 0x2⟩, ⟨0xA9ED, 1, .letter 0x3706 0x20 0x2⟩,
      ⟨0xA9EE, 1, .letter 0x3709 0x20 0x2⟩, ⟨0xA9EF, 1, .letter 0x370D 0x20 0x2⟩,
      ⟨0xA9F0, 10, .letter 0x217D 0x20 0x2⟩, ⟨0xA9FA, 1, .letter 0x3741 0x20 0x2⟩,
      ⟨0xA9FB, 1, .letter 0x3712 0x20 0x2⟩, ⟨0xA9FC, 1, .letter 0x3715 0x20 0x2⟩,
      ⟨0xA9FD, 1, .letter 0x3723 0x20 0x2⟩, ⟨0xA9FE, 1, .letter 0x3726 0x20 0x2⟩]⟩

def cham : Chart :=
  ⟨0xAA00, 0xAA5F,
    [⟨0xAA00, 41, .letter 0x38E0 0x20 0x2⟩, ⟨0xAA29, 10, .letter 0x390D 0x20 0x2⟩,
      ⟨0xAA33, 4, .letter 0x3909 0x20 0x2⟩, ⟨0xAA40, 14, .letter 0x3917 0x20 0x2⟩,
      ⟨0xAA50, 10, .letter 0x217D 0x20 0x2⟩, ⟨0xAA5C, 1, .blank 0x482⟩, ⟨0xAA5D, 3, .blank 0x2B3⟩]⟩

def myanmarExtendedA : Chart :=
  ⟨0xAA60, 0xAA7F,
    [⟨0xAA60, 1, .letter 0x36E1 0x20 0x2⟩, ⟨0xAA61, 1, .letter 0x36EA 0x20 0x2⟩,
      ⟨0xAA62, 1, .letter 0x36ED 0x20 0x2⟩, ⟨0xAA63, 1, .letter 0x36F0 0x20 0x2⟩,
      ⟨0xAA64, 1, .letter 0x36F7 0x20 0x2⟩, ⟨0xAA65, 1, .letter 0x36FD 0x20 0x2⟩,
      ⟨0xAA66, 1, .letter 0x3701 0x20 0x2⟩, ⟨0xAA67, 1, .letter 0x3703 0x20 0x2⟩,
      ⟨0xAA68, 1, .letter 0x3705 0x20 0x2⟩, ⟨0xAA69, 1, .letter 0x3708 0x20 0x2⟩,
      ⟨0xAA6A, 1, .letter 0x3714 0x20 0x2⟩, ⟨0xAA6B, 1, .letter 0x3718 0x20 0x2⟩,
      ⟨0xAA6C, 1, .letter 0x3739 0x20 0x2⟩, ⟨0xAA6D, 1, .letter 0x373C 0x20 0x2⟩,
      ⟨0xAA6E, 1, .letter 0x373E 0x20 0x2⟩, ⟨0xAA6F, 1, .letter 0x371E 0x20 0x2⟩,
      ⟨0xAA70, 1, .letter 0x2133 0x20 0x2⟩, ⟨0xAA71, 1, .letter 0x373F 0x20 0x2⟩,
      ⟨0xAA72, 1, .letter 0x36F3 0x20 0x2⟩, ⟨0xAA73, 1, .letter 0x372C 0x20 0x2⟩,
      ⟨0xAA74, 3, .letter 0x3787 0x20 0x2⟩, ⟨0xAA77, 3, .letter 0x5E9 0x20 0x2⟩,
      ⟨0xAA7A, 1, .letter 0x372D 0x20 0x2⟩, ⟨0xAA7B, 3, .letter 0x3784 0x20 0x2⟩,
      ⟨0xAA7E, 1, .letter 0x36EE 0x20 0x2⟩, ⟨0xAA7F, 1, .letter 0x36FA 0x20 0x2⟩]⟩

def taiViet : Chart :=
  ⟨0xAA80, 0xAADF,
    [⟨0xAA80, 63, .letter 0x3402 0x20 0x2⟩, ⟨0xAABF, 1, .mark 0xE4 0x2⟩,
      ⟨0xAAC0, 1, .letter 0x3441 0x20 0x2⟩, ⟨0xAAC1, 1, .mark 0xE5 0x2⟩,
      ⟨0xAAC2, 1, .letter 0x3442 0x20 0x2⟩, ⟨0xAADB, 2, .letter 0x3443 0x20 0x2⟩,
      ⟨0xAADD, 1, .letter 0x2134 0x20 0x2⟩, ⟨0xAADE, 2, .blank 0x433⟩]⟩

def myanmarExtendedC : Chart :=
  ⟨0x116D0, 0x116FF,
    [⟨0x116D0, 10, .letter 0x217D 0x20 0x2⟩, ⟨0x116DA, 10, .letter 0x217D 0x20 0x2⟩]⟩

def pahawhHmong : Chart :=
  ⟨0x16B00, 0x16B8F,
    [⟨0x16B00, 48, .letter 0x4C00 0x20 0x2⟩, ⟨0x16B30, 7, .mark 0xF9 0x2⟩,
      ⟨0x16B37, 5, .blank 0x4D1⟩, ⟨0x16B3C, 4, .letter 0x1420 0x20 0x2⟩,
      ⟨0x16B40, 2, .letter 0x4C30 0x20 0x2⟩, ⟨0x16B42, 2, .letter 0x2138 0x20 0x2⟩,
      ⟨0x16B44, 1, .blank 0x4D6⟩, ⟨0x16B45, 1, .letter 0x1424 0x20 0x2⟩,
      ⟨0x16B50, 10, .letter 0x217D 0x20 0x2⟩, ⟨0x16B5B, 7, .letter 0x22B1 0x20 0x2⟩,
      ⟨0x16B63, 21, .letter 0x4C32 0x20 0x2⟩, ⟨0x16B7D, 19, .letter 0x4C47 0x20 0x2⟩]⟩

def miao : Chart :=
  ⟨0x16F00, 0x16F9F,
    [⟨0x16F00, 4, .letter 0x4B15 0x20 0x2⟩, ⟨0x16F04, 2, .letter 0x4B1A 0x20 0x2⟩,
      ⟨0x16F06, 1, .letter 0x4B1A 0x20 0x4⟩, ⟨0x16F07, 7, .letter 0x4B1C 0x20 0x2⟩,
      ⟨0x16F0E, 2, .letter 0x4B24 0x20 0x2⟩, ⟨0x16F10, 3, .letter 0x4B27 0x20 0x2⟩,
      ⟨0x16F13, 1, .letter 0x4B27 0x20 0x4⟩, ⟨0x16F14, 17, .letter 0x4B2A 0x20 0x2⟩,
      ⟨0x16F25, 1, .letter 0x4B39 0x20 0x4⟩, ⟨0x16F26, 13, .letter 0x4B3B 0x20 0x2⟩,
      ⟨0x16F33, 1, .letter 0x4B49 0x20 0x2⟩, ⟨0x16F34, 6, .letter 0x4B4B 0x20 0x2⟩,
      ⟨0x16F3A, 5, .letter 0x4B52 0x20 0x2⟩, ⟨0x16F3F, 1, .letter 0x4B55 0x20 0x4⟩,
      ⟨0x16F40, 5, .letter 0x4B57 0x20 0x2⟩, ⟨0x16F45, 1, .letter 0x4B19 0x20 0x2⟩,
      ⟨0x16F46, 1, .letter 0x4B4A 0x20 0x2⟩, ⟨0x16F47, 1, .letter 0x4B48 0x20 0x2⟩,
      ⟨0x16F48, 1, .letter 0x4B23 0x20 0x2⟩, ⟨0x16F49, 1, .letter 0x4B51 0x20 0x2⟩,
      ⟨0x16F4A, 1, .letter 0x4B26 0x20 0x2⟩, ⟨0x16F4F, 1, .letter 0x4B60 0x20 0x2⟩,
      ⟨0x16F50, 4, .letter 0x4B5C 0x20 0x2⟩, ⟨0x16F54, 5, .letter 0x4B61 0x20 0x2⟩,
      ⟨0x16F59, 4, .letter 0x4B67 0x20 0x2⟩, ⟨0x16F5D, 4, .letter 0x4B6C 0x20 0x2⟩,
      ⟨0x16F61, 5, .letter 0x4B71 0x20 0x2⟩, ⟨0x16F66, 8, .letter 0x4B77 0x20 0x2⟩,
      ⟨0x16F6E, 5, .letter 0x4B81 0x20 0x2⟩, ⟨0x16F73, 2, .letter 0x4B87 0x20 0x2⟩,
      ⟨0x16F75, 10, .letter 0x4B8B 0x20 0x2⟩, ⟨0x16F7F, 1, .letter 0x4B7F 0x20 0x2⟩,
      ⟨0x16F80, 1, .letter 0x4B86 0x20 0x2⟩, ⟨0x16F81, 1, .letter 0x4B66 0x20 0x2⟩,
      ⟨0x16F82, 1, .letter 0x4B8A 0x20 0x2⟩, ⟨0x16F83, 1, .letter 0x4B6B 0x20 0x2⟩,
      ⟨0x16F84, 1, .letter 0x4B70 0x20 0x2⟩, ⟨0x16F85, 1, .letter 0x4B89 0x20 0x2⟩,
      ⟨0x16F86, 1, .letter 0x4B76 0x20 0x2⟩, ⟨0x16F87, 1, .letter 0x4B80 0x20 0x2⟩,
      ⟨0x16F8F, 17, .letter 0x4B95 0x20 0x2⟩]⟩

def nyiakengPuachueHmong : Chart :=
  ⟨0x1E100, 0x1E14F,
    [⟨0x1E100, 45, .letter 0x4C5A 0x20 0x2⟩, ⟨0x1E130, 1, .mark 0xFD 0x2⟩,
      ⟨0x1E131, 1, .mark 0xF9 0x2⟩, ⟨0x1E132, 2, .mark 0xFB 0x2⟩, ⟨0x1E134, 2, .mark 0xFE 0x2⟩,
      ⟨0x1E136, 1, .mark 0xFA 0x2⟩, ⟨0x1E137, 5, .letter 0x4C87 0x20 0x2⟩,
      ⟨0x1E13C, 2, .letter 0x213A 0x20 0x2⟩, ⟨0x1E140, 10, .letter 0x217D 0x20 0x2⟩,
      ⟨0x1E14E, 1, .letter 0x4C8C 0x20 0x2⟩, ⟨0x1E14F, 1, .letter 0x1425 0x20 0x2⟩]⟩

def southEastAsianCharts : List Chart :=
  [thai, lao, myanmar, tagalog, hanunoo, buhid, tagbanwa, khmer, taiLe, newTaiLue, khmerSymbols,
    buginese, taiTham, balinese, sundanese, batak, sundaneseSupplement, kayahLi, rejang,
    javanese, myanmarExtendedB, cham, myanmarExtendedA, taiViet, myanmarExtendedC, pahawhHmong,
    miao, nyiakengPuachueHmong]

end CodeNotes.Collation
