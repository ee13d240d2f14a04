import CodeNotes.Collation.Weight
/-!
Collation weights of the older scripts of India.
-/
namespace CodeNotes.Collation

def kharoshthi : Chart :=
  ⟨0x10A00, 0x10A5F,
    [⟨0x10A00, 4, .letter 0x331B 0x20 0x2⟩, ⟨0x10A05, 2, .letter 0x331F 0x20 0x2⟩,
      ⟨0x10A0C, 1, .letter 0x3321 0x20 0x2⟩, ⟨0x10A0D, 1, .mark 0x34 0x2⟩,
      ⟨0x10A0E, 2, .mark 0xC4 0x2⟩, ⟨0x10A10, 1, .letter 0x3322 0x20 0x2⟩,
      ⟨0x10A11, 3, .letter 0x3324 0x20 0x2⟩, ⟨0x10A15, 3, .letter 0x3327 0x20 0x2⟩,
      ⟨0x10A19, 2, .letter 0x332A 0x20 0x2⟩, ⟨0x10A1B, 1, .letter 0x332D 0x20 0x2⟩,
      ⟨0x10A1C, 17, .letter 0x332F 0x20 0x2⟩, ⟨0x10A2D, 5, .letter 0x3341 0x20 0x2⟩,
      ⟨0x10A32, 1, .letter 0x3323 0x20 0x2⟩, ⟨0x10A33, 1, .letter 0x332E 0x20 0x2⟩,
      ⟨0x10A34, 1, .letter 0x332C 0x20 0x2⟩, ⟨0x10A35, 1, .letter 0x3340 0x20 0x2⟩,
      ⟨0x10A38, 3, .mark 0xCD 0x2⟩, ⟨0x10A3F, 1, .letter 0x3346 0x20 0x2⟩,
      ⟨0x10A40, 4, .letter 0x217E 0x20 0x2⟩, ⟨0x10A44, 5, .letter 0x228E 0x20 0x2⟩,
      ⟨0x10A50, 6, .blank 0x489⟩, ⟨0x10A56, 2, .blank 0x2B8⟩, ⟨0x10A58, 1, .blank 0x48F⟩]⟩

def brahmi : Chart :=
  ⟨0x11000, 0x1107F,
    [⟨0x11000, 3, .mark 0xC3 0x2⟩, ⟨0x11003, 2, .letter 0x3301 0x20 0x2⟩,
      ⟨0x11005, 10, .letter 0x32D0 0x20 0x2⟩, ⟨0x1100F, 2, .letter 0x32DB 0x20 0x2⟩,
      ⟨0x11011, 35, .letter 0x32DE 0x20 0x2⟩, ⟨0x11034, 2, .letter 0x3303 0x20 0x2⟩,
      ⟨0x11036, 12, .letter 0x3306 0x20 0x2⟩, ⟨0x11042, 2, .letter 0x3313 0x20 0x2⟩,
      ⟨0x11044, 3, .letter 0x3316 0x20 0x2⟩, ⟨0x11047, 2, .blank 0x2BA⟩,
      ⟨0x11049, 5, .blank 0x484⟩, ⟨0x11052, 9, .letter 0x217E 0x20 0x2⟩,
      ⟨0x1105B, 11, .letter 0x2283 0x20 0x2⟩, ⟨0x11066, 10, .letter 0x217D 0x20 0x2⟩,
      ⟨0x11070, 1, .letter 0x331A 0x20 0x2⟩, ⟨0x11071, 1, .letter 0x32DA 0x20 0x2⟩,
      ⟨0x11072, 1, .letter 0x32DD 0x20 0x2⟩, ⟨0x11073, 1, .letter 0x3312 0x20 0x2⟩,
      ⟨0x11074, 1, .letter 0x3315 0x20 0x2⟩, ⟨0x11075, 1, .letter 0x3305 0x20 0x2⟩,
      ⟨0x1107F, 1, .letter 0x3319 0x20 0x2⟩]⟩

def kaithi : Chart :=
  ⟨0x11080, 0x110CF,
    [⟨0x11080, 3, .mark 0xC3 0x2⟩, ⟨0x11083, 23, .letter 0x2E5D 0x20 0x2⟩,
      ⟨0x1109B, 1, .letter 0x2E74 0x20 0x2⟩, ⟨0x1109D, 14, .letter 0x2E75 0x20 0x2⟩,
      ⟨0x110AC, 9, .letter 0x2E83 0x20 0x2⟩, ⟨0x110B5, 5, .letter 0x2E8D 0x20 0x2⟩,
      ⟨0x110BA, 1, .mark 0xC2 0x2⟩, ⟨0x110BB, 2, .blank 0x4A0⟩, ⟨0x110BD, 1, .ignored⟩,
      ⟨0x110BE, 2, .blank 0x302⟩, ⟨0x110C0, 2, .blank 0x2BC⟩,
      ⟨0x110C2, 1, .letter 0x2E8C 0x20 0x2⟩, ⟨0x110CD, 1, .ignored⟩]⟩

def mahajani : Chart :=
  ⟨0x11150, 0x1117F,
    [⟨0x11150, 32, .letter 0x2E92 0x20 0x2⟩, ⟨0x11170, 3, .letter 0x2EB3 0x20 0x2⟩,
      ⟨0x11173, 1, .mark 0xC2 0x2⟩, ⟨0x11174, 2, .blank 0x4A2⟩,
      ⟨0x11176, 1, .letter 0x2EB2 0x20 0x2⟩]⟩

def sharada : Chart :=
  ⟨0x11180, 0x111DF,
    [⟨0x11180, 3, .mark 0xC3 0x2⟩, ⟨0x11183, 48, .letter 0x2EB8 0x20 0x2⟩,
      ⟨0x111B3, 10, .letter 0x2EEC 0x20 0x2⟩, ⟨0x111BD, 4, .letter 0x2EF7 0x20 0x2⟩,
      ⟨0x111C1, 3, .letter 0x2EE8 0x20 0x2⟩, ⟨0x111C4, 1, .letter 0x2EB6 0x20 0x2⟩,
      ⟨0x111C5, 2, .blank 0x2C0⟩, ⟨0x111C7, 1, .blank 0x4A5⟩, ⟨0x111C8, 1, .blank 0x305⟩,
      ⟨0x111C9, 1, .mark 0xC6 0x2⟩, ⟨0x111CA, 1, .mark 0xC2 0x2⟩, ⟨0x111CB, 2, .mark 0xD0 0x2⟩,
      ⟨0x111CD, 1, .blank 0x4A4⟩, ⟨0x111CE, 1, .letter 0x2EF6 0x20 0x2⟩,
      ⟨0x111CF, 1, .mark 0xC3 0x2⟩, ⟨0x111D0, 10, .letter 0x217D 0x20 0x2⟩,
      ⟨0x111DA, 1, .letter 0x2EB7 0x20 0x2⟩, ⟨0x111DB, 1, .blank 0x4A6⟩,
      ⟨0x111DC, 1, .letter 0x2EEB 0x20 0x2⟩, ⟨0x111DD, 1, .blank 0x4A7⟩,
      ⟨0x111DE, 2, .blank 0x306⟩]⟩

def sinhalaArchaicNumbers : Chart :=
  ⟨0x111E0, 0x111FF,
    [⟨0x111E1, 9, .letter 0x217E 0x20 0x2⟩, ⟨0x111EA, 11, .letter 0x229D 0x20 0x2⟩]⟩

def khojki : Chart :=
  ⟨0x11200, 0x1124F,
    [⟨0x11200, 2, .letter 0x2EFB 0x20 0x2⟩, ⟨0x11202, 7, .letter 0x2EFE 0x20 0x2⟩,
      ⟨0x11209, 9, .letter 0x2F06 0x20 0x2⟩, ⟨0x11213, 29, .letter 0x2F0F 0x20 0x2⟩,
      ⟨0x11230, 4, .letter 0x2F2D 0x20 0x2⟩, ⟨0x11234, 1, .mark 0xC4 0x2⟩,
      ⟨0x11235, 1, .letter 0x2F31 0x20 0x2⟩, ⟨0x11236, 1, .mark 0xC2 0x2⟩,
      ⟨0x11237, 1, .mark 0x80 0x2⟩, ⟨0x11238, 2, .blank 0x2C2⟩, ⟨0x1123A, 4, .blank 0x4A8⟩,
      ⟨0x1123E, 1, .mark 0x81 0x2⟩, ⟨0x1123F, 1, .letter 0x2F05 0x20 0x2⟩,
      ⟨0x11240, 1, .letter 0x2EFD 0x20 0x2⟩, ⟨0x11241, 1, .letter 0x2F2C 0x20 0x2⟩]⟩

def multani : Chart :=
  ⟨0x11280, 0x112AF,
    [⟨0x11280, 4, .letter 0x2F6B 0x20 0x2⟩, ⟨0x11284, 3, .letter 0x2F71 0x20 0x2⟩,
      ⟨0x11288, 1, .letter 0x2F74 0x20 0x2⟩, ⟨0x1128A, 4, .letter 0x2F75 0x20 0x2⟩,
      ⟨0x1128F, 15, .letter 0x2F79 0x20 0x2⟩, ⟨0x1129F, 6, .letter 0x2F88 0x20 0x2⟩,
      ⟨0x112A5, 2, .letter 0x2F6F 0x20 0x2⟩, ⟨0x112A7, 2, .letter 0x2F8E 0x20 0x2⟩,
      ⟨0x112A9, 1, .blank 0x308⟩]⟩

def khudawadi : Chart :=
  ⟨0x112B0, 0x112FF,
    [⟨0x112B0, 47, .letter 0x2F32 0x20 0x2⟩, ⟨0x112DF, 1, .mark 0xC4 0x2⟩,
      ⟨0x112E0, 9, .letter 0x2F61 0x20 0x2⟩, ⟨0x112E9, 1, .mark 0xC2 0x2⟩,
      ⟨0x112EA, 1, .letter 0x2F6A 0x20 0x2⟩, ⟨0x112F0, 10, .letter 0x217D 0x20 0x2⟩]⟩

def grantha : Chart :=
  ⟨0x11300, 0x1137F,
    [⟨0x11300, 1, .mark 0xC4 0x2⟩, ⟨0x11301, 3, .mark 0xC3 0x2⟩,
      ⟨0x11305, 7, .letter 0x2F91 0x20 0x2⟩, ⟨0x1130C, 1, .letter 0x2F99 0x20 0x2⟩,
      ⟨0x1130F, 2, .letter 0x2F9B 0x20 0x2⟩, ⟨0x11313, 22, .letter 0x2F9D 0x20 0x2⟩,
      ⟨0x1132A, 7, .letter 0x2FB3 0x20 0x2⟩, ⟨0x11332, 2, .letter 0x2FBA 0x20 0x2⟩,
      ⟨0x11335, 5, .letter 0x2FBC 0x20 0x2⟩, ⟨0x1133B, 1, .mark 0xC2 0x2⟩,
      ⟨0x1133C, 1, .mark 0xC2 0x2⟩, ⟨0x1133D, 1, .letter 0x2FC1 0x20 0x2⟩,
      ⟨0x1133E, 7, .letter 0x2FC4 0x20 0x2⟩, ⟨0x11347, 2, .letter 0x2FCD 0x20 0x2⟩,
      ⟨0x1134D, 1, .letter 0x2FD1 0x20 0x2⟩, ⟨0x11350, 1, .letter 0x2F90 0x20 0x2⟩,
      ⟨0x11357, 1, .letter 0x2FD2 0x20 0x2⟩, ⟨0x1135D, 1, .letter 0x2FD3 0x20 0x2⟩,
      ⟨0x1135E, 2, .letter 0x2FC2 0x20 0x2⟩, ⟨0x11360, 1, .letter 0x2F98 0x20 0x2⟩,
      ⟨0x11361, 1, .letter 0x2F9A 0x20 0x2⟩, ⟨0x11362, 2, .letter 0x2FCB 0x20 0x2⟩,
      ⟨0x11366, 7, .ignored⟩, ⟨0x11370, 5, .ignored⟩]⟩

def tuluTigalari : Chart :=
  ⟨0x11380, 0x113FF,
    [⟨0x11380, 3, .letter 0x2FD4 0x20 0x2⟩, ⟨0x11384, 1, .letter 0x2FD8 0x20 0x2⟩,
      ⟨0x11386, 4, .letter 0x2FDA 0x20 0x2⟩, ⟨0x1138B, 1, .letter 0x2FDE 0x20 0x2⟩,
      ⟨0x11390, 1, .letter 0x2FE0 0x20 0x2⟩, ⟨0x11392, 27, .letter 0x2FE2 0x20 0x2⟩,
      ⟨0x113AD, 6, .letter 0x2FFE 0x20 0x2⟩, ⟨0x113B3, 1, .letter 0x3005 0x20 0x2⟩,
      ⟨0x113B4, 1, .letter 0x3004 0x20 0x2⟩, ⟨0x113B5, 1, .letter 0x3006 0x20 0x2⟩,
      ⟨0x113B7, 10, .letter 0x3007 0x20 0x2⟩, ⟨0x113C2, 1, .letter 0x3011 0x20 0x2⟩,
      ⟨0x113C9, 1, .letter 0x3017 0x20 0x2⟩, ⟨0x113CA, 1, .mark 0xC3 0x2⟩,
      ⟨0x113CC, 2, .mark 0xC4 0x2⟩, ⟨0x113CE, 1, .letter 0x3015 0x20 0x2⟩,
      ⟨0x113CF, 1, .letter 0x3015 0x20 0x4⟩, ⟨0x113D0, 1, .letter 0x3016 0x20 0x2⟩,
      ⟨0x113D1, 1, .letter 0x2FFD 0x20 0x2⟩, ⟨0x113D2, 1, .mark 0xD4 0x2⟩,
      ⟨0x113D3, 1, .letter 0x3018 0x20 0x2⟩, ⟨0x113D4, 2, .blank 0x2C4⟩,
      ⟨0x113D7, 2, .blank 0x4AC⟩, ⟨0x113E1, 2, .ignored⟩]⟩

def newa : Chart :=
  ⟨0x11400, 0x1147F,
    [⟨0x11400, 53, .letter 0x301B 0x20 0x2⟩, ⟨0x11435, 14, .letter 0x3055 0x20 0x2⟩,
      ⟨0x11443, 3, .mark 0xC3 0x2⟩, ⟨0x11446, 1, .mark 0xC2 0x2⟩,
      ⟨0x11447, 1, .letter 0x3050 0x20 0x2⟩, ⟨0x11448, 1, .letter 0x3053 0x20 0x2⟩,
      ⟨0x11449, 2, .letter 0x3019 0x20 0x2⟩, ⟨0x1144B, 2, .blank 0x2C6⟩,
      ⟨0x1144D, 1, .blank 0x4AE⟩, ⟨0x1144E, 2, .blank 0x4B0⟩,
      ⟨0x11450, 10, .letter 0x217D 0x20 0x2⟩, ⟨0x1145A, 1, .blank 0x4AF⟩,
      ⟨0x1145B, 1, .blank 0x4B2⟩, ⟨0x1145D, 1, .blank 0x4B3⟩, ⟨0x1145E, 1, .mark 0xC6 0x2⟩,
      ⟨0x1145F, 1, .letter 0x3054 0x20 0x2⟩, ⟨0x11460, 2, .letter 0x3051 0x20 0x2⟩]⟩

def tirhuta : Chart :=
  ⟨0x11480, 0x114DF,
    [⟨0x11480, 48, .letter 0x3064 0x20 0x2⟩, ⟨0x114B0, 11, .letter 0x3096 0x20 0x2⟩,
      ⟨0x114BD, 1, .letter 0x30A3 0x20 0x2⟩, ⟨0x114BF, 3, .mark 0xC3 0x2⟩,
      ⟨0x114C2, 1, .letter 0x30A5 0x20 0x2⟩, ⟨0x114C3, 1, .mark 0xC2 0x2⟩,
      ⟨0x114C4, 2, .letter 0x3094 0x20 0x2⟩, ⟨0x114C6, 1, .blank 0x4B4⟩,
      ⟨0x114C7, 1, .letter 0x3063 0x20 0x2⟩, ⟨0x114D0, 10, .letter 0x217D 0x20 0x2⟩]⟩

def siddham : Chart :=
  ⟨0x11580, 0x115FF,
    [⟨0x11580, 54, .letter 0x30A6 0x20 0x2⟩, ⟨0x115B8, 2, .letter 0x30DC 0x20 0x2⟩,
      ⟨0x115BC, 3, .mark 0xC3 0x2⟩, ⟨0x115BF, 1, .letter 0x30E0 0x20 0x2⟩,
      ⟨0x115C0, 1, .mark 0xC2 0x2⟩, ⟨0x115C1, 1, .blank 0x4B5⟩, ⟨0x115C2, 2, .blank 0x2C8⟩,
      ⟨0x115C4, 20, .blank 0x4B6⟩,
      ⟨0x115D8, 1, .several [.letter 0x30A8 0x20 0x4, .mark 0x11E 0x4]⟩,
      ⟨0x115D9, 1, .several [.letter 0x30A8 0x20 0x4, .mark 0x124 0x4]⟩,
      ⟨0x115DA, 1, .several [.letter 0x30A9 0x20 0x4, .mark 0x11E 0x4]⟩,
      ⟨0x115DB, 1, .several [.letter 0x30AA 0x20 0x4, .mark 0x11E 0x4]⟩,
      ⟨0x115DC, 1, .several [.letter 0x30D8 0x20 0x4, .mark 0x11E 0x4]⟩,
      ⟨0x115DD, 1, .several [.letter 0x30D9 0x20 0x4, .mark 0x11E 0x4]⟩]⟩

def modi : Chart :=
  ⟨0x11600, 0x1165F,
    [⟨0x11600, 61, .letter 0x30E1 0x20 0x2⟩, ⟨0x1163D, 2, .mark 0xC4 0x2⟩,
      ⟨0x1163F, 1, .letter 0x311E 0x20 0x2⟩, ⟨0x11640, 1, .mark 0xC3 0x2⟩,
      ⟨0x11641, 2, .blank 0x2CA⟩, ⟨0x11643, 1, .blank 0x4CA⟩,
      ⟨0x11644, 1, .letter 0x311F 0x20 0x2⟩, ⟨0x11650, 10, .letter 0x217D 0x20 0x2⟩]⟩

def takri : Chart :=
  ⟨0x11680, 0x116CF,
    [⟨0x11680, 10, .letter 0x3120 0x20 0x2⟩, ⟨0x1168A, 2, .letter 0x312D 0x20 0x2⟩,
      ⟨0x1168C, 27, .letter 0x3130 0x20 0x2⟩, ⟨0x116A7, 1, .letter 0x312B 0x20 0x2⟩,
      ⟨0x116A8, 1, .letter 0x312A 0x20 0x2⟩, ⟨0x116A9, 1, .letter 0x312C 0x20 0x2⟩,
      ⟨0x116AA, 1, .letter 0x314B 0x20 0x2⟩, ⟨0x116AB, 2, .mark 0xC4 0x2⟩,
      ⟨0x116AD, 10, .letter 0x314C 0x20 0x2⟩, ⟨0x116B7, 1, .mark 0xC2 0x2⟩,
      ⟨0x116B8, 1, .letter 0x312F 0x20 0x2⟩, ⟨0x116B9, 1, .blank 0x4CB⟩,
      ⟨0x116C0, 10, .letter 0x217D 0x20 0x2⟩]⟩

def ahom : Chart :=
  ⟨0x11700, 0x1174F,
    [⟨0x11700, 5, .letter 0x3204 0x20 0x2⟩,
      ⟨0x11705, 1, .several [.letter 0x3208 0x20 0x4, .mark 0x11E 0x4]⟩,
      ⟨0x11706, 16, .letter 0x3209 0x20 0x2⟩,
      ⟨0x11716, 1, .several [.letter 0x3218 0x20 0x4, .mark 0x11E 0x4]⟩,
      ⟨0x11717, 3, .letter 0x3219 0x20 0x2⟩,
      ⟨0x1171A, 1, .several [.letter 0x320B 0x20 0x4, .mark 0x11E 0x4]⟩,
      ⟨0x1171D, 3, .letter 0x322F 0x20 0x2⟩, ⟨0x11720, 12, .letter 0x3223 0x20 0x2⟩,
      ⟨0x11730, 10, .letter 0x217D 0x20 0x2⟩, ⟨0x1173A, 2, .letter 0x2281 0x20 0x2⟩,
      ⟨0x1173C, 2, .blank 0x2CC⟩, ⟨0x1173E, 1, .blank 0x309⟩,
      ⟨0x1173F, 1, .letter 0x5EC 0x20 0x2⟩, ⟨0x11740, 7, .letter 0x321C 0x20 0x2⟩]⟩

def dogra : Chart :=
  ⟨0x11800, 0x1184F,
    [⟨0x11800, 55, .letter 0x31CC 0x20 0x2⟩, ⟨0x11837, 2, .mark 0xC4 0x2⟩,
      ⟨0x11839, 1, .letter 0x3203 0x20 0x2⟩, ⟨0x1183A, 1, .mark 0xC2 0x2⟩,
      ⟨0x1183B, 1, .blank 0x4CC⟩]⟩

def divesAkuru : Chart :=
  ⟨0x11900, 0x1195F,
    [⟨0x11900, 7, .letter 0x3156 0x20 0x2⟩, ⟨0x11909, 1, .letter 0x315D 0x20 0x2⟩,
      ⟨0x1190C, 5, .letter 0x315E 0x20 0x2⟩, ⟨0x11911, 3, .letter 0x3164 0x20 0x2⟩,
      ⟨0x11915, 2, .letter 0x3167 0x20 0x2⟩, ⟨0x11918, 14, .letter 0x3169 0x20 0x2⟩,
      ⟨0x11926, 1, .letter 0x3178 0x20 0x2⟩, ⟨0x11927, 1, .letter 0x317A 0x20 0x2⟩,
      ⟨0x11928, 14, .letter 0x317C 0x20 0x2⟩, ⟨0x11937, 1, .letter 0x318A 0x20 0x2⟩,
      ⟨0x1193B, 1, .mark 0xC4 0x2⟩, ⟨0x1193C, 1, .mark 0xC3 0x2⟩,
      ⟨0x1193D, 2, .letter 0x318C 0x20 0x2⟩, ⟨0x1193F, 1, .letter 0x3163 0x20 0x2⟩,
      ⟨0x11940, 1, .letter 0x3177 0x20 0x2⟩, ⟨0x11941, 1, .letter 0x3179 0x20 0x2⟩,
      ⟨0x11942, 1, .letter 0x317B 0x20 0x2⟩, ⟨0x11943, 1, .mark 0xC2 0x2⟩,
      ⟨0x11944, 1, .blank 0x2CE⟩, ⟨0x11945, 1, .blank 0x4CD⟩, ⟨0x11946, 1, .blank 0x30A⟩,
      ⟨0x11950, 10, .letter 0x217D 0x20 0x2⟩]⟩

def nandinagari : Chart :=
  ⟨0x119A0, 0x119FF,
    [⟨0x119A0, 8, .letter 0x318E 0x20 0x2⟩, ⟨0x119AA, 39, .letter 0x3196 0x20 0x2⟩,
      ⟨0x119D1, 7, .letter 0x31BF 0x20 0x2⟩, ⟨0x119DA, 1, .letter 0x31C6 0x20 0x2⟩,
      ⟨0x119DB, 3, .letter 0x31C8 0x20 0x2⟩, ⟨0x119DE, 2, .mark 0xC4 0x2⟩,
      ⟨0x119E0, 1, .letter 0x31CB 0x20 0x2⟩, ⟨0x119E1, 1, .letter 0x31BD 0x20 0x2⟩,
      ⟨0x119E2, 1, .blank 0x4CE⟩, ⟨0x119E3, 1, .letter 0x31BE 0x20 0x2⟩,
      ⟨0x119E4, 1, .letter 0x31C7 0x20 0x2⟩]⟩

def pauCinHau : Chart :=
  ⟨0x11AC0, 0x11AFF,
    [⟨0x11AC0, 21, .letter 0x4BCE 0x20 0x2⟩, ⟨0x11AD5, 7, .letter 0x4BC7 0x20 0x2⟩,
      ⟨0x11ADC, 2, .letter 0x4BE3 0x20 0x2⟩, ⟨0x11ADE, 1, .letter 0x4BEA 0x20 0x2⟩,
      ⟨0x11ADF, 5, .letter 0x4BE5 0x20 0x2⟩, ⟨0x11AE4, 1, .letter 0x4BEB 0x20 0x2⟩,
      ⟨0x11AE5, 1, .letter 0x4BF1 0x20 0x2⟩, ⟨0x11AE6, 1, .letter 0x4BEF 0x20 0x2⟩,
      ⟨0x11AE7, 1, .letter 0x4BFD 0x20 0x2⟩, ⟨0x11AE8, 1, .letter 0x4BF2 0x20 0x2⟩,
      ⟨0x11AE9, 1, .letter 0x4BF0 0x20 0x2⟩, ⟨0x11AEA, 1, .letter 0x4BFE 0x20 0x2⟩,
      ⟨0x11AEB, 1, .letter 0x4BF9 0x20 0x2⟩, ⟨0x11AEC, 1, .letter 0x4BF7 0x20 0x2⟩,
      ⟨0x11AED, 1, .letter 0x4BFA 0x20 0x2⟩, ⟨0x11AEE, 1, .letter 0x4BF8 0x20 0x2⟩,
      ⟨0x11AEF, 1, .letter 0x4BEC 0x20 0x2⟩, ⟨0x11AF0, 1, .letter 0x4BFF 0x20 0x2⟩,
      ⟨0x11AF1, 1, .letter 0x4BEE 0x20 0x2⟩, ⟨0x11AF2, 1, .letter 0x4BED 0x20 0x2⟩,
      ⟨0x11AF3, 1, .letter 0x4BF5 0x20 0x2⟩, ⟨0x11AF4, 1, .letter 0x4BF3 0x20 0x2⟩,
      ⟨0x11AF5, 1, .letter 0x4BFB 0x20 0x2⟩, ⟨0x11AF6, 1, .letter 0x4BF6 0x20 0x2⟩,
      ⟨0x11AF7, 1, .letter 0x4BF4 0x20 0x2⟩, ⟨0x11AF8, 1, .letter 0x4BFC 0x20 0x2⟩]⟩

def bhaiksuki : Chart :=
  ⟨0x11C00, 0x11C6F,
    [⟨0x11C00, 9, .letter 0x3347 0x20 0x2⟩, ⟨0x11C0A, 37, .letter 0x3350 0x20 0x2⟩,
      ⟨0x11C2F, 8, .letter 0x3376 0x20 0x2⟩, ⟨0x11C38, 4, .letter 0x337E 0x20 0x2⟩,
      ⟨0x11C3C, 3, .mark 0xC3 0x2⟩, ⟨0x11C3F, 1, .letter 0x3382 0x20 0x2⟩,
      ⟨0x11C40, 1, .letter 0x3375 0x20 0x2⟩, ⟨0x11C41, 2, .blank 0x2CF⟩,
      ⟨0x11C43, 3, .blank 0x490⟩, ⟨0x11C50, 10, .letter 0x217D 0x20 0x2⟩,
      ⟨0x11C5A, 9, .letter 0x217E 0x20 0x2⟩, ⟨0x11C63, 10, .letter 0x2293 0x20 0x2⟩]⟩

def makasar : Chart :=
  ⟨0x11EE0, 0x11EFF,
    [⟨0x11EE0, 23, .letter 0x3660 0x20 0x2⟩, ⟨0x11EF7, 2, .blank 0x30B⟩]⟩

def kawi : Chart :=
  ⟨0x11F00, 0x11F5F,
    [⟨0x11F00, 2, .mark 0xC3 0x2⟩, ⟨0x11F02, 1, .letter 0x39CD 0x20 0x2⟩,
      ⟨0x11F03, 1, .mark 0xC5 0x2⟩, ⟨0x11F04, 13, .letter 0x39A5 0x20 0x2⟩,
      ⟨0x11F12, 27, .letter 0x39B2 0x20 0x2⟩, ⟨0x11F2D, 14, .letter 0x39CE 0x20 0x2⟩,
      ⟨0x11F3E, 5, .letter 0x39DC 0x20 0x2⟩, ⟨0x11F43, 2, .blank 0x2D1⟩,
      ⟨0x11F45, 11, .blank 0x30D⟩, ⟨0x11F50, 10, .letter 0x217D 0x20 0x2⟩,
      ⟨0x11F5A, 1, .mark 0xC2 0x2⟩]⟩

def tamilSupplement : Chart :=
  ⟨0x11FC0, 0x11FFF,
    [⟨0x11FC0, 21, .letter 0x219C 0x20 0x2⟩, ⟨0x11FD5, 8, .letter 0x59E 0x20 0x2⟩,
      ⟨0x11FDD, 4, .letter 0x2156 0x20 0x2⟩, ⟨0x11FE1, 17, .letter 0x5A6 0x20 0x2⟩,
      ⟨0x11FFF, 1, .blank 0x4D0⟩]⟩

def brahmicCharts : List Chart :=
  [kharoshthi, brahmi, kaithi, mahajani, sharada, sinhalaArchaicNumbers, khojki, multani,
    khudawadi, grantha, tuluTigalari, newa, tirhuta, siddham, modi, takri, ahom, dogra,
    divesAkuru, nandinagari, pauCinHau, bhaiksuki, makasar, kawi, tamilSupplement]

end CodeNotes.Collation
