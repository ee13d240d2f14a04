import CodeNotes.Collation.Weight
/-!
Collation weights of the ancient scripts of Europe and the Near East.
-/
namespace CodeNotes.Collation

def ogham : Chart :=
  ⟨0x1680, 0x169F,
    [⟨0x1680, 1, .blank 0x209⟩, ⟨0x1681, 26, .letter 0x3DF5 0x20 0x2⟩, ⟨0x169B, 2, .blank 0x347⟩]⟩

def runic : Chart :=
  ⟨0x16A0, 0x16FF,
    [⟨0x16A0, 1, .letter 0x3E0F 0x20 0x2⟩,
      ⟨0x16A1, 1, .several [.letter 0x3E0F 0x20 0x4, .mark 0x11E 0x4]⟩,
      ⟨0x16A2, 1, .letter 0x3E10 0x20 0x2⟩, ⟨0x16A3, 1, .letter 0x3E34 0x20 0x2⟩,
      ⟨0x16A4, 1, .several [.letter 0x3E10 0x20 0x4, .mark 0x11E 0x4]⟩,
      ⟨0x16A5, 1, .several [.letter 0x3E10 0x20 0x4, .mark 0x124 0x4]⟩,
      ⟨0x16A6, 1, .letter 0x3E11 0x20 0x2⟩,
      ⟨0x16A7, 1, .several [.letter 0x3E11 0x20 0x4, .mark 0x11E 0x4]⟩,
      ⟨0x16A8, 1, .letter 0x3E12 0x20 0x2⟩,
      ⟨0x16A9, 1, .several [.letter 0x3E12 0x20 0x4, .mark 0x11E 0x4]⟩,
      ⟨0x16AA, 1, .letter 0x3E30 0x20 0x2⟩, ⟨0x16AB, 1, .letter 0x3E32 0x20 0x2⟩,
      ⟨0x16AC, 1, .several [.letter 0x3E12 0x20 0x4, .mark 0x121 0x4]⟩,
      ⟨0x16AD, 1, .several [.letter 0x3E12 0x20 0x4, .mark 0x124 0x4]⟩,
      ⟨0x16AE, 1, .several [.letter 0x3E12 0x20 0x4, .mark 0x127 0x4]⟩,
      ⟨0x16AF, 4, .letter 0x3E14 0x20 0x2⟩,
      ⟨0x16B3, 1, .several [.letter 0x3E17 0x20 0x4, .mark 0x11E 0x4]⟩,
      ⟨0x16B4, 1, .several [.letter 0x3E17 0x20 0x4, .mark 0x121 0x4]⟩,
      ⟨0x16B5, 1, .several [.letter 0x3E17 0x20 0x4, .mark 0x124 0x4]⟩,
      ⟨0x16B6, 1, .several [.letter 0x3E17 0x20 0x4, .mark 0x127 0x4]⟩,
      ⟨0x16B7, 1, .letter 0x3E19 0x20 0x2⟩, ⟨0x16B8, 1, .letter 0x3E37 0x20 0x2⟩,
      ⟨0x16B9, 2, .letter 0x3E1A 0x20 0x2⟩,
      ⟨0x16BB, 1, .several [.letter 0x3E1B 0x20 0x4, .mark 0x11E 0x4]⟩,
      ⟨0x16BC, 1, .several [.letter 0x3E1B 0x20 0x4, .mark 0x122 0x4]⟩,
      ⟨0x16BD, 1, .several [.letter 0x3E1B 0x20 0x4, .mark 0x126 0x4]⟩,
      ⟨0x16BE, 1, .letter 0x3E1C 0x20 0x2⟩,
      ⟨0x16BF, 1, .several [.letter 0x3E1C 0x20 0x4, .mark 0x11E 0x4]⟩,
      ⟨0x16C0, 1, .several [.letter 0x3E1C 0x20 0x4, .mark 0x124 0x4]⟩,
      ⟨0x16C1, 1, .letter 0x3E1D 0x20 0x2⟩,
      ⟨0x16C2, 1, .several [.letter 0x3E1D 0x20 0x4, .mark 0x11E 0x4]⟩,
      ⟨0x16C3, 1, .letter 0x3E1F 0x20 0x2⟩,
      ⟨0x16C4, 1, .several [.letter 0x3E1F 0x20 0x4, .mark 0x11E 0x4]⟩,
      ⟨0x16C5, 1, .letter 0x3E20 0x20 0x2⟩,
      ⟨0x16C6, 1, .several [.letter 0x3E20 0x20 0x4, .mark 0x11E 0x4]⟩,
      ⟨0x16C7, 4, .letter 0x3E21 0x20 0x2⟩,
      ⟨0x16CB, 1, .several [.letter 0x3E24 0x20 0x4, .mark 0x11E 0x4]⟩,
      ⟨0x16CC, 1, .several [.letter 0x3E24 0x20 0x4, .mark 0x123 0x4]⟩,
      ⟨0x16CD, 1, .several [.letter 0x3E24 0x20 0x4, .mark 0x125 0x4]⟩,
      ⟨0x16CE, 1, .several [.letter 0x3E24 0x20 0x4, .mark 0x127 0x4]⟩,
      ⟨0x16CF, 1, .letter 0x3E26 0x20 0x2⟩,
      ⟨0x16D0, 1, .several [.letter 0x3E26 0x20 0x4, .mark 0x11E 0x4]⟩,
      ⟨0x16D1, 1, .several [.letter 0x3E26 0x20 0x4, .mark 0x124 0x4]⟩,
      ⟨0x16D2, 1, .letter 0x3E27 0x20 0x2⟩,
      ⟨0x16D3, 1, .several [.letter 0x3E27 0x20 0x4, .mark 0x11E 0x4]⟩,
      ⟨0x16D4, 1, .several [.letter 0x3E27 0x20 0x4, .mark 0x124 0x4]⟩,
      ⟨0x16D5, 1, .several [.letter 0x3E22 0x20 0x4, .mark 0x11E 0x4]⟩,
      ⟨0x16D6, 1, .letter 0x3E28 0x20 0x2⟩, ⟨0x16D7, 1, .letter 0x3E2A 0x20 0x2⟩,
      ⟨0x16D8, 1, .several [.letter 0x3E2A 0x20 0x4, .mark 0x11E 0x4]⟩,
      ⟨0x16D9, 1, .several [.letter 0x3E2A 0x20 0x4, .mark 0x124 0x4]⟩,
      ⟨0x16DA, 1, .letter 0x3E2B 0x20 0x2⟩,
      ⟨0x16DB, 1, .several [.letter 0x3E2B 0x20 0x4, .mark 0x11E 0x4]⟩,
      ⟨0x16DC, 1, .letter 0x3E2C 0x20 0x2⟩,
      ⟨0x16DD, 1, .several [.letter 0x3E2C 0x20 0x4, .mark 0x11E 0x4]⟩,
      ⟨0x16DE, 2, .letter 0x3E2D 0x20 0x2⟩, ⟨0x16E0, 1, .letter 0x3E35 0x20 0x2⟩,
      ⟨0x16E1, 2, .letter 0x3E39 0x20 0x2⟩, ⟨0x16E3, 1, .letter 0x3E36 0x20 0x2⟩,
      ⟨0x16E4, 1, .letter 0x3E38 0x20 0x2⟩, ⟨0x16E5, 2, .letter 0x3E3B 0x20 0x2⟩,
      ⟨0x16E7, 1, .several [.letter 0x3E3C 0x20 0x4, .mark 0x11E 0x4]⟩,
      ⟨0x16E8, 1, .several [.letter 0x3E3C 0x20 0x4, .mark 0x124 0x4]⟩,
      ⟨0x16E9, 1, .several [.letter 0x3E1A 0x20 0x4, .mark 0x11E 0x4]⟩,
      ⟨0x16EA, 1, .several [.letter 0x3E24 0x20 0x4, .mark 0x120 0x4]⟩,
      ⟨0x16EB, 3, .blank 0x265⟩,
      ⟨0x16EE, 1, .several [.letter 0x3E20 0x20 0x4, .letter 0x3E2B 0x20 0x4]⟩,
      ⟨0x16EF, 1, .several [.letter 0x3E2A 0x20 0x4, .mark 0x11E 0x4, .letter 0x3E2A 0x20 0x4,
        .mark 0x11E 0x4]⟩,
      ⟨0x16F0, 1, .several [.letter 0x3E11 0x20 0x4, .letter 0x3E11 0x20 0x4]⟩,
      ⟨0x16F1, 1, .letter 0x3E18 0x20 0x2⟩, ⟨0x16F2, 1, .letter 0x3E25 0x20 0x2⟩,
      ⟨0x16F3, 1, .letter 0x3E2F 0x20 0x2⟩, ⟨0x16F4, 1, .letter 0x3E13 0x20 0x2⟩,
      ⟨0x16F5, 1, .letter 0x3E1E 0x20 0x2⟩, ⟨0x16F6, 1, .letter 0x3E29 0x20 0x2⟩,
      ⟨0x16F7, 1, .letter 0x3E31 0x20 0x2⟩, ⟨0x16F8, 1, .letter 0x3E33 0x20 0x2⟩]⟩

def linearBSyllabary : Chart :=
  ⟨0x10000, 0x1007F,
    [⟨0x10000, 12, .letter 0x5051 0x20 0x2⟩, ⟨0x1000D, 26, .letter 0x505D 0x20 0x2⟩,
      ⟨0x10028, 19, .letter 0x5077 0x20 0x2⟩, ⟨0x1003C, 2, .letter 0x508A 0x20 0x2⟩,
      ⟨0x1003F, 15, .letter 0x508C 0x20 0x2⟩, ⟨0x10050, 14, .letter 0x509B 0x20 0x2⟩]⟩

def linearBIdeograms : Chart := ⟨0x10080, 0x100FF, [⟨0x10080, 123, .letter 0x50A9 0x20 0x2⟩]⟩

def aegeanNumbers : Chart :=
  ⟨0x10100, 0x1013F,
    [⟨0x10100, 3, .blank 0x32A⟩, ⟨0x10107, 9, .letter 0x217E 0x20 0x2⟩,
      ⟨0x10110, 36, .letter 0x21EF 0x20 0x2⟩, ⟨0x10137, 9, .letter 0x13C6 0x20 0x2⟩]⟩

def ancientGreekNumbers : Chart :=
  ⟨0x10140, 0x1018F,
    [⟨0x10140, 2, .letter 0x2213 0x20 0x2⟩, ⟨0x10142, 1, .letter 0x217E 0x20 0x2⟩,
      ⟨0x10143, 1, .letter 0x2182 0x20 0x2⟩, ⟨0x10144, 4, .letter 0x2215 0x20 0x2⟩,
      ⟨0x10148, 1, .letter 0x2182 0x20 0x2⟩, ⟨0x10149, 6, .letter 0x2219 0x20 0x2⟩,
      ⟨0x1014F, 1, .letter 0x2182 0x20 0x2⟩, ⟨0x10150, 8, .letter 0x221F 0x20 0x2⟩,
      ⟨0x10158, 1, .letter 0x217E 0x20 0x2⟩, ⟨0x10159, 1, .letter 0x217E 0x20 0x2⟩,
      ⟨0x1015A, 2, .letter 0x217E 0x20 0x2⟩, ⟨0x1015C, 1, .letter 0x217F 0x20 0x2⟩,
      ⟨0x1015D, 1, .letter 0x217F 0x20 0x2⟩, ⟨0x1015E, 1, .letter 0x217F 0x20 0x2⟩,
      ⟨0x1015F, 1, .letter 0x2182 0x20 0x2⟩, ⟨0x10160, 19, .letter 0x2227 0x20 0x2⟩,
      ⟨0x10173, 1, .letter 0x2182 0x20 0x2⟩, ⟨0x10174, 5, .letter 0x223A 0x20 0x2⟩,
      ⟨0x10179, 17, .letter 0x13CF 0x20 0x2⟩, ⟨0x1018A, 1, .letter 0x217D 0x20 0x2⟩,
      ⟨0x1018B, 1, .letter 0x223F 0x20 0x2⟩, ⟨0x1018C, 3, .letter 0x13E0 0x20 0x2⟩]⟩

def ancientSymbols : Chart :=
  ⟨0x10190, 0x101CF,
    [⟨0x10190, 13, .letter 0x13E3 0x20 0x2⟩, ⟨0x101A0, 1, .letter 0x13F0 0x20 0x2⟩]⟩

def phaistosDisc : Chart :=
  ⟨0x101D0, 0x101FF,
    [⟨0x101D0, 45, .letter 0x13F1 0x20 0x2⟩, ⟨0x101FD, 1, .mark 0x34 0x2⟩]⟩

def lycian : Chart := ⟨0x10280, 0x1029F, [⟨0x10280, 29, .letter 0x4CF3 0x20 0x2⟩]⟩

def carian : Chart := ⟨0x102A0, 0x102DF, [⟨0x102A0, 49, .letter 0x4D10 0x20 0x2⟩]⟩

def copticEpactNumbers : Chart :=
  ⟨0x102E0, 0x102FF,
    [⟨0x102E0, 1, .ignored⟩, ⟨0x102E1, 9, .letter 0x217E 0x20 0x2⟩,
      ⟨0x102EA, 18, .letter 0x2240 0x20 0x2⟩]⟩

def oldItalic : Chart :=
  ⟨0x10300, 0x1032F,
    [⟨0x10300, 15, .letter 0x4D5B 0x20 0x2⟩, ⟨0x1030F, 16, .letter 0x4D6B 0x20 0x2⟩,
      ⟨0x1031F, 1, .letter 0x4D6A 0x20 0x2⟩, ⟨0x10320, 1, .letter 0x217E 0x20 0x2⟩,
      ⟨0x10321, 1, .letter 0x2182 0x20 0x2⟩, ⟨0x10322, 2, .letter 0x21E9 0x20 0x2⟩,
      ⟨0x1032D, 3, .letter 0x4D7B 0x20 0x2⟩]⟩

def gothic : Chart := ⟨0x10330, 0x1034F, [⟨0x10330, 27, .letter 0x4D7E 0x20 0x2⟩]⟩

def oldPermic : Chart :=
  ⟨0x10350, 0x1037F,
    [⟨0x10350, 38, .letter 0x2668 0x20 0x2⟩, ⟨0x10376, 1, .letter 0x2668 0x20 0x4⟩,
      ⟨0x10377, 1, .letter 0x266B 0x20 0x4⟩, ⟨0x10378, 1, .letter 0x266F 0x20 0x4⟩,
      ⟨0x10379, 1, .letter 0x2675 0x20 0x4⟩, ⟨0x1037A, 1, .letter 0x2679 0x20 0x4⟩]⟩

def ugaritic : Chart :=
  ⟨0x10380, 0x1039F,
    [⟨0x10380, 30, .letter 0x54C7 0x20 0x2⟩, ⟨0x1039F, 1, .blank 0x32D⟩]⟩

def oldPersian : Chart :=
  ⟨0x103A0, 0x103DF,
    [⟨0x103A0, 36, .letter 0x54E5 0x20 0x2⟩, ⟨0x103C8, 8, .letter 0x5509 0x20 0x2⟩,
      ⟨0x103D0, 1, .blank 0x32E⟩, ⟨0x103D1, 2, .letter 0x217E 0x20 0x2⟩,
      ⟨0x103D3, 3, .letter 0x2252 0x20 0x2⟩]⟩

def elbasan : Chart := ⟨0x10500, 0x1052F, [⟨0x10500, 40, .letter 0x4E9A 0x20 0x2⟩]⟩

def caucasianAlbanian : Chart :=
  ⟨0x10530, 0x1056F,
    [⟨0x10530, 52, .letter 0x4EC2 0x20 0x2⟩, ⟨0x1056F, 1, .blank 0x483⟩]⟩

def vithkuqi : Chart :=
  ⟨0x10570, 0x105BF,
    [⟨0x10570, 11, .letter 0x4EF6 0x20 0x8⟩, ⟨0x1057C, 15, .letter 0x4F01 0x20 0x8⟩,
      ⟨0x1058C, 7, .letter 0x4F10 0x20 0x8⟩, ⟨0x10594, 2, .letter 0x4F17 0x20 0x8⟩,
      ⟨0x10597, 11, .letter 0x4EF6 0x20 0x2⟩, ⟨0x105A3, 15, .letter 0x4F01 0x20 0x2⟩,
      ⟨0x105B3, 7, .letter 0x4F10 0x20 0x2⟩, ⟨0x105BB, 2, .letter 0x4F17 0x20 0x2⟩]⟩

def todhri : Chart :=
  ⟨0x105C0, 0x105FF,
    [⟨0x105C0, 9, .letter 0x4F19 0x20 0x2⟩, ⟨0x105CA, 26, .letter 0x4F23 0x20 0x2⟩,
      ⟨0x105E5, 15, .letter 0x4F3E 0x20 0x2⟩]⟩

def linearA : Chart :=
  ⟨0x10600, 0x1077F,
    [⟨0x10600, 311, .letter 0x5124 0x20 0x2⟩, ⟨0x10740, 22, .letter 0x525B 0x20 0x2⟩,
      ⟨0x10760, 8, .letter 0x5271 0x20 0x2⟩]⟩

def cypriotSyllabary : Chart :=
  ⟨0x10800, 0x1083F,
    [⟨0x10800, 6, .letter 0x5279 0x20 0x2⟩, ⟨0x10808, 1, .letter 0x527F 0x20 0x2⟩,
      ⟨0x1080A, 44, .letter 0x5280 0x20 0x2⟩, ⟨0x10837, 2, .letter 0x52AC 0x20 0x2⟩,
      ⟨0x1083C, 1, .letter 0x52AE 0x20 0x2⟩, ⟨0x1083F, 1, .letter 0x52AF 0x20 0x2⟩]⟩

def imperialAramaic : Chart :=
  ⟨0x10840, 0x1085F,
    [⟨0x10840, 22, .letter 0x53C1 0x20 0x2⟩, ⟨0x10857, 1, .blank 0x2F2⟩,
      ⟨0x10858, 3, .letter 0x217E 0x20 0x2⟩, ⟨0x1085B, 5, .letter 0x2263 0x20 0x2⟩]⟩

def palmyrene : Chart :=
  ⟨0x10860, 0x1087F,
    [⟨0x10860, 13, .letter 0x5380 0x20 0x2⟩, ⟨0x1086D, 1, .letter 0x538D 0x20 0x19⟩,
      ⟨0x1086E, 9, .letter 0x538D 0x20 0x2⟩, ⟨0x10877, 2, .letter 0x141E 0x20 0x2⟩,
      ⟨0x10879, 5, .letter 0x217E 0x20 0x2⟩, ⟨0x1087E, 2, .letter 0x2255 0x20 0x2⟩]⟩

def nabataean : Chart :=
  ⟨0x10880, 0x108AF,
    [⟨0x10880, 1, .letter 0x5396 0x20 0x19⟩, ⟨0x10881, 1, .letter 0x5396 0x20 0x2⟩,
      ⟨0x10882, 1, .letter 0x5397 0x20 0x19⟩, ⟨0x10883, 3, .letter 0x5397 0x20 0x2⟩,
      ⟨0x10886, 1, .letter 0x539A 0x20 0x19⟩, ⟨0x10887, 5, .letter 0x539A 0x20 0x2⟩,
      ⟨0x1088C, 1, .letter 0x539F 0x20 0x19⟩, ⟨0x1088D, 1, .letter 0x539F 0x20 0x2⟩,
      ⟨0x1088E, 1, .letter 0x53A0 0x20 0x19⟩, ⟨0x1088F, 1, .letter 0x53A0 0x20 0x2⟩,
      ⟨0x10890, 1, .letter 0x53A1 0x20 0x19⟩, ⟨0x10891, 1, .letter 0x53A1 0x20 0x2⟩,
      ⟨0x10892, 1, .letter 0x53A2 0x20 0x19⟩, ⟨0x10893, 1, .letter 0x53A2 0x20 0x2⟩,
      ⟨0x10894, 1, .letter 0x53A3 0x20 0x19⟩, ⟨0x10895, 7, .letter 0x53A3 0x20 0x2⟩,
      ⟨0x1089C, 1, .letter 0x53AA 0x20 0x19⟩, ⟨0x1089D, 2, .letter 0x53AA 0x20 0x2⟩,
      ⟨0x108A7, 4, .letter 0x217E 0x20 0x2⟩, ⟨0x108AB, 2, .letter 0x2181 0x20 0x2⟩,
      ⟨0x108AD, 3, .letter 0x2257 0x20 0x2⟩]⟩

def hatran : Chart :=
  ⟨0x108E0, 0x108FF,
    [⟨0x108E0, 19, .letter 0x53AC 0x20 0x2⟩, ⟨0x108F4, 2, .letter 0x53BF 0x20 0x2⟩,
      ⟨0x108FB, 1, .letter 0x217E 0x20 0x2⟩, ⟨0x108FC, 1, .letter 0x2182 0x20 0x2⟩,
      ⟨0x108FD, 3, .letter 0x225A 0x20 0x2⟩]⟩

def phoenician : Chart :=
  ⟨0x10900, 0x1091F,
    [⟨0x10900, 22, .letter 0x2723 0x20 0x2⟩, ⟨0x10916, 1, .letter 0x217E 0x20 0x2⟩,
      ⟨0x10917, 3, .letter 0x2260 0x20 0x2⟩, ⟨0x1091A, 2, .letter 0x217F 0x20 0x2⟩,
      ⟨0x1091F, 1, .blank 0x32F⟩]⟩

def lydian : Chart :=
  ⟨0x10920, 0x1093F,
    [⟨0x10920, 26, .letter 0x4D41 0x20 0x2⟩, ⟨0x1093F, 1, .blank 0x329⟩]⟩

def oldSouthArabian : Chart :=
  ⟨0x10A60, 0x10A7F,
    [⟨0x10A60, 29, .letter 0x5311 0x20 0x2⟩, ⟨0x10A7D, 1, .letter 0x217E 0x20 0x2⟩,
      ⟨0x10A7E, 1, .letter 0x225D 0x20 0x2⟩, ⟨0x10A7F, 1, .blank 0x494⟩]⟩

def oldNorthArabian : Chart :=
  ⟨0x10A80, 0x10A9F,
    [⟨0x10A80, 29, .letter 0x532E 0x20 0x2⟩, ⟨0x10A9D, 1, .letter 0x217E 0x20 0x2⟩,
      ⟨0x10A9E, 2, .letter 0x225E 0x20 0x2⟩]⟩

def manichaean : Chart :=
  ⟨0x10AC0, 0x10AFF,
    [⟨0x10AC0, 8, .letter 0x5428 0x20 0x2⟩,
      ⟨0x10AC8, 1, .several [.letter 0x542F 0x20 0x4, .mark 0x11E 0x4]⟩,
      ⟨0x10AC9, 28, .letter 0x5430 0x20 0x2⟩, ⟨0x10AE5, 2, .mark 0x33 0x2⟩,
      ⟨0x10AEB, 1, .letter 0x217E 0x20 0x2⟩, ⟨0x10AEC, 1, .letter 0x2182 0x20 0x2⟩,
      ⟨0x10AED, 3, .letter 0x2268 0x20 0x2⟩, ⟨0x10AF0, 7, .blank 0x495⟩]⟩

def avestan : Chart :=
  ⟨0x10B00, 0x10B3F,
    [⟨0x10B00, 46, .letter 0x534B 0x20 0x2⟩,
      ⟨0x10B2E, 1, .several [.letter 0x5378 0x20 0x4, .mark 0x11E 0x4]⟩,
      ⟨0x10B2F, 7, .letter 0x5379 0x20 0x2⟩, ⟨0x10B39, 1, .blank 0x493⟩,
      ⟨0x10B3A, 6, .blank 0x2F3⟩]⟩

def inscriptionalParthian : Chart :=
  ⟨0x10B40, 0x10B5F,
    [⟨0x10B40, 22, .letter 0x53D7 0x20 0x2⟩, ⟨0x10B58, 4, .letter 0x217E 0x20 0x2⟩,
      ⟨0x10B5C, 4, .letter 0x226B 0x20 0x2⟩]⟩

def inscriptionalPahlavi : Chart :=
  ⟨0x10B60, 0x10B7F,
    [⟨0x10B60, 19, .letter 0x53ED 0x20 0x2⟩, ⟨0x10B78, 4, .letter 0x217E 0x20 0x2⟩,
      ⟨0x10B7C, 4, .letter 0x226F 0x20 0x2⟩]⟩

def psalterPahlavi : Chart :=
  ⟨0x10B80, 0x10BAF,
    [⟨0x10B80, 18, .letter 0x5400 0x20 0x2⟩, ⟨0x10B99, 4, .blank 0x49C⟩,
      ⟨0x10BA9, 4, .letter 0x217E 0x20 0x2⟩, ⟨0x10BAD, 3, .letter 0x2273 0x20 0x2⟩]⟩

def oldHungarian : Chart :=
  ⟨0x10C80, 0x10CFF,
    [⟨0x10C80, 1, .letter 0x3E3D 0x20 0x8⟩,
      ⟨0x10C81, 1, .several [.letter 0x3E3D 0x20 0xA, .mark 0x11E 0x4]⟩,
      ⟨0x10C82, 8, .letter 0x3E3E 0x20 0x8⟩,
      ⟨0x10C8A, 1, .several [.letter 0x3E45 0x20 0xA, .mark 0x11E 0x4]⟩,
      ⟨0x10C8B, 1, .several [.letter 0x3E45 0x20 0xA, .mark 0x124 0x4]⟩,
      ⟨0x10C8C, 5, .letter 0x3E46 0x20 0x8⟩,
      ⟨0x10C91, 1, .several [.letter 0x3E4A 0x20 0xA, .mark 0x11E 0x4]⟩,
      ⟨0x10C92, 10, .letter 0x3E4B 0x20 0x8⟩,
      ⟨0x10C9C, 1, .several [.letter 0x3E54 0x20 0xA, .mark 0x11E 0x4]⟩,
      ⟨0x10C9D, 1, .letter 0x3E55 0x20 0x8⟩,
      ⟨0x10C9E, 1, .several [.letter 0x3E55 0x20 0xA, .mark 0x11E 0x4]⟩,
      ⟨0x10C9F, 1, .several [.letter 0x3E55 0x20 0xA, .mark 0x124 0x4]⟩,
      ⟨0x10CA0, 3, .letter 0x3E56 0x20 0x8⟩,
      ⟨0x10CA3, 1, .several [.letter 0x3E58 0x20 0xA, .mark 0x11E 0x4]⟩,
      ⟨0x10CA4, 7, .letter 0x3E59 0x20 0x8⟩,
      ⟨0x10CAB, 1, .several [.letter 0x3E5F 0x20 0xA, .mark 0x11E 0x4]⟩,
      ⟨0x10CAC, 1, .letter 0x3E60 0x20 0x8⟩,
      ⟨0x10CAD, 1, .several [.letter 0x3E60 0x20 0xA, .mark 0x11E 0x4]⟩,
      ⟨0x10CAE, 5, .letter 0x3E61 0x20 0x8⟩, ⟨0x10CC0, 1, .letter 0x3E3D 0x20 0x2⟩,
      ⟨0x10CC1, 1, .several [.letter 0x3E3D 0x20 0x4, .mark 0x11E 0x4]⟩,
      ⟨0x10CC2, 8, .letter 0x3E3E 0x20 0x2⟩,
      ⟨0x10CCA, 1, .several [.letter 0x3E45 0x20 0x4, .mark 0x11E 0x4]⟩,
      ⟨0x10CCB, 1, .several [.letter 0x3E45 0x20 0x4, .mark 0x124 0x4]⟩,
      ⟨0x10CCC, 5, .letter 0x3E46 0x20 0x2⟩,
      ⟨0x10CD1, 1, .several [.letter 0x3E4A 0x20 0x4, .mark 0x11E 0x4]⟩,
      ⟨0x10CD2, 10, .letter 0x3E4B 0x20 0x2⟩,
      ⟨0x10CDC, 1, .several [.letter 0x3E54 0x20 0x4, .mark 0x11E 0x4]⟩,
      ⟨0x10CDD, 1, .letter 0x3E55 0x20 0x2⟩,
      ⟨0x10CDE, 1, .several [.letter 0x3E55 0x20 0x4, .mark 0x11E 0x4]⟩,
      ⟨0x10CDF, 1, .several [.letter 0x3E55 0x20 0x4, .mark 0x124 0x4]⟩,
      ⟨0x10CE0, 3, .letter 0x3E56 0x20 0x2⟩,
      ⟨0x10CE3, 1, .several [.letter 0x3E58 0x20 0x4, .mark 0x11E 0x4]⟩,
      ⟨0x10CE4, 7, .letter 0x3E59 0x20 0x2⟩,
      ⟨0x10CEB, 1, .several [.letter 0x3E5F 0x20 0x4, .mark 0x11E 0x4]⟩,
      ⟨0x10CEC, 1, .letter 0x3E60 0x20 0x2⟩,
      ⟨0x10CED, 1, .several [.letter 0x3E60 0x20 0x4, .mark 0x11E 0x4]⟩,
      ⟨0x10CEE, 5, .letter 0x3E61 0x20 0x2⟩, ⟨0x10CFA, 1, .letter 0x217E 0x20 0x2⟩,
      ⟨0x10CFB, 1, .letter 0x2182 0x20 0x2⟩, ⟨0x10CFC, 4, .letter 0x21EB 0x20 0x2⟩]⟩

def elymaic : Chart :=
  ⟨0x10FE0, 0x10FFF,
    [⟨0x10FE0, 22, .letter 0x5412 0x20 0x2⟩,
      ⟨0x10FF6, 1, .several [.letter 0x5418 0x20 0x4, .letter 0x541B 0x20 0x4]⟩]⟩

def cuneiform : Chart :=
  ⟨0x12000, 0x123FF,
    [⟨0x12000, 611, .letter 0x5511 0x20 0x2⟩, ⟨0x12263, 113, .letter 0x5776 0x20 0x2⟩,
      ⟨0x122D4, 2, .letter 0x5774 0x20 0x2⟩, ⟨0x122D6, 196, .letter 0x57E7 0x20 0x2⟩]⟩

def cuneiformNumbersAndPunctuation : Chart :=
  ⟨0x12400, 0x1247F,
    [⟨0x12400, 8, .letter 0x217F 0x20 0x2⟩, ⟨0x12408, 7, .letter 0x2180 0x20 0x2⟩,
      ⟨0x1240F, 6, .letter 0x2181 0x20 0x2⟩, ⟨0x12415, 9, .letter 0x217E 0x20 0x2⟩,
      ⟨0x1241E, 5, .letter 0x217E 0x20 0x2⟩, ⟨0x12423, 2, .letter 0x217F 0x20 0x2⟩,
      ⟨0x12425, 7, .letter 0x2180 0x20 0x2⟩, ⟨0x1242C, 3, .letter 0x217E 0x20 0x2⟩,
      ⟨0x1242F, 3, .letter 0x2180 0x20 0x2⟩, ⟨0x12432, 2, .letter 0x2366 0x20 0x2⟩,
      ⟨0x12434, 3, .letter 0x217E 0x20 0x2⟩, ⟨0x12437, 3, .letter 0x2180 0x20 0x2⟩,
      ⟨0x1243A, 1, .letter 0x2180 0x20 0x2⟩, ⟨0x1243B, 2, .letter 0x2180 0x20 0x2⟩,
      ⟨0x1243D, 1, .letter 0x2181 0x20 0x2⟩, ⟨0x1243E, 1, .letter 0x2181 0x20 0x2⟩,
      ⟨0x1243F, 1, .letter 0x2181 0x20 0x2⟩, ⟨0x12440, 2, .letter 0x2183 0x20 0x2⟩,
      ⟨0x12442, 1, .letter 0x2184 0x20 0x2⟩, ⟨0x12443, 2, .letter 0x2184 0x20 0x2⟩,
      ⟨0x12445, 2, .letter 0x2185 0x20 0x2⟩, ⟨0x12447, 1, .letter 0x2186 0x20 0x2⟩,
      ⟨0x12448, 1, .letter 0x2186 0x20 0x2⟩, ⟨0x12449, 1, .letter 0x2186 0x20 0x2⟩,
      ⟨0x1244A, 5, .letter 0x217F 0x20 0x2⟩, ⟨0x1244F, 4, .letter 0x217E 0x20 0x2⟩,
      ⟨0x12453, 2, .letter 0x2181 0x20 0x2⟩, ⟨0x12455, 1, .letter 0x2182 0x20 0x2⟩,
      ⟨0x12456, 2, .letter 0x217F 0x20 0x2⟩, ⟨0x12458, 2, .letter 0x217E 0x20 0x2⟩,
      ⟨0x1245A, 15, .letter 0x2368 0x20 0x2⟩, ⟨0x12469, 6, .letter 0x2181 0x20 0x2⟩,
      ⟨0x12470, 5, .blank 0x330⟩]⟩

def earlyDynasticCuneiform : Chart :=
  ⟨0x12480, 0x1254F,
    [⟨0x12480, 196, .letter 0x58AB 0x20 0x2⟩]⟩

def cyproMinoan : Chart :=
  ⟨0x12F90, 0x12FFF,
    [⟨0x12F90, 97, .letter 0x52B0 0x20 0x2⟩, ⟨0x12FF1, 2, .blank 0x335⟩]⟩

def anatolianHieroglyphs : Chart := ⟨0x14400, 0x1467F, [⟨0x14400, 583, .letter 0x6D5B 0x20 0x2⟩]⟩

def ancientCharts : List Chart :=
  [ogham, runic, linearBSyllabary, linearBIdeograms, aegeanNumbers, ancientGreekNumbers,
    ancientSymbols, phaistosDisc, lycian, carian, copticEpactNumbers, oldItalic, gothic,
    oldPermic, ugaritic, oldPersian, elbasan, caucasianAlbanian, vithkuqi, todhri, linearA,
    cypriotSyllabary, imperialAramaic, palmyrene, nabataean, hatran, phoenician, lydian,
    oldSouthArabian, oldNorthArabian, manichaean, avestan, inscriptionalParthian,
    inscriptionalPahlavi, psalterPahlavi, oldHungarian, elymaic, cuneiform,
    cuneiformNumbersAndPunctuation, earlyDynasticCuneiform, cyproMinoan, anatolianHieroglyphs]

end CodeNotes.Collation
