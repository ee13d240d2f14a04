import CodeNotes.Collation.Canonical.Form
/-!
Full canonical decompositions of the Greek letters, by code point.
-/
namespace CodeNotes.Collation

def greekPage3 : FormPage :=
  ⟨0x3,
    [(0x374, [0x2B9]), (0x37E, [0x3B]), (0x385, [0xA8, 0x301]), (0x386, [0x391, 0x301]),
      (0x387, [0xB7]), (0x388, [0x395, 0x301]), (0x389, [0x397, 0x301]), (0x38A, [0x399, 0x301]),
      (0x38C, [0x39F, 0x301]), (0x38E, [0x3A5, 0x301]), (0x38F, [0x3A9, 0x301]),
      (0x390, [0x3B9, 0x308, 0x301]), (0x3AA, [0x399, 0x308]), (0x3AB, [0x3A5, 0x308]),
      (0x3AC, [0x3B1, 0x301]), (0x3AD, [0x3B5, 0x301]), (0x3AE, [0x3B7, 0x301]),
      (0x3AF, [0x3B9, 0x301]), (0x3B0, [0x3C5, 0x308, 0x301]), (0x3CA, [0x3B9, 0x308]),
      (0x3CB, [0x3C5, 0x308]), (0x3CC, [0x3BF, 0x301]), (0x3CD, [0x3C5, 0x301]),
      (0x3CE, [0x3C9, 0x301]), (0x3D3, [0x3D2, 0x301]), (0x3D4, [0x3D2, 0x308])]⟩

def greekPage1F : FormPage :=
  ⟨0x1F,
    [(0x1F00, [0x3B1, 0x313]), (0x1F01, [0x3B1, 0x314]), (0x1F02, [0x3B1, 0x313, 0x300]),
      (0x1F03, [0x3B1, 0x314, 0x300]), (0x1F04, [0x3B1, 0x313, 0x301]),
      (0x1F05, [0x3B1, 0x314, 0x301]), (0x1F06, [0x3B1, 0x313, 0x342]),
      (0x1F07, [0x3B1, 0x314, 0x342]), (0x1F08, [0x391, 0x313]), (0x1F09, [0x391, 0x314]),
      (0x1F0A, [0x391, 0x313, 0x300]), (0x1F0B, [0x391, 0x314, 0x300]),
      (0x1F0C, [0x391, 0x313, 0x301]), (0x1F0D, [0x391, 0x314, 0x301]),
      (0x1F0E, [0x391, 0x313, 0x342]), (0x1F0F, [0x391, 0x314, 0x342]), (0x1F10, [0x3B5, 0x313]),
      (0x1F11, [0x3B5, 0x314]), (0x1F12, [0x3B5, 0x313, 0x300]), (0x1F13, [0x3B5, 0x314, 0x300]),
      (0x1F14, [0x3B5, 0x313, 0x301]), (0x1F15, [0x3B5, 0x314, 0x301]), (0x1F18, [0x395, 0x313]),
      (0x1F19, [0x395, 0x314]), (0x1F1A, [0x395, 0x313, 0x300]), (0x1F1B, [0x395, 0x314, 0x300]),
      (0x1F1C, [0x395, 0x313, 0x301]), (0x1F1D, [0x395, 0x314, 0x301]), (0x1F20, [0x3B7, 0x313]),
      (0x1F21, [0x3B7, 0x314]), (0x1F22, [0x3B7, 0x313, 0x300]), (0x1F23, [0x3B7, 0x314, 0x300]),
      (0x1F24, [0x3B7, 0x313, 0x301]), (0x1F25, [0x3B7, 0x314, 0x301]),
      (0x1F26, [0x3B7, 0x313, 0x342]), (0x1F27, [0x3B7, 0x314, 0x342]), (0x1F28, [0x397, 0x313]),
      (0x1F29, [0x397, 0x314]), (0x1F2A, [0x397, 0x313, 0x300]), (0x1F2B, [0x397, 0x314, 0x300]),
      (0x1F2C, [0x397, 0x313, 0x301]), (0x1F2D, [0x397, 0x314, 0x301]),
      (0x1F2E, [0x397, 0x313, 0x342]), (0x1F2F, [0x397, 0x314, 0x342]), (0x1F30, [0x3B9, 0x313]),
      (0x1F31, [0x3B9, 0x314]), (0x1F32, [0x3B9, 0x313, 0x300]), (0x1F33, [0x3B9, 0x314, 0x300]),
      (0x1F34, [0x3B9, 0x313, 0x301]), (0x1F35, [0x3B9, 0x314, 0x301]),
      (0x1F36, [0x3B9, 0x313, 0x342]), (0x1F37, [0x3B9, 0x314, 0x342]), (0x1F38, [0x399, 0x313]),
      (0x1F39, [0x399, 0x314]), (0x1F3A, [0x399, 0x313, 0x300]), (0x1F3B, [0x399, 0x314, 0x300]),
      (0x1F3C, [0x399, 0x313, 0x301]), (0x1F3D, [0x399, 0x314, 0x301]),
      (0x1F3E, [0x399, 0x313, 0x342]), (0x1F3F, [0x399, 0x314, 0x342]), (0x1F40, [0x3BF, 0x313]),
      (0x1F41, [0x3BF, 0x314]), (0x1F42, [0x3BF, 0x313, 0x300]), (0x1F43, [0x3BF, 0x314, 0x300]),
      (0x1F44, [0x3BF, 0x313, 0x301]), (0x1F45, [0x3BF, 0x314, 0x301]), (0x1F48, [0x39F, 0x313]),
      (0x1F49, [0x39F, 0x314]), (0x1F4A, [0x39F, 0x313, 0x300]), (0x1F4B, [0x39F, 0x314, 0x300]),
      (0x1F4C, [0x39F, 0x313, 0x301]), (0x1F4D, [0x39F, 0x314, 0x301]), (0x1F50, [0x3C5, 0x313]),
      (0x1F51, [0x3C5, 0x314]), (0x1F52, [0x3C5, 0x313, 0x300]), (0x1F53, [0x3C5, 0x314, 0x300]),
      (0x1F54, [0x3C5, 0x313, 0x301]), (0x1F55, [0x3C5, 0x314, 0x301]),
      (0x1F56, [0x3C5, 0x313, 0x342]), (0x1F57, [0x3C5, 0x314, 0x342]), (0x1F59, [0x3A5, 0x314]),
      (0x1F5B, [0x3A5, 0x314, 0x300]), (0x1F5D, [0x3A5, 0x314, 0x301]),
      (0x1F5F, [0x3A5, 0x314, 0x342]), (0x1F60, [0x3C9, 0x313]), (0x1F61, [0x3C9, 0x314]),
      (0x1F62, [0x3C9, 0x313, 0x300]), (0x1F63, [0x3C9, 0x314, 0x300]),
      (0x1F64, [0x3C9, 0x313, 0x301]), (0x1F65, [0x3C9, 0x314, 0x301]),
      (0x1F66, [0x3C9, 0x313, 0x342]), (0x1F67, [0x3C9, 0x314, 0x342]), (0x1F68, [0x3A9, 0x313]),
      (0x1F69, [0x3A9, 0x314]), (0x1F6A, [0x3A9, 0x313, 0x300]), (0x1F6B, [0x3A9, 0x314, 0x300]),
      (0x1F6C, [0x3A9, 0x313, 0x301]), (0x1F6D, [0x3A9, 0x314, 0x301]),
      (0x1F6E, [0x3A9, 0x313, 0x342]), (0x1F6F, [0x3A9, 0x314, 0x342]), (0x1F70, [0x3B1, 0x300]),
      (0x1F71, [0x3B1, 0x301]), (0x1F72, [0x3B5, 0x300]), (0x1F73, [0x3B5, 0x301]),
      (0x1F74, [0x3B7, 0x300]), (0x1F75, [0x3B7, 0x301]), (0x1F76, [0x3B9, 0x300]),
      (0x1F77, [0x3B9, 0x301]), (0x1F78, [0x3BF, 0x300]), (0x1F79, [0x3BF, 0x301]),
      (0x1F7A, [0x3C5, 0x300]), (0x1F7B, [0x3C5, 0x301]), (0x1F7C, [0x3C9, 0x300]),
      (0x1F7D, [0x3C9, 0x301]), (0x1F80, [0x3B1, 0x313, 0x345]), (0x1F81, [0x3B1, 0x314, 0x345]),
      (0x1F82, [0x3B1, 0x313, 0x300, 0x345]), (0x1F83, [0x3B1, 0x314, 0x300, 0x345]),
      (0x1F84, [0x3B1, 0x313, 0x301, 0x345]), (0x1F85, [0x3B1, 0x314, 0x301, 0x345]),
      (0x1F86, [0x3B1, 0x313, 0x342, 0x345]), (0x1F87, [0x3B1, 0x314, 0x342, 0x345]),
      (0x1F88, [0x391, 0x313, 0x345]), (0x1F89, [0x391, 0x314, 0x345]),
      (0x1F8A, [0x391, 0x313, 0x300, 0x345]), (0x1F8B, [0x391, 0x314, 0x300, 0x345]),
      (0x1F8C, [0x391, 0x313, 0x301, 0x345]), (0x1F8D, [0x391, 0x314, 0x301, 0x345]),
      (0x1F8E, [0x391, 0x313, 0x342, 0x345]), (0x1F8F, [0x391, 0x314, 0x342, 0x345]),
      (0x1F90, [0x3B7, 0x313, 0x345]), (0x1F91, [0x3B7, 0x314, 0x345]),
      (0x1F92, [0x3B7, 0x313, 0x300, 0x345]), (0x1F93, [0x3B7, 0x314, 0x300, 0x345]),
      (0x1F94, [0x3B7, 0x313, 0x301, 0x345]), (0x1F95, [0x3B7, 0x314, 0x301, 0x345]),
      (0x1F96, [0x3B7, 0x313, 0x342, 0x345]), (0x1F97, [0x3B7, 0x314, 0x342, 0x345]),
      (0x1F98, [0x397, 0x313, 0x345]), (0x1F99, [0x397, 0x314, 0x345]),
      (0x1F9A, [0x397, 0x313, 0x300, 0x345]), (0x1F9B, [0x397, 0x314, 0x300, 0x345]),
      (0x1F9C, [0x397, 0x313, 0x301, 0x345]), (0x1F9D, [0x397, 0x314, 0x301, 0x345]),
      (0x1F9E, [0x397, 0x313, 0x342, 0x345]), (0x1F9F, [0x397, 0x314, 0x342, 0x345]),
      (0x1FA0, [0x3C9, 0x313, 0x345]), (0x1FA1, [0x3C9, 0x314, 0x345]),
      (0x1FA2, [0x3C9, 0x313, 0x300, 0x345]), (0x1FA3, [0x3C9, 0x314, 0x300, 0x345]),
      (0x1FA4, [0x3C9, 0x313, 0x301, 0x345]), (0x1FA5, [0x3C9, 0x314, 0x301, 0x345]),
      (0x1FA6, [0x3C9, 0x313, 0x342, 0x345]), (0x1FA7, [0x3C9, 0x314, 0x342, 0x345]),
      (0x1FA8, [0x3A9, 0x313, 0x345]), (0x1FA9, [0x3A9, 0x314, 0x345]),
      (0x1FAA, [0x3A9, 0x313, 0x300, 0x345]), (0x1FAB, [0x3A9, 0x314, 0x300, 0x345]),
      (0x1FAC, [0x3A9, 0x313, 0x301, 0x345]), (0x1FAD, [0x3A9, 0x314, 0x301, 0x345]),
      (0x1FAE, [0x3A9, 0x313, 0x342, 0x345]), (0x1FAF, [0x3A9, 0x314, 0x342, 0x345]),
      (0x1FB0, [0x3B1, 0x306]), (0x1FB1, [0x3B1, 0x304]), (0x1FB2, [0x3B1, 0x300, 0x345]),
      (0x1FB3, [0x3B1, 0x345]), (0x1FB4, [0x3B1, 0x301, 0x345]), (0x1FB6, [0x3B1, 0x342]),
      (0x1FB7, [0x3B1, 0x342, 0x345]), (0x1FB8, [0x391, 0x306]), (0x1FB9, [0x391, 0x304]),
      (0x1FBA, [0x391, 0x300]), (0x1FBB, [0x391, 0x301]), (0x1FBC, [0x391, 0x345]),
      (0x1FBE, [0x3B9]), (0x1FC1, [0xA8, 0x342]), (0x1FC2, [0x3B7, 0x300, 0x345]),
      (0x1FC3, [0x3B7, 0x345]), (0x1FC4, [0x3B7, 0x301, 0x345]), (0x1FC6, [0x3B7, 0x342]),
      (0x1FC7, [0x3B7, 0x342, 0x345]), (0x1FC8, [0x395, 0x300]), (0x1FC9, [0x395, 0x301]),
      (0x1FCA, [0x397, 0x300]), (0x1FCB, [0x397, 0x301]), (0x1FCC, [0x397, 0x345]),
      (0x1FCD, [0x1FBF, 0x300]), (0x1FCE, [0x1FBF, 0x301]), (0x1FCF, [0x1FBF, 0x342]),
      (0x1FD0, [0x3B9, 0x306]), (0x1FD1, [0x3B9, 0x304]), (0x1FD2, [0x3B9, 0x308, 0x300]),
      (0x1FD3, [0x3B9, 0x308, 0x301]), (0x1FD6, [0x3B9, 0x342]), (0x1FD7, [0x3B9, 0x308, 0x342]),
      (0x1FD8, [0x399, 0x306]), (0x1FD9, [0x399, 0x304]), (0x1FDA, [0x399, 0x300]),
      (0x1FDB, [0x399, 0x301]), (0x1FDD, [0x1FFE, 0x300]), (0x1FDE, [0x1FFE, 0x301]),
      (0x1FDF, [0x1FFE, 0x342]), (0x1FE0, [0x3C5, 0x306]), (0x1FE1, [0x3C5, 0x304]),
      (0x1FE2, [0x3C5, 0x308, 0x300]), (0x1FE3, [0x3C5, 0x308, 0x301]), (0x1FE4, [0x3C1, 0x313]),
      (0x1FE5, [0x3C1, 0x314]), (0x1FE6, [0x3C5, 0x342]), (0x1FE7, [0x3C5, 0x308, 0x342]),
      (0x1FE8, [0x3A5, 0x306]), (0x1FE9, [0x3A5, 0x304]), (0x1FEA, [0x3A5, 0x300]),
      (0x1FEB, [0x3A5, 0x301]), (0x1FEC, [0x3A1, 0x314]), (0x1FED, [0xA8, 0x300]),
      (0x1FEE, [0xA8, 0x301]), (0x1FEF, [0x60]), (0x1FF2, [0x3C9, 0x300, 0x345]),
      (0x1FF3, [0x3C9, 0x345]), (0x1FF4, [0x3C9, 0x301, 0x345]), (0x1FF6, [0x3C9, 0x342]),
      (0x1FF7, [0x3C9, 0x342, 0x345]), (0x1FF8, [0x39F, 0x300]), (0x1FF9, [0x39F, 0x301]),
      (0x1FFA, [0x3A9, 0x300]), (0x1FFB, [0x3A9, 0x301]), (0x1FFC, [0x3A9, 0x345]),
      (0x1FFD, [0xB4])]⟩

def greekPages : List FormPage :=
  [greekPage3, greekPage1F]

end CodeNotes.Collation
