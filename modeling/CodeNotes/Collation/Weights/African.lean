import CodeNotes.Collation.Weight
/-!
Collation weights of the scripts of Africa.
-/
namespace CodeNotes.Collation

def nko : Chart :=
  ⟨0x7C0, 0x7FF,
    [⟨0x7C0, 10, .letter 0x217D 0x20 0x2⟩, ⟨0x7CA, 30, .letter 0x28B3 0x20 0x2⟩,
      ⟨0x7E8, 1, .several [.letter 0x28BF 0x20 0x4, .mark 0x11E 0x4]⟩,
      ⟨0x7E9, 1, .several [.letter 0x28C0 0x20 0x4, .mark 0x11E 0x4]⟩,
      ⟨0x7EA, 1, .several [.letter 0x28C2 0x20 0x4, .mark 0x11E 0x4]⟩,
      ⟨0x7EB, 9, .mark 0xAA 0x2⟩, ⟨0x7F4, 2, .letter 0x28D1 0x20 0x2⟩,
      ⟨0x7F6, 1, .letter 0x594 0x20 0x2⟩, ⟨0x7F7, 1, .blank 0x2DB⟩, ⟨0x7F8, 1, .blank 0x231⟩,
      ⟨0x7F9, 1, .blank 0x26D⟩, ⟨0x7FA, 1, .ignored⟩, ⟨0x7FD, 1, .mark 0x34 0x2⟩,
      ⟨0x7FE, 2, .letter 0x214E 0x20 0x2⟩]⟩

def ethiopic : Chart :=
  ⟨0x1200, 0x137F,
    [⟨0x1200, 16, .letter 0x290C 0x20 0x2⟩, ⟨0x1210, 16, .letter 0x291D 0x20 0x2⟩,
      ⟨0x1220, 16, .letter 0x2934 0x20 0x2⟩, ⟨0x1230, 8, .letter 0x2945 0x20 0x2⟩,
      ⟨0x1238, 8, .letter 0x2954 0x20 0x2⟩, ⟨0x1240, 9, .letter 0x295D 0x20 0x2⟩,
      ⟨0x124A, 2, .letter 0x2967 0x20 0x2⟩, ⟨0x124C, 1, .letter 0x296A 0x20 0x2⟩,
      ⟨0x124D, 1, .letter 0x296C 0x20 0x2⟩, ⟨0x1250, 7, .letter 0x296D 0x20 0x2⟩,
      ⟨0x1258, 1, .letter 0x2974 0x20 0x2⟩, ⟨0x125A, 4, .letter 0x2975 0x20 0x2⟩,
      ⟨0x1260, 8, .letter 0x2979 0x20 0x2⟩, ⟨0x1268, 16, .letter 0x2988 0x20 0x2⟩,
      ⟨0x1278, 8, .letter 0x2999 0x20 0x2⟩, ⟨0x1280, 9, .letter 0x29A2 0x20 0x2⟩,
      ⟨0x128A, 4, .letter 0x29AB 0x20 0x2⟩, ⟨0x1290, 8, .letter 0x29AF 0x20 0x2⟩,
      ⟨0x1298, 8, .letter 0x29B8 0x20 0x2⟩, ⟨0x12A0, 8, .letter 0x29C1 0x20 0x2⟩,
      ⟨0x12A8, 9, .letter 0x29CA 0x20 0x2⟩, ⟨0x12B2, 2, .letter 0x29D4 0x20 0x2⟩,
      ⟨0x12B4, 1, .letter 0x29D7 0x20 0x2⟩, ⟨0x12B5, 1, .letter 0x29D9 0x20 0x2⟩,
      ⟨0x12B8, 7, .letter 0x29DA 0x20 0x2⟩, ⟨0x12C0, 1, .letter 0x29E2 0x20 0x2⟩,
      ⟨0x12C2, 2, .letter 0x29E4 0x20 0x2⟩, ⟨0x12C4, 1, .letter 0x29E7 0x20 0x2⟩,
      ⟨0x12C5, 1, .letter 0x29E9 0x20 0x2⟩, ⟨0x12C8, 15, .letter 0x29EA 0x20 0x2⟩,
      ⟨0x12D8, 8, .letter 0x29F9 0x20 0x2⟩, ⟨0x12E0, 24, .letter 0x2A08 0x20 0x2⟩,
      ⟨0x12F8, 8, .letter 0x2A27 0x20 0x2⟩, ⟨0x1300, 8, .letter 0x2A30 0x20 0x2⟩,
      ⟨0x1308, 9, .letter 0x2A39 0x20 0x2⟩, ⟨0x1312, 2, .letter 0x2A43 0x20 0x2⟩,
      ⟨0x1314, 1, .letter 0x2A46 0x20 0x2⟩, ⟨0x1315, 1, .letter 0x2A48 0x20 0x2⟩,
      ⟨0x1318, 8, .letter 0x2A49 0x20 0x2⟩, ⟨0x1320, 8, .letter 0x2A55 0x20 0x2⟩,
      ⟨0x1328, 8, .letter 0x2A5E 0x20 0x2⟩, ⟨0x1330, 8, .letter 0x2A6E 0x20 0x2⟩,
      ⟨0x1338, 8, .letter 0x2A77 0x20 0x2⟩, ⟨0x1340, 16, .letter 0x2A86 0x20 0x2⟩,
      ⟨0x1350, 8, .letter 0x2A9C 0x20 0x2⟩, ⟨0x1358, 3, .letter 0x2AAB 0x20 0x2⟩,
      ⟨0x135D, 1, .mark 0xB5 0x2⟩, ⟨0x135E, 1, .mark 0xB4 0x2⟩, ⟨0x135F, 1, .mark 0xB3 0x2⟩,
      ⟨0x1360, 1, .blank 0x2DD⟩, ⟨0x1361, 1, .blank 0x25A⟩, ⟨0x1362, 1, .blank 0x287⟩,
      ⟨0x1363, 4, .blank 0x25B⟩, ⟨0x1367, 1, .blank 0x277⟩, ⟨0x1368, 1, .blank 0x2DE⟩,
      ⟨0x1369, 9, .letter 0x217E 0x20 0x2⟩, ⟨0x1372, 11, .letter 0x21C1 0x20 0x2⟩]⟩

def ethiopicSupplement : Chart :=
  ⟨0x1380, 0x139F,
    [⟨0x1380, 1, .letter 0x292D 0x20 0x2⟩, ⟨0x1381, 1, .letter 0x292F 0x20 0x2⟩,
      ⟨0x1382, 2, .letter 0x2931 0x20 0x2⟩, ⟨0x1384, 1, .letter 0x2981 0x20 0x2⟩,
      ⟨0x1385, 1, .letter 0x2983 0x20 0x2⟩, ⟨0x1386, 2, .letter 0x2985 0x20 0x2⟩,
      ⟨0x1388, 1, .letter 0x2A96 0x20 0x2⟩, ⟨0x1389, 1, .letter 0x2A98 0x20 0x2⟩,
      ⟨0x138A, 2, .letter 0x2A9A 0x20 0x2⟩, ⟨0x138C, 1, .letter 0x2AA4 0x20 0x2⟩,
      ⟨0x138D, 1, .letter 0x2AA6 0x20 0x2⟩, ⟨0x138E, 2, .letter 0x2AA8 0x20 0x2⟩,
      ⟨0x1390, 10, .letter 0x526 0x20 0x2⟩]⟩

def tifinagh : Chart :=
  ⟨0x2D30, 0x2D7F,
    [⟨0x2D30, 12, .letter 0x28D3 0x20 0x2⟩, ⟨0x2D3C, 24, .letter 0x28E0 0x20 0x2⟩,
      ⟨0x2D54, 18, .letter 0x28F9 0x20 0x2⟩, ⟨0x2D66, 1, .letter 0x28DF 0x20 0x2⟩,
      ⟨0x2D67, 1, .letter 0x28F8 0x20 0x2⟩, ⟨0x2D6F, 1, .letter 0x290B 0x20 0x2⟩,
      ⟨0x2D70, 1, .blank 0x478⟩, ⟨0x2D7F, 1, .ignored⟩]⟩

def ethiopicExtended : Chart :=
  ⟨0x2D80, 0x2DDF,
    [⟨0x2D80, 1, .letter 0x291C 0x20 0x2⟩, ⟨0x2D81, 1, .letter 0x2933 0x20 0x2⟩,
      ⟨0x2D82, 1, .letter 0x2944 0x20 0x2⟩, ⟨0x2D83, 1, .letter 0x294D 0x20 0x2⟩,
      ⟨0x2D84, 1, .letter 0x295C 0x20 0x2⟩, ⟨0x2D85, 1, .letter 0x2987 0x20 0x2⟩,
      ⟨0x2D86, 1, .letter 0x2998 0x20 0x2⟩, ⟨0x2D87, 1, .letter 0x29A1 0x20 0x2⟩,
      ⟨0x2D88, 1, .letter 0x29B7 0x20 0x2⟩, ⟨0x2D89, 1, .letter 0x29C0 0x20 0x2⟩,
      ⟨0x2D8A, 1, .letter 0x29C9 0x20 0x2⟩, ⟨0x2D8B, 1, .letter 0x2A01 0x20 0x2⟩,
      ⟨0x2D8C, 1, .letter 0x2A20 0x20 0x2⟩, ⟨0x2D8D, 1, .letter 0x2A2F 0x20 0x2⟩,
      ⟨0x2D8E, 1, .letter 0x2A38 0x20 0x2⟩, ⟨0x2D8F, 1, .letter 0x2A5D 0x20 0x2⟩,
      ⟨0x2D90, 1, .letter 0x2A66 0x20 0x2⟩, ⟨0x2D91, 1, .letter 0x2A76 0x20 0x2⟩,
      ⟨0x2D92, 1, .letter 0x2AAA 0x20 0x2⟩, ⟨0x2D93, 4, .letter 0x2A51 0x20 0x2⟩,
      ⟨0x2DA0, 7, .letter 0x2AAE 0x20 0x2⟩, ⟨0x2DA8, 7, .letter 0x2AB5 0x20 0x2⟩,
      ⟨0x2DB0, 7, .letter 0x2ABC 0x20 0x2⟩, ⟨0x2DB8, 7, .letter 0x2AC3 0x20 0x2⟩,
      ⟨0x2DC0, 7, .letter 0x2ACA 0x20 0x2⟩, ⟨0x2DC8, 7, .letter 0x2AD1 0x20 0x2⟩,
      ⟨0x2DD0, 1, .letter 0x2AD9 0x20 0x2⟩, ⟨0x2DD1, 1, .letter 0x2ADB 0x20 0x2⟩,
      ⟨0x2DD2, 1, .letter 0x2ADD 0x20 0x2⟩, ⟨0x2DD3, 1, .letter 0x2ADF 0x20 0x2⟩,
      ⟨0x2DD4, 1, .letter 0x2AE1 0x20 0x2⟩, ⟨0x2DD5, 1, .letter 0x2AE3 0x20 0x2⟩,
      ⟨0x2DD6, 1, .letter 0x2AE5 0x20 0x2⟩, ⟨0x2DD8, 7, .letter 0x2AE6 0x20 0x2⟩]⟩

def vai : Chart :=
  ⟨0xA500, 0xA63F,
    [⟨0xA500, 269, .letter 0x3E93 0x20 0x2⟩, ⟨0xA60D, 1, .blank 0x235⟩,
      ⟨0xA60E, 1, .blank 0x291⟩, ⟨0xA60F, 1, .blank 0x27B⟩, ⟨0xA610, 1, .letter 0x3EEB 0x20 0x4⟩,
      ⟨0xA611, 1, .letter 0x3EFD 0x20 0x4⟩, ⟨0xA612, 1, .letter 0x3F1A 0x20 0x4⟩,
      ⟨0xA613, 1, .several [.letter 0x3E9F 0x20 0x4, .letter 0x3F9E 0x20 0x4]⟩,
      ⟨0xA614, 1, .several [.letter 0x3EB1 0x20 0x4, .letter 0x3F9E 0x20 0x4]⟩,
      ⟨0xA615, 1, .several [.letter 0x3EC6 0x20 0x4, .letter 0x3F9E 0x20 0x4]⟩,
      ⟨0xA616, 1, .several [.letter 0x3EDA 0x20 0x4, .letter 0x3F9F 0x20 0x4]⟩,
      ⟨0xA617, 1, .several [.letter 0x3EE5 0x20 0x4, .letter 0x3F9E 0x20 0x4]⟩,
      ⟨0xA618, 1, .several [.letter 0x3EEB 0x20 0x4, .letter 0x3F9F 0x20 0x4]⟩,
      ⟨0xA619, 1, .several [.letter 0x3EED 0x20 0x4, .letter 0x3F9F 0x20 0x4]⟩,
      ⟨0xA61A, 1, .several [.letter 0x3EF3 0x20 0x4, .letter 0x3F9E 0x20 0x4]⟩,
      ⟨0xA61B, 1, .several [.letter 0x3F18 0x20 0x4, .letter 0x3F9E 0x20 0x4]⟩,
      ⟨0xA61C, 1, .several [.letter 0x3F47 0x20 0x4, .letter 0x3F9E 0x20 0x4]⟩,
      ⟨0xA61D, 1, .several [.letter 0x3F5E 0x20 0x4, .letter 0x3F9E 0x20 0x4]⟩,
      ⟨0xA61E, 1, .several [.letter 0x3F64 0x20 0x4, .letter 0x3F9F 0x20 0x4]⟩,
      ⟨0xA61F, 1, .several [.letter 0x3F6B 0x20 0x4, .letter 0x3F9E 0x20 0x4]⟩,
      ⟨0xA620, 10, .letter 0x217D 0x20 0x2⟩, ⟨0xA62A, 1, .letter 0x3F01 0x20 0x4⟩,
      ⟨0xA62B, 1, .letter 0x3F64 0x20 0x4⟩]⟩

def bamum : Chart :=
  ⟨0xA6A0, 0xA6FF,
    [⟨0xA6A0, 80, .letter 0x3FA0 0x20 0x2⟩, ⟨0xA6F0, 2, .mark 0xB6 0x2⟩,
      ⟨0xA6F2, 1, .blank 0x2F0⟩, ⟨0xA6F3, 1, .blank 0x292⟩, ⟨0xA6F4, 1, .blank 0x268⟩,
      ⟨0xA6F5, 1, .blank 0x236⟩, ⟨0xA6F6, 1, .blank 0x240⟩, ⟨0xA6F7, 1, .blank 0x27C⟩]⟩

def ethiopicExtendedA : Chart :=
  ⟨0xAB00, 0xAB2F,
    [⟨0xAB01, 6, .letter 0x294E 0x20 0x2⟩, ⟨0xAB09, 6, .letter 0x2A21 0x20 0x2⟩,
      ⟨0xAB11, 6, .letter 0x2A02 0x20 0x2⟩, ⟨0xAB20, 7, .letter 0x2A67 0x20 0x2⟩,
      ⟨0xAB28, 7, .letter 0x2A7F 0x20 0x2⟩]⟩

def osmanya : Chart :=
  ⟨0x10480, 0x104AF,
    [⟨0x10480, 30, .letter 0x4E7C 0x20 0x2⟩, ⟨0x104A0, 10, .letter 0x217D 0x20 0x2⟩]⟩

def meroiticHieroglyphs : Chart :=
  ⟨0x10980, 0x1099F,
    [⟨0x10980, 1, .several [.letter 0x6D40 0x20 0x4, .mark 0x11E 0x4]⟩,
      ⟨0x10981, 1, .several [.letter 0x6D41 0x20 0x4, .mark 0x11E 0x4]⟩,
      ⟨0x10982, 1, .several [.letter 0x6D42 0x20 0x4, .mark 0x11E 0x4]⟩,
      ⟨0x10983, 1, .several [.letter 0x6D43 0x20 0x4, .mark 0x11E 0x4]⟩,
      ⟨0x10984, 1, .several [.letter 0x6D44 0x20 0x4, .mark 0x11E 0x4]⟩,
      ⟨0x10985, 1, .several [.letter 0x6D45 0x20 0x4, .mark 0x11E 0x4]⟩,
      ⟨0x10986, 1, .several [.letter 0x6D46 0x20 0x4, .mark 0x11E 0x4]⟩,
      ⟨0x10987, 1, .several [.letter 0x6D46 0x20 0x4, .mark 0x124 0x4]⟩,
      ⟨0x10988, 1, .several [.letter 0x6D47 0x20 0x4, .mark 0x11E 0x4]⟩,
      ⟨0x10989, 1, .several [.letter 0x6D48 0x20 0x4, .mark 0x11E 0x4]⟩,
      ⟨0x1098A, 1, .several [.letter 0x6D49 0x20 0x4, .mark 0x11E 0x4]⟩,
      ⟨0x1098B, 1, .several [.letter 0x6D49 0x20 0x4, .mark 0x124 0x4]⟩,
      ⟨0x1098C, 1, .several [.letter 0x6D4A 0x20 0x4, .mark 0x11E 0x4]⟩,
      ⟨0x1098D, 1, .several [.letter 0x6D4A 0x20 0x4, .mark 0x124 0x4]⟩,
      ⟨0x1098E, 1, .several [.letter 0x6D4B 0x20 0x4, .mark 0x11E 0x4]⟩,
      ⟨0x1098F, 1, .several [.letter 0x6D4B 0x20 0x4, .mark 0x124 0x4]⟩,
      ⟨0x10990, 1, .several [.letter 0x6D4C 0x20 0x4, .mark 0x11E 0x4]⟩,
      ⟨0x10991, 1, .several [.letter 0x6D4D 0x20 0x4, .mark 0x11E 0x4]⟩,
      ⟨0x10992, 1, .several [.letter 0x6D4E 0x20 0x4, .mark 0x11E 0x4]⟩,
      ⟨0x10993, 1, .several [.letter 0x6D4F 0x20 0x4, .mark 0x122 0x4]⟩,
      ⟨0x10994, 1, .several [.letter 0x6D4F 0x20 0x4, .mark 0x126 0x4]⟩,
      ⟨0x10995, 1, .several [.letter 0x6D50 0x20 0x4, .mark 0x11E 0x4]⟩,
      ⟨0x10996, 1, .several [.letter 0x6D51 0x20 0x4, .mark 0x11E 0x4]⟩,
      ⟨0x10997, 1, .several [.letter 0x6D52 0x20 0x4, .mark 0x11E 0x4]⟩,
      ⟨0x10998, 1, .several [.letter 0x6D53 0x20 0x4, .mark 0x11E 0x4]⟩,
      ⟨0x10999, 1, .several [.letter 0x6D53 0x20 0x4, .mark 0x124 0x4]⟩,
      ⟨0x1099A, 1, .several [.letter 0x6D54 0x20 0x4, .mark 0x11E 0x4]⟩,
      ⟨0x1099B, 1, .several [.letter 0x6D54 0x20 0x4, .mark 0x124 0x4]⟩,
      ⟨0x1099C, 1, .several [.letter 0x6D55 0x20 0x4, .mark 0x11E 0x4]⟩,
      ⟨0x1099D, 1, .several [.letter 0x6D56 0x20 0x4, .mark 0x11E 0x4]⟩,
      ⟨0x1099E, 2, .letter 0x6D59 0x20 0x2⟩]⟩

def meroiticCursive : Chart :=
  ⟨0x109A0, 0x109FF,
    [⟨0x109A0, 16, .letter 0x6D40 0x20 0x2⟩,
      ⟨0x109B0, 1, .several [.letter 0x6D4F 0x20 0x4, .mark 0x11E 0x4]⟩,
      ⟨0x109B1, 7, .letter 0x6D50 0x20 0x2⟩, ⟨0x109BC, 1, .letter 0x2365 0x20 0x2⟩,
      ⟨0x109BD, 1, .letter 0x235A 0x20 0x2⟩, ⟨0x109BE, 2, .letter 0x6D57 0x20 0x2⟩,
      ⟨0x109C0, 9, .letter 0x217E 0x20 0x2⟩, ⟨0x109C9, 7, .letter 0x232F 0x20 0x2⟩,
      ⟨0x109D2, 36, .letter 0x2336 0x20 0x2⟩, ⟨0x109F6, 10, .letter 0x235B 0x20 0x2⟩]⟩

def garay : Chart :=
  ⟨0x10D40, 0x10D8F,
    [⟨0x10D40, 10, .letter 0x217D 0x20 0x2⟩, ⟨0x10D4A, 6, .letter 0x432C 0x20 0x2⟩,
      ⟨0x10D50, 20, .letter 0x4333 0x20 0x8⟩, ⟨0x10D64, 1, .letter 0x4336 0x20 0xA⟩,
      ⟨0x10D65, 1, .letter 0x4344 0x20 0xA⟩, ⟨0x10D69, 1, .letter 0x4332 0x20 0x2⟩,
      ⟨0x10D6A, 1, .mark 0xD3 0x2⟩, ⟨0x10D6B, 1, .mark 0x33 0x2⟩, ⟨0x10D6C, 1, .mark 0xC2 0x2⟩,
      ⟨0x10D6D, 1, .mark 0x33 0x2⟩, ⟨0x10D6E, 1, .blank 0x213⟩,
      ⟨0x10D6F, 1, .letter 0x2137 0x20 0x2⟩, ⟨0x10D70, 20, .letter 0x4333 0x20 0x2⟩,
      ⟨0x10D84, 1, .letter 0x4336 0x20 0x4⟩, ⟨0x10D85, 1, .letter 0x4344 0x20 0x4⟩,
      ⟨0x10D8E, 1, .letter 0x6B5 0x20 0x2⟩, ⟨0x10D8F, 1, .letter 0x6C2 0x20 0x2⟩]⟩

def egyptianHieroglyphs : Chart := ⟨0x13000, 0x1342F, [⟨0x13000, 1072, .letter 0x596F 0x20 0x2⟩]⟩

def egyptianHieroglyphFormatControls : Chart :=
  ⟨0x13430, 0x1345F,
    [⟨0x13430, 17, .ignored⟩, ⟨0x13441, 6, .letter 0x6D3A 0x20 0x2⟩, ⟨0x13447, 15, .ignored⟩]⟩

def egyptianHieroglyphsExtendedA : Chart :=
  ⟨0x13460, 0x143FF,
    [⟨0x13460, 3995, .letter 0x5D9F 0x20 0x2⟩]⟩

def bamumSupplement : Chart := ⟨0x16800, 0x16A3F, [⟨0x16800, 569, .letter 0x3FF0 0x20 0x2⟩]⟩

def bassaVah : Chart :=
  ⟨0x16AD0, 0x16AFF,
    [⟨0x16AD0, 30, .letter 0x4229 0x20 0x2⟩, ⟨0x16AF0, 5, .mark 0xB8 0x2⟩,
      ⟨0x16AF5, 1, .blank 0x293⟩]⟩

def medefaidrin : Chart :=
  ⟨0x16E40, 0x16E9F,
    [⟨0x16E40, 32, .letter 0x430C 0x20 0x8⟩, ⟨0x16E60, 32, .letter 0x430C 0x20 0x2⟩,
      ⟨0x16E80, 10, .letter 0x217D 0x20 0x2⟩, ⟨0x16E8A, 10, .letter 0x22B8 0x20 0x2⟩,
      ⟨0x16E94, 1, .several [.letter 0x217E 0x20 0x4, .mark 0x11E 0x4]⟩,
      ⟨0x16E95, 1, .several [.letter 0x217F 0x20 0x4, .mark 0x11E 0x4]⟩,
      ⟨0x16E96, 1, .several [.letter 0x2180 0x20 0x2, .mark 0x11E 0x2]⟩,
      ⟨0x16E97, 1, .blank 0x237⟩, ⟨0x16E98, 1, .blank 0x294⟩, ⟨0x16E99, 2, .blank 0x4D8⟩]⟩

def ethiopicExtendedB : Chart :=
  ⟨0x1E7E0, 0x1E7FF,
    [⟨0x1E7E0, 1, .letter 0x2AD8 0x20 0x2⟩, ⟨0x1E7E1, 1, .letter 0x2ADA 0x20 0x2⟩,
      ⟨0x1E7E2, 1, .letter 0x2ADC 0x20 0x2⟩, ⟨0x1E7E3, 1, .letter 0x2ADE 0x20 0x2⟩,
      ⟨0x1E7E4, 1, .letter 0x2AE0 0x20 0x2⟩, ⟨0x1E7E5, 1, .letter 0x2AE2 0x20 0x2⟩,
      ⟨0x1E7E6, 1, .letter 0x2AE4 0x20 0x2⟩, ⟨0x1E7E8, 1, .letter 0x29E1 0x20 0x2⟩,
      ⟨0x1E7E9, 1, .letter 0x29E3 0x20 0x2⟩, ⟨0x1E7EA, 1, .letter 0x29E6 0x20 0x2⟩,
      ⟨0x1E7EB, 1, .letter 0x29E8 0x20 0x2⟩, ⟨0x1E7ED, 1, .letter 0x292E 0x20 0x2⟩,
      ⟨0x1E7EE, 1, .letter 0x2930 0x20 0x2⟩, ⟨0x1E7F0, 1, .letter 0x2966 0x20 0x2⟩,
      ⟨0x1E7F1, 1, .letter 0x2969 0x20 0x2⟩, ⟨0x1E7F2, 1, .letter 0x296B 0x20 0x2⟩,
      ⟨0x1E7F3, 1, .letter 0x2982 0x20 0x2⟩, ⟨0x1E7F4, 1, .letter 0x2984 0x20 0x2⟩,
      ⟨0x1E7F5, 1, .letter 0x29D3 0x20 0x2⟩, ⟨0x1E7F6, 1, .letter 0x29D6 0x20 0x2⟩,
      ⟨0x1E7F7, 1, .letter 0x29D8 0x20 0x2⟩, ⟨0x1E7F8, 1, .letter 0x2A42 0x20 0x2⟩,
      ⟨0x1E7F9, 1, .letter 0x2A45 0x20 0x2⟩, ⟨0x1E7FA, 1, .letter 0x2A47 0x20 0x2⟩,
      ⟨0x1E7FB, 1, .letter 0x2A97 0x20 0x2⟩, ⟨0x1E7FC, 1, .letter 0x2A99 0x20 0x2⟩,
      ⟨0x1E7FD, 1, .letter 0x2AA5 0x20 0x2⟩, ⟨0x1E7FE, 1, .letter 0x2AA7 0x20 0x2⟩]⟩

def mendeKikakui : Chart :=
  ⟨0x1E800, 0x1E8DF,
    [⟨0x1E800, 197, .letter 0x4247 0x20 0x2⟩, ⟨0x1E8C7, 9, .letter 0x217E 0x20 0x2⟩,
      ⟨0x1E8D0, 7, .ignored⟩]⟩

def adlam : Chart :=
  ⟨0x1E900, 0x1E95F,
    [⟨0x1E900, 34, .letter 0x4347 0x20 0x8⟩, ⟨0x1E922, 34, .letter 0x4347 0x20 0x2⟩,
      ⟨0x1E944, 1, .mark 0xBD 0x2⟩, ⟨0x1E945, 1, .mark 0xBD 0x2⟩, ⟨0x1E946, 1, .mark 0xBD 0x2⟩,
      ⟨0x1E947, 3, .mark 0xBF 0x2⟩, ⟨0x1E94A, 1, .mark 0xBE 0x2⟩,
      ⟨0x1E94B, 1, .letter 0x4369 0x20 0x2⟩, ⟨0x1E950, 10, .letter 0x217D 0x20 0x2⟩,
      ⟨0x1E95E, 1, .blank 0x26F⟩, ⟨0x1E95F, 1, .blank 0x27F⟩]⟩

def africanCharts : List Chart :=
  [nko, ethiopic, ethiopicSupplement, tifinagh, ethiopicExtended, vai, bamum, ethiopicExtendedA,
    osmanya, meroiticHieroglyphs, meroiticCursive, garay, egyptianHieroglyphs,
    egyptianHieroglyphFormatControls, egyptianHieroglyphsExtendedA, bamumSupplement, bassaVah,
    medefaidrin, ethiopicExtendedB, mendeKikakui, adlam]

end CodeNotes.Collation
