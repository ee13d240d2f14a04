import CodeNotes.Collation.Weight
/-!
Collation weights of the combining marks of general use.
-/
namespace CodeNotes.Collation

def combiningDiacriticalMarks : Chart :=
  ⟨0x300, 0x36F,
    [⟨0x300, 1, .mark 0x25 0x2⟩, ⟨0x301, 1, .mark 0x24 0x2⟩, ⟨0x302, 1, .mark 0x27 0x2⟩,
      ⟨0x303, 1, .mark 0x2D 0x2⟩, ⟨0x304, 1, .mark 0x32 0x2⟩, ⟨0x305, 1, .mark 0x3A 0x2⟩,
      ⟨0x306, 1, .mark 0x26 0x2⟩, ⟨0x307, 1, .mark 0x2E 0x2⟩, ⟨0x308, 1, .mark 0x2B 0x2⟩,
      ⟨0x309, 1, .mark 0x3B 0x2⟩, ⟨0x30A, 1, .mark 0x29 0x2⟩, ⟨0x30B, 1, .mark 0x2C 0x2⟩,
      ⟨0x30C, 1, .mark 0x28 0x2⟩, ⟨0x30D, 1, .mark 0x33 0x2⟩, ⟨0x30E, 1, .mark 0x33 0x2⟩,
      ⟨0x30F, 3, .mark 0x3C 0x2⟩, ⟨0x312, 1, .mark 0x33 0x2⟩, ⟨0x313, 2, .mark 0x22 0x2⟩,
      ⟨0x315, 2, .mark 0x33 0x2⟩, ⟨0x317, 1, .mark 0x34 0x2⟩, ⟨0x318, 1, .mark 0x34 0x2⟩,
      ⟨0x319, 1, .mark 0x34 0x2⟩, ⟨0x31A, 1, .mark 0x33 0x2⟩, ⟨0x31B, 1, .mark 0x3F 0x2⟩,
      ⟨0x31C, 1, .mark 0x34 0x2⟩, ⟨0x31D, 1, .mark 0x34 0x2⟩, ⟨0x31E, 1, .mark 0x34 0x2⟩,
      ⟨0x31F, 1, .mark 0x34 0x2⟩, ⟨0x320, 1, .mark 0x34 0x2⟩, ⟨0x321, 6, .mark 0x40 0x2⟩,
      ⟨0x327, 2, .mark 0x30 0x2⟩, ⟨0x329, 1, .mark 0x34 0x2⟩, ⟨0x32A, 1, .mark 0x34 0x2⟩,
      ⟨0x32B, 1, .mark 0x34 0x2⟩, ⟨0x32C, 1, .mark 0x34 0x2⟩, ⟨0x32D, 2, .mark 0x46 0x2⟩,
      ⟨0x32F, 1, .mark 0x34 0x2⟩, ⟨0x330, 2, .mark 0x48 0x2⟩, ⟨0x332, 1, .mark 0x21 0x2⟩,
      ⟨0x333, 1, .mark 0x34 0x2⟩, ⟨0x334, 1, .mark 0x4A 0x2⟩, ⟨0x335, 1, .mark 0x39 0x2⟩,
      ⟨0x336, 1, .mark 0x35 0x2⟩, ⟨0x337, 1, .mark 0x35 0x2⟩, ⟨0x338, 1, .mark 0x2F 0x2⟩,
      ⟨0x339, 1, .mark 0x4B 0x2⟩, ⟨0x33A, 1, .mark 0x34 0x2⟩, ⟨0x33B, 1, .mark 0x34 0x2⟩,
      ⟨0x33C, 1, .mark 0x34 0x2⟩, ⟨0x33D, 1, .mark 0x33 0x2⟩, ⟨0x33E, 1, .mark 0x33 0x2⟩,
      ⟨0x33F, 1, .mark 0x33 0x2⟩, ⟨0x342, 1, .mark 0x2A 0x2⟩, ⟨0x345, 1, .mark 0x4C 0x2⟩,
      ⟨0x346, 2, .mark 0x33 0x2⟩, ⟨0x348, 1, .mark 0x34 0x2⟩, ⟨0x349, 1, .mark 0x34 0x2⟩,
      ⟨0x34A, 1, .mark 0x33 0x2⟩, ⟨0x34B, 1, .mark 0x33 0x2⟩, ⟨0x34C, 2, .mark 0x33 0x2⟩,
      ⟨0x34E, 1, .mark 0x34 0x2⟩, ⟨0x34F, 1, .ignored⟩, ⟨0x350, 1, .mark 0x33 0x2⟩,
      ⟨0x351, 1, .mark 0x33 0x2⟩, ⟨0x352, 2, .mark 0x33 0x2⟩, ⟨0x354, 1, .mark 0x34 0x2⟩,
      ⟨0x355, 1, .mark 0x34 0x2⟩, ⟨0x356, 1, .mark 0x34 0x2⟩, ⟨0x357, 1, .mark 0x33 0x2⟩,
      ⟨0x358, 1, .mark 0x4D 0x2⟩, ⟨0x359, 1, .mark 0x34 0x2⟩, ⟨0x35A, 1, .mark 0x34 0x2⟩,
      ⟨0x35B, 2, .mark 0x33 0x2⟩, ⟨0x35D, 1, .mark 0x33 0x2⟩, ⟨0x35E, 2, .mark 0x33 0x2⟩,
      ⟨0x360, 2, .mark 0x4E 0x2⟩, ⟨0x362, 1, .mark 0x34 0x2⟩,
      ⟨0x363, 1, .letter 0x2380 0x20 0x4⟩, ⟨0x364, 1, .letter 0x23B1 0x20 0x4⟩,
      ⟨0x365, 1, .letter 0x23EC 0x20 0x4⟩, ⟨0x366, 1, .letter 0x2442 0x20 0x4⟩,
      ⟨0x367, 1, .letter 0x24B8 0x20 0x4⟩, ⟨0x368, 1, .letter 0x2399 0x20 0x4⟩,
      ⟨0x369, 1, .letter 0x23A3 0x20 0x4⟩, ⟨0x36A, 1, .letter 0x23E0 0x20 0x4⟩,
      ⟨0x36B, 1, .letter 0x2427 0x20 0x4⟩, ⟨0x36C, 1, .letter 0x2473 0x20 0x4⟩,
      ⟨0x36D, 1, .letter 0x24AA 0x20 0x4⟩, ⟨0x36E, 1, .letter 0x24D0 0x20 0x4⟩,
      ⟨0x36F, 1, .letter 0x24DD 0x20 0x4⟩]⟩

def combiningDiacriticalMarksExtended : Chart :=
  ⟨0x1AB0, 0x1AFF,
    [⟨0x1AB0, 1, .mark 0x33 0x2⟩, ⟨0x1AB1, 1, .mark 0x33 0x2⟩, ⟨0x1AB2, 1, .mark 0x33 0x2⟩,
      ⟨0x1AB3, 1, .mark 0x33 0x2⟩, ⟨0x1AB4, 2, .mark 0x33 0x2⟩, ⟨0x1AB6, 1, .mark 0x34 0x2⟩,
      ⟨0x1AB7, 1, .mark 0x34 0x2⟩, ⟨0x1AB8, 1, .mark 0x34 0x2⟩, ⟨0x1AB9, 1, .mark 0x34 0x2⟩,
      ⟨0x1ABA, 1, .mark 0x34 0x2⟩, ⟨0x1ABB, 1, .mark 0x33 0x2⟩, ⟨0x1ABC, 2, .mark 0x33 0x2⟩,
      ⟨0x1ABE, 1, .mark 0x36 0x2⟩, ⟨0x1ABF, 1, .letter 0x24D9 0x20 0x4⟩,
      ⟨0x1AC0, 1, .letter 0x24DC 0x20 0x4⟩, ⟨0x1AC1, 1, .mark 0x33 0x2⟩,
      ⟨0x1AC2, 2, .mark 0x33 0x2⟩, ⟨0x1AC4, 1, .mark 0x34 0x2⟩, ⟨0x1AC5, 1, .mark 0x33 0x2⟩,
      ⟨0x1AC6, 1, .mark 0x33 0x2⟩, ⟨0x1AC7, 1, .mark 0x33 0x2⟩, ⟨0x1AC8, 1, .mark 0x33 0x2⟩,
      ⟨0x1AC9, 2, .mark 0x33 0x2⟩, ⟨0x1ACB, 1, .mark 0x33 0x2⟩,
      ⟨0x1ACC, 1, .several [.letter 0x23D1 0x20 0x4, .mark 0x11E 0x4]⟩,
      ⟨0x1ACD, 1, .several [.letter 0x2473 0x20 0x4, .mark 0x11E 0x4]⟩,
      ⟨0x1ACE, 1, .several [.letter 0x24AA 0x20 0x4, .mark 0x124 0x4]⟩]⟩

def combiningDiacriticalMarksSupplement : Chart :=
  ⟨0x1DC0, 0x1DFF,
    [⟨0x1DC0, 1, .mark 0x33 0x2⟩, ⟨0x1DC1, 2, .mark 0x33 0x2⟩, ⟨0x1DC3, 1, .mark 0x33 0x2⟩,
      ⟨0x1DC4, 1, .mark 0x33 0x2⟩, ⟨0x1DC5, 1, .mark 0x33 0x2⟩, ⟨0x1DC6, 1, .mark 0x33 0x2⟩,
      ⟨0x1DC7, 1, .mark 0x33 0x2⟩, ⟨0x1DC8, 1, .mark 0x33 0x2⟩, ⟨0x1DC9, 1, .mark 0x33 0x2⟩,
      ⟨0x1DCA, 1, .letter 0x2473 0x20 0x4⟩, ⟨0x1DCB, 1, .mark 0x33 0x2⟩,
      ⟨0x1DCC, 1, .mark 0x33 0x2⟩, ⟨0x1DCD, 1, .mark 0x33 0x2⟩, ⟨0x1DCE, 2, .mark 0x33 0x2⟩,
      ⟨0x1DD0, 1, .mark 0x34 0x2⟩, ⟨0x1DD1, 1, .mark 0x33 0x2⟩,
      ⟨0x1DD2, 1, .letter 0x250B 0x20 0x4⟩,
      ⟨0x1DD3, 1, .several [.letter 0x2380 0x20 0x4, .mark 0x11E 0x4]⟩,
      ⟨0x1DD4, 1, .several [.letter 0x2380 0x20 0x4, .mark 0x11E 0x4, .letter 0x23B1 0x20 0x4]⟩,
      ⟨0x1DD5, 1, .several [.letter 0x2380 0x20 0x4, .letter 0x2442 0x20 0x4]⟩,
      ⟨0x1DD6, 1, .several [.letter 0x2380 0x20 0x4, .letter 0x24D0 0x20 0x4]⟩,
      ⟨0x1DD7, 1, .several [.letter 0x2399 0x20 0x4, .mark 0x30 0x4]⟩,
      ⟨0x1DD8, 1, .several [.letter 0x23A3 0x20 0x4, .mark 0x124 0x4]⟩,
      ⟨0x1DD9, 1, .several [.letter 0x23A3 0x20 0x4, .mark 0x11E 0x4]⟩,
      ⟨0x1DDA, 1, .letter 0x23D1 0x20 0x4⟩, ⟨0x1DDB, 1, .letter 0x23D6 0x20 0x4⟩,
      ⟨0x1DDC, 1, .letter 0x2400 0x20 0x4⟩, ⟨0x1DDD, 2, .letter 0x240B 0x20 0x4⟩,
      ⟨0x1DDF, 1, .letter 0x2428 0x20 0x4⟩, ⟨0x1DE0, 2, .letter 0x2430 0x20 0x4⟩,
      ⟨0x1DE2, 1, .letter 0x2475 0x20 0x4⟩,
      ⟨0x1DE3, 1, .several [.letter 0x2473 0x20 0x4, .mark 0x124 0x4]⟩,
      ⟨0x1DE4, 1, .letter 0x2494 0x20 0x4⟩,
      ⟨0x1DE5, 1, .several [.letter 0x2494 0x20 0x4, .mark 0x121 0x4]⟩,
      ⟨0x1DE6, 1, .letter 0x24ED 0x20 0x4⟩, ⟨0x1DE7, 1, .letter 0x2389 0x20 0x4⟩,
      ⟨0x1DE8, 1, .letter 0x238E 0x20 0x4⟩, ⟨0x1DE9, 1, .letter 0x2398 0x20 0x4⟩,
      ⟨0x1DEA, 1, .letter 0x23BB 0x20 0x4⟩, ⟨0x1DEB, 1, .letter 0x23C8 0x20 0x4⟩,
      ⟨0x1DEC, 1, .letter 0x2413 0x20 0x4⟩,
      ⟨0x1DED, 1, .several [.letter 0x2442 0x20 0x4, .mark 0x34 0x4]⟩,
      ⟨0x1DEE, 1, .letter 0x2460 0x20 0x4⟩, ⟨0x1DEF, 1, .letter 0x24A1 0x20 0x4⟩,
      ⟨0x1DF0, 1, .several [.letter 0x24B8 0x20 0x4, .mark 0x34 0x4]⟩,
      ⟨0x1DF1, 1, .letter 0x24D9 0x20 0x4⟩,
      ⟨0x1DF2, 1, .several [.letter 0x2380 0x20 0x4, .mark 0x2B 0x4]⟩,
      ⟨0x1DF3, 1, .several [.letter 0x2442 0x20 0x4, .mark 0x2B 0x4]⟩,
      ⟨0x1DF4, 1, .several [.letter 0x24B8 0x20 0x4, .mark 0x2B 0x4]⟩,
      ⟨0x1DF5, 1, .mark 0x33 0x2⟩, ⟨0x1DF6, 1, .mark 0x33 0x2⟩, ⟨0x1DF7, 1, .mark 0x33 0x2⟩,
      ⟨0x1DF8, 2, .mark 0x33 0x2⟩, ⟨0x1DFA, 1, .mark 0x34 0x2⟩, ⟨0x1DFB, 2, .mark 0x33 0x2⟩,
      ⟨0x1DFD, 1, .mark 0x34 0x2⟩, ⟨0x1DFE, 2, .mark 0x33 0x2⟩]⟩

def combiningDiacriticalMarksForSymbols : Chart :=
  ⟨0x20D0, 0x20FF,
    [⟨0x20D0, 3, .mark 0x110 0x2⟩, ⟨0x20D3, 5, .mark 0x112 0x2⟩, ⟨0x20D8, 1, .mark 0x35 0x2⟩,
      ⟨0x20D9, 1, .mark 0x35 0x2⟩, ⟨0x20DA, 1, .mark 0x35 0x2⟩, ⟨0x20DB, 2, .mark 0x117 0x2⟩,
      ⟨0x20DD, 1, .mark 0x36 0x2⟩, ⟨0x20DE, 1, .mark 0x36 0x2⟩, ⟨0x20DF, 1, .mark 0x36 0x2⟩,
      ⟨0x20E0, 1, .mark 0x36 0x2⟩, ⟨0x20E1, 1, .mark 0x119 0x2⟩, ⟨0x20E2, 1, .mark 0x36 0x2⟩,
      ⟨0x20E3, 1, .mark 0x36 0x2⟩, ⟨0x20E4, 1, .mark 0x36 0x2⟩, ⟨0x20E5, 1, .mark 0x35 0x2⟩,
      ⟨0x20E6, 4, .mark 0x11A 0x2⟩, ⟨0x20EA, 1, .mark 0x35 0x2⟩, ⟨0x20EB, 1, .mark 0x35 0x2⟩,
      ⟨0x20EC, 1, .mark 0x34 0x2⟩, ⟨0x20ED, 1, .mark 0x34 0x2⟩, ⟨0x20EE, 1, .mark 0x34 0x2⟩,
      ⟨0x20EF, 1, .mark 0x34 0x2⟩, ⟨0x20F0, 1, .mark 0x33 0x2⟩]⟩

def variationSelectors : Chart := ⟨0xFE00, 0xFE0F, [⟨0xFE00, 16, .ignored⟩]⟩

def combiningHalfMarks : Chart :=
  ⟨0xFE20, 0xFE2F,
    [⟨0xFE20, 1, .mark 0x4F 0x2⟩, ⟨0xFE21, 1, .ignored⟩, ⟨0xFE22, 1, .mark 0x4E 0x2⟩,
      ⟨0xFE23, 4, .ignored⟩, ⟨0xFE27, 1, .mark 0x34 0x2⟩, ⟨0xFE28, 1, .ignored⟩,
      ⟨0xFE29, 1, .mark 0x4E 0x2⟩, ⟨0xFE2A, 4, .ignored⟩, ⟨0xFE2E, 1, .mark 0x50 0x2⟩,
      ⟨0xFE2F, 1, .ignored⟩]⟩

def tags : Chart := ⟨0xE0000, 0xE007F, [⟨0xE0001, 1, .ignored⟩, ⟨0xE0020, 96, .ignored⟩]⟩

def variationSelectorsSupplement : Chart := ⟨0xE0100, 0xE01EF, [⟨0xE0100, 240, .ignored⟩]⟩

def marksCharts : List Chart :=
  [combiningDiacriticalMarks, combiningDiacriticalMarksExtended,
    combiningDiacriticalMarksSupplement, combiningDiacriticalMarksForSymbols, variationSelectors,
    combiningHalfMarks, tags, variationSelectorsSupplement]

end CodeNotes.Collation
