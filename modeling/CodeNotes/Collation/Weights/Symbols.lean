import CodeNotes.Collation.Weight
/-!
Collation weights of symbols and pictures.
-/
namespace CodeNotes.Collation

def arrows : Chart :=
  ⟨0x2190, 0x21FF,
    [⟨0x2190, 1, .letter 0x63A 0x20 0x2⟩, ⟨0x2191, 1, .letter 0x63C 0x20 0x2⟩,
      ⟨0x2192, 1, .letter 0x63B 0x20 0x2⟩, ⟨0x2193, 7, .letter 0x63D 0x20 0x2⟩,
      ⟨0x219C, 18, .letter 0x644 0x20 0x2⟩, ⟨0x21AF, 30, .letter 0x656 0x20 0x2⟩,
      ⟨0x21D0, 48, .letter 0x674 0x20 0x2⟩]⟩

def mathematicalOperators : Chart :=
  ⟨0x2200, 0x22FF,
    [⟨0x2200, 4, .letter 0x6A4 0x20 0x2⟩, ⟨0x2205, 4, .letter 0x6A8 0x20 0x2⟩,
      ⟨0x220A, 2, .letter 0x6AC 0x20 0x2⟩, ⟨0x220D, 1, .letter 0x6AE 0x20 0x2⟩,
      ⟨0x220E, 4, .letter 0x6B0 0x20 0x2⟩, ⟨0x2212, 1, .letter 0x6C0 0x20 0x2⟩,
      ⟨0x2213, 3, .letter 0x6C3 0x20 0x2⟩, ⟨0x2216, 6, .letter 0x6C7 0x20 0x2⟩,
      ⟨0x221C, 1, .letter 0x6CE 0x20 0x2⟩, ⟨0x221D, 7, .letter 0x6D0 0x20 0x2⟩,
      ⟨0x2225, 1, .letter 0x6D7 0x20 0x2⟩, ⟨0x2227, 5, .letter 0x6D8 0x20 0x2⟩,
      ⟨0x222C, 1, .spelled [0x222B, 0x222B] 0x4 0x4⟩,
      ⟨0x222D, 1, .spelled [0x222B, 0x222B, 0x222B] 0x4 0x4⟩,
      ⟨0x222E, 1, .letter 0x6DD 0x20 0x2⟩, ⟨0x222F, 1, .spelled [0x222E, 0x222E] 0x4 0x4⟩,
      ⟨0x2230, 1, .spelled [0x222E, 0x222E, 0x222E] 0x4 0x4⟩,
      ⟨0x2231, 16, .letter 0x6DE 0x20 0x2⟩, ⟨0x2242, 2, .letter 0x6EE 0x20 0x2⟩,
      ⟨0x2245, 2, .letter 0x6F0 0x20 0x2⟩, ⟨0x2248, 1, .letter 0x6F2 0x20 0x2⟩,
      ⟨0x224A, 22, .letter 0x6F3 0x20 0x2⟩, ⟨0x2261, 1, .letter 0x709 0x20 0x2⟩,
      ⟨0x2263, 10, .letter 0x70A 0x20 0x2⟩, ⟨0x2272, 2, .letter 0x714 0x20 0x2⟩,
      ⟨0x2276, 2, .letter 0x716 0x20 0x2⟩, ⟨0x227A, 6, .letter 0x718 0x20 0x2⟩,
      ⟨0x2282, 2, .letter 0x71E 0x20 0x2⟩, ⟨0x2286, 2, .letter 0x720 0x20 0x2⟩,
      ⟨0x228A, 34, .letter 0x722 0x20 0x2⟩, ⟨0x22B0, 13, .letter 0x744 0x20 0x2⟩,
      ⟨0x22BD, 35, .letter 0x752 0x20 0x2⟩, ⟨0x22E4, 6, .letter 0x775 0x20 0x2⟩,
      ⟨0x22EE, 18, .letter 0x77B 0x20 0x2⟩]⟩

def miscellaneousTechnical : Chart :=
  ⟨0x2300, 0x23FF,
    [⟨0x2300, 8, .letter 0x78D 0x20 0x2⟩, ⟨0x2308, 4, .blank 0x34B⟩,
      ⟨0x230C, 29, .letter 0x795 0x20 0x2⟩, ⟨0x232B, 213, .letter 0x7B2 0x20 0x2⟩]⟩

def controlPictures : Chart := ⟨0x2400, 0x243F, [⟨0x2400, 42, .letter 0x887 0x20 0x2⟩]⟩

def opticalCharacterRecognition : Chart :=
  ⟨0x2440, 0x245F,
    [⟨0x2440, 11, .letter 0x8B1 0x20 0x2⟩]⟩

def boxDrawing : Chart := ⟨0x2500, 0x257F, [⟨0x2500, 128, .letter 0x8BC 0x20 0x2⟩]⟩

def blockElements : Chart := ⟨0x2580, 0x259F, [⟨0x2580, 32, .letter 0x93C 0x20 0x2⟩]⟩

def geometricShapes : Chart := ⟨0x25A0, 0x25FF, [⟨0x25A0, 96, .letter 0x95C 0x20 0x2⟩]⟩

def miscellaneousSymbols : Chart :=
  ⟨0x2600, 0x26FF,
    [⟨0x2600, 48, .letter 0xD35 0x20 0x2⟩, ⟨0x2630, 8, .letter 0x12F0 0x20 0x2⟩,
      ⟨0x2638, 53, .letter 0xD65 0x20 0x2⟩, ⟨0x266D, 3, .letter 0x15B7 0x20 0x2⟩,
      ⟨0x2670, 26, .letter 0xD9A 0x20 0x2⟩, ⟨0x268A, 6, .letter 0x12EA 0x20 0x2⟩,
      ⟨0x2690, 112, .letter 0xDB4 0x20 0x2⟩]⟩

def dingbats : Chart :=
  ⟨0x2700, 0x27BF,
    [⟨0x2700, 33, .letter 0xE3E 0x20 0x2⟩, ⟨0x2721, 71, .letter 0xE61 0x20 0x2⟩,
      ⟨0x2768, 14, .blank 0x373⟩, ⟨0x2776, 9, .letter 0x217E 0x20 0x6⟩,
      ⟨0x277F, 1, .several [.letter 0x217E 0x20 0x6, .letter 0x217D 0x20 0x6]⟩,
      ⟨0x2780, 9, .letter 0x217E 0x20 0x6⟩,
      ⟨0x2789, 1, .several [.letter 0x217E 0x20 0x6, .letter 0x217D 0x20 0x6]⟩,
      ⟨0x278A, 9, .letter 0x217E 0x20 0x6⟩,
      ⟨0x2793, 1, .several [.letter 0x217E 0x20 0x6, .letter 0x217D 0x20 0x6]⟩,
      ⟨0x2794, 44, .letter 0xEA8 0x20 0x2⟩]⟩

def miscellaneousMathematicalSymbolsA : Chart :=
  ⟨0x27C0, 0x27EF,
    [⟨0x27C0, 5, .letter 0xED4 0x20 0x2⟩, ⟨0x27C5, 2, .blank 0x367⟩,
      ⟨0x27C7, 31, .letter 0xED9 0x20 0x2⟩, ⟨0x27E6, 10, .blank 0x369⟩]⟩

def supplementalArrowsA : Chart := ⟨0x27F0, 0x27FF, [⟨0x27F0, 16, .letter 0xEF8 0x20 0x2⟩]⟩

def braillePatterns : Chart := ⟨0x2800, 0x28FF, [⟨0x2800, 256, .letter 0x11EA 0x20 0x2⟩]⟩

def supplementalArrowsB : Chart := ⟨0x2900, 0x297F, [⟨0x2900, 128, .letter 0xF08 0x20 0x2⟩]⟩

def miscellaneousMathematicalSymbolsB : Chart :=
  ⟨0x2980, 0x29FF,
    [⟨0x2980, 3, .letter 0xF88 0x20 0x2⟩, ⟨0x2983, 22, .blank 0x351⟩,
      ⟨0x2999, 63, .letter 0xF8B 0x20 0x2⟩, ⟨0x29D8, 4, .blank 0x3B3⟩,
      ⟨0x29DC, 32, .letter 0xFCA 0x20 0x2⟩, ⟨0x29FC, 2, .blank 0x34F⟩,
      ⟨0x29FE, 2, .letter 0xFEA 0x20 0x2⟩]⟩

def supplementalMathematicalOperators : Chart :=
  ⟨0x2A00, 0x2AFF,
    [⟨0x2A00, 12, .letter 0xFEC 0x20 0x2⟩,
      ⟨0x2A0C, 1, .spelled [0x222B, 0x222B, 0x222B, 0x222B] 0x4 0x4⟩,
      ⟨0x2A0D, 103, .letter 0xFF8 0x20 0x2⟩, ⟨0x2A74, 1, .spelled [0x3A, 0x3A, 0x3D] 0x4 0x4⟩,
      ⟨0x2A75, 1, .spelled [0x3D, 0x3D] 0x4 0x4⟩,
      ⟨0x2A76, 1, .spelled [0x3D, 0x3D, 0x3D] 0x4 0x4⟩, ⟨0x2A77, 101, .letter 0x105F 0x20 0x2⟩,
      ⟨0x2ADD, 35, .letter 0x10C4 0x20 0x2⟩]⟩

def miscellaneousSymbolsAndArrows : Chart :=
  ⟨0x2B00, 0x2BFF,
    [⟨0x2B00, 116, .letter 0x10E7 0x20 0x2⟩, ⟨0x2B76, 32, .letter 0x115B 0x20 0x2⟩,
      ⟨0x2B97, 105, .letter 0x117B 0x20 0x2⟩]⟩

def yijingHexagramSymbols : Chart := ⟨0x4DC0, 0x4DFF, [⟨0x4DC0, 64, .letter 0x12F8 0x20 0x2⟩]⟩

def symbolsForLegacyComputingSupplement : Chart :=
  ⟨0x1CC00, 0x1CEBF,
    [⟨0x1CC00, 214, .letter 0x9BC 0x20 0x2⟩, ⟨0x1CCD6, 26, .like 0x41 0xB 0xB⟩,
      ⟨0x1CCF0, 10, .letter 0x217D 0x20 0x5⟩, ⟨0x1CD00, 436, .letter 0xA92 0x20 0x2⟩]⟩

def znamennyMusic : Chart :=
  ⟨0x1CF00, 0x1CFCF,
    [⟨0x1CF00, 46, .ignored⟩, ⟨0x1CF30, 23, .ignored⟩, ⟨0x1CF50, 116, .letter 0x1426 0x20 0x2⟩]⟩

def byzantineMusicalSymbols : Chart :=
  ⟨0x1D000, 0x1D0FF,
    [⟨0x1D000, 246, .letter 0x149A 0x20 0x2⟩]⟩

def musicalSymbols : Chart :=
  ⟨0x1D100, 0x1D1FF,
    [⟨0x1D100, 39, .letter 0x1590 0x20 0x2⟩, ⟨0x1D129, 1, .letter 0x15CA 0x20 0x2⟩,
      ⟨0x1D12A, 16, .letter 0x15BA 0x20 0x2⟩, ⟨0x1D13A, 36, .letter 0x15CB 0x20 0x2⟩,
      ⟨0x1D165, 5, .ignored⟩, ⟨0x1D16A, 3, .letter 0x15EF 0x20 0x2⟩, ⟨0x1D16D, 22, .ignored⟩,
      ⟨0x1D183, 2, .letter 0x15F2 0x20 0x2⟩, ⟨0x1D185, 7, .ignored⟩,
      ⟨0x1D18C, 30, .letter 0x15F4 0x20 0x2⟩, ⟨0x1D1AA, 4, .ignored⟩,
      ⟨0x1D1AE, 13, .letter 0x1612 0x20 0x2⟩, ⟨0x1D1C1, 42, .letter 0x161F 0x20 0x2⟩]⟩

def ancientGreekMusic : Chart :=
  ⟨0x1D200, 0x1D24F,
    [⟨0x1D200, 66, .letter 0x1649 0x20 0x2⟩, ⟨0x1D242, 3, .ignored⟩,
      ⟨0x1D245, 1, .letter 0x168B 0x20 0x2⟩]⟩

def kaktovikNumerals : Chart :=
  ⟨0x1D2C0, 0x1D2DF,
    [⟨0x1D2C0, 10, .letter 0x217D 0x20 0x2⟩, ⟨0x1D2CA, 10, .letter 0x22C2 0x20 0x2⟩]⟩

def mayanNumerals : Chart :=
  ⟨0x1D2E0, 0x1D2FF,
    [⟨0x1D2E0, 10, .letter 0x217D 0x20 0x2⟩, ⟨0x1D2EA, 10, .letter 0x22CC 0x20 0x2⟩]⟩

def taiXuanJingSymbols : Chart := ⟨0x1D300, 0x1D35F, [⟨0x1D300, 87, .letter 0x1338 0x20 0x2⟩]⟩

def countingRodNumerals : Chart :=
  ⟨0x1D360, 0x1D37F,
    [⟨0x1D360, 9, .letter 0x217E 0x20 0x2⟩, ⟨0x1D369, 9, .letter 0x2377 0x20 0x2⟩,
      ⟨0x1D372, 5, .letter 0x217E 0x20 0x2⟩, ⟨0x1D377, 1, .letter 0x217E 0x20 0x2⟩,
      ⟨0x1D378, 1, .letter 0x2182 0x20 0x2⟩]⟩

def suttonSignWriting : Chart :=
  ⟨0x1D800, 0x1DAAF,
    [⟨0x1D800, 512, .letter 0x1ECC 0x20 0x2⟩, ⟨0x1DA00, 55, .ignored⟩,
      ⟨0x1DA37, 4, .letter 0x20CC 0x20 0x2⟩, ⟨0x1DA3B, 50, .ignored⟩,
      ⟨0x1DA6D, 8, .letter 0x20D0 0x20 0x2⟩, ⟨0x1DA75, 1, .ignored⟩,
      ⟨0x1DA76, 14, .letter 0x20D8 0x20 0x2⟩, ⟨0x1DA84, 1, .ignored⟩,
      ⟨0x1DA85, 2, .letter 0x20E6 0x20 0x2⟩, ⟨0x1DA87, 5, .blank 0x4DA⟩, ⟨0x1DA9B, 5, .ignored⟩,
      ⟨0x1DAA1, 15, .ignored⟩]⟩

def mahjongTiles : Chart := ⟨0x1F000, 0x1F02F, [⟨0x1F000, 44, .letter 0x168F 0x20 0x2⟩]⟩

def dominoTiles : Chart := ⟨0x1F030, 0x1F09F, [⟨0x1F030, 100, .letter 0x16BB 0x20 0x2⟩]⟩

def playingCards : Chart :=
  ⟨0x1F0A0, 0x1F0FF,
    [⟨0x1F0A0, 15, .letter 0x171F 0x20 0x2⟩, ⟨0x1F0B1, 15, .letter 0x172E 0x20 0x2⟩,
      ⟨0x1F0C1, 15, .letter 0x173D 0x20 0x2⟩, ⟨0x1F0D1, 37, .letter 0x174C 0x20 0x2⟩]⟩

def miscellaneousSymbolsAndPictographs : Chart :=
  ⟨0x1F300, 0x1F5FF,
    [⟨0x1F300, 768, .letter 0x17DF 0x20 0x2⟩]⟩

def emoticons : Chart := ⟨0x1F600, 0x1F64F, [⟨0x1F600, 80, .letter 0x1C51 0x20 0x2⟩]⟩

def ornamentalDingbats : Chart := ⟨0x1F650, 0x1F67F, [⟨0x1F650, 48, .letter 0x1CA1 0x20 0x2⟩]⟩

def transportAndMapSymbols : Chart :=
  ⟨0x1F680, 0x1F6FF,
    [⟨0x1F680, 88, .letter 0x1CD1 0x20 0x2⟩, ⟨0x1F6DC, 17, .letter 0x1D29 0x20 0x2⟩,
      ⟨0x1F6F0, 13, .letter 0x1D3A 0x20 0x2⟩]⟩

def alchemicalSymbols : Chart :=
  ⟨0x1F700, 0x1F77F,
    [⟨0x1F700, 119, .letter 0x1D47 0x20 0x2⟩, ⟨0x1F77B, 5, .letter 0x1DBE 0x20 0x2⟩]⟩

def geometricShapesExtended : Chart :=
  ⟨0x1F780, 0x1F7FF,
    [⟨0x1F780, 90, .letter 0x1DC3 0x20 0x2⟩, ⟨0x1F7E0, 12, .letter 0x1E1D 0x20 0x2⟩,
      ⟨0x1F7F0, 1, .letter 0x1E29 0x20 0x2⟩]⟩

def supplementalArrowsC : Chart :=
  ⟨0x1F800, 0x1F8FF,
    [⟨0x1F800, 12, .letter 0x1E2A 0x20 0x2⟩, ⟨0x1F810, 56, .letter 0x1E36 0x20 0x2⟩,
      ⟨0x1F850, 10, .letter 0x1E6E 0x20 0x2⟩, ⟨0x1F860, 40, .letter 0x1E78 0x20 0x2⟩,
      ⟨0x1F890, 30, .letter 0x1EA0 0x20 0x2⟩, ⟨0x1F8B0, 12, .letter 0x1EBE 0x20 0x2⟩,
      ⟨0x1F8C0, 2, .letter 0x1ECA 0x20 0x2⟩]⟩

def supplementalSymbolsAndPictographs : Chart :=
  ⟨0x1F900, 0x1F9FF,
    [⟨0x1F900, 256, .letter 0x1ADF 0x20 0x2⟩]⟩

def chessSymbols : Chart :=
  ⟨0x1FA00, 0x1FA6F,
    [⟨0x1FA00, 84, .letter 0x1771 0x20 0x2⟩, ⟨0x1FA60, 14, .letter 0x17C5 0x20 0x2⟩]⟩

def symbolsAndPictographsExtendedA : Chart :=
  ⟨0x1FA70, 0x1FAFF,
    [⟨0x1FA70, 13, .letter 0x1BDF 0x20 0x2⟩, ⟨0x1FA80, 10, .letter 0x1BEC 0x20 0x2⟩,
      ⟨0x1FA8F, 56, .letter 0x1BF6 0x20 0x2⟩, ⟨0x1FACE, 15, .letter 0x1C2E 0x20 0x2⟩,
      ⟨0x1FADF, 11, .letter 0x1C3D 0x20 0x2⟩, ⟨0x1FAF0, 9, .letter 0x1C48 0x20 0x2⟩]⟩

def symbolsForLegacyComputing : Chart :=
  ⟨0x1FB00, 0x1FBFF,
    [⟨0x1FB00, 147, .letter 0xC46 0x20 0x2⟩, ⟨0x1FB94, 92, .letter 0xCD9 0x20 0x2⟩,
      ⟨0x1FBF0, 10, .letter 0x217D 0x20 0x5⟩]⟩

def symbolsCharts : List Chart :=
  [arrows, mathematicalOperators, miscellaneousTechnical, controlPictures,
    opticalCharacterRecognition, boxDrawing, blockElements, geometricShapes,
    miscellaneousSymbols, dingbats, miscellaneousMathematicalSymbolsA, supplementalArrowsA,
    braillePatterns, supplementalArrowsB, miscellaneousMathematicalSymbolsB,
    supplementalMathematicalOperators, miscellaneousSymbolsAndArrows, yijingHexagramSymbols,
    symbolsForLegacyComputingSupplement, znamennyMusic, byzantineMusicalSymbols, musicalSymbols,
    ancientGreekMusic, kaktovikNumerals, mayanNumerals, taiXuanJingSymbols, countingRodNumerals,
    suttonSignWriting, mahjongTiles, dominoTiles, playingCards,
    miscellaneousSymbolsAndPictographs, emoticons, ornamentalDingbats, transportAndMapSymbols,
    alchemicalSymbols, geometricShapesExtended, supplementalArrowsC,
    supplementalSymbolsAndPictographs, chessSymbols, symbolsAndPictographsExtendedA,
    symbolsForLegacyComputing]

end CodeNotes.Collation
