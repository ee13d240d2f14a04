import CodeNotes.Collation.Weight
/-!
Collation weights of the scripts of India and Sri Lanka in modern use.
-/
namespace CodeNotes.Collation

def devanagari : Chart :=
  ⟨0x900, 0x97F,
    [⟨0x900, 1, .mark 0xC3 0x2⟩, ⟨0x901, 3, .mark 0xC3 0x2⟩,
      ⟨0x904, 3, .letter 0x2AF0 0x20 0x2⟩, ⟨0x907, 5, .letter 0x2AF8 0x20 0x2⟩,
      ⟨0x90C, 1, .letter 0x2AFE 0x20 0x2⟩, ⟨0x90D, 4, .letter 0x2B00 0x20 0x2⟩,
      ⟨0x911, 7, .letter 0x2B05 0x20 0x2⟩, ⟨0x918, 5, .letter 0x2B0D 0x20 0x2⟩,
      ⟨0x91D, 4, .letter 0x2B14 0x20 0x2⟩, ⟨0x921, 1, .letter 0x2B19 0x20 0x2⟩,
      ⟨0x922, 7, .letter 0x2B1B 0x20 0x2⟩, ⟨0x92A, 3, .letter 0x2B22 0x20 0x2⟩,
      ⟨0x92D, 3, .letter 0x2B26 0x20 0x2⟩, ⟨0x930, 1, .letter 0x2B2A 0x20 0x2⟩,
      ⟨0x932, 2, .letter 0x2B2B 0x20 0x2⟩, ⟨0x935, 5, .letter 0x2B2D 0x20 0x2⟩,
      ⟨0x93A, 2, .letter 0x2B3A 0x20 0x2⟩, ⟨0x93C, 1, .mark 0xC2 0x2⟩,
      ⟨0x93D, 1, .letter 0x2B32 0x20 0x2⟩, ⟨0x93E, 1, .letter 0x2B39 0x20 0x2⟩,
      ⟨0x93F, 6, .letter 0x2B3F 0x20 0x2⟩, ⟨0x945, 1, .letter 0x2B47 0x20 0x2⟩,
      ⟨0x946, 2, .letter 0x2B49 0x20 0x2⟩, ⟨0x948, 1, .letter 0x2B4C 0x20 0x2⟩,
      ⟨0x949, 5, .letter 0x2B4E 0x20 0x2⟩, ⟨0x94E, 1, .letter 0x2B4B 0x20 0x2⟩,
      ⟨0x94F, 1, .letter 0x2B3C 0x20 0x2⟩, ⟨0x950, 1, .letter 0x2AED 0x20 0x2⟩,
      ⟨0x951, 2, .ignored⟩, ⟨0x953, 1, .mark 0x25 0x2⟩, ⟨0x954, 1, .mark 0x24 0x2⟩,
      ⟨0x955, 1, .letter 0x2B48 0x20 0x2⟩, ⟨0x956, 2, .letter 0x2B3D 0x20 0x2⟩,
      ⟨0x960, 1, .letter 0x2AFD 0x20 0x2⟩, ⟨0x961, 1, .letter 0x2AFF 0x20 0x2⟩,
      ⟨0x962, 2, .letter 0x2B45 0x20 0x2⟩, ⟨0x964, 2, .blank 0x29A⟩,
      ⟨0x966, 10, .letter 0x217D 0x20 0x2⟩, ⟨0x970, 1, .blank 0x41B⟩,
      ⟨0x971, 1, .letter 0x212C 0x20 0x2⟩, ⟨0x972, 1, .letter 0x2AEF 0x20 0x2⟩,
      ⟨0x973, 5, .letter 0x2AF3 0x20 0x2⟩, ⟨0x978, 1, .letter 0x2B18 0x20 0x2⟩,
      ⟨0x979, 1, .letter 0x2B12 0x20 0x2⟩, ⟨0x97A, 1, .letter 0x2B29 0x20 0x2⟩,
      ⟨0x97B, 1, .letter 0x2B0C 0x20 0x2⟩, ⟨0x97C, 1, .letter 0x2B13 0x20 0x2⟩,
      ⟨0x97D, 1, .letter 0x2B33 0x20 0x2⟩, ⟨0x97E, 1, .letter 0x2B1A 0x20 0x2⟩,
      ⟨0x97F, 1, .letter 0x2B25 0x20 0x2⟩]⟩

def bengali : Chart :=
  ⟨0x980, 0x9FF,
    [⟨0x980, 1, .letter 0x2B53 0x20 0x2⟩, ⟨0x981, 3, .mark 0xC3 0x2⟩,
      ⟨0x985, 7, .letter 0x2B54 0x20 0x2⟩, ⟨0x98C, 1, .letter 0x2B5C 0x20 0x2⟩,
      ⟨0x98F, 2, .letter 0x2B5E 0x20 0x2⟩, ⟨0x993, 22, .letter 0x2B60 0x20 0x2⟩,
      ⟨0x9AA, 7, .letter 0x2B76 0x20 0x2⟩, ⟨0x9B2, 1, .letter 0x2B7E 0x20 0x2⟩,
      ⟨0x9B6, 4, .letter 0x2B80 0x20 0x2⟩, ⟨0x9BC, 1, .mark 0xC2 0x2⟩,
      ⟨0x9BD, 8, .letter 0x2B84 0x20 0x2⟩, ⟨0x9C7, 2, .letter 0x2B8E 0x20 0x2⟩,
      ⟨0x9CD, 1, .letter 0x2B92 0x20 0x2⟩,
      ⟨0x9CE, 1, .several [.letter 0x2B71 0x20 0x4, .letter 0x2B92 0x20 0x4]⟩,
      ⟨0x9D7, 1, .letter 0x2B93 0x20 0x2⟩, ⟨0x9E0, 1, .letter 0x2B5B 0x20 0x2⟩,
      ⟨0x9E1, 1, .letter 0x2B5D 0x20 0x2⟩, ⟨0x9E2, 2, .letter 0x2B8C 0x20 0x2⟩,
      ⟨0x9E6, 10, .letter 0x217D 0x20 0x2⟩, ⟨0x9F0, 1, .letter 0x2B7D 0x20 0x2⟩,
      ⟨0x9F1, 1, .letter 0x2B7F 0x20 0x2⟩, ⟨0x9F2, 2, .letter 0x2150 0x20 0x2⟩,
      ⟨0x9F4, 6, .letter 0x2187 0x20 0x2⟩, ⟨0x9FA, 1, .letter 0x595 0x20 0x2⟩,
      ⟨0x9FB, 1, .letter 0x2152 0x20 0x2⟩, ⟨0x9FC, 1, .letter 0x2B94 0x20 0x2⟩,
      ⟨0x9FD, 1, .blank 0x42A⟩, ⟨0x9FE, 1, .mark 0xC6 0x2⟩]⟩

def gurmukhi : Chart :=
  ⟨0xA00, 0xA7F,
    [⟨0xA01, 3, .mark 0xC3 0x2⟩, ⟨0xA05, 2, .letter 0x2B9A 0x20 0x2⟩,
      ⟨0xA07, 2, .letter 0x2B9F 0x20 0x2⟩, ⟨0xA09, 2, .letter 0x2B97 0x20 0x2⟩,
      ⟨0xA0F, 1, .letter 0x2BA1 0x20 0x2⟩, ⟨0xA10, 1, .letter 0x2B9C 0x20 0x2⟩,
      ⟨0xA13, 1, .letter 0x2B99 0x20 0x2⟩, ⟨0xA14, 1, .letter 0x2B9D 0x20 0x2⟩,
      ⟨0xA15, 20, .letter 0x2BA5 0x20 0x2⟩, ⟨0xA2A, 6, .letter 0x2BB9 0x20 0x2⟩,
      ⟨0xA30, 1, .letter 0x2BC0 0x20 0x2⟩, ⟨0xA32, 1, .letter 0x2BC1 0x20 0x2⟩,
      ⟨0xA35, 1, .letter 0x2BC2 0x20 0x2⟩, ⟨0xA38, 2, .letter 0x2BA2 0x20 0x2⟩,
      ⟨0xA3C, 1, .mark 0xC2 0x2⟩, ⟨0xA3E, 5, .letter 0x2BC4 0x20 0x2⟩,
      ⟨0xA47, 2, .letter 0x2BC9 0x20 0x2⟩, ⟨0xA4B, 3, .letter 0x2BCB 0x20 0x2⟩,
      ⟨0xA51, 1, .letter 0x2BA4 0x20 0x2⟩, ⟨0xA5C, 1, .letter 0x2BC3 0x20 0x2⟩,
      ⟨0xA66, 10, .letter 0x217D 0x20 0x2⟩, ⟨0xA70, 2, .mark 0xC7 0x2⟩,
      ⟨0xA72, 1, .letter 0x2B9E 0x20 0x2⟩, ⟨0xA73, 1, .letter 0x2B96 0x20 0x2⟩,
      ⟨0xA74, 1, .letter 0x2B95 0x20 0x2⟩, ⟨0xA75, 1, .letter 0x2BBF 0x20 0x2⟩,
      ⟨0xA76, 1, .blank 0x42B⟩]⟩

def gujarati : Chart :=
  ⟨0xA80, 0xAFF,
    [⟨0xA81, 3, .mark 0xC3 0x2⟩, ⟨0xA85, 7, .letter 0x2BCF 0x20 0x2⟩,
      ⟨0xA8C, 1, .letter 0x2BD7 0x20 0x2⟩, ⟨0xA8D, 1, .letter 0x2BD9 0x20 0x2⟩,
      ⟨0xA8F, 3, .letter 0x2BDA 0x20 0x2⟩, ⟨0xA93, 10, .letter 0x2BDD 0x20 0x2⟩,
      ⟨0xA9D, 12, .letter 0x2BE8 0x20 0x2⟩, ⟨0xAAA, 7, .letter 0x2BF4 0x20 0x2⟩,
      ⟨0xAB2, 1, .letter 0x2BFB 0x20 0x2⟩, ⟨0xAB3, 1, .letter 0x2C01 0x20 0x2⟩,
      ⟨0xAB5, 5, .letter 0x2BFC 0x20 0x2⟩, ⟨0xABC, 1, .mark 0xC2 0x2⟩,
      ⟨0xABD, 8, .letter 0x2C02 0x20 0x2⟩, ⟨0xAC5, 1, .letter 0x2C0C 0x20 0x2⟩,
      ⟨0xAC7, 3, .letter 0x2C0D 0x20 0x2⟩, ⟨0xACB, 3, .letter 0x2C10 0x20 0x2⟩,
      ⟨0xAD0, 1, .letter 0x2BCE 0x20 0x2⟩, ⟨0xAE0, 1, .letter 0x2BD6 0x20 0x2⟩,
      ⟨0xAE1, 1, .letter 0x2BD8 0x20 0x2⟩, ⟨0xAE2, 2, .letter 0x2C0A 0x20 0x2⟩,
      ⟨0xAE6, 10, .letter 0x217D 0x20 0x2⟩, ⟨0xAF0, 1, .blank 0x42C⟩,
      ⟨0xAF1, 1, .letter 0x2153 0x20 0x2⟩, ⟨0xAF9, 1, .letter 0x2BE7 0x20 0x2⟩,
      ⟨0xAFA, 1, .mark 0x81 0x2⟩, ⟨0xAFB, 1, .mark 0x80 0x2⟩, ⟨0xAFC, 1, .mark 0x82 0x2⟩,
      ⟨0xAFD, 1, .mark 0xC2 0x2⟩, ⟨0xAFE, 1, .mark 0xC2 0x2⟩, ⟨0xAFF, 1, .mark 0xC2 0x2⟩]⟩

def oriya : Chart :=
  ⟨0xB00, 0xB7F,
    [⟨0xB01, 3, .mark 0xC3 0x2⟩, ⟨0xB05, 7, .letter 0x2C13 0x20 0x2⟩,
      ⟨0xB0C, 1, .letter 0x2C1B 0x20 0x2⟩, ⟨0xB0F, 2, .letter 0x2C1D 0x20 0x2⟩,
      ⟨0xB13, 22, .letter 0x2C1F 0x20 0x2⟩, ⟨0xB2A, 6, .letter 0x2C35 0x20 0x2⟩,
      ⟨0xB30, 1, .letter 0x2C3C 0x20 0x2⟩, ⟨0xB32, 2, .letter 0x2C3D 0x20 0x2⟩,
      ⟨0xB35, 1, .letter 0x2C3F 0x20 0x2⟩, ⟨0xB36, 4, .letter 0x2C41 0x20 0x2⟩,
      ⟨0xB3C, 1, .mark 0xC2 0x2⟩, ⟨0xB3D, 8, .letter 0x2C45 0x20 0x2⟩,
      ⟨0xB47, 1, .letter 0x2C4F 0x20 0x2⟩, ⟨0xB4D, 1, .letter 0x2C53 0x20 0x2⟩,
      ⟨0xB55, 1, .mark 0x33 0x2⟩, ⟨0xB56, 2, .letter 0x2C54 0x20 0x2⟩,
      ⟨0xB5F, 1, .letter 0x2C3B 0x20 0x2⟩, ⟨0xB60, 1, .letter 0x2C1A 0x20 0x2⟩,
      ⟨0xB61, 1, .letter 0x2C1C 0x20 0x2⟩, ⟨0xB62, 2, .letter 0x2C4D 0x20 0x2⟩,
      ⟨0xB66, 10, .letter 0x217D 0x20 0x2⟩, ⟨0xB70, 1, .letter 0x596 0x20 0x2⟩,
      ⟨0xB71, 1, .letter 0x2C40 0x20 0x2⟩, ⟨0xB72, 6, .letter 0x218D 0x20 0x2⟩]⟩

def tamil : Chart :=
  ⟨0xB80, 0xBFF,
    [⟨0xB82, 1, .mark 0xC4 0x2⟩, ⟨0xB83, 1, .letter 0x2C63 0x20 0x2⟩,
      ⟨0xB85, 6, .letter 0x2C57 0x20 0x2⟩, ⟨0xB8E, 3, .letter 0x2C5D 0x20 0x2⟩,
      ⟨0xB92, 2, .letter 0x2C60 0x20 0x2⟩, ⟨0xB95, 1, .letter 0x2C64 0x20 0x2⟩,
      ⟨0xB99, 2, .letter 0x2C65 0x20 0x2⟩, ⟨0xB9C, 1, .letter 0x2C76 0x20 0x2⟩,
      ⟨0xB9E, 2, .letter 0x2C67 0x20 0x2⟩, ⟨0xBA3, 2, .letter 0x2C69 0x20 0x2⟩,
      ⟨0xBA8, 1, .letter 0x2C6B 0x20 0x2⟩, ⟨0xBA9, 1, .letter 0x2C75 0x20 0x2⟩,
      ⟨0xBAA, 1, .letter 0x2C6C 0x20 0x2⟩, ⟨0xBAE, 3, .letter 0x2C6D 0x20 0x2⟩,
      ⟨0xBB1, 1, .letter 0x2C74 0x20 0x2⟩, ⟨0xBB2, 1, .letter 0x2C70 0x20 0x2⟩,
      ⟨0xBB3, 1, .letter 0x2C73 0x20 0x2⟩, ⟨0xBB4, 1, .letter 0x2C72 0x20 0x2⟩,
      ⟨0xBB5, 1, .letter 0x2C71 0x20 0x2⟩, ⟨0xBB6, 4, .letter 0x2C77 0x20 0x2⟩,
      ⟨0xBBE, 5, .letter 0x2C7B 0x20 0x2⟩, ⟨0xBC6, 3, .letter 0x2C80 0x20 0x2⟩,
      ⟨0xBCD, 1, .letter 0x2C86 0x20 0x2⟩, ⟨0xBD0, 1, .letter 0x2C56 0x20 0x2⟩,
      ⟨0xBD7, 1, .letter 0x2C87 0x20 0x2⟩, ⟨0xBE6, 10, .letter 0x217D 0x20 0x2⟩,
      ⟨0xBF0, 3, .letter 0x2199 0x20 0x2⟩, ⟨0xBF3, 6, .letter 0x597 0x20 0x2⟩,
      ⟨0xBF9, 1, .letter 0x2155 0x20 0x2⟩, ⟨0xBFA, 1, .letter 0x59D 0x20 0x2⟩]⟩

def telugu : Chart :=
  ⟨0xC00, 0xC7F,
    [⟨0xC00, 1, .mark 0xC3 0x2⟩, ⟨0xC01, 3, .mark 0xC3 0x2⟩, ⟨0xC04, 1, .mark 0xC4 0x2⟩,
      ⟨0xC05, 7, .letter 0x2C88 0x20 0x2⟩, ⟨0xC0C, 1, .letter 0x2C90 0x20 0x2⟩,
      ⟨0xC0E, 3, .letter 0x2C92 0x20 0x2⟩, ⟨0xC12, 9, .letter 0x2C95 0x20 0x2⟩,
      ⟨0xC1B, 2, .letter 0x2C9F 0x20 0x2⟩, ⟨0xC1D, 12, .letter 0x2CA2 0x20 0x2⟩,
      ⟨0xC2A, 9, .letter 0x2CAE 0x20 0x2⟩, ⟨0xC33, 2, .letter 0x2CBC 0x20 0x2⟩,
      ⟨0xC35, 5, .letter 0x2CB7 0x20 0x2⟩, ⟨0xC3C, 1, .mark 0xC2 0x2⟩,
      ⟨0xC3D, 8, .letter 0x2CBF 0x20 0x2⟩, ⟨0xC46, 2, .letter 0x2CC9 0x20 0x2⟩,
      ⟨0xC4A, 4, .letter 0x2CCC 0x20 0x2⟩, ⟨0xC55, 2, .letter 0x2CD0 0x20 0x2⟩,
      ⟨0xC58, 1, .letter 0x2C9E 0x20 0x2⟩, ⟨0xC59, 1, .letter 0x2CA1 0x20 0x2⟩,
      ⟨0xC5A, 1, .letter 0x2CBE 0x20 0x2⟩,
      ⟨0xC5D, 1, .several [.letter 0x2CAD 0x20 0x4, .letter 0x2CCF 0x20 0x4]⟩,
      ⟨0xC60, 1, .letter 0x2C8F 0x20 0x2⟩, ⟨0xC61, 1, .letter 0x2C91 0x20 0x2⟩,
      ⟨0xC62, 2, .letter 0x2CC7 0x20 0x2⟩, ⟨0xC66, 10, .letter 0x217D 0x20 0x2⟩,
      ⟨0xC77, 1, .blank 0x42D⟩, ⟨0xC78, 4, .letter 0x217D 0x20 0x2⟩,
      ⟨0xC7C, 3, .letter 0x217E 0x20 0x2⟩, ⟨0xC7F, 1, .letter 0x5B7 0x20 0x2⟩]⟩

def kannada : Chart :=
  ⟨0xC80, 0xCFF,
    [⟨0xC80, 1, .letter 0x2D09 0x20 0x2⟩, ⟨0xC81, 3, .mark 0xC3 0x2⟩, ⟨0xC84, 1, .blank 0x42E⟩,
      ⟨0xC85, 7, .letter 0x2CD2 0x20 0x2⟩, ⟨0xC8C, 1, .letter 0x2CDA 0x20 0x2⟩,
      ⟨0xC8E, 3, .letter 0x2CDC 0x20 0x2⟩, ⟨0xC92, 23, .letter 0x2CDF 0x20 0x2⟩,
      ⟨0xCAA, 9, .letter 0x2CF6 0x20 0x2⟩, ⟨0xCB3, 1, .letter 0x2D04 0x20 0x2⟩,
      ⟨0xCB5, 5, .letter 0x2CFF 0x20 0x2⟩, ⟨0xCBC, 1, .mark 0xC2 0x2⟩,
      ⟨0xCBD, 1, .letter 0x2D06 0x20 0x2⟩, ⟨0xCBE, 2, .letter 0x2D0A 0x20 0x2⟩,
      ⟨0xCC1, 4, .letter 0x2D0D 0x20 0x2⟩, ⟨0xCC6, 1, .letter 0x2D13 0x20 0x2⟩,
      ⟨0xCCC, 2, .letter 0x2D18 0x20 0x2⟩, ⟨0xCD5, 2, .letter 0x2D1A 0x20 0x2⟩,
      ⟨0xCDD, 1, .several [.letter 0x2CF5 0x20 0x4, .letter 0x2D19 0x20 0x4]⟩,
      ⟨0xCDE, 1, .letter 0x2D05 0x20 0x2⟩, ⟨0xCE0, 1, .letter 0x2CD9 0x20 0x2⟩,
      ⟨0xCE1, 1, .letter 0x2CDB 0x20 0x2⟩, ⟨0xCE2, 2, .letter 0x2D11 0x20 0x2⟩,
      ⟨0xCE6, 10, .letter 0x217D 0x20 0x2⟩, ⟨0xCF1, 2, .letter 0x2D07 0x20 0x2⟩,
      ⟨0xCF3, 1, .mark 0xC4 0x2⟩]⟩

def malayalam : Chart :=
  ⟨0xD00, 0xD7F,
    [⟨0xD00, 1, .mark 0xC4 0x2⟩, ⟨0xD01, 3, .mark 0xC3 0x2⟩,
      ⟨0xD04, 1, .letter 0x2D54 0x20 0x2⟩, ⟨0xD05, 4, .letter 0x2D1C 0x20 0x2⟩,
      ⟨0xD09, 3, .letter 0x2D21 0x20 0x2⟩, ⟨0xD0C, 1, .letter 0x2D25 0x20 0x2⟩,
      ⟨0xD0E, 3, .letter 0x2D27 0x20 0x2⟩, ⟨0xD12, 31, .letter 0x2D2A 0x20 0x2⟩,
      ⟨0xD31, 1, .letter 0x2D51 0x20 0x2⟩, ⟨0xD32, 1, .letter 0x2D49 0x20 0x2⟩,
      ⟨0xD33, 2, .letter 0x2D4F 0x20 0x2⟩, ⟨0xD35, 5, .letter 0x2D4A 0x20 0x2⟩,
      ⟨0xD3A, 1, .letter 0x2D52 0x20 0x2⟩, ⟨0xD3B, 1, .letter 0x2D65 0x20 0x4⟩,
      ⟨0xD3C, 1, .letter 0x2D65 0x20 0x4⟩, ⟨0xD3D, 1, .letter 0x2D53 0x20 0x2⟩,
      ⟨0xD3E, 7, .letter 0x2D55 0x20 0x2⟩, ⟨0xD46, 3, .letter 0x2D5E 0x20 0x2⟩,
      ⟨0xD4D, 1, .letter 0x2D65 0x20 0x2⟩,
      ⟨0xD4E, 1, .several [.letter 0x2D48 0x20 0x4, .letter 0x2D65 0x20 0x4]⟩,
      ⟨0xD4F, 1, .letter 0x5B8 0x20 0x2⟩,
      ⟨0xD54, 1, .several [.letter 0x2D46 0x20 0x4, .letter 0x2D65 0x20 0x4]⟩,
      ⟨0xD55, 1, .several [.letter 0x2D47 0x20 0x4, .letter 0x2D65 0x20 0x4]⟩,
      ⟨0xD56, 1, .several [.letter 0x2D50 0x20 0x4, .letter 0x2D65 0x20 0x4]⟩,
      ⟨0xD57, 1, .letter 0x2D64 0x20 0x2⟩, ⟨0xD58, 7, .letter 0x21B1 0x20 0x2⟩,
      ⟨0xD5F, 1, .letter 0x2D20 0x20 0x2⟩, ⟨0xD60, 1, .letter 0x2D24 0x20 0x2⟩,
      ⟨0xD61, 1, .letter 0x2D26 0x20 0x2⟩, ⟨0xD62, 2, .letter 0x2D5C 0x20 0x2⟩,
      ⟨0xD66, 10, .letter 0x217D 0x20 0x2⟩, ⟨0xD70, 9, .letter 0x21B8 0x20 0x2⟩,
      ⟨0xD79, 1, .letter 0x5B9 0x20 0x2⟩,
      ⟨0xD7A, 1, .several [.letter 0x2D3B 0x20 0x4, .letter 0x2D65 0x20 0x4]⟩,
      ⟨0xD7B, 1, .several [.letter 0x2D40 0x20 0x4, .letter 0x2D65 0x20 0x4]⟩,
      ⟨0xD7C, 1, .several [.letter 0x2D48 0x20 0x4, .letter 0x2D65 0x20 0x4]⟩,
      ⟨0xD7D, 1, .several [.letter 0x2D49 0x20 0x4, .letter 0x2D65 0x20 0x4]⟩,
      ⟨0xD7E, 1, .several [.letter 0x2D4F 0x20 0x4, .letter 0x2D65 0x20 0x4]⟩,
      ⟨0xD7F, 1, .several [.letter 0x2D2D 0x20 0x4, .letter 0x2D65 0x20 0x4]⟩]⟩

def sinhala : Chart :=
  ⟨0xD80, 0xDFF,
    [⟨0xD81, 3, .mark 0xC3 0x2⟩, ⟨0xD85, 18, .letter 0x2D66 0x20 0x2⟩,
      ⟨0xD9A, 24, .letter 0x2D78 0x20 0x2⟩, ⟨0xDB3, 9, .letter 0x2D90 0x20 0x2⟩,
      ⟨0xDBD, 1, .letter 0x2D99 0x20 0x2⟩, ⟨0xDC0, 7, .letter 0x2D9A 0x20 0x2⟩,
      ⟨0xDCA, 1, .letter 0x2DB2 0x20 0x2⟩, ⟨0xDCF, 6, .letter 0x2DA1 0x20 0x2⟩,
      ⟨0xDD6, 1, .letter 0x2DA7 0x20 0x2⟩, ⟨0xDD8, 1, .letter 0x2DA8 0x20 0x2⟩,
      ⟨0xDD9, 1, .letter 0x2DAC 0x20 0x2⟩, ⟨0xDDB, 1, .letter 0x2DAE 0x20 0x2⟩,
      ⟨0xDDF, 1, .letter 0x2DAA 0x20 0x2⟩, ⟨0xDE6, 10, .letter 0x217D 0x20 0x2⟩,
      ⟨0xDF2, 1, .letter 0x2DA9 0x20 0x2⟩, ⟨0xDF3, 1, .letter 0x2DAB 0x20 0x2⟩,
      ⟨0xDF4, 1, .blank 0x42F⟩]⟩

def limbu : Chart :=
  ⟨0x1900, 0x194F,
    [⟨0x1900, 29, .letter 0x35C0 0x20 0x2⟩,
      ⟨0x191D, 1, .several [.letter 0x35C8 0x20 0x4, .letter 0x35E6 0x20 0x4]⟩,
      ⟨0x191E, 1, .several [.letter 0x35CB 0x20 0x4, .letter 0x35E7 0x20 0x4]⟩,
      ⟨0x1920, 12, .letter 0x35DD 0x20 0x2⟩, ⟨0x1930, 9, .letter 0x35E9 0x20 0x2⟩,
      ⟨0x1939, 3, .mark 0xF6 0x2⟩, ⟨0x1940, 1, .letter 0x5E6 0x20 0x2⟩,
      ⟨0x1944, 1, .blank 0x26E⟩, ⟨0x1945, 1, .blank 0x278⟩, ⟨0x1946, 10, .letter 0x217D 0x20 0x2⟩]⟩

def lepcha : Chart :=
  ⟨0x1C00, 0x1C4F,
    [⟨0x1C00, 10, .letter 0x3552 0x20 0x2⟩, ⟨0x1C0A, 17, .letter 0x355F 0x20 0x2⟩,
      ⟨0x1C1B, 1, .letter 0x3571 0x20 0x2⟩, ⟨0x1C1C, 8, .letter 0x3573 0x20 0x2⟩,
      ⟨0x1C24, 1, .letter 0x3570 0x20 0x2⟩, ⟨0x1C25, 1, .letter 0x3572 0x20 0x2⟩,
      ⟨0x1C26, 16, .letter 0x357C 0x20 0x2⟩, ⟨0x1C36, 1, .letter 0x357B 0x20 0x2⟩,
      ⟨0x1C37, 1, .mark 0xC2 0x2⟩, ⟨0x1C3B, 2, .blank 0x29E⟩, ⟨0x1C3D, 3, .blank 0x45D⟩,
      ⟨0x1C40, 10, .letter 0x217D 0x20 0x2⟩, ⟨0x1C4D, 3, .letter 0x355C 0x20 0x2⟩]⟩

def olChiki : Chart :=
  ⟨0x1C50, 0x1C7F,
    [⟨0x1C50, 10, .letter 0x217D 0x20 0x2⟩, ⟨0x1C5A, 36, .letter 0x3A65 0x20 0x2⟩,
      ⟨0x1C7E, 2, .blank 0x2D7⟩]⟩

def vedicExtensions : Chart :=
  ⟨0x1CD0, 0x1CFF,
    [⟨0x1CD0, 25, .ignored⟩, ⟨0x1CE9, 1, .letter 0x2B34 0x20 0x2⟩,
      ⟨0x1CEA, 1, .letter 0x2B34 0x20 0x4⟩, ⟨0x1CEB, 1, .letter 0x2B34 0x20 0x4⟩,
      ⟨0x1CEC, 1, .letter 0x2B34 0x20 0x4⟩, ⟨0x1CED, 1, .mark 0xC4 0x2⟩,
      ⟨0x1CEE, 1, .letter 0x2B34 0x20 0x4⟩, ⟨0x1CEF, 1, .letter 0x2B34 0x20 0x4⟩,
      ⟨0x1CF0, 1, .letter 0x2B34 0x20 0x4⟩, ⟨0x1CF1, 1, .letter 0x2B34 0x20 0x4⟩,
      ⟨0x1CF2, 1, .mark 0xC5 0x2⟩, ⟨0x1CF3, 1, .mark 0xC5 0x2⟩, ⟨0x1CF4, 1, .ignored⟩,
      ⟨0x1CF5, 2, .letter 0x2B35 0x20 0x2⟩, ⟨0x1CF7, 3, .ignored⟩,
      ⟨0x1CFA, 1, .letter 0x2B34 0x20 0x4⟩]⟩

def sylotiNagri : Chart :=
  ⟨0xA800, 0xA82F,
    [⟨0xA800, 7, .letter 0x2DF2 0x20 0x2⟩, ⟨0xA807, 4, .letter 0x2DFA 0x20 0x2⟩,
      ⟨0xA80B, 1, .mark 0xC4 0x2⟩, ⟨0xA80C, 28, .letter 0x2DFE 0x20 0x2⟩,
      ⟨0xA828, 4, .letter 0x5BA 0x20 0x2⟩, ⟨0xA82C, 1, .letter 0x2DF9 0x20 0x2⟩]⟩

def commonIndicNumberForms : Chart :=
  ⟨0xA830, 0xA83F,
    [⟨0xA830, 6, .letter 0x2193 0x20 0x2⟩, ⟨0xA836, 2, .letter 0x5BE 0x20 0x2⟩,
      ⟨0xA838, 1, .letter 0x2154 0x20 0x2⟩, ⟨0xA839, 1, .letter 0x5C0 0x20 0x2⟩]⟩

def saurashtra : Chart :=
  ⟨0xA880, 0xA8DF,
    [⟨0xA880, 2, .mark 0xC4 0x2⟩, ⟨0xA882, 67, .letter 0x2E1A 0x20 0x2⟩,
      ⟨0xA8C5, 1, .mark 0xC3 0x2⟩, ⟨0xA8CE, 2, .blank 0x29C⟩,
      ⟨0xA8D0, 10, .letter 0x217D 0x20 0x2⟩]⟩

def devanagariExtended : Chart :=
  ⟨0xA8E0, 0xA8FF,
    [⟨0xA8E0, 18, .ignored⟩, ⟨0xA8F2, 1, .letter 0x2B37 0x20 0x2⟩,
      ⟨0xA8F3, 1, .letter 0x2B37 0x20 0x4⟩, ⟨0xA8F4, 1, .letter 0x2B37 0x20 0x4⟩,
      ⟨0xA8F5, 1, .letter 0x2B37 0x20 0x4⟩, ⟨0xA8F6, 1, .letter 0x2B37 0x20 0x4⟩,
      ⟨0xA8F7, 1, .letter 0x2B37 0x20 0x4⟩, ⟨0xA8F8, 3, .blank 0x41C⟩,
      ⟨0xA8FB, 1, .letter 0x2B38 0x20 0x2⟩, ⟨0xA8FC, 1, .blank 0x41F⟩,
      ⟨0xA8FD, 1, .letter 0x2AEE 0x20 0x2⟩, ⟨0xA8FE, 1, .letter 0x2B04 0x20 0x2⟩,
      ⟨0xA8FF, 1, .letter 0x2B4D 0x20 0x2⟩]⟩

def meeteiMayekExtensions : Chart :=
  ⟨0xAAE0, 0xAAFF,
    [⟨0xAAE0, 11, .letter 0x2DCF 0x20 0x2⟩, ⟨0xAAEB, 5, .letter 0x2DE2 0x20 0x2⟩,
      ⟨0xAAF0, 1, .blank 0x2B6⟩, ⟨0xAAF1, 1, .blank 0x27D⟩, ⟨0xAAF2, 1, .letter 0x2DB3 0x20 0x2⟩,
      ⟨0xAAF3, 2, .letter 0x2135 0x20 0x2⟩, ⟨0xAAF5, 1, .letter 0x2DE7 0x20 0x2⟩,
      ⟨0xAAF6, 1, .letter 0x2DF1 0x20 0x2⟩]⟩

def meeteiMayek : Chart :=
  ⟨0xABC0, 0xABFF,
    [⟨0xABC0, 27, .letter 0x2DB4 0x20 0x2⟩, ⟨0xABDB, 8, .letter 0x2DE8 0x20 0x2⟩,
      ⟨0xABE3, 8, .letter 0x2DDA 0x20 0x2⟩, ⟨0xABEB, 1, .blank 0x2B7⟩,
      ⟨0xABEC, 1, .mark 0xCC 0x2⟩, ⟨0xABED, 1, .letter 0x2DF0 0x20 0x2⟩,
      ⟨0xABF0, 10, .letter 0x217D 0x20 0x2⟩]⟩

def soraSompeng : Chart :=
  ⟨0x110D0, 0x110FF,
    [⟨0x110D0, 25, .letter 0x4F4D 0x20 0x2⟩, ⟨0x110F0, 10, .letter 0x217D 0x20 0x2⟩]⟩

def chakma : Chart :=
  ⟨0x11100, 0x1114F,
    [⟨0x11100, 3, .mark 0xC3 0x2⟩, ⟨0x11103, 33, .letter 0x37AE 0x20 0x2⟩,
      ⟨0x11124, 3, .letter 0x37D0 0x20 0x2⟩, ⟨0x11127, 7, .letter 0x37D4 0x20 0x2⟩,
      ⟨0x11130, 3, .letter 0x37DD 0x20 0x2⟩, ⟨0x11133, 2, .letter 0x37E2 0x20 0x2⟩,
      ⟨0x11136, 10, .letter 0x217D 0x20 0x2⟩, ⟨0x11140, 1, .blank 0x304⟩,
      ⟨0x11141, 2, .blank 0x2BE⟩, ⟨0x11143, 1, .blank 0x27E⟩,
      ⟨0x11144, 1, .letter 0x37D3 0x20 0x2⟩, ⟨0x11145, 2, .letter 0x37E0 0x20 0x2⟩,
      ⟨0x11147, 1, .letter 0x37CF 0x20 0x2⟩]⟩

def warangCiti : Chart :=
  ⟨0x118A0, 0x118FF,
    [⟨0x118A0, 32, .letter 0x4BA7 0x20 0x8⟩, ⟨0x118C0, 32, .letter 0x4BA7 0x20 0x2⟩,
      ⟨0x118E0, 10, .letter 0x217D 0x20 0x2⟩, ⟨0x118EA, 9, .letter 0x22A8 0x20 0x2⟩,
      ⟨0x118FF, 1, .letter 0x4BA6 0x20 0x2⟩]⟩

def devanagariExtendedA : Chart := ⟨0x11B00, 0x11B5F, [⟨0x11B00, 10, .blank 0x420⟩]⟩

def sunuwar : Chart :=
  ⟨0x11BC0, 0x11BFF,
    [⟨0x11BC0, 33, .letter 0x4FD4 0x20 0x2⟩, ⟨0x11BE1, 1, .blank 0x4CF⟩,
      ⟨0x11BF0, 10, .letter 0x217D 0x20 0x2⟩]⟩

def masaramGondi : Chart :=
  ⟨0x11D00, 0x11D5F,
    [⟨0x11D00, 7, .letter 0x3232 0x20 0x2⟩, ⟨0x11D08, 2, .letter 0x3239 0x20 0x2⟩,
      ⟨0x11D0B, 44, .letter 0x323B 0x20 0x2⟩, ⟨0x11D3A, 1, .letter 0x3267 0x20 0x2⟩,
      ⟨0x11D3C, 2, .letter 0x3268 0x20 0x2⟩, ⟨0x11D3F, 1, .letter 0x326A 0x20 0x2⟩,
      ⟨0x11D40, 2, .mark 0xC4 0x2⟩, ⟨0x11D42, 2, .mark 0xC2 0x2⟩,
      ⟨0x11D44, 2, .letter 0x326B 0x20 0x2⟩, ⟨0x11D46, 1, .letter 0x3256 0x20 0x17⟩,
      ⟨0x11D47, 1, .letter 0x3256 0x20 0x19⟩, ⟨0x11D50, 10, .letter 0x217D 0x20 0x2⟩]⟩

def gunjalaGondi : Chart :=
  ⟨0x11D60, 0x11DAF,
    [⟨0x11D60, 6, .letter 0x326E 0x20 0x2⟩, ⟨0x11D67, 2, .letter 0x3274 0x20 0x2⟩,
      ⟨0x11D6A, 37, .letter 0x3276 0x20 0x2⟩, ⟨0x11D90, 2, .letter 0x329B 0x20 0x2⟩,
      ⟨0x11D93, 2, .letter 0x329D 0x20 0x2⟩, ⟨0x11D95, 2, .mark 0xC4 0x2⟩,
      ⟨0x11D97, 1, .letter 0x329F 0x20 0x2⟩, ⟨0x11D98, 1, .letter 0x326D 0x20 0x2⟩,
      ⟨0x11DA0, 10, .letter 0x217D 0x20 0x2⟩]⟩

def gurungKhema : Chart :=
  ⟨0x16100, 0x1613F,
    [⟨0x16100, 33, .letter 0x4FF5 0x20 0x2⟩, ⟨0x16129, 4, .letter 0x501E 0x20 0x2⟩,
      ⟨0x1612D, 1, .mark 0xC4 0x2⟩, ⟨0x1612E, 2, .letter 0x5022 0x20 0x2⟩,
      ⟨0x16130, 10, .letter 0x217D 0x20 0x2⟩]⟩

def mro : Chart :=
  ⟨0x16A40, 0x16A6F,
    [⟨0x16A40, 31, .letter 0x4F66 0x20 0x2⟩, ⟨0x16A60, 10, .letter 0x217D 0x20 0x2⟩,
      ⟨0x16A6E, 2, .blank 0x2D3⟩]⟩

def tangsa : Chart :=
  ⟨0x16A70, 0x16ACF,
    [⟨0x16A70, 79, .letter 0x4F85 0x20 0x2⟩, ⟨0x16AC0, 10, .letter 0x217D 0x20 0x2⟩]⟩

def kiratRai : Chart :=
  ⟨0x16D40, 0x16D7F,
    [⟨0x16D40, 40, .letter 0x5024 0x20 0x2⟩, ⟨0x16D6B, 2, .letter 0x504F 0x20 0x2⟩,
      ⟨0x16D6D, 1, .blank 0x4D7⟩, ⟨0x16D6E, 2, .blank 0x2D5⟩,
      ⟨0x16D70, 10, .letter 0x217D 0x20 0x2⟩]⟩

def toto : Chart :=
  ⟨0x1E290, 0x1E2BF,
    [⟨0x1E290, 30, .letter 0x4C8D 0x20 0x2⟩, ⟨0x1E2AE, 1, .mark 0x33 0x2⟩]⟩

def wancho : Chart :=
  ⟨0x1E2C0, 0x1E2FF,
    [⟨0x1E2C0, 44, .letter 0x4CAB 0x20 0x2⟩, ⟨0x1E2EC, 4, .mark 0x100 0x2⟩,
      ⟨0x1E2F0, 10, .letter 0x217D 0x20 0x2⟩, ⟨0x1E2FF, 1, .letter 0x215C 0x20 0x2⟩]⟩

def nagMundari : Chart :=
  ⟨0x1E4D0, 0x1E4FF,
    [⟨0x1E4D0, 28, .letter 0x4CD7 0x20 0x2⟩, ⟨0x1E4EC, 4, .mark 0x104 0x2⟩,
      ⟨0x1E4F0, 10, .letter 0x217D 0x20 0x2⟩]⟩

def olOnal : Chart :=
  ⟨0x1E5D0, 0x1E5FF,
    [⟨0x1E5D0, 30, .letter 0x3A89 0x20 0x2⟩, ⟨0x1E5EE, 2, .mark 0x33 0x2⟩,
      ⟨0x1E5F0, 1, .letter 0x3AA7 0x20 0x2⟩, ⟨0x1E5F1, 10, .letter 0x217D 0x20 0x2⟩,
      ⟨0x1E5FF, 1, .blank 0x4DF⟩]⟩

def indicCharts : List Chart :=
  [devanagari, bengali, gurmukhi, gujarati, oriya, tamil, telugu, kannada, malayalam, sinhala,
    limbu, lepcha, olChiki, vedicExtensions, sylotiNagri, commonIndicNumberForms, saurashtra,
    devanagariExtended, meeteiMayekExtensions, meeteiMayek, soraSompeng, chakma, warangCiti,
    devanagariExtendedA, sunuwar, masaramGondi, gunjalaGondi, gurungKhema, mro, tangsa, kiratRai,
    toto, wancho, nagMundari, olOnal]

end CodeNotes.Collation
