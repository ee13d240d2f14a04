import CodeNotes.Collation.Weight
/-!
Collation weights of punctuation, spaces and numbers of general use.
-/
namespace CodeNotes.Collation

def generalPunctuation : Chart :=
  ⟨0x2000, 0x206F,
    [⟨0x2002, 1, .blank 0x209⟩, ⟨0x2003, 1, .blank 0x209⟩, ⟨0x2004, 1, .blank 0x209⟩,
      ⟨0x2005, 1, .blank 0x209⟩, ⟨0x2006, 1, .blank 0x209⟩, ⟨0x2007, 1, .blank 0x209⟩,
      ⟨0x2008, 1, .blank 0x209⟩, ⟨0x2009, 1, .blank 0x209⟩, ⟨0x200A, 1, .blank 0x209⟩,
      ⟨0x200B, 5, .ignored⟩, ⟨0x2010, 1, .blank 0x214⟩, ⟨0x2011, 5, .blank 0x214⟩,
      ⟨0x2016, 1, .blank 0x3B1⟩, ⟨0x2017, 1, .blank 0x20C⟩, ⟨0x2018, 1, .blank 0x337⟩,
      ⟨0x2019, 1, .blank 0x337⟩, ⟨0x201A, 1, .blank 0x337⟩, ⟨0x201B, 1, .blank 0x337⟩,
      ⟨0x201C, 1, .blank 0x33A⟩, ⟨0x201D, 1, .blank 0x33A⟩, ⟨0x201E, 1, .blank 0x33A⟩,
      ⟨0x201F, 1, .blank 0x33A⟩, ⟨0x2020, 2, .blank 0x3D0⟩, ⟨0x2022, 2, .blank 0x3D6⟩,
      ⟨0x2024, 1, .blank 0x282⟩, ⟨0x2025, 1, .spelled [0x2E, 0x2E] 0x2 0x2⟩,
      ⟨0x2026, 1, .spelled [0x2E, 0x2E, 0x2E] 0x2 0x2⟩, ⟨0x2027, 1, .blank 0x3D8⟩,
      ⟨0x2028, 2, .blank 0x207⟩, ⟨0x202A, 5, .ignored⟩, ⟨0x202F, 1, .blank 0x209⟩,
      ⟨0x2030, 1, .blank 0x3CC⟩, ⟨0x2031, 1, .blank 0x3CE⟩, ⟨0x2032, 1, .blank 0x3DC⟩,
      ⟨0x2033, 1, .spelled [0x2032, 0x2032] 0x2 0x2⟩,
      ⟨0x2034, 1, .spelled [0x2032, 0x2032, 0x2032] 0x2 0x2⟩, ⟨0x2035, 1, .blank 0x3DD⟩,
      ⟨0x2036, 1, .spelled [0x2035, 0x2035] 0x2 0x2⟩,
      ⟨0x2037, 1, .spelled [0x2035, 0x2035, 0x2035] 0x2 0x2⟩, ⟨0x2038, 1, .blank 0x3E0⟩,
      ⟨0x2039, 2, .blank 0x338⟩, ⟨0x203B, 1, .blank 0x3E1⟩,
      ⟨0x203C, 1, .spelled [0x21, 0x21] 0x2 0x2⟩, ⟨0x203D, 1, .blank 0x280⟩,
      ⟨0x203E, 1, .blank 0x20A⟩, ⟨0x203F, 1, .blank 0x3E2⟩, ⟨0x2040, 1, .blank 0x3E4⟩,
      ⟨0x2041, 2, .blank 0x3E6⟩, ⟨0x2043, 1, .blank 0x3D9⟩, ⟨0x2044, 1, .letter 0x6C6 0x20 0x2⟩,
      ⟨0x2045, 2, .blank 0x349⟩, ⟨0x2047, 1, .spelled [0x3F, 0x3F] 0x2 0x2⟩,
      ⟨0x2048, 1, .spelled [0x3F, 0x21] 0x2 0x2⟩, ⟨0x2049, 1, .spelled [0x21, 0x3F] 0x2 0x2⟩,
      ⟨0x204A, 1, .blank 0x3C7⟩, ⟨0x204B, 1, .blank 0x3BA⟩, ⟨0x204C, 2, .blank 0x3DA⟩,
      ⟨0x204E, 1, .blank 0x3BF⟩, ⟨0x204F, 1, .blank 0x23E⟩, ⟨0x2050, 1, .blank 0x3E5⟩,
      ⟨0x2051, 1, .blank 0x3C0⟩, ⟨0x2052, 1, .letter 0x6C1 0x20 0x2⟩, ⟨0x2053, 1, .blank 0x21B⟩,
      ⟨0x2054, 1, .blank 0x3E3⟩, ⟨0x2055, 2, .blank 0x318⟩,
      ⟨0x2057, 1, .spelled [0x2032, 0x2032, 0x2032, 0x2032] 0x2 0x2⟩, ⟨0x2058, 7, .blank 0x31A⟩,
      ⟨0x205F, 1, .blank 0x209⟩, ⟨0x2060, 5, .ignored⟩, ⟨0x2066, 10, .ignored⟩]⟩

def superscriptsAndSubscripts : Chart :=
  ⟨0x2070, 0x209F,
    [⟨0x2070, 1, .letter 0x217D 0x20 0x14⟩, ⟨0x2071, 1, .letter 0x23EC 0x20 0x14⟩,
      ⟨0x2074, 6, .letter 0x2181 0x20 0x14⟩, ⟨0x207A, 1, .letter 0x6B4 0x20 0x14⟩,
      ⟨0x207B, 1, .letter 0x6C0 0x20 0x14⟩, ⟨0x207C, 1, .letter 0x6BA 0x20 0x14⟩,
      ⟨0x207D, 2, .blank 0x33D⟩, ⟨0x207F, 1, .letter 0x2430 0x20 0x14⟩,
      ⟨0x2080, 10, .letter 0x217D 0x20 0x15⟩, ⟨0x208A, 1, .letter 0x6B4 0x20 0x15⟩,
      ⟨0x208B, 1, .letter 0x6C0 0x20 0x15⟩, ⟨0x208C, 1, .letter 0x6BA 0x20 0x15⟩,
      ⟨0x208D, 2, .blank 0x33D⟩, ⟨0x2090, 1, .letter 0x2380 0x20 0x15⟩,
      ⟨0x2091, 1, .letter 0x23B1 0x20 0x15⟩, ⟨0x2092, 1, .letter 0x2442 0x20 0x15⟩,
      ⟨0x2093, 1, .letter 0x24DD 0x20 0x15⟩, ⟨0x2094, 1, .letter 0x23BB 0x20 0x15⟩,
      ⟨0x2095, 1, .letter 0x23E0 0x20 0x15⟩, ⟨0x2096, 4, .like 0x6B 0x15 0x15⟩,
      ⟨0x209A, 1, .letter 0x2460 0x20 0x15⟩, ⟨0x209B, 2, .like 0x73 0x15 0x15⟩]⟩

def currencySymbols : Chart :=
  ⟨0x20A0, 0x20CF,
    [⟨0x20A0, 7, .letter 0x215D 0x20 0x2⟩,
      ⟨0x20A7, 1, .several [.letter 0x2460 0x20 0xA, .letter 0x24AA 0x20 0x4,
        .letter 0x2494 0x20 0x4]⟩,
      ⟨0x20A8, 1, .spelled [0x52, 0x73] 0x4 0xA⟩, ⟨0x20A9, 17, .letter 0x2164 0x20 0x2⟩,
      ⟨0x20BA, 7, .letter 0x2176 0x20 0x2⟩]⟩

def letterlikeSymbols : Chart :=
  ⟨0x2100, 0x214F,
    [⟨0x2100, 1, .spelled [0x61, 0x2F, 0x63] 0x4 0x4⟩,
      ⟨0x2101, 1, .spelled [0x61, 0x2F, 0x73] 0x4 0x4⟩, ⟨0x2102, 1, .letter 0x2399 0x20 0xB⟩,
      ⟨0x2103, 1, .spelled [0xB0, 0x43] 0x4 0xA⟩, ⟨0x2104, 1, .letter 0x624 0x20 0x2⟩,
      ⟨0x2105, 1, .spelled [0x63, 0x2F, 0x6F] 0x4 0x4⟩,
      ⟨0x2106, 1, .spelled [0x63, 0x2F, 0x75] 0x4 0x4⟩, ⟨0x2107, 1, .letter 0x23BD 0x20 0xA⟩,
      ⟨0x2108, 1, .letter 0x625 0x20 0x2⟩, ⟨0x2109, 1, .spelled [0xB0, 0x46] 0x4 0xA⟩,
      ⟨0x210A, 1, .letter 0x23D1 0x20 0x5⟩, ⟨0x210B, 1, .letter 0x23E0 0x20 0xB⟩,
      ⟨0x210C, 1, .letter 0x23E0 0x20 0xB⟩, ⟨0x210D, 1, .letter 0x23E0 0x20 0xB⟩,
      ⟨0x210E, 1, .letter 0x23E0 0x20 0x5⟩, ⟨0x210F, 1, .like 0x127 0x2 0x2⟩,
      ⟨0x2110, 1, .letter 0x23EC 0x20 0xB⟩, ⟨0x2111, 1, .letter 0x23EC 0x20 0xB⟩,
      ⟨0x2112, 1, .letter 0x240B 0x20 0xB⟩, ⟨0x2113, 1, .letter 0x240B 0x20 0x5⟩,
      ⟨0x2114, 1, .letter 0x626 0x20 0x2⟩, ⟨0x2115, 1, .letter 0x2430 0x20 0xB⟩,
      ⟨0x2116, 1, .spelled [0x4E, 0x6F] 0x4 0xA⟩, ⟨0x2117, 2, .letter 0x627 0x20 0x2⟩,
      ⟨0x2119, 3, .like 0x50 0xB 0xB⟩, ⟨0x211C, 1, .letter 0x2473 0x20 0xB⟩,
      ⟨0x211D, 1, .letter 0x2473 0x20 0xB⟩, ⟨0x211E, 2, .letter 0x629 0x20 0x2⟩,
      ⟨0x2120, 1, .spelled [0x53, 0x4D] 0x14 0x14⟩,
      ⟨0x2121, 1, .spelled [0x54, 0x45, 0x4C] 0xA 0xA⟩,
      ⟨0x2122, 1, .spelled [0x54, 0x4D] 0x14 0x14⟩, ⟨0x2123, 1, .letter 0x62B 0x20 0x2⟩,
      ⟨0x2124, 1, .letter 0x24ED 0x20 0xB⟩, ⟨0x2125, 1, .letter 0x62C 0x20 0x2⟩,
      ⟨0x2127, 1, .letter 0x62D 0x20 0x2⟩, ⟨0x2128, 1, .letter 0x24ED 0x20 0xB⟩,
      ⟨0x2129, 1, .letter 0x62E 0x20 0x2⟩, ⟨0x212C, 2, .like 0x42 0xB 0xB⟩,
      ⟨0x212E, 1, .letter 0x62F 0x20 0x2⟩, ⟨0x212F, 1, .letter 0x23B1 0x20 0x5⟩,
      ⟨0x2130, 2, .like 0x45 0xB 0xB⟩, ⟨0x2132, 1, .letter 0x23CF 0x20 0x8⟩,
      ⟨0x2133, 1, .letter 0x2427 0x20 0xB⟩, ⟨0x2134, 1, .letter 0x2442 0x20 0x5⟩,
      ⟨0x2135, 4, .letter 0x270D 0x20 0x4⟩, ⟨0x2139, 1, .letter 0x23EC 0x20 0x5⟩,
      ⟨0x213A, 1, .letter 0x630 0x20 0x2⟩, ⟨0x213B, 1, .spelled [0x46, 0x41, 0x58] 0xA 0xA⟩,
      ⟨0x213C, 1, .letter 0x2547 0x20 0x5⟩, ⟨0x213D, 1, .letter 0x2533 0x20 0x5⟩,
      ⟨0x213E, 1, .letter 0x2533 0x20 0xB⟩, ⟨0x213F, 1, .letter 0x2547 0x20 0xB⟩,
      ⟨0x2140, 1, .letter 0x6B3 0x20 0x5⟩, ⟨0x2141, 4, .letter 0x631 0x20 0x2⟩,
      ⟨0x2145, 1, .letter 0x23A3 0x20 0xB⟩, ⟨0x2146, 2, .like 0x64 0x5 0x5⟩,
      ⟨0x2148, 2, .like 0x69 0x5 0x5⟩, ⟨0x214A, 1, .letter 0x635 0x20 0x2⟩,
      ⟨0x214B, 1, .letter 0x751 0x20 0x2⟩, ⟨0x214C, 1, .letter 0x636 0x20 0x2⟩,
      ⟨0x214D, 1, .several [.letter 0x2380 0x20 0xA, .blank 0x3C3, .letter 0x2494 0x20 0xA]⟩,
      ⟨0x214E, 1, .letter 0x23CF 0x20 0x2⟩, ⟨0x214F, 1, .letter 0x637 0x20 0x2⟩]⟩

def numberForms : Chart :=
  ⟨0x2150, 0x218F,
    [⟨0x2150, 1, .spelled [0x31, 0x2044, 0x37] 0x1E 0x1E⟩,
      ⟨0x2151, 1, .spelled [0x31, 0x2044, 0x39] 0x1E 0x1E⟩,
      ⟨0x2152, 1, .spelled [0x31, 0x2044, 0x31, 0x30] 0x1E 0x1E⟩,
      ⟨0x2153, 1, .spelled [0x31, 0x2044, 0x33] 0x1E 0x1E⟩,
      ⟨0x2154, 1, .spelled [0x32, 0x2044, 0x33] 0x1E 0x1E⟩,
      ⟨0x2155, 1, .spelled [0x31, 0x2044, 0x35] 0x1E 0x1E⟩,
      ⟨0x2156, 1, .spelled [0x32, 0x2044, 0x35] 0x1E 0x1E⟩,
      ⟨0x2157, 1, .spelled [0x33, 0x2044, 0x35] 0x1E 0x1E⟩,
      ⟨0x2158, 1, .spelled [0x34, 0x2044, 0x35] 0x1E 0x1E⟩,
      ⟨0x2159, 1, .spelled [0x31, 0x2044, 0x36] 0x1E 0x1E⟩,
      ⟨0x215A, 1, .spelled [0x35, 0x2044, 0x36] 0x1E 0x1E⟩,
      ⟨0x215B, 1, .spelled [0x31, 0x2044, 0x38] 0x1E 0x1E⟩,
      ⟨0x215C, 1, .spelled [0x33, 0x2044, 0x38] 0x1E 0x1E⟩,
      ⟨0x215D, 1, .spelled [0x35, 0x2044, 0x38] 0x1E 0x1E⟩,
      ⟨0x215E, 1, .spelled [0x37, 0x2044, 0x38] 0x1E 0x1E⟩,
      ⟨0x215F, 1, .spelled [0x31, 0x2044] 0x1E 0x1E⟩, ⟨0x2160, 1, .letter 0x23EC 0x20 0xA⟩,
      ⟨0x2161, 1, .spelled [0x49, 0x49] 0xA 0xA⟩,
      ⟨0x2162, 1, .spelled [0x49, 0x49, 0x49] 0xA 0xA⟩,
      ⟨0x2163, 1, .spelled [0x49, 0x56] 0xA 0xA⟩, ⟨0x2164, 1, .letter 0x24D0 0x20 0xA⟩,
      ⟨0x2165, 1, .spelled [0x56, 0x49] 0xA 0xA⟩,
      ⟨0x2166, 1, .spelled [0x56, 0x49, 0x49] 0xA 0xA⟩,
      ⟨0x2167, 1, .spelled [0x56, 0x49, 0x49, 0x49] 0xA 0xA⟩,
      ⟨0x2168, 1, .spelled [0x49, 0x58] 0xA 0xA⟩, ⟨0x2169, 1, .letter 0x24DD 0x20 0xA⟩,
      ⟨0x216A, 1, .spelled [0x58, 0x49] 0xA 0xA⟩,
      ⟨0x216B, 1, .spelled [0x58, 0x49, 0x49] 0xA 0xA⟩, ⟨0x216C, 1, .letter 0x240B 0x20 0xA⟩,
      ⟨0x216D, 2, .like 0x43 0xA 0xA⟩, ⟨0x216F, 1, .letter 0x2427 0x20 0xA⟩,
      ⟨0x2170, 1, .letter 0x23EC 0x20 0x4⟩, ⟨0x2171, 1, .spelled [0x69, 0x69] 0x4 0x4⟩,
      ⟨0x2172, 1, .spelled [0x69, 0x69, 0x69] 0x4 0x4⟩,
      ⟨0x2173, 1, .spelled [0x69, 0x76] 0x4 0x4⟩, ⟨0x2174, 1, .letter 0x24D0 0x20 0x4⟩,
      ⟨0x2175, 1, .spelled [0x76, 0x69] 0x4 0x4⟩,
      ⟨0x2176, 1, .spelled [0x76, 0x69, 0x69] 0x4 0x4⟩,
      ⟨0x2177, 1, .spelled [0x76, 0x69, 0x69, 0x69] 0x4 0x4⟩,
      ⟨0x2178, 1, .spelled [0x69, 0x78] 0x4 0x4⟩, ⟨0x2179, 1, .letter 0x24DD 0x20 0x4⟩,
      ⟨0x217A, 1, .spelled [0x78, 0x69] 0x4 0x4⟩,
      ⟨0x217B, 1, .spelled [0x78, 0x69, 0x69] 0x4 0x4⟩, ⟨0x217C, 1, .letter 0x240B 0x20 0x4⟩,
      ⟨0x217D, 2, .like 0x63 0x4 0x4⟩, ⟨0x217F, 1, .letter 0x2427 0x20 0x4⟩,
      ⟨0x2180, 3, .letter 0x21CC 0x20 0x2⟩, ⟨0x2183, 2, .cased 0x23A1 0x20⟩,
      ⟨0x2185, 1, .letter 0x2183 0x20 0x2⟩, ⟨0x2186, 3, .letter 0x21CF 0x20 0x2⟩,
      ⟨0x2189, 1, .spelled [0x30, 0x2044, 0x33] 0x1E 0x1E⟩, ⟨0x218A, 2, .letter 0x638 0x20 0x2⟩]⟩

def supplementalPunctuation : Chart :=
  ⟨0x2E00, 0x2E7F,
    [⟨0x2E00, 2, .blank 0x3E8⟩, ⟨0x2E02, 4, .blank 0x381⟩, ⟨0x2E06, 3, .blank 0x3EA⟩,
      ⟨0x2E09, 2, .blank 0x385⟩, ⟨0x2E0B, 1, .blank 0x3ED⟩, ⟨0x2E0C, 2, .blank 0x387⟩,
      ⟨0x2E0E, 9, .blank 0x3EE⟩, ⟨0x2E17, 1, .blank 0x21D⟩, ⟨0x2E18, 1, .blank 0x281⟩,
      ⟨0x2E19, 1, .blank 0x328⟩, ⟨0x2E1A, 2, .blank 0x3F7⟩, ⟨0x2E1C, 2, .blank 0x389⟩,
      ⟨0x2E1E, 2, .blank 0x3F9⟩, ⟨0x2E20, 10, .blank 0x38B⟩, ⟨0x2E2A, 4, .blank 0x321⟩,
      ⟨0x2E2E, 1, .blank 0x272⟩, ⟨0x2E2F, 1, .letter 0x2619 0x20 0x2⟩, ⟨0x2E30, 1, .blank 0x28E⟩,
      ⟨0x2E31, 1, .blank 0x298⟩, ⟨0x2E32, 1, .blank 0x227⟩, ⟨0x2E33, 1, .blank 0x299⟩,
      ⟨0x2E34, 1, .blank 0x226⟩, ⟨0x2E35, 1, .blank 0x23F⟩, ⟨0x2E36, 3, .blank 0x3D2⟩,
      ⟨0x2E39, 1, .blank 0x3B8⟩, ⟨0x2E3A, 2, .blank 0x219⟩, ⟨0x2E3C, 1, .blank 0x28F⟩,
      ⟨0x2E3D, 1, .blank 0x325⟩, ⟨0x2E3E, 1, .blank 0x3B2⟩, ⟨0x2E3F, 1, .blank 0x3BC⟩,
      ⟨0x2E40, 1, .blank 0x21E⟩, ⟨0x2E41, 1, .blank 0x228⟩, ⟨0x2E42, 1, .blank 0x33A⟩,
      ⟨0x2E43, 1, .blank 0x21C⟩, ⟨0x2E44, 5, .blank 0x3FB⟩, ⟨0x2E49, 1, .blank 0x241⟩,
      ⟨0x2E4A, 1, .blank 0x3C5⟩, ⟨0x2E4B, 1, .blank 0x3D5⟩, ⟨0x2E4C, 1, .blank 0x229⟩,
      ⟨0x2E4D, 1, .blank 0x3BB⟩, ⟨0x2E4E, 2, .blank 0x22A⟩, ⟨0x2E50, 2, .letter 0xE5F 0x20 0x2⟩,
      ⟨0x2E52, 1, .blank 0x3C8⟩, ⟨0x2E53, 1, .blank 0x26B⟩, ⟨0x2E54, 1, .blank 0x273⟩,
      ⟨0x2E55, 8, .blank 0x395⟩, ⟨0x2E5D, 1, .blank 0x21F⟩]⟩

def cjkSymbolsAndPunctuation : Chart :=
  ⟨0x3000, 0x303F,
    [⟨0x3000, 1, .blank 0x209⟩, ⟨0x3001, 1, .blank 0x238⟩, ⟨0x3002, 1, .blank 0x296⟩,
      ⟨0x3003, 1, .blank 0x3DE⟩, ⟨0x3004, 1, .letter 0x211F 0x20 0x2⟩,
      ⟨0x3005, 1, .letter 0x213C 0x20 0x2⟩,
      ⟨0x3006, 1, .several [.letter 0x44DB 0x20 0x4, .letter 0x44F1 0x20 0x4]⟩,
      ⟨0x3007, 1, .letter 0x217D 0x20 0x2⟩, ⟨0x3008, 10, .blank 0x39D⟩,
      ⟨0x3012, 2, .letter 0x2120 0x20 0x2⟩, ⟨0x3014, 8, .blank 0x3A7⟩, ⟨0x301C, 1, .blank 0x220⟩,
      ⟨0x301D, 1, .blank 0x33A⟩, ⟨0x301E, 1, .blank 0x33A⟩, ⟨0x301F, 1, .blank 0x33A⟩,
      ⟨0x3020, 1, .letter 0x2122 0x20 0x2⟩, ⟨0x3021, 9, .letter 0x217E 0x20 0x2⟩,
      ⟨0x302A, 6, .mark 0x108 0x2⟩, ⟨0x3030, 1, .blank 0x221⟩,
      ⟨0x3031, 1, .letter 0x2141 0x20 0x2⟩,
      ⟨0x3032, 1, .several [.letter 0x2141 0x20 0x2, .mark 0x37 0x2]⟩,
      ⟨0x3033, 1, .letter 0x2142 0x20 0x2⟩,
      ⟨0x3034, 1, .several [.letter 0x2142 0x20 0x2, .mark 0x37 0x2]⟩,
      ⟨0x3035, 1, .letter 0x2143 0x20 0x2⟩, ⟨0x3036, 1, .letter 0x2120 0x20 0x4⟩,
      ⟨0x3037, 1, .letter 0x2123 0x20 0x2⟩, ⟨0x3038, 1, .spelled [0x5341] 0x4 0x4⟩,
      ⟨0x3039, 1, .spelled [0x5344] 0x4 0x4⟩, ⟨0x303A, 1, .spelled [0x5345] 0x4 0x4⟩,
      ⟨0x303B, 1, .letter 0x213D 0x20 0x2⟩,
      ⟨0x303C, 1, .several [.letter 0x44EE 0x20 0x4, .letter 0x44DC 0x20 0x4]⟩,
      ⟨0x303D, 1, .blank 0x3DF⟩, ⟨0x303E, 2, .letter 0x2124 0x20 0x2⟩]⟩

def verticalForms : Chart :=
  ⟨0xFE10, 0xFE1F,
    [⟨0xFE10, 1, .blank 0x225⟩, ⟨0xFE11, 2, .like 0x3001 0x2 0x8⟩,
      ⟨0xFE13, 2, .like 0x3A 0x2 0x8⟩, ⟨0xFE15, 1, .blank 0x269⟩, ⟨0xFE16, 1, .blank 0x270⟩,
      ⟨0xFE17, 2, .blank 0x3A9⟩, ⟨0xFE19, 1, .spelled [0x2E, 0x2E, 0x2E] 0x2 0x2⟩]⟩

def cjkCompatibilityForms : Chart :=
  ⟨0xFE30, 0xFE4F,
    [⟨0xFE30, 1, .spelled [0x2E, 0x2E] 0x2 0x2⟩, ⟨0xFE31, 1, .blank 0x217⟩,
      ⟨0xFE32, 1, .blank 0x216⟩, ⟨0xFE33, 1, .blank 0x20B⟩, ⟨0xFE34, 1, .blank 0x20B⟩,
      ⟨0xFE35, 2, .blank 0x33D⟩, ⟨0xFE37, 2, .blank 0x341⟩, ⟨0xFE39, 2, .blank 0x3A7⟩,
      ⟨0xFE3B, 2, .blank 0x3A5⟩, ⟨0xFE3D, 2, .blank 0x39F⟩, ⟨0xFE3F, 2, .blank 0x39D⟩,
      ⟨0xFE41, 4, .blank 0x3A1⟩, ⟨0xFE45, 2, .blank 0x239⟩, ⟨0xFE47, 2, .blank 0x33F⟩,
      ⟨0xFE49, 1, .blank 0x20A⟩, ⟨0xFE4A, 1, .blank 0x20A⟩, ⟨0xFE4B, 1, .blank 0x20A⟩,
      ⟨0xFE4C, 2, .blank 0x20A⟩, ⟨0xFE4E, 1, .blank 0x20B⟩, ⟨0xFE4F, 1, .blank 0x20B⟩]⟩

def smallFormVariants : Chart :=
  ⟨0xFE50, 0xFE6F,
    [⟨0xFE50, 1, .blank 0x225⟩, ⟨0xFE51, 1, .blank 0x238⟩, ⟨0xFE52, 1, .blank 0x282⟩,
      ⟨0xFE54, 1, .blank 0x23C⟩, ⟨0xFE55, 1, .blank 0x242⟩, ⟨0xFE56, 1, .blank 0x270⟩,
      ⟨0xFE57, 1, .blank 0x269⟩, ⟨0xFE58, 1, .blank 0x217⟩, ⟨0xFE59, 2, .blank 0x33D⟩,
      ⟨0xFE5B, 2, .blank 0x341⟩, ⟨0xFE5D, 2, .blank 0x3A7⟩, ⟨0xFE5F, 1, .blank 0x3C9⟩,
      ⟨0xFE60, 1, .blank 0x3C6⟩, ⟨0xFE61, 2, .like 0x2A 0xF 0xF⟩, ⟨0xFE63, 1, .blank 0x20D⟩,
      ⟨0xFE64, 1, .letter 0x6B9 0x20 0xF⟩, ⟨0xFE65, 1, .letter 0x6BB 0x20 0xF⟩,
      ⟨0xFE66, 1, .letter 0x6BA 0x20 0xF⟩, ⟨0xFE68, 1, .blank 0x3C4⟩,
      ⟨0xFE69, 2, .like 0x24 0xF 0xF⟩, ⟨0xFE6B, 1, .blank 0x3BD⟩]⟩

def halfwidthAndFullwidthForms : Chart :=
  ⟨0xFF00, 0xFFEF,
    [⟨0xFF01, 94, .like 0x21 0x3 0x9⟩, ⟨0xFF5F, 2, .blank 0x353⟩, ⟨0xFF61, 1, .blank 0x296⟩,
      ⟨0xFF62, 2, .blank 0x3A1⟩, ⟨0xFF64, 1, .blank 0x238⟩, ⟨0xFF65, 1, .blank 0x223⟩,
      ⟨0xFF66, 1, .letter 0x4501 0x20 0x12⟩, ⟨0xFF67, 3, .letter 0x44CF 0x20 0x10⟩,
      ⟨0xFF6A, 2, .letter 0x44D3 0x20 0x10⟩, ⟨0xFF6C, 1, .letter 0x44F3 0x20 0x10⟩,
      ⟨0xFF6D, 1, .letter 0x44F5 0x20 0x10⟩, ⟨0xFF6E, 1, .letter 0x44F7 0x20 0x10⟩,
      ⟨0xFF6F, 1, .letter 0x44E1 0x20 0x10⟩, ⟨0xFF70, 1, .letter 0x2145 0x20 0x12⟩,
      ⟨0xFF71, 3, .letter 0x44CF 0x20 0x12⟩, ⟨0xFF74, 33, .letter 0x44D3 0x20 0x12⟩,
      ⟨0xFF95, 1, .letter 0x44F5 0x20 0x12⟩, ⟨0xFF96, 7, .letter 0x44F7 0x20 0x12⟩,
      ⟨0xFF9D, 1, .letter 0x4502 0x20 0x12⟩, ⟨0xFF9E, 2, .mark 0x37 0x12⟩,
      ⟨0xFFA0, 1, .letter 0x43E7 0x20 0x12⟩, ⟨0xFFA1, 2, .letter 0x436A 0x20 0x12⟩,
      ⟨0xFFA3, 1, .letter 0x4448 0x20 0x12⟩, ⟨0xFFA4, 1, .letter 0x436C 0x20 0x12⟩,
      ⟨0xFFA5, 2, .letter 0x444A 0x20 0x12⟩, ⟨0xFFA7, 3, .letter 0x436D 0x20 0x12⟩,
      ⟨0xFFAA, 6, .letter 0x444E 0x20 0x12⟩, ⟨0xFFB0, 1, .letter 0x4384 0x20 0x12⟩,
      ⟨0xFFB1, 3, .letter 0x4370 0x20 0x12⟩, ⟨0xFFB4, 1, .letter 0x438B 0x20 0x12⟩,
      ⟨0xFFB5, 10, .letter 0x4373 0x20 0x12⟩, ⟨0xFFC2, 6, .letter 0x43E8 0x20 0x12⟩,
      ⟨0xFFCA, 6, .letter 0x43EE 0x20 0x12⟩, ⟨0xFFD2, 6, .letter 0x43F4 0x20 0x12⟩,
      ⟨0xFFDA, 3, .letter 0x43FA 0x20 0x12⟩, ⟨0xFFE0, 2, .like 0xA2 0x3 0x3⟩,
      ⟨0xFFE2, 1, .letter 0x6BC 0x20 0x3⟩, ⟨0xFFE3, 1, .letter 0x4E4 0x20 0x3⟩,
      ⟨0xFFE4, 1, .letter 0x6BE 0x20 0x3⟩, ⟨0xFFE5, 1, .letter 0x214B 0x20 0x3⟩,
      ⟨0xFFE6, 1, .letter 0x2164 0x20 0x3⟩, ⟨0xFFE8, 1, .letter 0x8BE 0x20 0x12⟩,
      ⟨0xFFE9, 4, .like 0x2190 0x12 0x12⟩, ⟨0xFFED, 1, .letter 0x95C 0x20 0x12⟩,
      ⟨0xFFEE, 1, .letter 0x987 0x20 0x12⟩]⟩

def specials : Chart :=
  ⟨0xFFF0, 0xFFFF,
    [⟨0xFFF9, 3, .ignored⟩, ⟨0xFFFC, 1, .letter 0x2129 0x20 0x2⟩,
      ⟨0xFFFD, 1, .letter 0xFFFD 0x20 0x2⟩, ⟨0xFFFE, 1, .letter 0x1 0x20 0x2⟩,
      ⟨0xFFFF, 1, .letter 0xFFFF 0x20 0x2⟩]⟩

def punctuationCharts : List Chart :=
  [generalPunctuation, superscriptsAndSubscripts, currencySymbols, letterlikeSymbols,
    numberForms, supplementalPunctuation, cjkSymbolsAndPunctuation, verticalForms,
    cjkCompatibilityForms, smallFormVariants, halfwidthAndFullwidthForms, specials]

end CodeNotes.Collation
