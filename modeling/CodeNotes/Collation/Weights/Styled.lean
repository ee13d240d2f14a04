import CodeNotes.Collation.Weight
/-!
Collation weights of letters and digits in circles, in brackets, and in the styles of mathematics.
-/
namespace CodeNotes.Collation

def enclosedAlphanumerics : Chart :=
  ⟨0x2460, 0x24FF,
    [⟨0x2460, 9, .letter 0x217E 0x20 0x6⟩, ⟨0x2469, 1, .spelled [0x31, 0x30] 0x6 0x6⟩,
      ⟨0x246A, 1, .spelled [0x31, 0x31] 0x6 0x6⟩, ⟨0x246B, 1, .spelled [0x31, 0x32] 0x6 0x6⟩,
      ⟨0x246C, 1, .spelled [0x31, 0x33] 0x6 0x6⟩, ⟨0x246D, 1, .spelled [0x31, 0x34] 0x6 0x6⟩,
      ⟨0x246E, 1, .spelled [0x31, 0x35] 0x6 0x6⟩, ⟨0x246F, 1, .spelled [0x31, 0x36] 0x6 0x6⟩,
      ⟨0x2470, 1, .spelled [0x31, 0x37] 0x6 0x6⟩, ⟨0x2471, 1, .spelled [0x31, 0x38] 0x6 0x6⟩,
      ⟨0x2472, 1, .spelled [0x31, 0x39] 0x6 0x6⟩, ⟨0x2473, 1, .spelled [0x32, 0x30] 0x6 0x6⟩,
      ⟨0x2474, 1, .spelled [0x28, 0x31, 0x29] 0x4 0x4⟩,
      ⟨0x2475, 1, .spelled [0x28, 0x32, 0x29] 0x4 0x4⟩,
      ⟨0x2476, 1, .spelled [0x28, 0x33, 0x29] 0x4 0x4⟩,
      ⟨0x2477, 1, .spelled [0x28, 0x34, 0x29] 0x4 0x4⟩,
      ⟨0x2478, 1, .spelled [0x28, 0x35, 0x29] 0x4 0x4⟩,
      ⟨0x2479, 1, .spelled [0x28, 0x36, 0x29] 0x4 0x4⟩,
      ⟨0x247A, 1, .spelled [0x28, 0x37, 0x29] 0x4 0x4⟩,
      ⟨0x247B, 1, .spelled [0x28, 0x38, 0x29] 0x4 0x4⟩,
      ⟨0x247C, 1, .spelled [0x28, 0x39, 0x29] 0x4 0x4⟩,
      ⟨0x247D, 1, .spelled [0x28, 0x31, 0x30, 0x29] 0x4 0x4⟩,
      ⟨0x247E, 1, .spelled [0x28, 0x31, 0x31, 0x29] 0x4 0x4⟩,
      ⟨0x247F, 1, .spelled [0x28, 0x31, 0x32, 0x29] 0x4 0x4⟩,
      ⟨0x2480, 1, .spelled [0x28, 0x31, 0x33, 0x29] 0x4 0x4⟩,
      ⟨0x2481, 1, .spelled [0x28, 0x31, 0x34, 0x29] 0x4 0x4⟩,
      ⟨0x2482, 1, .spelled [0x28, 0x31, 0x35, 0x29] 0x4 0x4⟩,
      ⟨0x2483, 1, .spelled [0x28, 0x31, 0x36, 0x29] 0x4 0x4⟩,
      ⟨0x2484, 1, .spelled [0x28, 0x31, 0x37, 0x29] 0x4 0x4⟩,
      ⟨0x2485, 1, .spelled [0x28, 0x31, 0x38, 0x29] 0x4 0x4⟩,
      ⟨0x2486, 1, .spelled [0x28, 0x31, 0x39, 0x29] 0x4 0x4⟩,
      ⟨0x2487, 1, .spelled [0x28, 0x32, 0x30, 0x29] 0x4 0x4⟩,
      ⟨0x2488, 1, .spelled [0x31, 0x2E] 0x4 0x4⟩, ⟨0x2489, 1, .spelled [0x32, 0x2E] 0x4 0x4⟩,
      ⟨0x248A, 1, .spelled [0x33, 0x2E] 0x4 0x4⟩, ⟨0x248B, 1, .spelled [0x34, 0x2E] 0x4 0x4⟩,
      ⟨0x248C, 1, .spelled [0x35, 0x2E] 0x4 0x4⟩, ⟨0x248D, 1, .spelled [0x36, 0x2E] 0x4 0x4⟩,
      ⟨0x248E, 1, .spelled [0x37, 0x2E] 0x4 0x4⟩, ⟨0x248F, 1, .spelled [0x38, 0x2E] 0x4 0x4⟩,
      ⟨0x2490, 1, .spelled [0x39, 0x2E] 0x4 0x4⟩,
      ⟨0x2491, 1, .spelled [0x31, 0x30, 0x2E] 0x4 0x4⟩,
      ⟨0x2492, 1, .spelled [0x31, 0x31, 0x2E] 0x4 0x4⟩,
      ⟨0x2493, 1, .spelled [0x31, 0x32, 0x2E] 0x4 0x4⟩,
      ⟨0x2494, 1, .spelled [0x31, 0x33, 0x2E] 0x4 0x4⟩,
      ⟨0x2495, 1, .spelled [0x31, 0x34, 0x2E] 0x4 0x4⟩,
      ⟨0x2496, 1, .spelled [0x31, 0x35, 0x2E] 0x4 0x4⟩,
      ⟨0x2497, 1, .spelled [0x31, 0x36, 0x2E] 0x4 0x4⟩,
      ⟨0x2498, 1, .spelled [0x31, 0x37, 0x2E] 0x4 0x4⟩,
      ⟨0x2499, 1, .spelled [0x31, 0x38, 0x2E] 0x4 0x4⟩,
      ⟨0x249A, 1, .spelled [0x31, 0x39, 0x2E] 0x4 0x4⟩,
      ⟨0x249B, 1, .spelled [0x32, 0x30, 0x2E] 0x4 0x4⟩,
      ⟨0x249C, 1, .spelled [0x28, 0x61, 0x29] 0x4 0x4⟩,
      ⟨0x249D, 1, .spelled [0x28, 0x62, 0x29] 0x4 0x4⟩,
      ⟨0x249E, 1, .spelled [0x28, 0x63, 0x29] 0x4 0x4⟩,
      ⟨0x249F, 1, .spelled [0x28, 0x64, 0x29] 0x4 0x4⟩,
      ⟨0x24A0, 1, .spelled [0x28, 0x65, 0x29] 0x4 0x4⟩,
      ⟨0x24A1, 1, .spelled [0x28, 0x66, 0x29] 0x4 0x4⟩,
      ⟨0x24A2, 1, .spelled [0x28, 0x67, 0x29] 0x4 0x4⟩,
      ⟨0x24A3, 1, .spelled [0x28, 0x68, 0x29] 0x4 0x4⟩,
      ⟨0x24A4, 1, .spelled [0x28, 0x69, 0x29] 0x4 0x4⟩,
      ⟨0x24A5, 1, .spelled [0x28, 0x6A, 0x29] 0x4 0x4⟩,
      ⟨0x24A6, 1, .spelled [0x28, 0x6B, 0x29] 0x4 0x4⟩,
      ⟨0x24A7, 1, .spelled [0x28, 0x6C, 0x29] 0x4 0x4⟩,
      ⟨0x24A8, 1, .spelled [0x28, 0x6D, 0x29] 0x4 0x4⟩,
      ⟨0x24A9, 1, .spelled [0x28, 0x6E, 0x29] 0x4 0x4⟩,
      ⟨0x24AA, 1, .spelled [0x28, 0x6F, 0x29] 0x4 0x4⟩,
      ⟨0x24AB, 1, .spelled [0x28, 0x70, 0x29] 0x4 0x4⟩,
      ⟨0x24AC, 1, .spelled [0x28, 0x71, 0x29] 0x4 0x4⟩,
      ⟨0x24AD, 1, .spelled [0x28, 0x72, 0x29] 0x4 0x4⟩,
      ⟨0x24AE, 1, .spelled [0x28, 0x73, 0x29] 0x4 0x4⟩,
      ⟨0x24AF, 1, .spelled [0x28, 0x74, 0x29] 0x4 0x4⟩,
      ⟨0x24B0, 1, .spelled [0x28, 0x75, 0x29] 0x4 0x4⟩,
      ⟨0x24B1, 1, .spelled [0x28, 0x76, 0x29] 0x4 0x4⟩,
      ⟨0x24B2, 1, .spelled [0x28, 0x77, 0x29] 0x4 0x4⟩,
      ⟨0x24B3, 1, .spelled [0x28, 0x78, 0x29] 0x4 0x4⟩,
      ⟨0x24B4, 1, .spelled [0x28, 0x79, 0x29] 0x4 0x4⟩,
      ⟨0x24B5, 1, .spelled [0x28, 0x7A, 0x29] 0x4 0x4⟩, ⟨0x24B6, 26, .like 0x41 0xC 0xC⟩,
      ⟨0x24D0, 26, .like 0x61 0x6 0x6⟩, ⟨0x24EA, 1, .letter 0x217D 0x20 0x6⟩,
      ⟨0x24EB, 1, .several [.letter 0x217E 0x20 0x6, .letter 0x217E 0x20 0x6]⟩,
      ⟨0x24EC, 1, .several [.letter 0x217E 0x20 0x6, .letter 0x217F 0x20 0x6]⟩,
      ⟨0x24ED, 1, .several [.letter 0x217E 0x20 0x6, .letter 0x2180 0x20 0x6]⟩,
      ⟨0x24EE, 1, .several [.letter 0x217E 0x20 0x6, .letter 0x2181 0x20 0x6]⟩,
      ⟨0x24EF, 1, .several [.letter 0x217E 0x20 0x6, .letter 0x2182 0x20 0x6]⟩,
      ⟨0x24F0, 1, .several [.letter 0x217E 0x20 0x6, .letter 0x2183 0x20 0x6]⟩,
      ⟨0x24F1, 1, .several [.letter 0x217E 0x20 0x6, .letter 0x2184 0x20 0x6]⟩,
      ⟨0x24F2, 1, .several [.letter 0x217E 0x20 0x6, .letter 0x2185 0x20 0x6]⟩,
      ⟨0x24F3, 1, .several [.letter 0x217E 0x20 0x6, .letter 0x2186 0x20 0x6]⟩,
      ⟨0x24F4, 1, .several [.letter 0x217F 0x20 0x6, .letter 0x217D 0x20 0x6]⟩,
      ⟨0x24F5, 9, .letter 0x217E 0x20 0x6⟩,
      ⟨0x24FE, 1, .several [.letter 0x217E 0x20 0x6, .letter 0x217D 0x20 0x6]⟩,
      ⟨0x24FF, 1, .letter 0x217D 0x20 0x6⟩]⟩

def mathematicalAlphanumericSymbols : Chart :=
  ⟨0x1D400, 0x1D7FF,
    [⟨0x1D400, 26, .like 0x41 0xB 0xB⟩, ⟨0x1D41A, 26, .like 0x61 0x5 0x5⟩,
      ⟨0x1D434, 26, .like 0x41 0xB 0xB⟩, ⟨0x1D44E, 7, .like 0x61 0x5 0x5⟩,
      ⟨0x1D456, 18, .like 0x69 0x5 0x5⟩, ⟨0x1D468, 26, .like 0x41 0xB 0xB⟩,
      ⟨0x1D482, 26, .like 0x61 0x5 0x5⟩, ⟨0x1D49C, 1, .letter 0x2380 0x20 0xB⟩,
      ⟨0x1D49E, 2, .like 0x43 0xB 0xB⟩, ⟨0x1D4A2, 1, .letter 0x23D1 0x20 0xB⟩,
      ⟨0x1D4A5, 2, .like 0x4A 0xB 0xB⟩, ⟨0x1D4A9, 4, .like 0x4E 0xB 0xB⟩,
      ⟨0x1D4AE, 8, .like 0x53 0xB 0xB⟩, ⟨0x1D4B6, 4, .like 0x61 0x5 0x5⟩,
      ⟨0x1D4BB, 1, .letter 0x23C8 0x20 0x5⟩, ⟨0x1D4BD, 7, .like 0x68 0x5 0x5⟩,
      ⟨0x1D4C5, 11, .like 0x70 0x5 0x5⟩, ⟨0x1D4D0, 26, .like 0x41 0xB 0xB⟩,
      ⟨0x1D4EA, 26, .like 0x61 0x5 0x5⟩, ⟨0x1D504, 2, .like 0x41 0xB 0xB⟩,
      ⟨0x1D507, 4, .like 0x44 0xB 0xB⟩, ⟨0x1D50D, 8, .like 0x4A 0xB 0xB⟩,
      ⟨0x1D516, 7, .like 0x53 0xB 0xB⟩, ⟨0x1D51E, 26, .like 0x61 0x5 0x5⟩,
      ⟨0x1D538, 2, .like 0x41 0xB 0xB⟩, ⟨0x1D53B, 4, .like 0x44 0xB 0xB⟩,
      ⟨0x1D540, 5, .like 0x49 0xB 0xB⟩, ⟨0x1D546, 1, .letter 0x2442 0x20 0xB⟩,
      ⟨0x1D54A, 7, .like 0x53 0xB 0xB⟩, ⟨0x1D552, 26, .like 0x61 0x5 0x5⟩,
      ⟨0x1D56C, 26, .like 0x41 0xB 0xB⟩, ⟨0x1D586, 26, .like 0x61 0x5 0x5⟩,
      ⟨0x1D5A0, 26, .like 0x41 0xB 0xB⟩, ⟨0x1D5BA, 26, .like 0x61 0x5 0x5⟩,
      ⟨0x1D5D4, 26, .like 0x41 0xB 0xB⟩, ⟨0x1D5EE, 26, .like 0x61 0x5 0x5⟩,
      ⟨0x1D608, 26, .like 0x41 0xB 0xB⟩, ⟨0x1D622, 26, .like 0x61 0x5 0x5⟩,
      ⟨0x1D63C, 26, .like 0x41 0xB 0xB⟩, ⟨0x1D656, 26, .like 0x61 0x5 0x5⟩,
      ⟨0x1D670, 26, .like 0x41 0xB 0xB⟩, ⟨0x1D68A, 26, .like 0x61 0x5 0x5⟩,
      ⟨0x1D6A4, 1, .letter 0x23ED 0x20 0x5⟩, ⟨0x1D6A5, 1, .letter 0x23FA 0x20 0x5⟩,
      ⟨0x1D6A8, 17, .like 0x391 0xB 0xB⟩, ⟨0x1D6B9, 1, .letter 0x253D 0x20 0xB⟩,
      ⟨0x1D6BA, 7, .like 0x3A3 0xB 0xB⟩, ⟨0x1D6C1, 1, .letter 0x6AA 0x20 0x5⟩,
      ⟨0x1D6C2, 25, .like 0x3B1 0x5 0x5⟩, ⟨0x1D6DB, 1, .letter 0x6A6 0x20 0x5⟩,
      ⟨0x1D6DC, 1, .letter 0x2536 0x20 0x5⟩, ⟨0x1D6DD, 1, .letter 0x253D 0x20 0x5⟩,
      ⟨0x1D6DE, 1, .letter 0x2540 0x20 0x5⟩, ⟨0x1D6DF, 1, .letter 0x2555 0x20 0x5⟩,
      ⟨0x1D6E0, 1, .letter 0x254C 0x20 0x5⟩, ⟨0x1D6E1, 1, .letter 0x2547 0x20 0x5⟩,
      ⟨0x1D6E2, 17, .like 0x391 0xB 0xB⟩, ⟨0x1D6F3, 1, .letter 0x253D 0x20 0xB⟩,
      ⟨0x1D6F4, 7, .like 0x3A3 0xB 0xB⟩, ⟨0x1D6FB, 1, .letter 0x6AA 0x20 0x5⟩,
      ⟨0x1D6FC, 25, .like 0x3B1 0x5 0x5⟩, ⟨0x1D715, 1, .letter 0x6A6 0x20 0x5⟩,
      ⟨0x1D716, 1, .letter 0x2536 0x20 0x5⟩, ⟨0x1D717, 1, .letter 0x253D 0x20 0x5⟩,
      ⟨0x1D718, 1, .letter 0x2540 0x20 0x5⟩, ⟨0x1D719, 1, .letter 0x2555 0x20 0x5⟩,
      ⟨0x1D71A, 1, .letter 0x254C 0x20 0x5⟩, ⟨0x1D71B, 1, .letter 0x2547 0x20 0x5⟩,
      ⟨0x1D71C, 17, .like 0x391 0xB 0xB⟩, ⟨0x1D72D, 1, .letter 0x253D 0x20 0xB⟩,
      ⟨0x1D72E, 7, .like 0x3A3 0xB 0xB⟩, ⟨0x1D735, 1, .letter 0x6AA 0x20 0x5⟩,
      ⟨0x1D736, 25, .like 0x3B1 0x5 0x5⟩, ⟨0x1D74F, 1, .letter 0x6A6 0x20 0x5⟩,
      ⟨0x1D750, 1, .letter 0x2536 0x20 0x5⟩, ⟨0x1D751, 1, .letter 0x253D 0x20 0x5⟩,
      ⟨0x1D752, 1, .letter 0x2540 0x20 0x5⟩, ⟨0x1D753, 1, .letter 0x2555 0x20 0x5⟩,
      ⟨0x1D754, 1, .letter 0x254C 0x20 0x5⟩, ⟨0x1D755, 1, .letter 0x2547 0x20 0x5⟩,
      ⟨0x1D756, 17, .like 0x391 0xB 0xB⟩, ⟨0x1D767, 1, .letter 0x253D 0x20 0xB⟩,
      ⟨0x1D768, 7, .like 0x3A3 0xB 0xB⟩, ⟨0x1D76F, 1, .letter 0x6AA 0x20 0x5⟩,
      ⟨0x1D770, 25, .like 0x3B1 0x5 0x5⟩, ⟨0x1D789, 1, .letter 0x6A6 0x20 0x5⟩,
      ⟨0x1D78A, 1, .letter 0x2536 0x20 0x5⟩, ⟨0x1D78B, 1, .letter 0x253D 0x20 0x5⟩,
      ⟨0x1D78C, 1, .letter 0x2540 0x20 0x5⟩, ⟨0x1D78D, 1, .letter 0x2555 0x20 0x5⟩,
      ⟨0x1D78E, 1, .letter 0x254C 0x20 0x5⟩, ⟨0x1D78F, 1, .letter 0x2547 0x20 0x5⟩,
      ⟨0x1D790, 17, .like 0x391 0xB 0xB⟩, ⟨0x1D7A1, 1, .letter 0x253D 0x20 0xB⟩,
      ⟨0x1D7A2, 7, .like 0x3A3 0xB 0xB⟩, ⟨0x1D7A9, 1, .letter 0x6AA 0x20 0x5⟩,
      ⟨0x1D7AA, 25, .like 0x3B1 0x5 0x5⟩, ⟨0x1D7C3, 1, .letter 0x6A6 0x20 0x5⟩,
      ⟨0x1D7C4, 1, .letter 0x2536 0x20 0x5⟩, ⟨0x1D7C5, 1, .letter 0x253D 0x20 0x5⟩,
      ⟨0x1D7C6, 1, .letter 0x2540 0x20 0x5⟩, ⟨0x1D7C7, 1, .letter 0x2555 0x20 0x5⟩,
      ⟨0x1D7C8, 1, .letter 0x254C 0x20 0x5⟩, ⟨0x1D7C9, 1, .letter 0x2547 0x20 0x5⟩,
      ⟨0x1D7CA, 2, .like 0x3DC 0x5 0xB⟩, ⟨0x1D7CE, 10, .letter 0x217D 0x20 0x5⟩,
      ⟨0x1D7D8, 10, .letter 0x217D 0x20 0x5⟩, ⟨0x1D7E2, 10, .letter 0x217D 0x20 0x5⟩,
      ⟨0x1D7EC, 10, .letter 0x217D 0x20 0x5⟩, ⟨0x1D7F6, 10, .letter 0x217D 0x20 0x5⟩]⟩

def enclosedAlphanumericSupplement : Chart :=
  ⟨0x1F100, 0x1F1FF,
    [⟨0x1F100, 1, .spelled [0x30, 0x2E] 0x4 0x4⟩, ⟨0x1F101, 1, .spelled [0x30, 0x2C] 0x4 0x4⟩,
      ⟨0x1F102, 1, .spelled [0x31, 0x2C] 0x4 0x4⟩, ⟨0x1F103, 1, .spelled [0x32, 0x2C] 0x4 0x4⟩,
      ⟨0x1F104, 1, .spelled [0x33, 0x2C] 0x4 0x4⟩, ⟨0x1F105, 1, .spelled [0x34, 0x2C] 0x4 0x4⟩,
      ⟨0x1F106, 1, .spelled [0x35, 0x2C] 0x4 0x4⟩, ⟨0x1F107, 1, .spelled [0x36, 0x2C] 0x4 0x4⟩,
      ⟨0x1F108, 1, .spelled [0x37, 0x2C] 0x4 0x4⟩, ⟨0x1F109, 1, .spelled [0x38, 0x2C] 0x4 0x4⟩,
      ⟨0x1F10A, 1, .spelled [0x39, 0x2C] 0x4 0x4⟩, ⟨0x1F10B, 1, .letter 0x217D 0x20 0x6⟩,
      ⟨0x1F10C, 1, .letter 0x217D 0x20 0x6⟩, ⟨0x1F10D, 3, .letter 0x17D3 0x20 0x2⟩,
      ⟨0x1F110, 1, .spelled [0x28, 0x41, 0x29] 0xA 0xA⟩,
      ⟨0x1F111, 1, .spelled [0x28, 0x42, 0x29] 0xA 0xA⟩,
      ⟨0x1F112, 1, .spelled [0x28, 0x43, 0x29] 0xA 0xA⟩,
      ⟨0x1F113, 1, .spelled [0x28, 0x44, 0x29] 0xA 0xA⟩,
      ⟨0x1F114, 1, .spelled [0x28, 0x45, 0x29] 0xA 0xA⟩,
      ⟨0x1F115, 1, .spelled [0x28, 0x46, 0x29] 0xA 0xA⟩,
      ⟨0x1F116, 1, .spelled [0x28, 0x47, 0x29] 0xA 0xA⟩,
      ⟨0x1F117, 1, .spelled [0x28, 0x48, 0x29] 0xA 0xA⟩,
      ⟨0x1F118, 1, .spelled [0x28, 0x49, 0x29] 0xA 0xA⟩,
      ⟨0x1F119, 1, .spelled [0x28, 0x4A, 0x29] 0xA 0xA⟩,
      ⟨0x1F11A, 1, .spelled [0x28, 0x4B, 0x29] 0xA 0xA⟩,
      ⟨0x1F11B, 1, .spelled [0x28, 0x4C, 0x29] 0xA 0xA⟩,
      ⟨0x1F11C, 1, .spelled [0x28, 0x4D, 0x29] 0xA 0xA⟩,
      ⟨0x1F11D, 1, .spelled [0x28, 0x4E, 0x29] 0xA 0xA⟩,
      ⟨0x1F11E, 1, .spelled [0x28, 0x4F, 0x29] 0xA 0xA⟩,
      ⟨0x1F11F, 1, .spelled [0x28, 0x50, 0x29] 0xA 0xA⟩,
      ⟨0x1F120, 1, .spelled [0x28, 0x51, 0x29] 0xA 0xA⟩,
      ⟨0x1F121, 1, .spelled [0x28, 0x52, 0x29] 0xA 0xA⟩,
      ⟨0x1F122, 1, .spelled [0x28, 0x53, 0x29] 0xA 0xA⟩,
      ⟨0x1F123, 1, .spelled [0x28, 0x54, 0x29] 0xA 0xA⟩,
      ⟨0x1F124, 1, .spelled [0x28, 0x55, 0x29] 0xA 0xA⟩,
      ⟨0x1F125, 1, .spelled [0x28, 0x56, 0x29] 0xA 0xA⟩,
      ⟨0x1F126, 1, .spelled [0x28, 0x57, 0x29] 0xA 0xA⟩,
      ⟨0x1F127, 1, .spelled [0x28, 0x58, 0x29] 0xA 0xA⟩,
      ⟨0x1F128, 1, .spelled [0x28, 0x59, 0x29] 0xA 0xA⟩,
      ⟨0x1F129, 1, .spelled [0x28, 0x5A, 0x29] 0xA 0xA⟩,
      ⟨0x1F12A, 1, .spelled [0x3014, 0x53, 0x3015] 0xA 0xA⟩,
      ⟨0x1F12B, 1, .letter 0x2399 0x20 0xC⟩, ⟨0x1F12C, 1, .letter 0x2473 0x20 0xC⟩,
      ⟨0x1F12D, 1, .spelled [0x43, 0x44] 0xC 0xC⟩, ⟨0x1F12E, 1, .spelled [0x57, 0x5A] 0xC 0xC⟩,
      ⟨0x1F12F, 1, .letter 0x621 0x20 0x2⟩, ⟨0x1F130, 26, .like 0x41 0x1D 0x1D⟩,
      ⟨0x1F14A, 1, .spelled [0x48, 0x56] 0x1D 0x1D⟩,
      ⟨0x1F14B, 1, .spelled [0x4D, 0x56] 0x1D 0x1D⟩,
      ⟨0x1F14C, 1, .spelled [0x53, 0x44] 0x1D 0x1D⟩,
      ⟨0x1F14D, 1, .spelled [0x53, 0x53] 0x1D 0x1D⟩,
      ⟨0x1F14E, 1, .spelled [0x50, 0x50, 0x56] 0x1D 0x1D⟩,
      ⟨0x1F14F, 1, .spelled [0x57, 0x43] 0x1D 0x1D⟩, ⟨0x1F150, 1, .letter 0x2380 0x20 0xC⟩,
      ⟨0x1F151, 1, .letter 0x238E 0x20 0xC⟩, ⟨0x1F152, 1, .letter 0x2399 0x20 0xC⟩,
      ⟨0x1F153, 1, .letter 0x23A3 0x20 0xC⟩, ⟨0x1F154, 1, .letter 0x23B1 0x20 0xC⟩,
      ⟨0x1F155, 1, .letter 0x23C8 0x20 0xC⟩, ⟨0x1F156, 1, .letter 0x23D1 0x20 0xC⟩,
      ⟨0x1F157, 1, .letter 0x23E0 0x20 0xC⟩, ⟨0x1F158, 1, .letter 0x23EC 0x20 0xC⟩,
      ⟨0x1F159, 1, .letter 0x23F9 0x20 0xC⟩, ⟨0x1F15A, 1, .letter 0x2400 0x20 0xC⟩,
      ⟨0x1F15B, 1, .letter 0x240B 0x20 0xC⟩, ⟨0x1F15C, 1, .letter 0x2427 0x20 0xC⟩,
      ⟨0x1F15D, 1, .letter 0x2430 0x20 0xC⟩, ⟨0x1F15E, 1, .letter 0x2442 0x20 0xC⟩,
      ⟨0x1F15F, 1, .letter 0x2460 0x20 0xC⟩, ⟨0x1F160, 1, .letter 0x246C 0x20 0xC⟩,
      ⟨0x1F161, 1, .letter 0x2473 0x20 0xC⟩, ⟨0x1F162, 1, .letter 0x2494 0x20 0xC⟩,
      ⟨0x1F163, 1, .letter 0x24AA 0x20 0xC⟩, ⟨0x1F164, 1, .letter 0x24B8 0x20 0xC⟩,
      ⟨0x1F165, 1, .letter 0x24D0 0x20 0xC⟩, ⟨0x1F166, 1, .letter 0x24D9 0x20 0xC⟩,
      ⟨0x1F167, 1, .letter 0x24DD 0x20 0xC⟩, ⟨0x1F168, 1, .letter 0x24E6 0x20 0xC⟩,
      ⟨0x1F169, 1, .letter 0x24ED 0x20 0xC⟩, ⟨0x1F16A, 1, .spelled [0x4D, 0x43] 0x14 0x14⟩,
      ⟨0x1F16B, 1, .spelled [0x4D, 0x44] 0x14 0x14⟩,
      ⟨0x1F16C, 1, .spelled [0x4D, 0x52] 0x14 0x14⟩, ⟨0x1F16D, 3, .letter 0x17D6 0x20 0x2⟩,
      ⟨0x1F170, 1, .letter 0x2380 0x20 0x1D⟩, ⟨0x1F171, 1, .letter 0x238E 0x20 0x1D⟩,
      ⟨0x1F172, 1, .letter 0x2399 0x20 0x1D⟩, ⟨0x1F173, 1, .letter 0x23A3 0x20 0x1D⟩,
      ⟨0x1F174, 1, .letter 0x23B1 0x20 0x1D⟩, ⟨0x1F175, 1, .letter 0x23C8 0x20 0x1D⟩,
      ⟨0x1F176, 1, .letter 0x23D1 0x20 0x1D⟩, ⟨0x1F177, 1, .letter 0x23E0 0x20 0x1D⟩,
      ⟨0x1F178, 1, .letter 0x23EC 0x20 0x1D⟩, ⟨0x1F179, 1, .letter 0x23F9 0x20 0x1D⟩,
      ⟨0x1F17A, 1, .letter 0x2400 0x20 0x1D⟩, ⟨0x1F17B, 1, .letter 0x240B 0x20 0x1D⟩,
      ⟨0x1F17C, 1, .letter 0x2427 0x20 0x1D⟩, ⟨0x1F17D, 1, .letter 0x2430 0x20 0x1D⟩,
      ⟨0x1F17E, 1, .letter 0x2442 0x20 0x1D⟩, ⟨0x1F17F, 1, .letter 0x2460 0x20 0x1D⟩,
      ⟨0x1F180, 1, .letter 0x246C 0x20 0x1D⟩, ⟨0x1F181, 1, .letter 0x2473 0x20 0x1D⟩,
      ⟨0x1F182, 1, .letter 0x2494 0x20 0x1D⟩, ⟨0x1F183, 1, .letter 0x24AA 0x20 0x1D⟩,
      ⟨0x1F184, 1, .letter 0x24B8 0x20 0x1D⟩, ⟨0x1F185, 1, .letter 0x24D0 0x20 0x1D⟩,
      ⟨0x1F186, 1, .letter 0x24D9 0x20 0x1D⟩, ⟨0x1F187, 1, .letter 0x24DD 0x20 0x1D⟩,
      ⟨0x1F188, 1, .letter 0x24E6 0x20 0x1D⟩, ⟨0x1F189, 1, .letter 0x24ED 0x20 0x1D⟩,
      ⟨0x1F18A, 1, .letter 0x2460 0x20 0x1D⟩,
      ⟨0x1F18B, 1, .several [.letter 0x23EC 0x20 0x1D, .letter 0x2399 0x20 0x1D]⟩,
      ⟨0x1F18C, 1, .several [.letter 0x2460 0x20 0x1D, .letter 0x2380 0x20 0x1D]⟩,
      ⟨0x1F18D, 1, .several [.letter 0x2494 0x20 0x1D, .letter 0x2380 0x20 0x1D]⟩,
      ⟨0x1F18E, 1, .several [.letter 0x2380 0x20 0x1D, .letter 0x238E 0x20 0x1D]⟩,
      ⟨0x1F18F, 1, .several [.letter 0x24D9 0x20 0x1D, .letter 0x2399 0x20 0x1D]⟩,
      ⟨0x1F190, 1, .spelled [0x44, 0x4A] 0x1D 0x1D⟩,
      ⟨0x1F191, 1, .several [.letter 0x2399 0x20 0x1D, .letter 0x240B 0x20 0x1D]⟩,
      ⟨0x1F192, 1, .several [.letter 0x2399 0x20 0x1D, .letter 0x2442 0x20 0x1D,
        .letter 0x2442 0x20 0x1D, .letter 0x240B 0x20 0x1D]⟩,
      ⟨0x1F193, 1, .several [.letter 0x23C8 0x20 0x1D, .letter 0x2473 0x20 0x1D,
        .letter 0x23B1 0x20 0x1D, .letter 0x23B1 0x20 0x1D]⟩,
      ⟨0x1F194, 1, .several [.letter 0x23EC 0x20 0x1D, .letter 0x23A3 0x20 0x1D]⟩,
      ⟨0x1F195, 1, .several [.letter 0x2430 0x20 0x1D, .letter 0x23B1 0x20 0x1D,
        .letter 0x24D9 0x20 0x1D]⟩,
      ⟨0x1F196, 1, .several [.letter 0x2430 0x20 0x1D, .letter 0x23D1 0x20 0x1D]⟩,
      ⟨0x1F197, 1, .several [.letter 0x2442 0x20 0x1D, .letter 0x2400 0x20 0x1D]⟩,
      ⟨0x1F198, 1, .several [.letter 0x2494 0x20 0x1D, .letter 0x2442 0x20 0x1D,
        .letter 0x2494 0x20 0x1D]⟩,
      ⟨0x1F199, 1, .several [.letter 0x24B8 0x20 0x1D, .letter 0x2460 0x20 0x1D, .blank 0x269]⟩,
      ⟨0x1F19A, 1, .several [.letter 0x24D0 0x20 0x1D, .letter 0x2494 0x20 0x1D]⟩,
      ⟨0x1F19B, 1, .several [.letter 0x2180 0x20 0x1C, .letter 0x23A3 0x20 0x1D]⟩,
      ⟨0x1F19C, 1, .several [.letter 0x217F 0x20 0x1C, .letter 0x2430 0x20 0x1C,
        .letter 0x23A3 0x20 0x1C, .blank 0x209, .letter 0x2494 0x20 0x1D, .letter 0x2399 0x20 0x1C,
        .letter 0x2473 0x20 0x1C]⟩,
      ⟨0x1F19D, 1, .several [.letter 0x217F 0x20 0x1C, .letter 0x2400 0x20 0x1D]⟩,
      ⟨0x1F19E, 1, .several [.letter 0x2181 0x20 0x1C, .letter 0x2400 0x20 0x1D]⟩,
      ⟨0x1F19F, 1, .several [.letter 0x2185 0x20 0x1C, .letter 0x2400 0x20 0x1D]⟩,
      ⟨0x1F1A0, 1, .several [.letter 0x2182 0x20 0x1C, .blank 0x282, .letter 0x217E 0x20 0x1C]⟩,
      ⟨0x1F1A1, 1, .several [.letter 0x2184 0x20 0x1C, .blank 0x282, .letter 0x217E 0x20 0x1C]⟩,
      ⟨0x1F1A2, 1, .several [.letter 0x217F 0x20 0x1C, .letter 0x217F 0x20 0x1C, .blank 0x282,
        .letter 0x217F 0x20 0x1C]⟩,
      ⟨0x1F1A3, 1, .several [.letter 0x2183 0x20 0x1C, .letter 0x217D 0x20 0x1C,
        .letter 0x2460 0x20 0x1D]⟩,
      ⟨0x1F1A4, 1, .several [.letter 0x217E 0x20 0x1C, .letter 0x217F 0x20 0x1C,
        .letter 0x217D 0x20 0x1C, .letter 0x2460 0x20 0x1D]⟩,
      ⟨0x1F1A5, 1, .letter 0x23A3 0x20 0x1C⟩,
      ⟨0x1F1A6, 1, .several [.letter 0x23E0 0x20 0x1D, .letter 0x2399 0x20 0x1C]⟩,
      ⟨0x1F1A7, 1, .several [.letter 0x23E0 0x20 0x1D, .letter 0x23A3 0x20 0x1C,
        .letter 0x2473 0x20 0x1D]⟩,
      ⟨0x1F1A8, 1, .several [.letter 0x23E0 0x20 0x1D, .letter 0x23EC 0x20 0x1C, .blank 0x209,
        .letter 0x2473 0x20 0x1D, .letter 0x23B1 0x20 0x1C, .letter 0x2494 0x20 0x1C]⟩,
      ⟨0x1F1A9, 1, .several [.letter 0x240B 0x20 0x1D, .letter 0x2442 0x20 0x1C,
        .letter 0x2494 0x20 0x1C, .letter 0x2494 0x20 0x1C, .letter 0x240B 0x20 0x1C,
        .letter 0x23B1 0x20 0x1C, .letter 0x2494 0x20 0x1C, .letter 0x2494 0x20 0x1C]⟩,
      ⟨0x1F1AA, 1, .several [.letter 0x2494 0x20 0x1D, .letter 0x23E0 0x20 0x1D,
        .letter 0x24D0 0x20 0x1D]⟩,
      ⟨0x1F1AB, 1, .several [.letter 0x24B8 0x20 0x1D, .letter 0x23E0 0x20 0x1D,
        .letter 0x23A3 0x20 0x1D]⟩,
      ⟨0x1F1AC, 1, .several [.letter 0x24D0 0x20 0x1D, .letter 0x2442 0x20 0x1D,
        .letter 0x23A3 0x20 0x1D]⟩,
      ⟨0x1F1AD, 1, .letter 0x623 0x20 0x2⟩, ⟨0x1F1E6, 26, .letter 0xE24 0x20 0x2⟩]⟩

def styledCharts : List Chart :=
  [enclosedAlphanumerics, mathematicalAlphanumericSymbols, enclosedAlphanumericSupplement]

end CodeNotes.Collation
