import CodeNotes.Collation.Weight
/-!
Collation weights of the Latin letters, and the digits and signs that share charts with them.
-/
namespace CodeNotes.Collation

def basicLatin : Chart :=
  ⟨0x0, 0x7F,
    [⟨0x0, 9, .ignored⟩, ⟨0x9, 5, .blank 0x201⟩, ⟨0xE, 18, .ignored⟩, ⟨0x20, 1, .blank 0x209⟩,
      ⟨0x21, 1, .blank 0x269⟩, ⟨0x22, 1, .blank 0x33A⟩, ⟨0x23, 1, .blank 0x3C9⟩,
      ⟨0x24, 1, .letter 0x2149 0x20 0x2⟩, ⟨0x25, 1, .blank 0x3CA⟩, ⟨0x26, 1, .blank 0x3C6⟩,
      ⟨0x27, 1, .blank 0x337⟩, ⟨0x28, 2, .blank 0x33D⟩, ⟨0x2A, 1, .blank 0x3BE⟩,
      ⟨0x2B, 1, .letter 0x6B4 0x20 0x2⟩, ⟨0x2C, 1, .blank 0x225⟩, ⟨0x2D, 1, .blank 0x20D⟩,
      ⟨0x2E, 1, .blank 0x282⟩, ⟨0x2F, 1, .blank 0x3C3⟩, ⟨0x30, 10, .letter 0x217D 0x20 0x2⟩,
      ⟨0x3A, 1, .blank 0x242⟩, ⟨0x3B, 1, .blank 0x23C⟩, ⟨0x3C, 3, .letter 0x6B9 0x20 0x2⟩,
      ⟨0x3F, 1, .blank 0x270⟩, ⟨0x40, 1, .blank 0x3BD⟩, ⟨0x41, 1, .letter 0x2380 0x20 0x8⟩,
      ⟨0x42, 1, .letter 0x238E 0x20 0x8⟩, ⟨0x43, 1, .letter 0x2399 0x20 0x8⟩,
      ⟨0x44, 1, .letter 0x23A3 0x20 0x8⟩, ⟨0x45, 1, .letter 0x23B1 0x20 0x8⟩,
      ⟨0x46, 1, .letter 0x23C8 0x20 0x8⟩, ⟨0x47, 1, .letter 0x23D1 0x20 0x8⟩,
      ⟨0x48, 1, .letter 0x23E0 0x20 0x8⟩, ⟨0x49, 1, .letter 0x23EC 0x20 0x8⟩,
      ⟨0x4A, 1, .letter 0x23F9 0x20 0x8⟩, ⟨0x4B, 1, .letter 0x2400 0x20 0x8⟩,
      ⟨0x4C, 1, .letter 0x240B 0x20 0x8⟩, ⟨0x4D, 1, .letter 0x2427 0x20 0x8⟩,
      ⟨0x4E, 1, .letter 0x2430 0x20 0x8⟩, ⟨0x4F, 1, .letter 0x2442 0x20 0x8⟩,
      ⟨0x50, 1, .letter 0x2460 0x20 0x8⟩, ⟨0x51, 1, .letter 0x246C 0x20 0x8⟩,
      ⟨0x52, 1, .letter 0x2473 0x20 0x8⟩, ⟨0x53, 1, .letter 0x2494 0x20 0x8⟩,
      ⟨0x54, 1, .letter 0x24AA 0x20 0x8⟩, ⟨0x55, 1, .letter 0x24B8 0x20 0x8⟩,
      ⟨0x56, 1, .letter 0x24D0 0x20 0x8⟩, ⟨0x57, 1, .letter 0x24D9 0x20 0x8⟩,
      ⟨0x58, 1, .letter 0x24DD 0x20 0x8⟩, ⟨0x59, 1, .letter 0x24E6 0x20 0x8⟩,
      ⟨0x5A, 1, .letter 0x24ED 0x20 0x8⟩, ⟨0x5B, 1, .blank 0x33F⟩, ⟨0x5C, 1, .blank 0x3C4⟩,
      ⟨0x5D, 1, .blank 0x340⟩, ⟨0x5E, 1, .letter 0x4E3 0x20 0x2⟩, ⟨0x5F, 1, .blank 0x20B⟩,
      ⟨0x60, 1, .letter 0x4E0 0x20 0x2⟩, ⟨0x61, 1, .letter 0x2380 0x20 0x2⟩,
      ⟨0x62, 1, .letter 0x238E 0x20 0x2⟩, ⟨0x63, 1, .letter 0x2399 0x20 0x2⟩,
      ⟨0x64, 1, .letter 0x23A3 0x20 0x2⟩, ⟨0x65, 1, .letter 0x23B1 0x20 0x2⟩,
      ⟨0x66, 1, .letter 0x23C8 0x20 0x2⟩, ⟨0x67, 1, .letter 0x23D1 0x20 0x2⟩,
      ⟨0x68, 1, .letter 0x23E0 0x20 0x2⟩, ⟨0x69, 1, .letter 0x23EC 0x20 0x2⟩,
      ⟨0x6A, 1, .letter 0x23F9 0x20 0x2⟩, ⟨0x6B, 1, .letter 0x2400 0x20 0x2⟩,
      ⟨0x6C, 1, .letter 0x240B 0x20 0x2⟩, ⟨0x6D, 1, .letter 0x2427 0x20 0x2⟩,
      ⟨0x6E, 1, .letter 0x2430 0x20 0x2⟩, ⟨0x6F, 1, .letter 0x2442 0x20 0x2⟩,
      ⟨0x70, 1, .letter 0x2460 0x20 0x2⟩, ⟨0x71, 1, .letter 0x246C 0x20 0x2⟩,
      ⟨0x72, 1, .letter 0x2473 0x20 0x2⟩, ⟨0x73, 1, .letter 0x2494 0x20 0x2⟩,
      ⟨0x74, 1, .letter 0x24AA 0x20 0x2⟩, ⟨0x75, 1, .letter 0x24B8 0x20 0x2⟩,
      ⟨0x76, 1, .letter 0x24D0 0x20 0x2⟩, ⟨0x77, 1, .letter 0x24D9 0x20 0x2⟩,
      ⟨0x78, 1, .letter 0x24DD 0x20 0x2⟩, ⟨0x79, 1, .letter 0x24E6 0x20 0x2⟩,
      ⟨0x7A, 1, .letter 0x24ED 0x20 0x2⟩, ⟨0x7B, 1, .blank 0x341⟩,
      ⟨0x7C, 1, .letter 0x6BD 0x20 0x2⟩, ⟨0x7D, 1, .blank 0x342⟩,
      ⟨0x7E, 1, .letter 0x6BF 0x20 0x2⟩, ⟨0x7F, 1, .ignored⟩]⟩

def latin1Supplement : Chart :=
  ⟨0x80, 0xFF,
    [⟨0x80, 5, .ignored⟩, ⟨0x85, 1, .blank 0x206⟩, ⟨0x86, 26, .ignored⟩,
      ⟨0xA0, 1, .blank 0x209⟩, ⟨0xA1, 1, .blank 0x26A⟩, ⟨0xA2, 1, .letter 0x2148 0x20 0x2⟩,
      ⟨0xA3, 1, .letter 0x214A 0x20 0x2⟩, ⟨0xA4, 1, .letter 0x2147 0x20 0x2⟩,
      ⟨0xA5, 1, .letter 0x214B 0x20 0x2⟩, ⟨0xA6, 1, .letter 0x6BE 0x20 0x2⟩,
      ⟨0xA7, 1, .blank 0x3B7⟩, ⟨0xA8, 1, .letter 0x4E7 0x20 0x2⟩,
      ⟨0xA9, 1, .letter 0x620 0x20 0x2⟩, ⟨0xAA, 1, .letter 0x2380 0x20 0x14⟩,
      ⟨0xAB, 1, .blank 0x33B⟩, ⟨0xAC, 1, .letter 0x6BC 0x20 0x2⟩, ⟨0xAD, 1, .ignored⟩,
      ⟨0xAE, 1, .letter 0x622 0x20 0x2⟩, ⟨0xAF, 1, .letter 0x4E4 0x20 0x2⟩,
      ⟨0xB0, 1, .letter 0x563 0x20 0x2⟩, ⟨0xB1, 1, .letter 0x6B6 0x20 0x2⟩,
      ⟨0xB2, 2, .letter 0x217F 0x20 0x14⟩, ⟨0xB4, 1, .letter 0x4E1 0x20 0x2⟩,
      ⟨0xB5, 1, .letter 0x2543 0x20 0x4⟩, ⟨0xB6, 1, .blank 0x3B9⟩, ⟨0xB7, 1, .blank 0x297⟩,
      ⟨0xB8, 1, .letter 0x4EA 0x20 0x2⟩, ⟨0xB9, 1, .letter 0x217E 0x20 0x14⟩,
      ⟨0xBA, 1, .letter 0x2442 0x20 0x14⟩, ⟨0xBB, 1, .blank 0x33C⟩,
      ⟨0xBC, 1, .spelled [0x31, 0x2044, 0x34] 0x1E 0x1E⟩,
      ⟨0xBD, 1, .spelled [0x31, 0x2044, 0x32] 0x1E 0x1E⟩,
      ⟨0xBE, 1, .spelled [0x33, 0x2044, 0x34] 0x1E 0x1E⟩, ⟨0xBF, 1, .blank 0x271⟩,
      ⟨0xC6, 1, .several [.letter 0x2380 0x20 0xA, .mark 0x11E 0x4, .letter 0x23B1 0x20 0xA]⟩,
      ⟨0xD0, 1, .several [.letter 0x23A3 0x20 0xA, .mark 0x11E 0x4]⟩,
      ⟨0xD7, 1, .letter 0x6B8 0x20 0x2⟩,
      ⟨0xD8, 1, .several [.letter 0x2442 0x20 0x8, .mark 0x2F 0x2]⟩,
      ⟨0xDE, 1, .letter 0x24FF 0x20 0x8⟩,
      ⟨0xDF, 1, .several [.letter 0x2494 0x20 0x4, .mark 0x11E 0x4, .letter 0x2494 0x20 0x4]⟩,
      ⟨0xE6, 1, .several [.letter 0x2380 0x20 0x4, .mark 0x11E 0x4, .letter 0x23B1 0x20 0x4]⟩,
      ⟨0xF0, 1, .several [.letter 0x23A3 0x20 0x4, .mark 0x11E 0x4]⟩,
      ⟨0xF7, 1, .letter 0x6B7 0x20 0x2⟩,
      ⟨0xF8, 1, .several [.letter 0x2442 0x20 0x2, .mark 0x2F 0x2]⟩,
      ⟨0xFE, 1, .letter 0x24FF 0x20 0x2⟩]⟩

def latinExtendedA : Chart :=
  ⟨0x100, 0x17F,
    [⟨0x110, 1, .several [.letter 0x23A3 0x20 0x8, .mark 0x39 0x2]⟩,
      ⟨0x111, 1, .several [.letter 0x23A3 0x20 0x2, .mark 0x39 0x2]⟩,
      ⟨0x126, 1, .several [.letter 0x23E0 0x20 0x8, .mark 0x39 0x2]⟩,
      ⟨0x127, 1, .several [.letter 0x23E0 0x20 0x2, .mark 0x39 0x2]⟩,
      ⟨0x131, 1, .letter 0x23ED 0x20 0x2⟩, ⟨0x132, 1, .spelled [0x49, 0x4A] 0xA 0xA⟩,
      ⟨0x133, 1, .spelled [0x69, 0x6A] 0x4 0x4⟩, ⟨0x138, 1, .letter 0x2472 0x20 0x2⟩,
      ⟨0x13F, 1, .several [.letter 0x240B 0x20 0x8, .mark 0x12A 0x2]⟩,
      ⟨0x140, 1, .several [.letter 0x240B 0x20 0x2, .mark 0x12A 0x2]⟩,
      ⟨0x141, 1, .several [.letter 0x240B 0x20 0x8, .mark 0x39 0x2]⟩,
      ⟨0x142, 1, .several [.letter 0x240B 0x20 0x2, .mark 0x39 0x2]⟩,
      ⟨0x149, 1, .spelled [0x2BC, 0x6E] 0x4 0x4⟩, ⟨0x14A, 2, .cased 0x243E 0x20⟩,
      ⟨0x152, 1, .several [.letter 0x2442 0x20 0xA, .mark 0x11E 0x4, .letter 0x23B1 0x20 0xA]⟩,
      ⟨0x153, 1, .several [.letter 0x2442 0x20 0x4, .mark 0x11E 0x4, .letter 0x23B1 0x20 0x4]⟩,
      ⟨0x166, 2, .cased 0x24AC 0x20⟩,
      ⟨0x17F, 1, .several [.letter 0x2494 0x20 0x4, .mark 0x121 0x4]⟩]⟩

def latinExtendedB : Chart :=
  ⟨0x180, 0x24F,
    [⟨0x180, 1, .letter 0x2390 0x20 0x2⟩, ⟨0x181, 2, .letter 0x2396 0x20 0x8⟩,
      ⟨0x183, 1, .letter 0x2397 0x20 0x2⟩, ⟨0x184, 2, .cased 0x2513 0x20⟩,
      ⟨0x186, 1, .letter 0x2450 0x20 0x8⟩, ⟨0x187, 2, .cased 0x239F 0x20⟩,
      ⟨0x189, 2, .letter 0x23A9 0x20 0x8⟩, ⟨0x18B, 2, .cased 0x23AD 0x20⟩,
      ⟨0x18D, 1, .several [.letter 0x24ED 0x20 0x4, .letter 0x24D9 0x20 0x4]⟩,
      ⟨0x18E, 1, .letter 0x23B9 0x20 0x8⟩, ⟨0x18F, 1, .letter 0x23BB 0x20 0x8⟩,
      ⟨0x190, 1, .letter 0x23BD 0x20 0x8⟩, ⟨0x191, 2, .cased 0x23CE 0x20⟩,
      ⟨0x193, 1, .letter 0x23D9 0x20 0x8⟩, ⟨0x194, 1, .letter 0x23DE 0x20 0x8⟩,
      ⟨0x195, 1, .letter 0x23E2 0x20 0x2⟩, ⟨0x196, 1, .letter 0x23F7 0x20 0x8⟩,
      ⟨0x197, 1, .letter 0x23F2 0x20 0x8⟩, ⟨0x198, 2, .cased 0x2403 0x20⟩,
      ⟨0x19A, 1, .letter 0x2410 0x20 0x2⟩, ⟨0x19B, 1, .letter 0x2424 0x20 0x2⟩,
      ⟨0x19C, 1, .letter 0x24CA 0x20 0x8⟩, ⟨0x19D, 1, .letter 0x2435 0x20 0x8⟩,
      ⟨0x19E, 1, .letter 0x2436 0x20 0x2⟩, ⟨0x19F, 1, .letter 0x245A 0x20 0x8⟩,
      ⟨0x1A2, 2, .cased 0x23DF 0x20⟩, ⟨0x1A4, 2, .cased 0x2466 0x20⟩,
      ⟨0x1A6, 1, .letter 0x2475 0x20 0x8⟩, ⟨0x1A7, 2, .cased 0x2511 0x20⟩,
      ⟨0x1A9, 1, .letter 0x24A1 0x20 0x8⟩, ⟨0x1AA, 1, .letter 0x24A5 0x20 0x2⟩,
      ⟨0x1AB, 1, .letter 0x24AF 0x20 0x2⟩, ⟨0x1AC, 2, .cased 0x24B0 0x20⟩,
      ⟨0x1AE, 1, .letter 0x24B1 0x20 0x8⟩, ⟨0x1B1, 1, .letter 0x24CE 0x20 0x8⟩,
      ⟨0x1B2, 1, .letter 0x24D4 0x20 0x8⟩, ⟨0x1B3, 2, .cased 0x24E9 0x20⟩,
      ⟨0x1B5, 2, .cased 0x24EF 0x20⟩, ⟨0x1B7, 1, .letter 0x24F8 0x20 0x8⟩,
      ⟨0x1B8, 2, .cased 0x24FA 0x20⟩, ⟨0x1BA, 1, .letter 0x24FD 0x20 0x2⟩,
      ⟨0x1BB, 1, .letter 0x250D 0x20 0x2⟩, ⟨0x1BC, 2, .cased 0x2512 0x20⟩,
      ⟨0x1BE, 1, .several [.letter 0x24AA 0x20 0x4, .letter 0x2494 0x20 0x4]⟩,
      ⟨0x1BF, 1, .letter 0x2503 0x20 0x2⟩, ⟨0x1C0, 4, .letter 0x2527 0x20 0x2⟩,
      ⟨0x1C4, 1, .spelled [0x44, 0x5A, 0x30C] 0x4 0xA⟩,
      ⟨0x1C5, 1, .spelled [0x44, 0x7A, 0x30C] 0x4 0xA⟩,
      ⟨0x1C6, 1, .spelled [0x64, 0x7A, 0x30C] 0x4 0x4⟩,
      ⟨0x1C7, 1, .spelled [0x4C, 0x4A] 0xA 0xA⟩, ⟨0x1C8, 1, .spelled [0x4C, 0x6A] 0x4 0xA⟩,
      ⟨0x1C9, 1, .spelled [0x6C, 0x6A] 0x4 0x4⟩, ⟨0x1CA, 1, .spelled [0x4E, 0x4A] 0xA 0xA⟩,
      ⟨0x1CB, 1, .spelled [0x4E, 0x6A] 0x4 0xA⟩, ⟨0x1CC, 1, .spelled [0x6E, 0x6A] 0x4 0x4⟩,
      ⟨0x1DD, 1, .letter 0x23B9 0x20 0x2⟩, ⟨0x1E4, 2, .cased 0x23D7 0x20⟩,
      ⟨0x1F1, 1, .spelled [0x44, 0x5A] 0xA 0xA⟩, ⟨0x1F2, 1, .spelled [0x44, 0x7A] 0x4 0xA⟩,
      ⟨0x1F3, 1, .spelled [0x64, 0x7A] 0x4 0x4⟩, ⟨0x1F6, 1, .letter 0x23E2 0x20 0x8⟩,
      ⟨0x1F7, 1, .letter 0x2503 0x20 0x8⟩, ⟨0x21C, 2, .cased 0x24EC 0x20⟩,
      ⟨0x220, 1, .letter 0x2436 0x20 0x8⟩, ⟨0x221, 1, .letter 0x23AE 0x20 0x2⟩,
      ⟨0x222, 2, .cased 0x245E 0x20⟩, ⟨0x224, 2, .cased 0x24F2 0x20⟩,
      ⟨0x234, 1, .letter 0x241E 0x20 0x2⟩, ⟨0x235, 1, .letter 0x243B 0x20 0x2⟩,
      ⟨0x236, 1, .letter 0x24B4 0x20 0x2⟩, ⟨0x237, 1, .letter 0x23FA 0x20 0x2⟩,
      ⟨0x238, 1, .several [.letter 0x23A3 0x20 0x4, .letter 0x238E 0x20 0x4]⟩,
      ⟨0x239, 1, .several [.letter 0x246C 0x20 0x4, .letter 0x2460 0x20 0x4]⟩,
      ⟨0x23A, 1, .letter 0x2382 0x20 0x8⟩, ⟨0x23B, 2, .cased 0x239B 0x20⟩,
      ⟨0x23D, 1, .letter 0x2410 0x20 0x8⟩, ⟨0x23E, 1, .letter 0x24AD 0x20 0x8⟩,
      ⟨0x23F, 1, .letter 0x249D 0x20 0x2⟩, ⟨0x240, 1, .letter 0x24F5 0x20 0x2⟩,
      ⟨0x241, 2, .cased 0x2515 0x20⟩, ⟨0x243, 1, .letter 0x2390 0x20 0x8⟩,
      ⟨0x244, 1, .letter 0x24C0 0x20 0x8⟩, ⟨0x245, 1, .letter 0x24D8 0x20 0x8⟩,
      ⟨0x246, 2, .cased 0x23B5 0x20⟩, ⟨0x248, 2, .cased 0x23FC 0x20⟩,
      ⟨0x24A, 2, .cased 0x2471 0x20⟩, ⟨0x24C, 2, .cased 0x2478 0x20⟩,
      ⟨0x24E, 2, .cased 0x24E8 0x20⟩]⟩

def ipaExtensions : Chart :=
  ⟨0x250, 0x2AF,
    [⟨0x250, 2, .letter 0x2388 0x20 0x2⟩, ⟨0x252, 1, .letter 0x238C 0x20 0x2⟩,
      ⟨0x253, 1, .letter 0x2396 0x20 0x2⟩, ⟨0x254, 1, .letter 0x2450 0x20 0x2⟩,
      ⟨0x255, 1, .letter 0x23A0 0x20 0x2⟩, ⟨0x256, 2, .letter 0x23A9 0x20 0x2⟩,
      ⟨0x258, 1, .letter 0x23BF 0x20 0x2⟩, ⟨0x259, 1, .letter 0x23BB 0x20 0x2⟩,
      ⟨0x25A, 1, .letter 0x23C0 0x20 0x2⟩, ⟨0x25B, 1, .letter 0x23BD 0x20 0x2⟩,
      ⟨0x25C, 1, .letter 0x23C1 0x20 0x2⟩, ⟨0x25D, 2, .letter 0x23C4 0x20 0x2⟩,
      ⟨0x25F, 1, .letter 0x23FE 0x20 0x2⟩, ⟨0x260, 1, .letter 0x23D9 0x20 0x2⟩,
      ⟨0x261, 1, .letter 0x23D3 0x20 0x2⟩, ⟨0x262, 1, .letter 0x23D6 0x20 0x2⟩,
      ⟨0x263, 1, .letter 0x23DE 0x20 0x2⟩, ⟨0x264, 1, .letter 0x23C7 0x20 0x2⟩,
      ⟨0x265, 1, .letter 0x24C7 0x20 0x2⟩, ⟨0x266, 1, .letter 0x23E4 0x20 0x2⟩,
      ⟨0x267, 1, .letter 0x23E9 0x20 0x2⟩, ⟨0x268, 1, .letter 0x23F2 0x20 0x2⟩,
      ⟨0x269, 1, .letter 0x23F7 0x20 0x2⟩, ⟨0x26A, 1, .letter 0x23EE 0x20 0x2⟩,
      ⟨0x26B, 1, .letter 0x2412 0x20 0x2⟩, ⟨0x26C, 1, .letter 0x2415 0x20 0x2⟩,
      ⟨0x26D, 1, .letter 0x241A 0x20 0x2⟩, ⟨0x26E, 1, .letter 0x2420 0x20 0x2⟩,
      ⟨0x26F, 1, .letter 0x24CA 0x20 0x2⟩, ⟨0x270, 1, .letter 0x24CD 0x20 0x2⟩,
      ⟨0x271, 1, .letter 0x242B 0x20 0x2⟩, ⟨0x272, 1, .letter 0x2435 0x20 0x2⟩,
      ⟨0x273, 1, .letter 0x2439 0x20 0x2⟩, ⟨0x274, 1, .letter 0x2431 0x20 0x2⟩,
      ⟨0x275, 1, .letter 0x245A 0x20 0x2⟩, ⟨0x276, 1, .letter 0x2446 0x20 0x2⟩,
      ⟨0x277, 1, .letter 0x245C 0x20 0x2⟩, ⟨0x278, 1, .letter 0x246A 0x20 0x2⟩,
      ⟨0x279, 1, .letter 0x247A 0x20 0x2⟩, ⟨0x27A, 1, .letter 0x247C 0x20 0x2⟩,
      ⟨0x27B, 1, .letter 0x247E 0x20 0x2⟩, ⟨0x27C, 2, .letter 0x2481 0x20 0x2⟩,
      ⟨0x27E, 1, .letter 0x2485 0x20 0x2⟩, ⟨0x27F, 1, .letter 0x2488 0x20 0x2⟩,
      ⟨0x280, 1, .letter 0x2475 0x20 0x2⟩, ⟨0x281, 1, .letter 0x248E 0x20 0x2⟩,
      ⟨0x282, 1, .letter 0x249A 0x20 0x2⟩, ⟨0x283, 1, .letter 0x24A1 0x20 0x2⟩,
      ⟨0x284, 1, .letter 0x23FF 0x20 0x2⟩, ⟨0x285, 2, .letter 0x24A6 0x20 0x2⟩,
      ⟨0x287, 1, .letter 0x24B6 0x20 0x2⟩, ⟨0x288, 1, .letter 0x24B1 0x20 0x2⟩,
      ⟨0x289, 1, .letter 0x24C0 0x20 0x2⟩, ⟨0x28A, 1, .letter 0x24CE 0x20 0x2⟩,
      ⟨0x28B, 1, .letter 0x24D4 0x20 0x2⟩, ⟨0x28C, 1, .letter 0x24D8 0x20 0x2⟩,
      ⟨0x28D, 1, .letter 0x24DC 0x20 0x2⟩, ⟨0x28E, 1, .letter 0x2425 0x20 0x2⟩,
      ⟨0x28F, 1, .letter 0x24E7 0x20 0x2⟩, ⟨0x290, 2, .letter 0x24F3 0x20 0x2⟩,
      ⟨0x292, 1, .letter 0x24F8 0x20 0x2⟩, ⟨0x293, 1, .letter 0x24FE 0x20 0x2⟩,
      ⟨0x294, 1, .letter 0x2514 0x20 0x2⟩, ⟨0x295, 1, .letter 0x251D 0x20 0x2⟩,
      ⟨0x296, 1, .letter 0x2525 0x20 0x2⟩, ⟨0x297, 1, .letter 0x252C 0x20 0x2⟩,
      ⟨0x298, 1, .letter 0x252E 0x20 0x2⟩, ⟨0x299, 1, .letter 0x238F 0x20 0x2⟩,
      ⟨0x29A, 1, .letter 0x23C6 0x20 0x2⟩, ⟨0x29B, 1, .letter 0x23DA 0x20 0x2⟩,
      ⟨0x29C, 1, .letter 0x23E1 0x20 0x2⟩, ⟨0x29D, 1, .letter 0x23FD 0x20 0x2⟩,
      ⟨0x29E, 1, .letter 0x2409 0x20 0x2⟩, ⟨0x29F, 1, .letter 0x240C 0x20 0x2⟩,
      ⟨0x2A0, 1, .letter 0x2470 0x20 0x2⟩, ⟨0x2A1, 2, .letter 0x2523 0x20 0x2⟩,
      ⟨0x2A3, 1, .several [.letter 0x23A3 0x20 0x4, .letter 0x24ED 0x20 0x4]⟩,
      ⟨0x2A4, 1, .several [.letter 0x23A3 0x20 0x4, .letter 0x24F8 0x20 0x4]⟩,
      ⟨0x2A5, 1, .several [.letter 0x23A3 0x20 0x4, .letter 0x24F4 0x20 0x4]⟩,
      ⟨0x2A6, 1, .several [.letter 0x24AA 0x20 0x4, .letter 0x2494 0x20 0x4]⟩,
      ⟨0x2A7, 1, .several [.letter 0x24AA 0x20 0x4, .letter 0x24A1 0x20 0x4]⟩,
      ⟨0x2A8, 1, .several [.letter 0x24AA 0x20 0x4, .letter 0x23A0 0x20 0x4]⟩,
      ⟨0x2A9, 1, .several [.letter 0x23C8 0x20 0x4, .letter 0x243E 0x20 0x4]⟩,
      ⟨0x2AA, 1, .several [.letter 0x240B 0x20 0x4, .letter 0x2494 0x20 0x4]⟩,
      ⟨0x2AB, 1, .several [.letter 0x240B 0x20 0x4, .letter 0x24ED 0x20 0x4]⟩,
      ⟨0x2AC, 2, .letter 0x252F 0x20 0x2⟩, ⟨0x2AE, 2, .letter 0x24C8 0x20 0x2⟩]⟩

def spacingModifierLetters : Chart :=
  ⟨0x2B0, 0x2FF,
    [⟨0x2B0, 1, .letter 0x23E0 0x20 0x14⟩, ⟨0x2B1, 1, .letter 0x23E4 0x20 0x14⟩,
      ⟨0x2B2, 1, .letter 0x23F9 0x20 0x14⟩, ⟨0x2B3, 1, .letter 0x2473 0x20 0x14⟩,
      ⟨0x2B4, 1, .letter 0x247A 0x20 0x14⟩, ⟨0x2B5, 1, .letter 0x247E 0x20 0x14⟩,
      ⟨0x2B6, 1, .letter 0x248E 0x20 0x14⟩, ⟨0x2B7, 1, .letter 0x24D9 0x20 0x14⟩,
      ⟨0x2B8, 1, .letter 0x24E6 0x20 0x14⟩, ⟨0x2B9, 1, .letter 0x4F1 0x20 0x2⟩,
      ⟨0x2BA, 1, .letter 0x4F3 0x20 0x2⟩, ⟨0x2BB, 1, .letter 0x23EA 0x20 0x2⟩,
      ⟨0x2BC, 1, .letter 0x2517 0x20 0x2⟩, ⟨0x2BD, 1, .letter 0x23EB 0x20 0x2⟩,
      ⟨0x2BE, 1, .letter 0x2519 0x20 0x2⟩, ⟨0x2BF, 1, .letter 0x251E 0x20 0x2⟩,
      ⟨0x2C0, 1, .letter 0x2516 0x20 0x2⟩, ⟨0x2C1, 1, .letter 0x251F 0x20 0x2⟩,
      ⟨0x2C2, 14, .letter 0x4F4 0x20 0x2⟩, ⟨0x2D0, 2, .letter 0x212A 0x20 0x2⟩,
      ⟨0x2D2, 4, .letter 0x502 0x20 0x2⟩, ⟨0x2D6, 2, .letter 0x508 0x20 0x2⟩,
      ⟨0x2D8, 2, .letter 0x4E5 0x20 0x2⟩, ⟨0x2DA, 1, .letter 0x4E8 0x20 0x2⟩,
      ⟨0x2DB, 1, .letter 0x4EB 0x20 0x2⟩, ⟨0x2DC, 1, .letter 0x4E2 0x20 0x2⟩,
      ⟨0x2DD, 1, .letter 0x4E9 0x20 0x2⟩, ⟨0x2DE, 2, .letter 0x50A 0x20 0x2⟩,
      ⟨0x2E0, 1, .letter 0x23DE 0x20 0x14⟩, ⟨0x2E1, 1, .letter 0x240B 0x20 0x14⟩,
      ⟨0x2E2, 1, .letter 0x2494 0x20 0x14⟩, ⟨0x2E3, 1, .letter 0x24DD 0x20 0x14⟩,
      ⟨0x2E4, 1, .letter 0x251D 0x20 0x14⟩, ⟨0x2E5, 9, .letter 0x50C 0x20 0x2⟩,
      ⟨0x2EE, 1, .letter 0x2518 0x20 0x2⟩, ⟨0x2EF, 17, .letter 0x515 0x20 0x2⟩]⟩

def phoneticExtensions : Chart :=
  ⟨0x1D00, 0x1D7F,
    [⟨0x1D00, 1, .letter 0x2381 0x20 0x2⟩, ⟨0x1D01, 2, .letter 0x2385 0x20 0x2⟩,
      ⟨0x1D03, 1, .letter 0x2392 0x20 0x2⟩, ⟨0x1D04, 1, .letter 0x239A 0x20 0x2⟩,
      ⟨0x1D05, 2, .letter 0x23A4 0x20 0x2⟩, ⟨0x1D07, 1, .letter 0x23B2 0x20 0x2⟩,
      ⟨0x1D08, 1, .letter 0x23C3 0x20 0x2⟩, ⟨0x1D09, 1, .letter 0x23F1 0x20 0x2⟩,
      ⟨0x1D0A, 1, .letter 0x23FB 0x20 0x2⟩, ⟨0x1D0B, 1, .letter 0x2401 0x20 0x2⟩,
      ⟨0x1D0C, 1, .letter 0x240E 0x20 0x2⟩, ⟨0x1D0D, 1, .letter 0x2428 0x20 0x2⟩,
      ⟨0x1D0E, 1, .letter 0x2433 0x20 0x2⟩, ⟨0x1D0F, 1, .letter 0x2443 0x20 0x2⟩,
      ⟨0x1D10, 1, .letter 0x2451 0x20 0x2⟩, ⟨0x1D11, 1, .letter 0x2444 0x20 0x2⟩,
      ⟨0x1D12, 1, .letter 0x2452 0x20 0x2⟩, ⟨0x1D13, 1, .letter 0x244D 0x20 0x2⟩,
      ⟨0x1D14, 1, .letter 0x2447 0x20 0x2⟩, ⟨0x1D15, 1, .letter 0x245F 0x20 0x2⟩,
      ⟨0x1D16, 2, .letter 0x2457 0x20 0x2⟩, ⟨0x1D18, 1, .letter 0x2461 0x20 0x2⟩,
      ⟨0x1D19, 1, .letter 0x2477 0x20 0x2⟩, ⟨0x1D1A, 1, .letter 0x247B 0x20 0x2⟩,
      ⟨0x1D1B, 1, .letter 0x24AB 0x20 0x2⟩, ⟨0x1D1C, 1, .letter 0x24B9 0x20 0x2⟩,
      ⟨0x1D1D, 2, .letter 0x24BB 0x20 0x2⟩, ⟨0x1D1F, 1, .letter 0x24CC 0x20 0x2⟩,
      ⟨0x1D20, 1, .letter 0x24D1 0x20 0x2⟩, ⟨0x1D21, 1, .letter 0x24DA 0x20 0x2⟩,
      ⟨0x1D22, 1, .letter 0x24EE 0x20 0x2⟩, ⟨0x1D23, 1, .letter 0x24F9 0x20 0x2⟩,
      ⟨0x1D24, 2, .letter 0x2520 0x20 0x2⟩, ⟨0x1D26, 1, .letter 0x2534 0x20 0x2⟩,
      ⟨0x1D27, 1, .letter 0x2542 0x20 0x2⟩, ⟨0x1D28, 1, .letter 0x2548 0x20 0x2⟩,
      ⟨0x1D29, 1, .letter 0x254D 0x20 0x2⟩, ⟨0x1D2A, 1, .letter 0x2558 0x20 0x2⟩,
      ⟨0x1D2B, 1, .letter 0x25CC 0x20 0x2⟩, ⟨0x1D2C, 1, .letter 0x2380 0x20 0x1D⟩,
      ⟨0x1D2D, 1, .like 0xC6 0x14 0x14⟩, ⟨0x1D2E, 1, .letter 0x238E 0x20 0x1D⟩,
      ⟨0x1D2F, 1, .letter 0x2391 0x20 0x2⟩, ⟨0x1D30, 2, .like 0x44 0x1D 0x1D⟩,
      ⟨0x1D32, 1, .letter 0x23B9 0x20 0x1D⟩, ⟨0x1D33, 8, .like 0x47 0x1D 0x1D⟩,
      ⟨0x1D3B, 1, .letter 0x2432 0x20 0x2⟩, ⟨0x1D3C, 1, .letter 0x2442 0x20 0x1D⟩,
      ⟨0x1D3D, 1, .letter 0x245E 0x20 0x1D⟩, ⟨0x1D3E, 1, .letter 0x2460 0x20 0x1D⟩,
      ⟨0x1D3F, 1, .letter 0x2473 0x20 0x1D⟩, ⟨0x1D40, 2, .like 0x54 0x1D 0x1D⟩,
      ⟨0x1D42, 1, .letter 0x24D9 0x20 0x1D⟩, ⟨0x1D43, 1, .letter 0x2380 0x20 0x14⟩,
      ⟨0x1D44, 2, .letter 0x2388 0x20 0x14⟩, ⟨0x1D46, 1, .letter 0x2386 0x20 0x14⟩,
      ⟨0x1D47, 1, .letter 0x238E 0x20 0x14⟩, ⟨0x1D48, 2, .like 0x64 0x14 0x14⟩,
      ⟨0x1D4A, 1, .letter 0x23BB 0x20 0x14⟩, ⟨0x1D4B, 1, .letter 0x23BD 0x20 0x14⟩,
      ⟨0x1D4C, 1, .letter 0x23C3 0x20 0x14⟩, ⟨0x1D4D, 1, .letter 0x23D1 0x20 0x14⟩,
      ⟨0x1D4E, 1, .letter 0x23F1 0x20 0x14⟩, ⟨0x1D4F, 1, .letter 0x2400 0x20 0x14⟩,
      ⟨0x1D50, 1, .letter 0x2427 0x20 0x14⟩, ⟨0x1D51, 1, .letter 0x243E 0x20 0x14⟩,
      ⟨0x1D52, 1, .letter 0x2442 0x20 0x14⟩, ⟨0x1D53, 1, .letter 0x2450 0x20 0x14⟩,
      ⟨0x1D54, 2, .letter 0x2457 0x20 0x14⟩, ⟨0x1D56, 1, .letter 0x2460 0x20 0x14⟩,
      ⟨0x1D57, 2, .like 0x74 0x14 0x14⟩, ⟨0x1D59, 1, .letter 0x24BB 0x20 0x14⟩,
      ⟨0x1D5A, 1, .letter 0x24CA 0x20 0x14⟩, ⟨0x1D5B, 1, .letter 0x24D0 0x20 0x14⟩,
      ⟨0x1D5C, 1, .letter 0x2521 0x20 0x14⟩, ⟨0x1D5D, 3, .like 0x3B2 0x14 0x14⟩,
      ⟨0x1D60, 2, .letter 0x2555 0x20 0x14⟩, ⟨0x1D62, 1, .letter 0x23EC 0x20 0x15⟩,
      ⟨0x1D63, 1, .letter 0x2473 0x20 0x15⟩, ⟨0x1D64, 2, .like 0x75 0x15 0x15⟩,
      ⟨0x1D66, 2, .letter 0x2532 0x20 0x15⟩, ⟨0x1D68, 1, .letter 0x254C 0x20 0x15⟩,
      ⟨0x1D69, 2, .letter 0x2555 0x20 0x15⟩, ⟨0x1D6B, 1, .letter 0x24BD 0x20 0x2⟩,
      ⟨0x1D6C, 1, .letter 0x2393 0x20 0x2⟩, ⟨0x1D6D, 1, .letter 0x23A7 0x20 0x2⟩,
      ⟨0x1D6E, 1, .letter 0x23CC 0x20 0x2⟩, ⟨0x1D6F, 1, .letter 0x2429 0x20 0x2⟩,
      ⟨0x1D70, 1, .letter 0x2434 0x20 0x2⟩, ⟨0x1D71, 1, .letter 0x2464 0x20 0x2⟩,
      ⟨0x1D72, 1, .letter 0x2479 0x20 0x2⟩, ⟨0x1D73, 1, .letter 0x2486 0x20 0x2⟩,
      ⟨0x1D74, 1, .letter 0x2498 0x20 0x2⟩, ⟨0x1D75, 1, .letter 0x24AE 0x20 0x2⟩,
      ⟨0x1D76, 1, .letter 0x24F0 0x20 0x2⟩, ⟨0x1D77, 1, .letter 0x23DB 0x20 0x2⟩,
      ⟨0x1D78, 1, .letter 0x25D8 0x20 0x14⟩,
      ⟨0x1D79, 1, .several [.letter 0x23D1 0x20 0x4, .mark 0x11E 0x4]⟩,
      ⟨0x1D7A, 1, .several [.letter 0x24AA 0x20 0x4, .mark 0x11E 0x4, .letter 0x23E0 0x20 0x4]⟩,
      ⟨0x1D7B, 1, .letter 0x23F3 0x20 0x2⟩, ⟨0x1D7C, 1, .letter 0x23F8 0x20 0x2⟩,
      ⟨0x1D7D, 1, .letter 0x2462 0x20 0x2⟩, ⟨0x1D7E, 1, .letter 0x24C3 0x20 0x2⟩,
      ⟨0x1D7F, 1, .letter 0x24CF 0x20 0x2⟩]⟩

def phoneticExtensionsSupplement : Chart :=
  ⟨0x1D80, 0x1DBF,
    [⟨0x1D80, 1, .letter 0x2395 0x20 0x2⟩, ⟨0x1D81, 1, .letter 0x23A8 0x20 0x2⟩,
      ⟨0x1D82, 1, .letter 0x23CD 0x20 0x2⟩, ⟨0x1D83, 1, .letter 0x23D8 0x20 0x2⟩,
      ⟨0x1D84, 1, .letter 0x2402 0x20 0x2⟩, ⟨0x1D85, 1, .letter 0x2419 0x20 0x2⟩,
      ⟨0x1D86, 1, .letter 0x242A 0x20 0x2⟩, ⟨0x1D87, 1, .letter 0x2438 0x20 0x2⟩,
      ⟨0x1D88, 1, .letter 0x2465 0x20 0x2⟩, ⟨0x1D89, 1, .letter 0x2480 0x20 0x2⟩,
      ⟨0x1D8A, 1, .letter 0x2499 0x20 0x2⟩, ⟨0x1D8B, 1, .letter 0x24A3 0x20 0x2⟩,
      ⟨0x1D8C, 1, .letter 0x24D3 0x20 0x2⟩, ⟨0x1D8D, 1, .letter 0x24DE 0x20 0x2⟩,
      ⟨0x1D8E, 1, .letter 0x24F1 0x20 0x2⟩, ⟨0x1D8F, 1, .letter 0x2383 0x20 0x2⟩,
      ⟨0x1D90, 1, .letter 0x238B 0x20 0x2⟩, ⟨0x1D91, 1, .letter 0x23AC 0x20 0x2⟩,
      ⟨0x1D92, 1, .letter 0x23B6 0x20 0x2⟩, ⟨0x1D93, 1, .letter 0x23BE 0x20 0x2⟩,
      ⟨0x1D94, 1, .letter 0x23C2 0x20 0x2⟩, ⟨0x1D95, 1, .letter 0x23BC 0x20 0x2⟩,
      ⟨0x1D96, 1, .letter 0x23F5 0x20 0x2⟩, ⟨0x1D97, 1, .letter 0x2454 0x20 0x2⟩,
      ⟨0x1D98, 1, .letter 0x24A4 0x20 0x2⟩, ⟨0x1D99, 1, .letter 0x24C4 0x20 0x2⟩,
      ⟨0x1D9A, 1, .letter 0x24FC 0x20 0x2⟩, ⟨0x1D9B, 1, .letter 0x238C 0x20 0x14⟩,
      ⟨0x1D9C, 1, .letter 0x2399 0x20 0x14⟩, ⟨0x1D9D, 1, .letter 0x23A0 0x20 0x14⟩,
      ⟨0x1D9E, 1, .like 0xF0 0x14 0x14⟩, ⟨0x1D9F, 1, .letter 0x23C1 0x20 0x14⟩,
      ⟨0x1DA0, 1, .letter 0x23C8 0x20 0x14⟩, ⟨0x1DA1, 1, .letter 0x23FE 0x20 0x14⟩,
      ⟨0x1DA2, 1, .letter 0x23D3 0x20 0x14⟩, ⟨0x1DA3, 1, .letter 0x24C7 0x20 0x14⟩,
      ⟨0x1DA4, 3, .like 0x268 0x14 0x14⟩, ⟨0x1DA7, 1, .letter 0x23F3 0x20 0x14⟩,
      ⟨0x1DA8, 1, .letter 0x23FD 0x20 0x14⟩, ⟨0x1DA9, 1, .letter 0x241A 0x20 0x14⟩,
      ⟨0x1DAA, 1, .letter 0x2419 0x20 0x14⟩, ⟨0x1DAB, 1, .letter 0x240C 0x20 0x14⟩,
      ⟨0x1DAC, 1, .letter 0x242B 0x20 0x14⟩, ⟨0x1DAD, 1, .letter 0x24CD 0x20 0x14⟩,
      ⟨0x1DAE, 4, .like 0x272 0x14 0x14⟩, ⟨0x1DB2, 1, .letter 0x246A 0x20 0x14⟩,
      ⟨0x1DB3, 2, .like 0x282 0x14 0x14⟩, ⟨0x1DB5, 1, .letter 0x24AF 0x20 0x14⟩,
      ⟨0x1DB6, 2, .like 0x289 0x14 0x14⟩, ⟨0x1DB8, 1, .letter 0x24B9 0x20 0x14⟩,
      ⟨0x1DB9, 2, .like 0x28B 0x14 0x14⟩, ⟨0x1DBB, 1, .letter 0x24ED 0x20 0x14⟩,
      ⟨0x1DBC, 3, .like 0x290 0x14 0x14⟩, ⟨0x1DBF, 1, .letter 0x253D 0x20 0x14⟩]⟩

def latinExtendedAdditional : Chart :=
  ⟨0x1E00, 0x1EFF,
    [⟨0x1E9A, 1, .spelled [0x61, 0x2BE] 0x4 0x4⟩, ⟨0x1E9C, 2, .letter 0x249F 0x20 0x2⟩,
      ⟨0x1E9E, 1, .several [.letter 0x2494 0x20 0xA, .mark 0x11E 0x4, .letter 0x2494 0x20 0xA]⟩,
      ⟨0x1E9F, 1, .letter 0x23B0 0x20 0x2⟩,
      ⟨0x1EFA, 1, .several [.letter 0x240B 0x20 0xA, .letter 0x240B 0x20 0xA]⟩,
      ⟨0x1EFB, 1, .several [.letter 0x240B 0x20 0x4, .letter 0x240B 0x20 0x4]⟩,
      ⟨0x1EFC, 2, .cased 0x24D7 0x20⟩, ⟨0x1EFE, 2, .cased 0x24EA 0x20⟩]⟩

def latinExtendedC : Chart :=
  ⟨0x2C60, 0x2C7F,
    [⟨0x2C60, 2, .cased 0x2411 0x20⟩, ⟨0x2C62, 1, .letter 0x2412 0x20 0x8⟩,
      ⟨0x2C63, 1, .letter 0x2462 0x20 0x8⟩, ⟨0x2C64, 1, .letter 0x2482 0x20 0x8⟩,
      ⟨0x2C65, 1, .letter 0x2382 0x20 0x2⟩, ⟨0x2C66, 1, .letter 0x24AD 0x20 0x2⟩,
      ⟨0x2C67, 2, .cased 0x23E5 0x20⟩, ⟨0x2C69, 2, .cased 0x2404 0x20⟩,
      ⟨0x2C6B, 2, .cased 0x24F6 0x20⟩, ⟨0x2C6D, 1, .letter 0x2389 0x20 0x8⟩,
      ⟨0x2C6E, 1, .letter 0x242B 0x20 0x8⟩, ⟨0x2C6F, 1, .letter 0x2388 0x20 0x8⟩,
      ⟨0x2C70, 1, .letter 0x238C 0x20 0x8⟩, ⟨0x2C71, 1, .letter 0x24D5 0x20 0x2⟩,
      ⟨0x2C72, 2, .cased 0x24DB 0x20⟩, ⟨0x2C74, 1, .letter 0x24D6 0x20 0x2⟩,
      ⟨0x2C75, 2, .cased 0x23E6 0x20⟩, ⟨0x2C77, 1, .letter 0x246B 0x20 0x2⟩,
      ⟨0x2C78, 1, .letter 0x23B8 0x20 0x2⟩, ⟨0x2C79, 1, .letter 0x247F 0x20 0x2⟩,
      ⟨0x2C7A, 1, .letter 0x2459 0x20 0x2⟩, ⟨0x2C7B, 1, .letter 0x23BA 0x20 0x2⟩,
      ⟨0x2C7C, 1, .letter 0x23F9 0x20 0x15⟩, ⟨0x2C7D, 1, .letter 0x24D0 0x20 0x1D⟩,
      ⟨0x2C7E, 1, .letter 0x249D 0x20 0x8⟩, ⟨0x2C7F, 1, .letter 0x24F5 0x20 0x8⟩]⟩

def modifierToneLetters : Chart := ⟨0xA700, 0xA71F, [⟨0xA700, 32, .letter 0x530 0x20 0x2⟩]⟩

def latinExtendedD : Chart :=
  ⟨0xA720, 0xA7FF,
    [⟨0xA720, 2, .letter 0x550 0x20 0x2⟩, ⟨0xA722, 2, .cased 0x251A 0x20⟩,
      ⟨0xA724, 2, .cased 0x2522 0x20⟩, ⟨0xA726, 2, .cased 0x23E8 0x20⟩,
      ⟨0xA728, 1, .several [.letter 0x24AA 0x20 0xA, .letter 0x24ED 0x20 0x4]⟩,
      ⟨0xA729, 1, .several [.letter 0x24AA 0x20 0x4, .letter 0x24ED 0x20 0x4]⟩,
      ⟨0xA72A, 6, .cased 0x250E 0x20⟩, ⟨0xA730, 1, .letter 0x23C9 0x20 0x2⟩,
      ⟨0xA731, 1, .letter 0x2495 0x20 0x2⟩,
      ⟨0xA732, 1, .several [.letter 0x2380 0x20 0xA, .letter 0x2380 0x20 0xA]⟩,
      ⟨0xA733, 1, .several [.letter 0x2380 0x20 0x4, .letter 0x2380 0x20 0x4]⟩,
      ⟨0xA734, 1, .several [.letter 0x2380 0x20 0xA, .letter 0x2442 0x20 0xA]⟩,
      ⟨0xA735, 1, .several [.letter 0x2380 0x20 0x4, .letter 0x2442 0x20 0x4]⟩,
      ⟨0xA736, 1, .several [.letter 0x2380 0x20 0xA, .letter 0x24B8 0x20 0xA]⟩,
      ⟨0xA737, 1, .several [.letter 0x2380 0x20 0x4, .letter 0x24B8 0x20 0x4]⟩,
      ⟨0xA738, 1, .several [.letter 0x2380 0x20 0xA, .letter 0x24D0 0x20 0xA]⟩,
      ⟨0xA739, 1, .several [.letter 0x2380 0x20 0x4, .letter 0x24D0 0x20 0x4]⟩,
      ⟨0xA73A, 1, .several [.letter 0x2380 0x20 0xA, .mark 0x11E 0x4, .letter 0x24D0 0x20 0xA]⟩,
      ⟨0xA73B, 1, .several [.letter 0x2380 0x20 0x4, .mark 0x11E 0x4, .letter 0x24D0 0x20 0x4]⟩,
      ⟨0xA73C, 1, .several [.letter 0x2380 0x20 0xA, .letter 0x24E6 0x20 0xA]⟩,
      ⟨0xA73D, 1, .several [.letter 0x2380 0x20 0x4, .letter 0x24E6 0x20 0x4]⟩,
      ⟨0xA73E, 2, .cased 0x23A2 0x20⟩, ⟨0xA740, 6, .cased 0x2405 0x20⟩,
      ⟨0xA746, 2, .cased 0x240D 0x20⟩, ⟨0xA748, 2, .cased 0x240F 0x20⟩,
      ⟨0xA74A, 2, .cased 0x245B 0x20⟩, ⟨0xA74C, 2, .cased 0x2456 0x20⟩,
      ⟨0xA74E, 1, .several [.letter 0x2442 0x20 0xA, .letter 0x2442 0x20 0xA]⟩,
      ⟨0xA74F, 1, .several [.letter 0x2442 0x20 0x4, .letter 0x2442 0x20 0x4]⟩,
      ⟨0xA750, 2, .cased 0x2463 0x20⟩, ⟨0xA752, 4, .cased 0x2467 0x20⟩,
      ⟨0xA756, 4, .cased 0x246E 0x20⟩,
      ⟨0xA75A, 1, .several [.letter 0x2473 0x20 0xA, .mark 0x124 0x4]⟩,
      ⟨0xA75B, 1, .several [.letter 0x2473 0x20 0x4, .mark 0x124 0x4]⟩,
      ⟨0xA75C, 2, .cased 0x2493 0x20⟩, ⟨0xA75E, 2, .cased 0x24D2 0x20⟩,
      ⟨0xA760, 1, .several [.letter 0x24D0 0x20 0xA, .letter 0x24E6 0x20 0xA]⟩,
      ⟨0xA761, 1, .several [.letter 0x24D0 0x20 0x4, .letter 0x24E6 0x20 0x4]⟩,
      ⟨0xA762, 2, .cased 0x24F7 0x20⟩, ⟨0xA764, 4, .cased 0x2501 0x20⟩,
      ⟨0xA768, 2, .cased 0x2505 0x20⟩, ⟨0xA76A, 6, .cased 0x2509 0x20⟩,
      ⟨0xA770, 1, .letter 0x250B 0x20 0x14⟩, ⟨0xA771, 1, .letter 0x23AF 0x20 0x2⟩,
      ⟨0xA772, 1, .letter 0x241F 0x20 0x2⟩, ⟨0xA773, 1, .letter 0x242F 0x20 0x2⟩,
      ⟨0xA774, 1, .letter 0x243D 0x20 0x2⟩, ⟨0xA775, 2, .letter 0x2491 0x20 0x2⟩,
      ⟨0xA777, 1, .letter 0x24B5 0x20 0x2⟩, ⟨0xA778, 1, .letter 0x250C 0x20 0x2⟩,
      ⟨0xA779, 1, .several [.letter 0x23A3 0x20 0xA, .mark 0x124 0x4]⟩,
      ⟨0xA77A, 1, .several [.letter 0x23A3 0x20 0x4, .mark 0x124 0x4]⟩,
      ⟨0xA77B, 1, .several [.letter 0x23C8 0x20 0xA, .mark 0x11E 0x4]⟩,
      ⟨0xA77C, 1, .several [.letter 0x23C8 0x20 0x4, .mark 0x11E 0x4]⟩,
      ⟨0xA77D, 1, .several [.letter 0x23D1 0x20 0xA, .mark 0x11E 0x4]⟩,
      ⟨0xA77E, 2, .cased 0x23DD 0x20⟩, ⟨0xA780, 2, .cased 0x2422 0x20⟩,
      ⟨0xA782, 1, .several [.letter 0x2473 0x20 0xA, .mark 0x11E 0x4]⟩,
      ⟨0xA783, 1, .several [.letter 0x2473 0x20 0x4, .mark 0x11E 0x4]⟩,
      ⟨0xA784, 1, .several [.letter 0x2494 0x20 0xA, .mark 0x124 0x4]⟩,
      ⟨0xA785, 1, .several [.letter 0x2494 0x20 0x4, .mark 0x124 0x4]⟩,
      ⟨0xA786, 1, .several [.letter 0x24AA 0x20 0xA, .mark 0x124 0x4]⟩,
      ⟨0xA787, 1, .several [.letter 0x24AA 0x20 0x4, .mark 0x124 0x4]⟩,
      ⟨0xA788, 3, .letter 0x552 0x20 0x2⟩, ⟨0xA78B, 2, .cased 0x251B 0x20⟩,
      ⟨0xA78D, 1, .letter 0x24C7 0x20 0x8⟩, ⟨0xA78E, 1, .letter 0x241C 0x20 0x2⟩,
      ⟨0xA78F, 1, .letter 0x251C 0x20 0x2⟩, ⟨0xA790, 2, .cased 0x2437 0x20⟩,
      ⟨0xA792, 2, .cased 0x239C 0x20⟩, ⟨0xA794, 1, .letter 0x239D 0x20 0x2⟩,
      ⟨0xA795, 1, .letter 0x23E3 0x20 0x2⟩, ⟨0xA796, 2, .cased 0x2394 0x20⟩,
      ⟨0xA798, 2, .cased 0x23CB 0x20⟩,
      ⟨0xA79A, 1, .several [.letter 0x2380 0x20 0xA, .mark 0x2B 0x4]⟩,
      ⟨0xA79B, 1, .several [.letter 0x2380 0x20 0x4, .mark 0x2B 0x4]⟩,
      ⟨0xA79C, 1, .several [.letter 0x2442 0x20 0xA, .mark 0x2B 0x4]⟩,
      ⟨0xA79D, 1, .several [.letter 0x2442 0x20 0x4, .mark 0x2B 0x4]⟩,
      ⟨0xA79E, 1, .several [.letter 0x24B8 0x20 0xA, .mark 0x2B 0x4]⟩,
      ⟨0xA79F, 1, .several [.letter 0x24B8 0x20 0x4, .mark 0x2B 0x4]⟩,
      ⟨0xA7A0, 1, .several [.letter 0x23D1 0x20 0xA, .mark 0x35 0x4]⟩,
      ⟨0xA7A1, 1, .several [.letter 0x23D1 0x20 0x4, .mark 0x35 0x4]⟩,
      ⟨0xA7A2, 1, .several [.letter 0x2400 0x20 0xA, .mark 0x35 0x4]⟩,
      ⟨0xA7A3, 1, .several [.letter 0x2400 0x20 0x4, .mark 0x35 0x4]⟩,
      ⟨0xA7A4, 1, .several [.letter 0x2430 0x20 0xA, .mark 0x35 0x4]⟩,
      ⟨0xA7A5, 1, .several [.letter 0x2430 0x20 0x4, .mark 0x35 0x4]⟩,
      ⟨0xA7A6, 1, .several [.letter 0x2473 0x20 0xA, .mark 0x35 0x4]⟩,
      ⟨0xA7A7, 1, .several [.letter 0x2473 0x20 0x4, .mark 0x35 0x4]⟩,
      ⟨0xA7A8, 1, .several [.letter 0x2494 0x20 0xA, .mark 0x35 0x4]⟩,
      ⟨0xA7A9, 1, .several [.letter 0x2494 0x20 0x4, .mark 0x35 0x4]⟩,
      ⟨0xA7AA, 1, .letter 0x23E4 0x20 0x8⟩, ⟨0xA7AB, 1, .letter 0x23C1 0x20 0x8⟩,
      ⟨0xA7AC, 1, .letter 0x23D3 0x20 0x8⟩, ⟨0xA7AD, 1, .letter 0x2415 0x20 0x8⟩,
      ⟨0xA7AE, 1, .letter 0x23EE 0x20 0x8⟩, ⟨0xA7AF, 1, .letter 0x246D 0x20 0x2⟩,
      ⟨0xA7B0, 1, .letter 0x2409 0x20 0x8⟩, ⟨0xA7B1, 1, .letter 0x24B6 0x20 0x8⟩,
      ⟨0xA7B2, 1, .letter 0x23FD 0x20 0x8⟩, ⟨0xA7B3, 1, .letter 0x24E3 0x20 0x8⟩,
      ⟨0xA7B4, 2, .cased 0x2398 0x20⟩, ⟨0xA7B6, 2, .cased 0x245D 0x20⟩,
      ⟨0xA7B8, 2, .cased 0x24C2 0x20⟩, ⟨0xA7BA, 2, .cased 0x2384 0x20⟩,
      ⟨0xA7BC, 2, .cased 0x23F6 0x20⟩, ⟨0xA7BE, 2, .cased 0x24C6 0x20⟩,
      ⟨0xA7C0, 1, .several [.letter 0x2380 0x20 0xA, .mark 0x31 0x4]⟩,
      ⟨0xA7C1, 1, .several [.letter 0x2380 0x20 0x4, .mark 0x31 0x4]⟩,
      ⟨0xA7C2, 1, .several [.letter 0x24D9 0x20 0x8, .mark 0x11E 0x2]⟩,
      ⟨0xA7C3, 1, .several [.letter 0x24D9 0x20 0x2, .mark 0x11E 0x2]⟩,
      ⟨0xA7C4, 1, .letter 0x239D 0x20 0x8⟩, ⟨0xA7C5, 1, .letter 0x249A 0x20 0x8⟩,
      ⟨0xA7C6, 1, .letter 0x24F1 0x20 0x8⟩, ⟨0xA7C7, 2, .cased 0x23A6 0x20⟩,
      ⟨0xA7C9, 2, .cased 0x2496 0x20⟩, ⟨0xA7CB, 1, .letter 0x23C7 0x20 0x8⟩,
      ⟨0xA7CC, 2, .cased 0x2497 0x20⟩, ⟨0xA7D0, 2, .cased 0x23D2 0x20⟩,
      ⟨0xA7D3, 1, .letter 0x2500 0x20 0x2⟩, ⟨0xA7D5, 1, .letter 0x2504 0x20 0x2⟩,
      ⟨0xA7D6, 2, .cased 0x249E 0x20⟩,
      ⟨0xA7D8, 1, .several [.letter 0x2494 0x20 0x8, .mark 0x127 0x2]⟩,
      ⟨0xA7D9, 1, .several [.letter 0x2494 0x20 0x2, .mark 0x127 0x2]⟩,
      ⟨0xA7DA, 2, .cased 0x2423 0x20⟩, ⟨0xA7DC, 1, .letter 0x2424 0x20 0x8⟩,
      ⟨0xA7F2, 1, .letter 0x2399 0x20 0x1D⟩, ⟨0xA7F3, 1, .letter 0x23C8 0x20 0x1D⟩,
      ⟨0xA7F4, 1, .letter 0x246C 0x20 0x1D⟩, ⟨0xA7F5, 2, .cased 0x23E7 0x20⟩,
      ⟨0xA7F7, 1, .letter 0x23F0 0x20 0x2⟩, ⟨0xA7F8, 1, .like 0x126 0x14 0x14⟩,
      ⟨0xA7F9, 1, .like 0x153 0x14 0x14⟩, ⟨0xA7FA, 1, .letter 0x24CB 0x20 0x2⟩,
      ⟨0xA7FB, 1, .letter 0x23D0 0x20 0x2⟩, ⟨0xA7FC, 1, .letter 0x2469 0x20 0x2⟩,
      ⟨0xA7FD, 1, .letter 0x242D 0x20 0x2⟩, ⟨0xA7FE, 1, .letter 0x23EF 0x20 0x2⟩,
      ⟨0xA7FF, 1, .letter 0x242E 0x20 0x2⟩]⟩

def latinExtendedE : Chart :=
  ⟨0xAB30, 0xAB6F,
    [⟨0xAB30, 1, .letter 0x238A 0x20 0x2⟩, ⟨0xAB31, 1, .letter 0x2387 0x20 0x2⟩,
      ⟨0xAB32, 2, .letter 0x23B3 0x20 0x2⟩, ⟨0xAB34, 1, .letter 0x23B7 0x20 0x2⟩,
      ⟨0xAB35, 1, .letter 0x23CA 0x20 0x2⟩, ⟨0xAB36, 1, .letter 0x23D5 0x20 0x2⟩,
      ⟨0xAB37, 1, .letter 0x2418 0x20 0x2⟩, ⟨0xAB38, 2, .letter 0x2413 0x20 0x2⟩,
      ⟨0xAB3A, 1, .letter 0x242C 0x20 0x2⟩, ⟨0xAB3B, 1, .letter 0x243C 0x20 0x2⟩,
      ⟨0xAB3C, 1, .letter 0x243F 0x20 0x2⟩, ⟨0xAB3D, 1, .letter 0x2445 0x20 0x2⟩,
      ⟨0xAB3E, 1, .letter 0x244E 0x20 0x2⟩, ⟨0xAB3F, 1, .letter 0x2453 0x20 0x2⟩,
      ⟨0xAB40, 1, .letter 0x244A 0x20 0x2⟩, ⟨0xAB41, 2, .letter 0x2448 0x20 0x2⟩,
      ⟨0xAB43, 2, .letter 0x244B 0x20 0x2⟩, ⟨0xAB45, 1, .letter 0x2474 0x20 0x2⟩,
      ⟨0xAB46, 1, .letter 0x2476 0x20 0x2⟩, ⟨0xAB47, 2, .letter 0x2489 0x20 0x2⟩,
      ⟨0xAB49, 1, .letter 0x2484 0x20 0x2⟩, ⟨0xAB4A, 3, .letter 0x248B 0x20 0x2⟩,
      ⟨0xAB4D, 1, .letter 0x24A2 0x20 0x2⟩, ⟨0xAB4E, 1, .letter 0x24BA 0x20 0x2⟩,
      ⟨0xAB4F, 1, .letter 0x24C1 0x20 0x2⟩, ⟨0xAB50, 2, .letter 0x24BE 0x20 0x2⟩,
      ⟨0xAB52, 1, .letter 0x24C5 0x20 0x2⟩, ⟨0xAB53, 3, .letter 0x24E3 0x20 0x2⟩,
      ⟨0xAB56, 4, .letter 0x24DF 0x20 0x2⟩, ⟨0xAB5A, 1, .letter 0x24EB 0x20 0x2⟩,
      ⟨0xAB5B, 1, .letter 0x555 0x20 0x2⟩, ⟨0xAB5C, 1, .letter 0x23E8 0x20 0x14⟩,
      ⟨0xAB5D, 1, .letter 0x2418 0x20 0x14⟩, ⟨0xAB5E, 1, .letter 0x2412 0x20 0x14⟩,
      ⟨0xAB5F, 1, .letter 0x24C5 0x20 0x14⟩, ⟨0xAB60, 2, .letter 0x2506 0x20 0x2⟩,
      ⟨0xAB62, 1, .letter 0x2455 0x20 0x2⟩, ⟨0xAB63, 1, .letter 0x2508 0x20 0x2⟩,
      ⟨0xAB64, 1, .letter 0x238D 0x20 0x2⟩, ⟨0xAB65, 1, .letter 0x255A 0x20 0x2⟩,
      ⟨0xAB66, 1, .several [.letter 0x23A3 0x20 0x4, .letter 0x24F3 0x20 0x4]⟩,
      ⟨0xAB67, 1, .several [.letter 0x24AA 0x20 0x4, .letter 0x249A 0x20 0x4]⟩,
      ⟨0xAB68, 1, .letter 0x248F 0x20 0x2⟩, ⟨0xAB69, 1, .letter 0x24DC 0x20 0x14⟩,
      ⟨0xAB6A, 2, .letter 0x506 0x20 0x2⟩]⟩

def alphabeticPresentationForms : Chart :=
  ⟨0xFB00, 0xFB4F,
    [⟨0xFB00, 1, .spelled [0x66, 0x66] 0x4 0x4⟩, ⟨0xFB01, 1, .spelled [0x66, 0x69] 0x4 0x4⟩,
      ⟨0xFB02, 1, .spelled [0x66, 0x6C] 0x4 0x4⟩,
      ⟨0xFB03, 1, .spelled [0x66, 0x66, 0x69] 0x4 0x4⟩,
      ⟨0xFB04, 1, .spelled [0x66, 0x66, 0x6C] 0x4 0x4⟩,
      ⟨0xFB05, 1, .several [.letter 0x2494 0x20 0x4, .mark 0x121 0x4, .letter 0x24AA 0x20 0x4]⟩,
      ⟨0xFB06, 1, .spelled [0x73, 0x74] 0x4 0x4⟩, ⟨0xFB13, 1, .spelled [0x574, 0x576] 0x4 0x4⟩,
      ⟨0xFB14, 1, .spelled [0x574, 0x565] 0x4 0x4⟩, ⟨0xFB15, 1, .spelled [0x574, 0x56B] 0x4 0x4⟩,
      ⟨0xFB16, 1, .spelled [0x57E, 0x576] 0x4 0x4⟩, ⟨0xFB17, 1, .spelled [0x574, 0x56D] 0x4 0x4⟩,
      ⟨0xFB1E, 1, .mark 0x61 0x2⟩, ⟨0xFB20, 1, .letter 0x271C 0x20 0x5⟩,
      ⟨0xFB21, 1, .letter 0x270D 0x20 0x5⟩, ⟨0xFB22, 2, .letter 0x2710 0x20 0x5⟩,
      ⟨0xFB24, 3, .letter 0x2717 0x20 0x5⟩, ⟨0xFB27, 1, .letter 0x2720 0x20 0x5⟩,
      ⟨0xFB28, 1, .letter 0x2722 0x20 0x5⟩, ⟨0xFB29, 1, .letter 0x6B4 0x20 0x5⟩,
      ⟨0xFB4F, 1, .spelled [0x5D0, 0x5DC] 0x4 0x4⟩]⟩

def latinExtendedF : Chart :=
  ⟨0x10780, 0x107BF,
    [⟨0x10780, 1, .several [.letter 0x2380 0x20 0x14, .letter 0x2380 0x20 0x14]⟩,
      ⟨0x10781, 2, .letter 0x212A 0x20 0x14⟩, ⟨0x10783, 1, .like 0xE6 0x14 0x14⟩,
      ⟨0x10784, 1, .letter 0x238F 0x20 0x14⟩, ⟨0x10785, 1, .letter 0x2396 0x20 0x14⟩,
      ⟨0x10787, 1, .like 0x2A3 0x14 0x14⟩, ⟨0x10788, 1, .like 0xAB66 0x14 0x14⟩,
      ⟨0x10789, 1, .like 0x2A5 0x14 0x14⟩, ⟨0x1078A, 1, .like 0x2A4 0x14 0x14⟩,
      ⟨0x1078B, 2, .letter 0x23A9 0x20 0x14⟩, ⟨0x1078D, 1, .letter 0x23AC 0x20 0x14⟩,
      ⟨0x1078E, 1, .letter 0x23BF 0x20 0x14⟩, ⟨0x1078F, 1, .letter 0x23C5 0x20 0x14⟩,
      ⟨0x10790, 1, .like 0x2A9 0x14 0x14⟩, ⟨0x10791, 1, .letter 0x23C7 0x20 0x14⟩,
      ⟨0x10792, 1, .letter 0x23D6 0x20 0x14⟩, ⟨0x10793, 2, .letter 0x23D9 0x20 0x14⟩,
      ⟨0x10795, 1, .like 0x127 0x14 0x14⟩, ⟨0x10796, 1, .letter 0x23E1 0x20 0x14⟩,
      ⟨0x10797, 1, .letter 0x23E9 0x20 0x14⟩, ⟨0x10798, 1, .letter 0x23FF 0x20 0x14⟩,
      ⟨0x10799, 2, .like 0x2AA 0x14 0x14⟩, ⟨0x1079B, 2, .letter 0x2415 0x20 0x14⟩,
      ⟨0x1079D, 1, .letter 0x241C 0x20 0x14⟩, ⟨0x1079E, 2, .letter 0x2420 0x20 0x14⟩,
      ⟨0x107A0, 2, .letter 0x2425 0x20 0x14⟩, ⟨0x107A2, 1, .like 0xF8 0x14 0x14⟩,
      ⟨0x107A3, 2, .like 0x276 0x14 0x14⟩, ⟨0x107A5, 1, .letter 0x246C 0x20 0x14⟩,
      ⟨0x107A6, 2, .letter 0x247C 0x20 0x14⟩, ⟨0x107A8, 2, .like 0x27D 0x14 0x14⟩,
      ⟨0x107AA, 1, .letter 0x2475 0x20 0x14⟩, ⟨0x107AB, 1, .like 0x2A8 0x14 0x14⟩,
      ⟨0x107AC, 1, .like 0x2A6 0x14 0x14⟩, ⟨0x107AD, 1, .like 0xAB67 0x14 0x14⟩,
      ⟨0x107AE, 1, .like 0x2A7 0x14 0x14⟩, ⟨0x107AF, 1, .letter 0x24B1 0x20 0x14⟩,
      ⟨0x107B0, 1, .letter 0x24D5 0x20 0x14⟩, ⟨0x107B2, 1, .letter 0x24E7 0x20 0x14⟩,
      ⟨0x107B3, 2, .letter 0x2523 0x20 0x14⟩, ⟨0x107B5, 1, .letter 0x252E 0x20 0x14⟩,
      ⟨0x107B6, 3, .letter 0x2527 0x20 0x14⟩, ⟨0x107B9, 1, .letter 0x252B 0x20 0x14⟩,
      ⟨0x107BA, 1, .letter 0x249C 0x20 0x14⟩]⟩

def latinExtendedG : Chart :=
  ⟨0x1DF00, 0x1DFFF,
    [⟨0x1DF00, 1, .several [.letter 0x23C8 0x20 0x2, .mark 0x124 0x2, .letter 0x243E 0x20 0x4]⟩,
      ⟨0x1DF01, 1, .letter 0x23D4 0x20 0x2⟩, ⟨0x1DF02, 1, .letter 0x23DC 0x20 0x2⟩,
      ⟨0x1DF03, 1, .letter 0x2408 0x20 0x2⟩, ⟨0x1DF04, 1, .letter 0x2416 0x20 0x2⟩,
      ⟨0x1DF05, 1, .letter 0x2421 0x20 0x2⟩, ⟨0x1DF06, 1, .letter 0x2426 0x20 0x2⟩,
      ⟨0x1DF07, 1, .letter 0x2441 0x20 0x2⟩, ⟨0x1DF08, 1, .letter 0x247D 0x20 0x2⟩,
      ⟨0x1DF09, 1, .letter 0x24B3 0x20 0x2⟩, ⟨0x1DF0A, 1, .letter 0x252B 0x20 0x2⟩,
      ⟨0x1DF0B, 2, .letter 0x24A8 0x20 0x2⟩, ⟨0x1DF0D, 1, .letter 0x24B7 0x20 0x2⟩,
      ⟨0x1DF0E, 1, .letter 0x2526 0x20 0x2⟩, ⟨0x1DF0F, 1, .letter 0x252D 0x20 0x2⟩,
      ⟨0x1DF10, 1, .letter 0x240A 0x20 0x2⟩, ⟨0x1DF11, 1, .letter 0x241D 0x20 0x2⟩,
      ⟨0x1DF12, 1, .several [.letter 0x23A3 0x20 0x4, .letter 0x24FB 0x20 0x4]⟩,
      ⟨0x1DF13, 1, .letter 0x2417 0x20 0x2⟩, ⟨0x1DF14, 1, .letter 0x2440 0x20 0x2⟩,
      ⟨0x1DF15, 1, .letter 0x2490 0x20 0x2⟩, ⟨0x1DF16, 1, .letter 0x2487 0x20 0x2⟩,
      ⟨0x1DF17, 1, .several [.letter 0x24AA 0x20 0x4, .letter 0x24A3 0x20 0x4]⟩,
      ⟨0x1DF18, 1, .letter 0x24FB 0x20 0x2⟩,
      ⟨0x1DF19, 1, .several [.letter 0x23A3 0x20 0x4, .letter 0x24FC 0x20 0x4]⟩,
      ⟨0x1DF1A, 1, .letter 0x23F4 0x20 0x2⟩, ⟨0x1DF1B, 1, .letter 0x244F 0x20 0x2⟩,
      ⟨0x1DF1C, 1, .several [.letter 0x24AA 0x20 0x4, .letter 0x24A4 0x20 0x4]⟩,
      ⟨0x1DF1D, 1, .letter 0x239E 0x20 0x2⟩, ⟨0x1DF1E, 1, .letter 0x249C 0x20 0x2⟩,
      ⟨0x1DF25, 1, .letter 0x23AB 0x20 0x2⟩, ⟨0x1DF26, 1, .letter 0x241B 0x20 0x2⟩,
      ⟨0x1DF27, 1, .letter 0x243A 0x20 0x2⟩, ⟨0x1DF28, 1, .letter 0x2483 0x20 0x2⟩,
      ⟨0x1DF29, 1, .letter 0x249B 0x20 0x2⟩, ⟨0x1DF2A, 1, .letter 0x24B2 0x20 0x2⟩]⟩

def latinCharts : List Chart :=
  [basicLatin, latin1Supplement, latinExtendedA, latinExtendedB, ipaExtensions,
    spacingModifierLetters, phoneticExtensions, phoneticExtensionsSupplement,
    latinExtendedAdditional, latinExtendedC, modifierToneLetters, latinExtendedD, latinExtendedE,
    alphabeticPresentationForms, latinExtendedF, latinExtendedG]

end CodeNotes.Collation
