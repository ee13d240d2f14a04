import CodeNotes.Collation.Weight
/-!
Collation weights of the Greek, Cyrillic, Glagolitic, Armenian and Georgian letters.
-/
namespace CodeNotes.Collation

def greekAndCoptic : Chart :=
  ⟨0x370, 0x3FF,
    [⟨0x370, 2, .cased 0x253B 0x20⟩, ⟨0x372, 2, .cased 0x255C 0x20⟩,
      ⟨0x375, 1, .letter 0x4F2 0x20 0x2⟩, ⟨0x376, 2, .cased 0x2538 0x20⟩,
      ⟨0x37A, 1, .letter 0x253E 0x20 0x4⟩, ⟨0x37B, 1, .letter 0x2551 0x20 0x2⟩,
      ⟨0x37C, 1, .letter 0x2550 0x20 0x2⟩, ⟨0x37D, 1, .letter 0x2552 0x20 0x2⟩,
      ⟨0x37F, 1, .letter 0x253F 0x20 0x8⟩, ⟨0x384, 1, .letter 0x4E1 0x20 0x2⟩,
      ⟨0x391, 3, .letter 0x2531 0x20 0x8⟩, ⟨0x394, 2, .letter 0x2535 0x20 0x8⟩,
      ⟨0x396, 1, .letter 0x253A 0x20 0x8⟩, ⟨0x397, 3, .letter 0x253C 0x20 0x8⟩,
      ⟨0x39A, 2, .letter 0x2540 0x20 0x8⟩, ⟨0x39C, 5, .letter 0x2543 0x20 0x8⟩,
      ⟨0x3A1, 1, .letter 0x254C 0x20 0x8⟩, ⟨0x3A3, 1, .letter 0x254F 0x20 0x8⟩,
      ⟨0x3A4, 5, .letter 0x2553 0x20 0x8⟩, ⟨0x3A9, 1, .letter 0x2559 0x20 0x8⟩,
      ⟨0x3B1, 3, .letter 0x2531 0x20 0x2⟩, ⟨0x3B4, 2, .letter 0x2535 0x20 0x2⟩,
      ⟨0x3B6, 1, .letter 0x253A 0x20 0x2⟩, ⟨0x3B7, 3, .letter 0x253C 0x20 0x2⟩,
      ⟨0x3BA, 2, .letter 0x2540 0x20 0x2⟩, ⟨0x3BC, 5, .letter 0x2543 0x20 0x2⟩,
      ⟨0x3C1, 1, .letter 0x254C 0x20 0x2⟩, ⟨0x3C2, 1, .letter 0x254F 0x20 0x19⟩,
      ⟨0x3C3, 1, .letter 0x254F 0x20 0x2⟩, ⟨0x3C4, 5, .letter 0x2553 0x20 0x2⟩,
      ⟨0x3C9, 1, .letter 0x2559 0x20 0x2⟩,
      ⟨0x3CF, 1, .several [.letter 0x2540 0x20 0xA, .letter 0x2531 0x20 0x4,
        .letter 0x253E 0x20 0x4]⟩,
      ⟨0x3D0, 1, .letter 0x2532 0x20 0x4⟩, ⟨0x3D1, 1, .letter 0x253D 0x20 0x4⟩,
      ⟨0x3D2, 1, .letter 0x2554 0x20 0xA⟩, ⟨0x3D5, 1, .letter 0x2555 0x20 0x4⟩,
      ⟨0x3D6, 1, .letter 0x2547 0x20 0x4⟩,
      ⟨0x3D7, 1, .several [.letter 0x2540 0x20 0x4, .letter 0x2531 0x20 0x4,
        .letter 0x253E 0x20 0x4]⟩,
      ⟨0x3D8, 2, .cased 0x254B 0x20⟩, ⟨0x3DA, 2, .cased 0x2539 0x20⟩,
      ⟨0x3DC, 2, .cased 0x2537 0x20⟩, ⟨0x3DE, 2, .cased 0x254A 0x20⟩,
      ⟨0x3E0, 2, .cased 0x255B 0x20⟩, ⟨0x3E2, 2, .cased 0x257D 0x20⟩,
      ⟨0x3E4, 4, .cased 0x2582 0x20⟩, ⟨0x3E8, 2, .cased 0x2586 0x20⟩,
      ⟨0x3EA, 2, .cased 0x258D 0x20⟩, ⟨0x3EC, 2, .cased 0x2590 0x20⟩,
      ⟨0x3EE, 2, .cased 0x2594 0x20⟩, ⟨0x3F0, 1, .letter 0x2540 0x20 0x4⟩,
      ⟨0x3F1, 2, .like 0x3C1 0x4 0x4⟩, ⟨0x3F3, 1, .letter 0x253F 0x20 0x2⟩,
      ⟨0x3F4, 1, .letter 0x253D 0x20 0xA⟩, ⟨0x3F5, 1, .letter 0x2536 0x20 0x4⟩,
      ⟨0x3F6, 1, .letter 0x6AF 0x20 0x2⟩, ⟨0x3F7, 2, .cased 0x255D 0x20⟩,
      ⟨0x3F9, 1, .letter 0x254F 0x20 0xA⟩, ⟨0x3FA, 2, .cased 0x2549 0x20⟩,
      ⟨0x3FC, 1, .letter 0x254E 0x20 0x2⟩, ⟨0x3FD, 1, .letter 0x2551 0x20 0x8⟩,
      ⟨0x3FE, 1, .letter 0x2550 0x20 0x8⟩, ⟨0x3FF, 1, .letter 0x2552 0x20 0x8⟩]⟩

def cyrillic : Chart :=
  ⟨0x400, 0x4FF,
    [⟨0x402, 1, .letter 0x25A7 0x20 0x8⟩, ⟨0x404, 1, .letter 0x25AC 0x20 0x8⟩,
      ⟨0x405, 1, .letter 0x25B6 0x20 0x8⟩, ⟨0x406, 1, .letter 0x25BE 0x20 0x8⟩,
      ⟨0x408, 1, .letter 0x25C1 0x20 0x8⟩, ⟨0x409, 1, .letter 0x25D1 0x20 0x8⟩,
      ⟨0x40A, 1, .letter 0x25DF 0x20 0x8⟩, ⟨0x40B, 1, .letter 0x25F3 0x20 0x8⟩,
      ⟨0x40F, 1, .letter 0x2614 0x20 0x8⟩, ⟨0x410, 1, .letter 0x259A 0x20 0x8⟩,
      ⟨0x411, 3, .letter 0x259D 0x20 0x8⟩, ⟨0x414, 1, .letter 0x25A4 0x20 0x8⟩,
      ⟨0x415, 1, .letter 0x25AB 0x20 0x8⟩, ⟨0x416, 1, .letter 0x25AD 0x20 0x8⟩,
      ⟨0x417, 1, .letter 0x25B1 0x20 0x8⟩, ⟨0x418, 1, .letter 0x25BC 0x20 0x8⟩,
      ⟨0x41A, 1, .letter 0x25C3 0x20 0x8⟩, ⟨0x41B, 1, .letter 0x25CB 0x20 0x8⟩,
      ⟨0x41C, 1, .letter 0x25D5 0x20 0x8⟩, ⟨0x41D, 1, .letter 0x25D8 0x20 0x8⟩,
      ⟨0x41E, 1, .letter 0x25E1 0x20 0x8⟩, ⟨0x41F, 1, .letter 0x25E3 0x20 0x8⟩,
      ⟨0x420, 1, .letter 0x25E7 0x20 0x8⟩, ⟨0x421, 1, .letter 0x25EA 0x20 0x8⟩,
      ⟨0x422, 1, .letter 0x25ED 0x20 0x8⟩, ⟨0x423, 1, .letter 0x25F4 0x20 0x8⟩,
      ⟨0x424, 2, .letter 0x25F9 0x20 0x8⟩, ⟨0x426, 1, .letter 0x2606 0x20 0x8⟩,
      ⟨0x427, 1, .letter 0x260B 0x20 0x8⟩, ⟨0x428, 1, .letter 0x2615 0x20 0x8⟩,
      ⟨0x429, 1, .letter 0x2617 0x20 0x8⟩, ⟨0x42A, 1, .letter 0x261B 0x20 0x8⟩,
      ⟨0x42B, 2, .letter 0x261D 0x20 0x8⟩, ⟨0x42D, 2, .letter 0x2622 0x20 0x8⟩,
      ⟨0x42F, 1, .letter 0x2626 0x20 0x8⟩, ⟨0x430, 1, .letter 0x259A 0x20 0x2⟩,
      ⟨0x431, 3, .letter 0x259D 0x20 0x2⟩, ⟨0x434, 1, .letter 0x25A4 0x20 0x2⟩,
      ⟨0x435, 1, .letter 0x25AB 0x20 0x2⟩, ⟨0x436, 1, .letter 0x25AD 0x20 0x2⟩,
      ⟨0x437, 1, .letter 0x25B1 0x20 0x2⟩, ⟨0x438, 1, .letter 0x25BC 0x20 0x2⟩,
      ⟨0x43A, 1, .letter 0x25C3 0x20 0x2⟩, ⟨0x43B, 1, .letter 0x25CB 0x20 0x2⟩,
      ⟨0x43C, 1, .letter 0x25D5 0x20 0x2⟩, ⟨0x43D, 1, .letter 0x25D8 0x20 0x2⟩,
      ⟨0x43E, 1, .letter 0x25E1 0x20 0x2⟩, ⟨0x43F, 1, .letter 0x25E3 0x20 0x2⟩,
      ⟨0x440, 1, .letter 0x25E7 0x20 0x2⟩, ⟨0x441, 1, .letter 0x25EA 0x20 0x2⟩,
      ⟨0x442, 1, .letter 0x25ED 0x20 0x2⟩, ⟨0x443, 1, .letter 0x25F4 0x20 0x2⟩,
      ⟨0x444, 2, .letter 0x25F9 0x20 0x2⟩, ⟨0x446, 1, .letter 0x2606 0x20 0x2⟩,
      ⟨0x447, 1, .letter 0x260B 0x20 0x2⟩, ⟨0x448, 1, .letter 0x2615 0x20 0x2⟩,
      ⟨0x449, 1, .letter 0x2617 0x20 0x2⟩, ⟨0x44A, 1, .letter 0x261B 0x20 0x2⟩,
      ⟨0x44B, 2, .letter 0x261D 0x20 0x2⟩, ⟨0x44D, 2, .letter 0x2622 0x20 0x2⟩,
      ⟨0x44F, 1, .letter 0x2626 0x20 0x2⟩, ⟨0x452, 1, .letter 0x25A7 0x20 0x2⟩,
      ⟨0x454, 1, .letter 0x25AC 0x20 0x2⟩, ⟨0x455, 1, .letter 0x25B6 0x20 0x2⟩,
      ⟨0x456, 1, .letter 0x25BE 0x20 0x2⟩, ⟨0x458, 1, .letter 0x25C1 0x20 0x2⟩,
      ⟨0x459, 1, .letter 0x25D1 0x20 0x2⟩, ⟨0x45A, 1, .letter 0x25DF 0x20 0x2⟩,
      ⟨0x45B, 1, .letter 0x25F3 0x20 0x2⟩, ⟨0x45F, 1, .letter 0x2614 0x20 0x2⟩,
      ⟨0x460, 2, .cased 0x2601 0x20⟩, ⟨0x462, 2, .cased 0x2620 0x20⟩,
      ⟨0x464, 4, .cased 0x2628 0x20⟩, ⟨0x468, 2, .cased 0x262D 0x20⟩,
      ⟨0x46A, 2, .cased 0x262B 0x20⟩, ⟨0x46C, 10, .cased 0x262F 0x20⟩,
      ⟨0x478, 2, .cased 0x25F8 0x20⟩, ⟨0x47A, 2, .cased 0x2605 0x20⟩,
      ⟨0x47C, 2, .cased 0x2604 0x20⟩, ⟨0x47E, 2, .cased 0x2602 0x20⟩,
      ⟨0x480, 2, .cased 0x25E6 0x20⟩, ⟨0x482, 1, .letter 0x564 0x20 0x2⟩,
      ⟨0x483, 1, .mark 0x50 0x2⟩, ⟨0x484, 1, .mark 0x33 0x2⟩, ⟨0x485, 1, .mark 0x23 0x2⟩,
      ⟨0x486, 1, .mark 0x22 0x2⟩, ⟨0x487, 1, .mark 0x33 0x2⟩, ⟨0x488, 2, .ignored⟩,
      ⟨0x48A, 2, .cased 0x25BD 0x20⟩, ⟨0x48C, 2, .cased 0x261F 0x20⟩,
      ⟨0x48E, 2, .cased 0x25E8 0x20⟩,
      ⟨0x490, 1, .several [.letter 0x259F 0x20 0xA, .mark 0x11E 0x4]⟩,
      ⟨0x491, 1, .several [.letter 0x259F 0x20 0x4, .mark 0x11E 0x4]⟩,
      ⟨0x492, 2, .cased 0x25A0 0x20⟩, ⟨0x494, 2, .cased 0x25A2 0x20⟩,
      ⟨0x496, 2, .cased 0x25B0 0x20⟩, ⟨0x498, 2, .cased 0x25AA 0x20⟩,
      ⟨0x49A, 2, .cased 0x25C4 0x20⟩, ⟨0x49C, 2, .cased 0x25C8 0x20⟩,
      ⟨0x49E, 2, .cased 0x25C7 0x20⟩, ⟨0x4A0, 2, .cased 0x25C6 0x20⟩,
      ⟨0x4A2, 2, .cased 0x25DB 0x20⟩, ⟨0x4A4, 2, .cased 0x25DE 0x20⟩,
      ⟨0x4A6, 2, .cased 0x25E5 0x20⟩, ⟨0x4A8, 2, .cased 0x2635 0x20⟩,
      ⟨0x4AA, 2, .cased 0x25EC 0x20⟩, ⟨0x4AC, 2, .cased 0x25F1 0x20⟩,
      ⟨0x4AE, 4, .cased 0x25F5 0x20⟩, ⟨0x4B2, 2, .cased 0x25FD 0x20⟩,
      ⟨0x4B4, 2, .cased 0x2609 0x20⟩, ⟨0x4B6, 2, .cased 0x260E 0x20⟩,
      ⟨0x4B8, 2, .cased 0x2610 0x20⟩, ⟨0x4BA, 2, .cased 0x25FE 0x20⟩,
      ⟨0x4BC, 4, .cased 0x2612 0x20⟩, ⟨0x4C0, 1, .letter 0x2637 0x20 0x8⟩,
      ⟨0x4C3, 2, .cased 0x25C5 0x20⟩, ⟨0x4C5, 2, .cased 0x25CD 0x20⟩,
      ⟨0x4C7, 2, .cased 0x25DC 0x20⟩, ⟨0x4C9, 2, .cased 0x25DA 0x20⟩,
      ⟨0x4CB, 2, .cased 0x260F 0x20⟩, ⟨0x4CD, 2, .cased 0x25D6 0x20⟩,
      ⟨0x4CF, 1, .letter 0x2637 0x20 0x2⟩, ⟨0x4D4, 2, .cased 0x259C 0x20⟩,
      ⟨0x4D8, 2, .cased 0x259B 0x20⟩, ⟨0x4E0, 2, .cased 0x25B8 0x20⟩,
      ⟨0x4E8, 2, .cased 0x25E2 0x20⟩, ⟨0x4F6, 2, .cased 0x25A3 0x20⟩,
      ⟨0x4FA, 2, .cased 0x25A1 0x20⟩, ⟨0x4FC, 4, .cased 0x25FB 0x20⟩]⟩

def cyrillicSupplement : Chart :=
  ⟨0x500, 0x52F,
    [⟨0x500, 2, .cased 0x25A5 0x20⟩, ⟨0x502, 2, .cased 0x25A9 0x20⟩,
      ⟨0x504, 2, .cased 0x25B3 0x20⟩, ⟨0x506, 2, .cased 0x25BA 0x20⟩,
      ⟨0x508, 2, .cased 0x25D3 0x20⟩, ⟨0x50A, 2, .cased 0x25E0 0x20⟩,
      ⟨0x50C, 2, .cased 0x25EB 0x20⟩, ⟨0x50E, 2, .cased 0x25F0 0x20⟩,
      ⟨0x510, 2, .cased 0x25B4 0x20⟩, ⟨0x512, 2, .cased 0x25CF 0x20⟩,
      ⟨0x514, 2, .cased 0x25D4 0x20⟩, ⟨0x516, 2, .cased 0x25E9 0x20⟩,
      ⟨0x518, 2, .cased 0x2627 0x20⟩, ⟨0x51A, 2, .cased 0x25CA 0x20⟩,
      ⟨0x51C, 2, .cased 0x2636 0x20⟩, ⟨0x51E, 2, .cased 0x25C9 0x20⟩,
      ⟨0x520, 2, .cased 0x25D0 0x20⟩, ⟨0x522, 2, .cased 0x25DD 0x20⟩,
      ⟨0x524, 2, .cased 0x25E4 0x20⟩, ⟨0x526, 2, .cased 0x25FF 0x20⟩,
      ⟨0x528, 2, .cased 0x25D9 0x20⟩, ⟨0x52A, 2, .cased 0x25AE 0x20⟩,
      ⟨0x52C, 2, .cased 0x260C 0x20⟩, ⟨0x52E, 2, .cased 0x25CE 0x20⟩]⟩

def armenian : Chart :=
  ⟨0x530, 0x58F,
    [⟨0x531, 1, .letter 0x26E4 0x20 0x8⟩, ⟨0x532, 20, .letter 0x26E6 0x20 0x8⟩,
      ⟨0x546, 17, .letter 0x26FB 0x20 0x8⟩, ⟨0x559, 1, .letter 0x270C 0x20 0x2⟩,
      ⟨0x55A, 2, .blank 0x401⟩, ⟨0x55C, 1, .blank 0x26C⟩, ⟨0x55D, 1, .blank 0x22C⟩,
      ⟨0x55E, 1, .blank 0x274⟩, ⟨0x55F, 1, .blank 0x403⟩, ⟨0x560, 1, .letter 0x26E5 0x20 0x2⟩,
      ⟨0x561, 1, .letter 0x26E4 0x20 0x2⟩, ⟨0x562, 20, .letter 0x26E6 0x20 0x2⟩,
      ⟨0x576, 17, .letter 0x26FB 0x20 0x2⟩, ⟨0x587, 1, .spelled [0x565, 0x582] 0x4 0x4⟩,
      ⟨0x588, 1, .letter 0x26FA 0x20 0x2⟩, ⟨0x589, 1, .blank 0x243⟩, ⟨0x58A, 1, .blank 0x20E⟩,
      ⟨0x58D, 2, .letter 0x565 0x20 0x2⟩, ⟨0x58F, 1, .letter 0x214C 0x20 0x2⟩]⟩

def georgian : Chart :=
  ⟨0x10A0, 0x10FF,
    [⟨0x10A0, 1, .letter 0x268F 0x20 0x8⟩, ⟨0x10A1, 1, .letter 0x2691 0x20 0x8⟩,
      ⟨0x10A2, 1, .letter 0x2693 0x20 0x8⟩, ⟨0x10A3, 1, .letter 0x2695 0x20 0x8⟩,
      ⟨0x10A4, 1, .letter 0x2697 0x20 0x8⟩, ⟨0x10A5, 1, .letter 0x2699 0x20 0x8⟩,
      ⟨0x10A6, 1, .letter 0x269B 0x20 0x8⟩, ⟨0x10A7, 1, .letter 0x269F 0x20 0x8⟩,
      ⟨0x10A8, 1, .letter 0x26A1 0x20 0x8⟩, ⟨0x10A9, 1, .letter 0x26A3 0x20 0x8⟩,
      ⟨0x10AA, 1, .letter 0x26A5 0x20 0x8⟩, ⟨0x10AB, 1, .letter 0x26A7 0x20 0x8⟩,
      ⟨0x10AC, 1, .letter 0x26A9 0x20 0x8⟩, ⟨0x10AD, 1, .letter 0x26AD 0x20 0x8⟩,
      ⟨0x10AE, 1, .letter 0x26AF 0x20 0x8⟩, ⟨0x10AF, 1, .letter 0x26B1 0x20 0x8⟩,
      ⟨0x10B0, 1, .letter 0x26B3 0x20 0x8⟩, ⟨0x10B1, 1, .letter 0x26B5 0x20 0x8⟩,
      ⟨0x10B2, 1, .letter 0x26B7 0x20 0x8⟩, ⟨0x10B3, 1, .letter 0x26BB 0x20 0x8⟩,
      ⟨0x10B4, 1, .letter 0x26BD 0x20 0x8⟩, ⟨0x10B5, 1, .letter 0x26BF 0x20 0x8⟩,
      ⟨0x10B6, 1, .letter 0x26C1 0x20 0x8⟩, ⟨0x10B7, 1, .letter 0x26C3 0x20 0x8⟩,
      ⟨0x10B8, 1, .letter 0x26C5 0x20 0x8⟩, ⟨0x10B9, 1, .letter 0x26C7 0x20 0x8⟩,
      ⟨0x10BA, 1, .letter 0x26C9 0x20 0x8⟩, ⟨0x10BB, 1, .letter 0x26CB 0x20 0x8⟩,
      ⟨0x10BC, 1, .letter 0x26CD 0x20 0x8⟩, ⟨0x10BD, 1, .letter 0x26CF 0x20 0x8⟩,
      ⟨0x10BE, 1, .letter 0x26D1 0x20 0x8⟩, ⟨0x10BF, 1, .letter 0x26D5 0x20 0x8⟩,
      ⟨0x10C0, 1, .letter 0x26D7 0x20 0x8⟩, ⟨0x10C1, 1, .letter 0x269D 0x20 0x8⟩,
      ⟨0x10C2, 1, .letter 0x26AB 0x20 0x8⟩, ⟨0x10C3, 1, .letter 0x26B9 0x20 0x8⟩,
      ⟨0x10C4, 1, .letter 0x26D3 0x20 0x8⟩, ⟨0x10C5, 1, .letter 0x26D9 0x20 0x8⟩,
      ⟨0x10C7, 1, .letter 0x26DC 0x20 0x8⟩, ⟨0x10CD, 1, .letter 0x26E1 0x20 0x8⟩,
      ⟨0x10D0, 1, .letter 0x268E 0x20 0x2⟩, ⟨0x10D1, 1, .letter 0x2690 0x20 0x2⟩,
      ⟨0x10D2, 1, .letter 0x2692 0x20 0x2⟩, ⟨0x10D3, 1, .letter 0x2694 0x20 0x2⟩,
      ⟨0x10D4, 1, .letter 0x2696 0x20 0x2⟩, ⟨0x10D5, 1, .letter 0x2698 0x20 0x2⟩,
      ⟨0x10D6, 1, .letter 0x269A 0x20 0x2⟩, ⟨0x10D7, 1, .letter 0x269E 0x20 0x2⟩,
      ⟨0x10D8, 1, .letter 0x26A0 0x20 0x2⟩, ⟨0x10D9, 1, .letter 0x26A2 0x20 0x2⟩,
      ⟨0x10DA, 1, .letter 0x26A4 0x20 0x2⟩, ⟨0x10DB, 1, .letter 0x26A6 0x20 0x2⟩,
      ⟨0x10DC, 1, .letter 0x26A8 0x20 0x2⟩, ⟨0x10DD, 1, .letter 0x26AC 0x20 0x2⟩,
      ⟨0x10DE, 1, .letter 0x26AE 0x20 0x2⟩, ⟨0x10DF, 1, .letter 0x26B0 0x20 0x2⟩,
      ⟨0x10E0, 1, .letter 0x26B2 0x20 0x2⟩, ⟨0x10E1, 1, .letter 0x26B4 0x20 0x2⟩,
      ⟨0x10E2, 1, .letter 0x26B6 0x20 0x2⟩, ⟨0x10E3, 1, .letter 0x26BA 0x20 0x2⟩,
      ⟨0x10E4, 1, .letter 0x26BC 0x20 0x2⟩, ⟨0x10E5, 1, .letter 0x26BE 0x20 0x2⟩,
      ⟨0x10E6, 1, .letter 0x26C0 0x20 0x2⟩, ⟨0x10E7, 1, .letter 0x26C2 0x20 0x2⟩,
      ⟨0x10E8, 1, .letter 0x26C4 0x20 0x2⟩, ⟨0x10E9, 1, .letter 0x26C6 0x20 0x2⟩,
      ⟨0x10EA, 1, .letter 0x26C8 0x20 0x2⟩, ⟨0x10EB, 1, .letter 0x26CA 0x20 0x2⟩,
      ⟨0x10EC, 1, .letter 0x26CC 0x20 0x2⟩, ⟨0x10ED, 1, .letter 0x26CE 0x20 0x2⟩,
      ⟨0x10EE, 1, .letter 0x26D0 0x20 0x2⟩, ⟨0x10EF, 1, .letter 0x26D4 0x20 0x2⟩,
      ⟨0x10F0, 1, .letter 0x26D6 0x20 0x2⟩, ⟨0x10F1, 1, .letter 0x269C 0x20 0x2⟩,
      ⟨0x10F2, 1, .letter 0x26AA 0x20 0x2⟩, ⟨0x10F3, 1, .letter 0x26B8 0x20 0x2⟩,
      ⟨0x10F4, 1, .letter 0x26D2 0x20 0x2⟩, ⟨0x10F5, 1, .letter 0x26D8 0x20 0x2⟩,
      ⟨0x10F6, 2, .letter 0x26DA 0x20 0x2⟩, ⟨0x10F8, 3, .letter 0x26DD 0x20 0x2⟩,
      ⟨0x10FB, 1, .blank 0x2DC⟩, ⟨0x10FC, 1, .letter 0x26A8 0x20 0x14⟩,
      ⟨0x10FD, 1, .letter 0x26E0 0x20 0x2⟩, ⟨0x10FE, 2, .letter 0x26E2 0x20 0x2⟩]⟩

def cyrillicExtendedC : Chart :=
  ⟨0x1C80, 0x1C8F,
    [⟨0x1C80, 1, .letter 0x259E 0x20 0x4⟩, ⟨0x1C81, 1, .letter 0x25A4 0x20 0x4⟩,
      ⟨0x1C82, 1, .letter 0x25E1 0x20 0x4⟩, ⟨0x1C83, 1, .letter 0x25EA 0x20 0x4⟩,
      ⟨0x1C84, 1, .letter 0x25ED 0x20 0x4⟩, ⟨0x1C85, 1, .letter 0x25ED 0x20 0x4⟩,
      ⟨0x1C86, 1, .letter 0x261B 0x20 0x4⟩, ⟨0x1C87, 1, .letter 0x2620 0x20 0x4⟩,
      ⟨0x1C88, 1, .letter 0x25F7 0x20 0x4⟩, ⟨0x1C89, 2, .cased 0x25EF 0x20⟩]⟩

def georgianExtended : Chart :=
  ⟨0x1C90, 0x1CBF,
    [⟨0x1C90, 1, .letter 0x268E 0x20 0x8⟩, ⟨0x1C91, 1, .letter 0x2690 0x20 0x8⟩,
      ⟨0x1C92, 1, .letter 0x2692 0x20 0x8⟩, ⟨0x1C93, 1, .letter 0x2694 0x20 0x8⟩,
      ⟨0x1C94, 1, .letter 0x2696 0x20 0x8⟩, ⟨0x1C95, 1, .letter 0x2698 0x20 0x8⟩,
      ⟨0x1C96, 1, .letter 0x269A 0x20 0x8⟩, ⟨0x1C97, 1, .letter 0x269E 0x20 0x8⟩,
      ⟨0x1C98, 1, .letter 0x26A0 0x20 0x8⟩, ⟨0x1C99, 1, .letter 0x26A2 0x20 0x8⟩,
      ⟨0x1C9A, 1, .letter 0x26A4 0x20 0x8⟩, ⟨0x1C9B, 1, .letter 0x26A6 0x20 0x8⟩,
      ⟨0x1C9C, 1, .letter 0x26A8 0x20 0x8⟩, ⟨0x1C9D, 1, .letter 0x26AC 0x20 0x8⟩,
      ⟨0x1C9E, 1, .letter 0x26AE 0x20 0x8⟩, ⟨0x1C9F, 1, .letter 0x26B0 0x20 0x8⟩,
      ⟨0x1CA0, 1, .letter 0x26B2 0x20 0x8⟩, ⟨0x1CA1, 1, .letter 0x26B4 0x20 0x8⟩,
      ⟨0x1CA2, 1, .letter 0x26B6 0x20 0x8⟩, ⟨0x1CA3, 1, .letter 0x26BA 0x20 0x8⟩,
      ⟨0x1CA4, 1, .letter 0x26BC 0x20 0x8⟩, ⟨0x1CA5, 1, .letter 0x26BE 0x20 0x8⟩,
      ⟨0x1CA6, 1, .letter 0x26C0 0x20 0x8⟩, ⟨0x1CA7, 1, .letter 0x26C2 0x20 0x8⟩,
      ⟨0x1CA8, 1, .letter 0x26C4 0x20 0x8⟩, ⟨0x1CA9, 1, .letter 0x26C6 0x20 0x8⟩,
      ⟨0x1CAA, 1, .letter 0x26C8 0x20 0x8⟩, ⟨0x1CAB, 1, .letter 0x26CA 0x20 0x8⟩,
      ⟨0x1CAC, 1, .letter 0x26CC 0x20 0x8⟩, ⟨0x1CAD, 1, .letter 0x26CE 0x20 0x8⟩,
      ⟨0x1CAE, 1, .letter 0x26D0 0x20 0x8⟩, ⟨0x1CAF, 1, .letter 0x26D4 0x20 0x8⟩,
      ⟨0x1CB0, 1, .letter 0x26D6 0x20 0x8⟩, ⟨0x1CB1, 1, .letter 0x269C 0x20 0x8⟩,
      ⟨0x1CB2, 1, .letter 0x26AA 0x20 0x8⟩, ⟨0x1CB3, 1, .letter 0x26B8 0x20 0x8⟩,
      ⟨0x1CB4, 1, .letter 0x26D2 0x20 0x8⟩, ⟨0x1CB5, 1, .letter 0x26D8 0x20 0x8⟩,
      ⟨0x1CB6, 2, .letter 0x26DA 0x20 0x8⟩, ⟨0x1CB8, 3, .letter 0x26DD 0x20 0x8⟩,
      ⟨0x1CBD, 1, .letter 0x26E0 0x20 0x8⟩, ⟨0x1CBE, 2, .letter 0x26E2 0x20 0x8⟩]⟩

def greekExtended : Chart :=
  ⟨0x1F00, 0x1FFF,
    [⟨0x1FBD, 1, .letter 0x4EC 0x20 0x2⟩, ⟨0x1FBF, 1, .letter 0x4EC 0x20 0x2⟩,
      ⟨0x1FC0, 1, .letter 0x4EE 0x20 0x2⟩, ⟨0x1FFE, 1, .letter 0x4ED 0x20 0x2⟩]⟩

def glagolitic : Chart :=
  ⟨0x2C00, 0x2C5F,
    [⟨0x2C00, 48, .letter 0x2638 0x20 0x8⟩, ⟨0x2C30, 48, .letter 0x2638 0x20 0x2⟩]⟩

def coptic : Chart :=
  ⟨0x2C80, 0x2CFF,
    [⟨0x2C80, 10, .cased 0x255E 0x20⟩, ⟨0x2C8A, 12, .cased 0x2564 0x20⟩,
      ⟨0x2C96, 6, .cased 0x256B 0x20⟩, ⟨0x2C9C, 22, .cased 0x2570 0x20⟩,
      ⟨0x2CB2, 4, .cased 0x2595 0x20⟩, ⟨0x2CB6, 2, .cased 0x2563 0x20⟩,
      ⟨0x2CB8, 2, .cased 0x256A 0x20⟩, ⟨0x2CBA, 4, .cased 0x256E 0x20⟩,
      ⟨0x2CBE, 4, .cased 0x257B 0x20⟩, ⟨0x2CC2, 6, .cased 0x257F 0x20⟩,
      ⟨0x2CC8, 2, .cased 0x2585 0x20⟩, ⟨0x2CCA, 12, .cased 0x2587 0x20⟩,
      ⟨0x2CD6, 2, .cased 0x258F 0x20⟩, ⟨0x2CD8, 6, .cased 0x2591 0x20⟩,
      ⟨0x2CDE, 6, .cased 0x2597 0x20⟩,
      ⟨0x2CE4, 1, .several [.letter 0x2569 0x20 0x4, .letter 0x255E 0x20 0x4,
        .letter 0x2568 0x20 0x4]⟩,
      ⟨0x2CE5, 6, .letter 0x11E4 0x20 0x2⟩, ⟨0x2CEB, 2, .cased 0x257E 0x20⟩,
      ⟨0x2CED, 2, .cased 0x258E 0x20⟩, ⟨0x2CEF, 1, .mark 0x33 0x2⟩, ⟨0x2CF0, 1, .mark 0x23 0x2⟩,
      ⟨0x2CF1, 1, .mark 0x22 0x2⟩, ⟨0x2CF2, 2, .cased 0x2584 0x20⟩, ⟨0x2CF9, 1, .blank 0x28C⟩,
      ⟨0x2CFA, 2, .blank 0x279⟩, ⟨0x2CFC, 1, .blank 0x326⟩, ⟨0x2CFD, 1, .letter 0x21E8 0x20 0x2⟩,
      ⟨0x2CFE, 1, .blank 0x28D⟩, ⟨0x2CFF, 1, .blank 0x327⟩]⟩

def georgianSupplement : Chart :=
  ⟨0x2D00, 0x2D2F,
    [⟨0x2D00, 1, .letter 0x268F 0x20 0x2⟩, ⟨0x2D01, 1, .letter 0x2691 0x20 0x2⟩,
      ⟨0x2D02, 1, .letter 0x2693 0x20 0x2⟩, ⟨0x2D03, 1, .letter 0x2695 0x20 0x2⟩,
      ⟨0x2D04, 1, .letter 0x2697 0x20 0x2⟩, ⟨0x2D05, 1, .letter 0x2699 0x20 0x2⟩,
      ⟨0x2D06, 1, .letter 0x269B 0x20 0x2⟩, ⟨0x2D07, 1, .letter 0x269F 0x20 0x2⟩,
      ⟨0x2D08, 1, .letter 0x26A1 0x20 0x2⟩, ⟨0x2D09, 1, .letter 0x26A3 0x20 0x2⟩,
      ⟨0x2D0A, 1, .letter 0x26A5 0x20 0x2⟩, ⟨0x2D0B, 1, .letter 0x26A7 0x20 0x2⟩,
      ⟨0x2D0C, 1, .letter 0x26A9 0x20 0x2⟩, ⟨0x2D0D, 1, .letter 0x26AD 0x20 0x2⟩,
      ⟨0x2D0E, 1, .letter 0x26AF 0x20 0x2⟩, ⟨0x2D0F, 1, .letter 0x26B1 0x20 0x2⟩,
      ⟨0x2D10, 1, .letter 0x26B3 0x20 0x2⟩, ⟨0x2D11, 1, .letter 0x26B5 0x20 0x2⟩,
      ⟨0x2D12, 1, .letter 0x26B7 0x20 0x2⟩, ⟨0x2D13, 1, .letter 0x26BB 0x20 0x2⟩,
      ⟨0x2D14, 1, .letter 0x26BD 0x20 0x2⟩, ⟨0x2D15, 1, .letter 0x26BF 0x20 0x2⟩,
      ⟨0x2D16, 1, .letter 0x26C1 0x20 0x2⟩, ⟨0x2D17, 1, .letter 0x26C3 0x20 0x2⟩,
      ⟨0x2D18, 1, .letter 0x26C5 0x20 0x2⟩, ⟨0x2D19, 1, .letter 0x26C7 0x20 0x2⟩,
      ⟨0x2D1A, 1, .letter 0x26C9 0x20 0x2⟩, ⟨0x2D1B, 1, .letter 0x26CB 0x20 0x2⟩,
      ⟨0x2D1C, 1, .letter 0x26CD 0x20 0x2⟩, ⟨0x2D1D, 1, .letter 0x26CF 0x20 0x2⟩,
      ⟨0x2D1E, 1, .letter 0x26D1 0x20 0x2⟩, ⟨0x2D1F, 1, .letter 0x26D5 0x20 0x2⟩,
      ⟨0x2D20, 1, .letter 0x26D7 0x20 0x2⟩, ⟨0x2D21, 1, .letter 0x269D 0x20 0x2⟩,
      ⟨0x2D22, 1, .letter 0x26AB 0x20 0x2⟩, ⟨0x2D23, 1, .letter 0x26B9 0x20 0x2⟩,
      ⟨0x2D24, 1, .letter 0x26D3 0x20 0x2⟩, ⟨0x2D25, 1, .letter 0x26D9 0x20 0x2⟩,
      ⟨0x2D27, 1, .letter 0x26DC 0x20 0x2⟩, ⟨0x2D2D, 1, .letter 0x26E1 0x20 0x2⟩]⟩

def cyrillicExtendedA : Chart :=
  ⟨0x2DE0, 0x2DFF,
    [⟨0x2DE0, 3, .letter 0x259D 0x20 0x4⟩, ⟨0x2DE3, 1, .letter 0x25A4 0x20 0x4⟩,
      ⟨0x2DE4, 1, .letter 0x25AD 0x20 0x4⟩, ⟨0x2DE5, 1, .letter 0x25B1 0x20 0x4⟩,
      ⟨0x2DE6, 1, .letter 0x25C3 0x20 0x4⟩, ⟨0x2DE7, 1, .letter 0x25CB 0x20 0x4⟩,
      ⟨0x2DE8, 1, .letter 0x25D5 0x20 0x4⟩, ⟨0x2DE9, 1, .letter 0x25D8 0x20 0x4⟩,
      ⟨0x2DEA, 1, .letter 0x25E1 0x20 0x4⟩, ⟨0x2DEB, 1, .letter 0x25E3 0x20 0x4⟩,
      ⟨0x2DEC, 1, .letter 0x25E7 0x20 0x4⟩, ⟨0x2DED, 1, .letter 0x25EA 0x20 0x4⟩,
      ⟨0x2DEE, 1, .letter 0x25ED 0x20 0x4⟩, ⟨0x2DEF, 1, .letter 0x25FA 0x20 0x4⟩,
      ⟨0x2DF0, 1, .letter 0x2606 0x20 0x4⟩, ⟨0x2DF1, 1, .letter 0x260B 0x20 0x4⟩,
      ⟨0x2DF2, 1, .letter 0x2615 0x20 0x4⟩, ⟨0x2DF3, 1, .letter 0x2617 0x20 0x4⟩,
      ⟨0x2DF4, 1, .letter 0x2632 0x20 0x4⟩,
      ⟨0x2DF5, 1, .several [.letter 0x25EA 0x20 0x4, .letter 0x25ED 0x20 0x4]⟩,
      ⟨0x2DF6, 1, .letter 0x259A 0x20 0x4⟩, ⟨0x2DF7, 1, .letter 0x25AB 0x20 0x4⟩,
      ⟨0x2DF8, 1, .letter 0x25C2 0x20 0x4⟩, ⟨0x2DF9, 1, .letter 0x25F7 0x20 0x4⟩,
      ⟨0x2DFA, 1, .letter 0x2620 0x20 0x4⟩, ⟨0x2DFB, 1, .letter 0x2623 0x20 0x4⟩,
      ⟨0x2DFC, 1, .letter 0x2625 0x20 0x4⟩, ⟨0x2DFD, 1, .letter 0x2629 0x20 0x4⟩,
      ⟨0x2DFE, 1, .letter 0x262B 0x20 0x4⟩, ⟨0x2DFF, 1, .letter 0x262F 0x20 0x4⟩]⟩

def cyrillicExtendedB : Chart :=
  ⟨0xA640, 0xA69F,
    [⟨0xA640, 2, .cased 0x25B2 0x20⟩, ⟨0xA642, 2, .cased 0x25B5 0x20⟩,
      ⟨0xA644, 2, .cased 0x25B7 0x20⟩, ⟨0xA646, 2, .cased 0x25BF 0x20⟩,
      ⟨0xA648, 2, .cased 0x25C2 0x20⟩, ⟨0xA64A, 2, .cased 0x25F7 0x20⟩,
      ⟨0xA64C, 2, .cased 0x2603 0x20⟩, ⟨0xA64E, 2, .cased 0x2618 0x20⟩,
      ⟨0xA650, 2, .cased 0x261C 0x20⟩, ⟨0xA652, 2, .cased 0x2621 0x20⟩,
      ⟨0xA654, 4, .cased 0x2624 0x20⟩, ⟨0xA658, 2, .cased 0x262A 0x20⟩,
      ⟨0xA65A, 2, .cased 0x262C 0x20⟩, ⟨0xA65C, 2, .cased 0x262E 0x20⟩,
      ⟨0xA65E, 2, .cased 0x2634 0x20⟩, ⟨0xA660, 2, .cased 0x2607 0x20⟩,
      ⟨0xA662, 2, .cased 0x25A8 0x20⟩, ⟨0xA664, 2, .cased 0x25D2 0x20⟩,
      ⟨0xA666, 2, .cased 0x25D7 0x20⟩, ⟨0xA668, 1, .letter 0x25E1 0x20 0xA⟩,
      ⟨0xA669, 1, .letter 0x25E1 0x20 0x4⟩, ⟨0xA66A, 1, .letter 0x25E1 0x20 0xA⟩,
      ⟨0xA66B, 1, .letter 0x25E1 0x20 0x4⟩, ⟨0xA66C, 1, .letter 0x25E1 0x20 0xA⟩,
      ⟨0xA66D, 1, .letter 0x25E1 0x20 0x4⟩, ⟨0xA66E, 1, .letter 0x25E1 0x20 0x4⟩,
      ⟨0xA66F, 1, .mark 0x51 0x2⟩, ⟨0xA670, 3, .ignored⟩, ⟨0xA673, 1, .blank 0x3C2⟩,
      ⟨0xA674, 1, .letter 0x25AC 0x20 0x4⟩, ⟨0xA675, 1, .letter 0x25BC 0x20 0x4⟩,
      ⟨0xA676, 1, .several [.letter 0x25BE 0x20 0x4, .mark 0x2B 0x4]⟩,
      ⟨0xA677, 1, .letter 0x25F4 0x20 0x4⟩, ⟨0xA678, 1, .letter 0x261B 0x20 0x4⟩,
      ⟨0xA679, 2, .letter 0x261D 0x20 0x4⟩, ⟨0xA67B, 1, .letter 0x2601 0x20 0x4⟩,
      ⟨0xA67C, 1, .mark 0x33 0x2⟩, ⟨0xA67D, 1, .mark 0x33 0x2⟩, ⟨0xA67E, 1, .blank 0x400⟩,
      ⟨0xA67F, 1, .letter 0x261A 0x20 0x2⟩, ⟨0xA680, 2, .cased 0x25A6 0x20⟩,
      ⟨0xA682, 2, .cased 0x25BB 0x20⟩, ⟨0xA684, 2, .cased 0x25AF 0x20⟩,
      ⟨0xA686, 2, .cased 0x2611 0x20⟩, ⟨0xA688, 2, .cased 0x25B9 0x20⟩,
      ⟨0xA68A, 2, .cased 0x25F2 0x20⟩, ⟨0xA68C, 2, .cased 0x25EE 0x20⟩,
      ⟨0xA68E, 2, .cased 0x2608 0x20⟩, ⟨0xA690, 2, .cased 0x260A 0x20⟩,
      ⟨0xA692, 2, .cased 0x260D 0x20⟩, ⟨0xA694, 2, .cased 0x2600 0x20⟩,
      ⟨0xA696, 2, .cased 0x2616 0x20⟩, ⟨0xA698, 1, .letter 0x25E1 0x20 0xA⟩,
      ⟨0xA699, 1, .letter 0x25E1 0x20 0x4⟩, ⟨0xA69A, 1, .letter 0x25E1 0x20 0xA⟩,
      ⟨0xA69B, 1, .letter 0x25E1 0x20 0x4⟩, ⟨0xA69C, 1, .letter 0x261B 0x20 0x14⟩,
      ⟨0xA69D, 1, .letter 0x261E 0x20 0x14⟩, ⟨0xA69E, 1, .letter 0x25F9 0x20 0x4⟩,
      ⟨0xA69F, 1, .letter 0x2628 0x20 0x4⟩]⟩

def glagoliticSupplement : Chart :=
  ⟨0x1E000, 0x1E02F,
    [⟨0x1E000, 7, .letter 0x2638 0x20 0x4⟩, ⟨0x1E008, 17, .letter 0x2640 0x20 0x4⟩,
      ⟨0x1E01B, 7, .letter 0x2653 0x20 0x4⟩, ⟨0x1E023, 2, .letter 0x265B 0x20 0x4⟩,
      ⟨0x1E026, 5, .letter 0x265E 0x20 0x4⟩]⟩

def cyrillicExtendedD : Chart :=
  ⟨0x1E030, 0x1E08F,
    [⟨0x1E030, 9, .like 0x430 0x14 0x14⟩, ⟨0x1E039, 3, .like 0x43A 0x14 0x14⟩,
      ⟨0x1E03C, 11, .like 0x43E 0x14 0x14⟩, ⟨0x1E047, 1, .letter 0x261D 0x20 0x14⟩,
      ⟨0x1E048, 2, .letter 0x2622 0x20 0x14⟩, ⟨0x1E04A, 1, .letter 0x25B9 0x20 0x14⟩,
      ⟨0x1E04B, 1, .letter 0x259B 0x20 0x14⟩, ⟨0x1E04C, 1, .letter 0x25BE 0x20 0x14⟩,
      ⟨0x1E04D, 1, .letter 0x25C1 0x20 0x14⟩, ⟨0x1E04E, 1, .letter 0x25E2 0x20 0x14⟩,
      ⟨0x1E04F, 1, .letter 0x25F5 0x20 0x14⟩, ⟨0x1E050, 1, .letter 0x2637 0x20 0x14⟩,
      ⟨0x1E051, 9, .like 0x430 0x15 0x15⟩, ⟨0x1E05A, 2, .like 0x43A 0x15 0x15⟩,
      ⟨0x1E05C, 2, .like 0x43E 0x15 0x15⟩, ⟨0x1E05E, 1, .letter 0x25EA 0x20 0x15⟩,
      ⟨0x1E05F, 6, .like 0x443 0x15 0x15⟩, ⟨0x1E065, 2, .like 0x44A 0x15 0x15⟩,
      ⟨0x1E067, 1, .like 0x491 0x2 0x2⟩, ⟨0x1E068, 1, .letter 0x25BE 0x20 0x15⟩,
      ⟨0x1E069, 1, .letter 0x25B6 0x20 0x15⟩, ⟨0x1E06A, 1, .letter 0x2614 0x20 0x15⟩,
      ⟨0x1E06B, 1, .letter 0x25EC 0x20 0x14⟩, ⟨0x1E06C, 1, .letter 0x261C 0x20 0x14⟩,
      ⟨0x1E06D, 1, .letter 0x25F6 0x20 0x14⟩, ⟨0x1E08F, 1, .letter 0x25BE 0x20 0x4⟩]⟩

def europeanCharts : List Chart :=
  [greekAndCoptic, cyrillic, cyrillicSupplement, armenian, georgian, cyrillicExtendedC,
    georgianExtended, greekExtended, glagolitic, coptic, georgianSupplement, cyrillicExtendedA,
    cyrillicExtendedB, glagoliticSupplement, cyrillicExtendedD]

end CodeNotes.Collation
