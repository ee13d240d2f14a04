import CodeNotes.Collation.Weight
/-!
Collation weights of the scripts of the Near East, which run from right to left.
-/
namespace CodeNotes.Collation

def hebrew : Chart :=
  ⟨0x590, 0x5FF,
    [⟨0x591, 31, .ignored⟩, ⟨0x5B0, 10, .mark 0x52 0x2⟩, ⟨0x5BA, 2, .mark 0x5B 0x2⟩,
      ⟨0x5BC, 1, .mark 0x5F 0x2⟩, ⟨0x5BD, 1, .ignored⟩, ⟨0x5BE, 1, .blank 0x404⟩,
      ⟨0x5BF, 1, .mark 0x60 0x2⟩, ⟨0x5C0, 1, .blank 0x405⟩, ⟨0x5C1, 1, .mark 0x5E 0x2⟩,
      ⟨0x5C2, 1, .mark 0x5D 0x2⟩, ⟨0x5C3, 1, .blank 0x406⟩, ⟨0x5C4, 2, .ignored⟩,
      ⟨0x5C6, 1, .blank 0x407⟩, ⟨0x5C7, 1, .mark 0x5A 0x2⟩, ⟨0x5D0, 10, .letter 0x270D 0x20 0x2⟩,
      ⟨0x5DA, 1, .letter 0x2717 0x20 0x19⟩, ⟨0x5DB, 2, .letter 0x2717 0x20 0x2⟩,
      ⟨0x5DD, 1, .letter 0x2719 0x20 0x19⟩, ⟨0x5DE, 1, .letter 0x2719 0x20 0x2⟩,
      ⟨0x5DF, 1, .letter 0x271A 0x20 0x19⟩, ⟨0x5E0, 3, .letter 0x271A 0x20 0x2⟩,
      ⟨0x5E3, 1, .letter 0x271D 0x20 0x19⟩, ⟨0x5E4, 1, .letter 0x271D 0x20 0x2⟩,
      ⟨0x5E5, 1, .letter 0x271E 0x20 0x19⟩, ⟨0x5E6, 5, .letter 0x271E 0x20 0x2⟩,
      ⟨0x5EF, 1, .several [.letter 0x2716 0x20 0x4, .letter 0x2711 0x20 0x4,
        .letter 0x2712 0x20 0x4, .letter 0x2711 0x20 0x4]⟩,
      ⟨0x5F0, 1, .several [.letter 0x2712 0x20 0x4, .letter 0x2712 0x20 0x4]⟩,
      ⟨0x5F1, 1, .several [.letter 0x2712 0x20 0x4, .letter 0x2716 0x20 0x4]⟩,
      ⟨0x5F2, 1, .several [.letter 0x2716 0x20 0x4, .letter 0x2716 0x20 0x4]⟩,
      ⟨0x5F3, 1, .blank 0x337⟩, ⟨0x5F4, 1, .blank 0x33A⟩]⟩

def arabic : Chart :=
  ⟨0x600, 0x6FF,
    [⟨0x600, 6, .ignored⟩, ⟨0x606, 1, .letter 0x6CD 0x20 0x2⟩,
      ⟨0x607, 1, .letter 0x6CF 0x20 0x2⟩, ⟨0x608, 1, .letter 0x567 0x20 0x2⟩,
      ⟨0x609, 1, .blank 0x3CD⟩, ⟨0x60A, 1, .blank 0x3CF⟩, ⟨0x60B, 1, .letter 0x214D 0x20 0x2⟩,
      ⟨0x60C, 2, .blank 0x22D⟩, ⟨0x60E, 2, .letter 0x56A 0x20 0x2⟩, ⟨0x610, 11, .ignored⟩,
      ⟨0x61B, 1, .blank 0x23D⟩, ⟨0x61C, 1, .ignored⟩, ⟨0x61D, 1, .blank 0x2D9⟩,
      ⟨0x61E, 1, .blank 0x244⟩, ⟨0x61F, 1, .blank 0x275⟩, ⟨0x620, 1, .letter 0x2839 0x20 0x2⟩,
      ⟨0x621, 1, .letter 0x2753 0x20 0x2⟩, ⟨0x627, 1, .letter 0x2761 0x20 0x2⟩,
      ⟨0x628, 1, .letter 0x2763 0x20 0x2⟩, ⟨0x629, 3, .letter 0x2773 0x20 0x2⟩,
      ⟨0x62C, 1, .letter 0x277E 0x20 0x2⟩, ⟨0x62D, 2, .letter 0x2789 0x20 0x2⟩,
      ⟨0x62F, 2, .letter 0x2794 0x20 0x2⟩, ⟨0x631, 2, .letter 0x27A4 0x20 0x2⟩,
      ⟨0x633, 2, .letter 0x27B7 0x20 0x2⟩, ⟨0x635, 2, .letter 0x27C2 0x20 0x2⟩,
      ⟨0x637, 2, .letter 0x27C8 0x20 0x2⟩, ⟨0x639, 2, .letter 0x27CF 0x20 0x2⟩,
      ⟨0x63B, 1, .letter 0x27FE 0x20 0x2⟩, ⟨0x63C, 1, .letter 0x2800 0x20 0x2⟩,
      ⟨0x63D, 3, .letter 0x2836 0x20 0x2⟩, ⟨0x640, 1, .ignored⟩,
      ⟨0x641, 1, .letter 0x27D8 0x20 0x2⟩, ⟨0x642, 1, .letter 0x27E4 0x20 0x2⟩,
      ⟨0x643, 1, .letter 0x27EB 0x20 0x2⟩, ⟨0x644, 1, .letter 0x2804 0x20 0x2⟩,
      ⟨0x645, 1, .letter 0x280C 0x20 0x2⟩, ⟨0x646, 1, .letter 0x2810 0x20 0x2⟩,
      ⟨0x647, 1, .letter 0x281B 0x20 0x2⟩, ⟨0x648, 1, .letter 0x2821 0x20 0x2⟩,
      ⟨0x649, 2, .letter 0x282F 0x20 0x2⟩, ⟨0x64B, 1, .mark 0x6D 0x2⟩,
      ⟨0x64C, 1, .mark 0x70 0x2⟩, ⟨0x64D, 1, .mark 0x73 0x2⟩, ⟨0x64E, 1, .mark 0x76 0x2⟩,
      ⟨0x64F, 1, .mark 0x7A 0x2⟩, ⟨0x650, 1, .mark 0x7D 0x2⟩, ⟨0x651, 5, .mark 0x80 0x2⟩,
      ⟨0x656, 3, .mark 0x86 0x2⟩, ⟨0x659, 6, .mark 0x8A 0x2⟩, ⟨0x65F, 1, .mark 0x85 0x2⟩,
      ⟨0x660, 10, .letter 0x217D 0x20 0x2⟩, ⟨0x66A, 1, .blank 0x3CB⟩, ⟨0x66B, 2, .blank 0x22F⟩,
      ⟨0x66D, 1, .blank 0x3C1⟩, ⟨0x66E, 1, .letter 0x2762 0x20 0x2⟩,
      ⟨0x66F, 1, .letter 0x27E3 0x20 0x2⟩, ⟨0x670, 1, .mark 0x98 0x2⟩,
      ⟨0x671, 1, .letter 0x2757 0x20 0x2⟩, ⟨0x672, 1, .letter 0x2756 0x20 0x2⟩,
      ⟨0x673, 1, .letter 0x275A 0x20 0x2⟩, ⟨0x674, 1, .letter 0x2753 0x20 0x4⟩,
      ⟨0x675, 1, .several [.letter 0x2753 0x20 0x4, .letter 0x2761 0x20 0x4]⟩,
      ⟨0x676, 1, .several [.letter 0x2753 0x20 0x4, .letter 0x2821 0x20 0x4]⟩,
      ⟨0x677, 1, .several [.letter 0x2753 0x20 0x4, .letter 0x2825 0x20 0x4]⟩,
      ⟨0x678, 1, .several [.letter 0x2753 0x20 0x4, .letter 0x2830 0x20 0x4]⟩,
      ⟨0x679, 2, .letter 0x2776 0x20 0x2⟩, ⟨0x67B, 1, .letter 0x2764 0x20 0x2⟩,
      ⟨0x67C, 2, .letter 0x2778 0x20 0x2⟩, ⟨0x67E, 1, .letter 0x2765 0x20 0x2⟩,
      ⟨0x67F, 1, .letter 0x277A 0x20 0x2⟩, ⟨0x680, 1, .letter 0x2766 0x20 0x2⟩,
      ⟨0x681, 2, .letter 0x278B 0x20 0x2⟩, ⟨0x683, 2, .letter 0x277F 0x20 0x2⟩,
      ⟨0x685, 1, .letter 0x278D 0x20 0x2⟩, ⟨0x686, 1, .letter 0x2782 0x20 0x2⟩,
      ⟨0x687, 1, .letter 0x2784 0x20 0x2⟩, ⟨0x688, 6, .letter 0x2796 0x20 0x2⟩,
      ⟨0x68E, 3, .letter 0x279D 0x20 0x2⟩, ⟨0x691, 9, .letter 0x27A6 0x20 0x2⟩,
      ⟨0x69A, 3, .letter 0x27B9 0x20 0x2⟩, ⟨0x69D, 1, .letter 0x27C4 0x20 0x2⟩,
      ⟨0x69E, 1, .letter 0x27C6 0x20 0x2⟩, ⟨0x69F, 1, .letter 0x27CA 0x20 0x2⟩,
      ⟨0x6A0, 1, .letter 0x27D1 0x20 0x2⟩, ⟨0x6A1, 2, .letter 0x27D9 0x20 0x2⟩,
      ⟨0x6A3, 2, .letter 0x27DC 0x20 0x2⟩, ⟨0x6A5, 2, .letter 0x27DF 0x20 0x2⟩,
      ⟨0x6A7, 1, .letter 0x27E5 0x20 0x2⟩, ⟨0x6A8, 1, .letter 0x27E7 0x20 0x2⟩,
      ⟨0x6A9, 4, .letter 0x27EC 0x20 0x2⟩, ⟨0x6AD, 2, .letter 0x27F1 0x20 0x2⟩,
      ⟨0x6AF, 1, .letter 0x27F5 0x20 0x2⟩, ⟨0x6B0, 5, .letter 0x27F8 0x20 0x2⟩,
      ⟨0x6B5, 4, .letter 0x2805 0x20 0x2⟩, ⟨0x6B9, 1, .letter 0x2816 0x20 0x2⟩,
      ⟨0x6BA, 1, .letter 0x2811 0x20 0x2⟩, ⟨0x6BB, 3, .letter 0x2813 0x20 0x2⟩,
      ⟨0x6BE, 1, .letter 0x281C 0x20 0x2⟩, ⟨0x6BF, 1, .letter 0x2783 0x20 0x2⟩,
      ⟨0x6C1, 1, .letter 0x281D 0x20 0x2⟩, ⟨0x6C3, 1, .letter 0x281E 0x20 0x2⟩,
      ⟨0x6C4, 8, .letter 0x2822 0x20 0x2⟩, ⟨0x6CC, 3, .letter 0x2831 0x20 0x2⟩,
      ⟨0x6CF, 1, .letter 0x282B 0x20 0x2⟩, ⟨0x6D0, 2, .letter 0x2834 0x20 0x2⟩,
      ⟨0x6D2, 1, .letter 0x283E 0x20 0x2⟩, ⟨0x6D4, 1, .blank 0x284⟩,
      ⟨0x6D5, 1, .letter 0x2820 0x20 0x2⟩, ⟨0x6D6, 8, .ignored⟩,
      ⟨0x6DE, 1, .letter 0x56C 0x20 0x2⟩, ⟨0x6DF, 6, .ignored⟩,
      ⟨0x6E5, 1, .letter 0x2821 0x20 0x4⟩, ⟨0x6E6, 1, .letter 0x2830 0x20 0x4⟩,
      ⟨0x6E7, 2, .ignored⟩, ⟨0x6E9, 1, .letter 0x56D 0x20 0x2⟩, ⟨0x6EA, 4, .ignored⟩,
      ⟨0x6EE, 1, .letter 0x27A0 0x20 0x2⟩, ⟨0x6EF, 1, .letter 0x27AF 0x20 0x2⟩,
      ⟨0x6F0, 10, .letter 0x217D 0x20 0x2⟩, ⟨0x6FA, 1, .letter 0x27BC 0x20 0x2⟩,
      ⟨0x6FB, 1, .letter 0x27C7 0x20 0x2⟩, ⟨0x6FC, 1, .letter 0x27D3 0x20 0x2⟩,
      ⟨0x6FD, 1, .several [.letter 0x2753 0x20 0x4, .mark 0x11E 0x4]⟩,
      ⟨0x6FE, 1, .several [.letter 0x280C 0x20 0x4, .mark 0x11E 0x4]⟩,
      ⟨0x6FF, 1, .letter 0x281F 0x20 0x2⟩]⟩

def syriac : Chart :=
  ⟨0x700, 0x74F,
    [⟨0x700, 1, .blank 0x2DA⟩, ⟨0x701, 2, .blank 0x285⟩, ⟨0x703, 6, .blank 0x245⟩,
      ⟨0x709, 1, .blank 0x276⟩, ⟨0x70A, 4, .blank 0x408⟩, ⟨0x70F, 1, .ignored⟩,
      ⟨0x710, 1, .letter 0x2842 0x20 0x2⟩, ⟨0x711, 1, .mark 0x99 0x2⟩,
      ⟨0x712, 2, .letter 0x2843 0x20 0x2⟩,
      ⟨0x714, 1, .several [.letter 0x2844 0x20 0x4, .mark 0x11E 0x4]⟩,
      ⟨0x715, 1, .letter 0x2846 0x20 0x2⟩, ⟨0x716, 1, .letter 0x2845 0x20 0x2⟩,
      ⟨0x717, 3, .letter 0x2847 0x20 0x2⟩, ⟨0x71A, 2, .letter 0x284B 0x20 0x2⟩,
      ⟨0x71C, 1, .several [.letter 0x284C 0x20 0x4, .mark 0x11E 0x4]⟩,
      ⟨0x71D, 3, .letter 0x284D 0x20 0x2⟩, ⟨0x720, 4, .letter 0x2851 0x20 0x2⟩,
      ⟨0x724, 1, .letter 0x2854 0x20 0x19⟩, ⟨0x725, 2, .letter 0x2855 0x20 0x2⟩,
      ⟨0x727, 1, .several [.letter 0x2856 0x20 0x4, .mark 0x11E 0x4]⟩,
      ⟨0x728, 5, .letter 0x2858 0x20 0x2⟩,
      ⟨0x72D, 1, .several [.letter 0x2843 0x20 0x4, .mark 0x11E 0x4]⟩,
      ⟨0x72E, 1, .several [.letter 0x2844 0x20 0x4, .mark 0x124 0x4]⟩,
      ⟨0x72F, 1, .several [.letter 0x2846 0x20 0x4, .mark 0x11E 0x4]⟩,
      ⟨0x730, 16, .mark 0x9A 0x2⟩, ⟨0x740, 1, .ignored⟩, ⟨0x741, 2, .mark 0x33 0x2⟩,
      ⟨0x743, 2, .ignored⟩, ⟨0x745, 2, .mark 0x33 0x2⟩, ⟨0x747, 4, .ignored⟩,
      ⟨0x74D, 1, .letter 0x284A 0x20 0x2⟩, ⟨0x74E, 1, .letter 0x2850 0x20 0x2⟩,
      ⟨0x74F, 1, .letter 0x2857 0x20 0x2⟩]⟩

def arabicSupplement : Chart :=
  ⟨0x750, 0x77F,
    [⟨0x750, 6, .letter 0x2767 0x20 0x2⟩, ⟨0x756, 1, .letter 0x276E 0x20 0x2⟩,
      ⟨0x757, 2, .letter 0x278E 0x20 0x2⟩, ⟨0x759, 2, .letter 0x27A2 0x20 0x2⟩,
      ⟨0x75B, 1, .letter 0x27B0 0x20 0x2⟩, ⟨0x75C, 1, .letter 0x27BD 0x20 0x2⟩,
      ⟨0x75D, 3, .letter 0x27D4 0x20 0x2⟩, ⟨0x760, 2, .letter 0x27E1 0x20 0x2⟩,
      ⟨0x762, 1, .letter 0x27FD 0x20 0x2⟩, ⟨0x763, 2, .letter 0x2801 0x20 0x2⟩,
      ⟨0x765, 2, .letter 0x280D 0x20 0x2⟩, ⟨0x767, 3, .letter 0x2817 0x20 0x2⟩,
      ⟨0x76A, 1, .letter 0x2809 0x20 0x2⟩, ⟨0x76B, 2, .letter 0x27B1 0x20 0x2⟩,
      ⟨0x76D, 1, .letter 0x27BE 0x20 0x2⟩, ⟨0x76E, 2, .letter 0x2790 0x20 0x2⟩,
      ⟨0x770, 1, .letter 0x27BF 0x20 0x2⟩, ⟨0x771, 1, .letter 0x27B3 0x20 0x2⟩,
      ⟨0x772, 1, .letter 0x2792 0x20 0x2⟩, ⟨0x773, 2, .letter 0x275B 0x20 0x2⟩,
      ⟨0x775, 3, .letter 0x283A 0x20 0x2⟩, ⟨0x778, 2, .letter 0x282C 0x20 0x2⟩,
      ⟨0x77A, 2, .letter 0x283F 0x20 0x2⟩, ⟨0x77C, 1, .letter 0x2793 0x20 0x2⟩,
      ⟨0x77D, 2, .letter 0x27C0 0x20 0x2⟩, ⟨0x77F, 1, .letter 0x27F0 0x20 0x2⟩]⟩

def thaana : Chart :=
  ⟨0x780, 0x7BF,
    [⟨0x780, 1, .letter 0x2881 0x20 0x2⟩, ⟨0x781, 3, .letter 0x2884 0x20 0x2⟩,
      ⟨0x784, 4, .letter 0x2888 0x20 0x2⟩, ⟨0x788, 1, .letter 0x288E 0x20 0x2⟩,
      ⟨0x789, 3, .letter 0x2890 0x20 0x2⟩, ⟨0x78C, 1, .letter 0x2894 0x20 0x2⟩,
      ⟨0x78D, 2, .letter 0x2898 0x20 0x2⟩, ⟨0x78F, 2, .letter 0x289B 0x20 0x2⟩,
      ⟨0x791, 7, .letter 0x28A0 0x20 0x2⟩, ⟨0x798, 1, .letter 0x2895 0x20 0x2⟩,
      ⟨0x799, 2, .letter 0x2882 0x20 0x2⟩, ⟨0x79B, 1, .letter 0x2893 0x20 0x2⟩,
      ⟨0x79C, 1, .letter 0x2887 0x20 0x2⟩, ⟨0x79D, 3, .letter 0x289D 0x20 0x2⟩,
      ⟨0x7A0, 2, .letter 0x2896 0x20 0x2⟩, ⟨0x7A2, 2, .letter 0x288C 0x20 0x2⟩,
      ⟨0x7A4, 1, .letter 0x289A 0x20 0x2⟩, ⟨0x7A5, 1, .letter 0x288F 0x20 0x2⟩,
      ⟨0x7A6, 11, .letter 0x28A8 0x20 0x2⟩, ⟨0x7B1, 1, .letter 0x28A7 0x20 0x2⟩]⟩

def samaritan : Chart :=
  ⟨0x800, 0x83F,
    [⟨0x800, 24, .letter 0x2739 0x20 0x2⟩, ⟨0x818, 2, .mark 0x6A 0x2⟩,
      ⟨0x81A, 2, .letter 0x2751 0x20 0x2⟩, ⟨0x81C, 1, .mark 0x62 0x2⟩,
      ⟨0x81D, 2, .mark 0x62 0x2⟩, ⟨0x81F, 1, .mark 0x63 0x2⟩, ⟨0x820, 2, .mark 0x63 0x2⟩,
      ⟨0x822, 1, .mark 0x64 0x2⟩, ⟨0x823, 2, .mark 0x64 0x2⟩, ⟨0x825, 2, .mark 0x65 0x2⟩,
      ⟨0x827, 2, .mark 0x66 0x2⟩, ⟨0x829, 1, .mark 0x67 0x2⟩, ⟨0x82A, 3, .mark 0x67 0x2⟩,
      ⟨0x82D, 1, .mark 0x6C 0x2⟩, ⟨0x830, 15, .blank 0x24B⟩]⟩

def mandaic : Chart :=
  ⟨0x840, 0x85F,
    [⟨0x840, 25, .letter 0x2868 0x20 0x2⟩, ⟨0x859, 1, .mark 0x34 0x2⟩,
      ⟨0x85A, 1, .mark 0x34 0x2⟩, ⟨0x85B, 1, .mark 0x34 0x2⟩, ⟨0x85E, 1, .blank 0x40C⟩]⟩

def syriacSupplement : Chart := ⟨0x860, 0x86F, [⟨0x860, 11, .letter 0x285D 0x20 0x2⟩]⟩

def arabicExtendedB : Chart :=
  ⟨0x870, 0x89F,
    [⟨0x870, 1, .letter 0x2761 0x20 0x4⟩, ⟨0x871, 1, .letter 0x2761 0x20 0x4⟩,
      ⟨0x872, 1, .letter 0x2761 0x20 0x4⟩, ⟨0x873, 1, .letter 0x2761 0x20 0x4⟩,
      ⟨0x874, 1, .letter 0x2761 0x20 0x4⟩, ⟨0x875, 1, .letter 0x2761 0x20 0x4⟩,
      ⟨0x876, 1, .letter 0x2761 0x20 0x4⟩, ⟨0x877, 1, .letter 0x2761 0x20 0x4⟩,
      ⟨0x878, 1, .letter 0x2761 0x20 0x4⟩, ⟨0x879, 1, .letter 0x2761 0x20 0x4⟩,
      ⟨0x87A, 1, .letter 0x2761 0x20 0x4⟩, ⟨0x87B, 1, .letter 0x2761 0x20 0x4⟩,
      ⟨0x87C, 1, .letter 0x2761 0x20 0x4⟩, ⟨0x87D, 1, .letter 0x2761 0x20 0x4⟩,
      ⟨0x87E, 1, .letter 0x2761 0x20 0x4⟩, ⟨0x87F, 1, .letter 0x2761 0x20 0x4⟩,
      ⟨0x880, 1, .letter 0x2761 0x20 0x4⟩, ⟨0x881, 1, .letter 0x2761 0x20 0x4⟩,
      ⟨0x882, 1, .letter 0x2761 0x20 0x4⟩, ⟨0x883, 1, .letter 0x2753 0x20 0x4⟩,
      ⟨0x884, 1, .letter 0x2821 0x20 0x4⟩, ⟨0x885, 1, .letter 0x2830 0x20 0x4⟩,
      ⟨0x886, 1, .letter 0x2830 0x20 0x4⟩, ⟨0x887, 1, .letter 0x2753 0x20 0x4⟩,
      ⟨0x888, 1, .letter 0x582 0x20 0x2⟩, ⟨0x889, 1, .letter 0x281A 0x20 0x2⟩,
      ⟨0x88A, 1, .letter 0x2781 0x20 0x2⟩, ⟨0x88B, 2, .letter 0x27CC 0x20 0x2⟩,
      ⟨0x88D, 1, .letter 0x27FF 0x20 0x2⟩, ⟨0x88E, 1, .letter 0x2841 0x20 0x2⟩,
      ⟨0x890, 2, .ignored⟩, ⟨0x897, 1, .mark 0x82 0x4⟩, ⟨0x898, 6, .ignored⟩,
      ⟨0x89E, 1, .mark 0x82 0x2⟩, ⟨0x89F, 1, .mark 0x82 0x2⟩]⟩

def arabicExtendedA : Chart :=
  ⟨0x8A0, 0x8FF,
    [⟨0x8A0, 1, .letter 0x276D 0x20 0x2⟩, ⟨0x8A1, 1, .letter 0x2770 0x20 0x2⟩,
      ⟨0x8A2, 1, .letter 0x2785 0x20 0x2⟩, ⟨0x8A3, 1, .letter 0x27CB 0x20 0x2⟩,
      ⟨0x8A4, 1, .letter 0x27DE 0x20 0x2⟩, ⟨0x8A5, 1, .letter 0x27E9 0x20 0x2⟩,
      ⟨0x8A6, 1, .letter 0x280A 0x20 0x2⟩, ⟨0x8A7, 1, .letter 0x280F 0x20 0x2⟩,
      ⟨0x8A8, 2, .letter 0x275E 0x20 0x2⟩, ⟨0x8AA, 1, .letter 0x27B4 0x20 0x2⟩,
      ⟨0x8AB, 1, .letter 0x282E 0x20 0x2⟩, ⟨0x8AC, 1, .letter 0x2760 0x20 0x2⟩,
      ⟨0x8AD, 1, .letter 0x2761 0x20 0x4⟩, ⟨0x8AE, 1, .letter 0x279C 0x20 0x2⟩,
      ⟨0x8AF, 1, .letter 0x27C5 0x20 0x2⟩, ⟨0x8B0, 1, .letter 0x27F6 0x20 0x2⟩,
      ⟨0x8B1, 1, .letter 0x282A 0x20 0x2⟩, ⟨0x8B2, 1, .letter 0x27B5 0x20 0x2⟩,
      ⟨0x8B3, 1, .letter 0x27D7 0x20 0x2⟩, ⟨0x8B4, 1, .letter 0x27F3 0x20 0x2⟩,
      ⟨0x8B5, 1, .letter 0x27EA 0x20 0x2⟩, ⟨0x8B6, 2, .letter 0x2771 0x20 0x2⟩,
      ⟨0x8B8, 1, .letter 0x277B 0x20 0x2⟩, ⟨0x8B9, 1, .letter 0x27B6 0x20 0x2⟩,
      ⟨0x8BA, 1, .letter 0x283D 0x20 0x2⟩, ⟨0x8BB, 1, .letter 0x27DB 0x20 0x2⟩,
      ⟨0x8BC, 1, .letter 0x27E6 0x20 0x2⟩, ⟨0x8BD, 1, .letter 0x2812 0x20 0x2⟩,
      ⟨0x8BE, 1, .letter 0x276F 0x20 0x2⟩, ⟨0x8BF, 2, .letter 0x277C 0x20 0x2⟩,
      ⟨0x8C1, 1, .letter 0x2786 0x20 0x2⟩, ⟨0x8C2, 1, .letter 0x2803 0x20 0x2⟩,
      ⟨0x8C3, 1, .letter 0x27D2 0x20 0x2⟩, ⟨0x8C4, 1, .letter 0x27E8 0x20 0x2⟩,
      ⟨0x8C5, 2, .letter 0x2787 0x20 0x2⟩, ⟨0x8C7, 1, .letter 0x280B 0x20 0x2⟩,
      ⟨0x8C8, 1, .letter 0x27F7 0x20 0x2⟩, ⟨0x8C9, 1, .letter 0x2831 0x20 0x4⟩,
      ⟨0x8CA, 25, .ignored⟩, ⟨0x8E3, 1, .mark 0x90 0x2⟩, ⟨0x8E4, 1, .mark 0x77 0x2⟩,
      ⟨0x8E5, 1, .mark 0x7B 0x2⟩, ⟨0x8E6, 1, .mark 0x7E 0x2⟩, ⟨0x8E7, 1, .mark 0x6F 0x2⟩,
      ⟨0x8E8, 1, .mark 0x72 0x2⟩, ⟨0x8E9, 1, .mark 0x75 0x2⟩, ⟨0x8EA, 6, .ignored⟩,
      ⟨0x8F0, 1, .mark 0x6E 0x2⟩, ⟨0x8F1, 1, .mark 0x71 0x2⟩, ⟨0x8F2, 1, .mark 0x74 0x2⟩,
      ⟨0x8F3, 1, .ignored⟩, ⟨0x8F4, 2, .mark 0x78 0x2⟩, ⟨0x8F6, 1, .mark 0x7F 0x2⟩,
      ⟨0x8F7, 2, .mark 0x91 0x2⟩, ⟨0x8F9, 2, .mark 0x96 0x2⟩, ⟨0x8FB, 2, .mark 0x94 0x2⟩,
      ⟨0x8FD, 1, .mark 0x93 0x2⟩, ⟨0x8FE, 1, .mark 0x7C 0x2⟩, ⟨0x8FF, 1, .mark 0x89 0x2⟩]⟩

def hanifiRohingya : Chart :=
  ⟨0x10D00, 0x10D3F,
    [⟨0x10D00, 1, .letter 0x378A 0x20 0x2⟩, ⟨0x10D01, 28, .letter 0x3790 0x20 0x2⟩,
      ⟨0x10D1D, 5, .letter 0x378B 0x20 0x2⟩, ⟨0x10D22, 2, .letter 0x37AC 0x20 0x2⟩,
      ⟨0x10D24, 1, .mark 0x33 0x2⟩, ⟨0x10D25, 1, .mark 0x33 0x2⟩, ⟨0x10D26, 1, .mark 0x33 0x2⟩,
      ⟨0x10D27, 1, .mark 0x33 0x2⟩, ⟨0x10D30, 10, .letter 0x217D 0x20 0x2⟩]⟩

def rumiNumeralSymbols : Chart :=
  ⟨0x10E60, 0x10E7F,
    [⟨0x10E60, 9, .letter 0x217E 0x20 0x2⟩, ⟨0x10E69, 22, .letter 0x21D2 0x20 0x2⟩]⟩

def yezidi : Chart :=
  ⟨0x10E80, 0x10EBF,
    [⟨0x10E80, 33, .letter 0x5486 0x20 0x2⟩, ⟨0x10EA1, 8, .letter 0x54A8 0x20 0x2⟩,
      ⟨0x10EA9, 1, .letter 0x54B1 0x20 0x2⟩, ⟨0x10EAB, 1, .mark 0x83 0x2⟩,
      ⟨0x10EAC, 1, .mark 0x82 0x2⟩, ⟨0x10EAD, 1, .blank 0x224⟩,
      ⟨0x10EB0, 1, .letter 0x54A7 0x20 0x2⟩, ⟨0x10EB1, 1, .letter 0x54B0 0x20 0x2⟩]⟩

def arabicExtendedC : Chart :=
  ⟨0x10EC0, 0x10EFF,
    [⟨0x10EC2, 1, .letter 0x27A1 0x20 0x2⟩, ⟨0x10EC3, 1, .letter 0x27CE 0x20 0x2⟩,
      ⟨0x10EC4, 1, .letter 0x27F4 0x20 0x2⟩, ⟨0x10EFC, 1, .mark 0x98 0x2⟩, ⟨0x10EFD, 3, .ignored⟩]⟩

def indicSiyaqNumbers : Chart :=
  ⟨0x1EC70, 0x1ECBF,
    [⟨0x1EC71, 9, .letter 0x217E 0x20 0x2⟩, ⟨0x1EC7A, 41, .letter 0x22D6 0x20 0x2⟩,
      ⟨0x1ECA3, 9, .letter 0x217E 0x20 0x2⟩, ⟨0x1ECAC, 1, .letter 0x168D 0x20 0x2⟩,
      ⟨0x1ECAD, 3, .letter 0x22FF 0x20 0x2⟩, ⟨0x1ECB0, 1, .letter 0x2175 0x20 0x2⟩,
      ⟨0x1ECB1, 1, .several [.letter 0x217E 0x20 0x4, .mark 0x11E 0x4]⟩,
      ⟨0x1ECB2, 1, .several [.letter 0x217F 0x20 0x4, .mark 0x11E 0x4]⟩,
      ⟨0x1ECB3, 2, .letter 0x2302 0x20 0x2⟩]⟩

def ottomanSiyaqNumbers : Chart :=
  ⟨0x1ED00, 0x1ED4F,
    [⟨0x1ED01, 9, .letter 0x217E 0x20 0x2⟩, ⟨0x1ED0A, 36, .letter 0x2304 0x20 0x2⟩,
      ⟨0x1ED2E, 1, .letter 0x168E 0x20 0x2⟩,
      ⟨0x1ED2F, 1, .several [.letter 0x217F 0x20 0x4, .mark 0x11E 0x4]⟩,
      ⟨0x1ED30, 1, .several [.letter 0x2180 0x20 0x4, .mark 0x11E 0x4]⟩,
      ⟨0x1ED31, 1, .several [.letter 0x2181 0x20 0x4, .mark 0x11E 0x4]⟩,
      ⟨0x1ED32, 1, .several [.letter 0x2182 0x20 0x4, .mark 0x11E 0x4]⟩,
      ⟨0x1ED33, 1, .several [.letter 0x2183 0x20 0x4, .mark 0x11E 0x4]⟩,
      ⟨0x1ED34, 1, .several [.letter 0x2184 0x20 0x4, .mark 0x11E 0x4]⟩,
      ⟨0x1ED35, 1, .several [.letter 0x2185 0x20 0x4, .mark 0x11E 0x4]⟩,
      ⟨0x1ED36, 1, .several [.letter 0x2186 0x20 0x4, .mark 0x11E 0x4]⟩,
      ⟨0x1ED37, 7, .letter 0x2328 0x20 0x2⟩]⟩

def rightToLeftCharts : List Chart :=
  [hebrew, arabic, syriac, arabicSupplement, thaana, samaritan, mandaic, syriacSupplement,
    arabicExtendedB, arabicExtendedA, hanifiRohingya, rumiNumeralSymbols, yezidi,
    arabicExtendedC, indicSiyaqNumbers, ottomanSiyaqNumbers]

end CodeNotes.Collation
