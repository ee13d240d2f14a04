import CodeNotes.Collation.Weight
/-!
Collation weights of the Arabic letters in the shapes that they take within words.
-/
namespace CodeNotes.Collation

def arabicPresentationFormsASpans1 : List Span :=
  [⟨0xFB50, 1, .letter 0x2757 0x20 0x1A⟩, ⟨0xFB51, 1, .letter 0x2757 0x20 0x19⟩,
    ⟨0xFB52, 1, .letter 0x2764 0x20 0x1A⟩, ⟨0xFB53, 1, .letter 0x2764 0x20 0x19⟩,
    ⟨0xFB54, 1, .letter 0x2764 0x20 0x17⟩, ⟨0xFB55, 1, .letter 0x2764 0x20 0x18⟩,
    ⟨0xFB56, 1, .letter 0x2765 0x20 0x1A⟩, ⟨0xFB57, 1, .letter 0x2765 0x20 0x19⟩,
    ⟨0xFB58, 1, .letter 0x2765 0x20 0x17⟩, ⟨0xFB59, 1, .letter 0x2765 0x20 0x18⟩,
    ⟨0xFB5A, 1, .letter 0x2766 0x20 0x1A⟩, ⟨0xFB5B, 1, .letter 0x2766 0x20 0x19⟩,
    ⟨0xFB5C, 1, .letter 0x2766 0x20 0x17⟩, ⟨0xFB5D, 1, .letter 0x2766 0x20 0x18⟩,
    ⟨0xFB5E, 1, .letter 0x2777 0x20 0x1A⟩, ⟨0xFB5F, 1, .letter 0x2777 0x20 0x19⟩,
    ⟨0xFB60, 1, .letter 0x2777 0x20 0x17⟩, ⟨0xFB61, 1, .letter 0x2777 0x20 0x18⟩,
    ⟨0xFB62, 1, .letter 0x277A 0x20 0x1A⟩, ⟨0xFB63, 1, .letter 0x277A 0x20 0x19⟩,
    ⟨0xFB64, 1, .letter 0x277A 0x20 0x17⟩, ⟨0xFB65, 1, .letter 0x277A 0x20 0x18⟩,
    ⟨0xFB66, 1, .letter 0x2776 0x20 0x1A⟩, ⟨0xFB67, 1, .letter 0x2776 0x20 0x19⟩,
    ⟨0xFB68, 1, .letter 0x2776 0x20 0x17⟩, ⟨0xFB69, 1, .letter 0x2776 0x20 0x18⟩,
    ⟨0xFB6A, 1, .letter 0x27DD 0x20 0x1A⟩, ⟨0xFB6B, 1, .letter 0x27DD 0x20 0x19⟩,
    ⟨0xFB6C, 1, .letter 0x27DD 0x20 0x17⟩, ⟨0xFB6D, 1, .letter 0x27DD 0x20 0x18⟩,
    ⟨0xFB6E, 1, .letter 0x27E0 0x20 0x1A⟩, ⟨0xFB6F, 1, .letter 0x27E0 0x20 0x19⟩,
    ⟨0xFB70, 1, .letter 0x27E0 0x20 0x17⟩, ⟨0xFB71, 1, .letter 0x27E0 0x20 0x18⟩,
    ⟨0xFB72, 1, .letter 0x2780 0x20 0x1A⟩, ⟨0xFB73, 1, .letter 0x2780 0x20 0x19⟩,
    ⟨0xFB74, 1, .letter 0x2780 0x20 0x17⟩, ⟨0xFB75, 1, .letter 0x2780 0x20 0x18⟩,
    ⟨0xFB76, 1, .letter 0x277F 0x20 0x1A⟩, ⟨0xFB77, 1, .letter 0x277F 0x20 0x19⟩,
    ⟨0xFB78, 1, .letter 0x277F 0x20 0x17⟩, ⟨0xFB79, 1, .letter 0x277F 0x20 0x18⟩,
    ⟨0xFB7A, 1, .letter 0x2782 0x20 0x1A⟩, ⟨0xFB7B, 1, .letter 0x2782 0x20 0x19⟩,
    ⟨0xFB7C, 1, .letter 0x2782 0x20 0x17⟩, ⟨0xFB7D, 1, .letter 0x2782 0x20 0x18⟩,
    ⟨0xFB7E, 1, .letter 0x2784 0x20 0x1A⟩, ⟨0xFB7F, 1, .letter 0x2784 0x20 0x19⟩,
    ⟨0xFB80, 1, .letter 0x2784 0x20 0x17⟩, ⟨0xFB81, 1, .letter 0x2784 0x20 0x18⟩,
    ⟨0xFB82, 1, .letter 0x279B 0x20 0x1A⟩, ⟨0xFB83, 1, .letter 0x279B 0x20 0x19⟩,
    ⟨0xFB84, 1, .letter 0x279A 0x20 0x1A⟩, ⟨0xFB85, 1, .letter 0x279A 0x20 0x19⟩,
    ⟨0xFB86, 1, .letter 0x279D 0x20 0x1A⟩, ⟨0xFB87, 1, .letter 0x279D 0x20 0x19⟩,
    ⟨0xFB88, 1, .letter 0x2796 0x20 0x1A⟩, ⟨0xFB89, 1, .letter 0x2796 0x20 0x19⟩,
    ⟨0xFB8A, 1, .letter 0x27AD 0x20 0x1A⟩, ⟨0xFB8B, 1, .letter 0x27AD 0x20 0x19⟩,
    ⟨0xFB8C, 1, .letter 0x27A6 0x20 0x1A⟩, ⟨0xFB8D, 1, .letter 0x27A6 0x20 0x19⟩,
    ⟨0xFB8E, 1, .letter 0x27EC 0x20 0x1A⟩, ⟨0xFB8F, 1, .letter 0x27EC 0x20 0x19⟩,
    ⟨0xFB90, 1, .letter 0x27EC 0x20 0x17⟩, ⟨0xFB91, 1, .letter 0x27EC 0x20 0x18⟩,
    ⟨0xFB92, 1, .letter 0x27F5 0x20 0x1A⟩, ⟨0xFB93, 1, .letter 0x27F5 0x20 0x19⟩,
    ⟨0xFB94, 1, .letter 0x27F5 0x20 0x17⟩, ⟨0xFB95, 1, .letter 0x27F5 0x20 0x18⟩,
    ⟨0xFB96, 1, .letter 0x27FB 0x20 0x1A⟩, ⟨0xFB97, 1, .letter 0x27FB 0x20 0x19⟩,
    ⟨0xFB98, 1, .letter 0x27FB 0x20 0x17⟩, ⟨0xFB99, 1, .letter 0x27FB 0x20 0x18⟩,
    ⟨0xFB9A, 1, .letter 0x27F9 0x20 0x1A⟩, ⟨0xFB9B, 1, .letter 0x27F9 0x20 0x19⟩,
    ⟨0xFB9C, 1, .letter 0x27F9 0x20 0x17⟩, ⟨0xFB9D, 1, .letter 0x27F9 0x20 0x18⟩,
    ⟨0xFB9E, 1, .letter 0x2811 0x20 0x1A⟩, ⟨0xFB9F, 1, .letter 0x2811 0x20 0x19⟩,
    ⟨0xFBA0, 1, .letter 0x2813 0x20 0x1A⟩, ⟨0xFBA1, 1, .letter 0x2813 0x20 0x19⟩,
    ⟨0xFBA2, 1, .letter 0x2813 0x20 0x17⟩, ⟨0xFBA3, 1, .letter 0x2813 0x20 0x18⟩,
    ⟨0xFBA4, 1, .spelled [0x6D5, 0x654] 0x1A 0x1A⟩,
    ⟨0xFBA5, 1, .spelled [0x6D5, 0x654] 0x19 0x19⟩, ⟨0xFBA6, 1, .letter 0x281D 0x20 0x1A⟩,
    ⟨0xFBA7, 1, .letter 0x281D 0x20 0x19⟩, ⟨0xFBA8, 1, .letter 0x281D 0x20 0x17⟩,
    ⟨0xFBA9, 1, .letter 0x281D 0x20 0x18⟩, ⟨0xFBAA, 1, .letter 0x281C 0x20 0x1A⟩,
    ⟨0xFBAB, 1, .letter 0x281C 0x20 0x19⟩, ⟨0xFBAC, 1, .letter 0x281C 0x20 0x17⟩,
    ⟨0xFBAD, 1, .letter 0x281C 0x20 0x18⟩, ⟨0xFBAE, 1, .letter 0x283E 0x20 0x1A⟩,
    ⟨0xFBAF, 1, .letter 0x283E 0x20 0x19⟩, ⟨0xFBB0, 1, .spelled [0x6D2, 0x654] 0x1A 0x1A⟩,
    ⟨0xFBB1, 1, .spelled [0x6D2, 0x654] 0x19 0x19⟩, ⟨0xFBB2, 17, .letter 0x583 0x20 0x2⟩,
    ⟨0xFBD3, 1, .letter 0x27F1 0x20 0x1A⟩, ⟨0xFBD4, 1, .letter 0x27F1 0x20 0x19⟩,
    ⟨0xFBD5, 1, .letter 0x27F1 0x20 0x17⟩, ⟨0xFBD6, 1, .letter 0x27F1 0x20 0x18⟩,
    ⟨0xFBD7, 1, .letter 0x2825 0x20 0x1A⟩, ⟨0xFBD8, 1, .letter 0x2825 0x20 0x19⟩,
    ⟨0xFBD9, 1, .letter 0x2824 0x20 0x1A⟩, ⟨0xFBDA, 1, .letter 0x2824 0x20 0x19⟩,
    ⟨0xFBDB, 1, .letter 0x2826 0x20 0x1A⟩, ⟨0xFBDC, 1, .letter 0x2826 0x20 0x19⟩,
    ⟨0xFBDD, 1, .several [.letter 0x2753 0x20 0x1A, .letter 0x2825 0x20 0x1A]⟩,
    ⟨0xFBDE, 1, .letter 0x2829 0x20 0x1A⟩, ⟨0xFBDF, 1, .letter 0x2829 0x20 0x19⟩,
    ⟨0xFBE0, 1, .letter 0x2823 0x20 0x1A⟩, ⟨0xFBE1, 1, .letter 0x2823 0x20 0x19⟩,
    ⟨0xFBE2, 1, .letter 0x2827 0x20 0x1A⟩, ⟨0xFBE3, 1, .letter 0x2827 0x20 0x19⟩,
    ⟨0xFBE4, 1, .letter 0x2834 0x20 0x1A⟩, ⟨0xFBE5, 1, .letter 0x2834 0x20 0x19⟩,
    ⟨0xFBE6, 1, .letter 0x2834 0x20 0x17⟩, ⟨0xFBE7, 1, .letter 0x2834 0x20 0x18⟩,
    ⟨0xFBE8, 1, .letter 0x282F 0x20 0x17⟩, ⟨0xFBE9, 1, .letter 0x282F 0x20 0x18⟩,
    ⟨0xFBEA, 1, .several [.letter 0x275D 0x20 0x1A, .letter 0x2761 0x20 0x1A]⟩,
    ⟨0xFBEB, 1, .several [.letter 0x275D 0x20 0x19, .letter 0x2761 0x20 0x19]⟩,
    ⟨0xFBEC, 1, .several [.letter 0x275D 0x20 0x1A, .letter 0x2820 0x20 0x1A]⟩,
    ⟨0xFBED, 1, .several [.letter 0x275D 0x20 0x19, .letter 0x2820 0x20 0x19]⟩,
    ⟨0xFBEE, 1, .several [.letter 0x275D 0x20 0x1A, .letter 0x2821 0x20 0x1A]⟩,
    ⟨0xFBEF, 1, .several [.letter 0x275D 0x20 0x19, .letter 0x2821 0x20 0x19]⟩,
    ⟨0xFBF0, 1, .several [.letter 0x275D 0x20 0x1A, .letter 0x2825 0x20 0x1A]⟩,
    ⟨0xFBF1, 1, .several [.letter 0x275D 0x20 0x19, .letter 0x2825 0x20 0x19]⟩,
    ⟨0xFBF2, 1, .several [.letter 0x275D 0x20 0x1A, .letter 0x2824 0x20 0x1A]⟩,
    ⟨0xFBF3, 1, .several [.letter 0x275D 0x20 0x19, .letter 0x2824 0x20 0x19]⟩,
    ⟨0xFBF4, 1, .several [.letter 0x275D 0x20 0x1A, .letter 0x2826 0x20 0x1A]⟩,
    ⟨0xFBF5, 1, .several [.letter 0x275D 0x20 0x19, .letter 0x2826 0x20 0x19]⟩,
    ⟨0xFBF6, 1, .several [.letter 0x275D 0x20 0x1A, .letter 0x2834 0x20 0x1A]⟩,
    ⟨0xFBF7, 1, .several [.letter 0x275D 0x20 0x19, .letter 0x2834 0x20 0x19]⟩,
    ⟨0xFBF8, 1, .several [.letter 0x275D 0x20 0x17, .letter 0x2834 0x20 0x17]⟩,
    ⟨0xFBF9, 1, .several [.letter 0x275D 0x20 0x1A, .letter 0x282F 0x20 0x1A]⟩,
    ⟨0xFBFA, 1, .several [.letter 0x275D 0x20 0x19, .letter 0x282F 0x20 0x19]⟩,
    ⟨0xFBFB, 1, .several [.letter 0x275D 0x20 0x17, .letter 0x282F 0x20 0x17]⟩,
    ⟨0xFBFC, 1, .letter 0x2831 0x20 0x1A⟩, ⟨0xFBFD, 1, .letter 0x2831 0x20 0x19⟩,
    ⟨0xFBFE, 1, .letter 0x2831 0x20 0x17⟩, ⟨0xFBFF, 1, .letter 0x2831 0x20 0x18⟩,
    ⟨0xFC00, 1, .several [.letter 0x275D 0x20 0x1A, .letter 0x277E 0x20 0x1A]⟩,
    ⟨0xFC01, 1, .several [.letter 0x275D 0x20 0x1A, .letter 0x2789 0x20 0x1A]⟩,
    ⟨0xFC02, 1, .several [.letter 0x275D 0x20 0x1A, .letter 0x280C 0x20 0x1A]⟩,
    ⟨0xFC03, 1, .several [.letter 0x275D 0x20 0x1A, .letter 0x282F 0x20 0x1A]⟩,
    ⟨0xFC04, 1, .several [.letter 0x275D 0x20 0x1A, .letter 0x2830 0x20 0x1A]⟩,
    ⟨0xFC05, 1, .spelled [0x628, 0x62C] 0x1A 0x1A⟩]

def arabicPresentationFormsASpans2 : List Span :=
  [⟨0xFC06, 1, .spelled [0x628, 0x62D] 0x1A 0x1A⟩,
    ⟨0xFC07, 1, .spelled [0x628, 0x62E] 0x1A 0x1A⟩,
    ⟨0xFC08, 1, .spelled [0x628, 0x645] 0x1A 0x1A⟩,
    ⟨0xFC09, 1, .spelled [0x628, 0x649] 0x1A 0x1A⟩,
    ⟨0xFC0A, 1, .spelled [0x628, 0x64A] 0x1A 0x1A⟩,
    ⟨0xFC0B, 1, .spelled [0x62A, 0x62C] 0x1A 0x1A⟩,
    ⟨0xFC0C, 1, .spelled [0x62A, 0x62D] 0x1A 0x1A⟩,
    ⟨0xFC0D, 1, .spelled [0x62A, 0x62E] 0x1A 0x1A⟩,
    ⟨0xFC0E, 1, .spelled [0x62A, 0x645] 0x1A 0x1A⟩,
    ⟨0xFC0F, 1, .spelled [0x62A, 0x649] 0x1A 0x1A⟩,
    ⟨0xFC10, 1, .spelled [0x62A, 0x64A] 0x1A 0x1A⟩,
    ⟨0xFC11, 1, .spelled [0x62B, 0x62C] 0x1A 0x1A⟩,
    ⟨0xFC12, 1, .spelled [0x62B, 0x645] 0x1A 0x1A⟩,
    ⟨0xFC13, 1, .spelled [0x62B, 0x649] 0x1A 0x1A⟩,
    ⟨0xFC14, 1, .spelled [0x62B, 0x64A] 0x1A 0x1A⟩,
    ⟨0xFC15, 1, .spelled [0x62C, 0x62D] 0x1A 0x1A⟩,
    ⟨0xFC16, 1, .spelled [0x62C, 0x645] 0x1A 0x1A⟩,
    ⟨0xFC17, 1, .spelled [0x62D, 0x62C] 0x1A 0x1A⟩,
    ⟨0xFC18, 1, .spelled [0x62D, 0x645] 0x1A 0x1A⟩,
    ⟨0xFC19, 1, .spelled [0x62E, 0x62C] 0x1A 0x1A⟩,
    ⟨0xFC1A, 1, .spelled [0x62E, 0x62D] 0x1A 0x1A⟩,
    ⟨0xFC1B, 1, .spelled [0x62E, 0x645] 0x1A 0x1A⟩,
    ⟨0xFC1C, 1, .spelled [0x633, 0x62C] 0x1A 0x1A⟩,
    ⟨0xFC1D, 1, .spelled [0x633, 0x62D] 0x1A 0x1A⟩,
    ⟨0xFC1E, 1, .spelled [0x633, 0x62E] 0x1A 0x1A⟩,
    ⟨0xFC1F, 1, .spelled [0x633, 0x645] 0x1A 0x1A⟩,
    ⟨0xFC20, 1, .spelled [0x635, 0x62D] 0x1A 0x1A⟩,
    ⟨0xFC21, 1, .spelled [0x635, 0x645] 0x1A 0x1A⟩,
    ⟨0xFC22, 1, .spelled [0x636, 0x62C] 0x1A 0x1A⟩,
    ⟨0xFC23, 1, .spelled [0x636, 0x62D] 0x1A 0x1A⟩,
    ⟨0xFC24, 1, .spelled [0x636, 0x62E] 0x1A 0x1A⟩,
    ⟨0xFC25, 1, .spelled [0x636, 0x645] 0x1A 0x1A⟩,
    ⟨0xFC26, 1, .spelled [0x637, 0x62D] 0x1A 0x1A⟩,
    ⟨0xFC27, 1, .spelled [0x637, 0x645] 0x1A 0x1A⟩,
    ⟨0xFC28, 1, .spelled [0x638, 0x645] 0x1A 0x1A⟩,
    ⟨0xFC29, 1, .spelled [0x639, 0x62C] 0x1A 0x1A⟩,
    ⟨0xFC2A, 1, .spelled [0x639, 0x645] 0x1A 0x1A⟩,
    ⟨0xFC2B, 1, .spelled [0x63A, 0x62C] 0x1A 0x1A⟩,
    ⟨0xFC2C, 1, .spelled [0x63A, 0x645] 0x1A 0x1A⟩,
    ⟨0xFC2D, 1, .spelled [0x641, 0x62C] 0x1A 0x1A⟩,
    ⟨0xFC2E, 1, .spelled [0x641, 0x62D] 0x1A 0x1A⟩,
    ⟨0xFC2F, 1, .spelled [0x641, 0x62E] 0x1A 0x1A⟩,
    ⟨0xFC30, 1, .spelled [0x641, 0x645] 0x1A 0x1A⟩,
    ⟨0xFC31, 1, .spelled [0x641, 0x649] 0x1A 0x1A⟩,
    ⟨0xFC32, 1, .spelled [0x641, 0x64A] 0x1A 0x1A⟩,
    ⟨0xFC33, 1, .spelled [0x642, 0x62D] 0x1A 0x1A⟩,
    ⟨0xFC34, 1, .spelled [0x642, 0x645] 0x1A 0x1A⟩,
    ⟨0xFC35, 1, .spelled [0x642, 0x649] 0x1A 0x1A⟩,
    ⟨0xFC36, 1, .spelled [0x642, 0x64A] 0x1A 0x1A⟩,
    ⟨0xFC37, 1, .spelled [0x643, 0x627] 0x1A 0x1A⟩,
    ⟨0xFC38, 1, .spelled [0x643, 0x62C] 0x1A 0x1A⟩,
    ⟨0xFC39, 1, .spelled [0x643, 0x62D] 0x1A 0x1A⟩,
    ⟨0xFC3A, 1, .spelled [0x643, 0x62E] 0x1A 0x1A⟩,
    ⟨0xFC3B, 1, .spelled [0x643, 0x644] 0x1A 0x1A⟩,
    ⟨0xFC3C, 1, .spelled [0x643, 0x645] 0x1A 0x1A⟩,
    ⟨0xFC3D, 1, .spelled [0x643, 0x649] 0x1A 0x1A⟩,
    ⟨0xFC3E, 1, .spelled [0x643, 0x64A] 0x1A 0x1A⟩,
    ⟨0xFC3F, 1, .spelled [0x644, 0x62C] 0x1A 0x1A⟩,
    ⟨0xFC40, 1, .spelled [0x644, 0x62D] 0x1A 0x1A⟩,
    ⟨0xFC41, 1, .spelled [0x644, 0x62E] 0x1A 0x1A⟩,
    ⟨0xFC42, 1, .spelled [0x644, 0x645] 0x1A 0x1A⟩,
    ⟨0xFC43, 1, .spelled [0x644, 0x649] 0x1A 0x1A⟩,
    ⟨0xFC44, 1, .spelled [0x644, 0x64A] 0x1A 0x1A⟩,
    ⟨0xFC45, 1, .spelled [0x645, 0x62C] 0x1A 0x1A⟩,
    ⟨0xFC46, 1, .spelled [0x645, 0x62D] 0x1A 0x1A⟩,
    ⟨0xFC47, 1, .spelled [0x645, 0x62E] 0x1A 0x1A⟩,
    ⟨0xFC48, 1, .spelled [0x645, 0x645] 0x1A 0x1A⟩,
    ⟨0xFC49, 1, .spelled [0x645, 0x649] 0x1A 0x1A⟩,
    ⟨0xFC4A, 1, .spelled [0x645, 0x64A] 0x1A 0x1A⟩,
    ⟨0xFC4B, 1, .spelled [0x646, 0x62C] 0x1A 0x1A⟩,
    ⟨0xFC4C, 1, .spelled [0x646, 0x62D] 0x1A 0x1A⟩,
    ⟨0xFC4D, 1, .spelled [0x646, 0x62E] 0x1A 0x1A⟩,
    ⟨0xFC4E, 1, .spelled [0x646, 0x645] 0x1A 0x1A⟩,
    ⟨0xFC4F, 1, .spelled [0x646, 0x649] 0x1A 0x1A⟩,
    ⟨0xFC50, 1, .spelled [0x646, 0x64A] 0x1A 0x1A⟩,
    ⟨0xFC51, 1, .spelled [0x647, 0x62C] 0x1A 0x1A⟩,
    ⟨0xFC52, 1, .spelled [0x647, 0x645] 0x1A 0x1A⟩,
    ⟨0xFC53, 1, .spelled [0x647, 0x649] 0x1A 0x1A⟩,
    ⟨0xFC54, 1, .spelled [0x647, 0x64A] 0x1A 0x1A⟩,
    ⟨0xFC55, 1, .spelled [0x64A, 0x62C] 0x1A 0x1A⟩,
    ⟨0xFC56, 1, .spelled [0x64A, 0x62D] 0x1A 0x1A⟩,
    ⟨0xFC57, 1, .spelled [0x64A, 0x62E] 0x1A 0x1A⟩,
    ⟨0xFC58, 1, .spelled [0x64A, 0x645] 0x1A 0x1A⟩,
    ⟨0xFC59, 1, .spelled [0x64A, 0x649] 0x1A 0x1A⟩,
    ⟨0xFC5A, 1, .spelled [0x64A, 0x64A] 0x1A 0x1A⟩,
    ⟨0xFC5B, 1, .spelled [0x630, 0x670] 0x1A 0x1A⟩,
    ⟨0xFC5C, 1, .spelled [0x631, 0x670] 0x1A 0x1A⟩,
    ⟨0xFC5D, 1, .spelled [0x649, 0x670] 0x1A 0x1A⟩,
    ⟨0xFC5E, 1, .several [.mark 0x70 0x1A, .mark 0x80 0x1A]⟩,
    ⟨0xFC5F, 1, .several [.mark 0x73 0x1A, .mark 0x80 0x1A]⟩,
    ⟨0xFC60, 1, .several [.mark 0x76 0x1A, .mark 0x80 0x1A]⟩,
    ⟨0xFC61, 1, .several [.mark 0x7A 0x1A, .mark 0x80 0x1A]⟩,
    ⟨0xFC62, 1, .several [.mark 0x7D 0x1A, .mark 0x80 0x1A]⟩,
    ⟨0xFC63, 1, .several [.mark 0x80 0x1A, .mark 0x98 0x1A]⟩,
    ⟨0xFC64, 1, .several [.letter 0x275D 0x20 0x19, .letter 0x27A4 0x20 0x19]⟩,
    ⟨0xFC65, 1, .several [.letter 0x275D 0x20 0x19, .letter 0x27A5 0x20 0x19]⟩,
    ⟨0xFC66, 1, .several [.letter 0x275D 0x20 0x19, .letter 0x280C 0x20 0x19]⟩,
    ⟨0xFC67, 1, .several [.letter 0x275D 0x20 0x19, .letter 0x2810 0x20 0x19]⟩,
    ⟨0xFC68, 1, .several [.letter 0x275D 0x20 0x19, .letter 0x282F 0x20 0x19]⟩,
    ⟨0xFC69, 1, .several [.letter 0x275D 0x20 0x19, .letter 0x2830 0x20 0x19]⟩,
    ⟨0xFC6A, 1, .spelled [0x628, 0x631] 0x19 0x19⟩,
    ⟨0xFC6B, 1, .spelled [0x628, 0x632] 0x19 0x19⟩,
    ⟨0xFC6C, 1, .spelled [0x628, 0x645] 0x19 0x19⟩,
    ⟨0xFC6D, 1, .spelled [0x628, 0x646] 0x19 0x19⟩,
    ⟨0xFC6E, 1, .spelled [0x628, 0x649] 0x19 0x19⟩,
    ⟨0xFC6F, 1, .spelled [0x628, 0x64A] 0x19 0x19⟩,
    ⟨0xFC70, 1, .spelled [0x62A, 0x631] 0x19 0x19⟩,
    ⟨0xFC71, 1, .spelled [0x62A, 0x632] 0x19 0x19⟩,
    ⟨0xFC72, 1, .spelled [0x62A, 0x645] 0x19 0x19⟩,
    ⟨0xFC73, 1, .spelled [0x62A, 0x646] 0x19 0x19⟩,
    ⟨0xFC74, 1, .spelled [0x62A, 0x649] 0x19 0x19⟩,
    ⟨0xFC75, 1, .spelled [0x62A, 0x64A] 0x19 0x19⟩,
    ⟨0xFC76, 1, .spelled [0x62B, 0x631] 0x19 0x19⟩,
    ⟨0xFC77, 1, .spelled [0x62B, 0x632] 0x19 0x19⟩,
    ⟨0xFC78, 1, .spelled [0x62B, 0x645] 0x19 0x19⟩,
    ⟨0xFC79, 1, .spelled [0x62B, 0x646] 0x19 0x19⟩,
    ⟨0xFC7A, 1, .spelled [0x62B, 0x649] 0x19 0x19⟩,
    ⟨0xFC7B, 1, .spelled [0x62B, 0x64A] 0x19 0x19⟩,
    ⟨0xFC7C, 1, .spelled [0x641, 0x649] 0x19 0x19⟩,
    ⟨0xFC7D, 1, .spelled [0x641, 0x64A] 0x19 0x19⟩,
    ⟨0xFC7E, 1, .spelled [0x642, 0x649] 0x19 0x19⟩,
    ⟨0xFC7F, 1, .spelled [0x642, 0x64A] 0x19 0x19⟩,
    ⟨0xFC80, 1, .spelled [0x643, 0x627] 0x19 0x19⟩,
    ⟨0xFC81, 1, .spelled [0x643, 0x644] 0x19 0x19⟩,
    ⟨0xFC82, 1, .spelled [0x643, 0x645] 0x19 0x19⟩,
    ⟨0xFC83, 1, .spelled [0x643, 0x649] 0x19 0x19⟩,
    ⟨0xFC84, 1, .spelled [0x643, 0x64A] 0x19 0x19⟩,
    ⟨0xFC85, 1, .spelled [0x644, 0x645] 0x19 0x19⟩,
    ⟨0xFC86, 1, .spelled [0x644, 0x649] 0x19 0x19⟩,
    ⟨0xFC87, 1, .spelled [0x644, 0x64A] 0x19 0x19⟩,
    ⟨0xFC88, 1, .spelled [0x645, 0x627] 0x19 0x19⟩,
    ⟨0xFC89, 1, .spelled [0x645, 0x645] 0x19 0x19⟩,
    ⟨0xFC8A, 1, .spelled [0x646, 0x631] 0x19 0x19⟩,
    ⟨0xFC8B, 1, .spelled [0x646, 0x632] 0x19 0x19⟩,
    ⟨0xFC8C, 1, .spelled [0x646, 0x645] 0x19 0x19⟩,
    ⟨0xFC8D, 1, .spelled [0x646, 0x646] 0x19 0x19⟩,
    ⟨0xFC8E, 1, .spelled [0x646, 0x649] 0x19 0x19⟩,
    ⟨0xFC8F, 1, .spelled [0x646, 0x64A] 0x19 0x19⟩,
    ⟨0xFC90, 1, .spelled [0x649, 0x670] 0x19 0x19⟩,
    ⟨0xFC91, 1, .spelled [0x64A, 0x631] 0x19 0x19⟩,
    ⟨0xFC92, 1, .spelled [0x64A, 0x632] 0x19 0x19⟩,
    ⟨0xFC93, 1, .spelled [0x64A, 0x645] 0x19 0x19⟩,
    ⟨0xFC94, 1, .spelled [0x64A, 0x646] 0x19 0x19⟩,
    ⟨0xFC95, 1, .spelled [0x64A, 0x649] 0x19 0x19⟩,
    ⟨0xFC96, 1, .spelled [0x64A, 0x64A] 0x19 0x19⟩,
    ⟨0xFC97, 1, .several [.letter 0x275D 0x20 0x17, .letter 0x277E 0x20 0x17]⟩,
    ⟨0xFC98, 1, .several [.letter 0x275D 0x20 0x17, .letter 0x2789 0x20 0x17]⟩,
    ⟨0xFC99, 1, .several [.letter 0x275D 0x20 0x17, .letter 0x278A 0x20 0x17]⟩,
    ⟨0xFC9A, 1, .several [.letter 0x275D 0x20 0x17, .letter 0x280C 0x20 0x17]⟩,
    ⟨0xFC9B, 1, .several [.letter 0x275D 0x20 0x17, .letter 0x281B 0x20 0x17]⟩]

def arabicPresentationFormsASpans3 : List Span :=
  [⟨0xFC9C, 1, .spelled [0x628, 0x62C] 0x17 0x17⟩,
    ⟨0xFC9D, 1, .spelled [0x628, 0x62D] 0x17 0x17⟩,
    ⟨0xFC9E, 1, .spelled [0x628, 0x62E] 0x17 0x17⟩,
    ⟨0xFC9F, 1, .spelled [0x628, 0x645] 0x17 0x17⟩,
    ⟨0xFCA0, 1, .spelled [0x628, 0x647] 0x17 0x17⟩,
    ⟨0xFCA1, 1, .spelled [0x62A, 0x62C] 0x17 0x17⟩,
    ⟨0xFCA2, 1, .spelled [0x62A, 0x62D] 0x17 0x17⟩,
    ⟨0xFCA3, 1, .spelled [0x62A, 0x62E] 0x17 0x17⟩,
    ⟨0xFCA4, 1, .spelled [0x62A, 0x645] 0x17 0x17⟩,
    ⟨0xFCA5, 1, .spelled [0x62A, 0x647] 0x17 0x17⟩,
    ⟨0xFCA6, 1, .spelled [0x62B, 0x645] 0x17 0x17⟩,
    ⟨0xFCA7, 1, .spelled [0x62C, 0x62D] 0x17 0x17⟩,
    ⟨0xFCA8, 1, .spelled [0x62C, 0x645] 0x17 0x17⟩,
    ⟨0xFCA9, 1, .spelled [0x62D, 0x62C] 0x17 0x17⟩,
    ⟨0xFCAA, 1, .spelled [0x62D, 0x645] 0x17 0x17⟩,
    ⟨0xFCAB, 1, .spelled [0x62E, 0x62C] 0x17 0x17⟩,
    ⟨0xFCAC, 1, .spelled [0x62E, 0x645] 0x17 0x17⟩,
    ⟨0xFCAD, 1, .spelled [0x633, 0x62C] 0x17 0x17⟩,
    ⟨0xFCAE, 1, .spelled [0x633, 0x62D] 0x17 0x17⟩,
    ⟨0xFCAF, 1, .spelled [0x633, 0x62E] 0x17 0x17⟩,
    ⟨0xFCB0, 1, .spelled [0x633, 0x645] 0x17 0x17⟩,
    ⟨0xFCB1, 1, .spelled [0x635, 0x62D] 0x17 0x17⟩,
    ⟨0xFCB2, 1, .spelled [0x635, 0x62E] 0x17 0x17⟩,
    ⟨0xFCB3, 1, .spelled [0x635, 0x645] 0x17 0x17⟩,
    ⟨0xFCB4, 1, .spelled [0x636, 0x62C] 0x17 0x17⟩,
    ⟨0xFCB5, 1, .spelled [0x636, 0x62D] 0x17 0x17⟩,
    ⟨0xFCB6, 1, .spelled [0x636, 0x62E] 0x17 0x17⟩,
    ⟨0xFCB7, 1, .spelled [0x636, 0x645] 0x17 0x17⟩,
    ⟨0xFCB8, 1, .spelled [0x637, 0x62D] 0x17 0x17⟩,
    ⟨0xFCB9, 1, .spelled [0x638, 0x645] 0x17 0x17⟩,
    ⟨0xFCBA, 1, .spelled [0x639, 0x62C] 0x17 0x17⟩,
    ⟨0xFCBB, 1, .spelled [0x639, 0x645] 0x17 0x17⟩,
    ⟨0xFCBC, 1, .spelled [0x63A, 0x62C] 0x17 0x17⟩,
    ⟨0xFCBD, 1, .spelled [0x63A, 0x645] 0x17 0x17⟩,
    ⟨0xFCBE, 1, .spelled [0x641, 0x62C] 0x17 0x17⟩,
    ⟨0xFCBF, 1, .spelled [0x641, 0x62D] 0x17 0x17⟩,
    ⟨0xFCC0, 1, .spelled [0x641, 0x62E] 0x17 0x17⟩,
    ⟨0xFCC1, 1, .spelled [0x641, 0x645] 0x17 0x17⟩,
    ⟨0xFCC2, 1, .spelled [0x642, 0x62D] 0x17 0x17⟩,
    ⟨0xFCC3, 1, .spelled [0x642, 0x645] 0x17 0x17⟩,
    ⟨0xFCC4, 1, .spelled [0x643, 0x62C] 0x17 0x17⟩,
    ⟨0xFCC5, 1, .spelled [0x643, 0x62D] 0x17 0x17⟩,
    ⟨0xFCC6, 1, .spelled [0x643, 0x62E] 0x17 0x17⟩,
    ⟨0xFCC7, 1, .spelled [0x643, 0x644] 0x17 0x17⟩,
    ⟨0xFCC8, 1, .spelled [0x643, 0x645] 0x17 0x17⟩,
    ⟨0xFCC9, 1, .spelled [0x644, 0x62C] 0x17 0x17⟩,
    ⟨0xFCCA, 1, .spelled [0x644, 0x62D] 0x17 0x17⟩,
    ⟨0xFCCB, 1, .spelled [0x644, 0x62E] 0x17 0x17⟩,
    ⟨0xFCCC, 1, .spelled [0x644, 0x645] 0x17 0x17⟩,
    ⟨0xFCCD, 1, .spelled [0x644, 0x647] 0x17 0x17⟩,
    ⟨0xFCCE, 1, .spelled [0x645, 0x62C] 0x17 0x17⟩,
    ⟨0xFCCF, 1, .spelled [0x645, 0x62D] 0x17 0x17⟩,
    ⟨0xFCD0, 1, .spelled [0x645, 0x62E] 0x17 0x17⟩,
    ⟨0xFCD1, 1, .spelled [0x645, 0x645] 0x17 0x17⟩,
    ⟨0xFCD2, 1, .spelled [0x646, 0x62C] 0x17 0x17⟩,
    ⟨0xFCD3, 1, .spelled [0x646, 0x62D] 0x17 0x17⟩,
    ⟨0xFCD4, 1, .spelled [0x646, 0x62E] 0x17 0x17⟩,
    ⟨0xFCD5, 1, .spelled [0x646, 0x645] 0x17 0x17⟩,
    ⟨0xFCD6, 1, .spelled [0x646, 0x647] 0x17 0x17⟩,
    ⟨0xFCD7, 1, .spelled [0x647, 0x62C] 0x17 0x17⟩,
    ⟨0xFCD8, 1, .spelled [0x647, 0x645] 0x17 0x17⟩,
    ⟨0xFCD9, 1, .spelled [0x647, 0x670] 0x17 0x17⟩,
    ⟨0xFCDA, 1, .spelled [0x64A, 0x62C] 0x17 0x17⟩,
    ⟨0xFCDB, 1, .spelled [0x64A, 0x62D] 0x17 0x17⟩,
    ⟨0xFCDC, 1, .spelled [0x64A, 0x62E] 0x17 0x17⟩,
    ⟨0xFCDD, 1, .spelled [0x64A, 0x645] 0x17 0x17⟩,
    ⟨0xFCDE, 1, .spelled [0x64A, 0x647] 0x17 0x17⟩,
    ⟨0xFCDF, 1, .several [.letter 0x275D 0x20 0x18, .letter 0x280C 0x20 0x18]⟩,
    ⟨0xFCE0, 1, .several [.letter 0x275D 0x20 0x18, .letter 0x281B 0x20 0x18]⟩,
    ⟨0xFCE1, 1, .spelled [0x628, 0x645] 0x18 0x18⟩,
    ⟨0xFCE2, 1, .spelled [0x628, 0x647] 0x18 0x18⟩,
    ⟨0xFCE3, 1, .spelled [0x62A, 0x645] 0x18 0x18⟩,
    ⟨0xFCE4, 1, .spelled [0x62A, 0x647] 0x18 0x18⟩,
    ⟨0xFCE5, 1, .spelled [0x62B, 0x645] 0x18 0x18⟩,
    ⟨0xFCE6, 1, .spelled [0x62B, 0x647] 0x18 0x18⟩,
    ⟨0xFCE7, 1, .spelled [0x633, 0x645] 0x18 0x18⟩,
    ⟨0xFCE8, 1, .spelled [0x633, 0x647] 0x18 0x18⟩,
    ⟨0xFCE9, 1, .spelled [0x634, 0x645] 0x18 0x18⟩,
    ⟨0xFCEA, 1, .spelled [0x634, 0x647] 0x18 0x18⟩,
    ⟨0xFCEB, 1, .spelled [0x643, 0x644] 0x18 0x18⟩,
    ⟨0xFCEC, 1, .spelled [0x643, 0x645] 0x18 0x18⟩,
    ⟨0xFCED, 1, .spelled [0x644, 0x645] 0x18 0x18⟩,
    ⟨0xFCEE, 1, .spelled [0x646, 0x645] 0x18 0x18⟩,
    ⟨0xFCEF, 1, .spelled [0x646, 0x647] 0x18 0x18⟩,
    ⟨0xFCF0, 1, .spelled [0x64A, 0x645] 0x18 0x18⟩,
    ⟨0xFCF1, 1, .spelled [0x64A, 0x647] 0x18 0x18⟩,
    ⟨0xFCF2, 1, .spelled [0x640, 0x64E, 0x651] 0x18 0x18⟩,
    ⟨0xFCF3, 1, .spelled [0x640, 0x64F, 0x651] 0x18 0x18⟩,
    ⟨0xFCF4, 1, .spelled [0x640, 0x650, 0x651] 0x18 0x18⟩,
    ⟨0xFCF5, 1, .spelled [0x637, 0x649] 0x1A 0x1A⟩,
    ⟨0xFCF6, 1, .spelled [0x637, 0x64A] 0x1A 0x1A⟩,
    ⟨0xFCF7, 1, .spelled [0x639, 0x649] 0x1A 0x1A⟩,
    ⟨0xFCF8, 1, .spelled [0x639, 0x64A] 0x1A 0x1A⟩,
    ⟨0xFCF9, 1, .spelled [0x63A, 0x649] 0x1A 0x1A⟩,
    ⟨0xFCFA, 1, .spelled [0x63A, 0x64A] 0x1A 0x1A⟩,
    ⟨0xFCFB, 1, .spelled [0x633, 0x649] 0x1A 0x1A⟩,
    ⟨0xFCFC, 1, .spelled [0x633, 0x64A] 0x1A 0x1A⟩,
    ⟨0xFCFD, 1, .spelled [0x634, 0x649] 0x1A 0x1A⟩,
    ⟨0xFCFE, 1, .spelled [0x634, 0x64A] 0x1A 0x1A⟩,
    ⟨0xFCFF, 1, .spelled [0x62D, 0x649] 0x1A 0x1A⟩,
    ⟨0xFD00, 1, .spelled [0x62D, 0x64A] 0x1A 0x1A⟩,
    ⟨0xFD01, 1, .spelled [0x62C, 0x649] 0x1A 0x1A⟩,
    ⟨0xFD02, 1, .spelled [0x62C, 0x64A] 0x1A 0x1A⟩,
    ⟨0xFD03, 1, .spelled [0x62E, 0x649] 0x1A 0x1A⟩,
    ⟨0xFD04, 1, .spelled [0x62E, 0x64A] 0x1A 0x1A⟩,
    ⟨0xFD05, 1, .spelled [0x635, 0x649] 0x1A 0x1A⟩,
    ⟨0xFD06, 1, .spelled [0x635, 0x64A] 0x1A 0x1A⟩,
    ⟨0xFD07, 1, .spelled [0x636, 0x649] 0x1A 0x1A⟩,
    ⟨0xFD08, 1, .spelled [0x636, 0x64A] 0x1A 0x1A⟩,
    ⟨0xFD09, 1, .spelled [0x634, 0x62C] 0x1A 0x1A⟩,
    ⟨0xFD0A, 1, .spelled [0x634, 0x62D] 0x1A 0x1A⟩,
    ⟨0xFD0B, 1, .spelled [0x634, 0x62E] 0x1A 0x1A⟩,
    ⟨0xFD0C, 1, .spelled [0x634, 0x645] 0x1A 0x1A⟩,
    ⟨0xFD0D, 1, .spelled [0x634, 0x631] 0x1A 0x1A⟩,
    ⟨0xFD0E, 1, .spelled [0x633, 0x631] 0x1A 0x1A⟩,
    ⟨0xFD0F, 1, .spelled [0x635, 0x631] 0x1A 0x1A⟩,
    ⟨0xFD10, 1, .spelled [0x636, 0x631] 0x1A 0x1A⟩,
    ⟨0xFD11, 1, .spelled [0x637, 0x649] 0x19 0x19⟩,
    ⟨0xFD12, 1, .spelled [0x637, 0x64A] 0x19 0x19⟩,
    ⟨0xFD13, 1, .spelled [0x639, 0x649] 0x19 0x19⟩,
    ⟨0xFD14, 1, .spelled [0x639, 0x64A] 0x19 0x19⟩,
    ⟨0xFD15, 1, .spelled [0x63A, 0x649] 0x19 0x19⟩,
    ⟨0xFD16, 1, .spelled [0x63A, 0x64A] 0x19 0x19⟩,
    ⟨0xFD17, 1, .spelled [0x633, 0x649] 0x19 0x19⟩,
    ⟨0xFD18, 1, .spelled [0x633, 0x64A] 0x19 0x19⟩,
    ⟨0xFD19, 1, .spelled [0x634, 0x649] 0x19 0x19⟩,
    ⟨0xFD1A, 1, .spelled [0x634, 0x64A] 0x19 0x19⟩,
    ⟨0xFD1B, 1, .spelled [0x62D, 0x649] 0x19 0x19⟩,
    ⟨0xFD1C, 1, .spelled [0x62D, 0x64A] 0x19 0x19⟩,
    ⟨0xFD1D, 1, .spelled [0x62C, 0x649] 0x19 0x19⟩,
    ⟨0xFD1E, 1, .spelled [0x62C, 0x64A] 0x19 0x19⟩,
    ⟨0xFD1F, 1, .spelled [0x62E, 0x649] 0x19 0x19⟩,
    ⟨0xFD20, 1, .spelled [0x62E, 0x64A] 0x19 0x19⟩,
    ⟨0xFD21, 1, .spelled [0x635, 0x649] 0x19 0x19⟩,
    ⟨0xFD22, 1, .spelled [0x635, 0x64A] 0x19 0x19⟩,
    ⟨0xFD23, 1, .spelled [0x636, 0x649] 0x19 0x19⟩,
    ⟨0xFD24, 1, .spelled [0x636, 0x64A] 0x19 0x19⟩,
    ⟨0xFD25, 1, .spelled [0x634, 0x62C] 0x19 0x19⟩,
    ⟨0xFD26, 1, .spelled [0x634, 0x62D] 0x19 0x19⟩,
    ⟨0xFD27, 1, .spelled [0x634, 0x62E] 0x19 0x19⟩,
    ⟨0xFD28, 1, .spelled [0x634, 0x645] 0x19 0x19⟩,
    ⟨0xFD29, 1, .spelled [0x634, 0x631] 0x19 0x19⟩,
    ⟨0xFD2A, 1, .spelled [0x633, 0x631] 0x19 0x19⟩,
    ⟨0xFD2B, 1, .spelled [0x635, 0x631] 0x19 0x19⟩,
    ⟨0xFD2C, 1, .spelled [0x636, 0x631] 0x19 0x19⟩,
    ⟨0xFD2D, 1, .spelled [0x634, 0x62C] 0x17 0x17⟩,
    ⟨0xFD2E, 1, .spelled [0x634, 0x62D] 0x17 0x17⟩,
    ⟨0xFD2F, 1, .spelled [0x634, 0x62E] 0x17 0x17⟩,
    ⟨0xFD30, 1, .spelled [0x634, 0x645] 0x17 0x17⟩,
    ⟨0xFD31, 1, .spelled [0x633, 0x647] 0x17 0x17⟩]

def arabicPresentationFormsASpans4 : List Span :=
  [⟨0xFD32, 1, .spelled [0x634, 0x647] 0x17 0x17⟩,
    ⟨0xFD33, 1, .spelled [0x637, 0x645] 0x17 0x17⟩,
    ⟨0xFD34, 1, .spelled [0x633, 0x62C] 0x18 0x18⟩,
    ⟨0xFD35, 1, .spelled [0x633, 0x62D] 0x18 0x18⟩,
    ⟨0xFD36, 1, .spelled [0x633, 0x62E] 0x18 0x18⟩,
    ⟨0xFD37, 1, .spelled [0x634, 0x62C] 0x18 0x18⟩,
    ⟨0xFD38, 1, .spelled [0x634, 0x62D] 0x18 0x18⟩,
    ⟨0xFD39, 1, .spelled [0x634, 0x62E] 0x18 0x18⟩,
    ⟨0xFD3A, 1, .spelled [0x637, 0x645] 0x18 0x18⟩,
    ⟨0xFD3B, 1, .spelled [0x638, 0x645] 0x18 0x18⟩,
    ⟨0xFD3C, 1, .spelled [0x627, 0x64B] 0x19 0x19⟩,
    ⟨0xFD3D, 1, .spelled [0x627, 0x64B] 0x1A 0x1A⟩, ⟨0xFD3E, 2, .blank 0x3AF⟩,
    ⟨0xFD40, 16, .letter 0x56E 0x20 0x2⟩, ⟨0xFD50, 1, .spelled [0x62A, 0x62C, 0x645] 0x17 0x17⟩,
    ⟨0xFD51, 1, .spelled [0x62A, 0x62D, 0x62C] 0x19 0x19⟩,
    ⟨0xFD52, 1, .spelled [0x62A, 0x62D, 0x62C] 0x17 0x17⟩,
    ⟨0xFD53, 1, .spelled [0x62A, 0x62D, 0x645] 0x17 0x17⟩,
    ⟨0xFD54, 1, .spelled [0x62A, 0x62E, 0x645] 0x17 0x17⟩,
    ⟨0xFD55, 1, .spelled [0x62A, 0x645, 0x62C] 0x17 0x17⟩,
    ⟨0xFD56, 1, .spelled [0x62A, 0x645, 0x62D] 0x17 0x17⟩,
    ⟨0xFD57, 1, .spelled [0x62A, 0x645, 0x62E] 0x17 0x17⟩,
    ⟨0xFD58, 1, .spelled [0x62C, 0x645, 0x62D] 0x19 0x19⟩,
    ⟨0xFD59, 1, .spelled [0x62C, 0x645, 0x62D] 0x17 0x17⟩,
    ⟨0xFD5A, 1, .spelled [0x62D, 0x645, 0x64A] 0x19 0x19⟩,
    ⟨0xFD5B, 1, .spelled [0x62D, 0x645, 0x649] 0x19 0x19⟩,
    ⟨0xFD5C, 1, .spelled [0x633, 0x62D, 0x62C] 0x17 0x17⟩,
    ⟨0xFD5D, 1, .spelled [0x633, 0x62C, 0x62D] 0x17 0x17⟩,
    ⟨0xFD5E, 1, .spelled [0x633, 0x62C, 0x649] 0x19 0x19⟩,
    ⟨0xFD5F, 1, .spelled [0x633, 0x645, 0x62D] 0x19 0x19⟩,
    ⟨0xFD60, 1, .spelled [0x633, 0x645, 0x62D] 0x17 0x17⟩,
    ⟨0xFD61, 1, .spelled [0x633, 0x645, 0x62C] 0x17 0x17⟩,
    ⟨0xFD62, 1, .spelled [0x633, 0x645, 0x645] 0x19 0x19⟩,
    ⟨0xFD63, 1, .spelled [0x633, 0x645, 0x645] 0x17 0x17⟩,
    ⟨0xFD64, 1, .spelled [0x635, 0x62D, 0x62D] 0x19 0x19⟩,
    ⟨0xFD65, 1, .spelled [0x635, 0x62D, 0x62D] 0x17 0x17⟩,
    ⟨0xFD66, 1, .spelled [0x635, 0x645, 0x645] 0x19 0x19⟩,
    ⟨0xFD67, 1, .spelled [0x634, 0x62D, 0x645] 0x19 0x19⟩,
    ⟨0xFD68, 1, .spelled [0x634, 0x62D, 0x645] 0x17 0x17⟩,
    ⟨0xFD69, 1, .spelled [0x634, 0x62C, 0x64A] 0x19 0x19⟩,
    ⟨0xFD6A, 1, .spelled [0x634, 0x645, 0x62E] 0x19 0x19⟩,
    ⟨0xFD6B, 1, .spelled [0x634, 0x645, 0x62E] 0x17 0x17⟩,
    ⟨0xFD6C, 1, .spelled [0x634, 0x645, 0x645] 0x19 0x19⟩,
    ⟨0xFD6D, 1, .spelled [0x634, 0x645, 0x645] 0x17 0x17⟩,
    ⟨0xFD6E, 1, .spelled [0x636, 0x62D, 0x649] 0x19 0x19⟩,
    ⟨0xFD6F, 1, .spelled [0x636, 0x62E, 0x645] 0x19 0x19⟩,
    ⟨0xFD70, 1, .spelled [0x636, 0x62E, 0x645] 0x17 0x17⟩,
    ⟨0xFD71, 1, .spelled [0x637, 0x645, 0x62D] 0x19 0x19⟩,
    ⟨0xFD72, 1, .spelled [0x637, 0x645, 0x62D] 0x17 0x17⟩,
    ⟨0xFD73, 1, .spelled [0x637, 0x645, 0x645] 0x17 0x17⟩,
    ⟨0xFD74, 1, .spelled [0x637, 0x645, 0x64A] 0x19 0x19⟩,
    ⟨0xFD75, 1, .spelled [0x639, 0x62C, 0x645] 0x19 0x19⟩,
    ⟨0xFD76, 1, .spelled [0x639, 0x645, 0x645] 0x19 0x19⟩,
    ⟨0xFD77, 1, .spelled [0x639, 0x645, 0x645] 0x17 0x17⟩,
    ⟨0xFD78, 1, .spelled [0x639, 0x645, 0x649] 0x19 0x19⟩,
    ⟨0xFD79, 1, .spelled [0x63A, 0x645, 0x645] 0x19 0x19⟩,
    ⟨0xFD7A, 1, .spelled [0x63A, 0x645, 0x64A] 0x19 0x19⟩,
    ⟨0xFD7B, 1, .spelled [0x63A, 0x645, 0x649] 0x19 0x19⟩,
    ⟨0xFD7C, 1, .spelled [0x641, 0x62E, 0x645] 0x19 0x19⟩,
    ⟨0xFD7D, 1, .spelled [0x641, 0x62E, 0x645] 0x17 0x17⟩,
    ⟨0xFD7E, 1, .spelled [0x642, 0x645, 0x62D] 0x19 0x19⟩,
    ⟨0xFD7F, 1, .spelled [0x642, 0x645, 0x645] 0x19 0x19⟩,
    ⟨0xFD80, 1, .spelled [0x644, 0x62D, 0x645] 0x19 0x19⟩,
    ⟨0xFD81, 1, .spelled [0x644, 0x62D, 0x64A] 0x19 0x19⟩,
    ⟨0xFD82, 1, .spelled [0x644, 0x62D, 0x649] 0x19 0x19⟩,
    ⟨0xFD83, 1, .spelled [0x644, 0x62C, 0x62C] 0x17 0x17⟩,
    ⟨0xFD84, 1, .spelled [0x644, 0x62C, 0x62C] 0x19 0x19⟩,
    ⟨0xFD85, 1, .spelled [0x644, 0x62E, 0x645] 0x19 0x19⟩,
    ⟨0xFD86, 1, .spelled [0x644, 0x62E, 0x645] 0x17 0x17⟩,
    ⟨0xFD87, 1, .spelled [0x644, 0x645, 0x62D] 0x19 0x19⟩,
    ⟨0xFD88, 1, .spelled [0x644, 0x645, 0x62D] 0x17 0x17⟩,
    ⟨0xFD89, 1, .spelled [0x645, 0x62D, 0x62C] 0x17 0x17⟩,
    ⟨0xFD8A, 1, .spelled [0x645, 0x62D, 0x645] 0x17 0x17⟩,
    ⟨0xFD8B, 1, .spelled [0x645, 0x62D, 0x64A] 0x19 0x19⟩,
    ⟨0xFD8C, 1, .spelled [0x645, 0x62C, 0x62D] 0x17 0x17⟩,
    ⟨0xFD8D, 1, .spelled [0x645, 0x62C, 0x645] 0x17 0x17⟩,
    ⟨0xFD8E, 1, .spelled [0x645, 0x62E, 0x62C] 0x17 0x17⟩,
    ⟨0xFD8F, 1, .spelled [0x645, 0x62E, 0x645] 0x17 0x17⟩,
    ⟨0xFD92, 1, .spelled [0x645, 0x62C, 0x62E] 0x17 0x17⟩,
    ⟨0xFD93, 1, .spelled [0x647, 0x645, 0x62C] 0x17 0x17⟩,
    ⟨0xFD94, 1, .spelled [0x647, 0x645, 0x645] 0x17 0x17⟩,
    ⟨0xFD95, 1, .spelled [0x646, 0x62D, 0x645] 0x17 0x17⟩,
    ⟨0xFD96, 1, .spelled [0x646, 0x62D, 0x649] 0x19 0x19⟩,
    ⟨0xFD97, 1, .spelled [0x646, 0x62C, 0x645] 0x19 0x19⟩,
    ⟨0xFD98, 1, .spelled [0x646, 0x62C, 0x645] 0x17 0x17⟩,
    ⟨0xFD99, 1, .spelled [0x646, 0x62C, 0x649] 0x19 0x19⟩,
    ⟨0xFD9A, 1, .spelled [0x646, 0x645, 0x64A] 0x19 0x19⟩,
    ⟨0xFD9B, 1, .spelled [0x646, 0x645, 0x649] 0x19 0x19⟩,
    ⟨0xFD9C, 1, .spelled [0x64A, 0x645, 0x645] 0x19 0x19⟩,
    ⟨0xFD9D, 1, .spelled [0x64A, 0x645, 0x645] 0x17 0x17⟩,
    ⟨0xFD9E, 1, .spelled [0x628, 0x62E, 0x64A] 0x19 0x19⟩,
    ⟨0xFD9F, 1, .spelled [0x62A, 0x62C, 0x64A] 0x19 0x19⟩,
    ⟨0xFDA0, 1, .spelled [0x62A, 0x62C, 0x649] 0x19 0x19⟩,
    ⟨0xFDA1, 1, .spelled [0x62A, 0x62E, 0x64A] 0x19 0x19⟩,
    ⟨0xFDA2, 1, .spelled [0x62A, 0x62E, 0x649] 0x19 0x19⟩,
    ⟨0xFDA3, 1, .spelled [0x62A, 0x645, 0x64A] 0x19 0x19⟩,
    ⟨0xFDA4, 1, .spelled [0x62A, 0x645, 0x649] 0x19 0x19⟩,
    ⟨0xFDA5, 1, .spelled [0x62C, 0x645, 0x64A] 0x19 0x19⟩,
    ⟨0xFDA6, 1, .spelled [0x62C, 0x62D, 0x649] 0x19 0x19⟩,
    ⟨0xFDA7, 1, .spelled [0x62C, 0x645, 0x649] 0x19 0x19⟩,
    ⟨0xFDA8, 1, .spelled [0x633, 0x62E, 0x649] 0x19 0x19⟩,
    ⟨0xFDA9, 1, .spelled [0x635, 0x62D, 0x64A] 0x19 0x19⟩,
    ⟨0xFDAA, 1, .spelled [0x634, 0x62D, 0x64A] 0x19 0x19⟩,
    ⟨0xFDAB, 1, .spelled [0x636, 0x62D, 0x64A] 0x19 0x19⟩,
    ⟨0xFDAC, 1, .spelled [0x644, 0x62C, 0x64A] 0x19 0x19⟩,
    ⟨0xFDAD, 1, .spelled [0x644, 0x645, 0x64A] 0x19 0x19⟩,
    ⟨0xFDAE, 1, .spelled [0x64A, 0x62D, 0x64A] 0x19 0x19⟩,
    ⟨0xFDAF, 1, .spelled [0x64A, 0x62C, 0x64A] 0x19 0x19⟩,
    ⟨0xFDB0, 1, .spelled [0x64A, 0x645, 0x64A] 0x19 0x19⟩,
    ⟨0xFDB1, 1, .spelled [0x645, 0x645, 0x64A] 0x19 0x19⟩,
    ⟨0xFDB2, 1, .spelled [0x642, 0x645, 0x64A] 0x19 0x19⟩,
    ⟨0xFDB3, 1, .spelled [0x646, 0x62D, 0x64A] 0x19 0x19⟩,
    ⟨0xFDB4, 1, .spelled [0x642, 0x645, 0x62D] 0x17 0x17⟩,
    ⟨0xFDB5, 1, .spelled [0x644, 0x62D, 0x645] 0x17 0x17⟩,
    ⟨0xFDB6, 1, .spelled [0x639, 0x645, 0x64A] 0x19 0x19⟩,
    ⟨0xFDB7, 1, .spelled [0x643, 0x645, 0x64A] 0x19 0x19⟩,
    ⟨0xFDB8, 1, .spelled [0x646, 0x62C, 0x62D] 0x17 0x17⟩,
    ⟨0xFDB9, 1, .spelled [0x645, 0x62E, 0x64A] 0x19 0x19⟩,
    ⟨0xFDBA, 1, .spelled [0x644, 0x62C, 0x645] 0x17 0x17⟩,
    ⟨0xFDBB, 1, .spelled [0x643, 0x645, 0x645] 0x19 0x19⟩,
    ⟨0xFDBC, 1, .spelled [0x644, 0x62C, 0x645] 0x19 0x19⟩,
    ⟨0xFDBD, 1, .spelled [0x646, 0x62C, 0x62D] 0x19 0x19⟩,
    ⟨0xFDBE, 1, .spelled [0x62C, 0x62D, 0x64A] 0x19 0x19⟩,
    ⟨0xFDBF, 1, .spelled [0x62D, 0x62C, 0x64A] 0x19 0x19⟩,
    ⟨0xFDC0, 1, .spelled [0x645, 0x62C, 0x64A] 0x19 0x19⟩,
    ⟨0xFDC1, 1, .spelled [0x641, 0x645, 0x64A] 0x19 0x19⟩,
    ⟨0xFDC2, 1, .spelled [0x628, 0x62D, 0x64A] 0x19 0x19⟩,
    ⟨0xFDC3, 1, .spelled [0x643, 0x645, 0x645] 0x17 0x17⟩,
    ⟨0xFDC4, 1, .spelled [0x639, 0x62C, 0x645] 0x17 0x17⟩,
    ⟨0xFDC5, 1, .spelled [0x635, 0x645, 0x645] 0x17 0x17⟩,
    ⟨0xFDC6, 1, .spelled [0x633, 0x62E, 0x64A] 0x19 0x19⟩,
    ⟨0xFDC7, 1, .spelled [0x646, 0x62C, 0x64A] 0x19 0x19⟩, ⟨0xFDCF, 1, .letter 0x57E 0x20 0x2⟩,
    ⟨0xFDF0, 1, .spelled [0x635, 0x644, 0x6D2] 0x1A 0x1A⟩,
    ⟨0xFDF1, 1, .spelled [0x642, 0x644, 0x6D2] 0x1A 0x1A⟩,
    ⟨0xFDF2, 1, .spelled [0x627, 0x644, 0x644, 0x647] 0x1A 0x1A⟩,
    ⟨0xFDF3, 1, .spelled [0x627, 0x643, 0x628, 0x631] 0x1A 0x1A⟩,
    ⟨0xFDF4, 1, .spelled [0x645, 0x62D, 0x645, 0x62F] 0x1A 0x1A⟩,
    ⟨0xFDF5, 1, .spelled [0x635, 0x644, 0x639, 0x645] 0x1A 0x1A⟩,
    ⟨0xFDF6, 1, .spelled [0x631, 0x633, 0x648, 0x644] 0x1A 0x1A⟩,
    ⟨0xFDF7, 1, .spelled [0x639, 0x644, 0x64A, 0x647] 0x1A 0x1A⟩,
    ⟨0xFDF8, 1, .spelled [0x648, 0x633, 0x644, 0x645] 0x1A 0x1A⟩,
    ⟨0xFDF9, 1, .spelled [0x635, 0x644, 0x649] 0x1A 0x1A⟩,
    ⟨0xFDFA, 1, .spelled [0x635, 0x644, 0x649, 0x20, 0x627, 0x644, 0x644, 0x647, 0x20, 0x639,
      0x644, 0x64A, 0x647, 0x20, 0x648, 0x633, 0x644, 0x645] 0x1A 0x1A⟩,
    ⟨0xFDFB, 1, .spelled [0x62C, 0x644, 0x20, 0x62C, 0x644, 0x627, 0x644, 0x647] 0x1A 0x1A⟩,
    ⟨0xFDFC, 1, .spelled [0x631, 0x6CC, 0x627, 0x644] 0x1A 0x1A⟩,
    ⟨0xFDFD, 3, .letter 0x57F 0x20 0x2⟩]

def arabicPresentationFormsA : Chart :=
  ⟨0xFB50, 0xFDFF,
    arabicPresentationFormsASpans1 ++ arabicPresentationFormsASpans2 ++
      arabicPresentationFormsASpans3 ++ arabicPresentationFormsASpans4⟩

def arabicPresentationFormsB : Chart :=
  ⟨0xFE70, 0xFEFF,
    [⟨0xFE70, 1, .mark 0x6D 0x1A⟩, ⟨0xFE71, 1, .mark 0x6D 0x18⟩, ⟨0xFE72, 1, .mark 0x70 0x1A⟩,
      ⟨0xFE73, 1, .ignored⟩, ⟨0xFE74, 1, .mark 0x73 0x1A⟩, ⟨0xFE76, 1, .mark 0x76 0x1A⟩,
      ⟨0xFE77, 1, .mark 0x76 0x18⟩, ⟨0xFE78, 1, .mark 0x7A 0x1A⟩, ⟨0xFE79, 1, .mark 0x7A 0x18⟩,
      ⟨0xFE7A, 1, .mark 0x7D 0x1A⟩, ⟨0xFE7B, 1, .mark 0x7D 0x18⟩, ⟨0xFE7C, 1, .mark 0x80 0x1A⟩,
      ⟨0xFE7D, 1, .mark 0x80 0x18⟩, ⟨0xFE7E, 1, .mark 0x81 0x1A⟩, ⟨0xFE7F, 1, .mark 0x81 0x18⟩,
      ⟨0xFE80, 2, .letter 0x2753 0x20 0x1A⟩, ⟨0xFE82, 1, .letter 0x2754 0x20 0x19⟩,
      ⟨0xFE83, 1, .letter 0x2755 0x20 0x1A⟩, ⟨0xFE84, 1, .letter 0x2755 0x20 0x19⟩,
      ⟨0xFE85, 1, .letter 0x2758 0x20 0x1A⟩, ⟨0xFE86, 1, .letter 0x2758 0x20 0x19⟩,
      ⟨0xFE87, 1, .letter 0x2759 0x20 0x1A⟩, ⟨0xFE88, 1, .letter 0x2759 0x20 0x19⟩,
      ⟨0xFE89, 1, .letter 0x275D 0x20 0x1A⟩, ⟨0xFE8A, 1, .letter 0x275D 0x20 0x19⟩,
      ⟨0xFE8B, 1, .letter 0x275D 0x20 0x17⟩, ⟨0xFE8C, 1, .letter 0x275D 0x20 0x18⟩,
      ⟨0xFE8D, 1, .letter 0x2761 0x20 0x1A⟩, ⟨0xFE8E, 1, .letter 0x2761 0x20 0x19⟩,
      ⟨0xFE8F, 1, .letter 0x2763 0x20 0x1A⟩, ⟨0xFE90, 1, .letter 0x2763 0x20 0x19⟩,
      ⟨0xFE91, 1, .letter 0x2763 0x20 0x17⟩, ⟨0xFE92, 1, .letter 0x2763 0x20 0x18⟩,
      ⟨0xFE93, 1, .letter 0x2773 0x20 0x1A⟩, ⟨0xFE94, 1, .letter 0x2773 0x20 0x19⟩,
      ⟨0xFE95, 1, .letter 0x2774 0x20 0x1A⟩, ⟨0xFE96, 1, .letter 0x2774 0x20 0x19⟩,
      ⟨0xFE97, 1, .letter 0x2774 0x20 0x17⟩, ⟨0xFE98, 1, .letter 0x2774 0x20 0x18⟩,
      ⟨0xFE99, 1, .letter 0x2775 0x20 0x1A⟩, ⟨0xFE9A, 1, .letter 0x2775 0x20 0x19⟩,
      ⟨0xFE9B, 1, .letter 0x2775 0x20 0x17⟩, ⟨0xFE9C, 1, .letter 0x2775 0x20 0x18⟩,
      ⟨0xFE9D, 1, .letter 0x277E 0x20 0x1A⟩, ⟨0xFE9E, 1, .letter 0x277E 0x20 0x19⟩,
      ⟨0xFE9F, 1, .letter 0x277E 0x20 0x17⟩, ⟨0xFEA0, 1, .letter 0x277E 0x20 0x18⟩,
      ⟨0xFEA1, 1, .letter 0x2789 0x20 0x1A⟩, ⟨0xFEA2, 1, .letter 0x2789 0x20 0x19⟩,
      ⟨0xFEA3, 1, .letter 0x2789 0x20 0x17⟩, ⟨0xFEA4, 1, .letter 0x2789 0x20 0x18⟩,
      ⟨0xFEA5, 1, .letter 0x278A 0x20 0x1A⟩, ⟨0xFEA6, 1, .letter 0x278A 0x20 0x19⟩,
      ⟨0xFEA7, 1, .letter 0x278A 0x20 0x17⟩, ⟨0xFEA8, 1, .letter 0x278A 0x20 0x18⟩,
      ⟨0xFEA9, 1, .letter 0x2794 0x20 0x1A⟩, ⟨0xFEAA, 1, .letter 0x2794 0x20 0x19⟩,
      ⟨0xFEAB, 1, .letter 0x2795 0x20 0x1A⟩, ⟨0xFEAC, 1, .letter 0x2795 0x20 0x19⟩,
      ⟨0xFEAD, 1, .letter 0x27A4 0x20 0x1A⟩, ⟨0xFEAE, 1, .letter 0x27A4 0x20 0x19⟩,
      ⟨0xFEAF, 1, .letter 0x27A5 0x20 0x1A⟩, ⟨0xFEB0, 1, .letter 0x27A5 0x20 0x19⟩,
      ⟨0xFEB1, 1, .letter 0x27B7 0x20 0x1A⟩, ⟨0xFEB2, 1, .letter 0x27B7 0x20 0x19⟩,
      ⟨0xFEB3, 1, .letter 0x27B7 0x20 0x17⟩, ⟨0xFEB4, 1, .letter 0x27B7 0x20 0x18⟩,
      ⟨0xFEB5, 1, .letter 0x27B8 0x20 0x1A⟩, ⟨0xFEB6, 1, .letter 0x27B8 0x20 0x19⟩,
      ⟨0xFEB7, 1, .letter 0x27B8 0x20 0x17⟩, ⟨0xFEB8, 1, .letter 0x27B8 0x20 0x18⟩,
      ⟨0xFEB9, 1, .letter 0x27C2 0x20 0x1A⟩, ⟨0xFEBA, 1, .letter 0x27C2 0x20 0x19⟩,
      ⟨0xFEBB, 1, .letter 0x27C2 0x20 0x17⟩, ⟨0xFEBC, 1, .letter 0x27C2 0x20 0x18⟩,
      ⟨0xFEBD, 1, .letter 0x27C3 0x20 0x1A⟩, ⟨0xFEBE, 1, .letter 0x27C3 0x20 0x19⟩,
      ⟨0xFEBF, 1, .letter 0x27C3 0x20 0x17⟩, ⟨0xFEC0, 1, .letter 0x27C3 0x20 0x18⟩,
      ⟨0xFEC1, 1, .letter 0x27C8 0x20 0x1A⟩, ⟨0xFEC2, 1, .letter 0x27C8 0x20 0x19⟩,
      ⟨0xFEC3, 1, .letter 0x27C8 0x20 0x17⟩, ⟨0xFEC4, 1, .letter 0x27C8 0x20 0x18⟩,
      ⟨0xFEC5, 1, .letter 0x27C9 0x20 0x1A⟩, ⟨0xFEC6, 1, .letter 0x27C9 0x20 0x19⟩,
      ⟨0xFEC7, 1, .letter 0x27C9 0x20 0x17⟩, ⟨0xFEC8, 1, .letter 0x27C9 0x20 0x18⟩,
      ⟨0xFEC9, 1, .letter 0x27CF 0x20 0x1A⟩, ⟨0xFECA, 1, .letter 0x27CF 0x20 0x19⟩,
      ⟨0xFECB, 1, .letter 0x27CF 0x20 0x17⟩, ⟨0xFECC, 1, .letter 0x27CF 0x20 0x18⟩,
      ⟨0xFECD, 1, .letter 0x27D0 0x20 0x1A⟩, ⟨0xFECE, 1, .letter 0x27D0 0x20 0x19⟩,
      ⟨0xFECF, 1, .letter 0x27D0 0x20 0x17⟩, ⟨0xFED0, 1, .letter 0x27D0 0x20 0x18⟩,
      ⟨0xFED1, 1, .letter 0x27D8 0x20 0x1A⟩, ⟨0xFED2, 1, .letter 0x27D8 0x20 0x19⟩,
      ⟨0xFED3, 1, .letter 0x27D8 0x20 0x17⟩, ⟨0xFED4, 1, .letter 0x27D8 0x20 0x18⟩,
      ⟨0xFED5, 1, .letter 0x27E4 0x20 0x1A⟩, ⟨0xFED6, 1, .letter 0x27E4 0x20 0x19⟩,
      ⟨0xFED7, 1, .letter 0x27E4 0x20 0x17⟩, ⟨0xFED8, 1, .letter 0x27E4 0x20 0x18⟩,
      ⟨0xFED9, 1, .letter 0x27EB 0x20 0x1A⟩, ⟨0xFEDA, 1, .letter 0x27EB 0x20 0x19⟩,
      ⟨0xFEDB, 1, .letter 0x27EB 0x20 0x17⟩, ⟨0xFEDC, 1, .letter 0x27EB 0x20 0x18⟩,
      ⟨0xFEDD, 1, .letter 0x2804 0x20 0x1A⟩, ⟨0xFEDE, 1, .letter 0x2804 0x20 0x19⟩,
      ⟨0xFEDF, 1, .letter 0x2804 0x20 0x17⟩, ⟨0xFEE0, 1, .letter 0x2804 0x20 0x18⟩,
      ⟨0xFEE1, 1, .letter 0x280C 0x20 0x1A⟩, ⟨0xFEE2, 1, .letter 0x280C 0x20 0x19⟩,
      ⟨0xFEE3, 1, .letter 0x280C 0x20 0x17⟩, ⟨0xFEE4, 1, .letter 0x280C 0x20 0x18⟩,
      ⟨0xFEE5, 1, .letter 0x2810 0x20 0x1A⟩, ⟨0xFEE6, 1, .letter 0x2810 0x20 0x19⟩,
      ⟨0xFEE7, 1, .letter 0x2810 0x20 0x17⟩, ⟨0xFEE8, 1, .letter 0x2810 0x20 0x18⟩,
      ⟨0xFEE9, 1, .letter 0x281B 0x20 0x1A⟩, ⟨0xFEEA, 1, .letter 0x281B 0x20 0x19⟩,
      ⟨0xFEEB, 1, .letter 0x281B 0x20 0x17⟩, ⟨0xFEEC, 1, .letter 0x281B 0x20 0x18⟩,
      ⟨0xFEED, 1, .letter 0x2821 0x20 0x1A⟩, ⟨0xFEEE, 1, .letter 0x2821 0x20 0x19⟩,
      ⟨0xFEEF, 1, .letter 0x282F 0x20 0x1A⟩, ⟨0xFEF0, 1, .letter 0x282F 0x20 0x19⟩,
      ⟨0xFEF1, 1, .letter 0x2830 0x20 0x1A⟩, ⟨0xFEF2, 1, .letter 0x2830 0x20 0x19⟩,
      ⟨0xFEF3, 1, .letter 0x2830 0x20 0x17⟩, ⟨0xFEF4, 1, .letter 0x2830 0x20 0x18⟩,
      ⟨0xFEF5, 1, .several [.letter 0x2804 0x20 0x1A, .letter 0x2754 0x20 0x1A]⟩,
      ⟨0xFEF6, 1, .several [.letter 0x2804 0x20 0x19, .letter 0x2754 0x20 0x19]⟩,
      ⟨0xFEF7, 1, .several [.letter 0x2804 0x20 0x1A, .letter 0x2755 0x20 0x1A]⟩,
      ⟨0xFEF8, 1, .several [.letter 0x2804 0x20 0x19, .letter 0x2755 0x20 0x19]⟩,
      ⟨0xFEF9, 1, .several [.letter 0x2804 0x20 0x1A, .letter 0x2759 0x20 0x1A]⟩,
      ⟨0xFEFA, 1, .several [.letter 0x2804 0x20 0x19, .letter 0x2759 0x20 0x19]⟩,
      ⟨0xFEFB, 1, .spelled [0x644, 0x627] 0x1A 0x1A⟩,
      ⟨0xFEFC, 1, .spelled [0x644, 0x627] 0x19 0x19⟩, ⟨0xFEFF, 1, .ignored⟩]⟩

def arabicMathematicalAlphabeticSymbols : Chart :=
  ⟨0x1EE00, 0x1EEFF,
    [⟨0x1EE00, 2, .like 0x627 0x5 0x5⟩, ⟨0x1EE02, 1, .letter 0x277E 0x20 0x5⟩,
      ⟨0x1EE03, 1, .letter 0x2794 0x20 0x5⟩, ⟨0x1EE05, 1, .letter 0x2821 0x20 0x5⟩,
      ⟨0x1EE06, 1, .letter 0x27A5 0x20 0x5⟩, ⟨0x1EE07, 1, .letter 0x2789 0x20 0x5⟩,
      ⟨0x1EE08, 1, .letter 0x27C8 0x20 0x5⟩, ⟨0x1EE09, 1, .letter 0x2830 0x20 0x5⟩,
      ⟨0x1EE0A, 4, .like 0x643 0x5 0x5⟩, ⟨0x1EE0E, 1, .letter 0x27B7 0x20 0x5⟩,
      ⟨0x1EE0F, 1, .letter 0x27CF 0x20 0x5⟩, ⟨0x1EE10, 1, .letter 0x27D8 0x20 0x5⟩,
      ⟨0x1EE11, 1, .letter 0x27C2 0x20 0x5⟩, ⟨0x1EE12, 1, .letter 0x27E4 0x20 0x5⟩,
      ⟨0x1EE13, 1, .letter 0x27A4 0x20 0x5⟩, ⟨0x1EE14, 1, .letter 0x27B8 0x20 0x5⟩,
      ⟨0x1EE15, 2, .letter 0x2774 0x20 0x5⟩, ⟨0x1EE17, 1, .letter 0x278A 0x20 0x5⟩,
      ⟨0x1EE18, 1, .letter 0x2795 0x20 0x5⟩, ⟨0x1EE19, 1, .letter 0x27C3 0x20 0x5⟩,
      ⟨0x1EE1A, 1, .letter 0x27C9 0x20 0x5⟩, ⟨0x1EE1B, 1, .letter 0x27D0 0x20 0x5⟩,
      ⟨0x1EE1C, 1, .letter 0x2762 0x20 0x5⟩, ⟨0x1EE1D, 1, .letter 0x2811 0x20 0x5⟩,
      ⟨0x1EE1E, 1, .letter 0x27D9 0x20 0x5⟩, ⟨0x1EE1F, 1, .letter 0x27E3 0x20 0x5⟩,
      ⟨0x1EE21, 1, .letter 0x2763 0x20 0x5⟩, ⟨0x1EE22, 1, .letter 0x277E 0x20 0x5⟩,
      ⟨0x1EE24, 1, .letter 0x281B 0x20 0x5⟩, ⟨0x1EE27, 1, .letter 0x2789 0x20 0x5⟩,
      ⟨0x1EE29, 1, .letter 0x2830 0x20 0x5⟩, ⟨0x1EE2A, 4, .like 0x643 0x5 0x5⟩,
      ⟨0x1EE2E, 1, .letter 0x27B7 0x20 0x5⟩, ⟨0x1EE2F, 1, .letter 0x27CF 0x20 0x5⟩,
      ⟨0x1EE30, 1, .letter 0x27D8 0x20 0x5⟩, ⟨0x1EE31, 1, .letter 0x27C2 0x20 0x5⟩,
      ⟨0x1EE32, 1, .letter 0x27E4 0x20 0x5⟩, ⟨0x1EE34, 1, .letter 0x27B8 0x20 0x5⟩,
      ⟨0x1EE35, 2, .letter 0x2774 0x20 0x5⟩, ⟨0x1EE37, 1, .letter 0x278A 0x20 0x5⟩,
      ⟨0x1EE39, 1, .letter 0x27C3 0x20 0x5⟩, ⟨0x1EE3B, 1, .letter 0x27D0 0x20 0x5⟩,
      ⟨0x1EE42, 1, .letter 0x277E 0x20 0x5⟩, ⟨0x1EE47, 1, .letter 0x2789 0x20 0x5⟩,
      ⟨0x1EE49, 1, .letter 0x2830 0x20 0x5⟩, ⟨0x1EE4B, 1, .letter 0x2804 0x20 0x5⟩,
      ⟨0x1EE4D, 1, .letter 0x2810 0x20 0x5⟩, ⟨0x1EE4E, 1, .letter 0x27B7 0x20 0x5⟩,
      ⟨0x1EE4F, 1, .letter 0x27CF 0x20 0x5⟩, ⟨0x1EE51, 1, .letter 0x27C2 0x20 0x5⟩,
      ⟨0x1EE52, 1, .letter 0x27E4 0x20 0x5⟩, ⟨0x1EE54, 1, .letter 0x27B8 0x20 0x5⟩,
      ⟨0x1EE57, 1, .letter 0x278A 0x20 0x5⟩, ⟨0x1EE59, 1, .letter 0x27C3 0x20 0x5⟩,
      ⟨0x1EE5B, 1, .letter 0x27D0 0x20 0x5⟩, ⟨0x1EE5D, 1, .letter 0x2811 0x20 0x5⟩,
      ⟨0x1EE5F, 1, .letter 0x27E3 0x20 0x5⟩, ⟨0x1EE61, 1, .letter 0x2763 0x20 0x5⟩,
      ⟨0x1EE62, 1, .letter 0x277E 0x20 0x5⟩, ⟨0x1EE64, 1, .letter 0x281B 0x20 0x5⟩,
      ⟨0x1EE67, 1, .letter 0x2789 0x20 0x5⟩, ⟨0x1EE68, 1, .letter 0x27C8 0x20 0x5⟩,
      ⟨0x1EE69, 1, .letter 0x2830 0x20 0x5⟩, ⟨0x1EE6A, 1, .letter 0x27EB 0x20 0x5⟩,
      ⟨0x1EE6C, 2, .like 0x645 0x5 0x5⟩, ⟨0x1EE6E, 1, .letter 0x27B7 0x20 0x5⟩,
      ⟨0x1EE6F, 1, .letter 0x27CF 0x20 0x5⟩, ⟨0x1EE70, 1, .letter 0x27D8 0x20 0x5⟩,
      ⟨0x1EE71, 1, .letter 0x27C2 0x20 0x5⟩, ⟨0x1EE72, 1, .letter 0x27E4 0x20 0x5⟩,
      ⟨0x1EE74, 1, .letter 0x27B8 0x20 0x5⟩, ⟨0x1EE75, 2, .letter 0x2774 0x20 0x5⟩,
      ⟨0x1EE77, 1, .letter 0x278A 0x20 0x5⟩, ⟨0x1EE79, 1, .letter 0x27C3 0x20 0x5⟩,
      ⟨0x1EE7A, 1, .letter 0x27C9 0x20 0x5⟩, ⟨0x1EE7B, 1, .letter 0x27D0 0x20 0x5⟩,
      ⟨0x1EE7C, 1, .letter 0x2762 0x20 0x5⟩, ⟨0x1EE7E, 1, .letter 0x27D9 0x20 0x5⟩,
      ⟨0x1EE80, 2, .like 0x627 0x5 0x5⟩, ⟨0x1EE82, 1, .letter 0x277E 0x20 0x5⟩,
      ⟨0x1EE83, 1, .letter 0x2794 0x20 0x5⟩, ⟨0x1EE84, 2, .like 0x647 0x5 0x5⟩,
      ⟨0x1EE86, 1, .letter 0x27A5 0x20 0x5⟩, ⟨0x1EE87, 1, .letter 0x2789 0x20 0x5⟩,
      ⟨0x1EE88, 1, .letter 0x27C8 0x20 0x5⟩, ⟨0x1EE89, 1, .letter 0x2830 0x20 0x5⟩,
      ⟨0x1EE8B, 3, .like 0x644 0x5 0x5⟩, ⟨0x1EE8E, 1, .letter 0x27B7 0x20 0x5⟩,
      ⟨0x1EE8F, 1, .letter 0x27CF 0x20 0x5⟩, ⟨0x1EE90, 1, .letter 0x27D8 0x20 0x5⟩,
      ⟨0x1EE91, 1, .letter 0x27C2 0x20 0x5⟩, ⟨0x1EE92, 1, .letter 0x27E4 0x20 0x5⟩,
      ⟨0x1EE93, 1, .letter 0x27A4 0x20 0x5⟩, ⟨0x1EE94, 1, .letter 0x27B8 0x20 0x5⟩,
      ⟨0x1EE95, 2, .letter 0x2774 0x20 0x5⟩, ⟨0x1EE97, 1, .letter 0x278A 0x20 0x5⟩,
      ⟨0x1EE98, 1, .letter 0x2795 0x20 0x5⟩, ⟨0x1EE99, 1, .letter 0x27C3 0x20 0x5⟩,
      ⟨0x1EE9A, 1, .letter 0x27C9 0x20 0x5⟩, ⟨0x1EE9B, 1, .letter 0x27D0 0x20 0x5⟩,
      ⟨0x1EEA1, 1, .letter 0x2763 0x20 0x5⟩, ⟨0x1EEA2, 1, .letter 0x277E 0x20 0x5⟩,
      ⟨0x1EEA3, 1, .letter 0x2794 0x20 0x5⟩, ⟨0x1EEA5, 1, .letter 0x2821 0x20 0x5⟩,
      ⟨0x1EEA6, 1, .letter 0x27A5 0x20 0x5⟩, ⟨0x1EEA7, 1, .letter 0x2789 0x20 0x5⟩,
      ⟨0x1EEA8, 1, .letter 0x27C8 0x20 0x5⟩, ⟨0x1EEA9, 1, .letter 0x2830 0x20 0x5⟩,
      ⟨0x1EEAB, 3, .like 0x644 0x5 0x5⟩, ⟨0x1EEAE, 1, .letter 0x27B7 0x20 0x5⟩,
      ⟨0x1EEAF, 1, .letter 0x27CF 0x20 0x5⟩, ⟨0x1EEB0, 1, .letter 0x27D8 0x20 0x5⟩,
      ⟨0x1EEB1, 1, .letter 0x27C2 0x20 0x5⟩, ⟨0x1EEB2, 1, .letter 0x27E4 0x20 0x5⟩,
      ⟨0x1EEB3, 1, .letter 0x27A4 0x20 0x5⟩, ⟨0x1EEB4, 1, .letter 0x27B8 0x20 0x5⟩,
      ⟨0x1EEB5, 2, .letter 0x2774 0x20 0x5⟩, ⟨0x1EEB7, 1, .letter 0x278A 0x20 0x5⟩,
      ⟨0x1EEB8, 1, .letter 0x2795 0x20 0x5⟩, ⟨0x1EEB9, 1, .letter 0x27C3 0x20 0x5⟩,
      ⟨0x1EEBA, 1, .letter 0x27C9 0x20 0x5⟩, ⟨0x1EEBB, 1, .letter 0x27D0 0x20 0x5⟩,
      ⟨0x1EEF0, 2, .letter 0x568 0x20 0x2⟩]⟩

def arabicFormsCharts : List Chart :=
  [arabicPresentationFormsA, arabicPresentationFormsB, arabicMathematicalAlphabeticSymbols]

end CodeNotes.Collation
