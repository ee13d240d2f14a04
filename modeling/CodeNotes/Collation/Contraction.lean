import CodeNotes.Collation.Table
/-!
Contractions: sequences of characters that are weighed as one.
-/
namespace CodeNotes.Collation

/-- The elements of the sequences that have their own. -/
def contractions : List (List Nat × List Element) :=
  [([0x4C, 0xB7], [.letter 0x240B 0x20 0x8, .mark 0x12A 0x2]),
    ([0x4C, 0x387], [.letter 0x240B 0x20 0x8, .mark 0x12A 0x2]),
    ([0x6C, 0xB7], [.letter 0x240B 0x20 0x2, .mark 0x12A 0x2]),
    ([0x6C, 0x387], [.letter 0x240B 0x20 0x2, .mark 0x12A 0x2]),
    ([0x418, 0x306], [.letter 0x25C0 0x20 0x8]), ([0x438, 0x306], [.letter 0x25C0 0x20 0x2]),
    ([0x627, 0x653], [.letter 0x2754 0x20 0x2]), ([0x627, 0x654], [.letter 0x2755 0x20 0x2]),
    ([0x627, 0x655], [.letter 0x2759 0x20 0x2]), ([0x648, 0x654], [.letter 0x2758 0x20 0x2]),
    ([0x64A, 0x654], [.letter 0x275D 0x20 0x2]), ([0x9C7, 0x9BE], [.letter 0x2B90 0x20 0x2]),
    ([0x9C7, 0x9D7], [.letter 0x2B91 0x20 0x2]), ([0xB47, 0xB3E], [.letter 0x2C51 0x20 0x2]),
    ([0xB47, 0xB56], [.letter 0x2C50 0x20 0x2]), ([0xB47, 0xB57], [.letter 0x2C52 0x20 0x2]),
    ([0xB92, 0xBD7], [.letter 0x2C62 0x20 0x2]), ([0xBC6, 0xBBE], [.letter 0x2C83 0x20 0x2]),
    ([0xBC6, 0xBD7], [.letter 0x2C85 0x20 0x2]), ([0xBC7, 0xBBE], [.letter 0x2C84 0x20 0x2]),
    ([0xC46, 0xC56], [.letter 0x2CCB 0x20 0x2]), ([0xCBF, 0xCD5], [.letter 0x2D0C 0x20 0x2]),
    ([0xCC6, 0xCC2], [.letter 0x2D16 0x20 0x2]),
    ([0xCC6, 0xCC2, 0xCD5], [.letter 0x2D17 0x20 0x2]),
    ([0xCC6, 0xCD5], [.letter 0x2D14 0x20 0x2]), ([0xCC6, 0xCD6], [.letter 0x2D15 0x20 0x2]),
    ([0xCCA, 0xCD5], [.letter 0x2D17 0x20 0x2]), ([0xD46, 0xD3E], [.letter 0x2D61 0x20 0x2]),
    ([0xD46, 0xD57], [.letter 0x2D63 0x20 0x2]), ([0xD47, 0xD3E], [.letter 0x2D62 0x20 0x2]),
    ([0xDD9, 0xDCA], [.letter 0x2DAD 0x20 0x2]), ([0xDD9, 0xDCF], [.letter 0x2DAF 0x20 0x2]),
    ([0xDD9, 0xDCF, 0xDCA], [.letter 0x2DB0 0x20 0x2]),
    ([0xDD9, 0xDDF], [.letter 0x2DB1 0x20 0x2]), ([0xDDC, 0xDCA], [.letter 0x2DB0 0x20 0x2]),
    ([0xE4D, 0xE32], [.letter 0x33B5 0x20 0x2]), ([0xECD, 0xEB2], [.letter 0x33F2 0x20 0x2]),
    ([0xF71, 0xF72], [.letter 0x3497 0x20 0x2]), ([0xF71, 0xF74], [.letter 0x349B 0x20 0x2]),
    ([0xF71, 0xF80], [.letter 0x3499 0x20 0x2]),
    ([0xFB2, 0xF71], [.letter 0x347F 0x20 0x2, .letter 0x3495 0x20 0x2]),
    ([0xFB2, 0xF71, 0xF72], [.letter 0x347F 0x20 0x2, .letter 0x3497 0x20 0x2]),
    ([0xFB2, 0xF71, 0xF74], [.letter 0x347F 0x20 0x2, .letter 0x349B 0x20 0x2]),
    ([0xFB2, 0xF71, 0xF80], [.letter 0x349D 0x20 0x2]),
    ([0xFB2, 0xF73], [.letter 0x347F 0x20 0x2, .letter 0x3497 0x20 0x2]),
    ([0xFB2, 0xF75], [.letter 0x347F 0x20 0x2, .letter 0x349B 0x20 0x2]),
    ([0xFB2, 0xF80], [.letter 0x349C 0x20 0x2]), ([0xFB2, 0xF81], [.letter 0x349D 0x20 0x2]),
    ([0xFB3, 0xF71], [.letter 0x3482 0x20 0x2, .letter 0x3495 0x20 0x2]),
    ([0xFB3, 0xF71, 0xF72], [.letter 0x3482 0x20 0x2, .letter 0x3497 0x20 0x2]),
    ([0xFB3, 0xF71, 0xF74], [.letter 0x3482 0x20 0x2, .letter 0x349B 0x20 0x2]),
    ([0xFB3, 0xF71, 0xF80], [.letter 0x349F 0x20 0x2]),
    ([0xFB3, 0xF73], [.letter 0x3482 0x20 0x2, .letter 0x3497 0x20 0x2]),
    ([0xFB3, 0xF75], [.letter 0x3482 0x20 0x2, .letter 0x349B 0x20 0x2]),
    ([0xFB3, 0xF80], [.letter 0x349E 0x20 0x2]), ([0xFB3, 0xF81], [.letter 0x349F 0x20 0x2]),
    ([0x1025, 0x102E], [.letter 0x374C 0x20 0x2]), ([0x1B05, 0x1B35], [.letter 0x3926 0x20 0x2]),
    ([0x1B07, 0x1B35], [.letter 0x3928 0x20 0x2]), ([0x1B09, 0x1B35], [.letter 0x392A 0x20 0x2]),
    ([0x1B0B, 0x1B35], [.letter 0x392C 0x20 0x2]), ([0x1B0D, 0x1B35], [.letter 0x392E 0x20 0x2]),
    ([0x1B11, 0x1B35], [.letter 0x3932 0x20 0x2]), ([0x1B3A, 0x1B35], [.letter 0x3961 0x20 0x2]),
    ([0x1B3C, 0x1B35], [.letter 0x3963 0x20 0x2]), ([0x1B3E, 0x1B35], [.letter 0x3966 0x20 0x2]),
    ([0x1B3F, 0x1B35], [.letter 0x3967 0x20 0x2]), ([0x1B42, 0x1B35], [.letter 0x3969 0x20 0x2]),
    ([0x105D2, 0x307], [.letter 0x4F22 0x20 0x2]), ([0x105DA, 0x307], [.letter 0x4F3D 0x20 0x2]),
    ([0x11131, 0x11127], [.letter 0x37DB 0x20 0x2]),
    ([0x11132, 0x11127], [.letter 0x37DC 0x20 0x2]),
    ([0x11347, 0x1133E], [.letter 0x2FCF 0x20 0x2]),
    ([0x11347, 0x11357], [.letter 0x2FD0 0x20 0x2]),
    ([0x11382, 0x113C9], [.letter 0x2FD7 0x20 0x2]),
    ([0x11384, 0x113BB], [.letter 0x2FD9 0x20 0x2]),
    ([0x1138B, 0x113C2], [.letter 0x2FDF 0x20 0x2]),
    ([0x11390, 0x113C9], [.letter 0x2FE1 0x20 0x2]),
    ([0x113C2, 0x113B8], [.letter 0x3013 0x20 0x2]),
    ([0x113C2, 0x113C2], [.letter 0x3012 0x20 0x2]),
    ([0x113C2, 0x113C9], [.letter 0x3014 0x20 0x2]),
    ([0x114B9, 0x114B0], [.letter 0x30A2 0x20 0x2]),
    ([0x114B9, 0x114BA], [.letter 0x30A1 0x20 0x2]),
    ([0x114B9, 0x114BD], [.letter 0x30A4 0x20 0x2]),
    ([0x115B8, 0x115AF], [.letter 0x30DE 0x20 0x2]),
    ([0x115B9, 0x115AF], [.letter 0x30DF 0x20 0x2]),
    ([0x11935, 0x11930], [.letter 0x318B 0x20 0x2]),
    ([0x1611E, 0x1611E], [.letter 0x5016 0x20 0x2]),
    ([0x1611E, 0x1611E, 0x1611F], [.letter 0x501B 0x20 0x2]),
    ([0x1611E, 0x1611E, 0x16120], [.letter 0x501D 0x20 0x2]),
    ([0x1611E, 0x1611F], [.letter 0x5018 0x20 0x2]),
    ([0x1611E, 0x16120], [.letter 0x501A 0x20 0x2]),
    ([0x1611E, 0x16129], [.letter 0x5017 0x20 0x2]),
    ([0x1611E, 0x16129, 0x1611F], [.letter 0x501C 0x20 0x2]),
    ([0x16121, 0x1611F], [.letter 0x501B 0x20 0x2]),
    ([0x16121, 0x16120], [.letter 0x501D 0x20 0x2]),
    ([0x16122, 0x1611F], [.letter 0x501C 0x20 0x2]),
    ([0x16129, 0x1611F], [.letter 0x5019 0x20 0x2]),
    ([0x16D63, 0x16D67], [.letter 0x504D 0x20 0x2]),
    ([0x16D63, 0x16D67, 0x16D67], [.letter 0x504E 0x20 0x2]),
    ([0x16D63, 0x16D68], [.letter 0x504E 0x20 0x2]),
    ([0x16D67, 0x16D67], [.letter 0x504C 0x20 0x2]),
    ([0x16D69, 0x16D67], [.letter 0x504E 0x20 0x2])]

/-- Vowels that are written before their consonant, and the consonants of their script.
Both are ranges of code points. -/
structure ForeVowels where
  vowels : List (Nat × Nat)
  consonants : List (Nat × Nat)

/-- The fore vowels of Thai, Lao, New Tai Lue and Tai Viet. -/
def foreVowels : List ForeVowels :=
  [⟨[(0xE40, 0xE44)], [(0xE01, 0xE2E)]⟩,
    ⟨[(0xEC0, 0xEC4)],
      [(0xE81, 0xE82), (0xE84, 0xE84), (0xE86, 0xE8A), (0xE8C, 0xEA3), (0xEA5, 0xEA5),
        (0xEA7, 0xEAE), (0xEDC, 0xEDF)]⟩,
    ⟨[(0x19B5, 0x19B7), (0x19BA, 0x19BA)], [(0x1980, 0x19AB)]⟩,
    ⟨[(0xAAB5, 0xAAB6), (0xAAB9, 0xAAB9), (0xAABB, 0xAABC)], [(0xAA80, 0xAAAF)]⟩]

def inRanges (ranges : List (Nat × Nat)) (code : Nat) : Bool :=
  ranges.any fun r => r.1 ≤ code && code ≤ r.2

/-- The elements of a sequence that is weighed as one. A vowel written before its consonant
is weighed behind it. -/
def contraction? (codes : List Nat) : Option (List Element) :=
  match contractions.find? (·.1 = codes), codes with
  | some (_, elements), _ => some elements
  | none, [vowel, consonant] =>
    if foreVowels.any fun f => inRanges f.vowels vowel && inRanges f.consonants consonant then
      some (simpleElements consonant ++ simpleElements vowel)
    else none
  | none, _ => none

def openers : List Nat :=
  contractions.filterMap (·.1.head?)

/-- Whether some contraction begins with the character. -/
def opensContraction (code : Nat) : Bool :=
  openers.contains code || foreVowels.any (inRanges ·.vowels code)

end CodeNotes.Collation
