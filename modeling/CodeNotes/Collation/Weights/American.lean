import CodeNotes.Collation.Weight
/-!
Collation weights of the scripts of America, and of shorthands.
-/
namespace CodeNotes.Collation

def cherokee : Chart :=
  ⟨0x13A0, 0x13FF,
    [⟨0x13A0, 86, .letter 0x3AA8 0x20 0x8⟩, ⟨0x13F8, 6, .letter 0x3AF8 0x20 0x2⟩]⟩

def unifiedCanadianAboriginalSyllabics : Chart :=
  ⟨0x1400, 0x167F,
    [⟨0x1400, 1, .blank 0x20F⟩, ⟨0x1401, 379, .letter 0x3B22 0x20 0x2⟩,
      ⟨0x157C, 1, .letter 0x3CCF 0x20 0x2⟩, ⟨0x157D, 1, .letter 0x3C9D 0x20 0x2⟩,
      ⟨0x157E, 16, .letter 0x3C9F 0x20 0x2⟩, ⟨0x158E, 8, .letter 0x3CB0 0x20 0x2⟩,
      ⟨0x1596, 17, .letter 0x3CBE 0x20 0x2⟩, ⟨0x15A7, 198, .letter 0x3CD0 0x20 0x2⟩,
      ⟨0x166D, 1, .letter 0x5E5 0x20 0x2⟩, ⟨0x166E, 1, .blank 0x28A⟩,
      ⟨0x166F, 1, .letter 0x3C9E 0x20 0x2⟩, ⟨0x1670, 1, .letter 0x3CAF 0x20 0x2⟩,
      ⟨0x1671, 6, .letter 0x3CB8 0x20 0x2⟩, ⟨0x1677, 9, .letter 0x3D96 0x20 0x2⟩]⟩

def unifiedCanadianAboriginalSyllabicsExtended : Chart :=
  ⟨0x18B0, 0x18FF,
    [⟨0x18B0, 70, .letter 0x3D9F 0x20 0x2⟩]⟩

def cherokeeSupplement : Chart := ⟨0xAB70, 0xABBF, [⟨0xAB70, 80, .letter 0x3AA8 0x20 0x2⟩]⟩

def deseret : Chart :=
  ⟨0x10400, 0x1044F,
    [⟨0x10400, 40, .letter 0x4D99 0x20 0x8⟩, ⟨0x10428, 40, .letter 0x4D99 0x20 0x2⟩]⟩

def shavian : Chart := ⟨0x10450, 0x1047F, [⟨0x10450, 48, .letter 0x4DC1 0x20 0x2⟩]⟩

def osage : Chart :=
  ⟨0x104B0, 0x104FF,
    [⟨0x104B0, 36, .letter 0x3AFE 0x20 0x8⟩, ⟨0x104D8, 36, .letter 0x3AFE 0x20 0x2⟩]⟩

def unifiedCanadianAboriginalSyllabicsExtendedA : Chart :=
  ⟨0x11AB0, 0x11ABF,
    [⟨0x11AB0, 16, .letter 0x3DE5 0x20 0x2⟩]⟩

def duployan : Chart :=
  ⟨0x1BC00, 0x1BC9F,
    [⟨0x1BC00, 107, .letter 0x4DF1 0x20 0x2⟩, ⟨0x1BC70, 13, .letter 0x4E5C 0x20 0x2⟩,
      ⟨0x1BC80, 9, .letter 0x4E69 0x20 0x2⟩, ⟨0x1BC90, 10, .letter 0x4E72 0x20 0x2⟩,
      ⟨0x1BC9C, 1, .letter 0x168C 0x20 0x2⟩, ⟨0x1BC9D, 1, .mark 0x33 0x2⟩,
      ⟨0x1BC9E, 1, .mark 0x35 0x2⟩, ⟨0x1BC9F, 1, .blank 0x295⟩]⟩

def shorthandFormatControls : Chart := ⟨0x1BCA0, 0x1BCAF, [⟨0x1BCA0, 4, .ignored⟩]⟩

def americanCharts : List Chart :=
  [cherokee, unifiedCanadianAboriginalSyllabics, unifiedCanadianAboriginalSyllabicsExtended,
    cherokeeSupplement, deseret, shavian, osage, unifiedCanadianAboriginalSyllabicsExtendedA,
    duployan, shorthandFormatControls]

end CodeNotes.Collation
