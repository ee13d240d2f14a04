import CodeNotes.Collation.Weights.African
import CodeNotes.Collation.Weights.American
import CodeNotes.Collation.Weights.Ancient
import CodeNotes.Collation.Weights.ArabicForms
import CodeNotes.Collation.Weights.Brahmic
import CodeNotes.Collation.Weights.CentralAsian
import CodeNotes.Collation.Weights.EastAsian
import CodeNotes.Collation.Weights.European
import CodeNotes.Collation.Weights.Ideographic
import CodeNotes.Collation.Weights.Indic
import CodeNotes.Collation.Weights.Latin
import CodeNotes.Collation.Weights.Marks
import CodeNotes.Collation.Weights.Punctuation
import CodeNotes.Collation.Weights.RightToLeft
import CodeNotes.Collation.Weights.SouthEastAsian
import CodeNotes.Collation.Weights.Styled
import CodeNotes.Collation.Weights.Symbols
/-!
The elements of every character that is not composed of others: from the charts where they
list it, computed from the code point elsewhere.
-/
namespace CodeNotes.Collation

def charts : List Chart :=
  latinCharts ++ punctuationCharts ++ marksCharts ++ europeanCharts ++ rightToLeftCharts ++
    eastAsianCharts ++ symbolsCharts ++ styledCharts ++ ideographicCharts ++ arabicFormsCharts ++
    indicCharts ++ southEastAsianCharts ++ centralAsianCharts ++ africanCharts ++
    americanCharts ++ brahmicCharts ++ ancientCharts

/-- Code points, with the base of their first primary weight and, where they are numbered
from their own block on and not by halves of a plane, the beginning of that block. -/
structure IdeographRange where
  first : Nat
  last : Nat
  base : Nat
  blockStart : Option Nat

/-- The ideographs in common use come before the rarer ones, and the scripts that are
ordered like ideographs before both. Room that these leave free for more of their kind
belongs to them, but for four code points that each come first in such room. -/
def ideographRanges : List IdeographRange :=
  [⟨0x4E00, 0x9FFF, 0xFB40, none⟩, ⟨0xF900, 0xFAFF, 0xFB40, none⟩,
    ⟨0x3400, 0x4DBF, 0xFB80, none⟩, ⟨0x20000, 0x2A6DF, 0xFB80, none⟩,
    ⟨0x2A700, 0x2B739, 0xFB80, none⟩, ⟨0x2B73B, 0x2B81D, 0xFB80, none⟩,
    ⟨0x2B81F, 0x2CEA1, 0xFB80, none⟩, ⟨0x2CEA3, 0x2EBE0, 0xFB80, none⟩,
    ⟨0x2EBE2, 0x2EE5D, 0xFB80, none⟩, ⟨0x30000, 0x323AF, 0xFB80, none⟩,
    ⟨0x17000, 0x18AFF, 0xFB00, some 0x17000⟩, ⟨0x18D00, 0x18D8F, 0xFB00, some 0x17000⟩,
    ⟨0x1B170, 0x1B2FF, 0xFB01, some 0x1B170⟩, ⟨0x18B00, 0x18CFF, 0xFB02, some 0x18B00⟩]

/-- The base for code points in no range, which come last. -/
def unassignedBase : Nat := 0xFBC0

/-- Two primary weights computed from a code point. Those of different code points differ,
and within one range the code point decides. -/
def computedWeights (code : Nat) : Nat × Nat :=
  match ideographRanges.find? fun r => r.first ≤ code && code ≤ r.last with
  | some ⟨_, _, base, some start⟩ => (base, code - start + 0x8000)
  | some ⟨_, _, base, none⟩ => (base + code / 0x8000, code % 0x8000 + 0x8000)
  | none => (unassignedBase + code / 0x8000, code % 0x8000 + 0x8000)

def computedElements (code : Nat) : List Element :=
  let (high, low) := computedWeights code
  [.unlisted high 0x20 plain, .unlisted low 0 0]

/-- The elements of a character that has no other for its model. -/
def modelElements (code : Nat) : List Element :=
  match findSpan? charts code with
  | some span => span.elements code
  | none => computedElements code

/-- The elements of a character that is not composed of others. -/
def simpleElements (code : Nat) : List Element :=
  match findSpan? charts code with
  | none => computedElements code
  | some span =>
    match span.weighing with
    | .like model lower upper =>
      (modelElements (model + (code - span.first))).map (·.restyle lower upper)
    | .spelled models lower upper =>
      (models.flatMap modelElements).map (·.listed.restyle lower upper)
    | .variant model mark =>
      (modelElements model).map (·.listed.restyle variantStyle variantStyle) ++
        [.mark mark variantStyle]
    | .computed => (computedElements code).map (·.listed)
    | _ => span.elements code

end CodeNotes.Collation
