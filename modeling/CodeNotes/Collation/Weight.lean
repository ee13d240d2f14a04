/-!
Collation elements, and charts that give them to characters. A chart lists spans of
characters that are weighed alike. Only the order of the weights means anything.
-/
namespace CodeNotes.Collation

inductive Element where
  /-- A blank or a punctuation mark. It counts only where all else ties. -/
  | blank (primary : Nat)
  /-- The primary weight tells letters apart, the secondary accents, the tertiary case. -/
  | letter (primary secondary tertiary : Nat)
  /-- Part of a character that no chart lists. It counts as a letter does, but does not part
  the accents behind it from a blank before it. -/
  | unlisted (primary secondary tertiary : Nat)
  deriving DecidableEq

/-- An accent has no primary weight. -/
def Element.mark (secondary tertiary : Nat) : Element :=
  .letter 0 secondary tertiary

/-- How the characters of a span are weighed. In `blank` and `letter` the primary weight
grows by one from character to character, in `mark` the secondary weight. -/
inductive Weighing where
  | ignored
  | blank (primary : Nat)
  | letter (primary secondary tertiary : Nat)
  /-- Capital and small letters in turn. -/
  | cased (primary secondary : Nat)
  | mark (secondary tertiary : Nat)
  | several (elements : List Element)
  /-- As the characters from `model` on, but in another style: `lower` is the tertiary
  weight of a plain letter and `upper` that of any other. -/
  | like (model lower upper : Nat)
  /-- As the characters it stands for, in another style. -/
  | spelled (models : List Nat) (lower upper : Nat)
  /-- As another character, with a mark behind it that tells the two shapes apart. -/
  | variant (model mark : Nat)
  /-- By the code points themselves, as characters that no chart lists. -/
  | computed

/-- The characters with the code points `first`, …, `first + size - 1`. -/
structure Span where
  first : Nat
  size : Nat
  weighing : Weighing

def Span.covers (s : Span) (code : Nat) : Bool :=
  s.first ≤ code && code < s.first + s.size

/-- The spans among the code points from `first` to `last`. -/
structure Chart where
  first : Nat
  last : Nat
  spans : List Span

def Chart.findSpan? (chart : Chart) (code : Nat) : Option Span :=
  if chart.first ≤ code ∧ code ≤ chart.last then chart.spans.find? (·.covers code) else none

def findSpan? (charts : List Chart) (code : Nat) : Option Span :=
  charts.findSome? (·.findSpan? code)

/-- The tertiary weight of a plain letter. -/
def plain : Nat := 2

/-- The tertiary weight of a plain capital letter. -/
def capital : Nat := 8

/-- The tertiary weight of a variant, and of the mark behind it. -/
def variantStyle : Nat := 4

/-- Blanks have no style, nor has what has no tertiary weight. -/
def Element.restyle (lower upper : Nat) : Element → Element
  | .letter p s t => .letter p s (if t = plain then lower else if t = 0 then 0 else upper)
  | e => e

/-- An element as a chart would list it. -/
def Element.listed : Element → Element
  | .unlisted p s t => .letter p s t
  | e => e

/-- The elements that a span gives a character without another character as a model. -/
def Span.elements (span : Span) (code : Nat) : List Element :=
  let i := code - span.first
  match span.weighing with
  | .blank p => [.blank (p + i)]
  | .letter p s t => [.letter (p + i) s t]
  | .cased p s => [.letter (p + i / 2) s (if i % 2 = 0 then capital else plain)]
  | .mark s t => [.mark (s + i) t]
  | .several elements => elements
  | _ => []

end CodeNotes.Collation
