import CodeNotes.Collation.Canonical.Class
import CodeNotes.Collation.Canonical.Greek
import CodeNotes.Collation.Canonical.Ideographs
import CodeNotes.Collation.Canonical.Latin
import CodeNotes.Collation.Canonical.Other
import CodeNotes.Text
/-!
Canonical decomposition. A text is decomposed when composed characters are taken apart
and the marks behind each starter stand in the order of their classes.
-/
namespace CodeNotes.Collation

def isSyllable (c : Char) : Bool :=
  0xAC00 ≤ c.toNat && c.toNat ≤ 0xD7A3

/-- A Hangul syllable is numbered by its leading consonant, its vowel and its trailing
consonant, of which there are 19, 21 and 28, no trailing consonant among the last. -/
def syllableParts (c : Char) : Text :=
  let i := c.toNat - 0xAC00
  let lead := Char.ofNat (0x1100 + i / 588)
  let vowel := Char.ofNat (0x1161 + i % 588 / 28)
  if i % 28 = 0 then [lead, vowel] else [lead, vowel, Char.ofNat (0x11A7 + i % 28)]

def formPages : List FormPage :=
  latinPages ++ greekPages ++ otherPages

/-- The ideograph that another one is the same as. -/
def ideograph? (code : Nat) : Option Nat :=
  ideographRuns.findSome? fun (first, run) => if first ≤ code then run[code - first]? else none

/-- What a composed character is composed of; `none` for any other. -/
def parts? (c : Char) : Option Text :=
  if c.toNat < 0xC0 then none
  else if isSyllable c then some (syllableParts c)
  else match formPages.findSome? (·.find? c.toNat) with
    | some codes => some (codes.map Char.ofNat)
    | none => (ideograph? c.toNat).map fun code => [Char.ofNat code]

def decomposeChar (c : Char) : Text :=
  (parts? c).getD [c]

/-- Put a character before an ordered text; a mark goes behind the marks of lower class. -/
def settle (c : Char) : Text → Text
  | [] => [c]
  | d :: r =>
    if 0 < combiningClass d ∧ combiningClass d < combiningClass c then d :: settle c r
    else c :: d :: r

def decompose (t : Text) : Text :=
  (t.flatMap decomposeChar).foldr settle []

/-- A Tibetan vowel sign that is always taken apart, as the Hangul syllables are. -/
def longReversedI : Char := '\u0F81'

/-- Whether taking apart each character where it stands gives the decomposed text, and none
occurs that is always taken apart. `before` is the class that the text before ends with. -/
def isSettled (before : Nat) : Text → Bool
  | [] => true
  | c :: r =>
    let parts := (decomposeChar c).map combiningClass
    let lead := parts.head?.getD 0
    !isSyllable c && c ≠ longReversedI && (lead = 0 || before ≤ lead) &&
      isSettled (parts.getLast?.getD 0) r

/-- A settled text as it is, any other decomposed. -/
def settledForm (t : Text) : Text :=
  if isSettled 0 t then t else decompose t

end CodeNotes.Collation
