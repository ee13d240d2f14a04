/-!
Canonical decompositions, listed by pages of code points.
-/
namespace CodeNotes.Collation

/-- Composed characters among the code points from `256 * number` on, with the full
decomposition of each. -/
structure FormPage where
  number : Nat
  forms : List (Nat × List Nat)

def FormPage.find? (page : FormPage) (code : Nat) : Option (List Nat) :=
  if code / 256 = page.number then page.forms.lookup code else none

end CodeNotes.Collation
