import CodeNotes.Collation.Canonical
import CodeNotes.Collation.Contraction
import CodeNotes.Text.Utf8
/-!
The order of names. Texts are compared by their letters, then by accents, then by case,
and last by the blanks and the punctuation in them. Where all that ties, bytes decide.
What two texts begin with alike is left out of the comparison where it can be.
-/
namespace CodeNotes.Collation

/-- Marks of growing classes: each of them could stand anywhere among the others. -/
def climbs (before : Nat) : Text → Bool
  | [] => true
  | d :: r => before < combiningClass d && climbs (combiningClass d) r

/-- A contraction of a character with those that follow at once, and the text behind it. A
contraction of two takes in a third that follows after a mark of lower class. -/
def adjoined? (c : Nat) : Text → Option (List Element × Text)
  | d :: e :: r =>
    match contraction? [c, d.toNat, e.toNat], contraction? [c, d.toNat] with
    | some elements, _ => some (elements, r)
    | none, none => none
    | none, some elements =>
      match r with
      | f :: r' =>
        match if climbs 0 [e, f] then contraction? [c, d.toNat, f.toNat] else none with
        | some elements => some (elements, e :: r')
        | none => some (elements, e :: r)
      | [] => some (elements, [e])
  | [d] => (contraction? [c, d.toNat]).map (·, [])
  | [] => none

/-- A contraction of a character with one or two marks behind one other mark, or with one
behind two others, and the text behind it, where the marks passed over stay. -/
def apart? (c : Nat) : Text → Option (List Element × Text)
  | m :: d :: e :: r =>
    let two := if climbs 0 [m, d, e] then contraction? [c, d.toNat, e.toNat] else none
    let far := if climbs 0 [m, d, e] then contraction? [c, e.toNat] else none
    let near := if climbs 0 [m, d] then contraction? [c, d.toNat] else none
    (two.map (·, m :: r)) <|> (far.map (·, m :: d :: r)) <|> (near.map (·, m :: e :: r))
  | [m, d] => (if climbs 0 [m, d] then contraction? [c, d.toNat] else none).map (·, [m])
  | _ => none

/-- The elements of the contraction that a character begins, and the text behind it. -/
def contracted? (c : Nat) (r : Text) : Option (List Element × Text) :=
  if opensContraction c then adjoined? c r <|> apart? c r else none

theorem length_of_adjoined? {c : Nat} {t rest : Text} {es : List Element}
    (h : adjoined? c t = some (es, rest)) : rest.length ≤ t.length := by
  unfold adjoined? at h
  split at h
  · split at h
    · simp only [Option.some.injEq, Prod.mk.injEq] at h
      simp [← h.2]
      omega
    · simp at h
    · split at h
      · split at h <;> simp only [Option.some.injEq, Prod.mk.injEq] at h <;> simp [← h.2]
      · simp only [Option.some.injEq, Prod.mk.injEq] at h
        simp [← h.2]
  · obtain ⟨_, _, h⟩ := Option.map_eq_some_iff.1 h
    simp only [Prod.mk.injEq] at h
    simp [← h.2]
  · simp at h

theorem length_of_apart? {c : Nat} {t rest : Text} {es : List Element}
    (h : apart? c t = some (es, rest)) : rest.length ≤ t.length := by
  unfold apart? at h
  split at h
  · simp only [Option.orElse_eq_orElse, Option.orElse_eq_or, Option.or_eq_some_iff,
      Option.map_eq_some_iff, Prod.mk.injEq] at h
    obtain ⟨_, _, _, h⟩ | ⟨_, ⟨_, _, _, h⟩ | ⟨_, _, _, _, h⟩⟩ := h <;> simp [← h]
  · obtain ⟨_, _, h⟩ := Option.map_eq_some_iff.1 h
    simp only [Prod.mk.injEq] at h
    simp [← h.2]
  · simp at h

theorem length_of_contracted? {c : Nat} {t rest : Text} {es : List Element}
    (h : contracted? c t = some (es, rest)) : rest.length ≤ t.length := by
  unfold contracted? at h
  split at h
  · simp only [Option.orElse_eq_orElse, Option.orElse_eq_or, Option.or_eq_some_iff] at h
    obtain h | ⟨_, h⟩ := h
    · exact length_of_adjoined? h
    · exact length_of_apart? h
  · simp at h

/-- The elements of a text, given those of its characters by themselves. -/
def weigh (own : Char → List Element) : Text → List Element
  | [] => []
  | c :: r =>
    match _h : contracted? c.toNat r with
    | some (elements, rest) => elements ++ weigh own rest
    | none => own c ++ weigh own r
termination_by t => t.length
decreasing_by
  · exact Nat.lt_succ_of_le (length_of_contracted? _h)
  · exact Nat.lt_succ_self _

/-- The elements of a character by itself. A composed one has those of its parts. -/
def elementsOf (c : Char) : List Element :=
  match parts? c with
  | some parts => (weigh (simpleElements ·.toNat) parts).map (·.listed)
  | none => simpleElements c.toNat

def elements : Text → List Element :=
  weigh elementsOf

/-- Drop what has no weight, and the accents of blanks. -/
def shift (afterBlank : Bool) : List Element → List Element
  | [] => []
  | .blank p :: r => .blank p :: shift true r
  | .unlisted p s t :: r => .unlisted p s t :: shift afterBlank r
  | .letter p s t :: r =>
    if p = 0 ∧ (afterBlank ∨ t = 0) then shift afterBlank r
    else .letter p s t :: shift false r

def Element.primary : Element → Nat
  | .blank _ => 0
  | .letter p _ _ => p
  | .unlisted p _ _ => p

def Element.secondary : Element → Nat
  | .blank _ => 0
  | .letter _ s _ => s
  | .unlisted _ s _ => s

def Element.tertiary : Element → Nat
  | .blank _ => 0
  | .letter _ _ t => t
  | .unlisted _ _ t => t

/-- The primary weight, that of a blank too. -/
def Element.quaternary : Element → Nat
  | .blank p => p
  | .letter p _ _ => p
  | .unlisted p _ _ => p

/-- The weights of a text, level by level. -/
def sortKey (t : Text) : List (List Nat) :=
  let es := shift false (elements t)
  [Element.primary, Element.secondary, Element.tertiary, Element.quaternary].map fun level =>
    (es.map level).filter (· ≠ 0)

/-- Whether a primary weight is that of a symbol. -/
def isSymbolWeight (primary : Nat) : Bool :=
  0x4E0 ≤ primary && primary ≤ 0x2129

/-- Whether an element is that of a letter or a number. -/
def Element.isFirm : Element → Bool
  | .blank _ => false
  | .letter p _ _ => p ≠ 0 && !isSymbolWeight p
  | .unlisted _ _ _ => true

/-- Whether a character is weighed as letters and numbers alone. -/
def isFirm (c : Char) : Bool :=
  let es := elementsOf c
  !es.isEmpty && es.all (·.isFirm)

/-- How many characters two texts begin with alike, up to one that opens a contraction. -/
def sharedLength : Text → Text → Nat
  | c :: a, d :: b => if c = d ∧ !opensContraction c.toNat then sharedLength a b + 1 else 0
  | _, _ => 0

/-- How much of what two texts begin with alike can be left out: all of it if it ends in a
firm character, all but its last character if the one before that is firm, else nothing. -/
def safeLength (shared : Text) : Nat :=
  match shared.reverse with
  | last :: before =>
    if isFirm last then shared.length
    else if before.head?.any isFirm then before.length
    else 0
  | [] => 0

/-- Leave out what two texts begin with alike, where that can be done. -/
def dropShared (a b : Text) : Text × Text :=
  let n := safeLength (a.take (sharedLength a b))
  (a.drop n, b.drop n)

/-- The order of two texts. Where one goes on from where the other ends, it comes behind. -/
def compareTexts (a b : Text) : Ordering :=
  if a = b then .eq
  else
    let (x, y) := dropShared (settledForm a) (settledForm b)
    if x = [] ∨ y = [] then compare x.length y.length
    else (compare (sortKey x) (sortKey y)).then (compare (Utf8.encode a) (Utf8.encode b))

end CodeNotes.Collation
