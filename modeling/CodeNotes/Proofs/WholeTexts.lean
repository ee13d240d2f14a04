import CodeNotes.Board
import CodeNotes.Proofs.Utf8
/-!
The order of names without its short cuts: by the weights of whole texts, then by bytes. That is
a total order. Leaving out what two texts begin with alike gives the same answer but for texts
that decomposing makes alike, and for accents behind a character that no chart lists.
-/
namespace CodeNotes

theorem compare_append_left [Ord α] [Std.ReflOrd α] (p x y : List α) :
    compare (p ++ x) (p ++ y) = compare x y := by
  induction p with
  | nil => rfl
  | cons a p ih =>
    rw [List.cons_append, List.cons_append, List.compare_cons_cons, Std.ReflOrd.compare_self, ih]
    rfl

namespace Collation

/-- The order of texts by their weights and then by their bytes. -/
def compareWhole : Text → Text → Ordering :=
  compareLex (compareOn fun t => sortKey (settledForm t)) (compareOn Utf8.encode)

instance : Std.TransCmp compareWhole :=
  inferInstanceAs (Std.TransCmp (compareLex _ _))

/-- What the comparison of two texts leaves out at their beginning. -/
def leftOut (a b : Text) : Text :=
  a.take (safeLength (a.take (sharedLength a b)))

/-- Whether accents that follow elements are dropped, as those of a blank. -/
def behindBlank (afterBlank : Bool) : List Element → Bool
  | [] => afterBlank
  | .blank _ :: r => behindBlank true r
  | .unlisted _ _ _ :: r => behindBlank afterBlank r
  | .letter p _ t :: r =>
    if p = 0 ∧ (afterBlank ∨ t = 0) then behindBlank afterBlank r else behindBlank false r

/-- Two texts for which leaving out their beginning makes no difference: no accent behind it
belongs to a blank in it, and where it is all of a text that ties with the other by weights,
neither of them was decomposed. -/
structure Unabridged (a b : Text) : Prop where
  accents : behindBlank false (elements (leftOut (settledForm a) (settledForm b))) = false
  settled : leftOut (settledForm a) (settledForm b) ∈ [settledForm a, settledForm b] →
    sortKey (settledForm a) = sortKey (settledForm b) → settledForm a = a ∧ settledForm b = b

section

variable {a b p x y : Text}

theorem sharedLength_comm (a b : Text) : sharedLength b a = sharedLength a b := by
  fun_induction sharedLength a b with
  | case1 c a d b h ih =>
    obtain ⟨rfl, hc⟩ := h
    simp [sharedLength, hc, ih]
  | case2 c a d b h =>
    rw [sharedLength, if_neg]
    rintro ⟨rfl, hc⟩
    exact h ⟨rfl, hc⟩
  | case3 a b h =>
    unfold sharedLength
    split
    · next c t d s => exact absurd rfl (h d s c t rfl)
    · rfl

/-- Two texts begin alike. -/
theorem take_sharedLength (a b : Text) :
    a.take (sharedLength a b) = b.take (sharedLength a b) := by
  fun_induction sharedLength a b with
  | case1 c a d b h ih =>
    obtain ⟨rfl, -⟩ := h
    rw [List.take_succ_cons, List.take_succ_cons, ih]
  | case2 => rfl
  | case3 => rfl

theorem not_opensContraction_of_shared (h : c ∈ a.take (sharedLength a b)) :
    opensContraction c.toNat = false := by
  fun_induction sharedLength a b with
  | case1 d a e b hde ih =>
    rcases List.mem_cons.mp h with rfl | h
    · simpa using hde.2
    · exact ih h
  | case2 => simp at h
  | case3 => simp at h

theorem safeLength_le (shared : Text) : safeLength shared ≤ shared.length := by
  unfold safeLength
  split
  · next last before h =>
    have hlen := congrArg List.length h
    simp only [List.length_reverse, List.length_cons] at hlen
    split
    · exact Nat.le_refl _
    · split
      · omega
      · omega
  · exact Nat.zero_le _

theorem take_safeLength (a b : Text) :
    b.take (safeLength (a.take (sharedLength a b))) = leftOut a b := by
  have hle := safeLength_le (a.take (sharedLength a b))
  have hmin : safeLength (a.take (sharedLength a b)) ≤ sharedLength a b :=
    Nat.le_trans hle (List.length_take_le _ _)
  rw [leftOut, ← Nat.min_eq_left hmin, ← List.take_take, ← List.take_take, take_sharedLength]

theorem leftOut_comm (a b : Text) : leftOut b a = leftOut a b := by
  have h := take_safeLength a b
  rw [leftOut, sharedLength_comm, ← take_sharedLength]
  exact h

/-- Both texts are what is left out with the rests behind it. -/
theorem leftOut_append (a b : Text) :
    leftOut a b ++ (dropShared a b).1 = a ∧ leftOut a b ++ (dropShared a b).2 = b := by
  constructor
  · exact List.take_append_drop _ a
  · rw [← take_safeLength]
    exact List.take_append_drop _ b

theorem dropShared_swap (a b : Text) : dropShared b a = (dropShared a b).swap := by
  have h : b.take (sharedLength b a) = a.take (sharedLength a b) := by
    rw [sharedLength_comm, take_sharedLength]
  simp only [dropShared, h]
  rfl

theorem not_opensContraction_of_leftOut (h : c ∈ leftOut a b) : opensContraction c.toNat = false :=
  not_opensContraction_of_shared (b := b) ((List.take_subset_take_left a (by
    have hle := safeLength_le (a.take (sharedLength a b))
    exact Nat.le_trans hle (List.length_take_le _ _))) h)

/-- A character that opens no contraction is weighed by itself. -/
theorem weigh_cons {own : Char → List Element} (hc : opensContraction c.toNat = false) (r : Text) :
    weigh own (c :: r) = own c ++ weigh own r := by
  have hnone : contracted? c.toNat r = none := by simp [contracted?, hc]
  rw [weigh]
  split
  · next hsome => simp [hnone] at hsome
  · rfl

theorem elements_append (hp : ∀ c ∈ p, opensContraction c.toNat = false) (x : Text) :
    elements (p ++ x) = elements p ++ elements x := by
  induction p with
  | nil => rw [List.nil_append, elements, weigh, List.nil_append]
  | cons c p ih =>
    obtain ⟨hc, hp⟩ := List.forall_mem_cons.mp hp
    have ih := ih hp
    rw [elements] at ih ⊢
    rw [List.cons_append, weigh_cons hc, weigh_cons hc, ih, List.append_assoc]

end

section

variable {es fs : List Element} {afterBlank : Bool}

theorem shift_append (afterBlank : Bool) (es fs : List Element) :
    shift afterBlank (es ++ fs) = shift afterBlank es ++ shift (behindBlank afterBlank es) fs := by
  fun_induction shift afterBlank es with
  | case1 afterBlank => rfl
  | case2 afterBlank p es ih => simp [shift, behindBlank, ih]
  | case3 afterBlank p s t es ih => simp [shift, behindBlank, ih]
  | case4 afterBlank p s t es h ih => simp [shift, behindBlank, h, ih]
  | case5 afterBlank p s t es h ih => simp [shift, behindBlank, h, ih]

/-- The weights of elements on one level. -/
def onLevel (level : Element → Nat) (es : List Element) : List Nat :=
  (es.map level).filter (· ≠ 0)

/-- The weights of elements, level by level. -/
def levels (es : List Element) : List (List Nat) :=
  [onLevel Element.primary es, onLevel Element.secondary es, onLevel Element.tertiary es,
    onLevel Element.quaternary es]

theorem sortKey_eq (t : Text) : sortKey t = levels (shift false (elements t)) := rfl

theorem onLevel_append (level : Element → Nat) (es fs : List Element) :
    onLevel level (es ++ fs) = onLevel level es ++ onLevel level fs := by
  simp [onLevel]

/-- Elements in front of others on both sides do not count. -/
theorem compare_levels_append (es fs gs : List Element) :
    compare (levels (es ++ fs)) (levels (es ++ gs)) = compare (levels fs) (levels gs) := by
  simp only [levels, onLevel_append, List.compare_cons_cons, compare_append_left]

theorem isLE_compare_nil_cons (l : List Nat) {xs ys : List (List Nat)}
    (h : (compare xs ys).isLE) : (compare ([] :: xs) (l :: ys)).isLE := by
  rw [List.compare_cons_cons]
  cases l with
  | nil => simpa using h
  | cons n l => rfl

theorem isLE_compare_levels_nil (es : List Element) : (compare (levels []) (levels es)).isLE :=
  isLE_compare_nil_cons _ (isLE_compare_nil_cons _ (isLE_compare_nil_cons _
    (isLE_compare_nil_cons _ rfl)))

end

section

variable {a b : Text}

theorem sortKey_leftOut_append (a b x : Text) :
    sortKey (leftOut a b ++ x) =
      levels (shift false (elements (leftOut a b)) ++
        shift (behindBlank false (elements (leftOut a b))) (elements x)) := by
  rw [sortKey_eq, elements_append (fun _ h => not_opensContraction_of_leftOut h), shift_append]

/-- Texts compare as their rests do where no accent in these belongs to a blank before. -/
theorem compare_sortKey_rests (h : behindBlank false (elements (leftOut a b)) = false) :
    compare (sortKey (dropShared a b).1) (sortKey (dropShared a b).2) =
      compare (sortKey a) (sortKey b) := by
  obtain ⟨ha, hb⟩ := leftOut_append a b
  have hkey : ∀ x, sortKey (leftOut a b ++ x) =
      levels (shift false (elements (leftOut a b)) ++ shift false (elements x)) := by
    intro x
    rw [sortKey_leftOut_append, h]
  calc compare (sortKey (dropShared a b).1) (sortKey (dropShared a b).2)
      = compare (sortKey (leftOut a b ++ (dropShared a b).1))
          (sortKey (leftOut a b ++ (dropShared a b).2)) := by
        rw [hkey, hkey, compare_levels_append, sortKey_eq, sortKey_eq]
    _ = compare (sortKey a) (sortKey b) := by rw [ha, hb]

/-- A text that another one goes on from is not behind it by weights. -/
theorem isLE_compare_sortKey_of_nil (h : (dropShared a b).1 = []) :
    (compare (sortKey a) (sortKey b)).isLE := by
  obtain ⟨ha, hb⟩ := leftOut_append a b
  have hkeya := sortKey_leftOut_append a b (dropShared a b).1
  have hkeyb := sortKey_leftOut_append a b (dropShared a b).2
  have hnil : elements [] = [] := by rw [elements, weigh]
  rw [ha, h, hnil] at hkeya
  rw [hb] at hkeyb
  rw [hkeya, hkeyb, compare_levels_append]
  exact isLE_compare_levels_nil _

theorem compareWhole_eq (a b : Text) :
    compareWhole a b = (compare (sortKey (settledForm a)) (sortKey (settledForm b))).then
      (compare (Utf8.encode a) (Utf8.encode b)) := rfl

theorem compareTexts_self (a : Text) : compareTexts a a = .eq := by
  rw [compareTexts, if_pos rfl]

theorem compareTexts_of_ne (h : a ≠ b) :
    compareTexts a b =
      if (dropShared (settledForm a) (settledForm b)).1 = [] ∨
          (dropShared (settledForm a) (settledForm b)).2 = [] then
        compare (dropShared (settledForm a) (settledForm b)).1.length
          (dropShared (settledForm a) (settledForm b)).2.length
      else (compare (sortKey (dropShared (settledForm a) (settledForm b)).1)
          (sortKey (dropShared (settledForm a) (settledForm b)).2)).then
        (compare (Utf8.encode a) (Utf8.encode b)) := by
  rw [compareTexts, if_neg h]

theorem compareTexts_swap (a b : Text) : compareTexts b a = (compareTexts a b).swap := by
  by_cases h : a = b
  · subst h
    rw [compareTexts_self]
    rfl
  · rw [compareTexts_of_ne h, compareTexts_of_ne (Ne.symm h), dropShared_swap]
    simp only [Prod.fst_swap, Prod.snd_swap, or_comm]
    split
    · exact Std.OrientedOrd.eq_swap
    · rw [Ordering.swap_then, ← Std.OrientedOrd.eq_swap, ← Std.OrientedOrd.eq_swap]

theorem Unabridged.symm (h : Unabridged a b) : Unabridged b a where
  accents := by
    rw [leftOut_comm]
    exact h.accents
  settled hmem hkey := by
    rw [leftOut_comm] at hmem
    exact (h.settled (by simpa [or_comm] using hmem) hkey.symm).symm

/-- A text that another one goes on from comes before it by bytes. -/
theorem compare_encode_append (a : Text) (h : x ≠ []) :
    compare (Utf8.encode a) (Utf8.encode (a ++ x)) = .lt := by
  have hnil := compare_append_left (Utf8.encode a) [] (Utf8.encode x)
  rw [List.append_nil] at hnil
  rw [Utf8.encode_append, hnil]
  cases he : Utf8.encode x with
  | nil => exact absurd he (Utf8.encode_ne h)
  | cons byte bytes => rfl

/-- The lengths decide as the weights and the bytes do. -/
theorem compareTexts_of_nil (h : Unabridged a b) (hne : a ≠ b)
    (hnil : (dropShared (settledForm a) (settledForm b)).1 = []) :
    compareTexts a b = compareWhole a b := by
  obtain ⟨ha, hb⟩ := leftOut_append (settledForm a) (settledForm b)
  rw [hnil, List.append_nil] at ha
  rw [compareTexts_of_ne hne, if_pos (.inl hnil), compareWhole_eq, hnil]
  have hlength : (dropShared (settledForm a) (settledForm b)).2 ≠ [] →
      compare ([] : Text).length (dropShared (settledForm a) (settledForm b)).2.length = .lt := by
    intro hrest
    exact Nat.compare_eq_lt.mpr (List.length_pos_iff.mpr hrest)
  have hle := isLE_compare_sortKey_of_nil hnil
  cases hc : compare (sortKey (settledForm a)) (sortKey (settledForm b)) with
  | gt => simp [hc] at hle
  | lt =>
    refine hlength fun hrest => ?_
    rw [hrest, List.append_nil, ha] at hb
    simp [hb] at hc
  | eq =>
    obtain ⟨hsa, hsb⟩ := h.settled (by simp [ha]) (Std.LawfulEqOrd.eq_of_compare hc)
    rw [ha, hsa, hsb] at hb
    rw [hsa, hsb] at hlength ⊢
    have hrest : (dropShared a b).2 ≠ [] := by
      intro hrest
      rw [hrest, List.append_nil] at hb
      exact hne hb
    have hbytes := compare_encode_append a hrest
    rw [hb] at hbytes
    rw [hlength hrest, hbytes]
    rfl

/-- Texts for which leaving out their beginning makes no difference are compared as wholes. -/
theorem compareTexts_eq_compareWhole (h : Unabridged a b) :
    compareTexts a b = compareWhole a b := by
  by_cases hne : a = b
  · subst hne
    exact (compareTexts_self a).trans Std.ReflCmp.compare_self.symm
  by_cases ha : (dropShared (settledForm a) (settledForm b)).1 = []
  · exact compareTexts_of_nil h hne ha
  by_cases hb : (dropShared (settledForm a) (settledForm b)).2 = []
  · have hswap : (dropShared (settledForm b) (settledForm a)).1 = [] := by
      rw [dropShared_swap]
      exact hb
    rw [compareTexts_swap, compareTexts_of_nil h.symm (Ne.symm hne) hswap,
      ← Std.OrientedCmp.eq_swap]
  · rw [compareTexts_of_ne hne, if_neg (by simp [ha, hb]), compare_sortKey_rests h.accents,
      compareWhole_eq]

/-- Only texts that are decomposed alike tie. -/
theorem settledForm_eq_of_compareTexts (h : compareTexts a b = .eq) :
    settledForm a = settledForm b := by
  by_cases hne : a = b
  · rw [hne]
  rw [compareTexts_of_ne hne] at h
  split at h
  · next hnil =>
    have hlength := Std.LawfulEqOrd.eq_of_compare h
    have hboth : (dropShared (settledForm a) (settledForm b)).1 = [] ∧
        (dropShared (settledForm a) (settledForm b)).2 = [] := by
      simp only [← List.length_eq_zero_iff] at hnil ⊢
      omega
    obtain ⟨ha, hb⟩ := leftOut_append (settledForm a) (settledForm b)
    rw [hboth.1, List.append_nil] at ha
    rw [hboth.2, List.append_nil] at hb
    exact ha.symm.trans hb
  · have hbytes := (Ordering.then_eq_eq.mp h).2
    exact absurd (Utf8.encode_injective (Std.LawfulEqOrd.eq_of_compare hbytes)) hne

end

end Collation

end CodeNotes
