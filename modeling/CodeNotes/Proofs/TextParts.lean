import CodeNotes.Text
/-!
Texts cut at a separator and joined with one. Each undoes the other, where no part has the
separator in it.
-/
namespace CodeNotes

theorem splitOn_eq (sep : Char) (t : Text) : splitOn sep t = t.splitOn sep := by
  induction t with
  | nil => rfl
  | cons c t ih =>
    rw [List.splitOn] at ih ⊢
    rw [splitOn, ih, List.splitOnP_cons_eq_if_modifyHead]
    by_cases hc : c = sep
    · simp [hc]
    · simp only [hc, if_false, beq_iff_eq]
      cases hs : List.splitOnP (· == sep) t with
      | nil => exact absurd hs (List.splitOnP_ne_nil _ t)
      | cons part parts => rfl

theorem joinWith_eq (sep : Text) (parts : List Text) :
    joinWith sep parts = sep.intercalate parts := by
  induction parts with
  | nil => rfl
  | cons part parts ih =>
    cases parts with
    | nil => simp [joinWith]
    | cons next parts => rw [joinWith, ih, List.intercalate_cons_cons]; simp

theorem splitOn_of_not_mem {sep : Char} (h : sep ∉ t) : splitOn sep t = [t] := by
  rw [splitOn_eq, List.splitOn_eq_singleton h]

theorem splitOn_append (sep : Char) (s t : Text) :
    splitOn sep (s ++ sep :: t) = splitOn sep s ++ splitOn sep t := by
  simp only [splitOn_eq]
  exact List.splitOnP_append_cons s t (beq_self_eq_true sep)

theorem splitOn_joinWith {sep : Char} (h : ∀ part ∈ parts, sep ∉ part) (hne : parts ≠ []) :
    splitOn sep (joinWith [sep] parts) = parts := by
  rw [splitOn_eq, joinWith_eq, List.splitOn_intercalate sep h hne]

theorem joinWith_splitOn (sep : Char) (t : Text) : joinWith [sep] (splitOn sep t) = t := by
  rw [splitOn_eq, joinWith_eq, List.intercalate_splitOn]

/-- There is one part more than there are separators. -/
theorem length_splitOn (sep : Char) (t : Text) : (splitOn sep t).length = t.count sep + 1 := by
  induction t with
  | nil => rfl
  | cons c t ih =>
    rw [splitOn]
    by_cases hc : c = sep
    · rw [if_pos hc, List.length_cons, ih, hc, List.count_cons_self]
    · rw [if_neg hc, List.count_cons_of_ne hc]
      cases hs : splitOn sep t with
      | nil => simp [hs] at ih
      | cons part parts => simpa [hs] using ih

theorem joinWith_append (sep : Text) (hp : parts ≠ []) (hm : more ≠ []) :
    joinWith sep (parts ++ more) = joinWith sep parts ++ sep ++ joinWith sep more := by
  simp only [joinWith_eq]
  induction parts with
  | nil => exact absurd rfl hp
  | cons part parts ih =>
    by_cases hparts : parts = []
    · subst hparts
      rw [List.singleton_append, List.intercalate_cons_of_ne_nil hm, List.intercalate_singleton]
    · rw [List.cons_append, List.intercalate_cons_of_ne_nil (by simp [hparts]), ih hparts,
        List.intercalate_cons_of_ne_nil hparts]
      simp

/-- Lines that are ended one by one are cut apart again. -/
theorem splitOn_lines {sep : Char} {lines : List Text} (h : ∀ line ∈ lines, sep ∉ line)
    (hlast : sep ∉ last) :
    splitOn sep (lines.flatMap (· ++ [sep]) ++ last) = lines ++ [last] := by
  induction lines with
  | nil => exact splitOn_of_not_mem hlast
  | cons line lines ih =>
    have hsplit : (line :: lines).flatMap (· ++ [sep]) ++ last =
        line ++ sep :: (lines.flatMap (· ++ [sep]) ++ last) := by simp
    rw [hsplit, splitOn_append, splitOn_of_not_mem (h line (by simp)),
      ih (fun l hl => h l (by simp [hl]))]
    rfl

end CodeNotes
