import CodeNotes.Proofs.StableOrder
/-!
How a filter of a board shows in its sorted views. What a filter takes is the beginning of the
view sorted by the same key, and rows that all tie stand there as they do on the board.
-/
namespace CodeNotes

/-- Where no member with a property comes behind one without it, those with it are a beginning. -/
theorem eq_filter_append {p : α → Bool} {xs : List α}
    (h : xs.Pairwise fun a b => p b = true → p a = true) :
    xs = xs.filter p ++ xs.filter fun a => !p a := by
  induction xs with
  | nil => rfl
  | cons x xs ih =>
    obtain ⟨hx, h⟩ := List.pairwise_cons.mp h
    cases hp : p x with
    | true =>
      simp only [List.filter_cons, hp, Bool.not_true, Bool.false_eq_true, if_true, if_false]
      rw [List.cons_append, ← ih h]
    | false =>
      -- Nothing behind a member without the property has it.
      have hnone : xs.filter p = [] :=
        List.filter_eq_nil_iff.mpr fun y hy hpy => by simp [hx y hy hpy] at hp
      have hall : (xs.filter fun a => !p a) = xs := by
        have hxs := ih h
        rw [hnone, List.nil_append] at hxs
        exact hxs.symm
      simp [hp, hnone, hall]

/-- A list that is in order against a pivot is cut in three by it. -/
theorem eq_filter_three {side : α → Ordering} {xs : List α}
    (h : xs.Pairwise fun a b =>
      (side b = .lt → side a = .lt) ∧ (side a = .gt → side b = .gt)) :
    xs = xs.filter (side · = .lt) ++ xs.filter (side · = .eq) ++ xs.filter (side · = .gt) := by
  have hlt : xs = xs.filter (side · = .lt) ++ xs.filter fun a => !decide (side a = .lt) :=
    eq_filter_append <| h.imp fun {a b} hab hb => decide_eq_true (hab.1 (of_decide_eq_true hb))
  let others := xs.filter fun a => !decide (side a = .lt)
  have heq : others = others.filter (fun a => !decide (side a = .gt)) ++
      others.filter fun a => !!decide (side a = .gt) :=
    eq_filter_append <| by
      refine (h.filter _).imp fun {a b} hab hb => ?_
      simp only [Bool.not_eq_true', decide_eq_false_iff_not] at hb ⊢
      exact fun ha => hb (hab.2 ha)
  rw [List.filter_filter, List.filter_filter] at heq
  have hmid : (xs.filter fun a => !decide (side a = .gt) && !decide (side a = .lt)) =
      xs.filter (side · = .eq) :=
    List.filter_congr fun a _ => by cases side a <;> rfl
  have hlast : (xs.filter fun a => !!decide (side a = .gt) && !decide (side a = .lt)) =
      xs.filter (side · = .gt) :=
    List.filter_congr fun a _ => by cases side a <;> rfl
  rw [hmid, hlast] at heq
  rw [List.append_assoc, ← heq]
  exact hlt

namespace Board

section

variable {board : Board} {key : SortKey}
  (h : TotalPreorderOn (fun r s : Row => key.compare r.task s.task) board.rows)

include h

/-- A property that earlier rows share cuts the sorted view in two. -/
theorem sorted_eq_filter_append {p : Row → Bool}
    (hp : ∀ r s : Row, (key.compare r.task s.task).isLE → p s = true → p r = true) :
    board.sorted key = (board.sorted key).filter p ++ (board.sorted key).filter fun r => !p r :=
  eq_filter_append ((pairwise_mergeSort_of_preorder h).imp fun {r s} hrs => hp r s hrs)

/-- Rows that all tie stand in the sorted view as they stand on the board. -/
theorem filter_sorted_of_ties {p : Row → Bool}
    (hp : ∀ r ∈ board.rows, ∀ s ∈ board.rows, p r = true → p s = true →
      key.compare r.task s.task = .eq) :
    (board.sorted key).filter p = board.rows.filter p := by
  have hmem : ∀ r ∈ (board.sorted key).filter p, r ∈ board.rows ∧ p r = true := by
    intro r hr
    obtain ⟨hr, hpr⟩ := List.mem_filter.mp hr
    exact ⟨(sorted_perm board key).mem_iff.mp hr, hpr⟩
  have hsorted : ((board.sorted key).filter p).Pairwise fun r s => r.position < s.position := by
    refine ((sorted_pairwise h).filter p).imp_of_mem fun {r s} hr hs hrs => ?_
    obtain ⟨hr, hpr⟩ := hmem r hr
    obtain ⟨hs, hps⟩ := hmem s hs
    rcases hrs with hbefore | ⟨-, hlt⟩
    · rw [← key.compare_eq_lt_iff, hp r hr s hs hpr hps] at hbefore
      cases hbefore
    · exact hlt
  refine ((sorted_perm board key).filter p).eq_of_pairwise ?_ hsorted
    ((rows_pairwise board).filter p)
  intro r s _ _ hrs hsr
  exact absurd hrs (Nat.lt_asymm hsr)

end

/-- A task dated after a day. -/
def IsLater (day : Day) (task : Task) : Prop :=
  ∃ d, task.day? = some d ∧ day < d

theorem isLater_iff {day : Day} {task : Task} :
    task.day?.any (day < ·) = true ↔ IsLater day task := by
  rw [Option.any_eq_true]
  exact exists_congr fun d => by rw [decide_eq_true_eq]

/-- Before a task with a day stand only tasks with a day, and theirs is not earlier. -/
theorem day?_of_compare {day : Day} {a b : Task} (hab : (SortKey.date.compare a b).isLE)
    (hb : b.day? = some day) : ∃ e, a.day? = some e ∧ day ≤ e := by
  simp only [SortKey.compare, hb] at hab
  cases ha : a.day? with
  | none => simp [ha, compareDays] at hab
  | some e =>
    rw [ha] at hab
    exact ⟨e, rfl, Int.isLE_compare.mp hab⟩

theorem isLater_of_compare {day : Day} {a b : Task} (hab : (SortKey.date.compare a b).isLE)
    (hb : IsLater day b) : IsLater day a := by
  obtain ⟨d, hd, hlt⟩ := hb
  obtain ⟨e, he, hle⟩ := day?_of_compare hab hd
  exact ⟨e, he, Int.lt_of_lt_of_le hlt hle⟩

theorem important_of_compare {a b : Task} (hab : (SortKey.importance.compare a b).isLE)
    (hb : 0 < b.rank) : 0 < a.rank :=
  Nat.lt_of_lt_of_le hb (Nat.isLE_compare.mp hab)

theorem exists_note_of_mem_rows {notes : List Note} {row : Row}
    (h : row ∈ (ofNotes notes).rows) : ∃ note ∈ notes, Task.ofNote note = row.task :=
  List.mem_map.mp (List.mem_of_getElem? (task_of_mem_rows h))

/-- The flag of a task that was read from a note agrees with its number of exclamation marks. -/
theorem important_eq_of_mem_rows {notes : List Note} {row : Row}
    (h : row ∈ (ofNotes notes).rows) : row.task.important = decide (0 < row.task.rank) := by
  obtain ⟨note, -, he⟩ := exists_note_of_mem_rows h
  rw [← he]
  rfl

/-- The view sorted by date begins with the tasks after a day. -/
theorem sorted_date_begins (board : Board) (day : Day) :
    ∃ late others, board.sorted .date = late ++ others ∧
      (∀ row ∈ late, IsLater day row.task) ∧ (∀ row ∈ others, ¬ IsLater day row.task) ∧
      late.Perm (board.after day) := by
  have hsplit := sorted_eq_filter_append (preorder_rows board .date (by simp))
    (p := fun row => row.task.day?.any (day < ·))
    (fun r s hrs hs => isLater_iff.mpr (isLater_of_compare hrs (isLater_iff.mp hs)))
  refine ⟨_, _, hsplit, ?_, ?_, (sorted_perm board .date).filter _⟩
  · intro row hrow
    exact isLater_iff.mp (List.mem_filter.mp hrow).2
  · intro row hrow hlater
    have hnot := (List.mem_filter.mp hrow).2
    rw [isLater_iff.mpr hlater] at hnot
    cases hnot

/-- A later day leaves fewer tasks. -/
theorem after_sublist_after (board : Board) {day day' : Day} (hle : day ≤ day') :
    (board.after day').Sublist (board.after day) := by
  refine List.monotone_filter_right _ fun row hrow => ?_
  obtain ⟨d, hd, hlt⟩ := isLater_iff.mp hrow
  exact isLater_iff.mpr ⟨d, hd, Int.lt_of_le_of_lt hle hlt⟩

/-- The view sorted by importance begins with the important tasks, and all others stand behind
them as they were found. -/
theorem sorted_importance_begins (notes : List Note) :
    ∃ first, (ofNotes notes).sorted .importance =
        first ++ (ofNotes notes).rows.filter (fun row => !row.task.important) ∧
      first.Perm (ofNotes notes).important := by
  have hpre := preorder_rows (ofNotes notes) .importance (by simp)
  have hflag : (ofNotes notes).important =
      (ofNotes notes).rows.filter fun row => decide (0 < row.task.rank) :=
    List.filter_congr fun row hrow => important_eq_of_mem_rows hrow
  have hplain : ((ofNotes notes).rows.filter fun row => !row.task.important) =
      (ofNotes notes).rows.filter fun row => !decide (0 < row.task.rank) :=
    List.filter_congr fun row hrow => by rw [important_eq_of_mem_rows hrow]
  have hsplit := sorted_eq_filter_append hpre (p := fun row => decide (0 < row.task.rank))
    (fun r s hrs hs => decide_eq_true (important_of_compare hrs (of_decide_eq_true hs)))
  have hrest := filter_sorted_of_ties hpre (p := fun row => !decide (0 < row.task.rank))
    (fun r _ s _ hr hs => by simp_all [SortKey.compare])
  rw [hrest, ← hplain] at hsplit
  refine ⟨_, hsplit, ?_⟩
  rw [hflag]
  exact (sorted_perm (ofNotes notes) .importance).filter _

/-- Filters and sorts agree: what a filter by date takes is what the view sorted by date begins
with, and what the filter by importance takes is what the view sorted by importance begins
with. -/
theorem sorted_begins_with_filtered (notes : List Note) :
    (∀ day, ∃ late others,
      (ofNotes notes).sorted .date = late ++ others ∧
      (∀ row ∈ late, IsLater day row.task) ∧ (∀ row ∈ others, ¬ IsLater day row.task) ∧
      late.length = ((ofNotes notes).after day).length ∧
      late.Perm ((ofNotes notes).after day) ∧
      ∀ day', day ≤ day' → ((ofNotes notes).after day').Sublist ((ofNotes notes).after day)) ∧
    ∃ first, (ofNotes notes).sorted .importance =
        first ++ (ofNotes notes).rows.filter (fun row => !row.task.important) ∧
      first.length = (ofNotes notes).important.length ∧
      first.Perm (ofNotes notes).important := by
  constructor
  · intro day
    obtain ⟨late, others, hsorted, hlate, hothers, hperm⟩ :=
      sorted_date_begins (ofNotes notes) day
    exact ⟨late, others, hsorted, hlate, hothers, hperm.length_eq, hperm,
      fun day' hle => after_sublist_after (ofNotes notes) hle⟩
  · obtain ⟨first, hsorted, hperm⟩ := sorted_importance_begins notes
    exact ⟨first, hsorted, hperm.length_eq, hperm⟩

/-- A date that only a leap year has, in two years, then no date and a date behind both. -/
def datedNotes : List Note :=
  [⟨[], "a; 2023-02-29; x".toList⟩, ⟨[], "b; 2024-02-29; y!".toList⟩, ⟨[], "c".toList⟩,
    ⟨[], "d; 2025-01-01; z!!".toList⟩]

theorem sorted_begins_with_filtered_dated :
    (⟨2024, 2, 28, by decide⟩ : Day) ≤ ⟨2024, 2, 29, by decide⟩ ∧
    ∃ late others, (ofNotes datedNotes).sorted .date = late ++ others ∧
      late.length = 2 ∧ late.Perm ((ofNotes datedNotes).after ⟨2024, 2, 28, by decide⟩) ∧
      ((ofNotes datedNotes).after ⟨2024, 2, 29, by decide⟩).Sublist
        ((ofNotes datedNotes).after ⟨2024, 2, 28, by decide⟩) := by
  have hle : (⟨2024, 2, 28, by decide⟩ : Day) ≤ ⟨2024, 2, 29, by decide⟩ := by decide
  have hlength : ((ofNotes datedNotes).after ⟨2024, 2, 28, by decide⟩).length = 2 := by
    decide +kernel
  obtain ⟨late, others, hsorted, -, -, hlate, hperm, hsub⟩ :=
    (sorted_begins_with_filtered datedNotes).1 ⟨2024, 2, 28, by decide⟩
  exact ⟨hle, late, others, hsorted, hlate.trans hlength, hperm, hsub _ hle⟩

end Board

end CodeNotes
