import CodeNotes.Layout
/-!
How wide the columns of a table are, and what a comment looks like in its column. A width comes
from the longest cell of the column, so it does not depend on the order of the rows; a comment
is cut by its own length only, whatever the other rows hold.
-/
namespace CodeNotes.Layout

/-- The length of the longest cell of a column, 0 in a table without rows. -/
def longest (column : Columns Text → Text) (tasks : List Task) : Nat :=
  (tasks.map fun task => (column (cells task)).length).max?.getD 0

/-- The lengths of the longest cells. -/
def longestCells (tasks : List Task) : Columns Nat :=
  ⟨longest Columns.mark tasks, longest Columns.user tasks, longest Columns.date tasks,
    longest Columns.comment tasks, longest Columns.file tasks⟩

section Widths

variable {column : Columns Text → Text} {task : Task} {tasks tasks' : List Task}

theorem longest_cons :
    longest column (task :: tasks) = max (column (cells task)).length (longest column tasks) := by
  simp only [longest, List.map_cons, List.max?_cons, Option.getD_some]
  cases (tasks.map fun task => (column (cells task)).length).max? with
  | none => simp
  | some n => simp

theorem length_le_longest (column : Columns Text → Text) (h : task ∈ tasks) :
    (column (cells task)).length ≤ longest column tasks := by
  induction tasks with
  | nil => simp at h
  | cons first tasks ih =>
    rw [longest_cons]
    rcases List.mem_cons.mp h with he | ht
    · subst he
      exact Nat.le_max_left _ _
    · exact Nat.le_trans (ih ht) (Nat.le_max_right _ _)

/-- Going through the rows widens each column to its longest cell. -/
theorem foldl_longest (w : Columns Nat) :
    tasks.foldl (fun w task => w.zipWith max ((cells task).map List.length)) w =
      w.zipWith max (longestCells tasks) := by
  induction tasks generalizing w with
  | nil => simp [longestCells, longest, Columns.zipWith]
  | cons task tasks ih =>
    rw [List.foldl_cons, ih]
    simp only [longestCells, longest_cons, Columns.zipWith, Columns.map, Nat.max_assoc]

theorem widths_eq (tasks : List Task) :
    widths tasks = caps.zipWith min (floors.zipWith max (longestCells tasks)) := by
  rw [widths, foldl_longest]

/-- The order of the rows is not seen in the widths. -/
theorem widths_perm (h : tasks.Perm tasks') : widths tasks = widths tasks' := by
  have hfold := h.foldl_eq' (f := fun w task => w.zipWith max ((cells task).map List.length))
    (fun _ _ _ _ w => by
      simp only [Columns.zipWith, Columns.map, Columns.mk.injEq]
      omega) floors
  rw [widths, widths, hfold]

/-- The column of the comments has room for more than the ellipsis. -/
theorem width_comment (tasks : List Task) :
    7 ≤ (widths tasks).comment ∧ (widths tasks).comment ≤ 50 := by
  rw [widths_eq]
  simp only [Columns.zipWith, caps, floors]
  omega

/-- A comment fits its column, unless the column is as wide as it may be. -/
theorem comment_fits_or_cap (h : task ∈ tasks) :
    task.comment.length ≤ (widths tasks).comment ∨ (widths tasks).comment = 50 := by
  have hlongest := length_le_longest Columns.comment h
  rw [widths_eq]
  simp only [Columns.zipWith, caps, floors, longestCells, cells] at hlongest ⊢
  omega

end Widths

/-- A comment as a table shows it: whole up to 50 characters, else its first 47 and an
ellipsis. -/
def shownComment (comment : Text) : Text :=
  if comment.length ≤ 50 then comment else comment.take 47 ++ ['.', '.', '.']

/-- The cells of a row as a table shows them. -/
def shownRow (task : Task) : Columns Text :=
  { cells task with comment := shownComment task.comment }

section Comments

variable {comment : Text} {task : Task} {tasks : List Task}

theorem length_shownComment (comment : Text) :
    (shownComment comment).length = min comment.length 50 := by
  unfold shownComment
  split
  · next hfits => exact (Nat.min_eq_left hfits).symm
  · next hlong =>
    simp only [List.length_append, List.length_take, List.length_cons, List.length_nil]
    omega

theorem shownComment_eq_self_iff : shownComment comment = comment ↔ comment.length ≤ 50 := by
  constructor
  · intro hself
    have hlength := length_shownComment comment
    rw [hself] at hlength
    omega
  · intro hfits
    simp [shownComment, hfits]

/-- The width of the column cuts a comment exactly where its own length does. -/
theorem truncate_comment (h : task ∈ tasks) :
    truncate task.comment (widths tasks).comment = shownComment task.comment := by
  have hwidth := width_comment tasks
  unfold truncate shownComment
  rcases comment_fits_or_cap h with hfits | hcap
  · have hshort : task.comment.length ≤ 50 := Nat.le_trans hfits hwidth.2
    rw [if_pos hfits, if_pos hshort]
  · rw [hcap]
    rfl

theorem taskLine_eq (h : task ∈ tasks) :
    taskLine (widths tasks) task = formatLine (shownRow task) (widths tasks) := by
  rw [taskLine, shownCells, truncate_comment h, shownRow]

end Comments

end CodeNotes.Layout
