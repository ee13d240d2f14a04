import CodeNotes.Task
/-!
Views as text tables: a header, a dash line, a line for each task and a dash line. A
column is as wide as its longest cell, within bounds; a comment too long for its column
is cut, while other cells push the line out.
-/
namespace CodeNotes.Layout

/-- One thing for each column. -/
structure Columns (α : Type) where
  mark : α
  user : α
  date : α
  comment : α
  file : α
  deriving DecidableEq

namespace Columns

def toList (c : Columns α) : List α :=
  [c.mark, c.user, c.date, c.comment, c.file]

def map (f : α → β) (c : Columns α) : Columns β :=
  ⟨f c.mark, f c.user, f c.date, f c.comment, f c.file⟩

def zipWith (f : α → β → γ) (c : Columns α) (d : Columns β) : Columns γ :=
  ⟨f c.mark d.mark, f c.user d.user, f c.date d.date, f c.comment d.comment, f c.file d.file⟩

end Columns

def headers : Columns Text :=
  ⟨['!'], "user".toList, "date".toList, "comment".toList, "file".toList⟩

/-- The widths below which no column goes. -/
def floors : Columns Nat := ⟨1, 4, 4, 7, 7⟩

/-- The widths above which no column goes. -/
def caps : Columns Nat := ⟨1, 10, 10, 50, 15⟩

/-- What stands between two columns. -/
def gap : Text := [' ', ' ', '|', ' ', ' ']

def ellipsis : Text := ['.', '.', '.']

def cells (task : Task) : Columns Text where
  mark := if task.important then ['!'] else [' ']
  user := task.user
  date := task.date
  comment := task.comment
  file := task.fileName

def widths (tasks : List Task) : Columns Nat :=
  let longest := tasks.foldl
    (fun w task => w.zipWith max ((cells task).map List.length)) floors
  caps.zipWith min longest

/-- Fill up with blanks to a width. -/
def pad (cell : Text) (width : Nat) : Text :=
  cell ++ List.replicate (width - cell.length) ' '

/-- Cut to a width, with an ellipsis at the end where something was cut. -/
def truncate (text : Text) (width : Nat) : Text :=
  if text.length ≤ width then text
  else text.take (width - ellipsis.length) ++ ellipsis

def formatLine (cells : Columns Text) (widths : Columns Nat) : Text :=
  joinWith gap (cells.zipWith pad widths).toList

def header (widths : Columns Nat) : Text :=
  formatLine headers widths

def rule (widths : Columns Nat) : Text :=
  List.replicate (header widths).length '-'

/-- The cells of a task as they are shown: only the comment is cut. -/
def shownCells (widths : Columns Nat) (task : Task) : Columns Text :=
  { cells task with comment := truncate task.comment widths.comment }

def taskLine (widths : Columns Nat) (task : Task) : Text :=
  formatLine (shownCells widths task) widths

def lines (tasks : List Task) : List Text :=
  let w := widths tasks
  header w :: rule w :: tasks.map (taskLine w) ++ [rule w]

/-- The table of some tasks; every line ends with a line feed. -/
def render (tasks : List Task) : Text :=
  (lines tasks).flatMap (· ++ ['\n'])

end CodeNotes.Layout
