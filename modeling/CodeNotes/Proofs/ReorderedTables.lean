import CodeNotes.Proofs.StableOrder
import CodeNotes.Proofs.TableWidths
import CodeNotes.Session
import Mathlib.Data.List.FinRange
/-!
Tasks in another order make the same table with its rows in that order. Header and dash lines
stay as they are, and so does what is written for each task.
-/
namespace CodeNotes

namespace Layout

/-- The header and the dash lines of a table of these tasks, with some blocks of text as its
rows. -/
def frame (tasks : List Task) (blocks : List Text) : Text :=
  header (widths tasks) ++ ['\n'] ++ rule (widths tasks) ++ ['\n'] ++ blocks.flatten ++
    rule (widths tasks) ++ ['\n']

/-- What a table of these tasks has for one of them: its line and the line feed. -/
def block (tasks : List Task) (task : Task) : Text :=
  taskLine (widths tasks) task ++ ['\n']

variable {tasks tasks' : List Task}

theorem render_eq (tasks : List Task) : render tasks = frame tasks (tasks.map (block tasks)) := by
  have hblocks : (tasks.map (taskLine (widths tasks))).flatMap (· ++ ['\n']) =
      (tasks.map (block tasks)).flatten := by
    rw [List.flatMap_map]
    rfl
  simp [render, lines, frame, ← hblocks]

/-- The same tasks in another order are shown in the same frame and by the same blocks. -/
theorem render_perm (h : tasks'.Perm tasks) :
    render tasks' = frame tasks (tasks'.map (block tasks)) := by
  have hwidths : widths tasks' = widths tasks := widths_perm h
  have hblock : block tasks' = block tasks := by
    funext task
    rw [block, block, hwidths]
  rw [render_eq, frame, frame, hwidths, hblock]

end Layout

namespace Session

open Layout

theorem ofWord_word (key : SortKey) : SortKey.ofWord key.word = .ok key := by
  cases key with
  | importance => rfl
  | user => rfl
  | date => rfl

theorem ofLine_sort (key : SortKey) :
    Command.ofLine ("sort ".toList ++ key.word) = .sort key.word := by
  cases key with
  | importance => decide
  | user => decide
  | date => decide

/-- A view of the whole board is shown in the frame of its tasks. -/
theorem viewText_perm {board : Board} {view : View} (h : view.Perm board.rows) :
    viewText .table view = frame board.tasks (view.map fun row => block board.tasks row.task) := by
  have htasks : (view.map Row.task).Perm board.tasks := by
    rw [← board.tasks_rows]
    exact h.map Row.task
  rw [viewText, render_perm htasks, List.map_map]
  rfl

/-- Tasks in another order make a table with the same header and dash lines and with the same
blocks in that order. So a board is shown by the same lines whatever it is sorted by. -/
theorem tables_reordered {n : Nat} (tasks : Fin n → Task) (σ : Equiv.Perm (Fin n))
    (board : Board) (prompts : Bool) (key : SortKey) :
    render (List.ofFn tasks) =
        frame (List.ofFn tasks) (List.ofFn (block (List.ofFn tasks) ∘ tasks)) ∧
      render (List.ofFn (tasks ∘ σ)) =
        frame (List.ofFn tasks) (List.ofFn (block (List.ofFn tasks) ∘ tasks ∘ σ)) ∧
      answer? ⟨board, .table, prompts⟩ (Command.ofLine "show".toList) =
        some (frame board.tasks (board.rows.map fun row => block board.tasks row.task)) ∧
      answer? ⟨board, .table, prompts⟩ (Command.ofLine ("sort ".toList ++ key.word)) =
        some (frame board.tasks ((board.sorted key).map fun row => block board.tasks row.task)) ∧
      (board.sorted key).Perm board.rows := by
  refine ⟨?_, ?_, ?_, ?_, board.sorted_perm key⟩
  · rw [render_eq, List.map_ofFn]
  · rw [render_perm (σ.ofFn_comp_perm tasks), List.map_ofFn]
  · have hshow : Command.ofLine "show".toList = .showAll := by decide
    rw [hshow]
    exact congrArg some (viewText_perm (List.Perm.refl _))
  · rw [ofLine_sort, answer?, execute, ofWord_word]
    exact congrArg some (viewText_perm (board.sorted_perm key))

end Session

end CodeNotes
