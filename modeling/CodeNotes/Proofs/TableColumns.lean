import CodeNotes.Proofs.TableLines
import CodeNotes.Proofs.TableWidths
import CodeNotes.Proofs.TextParts
import Mathlib.Data.List.DropRight
/-!
The measures of a table, and how its cells are found again. A reader needs the header only: the
bars in it stand in the gaps between the columns, and the rows are cut at the same places.
-/
namespace CodeNotes.Layout

/-- A text without the blanks at its end. -/
def trimEnd (text : Text) : Text :=
  text.rdropWhile (· = ' ')

/-- The widths of the columns, read off a header. Each bar has two blanks on both sides. -/
def columnWidths (header : Text) : List Nat :=
  (splitOn '|' ([' ', ' '] ++ header ++ [' ', ' '])).map fun part => part.length - 4

/-- Cut a line into parts of these widths with a gap between neighbours, where it is laid out
like that. -/
def cut? : List Nat → Text → Option (List Text)
  | [], line => if line = [] then some [] else none
  | [w], line => if line.length = w then some [line] else none
  | w :: ws, line => do
    let rest ← after? gap (line.drop w)
    let parts ← cut? ws rest
    return line.take w :: parts

/-- The cells of a line of the table with this header. -/
def readCells (header line : Text) : Option (List Text) :=
  (cut? (columnWidths header) line).map (·.map trimEnd)

/-- The lengths of cells that are filled up to some widths. -/
def filled (c : Columns Text) (w : Columns Nat) : Columns Nat :=
  c.zipWith (fun cell width => max cell.length width) w

/-- The widths of all columns together. -/
def total (w : Columns Nat) : Nat :=
  w.mark + w.user + w.date + w.comment + w.file

/-- No cell stands out of its column. -/
def Fits (c : Columns Text) (w : Columns Nat) : Prop :=
  filled c w = w

section Cutting

variable {parts : List Text} {c : Columns Text} {w : Columns Nat}

theorem length_pad (cell : Text) (width : Nat) :
    (pad cell width).length = max cell.length width := by
  simp only [pad, List.length_append, List.length_replicate]
  omega

theorem trimEnd_pad (cell : Text) (width : Nat) : trimEnd (pad cell width) = trimEnd cell := by
  unfold trimEnd pad
  induction width - cell.length with
  | zero => simp
  | succ n ih =>
    rw [List.replicate_succ', ← List.append_assoc]
    rw [List.rdropWhile_concat_pos _ _ _ (by simp), ih]

/-- What was joined with gaps is cut apart again. -/
theorem cut?_joinWith (parts : List Text) :
    cut? (parts.map List.length) (joinWith gap parts) = some parts := by
  fun_induction joinWith gap parts with
  | case1 => rfl
  | case2 part => simp [cut?]
  | case3 part parts hne ih =>
    cases parts with
    | nil => contradiction
    | cons next parts =>
      have hgap : after? gap (gap ++ joinWith gap (next :: parts)) =
          some (joinWith gap (next :: parts)) := after?_eq_some_iff.mpr rfl
      rw [List.map_cons] at ih
      simp [cut?, hgap, ih]

/-- Bars between parts without bars are where the parts are cut apart. -/
theorem splitOn_bar (h : ∀ part ∈ parts, '|' ∉ part) (hne : parts ≠ []) :
    splitOn '|' ([' ', ' '] ++ joinWith gap parts ++ [' ', ' ']) =
      parts.map fun part => [' ', ' '] ++ part ++ [' ', ' '] := by
  have hpart : ∀ part : Text, '|' ∉ part → '|' ∉ [' ', ' '] ++ part ++ [' ', ' '] := by
    intro part hfree
    simp [hfree]
  fun_induction joinWith gap parts with
  | case1 => contradiction
  | case2 part => exact splitOn_of_not_mem (hpart part (h part (by simp)))
  | case3 part parts hmore ih =>
    have hfirst := hpart part (h part (by simp))
    -- The gap is cut in its middle, and each side keeps two of its blanks.
    have hsplit : [' ', ' '] ++ (part ++ gap ++ joinWith gap parts) ++ [' ', ' '] =
        ([' ', ' '] ++ part ++ [' ', ' ']) ++
          '|' :: ([' ', ' '] ++ joinWith gap parts ++ [' ', ' ']) := by simp [gap]
    rw [hsplit, splitOn_append, splitOn_of_not_mem hfirst,
      ih (fun later hl => h later (by simp [hl])) (by simpa using hmore)]
    rfl

theorem lengths_pad (c : Columns Text) (w : Columns Nat) :
    (c.zipWith pad w).toList.map List.length = (filled c w).toList := by
  simp [filled, Columns.zipWith, Columns.toList, length_pad]

theorem Fits.lengths (h : Fits c w) : (c.zipWith pad w).toList.map List.length = w.toList := by
  rw [lengths_pad, h]

/-- Between five columns there are four gaps of five characters. -/
theorem length_formatLine (c : Columns Text) (w : Columns Nat) :
    (formatLine c w).length = total (filled c w) + 20 := by
  simp only [formatLine, filled, total, Columns.zipWith, Columns.toList, joinWith, gap,
    List.length_append, length_pad, List.length_cons, List.length_nil]
  omega

/-- A line whose cells fit is cut at the widths, and what fills its cells up is blanks. -/
theorem Fits.cut (h : Fits c w) :
    (cut? w.toList (formatLine c w)).map (·.map trimEnd) = some (c.toList.map trimEnd) := by
  have hcut : cut? w.toList (formatLine c w) = some (c.zipWith pad w).toList := by
    rw [← h.lengths]
    exact cut?_joinWith _
  rw [hcut]
  simp [Columns.zipWith, Columns.toList, trimEnd_pad]

/-- A header without bars in its words shows the widths that it was laid out in. -/
theorem Fits.columnWidths (h : Fits c w) (hbar : ∀ cell ∈ c.toList, '|' ∉ cell) :
    columnWidths (formatLine c w) = w.toList := by
  have hfree : ∀ part ∈ (c.zipWith pad w).toList, '|' ∉ part := by
    simp only [Columns.toList, Columns.zipWith, List.forall_mem_cons] at hbar ⊢
    obtain ⟨hmark, huser, hdate, hcomment, hfile, -⟩ := hbar
    have hpad : ∀ cell width, '|' ∉ cell → '|' ∉ pad cell width := by
      intro cell width hcell hin
      rcases mem_pad hin with hc | hc
      · exact hcell hc
      · contradiction
    exact ⟨hpad _ _ hmark, hpad _ _ huser, hpad _ _ hdate, hpad _ _ hcomment, hpad _ _ hfile,
      by simp⟩
  have hne : (c.zipWith pad w).toList ≠ [] := by simp [Columns.toList]
  rw [Layout.columnWidths, formatLine, splitOn_bar hfree hne, List.map_map, ← h.lengths]
  apply List.map_congr_left
  intro part hpart
  simp only [Function.comp_apply, List.length_append, List.length_cons, List.length_nil]
  omega

end Cutting

section Lines

variable {task : Task} {tasks : List Task}

theorem fits_headers (tasks : List Task) : Fits headers (widths tasks) := by
  have hlengths : headers.map List.length = ⟨1, 4, 4, 7, 4⟩ := by decide
  rw [Fits, widths_eq]
  simp only [Columns.map, Columns.mk.injEq] at hlengths
  simp only [filled, Columns.zipWith, Columns.mk.injEq, caps, floors]
  refine ⟨?_, ?_, ?_, ?_, ?_⟩
  all_goals omega

theorem length_mark (task : Task) : (cells task).mark.length = 1 := by
  simp only [cells]
  split
  · rfl
  · rfl

/-- A cell stands out of its column by as much as it is longer than the column may be. -/
theorem max_width {length longest : Nat} (h : length ≤ longest) (cap floor : Nat) :
    max length (min cap (max floor longest)) = min cap (max floor longest) + (length - cap) := by
  omega

/-- Of the cells of a row the user, the date and the file name may stand out of their columns. -/
theorem lengths_shownRow (h : task ∈ tasks) :
    filled (shownRow task) (widths tasks) =
      (widths tasks).zipWith (· + ·)
        ⟨0, task.user.length - 10, task.date.length - 10, 0, task.fileName.length - 15⟩ := by
  have hmark := length_mark task
  have hcomment := length_shownComment task.comment
  have lcomment := length_le_longest Columns.comment h
  rw [widths_eq]
  simp only [filled, shownRow, Columns.zipWith, Columns.mk.injEq, longestCells, caps, floors]
  -- A mark is as wide as its column, and a shown comment is never wider.
  refine ⟨?_, ?_, ?_, ?_, ?_⟩
  · omega
  · exact max_width (length_le_longest Columns.user h) 10 4
  · exact max_width (length_le_longest Columns.date h) 10 4
  · simp only [cells] at lcomment
    omega
  · exact max_width (length_le_longest Columns.file h) 15 7

theorem fits_shownRow (h : task ∈ tasks) (huser : task.user.length ≤ 10)
    (hdate : task.date.length ≤ 10) (hfile : task.fileName.length ≤ 15) :
    Fits (shownRow task) (widths tasks) := by
  rw [Fits, lengths_shownRow h, Nat.sub_eq_zero_of_le huser, Nat.sub_eq_zero_of_le hdate,
    Nat.sub_eq_zero_of_le hfile]
  rfl

/-- A row is as long as the header, but for what stands out of its columns. -/
theorem length_taskLine (h : task ∈ tasks) :
    (taskLine (widths tasks) task).length = total (widths tasks) + 20 +
      (task.user.length - 10) + (task.date.length - 10) + (task.fileName.length - 15) := by
  rw [taskLine_eq h, length_formatLine, lengths_shownRow h]
  simp only [total, Columns.zipWith]
  omega

theorem splitOn_render (h : ∀ task ∈ tasks, OnLine task) :
    splitOn '\n' (render tasks) = lines tasks ++ [[]] := by
  have hfree : ∀ line ∈ lines tasks, '\n' ∉ line := by
    intro line hline
    simp only [lines, List.mem_append, List.mem_cons, List.mem_map, List.not_mem_nil, or_false]
      at hline
    rcases hline with (he | he | ⟨task, htask, he⟩) | he
    · exact he ▸ lineFeed_not_mem_header (widths tasks)
    · exact he ▸ lineFeed_not_mem_rule (widths tasks)
    · exact he ▸ lineFeed_not_mem_taskLine (h task htask) (widths tasks)
    · exact he ▸ lineFeed_not_mem_rule (widths tasks)
  have hsplit := splitOn_lines hfree (List.not_mem_nil (a := '\n'))
  rwa [List.append_nil] at hsplit

end Lines

/-- The measures of a table: its lines and what they end with, the widths of its columns, the
lengths of its lines, and the cells that a reader finds again who cuts a row at the columns of
the header. -/
theorem measures_of_table (tasks : List Task) (h : ∀ task ∈ tasks, OnLine task) :
    let w := widths tasks
    let full := total w + 20
    splitOn '\n' (render tasks) = lines tasks ++ [[]] ∧
      lines tasks = header w :: rule w :: tasks.map (taskLine w) ++ [rule w] ∧
      (lines tasks).length = tasks.length + 3 ∧
      w = ⟨min 1 (max 1 (longest Columns.mark tasks)), min 10 (max 4 (longest Columns.user tasks)),
        min 10 (max 4 (longest Columns.date tasks)), min 50 (max 7 (longest Columns.comment tasks)),
        min 15 (max 7 (longest Columns.file tasks))⟩ ∧
      (header w).length = full ∧ rule w = List.replicate full '-' ∧
      ∀ task ∈ tasks,
        (taskLine w task).length = full + (task.user.length - 10) + (task.date.length - 10) +
          (task.fileName.length - 15) ∧
        (task.user.length ≤ 10 → task.date.length ≤ 10 → task.fileName.length ≤ 15 →
          readCells (header w) (taskLine w task) =
            some ([(cells task).mark, task.user, task.date, shownComment task.comment,
              task.fileName].map trimEnd)) := by
  intro w full
  have hheader : (header w).length = full := by
    rw [header, length_formatLine, fits_headers tasks]
  have hwidths : columnWidths (header w) = w.toList :=
    (fits_headers tasks).columnWidths (by decide)
  refine ⟨splitOn_render h, rfl, by simp [lines], widths_eq tasks, hheader, ?_, ?_⟩
  · rw [rule, hheader]
  · intro task htask
    refine ⟨length_taskLine htask, ?_⟩
    intro huser hdate hfile
    rw [readCells, hwidths, taskLine_eq htask]
    exact (fits_shownRow htask huser hdate hfile).cut

/-- A row with a comment to be cut beside a row that stands out of its columns. -/
def uneven : List Task :=
  [⟨"zoë ".toList, [], "a  |  b".toList ++ List.replicate 60 'x', true, 1, ['b'], []⟩,
    ⟨"somebody else".toList, "2024-01-05".toList, [], false, 0, ['b'], []⟩]

theorem measures_of_table_uneven :
    (∀ task ∈ uneven, OnLine task) ∧
    splitOn '\n' (render uneven) = lines uneven ++ [[]] ∧
    uneven.map (fun task => (taskLine (widths uneven) task).length) = [98, 101] ∧
    readCells (header (widths uneven)) (taskLine (widths uneven) (uneven.get ⟨0, by decide⟩)) =
      some [['!'], "zoë".toList, [], "a  |  b".toList ++ List.replicate 40 'x' ++ "...".toList,
        ['b']] := by
  have hline : ∀ task ∈ uneven, OnLine task := by decide +kernel
  have h := measures_of_table uneven hline
  obtain ⟨hsplit, -, -, -, -, -, hrows⟩ := h
  have hfirst := hrows (uneven.get ⟨0, by decide⟩) (List.get_mem ..)
  refine ⟨hline, hsplit, by decide +kernel, ?_⟩
  exact (hfirst.2 (by decide) (by decide) (by decide)).trans (by decide +kernel)

end CodeNotes.Layout
