import CodeNotes.Layout
/-!
The lines of a table by what stands in them: a rule is made of dashes only, and each other line
has something else in it, whatever the cells hold.
-/
namespace CodeNotes.Layout

/-- No cell of a task has a line feed. -/
def OnLine (task : Task) : Prop :=
  ∀ cell ∈ (cells task).toList, '\n' ∉ cell

instance (task : Task) : Decidable (OnLine task) :=
  inferInstanceAs (Decidable (∀ cell ∈ (cells task).toList, '\n' ∉ cell))

section

variable {c : Char} {sep cell text : Text} {parts : List Text} {width : Nat} {task : Task}

theorem mem_joinWith (h : c ∈ joinWith sep parts) : c ∈ sep ∨ ∃ part ∈ parts, c ∈ part := by
  fun_induction joinWith sep parts with
  | case1 => simp at h
  | case2 part => exact .inr ⟨part, by simp, h⟩
  | case3 part parts hne ih =>
    rcases List.mem_append.mp h with h | h
    · rcases List.mem_append.mp h with h | h
      · exact .inr ⟨part, by simp, h⟩
      · exact .inl h
    · rcases ih h with h | ⟨later, hl, hc⟩
      · exact .inl h
      · exact .inr ⟨later, List.mem_cons_of_mem _ hl, hc⟩

theorem mem_pad (h : c ∈ pad cell width) : c ∈ cell ∨ c = ' ' := by
  rcases List.mem_append.mp h with h | h
  · exact .inl h
  · exact .inr (List.eq_of_mem_replicate h)

theorem mem_truncate (h : c ∈ truncate text width) : c ∈ text ∨ c = '.' := by
  unfold truncate at h
  split at h
  · exact .inl h
  · rcases List.mem_append.mp h with h | h
    · exact .inl (List.mem_of_mem_take h)
    · exact .inr (by simpa [ellipsis] using h)

theorem mem_gap (h : c ∈ gap) : c = ' ' ∨ c = '|' := by
  simp only [gap, List.mem_cons, List.not_mem_nil, or_false] at h
  rcases h with h | h | h | h | h
  · exact .inl h
  · exact .inl h
  · exact .inr h
  · exact .inl h
  · exact .inl h

/-- A line has nothing in it but its cells, blanks and bars. -/
theorem mem_formatLine {cells : Columns Text} {widths : Columns Nat}
    (h : c ∈ formatLine cells widths) : (∃ cell ∈ cells.toList, c ∈ cell) ∨ c = ' ' ∨ c = '|' := by
  rcases mem_joinWith h with hgap | ⟨part, hpart, hc⟩
  · exact .inr (mem_gap hgap)
  · have hpad : ∃ cell ∈ cells.toList, ∃ width, part = pad cell width := by
      simp only [Columns.zipWith, Columns.toList, List.mem_cons, List.not_mem_nil, or_false] at hpart
      rcases hpart with rfl | rfl | rfl | rfl | rfl
      · exact ⟨cells.mark, by simp [Columns.toList], _, rfl⟩
      · exact ⟨cells.user, by simp [Columns.toList], _, rfl⟩
      · exact ⟨cells.date, by simp [Columns.toList], _, rfl⟩
      · exact ⟨cells.comment, by simp [Columns.toList], _, rfl⟩
      · exact ⟨cells.file, by simp [Columns.toList], _, rfl⟩
    obtain ⟨cell, hcell, width, rfl⟩ := hpad
    rcases mem_pad hc with hc | rfl
    · exact .inl ⟨cell, hcell, hc⟩
    · exact .inr (.inl rfl)

/-- Between its cells every line has a bar. -/
theorem bar_mem_formatLine (cells : Columns Text) (widths : Columns Nat) :
    '|' ∈ formatLine cells widths := by
  have hgap : '|' ∈ gap := by decide
  simp [formatLine, Columns.toList, Columns.zipWith, joinWith, hgap]

theorem lineFeed_not_mem_header (widths : Columns Nat) : '\n' ∉ header widths := by
  intro h
  rcases mem_formatLine h with ⟨cell, hcell, hc⟩ | hc | hc
  · revert cell
    decide
  · contradiction
  · contradiction

theorem lineFeed_not_mem_shownCells (h : OnLine task) (widths : Columns Nat) :
    ∀ cell ∈ (shownCells widths task).toList, '\n' ∉ cell := by
  simp only [OnLine, shownCells, Columns.toList, List.forall_mem_cons] at h ⊢
  obtain ⟨hmark, huser, hdate, hcomment, hfile⟩ := h
  refine ⟨hmark, huser, hdate, ?_, hfile⟩
  intro hn
  rcases mem_truncate hn with hn | hn
  · exact hcomment hn
  · contradiction

theorem lineFeed_not_mem_taskLine (h : OnLine task) (widths : Columns Nat) :
    '\n' ∉ taskLine widths task := by
  intro hn
  rcases mem_formatLine hn with ⟨cell, hcell, hc⟩ | hc | hc
  · exact lineFeed_not_mem_shownCells h widths cell hcell hc
  · contradiction
  · contradiction

theorem header_ne_nil (widths : Columns Nat) : header widths ≠ [] := by
  intro h
  have hbar := bar_mem_formatLine headers widths
  rw [← header, h] at hbar
  contradiction

theorem rule_ne_nil (widths : Columns Nat) : rule widths ≠ [] := by
  simp [rule, header_ne_nil]

theorem mem_rule {widths : Columns Nat} (h : c ∈ rule widths) : c = '-' :=
  List.eq_of_mem_replicate h

theorem lineFeed_not_mem_rule (widths : Columns Nat) : '\n' ∉ rule widths := by
  intro h
  exact absurd (mem_rule h) (by decide)

end

end CodeNotes.Layout
