import CodeNotes.Proofs.CommandGrammar
import CodeNotes.Proofs.QueryDates
import CodeNotes.Proofs.SortedFilters
/-!
The date of a task, typed as a command. The strict reader of queries and the lenient one of notes
agree on the dates that notes have, so the command finds what stands before the task's day in the
view sorted by date.
-/
namespace CodeNotes

section

variable {token : Text}

/-- On the date of a note the two readers agree. -/
theorem Day.ofQuery?_eq_ofNote? (h : Note.IsDate token) : ofQuery? token = ofNote? token := by
  obtain ⟨y, m, d, rfl, hy, hm, hd, hdig⟩ := h
  rw [ofNote?_token hy hm hd hdig]
  apply ofQuery?_of_written
  apply Written.day
  · exact ⟨hy, fun c hc => hdig c (by simp [hc])⟩
  · exact ⟨hm, fun c hc => hdig c (by simp [hc])⟩
  · exact ⟨hd, fun c hc => hdig c (by simp [hc])⟩

/-- A line with such a date is read as the command for it. -/
theorem Command.ofLine_date (h : Note.IsDate token) :
    ofLine ("date ".toList ++ token) = .date token := by
  have hplain : ∀ c ∈ token, c ≠ ' ' ∧ ¬ EndsLine c := by
    intro c hc
    rcases h.mem hc with hdigit | rfl
    · have hblank := ne_of_digit hdigit (show isDigit ' ' = false by decide)
      have hreturn := ne_of_digit hdigit (show isDigit '\r' = false by decide)
      have hfeed := ne_of_digit hdigit (show isDigit '\n' = false by decide)
      simp [EndsLine, hblank, hreturn, hfeed]
    · simp [EndsLine]
  have hne : token ≠ [] := by
    obtain ⟨c, rest, rfl, -⟩ := h.head
    simp
  have hself : chomp ("date ".toList ++ token) = "date ".toList ++ token := by
    apply chomp_eq_self
    intro c hc
    rw [List.getLast?_append_of_ne_nil _ hne] at hc
    exact (hplain c (List.mem_of_getLast? hc)).2
  apply ofLine_of_says
  rw [hself]
  exact ⟨[], by simp, fun hc => (hplain ' ' hc).1 rfl, .inl rfl⟩

end

namespace Board

variable {board : Board} {row : Row} {day : Day}

/-- In the view sorted by date the tasks after a task's day stand before the first of that day. -/
theorem sorted_date_first (hrow : row ∈ board.rows) (hday : row.task.day? = some day) :
    ∃ before first rest, board.sorted .date = before ++ first :: rest ∧
      first.task.day? = some day ∧ (∀ r ∈ before, r.task.day? ≠ some day) ∧
      (board.after day).Perm before := by
  obtain ⟨late, others, hsorted, hlate, hothers, hperm⟩ := sorted_date_begins board day
  have hnotLater : ∀ {r : Row}, IsLater day r.task → r.task.day? ≠ some day := by
    rintro r ⟨d, hd, hlt⟩ he
    obtain rfl : d = day := Option.some.inj (hd.symm.trans he)
    exact absurd hlt (Int.lt_irrefl _)
  have hmem : row ∈ others := by
    have hview : row ∈ late ++ others := hsorted ▸ (sorted_perm board .date).mem_iff.mpr hrow
    rcases List.mem_append.mp hview with hin | hin
    · exact absurd hday (hnotLater (hlate row hin))
    · exact hin
  cases others with
  | nil => contradiction
  | cons first rest =>
    refine ⟨late, first, rest, hsorted, ?_, fun r hr => hnotLater (hlate r hr), hperm.symm⟩
    rcases List.mem_cons.mp hmem with rfl | hrest
    · exact hday
    · -- The first of them is not after the day, and stands before a task of it.
      have hpairs := pairwise_mergeSort_of_preorder (preorder_rows board .date (by simp))
      rw [← sorted, hsorted] at hpairs
      have hle := List.rel_of_pairwise_cons (List.pairwise_append.mp hpairs).2.1 hrest
      obtain ⟨e, he, hfirst⟩ := day?_of_compare hle hday
      have hsame : ¬ day < e := fun hlt => hothers first (by simp) ⟨e, he, hlt⟩
      rw [he, Day.rank_injective (Int.le_antisymm (Int.not_lt.mp hsame) hfirst)]

theorem not_mem_after (hday : row.task.day? = some day) : row ∉ board.after day := by
  intro h
  obtain ⟨d, hd, hlt⟩ := isLater_iff.mp (List.mem_filter.mp h).2
  obtain rfl : d = day := Option.some.inj (hd.symm.trans hday)
  exact absurd hlt (Int.lt_irrefl _)

end Board

namespace Session

theorem execute_date_eq_rows_iff {s : Session} :
    s.execute (.date input) = .rows view ↔
      ∃ day, Day.ofQuery? input = some day ∧ view = s.board.after day := by
  rw [execute, Reply.ofQuery_eq_rows_iff, Board.afterText_eq_ok_iff]

/-- The date of a task as a command. The two readers of dates agree on it; rows are given just if
the task has a day, and then they are the tasks that stand in the view sorted by date before the
first one of that day. -/
theorem date_command_of_task (notes : List Note) (mode : OutputMode) (prompts : Bool) :
    (∀ raw, Note.date raw ≠ [] → ∀ day,
      Day.ofQuery? (Note.date raw) = some day ↔ Day.ofNote? (Note.date raw) = some day) ∧
    ∀ row ∈ (Board.ofNotes notes).rows, row.task.date ≠ [] →
      ((∃ view, execute ⟨.ofNotes notes, mode, prompts⟩
          (Command.ofLine ("date ".toList ++ row.task.date)) = .rows view) ↔
        ∃ day, row.task.day? = some day) ∧
      ∀ view, execute ⟨.ofNotes notes, mode, prompts⟩
          (Command.ofLine ("date ".toList ++ row.task.date)) = .rows view →
        row ∉ view ∧ ∃ day before first rest, row.task.day? = some day ∧
          (Board.ofNotes notes).sorted .date = before ++ first :: rest ∧
          first.task.day? = some day ∧ (∀ r ∈ before, r.task.day? ≠ some day) ∧
          view.Perm before := by
  have hdate : ∀ raw, Note.date raw ≠ [] → Note.IsDate (Note.date raw) :=
    fun raw hne => (Note.date_shape raw).resolve_left hne
  constructor
  · intro raw hne day
    rw [Day.ofQuery?_eq_ofNote? (hdate raw hne)]
  · intro row hrow hne
    obtain ⟨note, -, hnote⟩ := Board.exists_note_of_mem_rows hrow
    have htoken : Note.IsDate row.task.date := by
      rw [← hnote] at hne ⊢
      exact hdate note.text hne
    have hreply : ∀ view, execute ⟨.ofNotes notes, mode, prompts⟩
        (Command.ofLine ("date ".toList ++ row.task.date)) = .rows view ↔
          ∃ day, row.task.day? = some day ∧ view = (Board.ofNotes notes).after day := by
      intro view
      rw [Command.ofLine_date htoken, execute_date_eq_rows_iff, Day.ofQuery?_eq_ofNote? htoken]
      rfl
    constructor
    · simp only [hreply]
      constructor
      · rintro ⟨view, day, hday, -⟩
        exact ⟨day, hday⟩
      · rintro ⟨day, hday⟩
        exact ⟨_, day, hday, rfl⟩
    · intro view hview
      obtain ⟨day, hday, rfl⟩ := (hreply view).mp hview
      obtain ⟨before, first, rest, hsorted, hfirst, hbefore, hperm⟩ :=
        Board.sorted_date_first hrow hday
      exact ⟨Board.not_mem_after hday, day, before, first, rest, hday, hsorted, hfirst, hbefore,
        hperm⟩

/-- The dates of the first two tasks: a leap day in a year that has none, and in one that has. -/
theorem date_command_of_task_leapDays :
    ⟨0, .ofNote ⟨[], "a; 2023-02-29; x".toList⟩⟩ ∈ (Board.ofNotes Board.datedNotes).rows ∧
    ⟨1, .ofNote ⟨[], "b; 2024-02-29; y!".toList⟩⟩ ∈ (Board.ofNotes Board.datedNotes).rows ∧
    (¬ ∃ view, execute ⟨.ofNotes Board.datedNotes, .table, false⟩
      (Command.ofLine "date 2023-02-29".toList) = .rows view) ∧
    ∃ view, execute ⟨.ofNotes Board.datedNotes, .table, false⟩
        (Command.ofLine "date 2024-02-29".toList) = .rows view ∧
      ∃ before first rest, (Board.ofNotes Board.datedNotes).sorted .date = before ++ first :: rest ∧
        first.task.day? = some ⟨2024, 2, 29, by decide⟩ ∧ view.Perm before := by
  have hrow : (⟨0, .ofNote ⟨[], "a; 2023-02-29; x".toList⟩⟩ : Row) ∈
      (Board.ofNotes Board.datedNotes).rows := by decide +kernel
  have hrow' : (⟨1, .ofNote ⟨[], "b; 2024-02-29; y!".toList⟩⟩ : Row) ∈
      (Board.ofNotes Board.datedNotes).rows := by decide +kernel
  have hday : (Task.ofNote ⟨[], "a; 2023-02-29; x".toList⟩).day? = none := by decide +kernel
  have hday' : (Task.ofNote ⟨[], "b; 2024-02-29; y!".toList⟩).day? =
      some ⟨2024, 2, 29, by decide⟩ := by decide +kernel
  have hnone := (date_command_of_task Board.datedNotes .table false).2 _ hrow (by decide +kernel)
  have hsome := (date_command_of_task Board.datedNotes .table false).2 _ hrow' (by decide +kernel)
  refine ⟨hrow, hrow', ?_, ?_⟩
  · intro hview
    obtain ⟨day, he⟩ := hnone.1.mp hview
    rw [hday] at he
    contradiction
  · obtain ⟨view, hview⟩ := hsome.1.mpr ⟨_, hday'⟩
    obtain ⟨-, day, before, first, rest, he, hsorted, hfirst, -, hperm⟩ := hsome.2 view hview
    refine ⟨view, hview, before, first, rest, hsorted, ?_, hperm⟩
    rw [hfirst, ← he, hday']

end Session

end CodeNotes
