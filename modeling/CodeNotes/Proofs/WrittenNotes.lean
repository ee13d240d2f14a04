import CodeNotes.Board
import CodeNotes.Proofs.LeftmostReading
import CodeNotes.Proofs.LineReading
/-!
Notes with all their fields, written one after the other into a file, are read back as
they were. A user or a comment may itself hold markers and dates; what it may not hold is
what would end it.
-/
namespace CodeNotes.Note

/-- A line with a note on it, in its parts, and the run of terminators behind it. -/
structure Entry where
  before : Text
  user : Text
  blanks₁ : Text
  date : Text
  blanks₂ : Text
  blanks₃ : Text
  comment : Text
  ending : Text
  before_line : OneLine before
  before_unmarked : ¬ marker <:+: before
  user_ne : user ≠ []
  user_line : OneLine user
  user_unsplit : ';' ∉ user
  blanks₁_blank : Blank blanks₁ ∧ OneLine blanks₁
  blanks₂_blank : Blank blanks₂ ∧ OneLine blanks₂
  blanks₃_blank : Blank blanks₃ ∧ OneLine blanks₃
  date_shape : IsDate date
  comment_ne : comment ≠ []
  comment_line : OneLine comment
  comment_head : comment.head?.any isBlank = false
  comment_groupless : Groupless comment
  ending_run : LineEnd ending

namespace Entry

/-- What stands behind the marker. -/
def text (e : Entry) : Text :=
  e.user ++ [';'] ++ e.blanks₁ ++ e.date ++ e.blanks₂ ++ [';'] ++ e.blanks₃ ++ e.comment

def line (e : Entry) : Text :=
  e.before ++ marker ++ e.text ++ e.ending

/-- The content of a file with these entries. -/
def write (es : List Entry) : Text :=
  es.flatMap line

/-- The task that an entry stands for. -/
def task (fileName : Text) (e : Entry) : Task where
  user := e.user
  date := e.date
  comment := e.comment
  important := 0 < e.text.count '!'
  rank := e.text.count '!'
  fileName := fileName
  text := e.text

end Entry

theorem digit_onLine (h : isDigit c = true) : onLine c = true := by
  cases ht : isTerminator c with
  | false => simp [onLine, ht]
  | true =>
    have hb := terminator_blank ht
    rw [digit_not_blank h] at hb
    contradiction

theorem IsDate.oneLine (h : IsDate token) : OneLine token := by
  intro c hc
  rcases h.mem hc with hdigit | rfl
  · exact digit_onLine hdigit
  · decide

namespace Entry

def group (e : Entry) : Text :=
  ';' :: e.blanks₁ ++ e.date ++ e.blanks₂ ++ [';']

theorem group_isGroup (e : Entry) : IsGroup e.group :=
  ⟨e.blanks₁, e.date, e.blanks₂, rfl, e.blanks₁_blank.1, e.date_shape, e.blanks₂_blank.1⟩

theorem text_eq (e : Entry) : e.text = e.user ++ (e.group ++ (e.blanks₃ ++ e.comment)) := by
  simp [text, group]

theorem text_ne (e : Entry) : e.text ≠ [] := by
  simp [text_eq, e.user_ne]

theorem text_line (e : Entry) : OneLine e.text := by
  have hsemi : OneLine [';'] := by
    decide
  have h₁ := (e.user_line.append hsemi).append e.blanks₁_blank.2
  have h₂ := (h₁.append e.date_shape.oneLine).append e.blanks₂_blank.2
  exact ((h₂.append hsemi).append e.blanks₃_blank.2).append e.comment_line

/-- One line of the file gives one note, whatever follows. -/
theorem lineTexts_entry (e : Entry) (t : Text) :
    lineTexts (e.line ++ t) = e.text :: lineTexts t := by
  have hline : OneLine (e.before ++ (marker ++ e.text)) :=
    e.before_line.append (marker_oneLine.append e.text_line)
  have hof : ofLine? (e.before ++ (marker ++ e.text)) = some e.text := by
    rw [ofLine?, afterMarker?_before e.before_unmarked]
    simp [e.text_ne]
  rw [line, List.append_assoc e.before, lineTexts_run e.ending_run,
    lineTexts_line hline, hof]
  rfl

theorem texts_write (es : List Entry) : texts (write es) = es.map text := by
  rw [texts_eq_lineTexts]
  induction es with
  | nil => exact lineTexts_nil
  | cons e es ih =>
    rw [write, List.flatMap_cons, lineTexts_entry, List.map_cons, ← ih]
    rfl

theorem user_text (e : Entry) : Note.user e.text = e.user := by
  obtain ⟨rest, hg⟩ := e.group_isGroup.head
  have htake : ∀ c ∈ e.user, decide (c ≠ ';') = true := by
    rintro c hc
    simp only [ne_eq, decide_not, Bool.not_eq_eq_eq_not, Bool.not_true, decide_eq_false_iff_not]
    rintro rfl
    exact e.user_unsplit hc
  rw [text_eq, hg, Note.user, List.takeWhile_append_of_pos htake]
  simp

theorem date_text (e : Entry) : Note.date e.text = e.date := by
  refine (firstDate_iff.mp ⟨e.user,
    e.blanks₁ ++ e.date ++ (e.blanks₂ ++ ';' :: (e.blanks₃ ++ e.comment)), ?_, ?_, ?_⟩).1
  · simp [text]
  · exact ⟨e.blanks₁, _, rfl, e.blanks₁_blank.1, e.date_shape⟩
  · intro s' t' token' hr _
    rw [text_eq] at hr
    exact first_semicolon e.user_unsplit hr

theorem clear_tail (e : Entry) : Clear (e.blanks₃ ++ e.comment) [] := by
  have hblank : ';' ∉ e.blanks₃ := by
    intro hm
    have hb := e.blanks₃_blank.1 ';' hm
    revert hb
    decide
  exact Clear.append (clear_of_not_mem hblank) (clear_iff_groupless.mpr e.comment_groupless)

theorem comment_unblank (e : Entry) : e.comment.dropWhile isBlank = e.comment := by
  have hhead := e.comment_head
  cases hc : e.comment with
  | nil => rfl
  | cons c rest =>
    rw [hc] at hhead
    exact List.dropWhile_cons_of_neg (by simpa using hhead)

theorem comment_text (e : Entry) : Note.comment e.text = e.comment := by
  have hread : Reading e.text [(e.user, e.group)] (e.blanks₃ ++ e.comment) := by
    rw [text_eq]
    exact .group (clear_of_not_mem e.user_unsplit) e.group_isGroup (.plain e.clear_tail)
  rw [comment_of_reading hread, List.dropWhile_append_of_pos e.blanks₃_blank.1,
    e.comment_unblank]
  simp [e.comment_ne]

theorem ofNote_text (e : Entry) (fileName : Text) :
    Task.ofNote ⟨fileName, e.text⟩ = e.task fileName := by
  simp only [Task.ofNote, task, user_text, date_text, comment_text]
  rfl

end Entry

/-- Every entry of a file is read back as one task with its fields, in order. -/
theorem tasks_of_written (path fileName : Text) (es : List Entry) :
    (Board.ofNotes (ofFiles [⟨path, fileName, Entry.write es⟩])).tasks =
      es.map (Entry.task fileName) := by
  simp only [Board.ofNotes, ofFiles, List.flatMap_cons, List.flatMap_nil, List.append_nil,
    Entry.texts_write, List.map_map]
  apply List.map_congr_left
  intro e _
  exact e.ofNote_text fileName

/-- A beginning of the marker before the note, a marker in its user, and half a group in its
comment. -/
theorem tasks_of_written_lookalikes :
    (Board.ofNotes (ofFiles [⟨[], ['a'],
      ['x', '/', '/', ' ', 'T', 'O', 'D', 'O'] ++ marker ++ marker ++
      [';', '2', '0', '2', '4', '-', '1', '3', '-', '4', '0', '\t', ';', ' ',
        ';', '1', '9', '9', '9', '-', '0', '1', '-', '0', '1', '!', '\r', '\n']⟩])).tasks =
      [⟨marker, ['2', '0', '2', '4', '-', '1', '3', '-', '4', '0'],
        [';', '1', '9', '9', '9', '-', '0', '1', '-', '0', '1', '!'], true, 1, ['a'],
        marker ++ [';', '2', '0', '2', '4', '-', '1', '3', '-', '4', '0', '\t', ';', ' ',
          ';', '1', '9', '9', '9', '-', '0', '1', '-', '0', '1', '!']⟩] := by
  have h := tasks_of_written [] ['a']
    [{ before := ['x', '/', '/', ' ', 'T', 'O', 'D', 'O'], user := marker, blanks₁ := [],
       date := ['2', '0', '2', '4', '-', '1', '3', '-', '4', '0'], blanks₂ := ['\t'],
       blanks₃ := [' '], comment := [';', '1', '9', '9', '9', '-', '0', '1', '-', '0', '1', '!'],
       ending := ['\r', '\n'], before_line := by decide, before_unmarked := by decide,
       user_ne := by decide, user_line := by decide, user_unsplit := by decide,
       blanks₁_blank := by decide, blanks₂_blank := by decide, blanks₃_blank := by decide,
       date_shape := by decide, comment_ne := by decide, comment_line := by decide,
       comment_head := by decide, comment_groupless := by decide, ending_run := by decide }]
  exact h

end CodeNotes.Note
