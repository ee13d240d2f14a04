import CodeNotes.Day.Reader
import CodeNotes.Note
import CodeNotes.Note.Fields
/-!
A task is a note with its fields read out.
-/
namespace CodeNotes

structure Task where
  user : Text
  date : Text
  comment : Text
  important : Bool
  rank : Nat
  fileName : Text
  text : Text
  deriving DecidableEq

namespace Task

/-- Every field but the file name comes from the text of the note alone. -/
def ofNote (note : Note) : Task where
  user := Note.user note.text
  date := Note.date note.text
  comment := Note.comment note.text
  important := 0 < Note.rank note.text
  rank := Note.rank note.text
  fileName := note.fileName
  text := note.text

/-- A date that names no day of the calendar counts as none. -/
def day? (task : Task) : Option Day :=
  Day.ofNote? task.date

end Task

end CodeNotes
