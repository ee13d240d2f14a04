import CodeNotes.Text
/-!
The commands an operator types. `user`, `sort` and `date` take the first word behind the
keyword and one blank; the other keywords stand alone on their line.
-/
namespace CodeNotes

inductive Command where
  | exit
  | showAll
  | important
  | user (name : Text)
  | sort (key : Text)
  | date (day : Text)
  | unknown (line : Text)
  deriving DecidableEq

namespace Command

/-- A line without the line feeds and carriage returns at its end. -/
def chomp (line : Text) : Text :=
  (line.reverse.dropWhile fun c => c == '\r' || c == '\n').reverse

/-- The first word behind `keyword` and a blank, which may be empty. -/
def argument? (keyword line : Text) : Option Text :=
  (after? (keyword ++ [' ']) line).map fun rest => rest.takeWhile (· ≠ ' ')

def ofLine (line : Text) : Command :=
  let line := chomp line
  match argument? "user".toList line, argument? "sort".toList line,
      argument? "date".toList line with
  | some name, _, _ => .user name
  | none, some key, _ => .sort key
  | none, none, some day => .date day
  | none, none, none =>
    if line = "exit".toList then .exit
    else if line = "show".toList then .showAll
    else if line = "important".toList then .important
    else .unknown line

end Command

end CodeNotes
