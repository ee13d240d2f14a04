import CodeNotes.Text
/-!
A note is a line of source text that follows the marker, kept with the name of the
file it stands in.
-/
namespace CodeNotes

/-- A source file after it was read and decoded. -/
structure SourceFile where
  path : Text
  fileName : Text
  content : Text
  deriving DecidableEq

structure Note where
  fileName : Text
  text : Text
  deriving DecidableEq

namespace Note

/-- What opens a note, the space at its end included. -/
def marker : Text :=
  ['/', '/', ' ', 'T', 'O', 'D', 'O', ' ']

end Note

end CodeNotes
