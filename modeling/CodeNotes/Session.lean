import CodeNotes.Board
import CodeNotes.Command
import CodeNotes.Json
import CodeNotes.Layout
import CodeNotes.Text.Utf8
/-!
A session answers commands about one board. It reads them as lines of bytes or gets them
as a list; either way it stops at the first `exit`.
-/
namespace CodeNotes

inductive OutputMode where
  | table
  | json
  deriving DecidableEq

inductive Reply where
  | rows (view : View)
  | message (text : Text)
  | exit

def Reply.ofQuery : Except QueryError View → Reply
  | .ok view => .rows view
  | .error e => .message e.message

theorem Reply.ofQuery_eq_rows_iff : ofQuery result = .rows view ↔ result = .ok view := by
  cases result <;> simp [ofQuery]

structure Session where
  board : Board
  mode : OutputMode
  /-- Whether `> ` is written before each line is read. -/
  prompts : Bool

namespace Session

def greeting : Text := "Please, write your command!".toList

def wrongCommand : Text := "wrong command".toList

def prompt : Text := ['>', ' ']

def execute (s : Session) : Command → Reply
  | .exit => .exit
  | .showAll => .rows s.board.rows
  | .important => .rows s.board.important
  | .user name => Reply.ofQuery (s.board.ofUser name)
  | .sort word => Reply.ofQuery ((SortKey.ofWord word).map s.board.sorted)
  | .date input => Reply.ofQuery (s.board.afterText input)
  | .unknown _ => .message wrongCommand

/-- A view as it is written. -/
def viewText (mode : OutputMode) (view : View) : Text :=
  match mode with
  | .table => Layout.render (view.map Row.task)
  | .json => Json.render 0 (Json.ofTasks (view.map Row.task)) ++ ['\n']

/-- What is written for a command, or `none` where the session ends. -/
def answer? (s : Session) (command : Command) : Option Text :=
  match s.execute command with
  | .exit => none
  | .message text => some (text ++ ['\n'])
  | .rows view => some (viewText s.mode view)

/-- As `answer?`, for a line of input. Bytes that are no text are read as replacement
characters. -/
def answerLine? (s : Session) (line : List UInt8) : Option Text :=
  s.answer? (Command.ofLine (Utf8.decodeLossy line))

/-- Everything written for a list of commands. -/
def runScript (s : Session) : List Text → Text
  | [] => []
  | line :: lines =>
    match s.answer? (Command.ofLine line) with
    | none => []
    | some text => text ++ runScript s lines

/-- The lines of some bytes, line feeds included; the last need not end with one. -/
def byteLines : List UInt8 → List (List UInt8)
  | [] => []
  | b :: bytes =>
    if b = 0x0A then [b] :: byteLines bytes
    else match byteLines bytes with
      | [] => [[b]]
      | line :: lines => (b :: line) :: lines

def promptText (s : Session) : Text :=
  if s.prompts then prompt else []

/-- Everything written while the lines are read, the prompt before the end of the input
included. -/
def converse (s : Session) : List (List UInt8) → Text
  | [] => s.promptText
  | line :: lines =>
    s.promptText ++
      match s.answerLine? line with
      | none => []
      | some text => text ++ converse s lines

/-- What is written before the first line is read. -/
def greetingLine : Text :=
  greeting ++ ['\n']

/-- Everything written by an interactive session on some input. -/
def run (s : Session) (input : List UInt8) : Text :=
  greetingLine ++ s.converse (byteLines input)

end Session

end CodeNotes
