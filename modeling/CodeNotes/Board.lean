import CodeNotes.Collation.Order
import CodeNotes.Task
/-!
A board holds the tasks of one scan and never changes. Its queries answer with views:
lists of tasks, each with its position on the board.
-/
namespace CodeNotes

inductive SortKey where
  | importance
  | user
  | date
  deriving DecidableEq

inductive QueryError where
  | unknownSortKey (word : Text)
  | invalidDate (input : Text)
  | userNotFound (name : Text)
  deriving DecidableEq

def QueryError.message : QueryError → Text
  | .unknownSortKey word =>
    "unknown sort criterion: '".toList ++ word ++ "'. Use importance, user, or date".toList
  | .invalidDate input =>
    "invalid date '".toList ++ input ++ "'. Use yyyy, yyyy-mm, or yyyy-mm-dd".toList
  | .userNotFound name => "no TODOs found for user: ".toList ++ name

def SortKey.word : SortKey → Text
  | .importance => "importance".toList
  | .user => "user".toList
  | .date => "date".toList

def SortKey.ofWord (word : Text) : Except QueryError SortKey :=
  match [SortKey.importance, .user, .date].find? (·.word = word) with
  | some key => .ok key
  | none => .error (.unknownSortKey word)

/-- The order of user names. Tasks without a user come last. -/
def compareUsers (a b : Text) : Ordering :=
  match a, b with
  | [], [] => .eq
  | [], _ :: _ => .gt
  | _ :: _, [] => .lt
  | a, b => Collation.compareTexts a b

/-- The order of dates, latest first. Tasks without a day come last. -/
def compareDays : Option Day → Option Day → Ordering
  | none, none => .eq
  | none, some _ => .gt
  | some _, none => .lt
  | some a, some b => compare b.rank a.rank

/-- The order that a sort key stands for. -/
def SortKey.compare : SortKey → Task → Task → Ordering
  | .importance => fun a b => Ord.compare b.rank a.rank
  | .user => fun a b => compareUsers a.user b.user
  | .date => fun a b => compareDays a.day? b.day?

structure Row where
  position : Nat
  task : Task
  deriving DecidableEq

abbrev View := List Row

structure Board where
  tasks : List Task
  deriving DecidableEq

namespace Board

def ofNotes (notes : List Note) : Board :=
  ⟨notes.map Task.ofNote⟩

/-- All tasks in the order they were found. -/
def rows (board : Board) : View :=
  board.tasks.mapIdx Row.mk

def important (board : Board) : View :=
  board.rows.filter (·.task.important)

/-- The tasks of exactly this user; the empty name stands for the tasks without one. -/
def ofUser (board : Board) (name : Text) : Except QueryError View :=
  match board.rows.filter (·.task.user = name) with
  | [] => .error (.userNotFound name)
  | view => .ok view

/-- The whole board in the order of a key; tasks that tie stay in the order they were
found. -/
def sorted (board : Board) (key : SortKey) : View :=
  board.rows.mergeSort fun a b => (key.compare a.task b.task).isLE

/-- The tasks dated after a day. -/
def after (board : Board) (day : Day) : View :=
  board.rows.filter fun row => row.task.day?.any (day < ·)

/-- As `after`, with the day written `YYYY`, `YYYY-MM` or `YYYY-MM-DD`. -/
def afterText (board : Board) (input : Text) : Except QueryError View :=
  match Day.ofQuery? input with
  | some day => .ok (board.after day)
  | none => .error (.invalidDate input)

theorem ofUser_eq_ok_iff {board : Board} :
    board.ofUser name = .ok view ↔
      view = board.rows.filter (·.task.user = name) ∧ view ≠ [] := by
  unfold ofUser
  split
  · next hnil => simp [hnil]
  · next hne =>
    rw [Except.ok.injEq, eq_comm]
    simp_all

theorem afterText_eq_ok_iff {board : Board} :
    board.afterText input = .ok view ↔
      ∃ day, Day.ofQuery? input = some day ∧ view = board.after day := by
  unfold afterText
  cases Day.ofQuery? input <;> simp [eq_comm]

theorem afterText_eq_error_iff {board : Board} :
    board.afterText input = .error e ↔ Day.ofQuery? input = none ∧ e = .invalidDate input := by
  unfold afterText
  cases Day.ofQuery? input <;> simp [eq_comm]

end Board

end CodeNotes
