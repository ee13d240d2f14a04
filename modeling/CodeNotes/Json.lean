import CodeNotes.Task
/-!
JSON values and their text over several lines, indented by two blanks a level.
-/
namespace CodeNotes.Json

inductive Value where
  | bool (b : Bool)
  | nat (n : Nat)
  | string (t : Text)
  | array (items : List Value)
  | object (members : List (Text × Value))

def digitChar (n : Nat) : Char :=
  Char.ofNat ('0'.toNat + n)

/-- Decimal digits without leading zeros. -/
def decimal (n : Nat) : Text :=
  if n < 10 then [digitChar n] else decimal (n / 10) ++ [digitChar (n % 10)]

def hexDigit (n : Nat) : Char :=
  if n < 10 then digitChar n else Char.ofNat ('a'.toNat + n - 10)

/-- A character inside a string. Only the quote, the backslash and the characters below
U+0020 are escaped. -/
def escape (c : Char) : Text :=
  if c = '"' then ['\\', '"']
  else if c = '\\' then ['\\', '\\']
  else if c = '\x08' then ['\\', 'b']
  else if c = '\x0c' then ['\\', 'f']
  else if c = '\n' then ['\\', 'n']
  else if c = '\r' then ['\\', 'r']
  else if c = '\t' then ['\\', 't']
  else if c.toNat < 0x20 then
    ['\\', 'u', '0', '0', hexDigit (c.toNat / 16), hexDigit (c.toNat % 16)]
  else [c]

def quote (t : Text) : Text :=
  '"' :: t.flatMap escape ++ ['"']

/-- A line feed and the indentation of a level. -/
def newline (level : Nat) : Text :=
  '\n' :: List.replicate (2 * level) ' '

/-- Items between brackets, each on a line of its own. -/
def bracket (opening closing : Char) (level : Nat) : List Text → Text
  | [] => [opening, closing]
  | items =>
    opening :: newline (level + 1) ++ joinWith (',' :: newline (level + 1)) items ++
      newline level ++ [closing]

mutual

def render (level : Nat) : Value → Text
  | .bool true => "true".toList
  | .bool false => "false".toList
  | .nat n => decimal n
  | .string t => quote t
  | .array items => bracket '[' ']' level (renderItems (level + 1) items)
  | .object members => bracket '\x7b' '\x7d' level (renderMembers (level + 1) members)

def renderItems (level : Nat) : List Value → List Text
  | [] => []
  | v :: vs => render level v :: renderItems level vs

def renderMembers (level : Nat) : List (Text × Value) → List Text
  | [] => []
  | (key, v) :: ms => (quote key ++ ": ".toList ++ render level v) :: renderMembers level ms

end

def ofTask (task : Task) : Value :=
  .object
    [("user".toList, .string task.user),
      ("date".toList, .string task.date),
      ("comment".toList, .string task.comment),
      ("importance".toList, .bool task.important),
      ("importance_rank".toList, .nat task.rank),
      ("file_name".toList, .string task.fileName),
      ("raw_text".toList, .string task.text)]

def ofTasks (tasks : List Task) : Value :=
  .array (tasks.map ofTask)

theorem isDigit_digitChar (h : n < 10) : isDigit (digitChar n) = true := by
  have hall : ∀ n < 10, isDigit (digitChar n) = true := by decide
  exact hall n h

theorem digitValue_digitChar (h : n < 10) : digitValue (digitChar n) = n := by
  have hall : ∀ n < 10, digitValue (digitChar n) = n := by decide
  exact hall n h

end CodeNotes.Json
