import CodeNotes.CommandLine.Help
import CodeNotes.Session
/-!
The command line as a whole: from the arguments, the project and the bytes on standard
input to what is printed and the exit code.
-/
namespace CodeNotes.CommandLine

structure Outcome where
  code : Nat
  output : Text
  errors : Text
  deriving DecidableEq

/-- A line break inside a message is followed by this indentation. -/
def indented (indent : Nat) (message : Text) : Text :=
  joinWith ('\n' :: List.replicate indent ' ') (splitOn '\n' message)

/-- Causes are numbered where there is more than one. -/
def causeLines : List Text → Text
  | [] => []
  | [cause] => "\n\nCaused by:\n    ".toList ++ indented 4 cause
  | causes =>
    "\n\nCaused by:".toList ++ (causes.zipIdx.flatMap fun (cause, i) =>
      let number := Json.decimal i
      '\n' :: List.replicate (5 - number.length) ' ' ++ number ++ [':', ' '] ++ indented 7 cause)

/-- The report of an error and its causes. -/
def report (e : ScanError) : Text :=
  match e.chain with
  | [] => []
  | message :: causes => "Error: ".toList ++ message ++ causeLines causes ++ ['\n']

/-- What comes of a request before any input is read: an outcome, or a session that is
still to be held. -/
def serve (project : Project) : Request → Outcome ⊕ Session
  | .help long => .inl ⟨0, helpText long, []⟩
  | .version => .inl ⟨0, versionText, []⟩
  | .start g =>
    match project.scan g.settings with
    | .error e => .inl ⟨1, [], report e⟩
    | .ok board =>
      let session : Session := ⟨board, g.mode, false⟩
      if g.commands = [] then .inr session else .inl ⟨0, session.runScript g.commands, []⟩

/-- As `serve`, for arguments. -/
def prepare (project : Project) (args : List Text) : Outcome ⊕ Session :=
  match readArguments args with
  | .error e => .inl ⟨2, [], e.message ++ "\n\nFor more information, try '--help'.\n".toList⟩
  | .ok request => serve project request

def run (project : Project) (args : List Text) (stdin : List UInt8) : Outcome :=
  match prepare project args with
  | .inl outcome => outcome
  | .inr session => ⟨0, session.run stdin, []⟩

end CodeNotes.CommandLine
