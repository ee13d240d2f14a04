import CodeNotes.CommandLine
/-!
The program. It reads into a tree what a scan can see of the file system, and the rest is
the command line's work. Links get absolute targets. Names with a NUL in them, which no
file system has, stand for what a broken link leads to.
-/
namespace CodeNotes.Main

def nul : Text := ['\x00']

/-- A file that only the targets of broken links mention. -/
def nullTree : Tree := .dir [(nul, .file [])]

def missingTarget : Text := '/' :: nul ++ nul

def fileTarget : Text := '/' :: nul ++ '/' :: nul

def longTarget : Text := '/' :: List.replicate (Path.nameLimit + 1) '\x00'

def pathText (loc : Location) : String :=
  String.ofList (loc.foldl Path.join ['/'])

def entryAt (dir : Location) (name : Text) : IO.FS.DirEntry :=
  ⟨pathText dir, String.ofList name⟩

def target (entry : IO.FS.DirEntry) : IO Text := do
  try
    let _ ← entry.path.metadata
    return (toString (← IO.FS.realPath entry.path)).toList
  catch
    | .noFileOrDirectory .. => return missingTarget
    | .inappropriateType .. => return fileTarget
    | .invalidArgument .. => return longTarget
    | _ => return entry.fileName.toList

/-- The bytes of a file; one that cannot be read is given bytes that are no text. -/
def bytes (entry : IO.FS.DirEntry) : IO (List UInt8) := do
  try
    return (← IO.FS.readBinFile entry.path).toList
  catch _ => return [0xFF]

mutual

/-- What stands at an entry. Only files with the extension are read. -/
partial def loadEntry (extension : Text) (entry : IO.FS.DirEntry) : IO (Option Tree) := do
  match (← entry.path.symlinkMetadata).type with
  | .dir => some <$> loadDir extension (toString entry.path).toList
  | .symlink => (some ∘ Tree.link) <$> target entry
  | .file =>
    if Project.extension? entry.fileName.toList = some extension then
      (some ∘ Tree.file) <$> bytes entry
    else return some (.file [])
  | .other => return none

partial def loadDir (extension : Text) (path : Text) : IO Tree := do
  try
    let dir ← IO.FS.realPath (String.ofList path)
    let mut entries := []
    for entry in ← dir.readDir do
      if let some t ← loadEntry extension entry then
        entries := (entry.fileName.toList, t) :: entries
    return .dir entries.reverse
  catch _ => return .dir []

end

/-- Load what the names of a path pass over, and the location that they lead to. -/
partial def loadPath (extension : Text) (tree : Tree) (dir : Location) :
    List Text → IO (Tree × Location)
  | [] => return (tree, dir)
  | name :: rest => do
    if name = Path.here then loadPath extension tree dir rest
    else if name = Path.up then loadPath extension tree dir.dropLast rest
    else
      let entry := entryAt dir name
      let loc := dir ++ [name]
      try
        match (← entry.path.symlinkMetadata).type with
        | .dir => loadPath extension (tree.makeDir loc) loc rest
        | .symlink =>
          let target ← target entry
          loadPath extension (Tree.put (.link target) loc tree) (Path.names target) rest
        | _ =>
          match ← loadEntry extension entry with
          | some t => return (Tree.put t loc tree, loc)
          | none => return (tree, loc)
      catch _ => return (tree, loc)

mutual

def linkTargets : Tree → List Text
  | .file _ => []
  | .link target => [target]
  | .dir entries => entryTargets entries

def entryTargets : List (Text × Tree) → List Text
  | [] => []
  | (_, t) :: entries => linkTargets t ++ entryTargets entries

end

/-- Load a location, and then what the links lead to that were loaded. -/
partial def loadAll (extension : Text) (followsLinks : Bool) (tree : Tree)
    (loaded : List Location) : List Location → IO Tree
  | [] => return tree
  | loc :: rest => do
    if loaded.any (·.isPrefixOf loc) then loadAll extension followsLinks tree loaded rest
    else
      try
        let (tree, _) ← loadPath extension tree [] loc
        match (tree.at? loc) with
        | some (.dir _) =>
          let t ← loadDir extension (pathText loc).toList
          let more := if followsLinks then (linkTargets t).map Path.names else []
          loadAll extension followsLinks (Tree.put t loc tree) (loc :: loaded) (rest ++ more)
        | _ => loadAll extension followsLinks tree (loc :: loaded) rest
      catch _ => loadAll extension followsLinks tree (loc :: loaded) rest

def load (settings : Settings) : IO Project := do
  let dir := Path.names (toString (← IO.FS.realPath ".")).toList
  let start := nullTree.makeDir dir
  let (tree, loc) ← loadPath settings.extension start (Path.base dir settings.root)
    (Path.names settings.root)
  return ⟨← loadAll settings.extension settings.followsLinks tree [] [loc], dir⟩

/-- The bytes up to the next line feed or the end of the input. -/
partial def readLine (input : IO.FS.Stream) (read : ByteArray) : IO (List UInt8) := do
  let next ← input.read 1
  if next.isEmpty || next.toList = [0x0A] then return (read ++ next).toList
  else readLine input (read ++ next)

def write (output : IO.FS.Stream) (t : Text) : IO Unit := do
  output.putStr (String.ofList t)
  output.flush

/-- Answer line after line until the session or the input ends. -/
partial def hold (session : Session) (input output : IO.FS.Stream) : IO Unit := do
  write output session.promptText
  let line ← readLine input .empty
  if line = [] then return
  if let some t := session.answerLine? line then
    write output t
    hold session input output

end CodeNotes.Main

open CodeNotes in
def main (args : List String) : IO UInt32 := do
  let args := args.map String.toList
  let project ← match CommandLine.readArguments args with
    | .ok (.start given) => Main.load given.settings
    | _ => pure ⟨Main.nullTree, []⟩
  let output ← IO.getStdout
  match CommandLine.prepare project args with
  | .inl outcome =>
    Main.write output outcome.output
    Main.write (← IO.getStderr) outcome.errors
    return UInt32.ofNat outcome.code
  | .inr session =>
    Main.write output Session.greetingLine
    Main.hold session (← IO.getStdin) output
    return 0
