import CodeNotes.Board
import CodeNotes.Glob.Expression
import CodeNotes.Glob.Match
import CodeNotes.Note.Scan
import CodeNotes.Text.Utf8
import CodeNotes.Tree.Walk
/-!
A project is a file tree with a working directory in it. Scanning one selects its source
files, and collects the notes in them on a board.
-/
namespace CodeNotes

structure Settings where
  root : Text
  /-- Without the dot. -/
  extension : Text
  /-- Where there are any, a file has to match one of them. -/
  includes : List Text
  /-- Globs of files to leave out, beside those left out by default. -/
  excludes : List Text
  followsLinks : Bool

namespace Settings

def defaultExtension : Text := ['j', 's']

/-- An extension may be written with dots before it. -/
def trimExtension (extension : Text) : Text :=
  extension.dropWhile (· = '.')

/-- The directories of version control, of builds and of installed packages. -/
def defaultExcludes : List Text :=
  ["**/.git/**".toList, "**/target/**".toList, "**/node_modules/**".toList]

def allExcludes (s : Settings) : List Text :=
  defaultExcludes ++ s.excludes

end Settings

inductive ScanError where
  | emptyExtension
  | separatorInExtension (extension : Text)
  | rootNotDirectory (root : Text)
  | rootMissing (root : Text)
  | invalidGlob (pattern : Text) (fault : Glob.Fault)
  | nesting (fault : Glob.NestingFault)
  | walk (root : Text) (cause : WalkError)
  deriving DecidableEq

namespace ScanError

/-- The message of an error, and behind it those of its causes. -/
def chain : ScanError → List Text
  | .emptyExtension => ["extension must not be empty".toList]
  | .separatorInExtension extension =>
    ["extension must not contain a path separator: '".toList ++ extension ++ ['\'']]
  | .rootNotDirectory root => ["scan root is not a directory: ".toList ++ root]
  | .rootMissing root => ["Scan root does not exist: ".toList ++ root]
  | .invalidGlob pattern fault =>
    ["Invalid glob: ".toList ++ pattern,
      "error parsing glob '".toList ++ pattern ++ "': ".toList ++ fault.message]
  | .nesting fault => [fault.message]
  | .walk root cause => ("Failed to walk ".toList ++ root) :: cause.chain

/-- The whole chain on one line. -/
def message (e : ScanError) : Text :=
  joinWith [':', ' '] e.chain

end ScanError

/-- A file tree, and the directory in it where relative paths begin. -/
structure Project where
  tree : Tree
  dir : Location

namespace Project

/-- The extension and then the root are checked. -/
def validate (p : Project) (s : Settings) : Except ScanError Unit :=
  if s.extension = [] then .error .emptyExtension
  else if '/' ∈ s.extension ∨ '\\' ∈ s.extension then
    .error (.separatorInExtension s.extension)
  else match Path.find p.tree p.dir s.root with
    | .ok (_, .dir _) => .ok ()
    | _ => .error (.rootNotDirectory s.root)

def readGlob (pattern : Text) : Except ScanError Glob :=
  match Glob.ofText pattern with
  | .ok glob => .ok glob
  | .error fault => .error (.invalidGlob pattern fault)

/-- The first pattern that cannot be read is reported, and else what keeps the globs from
being put together. -/
def readGlobs (patterns : List Text) : Except ScanError (List Glob) := do
  let globs ← patterns.mapM readGlob
  match Glob.nestingFault? globs with
  | some fault => .error (.nesting fault)
  | none => .ok globs

/-- What follows the last dot of a file name, unless the name begins with that dot. -/
def extension? (fileName : Text) : Option Text :=
  match (splitOn '.' fileName).reverse with
  | ext :: before :: others => if before = [] ∧ others = [] then none else some ext
  | _ => none

/-- The last name of a path. -/
def lastName (path : Text) : Text :=
  (Path.names path).getLast?.getD []

/-- Files with the extension that the globs let through. The globs see the path from the
root. -/
def selects (extension : Text) (includes excludes : List Glob) (fileName relative : Text) : Bool :=
  extension? fileName = some extension && !excludes.any (·.matches relative) &&
    (includes.isEmpty || includes.any (·.matches relative))

/-- A found file as a source file, with its path from the root, if it can be read by its path
and its bytes are UTF-8. -/
def source? (s : Settings) (includes excludes : List Glob) (found : Walk.Found) :
    Option (Text × SourceFile) :=
  let relative := joinWith ['/'] found.way.names
  let path := found.way.path
  let fileName := lastName path
  if selects s.extension includes excludes fileName relative && !Path.isTooLong path then
    (Utf8.decode? found.bytes).map fun content => (relative, ⟨path, fileName, content⟩)
  else none

/-- Paths are ordered by their bytes. -/
def pathLE (a b : Text) : Bool :=
  (compare (Utf8.encode a) (Utf8.encode b)).isLE

/-- The selected files, ordered by their path from the root. -/
def collect (p : Project) (s : Settings) : Except ScanError (List SourceFile) := do
  match Path.find p.tree p.dir s.root with
  | .error _ => .error (.rootMissing s.root)
  | .ok _ =>
    let includes ← readGlobs s.includes
    let excludes ← readGlobs s.allExcludes
    match Walk.files p.tree p.dir s.root s.followsLinks with
    | .error e => .error (.walk s.root e)
    | .ok found =>
      let sources := found.filterMap (source? s includes excludes)
      .ok ((sources.mergeSort fun a b => pathLE a.1 b.1).map (·.2))

/-- The board of the notes in the selected files. -/
def scan (p : Project) (s : Settings) : Except ScanError Board := do
  p.validate s
  let files ← p.collect s
  return Board.ofNotes (Note.ofFiles files)

end Project

end CodeNotes
