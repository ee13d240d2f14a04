import CodeNotes.Text
/-!
File trees, and the paths that lead through them. A location is a list of names from the
top; a path is a text, which may pass over links and go back by `..`.
-/
namespace CodeNotes

inductive Tree where
  | file (bytes : List UInt8)
  | link (target : Text)
  /-- The entries stand in the order in which a walk meets them. -/
  | dir (entries : List (Text × Tree))

abbrev Location := List Text

inductive PathError where
  | missing
  | notDirectory
  | tooManyLinks
  | nameTooLong
  deriving DecidableEq

def PathError.message : PathError → Text
  | .missing => "No such file or directory (os error 2)".toList
  | .notDirectory => "Not a directory (os error 20)".toList
  | .tooManyLinks => "Too many levels of symbolic links (os error 40)".toList
  | .nameTooLong => "File name too long (os error 36)".toList

namespace Tree

def entryNamed (name : Text) : List (Text × Tree) → Option Tree
  | [] => none
  | (n, t) :: entries => if n = name then some t else entryNamed name entries

/-- The tree at a location. -/
def at? (t : Tree) : Location → Option Tree
  | [] => some t
  | name :: loc =>
    match t with
    | .dir entries => (entryNamed name entries).bind (at? · loc)
    | _ => none

/-- Replace the tree in the entry of a name, or add an entry. A directory shows its newest
entry first. -/
def putEntry (name : Text) (new : Tree) (entries : List (Text × Tree)) : List (Text × Tree) :=
  if (entryNamed name entries).isSome then
    entries.map fun (n, t) => if n = name then (n, new) else (n, t)
  else (name, new) :: entries

/-- Put a tree at a location and make the directories on the way. -/
def put (new : Tree) : Location → Tree → Tree
  | [], _ => new
  | name :: loc, t =>
    let entries := match t with
      | .dir entries => entries
      | _ => []
    .dir (putEntry name (put new loc ((entryNamed name entries).getD (.dir []))) entries)

/-- Put an empty directory at a location unless there is a directory. -/
def makeDir (loc : Location) (t : Tree) : Tree :=
  match t.at? loc with
  | some (.dir _) => t
  | _ => put (.dir []) loc t

end Tree

namespace Path

def here : Text := ['.']

def up : Text := ['.', '.']

/-- The names along a path. A slash at the end asks for a directory, as the name `.` does. -/
def names (path : Text) : List Text :=
  (splitOn '/' path).filter (· ≠ []) ++ if path.getLast? = some '/' then [here] else []

/-- The directory where a path begins that stands in a directory. -/
def base (dir : Location) (path : Text) : Location :=
  if path.head? = some '/' then [] else dir

/-- A path continued by a name. -/
def join (path name : Text) : Text :=
  if path.getLast? = some '/' then path ++ name else path ++ '/' :: name

/-- How far names lead without following a link. -/
inductive Arrival where
  | arrived (loc : Location)
  | failed (e : PathError)
  /-- A link in a directory, and the names behind it. -/
  | linked (dir : Location) (target : Text) (rest : List Text)

/-- The most bytes that a name may have. -/
def nameLimit : Nat := 255

/-- A path has to have fewer bytes than these. -/
def pathLimit : Nat := 4096

def isTooLong (path : Text) : Bool :=
  pathLimit ≤ byteSize path

def advance (top : Tree) (loc : Location) : List Text → Arrival
  | [] => .arrived loc
  | name :: rest =>
    match top.at? loc with
    | none => .failed .missing
    | some (.dir entries) =>
      if name = here then advance top loc rest
      else if name = up then advance top loc.dropLast rest
      else if nameLimit < byteSize name then .failed .nameTooLong
      else match Tree.entryNamed name entries with
        | none => .failed .missing
        | some (.link target) => .linked loc target rest
        | some _ => advance top (loc ++ [name]) rest
    | some _ => .failed .notDirectory

/-- Follow names and up to so many links. -/
def follow (top : Tree) : Nat → Location → List Text → Except PathError Location
  | links, loc, ns =>
    match advance top loc ns with
    | .arrived loc => .ok loc
    | .failed e => .error e
    | .linked dir target rest =>
      match links with
      | 0 => .error .tooManyLinks
      | links + 1 => follow top links (base dir target) (names target ++ rest)

/-- The number of links that one path may pass over. -/
def linkLimit : Nat := 40

/-- The location that a path leads to from a directory. -/
def locate (top : Tree) (dir : Location) (path : Text) : Except PathError Location :=
  if path = [] then .error .missing
  else if isTooLong path then .error .nameTooLong
  else follow top linkLimit (base dir path) (names path)

/-- What a path leads to, with its location. -/
def find (top : Tree) (dir : Location) (path : Text) : Except PathError (Location × Tree) := do
  let loc ← locate top dir path
  match top.at? loc with
  | some t => .ok (loc, t)
  | none => .error .missing

/-- Whether the path itself, and not what it leads to, is a link. -/
def isLink (top : Tree) (dir : Location) (path : Text) : Bool :=
  match follow top linkLimit (base dir path) (names path).dropLast, (names path).getLast? with
  | .ok loc, some name =>
    match top.at? (loc ++ [name]) with
    | some (.link _) => true
    | _ => false
  | _, _ => false

/-- Make the directories that names lead into, where they lead to none. -/
def makeDirs (top : Tree) (dir : Location) (names : List Text) : Tree × Location :=
  names.foldl (fun (top, loc) name =>
    match follow top linkLimit loc [name] with
    | .ok loc => (top, loc)
    | .error _ => (top.makeDir (loc ++ [name]), loc ++ [name])) (top, dir)

/-- The location behind a name and at most so many links, where the last of them may have
a target that is missing from its directory. -/
def target (top : Tree) : Nat → Location → Text → Location
  | 0, dir, name => dir ++ [name]
  | links + 1, dir, name =>
    match top.at? (dir ++ [name]) with
    | some (.link path) =>
      match follow top linkLimit (base dir path) (names path).dropLast, (names path).getLast? with
      | .ok dir, some name => target top links dir name
      | _, _ => dir ++ [name]
    | _ => dir ++ [name]

/-- Put a tree where names lead to, and make the directories on the way. Only a link does
not follow a link that has its name already. -/
def put (new top : Tree) (dir : Location) (names : List Text) : Tree :=
  let (top, parent) := makeDirs top dir names.dropLast
  let last := names.getLast?.toList
  let loc := match new, follow top linkLimit parent last with
    | .link _, _ => parent ++ last
    | _, .ok loc => loc
    | _, .error _ => (names.getLast?.map (target top linkLimit parent)).getD parent
  Tree.put new loc top

end Path

end CodeNotes
