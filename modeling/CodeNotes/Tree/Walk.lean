import CodeNotes.Tree
/-!
The walk over the files below a root. Links below the root are passed over, or followed;
then a link may be broken, or lead back to a directory that the walk is in. A directory can
only be read by a path that is not too long, and paths over links may grow so.
-/
namespace CodeNotes

inductive WalkError where
  | broken (path : Text) (cause : PathError)
  | loop (path ancestor : Text)
  deriving DecidableEq

/-- The messages of an error and of its causes. -/
def WalkError.chain : WalkError → List Text
  | .broken path cause =>
    ["IO error for operation on ".toList ++ path ++ ": ".toList ++ cause.message, cause.message]
  | .loop path ancestor =>
    ["File system loop found: ".toList ++ path ++ " points to an ancestor ".toList ++ ancestor]

namespace Walk

/-- How the walk came from its root: the names passed, and the path that they make. -/
structure Way where
  names : List Text
  path : Text

/-- The way on to an entry of the directory reached. -/
def Way.onTo (way : Way) (name : Text) : Way :=
  ⟨way.names ++ [name], Path.join way.path name⟩

structure Found where
  way : Way
  bytes : List UInt8

/-- A directory that the walk is in. -/
structure Visited where
  path : Text
  location : Location

/-- What a walk makes of a link, given the way to it and the directories around it, the
innermost first. -/
abbrev OnLink := Way → List Visited → Except WalkError (List Found)

mutual

/-- The files of a tree, in the order of the entries. -/
def visit (onLink : OnLink) (around : List Visited) (way : Way) (loc : Location) :
    Tree → Except WalkError (List Found)
  | .file bytes => .ok [⟨way, bytes⟩]
  | .link _ => onLink way around
  | .dir entries =>
    if Path.isTooLong way.path then .error (.broken way.path .nameTooLong)
    else visitEntries onLink (⟨way.path, loc⟩ :: around) way loc entries

def visitEntries (onLink : OnLink) (around : List Visited) (way : Way) (loc : Location) :
    List (Text × Tree) → Except WalkError (List Found)
  | [] => .ok []
  | (name, t) :: entries => do
    let first ← visit onLink around (way.onTo name) (loc ++ [name]) t
    let others ← visitEntries onLink around way loc entries
    return first ++ others

end

mutual

def dirCount : Tree → Nat
  | .dir entries => dirCountAll entries + 1
  | _ => 0

def dirCountAll : List (Text × Tree) → Nat
  | [] => 0
  | (_, t) :: entries => dirCount t + dirCountAll entries

end

def passOver : OnLink :=
  fun _ _ => .ok []

/-- Follow a link. The directories entered over links on one way down are all different,
for a link to one of them is a loop, so that the number of directories bounds the depth. -/
def enter (top : Tree) (dir : Location) : Nat → OnLink
  | depth, way, around =>
    match Path.find top dir way.path with
    | .error e => .error (.broken way.path e)
    | .ok (_, .file bytes) => .ok [⟨way, bytes⟩]
    | .ok (_, .link _) => .ok []
    | .ok (loc, .dir entries) =>
      match around.find? (·.location = loc) with
      | some ancestor => .error (.loop way.path ancestor.path)
      | none =>
        match depth with
        | 0 => .ok []
        | depth + 1 =>
          visitEntries (enter top dir depth) (⟨way.path, loc⟩ :: around) way loc entries

/-- The files below a root. A link at the root leads into a directory in either mode, but to
a file only where links are followed. -/
def files (top : Tree) (dir : Location) (root : Text) (followsLinks : Bool) :
    Except WalkError (List Found) :=
  match Path.find top dir root with
  | .error e => .error (.broken root e)
  | .ok (loc, t) =>
    if followsLinks then visit (enter top dir (dirCount top)) [] ⟨[], root⟩ loc t
    else match t with
      | .dir _ => visit passOver [] ⟨[], root⟩ loc t
      | _ => if Path.isLink top dir root then .ok [] else visit passOver [] ⟨[], root⟩ loc t

end Walk

end CodeNotes
