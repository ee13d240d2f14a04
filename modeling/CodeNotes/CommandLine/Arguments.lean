import CodeNotes.Project
import CodeNotes.Session
import CodeNotes.Text.Terminal
/-!
The arguments of the command line, read from left to right. An option that takes a value
waits for it: the value may be attached, or be the next argument unless that begins with a
dash. The first fault is reported.
-/
namespace CodeNotes.CommandLine

/-- The options that take a value. -/
inductive Valued where
  | root
  | extension
  | includeGlob
  | excludeGlob
  | command
  deriving DecidableEq

inductive Flag where
  | followLinks
  | json
  | verbose
  | quiet
  deriving DecidableEq

/-- What an argument with a dash can name. -/
inductive Switch where
  | valued (v : Valued)
  | flag (f : Flag)
  | help (long : Bool)
  | version
  deriving DecidableEq

/-- The switches by their long names. -/
def longNames : List (Text × Switch) :=
  [("root".toList, .valued .root), ("ext".toList, .valued .extension),
    ("include".toList, .valued .includeGlob), ("exclude".toList, .valued .excludeGlob),
    ("command".toList, .valued .command), ("follow-symlinks".toList, .flag .followLinks),
    ("json".toList, .flag .json), ("verbose".toList, .flag .verbose),
    ("quiet".toList, .flag .quiet), ("help".toList, .help true), ("version".toList, .version)]

/-- The switches by their short names. -/
def shortNames : List (Char × Switch) :=
  [('c', .valued .command), ('v', .flag .verbose), ('q', .flag .quiet), ('h', .help false),
    ('V', .version)]

/-- A switch as messages and the help name it. -/
def Switch.display : Switch → Text
  | .valued .root => "--root <ROOT>".toList
  | .valued .extension => "--ext <EXTENSION>".toList
  | .valued .includeGlob => "--include <INCLUDE_GLOBS>".toList
  | .valued .excludeGlob => "--exclude <EXCLUDE_GLOBS>".toList
  | .valued .command => "--command <COMMANDS>".toList
  | .flag .followLinks => "--follow-symlinks".toList
  | .flag .json => "--json".toList
  | .flag .verbose => "--verbose".toList
  | .flag .quiet => "--quiet".toList
  | .help _ => "--help".toList
  | .version => "--version".toList

inductive UsageError where
  | unexpectedArgument (arg : Text)
  | missingValue (v : Valued)
  | unexpectedValue (value : Text) (s : Switch)
  | repeated (s : Switch)
  | conflict (first second : Flag)
  deriving DecidableEq

/-- Of arguments, messages name what a terminal shows. -/
def UsageError.message : UsageError → Text
  | .unexpectedArgument arg =>
    "error: unexpected argument '".toList ++ Terminal.shown arg ++ "' found".toList
  | .missingValue v =>
    "error: a value is required for '".toList ++ (Switch.valued v).display ++
      "' but none was supplied".toList
  | .unexpectedValue value s =>
    "error: unexpected value '".toList ++ Terminal.shown value ++ "' for '".toList ++
      s.display ++ "' found; no more were expected".toList
  | .repeated s =>
    "error: the argument '".toList ++ s.display ++ "' cannot be used multiple times".toList
  | .conflict first second =>
    "error: the argument '".toList ++ (Switch.flag first).display ++
      "' cannot be used with '".toList ++ (Switch.flag second).display ++ ['\'']

/-- What was given so far, in the order given. -/
structure Given where
  values : List (Valued × Text)
  flags : List Flag
  /-- An option whose value is not taken in yet, or not met yet. -/
  waiting : Option (Valued × Option Text)

/-- What the command line asks for. -/
inductive Request where
  | help (long : Bool)
  | version
  | start (given : Given)

namespace Given

def empty : Given := ⟨[], [], none⟩

def valuesOf (g : Given) (v : Valued) : List Text :=
  (g.values.filter (·.1 = v)).map (·.2)

/-- Whether an option may be given more than once. -/
def mayRepeat : Valued → Bool
  | .root | .extension => false
  | .includeGlob | .excludeGlob | .command => true

/-- Take in a value. The root may not be the empty text. -/
def give (g : Given) (v : Valued) (value : Text) : Except UsageError Given :=
  if !mayRepeat v ∧ g.valuesOf v ≠ [] then .error (.repeated (.valued v))
  else if v = .root ∧ value = [] then .error (.missingValue v)
  else .ok { g with values := g.values ++ [(v, value)] }

/-- Take in the value of the option that waits. -/
def settle (g : Given) : Except UsageError Given :=
  match g.waiting with
  | none => .ok g
  | some (v, none) => .error (.missingValue v)
  | some (v, some value) => give { g with waiting := none } v value

def raise (g : Given) (f : Flag) : Except UsageError Given :=
  if f ∈ g.flags then .error (.repeated (.flag f)) else .ok { g with flags := g.flags ++ [f] }

/-- The end of the arguments, where conflicts are looked for. -/
def finish (g : Given) : Except UsageError Request := do
  let g ← g.settle
  match g.flags.filter (fun f => f = .verbose || f = .quiet) with
  | first :: second :: _ => .error (.conflict first second)
  | _ => .ok (.start g)

/-- Meet a switch, with the value attached to it if there is one. -/
def meet (g : Given) (s : Switch) (attached : Option Text) :
    Except UsageError (Given ⊕ Request) := do
  let g ← g.settle
  match s with
  | .valued v =>
    match attached with
    | none => .ok (.inl { g with waiting := some (v, none) })
    | some value => (g.give v value).map .inl
  | .flag f => (g.raise f).map .inl
  | .help long => .ok (.inr (.help long))
  | .version => .ok (.inr .version)

/-- An argument `--name` or `--name=value`, without its two dashes. -/
def meetLong (g : Given) (arg : Text) : Except UsageError (Given ⊕ Request) :=
  let name := arg.takeWhile (· ≠ '=')
  let attached := if '=' ∈ arg then some (arg.drop (name.length + 1)) else none
  match longNames.find? (·.1 = name), attached with
  | none, _ => .error (.unexpectedArgument ('-' :: '-' :: name))
  | some (_, .valued v), attached => g.meet (.valued v) attached
  | some (_, s), some value => .error (.unexpectedValue value s)
  | some (_, s), none => g.meet s none

/-- A cluster of short names. The rest of it is the value of the first option in it that
takes one; an equals sign before the value does not count. -/
def meetShort (g : Given) : Text → Except UsageError (Given ⊕ Request)
  | [] => .ok (.inl g)
  | c :: r =>
    match shortNames.find? (·.1 = c) with
    | none => .error (.unexpectedArgument ['-', c])
    | some (_, .valued v) =>
      match r with
      | [] => g.meet (.valued v) none
      | '=' :: value => g.meet (.valued v) (some value)
      | value => g.meet (.valued v) (some value)
    | some (_, s) => do
      match ← g.meet s none with
      | .inl g => meetShort g r
      | .inr request => .ok (.inr request)

/-- An argument that names no switch is the value that an option waits for. -/
def meetPlain (g : Given) (arg : Text) : Except UsageError (Given ⊕ Request) :=
  match g.waiting with
  | some (v, none) => .ok (.inl { g with waiting := some (v, some arg) })
  | _ => .error (.unexpectedArgument arg)

def meetArgument (g : Given) (arg : Text) : Except UsageError (Given ⊕ Request) :=
  match arg with
  | '-' :: '-' :: name => g.meetLong name
  | '-' :: c :: cluster => g.meetShort (c :: cluster)
  | _ => g.meetPlain arg

/-- Read all arguments. Behind `--` none has a meaning. -/
def readAll (g : Given) : List Text → Except UsageError Request
  | [] => g.finish
  | ['-', '-'] :: [] => g.finish
  | ['-', '-'] :: arg :: _ => .error (.unexpectedArgument arg)
  | arg :: args => do
    match ← g.meetArgument arg with
    | .inl g => readAll g args
    | .inr request => .ok request

def settings (g : Given) : Settings where
  root := (g.valuesOf .root).head?.getD ['.']
  extension :=
    Settings.trimExtension ((g.valuesOf .extension).head?.getD Settings.defaultExtension)
  includes := g.valuesOf .includeGlob
  excludes := g.valuesOf .excludeGlob
  followsLinks := .followLinks ∈ g.flags

def commands (g : Given) : List Text :=
  g.valuesOf .command

def mode (g : Given) : OutputMode :=
  if .json ∈ g.flags then .json else .table

end Given

/-- What some arguments ask for. -/
def readArguments (args : List Text) : Except UsageError Request :=
  Given.empty.readAll args

end CodeNotes.CommandLine
