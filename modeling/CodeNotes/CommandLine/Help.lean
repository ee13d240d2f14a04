import CodeNotes.CommandLine.Arguments
/-!
The help texts. The short one has a line for each switch; in the long one the description
of a switch stands below its name.
-/
namespace CodeNotes.CommandLine

structure Entry where
  short : Option Char
  switch : Switch
  description : Text
  /-- What is assumed where the option is not given. -/
  default : Option Text

def entries (long : Bool) : List Entry :=
  [⟨none, .valued .root,
      "Directory to scan recursively. Defaults to the current directory".toList, some ['.']⟩,
    ⟨none, .valued .extension, "File extension to scan, without the dot".toList,
      some Settings.defaultExtension⟩,
    ⟨none, .valued .includeGlob,
      "Only scan files whose path relative to the root matches this glob. May be repeated".toList,
      none⟩,
    ⟨none, .valued .excludeGlob,
      ("Skip files matching this glob, in addition to .git, target and node_modules. " ++
        "May be repeated").toList, none⟩,
    ⟨none, .flag .followLinks, "Follow symbolic links while walking the tree".toList, none⟩,
    ⟨none, .flag .json, "Print record lists as JSON instead of a table".toList, none⟩,
    ⟨some 'c', .valued .command,
      ("Run this command and exit instead of reading stdin. May be repeated; " ++
        "commands run in order").toList, none⟩,
    ⟨some 'v', .flag .verbose, "Log scan details to stderr".toList, none⟩,
    ⟨some 'q', .flag .quiet, "Log errors only".toList, none⟩,
    ⟨some 'h', .help true,
      if long then "Print help (see a summary with '-h')".toList
      else "Print help (see more with '--help')".toList, none⟩,
    ⟨some 'V', .version, "Print version".toList, none⟩]

def summary : Text :=
  "Scan source files for TODO annotations and query them interactively".toList

def description : Text :=
  ("Collects every `// TODO` line below the scan root, parses the optional " ++
    "`user; YYYY-MM-DD; comment` fields, and answers the commands show, important, " ++
    "user <name>, sort <importance|user|date>, date <yyyy[-mm[-dd]]> and exit.").toList

def Entry.name (e : Entry) : Text :=
  match e.short with
  | some c => [' ', ' ', '-', c, ',', ' '] ++ e.switch.display
  | none => List.replicate 6 ' ' ++ e.switch.display

def Entry.defaultNote (e : Entry) : Option Text :=
  e.default.map fun value => "[default: ".toList ++ value ++ [']']

/-- One line, with the description in a column of its own. -/
def Entry.shortLines (column : Nat) (e : Entry) : Text :=
  let note := match e.defaultNote with
    | some note => ' ' :: note
    | none => []
  Layout.pad e.name column ++ e.description ++ note ++ ['\n']

/-- The name, and below it the description. -/
def Entry.longLines (e : Entry) : Text :=
  let indent := List.replicate 10 ' '
  let note := match e.defaultNote with
    | some note => indent ++ ['\n'] ++ indent ++ note ++ ['\n']
    | none => []
  e.name ++ ['\n'] ++ indent ++ e.description ++ ['\n'] ++ note

def helpText (long : Bool) : Text :=
  let es := entries long
  let column := (es.map (·.name.length)).foldl max 0 + 2
  let body :=
    if long then joinWith ['\n'] (es.map Entry.longLines)
    else (es.map (Entry.shortLines column)).flatten
  (if long then description else summary) ++
    "\n\nUsage: todos [OPTIONS]\n\nOptions:\n".toList ++ body

def versionText : Text :=
  "todos 0.1.0\n".toList

end CodeNotes.CommandLine
