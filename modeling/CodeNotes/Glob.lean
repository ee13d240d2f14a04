import CodeNotes.Text
/-!
Globs are patterns for paths. This module reads them; where two readings of a pattern
seem possible, the earlier characters decide.
-/
namespace CodeNotes.Glob

inductive Token where
  | literal (c : Char)
  /-- Any one byte. -/
  | any
  /-- Any bytes. -/
  | anyRun
  /-- Nothing, or whatever ends with a slash. -/
  | leading
  /-- A slash and any bytes. -/
  | trailing
  /-- A slash, or any bytes between two slashes. -/
  | between
  | oneOf (negated : Bool) (ranges : List (Char × Char))
  | choice (branches : List (List Token))

inductive Fault where
  | unclosedClass
  | invalidRange (low high : Char)
  | unopenedChoice
  | unclosedChoice
  | danglingEscape
  deriving DecidableEq

def Fault.message : Fault → Text
  | .unclosedClass => "unclosed character class; missing ']'".toList
  | .invalidRange low high =>
    "invalid range; '".toList ++ [low] ++ "' > '".toList ++ [high] ++ "'".toList
  | .unopenedChoice =>
    "unopened alternate group; missing '\x7b' (maybe escape '\x7d' with '[\x7d]'?)".toList
  | .unclosedChoice =>
    "unclosed alternate group; missing '\x7d' (maybe escape '\x7b' with '[\x7b]'?)".toList
  | .danglingEscape => "dangling '\\'".toList

/-- A branch that is being read, and the finished branches before it. Both lists have
their newest member first. -/
structure Branch where
  tokens : List Token
  finished : List (List Token)

/-- The innermost branch, and around it one branch for each group that is open. -/
structure Partial where
  inner : Branch
  outer : List Branch

namespace Partial

def start : Partial := ⟨⟨[], []⟩, []⟩

def inGroup (p : Partial) : Bool :=
  !p.outer.isEmpty

def push (p : Partial) (t : Token) : Partial :=
  { p with inner := { p.inner with tokens := t :: p.inner.tokens } }

def openGroup (p : Partial) : Partial :=
  ⟨⟨[], []⟩, p.inner :: p.outer⟩

def nextBranch (p : Partial) : Partial :=
  { p with inner := ⟨[], p.inner.tokens.reverse :: p.inner.finished⟩ }

/-- A group that is closed becomes a token of the branch around it. -/
def closeGroup? (p : Partial) : Option Partial :=
  match p.outer with
  | [] => none
  | around :: outer =>
    let branches := (p.inner.tokens.reverse :: p.inner.finished).reverse
    some (push ⟨around, outer⟩ (.choice branches))

/-- Put a token in the place of the last one, unless that already takes any directories. -/
def replaceLast (p : Partial) (t : Token) : Partial :=
  match p.inner.tokens with
  | .leading :: _ => p
  | .trailing :: _ => p
  | tokens => { p with inner := { p.inner with tokens := t :: tokens.drop 1 } }

/-- What two stars make of the tokens before them, where they stand for directories:
between slashes, or at an end of the pattern or of its branch. -/
def directories? (p : Partial) (before behind : Option Char) : Option Partial :=
  if p.inner.tokens.isEmpty then
    if behind = none ∨ behind = some '/' then some (p.push .leading) else none
  else if before ≠ some '/' ∧ ¬ (p.inGroup ∧ (before = some ',' ∨ before = some '\x7b')) then none
  else if behind = none ∨ (p.inGroup ∧ (behind = some ',' ∨ behind = some '\x7d')) then
    some (p.replaceLast .trailing)
  else if behind = some '/' then some (p.replaceLast .between)
  else none

end Partial

/-- A class of bytes that is being read, its newest range first. -/
structure PartialClass where
  negated : Bool
  ranges : List (Char × Char)
  /-- A dash was met behind the newest range. -/
  dashed : Bool

namespace PartialClass

def start (negated : Bool) : PartialClass := ⟨negated, [], false⟩

def add (k : PartialClass) (c : Char) : PartialClass :=
  { k with ranges := (c, c) :: k.ranges }

/-- The end of a range whose dash was met. -/
def extend (k : PartialClass) (c : Char) : Except Fault PartialClass :=
  match k.ranges with
  | [] => .ok (k.add c)
  | (low, _) :: ranges =>
    if c < low then .error (.invalidRange low c)
    else .ok { k with ranges := (low, c) :: ranges, dashed := false }

/-- A dash that was met last is a member. -/
def token (k : PartialClass) : Token :=
  .oneOf k.negated (if k.dashed then k.add '-' else k).ranges.reverse

end PartialClass

mutual

/-- Read on from a point of a pattern; `before` is the character there. -/
def read (p : Partial) (before : Option Char) : Text → Except Fault (List Token)
  | [] => if p.inGroup then .error .unclosedChoice else .ok p.inner.tokens.reverse
  | '?' :: r => read (p.push .any) '?' r
  | '*' :: '*' :: r =>
    match p.directories? before r.head? with
    | none => read ((p.push .anyRun).push .anyRun) '*' r
    | some p =>
      match r with
      | '/' :: r => read p '/' r
      | r => read p '*' r
  | '*' :: r => read (p.push .anyRun) '*' r
  | '[' :: '!' :: r => readClass p (.start true) true r
  | '[' :: '^' :: r => readClass p (.start true) true r
  | '[' :: r => readClass p (.start false) true r
  | '\x7b' :: r => read p.openGroup '\x7b' r
  | '\x7d' :: r =>
    match p.closeGroup? with
    | none => .error .unopenedChoice
    | some p => read p '\x7d' r
  | ',' :: r => read (if p.inGroup then p.nextBranch else p.push (.literal ',')) ',' r
  | '\\' :: [] => .error .danglingEscape
  | '\\' :: c :: r => read (p.push (.literal c)) c r
  | c :: r => read (p.push (.literal c)) c r

/-- Read on inside a class. The first member may be a closing bracket or a dash. -/
def readClass (p : Partial) (k : PartialClass) (isFirst : Bool) :
    Text → Except Fault (List Token)
  | [] => .error .unclosedClass
  | c :: r =>
    if isFirst then readClass p (k.add c) false r
    else if c = ']' then read (p.push k.token) ']' r
    else if k.dashed then
      match k.extend c with
      | .error fault => .error fault
      | .ok k => readClass p k false r
    else if c = '-' then readClass p { k with dashed := true } false r
    else readClass p (k.add c) false r

end

end CodeNotes.Glob

namespace CodeNotes

structure Glob where
  tokens : List Glob.Token

def Glob.ofText (pattern : Text) : Except Glob.Fault Glob :=
  (Glob.read .start none pattern).map Glob.mk

end CodeNotes
