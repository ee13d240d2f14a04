import CodeNotes.Glob
/-!
Globs as regular expressions over bytes. A list of globs is put together from their
expressions, which may be nested only to a limit.

Some globs need no expression: those that fix how a path begins or how it ends. Those that
fix its last name are put together by themselves, and their expressions are never deep.
Those that fix its extension are tested one by one. All others share one set and are
numbered in it.
-/
namespace CodeNotes.Glob

/-- The kinds of expression that globs need. -/
inductive Expression where
  /-- One byte. -/
  | single (text : Text)
  /-- One byte with a sign behind it that repeats it. -/
  | repeated (text : Text)
  /-- A class of bytes with so many members. -/
  | bracket (text : Text) (members : Nat)
  | group (branches : List (List Expression))

namespace Expression

mutual

def text : Expression → Text
  | .single t => t
  | .repeated t => t
  | .bracket t _ => t
  | .group branches => "(?:".toList ++ branchesText branches ++ [')']

def sequenceText : List Expression → Text
  | [] => []
  | e :: es => e.text ++ sequenceText es

def branchesText : List (List Expression) → Text
  | [] => []
  | [es] => sequenceText es
  | es :: branches => sequenceText es ++ '|' :: branchesText branches

end

/-- Several things side by side are one level more than the deepest of them. -/
def together : List Nat → Nat
  | [] => 0
  | [depth] => depth
  | depths => depths.foldl max 0 + 1

mutual

/-- How many levels of expressions there are below the top one. -/
def depth : Expression → Nat
  | .single _ => 0
  | .repeated _ => 1
  | .bracket _ members => if members ≤ 1 then 1 else 2
  | .group branches => together (branchDepths branches) + 1

def depths : List Expression → List Nat
  | [] => []
  | e :: es => e.depth :: depths es

def branchDepths : List (List Expression) → List Nat
  | [] => []
  | es :: branches => together (depths es) :: branchDepths branches

end

/-- The characters with a meaning in expressions. -/
def signs : Text := "\\.+*?()|[]\x7b\x7d^$#&-~".toList

/-- A byte as itself, escaped if it is a sign, or in base sixteen. -/
def byteText (b : UInt8) : Text :=
  if b ≤ 0x7F then
    let c := Char.ofNat b.toNat
    if c ∈ signs then ['\\', c] else [c]
  else
    ['\\', 'x', Nat.digitChar (b.toNat / 16), Nat.digitChar (b.toNat % 16)]

def byte (b : UInt8) : Expression :=
  .single (byteText b)

def charText (c : Char) : Text :=
  (String.utf8EncodeChar c).flatMap byteText

def slash : Expression := .single ['/']

def anyRun : Expression := .repeated ['.', '*']

def rangeText (range : Char × Char) : Text :=
  if range.1 = range.2 then charText range.1
  else charText range.1 ++ '-' :: charText range.2

/-- Two bytes with a dash between them are one member, and any other byte is one. -/
def rangeMembers (range : Char × Char) : Nat :=
  if range.1 = range.2 then range.1.utf8Size
  else range.1.utf8Size + range.2.utf8Size - 1

def ofRanges (negated : Bool) (ranges : List (Char × Char)) : Expression :=
  .bracket ((if negated then ['[', '^'] else ['[']) ++ ranges.flatMap rangeText ++ [']'])
    (ranges.foldr (fun range n => rangeMembers range + n) 0)

end Expression

mutual

def Token.expressions : Token → List Expression
  | .literal c => (String.utf8EncodeChar c).map .byte
  | .any => [.single ['.']]
  | .anyRun => [.anyRun]
  | .leading => [.group [[.repeated ['/', '?']], [.anyRun, .slash]]]
  | .trailing => [.slash, .anyRun]
  | .between => [.group [[.slash], [.slash, .anyRun, .slash]]]
  | .oneOf negated ranges => [.ofRanges negated ranges]
  | .choice branches =>
    match branchExpressions branches with
    | [] => []
    | branches => [.group branches]

def expressions : List Token → List Expression
  | [] => []
  | t :: ts => t.expressions ++ expressions ts

/-- Branches without an expression are left out. -/
def branchExpressions : List (List Token) → List (List Expression)
  | [] => []
  | ts :: branches =>
    match expressions ts with
    | [] => branchExpressions branches
    | es => es :: branchExpressions branches

end

def Token.literal? : Token → Option Char
  | .literal c => some c
  | _ => none

def isLiteral (t : Token) : Bool :=
  t.literal?.isSome

/-- Whether the tokens fix how a path begins, and nothing else. -/
def fixesStart (ts : List Token) : Bool :=
  match ts.reverse with
  | [] => false
  | .trailing :: before => before.all isLiteral
  | .anyRun :: before => !before.isEmpty && before.all isLiteral
  | ts => ts.all isLiteral

/-- Whether the tokens fix how a path ends, and nothing else. A slash at the end alone does
not count. -/
def fixesEnd (ts : List Token) : Bool :=
  match ts with
  | .leading :: .anyRun :: behind => isTail behind
  | .anyRun :: behind => isTail behind
  | .leading :: behind => !behind.isEmpty && behind.all isLiteral
  | _ => false
where
  isTail (ts : List Token) : Bool :=
    match ts.mapM Token.literal? with
    | none => false
    | some t => t ≠ [] && t ≠ ['/']

/-- Whether a token stands for one character that is no slash. -/
def staysInName : Token → Bool
  | .literal c => c ≠ '/'
  | .oneOf negated ranges => ranges.any (fun r => r.1 ≤ '/' && '/' ≤ r.2) = negated
  | _ => false

/-- Whether the tokens fix the last name of a path by its characters, and nothing else. -/
def fixesName : List Token → Bool
  | .leading :: behind => !behind.isEmpty && behind.all staysInName
  | _ => false

/-- Whether the tokens end with a dot and further literals of the same name. -/
def fixesExtension (ts : List Token) : Bool :=
  let isInside (t : Token) : Bool := t.literal?.any fun c => c ≠ '.' && c ≠ '/'
  (ts.reverse.dropWhile isInside).head?.bind Token.literal? = some '.'

end CodeNotes.Glob

namespace CodeNotes

namespace Glob

/-- The expression of the whole path, with its start and its end. -/
def expressionText (glob : Glob) : Text :=
  "(?-u)^".toList ++ Expression.sequenceText (expressions glob.tokens) ++ ['$']

def nestingLimit : Nat := 250

def isTooDeep (glob : Glob) : Bool :=
  nestingLimit < (Expression.depths (expressions glob.tokens)).foldl max 0 + 1

/-- Whether the expression of a glob is one of a set. -/
def isShared (glob : Glob) : Bool :=
  !fixesStart glob.tokens && !fixesEnd glob.tokens && !fixesName glob.tokens &&
    !fixesExtension glob.tokens

/-- Why a list of globs cannot be put together. -/
inductive NestingFault where
  /-- An expression that is tested alone is nested too deeply. -/
  | alone (expression : Text)
  /-- The expression with this number in the set is nested too deeply. -/
  | shared (number : Nat)
  deriving DecidableEq

def NestingFault.message : NestingFault → Text
  | .alone expression =>
    "error parsing glob '".toList ++ expression ++ "': error parsing pattern 0".toList
  | .shared number => "error parsing pattern ".toList ++ (toString number).toList

/-- The expressions that are tested alone are put together before the set. -/
def nestingFault? (globs : List Glob) : Option NestingFault :=
  match globs.find? fun glob => fixesExtension glob.tokens && glob.isTooDeep with
  | some glob => some (.alone glob.expressionText)
  | none => ((globs.filter isShared).findIdx? isTooDeep).map .shared

end Glob

end CodeNotes
