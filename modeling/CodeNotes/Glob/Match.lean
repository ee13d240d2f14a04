import CodeNotes.Glob
import CodeNotes.Text.Utf8
/-!
What globs match. A glob matches the bytes of a whole path, and no token treats the
slash differently from other bytes unless it is about directories.

All readings of a glob are followed at once: what tokens can stand for ends at some places
of the path, and each further token moves these places on.
-/
namespace CodeNotes.Glob

/-- A set of places in a path: one before each byte, and one behind the last. -/
abbrev Places := List Bool

namespace Places

def start (path : List UInt8) : Places :=
  true :: path.map fun _ => false

/-- The places behind one byte more, which has to pass a test. -/
def step (path : List UInt8) (passes : UInt8 → Bool) (s : Places) : Places :=
  false :: List.zipWith (fun here b => here && passes b) s path

def union (s t : Places) : Places :=
  List.zipWith (· || ·) s t

/-- All places from the first one on. -/
def onward : Places → Places
  | [] => []
  | true :: s => true :: s.map fun _ => true
  | false :: s => false :: onward s

/-- Whether the end of the path is among the places. -/
def atEnd (s : Places) : Bool :=
  s.getLast? = some true

theorem length_start (path : List UInt8) : (start path).length = path.length + 1 := by
  simp [start]

theorem length_step {s : Places} (path : List UInt8) (passes : UInt8 → Bool)
    (h : s.length = path.length + 1) : (step path passes s).length = s.length := by
  simp [step, h]

theorem length_union {s t : Places} (h : s.length = t.length) :
    (s.union t).length = s.length := by
  simp [union, h]

theorem length_onward (s : Places) : s.onward.length = s.length := by
  fun_induction onward s with
  | case1 => rfl
  | case2 s => simp
  | case3 s ih => simp [ih]

end Places

def slash : UInt8 := 0x2F

/-- The bytes that a range of characters gives to a class. In a range between different
characters only the last byte of the lower and the first byte of the higher one are ends
of a range of bytes; their other bytes stand for themselves. -/
def inRange (b : UInt8) (range : Char × Char) : Bool :=
  let low := String.utf8EncodeChar range.1
  let high := String.utf8EncodeChar range.2
  if range.1 = range.2 then low.contains b
  else
    low.dropLast.contains b || high.tail.contains b ||
      (low.getLast?.any (· ≤ b) && high.head?.any (b ≤ ·))

mutual

/-- Tokens that stand for nothing, which only choices without branches do. -/
def Token.isVoid : Token → Bool
  | .choice branches => allVoid branches
  | _ => false

def isVoid : List Token → Bool
  | [] => true
  | t :: ts => t.isVoid && isVoid ts

def allVoid : List (List Token) → Bool
  | [] => true
  | ts :: branches => isVoid ts && allVoid branches

end

mutual

/-- Where a token ends that begins at some places. -/
def Token.move (path : List UInt8) (s : Places) : Token → Places
  | .literal c => (String.utf8EncodeChar c).foldl (fun s b => s.step path (· = b)) s
  | .any => s.step path fun _ => true
  | .anyRun => s.onward
  | .leading => s.union (s.onward.step path (· = slash))
  | .trailing => (s.step path (· = slash)).onward
  | .between =>
    let behind := s.step path (· = slash)
    behind.union (behind.onward.step path (· = slash))
  | .oneOf negated ranges => s.step path fun b => ranges.any (inRange b) != negated
  | .choice branches => if allVoid branches then s else moveAny path s branches

def move (path : List UInt8) (s : Places) : List Token → Places
  | [] => s
  | t :: ts => move path (t.move path s) ts

/-- Where some branch ends. Branches that stand for nothing do not take part. -/
def moveAny (path : List UInt8) (s : Places) : List (List Token) → Places
  | [] => s.map fun _ => false
  | ts :: branches =>
    let others := moveAny path s branches
    if isVoid ts then others else (move path s ts).union others

end

end CodeNotes.Glob

namespace CodeNotes

/-- Two stars alone match every path. -/
def Glob.matches (glob : Glob) (path : Text) : Bool :=
  match glob.tokens with
  | [.leading] => true
  | tokens =>
    let bytes := Utf8.encode path
    (Glob.move bytes (.start bytes) tokens).atEnd

end CodeNotes
