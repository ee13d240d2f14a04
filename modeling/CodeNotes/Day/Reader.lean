import CodeNotes.Day
/-!
Two readers of dates. The one for queries takes `YYYY`, `YYYY-MM` and `YYYY-MM-DD` in
exactly these widths. The one for notes is lenient: it takes shorter numbers, blanks
before a number and a sign before the year.
-/
namespace CodeNotes.Day

/-- A number written in exactly `width` digits. -/
def fixedWidth? (width : Nat) (part : Text) : Option Nat :=
  if part.length = width ∧ part.all isDigit then some (numeral part) else none

/-- Parts that are missing count as 1. -/
def ofQuery? (input : Text) : Option Day :=
  match splitOn '-' input with
  | [y] => do ofParts? (← fixedWidth? 4 y) 1 1
  | [y, m] => do ofParts? (← fixedWidth? 4 y) (← fixedWidth? 2 m) 1
  | [y, m, d] => do ofParts? (← fixedWidth? 4 y) (← fixedWidth? 2 m) (← fixedWidth? 2 d)
  | _ => none

/-- A number of at least one digit and, where a limit is given, at most so many; further
digits are left. -/
def digits? (limit : Option Nat) (t : Text) : Option (Nat × Text) :=
  let run := t.takeWhile isDigit
  let taken := match limit with
    | none => run
    | some n => run.take n
  if taken = [] then none else some (numeral taken, t.drop taken.length)

/-- A year has up to four digits, or a sign and any number of them. -/
def year? (t : Text) : Option (Int × Text) :=
  match t with
  | '+' :: r => (digits? none r).map fun (n, r) => (n, r)
  | '-' :: r => (digits? none r).map fun (n, r) => (-n, r)
  | _ => (digits? (some 4) t).map fun (n, r) => (n, r)

/-- The years that a lenient reader takes. -/
def earliestYear : Int := -262143
def latestYear : Int := 262142

/-- The day that a note's date names, if it names one. -/
def ofNote? (token : Text) : Option Day := do
  let (y, r) ← year? (token.dropWhile isBlank)
  let (m, r) ← digits? (some 2) ((← after? ['-'] r).dropWhile isBlank)
  let (d, r) ← digits? (some 2) ((← after? ['-'] r).dropWhile isBlank)
  if r = [] ∧ earliestYear ≤ y ∧ y ≤ latestYear then ofParts? y m d else none

end CodeNotes.Day
