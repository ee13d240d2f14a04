/-!
Texts are lists of characters. This module measures them in UTF-8 bytes and knows
the blank characters and the line terminators.
-/
namespace CodeNotes

abbrev Text := List Char

/-- Bytes of the UTF-8 form. -/
def byteSize (t : Text) : Nat :=
  t.foldr (fun c n => c.utf8Size + n) 0

/-- The Unicode property White_Space. -/
def isBlank (c : Char) : Bool :=
  let n := c.toNat
  (0x9 ≤ n && n ≤ 0xD) || n == 0x20 || n == 0x85 || n == 0xA0 || n == 0x1680 ||
    (0x2000 ≤ n && n ≤ 0x200A) || n == 0x2028 || n == 0x2029 || n == 0x202F ||
    n == 0x205F || n == 0x3000

/-- The ten digits of ASCII and no others. -/
def isDigit (c : Char) : Bool :=
  '0' ≤ c && c ≤ '9'

/-- Line feed, carriage return and the two Unicode separators of lines and paragraphs. -/
def isTerminator (c : Char) : Bool :=
  c == '\n' || c == '\r' || c == '\u2028' || c == '\u2029'

def digitValue (c : Char) : Nat :=
  c.toNat - '0'.toNat

/-- The number that a run of digits writes in base ten. -/
def numeral (ds : Text) : Nat :=
  ds.foldl (fun n c => n * 10 + digitValue c) 0

/-- Cut at every separator; `n` separators give `n + 1` parts. -/
def splitOn (sep : Char) : Text → List Text
  | [] => [[]]
  | c :: r =>
    if c = sep then [] :: splitOn sep r
    else match splitOn sep r with
      | [] => [[c]]
      | part :: parts => (c :: part) :: parts

/-- Join parts with a separator between neighbours. -/
def joinWith (sep : Text) : List Text → Text
  | [] => []
  | [part] => part
  | part :: parts => part ++ sep ++ joinWith sep parts

/-- What follows `lit` where a list begins with it. -/
def after? [DecidableEq α] : List α → List α → Option (List α)
  | [], t => some t
  | _ :: _, [] => none
  | a :: lit, c :: t => if a = c then after? lit t else none

theorem byteSize_nil : byteSize [] = 0 := rfl

theorem byteSize_cons : byteSize (c :: t) = c.utf8Size + byteSize t := rfl

theorem byteSize_append : byteSize (s ++ t) = byteSize s + byteSize t := by
  induction s with
  | nil => simp [byteSize_nil]
  | cons c s ih => rw [List.cons_append, byteSize_cons, byteSize_cons, ih, Nat.add_assoc]

theorem numeral_concat (ds : Text) (c : Char) :
    numeral (ds ++ [c]) = numeral ds * 10 + digitValue c := by
  simp [numeral]

theorem digit_range (h : isDigit c = true) : 48 ≤ c.toNat ∧ c.toNat ≤ 57 := by
  simp only [isDigit, Bool.and_eq_true, decide_eq_true_eq, Char.le_def, UInt32.le_iff_toNat_le] at h
  exact h

theorem ne_of_digit (hc : isDigit c = true) (hd : isDigit d = false) : c ≠ d := by
  rintro rfl
  rw [hc] at hd
  contradiction

theorem digit_not_blank (h : isDigit c = true) : isBlank c = false := by
  have hr := digit_range h
  simp only [isBlank, Bool.or_eq_false_iff, Bool.and_eq_false_iff, decide_eq_false_iff_not,
    beq_eq_false_iff_ne]
  omega

theorem digit_size (h : isDigit c = true) : c.utf8Size = 1 := by
  have hr := digit_range h
  rw [Char.utf8Size_eq_one_iff, UInt32.le_iff_toNat_le]
  exact Nat.le_trans hr.2 (by decide)

theorem terminator_blank (h : isTerminator c = true) : isBlank c = true := by
  simp only [isTerminator, Bool.or_eq_true, beq_iff_eq] at h
  rcases h with ((rfl | rfl) | rfl) | rfl <;> decide

theorem after?_eq_some_iff [DecidableEq α] {lit t rest : List α} :
    after? lit t = some rest ↔ t = lit ++ rest := by
  induction lit generalizing t with
  | nil => simp [after?]
  | cons a lit ih =>
    cases t with
    | nil => simp [after?]
    | cons c t =>
      by_cases h : a = c
      · subst h
        simp [after?, ih]
      · simp [after?, h, Ne.symm h]

end CodeNotes
