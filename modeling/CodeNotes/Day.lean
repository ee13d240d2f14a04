import CodeNotes.Text
/-!
Days of the proleptic Gregorian calendar. The year 0 exists and is a leap year, as is
every fourth year save those that end a century, unless four hundred divides them.
-/
namespace CodeNotes

def isLeap (year : Int) : Bool :=
  year % 4 == 0 && (year % 100 != 0 || year % 400 == 0)

def monthLength (year : Int) (month : Nat) : Nat :=
  match month with
  | 2 => if isLeap year then 29 else 28
  | 4 | 6 | 9 | 11 => 30
  | _ => 31

/-- The month and the day of month count from one. -/
def OnCalendar (year : Int) (month day : Nat) : Prop :=
  1 ≤ month ∧ month ≤ 12 ∧ 1 ≤ day ∧ day ≤ monthLength year month

instance (year : Int) (month day : Nat) : Decidable (OnCalendar year month day) :=
  inferInstanceAs (Decidable (_ ∧ _))

structure Day where
  year : Int
  month : Nat
  day : Nat
  onCalendar : OnCalendar year month day
  deriving DecidableEq

namespace Day

/-- The day with these numbers, if the calendar has it. -/
def ofParts? (year : Int) (month day : Nat) : Option Day :=
  if h : OnCalendar year month day then some ⟨year, month, day, h⟩ else none

/-- A day's place in a calendar whose months all have 31 days. -/
def rank (d : Day) : Int :=
  d.year * 372 + d.month * 31 + d.day

instance : LE Day := ⟨fun a b => a.rank ≤ b.rank⟩

instance : LT Day := ⟨fun a b => a.rank < b.rank⟩

instance (a b : Day) : Decidable (a ≤ b) :=
  inferInstanceAs (Decidable (a.rank ≤ b.rank))

instance (a b : Day) : Decidable (a < b) :=
  inferInstanceAs (Decidable (a.rank < b.rank))

theorem monthLength_le (y : Int) (m : Nat) : monthLength y m ≤ 31 := by
  unfold monthLength
  split <;> (try split) <;> omega

theorem rank_injective {a b : Day} (h : a.rank = b.rank) : a = b := by
  obtain ⟨y, m, d, hm, hm', hd, hd'⟩ := a
  obtain ⟨y', m', d', em, em', ed, ed'⟩ := b
  have := monthLength_le y m
  have := monthLength_le y' m'
  simp only [rank] at h
  obtain rfl : y = y' := by omega
  obtain rfl : m = m' := by omega
  obtain rfl : d = d' := by omega
  rfl

theorem ofParts?_eq_some_iff {day : Day} :
    ofParts? y m d = some day ↔ day.year = y ∧ day.month = m ∧ day.day = d := by
  unfold ofParts?
  split
  · constructor
    · intro h
      simp only [Option.some.injEq] at h
      simp [← h]
    · rintro ⟨rfl, rfl, rfl⟩
      rfl
  · next h =>
    simp only [reduceCtorEq, false_iff]
    rintro ⟨rfl, rfl, rfl⟩
    exact h day.onCalendar

theorem ofParts?_eq_none_iff : ofParts? y m d = none ↔ ¬ OnCalendar y m d := by
  unfold ofParts?
  split <;> simp_all

end Day

end CodeNotes
