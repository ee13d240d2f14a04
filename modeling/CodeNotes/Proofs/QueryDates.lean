import CodeNotes.Board
import CodeNotes.Json
import CodeNotes.Proofs.TextParts
import Mathlib.Algebra.Group.Nat.Defs
/-!
The dates that an operator may type. Years, months of a year and days of a month are written in
four, two and two digits with dashes between them, and no other input is a date. Every day of the
years that four digits can write has such a form.
-/
namespace CodeNotes

/-- So many digits and nothing else. -/
def Digits (width : Nat) (t : Text) : Prop :=
  t.length = width ∧ ∀ c ∈ t, isDigit c = true

/-- The last digits of a number, with zeros in front where there are too few. -/
def padded : Nat → Nat → Text
  | 0, _ => []
  | width + 1, n => padded width (n / 10) ++ [Json.digitChar (n % 10)]

theorem digits_padded (width n : Nat) : Digits width (padded width n) := by
  induction width generalizing n with
  | zero => simp [Digits, padded]
  | succ width ih =>
    obtain ⟨hlen, hdig⟩ := ih (n / 10)
    constructor
    · simp [padded, hlen]
    · intro c hc
      rcases List.mem_append.mp hc with hc | hc
      · exact hdig c hc
      · rw [List.mem_singleton.mp hc]
        exact Json.isDigit_digitChar (Nat.mod_lt n (by decide))

/-- A number that has no more digits is written in full. -/
theorem numeral_padded (h : n < 10 ^ width) : numeral (padded width n) = n := by
  induction width generalizing n with
  | zero =>
    obtain rfl : n = 0 := by simpa using h
    rfl
  | succ width ih =>
    have htenth : n / 10 < 10 ^ width := by
      rw [Nat.pow_succ] at h
      omega
    rw [padded, numeral_concat, ih htenth, Json.digitValue_digitChar (Nat.mod_lt n (by decide))]
    omega

theorem Digits.dash_not_mem (h : Digits width t) : '-' ∉ t := by
  intro hm
  exact ne_of_digit (h.2 '-' hm) (by decide) rfl

theorem Digits.splitOn (h : Digits width t) : splitOn '-' t = [t] :=
  splitOn_of_not_mem h.dash_not_mem

namespace Day

/-- The forms of a date in a query with the numbers they stand for. What is left out is 1. -/
inductive Written : Text → Int → Nat → Nat → Prop where
  | year (hy : Digits 4 y) : Written y (numeral y) 1 1
  | month (hy : Digits 4 y) (hm : Digits 2 m) :
      Written (y ++ '-' :: m) (numeral y) (numeral m) 1
  | day (hy : Digits 4 y) (hm : Digits 2 m) (hd : Digits 2 d) :
      Written (y ++ '-' :: m ++ '-' :: d) (numeral y) (numeral m) (numeral d)

/-- A day in full: its year in four digits, its month and its day in two. -/
def text (day : Day) : Text :=
  padded 4 day.year.toNat ++ '-' :: padded 2 day.month ++ '-' :: padded 2 day.day

theorem fixedWidth?_eq_some_iff :
    fixedWidth? width part = some n ↔ Digits width part ∧ numeral part = n := by
  simp only [fixedWidth?, Digits, List.all_eq_true, Option.ite_none_right_eq_some,
    Option.some.injEq]

theorem fixedWidth?_digits (h : Digits width part) : fixedWidth? width part = some (numeral part) :=
  fixedWidth?_eq_some_iff.mpr ⟨h, rfl⟩

/-- The reader takes each of the forms. -/
theorem ofQuery?_of_written (h : Written input y m d) : ofQuery? input = ofParts? y m d := by
  cases h with
  | year hy =>
    rw [ofQuery?, hy.splitOn]
    simp [fixedWidth?_digits hy]
  | month hy hm =>
    rw [ofQuery?, splitOn_append, hy.splitOn, hm.splitOn]
    simp [fixedWidth?_digits hy, fixedWidth?_digits hm]
  | day hy hm hd =>
    rw [ofQuery?, splitOn_append, splitOn_append, hy.splitOn, hm.splitOn, hd.splitOn]
    simp [fixedWidth?_digits hy, fixedWidth?_digits hm, fixedWidth?_digits hd]

/-- It takes nothing else. -/
theorem exists_written {day : Day} (h : ofQuery? input = some day) :
    ∃ y m d, Written input y m d ∧ ofParts? y m d = some day := by
  have hinput := (joinWith_splitOn '-' input).symm
  unfold ofQuery? at h
  split at h
  · next y hs =>
    rw [hs] at hinput
    obtain rfl : input = y := hinput
    simp only [Option.bind_eq_bind, Option.bind_eq_some_iff, fixedWidth?_eq_some_iff] at h
    obtain ⟨-, ⟨hy, rfl⟩, hday⟩ := h
    exact ⟨_, _, _, .year hy, hday⟩
  · next y m hs =>
    obtain rfl : input = y ++ '-' :: m := by simpa [hs, joinWith] using hinput
    simp only [Option.bind_eq_bind, Option.bind_eq_some_iff, fixedWidth?_eq_some_iff] at h
    obtain ⟨-, ⟨hy, rfl⟩, -, ⟨hm, rfl⟩, hday⟩ := h
    exact ⟨_, _, _, .month hy hm, hday⟩
  · next y m d hs =>
    obtain rfl : input = y ++ '-' :: m ++ '-' :: d := by simpa [hs, joinWith] using hinput
    simp only [Option.bind_eq_bind, Option.bind_eq_some_iff, fixedWidth?_eq_some_iff] at h
    obtain ⟨-, ⟨hy, rfl⟩, -, ⟨hm, rfl⟩, -, ⟨hd, rfl⟩, hday⟩ := h
    exact ⟨_, _, _, .day hy hm hd, hday⟩
  · contradiction

theorem ofQuery?_eq_some_iff {day : Day} :
    ofQuery? input = some day ↔ Written input day.year day.month day.day := by
  constructor
  · intro h
    obtain ⟨y, m, d, hwritten, hday⟩ := exists_written h
    obtain ⟨rfl, rfl, rfl⟩ := ofParts?_eq_some_iff.mp hday
    exact hwritten
  · intro h
    rw [ofQuery?_of_written h]
    exact ofParts?_eq_some_iff.mpr ⟨rfl, rfl, rfl⟩

/-- No date is read where there is no form of one, or the calendar does not have it. -/
theorem ofQuery?_eq_none_iff :
    ofQuery? input = none ↔ ∀ y m d, Written input y m d → ¬ OnCalendar y m d := by
  constructor
  · intro h y m d hwritten
    rw [ofQuery?_of_written hwritten] at h
    exact ofParts?_eq_none_iff.mp h
  · intro h
    cases hread : ofQuery? input with
    | none => rfl
    | some day => exact absurd day.onCalendar (h _ _ _ (ofQuery?_eq_some_iff.mp hread))

theorem written_text (day : Day) (hfrom : 0 ≤ day.year) (hto : day.year ≤ 9999) :
    Written day.text day.year day.month day.day := by
  have hwritten := Written.day (digits_padded 4 day.year.toNat) (digits_padded 2 day.month)
    (digits_padded 2 day.day)
  obtain ⟨-, hmonth, -, hday⟩ := day.onCalendar
  have hlength := monthLength_le day.year day.month
  rw [numeral_padded (by omega), numeral_padded (by omega), numeral_padded (by omega),
    Int.toNat_of_nonneg hfrom] at hwritten
  simpa [text] using hwritten

/-- A month or a day that is left out counts as the first. -/
theorem ofQuery?_append_first (h : input.count '-' ≤ 1) :
    ofQuery? (input ++ "-01".toList) = ofQuery? input := by
  have hlen := length_splitOn '-' input
  have hsplit : splitOn '-' (input ++ "-01".toList) = splitOn '-' input ++ [['0', '1']] :=
    splitOn_append '-' input ['0', '1']
  have hfirst : fixedWidth? 2 ['0', '1'] = some 1 := by decide
  unfold ofQuery?
  rw [hsplit]
  match hs : splitOn '-' input with
  | [] => rfl
  | [y] => simp [hfirst]
  | [y, m] => simp [hfirst]
  | _ :: _ :: _ :: _ =>
    rw [hs] at hlen
    simp only [List.length_cons] at hlen
    omega

end Day

namespace Board

/-- The inputs that are dates, what they are answered with, and what the others are answered. -/
theorem dates_of_queries (board : Board) :
    (∀ input day, Day.ofQuery? input = some day ↔
      Day.Written input day.year day.month day.day) ∧
    (∀ input view, board.afterText input = .ok view ↔
      ∃ day : Day, Day.Written input day.year day.month day.day ∧ view = board.after day) ∧
    (∀ input e, board.afterText input = .error e ↔
      (∀ y m d, Day.Written input y m d → ¬ OnCalendar y m d) ∧ e = .invalidDate input) ∧
    (∀ day : Day, 0 ≤ day.year → day.year ≤ 9999 → Day.ofQuery? day.text = some day) ∧
    ∀ input : Text, input.count '-' ≤ 1 →
      Day.ofQuery? (input ++ "-01".toList) = Day.ofQuery? input := by
  refine ⟨fun _ _ => Day.ofQuery?_eq_some_iff, ?_, ?_, ?_, fun _ => Day.ofQuery?_append_first⟩
  · intro input view
    simp only [afterText_eq_ok_iff, Day.ofQuery?_eq_some_iff]
  · intro input e
    rw [afterText_eq_error_iff, Day.ofQuery?_eq_none_iff]
  · intro day hfrom hto
    exact Day.ofQuery?_eq_some_iff.mpr (Day.written_text day hfrom hto)

/-- The leap day of the year 0, the same day in a year that has none, and a year alone. -/
theorem dates_of_queries_leapDay :
    (⟨0, 2, 29, by decide⟩ : Day).text = "0000-02-29".toList ∧
    Day.ofQuery? "0000-02-29".toList = some ⟨0, 2, 29, by decide⟩ ∧
    "2024".toList.count '-' ≤ 1 ∧
    Day.ofQuery? "2024-01".toList = Day.ofQuery? "2024".toList := by
  obtain ⟨-, -, -, hdays, hshort⟩ := dates_of_queries ⟨[]⟩
  have htext : (⟨0, 2, 29, by decide⟩ : Day).text = "0000-02-29".toList := by decide
  have hcount : "2024".toList.count '-' ≤ 1 := by decide
  refine ⟨htext, ?_, hcount, hshort _ hcount⟩
  rw [← htext]
  exact hdays _ (by decide) (by decide)

end Board

end CodeNotes
