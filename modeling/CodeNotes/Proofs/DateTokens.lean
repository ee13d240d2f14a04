import CodeNotes.Proofs.LeftmostReading
import CodeNotes.Task
import Mathlib.Algebra.Group.Nat.Defs
/-!
The day that a date token names. The reader of days is lenient, but on a token of the shape
that notes have it reads the three numbers as they stand: such a token names a day just if
the calendar has one with these numbers.
-/
namespace CodeNotes

theorem numeral_lt (h : ∀ c ∈ ds, isDigit c = true) : numeral ds < 10 ^ ds.length := by
  have hfold : ∀ (ds : Text) (n : Nat), (∀ c ∈ ds, isDigit c = true) →
      ds.foldl (fun n c => n * 10 + digitValue c) n < (n + 1) * 10 ^ ds.length := by
    intro ds
    induction ds with
    | nil => simp
    | cons c ds ih =>
      intro n hd
      have hc := digit_range (hd c (by simp))
      have hv : digitValue c ≤ 9 := by
        have hz : '0'.toNat = 48 := rfl
        rw [digitValue, hz]
        omega
      calc (c :: ds).foldl (fun n c => n * 10 + digitValue c) n
          < (n * 10 + digitValue c + 1) * 10 ^ ds.length :=
            ih _ (fun d hd' => hd d (by simp [hd']))
        _ ≤ ((n + 1) * 10) * 10 ^ ds.length := Nat.mul_le_mul_right _ (by omega)
        _ = (n + 1) * 10 ^ (c :: ds).length := by
            rw [List.length_cons, Nat.pow_succ, Nat.mul_assoc, Nat.mul_comm 10]
  simpa [numeral] using hfold ds 0 h

namespace Day

/-- A run of digits is taken whole where something else ends it. -/
theorem digits?_run (hds : ∀ c ∈ ds, isDigit c = true) (hne : ds ≠ [])
    (hend : ∀ c ∈ rest.head?, isDigit c = false) (hlen : ds.length ≤ limit) :
    digits? (some limit) (ds ++ rest) = some (numeral ds, rest) := by
  have htake : (ds ++ rest).takeWhile isDigit = ds := by
    rw [List.takeWhile_append_of_pos hds]
    cases rest with
    | nil => simp
    | cons c rest => simp [hend c rfl]
  simp only [digits?, htake, List.take_of_length_le hlen, hne, ↓reduceIte, List.drop_left]

theorem dropWhile_digits (hds : ∀ c ∈ ds, isDigit c = true) (hne : ds ≠ []) (rest : Text) :
    (ds ++ rest).dropWhile isBlank = ds ++ rest := by
  cases ds with
  | nil => exact absurd rfl hne
  | cons c ds => exact List.dropWhile_cons_of_neg (by simp [digit_not_blank (hds c (by simp))])

/-- A year without a sign. -/
theorem year?_digits (hds : ∀ c ∈ ds, isDigit c = true) (hne : ds ≠ []) (rest : Text) :
    year? (ds ++ rest) = (digits? (some 4) (ds ++ rest)).map fun (n, r) => ((n : Int), r) := by
  cases ds with
  | nil => exact absurd rfl hne
  | cons c ds =>
    have hc := hds c (by simp)
    rw [List.cons_append, year?]
    · simp [ne_of_digit hc (show isDigit '+' = false by decide)]
    · simp [ne_of_digit hc (show isDigit '-' = false by decide)]

/-- On the tokens that notes have the lenient reader takes the numbers as they stand. -/
theorem ofNote?_token (hy : y.length = 4) (hm : m.length = 2) (hd : d.length = 2)
    (hdig : ∀ c ∈ y ++ m ++ d, isDigit c = true) :
    ofNote? (y ++ '-' :: m ++ '-' :: d) = ofParts? (numeral y) (numeral m) (numeral d) := by
  have hydig : ∀ c ∈ y, isDigit c = true := fun c hc => hdig c (by simp [hc])
  have hmdig : ∀ c ∈ m, isDigit c = true := fun c hc => hdig c (by simp [hc])
  have hddig : ∀ c ∈ d, isDigit c = true := fun c hc => hdig c (by simp [hc])
  have hyne : y ≠ [] := List.ne_nil_of_length_pos (by omega)
  have hmne : m ≠ [] := List.ne_nil_of_length_pos (by omega)
  have hdne : d ≠ [] := List.ne_nil_of_length_pos (by omega)
  have hdash : ∀ (r : Text), ∀ c ∈ ('-' :: r).head?, isDigit c = false := by
    intro r c hc
    obtain rfl := Option.some.inj hc
    decide
  have hsplit : y ++ '-' :: m ++ '-' :: d = y ++ '-' :: (m ++ '-' :: d) := by simp
  have hday : digits? (some 2) (d ++ []) = some (numeral d, []) :=
    digits?_run hddig hdne (by simp) (Nat.le_of_eq hd)
  have hdrop : d.dropWhile isBlank = d := by
    simpa using dropWhile_digits hddig hdne []
  have hrange : earliestYear ≤ (numeral y : Int) ∧ (numeral y : Int) ≤ latestYear := by
    have := numeral_lt hydig
    rw [hy] at this
    simp only [earliestYear, latestYear]
    omega
  rw [hsplit, ofNote?, dropWhile_digits hydig hyne, year?_digits hydig hyne,
    digits?_run hydig hyne (hdash _) (Nat.le_of_eq hy)]
  rw [List.append_nil] at hday
  simp only [Option.map_some, Option.bind_eq_bind, Option.bind_some, after?, ↓reduceIte]
  rw [dropWhile_digits hmdig hmne, digits?_run hmdig hmne (hdash _) (Nat.le_of_eq hm)]
  simp only [Option.bind_some, after?, ↓reduceIte, hdrop, hday, hrange, and_self]

end Day

/-- Four, two and two digits whose numbers are those of no day. -/
def NoSuchDay (token : Text) : Prop :=
  ∃ y m d, token = y ++ '-' :: m ++ '-' :: d ∧ y.length = 4 ∧ m.length = 2 ∧ d.length = 2 ∧
    (∀ c ∈ y ++ m ++ d, isDigit c = true) ∧
    ¬ OnCalendar (numeral y) (numeral m) (numeral d)

theorem Note.date_shape (raw : Text) : date raw = [] ∨ IsDate (date raw) := by
  by_cases h : date raw = []
  · exact .inl h
  · obtain ⟨s, t, -, ⟨w, rest, -, -, hdate⟩, -⟩ := firstDate_iff.mpr ⟨rfl, h⟩
    exact .inr hdate

/-- A task read from a note has no day if it has no date, or one that the calendar lacks. -/
theorem Task.day?_eq_none_iff (note : Note) :
    (Task.ofNote note).day? = none ↔
      (Task.ofNote note).date = [] ∨ NoSuchDay (Task.ofNote note).date := by
  have hshape : (ofNote note).date = [] ∨ Note.IsDate (ofNote note).date :=
    Note.date_shape note.text
  rw [day?]
  generalize (ofNote note).date = token at hshape
  rcases hshape with rfl | ⟨y, m, d, rfl, hy, hm, hd, hdig⟩
  · exact iff_of_true rfl (.inl rfl)
  · rw [Day.ofNote?_token hy hm hd hdig, Day.ofParts?_eq_none_iff]
    constructor
    · intro h
      exact .inr ⟨y, m, d, rfl, hy, hm, hd, hdig, h⟩
    · rintro (h | ⟨y', m', d', he, hy', hm', hd', -, h⟩)
      · simp at h
      · obtain ⟨hleft, hday⟩ := List.append_inj he (by simp [hy, hm, hy', hm'])
        obtain ⟨rfl, hmonth⟩ := List.append_inj hleft (by rw [hy, hy'])
        obtain rfl := (List.cons.inj hmonth).2
        obtain rfl := (List.cons.inj hday).2
        exact h

end CodeNotes
