import CodeNotes.Text.Cursor
/-!
The fields of a note's text, `user; YYYY-MM-DD; comment`. Each part may be missing:
the user and the date are then empty, and the comment is the whole text.
-/
namespace CodeNotes.Note

/-- Past a date token `DDDD-DD-DD`, of which only the shape is looked at. -/
def date? (c : Cursor) : Option (Text × Cursor) :=
  match c.rest with
  | y₁ :: y₂ :: y₃ :: y₄ :: '-' :: m₁ :: m₂ :: '-' :: d₁ :: d₂ :: rest =>
    if [y₁, y₂, y₃, y₄, m₁, m₂, d₁, d₂].all isDigit then
      some ([y₁, y₂, y₃, y₄, '-', m₁, m₂, '-', d₁, d₂], ⟨c.offset + 10, rest⟩)
    else none
  | _ => none

/-- Past a group, which is a date token between two semicolons with blanks around it. -/
def group? (c : Cursor) : Option Cursor := do
  let c ← c.expect? [';']
  let (_, c) ← date? c.skipBlank
  c.skipBlank.expect? [';']

/-- The size in bytes of the group that a text begins with. -/
def groupSize? (s : Text) : Option Nat :=
  (group? (Cursor.start s)).map fun c => byteSize s - byteSize c.rest

/-- The text before the first semicolon; without a semicolon there is no user. -/
def user (raw : Text) : Text :=
  if ';' ∈ raw then raw.takeWhile (· ≠ ';') else []

/-- The first date token that stands behind a semicolon and blanks. -/
def date (raw : Text) : Text :=
  ((Cursor.start raw).places ';').findSome? (fun c => (date? (c.skip 1).skipBlank).map (·.1))
    |>.getD []

theorem length_date? (h : date? c = some (token, c')) :
    c'.rest.length + 10 = c.rest.length := by
  unfold date? at h
  split at h
  · next hc =>
    split at h
    · simp only [Option.some.injEq, Prod.mk.injEq] at h
      simp [hc, ← h.2]
    · simp at h
  · simp at h

theorem group?_shorter (h : group? c = some c') : c'.rest.length < c.rest.length := by
  simp only [group?, Option.bind_eq_bind, Option.bind_eq_some_iff] at h
  obtain ⟨c₁, h₁, ⟨token, c₂⟩, h₂, h₃⟩ := h
  have l₁ := (Cursor.reaches_expect? h₁).length_le
  have l₂ := length_date? h₂
  have l₃ := (Cursor.reaches_expect? h₃).length_le
  have l₄ := (Cursor.reaches_skipWhile c₁ isBlank).length_le
  have l₅ := (Cursor.reaches_skipWhile c₂ isBlank).length_le
  simp only [Cursor.skipBlank] at l₂ l₃
  omega

/-- Where the last group ends that a reading from left to right finds. The reading goes
on behind a group, and one character further where a semicolon opens none. -/
def lastGroup (c : Cursor) (last : Option Cursor) : Option Cursor :=
  let semicolon := c.skipWhile (· ≠ ';')
  if _h : semicolon.rest = [] then last
  else match _h : group? semicolon with
    | some tail => lastGroup tail (some tail)
    | none => lastGroup (semicolon.skip 1) last
termination_by c.rest.length
decreasing_by
  · have : semicolon.rest.length ≤ c.rest.length := (Cursor.reaches_skipWhile c _).length_le
    exact Nat.lt_of_lt_of_le (group?_shorter ‹_›) this
  · have : semicolon.rest.length ≤ c.rest.length := (Cursor.reaches_skipWhile c _).length_le
    exact Nat.lt_of_lt_of_le (Cursor.skip_shorter ‹_›) this

/-- What follows the last group, or the whole text where there is no group or only
blanks behind it. -/
def comment (raw : Text) : Text :=
  match lastGroup (Cursor.start raw) none with
  | none => raw
  | some tail => if tail.skipBlank.rest = [] then raw else tail.skipBlank.rest

/-- The number of exclamation marks. -/
def rank (raw : Text) : Nat :=
  raw.count '!'

end CodeNotes.Note
