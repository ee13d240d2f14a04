import CodeNotes.Text
/-!
A cursor is a place in a text: the number of bytes before it and the characters from
it on. Readers move it forward only, so what they pass and what they leave make up
the text they were given.
-/
namespace CodeNotes

structure Cursor where
  offset : Nat
  rest : Text
  deriving DecidableEq

namespace Cursor

def start (t : Text) : Cursor :=
  ⟨0, t⟩

/-- Past the first `n` characters. -/
def skip (c : Cursor) (n : Nat) : Cursor :=
  ⟨c.offset + byteSize (c.rest.take n), c.rest.drop n⟩

/-- Past the leading characters of a class. -/
def skipWhile (p : Char → Bool) (c : Cursor) : Cursor :=
  ⟨c.offset + byteSize (c.rest.takeWhile p), c.rest.dropWhile p⟩

def skipBlank (c : Cursor) : Cursor :=
  c.skipWhile isBlank

/-- Past a literal text that stands here. -/
def expect? (lit : Text) (c : Cursor) : Option Cursor :=
  (after? lit c.rest).map fun rest => ⟨c.offset + byteSize lit, rest⟩

/-- At the first place, from here on, where a literal text stands. -/
def find? (lit : Text) (c : Cursor) : Option Cursor :=
  go c.offset c.rest
where
  go (offset : Nat) : Text → Option Cursor
    | [] => none
    | x :: r =>
      if (after? lit (x :: r)).isSome then some ⟨offset, x :: r⟩
      else go (offset + x.utf8Size) r

/-- The places, from here on, of one character. -/
def places (x : Char) (c : Cursor) : List Cursor :=
  go c.offset c.rest
where
  go (offset : Nat) : Text → List Cursor
    | [] => []
    | y :: r =>
      if y = x then ⟨offset, y :: r⟩ :: go (offset + y.utf8Size) r
      else go (offset + y.utf8Size) r

/-- Passing over some characters leads from `c` to `c'`. -/
def Reaches (c c' : Cursor) : Prop :=
  ∃ passed, c.rest = passed ++ c'.rest ∧ c'.offset = c.offset + byteSize passed

theorem Reaches.refl (c : Cursor) : Reaches c c :=
  ⟨[], by simp, by simp [byteSize_nil]⟩

theorem Reaches.trans (h : Reaches a b) (h' : Reaches b c) : Reaches a c := by
  obtain ⟨s, hs, ho⟩ := h
  obtain ⟨t, ht, ho'⟩ := h'
  exact ⟨s ++ t, by simp [hs, ht], by rw [ho', ho, byteSize_append]; omega⟩

theorem Reaches.length_le (h : Reaches c c') : c'.rest.length ≤ c.rest.length := by
  obtain ⟨s, hs, _⟩ := h
  simp [hs]

theorem reaches_skip (c : Cursor) (n : Nat) : Reaches c (c.skip n) :=
  ⟨c.rest.take n, by simp [skip], rfl⟩

theorem reaches_skipWhile (c : Cursor) (p : Char → Bool) : Reaches c (c.skipWhile p) :=
  ⟨c.rest.takeWhile p, by simp [skipWhile], rfl⟩

theorem skip_shorter {c : Cursor} (h : c.rest ≠ []) :
    (c.skip 1).rest.length < c.rest.length := by
  have := List.length_pos_iff.mpr h
  simp only [skip, List.length_drop]
  omega

theorem expect?_eq_some_iff :
    expect? lit c = some c' ↔
      c.rest = lit ++ c'.rest ∧ c'.offset = c.offset + byteSize lit := by
  obtain ⟨offset, rest⟩ := c'
  simp only [expect?, Option.map_eq_some_iff, after?_eq_some_iff, Cursor.mk.injEq]
  constructor
  · rintro ⟨t, ht, rfl, rfl⟩
    exact ⟨ht, rfl⟩
  · rintro ⟨ht, rfl⟩
    exact ⟨rest, ht, rfl, rfl⟩

theorem reaches_expect? (h : expect? lit c = some c') : Reaches c c' :=
  ⟨lit, expect?_eq_some_iff.mp h⟩

theorem find?_here (h : after? lit (x :: r) = some r') :
    find? lit ⟨n, x :: r⟩ = some ⟨n, x :: r⟩ := by
  simp [find?, find?.go, h]

theorem find?_cons (h : after? lit (x :: r) = none) :
    find? lit ⟨n, x :: r⟩ = find? lit ⟨n + x.utf8Size, r⟩ := by
  simp [find?, find?.go, h]

theorem reaches_find? (h : find? lit c = some c') : Reaches c c' := by
  have go : ∀ t offset, find?.go lit offset t = some c' → Reaches ⟨offset, t⟩ c' := by
    intro t
    induction t with
    | nil => simp [find?.go]
    | cons x r ih =>
      intro offset hf
      by_cases hx : (after? lit (x :: r)).isSome
      · simp only [find?.go, hx, ↓reduceIte, Option.some.injEq] at hf
        exact hf ▸ Reaches.refl _
      · simp only [find?.go, hx] at hf
        obtain ⟨s, hs, ho⟩ := ih _ hf
        simp only at hs ho
        exact ⟨x :: s, by simp [hs], by rw [ho, byteSize_cons]; simp only; omega⟩
  exact go _ _ h

/-- What is found begins with the literal text. -/
theorem after?_find? (h : find? lit c = some c') : ∃ rest, c'.rest = lit ++ rest := by
  have go : ∀ t offset, find?.go lit offset t = some c' → ∃ rest, c'.rest = lit ++ rest := by
    intro t
    induction t with
    | nil => simp [find?.go]
    | cons x r ih =>
      intro offset hf
      by_cases hx : (after? lit (x :: r)).isSome
      · obtain ⟨rest, hr⟩ := Option.isSome_iff_exists.mp hx
        simp only [find?.go, hx, ↓reduceIte, Option.some.injEq] at hf
        exact ⟨rest, by rw [← hf]; exact after?_eq_some_iff.mp hr⟩
      · simp only [find?.go, hx] at hf
        exact ih _ hf
  exact go _ _ h

end Cursor

end CodeNotes
