import CodeNotes.Proofs.Utf8Pieces
import CodeNotes.Text.Cursor
import Mathlib.Logic.Relation
/-!
Texts cut at a byte. A cut succeeds exactly at a boundary: between two characters or at an end of
the text, where no byte stands that continues a character. A cursor of a text stands at a
boundary, and a loop that goes on from one boundary to the next never leaves the text.
-/
namespace CodeNotes

/-- What a reader that counts in bytes can do wrong. -/
inductive Slip where
  /-- A text cut inside a character or beyond its end. -/
  | text (t : Text) (n : Nat)
  /-- Bytes cut beyond their end. -/
  | bytes (bytes : List UInt8) (n : Nat)
  /-- A number taken from a smaller one. -/
  | below (m n : Nat)

/-- The place behind the first `n` bytes lies between two characters or at an end. -/
def Boundary (t : Text) (n : Nat) : Prop :=
  ∃ before behind, t = before ++ behind ∧ byteSize before = n

/-- From one place a loop goes on to another: further ahead, to a boundary, not beyond the end. -/
structure Onward (t : Text) (cursor cursor' : Nat) : Prop where
  further : cursor < cursor'
  boundary : Boundary t cursor'
  within : cursor' ≤ byteSize t

/-- A text in two parts, of which the first has `n` bytes. -/
def cut? : Nat → Text → Option (Text × Text)
  | 0, t => some ([], t)
  | _ + 1, [] => none
  | n + 1, c :: t =>
    if c.utf8Size ≤ n + 1 then
      (cut? (n + 1 - c.utf8Size) t).map fun parts => (c :: parts.1, parts.2)
    else none

/-- What stands from byte `n` on. -/
def sliceFrom (t : Text) (n : Nat) : Except Slip Text :=
  match cut? n t with
  | some (_, behind) => .ok behind
  | none => .error (.text t n)

/-- What stands before byte `n`. -/
def sliceTo (t : Text) (n : Nat) : Except Slip Text :=
  match cut? n t with
  | some (before, _) => .ok before
  | none => .error (.text t n)

def bytesTo (bytes : List UInt8) (n : Nat) : Except Slip (List UInt8) :=
  if n ≤ bytes.length then .ok (bytes.take n) else .error (.bytes bytes n)

def minus (m n : Nat) : Except Slip Nat :=
  if n ≤ m then .ok (m - n) else .error (.below m n)

/-- The number of bytes before the first place where a literal text stands. -/
def offsetOf? (lit : Text) : Text → Option Nat
  | [] => none
  | c :: t =>
    if (after? lit (c :: t)).isSome then some 0
    else (offsetOf? lit t).map (c.utf8Size + ·)

theorem byteSize_eq_zero_iff : byteSize t = 0 ↔ t = [] := by
  cases t with
  | nil => simp [byteSize_nil]
  | cons c t =>
    have := c.utf8Size_pos
    simp only [byteSize_cons, reduceCtorEq, iff_false]
    omega

theorem byteSize_le_of_suffix (h : s <:+ t) : byteSize s ≤ byteSize t := by
  obtain ⟨r, rfl⟩ := h
  rw [byteSize_append]
  omega

theorem minus_of_le (h : n ≤ m) : minus m n = .ok (m - n) :=
  if_pos h

theorem cut?_eq_some_iff : cut? n t = some (s, r) ↔ t = s ++ r ∧ byteSize s = n := by
  fun_induction cut? n t generalizing s with
  | case1 t =>
    simp only [Option.some.injEq, Prod.mk.injEq, byteSize_eq_zero_iff]
    constructor
    · rintro ⟨rfl, rfl⟩
      simp
    · rintro ⟨ht, rfl⟩
      exact ⟨rfl, ht⟩
  | case2 n =>
    simp only [reduceCtorEq, false_iff]
    rintro ⟨ht, hs⟩
    obtain ⟨rfl, -⟩ := List.append_eq_nil_iff.mp ht.symm
    simp [byteSize_nil] at hs
  | case3 n c t hfits ih =>
    simp only [Option.map_eq_some_iff, Prod.mk.injEq, Prod.exists]
    constructor
    · rintro ⟨s, r', hcut, rfl, rfl⟩
      obtain ⟨rfl, hs⟩ := ih.mp hcut
      exact ⟨rfl, by rw [byteSize_cons, hs]; omega⟩
    · rintro ⟨ht, hs⟩
      cases s with
      | nil => simp [byteSize_nil] at hs
      | cons d s =>
        obtain ⟨rfl, rfl⟩ := List.cons.inj ht
        rw [byteSize_cons] at hs
        exact ⟨s, r, ih.mpr ⟨rfl, by omega⟩, rfl, rfl⟩
  | case4 n c t hfits =>
    simp only [reduceCtorEq, false_iff]
    rintro ⟨ht, hs⟩
    cases s with
    | nil => simp [byteSize_nil] at hs
    | cons d s =>
      obtain ⟨rfl, rfl⟩ := List.cons.inj ht
      rw [byteSize_cons] at hs
      omega

theorem sliceFrom_eq_ok_iff :
    sliceFrom t n = .ok r ↔ ∃ s, t = s ++ r ∧ byteSize s = n := by
  simp only [← cut?_eq_some_iff]
  rw [sliceFrom]
  cases cut? n t with
  | none => simp
  | some parts => simp [Prod.ext_iff]

theorem sliceTo_eq_ok_iff :
    sliceTo t n = .ok s ↔ ∃ r, t = s ++ r ∧ byteSize s = n := by
  simp only [← cut?_eq_some_iff]
  rw [sliceTo]
  cases cut? n t with
  | none => simp
  | some parts => simp [Prod.ext_iff]

/-- A slice succeeds at a boundary and nowhere else. -/
theorem exists_sliceFrom_iff : (∃ r, sliceFrom t n = .ok r) ↔ Boundary t n := by
  simp only [sliceFrom_eq_ok_iff]
  exact exists_comm

theorem exists_sliceTo_iff : (∃ s, sliceTo t n = .ok s) ↔ Boundary t n := by
  simp only [sliceTo_eq_ok_iff]
  rfl

/-- A reader that gets past a slice has made it at a boundary. -/
theorem boundary_of_bind {f : Text → Except Slip α} (h : (sliceFrom t n >>= f) = .ok a) :
    Boundary t n := by
  apply exists_sliceFrom_iff.mp
  cases hs : sliceFrom t n with
  | ok r => exact ⟨r, rfl⟩
  | error slip =>
    rw [hs] at h
    contradiction

theorem Boundary.le (h : Boundary t n) : n ≤ byteSize t := by
  obtain ⟨s, r, rfl, rfl⟩ := h
  rw [byteSize_append]
  omega

theorem boundary_start (t : Text) : Boundary t 0 :=
  ⟨[], t, rfl, rfl⟩

/-- Wherever a loop comes to from the start of a text, it stands at a boundary. -/
theorem boundary_of_steps {step : Nat → Nat → Prop} (hstep : ∀ m n, step m n → Onward t m n)
    (h : Relation.ReflTransGen step 0 cursor) : Boundary t cursor := by
  induction h with
  | refl => exact boundary_start t
  | tail _ hlast _ => exact (hstep _ _ hlast).boundary

/-- Wherever a loop comes to from the start of a text, it makes a round there, and a safe one. -/
theorem safe_of_steps {round : Nat → Except Slip (Option Found)} {Safe : Nat → Found → Prop}
    {step : Nat → Nat → Prop} (hstep : ∀ m n, step m n → Onward t m n)
    (hround : ∀ n, Boundary t n → ∃ found, round n = .ok found)
    (hsafe : ∀ n s, round n = .ok (some s) → Safe n s) (h : Relation.ReflTransGen step 0 cursor) :
    Boundary t cursor ∧ ∃ found, round cursor = .ok found ∧ ∀ s ∈ found, Safe cursor s := by
  have hboundary := boundary_of_steps hstep h
  obtain ⟨found, hfound⟩ := hround cursor hboundary
  refine ⟨hboundary, found, hfound, ?_⟩
  rintro s rfl
  exact hsafe cursor s hfound

theorem length_encode (t : Text) : (Utf8.encode t).length = byteSize t := by
  induction t with
  | nil => rfl
  | cons c t ih =>
    rw [byteSize_cons, ← ih, ← String.length_utf8EncodeChar, ← List.length_append]
    rfl

/-- A character's first byte continues none, and its other bytes do. -/
theorem utf8EncodeChar_eq_cons (c : Char) :
    ∃ b bs, String.utf8EncodeChar c = b :: bs ∧ Utf8.isTail b = false ∧
      ∀ x ∈ bs, Utf8.isTail x = true := by
  have hvalid : c.val.toNat < 0x110000 := c.valid.elim (by omega) (fun h => h.2)
  have hfirst : ∀ n, n < 256 → n < 0x80 ∨ 0xBF < n → Utf8.isTail (UInt8.ofNat n) = false := by
    intro n hn hr
    rw [← Bool.not_eq_true, Utf8.isTail_iff, Utf8.toNat_ofNat hn]
    omega
  have htail : ∀ n, Utf8.isTail (UInt8.ofNat (n % 64 + 0x80)) = true := Utf8.isTail_tail
  rw [String.utf8EncodeChar]
  generalize c.val.toNat = n at hvalid
  repeat' split
  · exact ⟨_, [], rfl, hfirst _ (by omega) (by omega), List.forall_mem_nil _⟩
  all_goals
    refine ⟨_, _, rfl, hfirst _ (by omega) (by omega), ?_⟩
    simp only [List.forall_mem_cons, htail, true_and]
    exact List.forall_mem_nil _

/-- Seen from the bytes, a boundary is the end or a byte that continues no character. -/
theorem boundary_iff_byte :
    Boundary t n ↔ n = (Utf8.encode t).length ∨
      ∃ b, (Utf8.encode t)[n]? = some b ∧ Utf8.isTail b = false := by
  constructor
  · rintro ⟨s, r, rfl, rfl⟩
    cases r with
    | nil => exact .inl (by rw [List.append_nil, length_encode])
    | cons c r =>
      obtain ⟨b, bs, hc, hb, -⟩ := utf8EncodeChar_eq_cons c
      have hr : Utf8.encode (c :: r) = b :: (bs ++ Utf8.encode r) := by
        rw [← List.cons_append, ← hc]
        rfl
      refine .inr ⟨b, ?_, hb⟩
      rw [Utf8.encode_append, hr, ← length_encode, List.getElem?_append_right (Nat.le_refl _),
        Nat.sub_self, List.getElem?_cons_zero]
  · rintro (rfl | ⟨b, hget, hb⟩)
    · exact ⟨t, [], by simp, (length_encode t).symm⟩
    induction t generalizing n with
    | nil => simp [Utf8.encode] at hget
    | cons c t ih =>
      obtain ⟨b₀, bs, hc, -, htail⟩ := utf8EncodeChar_eq_cons c
      have hsize : (String.utf8EncodeChar c).length = c.utf8Size := String.length_utf8EncodeChar c
      have ht : Utf8.encode (c :: t) = String.utf8EncodeChar c ++ Utf8.encode t := rfl
      rw [ht] at hget
      by_cases hn : n < c.utf8Size
      · -- Of the bytes of one character only the first one continues none.
        cases n with
        | zero => exact boundary_start (c :: t)
        | succ n =>
          rw [List.getElem?_append_left (by omega), hc, List.getElem?_cons_succ] at hget
          rw [htail b (List.mem_of_getElem? hget)] at hb
          contradiction
      · rw [List.getElem?_append_right (by omega), hsize] at hget
        obtain ⟨s, r, rfl, hs⟩ := ih hget
        exact ⟨c :: s, r, rfl, by rw [byteSize_cons, hs]; omega⟩

namespace Utf8

/-- The character of ASCII that is a byte of its own. -/
def asciiChar (b : UInt8) : Char :=
  Char.ofNat b.toNat

theorem encode_ascii (h : ∀ c ∈ t, c.toNat < 0x80) :
    encode t = t.map fun c => UInt8.ofNat c.toNat := by
  induction t with
  | nil => rfl
  | cons c t ih =>
    have hc : c.val.toNat ≤ 0x7F := Nat.le_of_lt_succ (h c (by simp))
    have ht : encode (c :: t) = String.utf8EncodeChar c ++ encode t := rfl
    rw [ht, ih (fun d hd => h d (by simp [hd])), String.utf8EncodeChar, if_pos hc]
    rfl

/-- Bytes of ASCII that a text begins with are characters of it. -/
theorem exists_ascii_of_encode {bytes behind : List UInt8} (hb : ∀ b ∈ bytes, b.toNat < 0x80)
    (h : encode t = bytes ++ behind) : ∃ u, t = bytes.map asciiChar ++ u := by
  induction bytes generalizing t with
  | nil => exact ⟨t, rfl⟩
  | cons b bytes ih =>
    have hlow : b.toNat < 0x80 := hb b (by simp)
    have hw : width? b = some 1 := width?_eq_some_iff.mpr (.inl ⟨rfl, by omega⟩)
    have hcut : encode t = [] ++ b :: (bytes ++ behind) := h
    obtain ⟨s, u, rfl, hs, hu⟩ := exists_split_of_encode (encode_one hw) hlow hcut
    have hnil : s = [] := by
      apply Classical.byContradiction
      intro hne
      exact encode_ne hne hs
    subst hnil
    obtain ⟨v, rfl⟩ := ih (fun x hx => hb x (by simp [hx])) hu
    exact ⟨v, rfl⟩

end Utf8

namespace Cursor

theorem Reaches.offset_le (h : Reaches c c') : c.offset ≤ c'.offset := by
  obtain ⟨s, -, ho⟩ := h
  omega

theorem sliceFrom_of_reaches (h : Reaches (start t) c) : sliceFrom t c.offset = .ok c.rest := by
  obtain ⟨s, hs, ho⟩ := h
  exact sliceFrom_eq_ok_iff.mpr ⟨s, hs, by simpa [start] using ho.symm⟩

theorem boundary_of_reaches (h : Reaches (start t) c) : Boundary t c.offset :=
  exists_sliceFrom_iff.mp ⟨c.rest, sliceFrom_of_reaches h⟩

theorem exists_reaches (h : Boundary t n) : ∃ c, Reaches (start t) c ∧ c.offset = n := by
  obtain ⟨s, r, rfl, rfl⟩ := h
  exact ⟨⟨byteSize s, r⟩, ⟨s, rfl, by simp [start]⟩, rfl⟩

/-- Past a literal text, both in characters and in bytes. -/
theorem skip_of_rest {c : Cursor} (h : c.rest = s ++ r) :
    c.skip s.length = ⟨c.offset + byteSize s, r⟩ := by
  rw [skip, h, List.take_left, List.drop_left]

/-- A cursor finds a literal text as far ahead as what is left of its text has it. -/
theorem offset_find? (lit : Text) (c : Cursor) :
    (c.find? lit).map (·.offset) = (offsetOf? lit c.rest).map (c.offset + ·) := by
  obtain ⟨offset, t⟩ := c
  rw [find?]
  induction t generalizing offset with
  | nil => rfl
  | cons x t ih =>
    by_cases hx : (after? lit (x :: t)).isSome
    · simp [find?.go, offsetOf?, hx]
    · simp only [find?.go, offsetOf?, hx, Bool.false_eq_true, ↓reduceIte, Option.map_map]
      rw [ih]
      congr 1
      funext n
      exact Nat.add_assoc offset x.utf8Size n

theorem mem_places (h : m ∈ places x c) : Reaches c m ∧ ∃ r, m.rest = x :: r := by
  obtain ⟨offset, t⟩ := c
  rw [places] at h
  induction t generalizing offset with
  | nil => simp [places.go] at h
  | cons y t ih =>
    have hpass : Reaches ⟨offset, y :: t⟩ ⟨offset + y.utf8Size, t⟩ :=
      ⟨[y], rfl, by rw [byteSize_cons, byteSize_nil]; rfl⟩
    rw [places.go] at h
    split at h
    · next hy =>
      subst hy
      rcases List.mem_cons.mp h with rfl | h
      · exact ⟨Reaches.refl _, t, rfl⟩
      · exact ⟨hpass.trans (ih _ h).1, (ih _ h).2⟩
    · exact ⟨hpass.trans (ih _ h).1, (ih _ h).2⟩

end Cursor

theorem offsetOf?_char (x : Char) (t : Text) :
    offsetOf? [x] t = if x ∈ t then some (byteSize (t.takeWhile (· ≠ x))) else none := by
  induction t with
  | nil => rfl
  | cons y t ih =>
    by_cases hy : x = y
    · subst hy
      simp [offsetOf?, after?, byteSize_nil]
    · simp only [offsetOf?, after?, hy, ↓reduceIte, Option.isSome_none, Bool.false_eq_true, ih,
        List.mem_cons, false_or]
      split
      · rw [List.takeWhile_cons_of_pos (by simpa using Ne.symm hy), byteSize_cons]
        rfl
      · rfl

end CodeNotes
