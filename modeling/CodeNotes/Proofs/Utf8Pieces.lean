import CodeNotes.Proofs.Utf8
/-!
What a piece of a byte sequence is. A character is cut off with exactly its bytes; a
malformed part holds no byte of ASCII, and where ASCII follows it ends. So the strict reading
takes what is written and nothing else, and bytes of ASCII bound what damage can do.
-/
namespace CodeNotes.Utf8

theorem toNat_ofNat_char (h : n < 0xD800 ∨ 0xDFFF < n ∧ n < 0x110000) :
    (Char.ofNat n).val.toNat = n := by
  rw [Char.ofNat, dif_pos h]
  rfl

theorem ofNat_eq {b : UInt8} (h : n = b.toNat) : UInt8.ofNat n = b := by
  rw [h, UInt8.ofNat_toNat]

theorem width?_eq_some_iff :
    width? a = some n ↔
      n = 1 ∧ a.toNat ≤ 0x7F ∨ n = 2 ∧ 0xC2 ≤ a.toNat ∧ a.toNat ≤ 0xDF ∨
        n = 3 ∧ 0xE0 ≤ a.toNat ∧ a.toNat ≤ 0xEF ∨ n = 4 ∧ 0xF0 ≤ a.toNat ∧ a.toNat ≤ 0xF4 := by
  rw [width?_eq]
  repeat' split
  all_goals simp only [Option.some.injEq, reduceCtorEq, false_iff]; omega

theorem encode_one (h : width? a = some 1) :
    String.utf8EncodeChar (Char.ofNat a.toNat) = [a] := by
  have ha := width?_eq_some_iff.mp h
  rw [String.utf8EncodeChar, toNat_ofNat_char (by omega), if_pos (by omega), UInt8.ofNat_toNat]

theorem encode_two (h : width? a = some 2) (hb : isSecond a b = true) :
    String.utf8EncodeChar (Char.ofNat (a.toNat % 32 * 64 + low b)) = [a, b] := by
  have ha := width?_eq_some_iff.mp h
  have hb := isSecond_iff.mp hb
  simp only [low]
  rw [String.utf8EncodeChar, toNat_ofNat_char (by omega), if_neg (by omega), if_pos (by omega),
    ofNat_eq (b := a) (by omega), ofNat_eq (b := b) (by omega)]

theorem encode_three (h : width? a = some 3) (hb : isSecond a b = true) (hc : isTail c = true) :
    String.utf8EncodeChar (Char.ofNat (a.toNat % 16 * 4096 + low b * 64 + low c)) = [a, b, c] := by
  have ha := width?_eq_some_iff.mp h
  have hb := isSecond_iff.mp hb
  have hc := isTail_iff.mp hc
  simp only [low]
  rw [String.utf8EncodeChar, toNat_ofNat_char (by omega), if_neg (by omega), if_neg (by omega),
    if_pos (by omega), ofNat_eq (b := a) (by omega), ofNat_eq (b := b) (by omega),
    ofNat_eq (b := c) (by omega)]

theorem encode_four (h : width? a = some 4) (hb : isSecond a b = true) (hc : isTail c = true)
    (hd : isTail d = true) :
    String.utf8EncodeChar
        (Char.ofNat (a.toNat % 8 * 262144 + low b * 4096 + low c * 64 + low d)) =
      [a, b, c, d] := by
  have ha := width?_eq_some_iff.mp h
  have hb := isSecond_iff.mp hb
  have hc := isTail_iff.mp hc
  have hd := isTail_iff.mp hd
  simp only [low]
  rw [String.utf8EncodeChar, toNat_ofNat_char (by omega), if_neg (by omega), if_neg (by omega),
    if_neg (by omega), ofNat_eq (b := a) (by omega), ofNat_eq (b := b) (by omega),
    ofNat_eq (b := c) (by omega), ofNat_eq (b := d) (by omega)]

/-- A byte sequence does not go on with a byte that passes a test. -/
def NotNext (p : UInt8 → Bool) (bytes : List UInt8) : Prop :=
  ∀ b ∈ bytes.head?, p b = false

theorem pieces_broken_one (h : width? a ≠ some 1)
    (hb : (∃ n, width? a = some n) → NotNext (isSecond a) r) :
    pieces (a :: r) = none :: pieces r := by
  cases hw : width? a with
  | none =>
    rw [pieces.eq_def]
    simp only [hw]
  | some n =>
    have hn := width?_eq_some_iff.mp hw
    have hb := hb ⟨n, hw⟩
    obtain rfl | rfl | rfl | rfl : n = 1 ∨ n = 2 ∨ n = 3 ∨ n = 4 := by omega
    · contradiction
    all_goals
      cases r with
      | nil => simp [pieces, hw]
      | cons b r =>
        rw [pieces.eq_def]
        simp only [hw, hb b rfl, Bool.false_eq_true, ↓reduceIte]

theorem pieces_broken_two (h : width? a = some 3 ∨ width? a = some 4)
    (hb : isSecond a b = true) (hc : NotNext isTail r) :
    pieces (a :: b :: r) = none :: pieces r := by
  rcases h with h | h <;> cases r <;> rw [pieces.eq_def] <;> simp_all [NotNext, pieces]

theorem pieces_broken_three (h : width? a = some 4) (hb : isSecond a b = true)
    (hc : isTail c = true) (hd : NotNext isTail r) :
    pieces (a :: b :: c :: r) = none :: pieces r := by
  cases r <;> rw [pieces.eq_def] <;> simp_all [NotNext, pieces]

/-- A tail that cannot continue a character: nothing, or a byte of ASCII first. -/
def Stops (tail : List UInt8) : Prop :=
  ∀ b ∈ tail.head?, b.toNat < 0x80

theorem Stops.notNext_isTail (h : Stops tail) : NotNext isTail tail := by
  intro b hb
  have := h b hb
  rw [← Bool.not_eq_true, isTail_iff]
  omega

theorem Stops.notNext_isSecond (h : Stops tail) (a : UInt8) : NotNext (isSecond a) tail := by
  intro b hb
  have := h b hb
  rw [← Bool.not_eq_true, isSecond_iff]
  omega

theorem NotNext.append (h : NotNext p r) (ht : NotNext p tail) : NotNext p (r ++ tail) := by
  cases r with
  | nil => exact ht
  | cons b r => exact h

/-- What the first piece of some bytes is. It stays the first piece when something stands
behind the bytes that cannot continue it. -/
structure FirstPiece (bytes : List UInt8) (piece : Option Char) (part rest : List UInt8) :
    Prop where
  cut : bytes = part ++ rest
  part_ne : part ≠ []
  written : ∀ c, piece = some c → part = String.utf8EncodeChar c
  malformed : piece = none → ∀ b ∈ part, 0x80 ≤ b.toNat
  stable : ∀ tail, Stops tail → pieces (bytes ++ tail) = piece :: pieces (rest ++ tail)

theorem firstPiece_char (c : Char) (rest : List UInt8) :
    FirstPiece (String.utf8EncodeChar c ++ rest) (some c) (String.utf8EncodeChar c) rest where
  cut := rfl
  part_ne := by
    intro h
    have := String.length_utf8EncodeChar c
    have := Char.utf8Size_pos c
    simp_all
  written := by
    rintro d hd
    rw [Option.some.inj hd]
  malformed := by simp
  stable := by
    intro tail _
    rw [List.append_assoc, pieces_char]

theorem firstPiece_of_encode {part : List UInt8} (h : String.utf8EncodeChar c = part)
    (rest : List UInt8) : FirstPiece (part ++ rest) (some c) part rest :=
  h ▸ firstPiece_char c rest

theorem firstPiece_broken_one (h : width? a ≠ some 1)
    (hb : (∃ n, width? a = some n) → NotNext (isSecond a) r) :
    FirstPiece (a :: r) none [a] r where
  cut := rfl
  part_ne := by simp
  written := by simp
  malformed := by
    rintro - b hb
    obtain rfl := List.mem_singleton.mp hb
    rw [Ne, width?_eq_some_iff] at h
    omega
  stable := fun _ ht =>
    pieces_broken_one h (fun hn => (hb hn).append (ht.notNext_isSecond a))

theorem firstPiece_broken_two (h : width? a = some 3 ∨ width? a = some 4)
    (hb : isSecond a b = true) (hc : NotNext isTail r) :
    FirstPiece (a :: b :: r) none [a, b] r where
  cut := rfl
  part_ne := by simp
  written := by simp
  malformed := by
    simp only [width?_eq_some_iff] at h
    have := isSecond_iff.mp hb
    simp only [forall_const, List.mem_cons, List.not_mem_nil, or_false, forall_eq_or_imp,
      forall_eq]
    omega
  stable := fun _ ht => pieces_broken_two h hb (hc.append ht.notNext_isTail)

theorem firstPiece_broken_three (h : width? a = some 4) (hb : isSecond a b = true)
    (hc : isTail c = true) (hd : NotNext isTail r) :
    FirstPiece (a :: b :: c :: r) none [a, b, c] r where
  cut := rfl
  part_ne := by simp
  written := by simp
  malformed := by
    have := width?_eq_some_iff.mp h
    have := isSecond_iff.mp hb
    have := isTail_iff.mp hc
    simp only [forall_const, List.mem_cons, List.not_mem_nil, or_false, forall_eq_or_imp,
      forall_eq]
    omega
  stable := fun _ ht => pieces_broken_three h hb hc (hd.append ht.notNext_isTail)

theorem notNext_or_next (p : UInt8 → Bool) (r : List UInt8) :
    NotNext p r ∨ ∃ b r', r = b :: r' ∧ p b = true := by
  cases r with
  | nil => exact .inl (by simp [NotNext])
  | cons b r =>
    cases hb : p b with
    | true => exact .inr ⟨b, r, rfl, hb⟩
    | false => exact .inl (by simp [NotNext, hb])

theorem exists_firstPiece (a : UInt8) (r : List UInt8) :
    ∃ piece part rest, FirstPiece (a :: r) piece part rest := by
  by_cases hone : width? a = some 1
  · exact ⟨_, _, _, firstPiece_of_encode (encode_one hone) r⟩
  cases hw : width? a with
  | none => exact ⟨_, _, _, firstPiece_broken_one hone (by simp [hw])⟩
  | some n =>
    rcases notNext_or_next (isSecond a) r with hb | ⟨b, r, rfl, hb⟩
    · exact ⟨_, _, _, firstPiece_broken_one hone (fun _ => hb)⟩
    have hn := width?_eq_some_iff.mp hw
    obtain rfl | rfl | rfl : n = 2 ∨ n = 3 ∨ n = 4 := by
      rw [hw, Option.some.injEq] at hone
      omega
    · exact ⟨_, _, _, firstPiece_of_encode (encode_two hw hb) r⟩
    · rcases notNext_or_next isTail r with hc | ⟨c, r, rfl, hc⟩
      · exact ⟨_, _, _, firstPiece_broken_two (.inl hw) hb hc⟩
      · exact ⟨_, _, _, firstPiece_of_encode (encode_three hw hb hc) r⟩
    · rcases notNext_or_next isTail r with hc | ⟨c, r, rfl, hc⟩
      · exact ⟨_, _, _, firstPiece_broken_two (.inr hw) hb hc⟩
      rcases notNext_or_next isTail r with hd | ⟨d, r, rfl, hd⟩
      · exact ⟨_, _, _, firstPiece_broken_three hw hb hc hd⟩
      · exact ⟨_, _, _, firstPiece_of_encode (encode_four hw hb hc hd) r⟩

/-- Induction on a byte sequence piece by piece. -/
theorem pieces_induction {motive : List UInt8 → Prop} (nil : motive [])
    (piece : ∀ bytes piece part rest, FirstPiece bytes piece part rest → motive rest →
      motive bytes) (bytes : List UInt8) : motive bytes := by
  induction hn : bytes.length using Nat.strongRecOn generalizing bytes with
  | _ n ih =>
    subst hn
    cases bytes with
    | nil => exact nil
    | cons a r =>
      obtain ⟨p, part, rest, h⟩ := exists_firstPiece a r
      refine piece _ p part rest h (ih _ ?_ rest rfl)
      have := List.length_pos_iff.mpr h.part_ne
      rw [h.cut, List.length_append]
      omega

theorem FirstPiece.pieces_eq (h : FirstPiece bytes piece part rest) :
    pieces bytes = piece :: pieces rest := by
  simpa using h.stable [] (by simp [Stops])

/-- The pieces of what stands before something that cannot continue a character are found
alone. -/
theorem pieces_append (bytes : List UInt8) (h : Stops tail) :
    pieces (bytes ++ tail) = pieces bytes ++ pieces tail := by
  induction bytes using pieces_induction with
  | nil => simp [pieces]
  | piece bytes piece part rest hp ih => rw [hp.stable tail h, hp.pieces_eq, ih, List.cons_append]

/-- The strict reading takes the written form of a text and nothing else. -/
theorem decode?_eq_some_iff : decode? bytes = some t ↔ bytes = encode t := by
  constructor
  · induction bytes using pieces_induction generalizing t with
    | nil =>
      intro h
      simp only [decode?, pieces, List.mapM_nil] at h
      rw [← Option.some.inj h]
      rfl
    | piece bytes piece part rest hp ih =>
      intro h
      rw [decode?, hp.pieces_eq, List.mapM_cons] at h
      cases piece with
      | none => simp at h
      | some c =>
        simp only [id_eq, Option.bind_eq_bind, Option.bind_some, Option.bind_eq_some_iff,
          Option.pure_def, Option.some.injEq] at h
        obtain ⟨t', ht, rfl⟩ := h
        rw [hp.cut, hp.written c rfl, ih ht]
        simp [encode]
  · rintro rfl
    induction t with
    | nil => simp [decode?, encode, pieces]
    | cons c t ih =>
      have hsplit : encode (c :: t) = String.utf8EncodeChar c ++ encode t := by simp [encode]
      rw [decode?] at ih
      rw [hsplit, decode?, pieces_char, List.mapM_cons, ih]
      rfl

end CodeNotes.Utf8
