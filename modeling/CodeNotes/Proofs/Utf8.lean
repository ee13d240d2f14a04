import CodeNotes.Text.Utf8
/-!
UTF-8 as it is written is read back as it was, whatever stands behind it. The bytes are
looked at as numbers; a byte of a character beyond ASCII is never one of ASCII.
-/
namespace CodeNotes.Utf8

theorem toNat_ofNat (h : n < 256) : (UInt8.ofNat n).toNat = n := by
  rw [UInt8.toNat_ofNat']
  exact Nat.mod_eq_of_lt h

theorem eq_iff_toNat (a b : UInt8) : a = b ↔ a.toNat = b.toNat :=
  UInt8.toNat_inj.symm

theorem width?_eq (a : UInt8) :
    width? a =
      if a.toNat ≤ 0x7F then some 1
      else if 0xC2 ≤ a.toNat ∧ a.toNat ≤ 0xDF then some 2
      else if 0xE0 ≤ a.toNat ∧ a.toNat ≤ 0xEF then some 3
      else if 0xF0 ≤ a.toNat ∧ a.toNat ≤ 0xF4 then some 4
      else none := by
  simp only [width?, UInt8.le_iff_toNat_le, Bool.and_eq_true, decide_eq_true_eq]
  rfl

theorem isTail_iff : isTail b = true ↔ 0x80 ≤ b.toNat ∧ b.toNat ≤ 0xBF := by
  simp only [isTail, UInt8.le_iff_toNat_le, Bool.and_eq_true, decide_eq_true_eq]
  rfl

/-- The bounds of a second byte, which the first may narrow from below or from above. -/
theorem isSecond_iff :
    isSecond a b = true ↔ 0x80 ≤ b.toNat ∧ b.toNat ≤ 0xBF ∧ (a.toNat = 0xE0 → 0xA0 ≤ b.toNat) ∧
      (a.toNat = 0xED → b.toNat ≤ 0x9F) ∧ (a.toNat = 0xF0 → 0x90 ≤ b.toNat) ∧
      (a.toNat = 0xF4 → b.toNat ≤ 0x8F) := by
  simp only [isSecond, eq_iff_toNat, UInt8.le_iff_toNat_le, UInt8.reduceToNat]
  repeat' split
  all_goals
    simp only [Bool.and_eq_true, decide_eq_true_eq, isTail_iff]
    omega

theorem pieces_one (h : width? a = some 1) :
    pieces (a :: r) = some (Char.ofNat a.toNat) :: pieces r := by
  rw [pieces.eq_def]
  simp only [h]

theorem pieces_two (h : width? a = some 2) (hb : isSecond a b = true) :
    pieces (a :: b :: r) = some (Char.ofNat (a.toNat % 32 * 64 + low b)) :: pieces r := by
  rw [pieces.eq_def]
  simp only [h, hb, ↓reduceIte]

theorem pieces_three (h : width? a = some 3) (hb : isSecond a b = true) (hc : isTail c = true) :
    pieces (a :: b :: c :: r) =
      some (Char.ofNat (a.toNat % 16 * 4096 + low b * 64 + low c)) :: pieces r := by
  rw [pieces.eq_def]
  simp only [h, hb, hc, ↓reduceIte]

theorem pieces_four (h : width? a = some 4) (hb : isSecond a b = true) (hc : isTail c = true)
    (hd : isTail d = true) :
    pieces (a :: b :: c :: d :: r) =
      some (Char.ofNat (a.toNat % 8 * 262144 + low b * 4096 + low c * 64 + low d)) ::
        pieces r := by
  rw [pieces.eq_def]
  simp only [h, hb, hc, hd, ↓reduceIte]

theorem toNat_tail (n : Nat) : (UInt8.ofNat (n % 64 + 0x80)).toNat = n % 64 + 0x80 :=
  toNat_ofNat (by omega)

theorem isTail_tail (n : Nat) : isTail (UInt8.ofNat (n % 64 + 0x80)) = true := by
  rw [isTail_iff, toNat_tail]
  omega

theorem low_tail (n : Nat) : low (UInt8.ofNat (n % 64 + 0x80)) = n % 64 := by
  rw [low, toNat_tail]
  omega

theorem pieces_upTo7F (h : n ≤ 0x7F) (r : List UInt8) :
    pieces (UInt8.ofNat n :: r) = some (Char.ofNat n) :: pieces r := by
  have ha : (UInt8.ofNat n).toNat = n := toNat_ofNat (by omega)
  have hw : width? (UInt8.ofNat n) = some 1 := by
    rw [width?_eq, ha, if_pos h]
  rw [pieces_one hw, ha]

theorem pieces_upTo7FF (h : 0x7F < n) (h' : n ≤ 0x7FF) (r : List UInt8) :
    pieces (UInt8.ofNat (n / 64 % 32 + 0xC0) :: UInt8.ofNat (n % 64 + 0x80) :: r) =
      some (Char.ofNat n) :: pieces r := by
  have ha : (UInt8.ofNat (n / 64 % 32 + 0xC0)).toNat = n / 64 + 0xC0 := by
    rw [toNat_ofNat (by omega)]
    omega
  have hw : width? (UInt8.ofNat (n / 64 % 32 + 0xC0)) = some 2 := by
    rw [width?_eq, ha, if_neg (by omega), if_pos (by omega)]
  have hb : isSecond (UInt8.ofNat (n / 64 % 32 + 0xC0)) (UInt8.ofNat (n % 64 + 0x80)) = true := by
    rw [isSecond_iff, ha, toNat_tail]
    omega
  have hn : (n / 64 + 0xC0) % 32 * 64 + n % 64 = n := by omega
  rw [pieces_two hw hb, ha, low_tail, hn]

theorem pieces_upToFFFF (h : 0x7FF < n) (h' : n ≤ 0xFFFF) (hs : n < 0xD800 ∨ 0xDFFF < n)
    (r : List UInt8) :
    pieces (UInt8.ofNat (n / 4096 % 16 + 0xE0) :: UInt8.ofNat (n / 64 % 64 + 0x80) ::
        UInt8.ofNat (n % 64 + 0x80) :: r) =
      some (Char.ofNat n) :: pieces r := by
  have ha : (UInt8.ofNat (n / 4096 % 16 + 0xE0)).toNat = n / 4096 + 0xE0 := by
    rw [toNat_ofNat (by omega)]
    omega
  have hw : width? (UInt8.ofNat (n / 4096 % 16 + 0xE0)) = some 3 := by
    rw [width?_eq, ha, if_neg (by omega), if_neg (by omega), if_pos (by omega)]
  have hb : isSecond (UInt8.ofNat (n / 4096 % 16 + 0xE0))
      (UInt8.ofNat (n / 64 % 64 + 0x80)) = true := by
    rw [isSecond_iff, ha, toNat_tail]
    omega
  have hn : (n / 4096 + 0xE0) % 16 * 4096 + n / 64 % 64 * 64 + n % 64 = n := by omega
  rw [pieces_three hw hb (isTail_tail n), ha, low_tail, low_tail, hn]

theorem pieces_upTo10FFFF (h : 0xFFFF < n) (h' : n < 0x110000) (r : List UInt8) :
    pieces (UInt8.ofNat (n / 262144 % 8 + 0xF0) :: UInt8.ofNat (n / 4096 % 64 + 0x80) ::
        UInt8.ofNat (n / 64 % 64 + 0x80) :: UInt8.ofNat (n % 64 + 0x80) :: r) =
      some (Char.ofNat n) :: pieces r := by
  have ha : (UInt8.ofNat (n / 262144 % 8 + 0xF0)).toNat = n / 262144 + 0xF0 := by
    rw [toNat_ofNat (by omega)]
    omega
  have hw : width? (UInt8.ofNat (n / 262144 % 8 + 0xF0)) = some 4 := by
    rw [width?_eq, ha, if_neg (by omega), if_neg (by omega), if_neg (by omega), if_pos (by omega)]
  have hb : isSecond (UInt8.ofNat (n / 262144 % 8 + 0xF0))
      (UInt8.ofNat (n / 4096 % 64 + 0x80)) = true := by
    rw [isSecond_iff, ha, toNat_tail]
    omega
  have hn : (n / 262144 + 0xF0) % 8 * 262144 + n / 4096 % 64 * 4096 + n / 64 % 64 * 64 + n % 64 =
      n := by omega
  rw [pieces_four hw hb (isTail_tail (n / 64)) (isTail_tail n), ha, low_tail, low_tail, low_tail, hn]

/-- A character's bytes are read as one piece, which is the character. -/
theorem pieces_char (c : Char) (r : List UInt8) :
    pieces (String.utf8EncodeChar c ++ r) = some c :: pieces r := by
  have hvalid : c.toNat < 0xD800 ∨ 0xDFFF < c.toNat ∧ c.toNat < 0x110000 := c.valid
  rw [← Char.ofNat_toNat c]
  generalize hn : c.toNat = n at hvalid
  have hback : (Char.ofNat n).val.toNat = n := by
    rw [← hn, Char.ofNat_toNat]
    rfl
  simp only [String.utf8EncodeChar, hback]
  split
  · next h => exact pieces_upTo7F h r
  · split
    · next h h' => exact pieces_upTo7FF (by omega) h' r
    · split
      · next h h' h'' => exact pieces_upToFFFF (by omega) h'' (by omega) r
      · next h h' h'' => exact pieces_upTo10FFFF (by omega) (by omega) r

theorem decodeLossy_append (t : Text) (bytes : List UInt8) :
    decodeLossy (encode t ++ bytes) = t ++ decodeLossy bytes := by
  induction t with
  | nil => rfl
  | cons c t ih =>
    have hsplit : encode (c :: t) ++ bytes = String.utf8EncodeChar c ++ (encode t ++ bytes) := by
      simp [encode]
    rw [hsplit, decodeLossy, pieces_char, List.map_cons, ← decodeLossy, ih]
    rfl

/-- What is written is read back. -/
theorem decodeLossy_encode (t : Text) : decodeLossy (encode t) = t := by
  simpa [decodeLossy, pieces] using decodeLossy_append t []

theorem encode_injective (h : encode s = encode t) : s = t := by
  rw [← decodeLossy_encode s, h, decodeLossy_encode]

theorem encode_append (s t : Text) : encode (s ++ t) = encode s ++ encode t :=
  List.flatMap_append

theorem encode_ne (h : t ≠ []) : encode t ≠ [] := by
  intro he
  have hd := decodeLossy_encode t
  rw [he] at hd
  exact h hd.symm

/-- A byte of ASCII in a character's form is all of that form. -/
theorem ascii_of_mem (h : b ∈ String.utf8EncodeChar c) (hb : b.toNat < 0x80) :
    c.toNat = b.toNat := by
  have hv : c.val.toNat = c.toNat := rfl
  have hhigh : ∀ n, 0x80 ≤ n → n < 256 → b ≠ UInt8.ofNat n := by
    rintro n hn hn' rfl
    rw [toNat_ofNat hn'] at hb
    omega
  simp only [String.utf8EncodeChar, hv] at h
  split at h
  · obtain rfl := List.mem_singleton.mp h
    exact (toNat_ofNat (by omega)).symm
  exfalso
  -- Beyond ASCII every byte has its highest bit set, the first one and the others.
  split at h
  · simp only [List.mem_cons, List.not_mem_nil, or_false] at h
    rcases h with h | h <;> exact hhigh _ (by omega) (by omega) h
  · split at h
    · simp only [List.mem_cons, List.not_mem_nil, or_false] at h
      rcases h with h | h | h <;> exact hhigh _ (by omega) (by omega) h
    · simp only [List.mem_cons, List.not_mem_nil, or_false] at h
      rcases h with h | h | h | h <;> exact hhigh _ (by omega) (by omega) h

/-- A byte of ASCII is a character of its own: where the bytes of a text are cut at one, so is the
text. -/
theorem exists_split_of_encode {before behind : List UInt8}
    (hsep : String.utf8EncodeChar sep = [b]) (hb : b.toNat < 0x80)
    (h : encode t = before ++ b :: behind) :
    ∃ s u, t = s ++ sep :: u ∧ encode s = before ∧ encode u = behind := by
  induction t generalizing before with
  | nil => simp [encode] at h
  | cons c t ih =>
    have hc : String.utf8EncodeChar c ++ encode t = before ++ b :: behind := h
    rcases List.append_eq_append_iff.mp hc with ⟨more, hbefore, ht⟩ | ⟨more, hbefore, hbehind⟩
    · obtain ⟨s, u, rfl, hs, hu⟩ := ih ht
      exact ⟨c :: s, u, rfl, by rw [hbefore, ← hs]; rfl, hu⟩
    · cases more with
      | nil =>
        rw [List.append_nil] at hbefore
        obtain ⟨s, u, rfl, hs, hu⟩ := ih (show encode t = [] ++ b :: behind from hbehind.symm)
        refine ⟨c :: s, u, rfl, ?_, hu⟩
        rw [← hbefore, ← List.append_nil (String.utf8EncodeChar c), ← hs]
        rfl
      | cons x more =>
        -- The byte is one of this character's, so it is all of them.
        obtain ⟨rfl, hrest⟩ := List.cons.inj hbehind
        have hnat : c.toNat = b.toNat := ascii_of_mem (by simp [hbefore]) hb
        have hsepnat : sep.toNat = b.toNat := ascii_of_mem (by simp [hsep]) hb
        obtain rfl : c = sep := Char.toNat_inj.mp (hnat.trans hsepnat.symm)
        rw [hsep] at hbefore
        cases before with
        | nil =>
          obtain rfl : more = [] := by simpa using hbefore.symm
          exact ⟨[], t, rfl, rfl, hrest.symm⟩
        | cons y before => simp at hbefore

theorem lineFeed_not_mem (h : '\n' ∉ t) : 0x0A ∉ encode t := by
  intro hm
  have hsep : String.utf8EncodeChar '\n' = [0x0A] := rfl
  obtain ⟨before, behind, hsplit⟩ := List.append_of_mem hm
  obtain ⟨s, u, rfl, -⟩ := exists_split_of_encode hsep (by decide) hsplit
  exact h (by simp)

end CodeNotes.Utf8
