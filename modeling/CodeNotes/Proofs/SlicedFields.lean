import CodeNotes.Proofs.LeftmostReading
import CodeNotes.Proofs.Slices
/-!
The fields of a note once more, by a reader that knows its text only in bytes: it adds up
offsets, slices at them, and looks at the shape of a date byte by byte. It never slips and reads
the same fields. Its loop over the semicolons goes on further ahead in every round.
-/
namespace CodeNotes.Note.Sliced

def isDigitByte (b : UInt8) : Bool :=
  0x30 ≤ b && b ≤ 0x39

/-- Digits, and dashes at the fifth and the eighth place. -/
def isDateShape (bytes : List UInt8) : Bool :=
  bytes.zipIdx.all fun p => if p.2 = 4 ∨ p.2 = 7 then p.1 == 0x2D else isDigitByte p.1

/-- The date token that a text begins with, the first ten bytes of it. -/
def dateToken (s : Text) : Except Slip (Option Text) :=
  if (Utf8.encode s).length < 10 then .ok none
  else do
    if isDateShape (← bytesTo (Utf8.encode s) 10) then
      return some (← sliceTo s 10)
    else return none

/-- The size of the group that a text begins with, by what is left behind the group. -/
def groupSize (s : Text) : Except Slip (Option Nat) :=
  match after? [';'] s with
  | none => .ok none
  | some behind => do
    let body := behind.dropWhile isBlank
    match ← dateToken body with
    | none => return none
    | some token =>
      let tail ← sliceFrom body (byteSize token)
      match after? [';'] (tail.dropWhile isBlank) with
      | none => return none
      | some rest => return some (← minus (byteSize s) (byteSize rest))

def user (raw : Text) : Except Slip Text :=
  match offsetOf? [';'] raw with
  | some n => if 0 < n then sliceTo raw n else .ok []
  | none => .ok []

def date (raw : Text) : Except Slip Text := do
  let token ← ((Cursor.start raw).places ';').findSomeM? fun mark => do
    let behind ← sliceFrom raw (mark.offset + 1)
    dateToken (behind.dropWhile isBlank)
  return token.getD []

/-- A semicolon as the loop of the comment meets it. -/
structure Semicolon where
  place : Nat
  /-- The size of the group that it opens, if it opens one. -/
  opens : Option Nat

/-- One round of the loop: the next semicolon from a place on. -/
def semicolon (raw : Text) (cursor : Nat) : Except Slip (Option Semicolon) := do
  let ahead ← sliceFrom raw cursor
  match offsetOf? [';'] ahead with
  | none => return none
  | some offset =>
    let place := cursor + offset
    let opened ← sliceFrom raw place
    return some ⟨place, ← groupSize opened⟩

/-- Where the loop goes on: behind the group, or else one byte further. -/
def Semicolon.resume (s : Semicolon) : Nat :=
  s.place + s.opens.getD 1

/-- A round is safe when it slices at a boundary and moves on. -/
structure Semicolon.Safe (raw : Text) (cursor : Nat) (s : Semicolon) : Prop where
  place : Boundary raw s.place
  onward : Onward raw cursor s.resume

/-- A round of the loop that leads from one place to another. -/
def CommentStep (raw : Text) (cursor cursor' : Nat) : Prop :=
  ∃ s, semicolon raw cursor = .ok (some s) ∧ s.resume = cursor'

theorem isDigitByte_iff : isDigitByte b = true ↔ 48 ≤ b.toNat ∧ b.toNat ≤ 57 := by
  simp only [isDigitByte, UInt8.le_iff_toNat_le, Bool.and_eq_true, decide_eq_true_eq]
  rfl

theorem isDigit_asciiChar (h : isDigitByte b = true) : isDigit (Utf8.asciiChar b) = true := by
  have hr := isDigitByte_iff.mp h
  have hn : (Utf8.asciiChar b).val.toNat = b.toNat := Utf8.toNat_ofNat_char (by omega)
  simp only [isDigit, Bool.and_eq_true, decide_eq_true_eq, Char.le_def, UInt32.le_iff_toNat_le]
  rw [hn]
  exact hr

theorem isDigitByte_ofNat (h : isDigit c = true) : isDigitByte (UInt8.ofNat c.toNat) = true := by
  have hr := digit_range h
  rw [isDigitByte_iff, Utf8.toNat_ofNat (by omega)]
  exact hr

theorem isDateShape_encode (h : IsDate token) : isDateShape (Utf8.encode token) = true := by
  rw [Utf8.encode_ascii fun c hc => h.ascii hc]
  obtain ⟨y, m, d, rfl, hy, hm, hd, hdig⟩ := h
  match y, m, d, hy, hm, hd with
  | [y₁, y₂, y₃, y₄], [m₁, m₂], [d₁, d₂], _, _, _ =>
    have hbyte : ∀ c ∈ [y₁, y₂, y₃, y₄, m₁, m₂, d₁, d₂],
        isDigitByte (UInt8.ofNat c.toNat) = true :=
      fun c hc => isDigitByte_ofNat (hdig c (by simpa using hc))
    simp only [List.forall_mem_cons] at hbyte
    simp [isDateShape, hbyte]

/-- Ten bytes of the shape are ten characters, and these are a date token. -/
theorem isDate_of_shape {bytes : List UInt8} (hlen : bytes.length = 10)
    (h : isDateShape bytes = true) :
    IsDate (bytes.map Utf8.asciiChar) ∧ ∀ b ∈ bytes, b.toNat < 0x80 := by
  match bytes, hlen with
  | [y₁, y₂, y₃, y₄, s₁, m₁, m₂, s₂, d₁, d₂], _ =>
    simp only [isDateShape, List.zipIdx_cons, List.zipIdx_nil, List.all_cons, List.all_nil] at h
    obtain ⟨hy₁, hy₂, hy₃, hy₄, rfl, hm₁, hm₂, rfl, hd₁, hd₂⟩ :
        isDigitByte y₁ ∧ isDigitByte y₂ ∧ isDigitByte y₃ ∧ isDigitByte y₄ ∧ s₁ = 0x2D ∧
          isDigitByte m₁ ∧ isDigitByte m₂ ∧ s₂ = 0x2D ∧ isDigitByte d₁ ∧ isDigitByte d₂ := by
      simpa using h
    have hdigit : ∀ b ∈ [y₁, y₂, y₃, y₄] ++ [m₁, m₂] ++ [d₁, d₂], isDigitByte b = true := by
      simp [hy₁, hy₂, hy₃, hy₄, hm₁, hm₂, hd₁, hd₂]
    constructor
    · refine ⟨[y₁, y₂, y₃, y₄].map Utf8.asciiChar, [m₁, m₂].map Utf8.asciiChar,
        [d₁, d₂].map Utf8.asciiChar, rfl, rfl, rfl, rfl, ?_⟩
      rw [← List.map_append, ← List.map_append]
      intro c hc
      obtain ⟨b, hb, rfl⟩ := List.mem_map.mp hc
      exact isDigit_asciiChar (hdigit b hb)
    · intro b hb
      by_cases hdash : b = 0x2D
      · subst hdash
        decide
      · have hb' : b ∈ [y₁, y₂, y₃, y₄] ++ [m₁, m₂] ++ [d₁, d₂] := by
          simpa [hdash] using hb
        have := isDigitByte_iff.mp (hdigit b hb')
        omega

/-- The test of ten bytes finds the date tokens, and behind one the text can be cut. -/
theorem dateToken_eq (c : Cursor) : dateToken c.rest = .ok ((date? c).map (·.1)) := by
  cases hd : date? c with
  | some found =>
    obtain ⟨token, c'⟩ := found
    obtain ⟨hdate, hrest, -⟩ := date?_eq_some_iff.mp hd
    have hlen : (Utf8.encode token).length = 10 := by rw [length_encode, hdate.size]
    have hlong : ¬ (Utf8.encode c.rest).length < 10 := by
      rw [hrest, Utf8.encode_append, List.length_append]
      omega
    have hbytes : bytesTo (Utf8.encode c.rest) 10 = .ok (Utf8.encode token) := by
      rw [hrest, Utf8.encode_append, bytesTo, if_pos (by simp [hlen]), List.take_left' hlen]
    have hslice : sliceTo c.rest 10 = .ok token :=
      sliceTo_eq_ok_iff.mpr ⟨c'.rest, hrest, hdate.size⟩
    simp [dateToken, hlong, hbytes, isDateShape_encode hdate, hslice, bind, Except.bind, pure,
      Except.pure]
  | none =>
    by_cases hshort : (Utf8.encode c.rest).length < 10
    · simp [dateToken, hshort]
    have hbytes : bytesTo (Utf8.encode c.rest) 10 = .ok ((Utf8.encode c.rest).take 10) :=
      if_pos (by omega)
    cases hs : isDateShape ((Utf8.encode c.rest).take 10) with
    | false => simp [dateToken, hshort, hbytes, hs, bind, Except.bind, pure, Except.pure]
    | true =>
      obtain ⟨hdate, hascii⟩ := isDate_of_shape (List.length_take_of_le (by omega)) hs
      obtain ⟨u, hu⟩ := Utf8.exists_ascii_of_encode hascii (List.take_append_drop 10 _).symm
      have hfound := date?_eq_some_iff.mpr
        ⟨hdate, (show c.rest = _ ++ (Cursor.mk _ u).rest from hu), rfl⟩
      rw [hd] at hfound
      contradiction

theorem groupSize_eq (s : Text) : groupSize s = .ok (groupSize? s) := by
  cases hs : after? [';'] s with
  | none => simp [groupSize, groupSize?, group?, Cursor.expect?, Cursor.start, hs]
  | some behind =>
    let c₁ : Cursor := ⟨0 + byteSize [';'], behind⟩
    have hgroup : group? (Cursor.start s) =
        (date? c₁.skipBlank).bind fun p => p.2.skipBlank.expect? [';'] := by
      simp [group?, Cursor.expect?, Cursor.start, hs, c₁]
    have htoken : dateToken (behind.dropWhile isBlank) = .ok ((date? c₁.skipBlank).map (·.1)) :=
      dateToken_eq c₁.skipBlank
    simp only [groupSize, hs, groupSize?, hgroup, htoken, bind, Except.bind]
    cases hd : date? c₁.skipBlank with
    | none => rfl
    | some found =>
      obtain ⟨token, c₂⟩ := found
      obtain ⟨-, hbody, -⟩ := date?_eq_some_iff.mp hd
      have htail : sliceFrom (behind.dropWhile isBlank) (byteSize token) = .ok c₂.rest :=
        sliceFrom_eq_ok_iff.mpr ⟨token, hbody, rfl⟩
      simp only [Option.map_some, htail, Option.bind_some, Cursor.expect?]
      cases hclose : after? [';'] (c₂.rest.dropWhile isBlank) with
      | none => simp [Cursor.skipBlank, Cursor.skipWhile, hclose, pure, Except.pure]
      | some rest =>
        have hrest : rest <:+ s := calc
          rest <:+ c₂.rest.dropWhile isBlank := ⟨[';'], (after?_eq_some_iff.mp hclose).symm⟩
          _ <:+ c₂.rest := List.dropWhile_suffix isBlank
          _ <:+ behind.dropWhile isBlank := ⟨token, hbody.symm⟩
          _ <:+ behind := List.dropWhile_suffix isBlank
          _ <:+ s := ⟨[';'], (after?_eq_some_iff.mp hs).symm⟩
        simp [Cursor.skipBlank, Cursor.skipWhile, hclose, minus_of_le (byteSize_le_of_suffix hrest),
          pure, Except.pure]

theorem user_eq (raw : Text) : user raw = .ok (Note.user raw) := by
  rw [user, Note.user, offsetOf?_char]
  by_cases hm : ';' ∈ raw
  · simp only [hm, ↓reduceIte]
    split
    · exact sliceTo_eq_ok_iff.mpr ⟨raw.dropWhile (· ≠ ';'), by simp, rfl⟩
    · next hzero =>
      have hnil : raw.takeWhile (· ≠ ';') = [] := byteSize_eq_zero_iff.mp (by omega)
      rw [hnil]
  · simp only [hm, ↓reduceIte]

theorem findSomeM?_ok {l : List α} {f : α → Except Slip (Option β)} {g : α → Option β}
    (h : ∀ a ∈ l, f a = .ok (g a)) : l.findSomeM? f = .ok (l.findSome? g) := by
  induction l with
  | nil => rfl
  | cons a l ih =>
    have hl := ih (fun b hb => h b (by simp [hb]))
    simp only [List.findSomeM?, h a (by simp), bind, Except.bind, List.findSome?_cons]
    cases g a with
    | none => exact hl
    | some b => rfl

theorem date_eq (raw : Text) : date raw = .ok (Note.date raw) := by
  have hplace : ∀ c ∈ (Cursor.start raw).places ';',
      (do
        let behind ← sliceFrom raw (c.offset + 1)
        dateToken (behind.dropWhile isBlank)) =
      .ok ((date? (c.skip 1).skipBlank).map (·.1)) := by
    intro c hc
    obtain ⟨hreach, rest, hrest⟩ := Cursor.mem_places hc
    have hslice : sliceFrom raw (c.offset + 1) = .ok (c.skip 1).rest := by
      have hoff : (c.skip 1).offset = c.offset + 1 := by
        rw [Cursor.skip, hrest]
        rfl
      rw [← hoff]
      exact Cursor.sliceFrom_of_reaches (hreach.trans (Cursor.reaches_skip c 1))
    rw [hslice]
    exact dateToken_eq (c.skip 1).skipBlank
  rw [date, findSomeM?_ok hplace]
  rfl

/-- The semicolon that a cursor stands at. -/
def ofCursor (c : Cursor) : Semicolon :=
  ⟨c.offset, groupSize? c.rest⟩

theorem mem_iff_ahead (c : Cursor) : ';' ∈ c.rest ↔ (c.skipWhile (· ≠ ';')).rest ≠ [] := by
  simp only [Cursor.skipWhile, ne_eq, List.dropWhile_eq_nil_iff, decide_eq_true_eq]
  constructor
  · intro hm hnone
    exact hnone _ hm rfl
  · intro hsome
    apply Classical.byContradiction
    intro hm
    exact hsome fun x hx he => hm (he ▸ hx)

/-- At a cursor of the text a round meets the semicolon that the loop skips to. -/
theorem semicolon_eq_some (h : Cursor.Reaches (Cursor.start raw) c)
    (hahead : (c.skipWhile (· ≠ ';')).rest ≠ []) :
    semicolon raw c.offset = .ok (some (ofCursor (c.skipWhile (· ≠ ';')))) := by
  have hm : ';' ∈ c.rest := (mem_iff_ahead c).mpr hahead
  have hreach := h.trans (Cursor.reaches_skipWhile c (· ≠ ';'))
  have hoff : c.offset + byteSize (c.rest.takeWhile (· ≠ ';')) =
      (c.skipWhile (· ≠ ';')).offset := rfl
  simp only [semicolon, Cursor.sliceFrom_of_reaches h, offsetOf?_char, bind, Except.bind, hm,
    ↓reduceIte, hoff, Cursor.sliceFrom_of_reaches hreach, groupSize_eq]
  rfl

theorem semicolon_eq_none (h : Cursor.Reaches (Cursor.start raw) c)
    (hend : (c.skipWhile (· ≠ ';')).rest = []) : semicolon raw c.offset = .ok none := by
  have hm : ';' ∉ c.rest := fun hm => (mem_iff_ahead c).mp hm hend
  simp only [semicolon, Cursor.sliceFrom_of_reaches h, offsetOf?_char, bind, Except.bind, hm,
    ↓reduceIte]
  rfl

theorem resume_group (h : group? c = some tail) :
    (ofCursor c).resume = tail.offset ∧ (ofCursor c).opens.isSome = true := by
  have hoff := offset_group? c
  rw [h, Option.map_some] at hoff
  obtain ⟨n, hn, htail⟩ := Option.map_eq_some_iff.mp hoff.symm
  simp [Semicolon.resume, ofCursor, hn, htail]

theorem resume_plain (h : group? c = none) (hc : c.rest = ';' :: r) :
    (ofCursor c).resume = (c.skip 1).offset ∧ (ofCursor c).opens.isSome = false := by
  have hoff := offset_group? c
  rw [h, Option.map_none] at hoff
  have hn : groupSize? c.rest = none := Option.map_eq_none_iff.mp hoff.symm
  have hskip : (c.skip 1).offset = c.offset + 1 := by
    rw [Cursor.skip, hc]
    rfl
  simp [Semicolon.resume, ofCursor, hn, hskip]

theorem reaches_group (h : group? c = some tail) : Cursor.Reaches c tail := by
  obtain ⟨g, -, hrest, hoff⟩ := group?_eq_some_iff.mp h
  exact ⟨g, hrest, hoff⟩

theorem onward_of_cursor (h : Cursor.Reaches (Cursor.start raw) c) (hc : c.rest = ';' :: r) :
    Onward raw c.offset (ofCursor c).resume := by
  cases hg : group? c with
  | some tail =>
    obtain ⟨g, hgroup, hrest, hoff⟩ := group?_eq_some_iff.mp hg
    have hsize := hgroup.size_ge
    have hon := Cursor.boundary_of_reaches (h.trans (reaches_group hg))
    rw [(resume_group hg).1]
    exact ⟨by omega, hon, hon.le⟩
  | none =>
    have hon := Cursor.boundary_of_reaches (h.trans (Cursor.reaches_skip c 1))
    rw [(resume_plain hg hc).1]
    refine ⟨?_, hon, hon.le⟩
    rw [Cursor.skip, hc]
    exact Nat.lt_succ_self _

theorem safe_of_semicolon (h : semicolon raw cursor = .ok (some s)) : s.Safe raw cursor := by
  have hcursor : Boundary raw cursor := boundary_of_bind h
  obtain ⟨c, hreach, rfl⟩ := Cursor.exists_reaches hcursor
  by_cases hend : (c.skipWhile (· ≠ ';')).rest = []
  · rw [semicolon_eq_none hreach hend] at h
    cases Except.ok.inj h
  · rw [semicolon_eq_some hreach hend] at h
    obtain rfl := Option.some.inj (Except.ok.inj h)
    obtain ⟨r, hr⟩ := semicolon_ahead c hend
    have hpass := Cursor.reaches_skipWhile c (· ≠ ';')
    have honward := onward_of_cursor (hreach.trans hpass) hr
    have hfurther := Nat.lt_of_le_of_lt hpass.offset_le honward.further
    exact ⟨Cursor.boundary_of_reaches (hreach.trans hpass), hfurther, honward.boundary,
      honward.within⟩

theorem onward_of_commentStep (h : CommentStep raw cursor cursor') :
    Onward raw cursor cursor' := by
  obtain ⟨s, hs, rfl⟩ := h
  exact (safe_of_semicolon hs).onward

theorem exists_semicolon (h : Boundary raw cursor) : ∃ found, semicolon raw cursor = .ok found := by
  obtain ⟨c, hreach, rfl⟩ := Cursor.exists_reaches h
  by_cases hend : (c.skipWhile (· ≠ ';')).rest = []
  · exact ⟨none, semicolon_eq_none hreach hend⟩
  · exact ⟨_, semicolon_eq_some hreach hend⟩

/-- Where the last group ends that the loop finds. -/
def lastGroup (raw : Text) (cursor : Nat) (last : Option Nat) : Except Slip (Option Nat) :=
  match _hs : semicolon raw cursor with
  | .error slip => .error slip
  | .ok none => .ok last
  | .ok (some s) => lastGroup raw s.resume (if s.opens.isSome then some s.resume else last)
termination_by byteSize raw - cursor
decreasing_by
  have honward := (safe_of_semicolon ‹_›).onward
  have hfurther := honward.further
  have hwithin := honward.within
  omega

theorem lastGroup_of_none (h : semicolon raw cursor = .ok none) :
    lastGroup raw cursor last = .ok last := by
  rw [lastGroup]
  split <;> simp_all

theorem lastGroup_of_some (h : semicolon raw cursor = .ok (some s)) :
    lastGroup raw cursor last =
      lastGroup raw s.resume (if s.opens.isSome then some s.resume else last) := by
  rw [lastGroup]
  split <;> simp_all

/-- The loop by offsets goes the way of the loop of the comment. -/
theorem lastGroup_eq (h : Cursor.Reaches (Cursor.start raw) c) (last : Option Cursor) :
    lastGroup raw c.offset (last.map (·.offset)) =
      .ok ((Note.lastGroup c last).map (·.offset)) := by
  fun_induction Note.lastGroup c last with
  | case1 c last ahead hend => exact lastGroup_of_none (semicolon_eq_none h hend)
  | case2 c last ahead hend tail hg ih =>
    have hahead : Cursor.Reaches (Cursor.start raw) ahead := h.trans (Cursor.reaches_skipWhile c _)
    have hs : semicolon raw c.offset = .ok (some (ofCursor ahead)) := semicolon_eq_some h hend
    obtain ⟨hresume, hopens⟩ := resume_group hg
    rw [lastGroup_of_some hs, hresume, if_pos hopens]
    exact ih (hahead.trans (reaches_group hg))
  | case3 c last ahead hend hg ih =>
    have hahead : Cursor.Reaches (Cursor.start raw) ahead := h.trans (Cursor.reaches_skipWhile c _)
    have hs : semicolon raw c.offset = .ok (some (ofCursor ahead)) := semicolon_eq_some h hend
    obtain ⟨r, hr⟩ := semicolon_ahead c hend
    obtain ⟨hresume, hopens⟩ := resume_plain hg hr
    rw [lastGroup_of_some hs, hresume, if_neg (by simp [hopens])]
    exact ih (hahead.trans (Cursor.reaches_skip ahead 1))

theorem reaches_lastGroup (h : Cursor.Reaches s c) (hlast : ∀ l ∈ last, Cursor.Reaches s l)
    (ht : Note.lastGroup c last = some tail) : Cursor.Reaches s tail := by
  fun_induction Note.lastGroup c last with
  | case1 c last ahead hend => exact hlast tail ht
  | case2 c last ahead hend behind hg ih =>
    have hreach := (h.trans (Cursor.reaches_skipWhile c _)).trans (reaches_group hg)
    exact ih hreach (by simpa using hreach) ht
  | case3 c last ahead hend hg ih =>
    have hreach := (h.trans (Cursor.reaches_skipWhile c _)).trans (Cursor.reaches_skip ahead 1)
    exact ih hreach hlast ht

def comment (raw : Text) : Except Slip Text := do
  match ← lastGroup raw 0 none with
  | none => return raw
  | some place =>
    let tail := (← sliceFrom raw place).dropWhile isBlank
    return if tail = [] then raw else tail

theorem comment_eq (raw : Text) : comment raw = .ok (Note.comment raw) := by
  have hreach := Cursor.Reaches.refl (Cursor.start raw)
  have hl : lastGroup raw 0 none = .ok ((Note.lastGroup (Cursor.start raw) none).map (·.offset)) :=
    lastGroup_eq hreach none
  simp only [comment, Note.comment, hl, bind, Except.bind]
  cases ht : Note.lastGroup (Cursor.start raw) none with
  | none => rfl
  | some tail =>
    have htail : Cursor.Reaches (Cursor.start raw) tail :=
      reaches_lastGroup hreach (by simp) ht
    simp only [Option.map_some, Cursor.sliceFrom_of_reaches htail]
    rfl

end CodeNotes.Note.Sliced
