import CodeNotes.Proofs.Groups
import Mathlib.Data.List.TakeWhile
/-!
The date and the comment of a note by the leftmost reading of its text. The reading cuts
the text into groups and the stretches between them; a semicolon that closes one group
cannot open the next. What is taken as the comment is read as its own comment again.
-/
namespace CodeNotes.Note

/-- The token behind the first semicolon that one follows. -/
def FirstDate (raw token : Text) : Prop :=
  ∃ s t, raw = s ++ ';' :: t ∧ Dated t token ∧
    ∀ s' t' token', raw = s' ++ ';' :: t' → Dated t' token' → s.length ≤ s'.length

/-- No semicolon in a stretch begins a group of the text, which goes on with `rest`. -/
def Clear (t rest : Text) : Prop :=
  ∀ a b, t = a ++ ';' :: b → ¬ BeginsGroup (';' :: b ++ rest)

/-- A text as stretches with a group behind each, and the tail behind the last group. -/
inductive Reading : Text → List (Text × Text) → Text → Prop where
  | plain : Clear t [] → Reading t [] t
  | group : Clear t (g ++ rest) → IsGroup g → Reading rest parts tail →
      Reading (t ++ (g ++ rest)) ((t, g) :: parts) tail

theorem Dated.unique (h : Dated t token) (h' : Dated t token') : token = token' := by
  have hr := (date?_skipBlank_iff 0).mpr h
  rw [(date?_skipBlank_iff 0).mpr h', Option.some.injEq] at hr
  exact hr.symm

theorem FirstDate.unique (h : FirstDate raw token) (h' : FirstDate raw token') :
    token = token' := by
  obtain ⟨s, t, hr, hd, hmin⟩ := h
  obtain ⟨s', t', hr', hd', hmin'⟩ := h'
  have hlen : s.length = s'.length :=
    Nat.le_antisymm (hmin s' t' token' hr' hd') (hmin' s t token hr hd)
  obtain ⟨-, ht⟩ := List.append_inj (hr.symm.trans hr') hlen
  obtain rfl := (List.cons.inj ht).2
  exact hd.unique hd'

/-- A text without a semicolon ends before the first semicolon behind it. -/
theorem first_semicolon (hs : ';' ∉ s) (h : s ++ t = s' ++ ';' :: t') : s.length ≤ s'.length := by
  rcases List.append_eq_append_iff.mp h with ⟨u, rfl, -⟩ | ⟨u, rfl, hu⟩
  · simp
  · cases u with
    | nil => simp
    | cons c u =>
      obtain ⟨rfl, -⟩ := List.cons.inj hu
      simp at hs

theorem firstDate_here (h : Dated t token) : FirstDate (';' :: t) token :=
  ⟨[], t, rfl, h, fun _ _ _ _ _ => Nat.zero_le _⟩

/-- A character that opens no date is passed. -/
theorem firstDate_cons (hc : c = ';' → ∀ token, ¬ Dated t token) :
    FirstDate (c :: t) token ↔ FirstDate t token := by
  constructor
  · rintro ⟨s, u, hr, hd, hmin⟩
    cases s with
    | nil =>
      obtain ⟨rfl, rfl⟩ := List.cons.inj hr
      exact absurd hd (hc rfl token)
    | cons x s =>
      obtain ⟨rfl, rfl⟩ := List.cons.inj hr
      refine ⟨s, u, rfl, hd, ?_⟩
      intro s' t' token' hr' hd'
      have := hmin (c :: s') t' token' (by rw [hr']; rfl) hd'
      simpa using this
  · rintro ⟨s, u, rfl, hd, hmin⟩
    refine ⟨c :: s, u, rfl, hd, ?_⟩
    intro s' t' token' hr' hd'
    cases s' with
    | nil =>
      obtain ⟨rfl, rfl⟩ := List.cons.inj hr'
      exact absurd hd' (hc rfl token')
    | cons x s' =>
      have := hmin s' t' token' (List.cons.inj hr').2 hd'
      simpa using this

theorem not_firstDate_nil : ¬ FirstDate [] token := by
  rintro ⟨s, t, hr, -⟩
  simp at hr

/-- Trying every semicolon in turn finds the first date. -/
theorem places_firstDate (token : Text) (offset : Nat) (t : Text) :
    (Cursor.places.go ';' offset t).findSome?
        (fun c => (date? (c.skip 1).skipBlank).map (·.1)) = some token ↔
      FirstDate t token := by
  induction t generalizing offset with
  | nil => simp [Cursor.places.go, not_firstDate_nil]
  | cons c t ih =>
    by_cases hc : c = ';'
    · subst hc
      have hskip : Cursor.skip ⟨offset, ';' :: t⟩ 1 = ⟨offset + byteSize [';'], t⟩ := rfl
      simp only [Cursor.places.go, ↓reduceIte, List.findSome?_cons, hskip]
      cases hd : (date? (Cursor.skipBlank ⟨offset + byteSize [';'], t⟩)).map (·.1) with
      | none =>
        have hnone : ∀ token, ¬ Dated t token := by
          intro token ht
          rw [(date?_skipBlank_iff _).mpr ht] at hd
          contradiction
        rw [firstDate_cons (fun _ => hnone)]
        exact ih _
      | some found =>
        have hfound := firstDate_here ((date?_skipBlank_iff _).mp hd)
        constructor
        · intro h
          obtain rfl := Option.some.inj h
          exact hfound
        · intro h
          exact congrArg some (hfound.unique h)
    · simp only [Cursor.places.go, hc, ↓reduceIte]
      rw [firstDate_cons (fun h => absurd h hc)]
      exact ih _

theorem firstDate_iff : FirstDate raw token ↔ date raw = token ∧ token ≠ [] := by
  have hp := places_firstDate token 0 raw
  constructor
  · intro h
    have hd : date raw = token := by
      rw [date, Cursor.places, Cursor.start, hp.mpr h]
      rfl
    obtain ⟨s, t, -, ⟨w, rest, -, -, hdate⟩, -⟩ := h
    obtain ⟨c, r, hne, -⟩ := hdate.head
    exact ⟨hd, by simp [hne]⟩
  · rintro ⟨hd, hne⟩
    rw [date, Cursor.places, Cursor.start] at hd
    apply hp.mp
    cases hf : (Cursor.places.go ';' 0 raw).findSome?
        (fun c => (date? (c.skip 1).skipBlank).map (·.1)) with
    | none =>
      rw [hf] at hd
      exact absurd hd.symm hne
    | some found =>
      rw [hf] at hd
      exact congrArg some hd

/-- Where some semicolon opens a date, a first one does. -/
theorem exists_firstDate (h : Dated u token) (s : Text) : ∃ d, FirstDate (s ++ ';' :: u) d := by
  induction s with
  | nil => exact ⟨token, firstDate_here h⟩
  | cons c s ih =>
    by_cases hc : c = ';' ∧ ∃ d, Dated (s ++ ';' :: u) d
    · obtain ⟨rfl, d, hd⟩ := hc
      exact ⟨d, firstDate_here hd⟩
    · obtain ⟨d, hd⟩ := ih
      refine ⟨d, (firstDate_cons ?_).mpr hd⟩
      intro he d' hd'
      exact hc ⟨he, d', hd'⟩

theorem date_eq_nil_iff :
    date raw = [] ↔ ¬ ∃ s t token, raw = s ++ ';' :: t ∧ Dated t token := by
  constructor
  · rintro hn ⟨s, t, token, rfl, ht⟩
    obtain ⟨d, hd⟩ := exists_firstDate ht s
    obtain ⟨he, hne⟩ := firstDate_iff.mp hd
    exact hne (he.symm.trans hn)
  · intro hno
    cases hd : date raw with
    | nil => rfl
    | cons c d =>
      obtain ⟨s, t, hr, ht, -⟩ := firstDate_iff.mpr ⟨hd, by simp⟩
      exact absurd ⟨s, t, _, hr, ht⟩ hno

theorem clear_of_not_mem (h : ';' ∉ t) : Clear t rest := by
  rintro a b rfl
  simp at h

theorem clear_semicolon (h : ¬ BeginsGroup (';' :: rest)) : Clear [';'] rest := by
  intro a b he
  cases a with
  | nil =>
    obtain ⟨-, rfl⟩ := List.cons.inj he
    exact h
  | cons c a => simp at he

/-- A group in a stretch begins at a semicolon of it. -/
theorem not_clear_group (hg : IsGroup g) : ¬ Clear (t ++ (g ++ u)) rest := by
  intro hc
  obtain ⟨b, rfl⟩ := hg.head
  exact hc t (b ++ u) (by simp) ⟨';' :: b, u ++ rest, by simp, hg⟩

/-- A stretch goes on no further than to where a group begins. -/
theorem stretch_end (hg : IsGroup g) (h : g ++ rest = u ++ rest') (hc : Clear (t ++ u) rest') :
    u = [] := by
  cases u with
  | nil => rfl
  | cons c u =>
    obtain ⟨b, rfl⟩ := hg.head
    obtain ⟨rfl, -⟩ := List.cons.inj h
    exact absurd ⟨_, rest, h.symm, hg⟩ (hc t u rfl)

theorem Clear.append (hs : Clear s (t ++ rest)) (ht : Clear t rest) : Clear (s ++ t) rest := by
  intro a b he
  rcases List.append_eq_append_iff.mp he with ⟨u, rfl, hu⟩ | ⟨u, rfl, hu⟩
  · exact ht u b hu
  · cases u with
    | nil => exact ht [] b hu.symm
    | cons c u =>
      obtain ⟨rfl, rfl⟩ := List.cons.inj hu
      simpa using hs a u rfl

/-- A stretch in front lengthens the first stretch of a reading, or its tail where the
reading has no group. -/
theorem Reading.push (h : Reading raw parts tail) (hs : Clear s raw) :
    ∃ parts' tail', Reading (s ++ raw) parts' tail' ∧
      (parts = [] → parts' = []) ∧ (parts ≠ [] → parts' ≠ [] ∧ tail' = tail) := by
  cases h with
  | plain ht =>
    refine ⟨[], s ++ raw, .plain (Clear.append ?_ ht), fun _ => rfl, fun h => absurd rfl h⟩
    simpa using hs
  | @group t g rest parts _ ht hg hr =>
    refine ⟨(s ++ t, g) :: parts, tail, ?_, fun h => ?_, fun _ => ⟨by simp, rfl⟩⟩
    · rw [← List.append_assoc]
      exact .group (Clear.append hs ht) hg hr
    · simp at h

/-- At the end of a text, a stretch is one without a group anywhere. -/
theorem clear_iff_groupless : Clear t [] ↔ Groupless t := by
  constructor
  · rintro hc g hg ⟨s, rest, he⟩
    obtain ⟨b, rfl⟩ := hg.head
    exact hc s (b ++ rest) (by rw [← he]; simp) ⟨';' :: b, rest, by simp, hg⟩
  · rintro hn a b rfl ⟨g, rest, hr, hg⟩
    refine hn g hg ⟨a, rest, ?_⟩
    rw [List.append_assoc, ← hr, List.append_nil]

theorem Reading.plain_tail (h : Reading raw [] tail) : tail = raw := by
  cases h with
  | plain _ => rfl

theorem skipWhile_passes (c : Cursor) :
    ∃ s, ';' ∉ s ∧ c.rest = s ++ (c.skipWhile (· ≠ ';')).rest := by
  refine ⟨c.rest.takeWhile (· ≠ ';'), ?_, List.takeWhile_append_dropWhile.symm⟩
  intro hm
  have := List.all_eq_true.mp List.all_takeWhile _ hm
  simp at this

theorem semicolon_ahead (c : Cursor) (h : (c.skipWhile (· ≠ ';')).rest ≠ []) :
    ∃ rest, (c.skipWhile (· ≠ ';')).rest = ';' :: rest := by
  have hh := List.head?_dropWhile_not (· ≠ ';') c.rest
  cases hd : (c.skipWhile (· ≠ ';')).rest with
  | nil => exact absurd hd h
  | cons x rest =>
    simp only [Cursor.skipWhile] at hd
    rw [hd] at hh
    exact ⟨rest, by simpa using hh⟩

/-- The loop of the comment goes through a reading of what it has before it, and the tail
it remembers is the tail of that reading. -/
theorem lastGroup_reading (c : Cursor) (last : Option Cursor) :
    ∃ parts tail, Reading c.rest parts tail ∧ (parts = [] → lastGroup c last = last) ∧
      (parts ≠ [] → ∃ offset, lastGroup c last = some ⟨offset, tail⟩) := by
  fun_induction lastGroup c last with
  | case1 c last semicolon hend =>
    obtain ⟨s, hs, hr⟩ := skipWhile_passes c
    have he : c.rest = s := by
      rw [hr]
      simpa [semicolon] using hend
    exact ⟨[], c.rest, .plain (clear_of_not_mem (he ▸ hs)), fun _ => rfl, fun h => absurd rfl h⟩
  | case2 c last semicolon hend tail hg ih =>
    obtain ⟨s, hs, hr⟩ := skipWhile_passes c
    obtain ⟨g, hgroup, hrest, -⟩ := group?_eq_some_iff.mp hg
    obtain ⟨parts, t, hread, hnil, hcons⟩ := ih
    refine ⟨(s, g) :: parts, t, ?_, fun h => by simp at h, fun _ => ?_⟩
    · rw [hr, hrest]
      exact .group (clear_of_not_mem hs) hgroup hread
    · by_cases hp : parts = []
      · subst hp
        rw [hnil rfl, hread.plain_tail]
        exact ⟨tail.offset, rfl⟩
      · exact hcons hp
  | case3 c last semicolon hend hg ih =>
    obtain ⟨s, hs, hr⟩ := skipWhile_passes c
    obtain ⟨rest, hsemi⟩ : ∃ rest, semicolon.rest = ';' :: rest := semicolon_ahead c hend
    have hskip : (semicolon.skip 1).rest = rest := by
      rw [Cursor.skip, hsemi]
      rfl
    have hno : ¬ BeginsGroup (';' :: rest) := by
      rw [← hsemi]
      exact group?_eq_none_iff.mp hg
    obtain ⟨parts, t, hread, hnil, hcons⟩ := ih
    rw [hskip] at hread
    -- The semicolon opens no group, so it belongs to the stretch that the rest begins with.
    have hclear : Clear (s ++ [';']) rest :=
      Clear.append (clear_of_not_mem hs) (clear_semicolon hno)
    obtain ⟨parts', t', hread', hnil', hcons'⟩ := hread.push hclear
    have hwhole : s ++ [';'] ++ rest = c.rest := by
      rw [List.append_assoc, List.singleton_append, ← hsemi]
      exact hr.symm
    rw [hwhole] at hread'
    by_cases hp : parts = []
    · refine ⟨parts', t', hread', fun _ => hnil hp, fun h => absurd (hnil' hp) h⟩
    · obtain ⟨hne, rfl⟩ := hcons' hp
      exact ⟨parts', t', hread', fun h => absurd h hne, fun _ => hcons hp⟩

/-- A text has one reading: a shorter first stretch would leave out a semicolon that
begins a group, and of two groups that begin at one place neither is longer. -/
theorem Reading.unique (h : Reading raw parts tail) (h' : Reading raw parts' tail') :
    parts = parts' ∧ tail = tail' := by
  induction h generalizing parts' tail' with
  | plain ht =>
    cases h' with
    | plain _ => exact ⟨rfl, rfl⟩
    | group _ hg _ => exact absurd ht (not_clear_group hg)
  | @group t g rest parts tail ht hg hr ih =>
    generalize he : t ++ (g ++ rest) = raw at h'
    cases h' with
    | plain ht' =>
      subst he
      exact absurd ht' (not_clear_group hg)
    | @group t' g' rest' parts' _ ht' hg' hr' =>
      obtain ⟨rfl, hrest⟩ : t = t' ∧ g ++ rest = g' ++ rest' := by
        -- One stretch is a beginning of the other; what it leaves, `u`, is empty.
        rcases List.append_eq_append_iff.mp he with ⟨u, rfl, hu⟩ | ⟨u, rfl, hu⟩
        · obtain rfl := stretch_end hg hu ht'
          exact ⟨by simp, by simpa using hu⟩
        · obtain rfl := stretch_end hg' hu ht
          exact ⟨by simp, by simpa using hu.symm⟩
      obtain ⟨rfl, rfl⟩ := hg.unique hg' hrest
      obtain ⟨rfl, rfl⟩ := ih hr'
      exact ⟨rfl, rfl⟩

theorem Reading.join (h : Reading raw parts tail) :
    raw = parts.flatMap (fun p => p.1 ++ p.2) ++ tail := by
  induction h with
  | plain _ => rfl
  | group _ _ _ ih =>
    rw [ih]
    simp

theorem exists_reading (raw : Text) : ∃ parts tail, Reading raw parts tail := by
  obtain ⟨parts, tail, hread, -⟩ := lastGroup_reading (Cursor.start raw) none
  exact ⟨parts, tail, hread⟩

theorem comment_of_reading (h : Reading raw parts tail) :
    comment raw =
      if parts ≠ [] ∧ tail.dropWhile isBlank ≠ [] then tail.dropWhile isBlank else raw := by
  obtain ⟨parts', tail', hread, hnil, hcons⟩ := lastGroup_reading (Cursor.start raw) none
  obtain ⟨rfl, rfl⟩ := hread.unique h
  by_cases hp : parts' = []
  · simp [comment, hnil hp, hp]
  · obtain ⟨offset, hl⟩ := hcons hp
    by_cases ht : tail'.dropWhile isBlank = [] <;>
      simp [comment, hl, hp, ht, Cursor.skipBlank, Cursor.skipWhile]

/-- The date is the first one that a semicolon opens, and the comment follows the last
group of the one leftmost reading of the text. -/
theorem date_comment_of_leftmost_reading (raw : Text) :
    (∀ token, FirstDate raw token ↔ date raw = token ∧ token ≠ []) ∧
    (date raw = [] ↔ ¬ ∃ s t token, raw = s ++ ';' :: t ∧ Dated t token) ∧
    ∃ parts tail, Reading raw parts tail ∧
      raw = parts.flatMap (fun p => p.1 ++ p.2) ++ tail ∧
      (∀ parts' tail', Reading raw parts' tail' → parts' = parts ∧ tail' = tail) ∧
      comment raw =
        if parts ≠ [] ∧ tail.dropWhile isBlank ≠ [] then tail.dropWhile isBlank else raw := by
  refine ⟨fun _ => firstDate_iff, date_eq_nil_iff, ?_⟩
  obtain ⟨parts, tail, hread⟩ := exists_reading raw
  refine ⟨parts, tail, hread, hread.join, ?_, comment_of_reading hread⟩
  intro parts' tail' hread'
  exact hread'.unique hread

/-- No group is left behind the last one of a reading. -/
theorem Reading.groupless_tail (h : Reading raw parts tail) : Groupless tail := by
  induction h with
  | plain ht => exact clear_iff_groupless.mp ht
  | group _ _ _ ih => exact ih

theorem Reading.groupless_iff (h : Reading raw parts tail) : Groupless raw ↔ parts = [] := by
  cases h with
  | plain ht => simp [clear_iff_groupless.mp ht]
  | @group t g rest parts tail _ hg _ =>
    constructor
    · intro hraw
      exact absurd ⟨t, rest, by simp⟩ (hraw g hg)
    · intro hparts
      contradiction

theorem Groupless.part (h : Groupless t) (hs : s <:+: t) : Groupless s :=
  fun g hg hin => h g hg (hin.trans hs)

theorem comment_of_groupless (h : Groupless raw) : comment raw = raw := by
  have hread : Reading raw [] raw := .plain (clear_iff_groupless.mpr h)
  rw [comment_of_reading hread]
  simp

/-- Nothing but blanks follows the last group of a text. -/
def EndsInGroup (raw : Text) : Prop :=
  ∃ parts tail, Reading raw parts tail ∧ parts ≠ [] ∧ Blank tail

theorem comment_of_endsInGroup (h : EndsInGroup raw) : comment raw = raw := by
  obtain ⟨parts, tail, hread, -, htail⟩ := h
  have hblank : tail.dropWhile isBlank = [] := List.dropWhile_eq_nil_iff.mpr htail
  rw [comment_of_reading hread]
  simp [hblank]

/-- A comment holds a group only where there is nothing else to show than the whole text. -/
theorem not_groupless_comment_iff (raw : Text) :
    ¬ Groupless (comment raw) ↔ EndsInGroup raw := by
  obtain ⟨parts, tail, hread⟩ := exists_reading raw
  constructor
  · intro hcomment
    rw [comment_of_reading hread] at hcomment
    split at hcomment
    · next hbehind =>
      have hsuffix : tail.dropWhile isBlank <:+: tail := (List.dropWhile_suffix isBlank).isInfix
      exact absurd (hread.groupless_tail.part hsuffix) hcomment
    · next hbehind =>
      have hparts : parts ≠ [] := fun hnil => hcomment (hread.groupless_iff.mpr hnil)
      have hblank : tail.dropWhile isBlank = [] := by
        apply Classical.byContradiction
        intro hne
        exact hbehind ⟨hparts, hne⟩
      exact ⟨parts, tail, hread, hparts, List.dropWhile_eq_nil_iff.mp hblank⟩
  · intro hend
    rw [comment_of_endsInGroup hend]
    obtain ⟨parts', tail', hread', hparts, -⟩ := hend
    intro hraw
    exact hparts (hread'.groupless_iff.mp hraw)

/-- The last group of the reading is the one that the loop of the comment ends with. -/
theorem endsInGroup_iff (raw : Text) :
    EndsInGroup raw ↔
      ∃ last, lastGroup (Cursor.start raw) none = some last ∧ Blank last.rest := by
  obtain ⟨parts, tail, hread, hnil, hcons⟩ := lastGroup_reading (Cursor.start raw) none
  constructor
  · rintro ⟨parts', tail', hread', hparts, htail⟩
    obtain ⟨rfl, rfl⟩ := hread.unique hread'
    obtain ⟨offset, hlast⟩ := hcons hparts
    exact ⟨⟨offset, tail⟩, hlast, htail⟩
  · rintro ⟨last, hlast, hblank⟩
    have hparts : parts ≠ [] := by
      intro hp
      rw [hnil hp] at hlast
      contradiction
    obtain ⟨offset, hloop⟩ := hcons hparts
    obtain rfl := Option.some.inj (hloop.symm.trans hlast)
    exact ⟨parts, tail, hread, hparts, hblank⟩

/-- The comment of a comment is the comment itself. It has no group in it, unless it is the
whole text for want of anything but blanks behind the last group. -/
theorem comment_of_comment (raw : Text) :
    comment (comment raw) = comment raw ∧
    (Groupless (comment raw) ∨ EndsInGroup raw ∧ comment raw = raw) ∧
    (Groupless (comment raw) ↔ ¬ EndsInGroup raw) ∧
    (EndsInGroup raw ↔
      ∃ last, lastGroup (Cursor.start raw) none = some last ∧ Blank last.rest) := by
  have hiff := not_groupless_comment_iff raw
  by_cases hend : EndsInGroup raw
  · have hwhole := comment_of_endsInGroup hend
    refine ⟨congrArg comment hwhole, .inr ⟨hend, hwhole⟩, ?_, endsInGroup_iff raw⟩
    simpa [hend] using hiff
  · have hnone : Groupless (comment raw) := by simpa [hend] using hiff
    refine ⟨comment_of_groupless hnone, .inl hnone, ?_, endsInGroup_iff raw⟩
    simp [hnone, hend]

end CodeNotes.Note
