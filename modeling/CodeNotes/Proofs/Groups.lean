import CodeNotes.Note.Fields
import Mathlib.Data.List.Infix
/-!
The grammar of date tokens and of groups, and that the readers follow it. A reader takes
all blanks at once and never goes back; it misses nothing by that, since neither a date
token nor a semicolon begins with a blank.
-/
namespace CodeNotes.Note

def Blank (w : Text) : Prop :=
  ∀ c ∈ w, isBlank c = true

/-- Four, two and two digits with dashes between them. -/
def IsDate (token : Text) : Prop :=
  ∃ y m d, token = y ++ '-' :: m ++ '-' :: d ∧ y.length = 4 ∧ m.length = 2 ∧ d.length = 2 ∧
    ∀ c ∈ y ++ m ++ d, isDigit c = true

/-- A date token between two semicolons with blanks around it. -/
def IsGroup (g : Text) : Prop :=
  ∃ w₁ d w₂, g = ';' :: w₁ ++ d ++ w₂ ++ [';'] ∧ Blank w₁ ∧ IsDate d ∧ Blank w₂

/-- A text that begins with a group, in the parts of the group, and what follows it. -/
structure Parted (s w₁ d w₂ rest : Text) : Prop where
  joined : s = ';' :: w₁ ++ d ++ w₂ ++ ';' :: rest
  blank₁ : Blank w₁
  date : IsDate d
  blank₂ : Blank w₂

/-- A text that has a date token at its start, behind blanks. -/
def Dated (t token : Text) : Prop :=
  ∃ w rest, t = w ++ token ++ rest ∧ Blank w ∧ IsDate token

/-- A text that begins with a group. -/
def BeginsGroup (t : Text) : Prop :=
  ∃ g rest, t = g ++ rest ∧ IsGroup g

/-- A text that has no group in it. -/
def Groupless (t : Text) : Prop :=
  ∀ g, IsGroup g → ¬ g <:+: t

instance (w : Text) : Decidable (Blank w) :=
  decidable_of_iff (w.all isBlank = true) List.all_eq_true

theorem IsDate.head (h : IsDate token) : ∃ c rest, token = c :: rest ∧ isDigit c = true := by
  obtain ⟨y, m, d, rfl, hy, -, -, hd⟩ := h
  cases y with
  | nil => simp at hy
  | cons c y => exact ⟨c, y ++ '-' :: m ++ '-' :: d, by simp, hd c (by simp)⟩

theorem IsDate.mem (h : IsDate token) (hc : c ∈ token) : isDigit c = true ∨ c = '-' := by
  obtain ⟨y, m, d, rfl, -, -, -, hdig⟩ := h
  simp only [List.mem_append, List.mem_cons] at hc hdig
  rcases hc with (hc | rfl | hc) | rfl | hc
  · exact .inl (hdig c (.inl (.inl hc)))
  · exact .inr rfl
  · exact .inl (hdig c (.inl (.inr hc)))
  · exact .inr rfl
  · exact .inl (hdig c (.inr hc))

theorem IsDate.ascii (h : IsDate token) (hc : c ∈ token) : c.toNat < 0x80 := by
  rcases h.mem hc with hdigit | rfl
  · have := digit_range hdigit
    omega
  · decide

theorem IsDate.size (h : IsDate token) : byteSize token = 10 := by
  obtain ⟨y, m, d, rfl, hy, hm, hd, hdig⟩ := h
  have hsize : ∀ t : Text, (∀ c ∈ t, isDigit c = true) → byteSize t = t.length := by
    intro t
    induction t with
    | nil => simp [byteSize]
    | cons c t ih =>
      intro ht
      rw [byteSize_cons, digit_size (ht c (by simp)), ih (fun d hd => ht d (by simp [hd]))]
      simp [Nat.add_comm]
  rw [byteSize_append, byteSize_append, byteSize_cons, byteSize_cons,
    hsize y (fun c hc => hdig c (by simp [hc])), hsize m (fun c hc => hdig c (by simp [hc])),
    hsize d (fun c hc => hdig c (by simp [hc])), hy, hm, hd]
  rfl

/-- Blanks in front of something else are passed as a whole. -/
theorem skipBlank_eq (hw : Blank w) (hc : isBlank c = false) (offset : Nat) (t : Text) :
    Cursor.skipBlank ⟨offset, w ++ c :: t⟩ = ⟨offset + byteSize w, c :: t⟩ := by
  have hn : ¬ isBlank c = true := by simp [hc]
  simp only [Cursor.skipBlank, Cursor.skipWhile, List.takeWhile_append_of_pos hw,
    List.dropWhile_append_of_pos hw, List.takeWhile_cons_of_neg hn, List.dropWhile_cons_of_neg hn,
    List.append_nil]

/-- Blanks end where something else begins, so they are split off in one way only. -/
theorem Blank.unique (hw : Blank w) (hw' : Blank w') (hc : isBlank c = false)
    (hc' : isBlank c' = false) (h : w ++ c :: t = w' ++ c' :: t') :
    w = w' ∧ c :: t = c' :: t' := by
  have hs := skipBlank_eq hw hc 0 t
  rw [h, skipBlank_eq hw' hc' 0 t', Cursor.mk.injEq] at hs
  rw [← hs.2] at h
  exact ⟨List.append_cancel_right h, hs.2.symm⟩

theorem skipBlank_passes (c : Cursor) :
    ∃ w, Blank w ∧ c.rest = w ++ c.skipBlank.rest ∧ c.skipBlank.offset = c.offset + byteSize w :=
  ⟨c.rest.takeWhile isBlank, List.all_eq_true.mp List.all_takeWhile,
    List.takeWhile_append_dropWhile.symm, rfl⟩

/-- The shape test takes exactly the date tokens, ten bytes each. -/
theorem date?_eq_some_iff :
    date? c = some (token, c') ↔
      IsDate token ∧ c.rest = token ++ c'.rest ∧ c'.offset = c.offset + byteSize token := by
  constructor
  · intro h
    have hdate : IsDate token ∧ c.rest = token ++ c'.rest ∧ c'.offset = c.offset + 10 := by
      unfold date? at h
      split at h
      · next y₁ y₂ y₃ y₄ m₁ m₂ d₁ d₂ rest hc =>
        split at h
        · next hall =>
          simp only [Option.some.injEq, Prod.mk.injEq] at h
          obtain ⟨rfl, rfl⟩ := h
          refine ⟨⟨[y₁, y₂, y₃, y₄], [m₁, m₂], [d₁, d₂], rfl, rfl, rfl, rfl, ?_⟩, hc, rfl⟩
          simpa using hall
        · contradiction
      · contradiction
    rw [hdate.1.size]
    exact hdate
  · rintro ⟨hdate, hrest, hoff⟩
    rw [hdate.size] at hoff
    obtain ⟨y, m, d, rfl, hy, hm, hd, hdig⟩ := hdate
    match y, m, d, hy, hm, hd with
    | [y₁, y₂, y₃, y₄], [m₁, m₂], [d₁, d₂], _, _, _ =>
      have hall : [y₁, y₂, y₃, y₄, m₁, m₂, d₁, d₂].all isDigit = true :=
        List.all_eq_true.mpr (by simpa using hdig)
      obtain ⟨offset, rest⟩ := c'
      simp only [List.cons_append, List.nil_append] at hrest hoff
      simp only [date?, hrest, hall, ↓reduceIte, hoff, List.cons_append, List.nil_append]

theorem IsDate.unique (hd : IsDate d) (hd' : IsDate d') (h : d ++ t = d' ++ t') :
    d = d' ∧ t = t' := by
  have hf : date? ⟨0, d ++ t⟩ = some (d, ⟨0 + byteSize d, t⟩) :=
    date?_eq_some_iff.mpr ⟨hd, rfl, rfl⟩
  have hf' : date? ⟨0, d' ++ t'⟩ = some (d', ⟨0 + byteSize d', t'⟩) :=
    date?_eq_some_iff.mpr ⟨hd', rfl, rfl⟩
  rw [h, hf', Option.some.injEq, Prod.mk.injEq, Cursor.mk.injEq] at hf
  exact ⟨hf.1.symm, hf.2.2.symm⟩

theorem skipBlank_date (hw : Blank w) (hd : IsDate d) (offset : Nat) (t : Text) :
    Cursor.skipBlank ⟨offset, w ++ (d ++ t)⟩ = ⟨offset + byteSize w, d ++ t⟩ := by
  obtain ⟨c, rest, rfl, hc⟩ := hd.head
  exact skipBlank_eq hw (digit_not_blank hc) offset (rest ++ t)

/-- What stands behind a semicolon shows a date token exactly where one follows blanks. -/
theorem date?_skipBlank_iff (offset : Nat) :
    (date? (Cursor.skipBlank ⟨offset, t⟩)).map (·.1) = some token ↔ Dated t token := by
  constructor
  · intro h
    obtain ⟨⟨d, c'⟩, hd, rfl⟩ := Option.map_eq_some_iff.mp h
    obtain ⟨hdate, hrest, -⟩ := date?_eq_some_iff.mp hd
    obtain ⟨w, hw, hpass, -⟩ := skipBlank_passes ⟨offset, t⟩
    refine ⟨w, c'.rest, ?_, hw, hdate⟩
    rw [List.append_assoc, ← hrest]
    exact hpass
  · rintro ⟨w, rest, rfl, hw, hdate⟩
    have hd : date? ⟨offset + byteSize w, token ++ rest⟩ =
        some (token, ⟨offset + byteSize w + byteSize token, rest⟩) :=
      date?_eq_some_iff.mpr ⟨hdate, rfl, rfl⟩
    rw [List.append_assoc, skipBlank_date hw hdate, hd]
    rfl

/-- The reader of groups takes exactly the groups. -/
theorem group?_eq_some_iff :
    group? c = some c' ↔
      ∃ g, IsGroup g ∧ c.rest = g ++ c'.rest ∧ c'.offset = c.offset + byteSize g := by
  simp only [group?, Option.bind_eq_bind, Option.bind_eq_some_iff]
  constructor
  · rintro ⟨c₁, h₁, ⟨d, c₂⟩, h₂, h₃⟩
    obtain ⟨r₁, o₁⟩ := Cursor.expect?_eq_some_iff.mp h₁
    obtain ⟨hdate, r₂, o₂⟩ := date?_eq_some_iff.mp h₂
    obtain ⟨r₃, o₃⟩ := Cursor.expect?_eq_some_iff.mp h₃
    obtain ⟨w₁, hw₁, p₁, q₁⟩ := skipBlank_passes c₁
    obtain ⟨w₂, hw₂, p₂, q₂⟩ := skipBlank_passes c₂
    refine ⟨_, ⟨w₁, d, w₂, rfl, hw₁, hdate, hw₂⟩, ?_, ?_⟩
    · rw [r₁, p₁, r₂, p₂, r₃]
      simp
    · rw [o₃, q₂, o₂, q₁, o₁]
      simp only [byteSize_append, byteSize_cons, byteSize_nil]
      omega
  · rintro ⟨g, ⟨w₁, d, w₂, rfl, hw₁, hdate, hw₂⟩, hrest, hoff⟩
    obtain ⟨offset, rest⟩ := c
    simp only at hrest hoff
    refine ⟨⟨offset + byteSize [';'], w₁ ++ (d ++ (w₂ ++ ';' :: c'.rest))⟩, ?_,
      (d, ⟨offset + byteSize [';'] + byteSize w₁ + byteSize d, w₂ ++ ';' :: c'.rest⟩), ?_, ?_⟩
    · exact Cursor.expect?_eq_some_iff.mpr ⟨by simp [hrest], rfl⟩
    · rw [skipBlank_date hw₁ hdate]
      exact date?_eq_some_iff.mpr ⟨hdate, rfl, rfl⟩
    · rw [skipBlank_eq hw₂ (by decide)]
      refine Cursor.expect?_eq_some_iff.mpr ⟨rfl, ?_⟩
      simp only [hoff, byteSize_append, byteSize_cons, byteSize_nil]
      omega

theorem IsGroup.head (h : IsGroup g) : ∃ rest, g = ';' :: rest := by
  obtain ⟨w₁, d, w₂, rfl, -⟩ := h
  exact ⟨w₁ ++ d ++ w₂ ++ [';'], by simp⟩

/-- Of two groups that a text begins with neither is longer: the reader finds both. -/
theorem IsGroup.unique (hg : IsGroup g) (hg' : IsGroup g') (h : g ++ rest = g' ++ rest') :
    g = g' ∧ rest = rest' := by
  have hf : group? ⟨0, g ++ rest⟩ = some ⟨0 + byteSize g, rest⟩ :=
    group?_eq_some_iff.mpr ⟨g, hg, rfl, rfl⟩
  have hf' : group? ⟨0, g' ++ rest'⟩ = some ⟨0 + byteSize g', rest'⟩ :=
    group?_eq_some_iff.mpr ⟨g', hg', rfl, rfl⟩
  rw [h, hf', Option.some.injEq, Cursor.mk.injEq] at hf
  obtain rfl := hf.2
  exact ⟨List.append_cancel_right h, rfl⟩

theorem group?_eq_none_iff : group? c = none ↔ ¬ BeginsGroup c.rest := by
  constructor
  · rintro hn ⟨g, rest, hr, hg⟩
    have hf : group? c = some ⟨c.offset + byteSize g, rest⟩ :=
      group?_eq_some_iff.mpr ⟨g, hg, hr, rfl⟩
    rw [hn] at hf
    contradiction
  · intro hb
    cases hc : group? c with
    | none => rfl
    | some c' =>
      obtain ⟨g, hg, hr, -⟩ := group?_eq_some_iff.mp hc
      exact absurd ⟨g, c'.rest, hr, hg⟩ hb

/-- A group that another one begins with is the whole of it. -/
theorem IsGroup.eq_of_prefix (hg : IsGroup g) (hg' : IsGroup g') (h : g' <+: g) : g' = g := by
  obtain ⟨t, ht⟩ := h
  have hboth : g' ++ t = g ++ [] := by rw [ht, List.append_nil]
  exact (hg'.unique hg hboth).1

theorem IsGroup.size_ge (h : IsGroup g) : 12 ≤ byteSize g := by
  obtain ⟨w₁, d, w₂, rfl, -, hd, -⟩ := h
  have hsemi : Char.utf8Size ';' = 1 := rfl
  simp only [byteSize_append, byteSize_cons, byteSize_nil, hd.size, hsemi]
  omega

theorem groupSize?_eq_some_iff :
    groupSize? s = some n ↔ ∃ g rest, IsGroup g ∧ s = g ++ rest ∧ n = byteSize g := by
  simp only [groupSize?, Option.map_eq_some_iff, group?_eq_some_iff, Cursor.start]
  constructor
  · rintro ⟨c, ⟨g, hg, hs, -⟩, rfl⟩
    refine ⟨g, c.rest, hg, hs, ?_⟩
    rw [hs, byteSize_append, Nat.add_sub_cancel]
  · rintro ⟨g, rest, hg, rfl, rfl⟩
    refine ⟨⟨byteSize g, rest⟩, ⟨g, hg, rfl, by simp⟩, ?_⟩
    rw [byteSize_append, Nat.add_sub_cancel]

/-- The size of a group is how far the reader of groups goes. -/
theorem offset_group? (c : Cursor) :
    (group? c).map (·.offset) = (groupSize? c.rest).map (c.offset + ·) := by
  cases hc : group? c with
  | none =>
    have hb : ¬ BeginsGroup c.rest := group?_eq_none_iff.mp hc
    have hn : group? (Cursor.start c.rest) = none := group?_eq_none_iff.mpr hb
    simp [groupSize?, hn]
  | some c' =>
    obtain ⟨g, hg, hr, ho⟩ := group?_eq_some_iff.mp hc
    have hn : groupSize? c.rest = some (byteSize g) :=
      groupSize?_eq_some_iff.mpr ⟨g, c'.rest, hg, hr, rfl⟩
    simp [hn, ho]

/-- Of the parts of a group none can be longer or shorter: a date token begins with a digit, and
what closes the group is no blank either. -/
theorem Parted.unique (h : Parted s w₁ d w₂ rest) (h' : Parted s w₁' d' w₂' rest') :
    w₁ = w₁' ∧ d = d' ∧ w₂ = w₂' ∧ rest = rest' := by
  have hs := h.joined.symm.trans h'.joined
  simp only [List.cons_append, List.append_assoc, List.cons.injEq, true_and] at hs
  obtain ⟨c, t, hd, hc⟩ := h.date.head
  obtain ⟨c', t', hd', hc'⟩ := h'.date.head
  obtain ⟨rfl, hbehind⟩ : w₁ = w₁' ∧ d ++ (w₂ ++ ';' :: rest) = d' ++ (w₂' ++ ';' :: rest') := by
    rw [hd, hd'] at hs ⊢
    exact h.blank₁.unique h'.blank₁ (digit_not_blank hc) (digit_not_blank hc') hs
  obtain ⟨rfl, htail⟩ := h.date.unique h'.date hbehind
  obtain ⟨rfl, hrest⟩ := h.blank₂.unique h'.blank₂ (by decide) (by decide) htail
  exact ⟨rfl, rfl, rfl, (List.cons.inj hrest).2⟩

theorem groupSize?_eq_some_iff_parted :
    groupSize? s = some n ↔
      ∃ w₁ d w₂ rest, Parted s w₁ d w₂ rest ∧ n = byteSize (';' :: w₁ ++ d ++ w₂ ++ [';']) := by
  rw [groupSize?_eq_some_iff]
  constructor
  · rintro ⟨g, rest, ⟨w₁, d, w₂, rfl, hw₁, hd, hw₂⟩, rfl, rfl⟩
    exact ⟨w₁, d, w₂, rest, ⟨by simp, hw₁, hd, hw₂⟩, rfl⟩
  · rintro ⟨w₁, d, w₂, rest, ⟨hs, hw₁, hd, hw₂⟩, rfl⟩
    exact ⟨_, rest, ⟨w₁, d, w₂, rfl, hw₁, hd, hw₂⟩, by simp [hs], rfl⟩

theorem isDate_iff : IsDate token ↔ date? ⟨0, token⟩ = some (token, ⟨byteSize token, []⟩) := by
  simp [date?_eq_some_iff]

theorem beginsGroup_iff : BeginsGroup t ↔ group? ⟨0, t⟩ ≠ none := by
  rw [Ne, group?_eq_none_iff, Classical.not_not]

theorem groupless_iff : Groupless t ↔ ∀ u ∈ t.tails, ¬ BeginsGroup u := by
  constructor
  · rintro hn u hu ⟨g, rest, rfl, hg⟩
    obtain ⟨s, hs⟩ := (List.mem_tails _ _).mp hu
    exact hn g hg ⟨s, rest, by rw [List.append_assoc, hs]⟩
  · rintro hn g hg ⟨s, rest, rfl⟩
    exact hn (g ++ rest) ((List.mem_tails _ _).mpr ⟨s, by simp⟩) ⟨g, rest, rfl, hg⟩

instance (token : Text) : Decidable (IsDate token) :=
  decidable_of_iff _ isDate_iff.symm

instance (t : Text) : Decidable (BeginsGroup t) :=
  decidable_of_iff _ beginsGroup_iff.symm

instance (t : Text) : Decidable (Groupless t) :=
  decidable_of_iff _ groupless_iff.symm

/-- The reader of groups finds a group at the start of a text exactly where there is one, and goes
on by its size. It reads it in the only way in which it can be read, and no group begins
another. -/
theorem groups_recognised :
    (∀ s n, groupSize? s = some n ↔
      ∃ w₁ d w₂ rest, Parted s w₁ d w₂ rest ∧ n = byteSize (';' :: w₁ ++ d ++ w₂ ++ [';'])) ∧
    (∀ s w₁ d w₂ rest w₁' d' w₂' rest',
      Parted s w₁ d w₂ rest → Parted s w₁' d' w₂' rest' →
        w₁ = w₁' ∧ d = d' ∧ w₂ = w₂' ∧ rest = rest') ∧
    (∀ s n, groupSize? s = some n → 12 ≤ n) ∧
    (∀ g g', IsGroup g → IsGroup g' → g' <+: g → g' = g) ∧
    (∀ c, (group? c).map (·.offset) = (groupSize? c.rest).map (c.offset + ·)) := by
  refine ⟨fun _ _ => groupSize?_eq_some_iff_parted, ?_, ?_, ?_, offset_group?⟩
  · intro s w₁ d w₂ rest w₁' d' w₂' rest' h h'
    exact h.unique h'
  · intro s n h
    obtain ⟨g, rest, hg, -, rfl⟩ := groupSize?_eq_some_iff.mp h
    exact hg.size_ge
  · intro g g' hg hg' h
    exact hg.eq_of_prefix hg' h

/-- With blanks of three and of two bytes, and one semicolon behind another. -/
theorem groups_recognised_wide :
    Parted (';' :: '\u3000' :: "2024-13-40\u00A0;;x".toList) ['\u3000'] "2024-13-40".toList
      ['\u00A0'] [';', 'x'] ∧
    groupSize? (';' :: '\u3000' :: "2024-13-40\u00A0;;x".toList) = some 17 ∧ 12 ≤ 17 := by
  have hp : Parted (';' :: '\u3000' :: "2024-13-40\u00A0;;x".toList) ['\u3000']
      "2024-13-40".toList ['\u00A0'] [';', 'x'] :=
    ⟨by decide, by decide, by decide, by decide⟩
  have hn := (groups_recognised.1 _ 17).mpr ⟨_, _, _, _, hp, by decide⟩
  exact ⟨hp, hn, groups_recognised.2.2.1 _ _ hn⟩

end CodeNotes.Note
