import CodeNotes.Proofs.LineReading
import CodeNotes.Proofs.SlicedFields
import Mathlib.Logic.Function.Iterate
/-!
The scan for notes once more, by a reader that knows its text only in bytes. Every place where it
slices is a boundary, it goes on further ahead in every round, and it finds what the scan finds.
So no reader of notes slips: neither this one nor those of the fields.
-/
namespace CodeNotes.Note.Sliced

/-- A marker as the scan meets it. -/
structure Sighting where
  /-- Where the marker stands. -/
  mark : Nat
  /-- Where the text behind the marker begins. -/
  body : Nat
  /-- The size of that text up to the end of its line. -/
  length : Nat
  text : Text

/-- One round of the scan: the next marker from a place on. -/
def sight (content : Text) (cursor : Nat) : Except Slip (Option Sighting) := do
  let ahead ← sliceFrom content cursor
  match offsetOf? marker ahead with
  | none => return none
  | some offset =>
    let mark := cursor + offset
    let body := mark + byteSize marker
    let rest ← sliceFrom content body
    let length := byteSize (rest.takeWhile onLine)
    if length = 0 then
      return some ⟨mark, body, 0, []⟩
    else
      return some ⟨mark, body, length, ← sliceTo rest length⟩

/-- Where the scan goes on: one byte into a bare marker, or else behind the text. -/
def Sighting.resume (s : Sighting) : Nat :=
  if s.length = 0 then s.mark + 1 else s.body + s.length

/-- A round is safe when it slices at boundaries and moves on. -/
structure Sighting.Safe (content : Text) (cursor : Nat) (s : Sighting) : Prop where
  mark : Boundary content s.mark
  body : Boundary content s.body
  text : ∃ rest, sliceFrom content s.body = .ok rest ∧ Boundary rest s.length
  onward : Onward content cursor s.resume

/-- A round of the scan that leads from one place to another. -/
def ScanStep (content : Text) (cursor cursor' : Nat) : Prop :=
  ∃ s, sight content cursor = .ok (some s) ∧ s.resume = cursor'

/-- What the scan hits, by the offsets of its cursors. -/
def ofHit (hit : Hit) : Sighting :=
  ⟨hit.mark.offset, hit.body.offset, byteSize hit.text, hit.text⟩

theorem offset_hit? (c : Cursor) :
    (hit? c).map (·.mark.offset) = (offsetOf? marker c.rest).map (c.offset + ·) := by
  rw [← Cursor.offset_find?, hit?]
  cases c.find? marker <;> rfl

theorem reaches_body (h : hit? c = some hit) : Cursor.Reaches c hit.body := by
  obtain ⟨hahead, hbody, -, -⟩ := hit?_eq_some h
  rw [hbody]
  exact hahead.trans (Cursor.reaches_skip hit.mark marker.length)

theorem reaches_resume (h : hit? c = some hit) : Cursor.Reaches c hit.resume := by
  obtain ⟨hahead, -, -, -⟩ := hit?_eq_some h
  rw [Hit.resume]
  split
  · exact hahead.trans (Cursor.reaches_skip hit.mark 1)
  · exact (reaches_body h).trans (Cursor.reaches_skip hit.body hit.text.length)

theorem text_prefix (h : hit? c = some hit) : ∃ r, hit.body.rest = hit.text ++ r := by
  obtain ⟨-, -, -, ht⟩ := hit?_eq_some h
  refine ⟨hit.body.rest.dropWhile onLine, ?_⟩
  rw [ht]
  exact List.takeWhile_append_dropWhile.symm

theorem offset_body (h : hit? c = some hit) :
    hit.body.offset = hit.mark.offset + byteSize marker := by
  obtain ⟨-, hbody, ⟨rest, hmark⟩, -⟩ := hit?_eq_some h
  rw [hbody, Cursor.skip_of_rest hmark]

theorem resume_ofHit (h : hit? c = some hit) : (ofHit hit).resume = hit.resume.offset := by
  obtain ⟨-, -, ⟨rest, hmark⟩, -⟩ := hit?_eq_some h
  obtain ⟨r, htext⟩ := text_prefix h
  rw [Sighting.resume, Hit.resume, ofHit]
  simp only [byteSize_eq_zero_iff]
  split
  · rw [Cursor.skip, hmark]
    rfl
  · rw [Cursor.skip_of_rest htext]

/-- At a cursor of the text a round meets what the scan meets. -/
theorem sight_eq (h : Cursor.Reaches (Cursor.start content) c) :
    sight content c.offset = .ok ((hit? c).map ofHit) := by
  have hoff := offset_hit? c
  simp only [sight, Cursor.sliceFrom_of_reaches h, bind, Except.bind]
  cases hh : hit? c with
  | none =>
    have hnone : offsetOf? marker c.rest = none := by simpa [hh] using hoff.symm
    simp only [hnone]
    rfl
  | some hit =>
    rw [hh] at hoff
    obtain ⟨offset, hfound, hmark⟩ := Option.map_eq_some_iff.mp hoff.symm
    obtain ⟨-, -, -, htext⟩ := hit?_eq_some hh
    obtain ⟨r, hrest⟩ := text_prefix hh
    have hbody : c.offset + offset + byteSize marker = hit.body.offset := by
      rw [hmark, offset_body hh]
    have hslice := Cursor.sliceFrom_of_reaches (h.trans (reaches_body hh))
    have hline : hit.body.rest.takeWhile onLine = hit.text := htext.symm
    simp only [hfound, hbody, hslice, hline]
    split
    · next hzero =>
      have hnil := byteSize_eq_zero_iff.mp hzero
      simp only [ofHit, Option.map_some, hmark, hnil]
      rfl
    · simp only [sliceTo_eq_ok_iff.mpr ⟨r, hrest, rfl⟩, ofHit, Option.map_some, hmark]
      rfl

theorem safe_of_hit (h : Cursor.Reaches (Cursor.start content) c) (hh : hit? c = some hit) :
    (ofHit hit).Safe content c.offset := by
  obtain ⟨hahead, -, -, -⟩ := hit?_eq_some hh
  obtain ⟨r, hrest⟩ := text_prefix hh
  have hbody := h.trans (reaches_body hh)
  have hon : Boundary content (ofHit hit).resume := by
    rw [resume_ofHit hh]
    exact Cursor.boundary_of_reaches (h.trans (reaches_resume hh))
  have hfurther : c.offset < (ofHit hit).resume := by
    have hle := hahead.offset_le
    simp only [Sighting.resume, ofHit, offset_body hh]
    split <;> omega
  constructor
  case mark => exact Cursor.boundary_of_reaches (h.trans hahead)
  case body => exact Cursor.boundary_of_reaches hbody
  case text => exact ⟨hit.body.rest, Cursor.sliceFrom_of_reaches hbody, hit.text, r, hrest, rfl⟩
  case onward => exact ⟨hfurther, hon, hon.le⟩

theorem safe_of_sight (h : sight content cursor = .ok (some s)) : s.Safe content cursor := by
  have hcursor : Boundary content cursor := boundary_of_bind h
  obtain ⟨c, hreach, rfl⟩ := Cursor.exists_reaches hcursor
  rw [sight_eq hreach, Except.ok.injEq] at h
  obtain ⟨hit, hh, rfl⟩ := Option.map_eq_some_iff.mp h
  exact safe_of_hit hreach hh

theorem onward_of_scanStep (h : ScanStep content cursor cursor') :
    Onward content cursor cursor' := by
  obtain ⟨s, hs, rfl⟩ := h
  exact (safe_of_sight hs).onward

theorem exists_sight (h : Boundary content cursor) : ∃ found, sight content cursor = .ok found := by
  obtain ⟨c, hreach, rfl⟩ := Cursor.exists_reaches h
  exact ⟨_, sight_eq hreach⟩

/-- The next text that is not empty, and where to go on. -/
def next (content : Text) (cursor : Nat) : Except Slip (Option Text × Nat) :=
  if _h : cursor < byteSize content then
    match _hs : sight content cursor with
    | .error slip => .error slip
    | .ok none => .ok (none, cursor)
    | .ok (some s) =>
      if s.length = 0 then next content s.resume else .ok (some s.text, s.resume)
  else .ok (none, cursor)
termination_by byteSize content - cursor
decreasing_by
  have hfurther := (safe_of_sight ‹_›).onward.further
  omega

/-- One call in terms of the marker that the scan hits. -/
theorem next_round (h : Cursor.Reaches (Cursor.start content) c) :
    next content c.offset = match hit? c with
      | none => .ok (none, c.offset)
      | some hit =>
        if hit.text = [] then next content hit.resume.offset
        else .ok (some hit.text, hit.resume.offset) := by
  have hs := sight_eq h
  rw [next]
  cases hh : hit? c with
  | none =>
    rw [hh] at hs
    split
    · split <;> simp_all
    · rfl
  | some hit =>
    have honward := (safe_of_hit h hh).onward
    have hlt : c.offset < byteSize content := Nat.lt_of_lt_of_le honward.further honward.within
    rw [hh] at hs
    rw [dif_pos hlt]
    split
    · simp_all
    · simp_all
    · next s hsome =>
      rw [hs, Except.ok.injEq, Option.map_some, Option.some.injEq] at hsome
      rw [← hsome, resume_ofHit hh]
      simp only [ofHit, byteSize_eq_zero_iff]

/-- A call by offsets gives what the scan gives, and stops where it stops. -/
theorem next_eq (h : Cursor.Reaches (Cursor.start content) c) :
    next content c.offset = .ok ((Note.next c).1, (Note.next c).2.offset) := by
  fun_induction Note.next c with
  | case1 c hh => rw [next_round h, hh]
  | case2 c hit hh ht ih =>
    rw [next_round h, hh]
    simp only [ht, ↓reduceIte]
    exact ih (h.trans (reaches_resume hh))
  | case3 c hit hh ht =>
    rw [next_round h, hh]
    simp only [ht, ↓reduceIte]

/-- A call goes on by rounds of the scan. -/
theorem steps_of_next (h : next content cursor = .ok (found, cursor')) :
    Relation.ReflTransGen (ScanStep content) cursor cursor' := by
  fun_induction next content cursor with
  | case1 => simp at h
  | case2 cursor hlt hs =>
    obtain ⟨-, rfl⟩ := Prod.mk.inj (Except.ok.inj h)
    exact .refl
  | case3 cursor hlt s hs hzero ih => exact .head ⟨s, hs, rfl⟩ (ih h)
  | case4 cursor hlt s hs hzero =>
    obtain ⟨-, rfl⟩ := Prod.mk.inj (Except.ok.inj h)
    exact .single ⟨s, hs, rfl⟩
  | case5 cursor hlt =>
    obtain ⟨-, rfl⟩ := Prod.mk.inj (Except.ok.inj h)
    exact .refl

/-- Where a call finds nothing the next one begins, and finds nothing either. -/
theorem next_of_none (h : next content cursor = .ok (none, cursor')) :
    next content cursor' = .ok (none, cursor') := by
  fun_induction next content cursor with
  | case1 => simp at h
  | case2 cursor hlt hs =>
    obtain ⟨-, rfl⟩ := Prod.mk.inj (Except.ok.inj h)
    rw [next, dif_pos hlt]
    split <;> simp_all
  | case3 cursor hlt s hs hzero ih => exact ih h
  | case4 cursor hlt s hs hzero => simp at h
  | case5 cursor hlt =>
    obtain ⟨-, rfl⟩ := Prod.mk.inj (Except.ok.inj h)
    rw [next, dif_neg hlt]

theorem scan_of_none (h : Note.next c = (none, c')) : Note.next c' = (none, c') := by
  fun_induction Note.next c with
  | case1 c hh =>
    obtain ⟨-, rfl⟩ := Prod.mk.inj h
    rw [Note.next]
    split <;> simp_all
  | case2 c hit hh ht ih => exact ih h
  | case3 c hit hh ht => simp at h

theorem scan_of_none_iterate (h : Note.next c = (none, c')) (k : Nat) :
    Note.next ((fun c => (Note.next c).2)^[k] c') = (none, c') := by
  have hstays := scan_of_none h
  have hfixed : (fun c => (Note.next c).2) c' = c' := congrArg Prod.snd hstays
  rw [Function.iterate_fixed hfixed k]
  exact hstays

/-- A slice slips where it is not made at a boundary, which is a place between two characters.
From the start of a text the scan and the loop of the comment come to boundaries only, slice at
boundaries only and move on in every round. With that all readers by offsets give what the readers
of notes give, and a scan that has come to its end stays there. -/
theorem readers_never_slip :
    (∀ t n, Boundary t n ↔ n = (Utf8.encode t).length ∨
      ∃ b, (Utf8.encode t)[n]? = some b ∧ Utf8.isTail b = false) ∧
    (∀ t n, ((∃ r, sliceFrom t n = .ok r) ↔ Boundary t n) ∧
      ((∃ s, sliceTo t n = .ok s) ↔ Boundary t n)) ∧
    (∀ content cursor, Relation.ReflTransGen (ScanStep content) 0 cursor →
      Boundary content cursor ∧
        ∃ found, sight content cursor = .ok found ∧ ∀ s ∈ found, s.Safe content cursor) ∧
    (∀ content c, Cursor.Reaches (Cursor.start content) c →
      next content c.offset = .ok ((Note.next c).1, (Note.next c).2.offset) ∧
        Relation.ReflTransGen (ScanStep content) c.offset (Note.next c).2.offset) ∧
    (∀ content cursor cursor', next content cursor = .ok (none, cursor') →
      next content cursor' = .ok (none, cursor')) ∧
    (∀ c c', Note.next c = (none, c') →
      ∀ k, Note.next ((fun c => (Note.next c).2)^[k] c') = (none, c')) ∧
    (∀ raw cursor, Relation.ReflTransGen (CommentStep raw) 0 cursor →
      Boundary raw cursor ∧
        ∃ found, semicolon raw cursor = .ok found ∧ ∀ s ∈ found, s.Safe raw cursor) ∧
    (∀ raw, user raw = .ok (Note.user raw) ∧ date raw = .ok (Note.date raw) ∧
      comment raw = .ok (Note.comment raw)) ∧
    (∀ s, dateToken s = .ok ((date? (Cursor.start s)).map (·.1)) ∧
      groupSize s = .ok (groupSize? s)) := by
  refine ⟨fun _ _ => boundary_iff_byte, fun _ _ => ⟨exists_sliceFrom_iff, exists_sliceTo_iff⟩,
    ?_, ?_, fun _ _ _ => next_of_none, fun _ _ => scan_of_none_iterate, ?_, ?_, ?_⟩
  · intro content cursor h
    exact safe_of_steps (fun _ _ => onward_of_scanStep) (fun _ => exists_sight)
      (fun _ _ => safe_of_sight) h
  · intro content c h
    exact ⟨next_eq h, steps_of_next (next_eq h)⟩
  · intro raw cursor h
    exact safe_of_steps (fun _ _ => onward_of_commentStep) (fun _ => exists_semicolon)
      (fun _ _ => safe_of_semicolon) h
  · intro raw
    exact ⟨user_eq raw, date_eq raw, comment_eq raw⟩
  · intro s
    exact ⟨dateToken_eq (Cursor.start s), groupSize_eq s⟩

/-- A bare marker, and behind it a line with a character of two bytes. -/
def bareThenWide : Text :=
  marker ++ '\r' :: (marker ++ ['ü'])

/-- A group between characters of two and of three bytes. -/
def wideGroup : Text :=
  "ü;\u30002024-01-05 ;\u3000x".toList

theorem readers_never_slip_wide :
    Relation.ReflTransGen (ScanStep bareThenWide) 0 19 ∧ Boundary bareThenWide 19 ∧
    Relation.ReflTransGen (CommentStep wideGroup) 0 18 ∧ Boundary wideGroup 18 ∧
    Cursor.Reaches (Cursor.start bareThenWide) ⟨19, []⟩ ∧
    Note.next ((fun c => (Note.next c).2)^[2] ⟨19, []⟩) = (none, ⟨19, []⟩) ∧
    next bareThenWide 19 = .ok (none, 19) := by
  obtain ⟨-, -, hscan, hcall, hstays, hiterate, hcomment, -⟩ := readers_never_slip
  have hbare : ScanStep bareThenWide 0 1 := ⟨⟨0, 8, 0, []⟩, rfl, rfl⟩
  have hwide : ScanStep bareThenWide 1 19 := ⟨⟨9, 17, 2, ['ü']⟩, rfl, rfl⟩
  have hsteps : Relation.ReflTransGen (ScanStep bareThenWide) 0 19 := .tail (.single hbare) hwide
  have hgroup : CommentStep wideGroup 0 18 := ⟨⟨2, some 16⟩, rfl, rfl⟩
  have hend : Cursor.Reaches (Cursor.start bareThenWide) ⟨19, []⟩ :=
    ⟨bareThenWide, by decide, by decide⟩
  have hnone : Note.next ⟨19, []⟩ = (none, ⟨19, []⟩) := by cbv
  have hlast := (hcall bareThenWide ⟨19, []⟩ hend).1
  rw [hnone] at hlast
  exact ⟨hsteps, (hscan _ _ hsteps).1, .single hgroup, (hcomment _ _ (.single hgroup)).1, hend,
    hiterate _ _ hnone 2, hstays _ _ _ hlast⟩

end CodeNotes.Note.Sliced
