import CodeNotes.Note
import CodeNotes.Text.Cursor
/-!
The scan of a source text for notes. It looks for the marker, takes what follows up to
the end of the line, and goes on behind it. A marker with nothing behind it gives no
note; the scan then goes on one byte further.
-/
namespace CodeNotes.Note

/-- A marker that the scan met. -/
structure Hit where
  /-- At the marker. -/
  mark : Cursor
  /-- Behind the marker. -/
  body : Cursor
  text : Text

def hit? (c : Cursor) : Option Hit :=
  (c.find? marker).map fun mark =>
    let body := mark.skip marker.length
    ⟨mark, body, body.rest.takeWhile fun x => !isTerminator x⟩

/-- Where the scan goes on. -/
def Hit.resume (hit : Hit) : Cursor :=
  if hit.text = [] then hit.mark.skip 1 else hit.body.skip hit.text.length

theorem hit?_eq_some (h : hit? c = some hit) :
    Cursor.Reaches c hit.mark ∧ hit.body = hit.mark.skip marker.length ∧
      (∃ rest, hit.mark.rest = marker ++ rest) ∧
      hit.text = hit.body.rest.takeWhile fun x => !isTerminator x := by
  obtain ⟨mark, hm, rfl⟩ := Option.map_eq_some_iff.mp h
  exact ⟨Cursor.reaches_find? hm, rfl, Cursor.after?_find? hm, rfl⟩

theorem resume_shorter (h : hit? c = some hit) :
    hit.resume.rest.length < c.rest.length := by
  obtain ⟨reach, hb, ⟨rest, hr⟩, _⟩ := hit?_eq_some h
  have le := reach.length_le
  by_cases ht : hit.text = [] <;>
    simp [Hit.resume, ht, hb, Cursor.skip, hr, marker] at le ⊢ <;> omega

/-- The next text that is not empty, and where to go on. Without one the cursor stays
behind the last bare marker. -/
def next (c : Cursor) : Option Text × Cursor :=
  match _h : hit? c with
  | none => (none, c)
  | some hit => if hit.text = [] then next hit.resume else (some hit.text, hit.resume)
termination_by c.rest.length
decreasing_by exact resume_shorter ‹_›

theorem next_shorter (h : next c = (some t, c')) : c'.rest.length < c.rest.length := by
  fun_induction next c with
  | case1 => simp at h
  | case2 c hit hh ht ih => exact Nat.lt_trans (ih h) (resume_shorter hh)
  | case3 c hit hh ht =>
    simp only [Prod.mk.injEq] at h
    exact h.2 ▸ resume_shorter hh

/-- All texts from a place on. -/
def drain (c : Cursor) : List Text :=
  match _h : next c with
  | (none, _) => []
  | (some t, c') => t :: drain c'
termination_by c.rest.length
decreasing_by exact next_shorter ‹_›

/-- The texts of the notes in a source text, left to right. -/
def texts (content : Text) : List Text :=
  drain (Cursor.start content)

/-- The notes of some files, file after file. -/
def ofFiles (files : List SourceFile) : List Note :=
  files.flatMap fun file => (texts file.content).map fun t => ⟨file.fileName, t⟩

end CodeNotes.Note
