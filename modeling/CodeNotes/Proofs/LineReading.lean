import CodeNotes.Note.Scan
import Mathlib.Data.List.Infix
/-!
The scan of a text finds what a reading line by line finds. The scan itself knows no
lines: it is a cursor that goes on where a capture ended, or one byte behind the start of
a bare marker.
-/
namespace CodeNotes.Note

/-- What follows the first marker of a line. -/
def afterMarker? (line : Text) : Option Text :=
  line.tails.findSome? (after? marker)

/-- What follows the first marker of a line, unless nothing does. -/
def ofLine? (line : Text) : Option Text :=
  (afterMarker? line).filter (· ≠ [])

/-- The texts of the notes in a source text, read line by line. -/
def lineTexts (content : Text) : List Text :=
  (content.splitOnP isTerminator).filterMap ofLine?

def onLine (c : Char) : Bool :=
  !isTerminator c

def OneLine (t : Text) : Prop :=
  ∀ c ∈ t, onLine c = true

/-- A run of terminators, of which there is at least one. -/
def LineEnd (run : Text) : Prop :=
  run ≠ [] ∧ ∀ c ∈ run, isTerminator c = true

instance (t : Text) : Decidable (OneLine t) :=
  decidable_of_iff (t.all onLine = true) List.all_eq_true

instance (run : Text) : Decidable (LineEnd run) :=
  decidable_of_iff (run ≠ [] ∧ run.all isTerminator = true)
    (and_congr_right fun _ => List.all_eq_true)

theorem marker_oneLine : OneLine marker := by
  decide

theorem OneLine.append (hs : OneLine s) (ht : OneLine t) : OneLine (s ++ t) := by
  intro c hc
  rcases List.mem_append.mp hc with h | h
  · exact hs c h
  · exact ht c h

theorem ofLine?_nil : ofLine? [] = none := by
  decide

theorem afterMarker?_here (h : after? marker t = some body) : afterMarker? t = some body := by
  cases t <;> simp [afterMarker?, h]

theorem afterMarker?_cons (h : after? marker (c :: t) = none) :
    afterMarker? (c :: t) = afterMarker? t := by
  simp [afterMarker?, h]

/-- No end of the marker is a beginning of it, save for the whole of it and nothing. -/
theorem marker_borderless (hs : u <:+ marker) (hp : u <+: marker) : u = [] ∨ u = marker := by
  have h : ∀ u ∈ marker.tails, u <+: marker → u = [] ∨ u = marker := by decide
  exact h u ((List.mem_tails u marker).mpr hs) hp

/-- A text without the marker can have no beginning of one at its end that would be taken
for the marker behind it. -/
theorem no_marker_before (h : ¬ marker <:+: c :: before) (body : Text) :
    after? marker (c :: (before ++ (marker ++ body))) = none := by
  cases ha : after? marker (c :: (before ++ (marker ++ body))) with
  | none => rfl
  | some rest =>
    have he := after?_eq_some_iff.mp ha
    rw [← List.cons_append] at he
    rcases List.append_eq_append_iff.mp he with ⟨u, hu, hb⟩ | ⟨u, hu, -⟩
    · have hsuffix : u <:+ marker := ⟨c :: before, hu.symm⟩
      have hprefix : u <+: marker :=
        List.prefix_of_prefix_length_le ⟨rest, hb.symm⟩ ⟨body, rfl⟩ hsuffix.length_le
      rcases marker_borderless hsuffix hprefix with rfl | rfl
      · exact absurd ⟨[], [], by simpa using hu⟩ h
      · have := congrArg List.length hu
        simp only [List.length_append, List.length_cons] at this
        omega
    · exact absurd ⟨[], u, by simpa using hu.symm⟩ h

theorem afterMarker?_before (h : ¬ marker <:+: before) (body : Text) :
    afterMarker? (before ++ (marker ++ body)) = some body := by
  induction before with
  | nil => exact afterMarker?_here (after?_eq_some_iff.mpr rfl)
  | cons c before ih =>
    rw [List.cons_append]
    rw [afterMarker?_cons (no_marker_before h body)]
    exact ih (fun hi => h (List.IsInfix.trans hi (List.suffix_cons c before).isInfix))

theorem ofLine?_marker (body : Text) :
    ofLine? (marker ++ body) = if body = [] then none else some body := by
  rw [ofLine?, afterMarker?_here (after?_eq_some_iff.mpr rfl)]
  by_cases hb : body = [] <;> simp [hb]

/-- A text that does not begin with the marker does not when it is cut short. -/
theorem after?_prefix (h : after? marker (s ++ t) = none) : after? marker s = none := by
  cases hs : after? marker s with
  | none => rfl
  | some rest =>
    have he : s ++ t = marker ++ (rest ++ t) := by
      rw [after?_eq_some_iff.mp hs, List.append_assoc]
    rw [after?_eq_some_iff.mpr he] at h
    contradiction

theorem lineTexts_nil : lineTexts [] = [] := by
  simp [lineTexts, ofLine?_nil]

theorem lineTexts_append (hc : isTerminator c = true) (s t : Text) :
    lineTexts (s ++ c :: t) = lineTexts s ++ lineTexts t := by
  rw [lineTexts, List.splitOnP_append_cons s t hc, List.filterMap_append]
  rfl

theorem lineTexts_terminator (hc : isTerminator c = true) (t : Text) :
    lineTexts (c :: t) = lineTexts t := by
  simpa [lineTexts_nil] using lineTexts_append hc [] t

theorem lineTexts_line (h : OneLine line) :
    lineTexts line = (ofLine? line).toList := by
  have hs : line.splitOnP isTerminator = [line] :=
    List.splitOnP_eq_singleton (fun c hc => by simpa [onLine] using h c hc)
  rw [lineTexts, hs]
  cases ho : ofLine? line <;> simp [ho]

theorem oneLine_takeWhile (t : Text) : OneLine (t.takeWhile onLine) :=
  List.all_eq_true.mp List.all_takeWhile

/-- The first line of a text, and what stands behind it with its terminator. -/
theorem lineTexts_first (t : Text) :
    lineTexts t = (ofLine? (t.takeWhile onLine)).toList ++ lineTexts (t.dropWhile onLine) := by
  have hsplit := List.takeWhile_append_dropWhile (p := onLine) (l := t)
  have hfirst := lineTexts_line (oneLine_takeWhile t)
  cases hd : t.dropWhile onLine with
  | nil =>
    rw [hd, List.append_nil] at hsplit
    rw [lineTexts_nil, List.append_nil, ← hfirst, hsplit]
  | cons c rest =>
    have hc : isTerminator c = true := by
      have := List.head?_dropWhile_not onLine t
      simpa [hd, onLine] using this
    rw [hd] at hsplit
    conv_lhs => rw [← hsplit]
    rw [lineTexts_append hc, hfirst, lineTexts_terminator hc]

theorem lineTexts_cons (h : after? marker (c :: t) = none) :
    lineTexts (c :: t) = lineTexts t := by
  cases hc : isTerminator c with
  | true => exact lineTexts_terminator hc t
  | false =>
    have hon : onLine c = true := by simp [onLine, hc]
    have hcut : after? marker (c :: t.takeWhile onLine) = none :=
      after?_prefix (t := t.dropWhile onLine) (by simpa using h)
    rw [lineTexts_first (c :: t), lineTexts_first t, List.takeWhile_cons_of_pos hon,
      List.dropWhile_cons_of_pos hon, ofLine?, afterMarker?_cons hcut]
    rfl

/-- A marker takes the rest of its line. -/
theorem lineTexts_marker (body : Text) :
    lineTexts (marker ++ body) =
      (ofLine? (marker ++ body.takeWhile onLine)).toList ++ lineTexts (body.dropWhile onLine) := by
  rw [lineTexts_first, List.takeWhile_append_of_pos marker_oneLine,
    List.dropWhile_append_of_pos marker_oneLine]

/-- Behind the first byte of a bare marker its line has no further marker. -/
theorem lineTexts_bare (h : body.takeWhile onLine = []) :
    lineTexts (marker.tail ++ body) = lineTexts (body.dropWhile onLine) := by
  have htail : OneLine marker.tail :=
    fun c hc => marker_oneLine c (List.mem_of_mem_tail hc)
  rw [lineTexts_first, List.takeWhile_append_of_pos htail, List.dropWhile_append_of_pos htail, h]
  rfl

theorem hit?_here (h : after? marker (c :: t) = some body) :
    hit? ⟨offset, c :: t⟩ =
      some ⟨⟨offset, c :: t⟩, ⟨offset + byteSize marker, body⟩, body.takeWhile onLine⟩ := by
  rw [hit?, Cursor.find?_here h, after?_eq_some_iff.mp h]
  rfl

theorem hit?_cons (h : after? marker (c :: t) = none) :
    hit? ⟨offset, c :: t⟩ = hit? ⟨offset + c.utf8Size, t⟩ := by
  simp only [hit?, Cursor.find?_cons h]

theorem hit?_nil : hit? ⟨offset, []⟩ = none := rfl

/-- One round of the scan, in terms of the marker that it meets. -/
theorem drain_eq (c : Cursor) :
    drain c = match hit? c with
      | none => []
      | some hit => if hit.text = [] then drain hit.resume else hit.text :: drain hit.resume := by
  cases hh : hit? c with
  | none =>
    have hn : next c = (none, c) := by
      rw [next]
      split <;> simp_all
    rw [drain]
    split <;> simp_all
  | some hit =>
    have hn : next c = if hit.text = [] then next hit.resume else (some hit.text, hit.resume) := by
      rw [next]
      split <;> simp_all
    by_cases ht : hit.text = []
    · rw [if_pos ht] at hn
      rw [drain, hn, ← drain]
      simp [ht]
    · rw [if_neg ht] at hn
      rw [drain]
      split <;> simp_all

theorem drop_onLine (body : Text) :
    body.drop (body.takeWhile onLine).length = body.dropWhile onLine := by
  have h := List.takeWhile_append_dropWhile (p := onLine) (l := body)
  calc body.drop (body.takeWhile onLine).length
      = (body.takeWhile onLine ++ body.dropWhile onLine).drop (body.takeWhile onLine).length := by
        rw [h]
    _ = body.dropWhile onLine := List.drop_left

/-- The cursor loop agrees with the reading by lines wherever it stands, in the middle of
a line or of a marker too. The induction is on what is left of the text. -/
theorem drain_eq_lineTexts (offset : Nat) (t : Text) : drain ⟨offset, t⟩ = lineTexts t := by
  induction hn : t.length using Nat.strong_induction_on generalizing offset t with
  | _ n ih =>
    subst hn
    cases t with
    | nil => rw [drain_eq, hit?_nil, lineTexts_nil]
    | cons c rest =>
      cases hm : after? marker (c :: rest) with
      | none =>
        rw [drain_eq, hit?_cons hm, ← drain_eq, lineTexts_cons hm]
        exact ih _ (by simp) _ rest rfl
      | some body =>
        have he : c :: rest = marker ++ body := after?_eq_some_iff.mp hm
        rw [drain_eq, hit?_here hm, he, lineTexts_marker, ofLine?_marker]
        by_cases hb : body.takeWhile onLine = []
        -- A bare marker: the scan goes on inside it, where no second one begins.
        · have hshort : (marker.tail ++ body).length < (c :: rest).length := by
            simp [he, marker]
          simp only [hb, ↓reduceIte, Hit.resume]
          rw [← lineTexts_bare hb]
          exact ih _ hshort _ _ rfl
        · have hshort : (body.dropWhile onLine).length < (c :: rest).length := by
            have := (List.dropWhile_sublist onLine (l := body)).length_le
            rw [he, List.length_append]
            simp only [marker, List.length_cons]
            omega
          simp only [hb, ↓reduceIte, Hit.resume, Cursor.skip, drop_onLine, Option.toList_some]
          rw [ih _ hshort _ _ rfl]
          rfl

theorem texts_eq_lineTexts (content : Text) : texts content = lineTexts content :=
  drain_eq_lineTexts 0 content

/-- A run of terminators ends a line as one of them does. -/
theorem lineTexts_run (h : LineEnd run) (s t : Text) :
    lineTexts (s ++ run ++ t) = lineTexts s ++ lineTexts t := by
  obtain ⟨hne, hr⟩ := h
  induction run generalizing s with
  | nil => contradiction
  | cons c run ih =>
    have hc := hr c (by simp)
    by_cases he : run = []
    · subst he
      simpa using lineTexts_append hc s t
    · have hcut := ih (s ++ [c]) he (fun d hd => hr d (by simp [hd]))
      rw [List.append_assoc s, List.singleton_append] at hcut
      rw [hcut, lineTexts_append hc, lineTexts_nil, List.append_nil]

theorem oneLine_of_mem_split {content : Text} (h : line ∈ content.splitOnP isTerminator) :
    OneLine line := by
  induction content generalizing line with
  | nil =>
    obtain rfl : line = [] := by simpa using h
    exact List.forall_mem_nil _
  | cons c content ih =>
    rw [List.splitOnP_cons_eq_if_modifyHead] at h
    split at h
    · rcases List.mem_cons.mp h with rfl | h
      · exact List.forall_mem_nil _
      · exact ih h
    · next hc =>
      obtain ⟨first, later, hs⟩ :=
        List.exists_cons_of_ne_nil (List.splitOnP_ne_nil isTerminator content)
      rw [hs] at h ih
      rcases List.mem_cons.mp h with rfl | h
      · exact List.forall_mem_cons.mpr ⟨by simpa [onLine] using hc, ih List.mem_cons_self⟩
      · exact ih (List.mem_cons_of_mem first h)

theorem afterMarker?_suffix (h : afterMarker? line = some body) : body <:+ line := by
  obtain ⟨u, hu, hb⟩ := List.exists_of_findSome?_eq_some h
  have hbody : body <:+ u := ⟨marker, (after?_eq_some_iff.mp hb).symm⟩
  exact hbody.trans ((List.mem_tails u line).mp hu)

/-- A captured text lies within one line. -/
theorem lineTexts_oneLine (h : t ∈ lineTexts content) : t ≠ [] ∧ OneLine t := by
  obtain ⟨line, hline, ht⟩ := List.mem_filterMap.mp h
  obtain ⟨hm, hne⟩ := Option.filter_eq_some_iff.mp ht
  have hon := oneLine_of_mem_split hline
  exact ⟨by simpa using hne, fun c hc => hon c ((afterMarker?_suffix hm).subset hc)⟩

/-- The scan finds the notes of a text line by line and those of some files one file after
the other. No capture reaches beyond its line, lines are read each for itself, and it makes
no difference by what, or by how much of it, a line is ended. -/
theorem scan_line_by_line :
    (∀ content, texts content = lineTexts content) ∧
    (∀ files, ofFiles files =
      files.flatMap fun file => (lineTexts file.content).map (Note.mk file.fileName)) ∧
    (∀ content, ∀ t ∈ texts content, t ≠ [] ∧ OneLine t) ∧
    (∀ s t run, LineEnd run → texts (s ++ run ++ t) = texts s ++ texts t) ∧
    (∀ s t c run, isTerminator c = true → LineEnd run →
      texts (s ++ c :: t) = texts (s ++ run ++ t)) := by
  refine ⟨texts_eq_lineTexts, ?_, ?_, ?_, ?_⟩
  · intro files
    simp only [ofFiles, texts_eq_lineTexts]
  · intro content t ht
    rw [texts_eq_lineTexts] at ht
    exact lineTexts_oneLine ht
  · intro s t run hr
    simp only [texts_eq_lineTexts, lineTexts_run hr]
  · intro s t c run hc hr
    rw [texts_eq_lineTexts, texts_eq_lineTexts, lineTexts_append hc, lineTexts_run hr]

/-- Behind a bare marker, which ends in a carriage return or in a blank line. -/
theorem scan_line_by_line_bare :
    isTerminator '\r' = true ∧ LineEnd ['\n', '\u2028'] ∧
    texts (marker ++ '\r' :: (marker ++ marker)) =
      texts (marker ++ ['\n', '\u2028'] ++ (marker ++ marker)) :=
  ⟨by decide, by decide,
    scan_line_by_line.2.2.2.2 marker (marker ++ marker) '\r' ['\n', '\u2028']
      (by decide) (by decide)⟩

end CodeNotes.Note
