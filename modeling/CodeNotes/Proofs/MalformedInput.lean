import CodeNotes.Proofs.CommandGrammar
import CodeNotes.Proofs.Conversation
import CodeNotes.Proofs.Utf8Pieces
/-!
Bytes that are no text do no harm beyond their line. Reading the input line by line comes to
the same as reading all of it first: a line feed is a byte of ASCII, so it ends whatever was
malformed before it, and no malformed part reads as one.
-/
namespace CodeNotes.Utf8

theorem decodeLossy_lineFeed (bytes rest : List UInt8) :
    decodeLossy (bytes ++ 0x0A :: rest) = decodeLossy bytes ++ '\n' :: decodeLossy rest := by
  have hstop : Stops (0x0A :: rest) := by simp [Stops]
  have hone : pieces (0x0A :: rest) = some '\n' :: pieces rest := pieces_one (by decide)
  rw [decodeLossy, pieces_append bytes hstop, hone, List.map_append]
  rfl

/-- A malformed part is read as a replacement character, never as a line feed. -/
theorem lineFeed_not_mem_decodeLossy (h : 0x0A ∉ bytes) : '\n' ∉ decodeLossy bytes := by
  induction bytes using pieces_induction with
  | nil => simp [decodeLossy, pieces]
  | piece bytes piece part rest hp ih =>
    rw [hp.cut, List.mem_append, not_or] at h
    rw [decodeLossy, hp.pieces_eq, List.map_cons, List.mem_cons, not_or]
    refine ⟨?_, ih h.2⟩
    cases piece with
    | none => decide
    | some c =>
      rintro rfl
      apply h.1
      rw [hp.written _ rfl]
      decide

theorem decodeLossy_ne (h : bytes ≠ []) : decodeLossy bytes ≠ [] := by
  induction bytes using pieces_induction with
  | nil => contradiction
  | piece bytes piece part rest hp _ => simp [decodeLossy, hp.pieces_eq]

/-- Something that is no text shows up in what is read. -/
theorem replacement_mem (h : ∀ t, bytes ≠ encode t) : replacement ∈ decodeLossy bytes := by
  induction bytes using pieces_induction with
  | nil => exact absurd rfl (h [])
  | piece bytes piece part rest hp ih =>
    rw [decodeLossy, hp.pieces_eq, List.map_cons, List.mem_cons]
    cases piece with
    | none => exact .inl rfl
    | some c =>
      refine .inr (ih ?_)
      rintro t rfl
      apply h (c :: t)
      rw [hp.cut, hp.written c rfl]
      simp [encode]

end CodeNotes.Utf8

namespace CodeNotes.Session

/-- Reading each line of the input comes to reading the whole input and then cutting it into
lines. -/
theorem map_decodeLossy_byteLines (input : List UInt8) :
    (byteLines input).map Utf8.decodeLossy = linesAt '\n' (Utf8.decodeLossy input) := by
  induction hn : input.length using Nat.strongRecOn generalizing input with
  | _ n ih =>
    subst hn
    by_cases hm : 0x0A ∈ input
    · obtain ⟨line, rest, rfl, hline⟩ := List.eq_append_cons_of_mem hm
      have hshort : rest.length < (line ++ 0x0A :: rest).length := by
        simp only [List.length_append, List.length_cons]
        omega
      have hfeed : Utf8.decodeLossy (line ++ [0x0A]) = Utf8.decodeLossy line ++ ['\n'] :=
        Utf8.decodeLossy_lineFeed line []
      rw [byteLines_line hline, Utf8.decodeLossy_lineFeed,
        linesAt_line (Utf8.lineFeed_not_mem_decodeLossy hline), List.map_cons, hfeed,
        ih _ hshort rest rfl]
    · by_cases he : input = []
      · subst he
        rfl
      · rw [byteLines_last hm he,
          linesAt_last (Utf8.lineFeed_not_mem_decodeLossy hm) (Utf8.decodeLossy_ne he)]
        rfl

theorem map_answerLine?_byteLines (s : Session) (input : List UInt8) :
    (byteLines input).map s.answerLine? =
      (linesAt '\n' (Utf8.decodeLossy input)).map fun line => s.answer? (Command.ofLine line) := by
  rw [← map_decodeLossy_byteLines, List.map_map]
  rfl

/-- A conversation depends on nothing but the answers to its lines. -/
theorem converse_congr (s : Session) (h : lines.map s.answerLine? = lines'.map s.answerLine?) :
    s.converse lines = s.converse lines' := by
  induction lines generalizing lines' with
  | nil =>
    obtain rfl := List.map_eq_nil_iff.mp h.symm
    rfl
  | cons line lines ih =>
    cases lines' with
    | nil => simp at h
    | cons line' lines' =>
      obtain ⟨hline, hlines⟩ := List.cons.inj h
      rw [converse, converse, hline, ih hlines]

theorem answerLine?_lineFeed (s : Session) (line : List UInt8) :
    s.answerLine? (line ++ [0x0A]) = s.answerLine? line := by
  have hfeed : Utf8.decodeLossy (line ++ [0x0A]) = Utf8.decodeLossy line ++ ['\n'] :=
    Utf8.decodeLossy_lineFeed line []
  rw [answerLine?, hfeed, ofLine_lineFeed, answerLine?]

/-- A line that is no text is answered, and so the session goes on behind it. -/
theorem answerLine?_malformed (s : Session) (h : ∀ t, line ≠ Utf8.encode t) :
    s.answerLine? line ≠ none := by
  rw [answerLine?, Ne, answer?_eq_none_iff]
  intro he
  have hexit : Command.chomp (Utf8.decodeLossy line) = "exit".toList :=
    (Command.ofLine_eq_iff_says _ .exit).mp he
  have hm := Command.mem_chomp (Utf8.replacement_mem h)
    (by simp [Command.EndsLine, Utf8.replacement])
  rw [hexit] at hm
  revert hm
  decide

theorem answers_lines (s : Session) {lines : List (List UInt8)}
    (h : ∀ line ∈ lines, 0x0A ∉ line) (hl : 0x0A ∉ last) :
    (byteLines (lines.flatMap (· ++ [0x0A]) ++ last)).map s.answerLine? =
      (if last = [] then lines else lines ++ [last]).map s.answerLine? := by
  have hlines : (lines.map (· ++ [0x0A])).map s.answerLine? = lines.map s.answerLine? := by
    rw [List.map_map]
    exact List.map_congr_left (fun line _ => answerLine?_lineFeed s line)
  rw [byteLines_lines h, List.map_append, hlines]
  by_cases he : last = []
  · subst he
    simp [byteLines]
  · rw [byteLines_last hl he, if_neg he, List.map_append]

/-- Input that is no text is answered as the text that a lossy reading makes of all of it,
line for line. What is malformed in a line changes the answer to no other line and ends no
session. -/
theorem run_decoded (s : Session) (input : List UInt8) :
    s.run input = s.run (Utf8.encode (Utf8.decodeLossy input)) ∧
    (byteLines input).map Utf8.decodeLossy = linesAt '\n' (Utf8.decodeLossy input) ∧
    (∀ lines last, (∀ line ∈ lines, 0x0A ∉ line) → 0x0A ∉ last →
      (byteLines (lines.flatMap (· ++ [0x0A]) ++ last)).map s.answerLine? =
        (if last = [] then lines else lines ++ [last]).map s.answerLine?) ∧
    ∀ line, (∀ t, line ≠ Utf8.encode t) → s.answerLine? line ≠ none := by
  refine ⟨?_, map_decodeLossy_byteLines input, fun _ _ h hl => answers_lines s h hl,
    fun _ h => answerLine?_malformed s h⟩
  have hanswers : (byteLines input).map s.answerLine? =
      (byteLines (Utf8.encode (Utf8.decodeLossy input))).map s.answerLine? := by
    rw [map_answerLine?_byteLines, map_answerLine?_byteLines, Utf8.decodeLossy_encode]
  rw [run, run, converse_congr s hanswers]

/-- A character cut off by a line feed, a surrogate, an overlong form and a character cut off
by the end of the input. -/
theorem run_decoded_malformed :
    (∀ line ∈ [[0xE2, 0x82], [0xED, 0xA0, 0x80]], (0x0A : UInt8) ∉ line) ∧
    (0x0A : UInt8) ∉ [0xF0, 0x9F] ∧
    (byteLines [0xE2, 0x82, 0x0A, 0xED, 0xA0, 0x80, 0x0A, 0xF0, 0x9F]).map
        (answerLine? ⟨⟨[]⟩, .table, true⟩) =
      [[0xE2, 0x82], [0xED, 0xA0, 0x80], [0xF0, 0x9F]].map (answerLine? ⟨⟨[]⟩, .table, true⟩) ∧
    (∀ t, [0xC0, 0xAF] ≠ Utf8.encode t) ∧
    answerLine? ⟨⟨[]⟩, .table, true⟩ [0xC0, 0xAF] ≠ none :=
  have hlines : ∀ line ∈ [[0xE2, 0x82], [0xED, 0xA0, 0x80]], (0x0A : UInt8) ∉ line := by decide
  have hlast : (0x0A : UInt8) ∉ [0xF0, 0x9F] := by decide
  have hbad : ∀ t, [0xC0, 0xAF] ≠ Utf8.encode t := by
    intro t ht
    have hd := Utf8.decode?_eq_some_iff.mpr ht
    have hn : Utf8.decode? [0xC0, 0xAF] = none := by decide
    rw [hn] at hd
    contradiction
  have h := run_decoded ⟨⟨[]⟩, .table, true⟩ []
  ⟨hlines, hlast, h.2.2.1 _ _ hlines hlast, hbad, h.2.2.2 _ hbad⟩

end CodeNotes.Session
