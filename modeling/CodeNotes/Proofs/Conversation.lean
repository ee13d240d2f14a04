import CodeNotes.Proofs.Utf8
import CodeNotes.Session
/-!
An interactive session writes what a script of the same commands writes, with a greeting
before it and, if it prompts, a prompt before each reply.
-/
namespace CodeNotes.Session

/-- The bytes of some commands, each on a line of its own. -/
def typed (cs : List Text) : List UInt8 :=
  cs.flatMap fun c => Utf8.encode c ++ [0x0A]

/-- Input with one command a line. The last line feed may be missing where the last command
is not empty. -/
def Types (cs : List Text) (input : List UInt8) : Prop :=
  input = typed cs ∨
    ∃ init last, cs = init ++ [last] ∧ last ≠ [] ∧ input = typed init ++ Utf8.encode last

def exits (c : Text) : Bool :=
  Command.ofLine c = .exit

/-- The commands that are read: those up to the first `exit`, which is read too. -/
def heeded (cs : List Text) : List Text :=
  cs.take (cs.findIdx exits + 1)

/-- What is written for one command; nothing for `exit`. -/
def reply (s : Session) (c : Text) : Text :=
  (s.answer? (Command.ofLine c)).getD []

theorem answer?_eq_none_iff (s : Session) (c : Command) : s.answer? c = none ↔ c = .exit := by
  have hquery : ∀ r, Reply.ofQuery r ≠ .exit := by
    intro r
    cases r <;> simp [Reply.ofQuery]
  have hexec : s.execute c = .exit ↔ c = .exit := by
    cases c <;> simp [execute, hquery]
  rw [← hexec, answer?]
  cases s.execute c <;> simp

theorem chomp_lineFeed (line : Text) : Command.chomp (line ++ ['\n']) = Command.chomp line := by
  simp [Command.chomp]

theorem ofLine_lineFeed (line : Text) :
    Command.ofLine (line ++ ['\n']) = Command.ofLine line := by
  simp only [Command.ofLine, chomp_lineFeed]

theorem answerLine?_encode (s : Session) (c : Text) :
    s.answerLine? (Utf8.encode c) = s.answer? (Command.ofLine c) := by
  rw [answerLine?, Utf8.decodeLossy_encode]

theorem answerLine?_typed (s : Session) (c : Text) :
    s.answerLine? (Utf8.encode c ++ [0x0A]) = s.answer? (Command.ofLine c) := by
  rw [answerLine?, Utf8.decodeLossy_append]
  exact congrArg s.answer? (ofLine_lineFeed c)

/-- A sequence cut behind every separator; what follows the last one is a piece too, unless
nothing does. -/
def linesAt [DecidableEq α] (sep : α) : List α → List (List α)
  | [] => []
  | x :: xs =>
    if x = sep then [x] :: linesAt sep xs
    else match linesAt sep xs with
      | [] => [[x]]
      | line :: lines => (x :: line) :: lines

theorem linesAt_line [DecidableEq α] {sep : α} (h : sep ∉ line) (rest : List α) :
    linesAt sep (line ++ sep :: rest) = (line ++ [sep]) :: linesAt sep rest := by
  induction line with
  | nil => rw [List.nil_append, linesAt, if_pos rfl, List.nil_append]
  | cons x line ih =>
    simp only [List.mem_cons, not_or] at h
    rw [List.cons_append, linesAt, if_neg (Ne.symm h.1), ih h.2]
    rfl

theorem linesAt_last [DecidableEq α] {sep : α} (h : sep ∉ line) (hne : line ≠ []) :
    linesAt sep line = [line] := by
  induction line with
  | nil => contradiction
  | cons x line ih =>
    simp only [List.mem_cons, not_or] at h
    rw [linesAt, if_neg (Ne.symm h.1)]
    cases line with
    | nil => rfl
    | cons y line => rw [ih h.2 (by simp)]

theorem byteLines_eq (bytes : List UInt8) : byteLines bytes = linesAt 0x0A bytes := by
  induction bytes with
  | nil => rfl
  | cons b bytes ih =>
    rw [byteLines, linesAt, ih]
    cases linesAt 0x0A bytes <;> rfl

theorem byteLines_line (h : 0x0A ∉ line) (rest : List UInt8) :
    byteLines (line ++ 0x0A :: rest) = (line ++ [0x0A]) :: byteLines rest := by
  rw [byteLines_eq, byteLines_eq, linesAt_line h]

theorem byteLines_last (h : 0x0A ∉ line) (hne : line ≠ []) : byteLines line = [line] := by
  rw [byteLines_eq, linesAt_last h hne]

theorem byteLines_lines {lines : List (List UInt8)} (h : ∀ line ∈ lines, 0x0A ∉ line)
    (rest : List UInt8) :
    byteLines (lines.flatMap (· ++ [0x0A]) ++ rest) =
      lines.map (· ++ [0x0A]) ++ byteLines rest := by
  induction lines with
  | nil => rfl
  | cons line lines ih =>
    have hsplit : (line :: lines).flatMap (· ++ [0x0A]) ++ rest =
        line ++ 0x0A :: (lines.flatMap (· ++ [0x0A]) ++ rest) := by simp
    rw [hsplit, byteLines_line (h line (by simp)), ih (fun l hl => h l (by simp [hl]))]
    rfl

theorem byteLines_typed (h : ∀ c ∈ cs, '\n' ∉ c) (rest : List UInt8) :
    byteLines (typed cs ++ rest) = cs.map (fun c => Utf8.encode c ++ [0x0A]) ++ byteLines rest := by
  have hlines : ∀ line ∈ cs.map Utf8.encode, 0x0A ∉ line := by
    intro line hl
    obtain ⟨c, hc, rfl⟩ := List.mem_map.mp hl
    exact Utf8.lineFeed_not_mem (h c hc)
  have hb := byteLines_lines hlines rest
  rw [List.flatMap_map, List.map_map] at hb
  exact hb

theorem heeded_cons (c : Text) (cs : List Text) :
    heeded (c :: cs) = if exits c = true then [c] else c :: heeded cs := by
  by_cases hc : exits c = true <;> simp [heeded, List.findIdx_cons, hc]

theorem answer_of_exits (s : Session) (h : exits c = true) :
    s.answer? (Command.ofLine c) = none :=
  (answer?_eq_none_iff s _).mpr (by simpa [exits] using h)

theorem answer_of_not_exits (s : Session) (h : ¬ exits c = true) :
    s.answer? (Command.ofLine c) = some (s.reply c) := by
  have hne : s.answer? (Command.ofLine c) ≠ none := by
    rw [Ne, answer?_eq_none_iff]
    simpa [exits] using h
  obtain ⟨text, ht⟩ := Option.ne_none_iff_exists'.mp hne
  rw [reply, ht]
  rfl

/-- A script writes the replies to the commands that it heeds. -/
theorem runScript_eq (s : Session) (cs : List Text) :
    s.runScript cs = (heeded cs).flatMap s.reply := by
  induction cs with
  | nil => rfl
  | cons c cs ih =>
    rw [runScript, heeded_cons]
    by_cases hc : exits c = true
    · simp [answer_of_exits s hc, hc, reply]
    · simp [answer_of_not_exits s hc, hc, ih]

/-- The loop over lines of input, by what the lines are answered. The prompt before the
end of the input is written only where no `exit` was met. -/
theorem converse_eq (s : Session) (lines : List (List UInt8)) (cs : List Text)
    (h : lines.map s.answerLine? = cs.map fun c => s.answer? (Command.ofLine c)) :
    s.converse lines =
      (heeded cs).flatMap (fun c => s.promptText ++ s.reply c) ++
        (if cs.any exits = true then [] else s.promptText) := by
  induction cs generalizing lines with
  | nil =>
    obtain rfl := List.map_eq_nil_iff.mp h
    simp [converse, heeded]
  | cons c cs ih =>
    obtain ⟨line, lines, rfl⟩ : ∃ l ls, lines = l :: ls := by
      cases lines with
      | nil => simp at h
      | cons l ls => exact ⟨l, ls, rfl⟩
    obtain ⟨hline, hlines⟩ := List.cons.inj h
    rw [converse, hline, heeded_cons]
    by_cases hc : exits c = true
    · simp [answer_of_exits s hc, hc, reply]
    · simp [answer_of_not_exits s hc, hc, ih lines hlines]

/-- The lines of the input are answered as the commands are. -/
theorem answers_of_types (s : Session) (hcs : ∀ c ∈ cs, '\n' ∉ c) (h : Types cs input) :
    (byteLines input).map s.answerLine? = cs.map fun c => s.answer? (Command.ofLine c) := by
  rcases h with rfl | ⟨init, last, rfl, hne, rfl⟩
  · have hl := byteLines_typed hcs []
    rw [List.append_nil] at hl
    rw [hl, byteLines, List.append_nil, List.map_map]
    exact List.map_congr_left (fun c _ => answerLine?_typed s c)
  · have hinit : ∀ c ∈ init, '\n' ∉ c := fun c hc => hcs c (by simp [hc])
    have hlast : 0x0A ∉ Utf8.encode last := Utf8.lineFeed_not_mem (hcs last (by simp))
    rw [byteLines_typed hinit, byteLines_last hlast (Utf8.encode_ne hne), List.map_append,
      List.map_map, List.map_append]
    congr 1
    · exact List.map_congr_left (fun c _ => answerLine?_typed s c)
    · exact congrArg (fun a => [a]) (answerLine?_encode s last)

/-- Typing commands and running them as a script come to the same, but for the greeting
and the prompts. -/
theorem run_agrees_with_script (s : Session) (cs : List Text) (input : List UInt8)
    (hcs : ∀ c ∈ cs, '\n' ∉ c) (hin : Types cs input) :
    run { s with prompts := false } input = greetingLine ++ s.runScript cs ∧
    s.runScript cs = (heeded cs).flatMap s.reply ∧
    run { s with prompts := true } input =
      greetingLine ++ ((heeded cs).flatMap (fun c => prompt ++ s.reply c) ++
        if cs.any exits = true then [] else prompt) := by
  refine ⟨?_, runScript_eq s cs, ?_⟩
  · have h := converse_eq { s with prompts := false } _ cs (answers_of_types _ hcs hin)
    rw [run, h, runScript_eq]
    simp [promptText]
    rfl
  · have h := converse_eq { s with prompts := true } _ cs (answers_of_types _ hcs hin)
    rw [run, h]
    rfl

/-- Behind an `exit` that ends in a carriage return, with a last line that nothing ends. -/
theorem run_agrees_with_script_exit :
    (∀ c ∈ [['é'], ['e', 'x', 'i', 't', '\r'], ['?']], '\n' ∉ c) ∧
    Types [['é'], ['e', 'x', 'i', 't', '\r'], ['?']]
      [0xC3, 0xA9, 0x0A, 0x65, 0x78, 0x69, 0x74, 0x0D, 0x0A, 0x3F] ∧
    run ⟨⟨[]⟩, .json, false⟩ [0xC3, 0xA9, 0x0A, 0x65, 0x78, 0x69, 0x74, 0x0D, 0x0A, 0x3F] =
      greetingLine ++ runScript ⟨⟨[]⟩, .json, true⟩
        [['é'], ['e', 'x', 'i', 't', '\r'], ['?']] :=
  have hcs : ∀ c ∈ [['é'], ['e', 'x', 'i', 't', '\r'], ['?']], '\n' ∉ c := by decide
  have hin : Types [['é'], ['e', 'x', 'i', 't', '\r'], ['?']]
      [0xC3, 0xA9, 0x0A, 0x65, 0x78, 0x69, 0x74, 0x0D, 0x0A, 0x3F] :=
    Or.inr ⟨[['é'], ['e', 'x', 'i', 't', '\r']], ['?'], rfl, by decide, by decide⟩
  ⟨hcs, hin, (run_agrees_with_script ⟨⟨[]⟩, .json, true⟩ _ _ hcs hin).1⟩

end CodeNotes.Session
