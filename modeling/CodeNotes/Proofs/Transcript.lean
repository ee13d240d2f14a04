import CodeNotes.Proofs.MalformedInput
import CodeNotes.Proofs.PathTexts
import CodeNotes.Proofs.StableOrder
import CodeNotes.Proofs.TableLines
/-!
The tables in the output of a session can be told from the rest by their dash lines. What an
operator types comes back in messages only, and a message has letters of its own.
-/
namespace CodeNotes

namespace Session

/-- A line of dashes and nothing else. -/
def isRule (line : Text) : Bool :=
  line ≠ [] && line.all (· = '-')

/-- The lines between dash lines, where `inside` says whether the first line is between two,
and whether the lines end so. -/
def readFrames : Bool → List Text → List Text × Bool
  | inside, [] => ([], inside)
  | inside, line :: lines =>
    if isRule line then readFrames (!inside) lines
    else
      let (rows, last) := readFrames inside lines
      (if inside then line :: rows else rows, last)

theorem readFrames_append (inside : Bool) (before after : List Text) :
    readFrames inside (before ++ after) =
      ((readFrames inside before).1 ++ (readFrames (readFrames inside before).2 after).1,
        (readFrames (readFrames inside before).2 after).2) := by
  induction before generalizing inside with
  | nil => rfl
  | cons line before ih =>
    rw [List.cons_append, readFrames, readFrames]
    by_cases hrule : isRule line = true
    · rw [if_pos hrule, if_pos hrule, ih]
    · rw [if_neg hrule, if_neg hrule, ih]
      cases inside
      · rfl
      · rfl

/-- Lines that are no dash lines leave the reader where it is. -/
theorem readFrames_plain (inside : Bool) (h : ∀ line ∈ lines, isRule line = false) :
    readFrames inside lines = (if inside then lines else [], inside) := by
  induction lines with
  | nil => simp [readFrames]
  | cons line lines ih =>
    have hline : ¬ isRule line = true := by simp [h line]
    rw [readFrames, if_neg hline, ih fun l hl => h l (by simp [hl])]
    cases inside
    · rfl
    · rfl

theorem isRule_of_mem {c : Char} (h : c ∈ line) (hc : c ≠ '-') : isRule line = false := by
  simp only [isRule, Bool.and_eq_false_iff, List.all_eq_false]
  exact .inr ⟨c, h, by simpa using hc⟩

theorem isRule_rule (widths : Layout.Columns Nat) : isRule (Layout.rule widths) = true := by
  have hdash : ∀ c ∈ Layout.rule widths, c = '-' := fun c hc => Layout.mem_rule hc
  simpa [isRule, Layout.rule_ne_nil] using hdash

/-- What a line of output is. -/
inductive LineKind where
  | greeting
  | header
  | rule
  | row
  | message
  | prompt
  deriving DecidableEq

structure OutputLine where
  kind : LineKind
  text : Text

/-- The lines of the input that get an answer: those before the first `exit`. -/
def answered (input : List UInt8) : List Text :=
  ((byteLines input).map Utf8.decodeLossy).takeWhile (!exits ·)

def replies (s : Session) (input : List UInt8) : List Reply :=
  (answered input).map fun line => s.execute (Command.ofLine line)

/-- The table lines of the rows of a reply. -/
def rowLines : Reply → List Text
  | .rows view => view.map fun row => Layout.taskLine (Layout.widths (view.map Row.task)) row.task
  | _ => []

/-- The lines of a reply. A prompt stands on the first one. -/
def replyLines (prompt : Text) : Reply → List OutputLine
  | .exit => []
  | .message text => [⟨.message, prompt ++ text⟩]
  | .rows view =>
    let w := Layout.widths (view.map Row.task)
    ⟨.header, prompt ++ Layout.header w⟩ :: ⟨.rule, Layout.rule w⟩ ::
      (rowLines (.rows view)).map (OutputLine.mk .row) ++ [⟨.rule, Layout.rule w⟩]

/-- Everything a session writes in table mode, line by line; the last line is not ended. -/
def transcript (s : Session) (input : List UInt8) : List OutputLine :=
  ⟨.greeting, greeting⟩ :: (s.replies input).flatMap (replyLines s.promptText) ++
    [⟨.prompt, s.promptText⟩]

/-- A reply whose message is a line with something else than dashes and whose rows have no
line feed in their cells. -/
def Plain : Reply → Prop
  | .exit => True
  | .message text => '\n' ∉ text ∧ ∃ c ∈ text, c ≠ '-'
  | .rows view => ∀ row ∈ view, Layout.OnLine row.task

section Replies

variable {reply : Reply} {prompt : Text}

theorem lineFeed_not_mem_rowLines (h : Plain reply) : ∀ line ∈ rowLines reply, '\n' ∉ line := by
  cases reply with
  | exit => simp [rowLines]
  | message text => simp [rowLines]
  | rows view =>
    intro line hline
    obtain ⟨row, hrow, rfl⟩ := List.mem_map.mp hline
    exact Layout.lineFeed_not_mem_taskLine (h row hrow) _

theorem isRule_rowLines (reply : Reply) : ∀ line ∈ rowLines reply, isRule line = false := by
  cases reply with
  | exit => simp [rowLines]
  | message text => simp [rowLines]
  | rows view =>
    intro line hline
    obtain ⟨row, -, rfl⟩ := List.mem_map.mp hline
    exact isRule_of_mem (Layout.bar_mem_formatLine _ _) (by decide)

theorem isRule_header (prompt : Text) (widths : Layout.Columns Nat) :
    isRule (prompt ++ Layout.header widths) = false := by
  have hbar : '|' ∈ Layout.header widths := Layout.bar_mem_formatLine _ _
  exact isRule_of_mem (List.mem_append_right prompt hbar) (by decide)

theorem isRule_message (h : Plain (.message text)) (prompt : Text) :
    isRule (prompt ++ text) = false := by
  obtain ⟨-, c, hc, hdash⟩ := h
  exact isRule_of_mem (List.mem_append_right prompt hc) hdash

/-- Of the lines of a reply the dash lines are the two around its rows. -/
theorem isRule_replyLines_iff (h : Plain reply) :
    ∀ line ∈ replyLines prompt reply, isRule line.text = true ↔ line.kind = .rule := by
  cases reply with
  | exit => simp [replyLines]
  | message text => simp [replyLines, isRule_message h]
  | rows view =>
    intro line hline
    rw [replyLines, List.mem_append, List.mem_cons, List.mem_cons] at hline
    rcases hline with (rfl | rfl | hrow) | hlast
    · simp [isRule_header]
    · simp [isRule_rule]
    · obtain ⟨text, htext, rfl⟩ := List.mem_map.mp hrow
      simp [isRule_rowLines _ text htext]
    · obtain rfl := List.mem_singleton.mp hlast
      simp [isRule_rule]

theorem lineFeed_not_mem_replyLines (h : Plain reply) (hprompt : '\n' ∉ prompt) :
    ∀ line ∈ replyLines prompt reply, '\n' ∉ line.text := by
  cases reply with
  | exit => simp [replyLines]
  | message text => simpa [replyLines, hprompt] using h.1
  | rows view =>
    intro line hline
    rw [replyLines, List.mem_append, List.mem_cons, List.mem_cons] at hline
    rcases hline with (rfl | rfl | hrow) | hlast
    · simp [hprompt, Layout.lineFeed_not_mem_header]
    · exact Layout.lineFeed_not_mem_rule _
    · obtain ⟨text, htext, rfl⟩ := List.mem_map.mp hrow
      exact lineFeed_not_mem_rowLines h text htext
    · obtain rfl := List.mem_singleton.mp hlast
      exact Layout.lineFeed_not_mem_rule _

/-- Reading the lines of a reply gives its rows and leaves the frame. -/
theorem readFrames_replyLines (h : Plain reply) :
    readFrames false ((replyLines prompt reply).map OutputLine.text) = (rowLines reply, false) := by
  cases reply with
  | exit => rfl
  | message text =>
    apply readFrames_plain
    simp [replyLines, isRule_message h]
  | rows view =>
    have hrows : ((rowLines (.rows view)).map (OutputLine.mk .row)).map OutputLine.text =
        rowLines (.rows view) := by
      rw [List.map_map]
      exact List.map_id _
    have hread := readFrames_plain true (isRule_rowLines (.rows view))
    rw [replyLines, List.map_append, List.map_cons, List.map_cons, hrows, List.cons_append,
      List.cons_append, readFrames, if_neg (by simp [isRule_header]), readFrames,
      if_pos (isRule_rule _), Bool.not_false, readFrames_append, hread, List.map_singleton,
      readFrames, if_pos (isRule_rule _)]
    simp [readFrames]

/-- The lines of a reply make up what is written for it. -/
theorem flatMap_replyLines (s : Session) (hmode : s.mode = .table)
    (h : s.answer? command = some text) :
    (replyLines prompt (s.execute command)).flatMap (fun line => line.text ++ ['\n']) =
      prompt ++ text := by
  rw [answer?, hmode] at h
  cases hr : s.execute command with
  | exit => simp [hr] at h
  | message answer =>
    obtain rfl : answer ++ ['\n'] = text := by simpa [hr] using h
    simp [replyLines]
  | rows view =>
    obtain rfl : viewText .table view = text := by simpa [hr] using h
    simp [replyLines, rowLines, viewText, Layout.render, Layout.lines, List.flatMap_map]

end Replies

/-- A piece of a sequence cut into lines has no line feed but the one at its end. -/
theorem of_mem_linesAt {sep : Char} (h : line ∈ linesAt sep t) :
    ∃ body, sep ∉ body ∧ (line = body ∨ line = body ++ [sep]) := by
  induction t generalizing line with
  | nil => simp [linesAt] at h
  | cons c t ih =>
    rw [linesAt] at h
    by_cases hc : c = sep
    · rw [if_pos hc, List.mem_cons] at h
      rcases h with rfl | h
      · exact ⟨[], by simp, by simp [hc]⟩
      · exact ih h
    · rw [if_neg hc] at h
      cases hl : linesAt sep t with
      | nil =>
        rw [hl, List.mem_singleton] at h
        exact ⟨[c], by simpa using Ne.symm hc, .inl h⟩
      | cons first lines =>
        rw [hl, List.mem_cons] at h
        rcases h with rfl | h
        · have hmem : first ∈ linesAt sep t := by simp [hl]
          obtain ⟨body, hbody, hfirst⟩ := ih hmem
          refine ⟨c :: body, by simp [Ne.symm hc, hbody], ?_⟩
          rcases hfirst with rfl | rfl
          · exact .inl rfl
          · exact .inr rfl
        · exact ih (by simp [hl, h])

theorem lineFeed_not_mem_chomp (h : line ∈ linesAt '\n' t) : '\n' ∉ Command.chomp line := by
  obtain ⟨body, hbody, rfl | rfl⟩ := of_mem_linesAt h
  · exact fun hn => hbody (Command.mem_of_mem_chomp hn)
  · rw [chomp_lineFeed]
    exact fun hn => hbody (Command.mem_of_mem_chomp hn)

/-- The word that a command is about; a message may hold it. -/
def subject : Command → Text
  | .user name => name
  | .sort key => key
  | .date day => day
  | _ => []

theorem mem_of_mem_subject (h : c ∈ subject (Command.ofLine line)) : c ∈ Command.chomp line := by
  have hsays := Command.says_ofLine line
  generalize Command.ofLine line = command at h hsays
  cases command with
  | user name => exact Command.Takes.mem hsays h
  | sort key => exact Command.Takes.mem hsays h
  | date day => exact Command.Takes.mem hsays h
  | _ => simp [subject] at h

theorem plain_wrongCommand : Plain (.message wrongCommand) :=
  ⟨by decide, 'w', by decide, by decide⟩

/-- A text with a word from outside in it is a plain message by what stands before the word. -/
theorem plain_around {before after word : Text} (hc : c ∈ before) (hdash : c ≠ '-')
    (hbefore : '\n' ∉ before) (hword : '\n' ∉ word) (hafter : '\n' ∉ after) :
    Plain (.message (before ++ word ++ after)) := by
  refine ⟨by simp [hbefore, hword, hafter], c, ?_, hdash⟩
  exact List.mem_append_left after (List.mem_append_left word hc)

theorem plain_unknownSortKey (h : '\n' ∉ word) :
    Plain (.message (QueryError.unknownSortKey word).message) :=
  plain_around (c := 'u') (by decide) (by decide) (by decide) h (by decide)

theorem plain_invalidDate (h : '\n' ∉ word) :
    Plain (.message (QueryError.invalidDate word).message) :=
  plain_around (c := 'i') (by decide) (by decide) (by decide) h (by decide)

theorem plain_userNotFound (h : '\n' ∉ word) :
    Plain (.message (QueryError.userNotFound word).message) := by
  have hplain : Plain (.message ("no TODOs found for user: ".toList ++ word ++ [])) :=
    plain_around (c := 'n') (by decide) (by decide) (by decide) h (by decide)
  rwa [List.append_nil] at hplain

theorem plain_of_rows {s : Session} {view : View}
    (h : ∀ task ∈ s.board.tasks, Layout.OnLine task)
    (hview : ∀ row ∈ view, row ∈ s.board.rows) : Plain (.rows view) := by
  intro row hrow
  exact h row.task (List.mem_of_getElem? (Board.task_of_mem_rows (hview row hrow)))

/-- A query gives rows of the board or a message about the word it was given. -/
theorem plain_execute {s : Session}
    (h : ∀ task ∈ s.board.tasks, Layout.OnLine task)
    (hword : '\n' ∉ subject command) : Plain (s.execute command) := by
  cases command with
  | exit => exact trivial
  | showAll => exact plain_of_rows h fun row hrow => hrow
  | important => exact plain_of_rows h fun row hrow => (List.mem_filter.mp hrow).1
  | unknown line => exact plain_wrongCommand
  | user name =>
    rw [execute, Board.ofUser]
    split
    · exact plain_userNotFound hword
    · exact plain_of_rows h fun row hrow => (List.mem_filter.mp hrow).1
  | sort word =>
    rw [execute, SortKey.ofWord]
    split
    · exact plain_of_rows h fun row hrow => (Board.sorted_perm s.board _).mem_iff.mp hrow
    · exact plain_unknownSortKey hword
  | date input =>
    rw [execute, Board.afterText]
    split
    · exact plain_of_rows h fun row hrow => (List.mem_filter.mp hrow).1
    · exact plain_invalidDate hword

theorem plain_replies {s : Session}
    (h : ∀ task ∈ s.board.tasks, Layout.OnLine task)
    (input : List UInt8) : ∀ reply ∈ s.replies input, Plain reply := by
  intro reply hreply
  obtain ⟨line, hline, rfl⟩ := List.mem_map.mp hreply
  have hmem : line ∈ linesAt '\n' (Utf8.decodeLossy input) := by
    rw [← map_decodeLossy_byteLines]
    exact (List.takeWhile_sublist _).subset hline
  exact plain_execute h fun hn => lineFeed_not_mem_chomp hmem (mem_of_mem_subject hn)

theorem heeded_flatMap {write : Text → Text} (cs : List Text)
    (h : ∀ c, exits c = true → write c = p) :
    (heeded cs).flatMap write ++ (if cs.any exits = true then [] else p) =
      (cs.takeWhile (!exits ·)).flatMap write ++ p := by
  induction cs with
  | nil => simp [heeded]
  | cons c cs ih =>
    rw [heeded_cons]
    by_cases hc : exits c = true
    · simp [hc, h c hc]
    · rw [if_neg hc, List.any_cons, Bool.eq_false_iff.mpr hc, Bool.false_or, List.flatMap_cons,
        List.append_assoc, ih]
      simp [hc]

/-- The whole output by its lines. -/
theorem run_eq_transcript (s : Session) (hmode : s.mode = .table) (input : List UInt8) :
    s.run input =
      (greeting :: ((s.replies input).flatMap (replyLines s.promptText)).map OutputLine.text).flatMap
        (· ++ ['\n']) ++ s.promptText := by
  have hconverse := converse_eq s (byteLines input) ((byteLines input).map Utf8.decodeLossy)
    (by rw [List.map_map]; rfl)
  have hexit : ∀ c, exits c = true → s.promptText ++ s.reply c = s.promptText := by
    intro c hc
    rw [reply, answer_of_exits s hc]
    exact List.append_nil _
  have hreply : ∀ line ∈ answered input, s.promptText ++ s.reply line =
      (replyLines s.promptText (s.execute (Command.ofLine line))).flatMap
        (fun line => line.text ++ ['\n']) := by
    intro line hline
    have hgoes : ¬ exits line = true := by
      have := List.all_eq_true.mp List.all_takeWhile line hline
      simpa using this
    exact (flatMap_replyLines s hmode (answer_of_not_exits s hgoes)).symm
  rw [run, hconverse, heeded_flatMap _ hexit, List.flatMap_cons, ← answered,
    List.flatMap_congr hreply, replies, List.flatMap_map, List.flatMap_map, List.flatMap_assoc,
    List.append_assoc]
  rfl

theorem readFrames_replies {prompt : Text} {replies : List Reply}
    (h : ∀ reply ∈ replies, Plain reply) :
    readFrames false ((replies.flatMap (replyLines prompt)).map OutputLine.text) =
      (replies.flatMap rowLines, false) := by
  induction replies with
  | nil => rfl
  | cons reply replies ih =>
    rw [List.flatMap_cons, List.map_append, readFrames_append,
      readFrames_replyLines (h reply (by simp)), ih (fun r hr => h r (by simp [hr]))]
    rfl

/-- The tables of a session can be read back from its lines, whatever is typed and whatever
the cells hold: dash lines are the rules of tables and no others, so what stands between them
are the rows of the replies. -/
theorem tables_read_back (s : Session) (input : List UInt8) (hmode : s.mode = .table)
    (hcells : ∀ task ∈ s.board.tasks, Layout.OnLine task) :
    splitOn '\n' (s.run input) = (s.transcript input).map OutputLine.text ∧
    (∀ line ∈ s.transcript input, isRule line.text = true ↔ line.kind = .rule) ∧
    readFrames false (splitOn '\n' (s.run input)) = ((s.replies input).flatMap rowLines, false) ∧
    ∀ view, (rowLines (.rows view)).length = view.length := by
  have hplain := plain_replies hcells input
  have hprompt : '\n' ∉ s.promptText ∧ isRule s.promptText = false := by
    rw [promptText]
    split <;> decide
  have hlines : ∀ line ∈ greeting ::
      ((s.replies input).flatMap (replyLines s.promptText)).map OutputLine.text, '\n' ∉ line := by
    simp only [List.mem_cons, List.mem_map, List.mem_flatMap]
    rintro line (rfl | ⟨line, ⟨reply, hreply, hline⟩, rfl⟩)
    · decide
    · exact lineFeed_not_mem_replyLines (hplain reply hreply) hprompt.1 line hline
  have hsplit : splitOn '\n' (s.run input) = (s.transcript input).map OutputLine.text := by
    rw [run_eq_transcript s hmode, splitOn_lines hlines hprompt.1, transcript]
    simp
  refine ⟨hsplit, ?_, ?_, fun view => List.length_map _⟩
  · intro line hline
    rw [transcript, List.mem_append, List.mem_cons, List.mem_flatMap] at hline
    rcases hline with (rfl | ⟨reply, hreply, hline⟩) | hlast
    · decide
    · exact isRule_replyLines_iff (hplain reply hreply) line hline
    · obtain rfl := List.mem_singleton.mp hlast
      simp [hprompt.2]
  · have hgreeting : isRule greeting = false := by decide
    have hend : readFrames false [s.promptText] = ([], false) :=
      readFrames_plain false (by simpa using hprompt.2)
    rw [hsplit, transcript, List.map_append, List.map_cons, readFrames_append, readFrames,
      if_neg (by simp [hgreeting]), readFrames_replies hplain, List.map_singleton, hend]
    simp

/-- A user of dashes is asked for and found, then a longer one is not. -/
theorem tables_read_back_dashes :
    (∀ task ∈ (Board.ofNotes [⟨['-'], ['-', '-', ';', '-']⟩]).tasks, Layout.OnLine task) ∧
    readFrames false (splitOn '\n' (run ⟨.ofNotes [⟨['-'], ['-', '-', ';', '-']⟩], .table, true⟩
        (Utf8.encode "user --\nuser ---\n---\r\nexit\nshow".toList))) =
      ([Layout.taskLine ⟨1, 4, 4, 7, 7⟩ (.ofNote ⟨['-'], ['-', '-', ';', '-']⟩)], false) :=
  have hcells : ∀ task ∈ (Board.ofNotes [⟨['-'], ['-', '-', ';', '-']⟩]).tasks,
      Layout.OnLine task := by decide +kernel
  have h := tables_read_back ⟨.ofNotes [⟨['-'], ['-', '-', ';', '-']⟩], .table, true⟩
    (Utf8.encode "user --\nuser ---\n---\r\nexit\nshow".toList) rfl hcells
  ⟨hcells, h.2.2.1.trans (by decide +kernel)⟩

end Session

end CodeNotes
