import CodeNotes.Session
/-!
The grammar of commands. What is read from a line follows it and nothing else: a keyword has to
stand alone or with one blank before its word, and a word never has a blank in it. So no command
asks for a user whose name has one.
-/
namespace CodeNotes

namespace Command

/-- The characters that are left out at the end of a line. -/
def EndsLine (c : Char) : Prop :=
  c = '\r' ∨ c = '\n'

/-- A line without the longest run of such characters at its end. -/
structure Body (line body : Text) : Prop where
  ending : ∃ run, line = body ++ run ∧ ∀ c ∈ run, EndsLine c
  longest : ∀ c ∈ body.getLast?, ¬ EndsLine c

/-- A keyword, one blank and a word. What follows the word begins with a blank. -/
def Takes (keyword word body : Text) : Prop :=
  ∃ rest, body = keyword ++ ' ' :: (word ++ rest) ∧ ' ' ∉ word ∧
    (rest = [] ∨ rest.head? = some ' ')

/-- The keywords that stand alone. -/
def loners : List Text :=
  ["exit".toList, "show".toList, "important".toList]

/-- The keywords that take a word. -/
def takers : List Text :=
  ["user".toList, "sort".toList, "date".toList]

/-- What the body of a line says. A body that says nothing else is unknown as a whole. -/
def Says (body : Text) : Command → Prop
  | .exit => body = "exit".toList
  | .showAll => body = "show".toList
  | .important => body = "important".toList
  | .user name => Takes "user".toList name body
  | .sort key => Takes "sort".toList key body
  | .date day => Takes "date".toList day body
  | .unknown text =>
    text = body ∧ body ∉ loners ∧ ∀ keyword ∈ takers, ∀ word, ¬ Takes keyword word body

section

variable {line body keyword other word : Text}

theorem endsLine_iff {c : Char} : (c == '\r' || c == '\n') = true ↔ EndsLine c := by
  simp [EndsLine]

/-- Every line has one body. -/
theorem body_iff : Body line body ↔ body = chomp line := by
  let ends := fun c : Char => c == '\r' || c == '\n'
  constructor
  · intro h
    obtain ⟨run, hline, hrun⟩ := h.ending
    have hpass : ∀ c ∈ run.reverse, ends c = true := by
      intro c hc
      exact endsLine_iff.mpr (hrun c (List.mem_reverse.mp hc))
    have hstop : body.reverse.dropWhile ends = body.reverse := by
      have hlast := h.longest
      rw [← List.head?_reverse] at hlast
      cases hb : body.reverse with
      | nil => rfl
      | cons c t =>
        apply List.dropWhile_cons_of_neg
        intro hc
        exact hlast c (by simp [hb]) (endsLine_iff.mp hc)
    rw [hline, chomp, List.reverse_append, List.dropWhile_append_of_pos hpass, hstop,
      List.reverse_reverse]
  · intro h
    subst body
    refine ⟨⟨(line.reverse.takeWhile ends).reverse, ?_, ?_⟩, ?_⟩
    · rw [chomp, ← List.reverse_append, List.takeWhile_append_dropWhile, List.reverse_reverse]
    · intro c hc
      have hall := List.all_eq_true.mp (List.all_takeWhile (p := ends) (l := line.reverse))
      exact endsLine_iff.mp (hall c (List.mem_reverse.mp hc))
    · intro c hc
      have hstop := List.head?_dropWhile_not ends line.reverse
      rw [chomp, List.getLast?_reverse] at hc
      rw [hc] at hstop
      rw [← endsLine_iff]
      simpa [ends] using hstop

theorem body_chomp (line : Text) : Body line (chomp line) :=
  body_iff.mpr rfl

/-- A line that nothing is left out of is its own body. -/
theorem chomp_eq_self (h : ∀ c ∈ body.getLast?, ¬ EndsLine c) : chomp body = body :=
  (body_iff.mp ⟨⟨[], by simp, by simp⟩, h⟩).symm

theorem mem_of_mem_chomp (h : c ∈ chomp line) : c ∈ line := by
  obtain ⟨run, hline, -⟩ := (body_chomp line).ending
  rw [hline]
  exact List.mem_append_left run h

theorem mem_chomp (h : c ∈ line) (hends : ¬ EndsLine c) : c ∈ chomp line := by
  obtain ⟨run, hline, hrun⟩ := (body_chomp line).ending
  rw [hline] at h
  rcases List.mem_append.mp h with hbody | hc
  · exact hbody
  · exact absurd (hrun c hc) hends

theorem takeWhile_without_blank (h : ' ' ∉ word) (rest : Text) :
    (word ++ rest).takeWhile (· ≠ ' ') = word ++ rest.takeWhile (· ≠ ' ') := by
  apply List.takeWhile_append_of_pos
  intro c hc
  exact decide_eq_true fun he => h (he ▸ hc)

/-- The reader of words takes exactly what the grammar has behind the keyword. -/
theorem argument?_eq_some_iff : argument? keyword body = some word ↔ Takes keyword word body := by
  rw [argument?, Option.map_eq_some_iff]
  constructor
  · intro h
    obtain ⟨behind, hbehind, hword⟩ := h
    have hbody := after?_eq_some_iff.mp hbehind
    refine ⟨behind.dropWhile (· ≠ ' '), ?_, ?_, ?_⟩
    · rw [← hword, List.takeWhile_append_dropWhile, hbody]
      simp
    · intro hc
      have hall := List.all_eq_true.mp (List.all_takeWhile (p := (· ≠ ' ')) (l := behind))
      rw [← hword] at hc
      simpa using hall ' ' hc
    · have hstop := List.head?_dropWhile_not (· ≠ ' ') behind
      cases hrest : behind.dropWhile (· ≠ ' ') with
      | nil => exact .inl rfl
      | cons c rest =>
        rw [hrest] at hstop
        exact .inr (by simpa using hstop)
  · intro h
    obtain ⟨rest, hbody, hword, hrest⟩ := h
    refine ⟨word ++ rest, after?_eq_some_iff.mpr (by simp [hbody]), ?_⟩
    rw [takeWhile_without_blank hword]
    cases rest with
    | nil => simp
    | cons c rest => simp_all

theorem argument?_eq_none_iff :
    argument? keyword body = none ↔ ∀ word, ¬ Takes keyword word body := by
  simp only [← argument?_eq_some_iff, Option.eq_none_iff_forall_ne_some, ne_eq]

theorem Takes.mem (h : Takes keyword word body) (hc : c ∈ word) : c ∈ body := by
  obtain ⟨rest, hbody, -⟩ := h
  simp [hbody, hc]

/-- The keyword is what stands before the first blank. -/
theorem Takes.keyword_eq (h : Takes keyword word body) (hk : ' ' ∉ keyword) :
    body.takeWhile (· ≠ ' ') = keyword := by
  obtain ⟨rest, hbody, -⟩ := h
  rw [hbody, takeWhile_without_blank hk]
  simp

/-- A body with one keyword has no other. -/
theorem argument?_other (h : Takes keyword word body) (hk : ' ' ∉ keyword) (ho : ' ' ∉ other)
    (hne : keyword ≠ other) : argument? other body = none := by
  apply argument?_eq_none_iff.mpr
  intro word' hother
  exact hne ((h.keyword_eq hk).symm.trans (hother.keyword_eq ho))

theorem argument?_without_blank (h : ' ' ∉ body) : argument? keyword body = none := by
  apply argument?_eq_none_iff.mpr
  intro word htakes
  obtain ⟨rest, hbody, -⟩ := htakes
  exact h (by simp [hbody])

/-- Without a keyword that takes a word the body is looked at as a whole. -/
theorem ofLine_whole (h : ∀ keyword ∈ takers, argument? keyword (chomp line) = none) :
    ofLine line =
      if chomp line = "exit".toList then .exit
      else if chomp line = "show".toList then .showAll
      else if chomp line = "important".toList then .important
      else .unknown (chomp line) := by
  have hu := h "user".toList (by simp [takers])
  have hs := h "sort".toList (by simp [takers])
  have hd := h "date".toList (by simp [takers])
  simp only [ofLine, hu, hs, hd]

/-- What is read from a line is what its body says. -/
theorem says_ofLine (line : Text) : Says (chomp line) (ofLine line) := by
  simp only [ofLine]
  split
  · next name _ _ hu => exact argument?_eq_some_iff.mp hu
  · next key _ hs => exact argument?_eq_some_iff.mp hs
  · next day _ _ hd => exact argument?_eq_some_iff.mp hd
  · next hu hs hd =>
    have htakes : ∀ keyword ∈ takers, ∀ word, ¬ Takes keyword word (chomp line) := by
      intro keyword hk
      apply argument?_eq_none_iff.mp
      simp only [takers, List.mem_cons, List.not_mem_nil, or_false] at hk
      rcases hk with rfl | rfl | rfl
      · exact hu
      · exact hs
      · exact hd
    split
    · next he => exact he
    · next hexit =>
      split
      · next he => exact he
      · next hshow =>
        split
        · next he => exact he
        · next himportant =>
          refine ⟨rfl, ?_, htakes⟩
          simp only [loners, List.mem_cons, List.not_mem_nil, or_false, not_or]
          exact ⟨hexit, hshow, himportant⟩

/-- A body says one thing only. -/
theorem ofLine_of_says {command : Command} (h : Says (chomp line) command) :
    ofLine line = command := by
  have hloner : ∀ {word}, chomp line = word → ' ' ∉ word →
      ∀ keyword ∈ takers, argument? keyword (chomp line) = none := by
    intro word he hblank keyword _
    exact argument?_without_blank (he ▸ hblank)
  cases command with
  | exit =>
    have he : chomp line = "exit".toList := h
    rw [ofLine_whole (hloner he (by decide)), if_pos he]
  | showAll =>
    have he : chomp line = "show".toList := h
    rw [ofLine_whole (hloner he (by decide)), if_neg (by rw [he]; decide), if_pos he]
  | important =>
    have he : chomp line = "important".toList := h
    rw [ofLine_whole (hloner he (by decide)), if_neg (by rw [he]; decide),
      if_neg (by rw [he]; decide), if_pos he]
  | user name => simp only [ofLine, argument?_eq_some_iff.mpr h]
  | sort key =>
    have hu : argument? "user".toList (chomp line) = none :=
      argument?_other h (by decide) (by decide) (by decide)
    simp only [ofLine, hu, argument?_eq_some_iff.mpr h]
  | date day =>
    have hu : argument? "user".toList (chomp line) = none :=
      argument?_other h (by decide) (by decide) (by decide)
    have hs : argument? "sort".toList (chomp line) = none :=
      argument?_other h (by decide) (by decide) (by decide)
    simp only [ofLine, hu, hs, argument?_eq_some_iff.mpr h]
  | unknown text =>
    obtain ⟨rfl, hloners, htakers⟩ := h
    have hnone : ∀ keyword ∈ takers, argument? keyword (chomp line) = none :=
      fun keyword hk => argument?_eq_none_iff.mpr (htakers keyword hk)
    simp only [loners, List.mem_cons, List.not_mem_nil, or_false, not_or] at hloners
    rw [ofLine_whole hnone, if_neg hloners.1, if_neg hloners.2.1, if_neg hloners.2.2]

theorem ofLine_eq_iff_says (line : Text) (command : Command) :
    ofLine line = command ↔ Says (chomp line) command := by
  constructor
  · rintro rfl
    exact says_ofLine line
  · exact ofLine_of_says

/-- A blank behind a word keeps all of it, whatever its last character is. -/
theorem takes_closed (hword : ' ' ∉ word) (keyword : Text) :
    Takes keyword word (chomp (keyword ++ ' ' :: word ++ [' '])) := by
  have hself : chomp (keyword ++ ' ' :: word ++ [' ']) = keyword ++ ' ' :: word ++ [' '] := by
    apply chomp_eq_self
    intro c hc
    rw [List.getLast?_concat] at hc
    obtain rfl := Option.some.inj hc
    simp [EndsLine]
  rw [hself]
  exact ⟨[' '], by simp, hword, .inr rfl⟩

end

end Command

namespace Session

/-- The tasks of a user are listed where there are any. -/
theorem execute_user_eq_rows_iff {s : Session} :
    s.execute (.user name) = .rows view ↔
      view = s.board.rows.filter (·.task.user = name) ∧ view ≠ [] := by
  rw [execute, Reply.ofQuery_eq_rows_iff, Board.ofUser_eq_ok_iff]

/-- Lines are read by the grammar of commands, and of the tasks on a board the command for users
reaches those whose user has no blank in its name. -/
theorem commands_by_grammar :
    (∀ line body, Command.Body line body ↔ body = Command.chomp line) ∧
    (∀ line command, Command.ofLine line = command ↔
      Command.Says (Command.chomp line) command) ∧
    (∀ word, ' ' ∉ word →
      Command.ofLine ("user ".toList ++ word ++ [' ']) = .user word ∧
      Command.ofLine ("sort ".toList ++ word ++ [' ']) = .sort word ∧
      Command.ofLine ("date ".toList ++ word ++ [' ']) = .date word) ∧
    ∀ s : Session, ∀ row ∈ s.board.rows,
      (∃ line name view, Command.ofLine line = .user name ∧
        s.execute (.user name) = .rows view ∧ row ∈ view) ↔ ' ' ∉ row.task.user := by
  have hclosed : ∀ word, ' ' ∉ word →
      Command.ofLine ("user ".toList ++ word ++ [' ']) = .user word ∧
      Command.ofLine ("sort ".toList ++ word ++ [' ']) = .sort word ∧
      Command.ofLine ("date ".toList ++ word ++ [' ']) = .date word := by
    intro word hword
    exact ⟨Command.ofLine_of_says (Command.takes_closed hword "user".toList),
      Command.ofLine_of_says (Command.takes_closed hword "sort".toList),
      Command.ofLine_of_says (Command.takes_closed hword "date".toList)⟩
  refine ⟨fun _ _ => Command.body_iff, Command.ofLine_eq_iff_says, hclosed, ?_⟩
  intro s row hrow
  constructor
  · rintro ⟨line, name, view, hline, hview, hmem⟩
    obtain ⟨-, -, hblank, -⟩ := (Command.ofLine_eq_iff_says line _).mp hline
    obtain ⟨rfl, -⟩ := execute_user_eq_rows_iff.mp hview
    obtain rfl := of_decide_eq_true (List.mem_filter.mp hmem).2
    exact hblank
  · intro hblank
    have hmem : row ∈ s.board.rows.filter (·.task.user = row.task.user) :=
      List.mem_filter.mpr ⟨hrow, decide_eq_true rfl⟩
    exact ⟨_, _, _, (hclosed _ hblank).1,
      execute_user_eq_rows_iff.mpr ⟨rfl, List.ne_nil_of_mem hmem⟩, hmem⟩

/-- A user whose name ends in a carriage return, and one whose name has a blank. -/
def oddUsers : Session where
  board := .ofNotes [⟨[], "al\r; x".toList⟩, ⟨[], "al b; y".toList⟩]
  mode := .table
  prompts := false

theorem commands_by_grammar_oddUsers :
    ' ' ∉ "al\r".toList ∧
    Command.ofLine ("user ".toList ++ "al\r".toList ++ [' ']) = .user "al\r".toList ∧
    ∀ row ∈ oddUsers.board.rows,
      (∃ line name view, Command.ofLine line = .user name ∧
        oddUsers.execute (.user name) = .rows view ∧ row ∈ view) ↔ row.position = 0 := by
  have hblank : ' ' ∉ "al\r".toList := by decide
  refine ⟨hblank, (commands_by_grammar.2.2.1 _ hblank).1, fun row hrow => ?_⟩
  have hfirst : ∀ row ∈ oddUsers.board.rows, ' ' ∉ row.task.user ↔ row.position = 0 := by decide
  exact (commands_by_grammar.2.2.2 oddUsers row hrow).trans (hfirst row hrow)

end Session

end CodeNotes
