import CodeNotes.Proofs.AddedFile
import CodeNotes.Proofs.LeftmostReading
import CodeNotes.Proofs.LineReading
/-!
Every task of a scan can be traced to the file that it stands in, and its fields to places in
its text.
-/
namespace CodeNotes

namespace Note

/-- A marker with a text behind it stands somewhere, and the text goes on to the end of its line. -/
def StandsIn (content text : Text) : Prop :=
  ∃ before rest, content = before ++ (marker ++ (text ++ rest)) ∧
    ∀ c ∈ rest.head?, isTerminator c = true

section Places

variable {content line text raw tail : Text} {parts : List (Text × Text)}

theorem StandsIn.behind (h : StandsIn content text) (before : Text) :
    StandsIn (before ++ content) text := by
  obtain ⟨earlier, rest, rfl, hrest⟩ := h
  exact ⟨before ++ earlier, rest, by simp, hrest⟩

theorem line_of_ofLine? (h : ofLine? line = some text) :
    ∃ before, line = before ++ (marker ++ text) := by
  obtain ⟨hmarker, -⟩ := Option.filter_eq_some_iff.mp h
  obtain ⟨tail, htail, hafter⟩ := List.exists_of_findSome?_eq_some hmarker
  obtain ⟨before, rfl⟩ := (List.mem_tails tail line).mp htail
  exact ⟨before, by rw [after?_eq_some_iff.mp hafter]⟩

/-- What stands on the first line. -/
theorem standsIn_first (h : ofLine? (content.takeWhile onLine) = some text) :
    StandsIn content text := by
  obtain ⟨before, hline⟩ := line_of_ofLine? h
  refine ⟨before, content.dropWhile onLine, ?_, ?_⟩
  · have hsplit := List.takeWhile_append_dropWhile (p := onLine) (l := content)
    rw [hline] at hsplit
    simpa using hsplit.symm
  · intro c hc
    have hhead := List.head?_dropWhile_not onLine content
    rw [Option.mem_def.mp hc] at hhead
    simpa [onLine] using hhead

/-- A text that was read line by line stands in what was read. The induction is on what is left
behind the lines before. -/
theorem standsIn_of_mem_lineTexts (h : text ∈ lineTexts content) : StandsIn content text := by
  induction hn : content.length using Nat.strong_induction_on generalizing content with
  | _ n ih =>
    subst hn
    cases content with
    | nil => simp [lineTexts_nil] at h
    | cons c rest =>
      cases hc : isTerminator c with
      | true =>
        rw [lineTexts_terminator hc] at h
        exact (ih rest.length (by simp) h rfl).behind [c]
      | false =>
        have hon : onLine c = true := by simp [onLine, hc]
        rw [lineTexts_first, List.mem_append, Option.mem_toList] at h
        rcases h with h | h
        · exact standsIn_first h
        · have hsplit := List.takeWhile_append_dropWhile (p := onLine) (l := c :: rest)
          have hshort : ((c :: rest).dropWhile onLine).length < (c :: rest).length := by
            rw [List.dropWhile_cons_of_pos hon]
            exact Nat.lt_succ_of_le (List.dropWhile_sublist onLine).length_le
          have hlater := (ih _ hshort h rfl).behind ((c :: rest).takeWhile onLine)
          rwa [hsplit] at hlater

/-- The user is cut off at the first semicolon. -/
theorem user_prefix (raw : Text) :
    ';' ∉ user raw ∧ (user raw ≠ [] → user raw ++ [';'] <+: raw) := by
  unfold user
  split
  · next hsemi =>
    obtain ⟨before, after, rfl, hbefore⟩ := List.eq_append_cons_of_mem hsemi
    have hall : ∀ c ∈ before, decide (c ≠ ';') = true := by
      intro c hc
      exact decide_eq_true fun he => hbefore (he ▸ hc)
    have htake : (before ++ ';' :: after).takeWhile (· ≠ ';') = before := by
      rw [List.takeWhile_append_of_pos hall]
      simp
    rw [htake]
    exact ⟨hbefore, fun _ => ⟨after, by simp⟩⟩
  · simp

theorem date_place (raw : Text) :
    date raw = [] ∨ IsDate (date raw) ∧
      ∃ before blanks after, Blank blanks ∧
        raw = before ++ ';' :: (blanks ++ date raw ++ after) := by
  by_cases hdate : date raw = []
  · exact .inl hdate
  · obtain ⟨before, t, hraw, ⟨blanks, after, ht, hblank, htoken⟩, -⟩ :=
      firstDate_iff.mpr ⟨rfl, hdate⟩
    exact .inr ⟨htoken, before, blanks, after, hblank, ht ▸ hraw⟩

/-- A reading with groups has a date in its text. -/
theorem Reading.date_ne (h : Reading raw parts tail) (hparts : parts ≠ []) : date raw ≠ [] := by
  cases h with
  | plain _ => contradiction
  | @group t g rest parts tail _ hg _ =>
    intro hnone
    obtain ⟨w₁, token, w₂, rfl, hw₁, htoken, -⟩ := hg
    refine date_eq_nil_iff.mp hnone ⟨t, w₁ ++ token ++ (w₂ ++ [';'] ++ rest), token, by simp, ?_⟩
    exact ⟨w₁, _, rfl, hw₁, htoken⟩

/-- A comment that is not the whole text stands behind a group, so there is a date. -/
theorem comment_place (raw : Text) :
    comment raw <:+ raw ∧ (raw ≠ [] → comment raw ≠ []) ∧
      (comment raw ≠ raw → date raw ≠ [] ∧ ∀ c ∈ (comment raw).head?, isBlank c = false) := by
  obtain ⟨parts, tail, hread⟩ := exists_reading raw
  rw [comment_of_reading hread]
  split
  · next hbehind =>
    obtain ⟨hparts, htail⟩ := hbehind
    have hsuffix : tail <:+ raw := ⟨_, hread.join.symm⟩
    refine ⟨(List.dropWhile_suffix isBlank).trans hsuffix, fun _ => htail, fun _ => ?_⟩
    refine ⟨hread.date_ne hparts, fun c hc => ?_⟩
    have hhead := List.head?_dropWhile_not isBlank tail
    rw [Option.mem_def.mp hc] at hhead
    simpa using hhead
  · exact ⟨List.suffix_refl raw, fun hne => hne, fun hne => absurd rfl hne⟩

end Places

theorem mem_ofFiles_iff {files : List SourceFile} {note : Note} :
    note ∈ ofFiles files ↔
      ∃ file ∈ files, file.fileName = note.fileName ∧ note.text ∈ lineTexts file.content := by
  simp only [ofFiles, List.mem_flatMap, List.mem_map, texts_eq_lineTexts]
  refine exists_congr fun file => and_congr_right fun _ => ?_
  constructor
  · rintro ⟨text, htext, rfl⟩
    exact ⟨rfl, htext⟩
  · rintro ⟨hname, htext⟩
    exact ⟨note.text, htext, by rw [hname]⟩

end Note

/-- How the fields of a task stand to its text. -/
structure Task.Parsed (task : Task) : Prop where
  nonempty : task.text ≠ []
  oneLine : Note.OneLine task.text
  user_free : ';' ∉ task.user
  user_first : task.user ≠ [] → task.user ++ [';'] <+: task.text
  date : task.date = [] ∨ Note.IsDate task.date ∧
    ∃ before blanks after, Note.Blank blanks ∧
      task.text = before ++ ';' :: (blanks ++ task.date ++ after)
  comment_nonempty : task.comment ≠ []
  comment_last : task.comment <:+ task.text
  comment_behind : task.comment ≠ task.text →
    task.date ≠ [] ∧ ∀ c ∈ task.comment.head?, isBlank c = false
  rank : task.rank = task.text.count '!'
  important : task.important = true ↔ 0 < task.rank

theorem Task.parsed_ofNote {note : Note} (hne : note.text ≠ []) (hline : Note.OneLine note.text) :
    (Task.ofNote note).Parsed := by
  obtain ⟨hfree, hfirst⟩ := Note.user_prefix note.text
  obtain ⟨hlast, hcomment, hbehind⟩ := Note.comment_place note.text
  exact ⟨hne, hline, hfree, hfirst, Note.date_place note.text, hcomment hne, hlast, hbehind, rfl,
    decide_eq_true_iff⟩

namespace Project

/-- A file that the walk reaches and the settings ask for, as it is read. -/
structure Reads (p : Project) (s : Settings) (file : SourceFile) (way : Walk.Way) : Prop where
  reached : ∃ found, Walk.files p.tree p.dir s.root s.followsLinks = .ok found ∧
    ⟨way, Utf8.encode file.content⟩ ∈ found
  path : file.path = way.path
  short : Path.isTooLong file.path = false
  name : file.fileName = lastName file.path
  extension : extension? file.fileName = some s.extension
  kept : ¬ Glob.SomeMatches s.allExcludes (joinWith ['/'] way.names)
  included : s.includes = [] ∨ Glob.SomeMatches s.includes (joinWith ['/'] way.names)

variable {p : Project} {s : Settings} {files : List SourceFile} {board : Board}

/-- The files collected are those that the walk reaches and the settings ask for. -/
theorem mem_collect_iff (h : p.collect s = .ok files) (file : SourceFile) :
    file ∈ files ↔ ∃ way, p.Reads s file way := by
  obtain ⟨includes, excludes, found, hi, he, hfound, rfl⟩ := exists_found_of_collect h
  simp only [List.mem_map, List.mem_mergeSort, List.mem_filterMap]
  constructor
  · rintro ⟨⟨relative, file⟩, ⟨⟨way, bytes⟩, hmem, hsource⟩, rfl⟩
    simp only [source?] at hsource
    split at hsource
    · next hselects =>
      rw [Bool.and_eq_true, selects_eq_true_iff hi he, Bool.not_eq_true'] at hselects
      obtain ⟨⟨hext, hkept, hincluded⟩, hshort⟩ := hselects
      obtain ⟨content, hcontent, hfile⟩ := Option.map_eq_some_iff.mp hsource
      obtain ⟨-, rfl⟩ := Prod.mk.inj hfile
      obtain rfl := Utf8.decode?_eq_some_iff.mp hcontent
      exact ⟨way, ⟨found, hfound, hmem⟩, rfl, hshort, rfl, hext, hkept, hincluded⟩
    · contradiction
  · rintro ⟨way, hreads⟩
    obtain ⟨found', hfound', hmem⟩ := hreads.reached
    obtain rfl : found = found' := Except.ok.inj (hfound.symm.trans hfound')
    obtain ⟨path, fileName, content⟩ := file
    obtain rfl : path = way.path := hreads.path
    obtain rfl : fileName = lastName way.path := hreads.name
    have hselects := (selects_eq_true_iff hi he (lastName way.path) (joinWith ['/'] way.names)).mpr
      ⟨hreads.extension, hreads.kept, hreads.included⟩
    have hshort : Path.isTooLong way.path = false := hreads.short
    have hdecode : Utf8.decode? (Utf8.encode content) = some content :=
      Utf8.decode?_eq_some_iff.mpr rfl
    refine ⟨(joinWith ['/'] way.names, ⟨way.path, lastName way.path, content⟩),
      ⟨⟨way, Utf8.encode content⟩, hmem, ?_⟩, rfl⟩
    simp [source?, hselects, hshort, hdecode]

/-- Every task of a scan stands in a selected file, behind a marker and up to the end of a line,
and its fields are read off its text. -/
theorem tasks_traced (h : p.scan s = .ok board) :
    ∀ task ∈ board.tasks, task.Parsed ∧
      ∃ file way, p.Reads s file way ∧ file.fileName = task.fileName ∧
        Note.StandsIn file.content task.text := by
  obtain ⟨-, files, hfiles, rfl⟩ := scan_eq_ok_iff.mp h
  intro task htask
  obtain ⟨note, hnote, rfl⟩ := List.mem_map.mp htask
  obtain ⟨file, hfile, hname, htext⟩ := Note.mem_ofFiles_iff.mp hnote
  obtain ⟨hne, hline⟩ := Note.lineTexts_oneLine htext
  obtain ⟨way, hreads⟩ := (mem_collect_iff hfiles file).mp hfile
  exact ⟨Task.parsed_ofNote hne hline, file, way, hreads, hname,
    Note.standsIn_of_mem_lineTexts htext⟩

/-- A script of one line, with a note behind some code. -/
def noted : Project where
  tree := .dir [(script ['a'], .file (Utf8.encode ("go() // TODO al; 2024-01-02 ; hi!".toList)))]
  dir := []

theorem noted_ready : noted.Ready (scripts ['.']) noted.tree := by
  have hproper : noted.tree.Proper := Tree.proper_empty.cons (.file _) (by decide) (by decide)
  exact ⟨rfl, ⟨[], _, rfl, rfl⟩, hproper, (Walk.visit_ok_iff hproper [] ⟨[], ['.']⟩ []).mp ⟨_, rfl⟩,
    by simp [scripts]⟩

theorem noted_task :
    ∃ board, noted.scan (scripts ['.']) = .ok board ∧
      ⟨['a', 'l'], "2024-01-02".toList, ['h', 'i', '!'], true, 1, script ['a'],
        "al; 2024-01-02 ; hi!".toList⟩ ∈ board.tasks := by
  obtain ⟨picked, hmem, -, hscan⟩ := scan_picked noted_ready
    (validate_eq_ok_iff.mpr ⟨by decide, [], _, rfl⟩)
  have hselected : Selected (scripts ['.']) noted.tree [script ['a']]
      "go() // TODO al; 2024-01-02 ; hi!".toList :=
    ⟨rfl, scripts_wants _ [] ['a'] (by decide) (by decide +kernel), rfl⟩
  refine ⟨_, hscan, List.mem_flatMap.mpr ⟨_, (hmem _ _).mpr hselected, ?_⟩⟩
  rw [fileTasks, Note.texts_eq_lineTexts]
  decide +kernel

theorem tasks_traced_noted :
    ∃ board task, noted.scan (scripts ['.']) = .ok board ∧ task ∈ board.tasks ∧
      task.text = "al; 2024-01-02 ; hi!".toList ∧ task.Parsed ∧
      ∃ file way, noted.Reads (scripts ['.']) file way ∧ file.fileName = script ['a'] ∧
        Note.StandsIn file.content task.text := by
  obtain ⟨board, hscan, htask⟩ := noted_task
  exact ⟨board, _, hscan, htask, rfl, tasks_traced hscan _ htask⟩

end Project

end CodeNotes
