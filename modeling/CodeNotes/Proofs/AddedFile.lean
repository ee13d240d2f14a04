import CodeNotes.Proofs.LineReading
import CodeNotes.Proofs.Selection
/-!
What a new file changes on the board of a project where links are not followed: its own tasks
come in at the place of its path, and all others stay as they are.
-/
namespace CodeNotes

/-- The tasks of a file, in the order of its notes. -/
def fileTasks (file : Location × Text) : List Task :=
  (Note.texts file.2).map fun t => Task.ofNote ⟨file.1.getLast?.getD [], t⟩

theorem ofFiles_sourceFile (root : Text) (files : List (Location × Text)) :
    Board.ofNotes (Note.ofFiles (files.map (sourceFile root))) = ⟨files.flatMap fileTasks⟩ := by
  simp only [Board.ofNotes, Note.ofFiles, List.flatMap_map, List.map_flatMap, List.map_map]
  rfl

section

variable {files files' between : List (Location × Text)} {rel : Location}

/-- The files of a list whose paths come before a path. -/
def filesBefore (rel : Location) (files : List (Location × Text)) : List (Location × Text) :=
  files.filter (·.1.bytes < rel.bytes)

/-- The files of a list whose paths come behind a path. -/
def filesAfter (rel : Location) (files : List (Location × Text)) : List (Location × Text) :=
  files.filter (rel.bytes < ·.1.bytes)

theorem mem_filesBefore :
    file ∈ filesBefore rel files ↔ file ∈ files ∧ file.1.bytes < rel.bytes := by
  simp [filesBefore]

theorem mem_filesAfter :
    file ∈ filesAfter rel files ↔ file ∈ files ∧ rel.bytes < file.1.bytes := by
  simp [filesAfter]

/-- Files at the path itself stand between those before it and those behind it. -/
theorem byPath_between (h : files.Pairwise ByPath) (hone : between.Pairwise ByPath)
    (hbetween : ∀ file ∈ between, file.1 = rel) :
    (filesBefore rel files ++ between ++ filesAfter rel files).Pairwise ByPath := by
  rw [List.pairwise_append, List.pairwise_append]
  refine ⟨⟨h.sublist List.filter_sublist, hone, ?_⟩, h.sublist List.filter_sublist, ?_⟩
  · intro a ha b hb
    rw [ByPath, hbetween b hb]
    exact (mem_filesBefore.mp ha).2
  · intro a ha b hb
    have hlt := (mem_filesAfter.mp hb).2
    rcases List.mem_append.mp ha with ha | ha
    · exact List.lt_trans (mem_filesBefore.mp ha).2 hlt
    · rw [ByPath, hbetween a ha]
      exact hlt

/-- Files at a new path come in between those before it and those behind it. -/
theorem insert_byPath (h : files.Pairwise ByPath) (hnew : ∀ file ∈ files, file.1.bytes ≠ rel.bytes)
    (h' : files'.Pairwise ByPath) (hone : between.Pairwise ByPath)
    (hbetween : ∀ file ∈ between, file.1 = rel)
    (hmem : ∀ file, file ∈ files' ↔ file ∈ files ∨ file ∈ between) :
    files' = filesBefore rel files ++ between ++ filesAfter rel files := by
  refine h'.eq_of_mem_iff (byPath_between h hone hbetween) fun file => ?_
  have hsplit : file ∈ files ↔ file ∈ filesBefore rel files ∨ file ∈ filesAfter rel files := by
    rw [mem_filesBefore, mem_filesAfter, ← and_or_left]
    refine (and_iff_left_of_imp fun hfile => ?_).symm
    rcases bytes_trichotomy file.1.bytes rel.bytes with hlt | heq | hgt
    · exact .inl hlt
    · exact absurd heq (hnew file hfile)
    · exact .inr hgt
  rw [hmem, hsplit, List.mem_append, List.mem_append, or_right_comm]

end

namespace Project

/-- The project with a file put where there was nothing, and with the directories made that lead
there. -/
def withFile (p : Project) (loc : Location) (bytes : List UInt8) : Project :=
  { p with tree := Tree.put (.file bytes) loc p.tree }

variable {p : Project} {s : Settings} {tree : Tree} {loc rel : Location} {board : Board}

theorem validate_eq_ok_iff :
    p.validate s = .ok () ↔
      (s.extension ≠ [] ∧ '/' ∉ s.extension ∧ '\\' ∉ s.extension) ∧
        ∃ loc entries, Path.find p.tree p.dir s.root = .ok (loc, .dir entries) := by
  unfold validate
  split
  · next h => simp [h]
  · next hne =>
    split
    · next h =>
      simp only [reduceCtorEq, false_iff]
      rintro ⟨⟨-, hs, hb⟩, -⟩
      exact h.elim hs hb
    · next h =>
      rw [not_or] at h
      simp only [hne, h, ne_eq, not_false_eq_true, and_self, true_and]
      split
      · next loc entries hf => simp [hf]
      · next hf =>
        simp only [reduceCtorEq, false_iff]
        rintro ⟨loc, entries, he⟩
        exact hf loc entries he

theorem scan_eq_ok_iff :
    p.scan s = .ok board ↔
      p.validate s = .ok () ∧ ∃ files, p.collect s = .ok files ∧
        board = Board.ofNotes (Note.ofFiles files) := by
  unfold scan
  cases p.validate s with
  | error e => simp [bind, Except.bind]
  | ok _ =>
    cases p.collect s with
    | error e => simp [bind, Except.bind]
    | ok files => simp [bind, Except.bind, pure, Except.pure, eq_comm]

/-- What was collected, the walk found and the globs selected. -/
theorem exists_found_of_collect (h : p.collect s = .ok files) :
    ∃ includes excludes found, readGlobs s.includes = .ok includes ∧
      readGlobs s.allExcludes = .ok excludes ∧
      Walk.files p.tree p.dir s.root s.followsLinks = .ok found ∧
      files = ((found.filterMap (source? s includes excludes)).mergeSort
        fun a b => pathLE a.1 b.1).map (·.2) := by
  unfold collect at h
  cases hroot : Path.find p.tree p.dir s.root with
  | error e => simp [hroot] at h
  | ok root =>
    cases hi : readGlobs s.includes with
    | error e => simp [hroot, hi, bind, Except.bind] at h
    | ok includes =>
      cases he : readGlobs s.allExcludes with
      | error e => simp [hroot, hi, he, bind, Except.bind] at h
      | ok excludes =>
        cases hf : Walk.files p.tree p.dir s.root s.followsLinks with
        | error e => simp [hroot, hi, he, hf, bind, Except.bind] at h
        | ok found =>
          simp only [hroot, hi, he, hf, bind, Except.bind, Except.ok.injEq] at h
          exact ⟨includes, excludes, found, rfl, rfl, rfl, h.symm⟩

theorem collect_ok (h : p.collect s = .ok files) (hlinks : s.followsLinks = false)
    (hroot : Path.find p.tree p.dir s.root = .ok (loc, .dir entries)) :
    (∃ includes, readGlobs s.includes = .ok includes) ∧
      (∃ excludes, readGlobs s.allExcludes = .ok excludes) ∧
      ∃ found, Walk.visit Walk.passOver [] ⟨[], s.root⟩ loc (.dir entries) = .ok found := by
  obtain ⟨includes, excludes, found, hi, he, hfound, -⟩ := exists_found_of_collect h
  simp only [Walk.files, hroot, hlinks] at hfound
  exact ⟨⟨includes, hi⟩, ⟨excludes, he⟩, found, hfound⟩

/-- A project that was scanned was ready to be. -/
theorem ready_of_scan (h : p.scan s = .ok board) (hlinks : s.followsLinks = false)
    (hroot : Path.find p.tree p.dir s.root = .ok (loc, tree)) (hproper : tree.Proper) :
    p.Ready s tree := by
  obtain ⟨hv, files, hc, -⟩ := scan_eq_ok_iff.mp h
  obtain ⟨-, loc', entries, hfind⟩ := validate_eq_ok_iff.mp hv
  obtain ⟨rfl, rfl⟩ := Prod.mk.inj (Except.ok.inj (hroot.symm.trans hfind))
  obtain ⟨hi, he, hfound⟩ := collect_ok hc hlinks hfind
  refine ⟨hlinks, ⟨loc, entries, hroot, rfl⟩, hproper,
    (Walk.visit_ok_iff hproper _ _ _).mp hfound, ?_⟩
  intro pattern hp
  rcases List.mem_append.mp hp with hp | hp
  · exact readGlobs_ok_iff.mp hi pattern hp
  · exact readGlobs_ok_iff.mp he pattern (List.mem_append_right _ hp)

theorem at?_file_put (hfree : tree.Free rel) (bytes bytes' : List UInt8) (q : Location) :
    (Tree.put (.file bytes) rel tree).at? q = some (.file bytes') ↔
      tree.at? q = some (.file bytes') ∨ q = rel ∧ bytes' = bytes := by
  constructor
  · intro h
    rcases Tree.of_at?_put hfree.openTo h with ⟨rest, rfl, hr⟩ | ⟨-, -, entries, he⟩ | hold
    · obtain ⟨rfl, he⟩ := Tree.at?_file.mp hr
      exact .inr ⟨List.append_nil rel, Tree.file.inj he⟩
    · cases he
    · exact .inl hold
  · rintro (hold | ⟨rfl, rfl⟩)
    · simpa using Tree.grows_put (.file bytes) hfree q _ hold
    · have hput := Tree.at?_put (.file bytes') q [] tree
      rwa [List.append_nil] at hput

/-- Directories that are made on the way can be read where the last of them can. -/
theorem readable_put {root : Text} (h : Walk.Readable root tree) (hfree : tree.Free rel)
    (hparent : Path.isTooLong (Path.along root rel.dropLast) = false) (bytes : List UInt8) :
    Walk.Readable root (Tree.put (.file bytes) rel tree) := by
  intro q entries hq
  rcases Tree.of_at?_put hfree.openTo hq with ⟨rest, rfl, hr⟩ | ⟨hway, hne, -⟩ | hold
  · cases (Tree.at?_file.mp hr).2
  · have hdrop : q <+: rel.dropLast := by
      obtain ⟨more, rfl⟩ := hway
      have hmore : more ≠ [] := by
        rintro rfl
        exact hne (List.append_nil q).symm
      exact ⟨more.dropLast, (List.dropLast_append_of_ne_nil hmore).symm⟩
    rw [← Bool.not_eq_true]
    intro hlong
    rw [Path.isTooLong_of_prefix hdrop hlong] at hparent
    cases hparent
  · exact h q entries hold

theorem Ready.withFile (h : p.Ready s tree)
    (hroot : Path.find p.tree p.dir s.root = .ok (loc, tree))
    (hfree : p.tree.Free (loc ++ rel)) (hnames : ∀ name ∈ rel, IsName name)
    (hparent : Path.isTooLong (Path.along s.root rel.dropLast) = false) (bytes : List UInt8) :
    (p.withFile (loc ++ rel) bytes).Ready s (Tree.put (.file bytes) rel tree) := by
  have hloc := (Path.find_eq_ok_iff.mp hroot).2
  have hbelow := hfree.subtree hloc
  refine ⟨h.links, ?_, h.proper.put (.file bytes) hnames,
    readable_put h.readable hbelow hparent bytes, h.globs⟩
  have hfind := Path.find_grows (Tree.grows_put (.file bytes) hfree) hroot
    (Tree.at?_put_below hloc (.file bytes) rel)
  cases rel with
  | nil => exact absurd hbelow.fresh (by simp [Tree.at?_nil])
  | cons name rel => exact ⟨loc, _, hfind, rfl⟩

theorem selected_put (hfree : tree.Free rel) (bytes : List UInt8) (q : Location) (content : Text) :
    Selected s (Tree.put (.file bytes) rel tree) q content ↔
      Selected s tree q content ∨ q = rel ∧ bytes = Utf8.encode content ∧ s.Wants rel ∧
        Path.isTooLong (Path.along s.root rel) = false := by
  constructor
  · rintro ⟨hfile, hwanted, hshort⟩
    rcases (at?_file_put hfree bytes _ q).mp hfile with hold | ⟨rfl, hbytes⟩
    · exact .inl ⟨hold, hwanted, hshort⟩
    · exact .inr ⟨rfl, hbytes.symm, hwanted, hshort⟩
  · rintro (⟨hfile, hwanted, hshort⟩ | ⟨rfl, hbytes, hwanted, hshort⟩)
    · exact ⟨(at?_file_put hfree bytes _ q).mpr (.inl hfile), hwanted, hshort⟩
    · exact ⟨(at?_file_put hfree bytes _ q).mpr (.inr ⟨rfl, hbytes.symm⟩), hwanted, hshort⟩

/-- No selected file has the path of a new one. -/
theorem selected_ne (h : Selected s tree q content) (hproper : tree.Proper) (hfree : tree.Free rel)
    (hnames : ∀ name ∈ rel, IsName name) : q.bytes ≠ rel.bytes := by
  intro hbytes
  have hat := h.file
  rw [Location.bytes_injective (Tree.names_of_at? hproper hat) hnames hbytes, hfree.fresh] at hat
  cases hat

theorem scan_picked (h : p.Ready s tree) (hv : p.validate s = .ok ()) :
    ∃ picked : List (Location × Text),
      (∀ rel content, (rel, content) ∈ picked ↔ Selected s tree rel content) ∧
      picked.Pairwise ByPath ∧ p.scan s = .ok ⟨picked.flatMap fileTasks⟩ := by
  obtain ⟨picked, hmem, horder, hcollect⟩ := collect_picked h
  exact ⟨picked, hmem, horder,
    scan_eq_ok_iff.mpr ⟨hv, _, hcollect, (ofFiles_sourceFile s.root picked).symm⟩⟩

theorem validate_withFile (hv : p.validate s = .ok ()) (h : (p.withFile loc bytes).Ready s tree) :
    (p.withFile loc bytes).validate s = .ok () := by
  obtain ⟨loc', entries, hfind, rfl⟩ := h.root
  exact validate_eq_ok_iff.mpr ⟨(validate_eq_ok_iff.mp hv).1, loc', entries, hfind⟩

/-- A new file where there was nothing leaves the tasks of all other files as they are. Its own
tasks come in between those of the files before it and those of the files behind it, or there
are none where it is not selected. -/
theorem scan_withFile (hscan : p.scan s = .ok board) (hlinks : s.followsLinks = false)
    (hroot : Path.find p.tree p.dir s.root = .ok (loc, tree)) (hproper : tree.Proper)
    (hfree : p.tree.Free (loc ++ rel)) (hnames : ∀ name ∈ rel, IsName name)
    (hparent : Path.isTooLong (Path.along s.root rel.dropLast) = false) (bytes : List UInt8) :
    ∃ before after : List (Location × Text),
      (before ++ after).Pairwise ByPath ∧
      (∀ file, file ∈ before ↔ Selected s tree file.1 file.2 ∧ file.1.bytes < rel.bytes) ∧
      (∀ file, file ∈ after ↔ Selected s tree file.1 file.2 ∧ rel.bytes < file.1.bytes) ∧
      board = ⟨before.flatMap fileTasks ++ after.flatMap fileTasks⟩ ∧
      (∀ content, bytes = Utf8.encode content → s.Wants rel →
        Path.isTooLong (Path.along s.root rel) = false →
        (p.withFile (loc ++ rel) bytes).scan s = .ok
          ⟨before.flatMap fileTasks ++ fileTasks (rel, content) ++ after.flatMap fileTasks⟩) ∧
      ((∀ content, bytes ≠ Utf8.encode content) ∨ ¬ s.Wants rel ∨
          Path.isTooLong (Path.along s.root rel) = true →
        (p.withFile (loc ++ rel) bytes).scan s = .ok board) := by
  have hready := ready_of_scan hscan hlinks hroot hproper
  have hv := (scan_eq_ok_iff.mp hscan).1
  have hready' := hready.withFile hroot hfree hnames hparent bytes
  have hbelow := hfree.subtree (Path.find_eq_ok_iff.mp hroot).2
  obtain ⟨picked, hmem, horder, hpicked⟩ := scan_picked hready hv
  obtain ⟨picked', hmem', horder', hpicked'⟩ := scan_picked hready' (validate_withFile hv hready')
  obtain rfl : board = ⟨picked.flatMap fileTasks⟩ := Except.ok.inj (hscan.symm.trans hpicked)
  have hnew : ∀ file ∈ picked, file.1.bytes ≠ rel.bytes := fun file hfile =>
    selected_ne ((hmem file.1 file.2).mp hfile) hproper hbelow hnames
  have hsplit : picked = filesBefore rel picked ++ filesAfter rel picked := by
    have h := insert_byPath horder hnew horder List.Pairwise.nil (by simp) (by simp)
    rwa [List.append_nil] at h
  refine ⟨filesBefore rel picked, filesAfter rel picked, hsplit ▸ horder, ?_, ?_, ?_, ?_, ?_⟩
  · intro file
    rw [mem_filesBefore, hmem]
  · intro file
    rw [mem_filesAfter, hmem]
  · rw [← List.flatMap_append, ← hsplit]
  · intro content hbytes hwants hshort
    have h := insert_byPath horder hnew horder' (List.pairwise_singleton ByPath (rel, content))
        (by simp) fun ⟨q, content'⟩ => by
      rw [hmem', hmem, selected_put hbelow, List.mem_singleton, Prod.mk.injEq]
      refine or_congr_right (and_congr_right fun _ => ?_)
      constructor
      · rintro ⟨hbytes', -, -⟩
        exact Utf8.encode_injective (hbytes'.symm.trans hbytes)
      · rintro rfl
        exact ⟨hbytes, hwants, hshort⟩
    rw [hpicked', h]
    simp
  · intro hnone
    have h := insert_byPath horder hnew horder' List.Pairwise.nil (by simp) fun ⟨q, content⟩ => by
      rw [hmem', hmem, selected_put hbelow]
      refine or_congr_right (iff_of_false ?_ List.not_mem_nil)
      rintro ⟨rfl, hbytes, hwants, hshort⟩
      rcases hnone with hnone | hnone | hnone
      · exact hnone content hbytes
      · exact hnone hwants
      · simp [hshort] at hnone
    rw [hpicked', h, List.append_nil, ← hsplit]

theorem neighbours_free : neighbours.tree.Free [['a', '-', 'c'], script ['n']] where
  fresh := rfl
  openTo dir hdir hne u hu := by
    simp only [List.prefix_cons_iff, List.prefix_nil] at hdir
    rcases hdir with rfl | ⟨_, rfl, rfl | ⟨_, rfl, rfl⟩⟩
    · exact ⟨_, (Option.some.inj hu).symm⟩
    · cases hu
    · exact absurd rfl hne

theorem scan_withFile_neighbours :
    neighbours.tree.Free [['a', '-', 'c'], script ['n']] ∧
    ∃ (board : Board) (before after : List (Location × Text)),
      neighbours.scan (scripts ['.']) = .ok board ∧
      board = ⟨before.flatMap fileTasks ++ after.flatMap fileTasks⟩ ∧
      ([['a', '-', 'b'], script ['x']], ['b']) ∈ before ∧
      ([['a'], script ['x']], ['a']) ∈ after ∧
      (neighbours.withFile [['a', '-', 'c'], script ['n']]
          (Utf8.encode (Note.marker ++ ['n']))).scan (scripts ['.']) =
        .ok ⟨before.flatMap fileTasks ++
          fileTasks ([['a', '-', 'c'], script ['n']], Note.marker ++ ['n']) ++
          after.flatMap fileTasks⟩ := by
  obtain ⟨picked, -, -, hscan⟩ := scan_picked neighbours_ready
    (validate_eq_ok_iff.mpr ⟨by decide, [], _, rfl⟩)
  have hroot : Path.find neighbours.tree [] ['.'] = .ok ([], neighbours.tree) := rfl
  obtain ⟨before, after, -, hbefore, hafter, hboard, hadded, -⟩ :=
    scan_withFile hscan rfl hroot neighbours_ready.proper neighbours_free (by decide) rfl
      (Utf8.encode (Note.marker ++ ['n']))
  exact ⟨neighbours_free, _, before, after, hscan, hboard,
    (hbefore _).mpr ⟨neighbours_selected.1, by decide⟩,
    (hafter _).mpr ⟨neighbours_selected.2, by decide⟩,
    hadded _ rfl (scripts_wants _ [['a', '-', 'c']] ['n'] (by decide) (by decide +kernel)) rfl⟩

theorem validate_dotted (entries : List (Text × Tree)) (h : n < 2048) :
    validate ⟨.dir entries, []⟩ (scripts (dotted n)) = .ok () :=
  validate_eq_ok_iff.mpr ⟨by simp [scripts, Settings.defaultExtension], [], entries,
    find_dotted entries h⟩

theorem free_empty (name : Text) (loc : Location) : (Tree.dir []).Free (name :: loc) where
  fresh := rfl
  openTo _ _ _ _ hu := ⟨[], (Tree.at?_empty.mp hu).2⟩

theorem scan_far (hproper : (Tree.dir entries).Proper)
    (hfiles : ∀ e ∈ entries, ∃ bytes, e.2 = .file bytes) :
    scan ⟨.dir entries, []⟩ (scripts (dotted 2046)) = .ok ⟨[]⟩ :=
  scan_eq_ok_iff.mpr ⟨validate_dotted entries (by decide), [],
    collect_far (ready_dotted hproper hfiles (by decide)), rfl⟩

theorem scan_error_of_walk (hv : p.validate s = .ok ())
    (hglobs : ∀ pattern ∈ s.includes ++ s.allExcludes, Glob.Valid pattern)
    (hroot : Path.find p.tree p.dir s.root = .ok (loc, tree))
    (hwalk : Walk.files p.tree p.dir s.root s.followsLinks = .error e) :
    p.scan s = .error (.walk s.root e) := by
  obtain ⟨includes, hi⟩ := readGlobs_ok_iff.mpr fun pattern hp =>
    hglobs pattern (List.mem_append_left _ hp)
  obtain ⟨excludes, he⟩ := readGlobs_ok_iff.mpr fun pattern hp =>
    hglobs pattern (List.mem_append_right _ hp)
  simp [scan, collect, hv, hroot, hi, he, hwalk, bind, Except.bind]

theorem files_dir_too_long (entries : List (Text × Tree)) (h : n < 2048)
    (hlong : Path.isTooLong (Path.join (dotted n) name) = true) :
    Walk.files (.dir [(name, .dir entries)]) [] (dotted n) false =
      .error (.broken (Path.join (dotted n) name) .nameTooLong) := by
  simp [Walk.files, find_dotted _ h, Walk.visit, Walk.visitEntries, Walk.Way.onTo,
    isTooLong_dotted h, hlong, bind, Except.bind]

def emptyProject : Project :=
  ⟨.dir [], []⟩

/-- A new file has no tasks where only its path is too long, and a new directory whose path is
too long stops the scan. -/
theorem scan_withFile_far :
    emptyProject.scan (scripts (dotted 2046)) = .ok ⟨[]⟩ ∧
    emptyProject.tree.Free [script ['n']] ∧
    (scripts (dotted 2046)).Wants [script ['n']] ∧
    fileTasks ([script ['n']], Note.marker ++ ['n']) ≠ [] ∧
    (emptyProject.withFile [script ['n']] (Utf8.encode (Note.marker ++ ['n']))).scan
      (scripts (dotted 2046)) = .ok ⟨[]⟩ ∧
    emptyProject.tree.Free [['d', 'i', 'r'], script ['n']] ∧
    (emptyProject.withFile [['d', 'i', 'r'], script ['n']]
        (Utf8.encode (Note.marker ++ ['n']))).scan (scripts (dotted 2046)) =
      .error (.walk (dotted 2046)
        (.broken (Path.join (dotted 2046) ['d', 'i', 'r']) .nameTooLong)) := by
  refine ⟨scan_far Tree.proper_empty (by simp), free_empty _ _,
    scripts_wants _ [] ['n'] (by decide) (by decide +kernel), ?_, ?_, free_empty _ _, ?_⟩
  · rw [fileTasks, Note.texts_eq_lineTexts]
    decide
  · have hfile : ∀ e ∈ [((script ['n'] : Text),
        Tree.file (Utf8.encode (Note.marker ++ ['n'])))], ∃ bytes, e.2 = .file bytes := by simp
    exact scan_far (Tree.proper_empty.cons (.file _) (by decide) (by decide)) hfile
  · refine scan_error_of_walk (validate_dotted _ (by decide)) ?_ (find_dotted _ (by decide)) ?_
    · simpa [scripts, Settings.allExcludes] using valid_defaultExcludes
    · have hlong : Path.isTooLong (Path.join (dotted 2046) ['d', 'i', 'r']) = true := by
        have hjoin := Path.byteSize_le_join (dotted 2046) ['d', 'i', 'r']
        rw [byteSize_dotted] at hjoin
        exact decide_eq_true hjoin
      exact files_dir_too_long _ (by decide) hlong

end Project

end CodeNotes
