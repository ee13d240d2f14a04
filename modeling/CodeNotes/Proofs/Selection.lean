import CodeNotes.Proofs.FileWalk
import CodeNotes.Proofs.GlobLists
import CodeNotes.Proofs.Utf8Pieces
import Mathlib.Data.List.Sort
/-!
Which files a project selects where links are not followed, and in which order. The selected
files are told from the tree and the settings alone; what else is in the tree, and how its
entries and the globs are ordered, does not matter.
-/
namespace CodeNotes

/-- What the settings ask of the path of a file from the root. -/
structure Settings.Wants (s : Settings) (rel : Location) : Prop where
  named : ∃ dir stem, rel = dir ++ [stem ++ '.' :: s.extension] ∧ stem ≠ [] ∧ '.' ∉ s.extension
  kept : ¬ Glob.SomeMatches s.allExcludes (joinWith ['/'] rel)
  included : s.includes = [] ∨ Glob.SomeMatches s.includes (joinWith ['/'] rel)

/-- A file below the root that has a text and that the settings ask for. Its path can be opened. -/
structure Selected (s : Settings) (tree : Tree) (rel : Location) (content : Text) : Prop where
  file : tree.at? rel = some (.file (Utf8.encode content))
  wanted : s.Wants rel
  short : Path.isTooLong (Path.along s.root rel) = false

/-- A selected file as it is read. -/
def sourceFile (root : Text) (file : Location × Text) : SourceFile :=
  ⟨Path.along root file.1, file.1.getLast?.getD [], file.2⟩

/-- One file comes before another by the bytes of their paths from the root. -/
def ByPath (a b : Location × Text) : Prop :=
  a.1.bytes < b.1.bytes

instance : Std.Irrefl ByPath :=
  ⟨fun a h => List.lt_irrefl a.1.bytes h⟩

instance : Std.Antisymm ByPath :=
  ⟨fun _ _ h h' => absurd (List.lt_trans h h') (List.lt_irrefl _)⟩

namespace Project

/-- Links are not followed, the root is a directory, all directories below it can be read, and so
can all globs. -/
structure Ready (p : Project) (s : Settings) (tree : Tree) : Prop where
  links : s.followsLinks = false
  root : ∃ loc entries, Path.find p.tree p.dir s.root = .ok (loc, tree) ∧ tree = .dir entries
  proper : tree.Proper
  readable : Walk.Readable s.root tree
  globs : ∀ pattern ∈ s.includes ++ s.excludes, Glob.Valid pattern

section

variable {s : Settings} {includes excludes : List Glob} {rel : Location} {name : Text}

/-- The globs that were read ask for what their patterns match. -/
theorem selects_eq_true_iff (hi : readGlobs s.includes = .ok includes)
    (he : readGlobs s.allExcludes = .ok excludes) (fileName relative : Text) :
    selects s.extension includes excludes fileName relative = true ↔
      extension? fileName = some s.extension ∧ ¬ Glob.SomeMatches s.allExcludes relative ∧
        (s.includes = [] ∨ Glob.SomeMatches s.includes relative) := by
  rw [selects, Bool.and_eq_true, Bool.and_eq_true, decide_eq_true_eq, Bool.not_eq_true',
    ← Bool.not_eq_true, any_matches_iff he, Bool.or_eq_true, isEmpty_globs_iff hi,
    any_matches_iff hi, and_assoc]

theorem selects_iff (hi : readGlobs s.includes = .ok includes)
    (he : readGlobs s.allExcludes = .ok excludes) (dir : Location) (hname : IsName name) :
    selects s.extension includes excludes (lastName (Path.along s.root (dir ++ [name])))
        (joinWith ['/'] (dir ++ [name])) = true ↔ s.Wants (dir ++ [name]) := by
  rw [selects_eq_true_iff hi he, lastName_along _ _ hname, extension?_eq_some_iff]
  constructor
  · rintro ⟨⟨stem, rfl, hstem, hext⟩, hkept, hincluded⟩
    exact ⟨⟨dir, stem, rfl, hstem, hext⟩, hkept, hincluded⟩
  · rintro ⟨⟨dir', stem, he, hstem, hext⟩, hkept, hincluded⟩
    obtain ⟨-, he⟩ := List.append_inj' he rfl
    exact ⟨⟨stem, List.head_eq_of_cons_eq he, hstem, hext⟩, hkept, hincluded⟩

/-- A found file by its names and its text, where it is one to select. -/
def pick? (s : Settings) (includes excludes : List Glob) (found : Walk.Found) :
    Option (Location × Text) :=
  (source? s includes excludes found).map fun source => (found.way.names, source.2.content)

theorem names_of_pick? (h : pick? s includes excludes found = some file) :
    file.1 = found.way.names := by
  obtain ⟨source, -, rfl⟩ := Option.map_eq_some_iff.mp h
  rfl

/-- What a walk found below a directory. -/
def foundAt (root : Text) (rel : Location) (bytes : List UInt8) : Walk.Found :=
  ⟨⟨rel, Path.along root rel⟩, bytes⟩

theorem source?_foundAt (hi : readGlobs s.includes = .ok includes)
    (he : readGlobs s.allExcludes = .ok excludes) (dir : Location) (hname : IsName name)
    (bytes : List UInt8) (source : Text × SourceFile) :
    source? s includes excludes (foundAt s.root (dir ++ [name]) bytes) = some source ↔
      ∃ content, bytes = Utf8.encode content ∧ s.Wants (dir ++ [name]) ∧
        Path.isTooLong (Path.along s.root (dir ++ [name])) = false ∧
        source = (joinWith ['/'] (dir ++ [name]), sourceFile s.root (dir ++ [name], content)) := by
  have hwants := selects_iff hi he dir hname
  rw [lastName_along s.root dir hname] at hwants
  simp only [source?, foundAt, sourceFile, lastName_along s.root dir hname, List.getLast?_concat,
    Option.getD_some]
  split
  · next h =>
    rw [Bool.and_eq_true, hwants, Bool.not_eq_true'] at h
    simp only [h, true_and, Option.map_eq_some_iff, Utf8.decode?_eq_some_iff]
    exact exists_congr fun content => and_congr_right fun _ => eq_comm
  · next h =>
    rw [Bool.and_eq_true, hwants, Bool.not_eq_true'] at h
    simp only [reduceCtorEq, false_iff]
    rintro ⟨content, -, hw, hs, -⟩
    exact h ⟨hw, hs⟩

theorem pick?_foundAt (hi : readGlobs s.includes = .ok includes)
    (he : readGlobs s.allExcludes = .ok excludes) (dir : Location) (hname : IsName name)
    (bytes : List UInt8) (file : Location × Text) :
    pick? s includes excludes (foundAt s.root (dir ++ [name]) bytes) = some file ↔
      file.1 = dir ++ [name] ∧ bytes = Utf8.encode file.2 ∧ s.Wants (dir ++ [name]) ∧
        Path.isTooLong (Path.along s.root (dir ++ [name])) = false := by
  simp only [pick?, Option.map_eq_some_iff, source?_foundAt hi he dir hname]
  constructor
  · rintro ⟨_, ⟨content, rfl, hw, hs, rfl⟩, rfl⟩
    exact ⟨rfl, rfl, hw, hs⟩
  · rintro ⟨hrel, rfl, hw, hs⟩
    exact ⟨_, ⟨file.2, rfl, hw, hs, rfl⟩, by rw [← hrel]; rfl⟩

theorem source?_eq_pick? (hi : readGlobs s.includes = .ok includes)
    (he : readGlobs s.allExcludes = .ok excludes) (dir : Location) (hname : IsName name)
    (bytes : List UInt8) :
    source? s includes excludes (foundAt s.root (dir ++ [name]) bytes) =
      (pick? s includes excludes (foundAt s.root (dir ++ [name]) bytes)).map fun file =>
        (joinWith ['/'] file.1, sourceFile s.root file) := by
  rw [pick?]
  cases hs : source? s includes excludes (foundAt s.root (dir ++ [name]) bytes) with
  | none => rfl
  | some source =>
    obtain ⟨content, -, -, -, rfl⟩ := (source?_foundAt hi he dir hname bytes source).mp hs
    rfl

end

/-- Files with different names on the way come one before another once they are sorted. -/
theorem byPath_mergeSort {files : List (Location × Text)}
    (hnames : ∀ file ∈ files, ∀ name ∈ file.1, IsName name)
    (honce : files.Pairwise fun a b => a.1 ≠ b.1) :
    (files.mergeSort fun a b => pathLE (joinWith ['/'] a.1) (joinWith ['/'] b.1)).Pairwise
      ByPath := by
  have hperm := List.mergeSort_perm files fun a b =>
    pathLE (joinWith ['/'] a.1) (joinWith ['/'] b.1)
  have honce' := (hperm.pairwise_iff fun h => Ne.symm h).mpr honce
  have hle : (files.mergeSort fun a b => pathLE (joinWith ['/'] a.1) (joinWith ['/'] b.1)).Pairwise
      fun a b => pathLE (joinWith ['/'] a.1) (joinWith ['/'] b.1) = true :=
    List.pairwise_mergeSort
      (fun a b c => pathLE_trans (joinWith ['/'] a.1) (joinWith ['/'] b.1) (joinWith ['/'] c.1))
      (fun a b => pathLE_total (joinWith ['/'] a.1) (joinWith ['/'] b.1)) files
  refine (hle.and honce').imp_of_mem ?_
  rintro a b ha hb ⟨hab, hne⟩
  refine lt_of_pathLE hab fun hjoin => hne ?_
  exact Location.bytes_injective (hnames a (hperm.mem_iff.mp ha)) (hnames b (hperm.mem_iff.mp hb))
    (congrArg Utf8.encode hjoin)

section

variable {p p' : Project} {s s' : Settings} {tree tree' : Tree} {includes excludes : List Glob}
  {found : List Walk.Found}

/-- Whatever a walk finds from a directory has names on the way. -/
theorem exists_foundAt (hproper : (Tree.dir entries).Proper)
    (hfinds : Walk.Finds ⟨[], root⟩ (.dir entries) found) (hf : f ∈ found) :
    ∃ dir name bytes, (Tree.dir entries).at? (dir ++ [name]) = some (.file bytes) ∧ IsName name ∧
      f = foundAt root (dir ++ [name]) bytes := by
  obtain ⟨rel, bytes, hb, rfl⟩ := (hfinds.mem_iff f).mp hf
  rcases List.eq_nil_or_concat' rel with rfl | ⟨dir, name, rfl⟩
  · simp [Tree.at?_nil] at hb
  · exact ⟨dir, name, bytes, hb, Tree.names_of_at? hproper hb name (by simp),
      by rw [Walk.Way.along_eq]; rfl⟩

theorem filterMap_source? (hi : readGlobs s.includes = .ok includes)
    (he : readGlobs s.allExcludes = .ok excludes) (hproper : (Tree.dir entries).Proper)
    (hfinds : Walk.Finds ⟨[], s.root⟩ (.dir entries) found) :
    found.filterMap (source? s includes excludes) =
      (found.filterMap (pick? s includes excludes)).map fun file =>
        (joinWith ['/'] file.1, sourceFile s.root file) := by
  rw [List.map_filterMap]
  refine List.filterMap_congr fun f hf => ?_
  obtain ⟨dir, name, bytes, -, hname, rfl⟩ := exists_foundAt hproper hfinds hf
  exact source?_eq_pick? hi he dir hname bytes

theorem mem_filterMap_pick? (hi : readGlobs s.includes = .ok includes)
    (he : readGlobs s.allExcludes = .ok excludes) (hproper : (Tree.dir entries).Proper)
    (hfinds : Walk.Finds ⟨[], s.root⟩ (.dir entries) found) (rel : Location) (content : Text) :
    (rel, content) ∈ found.filterMap (pick? s includes excludes) ↔
      Selected s (.dir entries) rel content := by
  rw [List.mem_filterMap]
  constructor
  · rintro ⟨f, hf, hpick⟩
    obtain ⟨dir, name, bytes, hb, hname, rfl⟩ := exists_foundAt hproper hfinds hf
    obtain ⟨rfl, rfl, hw, hs⟩ := (pick?_foundAt hi he dir hname bytes _).mp hpick
    exact ⟨hb, hw, hs⟩
  · rintro ⟨hb, hw, hs⟩
    obtain ⟨dir, stem, rfl, -⟩ := hw.named
    have hname := Tree.names_of_at? hproper hb _ (List.mem_append_right dir List.mem_cons_self)
    exact ⟨_, (hfinds.mem_iff _).mpr ⟨_, _, hb, by rw [Walk.Way.along_eq]; rfl⟩,
      (pick?_foundAt hi he dir hname _ _).mpr ⟨rfl, rfl, hw, hs⟩⟩

theorem picks_once (hfinds : Walk.Finds ⟨[], s.root⟩ tree found) :
    (found.filterMap (pick? s includes excludes)).Pairwise fun a b => a.1 ≠ b.1 := by
  refine (List.pairwise_map.mp hfinds.once).filterMap _ ?_
  intro f g hne a ha b hb
  rw [names_of_pick? ha, names_of_pick? hb]
  exact hne

/-- What is put in order is the selected files. -/
theorem collect_picked (h : p.Ready s tree) :
    ∃ picked : List (Location × Text),
      (∀ rel content, (rel, content) ∈ picked ↔ Selected s tree rel content) ∧
      picked.Pairwise ByPath ∧ p.collect s = .ok (picked.map (sourceFile s.root)) := by
  obtain ⟨⟨includes, hi⟩, excludes, he⟩ := exists_globs_of_valid h.globs
  obtain ⟨loc, entries, hfind, rfl⟩ := h.root
  obtain ⟨found, hfound⟩ := (Walk.visit_ok_iff h.proper [] ⟨[], s.root⟩ loc).mpr h.readable
  have hfinds := Walk.finds_of_visit h.proper hfound
  have hmem := mem_filterMap_pick? hi he h.proper hfinds
  have hcollect : p.collect s = .ok (((found.filterMap (source? s includes excludes)).mergeSort
      fun a b => pathLE a.1 b.1).map (·.2)) := by
    simp only [collect, hfind, hi, he, Walk.files, h.links, hfound, bind, Except.bind]
    rfl
  have honce : (found.filterMap (pick? s includes excludes)).Pairwise fun a b => a.1 ≠ b.1 :=
    picks_once hfinds
  refine ⟨_, ?_, byPath_mergeSort ?_ honce, ?_⟩
  · intro rel content
    rw [(List.mergeSort_perm _ _).mem_iff, hmem]
  · intro file hf
    exact Tree.names_of_at? h.proper ((hmem file.1 file.2).mp hf).file
  · have hsort := List.map_mergeSort
      (f := fun file => (joinWith ['/'] file.1, sourceFile s.root file))
      (s := fun a b => pathLE a.1 b.1) (l := found.filterMap (pick? s includes excludes))
      (fun _ _ _ _ => rfl)
    rw [hcollect, filterMap_source? hi he h.proper hfinds, ← hsort, List.map_map]
    rfl

/-- The selected files settle what is collected. -/
theorem collect_eq_of_selected (h : p.Ready s tree) (h' : p'.Ready s' tree')
    (hroot : s'.root = s.root)
    (hsame : ∀ rel content, Selected s' tree' rel content ↔ Selected s tree rel content) :
    p'.collect s' = p.collect s := by
  obtain ⟨picked, hmem, horder, hc⟩ := collect_picked h
  obtain ⟨picked', hmem', horder', hc'⟩ := collect_picked h'
  have he : picked' = picked := horder'.eq_of_mem_iff horder fun file => by
    rw [hmem', hmem, hsame]
  rw [hc, hc', he, hroot]

end

end Project

/-- Settings that differ in the order and the repetition of globs only. -/
structure Settings.SameGlobs (s s' : Settings) : Prop where
  root : s'.root = s.root
  extension : s'.extension = s.extension
  links : s'.followsLinks = s.followsLinks
  includes : ∀ pattern, pattern ∈ s'.includes ↔ pattern ∈ s.includes
  excludes : ∀ pattern, pattern ∈ s'.excludes ↔ pattern ∈ s.excludes

variable {s s' : Settings} {rel : Location}

theorem Settings.SameGlobs.symm (h : s.SameGlobs s') : s'.SameGlobs s where
  root := h.root.symm
  extension := h.extension.symm
  links := h.links.symm
  includes pattern := (h.includes pattern).symm
  excludes pattern := (h.excludes pattern).symm

theorem Settings.Wants.sameGlobs (h : s.Wants rel) (hs : s.SameGlobs s') : s'.Wants rel where
  named := by
    rw [hs.extension]
    exact h.named
  kept := by
    have hall : ∀ pattern, pattern ∈ s'.allExcludes ↔ pattern ∈ s.allExcludes := by
      intro pattern
      rw [Settings.allExcludes, Settings.allExcludes, List.mem_append, List.mem_append, hs.excludes]
    rw [Glob.someMatches_congr hall]
    exact h.kept
  included := by
    rw [Glob.someMatches_congr hs.includes]
    refine h.included.imp_left fun hnone => ?_
    simpa [hnone, List.eq_nil_iff_forall_not_mem] using hs.includes

theorem Selected.sameGlobs (h : Selected s tree rel content) (hs : s.SameGlobs s') :
    Selected s' tree rel content where
  file := h.file
  wanted := h.wanted.sameGlobs hs
  short := hs.root ▸ h.short

namespace Project

variable {p : Project} {tree : Tree}

theorem Ready.sameGlobs (h : p.Ready s tree) (hs : s.SameGlobs s') : p.Ready s' tree where
  links := hs.links.trans h.links
  root := hs.root ▸ h.root
  proper := h.proper
  readable := hs.root ▸ h.readable
  globs pattern hp := by
    refine h.globs pattern ?_
    rwa [List.mem_append, ← hs.includes, ← hs.excludes, ← List.mem_append]

/-- A project where links are not followed collects the selected files, each once and in the
order of their paths. Nothing else matters: not the order of the entries or of the globs, and
nothing in the tree that is not selected. -/
theorem collect_exact (h : p.Ready s tree) :
    (∃ picked : List (Location × Text),
      (∀ rel content, (rel, content) ∈ picked ↔ Selected s tree rel content) ∧
      picked.Pairwise ByPath ∧ p.collect s = .ok (picked.map (sourceFile s.root))) ∧
    (∀ (p' : Project) (s' : Settings) (tree' : Tree), p'.Ready s' tree' → s'.root = s.root →
      (∀ rel content, Selected s' tree' rel content ↔ Selected s tree rel content) →
      p'.collect s' = p.collect s) ∧
    ∀ s', s.SameGlobs s' → p.collect s' = p.collect s := by
  refine ⟨collect_picked h, fun p' s' tree' h' => collect_eq_of_selected h h', fun s' hs => ?_⟩
  exact collect_eq_of_selected h (h.sameGlobs hs) hs.root fun rel content =>
    ⟨fun hsel => hsel.sameGlobs hs.symm, fun hsel => hsel.sameGlobs hs⟩

/-- All scripts in a directory. -/
def scripts (root : Text) : Settings where
  root := root
  extension := Settings.defaultExtension
  includes := []
  excludes := []
  followsLinks := false

def script (stem : Text) : Text :=
  stem ++ '.' :: Settings.defaultExtension

theorem scripts_wants (root : Text) (dir : Location) (stem : Text) (hstem : stem ≠ [])
    (hkept : ¬ Glob.SomeMatches Settings.defaultExcludes (joinWith ['/'] (dir ++ [script stem]))) :
    (scripts root).Wants (dir ++ [script stem]) where
  named := ⟨dir, stem, rfl, hstem, by simp [scripts, Settings.defaultExtension]⟩
  kept := by simpa [Settings.allExcludes, scripts] using hkept
  included := .inl rfl

/-- Two directories where one name begins with the other, and a link. -/
def neighbours : Project where
  tree := .dir [
    (['a'], .dir [(script ['x'], .file [0x61])]),
    (['a', '-', 'b'], .dir [(script ['x'], .file [0x62]), (script ['y'], .file [0xFF])]),
    (['l'], .link ['a'])]
  dir := []

theorem neighbours_ready : neighbours.Ready (scripts ['.']) neighbours.tree := by
  have ha : (Tree.dir [(script ['x'], .file [0x61])]).Proper :=
    Tree.proper_empty.cons (.file _) (by decide) (by decide)
  have hab : (Tree.dir [(script ['x'], .file [0x62]), (script ['y'], .file [0xFF])]).Proper :=
    (Tree.proper_empty.cons (.file _) (by decide) (by decide)).cons (.file _) (by decide)
      (by decide)
  have hproper : neighbours.tree.Proper :=
    ((Tree.proper_empty.cons (.link _) (by decide) (by decide)).cons hab (by decide)
      (by decide)).cons ha (by decide) (by decide)
  exact ⟨rfl, ⟨[], _, rfl, rfl⟩, hproper, (Walk.visit_ok_iff hproper [] ⟨[], ['.']⟩ []).mp ⟨_, rfl⟩,
    by simp [scripts]⟩

theorem neighbours_selected :
    Selected (scripts ['.']) neighbours.tree [['a', '-', 'b'], script ['x']] ['b'] ∧
      Selected (scripts ['.']) neighbours.tree [['a'], script ['x']] ['a'] :=
  ⟨⟨rfl, scripts_wants _ [['a', '-', 'b']] ['x'] (by decide) (by decide +kernel), rfl⟩,
    ⟨rfl, scripts_wants _ [['a']] ['x'] (by decide) (by decide +kernel), rfl⟩⟩

theorem collect_exact_neighbours :
    neighbours.Ready (scripts ['.']) neighbours.tree ∧
    ∃ picked : List (Location × Text), picked.Pairwise ByPath ∧
      ([['a', '-', 'b'], script ['x']], ['b']) ∈ picked ∧
      ([['a'], script ['x']], ['a']) ∈ picked ∧
      (∀ content, ([['a', '-', 'b'], script ['y']], content) ∉ picked) ∧
      neighbours.collect (scripts ['.']) = .ok (picked.map (sourceFile ['.'])) := by
  obtain ⟨picked, hmem, horder, hcollect⟩ := (collect_exact neighbours_ready).1
  refine ⟨neighbours_ready, picked, horder, (hmem _ _).mpr neighbours_selected.1,
    (hmem _ _).mpr neighbours_selected.2, ?_, hcollect⟩
  intro content hpicked
  have hfile := ((hmem _ _).mp hpicked).file
  have hbytes : [0xFF] = Utf8.encode content := Tree.file.inj (Option.some.inj hfile)
  have hdecode := Utf8.decode?_eq_some_iff.mpr hbytes
  simp [show Utf8.decode? [0xFF] = none by decide] at hdecode

/-- The directory itself, written with many dots. -/
def dotted : Nat → Text
  | 0 => Path.here
  | n + 1 => dotted n ++ '/' :: Path.here

theorem byteSize_dotted (n : Nat) : byteSize (dotted n) = 2 * n + 1 := by
  induction n with
  | zero => rfl
  | succ n ih =>
    rw [dotted, byteSize_append, ih]
    show 2 * n + 1 + 2 = 2 * (n + 1) + 1
    omega

theorem isTooLong_dotted (h : n < 2048) : Path.isTooLong (dotted n) = false := by
  simp only [Path.isTooLong, byteSize_dotted, Path.pathLimit, decide_eq_false_iff_not]
  omega

theorem names_dotted (n : Nat) : Path.names (dotted n) = List.replicate (n + 1) Path.here := by
  have hsplit : ∀ n, splitOn '/' (dotted n) = List.replicate (n + 1) Path.here := by
    intro n
    induction n with
    | zero => rfl
    | succ n ih =>
      rw [dotted, splitOn_append, ih, List.replicate_succ' (n := n + 1)]
      rfl
  cases n with
  | zero => rfl
  | succ n =>
    rw [dotted, Path.names_append_name (by decide), hsplit, List.replicate_succ' (n := n + 1)]
    congr 1
    exact List.filter_eq_self.mpr fun part hp => by simp [List.eq_of_mem_replicate hp, Path.here]

theorem advance_dots {top : Tree} (h : top.at? loc = some (.dir entries)) (n : Nat) :
    Path.advance top loc (List.replicate n Path.here) = .arrived loc := by
  induction n with
  | zero => rfl
  | succ n ih => rw [List.replicate_succ, Path.advance_here h, ih]

theorem find_dotted (entries : List (Text × Tree)) (h : n < 2048) :
    Path.find (.dir entries) [] (dotted n) = .ok ([], .dir entries) := by
  rw [Path.find_eq_ok_iff]
  refine ⟨?_, rfl⟩
  have hne : dotted n ≠ [] := by cases n <;> simp [dotted, Path.here]
  have hbase : Path.base [] (dotted n) = [] := by unfold Path.base; split <;> rfl
  rw [Path.locate, if_neg hne, isTooLong_dotted h, hbase, names_dotted]
  simp only [Bool.false_eq_true, if_false]
  unfold Path.follow
  have hroot : (Tree.dir entries).at? [] = some (.dir entries) := rfl
  rw [advance_dots hroot]

theorem ready_dotted (hproper : (Tree.dir entries).Proper)
    (hfiles : ∀ e ∈ entries, ∃ bytes, e.2 = .file bytes) (h : n < 2048) :
    Ready ⟨.dir entries, []⟩ (scripts (dotted n)) (.dir entries) where
  links := rfl
  root := ⟨[], entries, find_dotted entries h, rfl⟩
  proper := hproper
  readable := by
    cases hproper with
    | dir names unique below =>
      refine (Walk.readable_dir_iff unique).mpr ⟨isTooLong_dotted h, fun e he => ?_⟩
      obtain ⟨bytes, hbytes⟩ := hfiles e he
      rw [hbytes]
      exact (Walk.visit_ok_iff (.file bytes) [] ⟨[], _⟩ []).mp ⟨_, rfl⟩
  globs := by simp [scripts]

/-- From a root that is written so long no file can be opened that the settings ask for. -/
theorem collect_far (h : p.Ready (scripts (dotted 2046)) tree) :
    p.collect (scripts (dotted 2046)) = .ok [] := by
  obtain ⟨picked, hmem, -, hcollect⟩ := collect_picked h
  have hempty : picked = [] := by
    refine List.eq_nil_iff_forall_not_mem.mpr fun ⟨rel, content⟩ hfile => ?_
    have hsel := (hmem rel content).mp hfile
    obtain ⟨dir, stem, rfl, -⟩ := hsel.wanted.named
    have hroot : byteSize (dotted 2046) ≤ _ := Path.byteSize_le_along (dotted 2046) dir
    have hjoin := Path.byteSize_le_join (Path.along (dotted 2046) dir)
      (stem ++ '.' :: Settings.defaultExtension)
    have hext : byteSize ('.' :: Settings.defaultExtension) = 3 := rfl
    have hpath : byteSize (Path.join (Path.along (dotted 2046) dir)
        (stem ++ '.' :: Settings.defaultExtension)) < Path.pathLimit := by
      have hshort := hsel.short
      rw [Path.along_concat, Path.isTooLong, decide_eq_false_iff_not, Nat.not_le] at hshort
      exact hshort
    rw [byteSize_append, hext] at hjoin
    rw [byteSize_dotted] at hroot
    simp only [Path.pathLimit] at hpath
    omega
  rw [hcollect, hempty]
  rfl

def oneScript (bytes : List UInt8) : Project :=
  ⟨.dir [(script ['n'], .file bytes)], []⟩

/-- A file is left out without an error where only its path is too long. -/
theorem collect_leaves_out_long_path :
    (oneScript (Utf8.encode ['n'])).Ready (scripts (dotted 2046))
      (oneScript (Utf8.encode ['n'])).tree ∧
    (oneScript (Utf8.encode ['n'])).tree.at? [script ['n']] = some (.file (Utf8.encode ['n'])) ∧
    (scripts (dotted 2046)).Wants [script ['n']] ∧
    (oneScript (Utf8.encode ['n'])).collect (scripts (dotted 2046)) = .ok [] := by
  have hready := ready_dotted (Tree.proper_empty.cons (.file (Utf8.encode ['n']))
    (by decide : IsName (script ['n'])) (by decide)) (by simp) (by decide : 2046 < 2048)
  exact ⟨hready, rfl, scripts_wants _ [] ['n'] (by decide) (by decide +kernel), collect_far hready⟩

end Project

end CodeNotes
