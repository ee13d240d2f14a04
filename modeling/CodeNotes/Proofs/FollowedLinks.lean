import CodeNotes.Proofs.DirectoryGlobs
import CodeNotes.Proofs.Selection
/-!
What it changes to follow links that all lie in directories left out by default. No file more and
no file less is selected; but a link that cannot be followed stops the walk before any glob is
looked at.
-/
namespace CodeNotes

def WalkError.path : WalkError → Text
  | .broken path _ => path
  | .loop path _ => path

namespace Walk

/-- The files that a walk reports lie on from a way, and so does what it cannot read. -/
def Reports (way : Way) : Except WalkError (List Found) → Prop
  | .ok found => ∀ f ∈ found, ∃ rel, f.way = way.along rel
  | .error e => ∃ rel, e.path = (way.along rel).path

section

variable {onLink : OnLink} {around : List Visited} {way : Way} {loc : Location} {name : Text}
  {entries : List (Text × Tree)} {first others : Except WalkError (List Found)}

theorem reports_nothing (way : Way) : Reports way (.ok []) := by
  intro f hf
  cases hf

theorem reports_here (way : Way) (bytes : List UInt8) : Reports way (.ok [⟨way, bytes⟩]) := by
  intro f hf
  exact ⟨[], by rw [List.mem_singleton.mp hf]; rfl⟩

theorem Reports.from_entry (h : Reports (way.onTo name) first) : Reports way first := by
  cases first with
  | ok found =>
    intro f hf
    obtain ⟨rel, hrel⟩ := h f hf
    exact ⟨name :: rel, hrel⟩
  | error e =>
    obtain ⟨rel, hrel⟩ := h
    exact ⟨name :: rel, hrel⟩

theorem Reports.both (hfirst : Reports way first) (hothers : Reports way others) :
    Reports way (do return (← first) ++ (← others)) := by
  cases first with
  | error e => exact hfirst
  | ok found =>
    cases others with
    | error e => exact hothers
    | ok found' =>
      intro f hf
      rcases List.mem_append.mp hf with hf | hf
      · exact hfirst f hf
      · exact hothers f hf

mutual

theorem reports_visit (hlink : ∀ way around, Reports way (onLink way around))
    (around : List Visited) (way : Way) (loc : Location) :
    (t : Tree) → Reports way (visit onLink around way loc t)
  | .file bytes => reports_here way bytes
  | .link _ => hlink way around
  | .dir entries => by
    rw [visit]
    split
    · exact ⟨[], rfl⟩
    · exact reports_visitEntries hlink _ way loc entries

theorem reports_visitEntries (hlink : ∀ way around, Reports way (onLink way around))
    (around : List Visited) (way : Way) (loc : Location) :
    (entries : List (Text × Tree)) → Reports way (visitEntries onLink around way loc entries)
  | [] => reports_nothing way
  | (name, t) :: entries => by
    rw [visitEntries]
    exact (reports_visit hlink around (way.onTo name) _ t).from_entry.both
      (reports_visitEntries hlink around way loc entries)

end

/-- Whatever is behind a link is reported with the way to the link. -/
theorem reports_enter (top : Tree) (dir : Location) (depth : Nat) (way : Way)
    (around : List Visited) : Reports way (enter top dir depth way around) := by
  unfold enter
  split
  · exact ⟨[], rfl⟩
  · exact reports_here way _
  · exact reports_nothing way
  · split
    · exact ⟨[], rfl⟩
    · cases depth with
      | zero => exact reports_nothing way
      | succ depth => exact reports_visitEntries (reports_enter top dir depth) _ way _ _

theorem found_of_enter (h : enter top dir depth way around = .ok found) :
    ∃ target t, Path.find top dir way.path = .ok (target, t) ∧
      ∀ entries, t = .dir entries → ∀ v ∈ around, v.location ≠ target := by
  unfold enter at h
  split at h
  · simp at h
  · next target bytes hfind => exact ⟨target, _, hfind, by simp⟩
  · next target path hfind => exact ⟨target, _, hfind, by simp⟩
  · next target entries hfind =>
    split at h
    · simp at h
    · next hnone =>
      refine ⟨target, _, hfind, fun _ _ v hv hloc => ?_⟩
      simpa [hloc] using List.find?_eq_none.mp hnone v hv

/-- How a walk that follows links stands to the one that passes over them, as far as its files are
read: they find the same, or the one that follows stops in a directory that is left out. -/
inductive Agrees (root : Text) (read : Found → Option α) :
    Except WalkError (List Found) → Except WalkError (List Found) → Prop
  | same {found found'} (h : found'.filterMap read = found.filterMap read) :
      Agrees root read (.ok found) (.ok found')
  | stopped {found rel e} (hrel : Location.InExcluded rel) (hpath : e.path = Path.along root rel) :
      Agrees root read (.ok found) (.error e)
  | failed {e e'} : Agrees root read (.error e) (.error e')

variable {root : Text} {read : Found → Option α} {first' others' : Except WalkError (List Found)}

theorem Agrees.both (hfirst : Agrees root read first first')
    (hothers : Agrees root read others others') :
    Agrees root read (do return (← first) ++ (← others))
      (do return (← first') ++ (← others')) := by
  cases hfirst with
  | failed => exact .failed
  | stopped hrel hpath =>
    cases others with
    | ok found => exact .stopped hrel hpath
    | error e => exact .failed
  | same h =>
    cases hothers with
    | failed => exact .failed
    | stopped hrel hpath => exact .stopped hrel hpath
    | same h' =>
      refine .same ?_
      rw [List.filterMap_append, List.filterMap_append, h, h']

/-- What is reported from a way into a directory that is left out is not read. -/
theorem Reports.agrees (hread : ∀ f : Found, Location.InExcluded f.way.names → read f = none)
    (h : Reports way first) (hway : way.path = Path.along root way.names)
    (hnames : Location.InExcluded way.names) : Agrees root read (.ok []) first := by
  cases first with
  | ok found =>
    refine .same (List.filterMap_eq_nil_iff.mpr fun f hf => hread f ?_)
    obtain ⟨rel, hrel⟩ := h f hf
    rw [hrel, Way.along_eq]
    exact hnames.append rel
  | error e =>
    obtain ⟨rel, hrel⟩ := h
    refine .stopped (hnames.append rel) ?_
    rw [hrel, Way.along_eq, Path.along_append, hway]

theorem agrees_visitEntries
    (h : ∀ e ∈ entries, ∀ around loc, Agrees root read
      (visit passOver around (way.onTo e.1) loc e.2) (visit onLink around (way.onTo e.1) loc e.2)) :
    Agrees root read (visitEntries passOver around way loc entries)
      (visitEntries onLink around way loc entries) := by
  induction entries with
  | nil => exact .same rfl
  | cons e entries ih =>
    rw [visitEntries, visitEntries]
    exact (h e List.mem_cons_self _ _).both (ih fun e he => h e (List.mem_cons_of_mem _ he))

/-- Following links makes no other difference where all links are in directories left out. -/
theorem agrees_visit (hp : t.Proper)
    (hread : ∀ f : Found, Location.InExcluded f.way.names → read f = none)
    (hlink : ∀ way around, Reports way (onLink way around))
    (hway : way.path = Path.along root way.names)
    (hlinks : ∀ rel target, t.at? rel = some (.link target) →
      Location.InExcluded (way.names ++ rel)) :
    Agrees root read (visit passOver around way loc t) (visit onLink around way loc t) := by
  induction hp generalizing around way loc with
  | file bytes => exact .same rfl
  | link target =>
    have hnames := hlinks [] target rfl
    rw [List.append_nil] at hnames
    exact (hlink way around).agrees hread hway hnames
  | @dir entries names unique below ih =>
    rw [visit, visit]
    split
    · exact .failed
    · refine agrees_visitEntries fun e he around loc => ih e he ?_ ?_
      · rw [Way.onTo, hway, Path.along_concat]
      · intro rel target hrel
        -- No other entry has the name, so that the whole tree has the link too.
        have hat : (Tree.dir entries).at? (e.1 :: rel) = some (.link target) := by
          rw [Tree.at?_dir, Tree.entryNamed_of_mem unique he]
          exact hrel
        simpa [Way.onTo] using hlinks (e.1 :: rel) target hat

/-- A walk that comes through has followed each link, inside the directories on the way to it. -/
theorem follows_of_visit (h : visit onLink around way loc t = .ok found)
    (hrel : t.at? rel = some (.link target)) :
    ∃ inside followed, onLink (way.along rel) inside = .ok followed ∧ around ⊆ inside ∧
      ∀ dir, dir <+: rel → dir ≠ rel → ∃ v ∈ inside, v.location = loc ++ dir := by
  induction rel generalizing t around way loc found with
  | nil =>
    obtain rfl : t = .link target := Option.some.inj hrel
    refine ⟨around, found, h, List.Subset.refl around, fun dir hdir hne => ?_⟩
    exact absurd (List.prefix_nil.mp hdir) hne
  | cons name rel ih =>
    obtain ⟨entries, below, rfl, hbelow, hrel⟩ := Tree.dir_of_at?_cons hrel
    rw [visit] at h
    split at h
    · simp at h
    · have hentries := visitEntries_ok_iff.mp ⟨found, h⟩ _ (Tree.mem_of_entryNamed hbelow)
      obtain ⟨found', hfound'⟩ := hentries
      obtain ⟨inside, followed, hfollowed, haround, hdirs⟩ := ih hfound' hrel
      refine ⟨inside, followed, hfollowed, fun v hv => haround (List.mem_cons_of_mem _ hv), ?_⟩
      intro dir hdir hne
      cases dir with
      | nil =>
        -- This is the directory itself, which the walk has just entered.
        exact ⟨_, haround List.mem_cons_self, by simp⟩
      | cons name' dir =>
        obtain ⟨rfl, hrest⟩ := List.cons_prefix_cons.mp hdir
        obtain ⟨v, hv, hloc⟩ := hdirs dir hrest (by simpa using hne)
        exact ⟨v, hv, by simpa using hloc⟩

end

end Walk

/-- The same settings where links are followed or not. -/
def Settings.following (s : Settings) (follows : Bool) : Settings :=
  { s with followsLinks := follows }

namespace Project

/-- A link leads to something, and not back to a directory on the way to the link. -/
def LeadsOn (p : Project) (root : Text) (loc rel : Location) : Prop :=
  ∃ target t, Path.find p.tree p.dir (Path.along root rel) = .ok (target, t) ∧
    ∀ entries, t = .dir entries → ∀ dir, dir <+: rel → dir ≠ rel → target ≠ loc ++ dir

/-- The root is a directory where all links lie in directories left out by default, and all globs
can be read. -/
structure LinksExcluded (p : Project) (s : Settings) (loc : Location)
    (entries : List (Text × Tree)) : Prop where
  root : Path.find p.tree p.dir s.root = .ok (loc, .dir entries)
  proper : (Tree.dir entries).Proper
  links : ∀ rel target, (Tree.dir entries).at? rel = some (.link target) → rel.InExcluded
  globs : ∀ pattern ∈ s.includes ++ s.excludes, Glob.Valid pattern

/-- What is collected from the outcome of a walk. -/
def collected (s : Settings) (includes excludes : List Glob) :
    Except WalkError (List Walk.Found) → Except ScanError (List SourceFile)
  | .error e => .error (.walk s.root e)
  | .ok found =>
    .ok (((found.filterMap (source? s includes excludes)).mergeSort fun a b =>
      pathLE a.1 b.1).map (·.2))

section

variable {p : Project} {s : Settings} {loc : Location} {entries : List (Text × Tree)}
  {includes excludes : List Glob}

theorem collect_eq_collected (hroot : Path.find p.tree p.dir s.root = .ok (loc, .dir entries))
    (hi : readGlobs s.includes = .ok includes) (he : readGlobs s.allExcludes = .ok excludes) :
    p.collect s = collected s includes excludes
      (Walk.files p.tree p.dir s.root s.followsLinks) := by
  simp only [collect, hroot, hi, he, bind, Except.bind]
  cases Walk.files p.tree p.dir s.root s.followsLinks <;> rfl

theorem source?_of_inExcluded (he : readGlobs s.allExcludes = .ok excludes)
    (h : Location.InExcluded found.way.names) : source? s includes excludes found = none := by
  have hexcluded : excludes.any (·.matches (joinWith ['/'] found.way.names)) = true := by
    obtain ⟨pattern, hp, glob, hg, hm⟩ := h.someMatches
    exact (any_matches_iff he _).mpr ⟨pattern, List.mem_append_left _ hp, glob, hg, hm⟩
  simp [source?, selects, hexcluded]

theorem exists_found_of_collected (h : collected s includes excludes outcome = .ok files) :
    ∃ found, outcome = .ok found := by
  cases outcome with
  | ok found => exact ⟨found, rfl⟩
  | error e => simp [collected] at h

theorem collected_of_agrees
    (h : Walk.Agrees s.root (source? s includes excludes) passed followed) :
    (∀ files, collected s includes excludes followed = .ok files →
      collected s includes excludes passed = .ok files) ∧
    ∀ files, collected s includes excludes passed = .ok files →
      collected s includes excludes followed = .ok files ∨
      ∃ rel e, Location.InExcluded rel ∧ e.path = Path.along s.root rel ∧
        collected s includes excludes followed = .error (.walk s.root e) := by
  cases h with
  | @same found found' h =>
    have hsame : collected s includes excludes (.ok found') =
        collected s includes excludes (.ok found) := by
      simp only [collected, h]
    rw [hsame]
    exact ⟨fun files hfiles => hfiles, fun files hfiles => .inl hfiles⟩
  | stopped hrel hpath =>
    exact ⟨by simp [collected], fun _ _ => .inr ⟨_, _, hrel, hpath, rfl⟩⟩
  | failed => exact ⟨by simp [collected], by simp [collected]⟩

/-- Where all links lie in directories left out by default, following them neither adds nor drops
a file of a scan that comes through. But it does not come through where a link leads to nothing or
to a directory around it; what stops it then is a path in a directory that is left out. -/
theorem collect_following (h : p.LinksExcluded s loc entries) :
    (Walk.Readable s.root (.dir entries) → ∃ files, p.collect (s.following false) = .ok files) ∧
    (∀ files, p.collect (s.following true) = .ok files →
      p.collect (s.following false) = .ok files ∧
      ∀ rel target, (Tree.dir entries).at? rel = some (.link target) →
        p.LeadsOn s.root loc rel) ∧
    ∀ files, p.collect (s.following false) = .ok files →
      p.collect (s.following true) = .ok files ∨
      ∃ rel e, rel.InExcluded ∧ e.path = Path.along s.root rel ∧
        p.collect (s.following true) = .error (.walk s.root e) := by
  obtain ⟨⟨includes, hi⟩, excludes, he⟩ := exists_globs_of_valid h.globs
  let passed := Walk.visit Walk.passOver [] ⟨[], s.root⟩ loc (.dir entries)
  let followed := Walk.visit (Walk.enter p.tree p.dir (Walk.dirCount p.tree)) [] ⟨[], s.root⟩ loc
    (.dir entries)
  have hpassed : p.collect (s.following false) = collected s includes excludes passed := by
    rw [collect_eq_collected (s := s.following false) h.root hi he, Walk.files]
    simp only [Settings.following, h.root]
    rfl
  have hfollowed : p.collect (s.following true) = collected s includes excludes followed := by
    rw [collect_eq_collected (s := s.following true) h.root hi he, Walk.files]
    simp only [Settings.following, h.root]
    rfl
  have hagrees : Walk.Agrees s.root (source? s includes excludes) passed followed :=
    Walk.agrees_visit h.proper (fun _ hf => source?_of_inExcluded he hf)
      (Walk.reports_enter p.tree p.dir _) rfl h.links
  obtain ⟨hback, hforth⟩ := collected_of_agrees hagrees
  rw [hpassed, hfollowed]
  refine ⟨fun hreadable => ?_, fun files hfiles => ⟨hback files hfiles, ?_⟩, hforth⟩
  · obtain ⟨found, hfound⟩ := (Walk.visit_ok_iff h.proper [] ⟨[], s.root⟩ loc).mpr hreadable
    exact ⟨_, by rw [show passed = .ok found from hfound]; rfl⟩
  · intro rel target hrel
    obtain ⟨found, hfound⟩ := exists_found_of_collected hfiles
    obtain ⟨inside, linked, hlinked, -, hdirs⟩ := Walk.follows_of_visit hfound hrel
    obtain ⟨reached, t, hfind, hinside⟩ := Walk.found_of_enter hlinked
    rw [Walk.Way.along_eq] at hfind
    refine ⟨reached, t, hfind, fun below ht dir hdir hne => ?_⟩
    obtain ⟨v, hv, hloc⟩ := hdirs dir hdir hne
    exact hloc ▸ (hinside below ht v hv).symm

end

theorem readGlobs_scripts (root : Text) :
    readGlobs (scripts root).allExcludes = .ok (Settings.excludedDirs.map Glob.below) :=
  readGlobs_eq_ok_iff.mpr
    ⟨by simp [Settings.allExcludes, scripts, Settings.ofText_defaultExcludes], by decide +kernel⟩

/-- A script, and beside it a directory of version control with a link in it. -/
def linkBeside (name target : Text) : Project where
  tree := .dir [(script ['a'], .file []), (".git".toList, .dir [(name, .link target)])]
  dir := []

def besideScript : SourceFile :=
  sourceFile ['.'] ([script ['a']], [])

section

variable {name target : Text} {follows : Bool}

theorem collect_linkBeside_found (found : List Walk.Found)
    (hfound : Walk.files (linkBeside name target).tree [] ['.'] follows = .ok found)
    (hread : found.filterMap (source? (scripts ['.']) [] (Settings.excludedDirs.map Glob.below)) =
      [(script ['a'], besideScript)]) :
    (linkBeside name target).collect ((scripts ['.']).following follows) = .ok [besideScript] := by
  rw [collect_eq_collected (s := (scripts ['.']).following follows) rfl rfl
    (readGlobs_scripts ['.'])]
  show collected (scripts ['.']) [] _ (Walk.files (linkBeside name target).tree [] ['.'] follows) = _
  rw [hfound, collected, hread, List.mergeSort_singleton]
  rfl

theorem collect_linkBeside_failed
    (herror : Walk.files (linkBeside name target).tree [] ['.'] follows = .error e) :
    (linkBeside name target).collect ((scripts ['.']).following follows) =
      .error (.walk ['.'] e) := by
  rw [collect_eq_collected (s := (scripts ['.']).following follows) rfl rfl
    (readGlobs_scripts ['.'])]
  show collected (scripts ['.']) [] _ (Walk.files (linkBeside name target).tree [] ['.'] follows) = _
  rw [herror]
  rfl

theorem collect_linkBeside_over (name target : Text) :
    (linkBeside name target).collect ((scripts ['.']).following false) = .ok [besideScript] :=
  collect_linkBeside_found [foundAt ['.'] [script ['a']] []] rfl (by decide +kernel)

theorem linksExcluded_linkBeside (h : IsName name) (target : Text) :
    (linkBeside name target).LinksExcluded (scripts ['.']) []
      [(script ['a'], .file []), (".git".toList, .dir [(name, .link target)])] where
  root := rfl
  proper := (Tree.proper_empty.cons (Tree.proper_empty.cons (.link target) h (by simp))
    (by decide) (by simp)).cons (.file []) (by decide) (by simp [script])
  links rel target' hrel := by
    obtain _ | ⟨top, rel⟩ := rel
    · simp [Tree.at?_nil] at hrel
    rw [Tree.at?_dir_cons] at hrel
    split at hrel
    · simp [Tree.at?_file] at hrel
    · rw [Tree.at?_dir_cons] at hrel
      split at hrel
      · next htop =>
        refine ⟨[], top, rel, rfl, htop ▸ by decide, ?_⟩
        rintro rfl
        simp [Tree.at?_nil] at hrel
      · simp [Tree.at?_empty] at hrel
  globs := by simp [scripts]

end

/-- A link in such a directory that leads to a file is followed, and the file is left out. -/
theorem collect_following_linkBeside :
    (linkBeside (script ['l']) "../a.js".toList).LinksExcluded (scripts ['.']) []
        [(script ['a'], .file []),
          (".git".toList, .dir [(script ['l'], .link "../a.js".toList)])] ∧
      (linkBeside (script ['l']) "../a.js".toList).collect ((scripts ['.']).following true) =
        .ok [besideScript] ∧
      (linkBeside (script ['l']) "../a.js".toList).collect ((scripts ['.']).following false) =
        .ok [besideScript] := by
  have h := linksExcluded_linkBeside (by decide : IsName (script ['l'])) "../a.js".toList
  have hon : (linkBeside (script ['l']) "../a.js".toList).collect
      ((scripts ['.']).following true) = .ok [besideScript] :=
    collect_linkBeside_found [foundAt ['.'] [script ['a']] [],
      foundAt ['.'] [".git".toList, script ['l']] []] rfl (by decide +kernel)
  exact ⟨h, hon, ((collect_following h).2.1 _ hon).1⟩

/-- A link in such a directory stops the scan when it leads to nothing, to itself or to a directory
around it. -/
theorem collect_stops_at_excluded_link :
    ((linkBeside ['x'] ['y']).collect ((scripts ['.']).following false) = .ok [besideScript] ∧
      (linkBeside ['x'] ['y']).collect ((scripts ['.']).following true) =
        .error (.walk ['.'] (.broken "./.git/x".toList .missing))) ∧
    ((linkBeside ['x'] ['x']).collect ((scripts ['.']).following false) = .ok [besideScript] ∧
      (linkBeside ['x'] ['x']).collect ((scripts ['.']).following true) =
        .error (.walk ['.'] (.broken "./.git/x".toList .tooManyLinks))) ∧
    (linkBeside ['x'] Path.up).collect ((scripts ['.']).following false) = .ok [besideScript] ∧
      (linkBeside ['x'] Path.up).collect ((scripts ['.']).following true) =
        .error (.walk ['.'] (.loop "./.git/x".toList ['.'])) :=
  ⟨⟨collect_linkBeside_over _ _, collect_linkBeside_failed rfl⟩,
    ⟨collect_linkBeside_over _ _, collect_linkBeside_failed rfl⟩,
    collect_linkBeside_over _ _, collect_linkBeside_failed rfl⟩

end Project

end CodeNotes
