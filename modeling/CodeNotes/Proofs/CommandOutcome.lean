import CodeNotes.CommandLine
import CodeNotes.Proofs.AddedFile
/-!
What comes of a command line whose arguments were read: the first fault that keeps the project
from being scanned, or the answers to the commands. No command and no input makes it fail.
-/
namespace CodeNotes

namespace Walk

mutual

/-- A walk that passes over links stops only at a directory whose path is too long. -/
theorem far_of_visit (around : List Visited) (way : Way) (loc : Location) :
    (t : Tree) → visit passOver around way loc t = .error e →
      ∃ rel, Path.isTooLong (way.along rel).path = true ∧
        e = .broken (way.along rel).path .nameTooLong
  | .file bytes, h => by simp [visit] at h
  | .link target, h => by simp [visit, passOver] at h
  | .dir entries, h => by
    rw [visit] at h
    split at h
    · next hlong => exact ⟨[], hlong, (Except.error.inj h).symm⟩
    · exact far_of_visitEntries _ way loc entries h

theorem far_of_visitEntries (around : List Visited) (way : Way) (loc : Location) :
    (entries : List (Text × Tree)) → visitEntries passOver around way loc entries = .error e →
      ∃ rel, Path.isTooLong (way.along rel).path = true ∧
        e = .broken (way.along rel).path .nameTooLong
  | [], h => by simp [visitEntries] at h
  | (name, t) :: entries, h => by
    rw [visitEntries] at h
    cases hfirst : visit passOver around (way.onTo name) (loc ++ [name]) t with
    | error e' =>
      obtain ⟨rel, hfar⟩ := far_of_visit around (way.onTo name) (loc ++ [name]) t hfirst
      simp only [hfirst, bind, Except.bind, Except.error.injEq] at h
      subst h
      exact ⟨name :: rel, hfar⟩
    | ok first =>
      cases hothers : visitEntries passOver around way loc entries with
      | error e' =>
        simp only [hfirst, hothers, bind, Except.bind, Except.error.injEq] at h
        subst h
        exact far_of_visitEntries around way loc entries hothers
      | ok others => simp [hfirst, hothers, bind, Except.bind, pure, Except.pure] at h

end

/-- Where links are not followed and the root can be reached, only a path that is too long stops
the walk. -/
theorem far_of_files (hroot : Path.find top dir root = .ok found)
    (h : files top dir root false = .error e) :
    ∃ rel, Path.isTooLong (Path.along root rel) = true ∧
      e = .broken (Path.along root rel) .nameTooLong := by
  obtain ⟨loc, t⟩ := found
  have hvisit : visit passOver [] ⟨[], root⟩ loc t = .error e := by
    simp only [files, hroot, Bool.false_eq_true, if_false] at h
    cases t with
    | dir entries => exact h
    | file bytes =>
      simp only at h
      split at h
      · simp at h
      · exact h
    | link target =>
      simp only at h
      split at h
      · simp at h
      · exact h
  obtain ⟨rel, hlong, he⟩ := far_of_visit [] ⟨[], root⟩ loc t hvisit
  rw [Way.along_eq] at hlong he
  exact ⟨rel, hlong, he⟩

end Walk

/-- What the first member gives that gives anything. -/
def First (gives : α → β → Prop) (xs : List α) (b : β) : Prop :=
  ∃ before x after, xs = before ++ x :: after ∧ (∀ y ∈ before, ∀ c, ¬ gives y c) ∧ gives x b

section

variable {gives : α → β → Prop} {x : α} {xs ys : List α} {b : β}

theorem not_first_nil : ¬ First gives [] b := by
  rintro ⟨before, x, after, he, -⟩
  simp at he

theorem first_cons :
    First gives (x :: xs) b ↔ gives x b ∨ (∀ c, ¬ gives x c) ∧ First gives xs b := by
  constructor
  · rintro ⟨before, y, after, he, hbefore, hy⟩
    cases before with
    | nil =>
      obtain ⟨rfl, -⟩ := List.cons.inj he
      exact .inl hy
    | cons z before =>
      obtain ⟨rfl, rfl⟩ := List.cons.inj he
      obtain ⟨hx, hbefore⟩ := List.forall_mem_cons.mp hbefore
      exact .inr ⟨hx, before, y, after, rfl, hbefore, hy⟩
  · rintro (hx | ⟨hx, before, y, after, rfl, hbefore, hy⟩)
    · exact ⟨[], x, xs, rfl, by simp, hx⟩
    · exact ⟨x :: before, y, after, rfl, List.forall_mem_cons.mpr ⟨hx, hbefore⟩, hy⟩

theorem first_append :
    First gives (xs ++ ys) b ↔
      First gives xs b ∨ (∀ x ∈ xs, ∀ c, ¬ gives x c) ∧ First gives ys b := by
  induction xs with
  | nil => simp [not_first_nil]
  | cons x xs ih =>
    rw [List.cons_append, first_cons, first_cons, ih, List.forall_mem_cons]
    constructor
    · rintro (hx | ⟨hx, hxs | ⟨hxs, hys⟩⟩)
      · exact .inl (.inl hx)
      · exact .inl (.inr ⟨hx, hxs⟩)
      · exact .inr ⟨⟨hx, hxs⟩, hys⟩
    · rintro ((hx | ⟨hx, hxs⟩) | ⟨⟨hx, hxs⟩, hys⟩)
      · exact .inl hx
      · exact .inr ⟨hx, .inl hxs⟩
      · exact .inr ⟨hx, .inr ⟨hxs, hys⟩⟩

theorem exists_first_iff : (∃ b, First gives xs b) ↔ ∃ x ∈ xs, ∃ b, gives x b := by
  induction xs with
  | nil => simp [not_first_nil]
  | cons x xs ih =>
    simp only [first_cons, List.exists_mem_cons_iff]
    by_cases hx : ∃ b, gives x b
    · obtain ⟨b, hb⟩ := hx
      exact iff_of_true ⟨b, .inl hb⟩ (.inl ⟨b, hb⟩)
    · have hnone : ∀ b, ¬ gives x b := not_exists.mp hx
      simp only [hnone, not_false_eq_true, implies_true, true_and, false_or, exists_false, ih]

theorem First.given (h : First gives xs b) : ∃ x ∈ xs, gives x b := by
  obtain ⟨before, x, after, rfl, -, hx⟩ := h
  exact ⟨x, by simp, hx⟩

/-- A result fails with what the first of some checks gives that gives anything. -/
def FailsBy (gives : α → ε → Prop) (checks : List α) (result : Except ε β) : Prop :=
  ∀ e, result = .error e ↔ First gives checks e

variable {gives : α → ε → Prop} {checks later : List α} {x : Except ε β} {f : β → Except ε γ}

theorem FailsBy.passed (hx : FailsBy gives checks x) (h : x = .ok b) :
    ∀ c ∈ checks, ∀ e, ¬ gives c e := by
  intro c hc e he
  obtain ⟨e', hfirst⟩ := exists_first_iff.mpr ⟨c, hc, e, he⟩
  rw [(hx e').mpr hfirst] at h
  contradiction

/-- Of two results in a row, the first comes before the second. -/
theorem FailsBy.bind (hx : FailsBy gives checks x)
    (hf : ∀ b, x = .ok b → FailsBy gives later (f b)) :
    FailsBy gives (checks ++ later) (x >>= f) := by
  intro e
  rw [first_append]
  cases hr : x with
  | error e' =>
    have hfirst := (hx e').mp hr
    have hone : ∀ e, First gives checks e ↔ e' = e := by
      intro e
      rw [← hx e, hr, Except.error.injEq]
    have hsome : ¬ ∀ c ∈ checks, ∀ e, ¬ gives c e := by
      intro hnone
      obtain ⟨c, hc, e, he⟩ := exists_first_iff.mp ⟨e', hfirst⟩
      exact hnone c hc e he
    simp [hone, hsome, Except.bind, Bind.bind]
  | ok b =>
    have hno : ¬ First gives checks e := by
      rw [← hx e, hr]
      simp
    rw [iff_false_intro hno, false_or, iff_true_intro (hx.passed hr), true_and]
    exact hf b hr e

theorem FailsBy.map (hx : FailsBy gives checks x) (g : β → γ) :
    FailsBy gives checks (do return g (← x)) := by
  intro e
  rw [← hx e]
  cases x <;> simp [Bind.bind, Except.bind, pure, Except.pure]

end

namespace Project

/-- A pattern that is no glob, with its fault. -/
def Unreadable (pattern : Text) (e : ScanError) : Prop :=
  ∃ fault, Glob.ofText pattern = .error fault ∧ e = .invalidGlob pattern fault

/-- Patterns that are globs, but nested too deeply to be put together. -/
def TooDeep (patterns : List Text) (e : ScanError) : Prop :=
  ∃ globs fault, patterns.map Glob.ofText = globs.map .ok ∧
    Glob.nestingFault? globs = some fault ∧ e = .nesting fault

/-- What is looked at before a project is scanned, and what may stop the scan. -/
inductive Check where
  | extensionGiven
  | extensionPlain
  | rootDirectory
  | includesRead
  | includesFit
  | excludesRead
  | excludesFit
  | filesReached

namespace Check

/-- The checks in the order in which they are made. -/
def order : List Check :=
  [extensionGiven, extensionPlain, rootDirectory] ++
    [includesRead, includesFit, excludesRead, excludesFit, filesReached]

/-- The fault that a check finds, whatever the other checks find. -/
def Finds (p : Project) (s : Settings) : Check → ScanError → Prop
  | extensionGiven, e => s.extension = [] ∧ e = .emptyExtension
  | extensionPlain, e =>
    ('/' ∈ s.extension ∨ '\\' ∈ s.extension) ∧ e = .separatorInExtension s.extension
  | rootDirectory, e =>
    (¬ ∃ loc entries, Path.find p.tree p.dir s.root = .ok (loc, .dir entries)) ∧
      e = .rootNotDirectory s.root
  | includesRead, e => First Unreadable s.includes e
  | includesFit, e => TooDeep s.includes e
  | excludesRead, e => First Unreadable s.excludes e
  | excludesFit, e => TooDeep s.allExcludes e
  | filesReached, e =>
    ∃ cause, Walk.files p.tree p.dir s.root s.followsLinks = .error cause ∧ e = .walk s.root cause

end Check

/-- The fault of the first check that finds one. -/
def FirstFault (p : Project) (s : Settings) : ScanError → Prop :=
  First (Check.Finds p s) Check.order

section

variable {p : Project} {s : Settings} {patterns : List Text} {e : ScanError}

theorem unreadable_of_error (h : Glob.ofText pattern = .error fault) :
    Unreadable pattern e ↔ e = .invalidGlob pattern fault := by
  constructor
  · rintro ⟨fault', hfault, rfl⟩
    rw [h] at hfault
    rw [Except.error.inj hfault]
  · intro he
    exact ⟨fault, h, he⟩

theorem not_unreadable (h : Glob.ofText pattern = .ok glob) : ¬ Unreadable pattern e := by
  rintro ⟨fault, hfault, -⟩
  simp [h] at hfault

theorem failsBy_mapM_readGlob (patterns : List Text) :
    FailsBy Unreadable patterns (patterns.mapM readGlob) := by
  intro e
  induction patterns with
  | nil => simp [pure, Except.pure, not_first_nil]
  | cons pattern patterns ih =>
    rw [List.mapM_cons, readGlob, first_cons, ← ih]
    cases hp : Glob.ofText pattern with
    | error fault => simp [unreadable_of_error hp, bind, Except.bind, eq_comm]
    | ok glob =>
      have hread : ∀ e, ¬ Unreadable pattern e := fun e => not_unreadable hp
      simp only [hread, not_false_eq_true, implies_true, true_and, false_or]
      cases patterns.mapM readGlob <;> simp [bind, Except.bind, pure, Except.pure]

theorem tooDeep_iff (h : patterns.mapM readGlob = .ok globs) :
    TooDeep patterns e ↔ ∃ fault, Glob.nestingFault? globs = some fault ∧ e = .nesting fault := by
  constructor
  · rintro ⟨globs', fault, hmap, hfault, he⟩
    rw [mapM_readGlob_iff.mpr hmap] at h
    exact ⟨fault, Except.ok.inj h ▸ hfault, he⟩
  · rintro ⟨fault, hfault, he⟩
    exact ⟨globs, fault, mapM_readGlob_iff.mp h, hfault, he⟩

/-- A list of patterns is read by one check for its members and another for all together. -/
theorem failsBy_readGlobs {read fit : Check}
    (hread : ∀ e, read.Finds p s e ↔ First Unreadable patterns e)
    (hfit : ∀ e, fit.Finds p s e ↔ TooDeep patterns e) :
    FailsBy (Check.Finds p s) [read, fit] (readGlobs patterns) := by
  have hmembers : FailsBy (Check.Finds p s) [read] (patterns.mapM readGlob) := by
    intro e
    rw [failsBy_mapM_readGlob patterns e, first_cons]
    simp [not_first_nil, hread]
  change FailsBy (Check.Finds p s) ([read] ++ [fit]) (readGlobs patterns)
  refine hmembers.bind fun globs hglobs e => ?_
  rw [first_cons, hfit, tooDeep_iff hglobs]
  cases Glob.nestingFault? globs <;> simp [not_first_nil, eq_comm]

/-- The globs left out by default can always be read. -/
theorem first_unreadable_allExcludes :
    First Unreadable s.allExcludes e ↔ First Unreadable s.excludes e := by
  have hdefault : ∀ pattern ∈ Settings.defaultExcludes, ∀ e, ¬ Unreadable pattern e := by
    intro pattern hp e
    obtain ⟨glob, hglob, -⟩ := valid_defaultExcludes pattern hp
    exact not_unreadable hglob
  have hnone : ¬ First Unreadable Settings.defaultExcludes e := by
    intro hfirst
    obtain ⟨pattern, hp, e', he'⟩ := exists_first_iff.mp ⟨e, hfirst⟩
    exact hdefault pattern hp e' he'
  rw [Settings.allExcludes, first_append]
  exact ⟨fun h => (h.resolve_left hnone).2, fun h => .inr ⟨hdefault, h⟩⟩

theorem failsBy_validate (p : Project) (s : Settings) :
    FailsBy (Check.Finds p s) [.extensionGiven, .extensionPlain, .rootDirectory]
      (p.validate s) := by
  intro e
  simp only [first_cons, not_first_nil, Check.Finds, and_false, or_false]
  unfold validate
  by_cases hempty : s.extension = []
  · simp [hempty, eq_comm]
  by_cases hplain : '/' ∈ s.extension ∨ '\\' ∈ s.extension
  · simp [hempty, hplain, eq_comm]
  simp only [hempty, hplain, if_false, false_and, not_false_eq_true, implies_true, true_and,
    false_or]
  split
  · next loc entries hfind => simp [hfind]
  · next hno =>
    have hroot : ¬ ∃ loc entries, Path.find p.tree p.dir s.root = .ok (loc, .dir entries) := by
      rintro ⟨loc, entries, hfind⟩
      exact hno loc entries hfind
    simp [hroot, eq_comm]

/-- From a root that is there, files are collected unless the globs or the walk prevent it. -/
theorem failsBy_collect (hroot : Path.find p.tree p.dir s.root = .ok found) :
    FailsBy (Check.Finds p s)
      [.includesRead, .includesFit, .excludesRead, .excludesFit, .filesReached]
      (p.collect s) := by
  have hincludes : FailsBy (Check.Finds p s) [.includesRead, .includesFit]
      (readGlobs s.includes) := failsBy_readGlobs (fun _ => Iff.rfl) (fun _ => Iff.rfl)
  have hexcludes : FailsBy (Check.Finds p s) [.excludesRead, .excludesFit]
      (readGlobs s.allExcludes) :=
    failsBy_readGlobs (fun _ => first_unreadable_allExcludes.symm) (fun _ => Iff.rfl)
  simp only [collect, hroot]
  refine hincludes.bind fun includes _ => hexcludes.bind fun excludes _ => ?_
  intro e
  simp only [first_cons, not_first_nil, and_false, or_false, Check.Finds]
  cases Walk.files p.tree p.dir s.root s.followsLinks <;> simp [eq_comm]

/-- A scan fails with the fault of the first check that finds one, and only so. -/
theorem failsBy_scan (p : Project) (s : Settings) :
    FailsBy (Check.Finds p s) Check.order (p.scan s) := by
  refine (failsBy_validate p s).bind fun _ hv => ?_
  obtain ⟨-, loc, entries, hroot⟩ := validate_eq_ok_iff.mp hv
  exact (failsBy_collect hroot).map fun files => Board.ofNotes (Note.ofFiles files)

theorem Check.mem_order (c : Check) : c ∈ order := by
  cases c <;> simp [order]

theorem scan_eq_error_iff : p.scan s = .error e ↔ FirstFault p s e :=
  failsBy_scan p s e

theorem exists_firstFault_iff : (∃ e, FirstFault p s e) ↔ ∃ c e, Check.Finds p s c e := by
  rw [FirstFault, exists_first_iff]
  constructor
  · rintro ⟨c, -, e, he⟩
    exact ⟨c, e, he⟩
  · rintro ⟨c, e, he⟩
    exact ⟨c, c.mem_order, e, he⟩

/-- A walk is begun only where the root is a directory. -/
theorem far_of_firstFault (h : FirstFault p s (.walk root cause)) (hlinks : s.followsLinks = false) :
    ∃ rel, Path.isTooLong (Path.along s.root rel) = true ∧
      cause = .broken (Path.along s.root rel) .nameTooLong := by
  rw [FirstFault, Check.order, first_append] at h
  rcases h with hfirst | ⟨hpasses, hfirst⟩
  · obtain ⟨c, hc, hfinds⟩ := hfirst.given
    simp only [List.mem_cons, List.not_mem_nil, or_false] at hc
    rcases hc with rfl | rfl | rfl <;> simp [Check.Finds] at hfinds
  · have hroot : ∃ loc entries, Path.find p.tree p.dir s.root = .ok (loc, .dir entries) := by
      by_contra hno
      exact hpasses .rootDirectory (by simp) (.rootNotDirectory s.root) ⟨hno, rfl⟩
    obtain ⟨loc, entries, hroot⟩ := hroot
    obtain ⟨c, hc, hfinds⟩ := hfirst.given
    simp only [List.mem_cons, List.not_mem_nil, or_false] at hc
    rcases hc with rfl | rfl | rfl | rfl | rfl
    · obtain ⟨pattern, -, fault, -, he⟩ := hfinds.given
      contradiction
    · obtain ⟨globs, fault, -, -, he⟩ := hfinds
      contradiction
    · obtain ⟨pattern, -, fault, -, he⟩ := hfinds.given
      contradiction
    · obtain ⟨globs, fault, -, -, he⟩ := hfinds
      contradiction
    · obtain ⟨cause', hwalk, he⟩ := hfinds
      obtain ⟨-, rfl⟩ := ScanError.walk.inj he
      rw [hlinks] at hwalk
      exact Walk.far_of_files hroot hwalk

end

end Project

namespace CommandLine

variable {p : Project} {args : List Text} {g : Given} {e : ScanError}

theorem run_of_scan_error (h : readArguments args = .ok (.start g))
    (hscan : p.scan g.settings = .error e) (stdin : List UInt8) :
    run p args stdin = ⟨1, [], report e⟩ := by
  simp [run, prepare, h, serve, hscan]

/-- A project that can be scanned is answered about, whatever is asked. -/
theorem run_of_scan_ok (h : readArguments args = .ok (.start g))
    (hscan : p.scan g.settings = .ok board) (stdin : List UInt8) :
    ∃ output, run p args stdin = ⟨0, output, []⟩ := by
  simp only [run, prepare, h, serve, hscan]
  split
  · next outcome ho =>
    split at ho
    · contradiction
    · exact ⟨_, (Sum.inl.inj ho).symm⟩
  · exact ⟨_, rfl⟩

theorem run_of_commands (h : readArguments args = .ok (.start g)) (hc : g.commands ≠ [])
    (stdin stdin' : List UInt8) : run p args stdin' = run p args stdin := by
  simp only [run, prepare, h, serve]
  cases p.scan g.settings with
  | error e => rfl
  | ok board => simp [hc]

/-- The message for a missing root alone begins with this capital. -/
theorem exists_chain (e : ScanError) :
    ∃ c message causes, e.chain = (c :: message) :: causes ∧
      (c = 'S' ↔ ∃ root, e = .rootMissing root) := by
  cases e with
  | emptyExtension => exact ⟨'e', _, _, rfl, by simp⟩
  | separatorInExtension extension => exact ⟨'e', _, _, rfl, by simp⟩
  | rootNotDirectory root => exact ⟨'s', _, _, rfl, by simp⟩
  | rootMissing root => exact ⟨'S', _, _, rfl, by simp⟩
  | invalidGlob pattern fault => exact ⟨'I', _, _, rfl, by simp⟩
  | nesting fault => cases fault <;> exact ⟨'e', _, _, rfl, by simp⟩
  | walk root cause => exact ⟨'F', _, _, rfl, by simp⟩

theorem report_ne_rootMissing (h : ∀ root, e ≠ .rootMissing root) (root : Text) :
    report e ≠ report (.rootMissing root) := by
  obtain ⟨c, message, causes, hc, hinitial⟩ := exists_chain e
  obtain ⟨c', message', causes', hc', hinitial'⟩ := exists_chain (.rootMissing root)
  obtain rfl := hinitial'.mpr ⟨root, rfl⟩
  intro heq
  simp only [report, hc, hc', List.append_assoc, List.append_cancel_left_eq, List.cons_append,
    List.cons.injEq] at heq
  obtain ⟨root', he⟩ := hinitial.mp heq.1
  exact h root' he

theorem ne_rootMissing_of_finds {c : Project.Check} {s : Settings} (h : c.Finds p s e)
    (root : Text) : e ≠ .rootMissing root := by
  rintro rfl
  cases c <;> simp [Project.Check.Finds, Project.TooDeep, First, Project.Unreadable] at h

/-- A letter in so many groups. -/
def nested (n : Nat) : Text :=
  List.replicate n '\x7b' ++ 'a' :: List.replicate n '\x7d'

theorem exists_glob_nested :
    ∃ glob, Glob.ofText (nested 300) = .ok glob ∧ Glob.nestingFault? [glob] = some (.shared 0) := by
  have hfault : (Glob.ofText (nested 300)).toOption.bind (fun glob => Glob.nestingFault? [glob]) =
      some (.shared 0) := by decide +kernel
  cases h : Glob.ofText (nested 300) with
  | error fault => simp [h, Except.toOption] at hfault
  | ok glob => exact ⟨glob, rfl, by simpa [h, Except.toOption] using hfault⟩

theorem readArguments_dotted (n : Nat) :
    ∃ g, readArguments ["--root".toList, Project.dotted n] = .ok (.start g) ∧
      g.settings = Project.scripts (Project.dotted n) := by
  have hdot : ∃ rest, Project.dotted n = '.' :: rest := by
    induction n with
    | zero => exact ⟨[], rfl⟩
    | succ n ih =>
      obtain ⟨rest, hrest⟩ := ih
      exact ⟨rest ++ '/' :: Path.here, by rw [Project.dotted, hrest]; rfl⟩
  obtain ⟨rest, hrest⟩ := hdot
  rw [hrest]
  exact ⟨_, rfl, rfl⟩

theorem readArguments_include (pattern : Text) :
    ∃ g, readArguments ["--include".toList, '\x7b' :: pattern] = .ok (.start g) ∧
      g.settings = { Project.scripts Path.here with includes := ['\x7b' :: pattern] } :=
  ⟨_, rfl, rfl⟩

theorem not_finds {s : Settings} (hv : p.validate s = .ok ())
    (hglobs : ∀ pattern ∈ s.includes ++ s.excludes, ∃ glob, Glob.ofText pattern = .ok glob) :
    ∀ c ∈ [Project.Check.extensionGiven, .extensionPlain, .rootDirectory, .includesRead,
      .excludesRead], ∀ e, ¬ c.Finds p s e := by
  have hpassed := (Project.failsBy_validate p s).passed hv
  have hread : ∀ patterns, patterns ⊆ s.includes ++ s.excludes →
      ∀ e, ¬ First Project.Unreadable patterns e := by
    intro patterns hsub e hfirst
    obtain ⟨pattern, hp, hunread⟩ := hfirst.given
    obtain ⟨glob, hglob⟩ := hglobs pattern (hsub hp)
    exact Project.not_unreadable hglob hunread
  intro c hc e
  simp only [List.mem_cons, List.not_mem_nil, or_false] at hc
  rcases hc with rfl | rfl | rfl | rfl | rfl
  · exact hpassed .extensionGiven (by simp) e
  · exact hpassed .extensionPlain (by simp) e
  · exact hpassed .rootDirectory (by simp) e
  · exact hread s.includes (List.subset_append_left _ _) e
  · exact hread s.excludes (List.subset_append_right _ _) e

end CommandLine

end CodeNotes
