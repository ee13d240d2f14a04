import CodeNotes.Project
/-!
Lists of globs. They can be put together when each of them can, and what they match does not
depend on their order.
-/
namespace CodeNotes

namespace Glob

/-- A pattern can be read and put together. -/
def Valid (pattern : Text) : Prop :=
  ∃ glob, Glob.ofText pattern = .ok glob ∧ nestingFault? [glob] = none

/-- Some of the patterns matches a path. -/
def SomeMatches (patterns : List Text) (path : Text) : Prop :=
  ∃ pattern ∈ patterns, ∃ glob, Glob.ofText pattern = .ok glob ∧ glob.matches path = true

instance (patterns : List Text) (path : Text) : Decidable (SomeMatches patterns path) :=
  decidable_of_iff
    (∃ pattern ∈ patterns, (Glob.ofText pattern).toOption.any (·.matches path) = true) <| by
    refine exists_congr fun pattern => and_congr_right fun _ => ?_
    cases Glob.ofText pattern <;> simp [Except.toOption]

theorem someMatches_congr {patterns patterns' : List Text}
    (h : ∀ pattern, pattern ∈ patterns' ↔ pattern ∈ patterns) (path : Text) :
    SomeMatches patterns' path ↔ SomeMatches patterns path :=
  exists_congr fun pattern => and_congr_left fun _ => h pattern

theorem nestingFault?_eq_none {globs : List Glob} :
    nestingFault? globs = none ↔
      (∀ glob ∈ globs, ¬ (fixesExtension glob.tokens && glob.isTooDeep) = true) ∧
        ∀ glob ∈ globs, glob.isShared = true → ¬ glob.isTooDeep = true := by
  unfold nestingFault?
  cases hf : globs.find? fun glob => fixesExtension glob.tokens && glob.isTooDeep with
  | some glob =>
    simp only [reduceCtorEq, false_iff, not_and]
    intro hn
    exact absurd (List.find?_some hf) (hn glob (List.mem_of_find?_eq_some hf))
  | none =>
    have hn := List.find?_eq_none.mp hf
    simp only [Option.map_eq_none_iff, List.findIdx?_eq_none_iff, List.mem_filter]
    constructor
    · intro h
      refine ⟨hn, fun glob hg hs => ?_⟩
      simp [h glob ⟨hg, hs⟩]
    · rintro ⟨-, h⟩ glob ⟨hg, hs⟩
      simpa using h glob hg hs

/-- What keeps globs from being put together is a fault of a single one. -/
theorem nestingFault?_eq_none_iff {globs : List Glob} :
    nestingFault? globs = none ↔ ∀ glob ∈ globs, nestingFault? [glob] = none := by
  simp only [nestingFault?_eq_none, List.mem_singleton, forall_eq]
  exact ⟨fun h glob hg => ⟨h.1 glob hg, h.2 glob hg⟩,
    fun h => ⟨fun glob hg => (h glob hg).1, fun glob hg => (h glob hg).2⟩⟩

end Glob

namespace Project

section

variable {patterns : List Text} {globs : List Glob} {pattern : Text} {glob : Glob}

theorem mapM_readGlob_iff :
    patterns.mapM readGlob = .ok globs ↔ patterns.map Glob.ofText = globs.map .ok := by
  induction patterns generalizing globs with
  | nil => simp [pure, Except.pure, eq_comm]
  | cons pattern patterns ih =>
    rw [List.mapM_cons, List.map_cons, readGlob]
    cases Glob.ofText pattern with
    | error fault => cases globs <;> simp [bind, Except.bind]
    | ok glob =>
      cases globs with
      | nil => cases patterns.mapM readGlob <;> simp [bind, Except.bind, pure, Except.pure]
      | cons g globs =>
        rw [List.map_cons, List.cons.injEq, ← ih]
        cases patterns.mapM readGlob <;> simp [bind, Except.bind, pure, Except.pure]

theorem readGlobs_eq_ok_iff :
    readGlobs patterns = .ok globs ↔
      patterns.map Glob.ofText = globs.map .ok ∧ Glob.nestingFault? globs = none := by
  rw [← mapM_readGlob_iff, readGlobs]
  cases patterns.mapM readGlob with
  | error e => simp [bind, Except.bind]
  | ok gs =>
    simp only [bind, Except.bind, Except.ok.injEq]
    cases hn : Glob.nestingFault? gs with
    | none =>
      simp only [Except.ok.injEq]
      exact ⟨fun h => ⟨h, h ▸ hn⟩, And.left⟩
    | some fault =>
      simp only [reduceCtorEq, false_iff]
      rintro ⟨rfl, h⟩
      simp [hn] at h

theorem glob_of_mem_patterns (hmap : patterns.map Glob.ofText = globs.map .ok)
    (hp : pattern ∈ patterns) : ∃ glob ∈ globs, Glob.ofText pattern = .ok glob := by
  have hm : Glob.ofText pattern ∈ globs.map .ok := hmap ▸ List.mem_map_of_mem hp
  obtain ⟨glob, hg, he⟩ := List.mem_map.mp hm
  exact ⟨glob, hg, he.symm⟩

theorem pattern_of_mem_globs (hmap : patterns.map Glob.ofText = globs.map .ok)
    (hg : glob ∈ globs) : ∃ pattern ∈ patterns, Glob.ofText pattern = .ok glob := by
  have hm : Except.ok glob ∈ patterns.map Glob.ofText := hmap ▸ List.mem_map_of_mem hg
  obtain ⟨pattern, hp, he⟩ := List.mem_map.mp hm
  exact ⟨pattern, hp, he⟩

theorem exists_globs (h : ∀ pattern ∈ patterns, ∃ glob, Glob.ofText pattern = .ok glob) :
    ∃ globs : List Glob, patterns.map Glob.ofText = globs.map .ok := by
  induction patterns with
  | nil => exact ⟨[], rfl⟩
  | cons pattern patterns ih =>
    obtain ⟨⟨glob, hg⟩, h⟩ := List.forall_mem_cons.mp h
    obtain ⟨globs, hgs⟩ := ih h
    exact ⟨glob :: globs, by rw [List.map_cons, List.map_cons, hg, hgs]⟩

/-- Patterns can be read together when each of them can. -/
theorem readGlobs_ok_iff :
    (∃ globs, readGlobs patterns = .ok globs) ↔ ∀ pattern ∈ patterns, Glob.Valid pattern := by
  constructor
  · rintro ⟨globs, h⟩ pattern hp
    obtain ⟨hmap, hn⟩ := readGlobs_eq_ok_iff.mp h
    obtain ⟨glob, hg, he⟩ := glob_of_mem_patterns hmap hp
    exact ⟨glob, he, Glob.nestingFault?_eq_none_iff.mp hn glob hg⟩
  · intro h
    obtain ⟨globs, hmap⟩ := exists_globs fun pattern hp => (h pattern hp).imp fun _ hg => hg.1
    refine ⟨globs, readGlobs_eq_ok_iff.mpr ⟨hmap, Glob.nestingFault?_eq_none_iff.mpr ?_⟩⟩
    intro glob hg
    obtain ⟨pattern, hp, he⟩ := pattern_of_mem_globs hmap hg
    obtain ⟨glob', hg', hn⟩ := h pattern hp
    obtain rfl : glob' = glob := Except.ok.inj (hg'.symm.trans he)
    exact hn

theorem any_matches_iff (h : readGlobs patterns = .ok globs) (path : Text) :
    globs.any (·.matches path) = true ↔ Glob.SomeMatches patterns path := by
  have hmap := (readGlobs_eq_ok_iff.mp h).1
  rw [List.any_eq_true]
  constructor
  · rintro ⟨glob, hg, hm⟩
    obtain ⟨pattern, hp, he⟩ := pattern_of_mem_globs hmap hg
    exact ⟨pattern, hp, glob, he, hm⟩
  · rintro ⟨pattern, hp, glob, he, hm⟩
    obtain ⟨glob', hg, he'⟩ := glob_of_mem_patterns hmap hp
    obtain rfl : glob' = glob := Except.ok.inj (he'.symm.trans he)
    exact ⟨glob', hg, hm⟩

theorem isEmpty_globs_iff (h : readGlobs patterns = .ok globs) :
    globs.isEmpty = true ↔ patterns = [] := by
  have hlen := congrArg List.length (readGlobs_eq_ok_iff.mp h).1
  simp only [List.length_map] at hlen
  rw [List.isEmpty_iff_length_eq_zero, ← hlen, List.length_eq_zero_iff]

/-- Whether patterns can be read is a matter of running the reader. -/
theorem isOk_readGlobs_iff :
    (readGlobs patterns).isOk = true ↔ ∀ pattern ∈ patterns, Glob.Valid pattern := by
  rw [← readGlobs_ok_iff]
  cases readGlobs patterns <;> simp [Except.isOk, Except.toBool]

theorem valid_defaultExcludes : ∀ pattern ∈ Settings.defaultExcludes, Glob.Valid pattern :=
  isOk_readGlobs_iff.mp (by decide +kernel)

theorem exists_globs_of_valid {s : Settings}
    (h : ∀ pattern ∈ s.includes ++ s.excludes, Glob.Valid pattern) :
    (∃ includes, readGlobs s.includes = .ok includes) ∧
      ∃ excludes, readGlobs s.allExcludes = .ok excludes := by
  refine ⟨readGlobs_ok_iff.mpr fun pattern hp => h pattern (List.mem_append_left _ hp),
    readGlobs_ok_iff.mpr fun pattern hp => ?_⟩
  rcases List.mem_append.mp hp with hp | hp
  · exact valid_defaultExcludes pattern hp
  · exact h pattern (List.mem_append_right _ hp)

end

end Project

end CodeNotes
