import CodeNotes.Proofs.GlobLists
import CodeNotes.Proofs.PathTexts
import Mathlib.Data.List.Basic
/-!
Globs of directories: two stars, a name and two stars match what is below a directory of that
name, at any depth. The globs of what is left out by default are three of them.
-/
namespace CodeNotes

namespace Glob

namespace Places

/-- The place behind the first bytes of a path is among some places. -/
def Holds (s : Places) (before : List UInt8) : Prop :=
  s[before.length]? = some true

section

variable {s t : Places} {path before : List UInt8} {passes : UInt8 → Bool}

theorem holds_start (path before : List UInt8) : (start path).Holds before ↔ before = [] := by
  cases before with
  | nil => simp [Holds, start]
  | cons b before => simp [Holds, start, List.getElem?_replicate]

theorem holds_step (h : before <+: path) :
    (s.step path passes).Holds before ↔
      ∃ first b, before = first ++ [b] ∧ passes b = true ∧ s.Holds first := by
  rcases List.eq_nil_or_concat' before with rfl | ⟨first, b, rfl⟩
  · simp [Holds, step]
  · obtain ⟨behind, rfl⟩ := h
    have hb : (first ++ [b] ++ behind)[first.length]? = some b := by simp
    rw [Holds, List.length_append, List.length_singleton, step, List.getElem?_cons_succ,
      List.getElem?_zipWith, hb]
    constructor
    · intro hs
      refine ⟨first, b, rfl, ?_⟩
      cases hf : s[first.length]? with
      | none => simp [hf] at hs
      | some here =>
        simp only [hf, Option.some.injEq, Bool.and_eq_true] at hs
        exact ⟨hs.2, hf.trans (congrArg some hs.1)⟩
    · rintro ⟨first', b', he, hpass, hs⟩
      obtain ⟨rfl, hlast⟩ := List.append_inj' he rfl
      obtain rfl := List.head_eq_of_cons_eq hlast
      rw [Holds] at hs
      simp [hs, hpass]

theorem holds_step_byte (b : UInt8) (h : before <+: path) :
    (s.step path (· = b)).Holds before ↔ ∃ first, before = first ++ [b] ∧ s.Holds first := by
  rw [holds_step h]
  constructor
  · rintro ⟨first, b', rfl, hb, hs⟩
    exact ⟨first, by rw [of_decide_eq_true hb], hs⟩
  · rintro ⟨first, rfl, hs⟩
    exact ⟨first, b, rfl, decide_eq_true rfl, hs⟩

theorem holds_union (hlen : s.length = t.length) :
    (s.union t).Holds before ↔ s.Holds before ∨ t.Holds before := by
  rw [Holds, Holds, Holds, union, List.getElem?_zipWith]
  by_cases hl : before.length < s.length
  · simp [List.getElem?_eq_getElem hl, List.getElem?_eq_getElem (hlen ▸ hl)]
  · simp [List.getElem?_eq_none (Nat.le_of_not_lt hl),
      List.getElem?_eq_none (hlen ▸ Nat.le_of_not_lt hl)]

theorem getElem?_onward (s : Places) (i : Nat) :
    s.onward[i]? = some true ↔ i < s.length ∧ ∃ j ≤ i, s[j]? = some true := by
  induction s generalizing i with
  | nil => simp [onward]
  | cons here s ih =>
    cases here with
    | true =>
      have hall : (true :: s.map fun _ => true) = List.replicate (s.length + 1) true := by
        rw [List.map_const', List.replicate_succ]
      rw [onward, hall, List.getElem?_replicate]
      simp only [List.length_cons]
      split
      · next hi => exact ⟨fun _ => ⟨hi, 0, Nat.zero_le i, rfl⟩, fun _ => rfl⟩
      · next hi => simp [hi]
    | false =>
      rw [onward]
      cases i with
      | zero => simp
      | succ i =>
        rw [List.getElem?_cons_succ, ih, List.length_cons, Nat.succ_lt_succ_iff]
        refine and_congr_right fun _ => ⟨?_, ?_⟩
        · rintro ⟨j, hj, hs⟩
          exact ⟨j + 1, Nat.succ_le_succ hj, hs⟩
        · rintro ⟨j, hj, hs⟩
          cases j with
          | zero => simp at hs
          | succ j => exact ⟨j, Nat.le_of_succ_le_succ hj, hs⟩

theorem holds_onward (hlen : before.length < s.length) :
    s.onward.Holds before ↔ ∃ first, first <+: before ∧ s.Holds first := by
  rw [Holds, getElem?_onward]
  constructor
  · rintro ⟨-, j, hj, hs⟩
    refine ⟨before.take j, List.take_prefix j before, ?_⟩
    rwa [Holds, List.length_take, Nat.min_eq_left hj]
  · rintro ⟨first, hfirst, hs⟩
    exact ⟨hlen, first.length, hfirst.length_le, hs⟩

theorem atEnd_iff (hlen : s.length = path.length + 1) : s.atEnd = true ↔ s.Holds path := by
  rw [atEnd, decide_eq_true_eq, List.getLast?_eq_getElem?, hlen]
  rfl

/-- Bytes one after another. -/
def steps (path bytes : List UInt8) (s : Places) : Places :=
  bytes.foldl (fun s b => s.step path (· = b)) s

theorem length_steps (path bytes : List UInt8) (hlen : s.length = path.length + 1) :
    (s.steps path bytes).length = s.length := by
  induction bytes generalizing s with
  | nil => rfl
  | cons b bytes ih =>
    have hstep := length_step path (fun x => decide (x = b)) hlen
    exact (ih (hstep.trans hlen)).trans hstep

theorem holds_steps (bytes : List UInt8) (h : before <+: path) :
    (s.steps path bytes).Holds before ↔ ∃ first, before = first ++ bytes ∧ s.Holds first := by
  induction bytes generalizing s with
  | nil => simp [steps]
  | cons b bytes ih =>
    rw [steps, List.foldl_cons, ← steps, ih]
    constructor
    · rintro ⟨upTo, rfl, hupTo⟩
      have hprefix := (List.prefix_append upTo bytes).trans h
      obtain ⟨first, rfl, hs⟩ := (holds_step_byte b hprefix).mp hupTo
      exact ⟨first, by simp, hs⟩
    · rintro ⟨first, rfl, hs⟩
      have hfirst : first ++ [b] <+: path := List.IsPrefix.trans ⟨bytes, by simp⟩ h
      exact ⟨first ++ [b], by simp, (holds_step_byte b hfirst).mpr ⟨first, rfl, hs⟩⟩

/-- The places where a name on a path may begin. -/
def nameStarts (path : List UInt8) : Places :=
  (start path).union ((start path).onward.step path (· = slash))

theorem length_start_onward (path : List UInt8) : (start path).onward.length = path.length + 1 :=
  (length_onward (start path)).trans (length_start path)

theorem length_slashes (path : List UInt8) :
    (start path).length = ((start path).onward.step path (· = slash)).length :=
  (length_onward (start path)).symm.trans (length_step path _ (length_start_onward path)).symm

theorem length_nameStarts (path : List UInt8) : (nameStarts path).length = path.length + 1 :=
  (length_union (length_slashes path)).trans (length_start path)

theorem holds_nameStarts (h : before <+: path) :
    (nameStarts path).Holds before ↔ before = [] ∨ ∃ first, before = first ++ [slash] := by
  rw [nameStarts, holds_union (length_slashes path), holds_start, holds_step_byte slash h]
  refine or_congr_right ⟨?_, ?_⟩
  · rintro ⟨first, rfl, -⟩
    exact ⟨first, rfl⟩
  · rintro ⟨first, rfl⟩
    have hlen : first.length < (start path).length := by
      have hle := h.length_le
      rw [List.length_append, List.length_singleton] at hle
      rw [length_start]
      omega
    have hstart := (holds_start path []).mpr rfl
    exact ⟨first, rfl, (holds_onward hlen).mpr ⟨[], List.nil_prefix, hstart⟩⟩

/-- A slash and whatever follows lead to the end of a path. -/
theorem atEnd_behind_slash (hlen : s.length = path.length + 1) :
    (s.step path (· = slash)).onward.atEnd = true ↔
      ∃ first behind, path = first ++ slash :: behind ∧ s.Holds first := by
  have hstep := (length_step path (· = slash) hlen).trans hlen
  rw [atEnd_iff ((length_onward _).trans hstep), holds_onward (by omega)]
  constructor
  · rintro ⟨upTo, hupTo, hslash⟩
    obtain ⟨first, rfl, hs⟩ := (holds_step_byte slash hupTo).mp hslash
    obtain ⟨behind, hpath⟩ := hupTo
    exact ⟨first, behind, by simpa using hpath.symm, hs⟩
  · rintro ⟨first, behind, hpath, hs⟩
    have hupTo : first ++ [slash] <+: path := ⟨behind, by simp [hpath]⟩
    exact ⟨_, hupTo, (holds_step_byte slash hupTo).mpr ⟨first, rfl, hs⟩⟩

end

end Places

open Places

theorem move_literals (path : List UInt8) (s : Places) (name : Text) (ts : List Token) :
    move path s (name.map .literal ++ ts) = move path (s.steps path (Utf8.encode name)) ts := by
  induction name generalizing s with
  | nil => rfl
  | cons c name ih =>
    have hc : move path s (.literal c :: (name.map .literal ++ ts)) =
        move path (s.steps path (String.utf8EncodeChar c)) (name.map .literal ++ ts) := rfl
    rw [List.map_cons, List.cons_append, hc, ih, steps, steps, steps, ← List.foldl_append]
    rfl

/-- The glob of what is below a directory with a name. -/
def below (name : Text) : Glob :=
  ⟨.leading :: (name.map .literal ++ [.trailing])⟩

/-- What such a glob matches has the name and a slash in it, at its beginning or behind a slash. -/
theorem matches_below (name path : Text) :
    (below name).matches path = true ↔
      ∃ before behind, Utf8.encode path = before ++ Utf8.encode name ++ slash :: behind ∧
        (before = [] ∨ ∃ first, before = first ++ [slash]) := by
  let bytes := Utf8.encode path
  let behindName := (nameStarts bytes).steps bytes (Utf8.encode name)
  have hlen : behindName.length = bytes.length + 1 :=
    (length_steps bytes _ (length_nameStarts bytes)).trans (length_nameStarts bytes)
  have hmatches : (below name).matches path =
      (behindName.step bytes (· = slash)).onward.atEnd := by
    unfold Glob.matches
    split
    · -- Two stars alone are a case of their own, but here a name follows.
      next hsingle => simp [below] at hsingle
    · exact congrArg atEnd (move_literals bytes (nameStarts bytes) name [.trailing])
  rw [hmatches, atEnd_behind_slash hlen]
  constructor
  · rintro ⟨upTo, behind, hbytes, hbehind⟩
    have hupTo : upTo <+: bytes := ⟨_, hbytes.symm⟩
    obtain ⟨before, rfl, hs⟩ := (holds_steps _ hupTo).mp hbehind
    have hbefore := (List.prefix_append before _).trans hupTo
    exact ⟨before, behind, hbytes, (holds_nameStarts hbefore).mp hs⟩
  · rintro ⟨before, behind, hbytes, hname⟩
    have hupTo : before ++ Utf8.encode name <+: bytes := ⟨_, hbytes.symm⟩
    have hbefore := (List.prefix_append before _).trans hupTo
    have hs := (holds_nameStarts hbefore).mpr hname
    exact ⟨_, behind, hbytes, (holds_steps _ hupTo).mpr ⟨before, rfl, hs⟩⟩

end Glob

namespace Settings

/-- The names of the directories that are left out by default. -/
def excludedDirs : List Text :=
  [".git".toList, "target".toList, "node_modules".toList]

theorem ofText_defaultExcludes :
    defaultExcludes.map Glob.ofText = excludedDirs.map fun name => .ok (Glob.below name) := rfl

theorem someMatches_defaultExcludes (path : Text) :
    Glob.SomeMatches defaultExcludes path ↔
      ∃ name ∈ excludedDirs, (Glob.below name).matches path = true := by
  constructor
  · rintro ⟨pattern, hp, glob, hg, hm⟩
    have hmem : Glob.ofText pattern ∈ defaultExcludes.map Glob.ofText := List.mem_map_of_mem hp
    rw [ofText_defaultExcludes] at hmem
    obtain ⟨name, hname, he⟩ := List.mem_map.mp hmem
    obtain rfl : Glob.below name = glob := Except.ok.inj (he.trans hg)
    exact ⟨name, hname, hm⟩
  · rintro ⟨name, hname, hm⟩
    have hmem : Except.ok (Glob.below name) ∈ defaultExcludes.map Glob.ofText := by
      rw [ofText_defaultExcludes]
      exact List.mem_map_of_mem hname
    obtain ⟨pattern, hp, he⟩ := List.mem_map.mp hmem
    exact ⟨pattern, hp, _, he, hm⟩

end Settings

namespace Glob

/-- In the characters of a path: the name stands at its beginning or behind a slash, and a slash
follows. -/
theorem matches_below_iff (name path : Text) :
    (below name).matches path = true ↔
      ∃ before behind, path = before ++ name ++ '/' :: behind ∧
        (before = [] ∨ ∃ first, before = first ++ ['/']) := by
  have hslash : String.utf8EncodeChar '/' = [slash] := rfl
  have hascii : slash.toNat < 0x80 := by decide
  rw [matches_below]
  constructor
  · rintro ⟨before, behind, hpath, hbefore⟩
    obtain ⟨upTo, more, rfl, hupTo, -⟩ := Utf8.exists_split_of_encode hslash hascii hpath
    rcases hbefore with rfl | ⟨first, rfl⟩
    · obtain rfl : upTo = name := Utf8.encode_injective hupTo
      exact ⟨[], more, rfl, .inl rfl⟩
    · rw [List.append_assoc, List.singleton_append] at hupTo
      obtain ⟨dirs, last, rfl, -, hlast⟩ := Utf8.exists_split_of_encode hslash hascii hupTo
      obtain rfl : last = name := Utf8.encode_injective hlast
      exact ⟨dirs ++ ['/'], more, by simp, .inr ⟨dirs, rfl⟩⟩
  · rintro ⟨before, behind, rfl, hbefore⟩
    have hcons : ∀ t, Utf8.encode ('/' :: t) = slash :: Utf8.encode t := fun _ => rfl
    refine ⟨Utf8.encode before, Utf8.encode behind, ?_, ?_⟩
    · rw [Utf8.encode_append, Utf8.encode_append, hcons]
    · rcases hbefore with rfl | ⟨first, rfl⟩
      · exact .inl rfl
      · exact .inr ⟨Utf8.encode first, Utf8.encode_append first ['/']⟩

/-- A path with the name on it is matched, unless the name is the last. -/
theorem matches_below_joined (dirs : List Text) (name : Text) (hmore : more ≠ []) :
    (below name).matches (joinWith ['/'] (dirs ++ name :: more)) = true := by
  have hbehind : joinWith ['/'] (name :: more) = name ++ ['/'] ++ joinWith ['/'] more :=
    joinWith_append ['/'] (List.cons_ne_nil name []) hmore
  rw [matches_below_iff]
  by_cases hdirs : dirs = []
  · subst hdirs
    exact ⟨[], joinWith ['/'] more, by simp [hbehind], .inl rfl⟩
  · refine ⟨joinWith ['/'] dirs ++ ['/'], joinWith ['/'] more, ?_, .inr ⟨_, rfl⟩⟩
    rw [joinWith_append ['/'] hdirs (List.cons_ne_nil name more), hbehind]
    simp

/-- In the names on a path: one of them, and not the last, is the name of the glob. -/
theorem matches_below_iff_names (hname : '/' ∉ name) (path : Text) :
    (below name).matches path = true ↔
      ∃ dirs more, splitOn '/' path = dirs ++ name :: more ∧ more ≠ [] := by
  have hne : ∀ t, splitOn '/' t ≠ [] := by
    intro t
    rw [splitOn_eq]
    exact List.splitOn_ne_nil '/' t
  constructor
  · intro h
    obtain ⟨before, behind, rfl, hbefore⟩ := (matches_below_iff name path).mp h
    rcases hbefore with rfl | ⟨first, rfl⟩
    · refine ⟨[], splitOn '/' behind, ?_, hne behind⟩
      rw [splitOn_append, List.nil_append, splitOn_of_not_mem hname]
      rfl
    · refine ⟨splitOn '/' first, splitOn '/' behind, ?_, hne behind⟩
      rw [splitOn_append, List.append_assoc, List.singleton_append, splitOn_append,
        splitOn_of_not_mem hname]
      simp
  · rintro ⟨dirs, more, hsplit, hmore⟩
    rw [← joinWith_splitOn '/' path, hsplit]
    exact matches_below_joined dirs name hmore

end Glob

/-- A path from the root that leads through a directory left out by default. -/
def Location.InExcluded (rel : Location) : Prop :=
  ∃ dirs name more, rel = dirs ++ name :: more ∧ name ∈ Settings.excludedDirs ∧ more ≠ []

namespace Location.InExcluded

variable {rel : Location}

theorem append (h : rel.InExcluded) (more : Location) : InExcluded (rel ++ more) := by
  obtain ⟨dirs, name, rest, rfl, hname, hrest⟩ := h
  exact ⟨dirs, name, rest ++ more, by simp, hname, by simp [hrest]⟩

/-- What is in such a directory is matched by a default glob. -/
theorem someMatches (h : rel.InExcluded) :
    Glob.SomeMatches Settings.defaultExcludes (joinWith ['/'] rel) := by
  obtain ⟨dirs, name, more, rfl, hname, hmore⟩ := h
  exact (Settings.someMatches_defaultExcludes _).mpr
    ⟨name, hname, Glob.matches_below_joined dirs name hmore⟩

end Location.InExcluded

namespace Location

variable {rel : Location}

/-- One of the names on the path, and not the last, is that of such a directory. -/
theorem inExcluded_iff : rel.InExcluded ↔ ∃ name ∈ rel.dropLast, name ∈ Settings.excludedDirs := by
  constructor
  · rintro ⟨dirs, name, more, rfl, hname, hmore⟩
    refine ⟨name, ?_, hname⟩
    rw [List.dropLast_append_of_ne_nil (List.cons_ne_nil name more),
      List.dropLast_cons_of_ne_nil hmore]
    simp
  · rintro ⟨name, hmem, hname⟩
    have hne : rel ≠ [] := by
      rintro rfl
      simp at hmem
    obtain ⟨dirs, more, hsplit⟩ := List.append_of_mem hmem
    have hlast := List.dropLast_append_getLast hne
    rw [hsplit] at hlast
    exact ⟨dirs, name, more ++ [rel.getLast hne], by simpa using hlast.symm, hname, by simp⟩

/-- Nothing else is matched by one, where no name on the path has a slash in it. -/
theorem someMatches_iff_inExcluded (h : ∀ name ∈ rel, '/' ∉ name) :
    Glob.SomeMatches Settings.defaultExcludes (joinWith ['/'] rel) ↔ rel.InExcluded := by
  constructor
  · intro hsome
    obtain ⟨name, hname, hmatch⟩ := (Settings.someMatches_defaultExcludes _).mp hsome
    have hnames : ∀ name ∈ Settings.excludedDirs, '/' ∉ name := by decide
    obtain ⟨dirs, more, hsplit, hmore⟩ :=
      (Glob.matches_below_iff_names (hnames name hname) _).mp hmatch
    by_cases hrel : rel = []
    · -- The empty path has one part, which is its last.
      subst hrel
      have hlen : 1 = (dirs ++ name :: more).length := congrArg List.length hsplit
      have hpos := List.length_pos_of_ne_nil hmore
      simp only [List.length_append, List.length_cons] at hlen
      omega
    · rw [splitOn_joinWith h hrel] at hsplit
      exact ⟨dirs, name, more, hsplit, hname, hmore⟩
  · exact InExcluded.someMatches

end Location

namespace Project

/-- The globs of what is left out by default can be put together. One of them matches a path just
if a name on it other than the last is that of a directory left out. -/
theorem defaultExcludes_match_directories :
    ∃ globs, readGlobs Settings.defaultExcludes = .ok globs ∧
      ∀ rel : Location, (∀ name ∈ rel, IsName name) →
        (globs.any (·.matches (joinWith ['/'] rel)) = true ↔
          ∃ name ∈ rel.dropLast, name ∈ Settings.excludedDirs) := by
  obtain ⟨globs, hglobs⟩ := readGlobs_ok_iff.mpr valid_defaultExcludes
  refine ⟨globs, hglobs, fun rel hrel => ?_⟩
  rw [any_matches_iff hglobs, Location.someMatches_iff_inExcluded fun name hn => (hrel name hn).2]
  exact Location.inExcluded_iff

/-- A directory twice on the path with a line feed in the name between, and a path that has such
names only as its last or as parts of longer ones. -/
theorem defaultExcludes_match_directories_lookalikes :
    (∀ name ∈ ["target".toList, "a\nb".toList, "target".toList, "x.js".toList], IsName name) ∧
    (∀ name ∈ [".github".toList, "my target".toList, ".git\n".toList, "target".toList],
      IsName name) ∧
    ∃ globs, readGlobs Settings.defaultExcludes = .ok globs ∧
      globs.any (·.matches "target/a\nb/target/x.js".toList) = true ∧
      globs.any (·.matches ".github/my target/.git\n/target".toList) = false := by
  have hdeep : ∀ name ∈ ["target".toList, "a\nb".toList, "target".toList, "x.js".toList],
      IsName name := by decide
  have hlike : ∀ name ∈ [".github".toList, "my target".toList, ".git\n".toList, "target".toList],
      IsName name := by decide
  obtain ⟨globs, hglobs, hmatch⟩ := defaultExcludes_match_directories
  refine ⟨hdeep, hlike, globs, hglobs, ?_, ?_⟩
  · exact (hmatch _ hdeep).mpr (by decide)
  · rw [← Bool.not_eq_true]
    exact fun h => absurd ((hmatch _ hlike).mp h) (by decide)

end Project

end CodeNotes
