import CodeNotes.Tree
/-!
Well-formed trees, and what a file changes that is put where there was nothing: all other
files and links stay, directories stay directories, and paths lead where they led.
-/
namespace CodeNotes

/-- A name that an entry may have. -/
def IsName (name : Text) : Prop :=
  name ≠ [] ∧ '/' ∉ name

instance (name : Text) : Decidable (IsName name) :=
  inferInstanceAs (Decidable (_ ∧ _))

namespace Tree

/-- Entries have names, and no two entries of a directory the same one. -/
inductive Proper : Tree → Prop
  | file (bytes : List UInt8) : Proper (.file bytes)
  | link (target : Text) : Proper (.link target)
  | dir {entries : List (Text × Tree)} (names : ∀ e ∈ entries, IsName e.1)
      (unique : (entries.map (·.1)).Nodup) (below : ∀ e ∈ entries, Proper e.2) :
      Proper (.dir entries)

section

variable {t t' u new : Tree} {name : Text} {loc rest : Location} {entries : List (Text × Tree)}

theorem mem_of_entryNamed (h : entryNamed name entries = some t) : (name, t) ∈ entries := by
  induction entries with
  | nil => simp [entryNamed] at h
  | cons e entries ih =>
    by_cases he : e.1 = name
    · simp only [entryNamed, he, if_true, Option.some.injEq] at h
      simp [← he, ← h]
    · simp only [entryNamed, he, if_false] at h
      exact List.mem_cons_of_mem e (ih h)

theorem entryNamed_of_mem (unique : (entries.map (·.1)).Nodup) (h : (name, t) ∈ entries) :
    entryNamed name entries = some t := by
  induction entries with
  | nil => simp at h
  | cons e entries ih =>
    obtain ⟨he, unique⟩ := List.nodup_cons.mp unique
    rcases List.mem_cons.mp h with rfl | h
    · simp [entryNamed]
    · have hne : e.1 ≠ name := by
        rintro rfl
        exact he (List.mem_map.mpr ⟨_, h, rfl⟩)
      rw [entryNamed, if_neg hne]
      exact ih unique h

theorem entryNamed_eq_none_iff : entryNamed name entries = none ↔ name ∉ entries.map (·.1) := by
  induction entries with
  | nil => simp [entryNamed]
  | cons e entries ih =>
    by_cases he : e.1 = name
    · simp [entryNamed, he]
    · simp [entryNamed, he, Ne.symm he, ih]

theorem at?_nil (t : Tree) : t.at? [] = some t := rfl

theorem at?_dir (entries : List (Text × Tree)) (name : Text) (loc : Location) :
    (dir entries).at? (name :: loc) = (entryNamed name entries).bind (at? · loc) := rfl

theorem at?_dir_cons (name : Text) (t : Tree) (entries : List (Text × Tree)) (m : Text)
    (rel : Location) :
    (dir ((name, t) :: entries)).at? (m :: rel) =
      if name = m then t.at? rel else (dir entries).at? (m :: rel) := by
  rw [at?_dir, at?_dir, entryNamed]
  split <;> rfl

theorem at?_append (t : Tree) (loc rest : Location) :
    t.at? (loc ++ rest) = (t.at? loc).bind (at? · rest) := by
  induction loc generalizing t with
  | nil => rfl
  | cons name loc ih =>
    cases t with
    | file bytes => rfl
    | link target => rfl
    | dir entries =>
      rw [List.cons_append, at?_dir, at?_dir]
      cases entryNamed name entries with
      | none => rfl
      | some t => exact ih t

theorem at?_file : (file bytes).at? loc = some t ↔ loc = [] ∧ t = .file bytes := by
  cases loc <;> simp [at?, eq_comm]

/-- Only directories have anything below them. -/
theorem dir_of_at?_cons (h : t.at? (name :: loc) = some u) :
    ∃ entries below, t = .dir entries ∧ entryNamed name entries = some below ∧
      below.at? loc = some u := by
  cases t with
  | file bytes => simp [at?] at h
  | link target => simp [at?] at h
  | dir entries =>
    obtain ⟨below, hb, hu⟩ := Option.bind_eq_some_iff.mp h
    exact ⟨entries, below, rfl, hb, hu⟩

theorem names_of_at? (hp : t.Proper) (h : t.at? loc = some u) : ∀ name ∈ loc, IsName name := by
  induction loc generalizing t with
  | nil => simp
  | cons name loc ih =>
    obtain ⟨entries, below, rfl, hb, hu⟩ := dir_of_at?_cons h
    cases hp with
    | dir names unique proper =>
      have hm := mem_of_entryNamed hb
      intro n hn
      rcases List.mem_cons.mp hn with rfl | hn
      · exact names _ hm
      · exact ih (proper _ hm) hu n hn

theorem entryNamed_replaced (name : Text) (new : Tree) (entries : List (Text × Tree)) (m : Text) :
    entryNamed m (entries.map fun (n, t) => if n = name then (n, new) else (n, t)) =
      (entryNamed m entries).map fun t => if m = name then new else t := by
  induction entries with
  | nil => rfl
  | cons e entries ih =>
    simp only [List.map_cons]
    by_cases hm : e.1 = m
    · by_cases hn : m = name <;> simp [entryNamed, hm, hn]
    · by_cases hn : e.1 = name
      · simpa [entryNamed, hn, hn ▸ hm] using ih
      · simpa [entryNamed, hn, hm] using ih

theorem entryNamed_putEntry (name : Text) (new : Tree) (entries : List (Text × Tree)) (m : Text) :
    entryNamed m (putEntry name new entries) =
      if m = name then some new else entryNamed m entries := by
  unfold putEntry
  split
  · next hs =>
    obtain ⟨t, ht⟩ := Option.isSome_iff_exists.mp hs
    rw [entryNamed_replaced]
    by_cases hm : m = name <;> simp [hm, ht]
  · by_cases hm : m = name
    · simp [entryNamed, hm]
    · simp [entryNamed, hm, Ne.symm hm]

theorem names_putEntry (name : Text) (new : Tree) (entries : List (Text × Tree)) :
    (putEntry name new entries).map (·.1) =
      if name ∈ entries.map (·.1) then entries.map (·.1) else name :: entries.map (·.1) := by
  have hmap : (entries.map fun (n, t) => if n = name then (n, new) else (n, t)).map (·.1) =
      entries.map (·.1) := by
    rw [List.map_map]
    refine List.map_congr_left fun e _ => ?_
    by_cases he : e.1 = name <;> simp [he]
  unfold putEntry
  split
  · next hs =>
    have hm : name ∈ entries.map (·.1) := by
      obtain ⟨t, ht⟩ := Option.isSome_iff_exists.mp hs
      exact List.mem_map.mpr ⟨_, mem_of_entryNamed ht, rfl⟩
    rw [hmap, if_pos hm]
  · next hs =>
    have hm : name ∉ entries.map (·.1) :=
      entryNamed_eq_none_iff.mp (by simpa using hs)
    rw [if_neg hm, List.map_cons]

theorem mem_putEntry (h : e ∈ putEntry name new entries) : e = (name, new) ∨ e ∈ entries := by
  unfold putEntry at h
  split at h
  · obtain ⟨d, hd, rfl⟩ := List.mem_map.mp h
    by_cases hn : d.1 = name
    · simp [hn]
    · simp [hn, hd]
  · simpa using h

/-- What stands on the way to a location is a directory. -/
def OpenTo (t : Tree) (loc : Location) : Prop :=
  ∀ dir, dir <+: loc → dir ≠ loc → ∀ u, t.at? dir = some u → ∃ entries, u = .dir entries

theorem OpenTo.isDir (h : t.OpenTo (name :: loc)) : ∃ entries, t = .dir entries :=
  h [] List.nil_prefix (by simp) t rfl

theorem OpenTo.below (h : (dir entries).OpenTo (name :: loc))
    (hu : entryNamed name entries = some u) : u.OpenTo loc := by
  intro dir hd hne v hv
  refine h (name :: dir) (List.cons_prefix_cons.mpr ⟨rfl, hd⟩) (by simpa using hne) v ?_
  simpa [at?_dir, hu] using hv

theorem at?_empty : (dir []).at? loc = some u ↔ loc = [] ∧ u = dir [] := by
  cases loc <;> simp [at?, entryNamed, eq_comm]

/-- Nothing is at a location, and a directory is wherever something is on the way. -/
structure Free (t : Tree) (loc : Location) : Prop where
  fresh : t.at? loc = none
  openTo : t.OpenTo loc

/-- A free location below a subtree is free in it. -/
theorem Free.subtree (h : t.Free (loc ++ rest)) (hu : t.at? loc = some u) : u.Free rest where
  fresh := by simpa [at?_append, hu] using h.fresh
  openTo dir hd hne v hv :=
    h.openTo (loc ++ dir) ((List.prefix_append_right_inj loc).mpr hd) (by simpa using hne) v
      (by simpa [at?_append, hu] using hv)

/-- Files and links stay, and directories stay directories. -/
def Grows (t t' : Tree) : Prop :=
  ∀ loc u, t.at? loc = some u →
    t'.at? loc = some u ∨ ∃ entries entries', u = .dir entries ∧ t'.at? loc = some (.dir entries')

theorem Grows.isDir (h : t.Grows t') (hloc : t.at? loc = some (dir entries)) :
    ∃ entries', t'.at? loc = some (dir entries') := by
  rcases h loc _ hloc with h' | ⟨_, entries', -, h'⟩
  · exact ⟨entries, h'⟩
  · exact ⟨entries', h'⟩

theorem put_dir (new : Tree) (name : Text) (loc : Location) (entries : List (Text × Tree)) :
    put new (name :: loc) (dir entries) =
      dir (putEntry name (put new loc ((entryNamed name entries).getD (dir []))) entries) := rfl

theorem at?_put_dir (new : Tree) (name : Text) (loc : Location) (entries : List (Text × Tree))
    (m : Text) (l : Location) :
    (put new (name :: loc) (dir entries)).at? (m :: l) =
      if m = name then (put new loc ((entryNamed name entries).getD (dir []))).at? l
      else (dir entries).at? (m :: l) := by
  rw [put_dir, at?_dir, entryNamed_putEntry, at?_dir]
  by_cases hm : m = name <;> simp [hm]

theorem at?_put (new : Tree) (loc rest : Location) (t : Tree) :
    (put new loc t).at? (loc ++ rest) = new.at? rest := by
  induction loc generalizing t with
  | nil => rfl
  | cons name loc ih => simp [put, at?_dir, entryNamed_putEntry, ih]

/-- Putting below a subtree is putting into it. -/
theorem at?_put_below (h : t.at? loc = some u) (new : Tree) (rest : Location) :
    (put new (loc ++ rest) t).at? loc = some (put new rest u) := by
  induction loc generalizing t with
  | nil =>
    obtain rfl := Option.some.inj h
    rfl
  | cons name loc ih =>
    obtain ⟨entries, below, rfl, hb, hu⟩ := dir_of_at?_cons h
    rw [List.cons_append, at?_put_dir, if_pos rfl, hb]
    exact ih hu

theorem grows_put (new : Tree) (h : t.Free loc) : t.Grows (put new loc t) := by
  induction loc generalizing t with
  | nil => exact absurd h.fresh (by simp [at?_nil])
  | cons name loc ih =>
    obtain ⟨entries, rfl⟩ := h.openTo.isDir
    intro l u hu
    cases l with
    | nil =>
      rw [at?_nil, Option.some.injEq] at hu
      exact .inr ⟨entries, _, hu.symm, rfl⟩
    | cons m l =>
      rw [at?_put_dir]
      by_cases hm : m = name
      · subst hm
        obtain ⟨below, hb, hl⟩ := Option.bind_eq_some_iff.mp hu
        rw [if_pos rfl, hb]
        exact ih ⟨by simpa [at?_dir, hb] using h.fresh, h.openTo.below hb⟩ l u hl
      · rw [if_neg hm]
        exact .inl hu

/-- Whatever is at a location after a tree was put was put there, or is a directory on the way,
or was there before. -/
theorem of_at?_put (h : t.OpenTo loc) (hu : (put new loc t).at? l = some u) :
    (∃ rest, l = loc ++ rest ∧ new.at? rest = some u) ∨
      (l <+: loc ∧ l ≠ loc ∧ ∃ entries, u = .dir entries) ∨ t.at? l = some u := by
  induction loc generalizing t l with
  | nil => exact .inl ⟨l, rfl, hu⟩
  | cons name loc ih =>
    obtain ⟨entries, rfl⟩ := h.isDir
    cases l with
    | nil =>
      rw [put_dir, at?_nil, Option.some.injEq] at hu
      exact .inr (.inl ⟨List.nil_prefix, by simp, _, hu.symm⟩)
    | cons m l =>
      rw [at?_put_dir] at hu
      by_cases hm : m = name
      · subst hm
        rw [if_pos rfl] at hu
        have hopen : ((entryNamed m entries).getD (dir [])).OpenTo loc := by
          cases hb : entryNamed m entries with
          | some below => exact h.below hb
          | none =>
            intro dir _ _ u hu
            exact ⟨[], (at?_empty.mp hu).2⟩
        rcases ih hopen hu with ⟨rest, rfl, hr⟩ | ⟨hp, hne, hd⟩ | hold
        · exact .inl ⟨rest, rfl, hr⟩
        · exact .inr (.inl ⟨List.cons_prefix_cons.mpr ⟨rfl, hp⟩, by simpa using hne, hd⟩)
        · cases hb : entryNamed m entries with
          | some below => exact .inr (.inr (by simpa [at?_dir, hb] using hold))
          | none =>
            -- The directory that was made has nothing in it but the way on.
            rw [hb] at hold
            obtain ⟨rfl, rfl⟩ := at?_empty.mp hold
            cases loc with
            | nil => exact .inl ⟨[], rfl, by simpa [put] using hu⟩
            | cons n loc => exact .inr (.inl ⟨by simp, by simp, [], rfl⟩)
      · rw [if_neg hm] at hu
        exact .inr (.inr hu)

theorem Proper.putEntry (h : (Tree.dir entries).Proper) (hname : IsName name)
    (hnew : new.Proper) : (Tree.dir (putEntry name new entries)).Proper := by
  cases h with
  | dir names unique below =>
    refine .dir ?_ ?_ ?_
    · intro e he
      rcases mem_putEntry he with he | he
      · exact he ▸ hname
      · exact names e he
    · rw [names_putEntry]
      split
      · exact unique
      · next hn => exact List.nodup_cons.mpr ⟨hn, unique⟩
    · intro e he
      rcases mem_putEntry he with he | he
      · exact he ▸ hnew
      · exact below e he

theorem proper_empty : (dir []).Proper :=
  .dir (by simp) (by simp) (by simp)

theorem Proper.cons (h : (Tree.dir entries).Proper) (hnew : new.Proper) (hname : IsName name)
    (hfresh : name ∉ entries.map (·.1)) : (Tree.dir ((name, new) :: entries)).Proper := by
  have hnone : (entryNamed name entries).isSome = false := by
    simp [entryNamed_eq_none_iff.mpr hfresh]
  simpa [Tree.putEntry, hnone] using h.putEntry hname hnew

theorem Proper.put (h : t.Proper) (hnew : new.Proper) (hloc : ∀ name ∈ loc, IsName name) :
    (Tree.put new loc t).Proper := by
  induction loc generalizing t with
  | nil => exact hnew
  | cons name loc ih =>
    obtain ⟨hname, hloc⟩ := List.forall_mem_cons.mp hloc
    cases h with
    | file bytes => exact proper_empty.putEntry hname (ih proper_empty hloc)
    | link target => exact proper_empty.putEntry hname (ih proper_empty hloc)
    | @dir entries names unique below =>
      refine (Proper.dir names unique below).putEntry hname (ih ?_ hloc)
      cases hb : entryNamed name entries with
      | none => exact proper_empty
      | some u => exact below _ (mem_of_entryNamed hb)

end

end Tree

namespace Path

variable {top top' t t' : Tree} {loc loc' dir : Location} {name path : Text} {ns : List Text}
  {links : Nat} {entries : List (Text × Tree)}

theorem advance_here (hloc : top.at? loc = some (.dir entries)) (ns : List Text) :
    advance top loc (here :: ns) = advance top loc ns := by
  simp [advance, hloc]

theorem advance_up (hloc : top.at? loc = some (.dir entries)) (ns : List Text) :
    advance top loc (up :: ns) = advance top loc.dropLast ns := by
  have hne : up ≠ here := by decide
  simp [advance, hloc, hne]

/-- A name that is neither `.` nor `..` leads into an entry. -/
theorem advance_entry (hloc : top.at? loc = some (.dir entries)) (hhere : name ≠ here)
    (hup : name ≠ up) (hlimit : ¬ nameLimit < byteSize name) (ns : List Text) :
    advance top loc (name :: ns) =
      match top.at? (loc ++ [name]) with
      | none => .failed .missing
      | some (.link target) => .linked loc target ns
      | some _ => advance top (loc ++ [name]) ns := by
  have hentry : top.at? (loc ++ [name]) = Tree.entryNamed name entries := by
    simp [Tree.at?_append, hloc, Tree.at?_dir, Tree.at?_nil]
  rw [hentry]
  cases hu : Tree.entryNamed name entries with
  | none => simp [advance, hloc, hhere, hup, hlimit, hu]
  | some u => cases u <;> simp [advance, hloc, hhere, hup, hlimit, hu]

theorem dir_of_advance (hok : ∀ e, advance top loc (name :: ns) ≠ .failed e) :
    ∃ entries, top.at? loc = some (.dir entries) := by
  cases h : top.at? loc with
  | none => simp [advance, h] at hok
  | some u =>
    cases u with
    | dir entries => exact ⟨entries, rfl⟩
    | file bytes => simp [advance, h] at hok
    | link target => simp [advance, h] at hok

theorem advance_grows (h : top.Grows top') (hok : ∀ e, advance top loc ns ≠ .failed e) :
    advance top' loc ns = advance top loc ns := by
  induction ns generalizing loc with
  | nil => rfl
  | cons name ns ih =>
    obtain ⟨entries, hloc⟩ := dir_of_advance hok
    obtain ⟨entries', hloc'⟩ := h.isDir hloc
    by_cases hhere : name = here
    · subst hhere
      rw [advance_here hloc] at hok ⊢
      rw [advance_here hloc']
      exact ih hok
    by_cases hup : name = up
    · subst hup
      rw [advance_up hloc] at hok ⊢
      rw [advance_up hloc']
      exact ih hok
    by_cases hlimit : nameLimit < byteSize name
    · simp [advance, hloc, hhere, hup, hlimit] at hok
    rw [advance_entry hloc hhere hup hlimit] at hok ⊢
    rw [advance_entry hloc' hhere hup hlimit]
    cases hu : top.at? (loc ++ [name]) with
    | none => simp [hu] at hok
    | some u =>
      simp only [hu] at hok
      cases u with
      | dir below =>
        obtain ⟨below', hu'⟩ := h.isDir hu
        simpa [hu'] using ih hok
      | file bytes =>
        have hu' : top'.at? (loc ++ [name]) = some (.file bytes) := by simpa using h _ _ hu
        simpa [hu'] using ih hok
      | link target =>
        have hu' : top'.at? (loc ++ [name]) = some (.link target) := by simpa using h _ _ hu
        simp [hu']

theorem follow_grows (h : top.Grows top') (hok : follow top links loc ns = .ok loc') :
    follow top' links loc ns = .ok loc' := by
  fun_induction follow top links loc ns with
  | case1 links loc ns l ha =>
    unfold follow
    rw [advance_grows h (by simp [ha]), ha]
    exact hok
  | case2 links loc ns e ha => cases hok
  | case3 loc ns dir target rest ha => cases hok
  | case4 loc ns dir target rest ha links ih =>
    unfold follow
    rw [advance_grows h (by simp [ha]), ha]
    exact ih hok

theorem find_eq_ok_iff :
    find top dir path = .ok (loc, t) ↔ locate top dir path = .ok loc ∧ top.at? loc = some t := by
  unfold find
  cases locate top dir path with
  | error e => simp [bind, Except.bind]
  | ok l =>
    cases hl : top.at? l with
    | none =>
      simp [bind, Except.bind, hl]
      rintro rfl
      simp [hl]
    | some u =>
      simp [bind, Except.bind, hl]
      rintro rfl
      simp [hl]

/-- A path leads where it led. -/
theorem find_grows (h : top.Grows top') (hok : find top dir path = .ok (loc, t))
    (ht : top'.at? loc = some t') : find top' dir path = .ok (loc, t') := by
  rw [find_eq_ok_iff] at hok ⊢
  refine ⟨?_, ht⟩
  have hloc := hok.1
  unfold locate at hloc ⊢
  split at hloc
  · simp at hloc
  · next hne =>
    rw [if_neg hne]
    split at hloc
    · simp at hloc
    · next hlong =>
      rw [if_neg hlong]
      exact follow_grows h hloc

end Path
end CodeNotes
