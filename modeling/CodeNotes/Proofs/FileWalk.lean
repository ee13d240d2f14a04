import CodeNotes.Proofs.PathTexts
/-!
What a walk finds that passes over links: each file of the tree once, with the names on the way
to it. It comes through when the path to each directory can be read.
-/
namespace CodeNotes.Walk

/-- The way to a location below the place that a way has come to. -/
def Way.along (way : Way) (rel : Location) : Way :=
  rel.foldl Way.onTo way

theorem Way.along_eq (way : Way) (rel : Location) :
    way.along rel = ⟨way.names ++ rel, Path.along way.path rel⟩ := by
  induction rel generalizing way with
  | nil => simp [along, Path.along]
  | cons name rel ih =>
    have h := ih (way.onTo name)
    simpa [along, Path.along, Way.onTo] using h

/-- The path to each directory of a tree can be read. -/
def Readable (path : Text) (t : Tree) : Prop :=
  ∀ rel entries, t.at? rel = some (.dir entries) → Path.isTooLong (Path.along path rel) = false

/-- The files found are those of a tree, each once. -/
structure Finds (way : Way) (t : Tree) (found : List Found) : Prop where
  mem_iff : ∀ f, f ∈ found ↔
    ∃ rel bytes, t.at? rel = some (.file bytes) ∧ f = ⟨way.along rel, bytes⟩
  once : (found.map (·.way.names)).Nodup

section

variable {way : Way} {t : Tree} {entries : List (Text × Tree)} {loc : Location} {name : Text}
  {first others found : List Found} {around : List Visited}

theorem finds_file (way : Way) (bytes : List UInt8) : Finds way (.file bytes) [⟨way, bytes⟩] where
  mem_iff f := by
    constructor
    · intro hf
      exact ⟨[], bytes, rfl, List.mem_singleton.mp hf⟩
    · rintro ⟨rel, b, hb, rfl⟩
      obtain ⟨rfl, he⟩ := Tree.at?_file.mp hb
      obtain rfl := Tree.file.inj he
      simp [Way.along]
  once := by simp

theorem finds_link (way : Way) (target : Text) : Finds way (.link target) [] where
  mem_iff f := by
    simp only [List.not_mem_nil, false_iff]
    rintro ⟨rel, b, hb, -⟩
    cases rel <;> simp [Tree.at?] at hb
  once := by simp

theorem finds_empty (way : Way) : Finds way (.dir []) [] where
  mem_iff f := by
    simp only [List.not_mem_nil, false_iff]
    rintro ⟨rel, b, hb, -⟩
    simpa using (Tree.at?_empty.mp hb).2
  once := by simp

theorem Finds.cons (hfirst : Finds (way.onTo name) t first)
    (hothers : Finds way (.dir entries) others) (hname : name ∉ entries.map (·.1)) :
    Finds way (.dir ((name, t) :: entries)) (first ++ others) := by
  have hdiff : ∀ rel bytes, (Tree.dir entries).at? rel = some (.file bytes) →
      ∃ m rest, rel = m :: rest ∧ name ≠ m := by
    intro rel bytes hrel
    cases rel with
    | nil => simp [Tree.at?_nil] at hrel
    | cons m rest =>
      obtain ⟨below, hb, -⟩ := Option.bind_eq_some_iff.mp hrel
      refine ⟨m, rest, rfl, ?_⟩
      rintro rfl
      exact hname (List.mem_map.mpr ⟨_, Tree.mem_of_entryNamed hb, rfl⟩)
  constructor
  · intro f
    rw [List.mem_append, hfirst.mem_iff, hothers.mem_iff]
    constructor
    · rintro (⟨rel, bytes, hb, rfl⟩ | ⟨rel, bytes, hb, rfl⟩)
      · exact ⟨name :: rel, bytes, by rw [Tree.at?_dir_cons, if_pos rfl, hb], rfl⟩
      · obtain ⟨m, rest, rfl, hm⟩ := hdiff rel bytes hb
        exact ⟨m :: rest, bytes, by rw [Tree.at?_dir_cons, if_neg hm, hb], rfl⟩
    · rintro ⟨rel, bytes, hb, rfl⟩
      cases rel with
      | nil => simp [Tree.at?_nil] at hb
      | cons m rel =>
        rw [Tree.at?_dir_cons] at hb
        split at hb
        · next hm => exact .inl ⟨rel, bytes, hb, by rw [hm]; rfl⟩
        · exact .inr ⟨m :: rel, bytes, hb, rfl⟩
  · rw [List.map_append]
    refine List.nodup_append.mpr ⟨hfirst.once, hothers.once, ?_⟩
    intro ns hns ms hms he
    obtain ⟨f, hf, rfl⟩ := List.mem_map.mp hns
    obtain ⟨g, hg, rfl⟩ := List.mem_map.mp hms
    obtain ⟨rel, bytes, -, rfl⟩ := (hfirst.mem_iff f).mp hf
    obtain ⟨rel', bytes', hb, rfl⟩ := (hothers.mem_iff g).mp hg
    obtain ⟨m, rest, rfl, hm⟩ := hdiff rel' bytes' hb
    simp only [Way.along_eq, Way.onTo, List.append_assoc, List.append_cancel_left_eq,
      List.singleton_append, List.cons.injEq] at he
    exact hm he.1

theorem finds_of_visitEntries (unique : (entries.map (·.1)).Nodup)
    (hvisit : ∀ e ∈ entries, ∀ around way loc found,
      visit passOver around way loc e.2 = .ok found → Finds way e.2 found)
    (h : visitEntries passOver around way loc entries = .ok found) :
    Finds way (.dir entries) found := by
  induction entries generalizing found with
  | nil =>
    obtain rfl := Except.ok.inj h
    exact finds_empty way
  | cons e entries ih =>
    obtain ⟨name, t⟩ := e
    obtain ⟨hname, unique⟩ := List.nodup_cons.mp unique
    rw [visitEntries] at h
    cases hfirst : visit passOver around (way.onTo name) (loc ++ [name]) t with
    | error e => simp [hfirst, bind, Except.bind] at h
    | ok first =>
      cases hothers : visitEntries passOver around way loc entries with
      | error e => simp [hfirst, hothers, bind, Except.bind] at h
      | ok others =>
        simp only [hfirst, hothers, bind, Except.bind, pure, Except.pure, Except.ok.injEq] at h
        subst h
        exact (hvisit _ List.mem_cons_self _ _ _ _ hfirst).cons
          (ih unique (fun e he => hvisit e (List.mem_cons_of_mem _ he)) hothers) hname

theorem finds_of_visit (hp : t.Proper) (h : visit passOver around way loc t = .ok found) :
    Finds way t found := by
  induction hp generalizing around way loc found with
  | file bytes =>
    obtain rfl := Except.ok.inj h
    exact finds_file way bytes
  | link target =>
    obtain rfl := Except.ok.inj h
    exact finds_link way target
  | @dir entries names unique below ih =>
    rw [visit] at h
    split at h
    · simp at h
    · exact finds_of_visitEntries unique (fun e he _ _ _ _ hv => ih e he hv) h

theorem visitEntries_ok_iff {onLink : OnLink} :
    (∃ found, visitEntries onLink around way loc entries = .ok found) ↔
      ∀ e ∈ entries,
        ∃ found, visit onLink around (way.onTo e.1) (loc ++ [e.1]) e.2 = .ok found := by
  induction entries with
  | nil => simp [visitEntries]
  | cons e entries ih =>
    rw [List.forall_mem_cons, ← ih, visitEntries]
    cases visit onLink around (way.onTo e.1) (loc ++ [e.1]) e.2 with
    | error _ => simp [bind, Except.bind]
    | ok first =>
      cases visitEntries onLink around way loc entries <;>
        simp [bind, Except.bind, pure, Except.pure]

theorem readable_dir_iff (unique : (entries.map (·.1)).Nodup) :
    Readable path (.dir entries) ↔
      Path.isTooLong path = false ∧ ∀ e ∈ entries, Readable (Path.join path e.1) e.2 := by
  constructor
  · intro h
    refine ⟨h [] entries rfl, ?_⟩
    rintro ⟨name, t⟩ he rel below hrel
    refine h (name :: rel) below ?_
    rw [Tree.at?_dir, Tree.entryNamed_of_mem unique he]
    exact hrel
  · rintro ⟨hpath, hbelow⟩ rel below hrel
    cases rel with
    | nil => exact hpath
    | cons name rel =>
      obtain ⟨t, ht, hrel⟩ := Option.bind_eq_some_iff.mp hrel
      exact hbelow _ (Tree.mem_of_entryNamed ht) rel below hrel

/-- A walk over a tree comes through just when it can read all directories. -/
theorem visit_ok_iff (hp : t.Proper) (around : List Visited) (way : Way) (loc : Location) :
    (∃ found, visit passOver around way loc t = .ok found) ↔ Readable way.path t := by
  induction hp generalizing around way loc with
  | file bytes =>
    simp only [visit, Except.ok.injEq, exists_eq', true_iff]
    intro rel entries hrel
    simp [Tree.at?_file] at hrel
  | link target =>
    simp only [visit, passOver, Except.ok.injEq, exists_eq', true_iff]
    intro rel entries hrel
    cases rel <;> simp [Tree.at?] at hrel
  | @dir entries names unique below ih =>
    rw [readable_dir_iff unique, visit]
    by_cases hlong : Path.isTooLong way.path = true
    · simp [hlong]
    · rw [if_neg hlong, visitEntries_ok_iff]
      simp only [Bool.not_eq_true] at hlong
      simp only [hlong, true_and]
      exact forall₂_congr fun e he => ih e he _ _ _

end

end CodeNotes.Walk
