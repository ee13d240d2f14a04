import CodeNotes.Project
import CodeNotes.Proofs.FileTree
import CodeNotes.Proofs.TextParts
import CodeNotes.Proofs.Utf8
/-!
The texts of paths: the path that a walk makes of the names it passes, the last name and the
extension that are read off it, and the order of paths by their bytes.
-/
namespace CodeNotes

namespace Path

/-- The path to a location below a root. -/
def along (root : Text) (rel : Location) : Text :=
  rel.foldl join root

theorem along_append (root : Text) (rel more : Location) :
    along root (rel ++ more) = along (along root rel) more :=
  List.foldl_append

theorem along_concat (root : Text) (dir : Location) (name : Text) :
    along root (dir ++ [name]) = join (along root dir) name :=
  along_append root dir [name]

theorem join_eq (path name : Text) : ∃ before, join path name = before ++ '/' :: name := by
  unfold join
  split
  · next hl =>
    obtain ⟨before, rfl⟩ := List.getLast?_eq_some_iff.mp hl
    exact ⟨before, by simp⟩
  · exact ⟨path, rfl⟩

theorem byteSize_le_join (path name : Text) :
    byteSize path + byteSize name ≤ byteSize (join path name) := by
  unfold join
  split
  · exact Nat.le_of_eq byteSize_append.symm
  · rw [byteSize_append, byteSize_cons]
    omega

theorem byteSize_le_along (root : Text) (rel : Location) :
    byteSize root ≤ byteSize (along root rel) := by
  induction rel generalizing root with
  | nil => exact Nat.le_refl _
  | cons name rel ih =>
    have hjoin := byteSize_le_join root name
    exact Nat.le_trans (by omega) (ih (join root name))

/-- Paths get longer on the way down. -/
theorem isTooLong_of_prefix (h : rel <+: rel') (hlong : isTooLong (along root rel) = true) :
    isTooLong (along root rel') = true := by
  obtain ⟨more, rfl⟩ := h
  have hle := byteSize_le_along (along root rel) more
  simp only [isTooLong, decide_eq_true_eq, along_append] at hlong ⊢
  omega

theorem names_append_name (h : IsName name) (before : Text) :
    names (before ++ '/' :: name) = (splitOn '/' before).filter (· ≠ []) ++ [name] := by
  have hlast : (before ++ '/' :: name).getLast? ≠ some '/' := by
    rw [List.getLast?_append, List.getLast?_cons, List.getLast?_eq_some_getLast h.1]
    intro hl
    exact h.2 (Option.some.inj hl ▸ List.getLast_mem h.1)
  rw [names, splitOn_append, splitOn_of_not_mem h.2, if_neg hlast]
  simp [h.1]

end Path

namespace Project

theorem lastName_join (path : Text) (h : IsName name) : lastName (Path.join path name) = name := by
  obtain ⟨before, hj⟩ := Path.join_eq path name
  rw [lastName, hj, Path.names_append_name h]
  simp

theorem lastName_along (root : Text) (dir : Location) (h : IsName name) :
    lastName (Path.along root (dir ++ [name])) = name := by
  rw [Path.along_concat, lastName_join _ h]

theorem extension?_of_no_dot (h : '.' ∉ name) : extension? name = none := by
  rw [extension?, splitOn_of_not_mem h]
  rfl

theorem extension?_dot (h : '.' ∉ ext) (stem : Text) :
    extension? (stem ++ '.' :: ext) = if stem = [] then none else some ext := by
  rw [extension?, splitOn_append, splitOn_of_not_mem h, List.reverse_append]
  cases hs : (splitOn '.' stem).reverse with
  | nil =>
    rw [List.reverse_eq_nil_iff, splitOn_eq] at hs
    exact absurd hs (List.splitOn_ne_nil '.' stem)
  | cons before others =>
    have hstem : stem = joinWith ['.'] (before :: others).reverse := by
      rw [← hs, List.reverse_reverse, joinWith_splitOn]
    have hempty : before = [] ∧ others = [] ↔ stem = [] := by
      constructor
      · rintro ⟨rfl, rfl⟩
        exact hstem
      · rintro rfl
        simpa [splitOn] using hs.symm
    simp only [List.reverse_singleton, List.singleton_append, hempty]

theorem exists_last_dot (h : '.' ∈ name) : ∃ stem ext, name = stem ++ '.' :: ext ∧ '.' ∉ ext := by
  obtain ⟨ext, stem, he, hext⟩ := List.eq_append_cons_of_mem (List.mem_reverse.mpr h)
  refine ⟨stem.reverse, ext.reverse, ?_, by simpa using hext⟩
  rw [← List.reverse_reverse name, he]
  simp

theorem extension?_eq_some_iff :
    extension? name = some ext ↔ ∃ stem, name = stem ++ '.' :: ext ∧ stem ≠ [] ∧ '.' ∉ ext := by
  constructor
  · intro h
    by_cases hdot : '.' ∈ name
    · obtain ⟨stem, ext', rfl, hext⟩ := exists_last_dot hdot
      rw [extension?_dot hext] at h
      split at h
      · simp at h
      · next hstem =>
        obtain rfl := Option.some.inj h
        exact ⟨stem, rfl, hstem, hext⟩
    · rw [extension?_of_no_dot hdot] at h
      simp at h
  · rintro ⟨stem, rfl, hstem, hext⟩
    rw [extension?_dot hext, if_neg hstem]

end Project

/-- The bytes of a path from the root, by which files are ordered. -/
def Location.bytes (rel : Location) : List UInt8 :=
  Utf8.encode (joinWith ['/'] rel)

namespace Location

theorem splitOn_names {rel : Location} (h : ∀ name ∈ rel, IsName name) (hne : rel ≠ []) :
    splitOn '/' (joinWith ['/'] rel) = rel :=
  splitOn_joinWith (fun name hn => (h name hn).2) hne

theorem eq_nil_of_joined {rel : Location} (h : ∀ name ∈ rel, IsName name)
    (he : joinWith ['/'] rel = []) : rel = [] := by
  by_cases hne : rel = []
  · exact hne
  · have hs := splitOn_names h hne
    rw [he] at hs
    exact absurd rfl (h [] (by simp [← hs, splitOn])).1

theorem bytes_injective {rel rel' : Location} (h : ∀ name ∈ rel, IsName name)
    (h' : ∀ name ∈ rel', IsName name) (he : rel.bytes = rel'.bytes) : rel = rel' := by
  have hjoin : joinWith ['/'] rel = joinWith ['/'] rel' := Utf8.encode_injective he
  by_cases hne : rel = []
  · subst hne
    exact (eq_nil_of_joined h' hjoin.symm).symm
  by_cases hne' : rel' = []
  · subst hne'
    exact eq_nil_of_joined h hjoin
  rw [← splitOn_names h hne, hjoin, splitOn_names h' hne']

end Location

theorem compare_bytes_eq_lt_iff {a b : List UInt8} : compare a b = .lt ↔ a < b := by
  induction a generalizing b with
  | nil => cases b <;> simp
  | cons x a ih =>
    cases b with
    | nil => simp
    | cons y b =>
      rw [List.compare_cons_cons, List.cons_lt_cons_iff, ← ih, Ordering.then_eq_lt,
        Std.compare_eq_lt, Std.compare_eq_iff_eq]

theorem bytes_trichotomy (a b : List UInt8) : a < b ∨ a = b ∨ b < a := by
  simp only [← compare_bytes_eq_lt_iff]
  rw [Std.OrientedOrd.eq_swap (a := b)]
  cases h : compare a b with
  | lt => exact .inl rfl
  | eq => exact .inr (.inl (Std.LawfulEqOrd.eq_of_compare h))
  | gt => exact .inr (.inr rfl)

namespace Project

theorem pathLE_trans (a b c : Text) (hab : pathLE a b = true) (hbc : pathLE b c = true) :
    pathLE a c = true :=
  Std.TransOrd.isLE_trans hab hbc

theorem pathLE_total (a b : Text) : (pathLE a b || pathLE b a) = true := by
  unfold pathLE
  rw [Std.OrientedOrd.eq_swap (a := Utf8.encode b)]
  cases compare (Utf8.encode a) (Utf8.encode b) <;> rfl

theorem lt_of_pathLE (h : pathLE a b = true) (hne : a ≠ b) : Utf8.encode a < Utf8.encode b := by
  rw [← compare_bytes_eq_lt_iff]
  unfold pathLE at h
  cases hc : compare (Utf8.encode a) (Utf8.encode b) with
  | lt => rfl
  | eq => exact absurd (Utf8.encode_injective (Std.LawfulEqOrd.eq_of_compare hc)) hne
  | gt => simp [hc] at h

end Project

end CodeNotes
