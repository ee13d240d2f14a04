import CodeNotes.Proofs.SortedFilters
import CodeNotes.Proofs.WholeTexts
/-!
The order of users. It is oriented but not transitive, for some names that differ tie while others
come between them; among names that are compared as wholes it puts all in a line. Where it does,
the tasks of users that tie stand together in the view sorted by users.
-/
namespace CodeNotes

section

variable {cmp : α → α → Ordering} {xs : List α} {a b c : α}

/-- What is not behind another member is on the same side of a third one, or before it. -/
theorem TotalPreorderOn.sides (h : TotalPreorderOn cmp xs) (ha : a ∈ xs) (hb : b ∈ xs) (hc : c ∈ xs)
    (hab : (cmp a b).isLE) :
    (cmp b c = .lt → cmp a c = .lt) ∧ (cmp a c = .gt → cmp b c = .gt) := by
  constructor
  · intro hbc
    have hle : (cmp a c).isLE := h.trans a ha b hb c hc hab (by rw [hbc]; rfl)
    cases hac : cmp a c with
    | lt => rfl
    | gt => simp [hac] at hle
    | eq =>
      have hca : (cmp c a).isLE := by rw [h.swap a ha c hc, hac]; rfl
      have hcb := h.trans c hc a ha b hb hca hab
      simp [h.swap b hb c hc, hbc] at hcb
  · intro hac
    cases hbc : cmp b c with
    | gt => rfl
    | lt => simpa [hac] using h.trans a ha b hb c hc hab (by rw [hbc]; rfl)
    | eq => simpa [hac] using h.trans a ha b hb c hc hab (by rw [hbc]; rfl)

theorem TotalPreorderOn.eq_of_ties (h : TotalPreorderOn cmp xs) (ha : a ∈ xs) (hb : b ∈ xs)
    (hc : c ∈ xs) (hac : cmp a c = .eq) (hbc : cmp b c = .eq) : cmp a b = .eq := by
  have hle : (cmp a b).isLE :=
    h.trans a ha c hc b hb (by rw [hac]; rfl) (by rw [h.swap b hb c hc, hbc]; rfl)
  have hge : (cmp b a).isLE :=
    h.trans b hb c hc a ha (by rw [hbc]; rfl) (by rw [h.swap a ha c hc, hac]; rfl)
  rw [h.swap a ha b hb] at hge
  cases hab : cmp a b <;> simp_all

end

/-- Two users of whom one has no name, or whose names are compared as wholes. -/
def ComparedWhole (a b : Text) : Prop :=
  a = [] ∨ b = [] ∨ a = b ∨ Collation.Unabridged a b

theorem compareUsers_of_ne (ha : a ≠ []) (hb : b ≠ []) :
    compareUsers a b = Collation.compareTexts a b := by
  cases a with
  | nil => exact absurd rfl ha
  | cons c a =>
    cases b with
    | nil => exact absurd rfl hb
    | cons d b => rfl

/-- Nothing but an empty name is at or behind an empty one. -/
theorem eq_nil_of_compareUsers_nil (h : (compareUsers [] b).isLE) : b = [] := by
  cases b with
  | nil => rfl
  | cons d b => cases h

theorem isLE_compareUsers_nil (a : Text) : (compareUsers a []).isLE := by
  cases a <;> rfl

theorem compareUsers_self (a : Text) : compareUsers a a = .eq := by
  cases a with
  | nil => rfl
  | cons c a => exact Collation.compareTexts_self (c :: a)

theorem compareUsers_swap (a b : Text) : compareUsers b a = (compareUsers a b).swap := by
  cases a with
  | nil => cases b <;> rfl
  | cons c a =>
    cases b with
    | nil => rfl
    | cons d b => exact Collation.compareTexts_swap (c :: a) (d :: b)

theorem compareUsers_eq_compareWhole (h : ComparedWhole a b) (ha : a ≠ []) (hb : b ≠ []) :
    compareUsers a b = Collation.compareWhole a b := by
  rw [compareUsers_of_ne ha hb]
  rcases h with h | h | rfl | h
  · exact absurd h ha
  · exact absurd h hb
  · exact (Collation.compareTexts_self a).trans Std.ReflCmp.compare_self.symm
  · exact Collation.compareTexts_eq_compareWhole h

theorem compareUsers_trans (hab : ComparedWhole a b) (hbc : ComparedWhole b c)
    (hac : ComparedWhole a c) (h : (compareUsers a b).isLE) (h' : (compareUsers b c).isLE) :
    (compareUsers a c).isLE := by
  by_cases hc : c = []
  · rw [hc]
    exact isLE_compareUsers_nil a
  have hb : b ≠ [] := by
    rintro rfl
    exact hc (eq_nil_of_compareUsers_nil h')
  have ha : a ≠ [] := by
    rintro rfl
    exact hb (eq_nil_of_compareUsers_nil h)
  rw [compareUsers_eq_compareWhole hab ha hb] at h
  rw [compareUsers_eq_compareWhole hbc hb hc] at h'
  rw [compareUsers_eq_compareWhole hac ha hc]
  exact Std.TransCmp.isLE_trans h h'

/-- Names that are all compared as wholes stand in a line. -/
theorem totalPreorderOn_compareUsers {names : List Text}
    (h : ∀ a ∈ names, ∀ b ∈ names, ComparedWhole a b) : TotalPreorderOn compareUsers names where
  swap a _ b _ := compareUsers_swap a b
  trans a ha b hb c hc := compareUsers_trans (h a ha b hb) (h b hb c hc) (h a ha c hc)

/-- Users that tie have names that are decomposed alike. -/
theorem settledForm_eq_of_compareUsers (h : compareUsers a b = .eq) :
    Collation.settledForm a = Collation.settledForm b := by
  cases a with
  | nil =>
    cases b with
    | nil => rfl
    | cons d b => cases h
  | cons c a =>
    cases b with
    | nil => cases h
    | cons d b => exact Collation.settledForm_eq_of_compareTexts h

namespace Board

theorem user_mem_of_mem_rows {board : Board} (h : row ∈ board.rows) :
    row.task.user ∈ board.tasks.map Task.user :=
  List.mem_map_of_mem (List.mem_of_getElem? (task_of_mem_rows h))

section

variable {board : Board} {user : Text}

/-- A user of the board has a view. -/
theorem ofUser_of_mem (h : user ∈ board.tasks.map Task.user) :
    board.ofUser user = .ok (board.rows.filter (·.task.user = user)) := by
  obtain ⟨task, htask, rfl⟩ := List.mem_map.mp h
  obtain ⟨i, hi, rfl⟩ := List.mem_iff_getElem.mp htask
  have hrow : (⟨i, board.tasks[i]⟩ : Row) ∈ board.rows.filter (·.task.user = board.tasks[i].user) :=
    List.mem_filter.mpr ⟨List.mem_mapIdx.mpr ⟨i, hi, rfl⟩, by simp⟩
  exact ofUser_eq_ok_iff.mpr ⟨rfl, List.ne_nil_of_mem hrow⟩

/-- The view sorted by users has first those before a user of the board, then those that tie with
it, then those behind it. -/
theorem sorted_eq_ties (hu : TotalPreorderOn compareUsers (board.tasks.map Task.user))
    (h : user ∈ board.tasks.map Task.user) :
    board.sorted .user =
      (board.sorted .user).filter (fun row => compareUsers row.task.user user = .lt) ++
        board.rows.filter (fun row => compareUsers row.task.user user = .eq) ++
        (board.sorted .user).filter (fun row => compareUsers row.task.user user = .gt) := by
  have hpre := preorder_rows board .user (fun _ => hu)
  have hmem : ∀ row ∈ board.sorted .user, row.task.user ∈ board.tasks.map Task.user :=
    fun row hrow => user_mem_of_mem_rows ((sorted_perm board .user).mem_iff.mp hrow)
  have hties := filter_sorted_of_ties hpre
    (p := fun row => decide (compareUsers row.task.user user = .eq)) <| by
      intro r hr s hs hru hsu
      exact hu.eq_of_ties (user_mem_of_mem_rows hr) (user_mem_of_mem_rows hs) h
        (of_decide_eq_true hru) (of_decide_eq_true hsu)
  rw [← hties]
  refine eq_filter_three ((pairwise_mergeSort_of_preorder hpre).imp_of_mem ?_)
  intro r s hr hs hrs
  exact hu.sides (hmem r hr) (hmem s hs) h hrs

/-- Where the names of a board are in a line, the tasks of users that tie stand together in the
view sorted by users, as they were found. Those of one user do where no other user ties. -/
theorem sorted_groups_user (hu : TotalPreorderOn compareUsers (board.tasks.map Task.user))
    (h : user ∈ board.tasks.map Task.user) :
    ∃ before tied after view,
      board.ofUser user = .ok view ∧ board.sorted .user = before ++ tied ++ after ∧
      (∀ row ∈ before, compareUsers row.task.user user = .lt) ∧
      (∀ row ∈ after, compareUsers row.task.user user = .gt) ∧
      tied = board.rows.filter (fun row => compareUsers row.task.user user = .eq) ∧
      view.Sublist tied ∧
      ((∀ other ∈ board.tasks.map Task.user, compareUsers other user = .eq → other = user) →
        view = tied) := by
  refine ⟨_, _, _, _, ofUser_of_mem h, sorted_eq_ties hu h, ?_, ?_, rfl, ?_, ?_⟩
  · intro row hrow
    exact of_decide_eq_true (List.mem_filter.mp hrow).2
  · intro row hrow
    exact of_decide_eq_true (List.mem_filter.mp hrow).2
  · refine List.monotone_filter_right _ fun row hrow => decide_eq_true ?_
    rw [of_decide_eq_true hrow]
    exact compareUsers_self user
  · intro hties
    refine List.filter_congr fun row hrow => decide_eq_decide.mpr ⟨?_, ?_⟩
    · rintro rfl
      exact compareUsers_self _
    · exact hties _ (user_mem_of_mem_rows hrow)

end

/-- Two spellings of an accented letter that do not tie, one of them twice, and no user. -/
def accentedNotes : List Note :=
  [⟨[], ['é', ';', 'x']⟩, ⟨[], ['e', '\u0301', ';']⟩, ⟨[], ['x']⟩, ⟨[], ['é', ';', 'y']⟩]

theorem sorted_groups_user_accented :
    TotalPreorderOn compareUsers ((ofNotes accentedNotes).tasks.map Task.user) ∧
    ['é'] ∈ (ofNotes accentedNotes).tasks.map Task.user ∧
    (∀ other ∈ (ofNotes accentedNotes).tasks.map Task.user,
      compareUsers other ['é'] = .eq → other = ['é']) ∧
    ∃ before after view, (ofNotes accentedNotes).ofUser ['é'] = .ok view ∧ view.length = 2 ∧
      (ofNotes accentedNotes).sorted .user = before ++ view ++ after := by
  have hu : TotalPreorderOn compareUsers ((ofNotes accentedNotes).tasks.map Task.user) :=
    ⟨by decide +kernel, by decide +kernel⟩
  have hmem : ['é'] ∈ (ofNotes accentedNotes).tasks.map Task.user := by decide +kernel
  have hties : ∀ other ∈ (ofNotes accentedNotes).tasks.map Task.user,
      compareUsers other ['é'] = .eq → other = ['é'] := by decide +kernel
  have hlength : (((ofNotes accentedNotes).rows.filter (·.task.user = ['é']))).length = 2 := by
    decide +kernel
  obtain ⟨before, tied, after, view, hview, hsorted, -, -, -, -, hall⟩ :=
    sorted_groups_user hu hmem
  have hrows := Except.ok.inj (hview.symm.trans (ofUser_of_mem hmem))
  refine ⟨hu, hmem, hties, before, after, view, hview, hrows ▸ hlength, ?_⟩
  rw [hall hties]
  exact hsorted

/-- A syllable, its two letters, and the syllable again. -/
def syllableNotes : List Note :=
  [⟨[], ['\uAC00', ';']⟩, ⟨[], ['\u1100', '\u1161', ';']⟩, ⟨[], ['\uAC00', ';']⟩]

/-- The task of another user stands between the two of one user. -/
theorem sorted_parts_user :
    (ofNotes syllableNotes).tasks.map Task.user =
      [['\uAC00'], ['\u1100', '\u1161'], ['\uAC00']] ∧
    ((ofNotes syllableNotes).ofUser ['\uAC00']).map (List.map Row.position) = .ok [0, 2] ∧
    ((ofNotes syllableNotes).sorted .user).map Row.position = [0, 1, 2] := by
  have hmem : ['\uAC00'] ∈ (ofNotes syllableNotes).tasks.map Task.user := by decide +kernel
  have hsorted : (ofNotes syllableNotes).sorted .user = (ofNotes syllableNotes).rows :=
    List.mergeSort_of_pairwise (by decide +kernel)
  refine ⟨by decide +kernel, ?_, ?_⟩
  · rw [ofUser_of_mem hmem]
    exact congrArg Except.ok (by decide +kernel)
  · rw [hsorted, positions_rows]
    rfl

end Board

end CodeNotes
