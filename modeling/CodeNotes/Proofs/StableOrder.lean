import CodeNotes.Board
import CodeNotes.Proofs.DateTokens
/-!
What sorting a board by a key gives. The orders of the keys are stated without the
comparison that the sort uses; of all arrangements of the board the sorted view is the one
that follows the order and leaves ties as they were found.
-/
namespace CodeNotes

/-- A comparison that puts some values in a line, where values may tie. -/
structure TotalPreorderOn (cmp : α → α → Ordering) (xs : List α) : Prop where
  swap : ∀ a ∈ xs, ∀ b ∈ xs, cmp b a = (cmp a b).swap
  trans : ∀ a ∈ xs, ∀ b ∈ xs, ∀ c ∈ xs, (cmp a b).isLE → (cmp b c).isLE → (cmp a c).isLE

theorem TotalPreorderOn.of_map {cmp : α → α → Ordering} {f : β → α} {ys : List β}
    (h : TotalPreorderOn cmp (ys.map f)) :
    TotalPreorderOn (fun a b => cmp (f a) (f b)) ys where
  swap _ ha _ hb := h.swap _ (List.mem_map_of_mem ha) _ (List.mem_map_of_mem hb)
  trans _ ha _ hb _ hc := h.trans _ (List.mem_map_of_mem ha) _ (List.mem_map_of_mem hb) _
    (List.mem_map_of_mem hc)

section Sorting

variable {cmp : α → α → Ordering} {xs : List α} (h : TotalPreorderOn cmp xs)

/-- Sorting a list looks at its own members only. -/
theorem map_mergeSort_attach (le : α → α → Bool) (xs : List α) :
    (xs.attach.mergeSort fun a b => le a.1 b.1).map Subtype.val = xs.mergeSort le := by
  rw [List.map_mergeSort (s := le) (fun _ _ _ _ => rfl), List.attach_map_subtype_val]

include h

theorem trans_attach (a b c : { x // x ∈ xs }) :
    (cmp a.1 b.1).isLE = true → (cmp b.1 c.1).isLE = true → (cmp a.1 c.1).isLE = true :=
  h.trans _ a.2 _ b.2 _ c.2

theorem total_attach (a b : { x // x ∈ xs }) :
    ((cmp a.1 b.1).isLE || (cmp b.1 a.1).isLE) = true := by
  rw [h.swap _ a.2 _ b.2]
  cases cmp a.1 b.1 <;> rfl

theorem pairwise_mergeSort_of_preorder :
    (xs.mergeSort fun a b => (cmp a b).isLE).Pairwise fun a b => (cmp a b).isLE := by
  rw [← map_mergeSort_attach, List.pairwise_map]
  exact List.pairwise_mergeSort (trans_attach h) (total_attach h) _

/-- Two members that are in order stay so. -/
theorem pair_sublist_mergeSort_of_preorder (hab : (cmp a b).isLE) (hs : [a, b].Sublist xs) :
    [a, b].Sublist (xs.mergeSort fun a b => (cmp a b).isLE) := by
  have hmem : ∀ x ∈ [a, b], x ∈ xs := fun x hx => hs.subset hx
  have hattach : [(⟨a, hmem a (by simp)⟩ : { x // x ∈ xs }), ⟨b, hmem b (by simp)⟩].Sublist
      xs.attach := by
    rw [← List.attach_map_subtype_val xs] at hs
    obtain ⟨pair, hpair, he⟩ := List.sublist_map_iff.mp hs
    match pair, he with
    | [x, y], he =>
      simp only [List.map_cons, List.map_nil, List.cons.injEq] at he
      obtain ⟨rfl, rfl, -⟩ := he
      exact hpair
  rw [← map_mergeSort_attach]
  exact (List.pair_sublist_mergeSort (trans_attach h) (total_attach h) hab hattach).map Subtype.val

end Sorting

/-- Without repetitions two members stand in one order only. -/
theorem not_pair_sublist_swap {xs : List α} (hn : xs.Nodup) (hab : [a, b].Sublist xs) :
    ¬ [b, a].Sublist xs := by
  induction xs with
  | nil => simp at hab
  | cons x xs ih =>
    obtain ⟨hx, hn⟩ := List.nodup_cons.mp hn
    intro hba
    rcases List.sublist_cons_iff.mp hab with hab' | ⟨_, he, hb⟩
    · rcases List.sublist_cons_iff.mp hba with hba' | ⟨_, he', -⟩
      · exact ih hn hab' hba'
      · obtain ⟨rfl, -⟩ := List.cons.inj he'
        exact hx (hab'.subset (by simp))
    · obtain ⟨rfl, rfl⟩ := List.cons.inj he
      rcases List.sublist_cons_iff.mp hba with hba' | ⟨_, he', ha⟩
      · exact hx (hba'.subset (by simp))
      · obtain ⟨rfl, rfl⟩ := List.cons.inj he'
        exact hx (ha.subset (by simp))

theorem compareDays_swap (a b : Option Day) : compareDays b a = (compareDays a b).swap := by
  cases a <;> cases b <;> simp only [compareDays, Ordering.swap]
  exact Std.OrientedOrd.eq_swap

theorem compareDays_trans (hab : (compareDays a b).isLE) (hbc : (compareDays b c).isLE) :
    (compareDays a c).isLE := by
  cases a <;> cases b <;> cases c <;> simp only [compareDays] at * <;> try contradiction
  all_goals first | rfl | exact Std.TransOrd.isLE_trans hbc hab

namespace SortKey

/-- The order that a key stands for: more exclamation marks first, later days first and tasks
without a day last, users by their names and tasks without a user last. -/
def Before : SortKey → Task → Task → Prop
  | .importance, a, b => b.rank < a.rank
  | .user, a, b => a.user ≠ [] ∧ (b.user = [] ∨ compareUsers a.user b.user = .lt)
  | .date, a, b => ∃ day, a.day? = some day ∧ ∀ day', b.day? = some day' → day' < day

def Ties (key : SortKey) (a b : Task) : Prop :=
  ¬ key.Before a b ∧ ¬ key.Before b a

theorem compare_eq_lt_iff (key : SortKey) (a b : Task) :
    key.compare a b = .lt ↔ key.Before a b := by
  cases key with
  | importance => exact Nat.compare_eq_lt
  | user =>
    simp only [SortKey.compare, Before]
    cases ha : a.user <;> cases hb : b.user <;> simp [compareUsers]
  | date =>
    simp only [SortKey.compare, Before]
    cases ha : a.day? <;> cases hb : b.day? <;> simp [compareDays]
    exact Int.compare_eq_lt

/-- The comparison of each key puts tasks in a line; only that of users has to be asked. -/
theorem preorder (key : SortKey) (tasks : List Task)
    (hu : key = .user → TotalPreorderOn compareUsers (tasks.map Task.user)) :
    TotalPreorderOn key.compare tasks := by
  cases key with
  | importance =>
    refine ⟨fun _ _ _ _ => Std.OrientedOrd.eq_swap, fun _ _ _ _ _ _ hab hbc => ?_⟩
    exact Std.TransOrd.isLE_trans hbc hab
  | user => exact (hu rfl).of_map
  | date =>
    exact ⟨fun _ _ _ _ => compareDays_swap _ _, fun _ _ _ _ _ _ => compareDays_trans⟩

end SortKey

/-- What puts a row before another: the order of the key or, where that ties, their
positions. -/
def Row.Precedes (key : SortKey) (r s : Row) : Prop :=
  key.Before r.task s.task ∨ key.Ties r.task s.task ∧ r.position < s.position

namespace Board

/-- A view that has each position of the board once, every row before those that it
precedes. -/
structure Arranges (board : Board) (key : SortKey) (view : View) : Prop where
  rows : ∀ row ∈ view, board.tasks[row.position]? = some row.task
  positions : (view.map Row.position).Perm (List.range board.tasks.length)
  ordered : view.Pairwise (Row.Precedes key)

def rowAt? (board : Board) (i : Nat) : Option Row :=
  board.tasks[i]?.map (Row.mk i)

theorem eq_filterMap_positions {board : Board} (view : View)
    (h : ∀ row ∈ view, board.tasks[row.position]? = some row.task) :
    view = (view.map Row.position).filterMap board.rowAt? := by
  induction view with
  | nil => rfl
  | cons row view ih =>
    have hrow : board.rowAt? row.position = some row := by
      rw [rowAt?, h row (by simp)]
      rfl
    rw [List.map_cons, List.filterMap_cons_some hrow, ← ih (fun r hr => h r (by simp [hr]))]

theorem task_of_mem_rows {board : Board} (h : row ∈ board.rows) :
    board.tasks[row.position]? = some row.task := by
  obtain ⟨i, hi, rfl⟩ := List.mem_mapIdx.mp h
  exact List.getElem?_eq_getElem hi

theorem positions_rows (board : Board) :
    board.rows.map Row.position = List.range board.tasks.length := by
  exact List.ext_getElem (by simp [rows]) (by simp [rows])

theorem perm_rows_iff {board : Board} {view : View} :
    view.Perm board.rows ↔
      (∀ row ∈ view, board.tasks[row.position]? = some row.task) ∧
        (view.map Row.position).Perm (List.range board.tasks.length) := by
  constructor
  · intro h
    refine ⟨fun row hr => task_of_mem_rows (h.mem_iff.mp hr), ?_⟩
    rw [← positions_rows]
    exact h.map Row.position
  · rintro ⟨hrows, hpos⟩
    rw [eq_filterMap_positions view hrows,
      eq_filterMap_positions board.rows (fun _ h => task_of_mem_rows h), positions_rows]
    exact hpos.filterMap _

theorem rows_pairwise (board : Board) :
    board.rows.Pairwise fun r s => r.position < s.position := by
  rw [← List.pairwise_map (f := Row.position) (R := (· < ·)), positions_rows]
  exact List.pairwise_lt_range

/-- Of two rows of a board the one with the lower position stands first. -/
theorem pair_sublist_rows {board : Board} (hr : r ∈ board.rows) (hs : s ∈ board.rows)
    (h : r.position < s.position) : [r, s].Sublist board.rows := by
  have hpairs : ∀ view : View, view.Pairwise (fun r s => r.position < s.position) →
      r ∈ view → s ∈ view → [r, s].Sublist view := by
    intro view
    induction view with
    | nil => simp
    | cons row view ih =>
      intro hview hr hs
      obtain ⟨hrow, hview⟩ := List.pairwise_cons.mp hview
      rcases List.mem_cons.mp hr with rfl | hr'
      · rcases List.mem_cons.mp hs with rfl | hs'
        · omega
        · exact (List.singleton_sublist.mpr hs').cons_cons r
      · rcases List.mem_cons.mp hs with rfl | hs'
        · have := hrow r hr'
          omega
        · exact (ih hview hr' hs').cons row
  exact hpairs board.rows (rows_pairwise board) hr hs

theorem tasks_rows (board : Board) : board.rows.map Row.task = board.tasks :=
  List.ext_getElem (by simp [rows]) (by simp [rows])

/-- The comparison of a key on the rows of a board. -/
theorem preorder_rows (board : Board) (key : SortKey)
    (hu : key = .user → TotalPreorderOn compareUsers (board.tasks.map Task.user)) :
    TotalPreorderOn (fun r s : Row => key.compare r.task s.task) board.rows := by
  have h := key.preorder board.tasks hu
  rw [← board.tasks_rows] at h
  exact h.of_map

theorem sorted_perm (board : Board) (key : SortKey) : (board.sorted key).Perm board.rows :=
  List.mergeSort_perm _ _

/-- Rows in the sorted view follow the order of the key, and where they tie their
positions: the sort keeps such a pair as it found it. -/
theorem sorted_pairwise {board : Board} {key : SortKey}
    (h : TotalPreorderOn (fun r s : Row => key.compare r.task s.task) board.rows) :
    (board.sorted key).Pairwise (Row.Precedes key) := by
  apply List.pairwise_iff_forall_sublist.mpr
  intro r s hrs
  have hr : r ∈ board.rows := (sorted_perm board key).mem_iff.mp (hrs.subset (by simp))
  have hs : s ∈ board.rows := (sorted_perm board key).mem_iff.mp (hrs.subset (by simp))
  have hle := List.pairwise_iff_forall_sublist.mp (pairwise_mergeSort_of_preorder h) hrs
  have hswap := h.swap r hr s hs
  rw [Row.Precedes, SortKey.Ties, ← key.compare_eq_lt_iff, ← key.compare_eq_lt_iff, hswap]
  cases hc : key.compare r.task s.task with
  | lt => exact .inl rfl
  | gt => simp [hc] at hle
  | eq =>
    refine .inr ⟨⟨by simp, by simp⟩, ?_⟩
    have hnodup : (board.sorted key).Nodup := by
      refine (sorted_perm board key).symm.nodup ?_
      exact (rows_pairwise board).imp fun h he => by simp [he] at h
    have hne : r ≠ s := List.pairwise_iff_forall_sublist.mp hnodup hrs
    rcases Nat.lt_trichotomy r.position s.position with hlt | heq | hgt
    · exact hlt
    · have htask := task_of_mem_rows hr
      rw [heq, task_of_mem_rows hs, Option.some.injEq] at htask
      obtain ⟨p, t⟩ := r
      obtain ⟨q, u⟩ := s
      simp_all
    · have hle' : (key.compare s.task r.task).isLE := by simp [hswap, hc]
      have hsr := pair_sublist_mergeSort_of_preorder h hle' (pair_sublist_rows hs hr hgt)
      exact absurd hrs (not_pair_sublist_swap hnodup hsr)

/-- No two rows precede each other. -/
theorem precedes_asymm {board : Board} {key : SortKey}
    (h : TotalPreorderOn (fun r s : Row => key.compare r.task s.task) board.rows)
    (hr : r ∈ board.rows) (hs : s ∈ board.rows) (hrs : r.Precedes key s) :
    ¬ s.Precedes key r := by
  have hswap := h.swap r hr s hs
  rw [Row.Precedes, SortKey.Ties, ← key.compare_eq_lt_iff, ← key.compare_eq_lt_iff] at hrs ⊢
  rw [hswap] at hrs ⊢
  cases hc : key.compare r.task s.task <;> simp_all
  omega

/-- The sorted view is the one arrangement of the whole board that follows the key and keeps
ties as they were found. Tasks without a date, or with a date that the calendar lacks, have
no day. -/
theorem arranges_iff_sorted (board : Board) (key : SortKey)
    (hu : key = .user → TotalPreorderOn compareUsers (board.tasks.map Task.user)) :
    (∀ view, board.Arranges key view ↔ view = board.sorted key) ∧
    ∀ note, (Task.ofNote note).day? = none ↔
      (Task.ofNote note).date = [] ∨ NoSuchDay (Task.ofNote note).date := by
  refine ⟨fun view => ?_, Task.day?_eq_none_iff⟩
  have h := preorder_rows board key hu
  constructor
  · rintro ⟨hrows, hpos, hord⟩
    have hperm : view.Perm board.rows := perm_rows_iff.mpr ⟨hrows, hpos⟩
    refine List.Perm.eq_of_pairwise ?_ hord (sorted_pairwise h)
      (hperm.trans (sorted_perm board key).symm)
    intro r s hr hs hrs hsr
    exact absurd hsr (precedes_asymm h (hperm.mem_iff.mp hr)
      ((sorted_perm board key).mem_iff.mp hs) hrs)
  · rintro rfl
    obtain ⟨hrows, hpos⟩ := perm_rows_iff.mp (sorted_perm board key)
    exact ⟨hrows, hpos, sorted_pairwise h⟩

/-- Two tasks of one user, whose name has an accent, and one task without a user. -/
theorem arranges_iff_sorted_users :
    TotalPreorderOn compareUsers [['é'], ['b'], [], ['é']] ∧
    ∀ view,
      (ofNotes [⟨[], ['é', ';']⟩, ⟨[], ['b', ';']⟩, ⟨[], ['!']⟩, ⟨[], ['é', ';', 'x']⟩]).Arranges
          .user view ↔
        view = (ofNotes [⟨[], ['é', ';']⟩, ⟨[], ['b', ';']⟩, ⟨[], ['!']⟩,
          ⟨[], ['é', ';', 'x']⟩]).sorted .user :=
  have hu : TotalPreorderOn compareUsers [['é'], ['b'], [], ['é']] :=
    ⟨by decide +kernel, by decide +kernel⟩
  ⟨hu, (arranges_iff_sorted
    (ofNotes [⟨[], ['é', ';']⟩, ⟨[], ['b', ';']⟩, ⟨[], ['!']⟩, ⟨[], ['é', ';', 'x']⟩]) .user
    (fun _ => hu)).1⟩

end Board

end CodeNotes
