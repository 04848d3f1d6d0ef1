import Mathlib.Data.List.Sort
import Mathlib.Data.Int.Order.Basic

/-! # A table with an `AUTOINCREMENT` key

`SqlTable α` is a table `(id INTEGER PRIMARY KEY AUTOINCREMENT, item)`, its rows in no particular order. `sequence` is
its entry in `sqlite_sequence`: the largest id ever given. What a query in the order of the ids sees is `items`, and
the statements are lemmas about `items`. An `INSERT` that finds all ids used up is an error of the database, so the
ids here are unbounded. -/

structure SqlTable (α : Type*) where
  rows : List (Int × α)
  sequence : Int
  nodup : (rows.map Prod.fst).Nodup

namespace SqlTable
variable {α : Type*}

/-- `ORDER BY id ASC` -/
def orderById (rows : List (Int × α)) : List (Int × α) := rows.insertionSort fun a b => a.1 ≤ b.1

/-- The key that `AUTOINCREMENT` gives the next row: above every row and above every id given before. -/
def nextId (t : SqlTable α) : Int := t.rows.foldl (fun m r => max m r.1) t.sequence + 1

def ordered (t : SqlTable α) : List (Int × α) := orderById t.rows

def items (t : SqlTable α) : List α := t.ordered.map Prod.snd

def empty : SqlTable α := ⟨[], 0, List.nodup_nil⟩

/-- `SELECT COUNT(*)` -/
def count (t : SqlTable α) : Nat := t.rows.length

/-- `SELECT … ORDER BY id ASC LIMIT n` -/
def select (n : Nat) (t : SqlTable α) : List (Int × α) := t.ordered.take n

theorem foldl_max_le (rows : List (Int × α)) (m : Int) :
    m ≤ rows.foldl (fun m r => max m r.1) m ∧ ∀ r ∈ rows, r.1 ≤ rows.foldl (fun m r => max m r.1) m := by
  induction rows generalizing m with
  | nil => exact ⟨Int.le_refl m, List.forall_mem_nil _⟩
  | cons a rows ih =>
    obtain ⟨hm, hrows⟩ := ih (max m a.1)
    refine ⟨by simp only [List.foldl_cons]; omega, ?_⟩
    intro r hr
    rcases List.mem_cons.1 hr with rfl | hr
    · simp only [List.foldl_cons]
      omega
    · exact hrows r hr

theorem lt_nextId {t : SqlTable α} {r : Int × α} (hr : r ∈ t.rows) : r.1 < t.nextId :=
  Int.lt_add_one_of_le ((foldl_max_le t.rows t.sequence).2 r hr)

/-- `INSERT INTO … (item) VALUES (?)` -/
def insert (item : α) (t : SqlTable α) : SqlTable α where
  rows := t.rows ++ [(t.nextId, item)]
  sequence := t.nextId
  nodup := by
    rw [List.map_append, List.nodup_append]
    refine ⟨t.nodup, List.nodup_singleton _, ?_⟩
    intro i hi j hj hij
    obtain ⟨r, hr, rfl⟩ := List.mem_map.1 hi
    rw [List.map_singleton, List.mem_singleton] at hj
    have := lt_nextId hr
    omega

/-- `DELETE FROM … WHERE id IN ids` -/
def deleteIn (ids : List Int) (t : SqlTable α) : SqlTable α where
  rows := t.rows.filter fun r => r.1 ∉ ids
  sequence := t.sequence
  nodup := t.nodup.sublist (List.filter_sublist.map _)

/-- `DELETE FROM … WHERE id IN (SELECT id FROM … ORDER BY id ASC LIMIT n)` -/
def deleteOldest (n : Nat) (t : SqlTable α) : SqlTable α := t.deleteIn ((t.select n).map Prod.fst)

/-- `DELETE FROM … WHERE p` -/
def deleteWhere (p : α → Bool) (t : SqlTable α) : SqlTable α where
  rows := t.rows.filter fun r => !p r.2
  sequence := t.sequence
  nodup := t.nodup.sublist (List.filter_sublist.map _)

/-! ### The order of the ids -/

theorem ordered_perm (t : SqlTable α) : t.ordered.Perm t.rows := List.perm_insertionSort _ _

theorem ordered_le (t : SqlTable α) : t.ordered.Pairwise fun a b => a.1 ≤ b.1 := by
  have : Std.Total fun a b : Int × α => a.1 ≤ b.1 := ⟨fun a b => Int.le_total a.1 b.1⟩
  have : IsTrans (Int × α) fun a b => a.1 ≤ b.1 := ⟨fun _ _ _ h h' => Int.le_trans h h'⟩
  exact List.pairwise_insertionSort _ _

theorem ordered_nodup (t : SqlTable α) : (t.ordered.map Prod.fst).Nodup :=
  (t.ordered_perm.map Prod.fst).nodup_iff.2 t.nodup

theorem ordered_lt (t : SqlTable α) : t.ordered.Pairwise fun a b => a.1 < b.1 := by
  have hne : t.ordered.Pairwise fun a b => a.1 ≠ b.1 := List.pairwise_map.1 t.ordered_nodup
  exact (t.ordered_le.and hne).imp fun h => by omega

/-- The rows in the order of the ids are determined by which rows there are. -/
theorem ordered_eq {t : SqlTable α} {l : List (Int × α)} (hl : l.Pairwise fun a b => a.1 < b.1)
    (hperm : l.Perm t.rows) : t.ordered = l := by
  refine (t.ordered_perm.trans hperm.symm).eq_of_pairwise ?_ t.ordered_lt hl
  intro a b _ _ hab hba
  omega

@[simp] theorem ordered_length (t : SqlTable α) : t.ordered.length = t.count := t.ordered_perm.length_eq

@[simp] theorem items_length (t : SqlTable α) : t.items.length = t.count := by
  rw [items, List.length_map, ordered_length]

/-! ### The statements -/

theorem ordered_insert (item : α) (t : SqlTable α) : (t.insert item).ordered = t.ordered ++ [(t.nextId, item)] := by
  refine ordered_eq ?_ (t.ordered_perm.append_right _)
  rw [List.pairwise_append]
  refine ⟨t.ordered_lt, List.pairwise_singleton _ _, ?_⟩
  intro a ha b hb
  rw [List.mem_singleton.1 hb]
  exact lt_nextId (t.ordered_perm.mem_iff.1 ha)

@[simp] theorem items_insert (item : α) (t : SqlTable α) : (t.insert item).items = t.items ++ [item] := by
  simp [items, ordered_insert]

theorem ordered_deleteIn (ids : List Int) (t : SqlTable α) :
    (t.deleteIn ids).ordered = t.ordered.filter fun r => r.1 ∉ ids :=
  ordered_eq (t.ordered_lt.filter _) (t.ordered_perm.filter _)

@[simp] theorem items_deleteWhere (p : α → Bool) (t : SqlTable α) :
    (t.deleteWhere p).items = t.items.filter fun a => !p a := by
  have hordered : (t.deleteWhere p).ordered = t.ordered.filter fun r => !p r.2 :=
    ordered_eq (t.ordered_lt.filter _) (t.ordered_perm.filter _)
  rw [items, hordered, items, List.filter_map]
  rfl

/-- What stands behind the first `n` of a list without repeated keys is what has none of their keys. -/
theorem filter_take_eq_drop {l : List (Int × α)} (h : (l.map Prod.fst).Nodup) (n : Nat) :
    l.filter (fun r => r.1 ∉ (l.take n).map Prod.fst) = l.drop n := by
  have hsplit : l.map Prod.fst = (l.take n).map Prod.fst ++ (l.drop n).map Prod.fst := by
    rw [← List.map_append, List.take_append_drop]
  rw [hsplit, List.nodup_append] at h
  obtain ⟨-, -, hdisj⟩ := h
  have htake : (l.take n).filter (fun r => r.1 ∉ (l.take n).map Prod.fst) = [] := by
    rw [List.filter_eq_nil_iff]
    intro r hr
    rw [decide_eq_true_eq, not_not]
    exact List.mem_map_of_mem hr
  have hdrop : (l.drop n).filter (fun r => r.1 ∉ (l.take n).map Prod.fst) = l.drop n := by
    rw [List.filter_eq_self]
    intro r hr
    rw [decide_eq_true_eq]
    intro hmem
    exact hdisj _ hmem _ (List.mem_map_of_mem hr) rfl
  calc l.filter (fun r => r.1 ∉ (l.take n).map Prod.fst)
      = (l.take n ++ l.drop n).filter (fun r => r.1 ∉ (l.take n).map Prod.fst) := by rw [List.take_append_drop]
    _ = l.drop n := by rw [List.filter_append, htake, hdrop, List.nil_append]

theorem ordered_deleteOldest (n : Nat) (t : SqlTable α) : (t.deleteOldest n).ordered = t.ordered.drop n := by
  rw [deleteOldest, ordered_deleteIn]
  exact filter_take_eq_drop t.ordered_nodup n

@[simp] theorem items_deleteOldest (n : Nat) (t : SqlTable α) : (t.deleteOldest n).items = t.items.drop n := by
  rw [items, ordered_deleteOldest, items, List.map_drop]

/-- Deleting the row with the first id. -/
theorem items_deleteIn_first {t : SqlTable α} {r : Int × α} (h : t.select 1 = [r]) :
    (t.deleteIn [r.1]).items = t.items.tail := by
  have := t.items_deleteOldest 1
  rw [deleteOldest, h] at this
  rw [← List.drop_one]
  exact this

theorem items_eq_nil {t : SqlTable α} (h : t.select 1 = []) : t.items = [] := by
  rw [select, List.take_eq_nil_iff] at h
  rcases h with h | h
  · exact absurd h Nat.one_ne_zero
  · rw [items, h, List.map_nil]

theorem items_eq_cons {t : SqlTable α} {r : Int × α} {l : List (Int × α)} (h : t.select 1 = r :: l) :
    l = [] ∧ t.items = r.2 :: t.items.tail := by
  unfold select at h
  unfold items
  cases hrows : t.ordered with
  | nil => rw [hrows] at h; cases h
  | cons a rest =>
    rw [hrows, List.take_succ_cons, List.take_zero] at h
    cases h
    exact ⟨rfl, rfl⟩

end SqlTable
