import Mathlib.Data.List.Basic

/-! # The persistent queue of the daemon (`state/storage.py`)

A table of rows, oldest first, and the number of them that `SqliteDeque` keeps in memory. `_execute` takes any SQLite
error for corruption: it deletes the database, sets the number to zero and runs the statements once more. -/

namespace McuBridge
namespace Daemon

/-- One pass of `_execute` through connect, statements and commit. -/
inductive DbPass where
  | ok
  /-- An `aiosqlite.Error` or `OSError`, before the statements have run or only at the commit. -/
  | raises (atCommit : Bool)
  deriving DecidableEq

/-- What the database does to one call of `_execute`: the two passes, and whether `_recreate_db` between them can
unlink the files. -/
structure DbCall where
  first : DbPass
  unlinks : Bool
  second : DbPass
  deriving DecidableEq

/-- The exceptions of an operation: `IndexError`, or what the database raised. -/
inductive DbError where
  | index | database
  deriving DecidableEq

structure SqliteDeque (α : Type) where
  rows : List α
  length : Nat
  maxlen : Option Nat
  deriving DecidableEq

namespace SqliteDeque
variable {α β : Type}

/-- The constructor on a database with the given rows; without a count when it cannot be read. -/
def load (rows : List α) (maxlen : Option Nat) (readable : Bool) : SqliteDeque α :=
  ⟨rows, if readable then rows.length else 0, maxlen⟩

/-- `_recreate_db` -/
def recreateDb (unlinks : Bool) (q : SqliteDeque α) : SqliteDeque α :=
  { q with rows := if unlinks then [] else q.rows, length := 0 }

/-- One pass. `func` is `none` where it raises `IndexError`. A failed commit rolls the table back, not the number in
memory. -/
def pass (p : DbPass) (func : SqliteDeque α → Option (β × SqliteDeque α)) (q : SqliteDeque α) :
    SqliteDeque α × Except DbError β :=
  match p, func q with
  | .raises false, _ => (q, .error .database)
  | .ok, none | .raises true, none => (q, .error .index)
  | .raises true, some (_, t) => ({ q with length := t.length }, .error .database)
  | .ok, some (b, t) => (t, .ok b)

/-- `_execute` -/
def execute (call : DbCall) (func : SqliteDeque α → Option (β × SqliteDeque α)) (q : SqliteDeque α) :
    SqliteDeque α × Except DbError β :=
  match q.pass call.first func with
  | (t, .error .database) => (t.recreateDb call.unlinks).pass call.second func
  | r => r

def appendImpl (item : α) (q : SqliteDeque α) : Option (Unit × SqliteDeque α) :=
  let q := { q with rows := q.rows ++ [item], length := q.length + 1 }
  match q.maxlen with
  | some m => if m < q.length then some ((), { q with rows := q.rows.drop (q.length - m), length := m }) else some ((), q)
  | none => some ((), q)

def popleftImpl (q : SqliteDeque α) : Option (α × SqliteDeque α) :=
  match q.rows with
  | [] => none
  | item :: rest => some (item, { q with rows := rest, length := q.length - 1 })

def peekImpl (q : SqliteDeque α) : Option (α × SqliteDeque α) := q.rows.head?.map fun item => (item, q)

def vacuumImpl (q : SqliteDeque α) : Option (Unit × SqliteDeque α) := some ((), q)

/-! ### Without errors -/

/-- The number in memory is that of the rows. -/
def Counted (q : SqliteDeque α) : Prop := q.length = q.rows.length

theorem load_counted (rows : List α) (maxlen : Option Nat) : (load rows maxlen true).Counted := rfl

theorem execute_ok {call : DbCall} (h : call.first = .ok) (func : SqliteDeque α → Option (β × SqliteDeque α))
    (q : SqliteDeque α) :
    q.execute call func = match func q with
      | none => (q, .error .index)
      | some (b, t) => (t, .ok b) := by
  unfold execute pass
  rw [h]
  cases func q <;> rfl

theorem appendImpl_counted {q t : SqliteDeque α} {item : α} (hq : q.Counted) (h : appendImpl item q = some ((), t)) :
    t.Counted := by
  unfold Counted at hq ⊢
  unfold appendImpl at h
  dsimp only at h
  split at h
  · split at h
    · cases h
      simp only [List.length_drop, List.length_append, List.length_singleton]
      omega
    · cases h
      simp [hq]
  · cases h
    simp [hq]

theorem popleftImpl_counted {q t : SqliteDeque α} {item : α} (hq : q.Counted) (h : popleftImpl q = some (item, t)) :
    t.Counted := by
  unfold Counted at hq ⊢
  unfold popleftImpl at h
  split at h
  · cases h
  case h_2 rest hrows =>
    cases h
    rw [hq, hrows, List.length_cons, Nat.add_sub_cancel]

/-! ### With errors -/

/-- A pass changes the rows only if it succeeds. -/
theorem pass_cases {p : DbPass} {func : SqliteDeque α → Option (β × SqliteDeque α)} {q t : SqliteDeque α}
    {r : Except DbError β} (h : q.pass p func = (t, r)) :
    (∃ b, r = .ok b ∧ p = .ok ∧ func q = some (b, t)) ∨ (r = .error .index ∧ func q = none ∧ t = q) ∨
      (r = .error .database ∧ ∃ n, t = { q with length := n } ∧
        (n = q.length ∨ p = .raises true ∧ ∃ b u, func q = some (b, u) ∧ n = u.length)) := by
  unfold pass at h
  split at h
  · cases h
    exact .inr (.inr ⟨rfl, _, rfl, .inl rfl⟩)
  case h_2 hf =>
    cases h
    exact .inr (.inl ⟨rfl, hf, rfl⟩)
  case h_3 hf =>
    cases h
    exact .inr (.inl ⟨rfl, hf, rfl⟩)
  case h_4 b u hf =>
    cases h
    exact .inr (.inr ⟨rfl, _, rfl, .inr ⟨rfl, b, u, hf, rfl⟩⟩)
  case h_5 b u hf =>
    cases h
    exact .inl ⟨b, rfl, rfl, hf⟩

/-- What a call of `_execute` can do: it succeeds at once, or it raises `IndexError` at once, or the second pass
decides on the deque that `_recreate_db` leaves. -/
theorem execute_cases {call : DbCall} {func : SqliteDeque α → Option (β × SqliteDeque α)} {q t : SqliteDeque α}
    {r : Except DbError β} (h : q.execute call func = (t, r)) :
    (∃ b, r = .ok b ∧ func q = some (b, t) ∧ call.first = .ok) ∨ (r = .error .index ∧ func q = none ∧ t = q) ∨
      (call.first ≠ .ok ∧ (q.recreateDb call.unlinks).pass call.second func = (t, r)) := by
  unfold execute at h
  split at h
  case h_1 u hpass =>
    rcases pass_cases hpass with ⟨b, hb, -⟩ | ⟨hi, -⟩ | ⟨-, n, rfl, -⟩
    · cases hb
    · cases hi
    · refine .inr (.inr ⟨?_, h⟩)
      intro hok
      rw [hok] at hpass
      unfold pass at hpass
      cases hf : func q <;> simp [hf] at hpass
  case h_2 hne =>
    rcases pass_cases h with ⟨b, rfl, hok, hb⟩ | ⟨rfl, hn, rfl⟩ | ⟨rfl, -⟩
    · exact .inl ⟨b, rfl, hb, hok⟩
    · exact .inr (.inl ⟨rfl, hn, rfl⟩)
    · exact absurd h (hne t)

/-- A row that `popleft` returns is gone from the table. -/
theorem popleft_lt {call : DbCall} {q t : SqliteDeque α} {item : α} (h : q.execute call popleftImpl = (t, .ok item)) :
    t.rows.length < q.rows.length := by
  have hpop : ∀ {u : SqliteDeque α}, popleftImpl u = some (item, t) → t.rows.length < u.rows.length := by
    intro u hu
    unfold popleftImpl at hu
    split at hu
    · cases hu
    case h_2 rest hrows =>
      cases hu
      rw [hrows]
      exact Nat.lt_succ_self _
  rcases execute_cases h with ⟨b, hb, hf, -⟩ | ⟨hi, -⟩ | ⟨-, hpass⟩
  · cases hb
    exact hpop hf
  · cases hi
  · rcases pass_cases hpass with ⟨b, hb, -, hf⟩ | ⟨hi, -⟩ | ⟨hd, -⟩
    · cases hb
      have hlt := hpop hf
      unfold recreateDb at hlt
      split at hlt
      · exact absurd hlt (Nat.not_lt_zero _)
      · exact hlt
    · cases hi
    · cases hd

theorem peek_le {call : DbCall} {q t : SqliteDeque α} {r : Except DbError α} (h : q.execute call peekImpl = (t, r)) :
    t.rows.length ≤ q.rows.length := by
  have hpeek : ∀ {u v : SqliteDeque α} {b : α}, peekImpl u = some (b, v) → v = u := by
    intro u v b hu
    obtain ⟨_, -, heq⟩ := Option.map_eq_some_iff.1 hu
    cases heq
    rfl
  have hrec : (q.recreateDb call.unlinks).rows.length ≤ q.rows.length := by
    unfold recreateDb
    split
    · exact Nat.zero_le _
    · exact Nat.le_refl _
  rcases execute_cases h with ⟨b, -, hf, -⟩ | ⟨-, -, rfl⟩ | ⟨-, hpass⟩
  · exact Nat.le_of_eq (congrArg (fun u => u.rows.length) (hpeek hf))
  · exact Nat.le_refl _
  · rcases pass_cases hpass with ⟨b, -, -, hf⟩ | ⟨-, -, rfl⟩ | ⟨-, n, rfl, -⟩
    · rw [hpeek hf]
      exact hrec
    · exact hrec
    · exact hrec

end SqliteDeque
end Daemon
end McuBridge
