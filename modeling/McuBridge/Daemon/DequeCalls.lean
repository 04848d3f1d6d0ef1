import McuBridge.Daemon.SqliteDeque
import McuBridge.Lib.SqlTable

/-! # The persistent queue, call by call (`state/storage.py`)

`SqliteDeque` again, with the table in its file and every awaited call of the database by itself. A call can raise
an SQLite error, or the task can be cancelled in it; the connection's thread may carry out a call whose task is
cancelled. Nothing is written to the file before the commit. -/

namespace McuBridge
namespace Daemon

/-- The awaited calls of one pass of `_execute`. -/
inductive DequeCall where
  | connect | journalMode | synchronous | createTable | commitSchema
  | insert | trim | select | fetch | delete | closeCursor | commit
  deriving DecidableEq

inductive Fault where
  /-- `aiosqlite.Error` or `OSError` -/
  | error
  /-- `CancelledError`; `took` if the call is carried out all the same. -/
  | cancelled (took : Bool)
  deriving DecidableEq

inductive DequeError where
  | index | database | cancelled
  deriving DecidableEq

abbrev PassFaults := DequeCall → Option Fault

/-- What goes wrong in one call of `_execute`: in its two passes, in the unlinking between them, and where it closes
the connection of the first pass and the last one. -/
structure DequeFaults where
  first : PassFaults
  unlinks : Bool
  closeFirst : Option Fault
  second : PassFaults
  close : Option Fault

def DequeFaults.none : DequeFaults := ⟨fun _ => .none, true, .none, fun _ => .none, .none⟩

/-- The deque with its file. `conn` is the table as the open connection sees it, `isOpen` says whether the local
variable `conn` of `_execute` holds a connection. -/
structure DequeFile (α : Type) where
  file : SqlTable α
  conn : SqlTable α
  isOpen : Bool
  length : Nat
  maxlen : Option Nat

abbrev Db (α : Type) := EStateM DequeError (DequeFile α)

namespace DequeFile
variable {α β : Type}

/-- `__init__` on a readable file. -/
def load (file : SqlTable α) (maxlen : Option Nat) : DequeFile α := ⟨file, file, false, file.count, maxlen⟩

def call (fault : Option Fault) (act : DequeFile α → DequeFile α) : Db α Unit := fun q =>
  match fault with
  | none => .ok () (act q)
  | some .error => .error .database q
  | some (.cancelled took) => .error .cancelled (if took then act q else q)

def commit (q : DequeFile α) : DequeFile α := { q with file := q.conn }

/-- A statement on the open connection. -/
def statement (act : SqlTable α → SqlTable α) (q : DequeFile α) : DequeFile α := { q with conn := act q.conn }

/-- `_init_deque_db` -/
def initDequeDb (f : PassFaults) : Db α Unit := do
  call (f .journalMode) id
  call (f .synchronous) id
  call (f .createTable) id
  call (f .commitSchema) commit

/-- The connection, with the schema in place. -/
def connect (f : PassFaults) : Db α Unit := do
  call (f .connect) fun q => { q with conn := q.file }
  modify fun q => { q with isOpen := true }
  initDequeDb f

/-- One pass of `_execute`. -/
def attempt (f : PassFaults) (func : PassFaults → Db α β) : Db α β := do
  connect f
  let res ← func f
  call (f .commit) commit
  return res

def recreated (unlinks : Bool) (q : DequeFile α) : DequeFile α :=
  { q with file := if unlinks then .empty else q.file, length := 0 }

/-- `_recreate_db` -/
def recreateDb (unlinks : Bool) : Db α Unit := modify (recreated unlinks)

/-- `if conn is not None: await asyncio.shield(conn.close())` -/
def closeConn (fault : Option Fault) : Db α Unit := do
  if (← get).isOpen then call fault id

/-- The `except` branch of `_execute`. -/
def retry (f : DequeFaults) (func : PassFaults → Db α β) : Db α β := do
  recreateDb f.unlinks
  closeConn f.closeFirst
  modify fun q => { q with isOpen := false }
  attempt f.second func

/-- Both passes. -/
def tries (f : DequeFaults) (func : PassFaults → Db α β) : Db α β := do
  try
    attempt f.first func
  catch e =>
    if e = .database then retry f func else throw e

/-- `_execute` -/
def execute (f : DequeFaults) (func : PassFaults → Db α β) : Db α β := do
  modify fun q => { q with isOpen := false }
  try
    tries f func
  finally
    closeConn f.close

def appendImpl (item : α) (f : PassFaults) : Db α Unit := do
  call (f .insert) (statement (SqlTable.insert item))
  modify fun q => { q with length := q.length + 1 }
  let q ← get
  match q.maxlen with
  | some m =>
    if m < q.length then
      call (f .trim) (statement (SqlTable.deleteOldest (q.length - m)))
      modify fun t => { t with length := m }
  | none => return ()

/-- The first row of the cursor, or `IndexError`. -/
def fetchone (f : PassFaults) : Db α (Int × α) := do
  call (f .fetch) id
  match (← get).conn.select 1 with
  | [] => throw .index
  | row :: _ => return row

/-- The body of `popleft`'s `async with`. -/
def popleftRow (f : PassFaults) : Db α α := do
  let (rowId, item) ← fetchone f
  call (f .delete) (statement (SqlTable.deleteIn [rowId]))
  modify fun q => { q with length := q.length - 1 }
  return item

def popleftImpl (f : PassFaults) : Db α α := do
  call (f .select) id
  try
    popleftRow f
  finally
    call (f .closeCursor) id

def peekImpl (f : PassFaults) : Db α α := do
  call (f .select) id
  try
    Prod.snd <$> fetchone f
  finally
    call (f .closeCursor) id

end DequeFile

/-- The coroutines of `SqliteDeque`. -/
inductive DequeOp (α : Type) where
  | append (item : α)
  | popleft
  | peek

namespace DequeOp
variable {α : Type}
open DequeFile

/-- Its closure; `append` returns no item. -/
def impl : DequeOp α → PassFaults → Db α (Option α)
  | append item, f => do appendImpl item f; return none
  | popleft, f => some <$> popleftImpl f
  | peek, f => some <$> peekImpl f

def perform (f : DequeFaults) (op : DequeOp α) (q : DequeFile α) :
    DequeFile α × Except DequeError (Option α) :=
  match execute f op.impl q with
  | .ok r t => (t, .ok r)
  | .error e t => (t, .error e)

end DequeOp

namespace DequeFile
variable {α β γ : Type}

/-! ### How the statements run -/

theorem bind_apply (x : Db α β) (g : β → Db α γ) (q : DequeFile α) :
    (x >>= g) q = match x q with
      | .ok b t => g b t
      | .error e t => .error e t := by
  simp only [bind, EStateM.bind]
  cases x q <;> rfl

theorem map_apply (g : β → γ) (x : Db α β) (q : DequeFile α) :
    (g <$> x) q = match x q with
      | .ok b t => .ok (g b) t
      | .error e t => .error e t := by
  simp only [Functor.map, EStateM.map]
  cases x q <;> rfl

theorem pure_apply (b : β) (q : DequeFile α) : (pure b : Db α β) q = .ok b q := rfl

theorem throw_apply (e : DequeError) (q : DequeFile α) : (throw e : Db α β) q = .error e q := rfl

theorem modify_apply (g : DequeFile α → DequeFile α) (q : DequeFile α) : (modify g : Db α Unit) q = .ok () (g q) := rfl

theorem get_apply (q : DequeFile α) : (get : Db α (DequeFile α)) q = .ok q q := rfl

theorem finally_apply (x : Db α β) (y : Db α Unit) (q : DequeFile α) :
    (tryFinally x y) q = match x q with
      | .ok b t => match y t with
        | .ok _ u => .ok b u
        | .error e u => .error e u
      | .error e t => match y t with
        | .ok _ u => .error e u
        | .error e' u => .error e' u := by
  unfold tryFinally
  rw [map_apply]
  simp only [tryFinally']
  cases x q with
  | ok b t => cases hy : y t <;> simp only [hy]
  | error e t => cases hy : y t <;> simp only [hy]

theorem catch_apply (x : Db α β) (y : DequeError → Db α β) (q : DequeFile α) :
    (tryCatch x y) q = match x q with
      | .ok b t => .ok b t
      | .error e t => y e t := by
  simp only [tryCatch, tryCatchThe, MonadExceptOf.tryCatch, EStateM.tryCatch]
  cases x q <;> rfl

/-- The exception a fault raises. -/
def raises : Fault → DequeError
  | .error => .database
  | .cancelled _ => .cancelled

/-- The state in which it leaves the call. -/
def leaves (act : DequeFile α → DequeFile α) (q : DequeFile α) : Fault → DequeFile α
  | .cancelled true => act q
  | _ => q

theorem call_none (act : DequeFile α → DequeFile α) (q : DequeFile α) : call none act q = .ok () (act q) := rfl

theorem call_some (fault : Fault) (act : DequeFile α → DequeFile α) (q : DequeFile α) :
    call (some fault) act q = .error (raises fault) (leaves act q fault) := by
  rcases fault with _ | (_ | _) <;> rfl

theorem leaves_cases (fault : Fault) (act : DequeFile α → DequeFile α) (q : DequeFile α) :
    leaves act q fault = q ∨ leaves act q fault = act q := by
  rcases fault with _ | (_ | _)
  · exact .inl rfl
  · exact .inl rfl
  · exact .inr rfl

@[simp] theorem leaves_id (fault : Fault) (q : DequeFile α) : leaves id q fault = q := by
  rcases leaves_cases fault id q with h | h
  · exact h
  · exact h

/-- A failed statement touches no more than the connection. -/
theorem leaves_statement (fault : Fault) (act : SqlTable α → SqlTable α) (q : DequeFile α) :
    (leaves (statement act) q fault).file = q.file ∧ (leaves (statement act) q fault).maxlen = q.maxlen ∧
      (leaves (statement act) q fault).length = q.length := by
  rcases leaves_cases fault (statement act) q with h | h
  · rw [h]
    exact ⟨rfl, rfl, rfl⟩
  · rw [h]
    exact ⟨rfl, rfl, rfl⟩

theorem closeConn_cases (fault : Option Fault) (q : DequeFile α) :
    closeConn fault q = .ok () q ∨ fault ≠ none ∧ ∃ e, closeConn fault q = .error e q := by
  simp only [closeConn, bind_apply, get_apply]
  split
  · cases fault with
    | none => exact .inl rfl
    | some fault => exact .inr ⟨Option.some_ne_none _, raises fault, by rw [call_some, leaves_id]⟩
  · exact .inl rfl

/-- The first fault that a list of calls meets. -/
def firstFault (f : PassFaults) (calls : List DequeCall) : Option Fault := calls.findSome? f

theorem firstFault_cons (f : PassFaults) (c : DequeCall) (calls : List DequeCall) :
    firstFault f (c :: calls) = (f c).or (firstFault f calls) := by
  unfold firstFault
  rw [List.findSome?_cons]
  cases f c <;> rfl

theorem firstFault_append (f : PassFaults) (calls rest : List DequeCall) :
    firstFault f (calls ++ rest) = (firstFault f calls).or (firstFault f rest) := by
  induction calls with
  | nil => rfl
  | cons c calls ih => rw [List.cons_append, firstFault_cons, firstFault_cons, ih, Option.or_assoc]

def setupCalls : List DequeCall := [.connect, .journalMode, .synchronous, .createTable, .commitSchema]

theorem initDequeDb_cases (f : PassFaults) (q : DequeFile α) :
    (firstFault f setupCalls.tail = none ∧ initDequeDb f q = .ok () q.commit) ∨
      ∃ fault t, firstFault f setupCalls.tail = some fault ∧ initDequeDb f q = .error (raises fault) t ∧
        (t = q ∨ t = q.commit) := by
  simp only [setupCalls, List.tail_cons, firstFault_cons, initDequeDb, bind_apply]
  cases f .journalMode with
  | some fault => exact .inr ⟨fault, q, rfl, by simp only [call_some, leaves_id], .inl rfl⟩
  | none =>
    cases f .synchronous with
    | some fault => exact .inr ⟨fault, q, rfl, by simp only [call_none, call_some, leaves_id, id], .inl rfl⟩
    | none =>
      cases f .createTable with
      | some fault => exact .inr ⟨fault, q, rfl, by simp only [call_none, call_some, leaves_id, id], .inl rfl⟩
      | none =>
        cases f .commitSchema with
        | some fault =>
          exact .inr ⟨fault, leaves commit q fault, rfl, by simp only [call_none, call_some, id],
            leaves_cases fault commit q⟩
        | none => exact .inl ⟨rfl, rfl⟩

/-- What the file holds, as a list of rows. -/
def view (q : DequeFile α) : SqliteDeque α := ⟨q.file.items, q.length, q.maxlen⟩

/-- What the open connection sees. -/
def connView (q : DequeFile α) : SqliteDeque α := ⟨q.conn.items, q.length, q.maxlen⟩

theorem commit_view (q : DequeFile α) : q.commit.view = q.connView := rfl

/-- Connecting changes neither the file nor the number. -/
theorem connect_cases (f : PassFaults) (q : DequeFile α) :
    (firstFault f setupCalls = none ∧ connect f q = .ok () { q with conn := q.file, isOpen := true }) ∨
      ∃ fault t, firstFault f setupCalls = some fault ∧ connect f q = .error (raises fault) t ∧ t.view = q.view := by
  rw [setupCalls, firstFault_cons]
  simp only [connect, bind_apply, modify_apply]
  cases f .connect with
  | some fault =>
    refine .inr ⟨fault, leaves (fun t => { t with conn := t.file }) q fault, rfl, by simp only [call_some], ?_⟩
    rcases leaves_cases fault (fun t => { t with conn := t.file }) q with h | h
    · rw [h]
    · rw [h]
      rfl
  | none =>
    simp only [call_none]
    rcases initDequeDb_cases f { q with conn := q.file, isOpen := true } with ⟨hnone, h⟩ | ⟨fault, t, hsome, h, ht⟩
    · exact .inl ⟨hnone, h⟩
    · refine .inr ⟨fault, t, hsome, h, ?_⟩
      rcases ht with rfl | rfl
      · rfl
      · rfl

/-- `append` has a row to delete. -/
def overflows (q : DequeFile α) : Bool := q.maxlen.any fun m => m < q.length + 1

theorem appendImpl_cases (item : α) (f : PassFaults) (q : DequeFile α) :
    let calls := DequeCall.insert :: if q.overflows then [.trim] else []
    (firstFault f calls = none ∧ ∃ t, appendImpl item f q = .ok () t ∧ t.file = q.file ∧
        SqliteDeque.appendImpl item q.connView = some ((), t.connView)) ∨
      ∃ fault t, firstFault f calls = some fault ∧ appendImpl item f q = .error (raises fault) t ∧
        t.file = q.file ∧ t.maxlen = q.maxlen ∧ (f .insert ≠ none → t.length = q.length) := by
  dsimp only
  rw [firstFault_cons]
  simp only [appendImpl, bind_apply, modify_apply, get_apply]
  cases f .insert with
  | some fault =>
    obtain ⟨hfile, hmax, hlen⟩ := leaves_statement fault (SqlTable.insert item) q
    exact .inr ⟨fault, _, rfl, by rw [call_some], hfile, hmax, fun _ => hlen⟩
  | none =>
    simp only [call_none, Option.none_or]
    cases hmax : q.maxlen with
    | none =>
      refine .inl ⟨by simp [overflows, hmax, firstFault],
        { statement (SqlTable.insert item) q with length := q.length + 1 }, ?_, rfl, ?_⟩
      · simp only [statement, hmax, pure_apply]
      · simp [SqliteDeque.appendImpl, connView, statement, hmax]
    | some m =>
      by_cases hlt : m < q.length + 1
      · have hover : q.overflows = true := by simpa [overflows, hmax] using hlt
        simp only [hover, if_true, firstFault_cons]
        cases f .trim with
        | some fault =>
          obtain ⟨hfile, hmax', -⟩ := leaves_statement fault (SqlTable.deleteOldest (q.length + 1 - m))
            { statement (SqlTable.insert item) q with length := q.length + 1 }
          refine .inr ⟨fault, _, rfl, ?_, hfile, hmax'.trans hmax, fun h => absurd rfl h⟩
          simp only [statement, hmax, hlt, if_true, bind_apply, call_some]
        | none =>
          refine .inl ⟨rfl, statement (SqlTable.deleteOldest (q.length + 1 - m))
            { statement (SqlTable.insert item) q with length := m }, ?_, rfl, ?_⟩
          · simp only [statement, hmax, hlt, if_true, bind_apply, call_none, modify_apply]
          · simp [SqliteDeque.appendImpl, connView, statement, hmax, hlt]
      · have hover : q.overflows = false := by simpa [overflows, hmax] using hlt
        refine .inl ⟨by simp [hover, firstFault], { statement (SqlTable.insert item) q with length := q.length + 1 }, ?_,
          rfl, ?_⟩
        · simp only [statement, hmax, hlt, if_false, pure_apply]
        · simp [SqliteDeque.appendImpl, connView, statement, hmax, hlt]

/-! ### Both passes -/

/-- The end of `_execute`: closing the connection changes no row and no number, and only a fault there makes a call
raise that would have returned. -/
theorem finally_cases (close : Option Fault) (x : Db α β) (q : DequeFile α) :
    (∃ b t, x q = .ok b t ∧ (tryFinally x (closeConn close) q = .ok b t ∨
        close ≠ none ∧ ∃ e, tryFinally x (closeConn close) q = .error e t)) ∨
      ∃ e t, x q = .error e t ∧ ∃ e', tryFinally x (closeConn close) q = .error e' t ∧ (close = none → e' = e) := by
  rw [finally_apply]
  cases x q with
  | ok b t =>
    refine .inl ⟨b, t, rfl, ?_⟩
    rcases closeConn_cases close t with h | ⟨hne, e, h⟩
    · exact .inl (by simp only [h])
    · exact .inr ⟨hne, e, by simp only [h]⟩
  | error e t =>
    refine .inr ⟨e, t, rfl, ?_⟩
    rcases closeConn_cases close t with h | ⟨hne, e', h⟩
    · exact ⟨e, by simp only [h], fun _ => rfl⟩
    · exact ⟨e', by simp only [h], fun hnone => absurd hnone hne⟩

theorem execute_cases (f : DequeFaults) (func : PassFaults → Db α β) (q : DequeFile α) :
    (∃ b t, tries f func { q with isOpen := false } = .ok b t ∧ (execute f func q = .ok b t ∨
        f.close ≠ none ∧ ∃ e, execute f func q = .error e t)) ∨
      ∃ e t, tries f func { q with isOpen := false } = .error e t ∧
        ∃ e', execute f func q = .error e' t ∧ (f.close = none → e' = e) :=
  finally_cases f.close (tries f func) { q with isOpen := false }

theorem tries_apply (f : DequeFaults) (func : PassFaults → Db α β) (q : DequeFile α) :
    tries f func q = match attempt f.first func q with
      | .ok b t => .ok b t
      | .error .database t => retry f func t
      | .error e t => .error e t := by
  unfold tries
  rw [catch_apply]
  cases attempt f.first func q with
  | ok b t => rfl
  | error e t =>
    cases e with
    | index => rfl
    | database => rfl
    | cancelled => rfl

/-! ### Reading the first row -/

def stateOf : EStateM.Result DequeError (DequeFile α) β → DequeFile α
  | .ok _ t => t
  | .error _ t => t

/-- The cursor is closed in any case, and a fault there hides how the body ended. -/
theorem closing_apply (fault : Option Fault) (x : Db α β) (q : DequeFile α) :
    (tryFinally x (call fault id)) q = match fault with
      | none => x q
      | some fault => .error (raises fault) (stateOf (x q)) := by
  rw [finally_apply]
  cases fault with
  | none => cases x q <;> rfl
  | some fault =>
    simp only [call_some, leaves_id]
    cases x q <;> rfl

theorem fetchone_cases (f : PassFaults) (q : DequeFile α) :
    (∃ fault, f .fetch = some fault ∧ fetchone f q = .error (raises fault) q) ∨
      (f .fetch = none ∧ q.conn.items = [] ∧ fetchone f q = .error .index q) ∨
      (f .fetch = none ∧ ∃ row, q.conn.select 1 = [row] ∧ fetchone f q = .ok row q) := by
  simp only [fetchone, bind_apply, get_apply]
  cases f .fetch with
  | some fault => exact .inl ⟨fault, rfl, by rw [call_some, leaves_id]⟩
  | none =>
    simp only [call_none, id, true_and]
    cases hrow : q.conn.select 1 with
    | nil => exact .inr (.inl ⟨SqlTable.items_eq_nil hrow, rfl⟩)
    | cons row rest =>
      obtain ⟨rfl, -⟩ := SqlTable.items_eq_cons hrow
      exact .inr (.inr ⟨row, rfl, rfl⟩)

/-- How a body between the opening and the closing of the cursor ends: by a fault of its `calls`, before the number has
changed; on an empty table; or as `impl` says. -/
inductive BodyEnd (f : PassFaults) (calls : List DequeCall) (impl : SqliteDeque α → Option (β × SqliteDeque α))
    (q : DequeFile α) : EStateM.Result DequeError (DequeFile α) β → Prop where
  | fault {fault : Fault} {t : DequeFile α} (hfault : firstFault f calls = some fault) (hfile : t.file = q.file)
      (hmax : t.maxlen = q.maxlen) (hlen : t.length = q.length) : BodyEnd f calls impl q (.error (raises fault) t)
  | empty (hfault : firstFault f calls = none) (himpl : impl q.connView = none) : BodyEnd f calls impl q (.error .index q)
  | ok {b : β} {t : DequeFile α} (hfault : firstFault f calls = none) (hfile : t.file = q.file)
      (himpl : impl q.connView = some (b, t.connView)) : BodyEnd f calls impl q (.ok b t)

theorem popleftRow_end (f : PassFaults) (q : DequeFile α) :
    BodyEnd f (.fetch :: if q.connView.rows.isEmpty then [] else [.delete]) SqliteDeque.popleftImpl q
      (popleftRow f q) := by
  unfold popleftRow
  rw [bind_apply]
  rcases fetchone_cases f q with ⟨fault, hf, h⟩ | ⟨hf, hempty, h⟩ | ⟨hf, row, hrow, h⟩
  · rw [h]
    exact .fault (by rw [firstFault_cons, hf, Option.some_or]) rfl rfl rfl
  · rw [h]
    have hrows : q.connView.rows = [] := hempty
    refine .empty ?_ (by rw [SqliteDeque.popleftImpl, hrows])
    rw [hrows, firstFault_cons, hf]
    rfl
  · obtain ⟨-, hitems⟩ := SqlTable.items_eq_cons hrow
    have hrows : q.connView.rows.isEmpty = false := by simp only [connView]; rw [hitems]; rfl
    simp only [h, bind_apply, hrows]
    cases hdel : f .delete with
    | some fault =>
      obtain ⟨hfile, hmax, hlen⟩ := leaves_statement fault (SqlTable.deleteIn [row.1]) q
      rw [call_some]
      exact .fault (by simp [firstFault_cons, hf, hdel]) hfile hmax hlen
    | none =>
      refine .ok (by simp [firstFault, hf, hdel]) rfl ?_
      simp only [SqliteDeque.popleftImpl, connView, statement, SqlTable.items_deleteIn_first hrow]
      rw [hitems]
      rfl

theorem peekRow_end (f : PassFaults) (q : DequeFile α) :
    BodyEnd f [.fetch] SqliteDeque.peekImpl q ((Prod.snd <$> fetchone f : Db α α) q) := by
  rw [map_apply]
  rcases fetchone_cases f q with ⟨fault, hf, h⟩ | ⟨hf, hempty, h⟩ | ⟨hf, row, hrow, h⟩
  · rw [h]
    exact .fault (by rw [firstFault_cons, hf, Option.some_or]) rfl rfl rfl
  · rw [h]
    have hrows : q.connView.rows = [] := hempty
    exact .empty (by rw [firstFault_cons, hf]; rfl) (by rw [SqliteDeque.peekImpl, hrows]; rfl)
  · rw [h]
    refine .ok (by rw [firstFault_cons, hf]; rfl) rfl ?_
    obtain ⟨-, hitems⟩ := SqlTable.items_eq_cons hrow
    simp only [SqliteDeque.peekImpl, connView]
    rw [hitems]
    rfl

end DequeFile

namespace DequeOp
variable {α : Type}
open DequeFile

/-! ### Each coroutine on the rows -/

/-- The coroutine on a list of rows. -/
def rowsImpl : DequeOp α → SqliteDeque α → Option (Option α × SqliteDeque α)
  | append item, q => (SqliteDeque.appendImpl item q).map fun r => (none, r.2)
  | popleft, q => (SqliteDeque.popleftImpl q).map fun r => (some r.1, r.2)
  | peek, q => (SqliteDeque.peekImpl q).map fun r => (some r.1, r.2)

/-- It changes nothing. -/
def keeps : DequeOp α → SqliteDeque α → Bool
  | append _, _ => false
  | popleft, q => q.rows.isEmpty
  | peek, _ => true

/-- Its calls up to the change of the number. -/
def early : DequeOp α → List DequeCall
  | append _ => [.insert]
  | popleft => [.select, .fetch, .delete]
  | peek => [.select, .fetch]

/-- Its calls from there on. -/
def late : DequeOp α → SqliteDeque α → List DequeCall
  | append _, q => (if q.maxlen.any fun m => m < q.length + 1 then [.trim] else []) ++ [.commit]
  | _, _ => [.closeCursor, .commit]

/-- The fault that ends its closure: a fault at the closing of the cursor hides the one before. -/
def implFault (f : PassFaults) : DequeOp α → SqliteDeque α → Option Fault
  | append _, q => firstFault f (.insert :: if q.maxlen.any fun m => m < q.length + 1 then [.trim] else [])
  | popleft, q => (f .select).or ((f .closeCursor).or (firstFault f (.fetch :: if q.rows.isEmpty then [] else [.delete])))
  | peek, _ => (f .select).or ((f .closeCursor).or (firstFault f [.fetch]))

/-- The fault that ends a pass; on an empty table a coroutine that reads a row does not come to the commit. -/
def passFault (f : PassFaults) (op : DequeOp α) (q : SqliteDeque α) : Option Fault :=
  (firstFault f setupCalls).or ((op.implFault f q).or (if (op.rowsImpl q).isSome then f .commit else none))

/-- How the closure ends. -/
inductive ImplEnd (f : PassFaults) (op : DequeOp α) (q : DequeFile α) :
    EStateM.Result DequeError (DequeFile α) (Option α) → Prop where
  | fault {fault : Fault} {t : DequeFile α} (hfault : op.implFault f q.connView = some fault) (hfile : t.file = q.file)
      (hmax : t.maxlen = q.maxlen)
      (hlen : op.keeps q.connView ∨ firstFault f op.early ≠ none → t.length = q.length) :
      ImplEnd f op q (.error (raises fault) t)
  | empty (hfault : op.implFault f q.connView = none) (himpl : op.rowsImpl q.connView = none) :
      ImplEnd f op q (.error .index q)
  | ok {r : Option α} {t : DequeFile α} (hfault : op.implFault f q.connView = none) (hfile : t.file = q.file)
      (himpl : op.rowsImpl q.connView = some (r, t.connView)) : ImplEnd f op q (.ok r t)

theorem append_end (item : α) (f : PassFaults) (q : DequeFile α) : ImplEnd f (append item) q ((append item).impl f q) := by
  simp only [impl, bind_apply]
  rcases appendImpl_cases item f q with ⟨hnone, t, h, hfile, himpl⟩ | ⟨fault, t, hsome, h, hfile, hmax, hlen⟩
  · rw [h]
    exact .ok hnone hfile (by simp only [rowsImpl, himpl]; rfl)
  · rw [h]
    refine .fault hsome hfile hmax fun hearly => hlen ?_
    rcases hearly with hkeeps | hearly
    · cases hkeeps
    · intro hinsert
      rw [early, firstFault_cons, hinsert] at hearly
      exact hearly rfl

/-- A closure that reads a row, around its body. -/
theorem reading_end {op : DequeOp α} {f : PassFaults} {q : DequeFile α} {calls : List DequeCall}
    {rowImpl : SqliteDeque α → Option (α × SqliteDeque α)} {body : Db α α}
    (hbody : BodyEnd f calls rowImpl q (body q))
    (hrows : op.rowsImpl q.connView = (rowImpl q.connView).map fun r => (some r.1, r.2))
    (hfault : op.implFault f q.connView = (f .select).or ((f .closeCursor).or (firstFault f calls)))
    (hok : ∀ b t, rowImpl q.connView = some (b, t) → t.maxlen = q.maxlen ∧
      (firstFault f calls = none → f .select = none → op.keeps q.connView ∨ firstFault f op.early ≠ none →
        t.length = q.length)) :
    ImplEnd f op q ((some <$> (do call (f .select) id; tryFinally body (call (f .closeCursor) id)) : Db α (Option α)) q) := by
  simp only [map_apply, bind_apply]
  cases hsel : f .select with
  | some fault =>
    simp only [call_some, leaves_id]
    exact .fault (by rw [hfault, hsel, Option.some_or]) rfl rfl fun _ => rfl
  | none =>
    rw [hsel, Option.none_or] at hfault
    simp only [call_none, id, closing_apply]
    generalize body q = r at hbody ⊢
    cases hclose : f .closeCursor with
    | some fault =>
      rw [hclose, Option.some_or] at hfault
      cases hbody with
      | fault _ hfile hmax hlen => exact .fault hfault hfile hmax fun _ => hlen
      | empty _ _ => exact .fault hfault rfl rfl fun _ => rfl
      | ok hnone hfile himpl => exact .fault hfault hfile (hok _ _ himpl).1 ((hok _ _ himpl).2 hnone hsel)
    | none =>
      rw [hclose, Option.none_or] at hfault
      cases hbody with
      | fault hsome hfile hmax hlen => exact .fault (hfault.trans hsome) hfile hmax fun _ => hlen
      | empty hnone himpl => exact .empty (hfault.trans hnone) (by rw [hrows, himpl]; rfl)
      | ok hnone hfile himpl => exact .ok (hfault.trans hnone) hfile (by rw [hrows, himpl]; rfl)

theorem popleft_end (f : PassFaults) (q : DequeFile α) : ImplEnd f popleft q (popleft.impl f q) := by
  refine reading_end (popleftRow_end f q) rfl rfl ?_
  intro item t himpl
  unfold SqliteDeque.popleftImpl at himpl
  split at himpl
  · cases himpl
  case h_2 row rest hrows =>
    cases himpl
    refine ⟨rfl, fun hnone hsel hearly => ?_⟩
    rcases hearly with hkeeps | hearly
    · rw [keeps, hrows] at hkeeps
      cases hkeeps
    · rw [hrows] at hnone
      rw [early, firstFault_cons, hsel] at hearly
      exact absurd hnone hearly

theorem peek_end (f : PassFaults) (q : DequeFile α) : ImplEnd f peek q (peek.impl f q) := by
  refine reading_end (peekRow_end f q) rfl rfl ?_
  intro item t himpl
  obtain ⟨_, -, h⟩ := Option.map_eq_some_iff.1 himpl
  cases h
  exact ⟨rfl, fun _ _ _ => rfl⟩

theorem impl_end (op : DequeOp α) (f : PassFaults) (q : DequeFile α) : ImplEnd f op q (op.impl f q) := by
  cases op with
  | append item => exact append_end item f q
  | popleft => exact popleft_end f q
  | peek => exact peek_end f q

/-! ### A pass -/

theorem keeps_impl {op : DequeOp α} {v w : SqliteDeque α} {r : Option α} (h : op.keeps v)
    (himpl : op.rowsImpl v = some (r, w)) : w = v := by
  cases op with
  | append item => cases h
  | popleft =>
    have hrows : v.rows = [] := List.isEmpty_iff.1 h
    rw [rowsImpl, SqliteDeque.popleftImpl, hrows] at himpl
    cases himpl
  | peek =>
    rw [rowsImpl, SqliteDeque.peekImpl, Option.map_map] at himpl
    obtain ⟨_, -, hw⟩ := Option.map_eq_some_iff.1 himpl
    cases hw
    rfl

theorem rowsImpl_maxlen {op : DequeOp α} {v w : SqliteDeque α} {r : Option α} (himpl : op.rowsImpl v = some (r, w)) :
    w.maxlen = v.maxlen := by
  cases op with
  | append item =>
    obtain ⟨_, happ, h⟩ := Option.map_eq_some_iff.1 himpl
    cases h
    unfold SqliteDeque.appendImpl at happ
    dsimp only at happ
    split at happ
    · split at happ
      · cases happ
        rfl
      · cases happ
        rfl
    · cases happ
      rfl
  | popleft =>
    obtain ⟨_, hpop, h⟩ := Option.map_eq_some_iff.1 himpl
    cases h
    unfold SqliteDeque.popleftImpl at hpop
    split at hpop
    · cases hpop
    · cases hpop
      rfl
  | peek =>
    have hkeeps : (peek : DequeOp α).keeps v = true := rfl
    rw [keeps_impl hkeeps himpl]

/-- A coroutine that gets to its end has met no fault on the way to the change of the number. -/
theorem early_none {op : DequeOp α} {f : PassFaults} {v : SqliteDeque α} (h : op.implFault f v = none)
    (himpl : (op.rowsImpl v).isSome) : firstFault f op.early = none := by
  cases op with
  | append item =>
    rw [implFault, firstFault_cons, Option.or_eq_none_iff] at h
    rw [early, firstFault_cons, h.1]
    rfl
  | popleft =>
    have hrows : v.rows.isEmpty = false := by
      cases hv : v.rows with
      | nil =>
        rw [rowsImpl, SqliteDeque.popleftImpl, hv] at himpl
        cases himpl
      | cons row rest => rfl
    rw [implFault, hrows, Option.or_eq_none_iff, Option.or_eq_none_iff] at h
    rw [early, firstFault_cons, h.1]
    exact h.2.2
  | peek =>
    rw [implFault, Option.or_eq_none_iff, Option.or_eq_none_iff] at h
    rw [early, firstFault_cons, h.1]
    exact h.2.2

/-- How a pass ends. -/
inductive PassEnd (f : PassFaults) (op : DequeOp α) (q : DequeFile α) :
    EStateM.Result DequeError (DequeFile α) (Option α) → Prop where
  | fault {fault : Fault} {t : DequeFile α} (hfault : op.passFault f q.view = some fault) (hmax : t.maxlen = q.maxlen)
      (hrows : fault = .error → t.view.rows = q.view.rows)
      (hview : op.keeps q.view ∨ firstFault f (setupCalls ++ op.early) ≠ none → t.view = q.view) :
      PassEnd f op q (.error (raises fault) t)
  | empty {t : DequeFile α} (hfault : op.passFault f q.view = none) (hview : t.view = q.view)
      (himpl : op.rowsImpl q.view = none) : PassEnd f op q (.error .index t)
  | ok {r : Option α} {t : DequeFile α} (hfault : op.passFault f q.view = none)
      (himpl : op.rowsImpl q.view = some (r, t.view)) : PassEnd f op q (.ok r t)

theorem attempt_end (op : DequeOp α) (f : PassFaults) (q : DequeFile α) : PassEnd f op q (attempt f op.impl q) := by
  simp only [attempt, bind_apply]
  rcases connect_cases f q with ⟨hsetup, h⟩ | ⟨fault, t, hsetup, h, hview⟩
  · rw [h]
    dsimp only
    have hearly : firstFault f (setupCalls ++ op.early) = firstFault f op.early := by
      rw [firstFault_append, hsetup, Option.none_or]
    have hend := op.impl_end f { q with conn := q.file, isOpen := true }
    generalize op.impl f { q with conn := q.file, isOpen := true } = r at hend ⊢
    cases hend with
    | fault hsome hfile hmax hlen =>
      have hsome : op.implFault f q.view = some _ := hsome
      refine .fault (by rw [passFault, hsetup, hsome]; rfl) hmax (fun _ => congrArg SqlTable.items hfile) fun h => ?_
      rw [hearly] at h
      simp only [view, hfile, hmax, hlen h]
    | empty hnone himpl =>
      have hnone : op.implFault f q.view = none := hnone
      have himpl : op.rowsImpl q.view = none := himpl
      exact .empty (by rw [passFault, hsetup, hnone, himpl]; rfl) rfl himpl
    | @ok r t hnone hfile himpl =>
      have hnone : op.implFault f q.view = none := hnone
      have himpl : op.rowsImpl q.view = some (r, t.connView) := himpl
      have hpass : op.passFault f q.view = f .commit := by
        rw [passFault, hsetup, hnone, himpl]
        rfl
      cases hcommit : f .commit with
      | none => exact .ok (hpass.trans hcommit) himpl
      | some fault =>
        simp only [call_some]
        have hmax : t.maxlen = q.maxlen := rowsImpl_maxlen himpl
        have hleft : (leaves commit t fault).maxlen = q.maxlen := by
          rcases leaves_cases fault commit t with h | h
          · rw [h, hmax]
          · rw [h]
            exact hmax
        refine .fault (hpass.trans hcommit) hleft ?_ ?_
        · rintro rfl
          exact congrArg SqlTable.items hfile
        · rintro (hkeeps | hne)
          · have hview : t.connView = q.view := keeps_impl hkeeps himpl
            rcases leaves_cases fault commit t with h | h
            · rw [h, ← hview]
              have hitems : q.file.items = t.conn.items := (congrArg SqliteDeque.rows hview).symm
              simp only [view, connView, hfile, hitems]
            · rw [h, commit_view, hview]
          · rw [hearly] at hne
            exact absurd (early_none hnone (by rw [himpl]; rfl)) hne
  · rw [h]
    have hmax : t.maxlen = q.maxlen := congrArg SqliteDeque.maxlen hview
    exact .fault (by rw [passFault, hsetup, Option.some_or]) hmax (fun _ => congrArg SqliteDeque.rows hview)
      fun _ => hview

theorem passFault_none {op : DequeOp α} {f : PassFaults} {v : SqliteDeque α}
    (hearly : firstFault f (setupCalls ++ op.early) = none) (hlate : firstFault f (op.late v) = none) :
    op.passFault f v = none := by
  rw [firstFault_append, Option.or_eq_none_iff] at hearly
  obtain ⟨hsetup, hearly⟩ := hearly
  rw [passFault, hsetup, Option.none_or]
  cases op with
  | append item =>
    rw [late, firstFault_append, Option.or_eq_none_iff, firstFault_cons, Option.or_eq_none_iff] at hlate
    rw [early, firstFault_cons, Option.or_eq_none_iff] at hearly
    rw [implFault, firstFault_cons, hearly.1, Option.none_or, hlate.1, Option.none_or, hlate.2.1, ite_self]
  | popleft =>
    simp only [late, early, firstFault_cons, Option.or_eq_none_iff] at hlate hearly
    obtain ⟨hclose, hcommit, -⟩ := hlate
    obtain ⟨hsel, hfetch, hdel, -⟩ := hearly
    rw [implFault, hsel, hclose, hcommit, ite_self, firstFault_cons, hfetch]
    split
    · rfl
    · rw [firstFault_cons, hdel]
      rfl
  | peek =>
    simp only [late, early, firstFault_cons, Option.or_eq_none_iff] at hlate hearly
    obtain ⟨hclose, hcommit, -⟩ := hlate
    obtain ⟨hsel, hfetch, -⟩ := hearly
    rw [implFault, hsel, hclose, hcommit, ite_self, firstFault_cons, hfetch]
    rfl

end DequeOp
end Daemon
end McuBridge
