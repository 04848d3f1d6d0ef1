import McuBridge.Daemon.DequeFaults
import McuBridge.Daemon.Storage
import McuBridge.Lib.WriteLog

/-! # The datastore under faults (`state/storage.py`)

`SqliteCache._execute` with `_init_cache_db` and `_recreate_db` is that of `SqliteDeque`, call by call, but for the
schema and the number in memory, which the cache does not have; so a cache is a `DequeFile` of its rows. A call of the
database may raise or be cancelled in any await of both passes. -/

namespace McuBridge
namespace Daemon
open DequeFile

abbrev CacheFile := DequeFile (Text × Bytes)

namespace CacheFile

/-- `INSERT OR REPLACE INTO cache (key, value) VALUES (?, ?)` -/
def replace (key : Text) (value : Bytes) (t : SqlTable (Text × Bytes)) : SqlTable (Text × Bytes) :=
  (t.deleteWhere fun row => row.1 = key).insert (key, value)

/-- `_setitem_impl` -/
def setitemImpl (key : Text) (value : Bytes) (f : PassFaults) : Db (Text × Bytes) Unit :=
  call (f .insert) (statement (replace key value))

/-- `_get_impl`, with `None` for the default. -/
def getImpl (key : Text) (f : PassFaults) : Db (Text × Bytes) (Option Bytes) := do
  call (f .select) id
  try
    call (f .fetch) id
    let q ← get
    return CacheTable.get key q.conn.items
  finally
    call (f .closeCursor) id

def set (f : DequeFaults) (key : Text) (value : Bytes) (q : CacheFile) :
    CacheFile × Except DequeError Unit :=
  match execute f (setitemImpl key value) q with
  | .ok b t => (t, .ok b)
  | .error e t => (t, .error e)

/-- An error of the database makes it return the default. -/
def get (f : DequeFaults) (key : Text) (q : CacheFile) : CacheFile × Except DequeError (Option Bytes) :=
  match execute f (getImpl key) q with
  | .ok b t => (t, .ok b)
  | .error .database t => (t, .ok none)
  | .error e t => (t, .error e)

end CacheFile

inductive CacheOp where
  | set (key : Text) (value : Bytes)
  | get (key : Text)

/-- `writes` is a record of the calls of `set`. -/
structure CacheRun where
  cache : CacheFile
  writes : List (Write Text Bytes)

namespace CacheRun

/-- `__init__` on a readable file. -/
def init (file : SqlTable (Text × Bytes)) : CacheRun := ⟨.load file none, []⟩

def step (e : DequeFaults × CacheOp) (s : CacheRun) : CacheRun :=
  match e.2 with
  | .set key value =>
    let r := CacheFile.set e.1 key value s.cache
    ⟨r.1, s.writes ++ [⟨key, value, r.2.isOk⟩]⟩
  | .get key => { s with cache := (CacheFile.get e.1 key s.cache).1 }

/-- The value of a key in the file. -/
def lookup (key : Text) (s : CacheRun) : Option Bytes := CacheTable.get key s.cache.file.items

/-- The values a key may have. -/
def mayRead (file : SqlTable (Text × Bytes)) (s : CacheRun) : Text → List Bytes :=
  Write.mayRead (fun key => (CacheTable.get key file.items).toList) s.writes

/-- A `get` returns the default or a value the key may have. -/
def ReadsFresh (file : SqlTable (Text × Bytes)) (s : CacheRun) (e : DequeFaults × CacheOp) : Prop :=
  match e.2 with
  | .set _ _ => True
  | .get key => ∀ v, (CacheFile.get e.1 key s.cache).2 = .ok (some v) → v ∈ s.mayRead file key

end CacheRun

/-! ### One pass -/

namespace CacheFile
variable {β : Type}

theorem items_replace (key : Text) (value : Bytes) (t : SqlTable (Text × Bytes)) :
    (replace key value t).items = CacheTable.set key value t.items := by
  simp [replace, CacheTable.set]

/-- How a coroutine on an open connection ends: it has made `after` of the rows and returns `value` of them, or some
fault stopped it. -/
inductive ImplEnd (f : PassFaults) (value : CacheTable → β) (after : CacheTable → CacheTable) (q : CacheFile) :
    EStateM.Result DequeError CacheFile β → Prop where
  | ok {t : CacheFile} (hfile : t.file = q.file) (hconn : t.conn.items = after q.conn.items) :
      ImplEnd f value after q (.ok (value q.conn.items) t)
  | fault {c : DequeCall} {fault : Fault} {t : CacheFile} (hfault : f c = some fault) (hfile : t.file = q.file) :
      ImplEnd f value after q (.error (raises fault) t)

theorem setitemImpl_end (key : Text) (value : Bytes) (f : PassFaults) (q : CacheFile) :
    ImplEnd f (fun _ => ()) (CacheTable.set key value) q (setitemImpl key value f q) := by
  unfold setitemImpl
  cases hfault : f .insert with
  | none =>
    rw [call_none]
    exact .ok rfl (items_replace key value q.conn)
  | some fault =>
    rw [call_some]
    exact .fault hfault (leaves_statement fault _ q).1

theorem getImpl_end (key : Text) (f : PassFaults) (q : CacheFile) :
    ImplEnd f (CacheTable.get key) id q (getImpl key f q) := by
  simp only [getImpl, bind_apply]
  cases hsel : f .select with
  | some fault =>
    simp only [call_some, leaves_id]
    exact .fault hsel rfl
  | none =>
    simp only [call_none, id, closing_apply, bind_apply]
    cases hclose : f .closeCursor with
    | some fault =>
      simp only
      cases hfetch : f .fetch with
      | some fault' =>
        simp only [call_some, leaves_id]
        exact .fault hclose rfl
      | none => exact .fault hclose rfl
    | none =>
      simp only
      cases hfetch : f .fetch with
      | some fault =>
        simp only [call_some, leaves_id]
        exact .fault hfetch rfl
      | none => exact .ok rfl rfl

/-- How a pass ends. A fault at the commit may leave the rows committed, but not an error of the database. -/
inductive PassEnd (f : PassFaults) (value : CacheTable → β) (after : CacheTable → CacheTable) (q : CacheFile) :
    EStateM.Result DequeError CacheFile β → Prop where
  | ok {t : CacheFile} (hitems : t.file.items = after q.file.items) : PassEnd f value after q (.ok (value q.file.items) t)
  | fault {c : DequeCall} {fault : Fault} {t : CacheFile} (hfault : f c = some fault)
      (hitems : t.file.items = q.file.items ∨ (fault ≠ .error ∧ t.file.items = after q.file.items)) :
      PassEnd f value after q (.error (raises fault) t)

theorem exists_of_firstFault {f : PassFaults} {calls : List DequeCall} {fault : Fault}
    (h : firstFault f calls = some fault) : ∃ c, f c = some fault := by
  obtain ⟨c, -, hc⟩ := List.exists_of_findSome?_eq_some h
  exact ⟨c, hc⟩

variable {value : CacheTable → β} {after : CacheTable → CacheTable} {func : PassFaults → Db (Text × Bytes) β}

theorem attempt_end (hfunc : ∀ f q, ImplEnd f value after q (func f q)) (f : PassFaults) (q : CacheFile) :
    PassEnd f value after q (attempt f func q) := by
  simp only [attempt, bind_apply]
  rcases connect_cases f q with ⟨-, h⟩ | ⟨fault, t, hsetup, h, hview⟩
  · rw [h]
    dsimp only
    have hend := hfunc f { q with conn := q.file, isOpen := true }
    generalize func f { q with conn := q.file, isOpen := true } = r at hend ⊢
    cases hend with
    | @ok t hfile hconn =>
      cases hcommit : f .commit with
      | none => exact .ok hconn
      | some fault =>
        simp only [call_some]
        refine .fault hcommit ?_
        rcases fault with _ | (_ | _)
        · exact .inl (congrArg SqlTable.items hfile)
        · exact .inl (congrArg SqlTable.items hfile)
        · exact .inr ⟨(by intro h; cases h), hconn⟩
    | fault hfault hfile => exact .fault hfault (.inl (congrArg SqlTable.items hfile))
  · rw [h]
    obtain ⟨c, hc⟩ := exists_of_firstFault hsetup
    exact .fault hc (.inl (congrArg SqliteDeque.rows hview))

/-! ### Both passes -/

/-- SQLite raises somewhere in the first pass. -/
def FirstFails (f : DequeFaults) : Prop := ∃ c, f.first c = some .error

/-- The rows the last pass starts from: an error in the first one may have cost all of them. -/
def Base (f : DequeFaults) (v w : CacheTable) : Prop := w = v ∨ (FirstFails f ∧ w = [])

/-- How a call ends. -/
def CallEnd (f : DequeFaults) (value : CacheTable → β) (after : CacheTable → CacheTable) (v : CacheTable) :
    EStateM.Result DequeError CacheFile β → Prop
  | .ok b t => ∃ w, Base f v w ∧ b = value w ∧ t.file.items = after w
  | .error _ t => ∃ w, Base f v w ∧ (t.file.items = w ∨ t.file.items = after w)

theorem retry_end (hfunc : ∀ f q, ImplEnd f value after q (func f q)) {f : DequeFaults} (hfails : FirstFails f)
    (q : CacheFile) : CallEnd f value after q.file.items (retry f func q) := by
  have hbase : Base f q.file.items (recreated f.unlinks q).file.items := by
    unfold recreated
    cases f.unlinks
    · exact .inl rfl
    · exact .inr ⟨hfails, rfl⟩
  simp only [retry, recreateDb, bind_apply, modify_apply]
  rcases closeConn_cases f.closeFirst (recreated f.unlinks q) with h | ⟨-, e, h⟩
  · rw [h]
    have hpass := attempt_end hfunc f.second { recreated f.unlinks q with isOpen := false }
    dsimp only
    generalize attempt f.second func { recreated f.unlinks q with isOpen := false } = r at hpass ⊢
    cases hpass with
    | ok hitems => exact ⟨_, hbase, rfl, hitems⟩
    | fault _ hitems => exact ⟨_, hbase, hitems.imp id And.right⟩
  · rw [h]
    exact ⟨_, hbase, .inl rfl⟩

theorem tries_end (hfunc : ∀ f q, ImplEnd f value after q (func f q)) (f : DequeFaults) (q : CacheFile) :
    CallEnd f value after q.file.items (tries f func q) := by
  have hpass := attempt_end hfunc f.first q
  rw [tries_apply]
  generalize attempt f.first func q = r at hpass ⊢
  cases hpass with
  | ok hitems => exact ⟨_, .inl rfl, rfl, hitems⟩
  | @fault c fault t hfault hitems =>
    cases fault with
    | error =>
      have hitems : t.file.items = q.file.items := hitems.elim id fun h => absurd rfl h.1
      have hretry := retry_end hfunc ⟨c, hfault⟩ t
      rwa [hitems] at hretry
    | cancelled took => exact ⟨_, .inl rfl, hitems.imp id And.right⟩

theorem execute_end (hfunc : ∀ f q, ImplEnd f value after q (func f q)) (f : DequeFaults) (q : CacheFile) :
    CallEnd f value after q.file.items (execute f func q) := by
  have htries : CallEnd f value after q.file.items (tries f func { q with isOpen := false }) := tries_end hfunc f _
  rcases execute_cases f func q with ⟨b, t, hmain, hexec | ⟨-, e, hexec⟩⟩ | ⟨e, t, hmain, e', hexec, -⟩
  · rw [hmain] at htries
    rwa [hexec]
  · rw [hmain] at htries
    obtain ⟨w, hbase, -, hitems⟩ := htries
    rw [hexec]
    exact ⟨w, hbase, .inr hitems⟩
  · rw [hmain] at htries
    rw [hexec]
    exact htries

/-- `set` does what it says when it returns, and that or nothing when it raises. -/
theorem set_end (f : DequeFaults) (key : Text) (v : Bytes) (q : CacheFile) :
    ∃ w, Base f q.file.items w ∧
      ((set f key v q).1.file.items = CacheTable.set key v w ∨
        ((set f key v q).2.isOk = false ∧ (set f key v q).1.file.items = w)) := by
  have hend := execute_end (setitemImpl_end key v) f q
  unfold set
  cases hexec : execute f (setitemImpl key v) q with
  | ok b t =>
    rw [hexec] at hend
    obtain ⟨w, hbase, -, hitems⟩ := hend
    exact ⟨w, hbase, .inl hitems⟩
  | error e t =>
    rw [hexec] at hend
    obtain ⟨w, hbase, hitems⟩ := hend
    exact ⟨w, hbase, hitems.symm.imp id fun h => ⟨rfl, h⟩⟩

/-- `get` changes nothing, and returns what is there or the default. -/
theorem get_end (f : DequeFaults) (key : Text) (q : CacheFile) :
    Base f q.file.items (get f key q).1.file.items ∧
      ∀ v, (get f key q).2 = .ok (some v) → CacheTable.get key (get f key q).1.file.items = some v := by
  have hend := execute_end (getImpl_end key) f q
  unfold get
  cases hexec : execute f (getImpl key) q with
  | ok b t =>
    rw [hexec] at hend
    obtain ⟨w, hbase, hb, hitems⟩ := hend
    refine ⟨hitems ▸ hbase, fun v hv => ?_⟩
    obtain rfl := Except.ok.inj hv
    rw [show t.file.items = w from hitems]
    exact hb.symm
  | error e t =>
    rw [hexec] at hend
    obtain ⟨w, hbase, hitems⟩ := hend
    have hitems : t.file.items = w := hitems.elim id id
    cases e with
    | database => exact ⟨hitems ▸ hbase, nofun⟩
    | index | cancelled => exact ⟨hitems ▸ hbase, nofun⟩

theorem Base.get {f : DequeFaults} {u w : CacheTable} (h : Base f u w) {key : Text} {v : Bytes}
    (hv : CacheTable.get key w = some v) : CacheTable.get key u = some v := by
  rcases h with rfl | ⟨-, rfl⟩
  · exact hv
  · cases hv

end CacheFile

/-! ### Runs -/

namespace CacheRun
variable {file : SqlTable (Text × Bytes)} {s : CacheRun}
open CacheFile

/-- What the file holds may be read. -/
def Fresh (file : SqlTable (Text × Bytes)) (s : CacheRun) : Prop :=
  ∀ key v, s.lookup key = some v → v ∈ s.mayRead file key

theorem fresh_init (file : SqlTable (Text × Bytes)) : Fresh file (init file) := by
  intro key v h
  have hv : CacheTable.get key file.items = some v := h
  show v ∈ (CacheTable.get key file.items).toList
  rw [hv]
  exact List.mem_singleton_self v

theorem Fresh.step (h : Fresh file s) (e : DequeFaults × CacheOp) : Fresh file (step e s) := by
  obtain ⟨f, op⟩ := e
  intro k v hv
  cases op with
  | set key value =>
    obtain ⟨w, hbase, hitems⟩ := set_end f key value s.cache
    change CacheTable.get k (CacheFile.set f key value s.cache).1.file.items = some v at hv
    show v ∈ Write.mayRead _ (s.writes ++ [⟨key, value, _⟩]) k
    rw [Write.mayRead_append]
    rcases hitems with hitems | ⟨hraised, hitems⟩
    · rw [hitems, CacheTable.get_set] at hv
      split at hv
      case isTrue hk =>
        obtain rfl := Option.some.inj hv
        subst hk
        exact Write.mem_next_self
      case isFalse hk => exact Write.mem_next_of_ne hk (h k v (hbase.get hv))
    · rw [hitems] at hv
      exact Write.mem_next_of_interrupted hraised (h k v (hbase.get hv))
  | get key =>
    obtain ⟨hbase, -⟩ := get_end f key s.cache
    exact h k v (hbase.get hv)

/-- Whatever calls are made and wherever they are stopped, by errors of SQLite, by cancellations, or by the loss of the
file in between: a `get` returns the default, or the value of the last `set` of the key that returned or of one that
raised after it. -/
theorem gets_fresh (file : SqlTable (Text × Bytes)) (es : List (DequeFaults × CacheOp)) :
    Run.Along step (ReadsFresh file) (init file) es := by
  refine (Run.along_true (init file) es).of_invariant (fun s e h _ => h.step e) (fun s e h _ => ?_) (fresh_init file)
  obtain ⟨f, op⟩ := e
  cases op with
  | set key value => trivial
  | get key =>
    intro v hv
    obtain ⟨hbase, hvalue⟩ := get_end f key s.cache
    exact h key v (hbase.get (hvalue v hv))

/-- Some `set` of the key has returned, or the file had it from the start. -/
def Stored (file : SqlTable (Text × Bytes)) (s : CacheRun) (key : Text) : Prop :=
  (CacheTable.get key file.items).isSome ∨ ∃ w ∈ s.writes, w.key = key ∧ w.returned = true

theorem stored_step (hs : ∀ key, s.Stored file key → (s.lookup key).isSome) {e : DequeFaults × CacheOp}
    (he : ¬ FirstFails e.1) (key : Text) (hkey : (step e s).Stored file key) : ((step e s).lookup key).isSome := by
  obtain ⟨f, op⟩ := e
  have hbase : ∀ {w}, Base f s.cache.file.items w → w = s.cache.file.items := fun h => h.elim id fun h => absurd h.1 he
  cases op with
  | set k value =>
    obtain ⟨w, hw, hitems⟩ := set_end f k value s.cache
    obtain rfl := hbase hw
    show (CacheTable.get key (CacheFile.set f k value s.cache).1.file.items).isSome
    have hold : key ≠ k ∨ (CacheFile.set f k value s.cache).2.isOk = false → (s.lookup key).isSome := by
      intro hother
      refine hs key (hkey.imp id ?_)
      rintro ⟨w, hw, rfl, hreturned⟩
      rcases List.mem_append.1 hw with hw | hw
      · exact ⟨w, hw, rfl, hreturned⟩
      · obtain rfl := List.mem_singleton.1 hw
        rcases hother with hne | hraised
        · exact absurd rfl hne
        · exact absurd (hraised.symm.trans hreturned) nofun
    rcases hitems with hitems | ⟨hraised, hitems⟩
    · rw [hitems, CacheTable.get_set]
      split
      · rfl
      case isFalse hne => exact hold (.inl hne)
    · rw [hitems]
      exact hold (.inr hraised)
  | get k =>
    obtain ⟨hw, -⟩ := get_end f k s.cache
    show (CacheTable.get key (CacheFile.get f k s.cache).1.file.items).isSome
    rw [hbase hw]
    exact hs key hkey

/-- As long as SQLite raises no error a stored key stays in the file, wherever calls are cancelled. -/
theorem values_kept (file : SqlTable (Text × Bytes)) (es : List (DequeFaults × CacheOp))
    (h : ∀ e ∈ es, ¬ FirstFails e.1) (key : Text) (hkey : (Run.run step (init file) es).Stored file key) :
    ((Run.run step (init file) es).lookup key).isSome := by
  have hinit : ∀ key, (init file).Stored file key → ((init file).lookup key).isSome := by
    rintro key (hfile | ⟨w, hw, -⟩)
    · exact hfile
    · cases hw
  have halong : Run.Along step _ (init file) es := (Run.along_true (init file) es).and_mem h
  have hall := halong.invariant (I := fun s => ∀ key, s.Stored file key → (s.lookup key).isSome)
    (fun s e hs he => stored_step hs he.2) hinit
  exact hall key hkey

/-- A value is stored, and the task of the next `set` is cancelled at its commit. -/
def sampleSets : List (DequeFaults × CacheOp) :=
  [(.none, .set "led".toList [1]),
    (⟨DequeOp.faultAt .commit (.cancelled false), true, none, fun _ => none, none⟩, .set "led".toList [2])]

theorem values_kept_sample : ((Run.run step (init .empty) sampleSets).lookup "led".toList).isSome :=
  values_kept .empty sampleSets (by
    rintro e he ⟨c, hc⟩
    simp only [sampleSets, List.mem_cons, List.not_mem_nil, or_false] at he
    rcases he with rfl | rfl
    · cases hc
    · cases c <;> cases hc) "led".toList (.inr ⟨⟨"led".toList, [1], true⟩, by decide +kernel, rfl, rfl⟩)

end CacheRun
end Daemon
end McuBridge
