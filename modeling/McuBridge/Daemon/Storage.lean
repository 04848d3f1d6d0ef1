import McuBridge.Daemon.Config
import McuBridge.Daemon.DequeFifo

/-! # The mailbox queues and the datastore of a configured daemon

`SqliteDeque` opens a connection for each call. A database in a file is there when the next one is opened; a
`:memory:` database ends with its connection. So the queues are queues, and the datastore stores, exactly when
`configure` puts them in files. -/

namespace McuBridge
namespace Daemon

/-! ### What is expected -/

inductive StorageEvent where
  | outgoing (e : DequeEvent Bytes)
  | incoming (e : DequeEvent Bytes)
  | put (key : Text) (value : Bytes)
  | get (key : Text)

inductive StorageReply where
  | queue (r : DequeReply Bytes)
  | stored
  | value (v : Option Bytes)

/-- Two bounded queues and a map. -/
structure IdealStorage where
  outgoing : BoundedFifo Bytes
  incoming : BoundedFifo Bytes
  datastore : Text → Option Bytes

namespace IdealStorage

def exec : StorageEvent → IdealStorage → IdealStorage × StorageReply
  | .outgoing e, s => ({ s with outgoing := (e.onFifo s.outgoing).1 }, .queue (e.onFifo s.outgoing).2)
  | .incoming e, s => ({ s with incoming := (e.onFifo s.incoming).1 }, .queue (e.onFifo s.incoming).2)
  | .put key value, s => ({ s with datastore := Function.update s.datastore key (some value) }, .stored)
  | .get key, s => (s, .value (s.datastore key))

end IdealStorage

/-! ### What there is -/

/-- The table of `SqliteCache`; `key` is its primary key. -/
abbrev CacheTable := List (Text × Bytes)

namespace CacheTable

/-- `INSERT OR REPLACE INTO cache` -/
def set (key : Text) (value : Bytes) (t : CacheTable) : CacheTable := t.filter (fun row => row.1 ≠ key) ++ [(key, value)]

/-- `SELECT value FROM cache WHERE key = ?` -/
def get (key : Text) (t : CacheTable) : Option Bytes := (t.find? fun row => row.1 = key).map Prod.snd

theorem get_set (t : CacheTable) (key k : Text) (value : Bytes) :
    (t.set key value).get k = if k = key then some value else t.get k := by
  unfold get set
  rw [List.find?_append]
  by_cases h : k = key
  · subst h
    have hnone : (t.filter fun row => row.1 ≠ k).find? (fun row => row.1 = k) = none := by
      rw [List.find?_eq_none]
      intro row hrow
      have := (List.mem_filter.1 hrow).2
      simpa using this
    rw [hnone, if_pos rfl, Option.none_or]
    simp
  · have hfind : (t.filter fun row => row.1 ≠ key).find? (fun row => row.1 = k) = t.find? fun row => row.1 = k := by
      rw [List.find?_filter]
      congr 1
      funext row
      by_cases hrow : row.1 = k
      · simp [hrow, h]
      · simp [hrow]
    have hlast : ([(key, value)] : CacheTable).find? (fun row => row.1 = k) = none := by
      simp [Ne.symm h]
    rw [hfind, hlast, if_neg h, Option.or_none]

end CacheTable

/-- A `SqliteDeque` object, without the file. -/
structure QueueObject where
  path : DbPath
  length : Nat
  maxlen : Option Nat

/-- The databases on the disk, and the objects that `configure` makes. -/
structure Storage where
  tables : PyPath → SqlTable Bytes
  cache : CacheTable
  mailboxQueue : QueueObject
  mailboxIncomingQueue : QueueObject
  datastore : Option PyPath

namespace DbPath

/-- The table that a new connection finds. -/
def table (tables : PyPath → SqlTable Bytes) : DbPath → SqlTable Bytes
  | memory => .empty
  | file p => tables p

/-- What a connection leaves behind. -/
def leave (table : SqlTable Bytes) (tables : PyPath → SqlTable Bytes) : DbPath → PyPath → SqlTable Bytes
  | memory => tables
  | file p => Function.update tables p table

end DbPath

namespace QueueObject

/-- `__init__` -/
def init (tables : PyPath → SqlTable Bytes) (path : DbPath) (maxlen : Nat) : QueueObject :=
  ⟨path, (path.table tables).count, some maxlen⟩

/-- The object with the table its next connection finds. -/
def opened (tables : PyPath → SqlTable Bytes) (d : QueueObject) : DequeFile Bytes :=
  ⟨d.path.table tables, .empty, false, d.length, d.maxlen⟩

def exec (e : DequeEvent Bytes) (tables : PyPath → SqlTable Bytes) (d : QueueObject) :
    (PyPath → SqlTable Bytes) × QueueObject × DequeReply Bytes :=
  let r := e.onFile (d.opened tables)
  (d.path.leave r.1.file tables, { d with length := r.1.length, maxlen := r.1.maxlen }, r.2)

end QueueObject

namespace Storage

def init (tables : PyPath → SqlTable Bytes) (cache : CacheTable) (st : Stores) : Storage where
  tables := tables
  cache := cache
  mailboxQueue := .init tables st.mailboxQueue st.maxlen
  mailboxIncomingQueue := .init tables st.mailboxIncomingQueue st.maxlen
  datastore := st.datastore

def exec : StorageEvent → Storage → Storage × StorageReply
  | .outgoing e, s =>
    let r := s.mailboxQueue.exec e s.tables
    ({ s with tables := r.1, mailboxQueue := r.2.1 }, .queue r.2.2)
  | .incoming e, s =>
    let r := s.mailboxIncomingQueue.exec e s.tables
    ({ s with tables := r.1, mailboxIncomingQueue := r.2.1 }, .queue r.2.2)
  | .put key value, s => (if s.datastore.isSome then { s with cache := s.cache.set key value } else s, .stored)
  | .get key, s => (s, .value (if s.datastore.isSome then s.cache.get key else none))

end Storage

/-- From whatever is on the disk, the storage answers like two queues with the configured bound and a map. -/
def StorageWorks (st : Stores) : Prop :=
  ∀ tables cache, ∃ outgoing incoming datastore, ∀ es,
    Run.answers Storage.exec (.init tables cache st) es =
      Run.answers IdealStorage.exec ⟨⟨outgoing, some st.maxlen⟩, ⟨incoming, some st.maxlen⟩, datastore⟩ es

/-- `configure` puts all three databases in files. -/
def RuntimeConfig.FileBacked (mkdir : PyPath → Bool) (cfg : RuntimeConfig) : Prop :=
  (cfg.allowNonTmpPaths ∨ "/tmp/".toList <+: (createRuntimeState cfg).fileSystemRoot) ∧
    ∀ subdir ∈ ["mailbox_out".toList, "mailbox_in".toList, "datastore".toList],
      mkdir ((createRuntimeState cfg).directory subdir)

/-! ### In files -/

namespace Storage

/-- Queues in two files and a datastore in a third, as the ideal storage has them. -/
structure Refines (out inc : PyPath) (s : Storage) (t : IdealStorage) : Prop where
  distinct : out ≠ inc
  outPath : s.mailboxQueue.path = .file out
  incPath : s.mailboxIncomingQueue.path = .file inc
  outgoing : DequeEvent.Refines (s.mailboxQueue.opened s.tables) t.outgoing
  incoming : DequeEvent.Refines (s.mailboxIncomingQueue.opened s.tables) t.incoming
  isSome : s.datastore.isSome
  datastore : ∀ k, s.cache.get k = t.datastore k

theorem opened_update_of_ne {d : QueueObject} {p q : PyPath} (hd : d.path = .file p) (hne : p ≠ q)
    (tables : PyPath → SqlTable Bytes) (table : SqlTable Bytes) :
    d.opened (Function.update tables q table) = d.opened tables := by
  simp only [QueueObject.opened, hd, DbPath.table, Function.update_of_ne hne]

theorem opened_exec {d : QueueObject} {p : PyPath} (hd : d.path = .file p) (e : DequeEvent Bytes)
    (tables : PyPath → SqlTable Bytes) :
    ((d.exec e tables).2.1.opened (d.exec e tables).1).view = (e.onFile (d.opened tables)).1.view := by
  simp only [QueueObject.exec, QueueObject.opened, hd, DbPath.table, DbPath.leave, Function.update_self]
  rfl

theorem step_refines {out inc : PyPath} {s : Storage} {t : IdealStorage} (h : Refines out inc s t) (e : StorageEvent) :
    (exec e s).2 = (IdealStorage.exec e t).2 ∧ Refines out inc (exec e s).1 (IdealStorage.exec e t).1 := by
  cases e with
  | outgoing e =>
    obtain ⟨hreply, hnext⟩ := DequeEvent.step_refines e h.outgoing
    refine ⟨congrArg StorageReply.queue hreply, { h with outgoing := ?own, incoming := ?other }⟩
    case own => exact (opened_exec h.outPath e s.tables).trans hnext
    case other =>
      show DequeEvent.Refines (s.mailboxIncomingQueue.opened (s.mailboxQueue.path.leave _ s.tables)) t.incoming
      rw [h.outPath, DbPath.leave, opened_update_of_ne h.incPath h.distinct.symm]
      exact h.incoming
  | incoming e =>
    obtain ⟨hreply, hnext⟩ := DequeEvent.step_refines e h.incoming
    refine ⟨congrArg StorageReply.queue hreply, { h with incoming := ?own, outgoing := ?other }⟩
    case own => exact (opened_exec h.incPath e s.tables).trans hnext
    case other =>
      show DequeEvent.Refines (s.mailboxQueue.opened (s.mailboxIncomingQueue.path.leave _ s.tables)) t.outgoing
      rw [h.incPath, DbPath.leave, opened_update_of_ne h.outPath h.distinct]
      exact h.outgoing
  | put key value =>
    refine ⟨rfl, ?_⟩
    rw [exec, if_pos h.isSome]
    refine { h with datastore := fun k => ?_ }
    show (s.cache.set key value).get k = Function.update t.datastore key (some value) k
    rw [CacheTable.get_set, Function.update_apply, h.datastore]
  | get key =>
    refine ⟨?_, h⟩
    show StorageReply.value (if s.datastore.isSome then s.cache.get key else none) = .value (t.datastore key)
    rw [if_pos h.isSome, h.datastore]

theorem works_of_files {st : Stores} {out inc store : PyPath} (hout : st.mailboxQueue = .file out)
    (hinc : st.mailboxIncomingQueue = .file inc) (hstore : st.datastore = some store) (hne : out ≠ inc) :
    StorageWorks st := by
  intro tables cache
  refine ⟨(tables out).items, (tables inc).items, cache.get, fun es => ?_⟩
  have hload : ∀ p, DequeEvent.Refines ⟨tables p, .empty, false, (tables p).count, some st.maxlen⟩
      ⟨(tables p).items, some st.maxlen⟩ := fun p => DequeEvent.refines_load (tables p) (some st.maxlen)
  have hstart : Refines out inc (init tables cache st)
      ⟨⟨(tables out).items, some st.maxlen⟩, ⟨(tables inc).items, some st.maxlen⟩, cache.get⟩ := by
    refine ⟨hne, hout, hinc, ?_, ?_, ?_, fun k => rfl⟩
    · simpa only [init, QueueObject.init, QueueObject.opened, hout, DbPath.table] using hload out
    · simpa only [init, QueueObject.init, QueueObject.opened, hinc, DbPath.table] using hload inc
    · rw [init, hstore]
      rfl
  have hstep : ∀ s t e, Refines out inc s t →
      (exec e s).2 = (IdealStorage.exec e t).2 ∧ Refines out inc (exec e s).1 (IdealStorage.exec e t).1 :=
    fun s t e h => step_refines h e
  exact Run.answers_eq hstep hstart es

/-! ### In memory -/

/-- A queue in memory is empty at every `popleft`. -/
theorem memory_popleft {d : QueueObject} (hd : d.path = .memory) (tables : PyPath → SqlTable Bytes) :
    (d.exec (.op .popleft) tables).2.2 = .result (.error .index) := by
  rcases DequeOp.popleft.perform_none (d.opened tables) with ⟨r, t, -, himpl⟩ | ⟨t, hperf, -, -⟩
  · simp only [QueueObject.opened, hd, DbPath.table] at himpl
    cases himpl
  · show DequeReply.result (DequeOp.popleft.perform .none (d.opened tables)).2 = _
    rw [hperf]

theorem push_popleft (items : List Bytes) {n : Nat} (hn : 0 < n) (item : Bytes) :
    ∃ x, (DequeEvent.onFifo (.op .popleft) ((⟨items, some n⟩ : BoundedFifo Bytes).push item)).2 =
      .result (.ok (some x)) := by
  have hlen : 0 < ((⟨items, some n⟩ : BoundedFifo Bytes).push item).items.length := by
    show 0 < (BoundedFifo.evict n (items ++ [item])).length
    rw [BoundedFifo.evict_length, List.length_append, List.length_singleton]
    omega
  unfold DequeEvent.onFifo BoundedFifo.pop
  cases hitems : ((⟨items, some n⟩ : BoundedFifo Bytes).push item).items with
  | nil =>
    rw [hitems] at hlen
    exact absurd hlen (Nat.lt_irrefl 0)
  | cons x xs => exact ⟨x, by simp only [hitems]⟩

theorem outgoing_file {st : Stores} (hn : 0 < st.maxlen) (h : StorageWorks st) : st.mailboxQueue ≠ .memory := by
  intro hmem
  obtain ⟨outgoing, incoming, datastore, hans⟩ := h (fun _ => .empty) []
  have hboth := hans [.outgoing (.op (.append [0])), .outgoing (.op .popleft)]
  have hreply := StorageReply.queue.inj (List.cons.inj (List.cons.inj hboth).2).1
  rw [memory_popleft hmem] at hreply
  obtain ⟨x, hx⟩ := push_popleft outgoing hn [0]
  cases hreply.trans hx

theorem incoming_file {st : Stores} (hn : 0 < st.maxlen) (h : StorageWorks st) : st.mailboxIncomingQueue ≠ .memory := by
  intro hmem
  obtain ⟨outgoing, incoming, datastore, hans⟩ := h (fun _ => .empty) []
  have hboth := hans [.incoming (.op (.append [0])), .incoming (.op .popleft)]
  have hreply := StorageReply.queue.inj (List.cons.inj (List.cons.inj hboth).2).1
  rw [memory_popleft hmem] at hreply
  obtain ⟨x, hx⟩ := push_popleft incoming hn [0]
  cases hreply.trans hx

theorem datastore_file {st : Stores} (h : StorageWorks st) : st.datastore ≠ none := by
  intro hnone
  obtain ⟨outgoing, incoming, datastore, hans⟩ := h (fun _ => .empty) []
  have hboth := hans [.put [] [0], .get []]
  have hreply := StorageReply.value.inj (List.cons.inj (List.cons.inj hboth).2).1
  simp only [exec, init, hnone, IdealStorage.exec, Function.update_self] at hreply
  cases hreply

end Storage

/-! ### The configuration -/

namespace RuntimeConfig

theorem stores_maxlen_pos (mkdir : PyPath → Bool) (cfg : RuntimeConfig) : 0 < (cfg.stores mkdir).maxlen := by
  show 0 < (if cfg.mailboxQueueLimit = 0 then defaultMailboxQueueLimit else cfg.mailboxQueueLimit).toNat
  split
  · decide
  case isFalse h => exact Nat.pos_of_ne_zero fun h0 => h (UInt32.toNat_inj.1 h0)

/-- An empty root is replaced by the default one. -/
theorem root_ne_nil (cfg : RuntimeConfig) : (createRuntimeState cfg).fileSystemRoot.isEmpty = false := by
  show (if cfg.fileSystemRoot.isEmpty then defaultFileSystemRoot else cfg.fileSystemRoot).isEmpty = false
  split
  · rfl
  case isFalse h => exact Bool.eq_false_iff.2 h

theorem persistent_iff (st : RuntimeState) :
    st.persistent = true ↔ st.allowNonTmpPaths ∨ "/tmp/".toList <+: st.fileSystemRoot := by
  rw [RuntimeState.persistent, Bool.or_eq_true, List.isPrefixOf_iff_prefix]

theorem createSpool_eq (mkdir : PyPath → Bool) (cfg : RuntimeConfig) (subdir : Text) :
    (createRuntimeState cfg).createSpool mkdir subdir =
      if (createRuntimeState cfg).persistent && mkdir ((createRuntimeState cfg).directory subdir) then
        .file (((createRuntimeState cfg).directory subdir).joinpath "spool.db".toList)
      else .memory := by
  rw [RuntimeState.createSpool, root_ne_nil, Bool.not_false, Bool.and_true]

theorem createSpool_ne_memory {mkdir : PyPath → Bool} {cfg : RuntimeConfig} {subdir : Text}
    (h : (createRuntimeState cfg).createSpool mkdir subdir ≠ .memory) :
    (createRuntimeState cfg).persistent ∧ mkdir ((createRuntimeState cfg).directory subdir) := by
  rw [← Bool.and_eq_true]
  by_contra hfalse
  exact h ((createSpool_eq mkdir cfg subdir).trans (if_neg hfalse))

theorem datastore_eq (mkdir : PyPath → Bool) (cfg : RuntimeConfig) :
    (cfg.stores mkdir).datastore =
      if (createRuntimeState cfg).persistent && mkdir ((createRuntimeState cfg).directory "datastore".toList) then
        some (((createRuntimeState cfg).directory "datastore".toList).joinpath "data.db".toList)
      else none := by
  show (if _ && !(createRuntimeState cfg).fileSystemRoot.isEmpty && _ then _ else _) = _
  rw [root_ne_nil, Bool.not_false, Bool.and_true]

theorem spool_ne (root : PyPath) :
    (root.joinpath "mailbox_out".toList).joinpath "spool.db".toList ≠
      (root.joinpath "mailbox_in".toList).joinpath "spool.db".toList := by
  intro h
  have hparts : root.parts ++ [("mailbox_out".toList : Text)] ++ ["spool.db".toList] =
      root.parts ++ ["mailbox_in".toList] ++ ["spool.db".toList] := congrArg PyPath.parts h
  rw [List.append_assoc, List.append_assoc] at hparts
  exact absurd (List.append_cancel_left hparts) (by decide)

theorem works_iff_fileBacked (mkdir : PyPath → Bool) (cfg : RuntimeConfig) :
    StorageWorks (cfg.stores mkdir) ↔ cfg.FileBacked mkdir := by
  have hpersistent : (createRuntimeState cfg).persistent = true ↔ _ := persistent_iff (createRuntimeState cfg)
  constructor
  · intro h
    obtain ⟨hpers, hout⟩ := createSpool_ne_memory (Storage.outgoing_file (stores_maxlen_pos mkdir cfg) h)
    obtain ⟨-, hinc⟩ := createSpool_ne_memory (Storage.incoming_file (stores_maxlen_pos mkdir cfg) h)
    have hstore : mkdir ((createRuntimeState cfg).directory "datastore".toList) := by
      by_contra hfalse
      refine Storage.datastore_file h ((datastore_eq mkdir cfg).trans (if_neg fun hand => hfalse ?_))
      exact (Bool.and_eq_true_iff.1 hand).2
    refine ⟨hpersistent.1 hpers, fun subdir hmem => ?_⟩
    simp only [List.mem_cons, List.not_mem_nil, or_false] at hmem
    rcases hmem with rfl | rfl | rfl
    · exact hout
    · exact hinc
    · exact hstore
  · rintro ⟨hroot, hmkdir⟩
    have hboth : ∀ subdir ∈ ["mailbox_out".toList, "mailbox_in".toList, "datastore".toList],
        ((createRuntimeState cfg).persistent && mkdir ((createRuntimeState cfg).directory subdir)) = true := by
      intro subdir h
      rw [hpersistent.2 hroot, hmkdir subdir h]
      rfl
    refine Storage.works_of_files ((createSpool_eq mkdir cfg _).trans (if_pos (hboth _ ?_)))
      ((createSpool_eq mkdir cfg _).trans (if_pos (hboth _ ?_)))
      ((datastore_eq mkdir cfg).trans (if_pos (hboth _ ?_))) (spool_ne _)
    · decide
    · decide
    · decide

theorem validate_eq {py : PyText} {isSpace : Char → Bool} {cfg c : RuntimeConfig} (h : cfg.validate py isSpace = .ok c) :
    c = cfg.normalize py isSpace := by
  unfold validate at h
  split at h
  · cases h
  · cases h
    rfl

/-- Under a configuration that `validate_config` accepts, the storage works exactly when the root makes `configure`
choose files and their directories can be made. -/
theorem storageWorks_iff {py : PyText} {isSpace : Char → Bool} {cfg c : RuntimeConfig} (mkdir : PyPath → Bool)
    (h : cfg.validate py isSpace = .ok c) : StorageWorks (c.stores mkdir) ↔ cfg.FileBacked mkdir := by
  rw [works_iff_fileBacked, validate_eq h]
  exact Iff.rfl

/-- A configuration with the given root. -/
def sample (root : Text) : RuntimeConfig where
  topicPrefix := "br".toList
  allowedCommands := []
  allowedPolicy := []
  topicAuthorization := fun _ => true
  serialResponseTimeout := .finite 4
  serialRetryTimeout := .finite 1
  watchdogEnabled := true
  watchdogInterval := .finite 30
  serialSharedSecret := defaultSerialSharedSecret
  fileStorageQuotaBytes := 8388608
  fileWriteMaxBytes := 262144
  mailboxQueueLimit := 64
  mailboxQueueBytesLimit := 65536
  cloudSpoolDir := "/tmp/mcubridge/spool".toList
  fileSystemRoot := root
  allowNonTmpPaths := false

theorem validate_of_complaint {root : Text} (h : (sample root).complaint = none) :
    (sample root).validate .ascii Char.isWhitespace = .ok (sample root) := by
  have hnorm : (sample root).normalize .ascii Char.isWhitespace = sample root := rfl
  rw [validate, hnorm, h]

theorem storageWorks_yun_files : StorageWorks ((sample defaultFileSystemRoot).stores fun _ => true) :=
  have hvalid : (sample defaultFileSystemRoot).complaint = none := by decide +kernel
  (storageWorks_iff _ (validate_of_complaint hvalid)).2 ⟨.inr (by decide), fun _ _ => rfl⟩

/-- A root under `/run` is accepted, but what is put into the outgoing mailbox and into the datastore is lost. -/
theorem run_root_loses :
    let cfg := sample "/run/mcubridge".toList;
    cfg.validate .ascii Char.isWhitespace = .ok cfg ∧
      Run.answers Storage.exec (.init (fun _ => .empty) [] (cfg.stores fun _ => true))
          [.outgoing (.op (.append [7])), .outgoing (.op .popleft), .put "k".toList [7], .get "k".toList] =
        [.queue (.result (.ok none)), .queue (.result (.error .index)), .stored, .value none] :=
  ⟨validate_of_complaint (by decide +kernel), rfl⟩

end RuntimeConfig
end Daemon
end McuBridge
