import McuBridge.Daemon.SqliteDeque
import McuBridge.Protocol

/-! # Publishing to the cloud (`services/runtime.py`)

`enqueue_cloud` takes the publish lock, flushes the spool, tries the stream and falls back to the spool.
`_cloud_publish_lock` is fair, so the calls that wait for it are a queue; a call that has it runs alone, and what the
other tasks do meanwhile (a message put into `cloud_publish_queue`, a stream that comes or goes) is as well done
before it or answered by `CloudIo`. The fields from `tickets` on are records: messages are numbered in the order of
`enqueue_cloud`, those found in the database first. The copies put into `console_queues`, which have no bound, are
left out. -/

namespace McuBridge
namespace Daemon

/-- The fields of a `CloudQueuedPublish` that are read here. -/
structure CloudQueuedPublish where
  topicName : List Char
  payload : Bytes
  correlationData : Option Bytes
  deriving DecidableEq

inductive CloudPayload where
  | commandResponse (statusCode : Nat) (payload : Bytes)
  | daemonMetricsBlob (payload : Bytes)
  | bridgeSnapshotBlob (payload : Bytes)
  | handshakeSnapshotBlob (payload : Bytes)
  | systemStatusBlob (payload : Bytes)
  deriving DecidableEq

structure CloudEnvelope where
  protocolVersion : Nat
  deviceId : List Char
  sequenceId : Nat
  payload : CloudPayload
  deriving DecidableEq

/-- Python's `sub in s`. -/
def containsText (sub s : List Char) : Bool := s.tails.any fun t => sub.isPrefixOf t

/-- The envelope of `_publish_cloud_message`: a command response for a message with correlation data, telemetry
otherwise. -/
def cloudEnvelope (deviceId : List Char) (message : CloudQueuedPublish) : CloudEnvelope :=
  let correlation := message.correlationData.getD []
  if correlation ≠ [] then
    ⟨2, deviceId, (correlation.take 8).foldl (fun n b => n * 256 + b.toNat) 0, .commandResponse 200 message.payload⟩
  else
    let report :=
      if containsText "metrics".toList message.topicName then CloudPayload.daemonMetricsBlob
      else if containsText "summary".toList message.topicName then .bridgeSnapshotBlob
      else if containsText "handshake".toList message.topicName then .handshakeSnapshotBlob
      else .systemStatusBlob
    ⟨2, deviceId, 0, report message.payload⟩

/-- A row of the spool and the number of its message. -/
structure SpoolEntry where
  bytes : Bytes
  ticket : Nat
  deriving DecidableEq

/-- What becomes of a message that is given to the stream: there is none any more, it is sent, the exception is one
that `_publish_cloud_message` catches, or another. -/
inductive StreamOutcome where
  | gone | sent | caught | raised
  deriving DecidableEq

/-- `CloudQueuedPublish` on the wire, and what stream and database do at each use of them. -/
structure CloudIo where
  encode : CloudQueuedPublish → Option Bytes
  decode : Bytes → Option CloudQueuedPublish
  stream : Nat → StreamOutcome
  database : Nat → DbCall

/-- The uses of the spool that go through `_execute`. -/
inductive SpoolUse where
  | peek | popCorrupt | popPublished | popTrim | append | vacuum
  deriving DecidableEq

inductive CloudCall where
  | enqueue (message : CloudQueuedPublish) (ticket : Nat)
  | flush
  deriving DecidableEq

/-- The failures of a run: `QueueFull`, an exception of the stream that leaves the call, and a call of `_execute`
whose first pass raised, with the rows before it. -/
inductive CloudFailure where
  | queueFull (ticket : Nat)
  | stream (call : CloudCall)
  | database (use : SpoolUse) (rows : List SpoolEntry) (call : DbCall)
  deriving DecidableEq

/-- A message written to the stream; `behind` are the messages in the spool at that time. -/
structure CloudSend where
  envelope : CloudEnvelope
  ticket : Nat
  direct : Bool
  behind : List Nat
  deriving DecidableEq

/-- The three drop counters. -/
inductive DropCounter where
  | droppedMessages | spoolDroppedLimit | spoolCorruptDropped
  deriving DecidableEq

structure Cloud where
  deviceId : List Char
  cloudQueueLimit : Nat
  hasSpool : Bool
  spool : SqliteDeque SpoolEntry
  cloudPublishQueue : List CloudQueuedPublish := []
  waiting : List CloudCall := []
  cloudDropCounts : List (List Char × Nat) := []
  cloudDroppedMessages : Nat := 0
  cloudSpoolDroppedLimit : Nat := 0
  cloudSpoolCorruptDropped : Nat := 0
  cloudSpoolTrimEvents : Nat := 0
  cloudSpoolPendingMessages : Nat := 0
  cloudSpoolDegraded : Bool := false
  tickets : Nat := 0
  sends : List CloudSend := []
  counted : List (Nat × DropCounter) := []
  publishes : Nat := 0
  databaseCalls : Nat := 0
  failures : List CloudFailure := []
  deriving DecidableEq

/-- What `_publish_cloud_message` returns, or that it raised. -/
inductive PublishResult where
  | published | failed | raised
  deriving DecidableEq

/-- How an iteration of the flush loop ends. -/
inductive LoopEnd where
  | again | leaves | raises
  deriving DecidableEq

namespace Cloud
variable (E : CloudIo)

/-! ### Counters -/

/-- One of the drop counters goes up for the message. -/
def count (k : DropCounter) (ticket : Nat) (c : Cloud) : Cloud :=
  let c := { c with counted := c.counted ++ [(ticket, k)] }
  match k with
  | .droppedMessages => { c with cloudDroppedMessages := c.cloudDroppedMessages + 1 }
  | .spoolDroppedLimit => { c with cloudSpoolDroppedLimit := c.cloudSpoolDroppedLimit + 1 }
  | .spoolCorruptDropped => { c with cloudSpoolCorruptDropped := c.cloudSpoolCorruptDropped + 1 }

def counter : DropCounter → Cloud → Nat
  | .droppedMessages, c => c.cloudDroppedMessages
  | .spoolDroppedLimit, c => c.cloudSpoolDroppedLimit
  | .spoolCorruptDropped, c => c.cloudSpoolCorruptDropped

def bump (topic : List Char) : List (List Char × Nat) → List (List Char × Nat)
  | [] => [(topic, 1)]
  | (k, n) :: rest => if k = topic then (k, n + 1) :: rest else (k, n) :: bump topic rest

/-- `_record_cloud_drop` -/
def recordCloudDrop (topicName : List Char) (ticket : Nat) (c : Cloud) : Cloud :=
  { c.count .droppedMessages ticket with cloudDropCounts := bump topicName c.cloudDropCounts }

/-! ### Stream and database -/

/-- `_publish_cloud_message` -/
def publishCloudMessage (hasStream direct : Bool) (message : CloudQueuedPublish) (ticket : Nat) (c : Cloud) :
    Cloud × PublishResult :=
  if !hasStream then (c, .failed)
  else
    let outcome := E.stream c.publishes
    let c := { c with publishes := c.publishes + 1 }
    match outcome with
    | .gone | .caught => (c, .failed)
    | .raised => (c, .raised)
    | .sent =>
      let send := ⟨cloudEnvelope c.deviceId message, ticket, direct, c.spool.rows.map SpoolEntry.ticket⟩
      ({ c with sends := c.sends ++ [send] }, .published)

/-- A use of the spool. -/
def execute {β : Type} (use : SpoolUse) (func : SqliteDeque SpoolEntry → Option (β × SqliteDeque SpoolEntry))
    (c : Cloud) : Cloud × Except DbError β :=
  let call := E.database c.databaseCalls
  let r := c.spool.execute call func
  let failures := if call.first = .ok then c.failures else c.failures ++ [.database use c.spool.rows call]
  ({ c with spool := r.1, databaseCalls := c.databaseCalls + 1, failures := failures }, r.2)

/-! ### Flushing -/

/-- The branch of the flush loop for an entry that cannot be decoded. -/
def dropCorrupt (entry : SpoolEntry) (c : Cloud) : Cloud × LoopEnd :=
  if 0 < c.spool.length then
    match c.execute E .popCorrupt SqliteDeque.popleftImpl with
    | (c, .error _) => (c, .leaves)
    | (c, .ok _) => (c.count .spoolCorruptDropped entry.ticket, .again)
  else (c.count .spoolCorruptDropped entry.ticket, .again)

/-- The rest of the loop for a decoded entry: it is published, then removed. -/
def publishEntry (entry : SpoolEntry) (queued : CloudQueuedPublish) (c : Cloud) : Cloud × LoopEnd :=
  match c.publishCloudMessage E true false queued entry.ticket with
  | (c, .raised) => (c, .raises)
  | (c, .failed) => (c, .leaves)
  | (c, .published) =>
    match c.execute E .popPublished SqliteDeque.popleftImpl with
    | (c, .ok _) => (c, .again)
    | (c, .error .index) => (c, .leaves)
    | (c, .error .database) => ({ c with cloudSpoolDegraded := true }, .leaves)

/-- One iteration of the loop in `_flush_cloud_spool_locked`. -/
def flushStep (c : Cloud) : Cloud × LoopEnd :=
  match c.execute E .peek SqliteDeque.peekImpl with
  | (c, .error .index) => (c, .leaves)
  | (c, .error .database) => ({ c with cloudSpoolDegraded := true }, .leaves)
  | (c, .ok entry) =>
    match E.decode entry.bytes with
    | none => c.dropCorrupt E entry
    | some queued => c.publishEntry E entry queued

/-- Decreases in every iteration that is followed by another one. -/
def flushMeasure (c : Cloud) : Nat := if c.spool.length = 0 then 0 else c.spool.rows.length + 1

@[simp] theorem count_spool (k : DropCounter) (t : Nat) (c : Cloud) : (c.count k t).spool = c.spool := by
  cases k <;> rfl

theorem publishCloudMessage_spool {hasStream direct : Bool} {m : CloudQueuedPublish} {ticket : Nat} {c t : Cloud}
    {r : PublishResult} (h : c.publishCloudMessage E hasStream direct m ticket = (t, r)) : t.spool = c.spool := by
  unfold publishCloudMessage at h
  split at h
  · cases h
    rfl
  · dsimp only at h
    split at h <;> cases h <;> rfl

theorem execute_spool {β : Type} {use : SpoolUse}
    {func : SqliteDeque SpoolEntry → Option (β × SqliteDeque SpoolEntry)} {c t : Cloud} {r : Except DbError β}
    (h : c.execute E use func = (t, r)) : c.spool.execute (E.database c.databaseCalls) func = (t.spool, r) := by
  cases h
  rfl

theorem flushMeasure_le (c : Cloud) : c.flushMeasure ≤ c.spool.rows.length + 1 := by
  unfold flushMeasure
  split <;> omega

theorem flushStep_lt {c t : Cloud} (hlen : c.spool.length ≠ 0) (h : c.flushStep E = (t, .again)) :
    t.flushMeasure < c.flushMeasure := by
  have hc : c.flushMeasure = c.spool.rows.length + 1 := if_neg hlen
  have ht := flushMeasure_le t
  unfold flushStep at h
  split at h
  · cases h
  · cases h
  case h_3 u entry hpeek =>
    have hle := SqliteDeque.peek_le (execute_spool E hpeek)
    split at h
    · unfold dropCorrupt at h
      split at h
      · split at h
        · cases h
        case h_2 v item hpop =>
          have hlt := SqliteDeque.popleft_lt (execute_spool E hpop)
          cases h
          rw [count_spool] at ht
          omega
      case isFalse hzero =>
        -- nothing is removed, and the loop ends at its next test
        cases h
        have hz : (u.count .spoolCorruptDropped entry.ticket).spool.length = 0 := by
          rw [count_spool]
          omega
        rw [flushMeasure, if_pos hz]
        omega
    · unfold publishEntry at h
      split at h
      · cases h
      · cases h
      case h_3 v hpub =>
        have hspool := publishCloudMessage_spool E hpub
        split at h
        case h_1 w item hpop =>
          have hlt := SqliteDeque.popleft_lt (execute_spool E hpop)
          cases h
          rw [hspool] at hlt
          omega
        · cases h
        · cases h

/-- The loop of `_flush_cloud_spool_locked`, with whether an exception leaves it. `spool_len` is the current
`_length` at each test. -/
def flushLoop (c : Cloud) : Cloud × Bool :=
  if _hlen : c.spool.length = 0 then (c, false)
  else
    match _h : c.flushStep E with
    | (t, .again) => flushLoop t
    | (t, .leaves) => (t, false)
    | (t, .raises) => (t, true)
termination_by c.flushMeasure
decreasing_by exact flushStep_lt E _hlen _h

/-- What follows the loop: the number of pending messages, and `VACUUM` when there are none. -/
def finishFlush (c : Cloud) : Cloud :=
  let c := { c with cloudSpoolPendingMessages := c.spool.length }
  if c.spool.length = 0 then
    match c.execute E .vacuum SqliteDeque.vacuumImpl with
    | (c, .ok _) => c
    | (c, .error _) => { c with cloudSpoolDegraded := true }
  else c

/-- `_flush_cloud_spool_locked` -/
def flushCloudSpoolLocked (hasStream : Bool) (c : Cloud) : Cloud × Bool :=
  if !hasStream || !c.hasSpool then (c, false)
  else
    let r := c.flushLoop E
    if r.2 then r else (r.1.finishFlush E, false)

/-! ### Spooling -/

/-- The trimming loop of `_spool_cloud_message_locked`. -/
def trimLoop (c : Cloud) : Cloud :=
  if c.cloudQueueLimit ≤ c.spool.length then
    match _h : c.execute E .popTrim SqliteDeque.popleftImpl with
    | (t, .ok entry) => trimLoop (t.count .spoolDroppedLimit entry.ticket)
    | (t, .error _) => t
  else c
termination_by c.spool.rows.length
decreasing_by
  rw [count_spool]
  exact SqliteDeque.popleft_lt (execute_spool E _h)

/-- The part of `_spool_cloud_message_locked` before the message is encoded. -/
def trimSpool (c : Cloud) : Cloud :=
  if 0 < c.cloudQueueLimit then
    let c := c.trimLoop E
    if 0 < c.cloudSpoolDroppedLimit then { c with cloudSpoolTrimEvents := c.cloudSpoolTrimEvents + 1 } else c
  else c

/-- `_spool_cloud_message_locked` -/
def spoolCloudMessageLocked (message : CloudQueuedPublish) (ticket : Nat) (c : Cloud) : Cloud × Bool :=
  if !c.hasSpool then (c, false)
  else
    let c := c.trimSpool E
    match E.encode message with
    | none => (c, false)
    | some encoded =>
      match c.execute E .append (SqliteDeque.appendImpl ⟨encoded, ticket⟩) with
      | (c, .ok _) => ({ c with cloudSpoolDegraded := false, cloudSpoolPendingMessages := c.spool.length }, true)
      | (c, .error _) => ({ c with cloudSpoolDegraded := true }, false)

/-! ### The two entry points -/

/-- `enqueue_cloud` after its flush: the stream, the spool, or the drop counter. -/
def publishOrSpool (hasStream : Bool) (message : CloudQueuedPublish) (ticket : Nat) (c : Cloud) : Cloud × Bool :=
  match c.publishCloudMessage E hasStream true message ticket with
  | (c, .raised) => (c, true)
  | (c, .published) => (c, false)
  | (c, .failed) =>
    match c.spoolCloudMessageLocked E message ticket with
    | (c, true) => (c, false)
    | (c, false) => (c.recordCloudDrop message.topicName ticket, false)

/-- `enqueue_cloud` under the lock, with whether an exception leaves it. Where the flush finds no stream, nothing is
awaited before the message is published, and there is none then either. -/
def enqueueLocked (hasStream : Bool) (message : CloudQueuedPublish) (ticket : Nat) (c : Cloud) : Cloud × Bool :=
  match c.flushCloudSpoolLocked E hasStream with
  | (c, true) => (c, true)
  | (c, false) => c.publishOrSpool E hasStream message ticket

/-- `enqueue_cloud` up to the lock. -/
def enqueueCloud (message : CloudQueuedPublish) (c : Cloud) : Cloud :=
  let ticket := c.tickets
  let c := { c with tickets := ticket + 1 }
  if 0 < c.cloudQueueLimit ∧ c.cloudQueueLimit ≤ c.cloudPublishQueue.length then
    { c with failures := c.failures ++ [.queueFull ticket] }
  else
    { c with
      cloudPublishQueue := c.cloudPublishQueue ++ [message]
      waiting := c.waiting ++ [.enqueue message ticket] }

/-- The call holds the lock; `c` is the state without it. -/
def runCall (hasStream : Bool) (call : CloudCall) (c : Cloud) : Cloud :=
  let r :=
    match call with
    | .enqueue message ticket => c.enqueueLocked E hasStream message ticket
    | .flush => c.flushCloudSpoolLocked E hasStream
  let c := if r.2 then { r.1 with failures := r.1.failures ++ [.stream call] } else r.1
  match call with
  | .enqueue _ _ => { c with cloudPublishQueue := c.cloudPublishQueue.drop 1 }
  | .flush => c

end Cloud

inductive CloudEvent where
  | enqueue (message : CloudQueuedPublish)
  | flush
  /-- The lock goes to the call that waits longest. -/
  | proceed (hasStream : Bool)
  deriving DecidableEq

namespace Cloud
variable (E : CloudIo)

def step : CloudEvent → Cloud → Cloud
  | .enqueue message, c => c.enqueueCloud message
  | .flush, c => { c with waiting := c.waiting ++ [.flush] }
  | .proceed hasStream, c =>
    match c.waiting with
    | [] => c
    | call :: rest => ({ c with waiting := rest } : Cloud).runCall E hasStream call

/-- The service as it is constructed, on a database with the given items; `none` without a spool directory. -/
def start (deviceId : List Char) (cloudQueueLimit : Nat) (readable : Bool) (items : Option (List Bytes)) : Cloud where
  deviceId := deviceId
  cloudQueueLimit := cloudQueueLimit
  hasSpool := items.isSome
  spool := .load ((items.getD []).zipIdx.map fun x => ⟨x.1, x.2⟩) (some cloudQueueLimit) readable
  tickets := (items.getD []).length

end Cloud
end Daemon
end McuBridge
