import McuBridge.Daemon.ReadLoop

/-! # Exceptions inside the read loop (`transport/serial.py`, `services/runtime.py`)

What `_process_packet` raises on a frame that `parse_frame` accepted, and what becomes of the connection then.
`_read_loop` catches some classes and stops; any other ends its task, and `_connect_and_run` raises it again
before `on_serial_disconnected`. The host is asked through `HostCall`s, in the order of the source; `Faults` says
which of them raise. Errors that the callee handles itself are left out: `SqliteCache.get`, the quota check,
`_terminate_process`, and an `OSError` of `create_subprocess_exec`. -/

namespace McuBridge
namespace Daemon

/-- Exceptions by the class `_read_loop` tells apart. -/
inductive PyExc where
  | osError | runtimeError | valueError | typeError
  | attributeError | decodeError | sqliteError | overflowError | queueFull | grpcError
  deriving DecidableEq

/-- The `except` clause of `_read_loop`. -/
def PyExc.isCaught : PyExc → Bool
  | .osError | .runtimeError | .valueError | .typeError => true
  | _ => false

inductive HostCall where
  | switchBaudrate
  | enqueueCloud
  | cacheSet (key : Text)
  | mailboxAppend
  | mailboxPopleft
  | safePath (path : Text)
  | writeBytes (path : Text)
  | isFile (path : Text)
  | readBytes (path : Text)
  | pathExists (path : Text)
  | unlink (path : Text)
  | createSubprocess (command : Text)
  | pollResponse (pid : UInt32)

/-- `exitCode` is the `exit_code` of a running process: a signal leaves a negative one. -/
structure Faults where
  raises : HostCall → Option PyExc
  exitCode : UInt32 → Int

namespace HostCall

/-- What the call raises. -/
def fault (h : McuHost) (f : Faults) : HostCall → Option PyExc
  | .unlink p => if h.pathUnlink p then none else some .osError
  | .pollResponse pid => if (Service.pbUint32 (f.exitCode pid)).isSome then none else some .valueError
  | c => f.raises c

end HostCall

namespace Service

/-- The calls of a handler that reads the message `m`. -/
def messageCalls (h : McuHost) (s : Service) : PayloadType → List HostCall
  | .consoleWrite d => if d.isEmpty then [] else [.enqueueCloud]
  | .datastorePut key _ => (if s.datastoreCache.isSome then [.cacheSet (h.text key)] else []) ++ [.enqueueCloud]
  | .mailboxPush _ => [.mailboxAppend, .enqueueCloud]
  | .mailboxProcessed _ | .spiTransferResponse _ | .digitalReadResponse _ | .analogReadResponse _ => [.enqueueCloud]
  | .fileWrite path data => .safePath (h.text path) ::
    match h.safePath (h.text path) with
    | some p => if h.writeWithQuota p data then [.writeBytes p] else []
    | none => []
  | .fileRead path => .safePath (h.text path) ::
    match h.safePath (h.text path) with
    | some p => .isFile p :: if h.isFile p then [.readBytes p] else []
    | none => []
  | .fileRemove path => .safePath (h.text path) ::
    match h.safePath (h.text path) with
    | some p => .pathExists p :: if h.pathExists p then [.unlink p] else []
    | none => []
  | .processRunAsync command =>
    if !(h.text command).isEmpty && h.isCommandAllowed (h.text command) then [.createSubprocess (h.text command)] else []
  | .processPoll pid => if (pid.toNat : Int) ∈ s.runningProcesses then [.pollResponse pid] else []
  | _ => []

/-- The calls of the handler of `cmd`. -/
def hostCalls (h : McuHost) (cmd : UInt16) (p : Payload) (s : Service) : List HostCall :=
  match commandToPb.lookup cmd, p with
  | some _, .message m => s.messageCalls h m
  | some _, .bytes _ => []
  | none, _ =>
    if cmd = Command.mailboxRead.toUnderlying then [.mailboxPopleft]
    else if Link.isStatusValue cmd.toUInt32 && cmd != Status.ack.toUnderlying then [.enqueueCloud]
    else []

end Service

namespace Link
variable (P : Platform) (random : Nat → UInt32)

/-- `_flush_console_queue` after XON: the first chunk is built before the reader waits, and no second one follows. -/
def flushRaises (d : Link) : Option PyExc :=
  match nextChunk d.service.consoleToMcuQueue with
  | some chunk =>
    if d.serial && !d.frameBuilds P random Command.consoleWrite.toUnderlying (.message (.consoleWrite chunk)) none then
      some .valueError
    else none
  | none => none

/-- The handler, and the frames it sends. The acknowledgment after them always fits. -/
def handlerRaises (io : Io) (f : Faults) (handler : McuHandler) (cmd : UInt16) (p : Payload) (d : Link) :
    Option PyExc :=
  if !Service.readable cmd p then some .attributeError
  else
    match (d.service.hostCalls io.host cmd p).findSome? fun c => c.fault io.host f with
    | some e => some e
    | none =>
      match handler io.host (d.serial && io.writes) p d.service with
      | none => none
      | some r =>
        if cmd = Command.xon.toUnderlying then d.flushRaises P random
        else if (sendReplies P random io.writes r.replies { d with service := r.service }).2 then none
        else some .valueError

/-- `handle_handshake_failure`: the back-off is computed in floating point, which ends at `2 ** 1024`. -/
def failureRaises (f : Faults) (threshold : Nat) (d : Link) : Option PyExc :=
  if 1024 ≤ d.handshakeFailureStreak + 1 - threshold then some .overflowError else f.raises .enqueueCloud

def linkSyncRespRaises (io : Io) (f : Faults) (payload : Payload) (d : Link) : Option PyExc :=
  match d.linkHandshakeNonce with
  | none => d.failureRaises f 3
  | some expected =>
    if io.throttled then d.failureRaises f 3
    else
      match readLinkSync io.host payload with
      | none =>
        match payload with
        | .message _ => some .attributeError
        | .bytes _ => d.failureRaises f 3
      | some m =>
        if m.nonce ≠ expected then none
        -- "sync_auth_mismatch" counts from the first failure on
        else if d.linkExpectedTag = none ∨ m.tag.length ≠ aeadTagSize ∨
            m.tag ≠ calculateHandshakeTag P d.sharedSecret m.nonce then d.failureRaises f 1
        else f.raises .enqueueCloud

def mcuFrameRaises (io : Io) (f : Faults) (cmd : UInt32) (payload : Payload) (d : Link) : Option PyExc :=
  if !d.service.serial then none
  else if !(d.isSynchronized || isStatusValue cmd || preSyncAllowed cmd) then none
  else if cmd = Command.linkSyncResp.toUnderlying.toUInt32 then d.linkSyncRespRaises P io f payload
  else
    match registered cmd with
    | some handler =>
      match decodePayload io.host cmd.toUInt16 payload with
      | none => some .decodeError
      | some p => d.handlerRaises P random io f handler cmd.toUInt16 p
    | none => none

/-- `_process_packet` on a frame whose payload is `payload`. -/
def packetRaises (io : Io) (f : Faults) (env : RpcEnvelope) (payload : Payload) (d : Link) : Option PyExc :=
  if d.negotiating && env.commandId == Command.setBaudrateResp.toUnderlying.toUInt32 then f.raises .switchBaudrate
  else
    match d.checkCounter env with
    | none => none
    | some d => (d.correlateFrame io.host env.commandId payload).mcuFrameRaises P random io f env.commandId payload

end Link

/-! ### What becomes of the connection -/

/-- The read task after one packet. -/
inductive ReadTask where
  | reading
  | returned
  | failed (e : PyExc)
  deriving DecidableEq

/-- `_read_loop` -/
def ReadTask.after : Option PyExc → ReadTask
  | none => .reading
  | some e => if e.isCaught then .returned else .failed e

/-- Once the read task is done, the `finally` of `_connect_and_run` awaits it, and reaches
`on_serial_disconnected` unless that raises. -/
def ReadTask.disconnects : ReadTask → Bool
  | .failed _ => false
  | _ => true

/-- The link, the task that reads it, and whether `on_serial_disconnected` has run since it was connected. -/
structure Connection where
  link : Link
  task : ReadTask := .reading
  disconnected : Bool := false

inductive ConnectionEvent where
  | packet (io : Io) (f : Faults) (env : RpcEnvelope)
  | task (e : LinkEvent)

namespace Connection
variable (P : Platform) (random : Nat → UInt32)

/-- The `finally` blocks of `_connect_and_run`. -/
def finish (t : ReadTask) (d : Link) : Connection :=
  if t.disconnects then ⟨{ d.disconnect with serial := false }, t, true⟩ else ⟨{ d with serial := false }, t, false⟩

/-- `_read_loop` on one packet. Nothing escapes from the fallback after a frame that `parse_frame` refuses. -/
def readPacket (io : Io) (f : Faults) (env : RpcEnvelope) (c : Connection) : Connection :=
  let d := c.link.processPacket P random io env
  match parseFrame P env c.link.sessionKey with
  | none => { c with link := d }
  | some payload =>
    match ReadTask.after (c.link.packetRaises P random io f env payload) with
    | .reading => { c with link := d }
    | t => finish t d

/-- `connect` starts a new read task. -/
def step : ConnectionEvent → Connection → Connection
  | .packet io f env, c => if c.task = .reading then c.readPacket P random io f env else c
  | .task .connect, c => ⟨c.link.connect, .reading, false⟩
  | .task (.packet _ _), c => c
  | .task e, c => { c with link := c.link.step P random e }

/-- The read task goes on; if it did not, the link would have been cleaned up. -/
structure Survives (c : Connection) : Prop where
  reading : c.task = .reading
  cleanup : c.task ≠ .reading → c.disconnected = true

end Connection

/-! ### Frames that raise nothing -/

namespace Service

/-- What the handler of a message sends inside the session, with the command of each frame. -/
def messageAnswers (h : McuHost) (s : Service) : PayloadType → List (UInt16 × PayloadType)
  | .datastoreGet key =>
    let value := (s.datastoreCache.bind fun cache => cache.lookup (h.text key)).getD []
    [(Command.datastoreGetResp.toUnderlying, .datastoreGetResponse (value.take 255))]
  | .fileRead path =>
    match h.safePath (h.text path) with
    | some p =>
      if h.isFile p then
        let data := h.readBytes p
        let chunks := if data.isEmpty then [[]] else iterChunks data (maxPayloadSize - 3)
        chunks.map fun c => (Command.fileReadResp.toUnderlying, .fileReadResponse c)
      else []
    | none => []
  | .processRunAsync command =>
    let cmd := h.text command
    if !cmd.isEmpty && h.isCommandAllowed cmd then
      let pid := (s.runProcess h.toHost cmd).2
      if pid ≠ 0 then [(Command.processRunAsyncResp.toUnderlying, .processRunAsyncResponse pid)] else []
    else []
  | .processPoll pid => [(Command.processPollResp.toUnderlying, .processPollResponse (h.pollProcess pid.toNat))]
  | _ => []

/-- The answers of the handler of `cmd` that travel encrypted. -/
def sealedAnswers (h : McuHost) (cmd : UInt16) (p : Payload) (s : Service) : List (UInt16 × PayloadType) :=
  match commandToPb.lookup cmd, p with
  | some _, .message m => s.messageAnswers h m
  | some _, .bytes _ => []
  | none, _ =>
    if cmd = Command.mailboxAvailable.toUnderlying then
      [(Command.mailboxAvailableResp.toUnderlying, .mailboxAvailableResponse (UInt32.ofNat s.mailboxQueue.length))]
    else if cmd = Command.mailboxRead.toUnderlying then
      [(Command.mailboxReadResp.toUnderlying, .mailboxReadResponse (s.mailboxQueue.headD []))]
    else []

end Service

namespace Link
variable (P : Platform)

/-- The handler of the frame raises nothing: it reads its message, the host does what it asks, and its answers fit
into frames for which there are nonces. -/
structure HandlerSafe (io : Io) (f : Faults) (cmd : UInt16) (p : Payload) (d : Link) : Prop where
  readable : Service.readable cmd p = true
  calls : ∀ c ∈ d.service.hostCalls io.host cmd p, c.fault io.host f = none
  fits : d.serial = true → ∀ x ∈ d.service.sealedAnswers io.host cmd p, (P.pbEncode x.2).length ≤ maxPayloadSize
  nonces : d.serial = true → ∀ i < (d.service.sealedAnswers io.host cmd p).length,
    d.linkNonceCounter + i < nonceCounterMask
  console : cmd = Command.xon.toUnderlying → d.serial = true → ∀ chunk, nextChunk d.service.consoleToMcuQueue = some chunk →
    (P.pbEncode (.consoleWrite chunk)).length ≤ maxPayloadSize ∧ d.linkNonceCounter < nonceCounterMask

/-- The failures `handle_link_sync_resp` finds, with the number of them the back-off starts at. -/
def failureThreshold (io : Io) (payload : Payload) (d : Link) : Option Nat :=
  match d.linkHandshakeNonce with
  | none => some 3
  | some expected =>
    if io.throttled then some 3
    else
      match readLinkSync io.host payload with
      | none => some 3
      | some m =>
        if m.nonce ≠ expected then none
        else if d.linkExpectedTag = none ∨ m.tag.length ≠ aeadTagSize ∨
            m.tag ≠ calculateHandshakeTag P d.sharedSecret m.nonce then some 1
        else none

/-- An answer to the handshake is no message of another type, what it leads to can be published, and there have not
been a thousand failures in a row. -/
structure SyncRespSafe (io : Io) (f : Faults) (payload : Payload) (d : Link) : Prop where
  typed : d.linkHandshakeNonce.isSome → io.throttled = false → ∀ m, payload = .message m → m.fieldNumber = 37
  published : d.ignoresSyncResp io payload = false → f.raises .enqueueCloud = none
  backoff : ∀ n ∈ d.failureThreshold P io payload, d.handshakeFailureStreak + 1 < 1024 + n

/-- The frame does not get to a handler, or its handler is safe. -/
def FrameSafe (io : Io) (f : Faults) (env : RpcEnvelope) (payload : Payload) (d : Link) : Prop :=
  if d.negotiating && env.commandId == Command.setBaudrateResp.toUnderlying.toUInt32 then
    f.raises .switchBaudrate = none
  else d.Dispatched env →
    if env.commandId = Command.linkSyncResp.toUnderlying.toUInt32 then d.SyncRespSafe P io f payload
    else (registered env.commandId).isSome →
      ∃ p, decodePayload io.host env.commandId.toUInt16 payload = some p ∧
        d.HandlerSafe P io f env.commandId.toUInt16 p

end Link

end Daemon
end McuBridge
