import McuBridge.Daemon.McuHandlers
import McuBridge.Lib.Run

/-! # The serial link of the daemon (`transport/serial.py`, `services/handshake.py`)

`Link` joins the state of `SerialTransport`, of `SerialHandshakeManager` and of the `link_*` fields of
`RuntimeState`. Coroutines are cut at their awaits: a call of `send` and a handshake attempt keep their
local variables in `current` and `attempt`, and the events at the end of this module resume them in any
order. A packet is processed in one event, as the read loop does. Delays, flow control and metrics change
nothing else and are left out. -/

namespace McuBridge
namespace Daemon

inductive LinkState where
  | disconnected | connected | synchronized
  deriving DecidableEq

inductive HandshakeState where
  | unsynchronized | resetting | syncing | confirming | synchronized | fault
  deriving DecidableEq

structure PendingCommand where
  commandId : UInt16
  expectedRespIds : List UInt16
  attempts : Nat := 0
  success : Option Bool := none
  failureStatus : Option UInt16 := none
  ackReceived : Bool := false
  completion : Bool := false
  responsePayload : Option Payload := none
  deriving DecidableEq

namespace PendingCommand

def markSuccess (payload : Payload) (p : PendingCommand) : PendingCommand :=
  { p with responsePayload := some payload, success := some true, completion := true }

def markFailure (status : Option UInt16) (p : PendingCommand) : PendingCommand :=
  { p with success := some false, failureStatus := status.or p.failureStatus, completion := true }

end PendingCommand

/-- A running call of `send`: it waits for `completion`, or sleeps between two attempts. `ticket` numbers
the calls. -/
structure Call where
  pending : PendingCommand
  payload : Payload
  sleeping : Bool
  ticket : Nat
  deriving DecidableEq

/-- What `send` returns, or that it raised. -/
inductive CallResult where
  | returned (value : Option Payload)
  | false
  | raised
  deriving DecidableEq

/-- A running `_synchronize_attempt`: between LINK_RESET and LINK_SYNC, or waiting for the confirmation.
`nonce` is its local variable. -/
structure Attempt where
  nonce : Bytes
  confirming : Bool
  deriving DecidableEq

/-- `seals`, `executed` and `accepted` are records: key and nonce of the frames `build_frame` encrypted, the
handlers run by `handle_mcu_frame` (command and sequence id), and the handshake nonces
`handle_link_sync_resp` accepted. -/
structure Link where
  sharedSecret : Bytes
  timing : HandshakeConfig
  maxAttempts : Nat
  serial : Bool := false
  negotiating : Bool := false
  txSequenceId : UInt16 := 0
  current : Option Call := none
  attempt : Option Attempt := none
  state : LinkState := .disconnected
  linkSyncEvent : Bool := false
  fsmState : HandshakeState := .unsynchronized
  linkHandshakeNonce : Option Bytes := none
  linkExpectedTag : Option Bytes := none
  linkSessionKey : Option Bytes := none
  linkNonceCounter : Nat := 0
  linkLastNonceCounter : Nat := 0
  handshakeFailureStreak : Nat := 0
  service : Service
  calls : Nat := 0
  results : List (Nat × CallResult) := []
  wire : List Sent := []
  seals : List (Bytes × Bytes) := []
  executed : List (UInt32 × UInt32) := []
  accepted : List Bytes := []

/-- What one event depends on besides the link: the host, whether the port takes what is written to it,
and whether the handshake's rate limit is in force. -/
structure Io where
  host : McuHost
  writes : Bool
  throttled : Bool

/-- `request_to_response` pairs of the specification: the commands that have a `_RESP`. -/
def requestResponse : List (UInt16 × UInt16) :=
  [(64, 65), (66, 67), (68, 69), (70, 71), (72, 73), (74, 75), (83, 85), (84, 86), (113, 114), (128, 132),
    (130, 133), (145, 147), (161, 165), (162, 166), (177, 178)]

def expectedResponses (cmd : UInt16) : List UInt16 :=
  (requestResponse.filter fun p => p.1 == cmd).map Prod.snd

def responseToRequest (cmd : UInt32) : Option UInt16 :=
  (requestResponse.find? fun p => p.2.toUInt32 == cmd).map Prod.fst

def failureStatuses : List Status := [.error, .cmdUnknown, .malformed, .crcMismatch, .timeout, .notImplemented]

def nonceCounterMask : Nat := 2 ^ 64 - 1

/-- `generate_nonce_with_counter`; `none` where it raises. -/
def generateNonceWithCounter (random : UInt32) (counter : Nat) : Option (Bytes × Nat) :=
  if nonceCounterMask ≤ counter then none
  else
    some ([(random >>> 24).toUInt8, (random >>> 16).toUInt8, (random >>> 8).toUInt8, random.toUInt8] ++
      be64 (UInt64.ofNat (counter + 1)), counter + 1)

/-- `validate_nonce_counter`: the new last counter, `none` for a nonce it rejects. -/
def validateNonceCounter (nonce : Bytes) (lastCounter : Nat) : Option Nat :=
  if nonce.length ≠ aeadNonceSize then none
  else
    let current := (readBe64 (nonce.drop 4)).toNat
    if current ≤ lastCounter then none else some current

namespace Link
variable (P : Platform) (random : Nat → UInt32)

def isSynchronized (d : Link) : Bool := d.state == .synchronized

/-- The key both `parse_frame` and `build_frame` get. -/
def sessionKey (d : Link) : Option Bytes := if d.isSynchronized then d.linkSessionKey else none

/-! ### Sending -/

inductive RawResult where
  | sent | failed | raised
  deriving DecidableEq

/-- `build_frame` encrypts the frame. -/
def doEncrypt (d : Link) (cmd : UInt16) : Bool :=
  !isSystemCommand cmd && d.sessionKey.any fun k => !k.isEmpty

/-- `_tx_sequence_id` moves on for a frame without a given id. -/
def nextSequenceId (seq : Option UInt32) (d : Link) : Link × UInt32 :=
  match seq with
  | some q => (d, q)
  | none =>
    let d := { d with txSequenceId := d.txSequenceId + 1 }
    (d, d.txSequenceId.toUInt32)

/-- The nonce of `send_raw`; `none` where the counter overflows. -/
def nextNonce (cmd : UInt16) (d : Link) : Option (Link × Bytes) :=
  if d.isSynchronized && !isSystemCommand cmd then
    (generateNonceWithCounter (random d.linkNonceCounter) d.linkNonceCounter).map fun (nonce, c) =>
      ({ d with linkNonceCounter := c }, nonce)
  else some (d, List.replicate aeadNonceSize 0)

/-- The frame is written, and an encryption recorded. -/
def write (writes : Bool) (cmd : UInt16) (ticket : Option Nat) (env : RpcEnvelope) (d : Link) : Link × RawResult :=
  let sealNo := if d.doEncrypt cmd then some d.seals.length else none
  let d := if d.doEncrypt cmd then { d with seals := d.seals ++ [(d.linkSessionKey.getD [], env.nonce)] } else d
  if writes then ({ d with wire := d.wire ++ [⟨env, ticket, sealNo⟩] }, .sent) else (d, .failed)

def sendRaw (writes : Bool) (cmd : UInt16) (payload : Payload) (seq : Option UInt32) (ticket : Option Nat)
    (d : Link) : Link × RawResult :=
  if !d.serial then (d, .failed)
  else
    let (d, seq) := d.nextSequenceId seq
    match d.nextNonce random cmd with
    | none => (d, .raised)
    | some (d, nonce) =>
      match buildFrame P cmd seq payload nonce d.sessionKey with
      | none => (d, .raised)
      | some env => d.write writes cmd ticket env

/-- `acknowledge` -/
def acknowledge (writes : Bool) (cmd seq : UInt32) (status : Status) (d : Link) : Link :=
  (d.sendRaw P random writes status.toUnderlying (.message (.ackPacket ⟨cmd⟩)) (some seq) none).1

/-! ### Calls of `send` -/

def isTracked (cmd : UInt16) : Bool :=
  !(cmd == Command.linkSync.toUnderlying || cmd == Command.linkReset.toUnderlying) &&
    (!(expectedResponses cmd).isEmpty || requiresAck cmd)

def finish (c : Call) (r : CallResult) (d : Link) : Link :=
  { d with current := none, results := d.results ++ [(c.ticket, r)] }

/-- `_send_attempt` up to its wait. -/
def sendAttempt (writes : Bool) (c : Call) (d : Link) : Link :=
  let pending := { c.pending with attempts := c.pending.attempts + 1, ackReceived := false, success := none }
  let c := { c with pending := pending, sleeping := false }
  let r := d.sendRaw P random writes pending.commandId c.payload none (some c.ticket)
  match r.2 with
  | .sent => { r.1 with current := some c }
  | .failed => r.1.finish c .false
  | .raised => r.1.finish c .raised

/-- `send`. A tracked call waits for the lock while another one holds it, so it starts later. -/
def send (writes : Bool) (cmd : UInt16) (payload : Payload) (d : Link) : Link :=
  if !d.serial then d
  else if !isTracked cmd then (d.sendRaw P random writes cmd payload none none).1
  else if d.current.isSome then d
  else
    let c : Call := ⟨{ commandId := cmd, expectedRespIds := expectedResponses cmd }, payload, false, d.calls⟩
    ({ d with calls := d.calls + 1 } : Link).sendAttempt P random writes c

/-- `_RetryableSerialError`: sleep before the next attempt, or give up. -/
def retryLater (c : Call) (d : Link) : Link :=
  if c.pending.attempts < d.maxAttempts then { d with current := some { c with sleeping := true } }
  else d.finish c .false

/-- The wait of an attempt times out. -/
def onTimeout (d : Link) : Link :=
  match d.current with
  | some c => if c.sleeping then d else d.retryLater c
  | none => d

/-- The wait of an attempt ends because `completion` is set. -/
def onCompletion (d : Link) : Link :=
  match d.current with
  | some c =>
    if c.sleeping || !c.pending.completion then d
    else if c.pending.success = some true then d.finish c (.returned c.pending.responsePayload)
    else if c.pending.failureStatus.isSome then d.finish c .false
    else d.retryLater c
  | none => d

/-- The sleep between two attempts ends. -/
def onRetry (writes : Bool) (d : Link) : Link :=
  match d.current with
  | some c => if c.sleeping then d.sendAttempt P random writes c else d
  | none => d

/-! ### Correlation -/

/-- The command an ACK names; one that cannot be read counts for the pending command. -/
def ackTarget (h : McuHost) (p : PendingCommand) : Payload → UInt32
  | .message (.ackPacket m) => m.commandId
  | .message _ => p.commandId.toUInt32
  | .bytes b =>
    if b.isEmpty then p.commandId.toUInt32
    else
      match h.parse 34 b with
      | some (.ackPacket m) => m.commandId
      | _ => p.commandId.toUInt32

def correlatePending (h : McuHost) (cmd : UInt32) (payload : Payload) (p : PendingCommand) : PendingCommand :=
  if p.success.isSome then p
  else if cmd = Status.ack.toUnderlying.toUInt32 then
    if ackTarget h p payload = p.commandId.toUInt32 then
      let p := { p with ackReceived := true }
      if p.expectedRespIds.isEmpty then p.markSuccess payload else p
    else p
  else if responseToRequest cmd = some p.commandId then p.markSuccess payload
  else if failureStatuses.any (fun st => st.toUnderlying.toUInt32 == cmd) then p.markFailure (some cmd.toUInt16)
  else if cmd = Status.ok.toUnderlying.toUInt32 ∧ p.expectedRespIds.isEmpty then p.markSuccess payload
  else p

/-- `_correlate_frame` -/
def correlateFrame (h : McuHost) (cmd : UInt32) (payload : Payload) (d : Link) : Link :=
  { d with current := d.current.map fun c => { c with pending := correlatePending h cmd payload c.pending } }

/-! ### The handshake -/

/-- `_set_fsm_state` -/
def setFsmState (new : HandshakeState) (d : Link) : Link :=
  if d.fsmState = new then d
  else
    { d with
      fsmState := new
      state :=
        if new = .synchronized then .synchronized
        else if d.fsmState = .synchronized then .connected else d.state
      linkSyncEvent := if new = .synchronized then true else d.linkSyncEvent }

def clearHandshakeExpectations (d : Link) : Link :=
  { d with linkHandshakeNonce := none, linkExpectedTag := none }

/-- `_publish_handshake_event` -/
def publishHandshakeEvent (d : Link) : Link :=
  let topic := ["bridge".toList, "handshake".toList, "value".toList]
  { d with service := d.service.publish .system topic .handshakeSnapshot }

def handleHandshakeFailure (d : Link) : Link :=
  ({ d.setFsmState .fault with
    state := .connected
    handshakeFailureStreak := d.handshakeFailureStreak + 1 } : Link).publishHandshakeEvent

/-- `_handle_handshake_success` -/
def handleHandshakeSuccess (d : Link) : Link :=
  ({ d with state := .synchronized, linkSyncEvent := true, handshakeFailureStreak := 0 } : Link).publishHandshakeEvent

/-- `calculate_handshake_tag`: empty without a secret. -/
def calculateHandshakeTag (secret nonce : Bytes) : Bytes :=
  if secret.isEmpty then [] else P.handshakeTag secret nonce

/-- `_attempt` and `_synchronize_attempt` up to the sleep after LINK_RESET. -/
def beginAttempt (writes : Bool) (nonce : Bytes) (d : Link) : Link :=
  let d := (d.setFsmState .unsynchronized).setFsmState .resetting
  let d := { d with
    linkSyncEvent := false
    linkHandshakeNonce := some nonce
    linkExpectedTag := some (calculateHandshakeTag P d.sharedSecret nonce) }
  let r := d.sendRaw P random writes Command.linkReset.toUnderlying (.message (.handshakeConfig d.timing)) none none
  if r.2 = .sent then { r.1 with attempt := some ⟨nonce, false⟩ }
  else { r.1.clearHandshakeExpectations.handleHandshakeFailure with attempt := none }

/-- The LINK_SYNC of the running attempt. -/
def sendLinkSync (writes : Bool) (a : Attempt) (d : Link) : Link :=
  let d := d.setFsmState .syncing
  let m : LinkSync := ⟨a.nonce, calculateHandshakeTag P d.sharedSecret a.nonce⟩
  let r := d.sendRaw P random writes Command.linkSync.toUnderlying (.message (.linkSync m)) none none
  if r.2 = .sent then
    let d := r.1
    if d.fsmState = .fault then { d with attempt := none }
    else
      let d := if d.fsmState = .syncing then d.setFsmState .confirming else d
      { d with attempt := some { a with confirming := true } }
  else { r.1.clearHandshakeExpectations.handleHandshakeFailure with attempt := none }

/-- `_wait_for_link_sync_confirmation` returns, and the rest of the attempt. -/
def endAttempt (a : Attempt) (d : Link) : Link :=
  if d.isSynchronized then
    let d := if d.fsmState ≠ .synchronized ∧ d.fsmState ≠ .fault then d.setFsmState .synchronized else d
    { d with attempt := none }
  else if d.fsmState = .fault then { d with attempt := none }
  else
    let pendingNonce := d.linkHandshakeNonce
    let d := d.clearHandshakeExpectations
    let d := if pendingNonce = some a.nonce then d.handleHandshakeFailure else d
    { d with attempt := none }

def readLinkSync (h : McuHost) : Payload → Option LinkSync
  | .message (.linkSync m) => some m
  | .message _ => none
  | .bytes b =>
    match h.parse 37 b with
    | some (.linkSync m) => some m
    | _ => none

/-- `handle_link_sync_resp`, with whether it returned `True`. A message of another type than `LinkSync` has
no nonce to read and raises: the link stays as it is. -/
def handleLinkSyncResp (io : Io) (seq : UInt32) (payload : Payload) (d : Link) : Link × Bool :=
  let malformed (d : Link) : Link :=
    d.acknowledge P random io.writes Command.linkSyncResp.toUnderlying.toUInt32 seq .malformed
  match d.linkHandshakeNonce with
  | none => ((malformed d).handleHandshakeFailure, false)
  | some expected =>
    if io.throttled then ((malformed d).handleHandshakeFailure, false)
    else
      match readLinkSync io.host payload with
      | none =>
        match payload with
        | .message _ => (d, false)
        | .bytes _ => ((malformed d).clearHandshakeExpectations.handleHandshakeFailure, false)
      | some m =>
        if m.nonce ≠ expected then (d, false)
        else if d.linkExpectedTag = none ∨ m.tag.length ≠ aeadTagSize ∨
            m.tag ≠ calculateHandshakeTag P d.sharedSecret m.nonce then
          ((malformed d).clearHandshakeExpectations.handleHandshakeFailure, false)
        else
          let d :=
            if d.sharedSecret.isEmpty then d
            else { d with linkSessionKey := some (P.deriveSessionKey d.sharedSecret m.nonce) }
          let d := d.setFsmState .synchronized
          let d := d.clearHandshakeExpectations
          ({ d.handleHandshakeSuccess with accepted := d.accepted ++ [m.nonce] }, true)

/-! ### Received packets -/

/-- The frames a handler sends, up to the first one that raises, with whether all calls returned. -/
def sendReplies (writes : Bool) : List (UInt16 × Payload) → Link → Link × Bool
  | [], d => (d, true)
  | (cmd, p) :: rest, d =>
    let r := d.sendRaw P random writes cmd p none none
    if r.2 = .raised then (r.1, false) else sendReplies writes rest r.1

/-- The payload `handle_mcu_frame` hands to the handler; `none` where `ParseFromString` raises. -/
def decodePayload (h : McuHost) (cmd : UInt16) : Payload → Option Payload
  | .message m => some (.message m)
  | .bytes b =>
    match commandToPb.lookup cmd with
    | some tag => (h.parse tag b).map .message
    | none => some (.bytes b)

def isStatusValue (cmd : UInt32) : Bool := 48 ≤ cmd && cmd ≤ 56

def preSyncAllowed (cmd : UInt32) : Bool :=
  cmd == Command.linkSyncResp.toUnderlying.toUInt32 || cmd == Command.linkResetResp.toUnderlying.toUInt32

/-- A registered handler runs, and the frame is acknowledged unless it refused. -/
def runHandler (io : Io) (handler : McuHandler) (cmd seq : UInt32) (p : Payload) (d : Link) : Link :=
  let d := { d with executed := d.executed ++ [(cmd, seq)] }
  match handler io.host (d.serial && io.writes) p d.service with
  | none => d
  | some r =>
    let (d, returned) := sendReplies P random io.writes r.replies { d with service := r.service }
    if !returned || r.returnsFalse || isStatusValue cmd then d else d.acknowledge P random io.writes cmd seq .ack

def handleMcuFrame (io : Io) (cmd seq : UInt32) (payload : Payload) (d : Link) : Link :=
  if !d.service.serial then d
  else if !(d.isSynchronized || isStatusValue cmd || preSyncAllowed cmd) then d
  else if cmd = Command.linkSyncResp.toUnderlying.toUInt32 then
    let r := { d with executed := d.executed ++ [(cmd, seq)] }.handleLinkSyncResp P random io seq payload
    if r.2 then r.1.acknowledge P random io.writes cmd seq .ack else r.1
  else
    match (if cmd < 65536 then Service.mcuRegistry.lookup cmd.toUInt16 else none) with
    | some handler =>
      match decodePayload io.host cmd.toUInt16 payload with
      | none => d
      | some p => d.runHandler P random io handler cmd seq p
    | none =>
      if (responseToRequest cmd).isNone then
        (d.sendRaw P random io.writes Status.notImplemented.toUnderlying (.bytes []) none none).1
      else d

/-- The exclusion of `_process_packet`, on all 32 bits of the command. -/
def isExcluded (cmd : UInt32) : Bool := (48 ≤ cmd && cmd ≤ 63) || (64 ≤ cmd && cmd ≤ 79)

/-- The anti-replay check of `_process_packet`. -/
def checkCounter (env : RpcEnvelope) (d : Link) : Option Link :=
  if d.isSynchronized && !isExcluded env.commandId then
    (validateNonceCounter env.nonce d.linkLastNonceCounter).map fun c => { d with linkLastNonceCounter := c }
  else some d

/-- `_process_packet`, from the decoded envelope on. -/
def processPacket (io : Io) (env : RpcEnvelope) (d : Link) : Link :=
  match parseFrame P env d.sessionKey with
  | none => d
  | some payload =>
    if d.negotiating && env.commandId == Command.setBaudrateResp.toUnderlying.toUInt32 then
      { d with negotiating := false }
    else
      match d.checkCounter env with
      | none => d
      | some d =>
        (d.correlateFrame io.host env.commandId payload).handleMcuFrame P random io env.commandId env.sequenceId
          payload

/-! ### Connection -/

/-- `_connect_and_run` with `on_serial_connected`, up to the handshake. -/
def connect (d : Link) : Link := { d with serial := true, state := .connected }

/-- `on_serial_disconnected`; `reset` waits for the lock of `send` and then finds no pending command. -/
def disconnect (d : Link) : Link :=
  ({ d with
    state := .disconnected
    linkSyncEvent := false
    service := { d.service with pendingDigitalReads := [], pendingAnalogReads := [], mcuIsPaused := false } } :
      Link).clearHandshakeExpectations

/-- `_negotiate_baudrate` up to its wait. -/
def negotiate (writes : Bool) (baudrate : UInt32) (d : Link) : Link :=
  let r := d.sendRaw P random writes Command.setBaudrate.toUnderlying (.message (.setBaudratePacket baudrate))
    none none
  { r.1 with negotiating := r.2 = .sent }

end Link

inductive LinkEvent where
  | packet (io : Io) (env : RpcEnvelope)
  | send (writes : Bool) (cmd : UInt16) (payload : Payload)
  | timeout
  | completion
  | retry (writes : Bool)
  | beginAttempt (writes : Bool) (nonce : Bytes)
  | sendLinkSync (writes : Bool)
  | endAttempt
  /-- `synchronize` gives up. -/
  | retryError
  | connect
  | disconnect
  | close
  | negotiate (writes : Bool) (baudrate : UInt32)
  | negotiated

namespace Link
variable (P : Platform) (random : Nat → UInt32)

def step : LinkEvent → Link → Link
  | .packet io env, d => d.processPacket P random io env
  | .send writes cmd payload, d => d.send P random writes cmd payload
  | .timeout, d => d.onTimeout
  | .completion, d => d.onCompletion
  | .retry writes, d => d.onRetry P random writes
  | .beginAttempt writes nonce, d =>
    if d.attempt.isSome || nonce.length ≠ handshakeNonceLength then d else d.beginAttempt P random writes nonce
  | .sendLinkSync writes, d =>
    match d.attempt with
    | some a => if a.confirming then d else d.sendLinkSync P random writes a
    | none => d
  | .endAttempt, d =>
    match d.attempt with
    | some a => if a.confirming then d.endAttempt a else d
    | none => d
  | .retryError, d => if d.attempt.isSome then d else d.setFsmState .fault
  | .connect, d => d.connect
  | .disconnect, d => d.disconnect
  | .close, d => { d with serial := false }
  | .negotiate writes baudrate, d => d.negotiate P random writes baudrate
  | .negotiated, d => { d with negotiating := false }

end Link

/-! ### A host to evaluate runs on -/

def McuHost.sample : McuHost where
  toHost := .sample
  parse := Sample.pbDecode
  encode := Sample.pbEncode
  str := fun _ => []
  pathUnlink := fun _ => true
  mcuReadPending := false

def Io.sample : Io := ⟨.sample, true, false⟩

end Daemon
end McuBridge
