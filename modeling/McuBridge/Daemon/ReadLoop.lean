import McuBridge.Daemon.LinkSteps
import McuBridge.Daemon.Reactions

/-! # Waits of the read loop (`transport/serial.py`, `services/runtime.py`)

`Link.processPacket` handles a packet in one event. Here its awaits are kept: `send_raw` waits for
`serial_tx_allowed` while the MCU has paused the link, a tracked `send` for the answer to its frame, and
`_negotiate_baudrate` for CMD_SET_BAUDRATE_RESP. Each of them ends with a packet, and while it lasts the loop
reads none. Timers are left out: nothing in this module happens because time has passed. -/

namespace McuBridge
namespace Daemon

inductive Wait where
  | xon | answer | baudrateResp
  deriving DecidableEq

/-- How far the processing of a packet got: to its end, or to a wait. -/
structure Progress where
  link : Link
  wait : Option Wait := none

namespace Link
variable (P : Platform) (random : Nat → UInt32)

/-- `send_raw` has to wait: `serial_tx_allowed` is set exactly while `mcu_is_paused` is false. -/
def txBlocked (d : Link) : Bool := d.serial && d.service.mcuIsPaused

/-- The wait of `send_raw`, then `next`. -/
def awaitTx (next : Link → Progress) (d : Link) : Progress :=
  if d.txBlocked then { link := d, wait := some .xon } else next d

/-- The frames a handler sends, then `next`; one that raises ends the packet. -/
def awaitReplies (writes : Bool) (next : Link → Progress) : List (UInt16 × Payload) → Link → Progress
  | [], d => next d
  | (cmd, p) :: rest, d =>
    d.awaitTx fun d =>
      let r := d.sendRaw P random writes cmd p none none
      if r.2 = .raised then { link := r.1 } else awaitReplies writes next rest r.1

def setConsoleQueue (q : List Bytes) (d : Link) : Link :=
  { d with service := { d.service with consoleToMcuQueue := q } }

/-- `_flush_console_queue` on the queue it finds. A chunk that was written waits for its answer, so there is no
second one. -/
def awaitFlush (writes : Bool) (next : Link → Progress) : List Bytes → Link → Progress
  | [], d => next (d.setConsoleQueue [])
  | buf :: rest, d =>
    match Service.iterChunks buf maxPayloadSize with
    | [] => awaitFlush writes next rest d
    | chunk :: _ =>
      if !d.serial then next (d.setConsoleQueue (buf :: rest))
      else
        -- the lock of `send` is free once the call that holds it has returned
        let t := ((d.setConsoleQueue rest).onCompletion).send P random writes Command.consoleWrite.toUnderlying
          (.message (.consoleWrite chunk))
        if t.current.isSome then { link := t, wait := some .answer }
        else if (t.results.getLast?.map Prod.snd) = some .raised then { link := t }
        else next (t.setConsoleQueue (buf :: rest))

/-- The end of `handle_mcu_frame` for a handler that returned. -/
def awaitAck (io : Io) (cmd seq : UInt32) (returnsFalse : Bool) (d : Link) : Progress :=
  if returnsFalse || isStatusValue cmd then { link := d }
  else d.awaitTx fun d => { link := d.acknowledge P random io.writes cmd seq .ack }

def awaitHandler (io : Io) (handler : McuHandler) (cmd seq : UInt32) (p : Payload) (d : Link) : Progress :=
  let d := { d with executed := d.executed ++ [(cmd, seq)] }
  match handler io.host (d.serial && io.writes) p d.service with
  | none => { link := d }
  | some r =>
    let d := { d with service := r.service }
    let ack := awaitAck P random io cmd seq r.returnsFalse
    if cmd = Command.xon.toUnderlying.toUInt32 then
      awaitFlush P random io.writes ack d.service.consoleToMcuQueue d
    else awaitReplies P random io.writes ack r.replies d

/-- `handle_link_sync_resp` answers nothing: it raises on a message of another type, and passes over an answer to
another attempt. -/
def ignoresSyncResp (io : Io) (payload : Payload) (d : Link) : Bool :=
  match d.linkHandshakeNonce with
  | none => false
  | some expected =>
    !io.throttled &&
      match readLinkSync io.host payload with
      | some m => m.nonce != expected
      | none => match payload with
        | .message _ => true
        | .bytes _ => false

/-- The malformed answer comes before the failure is handled, the acknowledgment after the success. -/
def awaitLinkSyncResp (io : Io) (cmd seq : UInt32) (payload : Payload) (d : Link) : Progress :=
  let d := { d with executed := d.executed ++ [(cmd, seq)] }
  let r := d.handleLinkSyncResp P random io seq payload
  if r.2 then r.1.awaitTx fun t => { link := t.acknowledge P random io.writes cmd seq .ack }
  else if d.ignoresSyncResp io payload then { link := r.1 }
  else d.awaitTx fun _ => { link := r.1 }

/-- The handler `handle_mcu_frame` finds. -/
def registered (cmd : UInt32) : Option McuHandler :=
  if cmd < 65536 then Service.mcuRegistry.lookup cmd.toUInt16 else none

def awaitMcuFrame (io : Io) (cmd seq : UInt32) (payload : Payload) (d : Link) : Progress :=
  if !d.service.serial then { link := d }
  else if !(d.isSynchronized || isStatusValue cmd || preSyncAllowed cmd) then { link := d }
  else if cmd = Command.linkSyncResp.toUnderlying.toUInt32 then d.awaitLinkSyncResp P random io cmd seq payload
  else
    match registered cmd with
    | some handler =>
      match decodePayload io.host cmd.toUInt16 payload with
      | none => { link := d }
      | some p => d.awaitHandler P random io handler cmd seq p
    | none =>
      if (responseToRequest cmd).isNone then
        d.awaitTx fun d => { link :=
          (d.sendRaw P random io.writes Status.notImplemented.toUnderlying (.bytes []) none none).1 }
      else { link := d }

/-- `_negotiate_baudrate` inside the read loop. -/
def awaitNegotiation (writes : Bool) (baudrate : UInt32) (d : Link) : Progress :=
  ({ d with negotiating := true } : Link).awaitTx fun d =>
    let r := d.sendRaw P random writes Command.setBaudrate.toUnderlying (.message (.setBaudratePacket baudrate))
      none none
    if r.2 = .sent then { link := r.1, wait := some .baudrateResp }
    else { link := { r.1 with negotiating := false } }

end Link

/-! ### The loop among the other tasks -/

structure ReaderConfig where
  serialBaud : UInt32
  serialSafeBaud : UInt32
  serialFallbackThreshold : Nat

structure Reader where
  link : Link
  consecutiveCrcErrors : Nat := 0
  wait : Option Wait := none

/-- What `readuntil` returns: bytes that COBS/R, the CRC or protobuf reject, or an envelope. -/
inductive Packet where
  | undecodable
  | frame (env : RpcEnvelope)

namespace Reader
variable (P : Platform) (random : Nat → UInt32) (cfg : ReaderConfig)

def advance (p : Progress) (r : Reader) : Reader := { r with link := p.link, wait := p.wait }

/-- `_check_baudrate_fallback` -/
def checkBaudrateFallback (writes : Bool) (r : Reader) : Reader :=
  if r.consecutiveCrcErrors + 1 < cfg.serialFallbackThreshold then
    { r with consecutiveCrcErrors := r.consecutiveCrcErrors + 1 }
  else
    let r := { r with consecutiveCrcErrors := 0 }
    if cfg.serialBaud = cfg.serialSafeBaud then r
    else r.advance (r.link.awaitNegotiation P random writes cfg.serialSafeBaud)

/-- `_process_packet` on an envelope. -/
def processFrame (io : Io) (env : RpcEnvelope) (r : Reader) : Reader :=
  match parseFrame P env r.link.sessionKey with
  | none => r.checkBaudrateFallback P random cfg io.writes
  | some payload =>
    if r.link.negotiating && env.commandId == Command.setBaudrateResp.toUnderlying.toUInt32 then
      { r with link := { r.link with negotiating := false } }
    else
      match r.link.checkCounter env with
      | none => r
      | some d =>
        r.advance ((d.correlateFrame io.host env.commandId payload).awaitMcuFrame P random io env.commandId
          env.sequenceId payload)

def processPacket (io : Io) : Packet → Reader → Reader
  | .undecodable, r => r.checkBaudrateFallback P random cfg io.writes
  | .frame env, r => r.processFrame P random cfg io env

end Reader

inductive ReaderEvent where
  | packet (io : Io) (p : Packet)
  | task (e : LinkEvent)

/-- What a task does without a packet and before any time limit is reached. -/
def LinkEvent.isLocal : LinkEvent → Bool
  | .packet .. | .timeout | .retry _ | .negotiated => false
  | _ => true

/-- The call has not been answered, or sleeps before its next attempt. -/
def Call.isWaiting (c : Call) : Bool := c.sleeping || !c.pending.completion

/-- What the reader waits for has come. Only `_process_packet` resolves the future of a negotiation. -/
def Link.resolves (d : Link) : Wait → Bool
  | .xon => !d.service.mcuIsPaused
  | .answer => !d.current.any Call.isWaiting
  | .baudrateResp => false

namespace Reader
variable (P : Platform) (random : Nat → UInt32) (cfg : ReaderConfig)

/-- The tasks beside the reader. `_connect_and_run` cancels it before the link goes down. -/
def taskStep (e : LinkEvent) (r : Reader) : Reader :=
  let d := r.link.step P random e
  match e with
  | .disconnect => { r with link := d, wait := none }
  | _ => { r with link := d, wait := r.wait.filter fun w => !d.resolves w }

def step : ReaderEvent → Reader → Reader
  | .packet io p, r => if r.wait.isSome then r else r.processPacket P random cfg io p
  | .task e, r => if e.isLocal then r.taskStep P random e else r

end Reader

/-! ### When the loop waits -/

namespace Link
variable (P : Platform) (random : Nat → UInt32)

/-- The first chunk of console input that `_flush_console_queue` sends. -/
def nextChunk (q : List Bytes) : Option Bytes := (q.find? fun b => !b.isEmpty).map fun b => b.take maxPayloadSize

/-- A tracked call has not returned, and holds the lock of `send`. -/
def lockHeld (d : Link) : Bool := d.onCompletion.current.isSome

/-- The nonce `send_raw` gives to `build_frame`; `none` where the counter overflows. -/
def frameNonce (cmd : UInt16) (d : Link) : Option Bytes :=
  if d.isSynchronized && !isSystemCommand cmd then
    (generateNonceWithCounter (random d.linkNonceCounter) d.linkNonceCounter).map Prod.fst
  else some (List.replicate aeadNonceSize 0)

/-- `send_raw` gets past `build_frame`. -/
def frameBuilds (cmd : UInt16) (payload : Payload) (seq : Option UInt32) (d : Link) : Bool :=
  (d.frameNonce random cmd).any fun nonce =>
    (buildFrame P cmd (d.nextSequenceId seq).2 payload nonce d.sessionKey).isSome

/-- The frame gets to the dispatch of `handle_mcu_frame`. -/
structure Dispatched (env : RpcEnvelope) (d : Link) : Prop where
  noNegotiation : (d.negotiating && env.commandId == Command.setBaudrateResp.toUnderlying.toUInt32) = false
  fresh : (d.checkCounter env).isSome
  serial : d.service.serial = true
  admitted : (d.isSynchronized || isStatusValue env.commandId || preSyncAllowed env.commandId) = true

/-- The dispatch of a frame other than XON sends something: an answer, an acknowledgment or NOT_IMPLEMENTED. -/
def Sends (io : Io) (cmd : UInt32) (payload : Payload) (d : Link) : Prop :=
  if cmd = Command.linkSyncResp.toUnderlying.toUInt32 then d.ignoresSyncResp io payload = false
  else if (registered cmd).isSome then
    Service.answered io.host cmd.toUInt16 = true ∧
      ∃ p, decodePayload io.host cmd.toUInt16 payload = some p ∧ Service.raisesOn io.host cmd.toUInt16 p = false
  else responseToRequest cmd = none

/-- The frame makes the reader wait. XOFF does on every open port, since the handler pauses the link before the
acknowledgment; XON when there is console input to send; any other frame on a paused link. -/
def FrameStalls (io : Io) (cmd : UInt32) (payload : Payload) (d : Link) : Prop :=
  d.serial = true ∧
    if cmd = Command.xon.toUnderlying.toUInt32 then
      ∃ chunk, nextChunk d.service.consoleToMcuQueue = some chunk ∧ (d.lockHeld = true ∨ io.writes = true ∧
        d.frameBuilds P random Command.consoleWrite.toUnderlying (.message (.consoleWrite chunk)) none = true)
    else if cmd = Command.xoff.toUnderlying.toUInt32 then True
    else d.service.mcuIsPaused = true ∧ d.Sends io cmd payload

end Link

namespace Reader
variable (P : Platform) (random : Nat → UInt32) (cfg : ReaderConfig)

/-- A packet that cannot be read starts a negotiation. -/
def FallbackStalls (writes : Bool) (r : Reader) : Prop :=
  cfg.serialFallbackThreshold ≤ r.consecutiveCrcErrors + 1 ∧ cfg.serialBaud ≠ cfg.serialSafeBaud ∧
    r.link.serial = true ∧ (r.link.service.mcuIsPaused = true ∨ writes = true)

def Stalls (io : Io) : Packet → Reader → Prop
  | .undecodable, r => r.FallbackStalls cfg io.writes
  | .frame env, r =>
    match parseFrame P env r.link.sessionKey with
    | none => r.FallbackStalls cfg io.writes
    | some payload => r.link.Dispatched env ∧ r.link.FrameStalls P random io env.commandId payload

end Reader

end Daemon
end McuBridge
