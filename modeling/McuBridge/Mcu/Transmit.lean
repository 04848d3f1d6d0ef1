import McuBridge.Mcu.Security

/-! # The transmit side of the firmware (`Bridge.h`, `Bridge.cpp`)

`_transmit` seals and frames one payload, the reliable queue keeps the frames that wait for an ACK, and
`sendFrame` / `send` are the entry points of the sketch, of the services and of the command handlers. -/

namespace McuBridge
namespace Mcu
variable (P : Platform)

def serializeAndSend (f : Sent) (s : Mcu) : Mcu :=
  { s with wire := if P.serializes f.env then s.wire ++ [f] else s.wire }

/-- `_sendFrameRaw` -/
def sendFrameRaw (env : RpcEnvelope) (cmd : UInt16) (s : Mcu) : Mcu × Bool :=
  if !s.txEnabled && !isSystemCommand cmd then (s, false) else (s.serializeAndSend P ⟨env, none, none⟩, true)

/-- The envelope `_transmit` builds around a payload of raw bytes. -/
def rawEnvelope (cmd seq : UInt16) (nonce payload : Bytes) : RpcEnvelope :=
  ⟨protocolVersion, cmd.toUInt32, seq.toUInt32, nonce, .encryptedPayloadWithTag payload⟩

/-- `_transmit` -/
def transmit (cmd seq : UInt16) (payload : Bytes) (ticket : Option Nat) (s : Mcu) : Mcu :=
  if s.doEncrypt cmd then
    match s.aeadEncryptFrame P cmd seq payload with
    | (t, none) => t
    | (t, some (nonce, ct, tag)) =>
      t.serializeAndSend P
        ⟨rawEnvelope cmd seq nonce (ct.take maxPayloadSize ++ tag), ticket, some s.seals.length⟩
  else
    s.serializeAndSend P
      ⟨rawEnvelope cmd seq (List.replicate aeadNonceSize 0) (payload.take maxPayloadSize), ticket, none⟩

/-! ### The reliable queue -/

/-- `_flushPendingTxQueue` -/
def flushPendingTxQueue (s : Mcu) : Mcu :=
  match s.pendingTxQueue with
  | [] => s
  | f :: _ =>
    if !s.txEnabled then s
    else
      let s := { s with lastCommandId := f.commandId, retryCount := 0 }
      let s := s.receive .sendCritical
      let s := s.transmit P f.commandId f.sequenceId f.data f.ticket
      s.startTimer .ackTimeout

/-- `_retransmitLastFrame` -/
def retransmitLastFrame (s : Mcu) : Mcu :=
  match s.pendingTxQueue with
  | [] => s
  | f :: _ => (s.transmit P f.commandId f.sequenceId f.data f.ticket).startTimer .ackTimeout

/-- `_onAckTimeout` -/
def onAckTimeout (s : Mcu) : Mcu :=
  if !s.isAwaitingAck then s
  else
    let s := { s with retryCount := s.retryCount + 1 }
    if s.retryCount ≥ s.retryLimit then
      let s := s.stopTimer .ackTimeout
      let s := s.receive .timeout
      let s := { s with txEnabled := false }
      s.clearPendingTxQueue
    else s.retransmitLastFrame P

/-- `_handleAck`: the queue is cleared whole, not popped. -/
def handleAck (cmd : UInt16) (s : Mcu) : Mcu :=
  if !s.isAwaitingAck || cmd != s.lastCommandId then s
  else
    let s := s.stopTimer .ackTimeout
    let s := s.clearPendingTxQueue
    let s := s.receive .ackReceived
    s.flushPendingTxQueue P

/-- `_tx_payload_pool.allocate()`: the first free slot. -/
def allocate (s : Mcu) : Option Nat :=
  (List.range P.maxPendingTxFrames).find? fun b => !s.txPayloadPool.contains b

/-- `push_back` of a frame whose buffer was just allocated, and the flush that follows it. Both callers
return true after it. -/
def enqueue (f : PendingTxFrame) (s : Mcu) : Mcu :=
  let s :=
    { s with
      txPayloadPool := f.buffer :: s.txPayloadPool
      pendingTxQueue := s.pendingTxQueue ++ [f]
      accepted := s.accepted ++ [f.frame] }
  if !s.isAwaitingAck then s.flushPendingTxQueue P else s

/-- The shared guard of the two enqueueing paths: queue not full and a buffer free. -/
def enqueueWith (cmd seq : UInt16) (data : Bytes) (s : Mcu) : Mcu × Bool :=
  if P.maxPendingTxFrames ≤ s.pendingTxQueue.length then (s, false)
  else
    match s.allocate P with
    | none => (s, false)
    | some buf => (s.enqueue P ⟨cmd, seq, buf, data, s.accepted.length⟩, true)

/-! ### Entry points -/

/-- `sendFrame` -/
def sendFrame (cmd seq : UInt16) (p : Bytes) (s : Mcu) : Mcu × Bool :=
  if !s.txEnabled && !isSystemCommand cmd then (s, false)
  else if requiresAck cmd then s.enqueueWith P cmd seq (p.take maxPayloadSize)
  else (s.transmit P cmd seq p none, true)

/-- `sendSinglePass` -/
def sendSinglePass (cmd seq : UInt16) (packet : PayloadType) (s : Mcu) : Mcu × Bool :=
  s.sendFrameRaw P ⟨protocolVersion, cmd.toUInt32, seq.toUInt32, [], packet⟩ cmd

/-- `_sendEncryptedHelper`. A message that does not fit the 64-byte buffer is not sent; on the reliable
path its buffer goes back to the pool, which is the state before. -/
def sendEncryptedHelper (cmd seq : UInt16) (packet : PayloadType) (s : Mcu) : Mcu × Bool :=
  let encoded := P.pbEncode packet
  if maxPayloadSize < encoded.length then (s, false)
  else if requiresAck cmd then s.enqueueWith P cmd seq encoded
  else (s.transmit P cmd seq encoded none, true)

/-- `send(StatusCode, ..)` -/
def sendStatus (st : Status) (seq : UInt16) (packet : PayloadType) (s : Mcu) : Mcu × Bool :=
  s.sendSinglePass P st.toUnderlying seq packet

/-- The single-pass branch of `send(CommandId, ..)`: a reliable frame is logged and not queued. -/
def sendUnqueued (c : Command) (seq : UInt16) (packet : PayloadType) (s : Mcu) : Mcu × Bool :=
  let r := s.sendSinglePass P c.toUnderlying seq packet
  if r.2 && requiresAck c.toUnderlying then
    ({ r.1 with accepted := r.1.accepted ++ [(c.toUnderlying, seq, P.pbEncode packet)] }, true)
  else r

/-- `send(CommandId, ..)` -/
def send (c : Command) (seq : UInt16) (packet : PayloadType) (s : Mcu) : Mcu × Bool :=
  if s.doEncrypt c.toUnderlying then s.sendEncryptedHelper P c.toUnderlying seq packet
  else s.sendUnqueued P c seq packet

/-- `emitStatus`, without and with a text. -/
def emitStatus (st : Status) (message : Option Bytes) (s : Mcu) : Mcu :=
  let r := match message with
    | none => s.sendFrame P st.toUnderlying 0 []
    | some text => s.sendStatus P st 0 (.genericResponse [] (text.take 47))
  if r.2 then r.1 else r.1.enterSafeState

/-- `_processAck` -/
def processAck (cmd seq : UInt16) (s : Mcu) : Mcu :=
  (s.sendStatus P .ack seq (.ackPacket ⟨cmd.toUInt32⟩)).1

end Mcu
end McuBridge
