import McuBridge.Lib.TimerService
import McuBridge.Platform
import McuBridge.Mcu.Fsm

/-! # The firmware's state (`Bridge.h`, `services/`)

`Mcu` holds the members of `BridgeClass` that its methods read, the services' queues, and a record of what
the outside world has seen: the frames put on the serial line (`wire`), the calls of `aead_encrypt_frame`
(`seals`, key and nonce) and of `derive_session_key` (`derived`, the handshake nonce), the counters
`validate_frame_nonce` let through (`accepts`, with the key in use), the handlers that ran (`handled`), the
hardware and callback actions (`acts`), the calls on the timer service (`timerCalls`) and the reliable frames for which
`send` or `sendFrame` returned true (`accepted`). -/

namespace McuBridge

/-- `PendingTxFrame`; `buffer` is the pool slot, `data` its first `length` bytes. `ticket` is the frame's
place in the record `accepted`. -/
structure PendingTxFrame where
  commandId : UInt16
  sequenceId : UInt16
  buffer : Nat
  data : Bytes
  ticket : Nat
  deriving DecidableEq

/-- Command, sequence id and payload of a reliable frame. -/
abbrev ReliableFrame := UInt16 × UInt16 × Bytes

def PendingTxFrame.frame (f : PendingTxFrame) : ReliableFrame := (f.commandId, f.sequenceId, f.data)

inductive TimerId where
  | ackTimeout | rxDedupe | baudrateChange | bootloaderDelay | handshakeTimeout
  deriving DecidableEq

/-- A call of a method of `_timers`. `enable` is called nowhere, and `tick` in `_timerTask` only. -/
abbrev TimerCall := TimerService.Call TimerId

inductive Act where
  | forceSafeState
  | pinMode (pin : UInt8) (mode : UInt8)
  | digitalWrite (pin : UInt8) (high : Bool)
  | analogWrite (pin : UInt8) (value : UInt32)
  | digitalRead (pin : UInt8)
  | analogRead (pin : UInt8)
  | serialBegin (baudrate : UInt32)
  | enterBootloader
  | writeFile (path data : Bytes)
  | removeFile (path : Bytes)
  | spiBegin
  | spiEnd
  | spiTransfer (data : Bytes)
  | commandCallback (e : RpcEnvelope)
  | datastoreCallback (value : Bytes)
  | availableCallback (count : UInt32)
  | messageCallback (data : Bytes)
  | readCallback (content : Bytes)
  | runAsyncCallback (pid : UInt32)
  | pollCallback (m : ProcessPollResponse)
  deriving DecidableEq

/-- The state of `Console`, `DataStore`, `Mailbox`, `FileSystem`, `Process` and `SPIService`. A pending
handler is the flag `is_valid()` of its delegate. -/
structure Services where
  consoleBegun : Bool := false
  consoleRx : Bytes := []
  consoleTx : Bytes := []
  pendingGets : List Bool := []
  mailboxQueue : List Bytes := []
  messageCallback : Bool := false
  availableCallback : Bool := false
  readHandler : Bool := false
  pendingRunAsync : Nat := 0
  pendingPolls : List UInt32 := []
  spiInitialized : Bool := false
  spiSettings : SpiConfig := ⟨1, 0, 4000000⟩

def maxPendingDatastore : Nat := 1
def maxPendingProcessPolls : Nat := 1
def mailboxCapacity : Nat := 8

structure Mcu where
  commandHandler : Bool := false
  lastCommandId : UInt16 := 0
  retryCount : UInt8 := 0
  retryLimit : UInt8 := 5
  ackTimeoutMs : UInt16 := 200
  responseTimeoutMs : UInt32 := 180000
  pendingBaudrate : UInt32 := 0
  hardwareSerial : Bool := false
  sharedSecret : Bytes := []
  sessionKey : Bytes := List.replicate 32 0
  txNonceCounter : UInt64 := 0
  rxNonceCounter : UInt64 := 0
  fsm : StateId := .startup
  serialXoffSent : Bool := false
  isPostPassed : Bool := false
  txEnabled : Bool := true
  txPayloadPool : List Nat := []
  pendingTxQueue : List PendingTxFrame := []
  rxHistory : List UInt16 := []
  timers : List TimerId := []
  timerCalls : List TimerCall := []
  handshakePeriodMs : UInt32 := 0
  services : Services := {}
  wire : List Sent := []
  seals : List (Bytes × Bytes) := []
  derived : List Bytes := []
  accepts : List (Bytes × UInt64) := []
  handled : List (UInt16 × UInt16) := []
  acts : List Act := []
  accepted : List ReliableFrame := []

namespace Mcu

def isSynchronized (s : Mcu) : Bool := s.fsm.isSynchronized
def isAwaitingAck (s : Mcu) : Bool := s.fsm.isAwaitingAck

def act (a : Act) (s : Mcu) : Mcu := { s with acts := s.acts ++ [a] }

/-- `_fsm.receive`; entering `FAULT` forces the hardware safe state. -/
def receive (ev : FsmEvent) (s : Mcu) : Mcu :=
  { s with
    fsm := s.fsm.onEvent ev
    acts := if s.fsm.onEvent ev = .fault ∧ s.fsm ≠ .fault then s.acts ++ [.forceSafeState] else s.acts }

def startTimer (t : TimerId) (s : Mcu) : Mcu :=
  { s with timers := t :: s.timers.erase t, timerCalls := s.timerCalls ++ [.start t] }

def stopTimer (t : TimerId) (s : Mcu) : Mcu :=
  { s with timers := s.timers.erase t, timerCalls := s.timerCalls ++ [.stop t] }

/-- `_clearPendingTxQueue`: every referenced buffer goes back to the pool. -/
def clearPendingTxQueue (s : Mcu) : Mcu :=
  { s with
    txPayloadPool := s.txPayloadPool.filter fun b => !(s.pendingTxQueue.any fun f => f.buffer == b)
    pendingTxQueue := [] }

/-- The `onLost` methods of the six services. -/
def Services.onLost (v : Services) : Services :=
  { v with
    consoleBegun := false
    pendingGets := []
    mailboxQueue := []
    pendingRunAsync := 0
    pendingPolls := []
    readHandler := false
    spiInitialized := false }

def enterSafeState (s : Mcu) : Mcu :=
  let s := s.act .forceSafeState
  let s := { s with txEnabled := false }
  let s := s.clearPendingTxQueue
  let s := s.receive .reset
  ({ s with services := Services.onLost s.services } : Mcu).act .spiEnd

/-- Whether a frame with this command id is sealed in the current state. -/
def doEncrypt (s : Mcu) (cmd : UInt16) : Bool :=
  s.isSynchronized && !s.sharedSecret.isEmpty && !isSystemCommand cmd

/-- `send` would accept a reliable command and not queue it: its single-pass branch is taken and sends. -/
def bypassesQueue (s : Mcu) (cmd : UInt16) : Bool :=
  requiresAck cmd && !s.doEncrypt cmd && (s.txEnabled || isSystemCommand cmd)

/-- `_isSecurityCheckPassed` -/
def isSecurityCheckPassed (s : Mcu) (cmd : UInt16) : Bool :=
  s.sharedSecret.isEmpty || isSystemCommand cmd || s.isSynchronized

end Mcu
end McuBridge
