import McuBridge.Lib.Run
import McuBridge.Mcu.Dispatch

/-! # Runs of the firmware

The entry points of `BridgeClass` and of the services as events. A timer callback is an event of its own
and may come at any time: the scheduler's clock is not part of the model. The sketch's callbacks run at
the end of the method that calls them, so what they send comes as the events after it. -/

namespace McuBridge

inductive McuEvent where
  /-- `_handleReceivedFrame`, with what `parse_frame` returned. -/
  | recv (hal : Hal) (res : Option RpcEnvelope)
  | sendFrame (cmd seq : UInt16) (p : Bytes)
  | send (c : Command) (seq : UInt16) (packet : PayloadType)
  | sendStatus (st : Status) (seq : UInt16) (packet : PayloadType)
  | emitStatus (st : Status) (message : Option Bytes)
  | retransmitLastFrame
  | enterSafeState
  | onAckTimeout
  | onRxDedupe
  | onBaudrateChange
  | onBootloaderDelay
  | onHandshakeTimeout
  /-- The flow-control half of `_serialTask`, with `_stream.available()`. -/
  | serialTask (avail : Nat)
  | consoleBegin
  | consoleWrite (data : Bytes)
  | consoleProcess
  | dataStoreGet (key : Bytes) (valid : Bool)
  | fileSystemRead (path : Bytes) (valid : Bool)
  | processRunAsync (cmd : Bytes) (args : List Bytes) (valid : Bool)
  | processPoll (pid : UInt32) (valid : Bool)
  | mailboxProcess
  /-- `onCommand`, `registerMessageCallback` and `registerAvailableCallback`. -/
  | register (command message available : Bool)

namespace Mcu
variable (P : Platform)

def onRxDedupe (s : Mcu) : Mcu := { s with rxHistory := [] }

/-- `_onHandshakeTimeout` -/
def onHandshakeTimeout (s : Mcu) : Mcu :=
  if s.isSynchronized then s
  else { s.receive .timeout with txEnabled := false }

def onBaudrateChange (s : Mcu) : Mcu :=
  if s.pendingBaudrate > 0 then
    let s' := if s.hardwareSerial then s.act (.serialBegin s.pendingBaudrate) else s
    { s' with pendingBaudrate := 0 }
  else s

def onBootloaderDelay (s : Mcu) : Mcu := s.act .enterBootloader

def xoffThreshold : Nat := 48
def xonThreshold : Nat := 16

/-- `_serialTask` after `_packet_serial.update`; `signalXoff` and `signalXon` are `sendFrame` calls. -/
def serialTask (avail : Nat) (s : Mcu) : Mcu :=
  if !s.serialXoffSent && avail > xoffThreshold then
    { (s.sendFrame P Command.xoff.toUnderlying 0 []).1 with serialXoffSent := true }
  else if s.serialXoffSent && avail < xonThreshold then
    { (s.sendFrame P Command.xon.toUnderlying 0 []).1 with serialXoffSent := false }
  else s

def consoleBegin (s : Mcu) : Mcu :=
  { s with services := { s.services with consoleBegun := true, consoleRx := [], consoleTx := [] } }

def register (command message available : Bool) (s : Mcu) : Mcu :=
  { s with
    commandHandler := command
    services := { s.services with messageCallback := message, availableCallback := available } }

def rxDedupeIntervalMs : UInt32 := 1000
def baudrateChangeDelayMs : UInt32 := 50
def bootloaderDelayMs : UInt32 := 100

/-- The calls of `begin` on `_timers`. -/
def registerTimers (s : Mcu) : List TimerCall :=
  [.clear, .register .ackTimeout s.ackTimeoutMs.toUInt32 true, .register .rxDedupe rxDedupeIntervalMs true,
    .register .baudrateChange baudrateChangeDelayMs false, .register .bootloaderDelay bootloaderDelayMs false,
    .register .handshakeTimeout s.responseTimeoutMs false, .start .handshakeTimeout]

/-- `begin(baudrate, secret)` with the outcome of the cryptographic self-tests. -/
def begin (secret : Bytes) (postOk : Bool) (s : Mcu) : Mcu :=
  let s := { s with serialXoffSent := false, sharedSecret := secret.take 64 }
  let s := s.receive .reset
  let s := { s with isPostPassed := postOk }
  let s := if postOk then s else s.enterSafeState
  { s with
    txEnabled := true
    timers := [.handshakeTimeout]
    timerCalls := s.timerCalls ++ s.registerTimers
    handshakePeriodMs := s.responseTimeoutMs }

/-- The firmware after `begin`, from the statically initialised object. -/
def boot (secret : Bytes) (postOk : Bool) : Mcu := begin secret postOk {}

def step : McuEvent → Mcu → Mcu
  | .recv hal res, s => s.handleReceivedFrame P hal res
  | .sendFrame cmd seq p, s => (s.sendFrame P cmd seq p).1
  | .send c seq packet, s => (s.send P c seq packet).1
  | .sendStatus st seq packet, s => (s.sendStatus P st seq packet).1
  | .emitStatus st message, s => s.emitStatus P st message
  | .retransmitLastFrame, s => s.retransmitLastFrame P
  | .enterSafeState, s => s.enterSafeState
  | .onAckTimeout, s => s.onAckTimeout P
  | .onRxDedupe, s => s.onRxDedupe
  | .onBaudrateChange, s => s.onBaudrateChange
  | .onBootloaderDelay, s => s.onBootloaderDelay
  | .onHandshakeTimeout, s => s.onHandshakeTimeout
  | .serialTask avail, s => s.serialTask P avail
  | .consoleBegin, s => s.consoleBegin
  | .consoleWrite data, s => s.consoleWrite P data
  | .consoleProcess, s => s.consoleProcess P
  | .dataStoreGet key valid, s => s.dataStoreGet P key valid
  | .fileSystemRead path valid, s => s.fileSystemRead P path valid
  | .processRunAsync cmd args valid, s => s.processRunAsync P cmd args valid
  | .processPoll pid valid, s => s.processPoll P pid valid
  | .mailboxProcess, s => s.mailboxProcess
  | .register c m a, s => s.register c m a

/-- The state after `begin` and the given events. -/
def runFrom (secret : Bytes) (postOk : Bool) (evs : List McuEvent) : Mcu :=
  Run.run (step P) (boot secret postOk) evs

end Mcu
end McuBridge
