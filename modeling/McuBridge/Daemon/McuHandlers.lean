import McuBridge.Daemon.Request

/-! # Commands of the MCU (`services/runtime.py`)

The registry of `BridgeService` and its handlers, on the part of the service's state they touch. A handler
returns the state, the frames it sends and whether it returned `False`; it is `none` where it raises. The
frames it sends need no answer, so they leave at once: `sent` is what `serial.send` returns for all of
them. -/

namespace McuBridge
namespace Daemon

/-- The daemon's protobuf runtime: `parse` reads a member of the `payload_type` oneof by its field number,
`str` is the text form of a message. `mcuReadPending` says whether a request waits for a file of the MCU. -/
structure McuHost extends Host where
  parse : Nat → Bytes → Option PayloadType
  encode : PayloadType → Bytes
  str : PayloadType → Text
  pathUnlink : Text → Bool
  mcuReadPending : Bool

structure Reaction where
  service : Service
  replies : List (UInt16 × Payload) := []
  returnsFalse : Bool := false

abbrev McuHandler := McuHost → (sent : Bool) → Payload → Service → Option Reaction

namespace McuHost
variable (h : McuHost)

/-- A `string` field of a parsed message. -/
def text (b : Bytes) : Text := (h.py.decode b).getD []

end McuHost

namespace Service

/-- A handler whose result is the one of its last `serial.send`. -/
def answer (sent : Bool) (cmd : UInt16) (p : Payload) (s : Service) : Reaction :=
  ⟨s, [(cmd, p)], !sent⟩

/-- `serial.send(status, GenericResponse(message=..))` -/
def answerStatus (h : McuHost) (sent : Bool) (st : Status) (message : String) (s : Service) : Reaction :=
  s.answer sent st.toUnderlying (.message (.genericResponse [] (h.py.encode message.toList)))

/-! ### Flow control and console -/

/-- The console queue is flushed after it, by calls of `serial.send` of their own. -/
def handleMcuXon : McuHandler := fun _ _ _ s => some ⟨{ s with mcuIsPaused := false }, [], false⟩

def handleMcuXoff : McuHandler := fun _ _ _ s => some ⟨{ s with mcuIsPaused := true }, [], false⟩

def onMcuConsoleWrite : McuHandler
  | _, _, .message (.consoleWrite d), s =>
    some ⟨if d.isEmpty then s else s.publish .console ["out".toList] (.raw d), [], false⟩
  | _, _, _, _ => none

/-! ### Datastore and mailbox -/

def onMcuDatastorePut : McuHandler
  | h, _, .message (.datastorePut key value), s =>
    let s := match s.datastoreCache with
      | some cache => { s.perform (.datastoreSet (h.text key) value) with
          datastoreCache := some ((h.text key, value) :: cache) }
      | none => s
    some ⟨s.publishDatastoreValue (h.text key) value, [], false⟩
  | _, _, _, _ => none

def onMcuDatastoreGet : McuHandler
  | h, sent, .message (.datastoreGet key), s =>
    let value := (s.datastoreCache.bind fun cache => cache.lookup (h.text key)).getD []
    some (s.answer sent Command.datastoreGetResp.toUnderlying
      (.message (.datastoreGetResponse (value.take 255))))
  | _, _, _, _ => none

def onMcuMailboxPush : McuHandler
  | _, _, .message (.mailboxPush d), s =>
    some ⟨({ s with mailboxIncomingQueue := s.mailboxIncomingQueue ++ [d] } : Service).publish .mailbox
      ["incoming".toList] (.raw d), [], false⟩
  | _, _, _, _ => none

def onMcuMailboxAvailable : McuHandler := fun _ sent _ s =>
  some (s.answer sent Command.mailboxAvailableResp.toUnderlying
    (.message (.mailboxAvailableResponse (UInt32.ofNat s.mailboxQueue.length))))

def onMcuMailboxRead : McuHandler := fun _ sent _ s =>
  some (({ s with mailboxQueue := s.mailboxQueue.tail } : Service).answer sent
    Command.mailboxReadResp.toUnderlying (.message (.mailboxReadResponse (s.mailboxQueue.headD []))))

def onMcuMailboxProcessed : McuHandler
  | h, _, .message (.mailboxProcessed i), s =>
    some ⟨s.publish .mailbox ["processed".toList] (.raw (h.encode (.mailboxProcessed i))), [], false⟩
  | _, _, _, _ => none

/-! ### Files -/

def onMcuFileWrite : McuHandler
  | h, sent, .message (.fileWrite path data), s =>
    match h.safePath (h.text path) with
    | some p =>
      if h.writeWithQuota p data then
        some ((s.perform (.fileWrite p data)).answer sent Status.ok.toUnderlying (.bytes []))
      else some (s.answerStatus h sent .error "Write failed")
    | none => some (s.answerStatus h sent .error "Write failed")
  | _, _, _, _ => none

def onMcuFileRead : McuHandler
  | h, sent, .message (.fileRead path), s =>
    match h.safePath (h.text path) with
    | some p =>
      if h.isFile p then
        let data := h.readBytes p
        let chunks := if data.isEmpty then [[]] else iterChunks data (maxPayloadSize - 3)
        some ⟨s.perform (.fileRead p), chunks.map fun c =>
          (Command.fileReadResp.toUnderlying, .message (.fileReadResponse c)), false⟩
      else some { s.answerStatus h sent .error "Read failed" with returnsFalse := false }
    | none => some { s.answerStatus h sent .error "Read failed" with returnsFalse := false }
  | _, _, _, _ => none

/-- `path.unlink` raises on a directory. -/
def onMcuFileRemove : McuHandler
  | h, sent, .message (.fileRemove path), s =>
    match h.safePath (h.text path) with
    | some p =>
      if h.pathExists p then
        if h.pathUnlink p then
          some ((s.perform (.fileRemove p)).answer sent Status.ok.toUnderlying (.bytes []))
        else none
      else some (s.answerStatus h sent .error "Remove failed")
    | none => some (s.answerStatus h sent .error "Remove failed")
  | _, _, _, _ => none

/-- The chunk goes to the request that waits for it. -/
def onMcuFileReadResp : McuHandler
  | h, _, .message (.fileReadResponse _), s => some ⟨s, [], !h.mcuReadPending⟩
  | _, _, _, _ => none

/-! ### Processes -/

def onMcuProcessRun : McuHandler
  | h, sent, .message (.processRunAsync command), s =>
    let cmd := h.text command
    let failed (s : Service) : Reaction := { s.answerStatus h sent .error "Exec failed" with returnsFalse := true }
    if !cmd.isEmpty && h.isCommandAllowed cmd then
      let (s, pid) := s.runProcess h.toHost cmd
      if pid ≠ 0 then
        some (s.answer sent Command.processRunAsyncResp.toUnderlying (.message (.processRunAsyncResponse pid)))
      else some (failed s)
    else some (failed s)
  | _, _, _, _ => none

def onMcuProcessPoll : McuHandler
  | h, sent, .message (.processPoll pid), s =>
    some ((s.perform (.processPoll pid.toNat)).answer sent Command.processPollResp.toUnderlying
      (.message (.processPollResponse (h.pollProcess pid.toNat))))
  | _, _, _, _ => none

def onMcuProcessKill : McuHandler
  | _, _, .message (.processKill pid), s =>
    if (pid.toNat : Int) ∈ s.runningProcesses then
      some ⟨{ s.perform (.processKill pid.toNat) with
        runningProcesses := s.runningProcesses.erase pid.toNat }, [], false⟩
    else some ⟨s, [], false⟩
  | _, _, _, _ => none

/-! ### Pins, SPI, status -/

/-- `_on_pin_resp` -/
def onPinResp (value : UInt32) (t : Topic) (q : List Int) (s : Service) : Reaction :=
  let pin := match q with
    | p :: _ => (toString p).toList
    | [] => "unknown".toList
  ⟨s.publish t [pin, "value".toList] (.raw ((toString value).toUTF8.toList)), [], false⟩

def onMcuDigitalReadResp : McuHandler
  | _, _, .message (.digitalReadResponse v), s =>
    some (onPinResp v .digital s.pendingDigitalReads { s with pendingDigitalReads := s.pendingDigitalReads.tail })
  | _, _, _, _ => none

def onMcuAnalogReadResp : McuHandler
  | _, _, .message (.analogReadResponse v), s =>
    some (onPinResp v .analog s.pendingAnalogReads { s with pendingAnalogReads := s.pendingAnalogReads.tail })
  | _, _, _, _ => none

def onMcuSpiResp : McuHandler
  | _, _, .message (.spiTransferResponse d), s =>
    some ⟨s.publish .spi ["transfer".toList, "resp".toList] (.raw d), [], false⟩
  | _, _, _, _ => none

def unsupportedDigital : McuHandler := fun h sent _ s =>
  some (s.answerStatus h sent .notImplemented "linux_originates_digital_read_requests")

def unsupportedAnalog : McuHandler := fun h sent _ s =>
  some (s.answerStatus h sent .notImplemented "linux_originates_analog_read_requests")

def hexDigits (b : Bytes) : Text :=
  b.flatMap fun x => [Nat.digitChar (x.toNat / 16), Nat.digitChar (x.toNat % 16)]

def statusText (h : McuHost) : Payload → Text
  | .message (.genericResponse _ m) => h.text m
  | .message m => h.str m
  | .bytes b =>
    if b.isEmpty then []
    else
      match h.parse 33 b with
      | some (.genericResponse _ m) => h.text m
      | _ => (h.py.decode b).getD ("<hex:".toList ++ hexDigits b ++ ">".toList)

def handleMcuStatus (st : Status) : McuHandler := fun h _ p s =>
  some ⟨s.publish .system ["status".toList] (.statusReport st (statusText h p)), [], false⟩

/-- A message that is not an `AckPacket` has no `command_id` to read; bytes that do not parse are logged. -/
def onMcuAck : McuHandler
  | _, _, .message (.ackPacket _), s => some ⟨s, [], false⟩
  | _, _, .message _, _ => none
  | _, _, .bytes _, s => some ⟨s, [], false⟩

/-- `handle_capabilities_resp` and `handle_link_reset_resp` leave the service alone. -/
def onMcuNothing : McuHandler := fun _ _ _ s => some ⟨s, [], false⟩

/-! ### The registry -/

/-- `mcu_registry` without LINK_SYNC_RESP, which belongs to the handshake. -/
def mcuRegistry : List (UInt16 × McuHandler) :=
  [(Command.xon.toUnderlying, handleMcuXon),
    (Command.xoff.toUnderlying, handleMcuXoff),
    (Command.consoleWrite.toUnderlying, onMcuConsoleWrite),
    (Command.datastorePut.toUnderlying, onMcuDatastorePut),
    (Command.datastoreGet.toUnderlying, onMcuDatastoreGet),
    (Command.mailboxPush.toUnderlying, onMcuMailboxPush),
    (Command.mailboxAvailable.toUnderlying, onMcuMailboxAvailable),
    (Command.mailboxRead.toUnderlying, onMcuMailboxRead),
    (Command.mailboxProcessed.toUnderlying, onMcuMailboxProcessed),
    (Command.fileWrite.toUnderlying, onMcuFileWrite),
    (Command.fileRead.toUnderlying, onMcuFileRead),
    (Command.fileRemove.toUnderlying, onMcuFileRemove),
    (Command.fileReadResp.toUnderlying, onMcuFileReadResp),
    (Command.processRunAsync.toUnderlying, onMcuProcessRun),
    (Command.processPoll.toUnderlying, onMcuProcessPoll),
    (Command.spiTransferResp.toUnderlying, onMcuSpiResp),
    (Status.ack.toUnderlying, onMcuAck),
    (Command.digitalReadResp.toUnderlying, onMcuDigitalReadResp),
    (Command.analogReadResp.toUnderlying, onMcuAnalogReadResp),
    (Command.processKill.toUnderlying, onMcuProcessKill),
    (Command.digitalRead.toUnderlying, unsupportedDigital),
    (Command.analogRead.toUnderlying, unsupportedAnalog),
    (Command.getCapabilitiesResp.toUnderlying, onMcuNothing),
    (Command.linkResetResp.toUnderlying, onMcuNothing),
    (Status.ok.toUnderlying, handleMcuStatus .ok),
    (Status.error.toUnderlying, handleMcuStatus .error),
    (Status.cmdUnknown.toUnderlying, handleMcuStatus .cmdUnknown),
    (Status.malformed.toUnderlying, handleMcuStatus .malformed),
    (Status.overflow.toUnderlying, handleMcuStatus .overflow),
    (Status.crcMismatch.toUnderlying, handleMcuStatus .crcMismatch),
    (Status.timeout.toUnderlying, handleMcuStatus .timeout),
    (Status.notImplemented.toUnderlying, handleMcuStatus .notImplemented)]

end Service

/-- `COMMAND_TO_PB`, by the oneof member of the class: the commands named like a message. -/
def commandToPb : List (UInt16 × Nat) :=
  [(Command.linkSync.toUnderlying, 37), (Command.enterBootloader.toUnderlying, 38),
    (Command.digitalWrite.toUnderlying, 11), (Command.analogWrite.toUnderlying, 12),
    (Command.digitalReadResp.toUnderlying, 14), (Command.analogReadResp.toUnderlying, 15),
    (Command.consoleWrite.toUnderlying, 16), (Command.datastorePut.toUnderlying, 17),
    (Command.datastoreGet.toUnderlying, 18), (Command.datastoreGetResp.toUnderlying, 19),
    (Command.mailboxPush.toUnderlying, 20), (Command.mailboxProcessed.toUnderlying, 21),
    (Command.mailboxAvailableResp.toUnderlying, 22), (Command.mailboxReadResp.toUnderlying, 23),
    (Command.fileWrite.toUnderlying, 24), (Command.fileRead.toUnderlying, 25),
    (Command.fileRemove.toUnderlying, 26), (Command.fileReadResp.toUnderlying, 27),
    (Command.processRunAsync.toUnderlying, 28), (Command.processRunAsyncResp.toUnderlying, 29),
    (Command.processPoll.toUnderlying, 30), (Command.processPollResp.toUnderlying, 31),
    (Command.processKill.toUnderlying, 32), (Command.spiTransfer.toUnderlying, 39),
    (Command.spiTransferResp.toUnderlying, 40)]

end Daemon
end McuBridge
