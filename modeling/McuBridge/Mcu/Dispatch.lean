import McuBridge.Mcu.Services

/-! # The receive side of the firmware (`Bridge.cpp`)

`_handleReceivedFrame` decrypts, `_dispatchCommand` deduplicates and looks the command up, and the
`_onCmd_*` functions acknowledge, decode and run one `_handle*` method each. -/

namespace McuBridge

structure CommandContext where
  envelope : RpcEnvelope
  rawCommand : UInt16
  sequenceId : UInt16
  isDuplicate : Bool
  requiresAck : Bool

/-- `rpc::Payload` for one message type: its oneof tag and the reading of the active member. -/
structure PbMessage (M : Type) where
  tag : Nat
  select : PayloadType → Option M

namespace PbMessage

def pinMode : PbMessage (UInt32 × UInt32) := ⟨10, fun | .pinMode p m => some (p, m) | _ => none⟩
def digitalWrite : PbMessage (UInt32 × UInt32) := ⟨11, fun | .digitalWrite p v => some (p, v) | _ => none⟩
def analogWrite : PbMessage (UInt32 × UInt32) := ⟨12, fun | .analogWrite p v => some (p, v) | _ => none⟩
def pinRead : PbMessage UInt32 := ⟨13, fun | .pinRead p => some p | _ => none⟩
def consoleWrite : PbMessage Bytes := ⟨16, fun | .consoleWrite d => some d | _ => none⟩
def datastoreGetResponse : PbMessage Bytes := ⟨19, fun | .datastoreGetResponse v => some v | _ => none⟩
def mailboxPush : PbMessage Bytes := ⟨20, fun | .mailboxPush d => some d | _ => none⟩
def mailboxAvailableResponse : PbMessage UInt32 :=
  ⟨22, fun | .mailboxAvailableResponse c => some c | _ => none⟩
def mailboxReadResponse : PbMessage Bytes := ⟨23, fun | .mailboxReadResponse c => some c | _ => none⟩
def fileWrite : PbMessage (Bytes × Bytes) := ⟨24, fun | .fileWrite p d => some (p, d) | _ => none⟩
def fileRead : PbMessage Bytes := ⟨25, fun | .fileRead p => some p | _ => none⟩
def fileRemove : PbMessage Bytes := ⟨26, fun | .fileRemove p => some p | _ => none⟩
def fileReadResponse : PbMessage Bytes := ⟨27, fun | .fileReadResponse c => some c | _ => none⟩
def processRunAsyncResponse : PbMessage UInt32 :=
  ⟨29, fun | .processRunAsyncResponse p => some p | _ => none⟩
def processPollResponse : PbMessage ProcessPollResponse :=
  ⟨31, fun | .processPollResponse m => some m | _ => none⟩
def processKill : PbMessage UInt32 := ⟨32, fun | .processKill p => some p | _ => none⟩
def ackPacket : PbMessage AckPacket := ⟨34, fun | .ackPacket m => some m | _ => none⟩
def handshakeConfig : PbMessage HandshakeConfig := ⟨35, fun | .handshakeConfig m => some m | _ => none⟩
def setBaudratePacket : PbMessage UInt32 := ⟨36, fun | .setBaudratePacket b => some b | _ => none⟩
def linkSync : PbMessage LinkSync := ⟨37, fun | .linkSync m => some m | _ => none⟩
def enterBootloader : PbMessage UInt32 := ⟨38, fun | .enterBootloader m => some m | _ => none⟩
def spiTransfer : PbMessage Bytes := ⟨39, fun | .spiTransfer d => some d | _ => none⟩
def spiConfig : PbMessage SpiConfig := ⟨41, fun | .spiConfig m => some m | _ => none⟩

/-- `_decodePayload`: raw bytes only, a typed member is not read. -/
def decodePayload (P : Platform) {M : Type} (d : PbMessage M) : PayloadType → Option M
  | .encryptedPayloadWithTag b => (P.pbDecode d.tag b).bind d.select
  | _ => none

/-- The message `_dispatchCmd` hands to the handler: the typed member if it is the active one, else the
decoded raw bytes. -/
def read (P : Platform) {M : Type} (d : PbMessage M) (p : PayloadType) : Option M :=
  match d.select p with
  | some m => some m
  | none => d.decodePayload P p

end PbMessage

namespace Mcu
variable (P : Platform)

/-! ### Dispatch templates -/

/-- The invocation of a handler, for the record. -/
def handle (ctx : CommandContext) (s : Mcu) : Mcu :=
  { s with handled := s.handled ++ [(ctx.rawCommand, ctx.sequenceId)] }

/-- `_preDispatch`: the ACK goes out before anything is decoded. -/
def preDispatch (ctx : CommandContext) (needsAck retransmitOnDup : Bool) (s : Mcu) : Mcu × Bool :=
  let s := if needsAck then s.processAck P ctx.rawCommand ctx.sequenceId else s
  if ctx.isDuplicate then
    (if retransmitOnDup then s.retransmitLastFrame P else s, false)
  else (s, true)

/-- `_dispatchCmd` for a message type -/
def dispatchCmd {M : Type} (d : PbMessage M) (handler : CommandContext → M → Mcu → Mcu)
    (ctx : CommandContext) (needsAck retransmitOnDup : Bool) (s : Mcu) : Mcu :=
  match s.preDispatch P ctx needsAck retransmitOnDup with
  | (s, false) => s
  | (s, true) =>
    match d.read P ctx.envelope.payloadType with
    | some m => handler ctx m (s.handle ctx)
    | none => s.emitStatus P .malformed none

/-- `_dispatchCmd<_NoPayload>` -/
def dispatchNoPayload (handler : CommandContext → Mcu → Mcu) (ctx : CommandContext)
    (needsAck retransmitOnDup : Bool) (s : Mcu) : Mcu :=
  match s.preDispatch P ctx needsAck retransmitOnDup with
  | (s, false) => s
  | (s, true) => handler ctx (s.handle ctx)

/-! ### Handlers -/

def handleSetBaudrate (baudrate : UInt32) (s : Mcu) : Mcu :=
  if baudrate = 0 ∨ baudrate = s.pendingBaudrate then s
  else ({ s with pendingBaudrate := baudrate } : Mcu).startTimer .baudrateChange

def handleEnterBootloader (magic : UInt32) (s : Mcu) : Mcu :=
  if magic = bootloaderMagic then s.startTimer .bootloaderDelay else s

/-- `kPinModeMap`: INPUT, OUTPUT and INPUT_PULLUP, INPUT for anything else. -/
def pinModeValue (mode : UInt32) : UInt8 :=
  if mode = 1 then 1 else if mode = 2 then 2 else 0

def handleSetPinMode (m : UInt32 × UInt32) (s : Mcu) : Mcu :=
  s.act (.pinMode m.1.toUInt8 (pinModeValue m.2))

def handleDigitalWrite (m : UInt32 × UInt32) (s : Mcu) : Mcu :=
  s.act (.digitalWrite m.1.toUInt8 (m.2 != 0))

def handleAnalogWrite (m : UInt32 × UInt32) (s : Mcu) : Mcu :=
  s.act (.analogWrite m.1.toUInt8 m.2)

/-- `_handlePinReadCommon`, after the choice of the response command and of the read function. -/
def handlePinReadCommon (ctx : CommandContext) (pin maxPins : UInt8) (resp : Command) (a : Act)
    (packet : PayloadType) (s : Mcu) : Mcu :=
  if pin < maxPins then
    let r := (s.act a).send P resp ctx.sequenceId packet
    if r.2 then r.1 else r.1.emitStatus P .error none
  else s.emitStatus P .error none

def handleDigitalRead (hal : Hal) (ctx : CommandContext) (pin : UInt32) (s : Mcu) : Mcu :=
  s.handlePinReadCommon P ctx pin.toUInt8 P.digitalPins .digitalReadResp (.digitalRead pin.toUInt8)
    (.digitalReadResponse (hal.digitalRead pin.toUInt8))

def handleAnalogRead (hal : Hal) (ctx : CommandContext) (pin : UInt32) (s : Mcu) : Mcu :=
  if P.hasAnalogRead then
    s.handlePinReadCommon P ctx pin.toUInt8 P.analogPins .analogReadResp (.analogRead pin.toUInt8)
      (.analogReadResponse (hal.analogRead pin.toUInt8))
  else s.emitStatus P .error none

/-- `_onCmd_PinRead`: two table entries share it. -/
def handlePinRead (hal : Hal) (ctx : CommandContext) (pin : UInt32) (s : Mcu) : Mcu :=
  if ctx.rawCommand = Command.digitalRead.toUnderlying then s.handleDigitalRead P hal ctx pin
  else s.handleAnalogRead P hal ctx pin

def handleSpiBegin (ctx : CommandContext) (s : Mcu) : Mcu :=
  s.spiBegin.processAck P ctx.rawCommand ctx.sequenceId

def handleSpiEnd (ctx : CommandContext) (s : Mcu) : Mcu :=
  s.spiEnd.processAck P ctx.rawCommand ctx.sequenceId

def handleSpiTransfer (hal : Hal) (ctx : CommandContext) (data : Bytes) (s : Mcu) : Mcu :=
  match s.spiTransfer hal (data.take maxPayloadSize) with
  | (s, none) => s.emitStatus P .error none
  | (s, some received) =>
    let r := s.send P .spiTransferResp ctx.sequenceId (.spiTransferResponse (received.take 64))
    if r.2 then r.1 else r.1.emitStatus P .error none

/-- The nonce `_handleLinkSync` works with: the first 16 bytes of the received one. -/
def linkSyncNonce (m : LinkSync) : Bytes := m.nonce.take handshakeNonceLength

/-- The effect of an accepted LINK_SYNC: a fresh session key and both counters at zero. -/
def installSession (nonce : Bytes) (s : Mcu) : Mcu :=
  { s with
    sessionKey := P.deriveSessionKey s.sharedSecret nonce
    derived := s.derived ++ [nonce]
    txNonceCounter := 0
    rxNonceCounter := 0 }

/-- The part of `_handleLinkSync` after authentication. -/
def completeHandshake (ctx : CommandContext) (resp : LinkSync) (s : Mcu) : Mcu :=
  let s := s.receive .handshakeStart
  let s := s.receive .handshakeComplete
  let s := s.stopTimer .handshakeTimeout
  (s.send P .linkSyncResp ctx.sequenceId (.linkSync resp)).1

def handleLinkSync (ctx : CommandContext) (m : LinkSync) (s : Mcu) : Mcu :=
  let nonce := linkSyncNonce m
  if s.sharedSecret.isEmpty then s.completeHandshake P ctx ⟨nonce, []⟩
  else
    let (outTag, tagOk) := handshakeAuthenticate P.toCrypto s.sharedSecret nonce m.tag
    if tagOk then
      (s.installSession P nonce).completeHandshake P ctx ⟨nonce, outTag.take handshakeTagLength⟩
    else (s.receive .handshakeFailed).emitStatus P .error none

def applyTimingConfig (m : HandshakeConfig) (s : Mcu) : Mcu :=
  { s with
    ackTimeoutMs := m.ackTimeoutMs.toUInt16
    retryLimit := m.ackRetryLimit.toUInt8
    responseTimeoutMs := m.responseTimeoutMs }

/-- The optional `HandshakeConfig` of a LINK_RESET, read from raw bytes only. -/
def applyResetConfig (ctx : CommandContext) (s : Mcu) : Mcu :=
  match PbMessage.handshakeConfig.decodePayload P ctx.envelope.payloadType with
  | some m => s.applyTimingConfig m
  | none => s

/-- `stop`, `set_period`, `start` of the handshake watchdog. -/
def restartHandshakeTimer (s : Mcu) : Mcu :=
  ({ s with
    handshakePeriodMs := s.responseTimeoutMs
    timerCalls := s.timerCalls ++ [.stop .handshakeTimeout, .setPeriod .handshakeTimeout s.responseTimeoutMs] } :
      Mcu).startTimer .handshakeTimeout

def handleLinkReset (ctx : CommandContext) (s : Mcu) : Mcu :=
  let s := s.applyResetConfig P ctx
  let s := s.receive .reset
  let s := s.restartHandshakeTimer
  (s.sendFrame P Command.linkResetResp.toUnderlying ctx.sequenceId []).1

def handleGetCapabilities (hal : Hal) (ctx : CommandContext) (s : Mcu) : Mcu :=
  (s.send P .getCapabilitiesResp ctx.sequenceId (.capabilities hal.capabilities)).1

def handleGetVersion (ctx : CommandContext) (s : Mcu) : Mcu :=
  (s.send P .getVersionResp ctx.sequenceId (.versionResponse P.firmwareVersion)).1

def handleGetFreeMemory (hal : Hal) (ctx : CommandContext) (s : Mcu) : Mcu :=
  (s.send P .getFreeMemoryResp ctx.sequenceId (.freeMemoryResponse hal.freeMemory.toUInt32)).1

def handleXoff (s : Mcu) : Mcu := { s with txEnabled := false }
def handleXon (s : Mcu) : Mcu := { s with txEnabled := true }

/-- `onUnknownCommand` -/
def onUnknownCommand (ctx : CommandContext) (s : Mcu) : Mcu :=
  if s.commandHandler then (s.handle ctx).act (.commandCallback ctx.envelope)
  else s.emitStatus P .error none

/-- `_onCmd_MailboxReadResp` and `_onCmd_MailboxAvailableResp`: no ACK, no duplicate check, and only raw
bytes are decoded. -/
def onCmdResponse {M : Type} (d : PbMessage M) (handler : M → Mcu → Mcu) (ctx : CommandContext) (s : Mcu) : Mcu :=
  match d.decodePayload P ctx.envelope.payloadType with
  | none => s.emitStatus P .malformed none
  | some m => handler m (s.handle ctx)

/-! ### The dispatch table -/

abbrev Handler := Hal → CommandContext → Mcu → Mcu

/-- `k_dispatch_table`, in the order of the source. -/
def kDispatchTable : List (UInt16 × Handler) :=
  [(Status.ack.toUnderlying, fun _ ctx => dispatchCmd P .ackPacket
      (fun _ m => handleAck P m.commandId.toUInt16) ctx true false),
    (Command.getVersion.toUnderlying, fun _ ctx => dispatchNoPayload P (handleGetVersion P) ctx false true),
    (Command.getFreeMemory.toUnderlying, fun hal ctx =>
      dispatchNoPayload P (handleGetFreeMemory P hal) ctx false true),
    (Command.linkSync.toUnderlying, fun _ ctx => dispatchCmd P .linkSync (handleLinkSync P) ctx true false),
    (Command.linkReset.toUnderlying, fun _ ctx => dispatchNoPayload P (handleLinkReset P) ctx true false),
    (Command.getCapabilities.toUnderlying, fun hal ctx =>
      dispatchNoPayload P (handleGetCapabilities P hal) ctx false true),
    (Command.setBaudrate.toUnderlying, fun _ ctx => dispatchCmd P .setBaudratePacket
      (fun _ m => handleSetBaudrate m) ctx true false),
    (Command.enterBootloader.toUnderlying, fun _ ctx => dispatchCmd P .enterBootloader
      (fun _ m => handleEnterBootloader m) ctx true false),
    (Command.xoff.toUnderlying, fun _ ctx => dispatchNoPayload P (fun _ => handleXoff) ctx true false),
    (Command.xon.toUnderlying, fun _ ctx => dispatchNoPayload P (fun _ => handleXon) ctx true false),
    (Command.setPinMode.toUnderlying, fun _ ctx => dispatchCmd P .pinMode
      (fun _ m => handleSetPinMode m) ctx true false),
    (Command.digitalWrite.toUnderlying, fun _ ctx => dispatchCmd P .digitalWrite
      (fun _ m => handleDigitalWrite m) ctx true false),
    (Command.analogWrite.toUnderlying, fun _ ctx => dispatchCmd P .analogWrite
      (fun _ m => handleAnalogWrite m) ctx true false),
    (Command.digitalRead.toUnderlying, fun hal ctx => dispatchCmd P .pinRead
      (handlePinRead P hal) ctx false true),
    (Command.analogRead.toUnderlying, fun hal ctx => dispatchCmd P .pinRead
      (handlePinRead P hal) ctx false true),
    (Command.consoleWrite.toUnderlying, fun _ ctx => dispatchCmd P .consoleWrite
      (fun _ m => consolePush P m) ctx true false),
    (Command.datastoreGetResp.toUnderlying, fun _ ctx => dispatchCmd P .datastoreGetResponse
      (fun _ m => dataStoreOnResponse m) ctx true false),
    (Command.mailboxPush.toUnderlying, fun _ ctx => dispatchCmd P .mailboxPush
      (fun _ m => mailboxQueuePush m) ctx true false),
    (Command.mailboxReadResp.toUnderlying, fun _ ctx =>
      onCmdResponse P .mailboxReadResponse mailboxQueuePush ctx),
    (Command.mailboxAvailableResp.toUnderlying, fun _ ctx =>
      onCmdResponse P .mailboxAvailableResponse mailboxOnAvailableResponse ctx),
    (Command.fileWrite.toUnderlying, fun hal ctx => dispatchCmd P .fileWrite
      (fun _ m => fileSystemOnWrite P hal m.1 m.2) ctx true false),
    (Command.fileRead.toUnderlying, fun hal ctx => dispatchCmd P .fileRead
      (fun _ m => fileSystemOnRead P hal m) ctx true false),
    (Command.fileRemove.toUnderlying, fun hal ctx => dispatchCmd P .fileRemove
      (fun _ m => fileSystemOnRemove P hal m) ctx true false),
    (Command.fileReadResp.toUnderlying, fun _ ctx => dispatchCmd P .fileReadResponse
      (fun _ m => fileSystemOnResponse m) ctx true false),
    (Command.processKill.toUnderlying, fun _ ctx => dispatchCmd P .processKill
      (fun _ _ => processOnKillNotification) ctx true false),
    (Command.processRunAsyncResp.toUnderlying, fun _ ctx => dispatchCmd P .processRunAsyncResponse
      (fun _ m => processOnRunAsyncResponse m) ctx true false),
    (Command.processPollResp.toUnderlying, fun _ ctx => dispatchCmd P .processPollResponse
      (fun _ m => processOnPollResponse m) ctx true false),
    (Command.spiBegin.toUnderlying, fun _ ctx => dispatchNoPayload P (handleSpiBegin P) ctx true false),
    (Command.spiTransfer.toUnderlying, fun hal ctx => dispatchCmd P .spiTransfer
      (handleSpiTransfer P hal) ctx false true),
    (Command.spiEnd.toUnderlying, fun _ ctx => dispatchNoPayload P (handleSpiEnd P) ctx true false),
    (Command.spiSetConfig.toUnderlying, fun _ ctx => dispatchCmd P .spiConfig
      (fun _ m => spiSetConfig m) ctx true false)]

/-- The binary search loop of `_dispatchCommand`; `fuel` bounds its iterations. -/
def searchLoop {α : Type} (table : List (UInt16 × α)) (cmd : UInt16) : Nat → Int → Int → Option α
  | 0, _, _ => none
  | fuel + 1, left, right =>
    if left ≤ right then
      let mid := left + (right - left) / 2
      match table[mid.toNat]? with
      | none => none
      | some (midCmd, fn) =>
        if midCmd = cmd then some fn
        else if midCmd < cmd then searchLoop table cmd fuel (mid + 1) right
        else searchLoop table cmd fuel left (mid - 1)
    else none

def findHandler {α : Type} (table : List (UInt16 × α)) (cmd : UInt16) : Option α :=
  searchLoop table cmd (table.length + 1) 0 (table.length - 1)

/-! ### Dispatch and reception -/

def pushHistory (seq : UInt16) (s : Mcu) : Mcu :=
  { s with
    rxHistory :=
      (if rxHistorySize ≤ s.rxHistory.length then s.rxHistory.tail else s.rxHistory) ++ [seq] }

/-- The duplicate test: a 16-bit history against the 32-bit field of the envelope. -/
def isDuplicate (s : Mcu) (env : RpcEnvelope) : Bool :=
  s.rxHistory.any fun h => h.toUInt32 == env.sequenceId

def commandContext (s : Mcu) (env : RpcEnvelope) : CommandContext :=
  ⟨env, env.rawCommand, env.sequenceId.toUInt16, s.isDuplicate env, requiresAck env.rawCommand⟩

/-- `_dispatchCommand` after the duplicate bookkeeping. -/
def dispatchContext (hal : Hal) (ctx : CommandContext) (s : Mcu) : Mcu :=
  if !s.isSecurityCheckPassed ctx.rawCommand then
    (s.sendFrame P Status.error.toUnderlying ctx.sequenceId []).1
  else if ctx.rawCommand = Status.ok.toUnderlying then s.processAck P ctx.rawCommand ctx.sequenceId
  else if ctx.rawCommand = Status.malformed.toUnderlying then s.enterSafeState
  else
    match findHandler (kDispatchTable P) ctx.rawCommand with
    | some handler => handler hal ctx s
    | none => s.onUnknownCommand P ctx

/-- `_dispatchCommand` -/
def dispatchCommand (hal : Hal) (env : RpcEnvelope) (s : Mcu) : Mcu :=
  let ctx := s.commandContext env
  dispatchContext P hal ctx (if ctx.isDuplicate then s else s.pushHistory ctx.sequenceId)

/-- The authenticated decryption in `_handleReceivedFrame`: the new receive counter and the plaintext. -/
def decryptFrame (env : RpcEnvelope) (s : Mcu) : Option (UInt64 × Bytes) :=
  let view := P.encryptedView env.payloadType
  if view.length < aeadTagSize then none
  else
    let ctSize := view.length - aeadTagSize
    let nonce := padTo 12 env.nonce
    (P.aeadDecrypt s.sessionKey nonce (P.aad env.rawCommand.toUInt32 env.sequenceId.toUInt16.toUInt32)
      (view.take ctSize) (view.drop ctSize)).bind fun plain =>
        (validateFrameNonce nonce s.rxNonceCounter).map fun counter => (counter, plain)

/-- The store of `validate_frame_nonce`. -/
def acceptCounter (c : UInt64) (s : Mcu) : Mcu :=
  { s with rxNonceCounter := c, accepts := s.accepts ++ [(s.sessionKey, c)] }

/-- `_handleReceivedFrame`, from the result of `parse_frame` on. -/
def handleReceivedFrame (hal : Hal) (res : Option RpcEnvelope) (s : Mcu) : Mcu :=
  match res with
  | none => s.emitStatus P .malformed none
  | some env =>
    if s.doEncrypt env.rawCommand then
      match s.decryptFrame P env with
      | none => s.emitStatus P .error none
      | some (counter, plain) =>
        dispatchCommand P hal { env with payloadType := P.encryptedStore env.payloadType plain }
          (s.acceptCounter counter)
    else dispatchCommand P hal env s

end Mcu
end McuBridge
