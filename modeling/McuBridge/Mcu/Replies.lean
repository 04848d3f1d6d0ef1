import McuBridge.Mcu.DedupSound

/-! # Which commands go out

A method is followed by the command ids of the frames it puts on the wire. A retransmission sends what the reliable
queue holds, so the queue is part of the statement: if `A` holds of the commands queued, it holds of every command
sent and of those queued after it. -/

namespace McuBridge
namespace Mcu
variable {P : Platform} {A : UInt16 → Prop} {s t u : Mcu}

def Queued (A : UInt16 → Prop) (s : Mcu) : Prop := ∀ g ∈ s.pendingTxQueue, A g.commandId

/-- From `s` to `t` only commands in `A` are sent and queued. -/
structure Puts (A : UInt16 → Prop) (s t : Mcu) : Prop where
  queue : Queued A s → Queued A t
  wire : Queued A s → ∃ fs, t.wire = s.wire ++ fs ∧ ∀ f ∈ fs, A f.env.rawCommand

/-- It runs no handler either. -/
structure Says (A : UInt16 → Prop) (s t : Mcu) : Prop extends Puts A s t where
  handled : t.handled = s.handled

theorem Puts.of_eq (hq : t.pendingTxQueue = s.pendingTxQueue) (hw : t.wire = s.wire) : Puts A s t := by
  refine ⟨fun h => ?_, fun _ => ⟨[], by rw [hw, List.append_nil], fun f hf => by cases hf⟩⟩
  unfold Queued
  rw [hq]
  exact h

theorem Puts.refl (s : Mcu) : Puts A s s := .of_eq rfl rfl

theorem Puts.trans (h : Puts A s t) (h' : Puts A t u) : Puts A s u := by
  refine ⟨fun hs => h'.queue (h.queue hs), fun hs => ?_⟩
  obtain ⟨fs, hfs, hA⟩ := h.wire hs
  obtain ⟨gs, hgs, hB⟩ := h'.wire (h.queue hs)
  refine ⟨fs ++ gs, by rw [hgs, hfs, List.append_assoc], fun f hf => ?_⟩
  rcases List.mem_append.1 hf with hf | hf
  · exact hA f hf
  · exact hB f hf

namespace Says

theorem of_eq (hq : t.pendingTxQueue = s.pendingTxQueue) (hw : t.wire = s.wire) (hh : t.handled = s.handled) : Says A s t :=
  ⟨.of_eq hq hw, hh⟩

theorem refl (s : Mcu) : Says A s s := of_eq rfl rfl rfl

theorem trans (h : Says A s t) (h' : Says A t u) : Says A s u := ⟨h.toPuts.trans h'.toPuts, h'.handled.trans h.handled⟩

/-- The call starts in a state that differs from `s` in other fields. -/
theorem starting (h : Says A t u) (hq : t.pendingTxQueue = s.pendingTxQueue) (hw : t.wire = s.wire)
    (hh : t.handled = s.handled) : Says A s u :=
  (of_eq hq hw hh).trans h

theorem ending (h : Says A s t) (hq : u.pendingTxQueue = t.pendingTxQueue) (hw : u.wire = t.wire)
    (hh : u.handled = t.handled) : Says A s u :=
  h.trans (of_eq hq hw hh)

end Says

/-! ### The transmit side -/

theorem serializeAndSend_sends {f : Sent} (hf : A f.env.rawCommand) (s : Mcu) : Says A s (s.serializeAndSend P f) := by
  refine ⟨⟨id, fun _ => ?_⟩, rfl⟩
  unfold serializeAndSend
  split
  · exact ⟨[f], rfl, fun g hg => List.mem_singleton.1 hg ▸ hf⟩
  · exact ⟨[], (List.append_nil _).symm, fun g hg => by cases hg⟩

theorem transmit_sends {cmd : UInt16} (hcmd : A cmd) (seq : UInt16) (p : Bytes) (ticket : Option Nat) (s : Mcu) :
    Says A s (s.transmit P cmd seq p ticket) := by
  have hraw : ∀ nonce b, A (rawEnvelope cmd seq nonce b).rawCommand := fun nonce b => by
    rw [rawEnvelope_rawCommand]
    exact hcmd
  unfold transmit
  split
  · unfold aeadEncryptFrame
    dsimp only
    split
    case h_1 heq =>
      obtain ⟨rfl, -⟩ := Prod.mk.inj heq
      exact .of_eq rfl rfl rfl
    case h_2 heq =>
      obtain ⟨rfl, -⟩ := Prod.mk.inj heq
      exact (serializeAndSend_sends (hraw _ _) _).starting rfl rfl rfl
  · exact serializeAndSend_sends (hraw _ _) s

theorem startTimer_sends (t : TimerId) (s : Mcu) : Says A s (s.startTimer t) := .of_eq rfl rfl rfl

theorem retransmitLastFrame_sends (P : Platform) (s : Mcu) : Says A s (s.retransmitLastFrame P) := by
  unfold retransmitLastFrame
  split
  case h_1 => exact .refl s
  case h_2 f rest hq =>
    have hsend (hs : Queued A s) : Says A s ((s.transmit P f.commandId f.sequenceId f.data f.ticket).startTimer .ackTimeout) :=
      (transmit_sends (hs f (hq ▸ List.mem_cons_self)) _ _ _ s).trans (startTimer_sends _ _)
    have hquiet : Says (fun _ => True) s ((s.transmit P f.commandId f.sequenceId f.data f.ticket).startTimer .ackTimeout) :=
      (transmit_sends trivial _ _ _ s).trans (startTimer_sends _ _)
    exact ⟨⟨fun hs => (hsend hs).queue hs, fun hs => (hsend hs).wire hs⟩, hquiet.handled⟩

theorem flushPendingTxQueue_sends (P : Platform) (s : Mcu) : Says A s (s.flushPendingTxQueue P) := by
  unfold flushPendingTxQueue
  split
  case h_1 => exact .refl s
  case h_2 f rest hq =>
    split
    · exact .refl s
    · dsimp only
      have hsend {B : UInt16 → Prop} (hB : B f.commandId) : Says B s
          (((({ s with lastCommandId := f.commandId, retryCount := 0 } : Mcu).receive .sendCritical).transmit P f.commandId
            f.sequenceId f.data f.ticket).startTimer .ackTimeout) :=
        ((transmit_sends hB _ _ _ _).trans (startTimer_sends _ _)).starting rfl rfl rfl
      have hfront (hs : Queued A s) : A f.commandId := hs f (hq ▸ List.mem_cons_self)
      exact ⟨⟨fun hs => (hsend (hfront hs)).queue hs, fun hs => (hsend (hfront hs)).wire hs⟩,
        (hsend (B := fun _ => True) trivial).handled⟩

theorem clearPendingTxQueue_sends (s : Mcu) : Says A s s.clearPendingTxQueue :=
  ⟨⟨fun _ g hg => (by cases hg), fun _ => ⟨[], (List.append_nil _).symm, fun f hf => by cases hf⟩⟩, rfl⟩

theorem handleAck_sends (P : Platform) (cmd : UInt16) (s : Mcu) : Says A s (s.handleAck P cmd) := by
  unfold handleAck
  split
  · exact .refl s
  · have hclear : Says A s (s.stopTimer .ackTimeout).clearPendingTxQueue :=
      (clearPendingTxQueue_sends (s.stopTimer .ackTimeout)).starting rfl rfl rfl
    exact hclear.trans ((flushPendingTxQueue_sends P _).starting rfl rfl rfl)

theorem onAckTimeout_sends (P : Platform) (s : Mcu) : Says A s (s.onAckTimeout P) := by
  unfold onAckTimeout
  split
  · exact .refl s
  · dsimp only
    split
    · exact (clearPendingTxQueue_sends _).starting rfl rfl rfl
    · exact (retransmitLastFrame_sends P _).starting rfl rfl rfl

theorem enqueue_sends {f : PendingTxFrame} (hf : A f.commandId) (s : Mcu) : Says A s (s.enqueue P f) := by
  have hpush : Says A s { s with
      txPayloadPool := f.buffer :: s.txPayloadPool
      pendingTxQueue := s.pendingTxQueue ++ [f]
      accepted := s.accepted ++ [f.frame] } := by
    refine ⟨⟨fun hs g hg => ?_, fun _ => ⟨[], (List.append_nil _).symm, fun g hg => by cases hg⟩⟩, rfl⟩
    rcases List.mem_append.1 hg with hg | hg
    · exact hs g hg
    · exact List.mem_singleton.1 hg ▸ hf
  unfold enqueue
  dsimp only
  split
  · exact hpush.trans (flushPendingTxQueue_sends P _)
  · exact hpush

theorem enqueueWith_sends {cmd : UInt16} (hcmd : A cmd) (seq : UInt16) (data : Bytes) (s : Mcu) :
    Says A s (s.enqueueWith P cmd seq data).1 := by
  unfold enqueueWith
  split
  · exact .refl s
  split
  · exact .refl s
  · exact enqueue_sends hcmd s

theorem sendFrame_sends {cmd : UInt16} (hcmd : A cmd) (seq : UInt16) (p : Bytes) (s : Mcu) :
    Says A s (s.sendFrame P cmd seq p).1 := by
  unfold sendFrame
  split
  · exact .refl s
  split
  · exact enqueueWith_sends hcmd _ _ s
  · exact transmit_sends hcmd _ _ _ s

theorem sendSinglePass_sends {cmd : UInt16} (hcmd : A cmd) (seq : UInt16) (packet : PayloadType) (s : Mcu) :
    Says A s (s.sendSinglePass P cmd seq packet).1 := by
  unfold sendSinglePass sendFrameRaw
  split
  · exact .refl s
  · exact serializeAndSend_sends (by simpa [RpcEnvelope.rawCommand] using hcmd) s

theorem sendStatus_sends {st : Status} (hst : A st.toUnderlying) (seq : UInt16) (packet : PayloadType) (s : Mcu) :
    Says A s (s.sendStatus P st seq packet).1 :=
  sendSinglePass_sends hst seq packet s

theorem send_sends {c : Command} (hc : A c.toUnderlying) (seq : UInt16) (packet : PayloadType) (s : Mcu) :
    Says A s (s.send P c seq packet).1 := by
  unfold send
  split
  · unfold sendEncryptedHelper
    dsimp only
    split
    · exact .refl s
    split
    · exact enqueueWith_sends hc _ _ s
    · exact transmit_sends hc _ _ _ s
  · unfold sendUnqueued
    dsimp only
    have hpass := sendSinglePass_sends (P := P) hc seq packet s
    split
    · exact hpass.ending rfl rfl rfl
    · exact hpass

theorem enterSafeState_sends (s : Mcu) : Says A s s.enterSafeState := by
  unfold enterSafeState
  have hclear : Says A s ({ s.act .forceSafeState with txEnabled := false } : Mcu).clearPendingTxQueue :=
    (clearPendingTxQueue_sends ({ s.act .forceSafeState with txEnabled := false } : Mcu)).starting rfl rfl rfl
  exact hclear.ending rfl rfl rfl

theorem emitStatus_sends {st : Status} (hst : A st.toUnderlying) (message : Option Bytes) (s : Mcu) :
    Says A s (s.emitStatus P st message) := by
  have hsafe (r : Mcu × Bool) (hr : Says A s r.1) : Says A s (if r.2 then r.1 else r.1.enterSafeState) := by
    split
    · exact hr
    · exact hr.trans (enterSafeState_sends _)
  cases message with
  | none => exact hsafe _ (sendFrame_sends hst _ _ s)
  | some text => exact hsafe _ (sendStatus_sends hst _ _ s)

theorem processAck_sends (hack : A Status.ack.toUnderlying) (cmd seq : UInt16) (s : Mcu) : Says A s (s.processAck P cmd seq) :=
  sendStatus_sends hack _ _ s

/-! ### The handlers -/

/-- The commands a received frame is answered with, STATUS_ACK apart. -/
def replyCommands : List UInt16 :=
  [Status.ok.toUnderlying, Status.error.toUnderlying, Status.malformed.toUnderlying,
    Command.getVersionResp.toUnderlying, Command.getFreeMemoryResp.toUnderlying, Command.linkSyncResp.toUnderlying,
    Command.linkResetResp.toUnderlying, Command.getCapabilitiesResp.toUnderlying,
    Command.digitalReadResp.toUnderlying, Command.analogReadResp.toUnderlying, Command.fileReadResp.toUnderlying,
    Command.spiTransferResp.toUnderlying]

section Handlers
variable (hA : ∀ c ∈ replyCommands, A c)
include hA

theorem error_sends (s : Mcu) : Says A s (s.emitStatus P .error none) := emitStatus_sends (hA _ (by decide)) _ s

theorem malformed_sends (s : Mcu) : Says A s (s.emitStatus P .malformed none) := emitStatus_sends (hA _ (by decide)) _ s

/-- A response, with an error status where it cannot be sent. -/
theorem respond_sends {c : Command} (hc : c.toUnderlying ∈ replyCommands) (seq : UInt16) (packet : PayloadType) (s : Mcu) :
    Says A s (if (s.send P c seq packet).2 then (s.send P c seq packet).1
      else (s.send P c seq packet).1.emitStatus P .error none) := by
  have hsend := send_sends (P := P) (hA _ hc) seq packet s
  split
  · exact hsend
  · exact hsend.trans (error_sends hA _)

theorem handlePinReadCommon_sends (ctx : CommandContext) (pin maxPins : UInt8) {resp : Command}
    (hresp : resp.toUnderlying ∈ replyCommands) (a : Act) (packet : PayloadType) (s : Mcu) :
    Says A s (s.handlePinReadCommon P ctx pin maxPins resp a packet) := by
  unfold handlePinReadCommon
  split
  · exact (respond_sends hA hresp _ _ (s.act a)).starting rfl rfl rfl
  · exact error_sends hA s

theorem handlePinRead_sends (hal : Hal) (ctx : CommandContext) (pin : UInt32) (s : Mcu) :
    Says A s (s.handlePinRead P hal ctx pin) := by
  unfold handlePinRead handleDigitalRead handleAnalogRead
  split
  · exact handlePinReadCommon_sends hA ctx _ _ (by decide) _ _ s
  split
  · exact handlePinReadCommon_sends hA ctx _ _ (by decide) _ _ s
  · exact error_sends hA s

theorem handleSpiTransfer_sends (hal : Hal) (ctx : CommandContext) (data : Bytes) (s : Mcu) :
    Says A s (s.handleSpiTransfer P hal ctx data) := by
  have hshift (b : Bytes) : Says A s (s.spiTransfer hal b).1 := by
    unfold spiTransfer
    split
    · exact .refl s
    · exact .of_eq rfl rfl rfl
  unfold handleSpiTransfer
  have hspi := hshift (data.take maxPayloadSize)
  split
  case h_1 heq =>
    rw [heq] at hspi
    exact hspi.trans (error_sends hA _)
  case h_2 heq =>
    rw [heq] at hspi
    exact hspi.trans (respond_sends hA (by decide) _ _ _)

theorem fileSystemReadLoop_sends (hal : Hal) (path : Bytes) (chunks : List Nat) (offset : Nat) (s : Mcu) :
    Says A s (s.fileSystemReadLoop P hal path chunks offset) := by
  induction chunks generalizing offset s with
  | nil => exact .refl s
  | cons chunk chunks ih =>
    have hsend (c : Bytes) (t : Mcu) : Says A t (t.send P .fileReadResp 0 (.fileReadResponse c)).1 :=
      send_sends (hA _ (by decide)) 0 _ t
    unfold fileSystemReadLoop
    split
    · exact .refl s
    split
    · exact sendFrame_sends (hA _ (by decide)) 0 [] s
    · dsimp only
      split
      · exact (hsend _ s).trans (hsend _ _)
      · exact (hsend _ s).trans (ih _ _)

theorem fileSystemOnWrite_sends (hal : Hal) (path data : Bytes) (s : Mcu) :
    Says A s (s.fileSystemOnWrite P hal path data) := by
  unfold fileSystemOnWrite
  refine (sendFrame_sends ?_ 0 [] (s.act (.writeFile path data))).starting rfl rfl rfl
  split <;> exact hA _ (by decide)

theorem fileSystemOnRemove_sends (hal : Hal) (path : Bytes) (s : Mcu) : Says A s (s.fileSystemOnRemove P hal path) := by
  unfold fileSystemOnRemove
  refine (sendFrame_sends ?_ 0 [] (s.act (.removeFile path))).starting rfl rfl rfl
  split <;> exact hA _ (by decide)

theorem handleLinkReset_sends (ctx : CommandContext) (s : Mcu) : Says A s (s.handleLinkReset P ctx) := by
  have hconfig : Says A s (s.applyResetConfig P ctx) := by
    unfold applyResetConfig
    split
    · exact .of_eq rfl rfl rfl
    · exact .refl s
  have hreset : Says A s ((s.applyResetConfig P ctx).receive .reset).restartHandshakeTimer := hconfig.ending rfl rfl rfl
  exact hreset.trans (sendFrame_sends (hA _ (by decide)) _ _ _)

theorem handleLinkSync_sends (ctx : CommandContext) (m : LinkSync) (s : Mcu) : Says A s (s.handleLinkSync P ctx m) := by
  have hcomplete (resp : LinkSync) (t : Mcu) : Says A t (t.completeHandshake P ctx resp) := by
    unfold completeHandshake
    exact (send_sends (hA _ (by decide)) _ _ _).starting rfl rfl rfl
  unfold handleLinkSync
  dsimp only
  split
  · exact hcomplete _ s
  split
  · exact (hcomplete _ _).starting rfl rfl rfl
  · exact (error_sends hA _).starting rfl rfl rfl

theorem onUnknownCommand_puts (ctx : CommandContext) (s : Mcu) : Puts A s (s.onUnknownCommand P ctx) := by
  unfold onUnknownCommand
  split
  · exact .of_eq rfl rfl
  · exact (error_sends hA s).toPuts

end Handlers

/-! ### Handlers that send nothing -/

theorem handleSetBaudrate_sends (b : UInt32) (s : Mcu) : Says A s (s.handleSetBaudrate b) := by
  unfold handleSetBaudrate
  split
  · exact .refl s
  · exact .of_eq rfl rfl rfl

theorem handleEnterBootloader_sends (m : UInt32) (s : Mcu) : Says A s (s.handleEnterBootloader m) := by
  unfold handleEnterBootloader
  split
  · exact .of_eq rfl rfl rfl
  · exact .refl s

theorem dataStoreOnResponse_sends (v : Bytes) (s : Mcu) : Says A s (s.dataStoreOnResponse v) := by
  unfold dataStoreOnResponse
  split
  · exact .refl s
  · dsimp only
    split
    · exact .of_eq rfl rfl rfl
    · exact .of_eq rfl rfl rfl

theorem mailboxQueuePush_sends (d : Bytes) (s : Mcu) : Says A s (s.mailboxQueuePush d) := by
  unfold mailboxQueuePush
  split
  · exact .refl s
  · exact .of_eq rfl rfl rfl

theorem mailboxOnAvailableResponse_sends (c : UInt32) (s : Mcu) : Says A s (s.mailboxOnAvailableResponse c) := by
  unfold mailboxOnAvailableResponse
  split
  · exact .of_eq rfl rfl rfl
  · exact .refl s

theorem fileSystemOnResponse_sends (c : Bytes) (s : Mcu) : Says A s (s.fileSystemOnResponse c) := by
  unfold fileSystemOnResponse
  split
  · exact .of_eq rfl rfl rfl
  · exact .refl s

theorem processOnRunAsyncResponse_sends (pid : UInt32) (s : Mcu) : Says A s (s.processOnRunAsyncResponse pid) := by
  unfold processOnRunAsyncResponse
  split
  · exact .refl s
  · exact .of_eq rfl rfl rfl

theorem processOnPollResponse_sends (m : ProcessPollResponse) (s : Mcu) : Says A s (s.processOnPollResponse m) := by
  unfold processOnPollResponse
  split
  · exact .refl s
  · exact .of_eq rfl rfl rfl

/-! ### Dispatch -/

theorem preDispatch_sends (ctx : CommandContext) {needsAck : Bool} (hack : needsAck = true → A Status.ack.toUnderlying)
    (retransmitOnDup : Bool) (s : Mcu) : Says A s (s.preDispatch P ctx needsAck retransmitOnDup).1 := by
  have hacked : Says A s (if needsAck then s.processAck P ctx.rawCommand ctx.sequenceId else s) := by
    split
    case isTrue h => exact processAck_sends (hack h) _ _ s
    case isFalse => exact .refl s
  unfold preDispatch
  dsimp only
  split
  · dsimp only
    split
    · exact hacked.trans (retransmitLastFrame_sends P _)
    · exact hacked
  · exact hacked

/-- Both templates: what the body puts on the wire comes after the ACK. -/
theorem dispatch_puts (ctx : CommandContext) {needsAck : Bool} (hack : needsAck = true → A Status.ack.toUnderlying)
    (retransmitOnDup : Bool) (body : Mcu → Mcu) (hbody : ∀ t, Puts A t (body t)) (s : Mcu) :
    Puts A s
      (match s.preDispatch P ctx needsAck retransmitOnDup with
        | (t, false) => t
        | (t, true) => body t) := by
  have hpre := preDispatch_sends (P := P) ctx hack retransmitOnDup s
  generalize s.preDispatch P ctx needsAck retransmitOnDup = r at hpre ⊢
  obtain ⟨t, b⟩ := r
  cases b with
  | false => exact hpre.toPuts
  | true => exact hpre.toPuts.trans (hbody t)

theorem handle_puts (ctx : CommandContext) (s : Mcu) : Puts A s (s.handle ctx) := .of_eq rfl rfl

/-- A table entry whose handlers stay within `A`. -/
theorem dispatchCmd_puts {M : Type} (hA : ∀ c ∈ replyCommands, A c) (d : PbMessage M)
    {handler : CommandContext → M → Mcu → Mcu} (ctx : CommandContext) {needsAck : Bool}
    (hack : needsAck = true → A Status.ack.toUnderlying) (retransmitOnDup : Bool)
    (hh : ∀ m t, Says A t (handler ctx m t)) (s : Mcu) :
    Puts A s (s.dispatchCmd P d handler ctx needsAck retransmitOnDup) := by
  unfold dispatchCmd
  cases d.read P ctx.envelope.payloadType with
  | none => exact dispatch_puts ctx hack _ _ (fun t => (malformed_sends hA t).toPuts) s
  | some m =>
    exact dispatch_puts ctx hack _ (fun t => handler ctx m (t.handle ctx))
      (fun t => (handle_puts ctx t).trans (hh m _).toPuts) s

theorem dispatchNoPayload_puts {handler : CommandContext → Mcu → Mcu} (ctx : CommandContext) {needsAck : Bool}
    (hack : needsAck = true → A Status.ack.toUnderlying) (retransmitOnDup : Bool) (hh : ∀ t, Says A t (handler ctx t))
    (s : Mcu) : Puts A s (s.dispatchNoPayload P handler ctx needsAck retransmitOnDup) :=
  dispatch_puts ctx hack _ (fun t => handler ctx (t.handle ctx)) (fun t => (handle_puts ctx t).trans (hh _).toPuts) s

theorem onCmdResponse_puts {M : Type} (hA : ∀ c ∈ replyCommands, A c) (d : PbMessage M) {handler : M → Mcu → Mcu}
    (ctx : CommandContext) (hh : ∀ m t, Says A t (handler m t)) (s : Mcu) :
    Puts A s (s.onCmdResponse P d handler ctx) := by
  unfold onCmdResponse
  split
  · exact (malformed_sends hA s).toPuts
  · exact (handle_puts ctx s).trans (hh _ _).toPuts

/-! ### The dispatch table -/

variable (P) in
/-- The commands whose entry acknowledges (`needs_ack`), each with the test that its payload decodes. -/
def ackedMessages : List (UInt16 × (PayloadType → Bool)) :=
  let reads {M : Type} (d : PbMessage M) : PayloadType → Bool := fun p => (d.read P p).isSome
  let noPayload : PayloadType → Bool := fun _ => true
  [(Status.ack.toUnderlying, reads .ackPacket),
    (Command.linkSync.toUnderlying, reads .linkSync),
    (Command.linkReset.toUnderlying, noPayload),
    (Command.setBaudrate.toUnderlying, reads .setBaudratePacket),
    (Command.enterBootloader.toUnderlying, reads .enterBootloader),
    (Command.xoff.toUnderlying, noPayload),
    (Command.xon.toUnderlying, noPayload),
    (Command.setPinMode.toUnderlying, reads .pinMode),
    (Command.digitalWrite.toUnderlying, reads .digitalWrite),
    (Command.analogWrite.toUnderlying, reads .analogWrite),
    (Command.consoleWrite.toUnderlying, reads .consoleWrite),
    (Command.datastoreGetResp.toUnderlying, reads .datastoreGetResponse),
    (Command.mailboxPush.toUnderlying, reads .mailboxPush),
    (Command.fileWrite.toUnderlying, reads .fileWrite),
    (Command.fileRead.toUnderlying, reads .fileRead),
    (Command.fileRemove.toUnderlying, reads .fileRemove),
    (Command.fileReadResp.toUnderlying, reads .fileReadResponse),
    (Command.processKill.toUnderlying, reads .processKill),
    (Command.processRunAsyncResp.toUnderlying, reads .processRunAsyncResponse),
    (Command.processPollResp.toUnderlying, reads .processPollResponse),
    (Command.spiBegin.toUnderlying, noPayload),
    (Command.spiEnd.toUnderlying, noPayload),
    (Command.spiSetConfig.toUnderlying, reads .spiConfig)]

variable (P) in
/-- The queries, which are not acknowledged: the other entries that ask `_preDispatch`, with the same test. -/
def queryMessages : List (UInt16 × (PayloadType → Bool)) :=
  let reads {M : Type} (d : PbMessage M) : PayloadType → Bool := fun p => (d.read P p).isSome
  let noPayload : PayloadType → Bool := fun _ => true
  [(Command.getVersion.toUnderlying, noPayload), (Command.getFreeMemory.toUnderlying, noPayload),
    (Command.getCapabilities.toUnderlying, noPayload), (Command.digitalRead.toUnderlying, reads .pinRead),
    (Command.analogRead.toUnderlying, reads .pinRead), (Command.spiTransfer.toUnderlying, reads .spiTransfer)]

/-- The handlers of these two commands call `_processAck` themselves. -/
def acksAgain (cmd : UInt16) : Bool := cmd == Command.spiBegin.toUnderlying || cmd == Command.spiEnd.toUnderlying

variable (P) in
/-- The kinds of entry, by what they acknowledge; every other frame they send is a reply. -/
inductive Entry : UInt16 → Handler → Prop
  | acked {M : Type} {cmd : UInt16} (d : PbMessage M) {f : Hal → CommandContext → M → Mcu → Mcu}
      (hack : (ackedMessages P).lookup cmd = some fun p => (d.read P p).isSome) (honce : acksAgain cmd = false)
      (hf : ∀ (A : UInt16 → Prop), (∀ c ∈ replyCommands, A c) → ∀ hal ctx m t, Says A t (f hal ctx m t)) :
      Entry cmd fun hal ctx => dispatchCmd P d (f hal) ctx true false
  | ackedEmpty {cmd : UInt16} {f : CommandContext → Mcu → Mcu} (hack : (ackedMessages P).lookup cmd = some fun _ => true)
      (honce : acksAgain cmd = false)
      (hf : ∀ (A : UInt16 → Prop), (∀ c ∈ replyCommands, A c) → ∀ ctx t, Says A t (f ctx t)) :
      Entry cmd fun _ ctx => dispatchNoPayload P f ctx true false
  | ackedTwice {cmd : UInt16} {f : Mcu → Mcu} (hack : (ackedMessages P).lookup cmd = some fun _ => true)
      (htwice : acksAgain cmd = true) (hf : ∀ A t, Says A t (f t)) :
      Entry cmd fun _ ctx => dispatchNoPayload P
        (fun ctx t => (f t).processAck P ctx.rawCommand ctx.sequenceId) ctx true false
  | query {M : Type} {cmd : UInt16} (d : PbMessage M) {f : Hal → CommandContext → M → Mcu → Mcu}
      (hack : (ackedMessages P).lookup cmd = none)
      (hquery : (queryMessages P).lookup cmd = some fun p => (d.read P p).isSome)
      (hf : ∀ (A : UInt16 → Prop), (∀ c ∈ replyCommands, A c) → ∀ hal ctx m t, Says A t (f hal ctx m t)) :
      Entry cmd fun hal ctx => dispatchCmd P d (f hal) ctx false true
  | queryEmpty {cmd : UInt16} {f : Hal → CommandContext → Mcu → Mcu} (hack : (ackedMessages P).lookup cmd = none)
      (hquery : (queryMessages P).lookup cmd = some fun _ => true)
      (hf : ∀ (A : UInt16 → Prop), (∀ c ∈ replyCommands, A c) → ∀ hal ctx t, Says A t (f hal ctx t)) :
      Entry cmd fun hal ctx => dispatchNoPayload P (f hal) ctx false true
  | response {M : Type} {cmd : UInt16} (d : PbMessage M) {f : M → Mcu → Mcu} (hack : (ackedMessages P).lookup cmd = none)
      (hquery : (queryMessages P).lookup cmd = none) (hf : ∀ A m t, Says A t (f m t)) :
      Entry cmd fun _ ctx => onCmdResponse P d f ctx

theorem kDispatchTable_entry (P : Platform) : ∀ e ∈ kDispatchTable P, Entry P e.1 e.2 := by
  unfold kDispatchTable
  have hsend {A : UInt16 → Prop} (hA : ∀ c ∈ replyCommands, A c) {c : Command} (hc : c.toUnderlying ∈ replyCommands)
      (seq : UInt16) (packet : PayloadType) (t : Mcu) : Says A t (t.send P c seq packet).1 := send_sends (hA _ hc) seq packet t
  refine List.forall_mem_cons.2 ⟨.acked _ rfl rfl fun A hA _ _ m t => handleAck_sends P _ t, ?_⟩
  refine List.forall_mem_cons.2 ⟨.queryEmpty rfl rfl fun A hA _ _ t => hsend hA (by decide) _ _ t, ?_⟩
  refine List.forall_mem_cons.2 ⟨.queryEmpty rfl rfl fun A hA _ _ t => hsend hA (by decide) _ _ t, ?_⟩
  refine List.forall_mem_cons.2 ⟨.acked _ rfl rfl fun A hA _ ctx m t => handleLinkSync_sends hA ctx m t, ?_⟩
  refine List.forall_mem_cons.2 ⟨.ackedEmpty rfl rfl fun A hA ctx t => handleLinkReset_sends hA ctx t, ?_⟩
  refine List.forall_mem_cons.2 ⟨.queryEmpty rfl rfl fun A hA _ _ t => hsend hA (by decide) _ _ t, ?_⟩
  refine List.forall_mem_cons.2 ⟨.acked _ rfl rfl fun A _ _ _ m t => handleSetBaudrate_sends m t, ?_⟩
  refine List.forall_mem_cons.2 ⟨.acked _ rfl rfl fun A _ _ _ m t => handleEnterBootloader_sends m t, ?_⟩
  refine List.forall_mem_cons.2 ⟨.ackedEmpty rfl rfl fun A _ _ t => .of_eq rfl rfl rfl, ?_⟩
  refine List.forall_mem_cons.2 ⟨.ackedEmpty rfl rfl fun A _ _ t => .of_eq rfl rfl rfl, ?_⟩
  refine List.forall_mem_cons.2 ⟨.acked _ rfl rfl fun A _ _ _ m t => .of_eq rfl rfl rfl, ?_⟩
  refine List.forall_mem_cons.2 ⟨.acked _ rfl rfl fun A _ _ _ m t => .of_eq rfl rfl rfl, ?_⟩
  refine List.forall_mem_cons.2 ⟨.acked _ rfl rfl fun A _ _ _ m t => .of_eq rfl rfl rfl, ?_⟩
  refine List.forall_mem_cons.2 ⟨.query _ rfl rfl fun A hA hal ctx m t => handlePinRead_sends hA hal ctx m t, ?_⟩
  refine List.forall_mem_cons.2 ⟨.query _ rfl rfl fun A hA hal ctx m t => handlePinRead_sends hA hal ctx m t, ?_⟩
  refine List.forall_mem_cons.2 ⟨.acked _ rfl rfl fun A _ _ _ m t => .of_eq rfl rfl rfl, ?_⟩
  refine List.forall_mem_cons.2 ⟨.acked _ rfl rfl fun A _ _ _ m t => dataStoreOnResponse_sends m t, ?_⟩
  refine List.forall_mem_cons.2 ⟨.acked _ rfl rfl fun A _ _ _ m t => mailboxQueuePush_sends m t, ?_⟩
  refine List.forall_mem_cons.2 ⟨.response _ rfl rfl fun A m t => mailboxQueuePush_sends m t, ?_⟩
  refine List.forall_mem_cons.2 ⟨.response _ rfl rfl fun A m t => mailboxOnAvailableResponse_sends m t, ?_⟩
  refine List.forall_mem_cons.2 ⟨.acked _ rfl rfl fun A hA hal _ m t => fileSystemOnWrite_sends hA hal _ _ t, ?_⟩
  refine List.forall_mem_cons.2 ⟨.acked _ rfl rfl fun A hA hal _ m t => fileSystemReadLoop_sends hA hal m _ 0 t, ?_⟩
  refine List.forall_mem_cons.2 ⟨.acked _ rfl rfl fun A hA hal _ m t => fileSystemOnRemove_sends hA hal m t, ?_⟩
  refine List.forall_mem_cons.2 ⟨.acked _ rfl rfl fun A _ _ _ m t => fileSystemOnResponse_sends m t, ?_⟩
  refine List.forall_mem_cons.2 ⟨.acked _ rfl rfl fun A _ _ _ m t => .of_eq rfl rfl rfl, ?_⟩
  refine List.forall_mem_cons.2 ⟨.acked _ rfl rfl fun A _ _ _ m t => processOnRunAsyncResponse_sends m t, ?_⟩
  refine List.forall_mem_cons.2 ⟨.acked _ rfl rfl fun A _ _ _ m t => processOnPollResponse_sends m t, ?_⟩
  refine List.forall_mem_cons.2 ⟨.ackedTwice rfl rfl fun A t => .of_eq rfl rfl rfl, ?_⟩
  refine List.forall_mem_cons.2 ⟨.query _ rfl rfl fun A hA hal ctx m t => handleSpiTransfer_sends hA hal ctx m t, ?_⟩
  refine List.forall_mem_cons.2 ⟨.ackedTwice rfl rfl fun A t => .of_eq rfl rfl rfl, ?_⟩
  exact List.forall_mem_singleton.2 (.acked _ rfl rfl fun A _ _ _ m t => .of_eq rfl rfl rfl)

theorem checked_found {cmd : UInt16} {decodes : PayloadType → Bool}
    (hlookup : (ackedMessages P ++ queryMessages P).lookup cmd = some decodes) :
    ∃ h, findHandler (kDispatchTable P) cmd = some h := by
  have hkey : cmd ∈ (ackedMessages P ++ queryMessages P).map Prod.fst := by
    obtain ⟨l₁, l₂, heq, -⟩ := List.lookup_eq_some_iff.1 hlookup
    rw [heq]
    simp
  have hkeys : ∀ c ∈ (ackedMessages P ++ queryMessages P).map Prod.fst, c ∈ (kDispatchTable P).map Prod.fst := by
    have hall : [56, 68, 70, 74, 76, 78, 79, 80, 81, 82, 96, 114, 131, 144, 145, 146, 147, 163, 165, 166, 176, 179,
        180, 64, 66, 72, 83, 84, 177].all (([56, 64, 66, 68, 70, 72, 74, 76, 78, 79, 80, 81, 82, 83, 84, 96, 114, 131,
          132, 133, 144, 145, 146, 147, 163, 165, 166, 176, 177, 179, 180] : List UInt16).contains ·) = true := by decide
    exact fun c hc => List.contains_iff_mem.1 (List.all_eq_true.1 hall c hc)
  obtain ⟨e, hmem, heq⟩ := List.mem_map.1 (hkeys cmd hkey)
  obtain ⟨c, h⟩ := e
  obtain rfl : c = cmd := heq
  exact ⟨h, findHandler_eq (kDispatchTable_sorted P) hmem⟩

theorem Entry.puts {cmd : UInt16} {h : Handler} (he : Entry P cmd h) (hA : ∀ c ∈ replyCommands, A c)
    (hack : (ackedMessages P).lookup cmd ≠ none → A Status.ack.toUnderlying) (hal : Hal) (ctx : CommandContext) (s : Mcu) :
    Puts A s (h hal ctx s) := by
  cases he with
  | acked d hlookup _ hf =>
    exact dispatchCmd_puts hA d ctx (fun _ => hack (by simp [hlookup])) false (fun m t => hf A hA hal ctx m t) s
  | ackedEmpty hlookup _ hf =>
    exact dispatchNoPayload_puts ctx (fun _ => hack (by simp [hlookup])) false (fun t => hf A hA ctx t) s
  | ackedTwice hlookup _ hf =>
    have hA' : A Status.ack.toUnderlying := hack (by simp [hlookup])
    exact dispatchNoPayload_puts ctx (fun _ => hA') false (fun t => (hf A t).trans (processAck_sends hA' _ _ _)) s
  | query d _ _ hf => exact dispatchCmd_puts hA d ctx (fun h => by cases h) true (fun m t => hf A hA hal ctx m t) s
  | queryEmpty _ _ hf => exact dispatchNoPayload_puts ctx (fun h => by cases h) true (fun t => hf A hA hal ctx t) s
  | response d _ _ hf => exact onCmdResponse_puts hA d ctx (fun m t => hf A m t) s

theorem dispatchContext_puts (hA : ∀ c ∈ replyCommands, A c) (hack : A Status.ack.toUnderlying) (hal : Hal)
    (ctx : CommandContext) (s : Mcu) : Puts A s (s.dispatchContext P hal ctx) := by
  unfold dispatchContext
  split
  · exact (sendFrame_sends (hA _ (by decide)) _ _ s).toPuts
  split
  · exact (processAck_sends hack _ _ s).toPuts
  split
  · exact (enterSafeState_sends s).toPuts
  split
  case h_1 h heq => exact (kDispatchTable_entry P _ (findHandler_mem heq)).puts hA (fun _ => hack) hal ctx s
  case h_2 => exact onUnknownCommand_puts hA ctx s

theorem dispatchCommand_puts (hA : ∀ c ∈ replyCommands, A c) (hack : A Status.ack.toUnderlying) (hal : Hal)
    (env : RpcEnvelope) (s : Mcu) : Puts A s (s.dispatchCommand P hal env) := by
  unfold dispatchCommand
  dsimp only
  split
  · exact dispatchContext_puts hA hack hal _ s
  · have hpush : Puts A s (s.pushHistory (s.commandContext env).sequenceId) := .of_eq rfl rfl
    exact hpush.trans (dispatchContext_puts hA hack hal _ _)

theorem handleReceivedFrame_puts (hA : ∀ c ∈ replyCommands, A c) (hack : A Status.ack.toUnderlying) (hal : Hal)
    (res : Option RpcEnvelope) (s : Mcu) : Puts A s (s.handleReceivedFrame P hal res) := by
  unfold handleReceivedFrame
  split
  case h_1 => exact (malformed_sends hA s).toPuts
  case h_2 env =>
    split
    · split
      case h_1 => exact (error_sends hA s).toPuts
      case h_2 c plain _ =>
        have hcounter : Puts A s (s.acceptCounter c) := .of_eq rfl rfl
        exact hcounter.trans (dispatchCommand_puts hA hack hal _ _)
    · exact dispatchCommand_puts hA hack hal env s

/-! ### Every event -/

/-- The commands the services and `_serialTask` send. -/
def serviceCommands : List UInt16 :=
  [Command.xoff.toUnderlying, Command.xon.toUnderlying, Command.consoleWrite.toUnderlying,
    Command.datastoreGet.toUnderlying, Command.fileRead.toUnderlying, Command.processRunAsync.toUnderlying,
    Command.processPoll.toUnderlying]

/-- The firmware's own commands: what goes out without the sketch asking for it by id. -/
def ownCommands : List UInt16 := Status.ack.toUnderlying :: replyCommands ++ serviceCommands

/-- The command id the sketch hands to `sendFrame`, `send` or `emitStatus`. -/
def chosenCommand : McuEvent → Option UInt16
  | .sendFrame cmd _ _ => some cmd
  | .send c _ _ => some c.toUnderlying
  | .sendStatus st _ _ | .emitStatus st _ => some st.toUnderlying
  | _ => none

section Events
variable (hA : ∀ c ∈ ownCommands, A c)
include hA

theorem consoleProcess_sends (s : Mcu) : Says A s (s.consoleProcess P) := by
  unfold consoleProcess
  split
  · exact .refl s
  · dsimp only
    have hsend := send_sends (P := P) (c := .consoleWrite) (hA _ (by decide)) 0
      (.consoleWrite (s.services.consoleTx.take 64)) s
    split
    · exact hsend.ending rfl rfl rfl
    · exact hsend

theorem consoleWrite_sends (data : Bytes) (s : Mcu) : Says A s (s.consoleWrite P data) := by
  have hfull : Says A s (s.consoleProcessIfFull P) := by
    unfold consoleProcessIfFull
    split
    · exact consoleProcess_sends hA s
    · exact .refl s
  unfold consoleWrite
  split
  · exact .refl s
  · dsimp only
    have hinsert (b : Bytes) (t : Mcu) : Says A t (t.consoleTxInsert b) := .of_eq rfl rfl rfl
    split
    · exact ((hfull.trans (hinsert _ _)).trans (consoleProcess_sends hA _)).trans (hinsert _ _)
    · exact hfull.trans (hinsert _ _)

/-- A request of a service, with a status where `send` refuses it. -/
theorem request_sends {c : Command} (hc : c.toUnderlying ∈ serviceCommands) (packet : PayloadType) (message : Option Bytes)
    (s : Mcu) :
    Says A s ((s.send P c 0 packet).1.emitStatus P .error message) ∧ Says A s (s.send P c 0 packet).1 := by
  have hsend := send_sends (P := P) (c := c) (hA _ (List.mem_append_right _ hc)) 0 packet s
  exact ⟨hsend.trans (emitStatus_sends (hA _ (by decide)) message _), hsend⟩

theorem dataStoreGet_sends (key : Bytes) (valid : Bool) (s : Mcu) : Says A s (s.dataStoreGet P key valid) := by
  have hreq := request_sends (P := P) hA (c := .datastoreGet) (by decide) (.datastoreGet (key.take 31)) none s
  unfold dataStoreGet
  split
  · exact emitStatus_sends (hA _ (by decide)) none s
  dsimp only
  split
  · exact hreq.1
  · exact hreq.2.ending rfl rfl rfl

theorem fileSystemRead_sends (path : Bytes) (valid : Bool) (s : Mcu) : Says A s (s.fileSystemRead P path valid) := by
  unfold fileSystemRead
  have hreq := request_sends (P := P) hA (c := .fileRead) (by decide) (.fileRead (path.take 63)) none
    { s with services := { s.services with readHandler := valid } }
  dsimp only
  split
  · exact hreq.1.starting rfl rfl rfl
  · exact hreq.2.starting rfl rfl rfl

theorem processFail_sends (f : ProcessFailure) (valid : Bool) (s : Mcu) : Says A s (s.processFail P f valid) := by
  have herror : A Status.error.toUnderlying := hA _ (by decide)
  have hstatus := emitStatus_sends (P := P) herror (some f.text) s
  unfold processFail
  dsimp only
  split
  · exact hstatus.ending rfl rfl rfl
  · exact hstatus

theorem processRunAsync_sends (cmd : Bytes) (args : List Bytes) (valid : Bool) (s : Mcu) :
    Says A s (s.processRunAsync P cmd args valid) := by
  unfold processRunAsync
  split
  · exact processFail_sends hA _ _ s
  split
  · exact processFail_sends hA _ _ s
  case h_2 line _ =>
    have hreq := request_sends (P := P) hA (c := .processRunAsync) (by decide) (.processRunAsync (line.take 59)) none s
    dsimp only
    split
    · exact hreq.2.trans (processFail_sends hA _ _ _)
    split
    · exact hreq.2.ending rfl rfl rfl
    · exact hreq.2

theorem processPoll_sends (pid : UInt32) (valid : Bool) (s : Mcu) : Says A s (s.processPoll P pid valid) := by
  have hreq := request_sends (P := P) hA (c := .processPoll) (by decide) (.processPoll pid)
    (some ProcessFailure.runInternalError.text) s
  unfold processPoll
  split
  · exact emitStatus_sends (hA _ (by decide)) _ s
  dsimp only
  split
  · exact hreq.1
  split
  · exact hreq.2.ending rfl rfl rfl
  · exact hreq.2

theorem serialTask_sends (avail : Nat) (s : Mcu) : Says A s (s.serialTask P avail) := by
  unfold serialTask
  split
  · exact (sendFrame_sends (hA _ (by decide)) 0 [] s).ending rfl rfl rfl
  split
  · exact (sendFrame_sends (hA _ (by decide)) 0 [] s).ending rfl rfl rfl
  · exact .refl s

/-- One event sends its own commands and the one the sketch asked for. -/
theorem step_puts {ev : McuEvent} (hev : ∀ c ∈ chosenCommand ev, A c) (s : Mcu) : Puts A s (step P ev s) := by
  have hreply : ∀ c ∈ replyCommands, A c := fun c hc => hA c (List.mem_append_left _ (List.mem_cons_of_mem _ hc))
  cases ev with
  | recv hal res => exact handleReceivedFrame_puts hreply (hA _ List.mem_cons_self) hal res s
  | sendFrame cmd seq p => exact (sendFrame_sends (hev _ rfl) seq p s).toPuts
  | send c seq packet => exact (send_sends (hev _ rfl) seq packet s).toPuts
  | sendStatus st seq packet => exact (sendStatus_sends (hev _ rfl) seq packet s).toPuts
  | emitStatus st message => exact (emitStatus_sends (hev _ rfl) message s).toPuts
  | retransmitLastFrame => exact (retransmitLastFrame_sends P s).toPuts
  | enterSafeState => exact (enterSafeState_sends s).toPuts
  | onAckTimeout => exact (onAckTimeout_sends P s).toPuts
  | onRxDedupe => exact .of_eq rfl rfl
  | onBaudrateChange =>
    simp only [step, onBaudrateChange]
    split
    · split
      · exact .of_eq rfl rfl
      · exact .of_eq rfl rfl
    · exact .refl s
  | onBootloaderDelay => exact .of_eq rfl rfl
  | onHandshakeTimeout =>
    simp only [step, onHandshakeTimeout]
    split
    · exact .refl s
    · exact .of_eq rfl rfl
  | serialTask avail => exact (serialTask_sends hA avail s).toPuts
  | consoleBegin => exact .of_eq rfl rfl
  | consoleWrite data => exact (consoleWrite_sends hA data s).toPuts
  | consoleProcess => exact (consoleProcess_sends hA s).toPuts
  | dataStoreGet key valid => exact (dataStoreGet_sends hA key valid s).toPuts
  | fileSystemRead path valid => exact (fileSystemRead_sends hA path valid s).toPuts
  | processRunAsync cmd args valid => exact (processRunAsync_sends hA cmd args valid s).toPuts
  | processPoll pid valid => exact (processPoll_sends hA pid valid s).toPuts
  | mailboxProcess =>
    simp only [step, mailboxProcess]
    split
    · exact .refl s
    · split
      · exact .of_eq rfl rfl
      · exact .refl s
  | register c m a => exact .of_eq rfl rfl

end Events

theorem run_puts {A : UInt16 → Prop} (hA : ∀ c ∈ ownCommands, A c) (evs : List McuEvent)
    (hevs : ∀ e ∈ evs, ∀ c ∈ chosenCommand e, A c) (s : Mcu) : Puts A s (Run.run (step P) s evs) := by
  induction evs generalizing s with
  | nil => exact .refl s
  | cons e evs ih =>
    obtain ⟨he, hrest⟩ := List.forall_mem_cons.1 hevs
    exact (step_puts hA he s).trans (ih hrest _)

theorem step_queued (ev : McuEvent) (hs : Queued (fun c => requiresAck c = true) s) :
    Queued (fun c => requiresAck c = true) (step P ev s) := by
  refine (step_steps P s ev).invariant (I := Queued fun c => requiresAck c = true) (fun l t u _ hm ht => ?_) hs
  unfold Queued at ht ⊢
  cases hm with
  | quiet h => exact h.pendingTxQueue ▸ ht
  | enqueue f hack =>
    intro g hg
    rcases List.mem_append.1 hg with hg | hg
    · exact ht g hg
    · exact List.mem_singleton.1 hg ▸ hack
  | clear w => exact fun g hg => (by cases hg)
  | _ => exact ht

theorem boot_queued (A : UInt16 → Prop) (secret : Bytes) (postOk : Bool) : Queued A (boot secret postOk) := by
  intro g hg
  have hempty : (boot secret postOk).pendingTxQueue = [] := by cases postOk <;> rfl
  rw [hempty] at hg
  cases hg

theorem queued_requiresAck (secret : Bytes) (postOk : Bool) (evs : List McuEvent) :
    Queued (fun c => requiresAck c = true) (runFrom P secret postOk evs) :=
  Run.run_invariant (I := Queued fun c => requiresAck c = true) (fun _ ev hs => step_queued ev hs)
    (boot_queued _ secret postOk) evs

end Mcu
end McuBridge
