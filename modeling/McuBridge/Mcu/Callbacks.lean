import McuBridge.Mcu.ConsoleOutput
import McuBridge.Mcu.PinBounds

/-! # The handlers of the sketch

A service keeps the handler of a request in a container of fixed size until the response comes, and the mailbox keeps
messages for the sketch's callback. `owed` counts the calls made and the calls still due; nothing but a request of the
sketch or a frame with a message adds to it, so no handler is called without a cause or twice. The same pass over the
firmware shows that no container outgrows its capacity. -/

namespace McuBridge

/-- The handlers that are called once for each cause. -/
inductive Callback where
  | get
  | runAsync
  | poll
  | message
  deriving DecidableEq

def Act.callback : Act → Option Callback
  | .datastoreCallback _ => some .get
  | .runAsyncCallback _ => some .runAsync
  | .pollCallback _ => some .poll
  | .messageCallback _ => some .message
  | _ => none

/-- The calls that the containers still hold. -/
def Services.due (v : Services) : Callback → Nat
  | .get => v.pendingGets.count true
  | .runAsync => v.pendingRunAsync
  | .poll => v.pendingPolls.length
  | .message => v.mailboxQueue.length

/-- No container is over its capacity, and no message is larger than a `MailboxMessage`. -/
structure Services.Within (P : Platform) (v : Services) : Prop where
  consoleRx : v.consoleRx.length ≤ P.consoleRxBufferSize
  consoleTx : v.consoleTx.length ≤ P.consoleTxBufferSize
  gets : v.pendingGets.length ≤ maxPendingDatastore
  runAsync : v.pendingRunAsync ≤ maxPendingProcessPolls
  polls : v.pendingPolls.length ≤ maxPendingProcessPolls
  mailbox : v.mailboxQueue.length ≤ mailboxCapacity
  messages : ∀ m ∈ v.mailboxQueue, m.length ≤ 64

/-- The handlers an event registers, or calls itself where the request fails. -/
def McuEvent.requests : McuEvent → Callback → Nat
  | .dataStoreGet _ true, .get | .processRunAsync _ _ true, .runAsync | .processPoll _ true, .poll => 1
  | _, _ => 0

namespace Mcu
variable {P : Platform} {n : Callback → Nat} {s t u : Mcu}

def calls (s : Mcu) (k : Callback) : Nat := s.acts.countP fun a => a.callback = some k

def owed (s : Mcu) (k : Callback) : Nat := s.calls k + s.services.due k

/-- The two commands that bring a message. -/
def isMailboxCommand (cmd : UInt16) : Bool :=
  cmd == Command.mailboxPush.toUnderlying || cmd == Command.mailboxReadResp.toUnderlying

/-- The frames handled that are a cause for a call. -/
def brought (s : Mcu) : Callback → Nat
  | .message => s.handled.countP fun h => isMailboxCommand h.1
  | _ => 0

/-- From `s` to `t` no container overflows, and at most `n` calls more are owed than frames have brought. -/
structure Serves (P : Platform) (n : Callback → Nat) (s t : Mcu) : Prop where
  within : s.services.Within P → t.services.Within P
  owed : ∀ k, t.owed k + s.brought k ≤ s.owed k + t.brought k + n k

/-- The services are left alone. -/
structure Aside (s t : Mcu) : Prop where
  services : t.services = s.services
  calls : ∀ k, t.calls k = s.calls k
  handled : t.handled = s.handled

theorem brought_congr (h : t.handled = s.handled) (k : Callback) : t.brought k = s.brought k := by
  unfold brought
  rw [h]

theorem calls_act (a : Act) (s : Mcu) (k : Callback) :
    (s.act a).calls k = s.calls k + if a.callback = some k then 1 else 0 := by
  unfold calls act
  rw [List.countP_append, List.countP_singleton]
  simp

namespace Aside

theorem of_eq (hs : t.services = s.services) (ha : t.acts = s.acts) (hh : t.handled = s.handled) : Aside s t :=
  ⟨hs, fun _ => congrArg (List.countP _) ha, hh⟩

theorem refl (s : Mcu) : Aside s s := of_eq rfl rfl rfl

theorem trans (h : Aside s t) (h' : Aside t u) : Aside s u :=
  ⟨h'.services.trans h.services, fun k => (h'.calls k).trans (h.calls k), h'.handled.trans h.handled⟩

theorem serves (h : Aside s t) : Serves P n s t := by
  refine ⟨fun hs => h.services ▸ hs, fun k => ?_⟩
  unfold Mcu.owed
  rw [h.calls, h.services, brought_congr h.handled]
  omega

end Aside

namespace Serves

theorem refl (s : Mcu) : Serves P n s s := (Aside.refl s).serves

theorem trans (h : Serves P (fun _ => 0) s t) (h' : Serves P n t u) : Serves P n s u := by
  refine ⟨fun hs => h'.within (h.within hs), fun k => ?_⟩
  have hst := h.owed k
  have htu := h'.owed k
  omega

theorem more (h : Serves P (fun _ => 0) s t) : Serves P n s t :=
  ⟨h.within, fun k => Nat.le_trans (h.owed k) (Nat.le_add_right _ _)⟩

/-- What only changes the services and calls handlers. -/
theorem of_owed (hw : s.services.Within P → t.services.Within P) (ho : ∀ k, t.owed k ≤ s.owed k + n k)
    (hh : t.handled = s.handled) : Serves P n s t := by
  refine ⟨hw, fun k => ?_⟩
  have hk := ho k
  rw [brought_congr hh]
  omega

end Serves

/-! ### The transmit side -/

theorem act_aside {a : Act} (ha : a.callback = none) (s : Mcu) : Aside s (s.act a) :=
  ⟨rfl, fun k => by rw [calls_act, ha]; rfl, rfl⟩

theorem receive_aside (ev : FsmEvent) (s : Mcu) : Aside s (s.receive ev) := by
  refine ⟨rfl, fun k => ?_, rfl⟩
  unfold receive
  split
  · exact (act_aside rfl s).calls k
  · rfl

theorem transmit_aside (cmd seq : UInt16) (p : Bytes) (ticket : Option Nat) (s : Mcu) :
    Aside s (s.transmit P cmd seq p ticket) :=
  .of_eq (transmit_services P s ..) (transmit_acts ..) (transmit_sends (A := fun _ => True) trivial seq p ticket s).handled

theorem startTimer_aside (t : TimerId) (s : Mcu) : Aside s (s.startTimer t) := .of_eq rfl rfl rfl

theorem flushPendingTxQueue_aside (P : Platform) (s : Mcu) : Aside s (s.flushPendingTxQueue P) := by
  unfold flushPendingTxQueue
  split
  · exact .refl s
  case h_2 f rest _ =>
    split
    · exact .refl s
    · have hlast : Aside s { s with lastCommandId := f.commandId, retryCount := 0 } := .of_eq rfl rfl rfl
      exact ((hlast.trans (receive_aside _ _)).trans (transmit_aside ..)).trans (startTimer_aside _ _)

theorem retransmitLastFrame_aside (P : Platform) (s : Mcu) : Aside s (s.retransmitLastFrame P) := by
  unfold retransmitLastFrame
  split
  · exact .refl s
  · exact (transmit_aside ..).trans (startTimer_aside _ _)

theorem onAckTimeout_aside (P : Platform) (s : Mcu) : Aside s (s.onAckTimeout P) := by
  have hcount : Aside s { s with retryCount := s.retryCount + 1 } := .of_eq rfl rfl rfl
  unfold onAckTimeout
  split
  · exact .refl s
  · dsimp only
    split
    · have hstop : Aside s (({ s with retryCount := s.retryCount + 1 } : Mcu).stopTimer .ackTimeout) := .of_eq rfl rfl rfl
      have htimeout := hstop.trans (receive_aside .timeout _)
      exact htimeout.trans (.of_eq rfl rfl rfl)
    · exact hcount.trans (retransmitLastFrame_aside P _)

theorem handleAck_aside (P : Platform) (cmd : UInt16) (s : Mcu) : Aside s (s.handleAck P cmd) := by
  unfold handleAck
  split
  · exact .refl s
  · have hclear : Aside s (s.stopTimer .ackTimeout).clearPendingTxQueue := .of_eq rfl rfl rfl
    exact (hclear.trans (receive_aside .ackReceived _)).trans (flushPendingTxQueue_aside P _)

theorem enqueueWith_aside (cmd seq : UInt16) (data : Bytes) (s : Mcu) : Aside s (s.enqueueWith P cmd seq data).1 := by
  unfold enqueueWith
  split
  · exact .refl s
  split
  · exact .refl s
  case h_2 b _ =>
    have hpush (f : PendingTxFrame) : Aside s { s with
        txPayloadPool := f.buffer :: s.txPayloadPool
        pendingTxQueue := s.pendingTxQueue ++ [f]
        accepted := s.accepted ++ [f.frame] } := .of_eq rfl rfl rfl
    unfold enqueue
    dsimp only
    split
    · exact (hpush _).trans (flushPendingTxQueue_aside P _)
    · exact hpush ⟨cmd, seq, b, data, s.accepted.length⟩

theorem sendFrame_aside (cmd seq : UInt16) (p : Bytes) (s : Mcu) : Aside s (s.sendFrame P cmd seq p).1 := by
  unfold sendFrame
  split
  · exact .refl s
  split
  · exact enqueueWith_aside ..
  · exact transmit_aside ..

theorem sendSinglePass_aside (cmd seq : UInt16) (packet : PayloadType) (s : Mcu) :
    Aside s (s.sendSinglePass P cmd seq packet).1 := by
  unfold sendSinglePass sendFrameRaw
  split
  · exact .refl s
  · exact .of_eq rfl rfl rfl

theorem send_aside (c : Command) (seq : UInt16) (packet : PayloadType) (s : Mcu) : Aside s (s.send P c seq packet).1 := by
  unfold send
  split
  · unfold sendEncryptedHelper
    dsimp only
    split
    · exact .refl s
    split
    · exact enqueueWith_aside ..
    · exact transmit_aside ..
  · have hpass := sendSinglePass_aside (P := P) c.toUnderlying seq packet s
    unfold sendUnqueued
    dsimp only
    split
    · exact hpass.trans (.of_eq rfl rfl rfl)
    · exact hpass

theorem processAck_aside (cmd seq : UInt16) (s : Mcu) : Aside s (s.processAck P cmd seq) := sendSinglePass_aside ..

/-! ### Losing the link -/

theorem within_onLost {v : Services} (h : v.Within P) : (Services.onLost v).Within P :=
  ⟨h.consoleRx, h.consoleTx, Nat.zero_le _, Nat.zero_le _, Nat.zero_le _, Nat.zero_le _, nofun⟩

theorem due_onLost (v : Services) (k : Callback) : (Services.onLost v).due k = 0 := by cases k <;> rfl

theorem enterSafeState_serves (s : Mcu) : Serves P n s s.enterSafeState := by
  have hclear : Aside s ({ s.act .forceSafeState with txEnabled := false } : Mcu).clearPendingTxQueue :=
    (act_aside rfl s).trans (.of_eq rfl rfl rfl)
  have hreset := hclear.trans (receive_aside .reset _)
  unfold enterSafeState
  dsimp only
  generalize ({ s.act .forceSafeState with txEnabled := false } : Mcu).clearPendingTxQueue.receive .reset = t at hreset ⊢
  refine (Aside.serves hreset).trans (.of_owed within_onLost (fun k => ?_) rfl)
  rw [Mcu.owed, (act_aside rfl _).calls]
  show t.calls k + (Services.onLost t.services).due k ≤ t.calls k + t.services.due k + n k
  rw [due_onLost]
  omega

theorem emitStatus_serves (st : Status) (message : Option Bytes) (s : Mcu) : Serves P n s (s.emitStatus P st message) := by
  have hsafe (r : Mcu × Bool) (hr : Aside s r.1) : Serves P n s (if r.2 then r.1 else r.1.enterSafeState) := by
    split
    · exact hr.serves
    · exact (Aside.serves hr).trans (enterSafeState_serves _)
  cases message with
  | none => exact hsafe _ (sendFrame_aside ..)
  | some text => exact hsafe _ (sendSinglePass_aside ..)

/-! ### The command handlers -/

theorem respond_serves (c : Command) (seq : UInt16) (packet : PayloadType) (s : Mcu) :
    Serves P n s (if (s.send P c seq packet).2 then (s.send P c seq packet).1
      else (s.send P c seq packet).1.emitStatus P .error none) := by
  split
  · exact (send_aside ..).serves
  · exact (Aside.serves (send_aside ..)).trans (emitStatus_serves ..)

theorem handlePinRead_serves (hal : Hal) (ctx : CommandContext) (pin : UInt32) (s : Mcu) :
    Serves P n s (s.handlePinRead P hal ctx pin) := by
  have hread (pin maxPins : UInt8) (resp : Command) {a : Act} (ha : a.callback = none) (packet : PayloadType) :
      Serves P n s (s.handlePinReadCommon P ctx pin maxPins resp a packet) := by
    unfold handlePinReadCommon
    split
    · exact (Aside.serves (act_aside ha s)).trans (respond_serves ..)
    · exact emitStatus_serves ..
  unfold handlePinRead handleDigitalRead handleAnalogRead
  split
  · exact hread _ _ _ rfl _
  split
  · exact hread _ _ _ rfl _
  · exact emitStatus_serves ..

/-- The SPI flag, the SPI settings and the handler of `FileSystem.read` do not count. -/
theorem flags_serves (spi : Bool) (settings : SpiConfig) (read : Bool) (s : Mcu) : Serves P n s { s with
    services := { s.services with spiInitialized := spi, spiSettings := settings, readHandler := read } } :=
  .of_owed (fun h => ⟨h.consoleRx, h.consoleTx, h.gets, h.runAsync, h.polls, h.mailbox, h.messages⟩)
    (fun k => by cases k <;> exact Nat.le_add_right _ _) rfl

theorem spi_serves (initialized : Bool) {a : Act} (ha : a.callback = none) (s : Mcu) :
    Serves P n s (({ s with services := { s.services with spiInitialized := initialized } } : Mcu).act a) :=
  (flags_serves initialized s.services.spiSettings s.services.readHandler s).trans (act_aside ha _).serves

theorem handleSpiTransfer_serves (hal : Hal) (ctx : CommandContext) (data : Bytes) (s : Mcu) :
    Serves P n s (s.handleSpiTransfer P hal ctx data) := by
  have hshift (b : Bytes) : Aside s (s.spiTransfer hal b).1 := by
    unfold spiTransfer
    split
    · exact .refl s
    · exact act_aside rfl s
  have hspi := hshift (data.take maxPayloadSize)
  unfold handleSpiTransfer
  split
  case h_1 heq =>
    rw [heq] at hspi
    exact (Aside.serves hspi).trans (emitStatus_serves ..)
  case h_2 heq =>
    rw [heq] at hspi
    exact (Aside.serves hspi).trans (respond_serves ..)

theorem fileSystemReadLoop_aside (hal : Hal) (path : Bytes) (chunks : List Nat) (offset : Nat) (s : Mcu) :
    Aside s (s.fileSystemReadLoop P hal path chunks offset) := by
  induction chunks generalizing offset s with
  | nil => exact .refl s
  | cons chunk chunks ih =>
    unfold fileSystemReadLoop
    split
    · exact .refl s
    split
    · exact sendFrame_aside ..
    · dsimp only
      split
      · exact (send_aside ..).trans (send_aside ..)
      · exact (send_aside ..).trans (ih _ _)

theorem handleLinkReset_aside (ctx : CommandContext) (s : Mcu) : Aside s (s.handleLinkReset P ctx) := by
  have hconfig : Aside s (s.applyResetConfig P ctx) := by
    unfold applyResetConfig
    split
    · exact .of_eq rfl rfl rfl
    · exact .refl s
  have hreset := hconfig.trans (receive_aside .reset _)
  have htimer : Aside s ((s.applyResetConfig P ctx).receive .reset).restartHandshakeTimer :=
    hreset.trans (.of_eq rfl rfl rfl)
  exact htimer.trans (sendFrame_aside ..)

theorem handleLinkSync_serves (ctx : CommandContext) (m : LinkSync) (s : Mcu) : Serves P n s (s.handleLinkSync P ctx m) := by
  have hcomplete (resp : LinkSync) (t : Mcu) : Aside t (t.completeHandshake P ctx resp) := by
    have hstart : Aside t ((t.receive .handshakeStart).receive .handshakeComplete) :=
      (receive_aside _ t).trans (receive_aside _ _)
    have hstop : Aside t (((t.receive .handshakeStart).receive .handshakeComplete).stopTimer .handshakeTimeout) :=
      hstart.trans (.of_eq rfl rfl rfl)
    exact hstop.trans (send_aside ..)
  have hinstall : Aside s (s.installSession P (linkSyncNonce m)) := .of_eq rfl rfl rfl
  unfold handleLinkSync
  dsimp only
  split
  · exact (hcomplete _ s).serves
  split
  · exact (hinstall.trans (hcomplete _ _)).serves
  · exact (Aside.serves (receive_aside _ s)).trans (emitStatus_serves ..)

theorem consolePush_serves (data : Bytes) (s : Mcu) : Serves P n s (s.consolePush P data) := by
  refine .of_owed (fun h => { h with consoleRx := ?_ }) (fun k => ?_) rfl
  · have hroom := h.consoleRx
    show (s.services.consoleRx ++ data.take (P.consoleRxBufferSize - s.services.consoleRx.length)).length ≤ _
    rw [List.length_append, List.length_take]
    omega
  · cases k <;> exact Nat.le_add_right _ _

theorem dataStoreOnResponse_serves (value : Bytes) (s : Mcu) : Serves P n s (s.dataStoreOnResponse value) := by
  unfold dataStoreOnResponse
  split
  · exact .refl s
  case h_2 valid rest hgets =>
    have hlen : s.services.Within P → rest.length ≤ maxPendingDatastore := by
      intro h
      have hgets' := h.gets
      rw [hgets, List.length_cons] at hgets'
      omega
    dsimp only
    split
    case isTrue hvalid =>
      refine .of_owed (fun h => { h with gets := hlen h }) (fun k => ?_) rfl
      rw [Mcu.owed, calls_act, Mcu.owed]
      cases k with
      | get =>
        show s.calls .get + 1 + rest.count true ≤ s.calls .get + s.services.pendingGets.count true + n .get
        rw [hgets, hvalid, List.count_cons_self]
        omega
      | runAsync | poll | message => exact Nat.le_add_right _ _
    case isFalse hvalid =>
      refine .of_owed (fun h => { h with gets := hlen h }) (fun k => ?_) rfl
      cases k with
      | get =>
        show s.calls .get + rest.count true ≤ s.calls .get + s.services.pendingGets.count true + n .get
        have hle : rest.count true ≤ s.services.pendingGets.count true := by
          rw [hgets]
          exact List.count_le_count_cons
        omega
      | runAsync | poll | message => exact Nat.le_add_right _ _

theorem processOnRunAsyncResponse_serves (pid : UInt32) (s : Mcu) : Serves P n s (s.processOnRunAsyncResponse pid) := by
  unfold processOnRunAsyncResponse
  split
  · exact .refl s
  case h_2 m hruns =>
    refine .of_owed (fun h => { h with runAsync := ?_ }) (fun k => ?_) rfl
    · have hle := h.runAsync
      rw [hruns] at hle
      exact Nat.le_of_succ_le hle
    · rw [Mcu.owed, calls_act, Mcu.owed]
      cases k with
      | runAsync =>
        show s.calls .runAsync + 1 + m ≤ s.calls .runAsync + s.services.pendingRunAsync + n .runAsync
        omega
      | get | poll | message => exact Nat.le_add_right _ _

theorem processOnPollResponse_serves (m : ProcessPollResponse) (s : Mcu) : Serves P n s (s.processOnPollResponse m) := by
  unfold processOnPollResponse
  split
  · exact .refl s
  case h_2 pid rest hpolls =>
    refine .of_owed (fun h => { h with polls := ?_ }) (fun k => ?_) rfl
    · have hle := h.polls
      rw [hpolls, List.length_cons] at hle
      exact Nat.le_of_succ_le hle
    · rw [Mcu.owed, calls_act, Mcu.owed]
      cases k with
      | poll =>
        show s.calls .poll + 1 + rest.length ≤ s.calls .poll + s.services.pendingPolls.length + n .poll
        rw [hpolls, List.length_cons]
        omega
      | get | runAsync | message => exact Nat.le_add_right _ _

theorem processOnKillNotification_serves (s : Mcu) : Serves P n s s.processOnKillNotification := by
  refine .of_owed (fun h => { h with runAsync := Nat.zero_le _, polls := Nat.zero_le _ }) (fun k => ?_) rfl
  cases k with
  | runAsync | poll => exact Nat.le_trans (Nat.add_le_add_left (Nat.zero_le _) _) (Nat.le_add_right _ _)
  | get | message => exact Nat.le_add_right _ _

/-- A message is taken in because of the frame that is being handled. -/
theorem mailboxQueuePush_serves {ctx : CommandContext} (hctx : isMailboxCommand ctx.rawCommand = true) (data : Bytes)
    (s : Mcu) : Serves P n s ((s.handle ctx).mailboxQueuePush data) := by
  have hbrought : (s.handle ctx).brought .message = s.brought .message + 1 := by
    show (s.handled ++ [(ctx.rawCommand, ctx.sequenceId)]).countP (fun h => isMailboxCommand h.1) = _
    rw [List.countP_append, List.countP_singleton, if_pos hctx]
    rfl
  unfold mailboxQueuePush
  split
  case isTrue =>
    refine ⟨id, fun k => ?_⟩
    cases k with
    | message =>
      rw [hbrought]
      show s.owed .message + _ ≤ _
      omega
    | get | runAsync | poll => exact Nat.le_add_right _ _
  case isFalse hfull =>
    refine ⟨fun h => { h with mailbox := ?_, messages := ?_ }, fun k => ?_⟩
    · show (s.services.mailboxQueue ++ [data.take 64]).length ≤ mailboxCapacity
      rw [List.length_append, List.length_singleton]
      exact Nat.lt_of_not_le hfull
    · intro m hm
      rcases List.mem_append.1 hm with hm | hm
      · exact h.messages m hm
      · rw [List.mem_singleton.1 hm, List.length_take]
        exact Nat.min_le_left _ _
    · cases k with
      | message =>
        show s.calls .message + (s.services.mailboxQueue ++ [data.take 64]).length + s.brought .message ≤
          s.calls .message + s.services.mailboxQueue.length + (s.handle ctx).brought .message + n .message
        rw [hbrought, List.length_append, List.length_singleton]
        omega
      | get | runAsync | poll => exact Nat.le_add_right _ _

theorem handle_serves (ctx : CommandContext) (s : Mcu) : Serves P n s (s.handle ctx) := by
  refine ⟨id, fun k => ?_⟩
  have hle : s.brought k ≤ (s.handle ctx).brought k := by
    cases k with
    | message =>
      show _ ≤ (s.handled ++ _).countP _
      rw [List.countP_append]
      exact Nat.le_add_right _ _
    | get | runAsync | poll => exact Nat.le_refl _
  show s.owed k + _ ≤ s.owed k + _ + _
  omega

/-! ### Dispatch -/

theorem preDispatch_aside (ctx : CommandContext) (needsAck retransmitOnDup : Bool) (s : Mcu) :
    Aside s (s.preDispatch P ctx needsAck retransmitOnDup).1 := by
  have hacked : Aside s (if needsAck then s.processAck P ctx.rawCommand ctx.sequenceId else s) := by
    split
    · exact processAck_aside ..
    · exact .refl s
  unfold preDispatch
  dsimp only
  split
  · dsimp only
    split
    · exact hacked.trans (retransmitLastFrame_aside P _)
    · exact hacked
  · exact hacked

theorem dispatch_serves (ctx : CommandContext) (needsAck retransmitOnDup : Bool) {body : Mcu → Mcu}
    (hbody : ∀ t, Serves P n t (body t)) (s : Mcu) :
    Serves P n s
      (match s.preDispatch P ctx needsAck retransmitOnDup with
        | (t, false) => t
        | (t, true) => body t) := by
  have hpre := preDispatch_aside (P := P) ctx needsAck retransmitOnDup s
  generalize s.preDispatch P ctx needsAck retransmitOnDup = r at hpre ⊢
  obtain ⟨t, b⟩ := r
  cases b with
  | false => exact hpre.serves
  | true => exact (Aside.serves hpre).trans (hbody t)

theorem dispatchCmd_serves {M : Type} (d : PbMessage M) {handler : CommandContext → M → Mcu → Mcu} (ctx : CommandContext)
    (needsAck retransmitOnDup : Bool) (hh : ∀ m t, Serves P n t (handler ctx m (t.handle ctx))) (s : Mcu) :
    Serves P n s (s.dispatchCmd P d handler ctx needsAck retransmitOnDup) := by
  unfold dispatchCmd
  cases d.read P ctx.envelope.payloadType with
  | none => exact dispatch_serves ctx _ _ (fun t => emitStatus_serves .malformed none t) s
  | some m => exact dispatch_serves ctx _ _ (fun t => hh m t) s

theorem dispatchNoPayload_serves {handler : CommandContext → Mcu → Mcu} (ctx : CommandContext)
    (needsAck retransmitOnDup : Bool) (hh : ∀ t, Serves P n t (handler ctx t)) (s : Mcu) :
    Serves P n s (s.dispatchNoPayload P handler ctx needsAck retransmitOnDup) :=
  dispatch_serves ctx _ _ (fun t => (handle_serves ctx t).trans (hh _)) s

theorem onCmdResponse_serves {M : Type} (d : PbMessage M) {handler : M → Mcu → Mcu} (ctx : CommandContext)
    (hh : ∀ m t, Serves P n t (handler m (t.handle ctx))) (s : Mcu) : Serves P n s (s.onCmdResponse P d handler ctx) := by
  unfold onCmdResponse
  split
  · exact emitStatus_serves ..
  · exact hh _ s

/-- A handler that does not depend on the frame being counted. -/
theorem dispatchCmd_uncounted {M : Type} (d : PbMessage M) {handler : CommandContext → M → Mcu → Mcu} (ctx : CommandContext)
    (needsAck retransmitOnDup : Bool) (hh : ∀ m t, Serves P n t (handler ctx m t)) (s : Mcu) :
    Serves P n s (s.dispatchCmd P d handler ctx needsAck retransmitOnDup) :=
  dispatchCmd_serves d ctx _ _ (fun m t => (handle_serves ctx t).trans (hh m _)) s

theorem handleSetBaudrate_aside (b : UInt32) (s : Mcu) : Aside s (s.handleSetBaudrate b) := by
  unfold handleSetBaudrate
  split
  · exact .refl s
  · exact .of_eq rfl rfl rfl

theorem handleEnterBootloader_aside (m : UInt32) (s : Mcu) : Aside s (s.handleEnterBootloader m) := by
  unfold handleEnterBootloader
  split
  · exact startTimer_aside _ s
  · exact .refl s

theorem mailboxOnAvailableResponse_aside (c : UInt32) (s : Mcu) : Aside s (s.mailboxOnAvailableResponse c) := by
  unfold mailboxOnAvailableResponse
  split
  · exact act_aside rfl s
  · exact .refl s

theorem fileSystemOnResponse_aside (c : Bytes) (s : Mcu) : Aside s (s.fileSystemOnResponse c) := by
  unfold fileSystemOnResponse
  split
  · exact act_aside rfl s
  · exact .refl s

variable (P n) in
/-- An entry of the dispatch table, run on a frame of its command. -/
def ServesOn (cmd : UInt16) (h : Handler) : Prop := ∀ hal ctx s, ctx.rawCommand = cmd → Serves P n s (h hal ctx s)

namespace ServesOn
variable {cmd : UInt16} {needsAck retransmitOnDup : Bool}

theorem message {M : Type} (d : PbMessage M) {f : Hal → CommandContext → M → Mcu → Mcu}
    (hf : ∀ hal ctx m t, Serves P n t (f hal ctx m t)) :
    ServesOn P n cmd fun hal ctx => dispatchCmd P d (f hal) ctx needsAck retransmitOnDup :=
  fun hal ctx s _ => dispatchCmd_uncounted d ctx _ _ (hf hal ctx) s

theorem empty {f : Hal → CommandContext → Mcu → Mcu} (hf : ∀ hal ctx t, Serves P n t (f hal ctx t)) :
    ServesOn P n cmd fun hal ctx => dispatchNoPayload P (f hal) ctx needsAck retransmitOnDup :=
  fun hal ctx s _ => dispatchNoPayload_serves ctx _ _ (hf hal ctx) s

theorem mailbox (hcmd : isMailboxCommand cmd = true) (d : PbMessage Bytes) :
    ServesOn P n cmd fun _ ctx => dispatchCmd P d (fun _ m => mailboxQueuePush m) ctx needsAck retransmitOnDup :=
  fun _ ctx s h => dispatchCmd_serves d ctx _ _ (mailboxQueuePush_serves (h ▸ hcmd)) s

theorem mailboxResponse (hcmd : isMailboxCommand cmd = true) (d : PbMessage Bytes) :
    ServesOn P n cmd fun _ ctx => onCmdResponse P d mailboxQueuePush ctx :=
  fun _ ctx s h => onCmdResponse_serves d ctx (mailboxQueuePush_serves (h ▸ hcmd)) s

theorem response {M : Type} (d : PbMessage M) {f : M → Mcu → Mcu} (hf : ∀ m t, Serves P n t (f m t)) :
    ServesOn P n cmd fun _ ctx => onCmdResponse P d f ctx :=
  fun _ ctx s _ => onCmdResponse_serves d ctx (fun m t => (handle_serves ctx t).trans (hf m _)) s

end ServesOn

theorem kDispatchTable_serves (P : Platform) : ∀ e ∈ kDispatchTable P, ServesOn P n e.1 e.2 := by
  have hsend (c : Command) (seq : UInt16) (packet : PayloadType) (t : Mcu) : Serves P n t (t.send P c seq packet).1 :=
    (send_aside c seq packet t).serves
  have hact {m : Callback → Nat} {a : Act} (ha : a.callback = none) (t : Mcu) : Serves P m t (t.act a) :=
    (act_aside ha t).serves
  have hpush : isMailboxCommand Command.mailboxPush.toUnderlying = true := by decide
  have hresponse : isMailboxCommand Command.mailboxReadResp.toUnderlying = true := by decide
  unfold kDispatchTable
  refine List.forall_mem_cons.2 ⟨.message _ fun _ _ _ t => (handleAck_aside P _ t).serves, ?_⟩
  refine List.forall_mem_cons.2 ⟨.empty fun _ _ t => hsend _ _ _ t, ?_⟩
  refine List.forall_mem_cons.2 ⟨.empty fun _ _ t => hsend _ _ _ t, ?_⟩
  refine List.forall_mem_cons.2 ⟨.message _ fun _ ctx m t => handleLinkSync_serves ctx m t, ?_⟩
  refine List.forall_mem_cons.2 ⟨.empty fun _ ctx t => (handleLinkReset_aside ctx t).serves, ?_⟩
  refine List.forall_mem_cons.2 ⟨.empty fun _ _ t => hsend _ _ _ t, ?_⟩
  refine List.forall_mem_cons.2 ⟨.message _ fun _ _ m t => (handleSetBaudrate_aside m t).serves, ?_⟩
  refine List.forall_mem_cons.2 ⟨.message _ fun _ _ m t => (handleEnterBootloader_aside m t).serves, ?_⟩
  refine List.forall_mem_cons.2 ⟨.empty fun _ _ t => (show Aside t t.handleXoff from .of_eq rfl rfl rfl).serves, ?_⟩
  refine List.forall_mem_cons.2 ⟨.empty fun _ _ t => (show Aside t t.handleXon from .of_eq rfl rfl rfl).serves, ?_⟩
  refine List.forall_mem_cons.2 ⟨.message _ fun _ _ _ t => hact rfl t, ?_⟩
  refine List.forall_mem_cons.2 ⟨.message _ fun _ _ _ t => hact rfl t, ?_⟩
  refine List.forall_mem_cons.2 ⟨.message _ fun _ _ _ t => hact rfl t, ?_⟩
  refine List.forall_mem_cons.2 ⟨.message _ fun hal ctx m t => handlePinRead_serves hal ctx m t, ?_⟩
  refine List.forall_mem_cons.2 ⟨.message _ fun hal ctx m t => handlePinRead_serves hal ctx m t, ?_⟩
  refine List.forall_mem_cons.2 ⟨.message _ fun _ _ m t => consolePush_serves m t, ?_⟩
  refine List.forall_mem_cons.2 ⟨.message _ fun _ _ m t => dataStoreOnResponse_serves m t, ?_⟩
  refine List.forall_mem_cons.2 ⟨.mailbox hpush _, ?_⟩
  refine List.forall_mem_cons.2 ⟨.mailboxResponse hresponse _, ?_⟩
  refine List.forall_mem_cons.2 ⟨.response _ fun m t => (mailboxOnAvailableResponse_aside m t).serves, ?_⟩
  refine List.forall_mem_cons.2 ⟨.message _ fun _ _ _ t => (hact rfl t).trans (sendFrame_aside ..).serves, ?_⟩
  refine List.forall_mem_cons.2 ⟨.message _ fun hal _ m t => (fileSystemReadLoop_aside hal m _ 0 t).serves, ?_⟩
  refine List.forall_mem_cons.2 ⟨.message _ fun _ _ _ t => (hact rfl t).trans (sendFrame_aside ..).serves, ?_⟩
  refine List.forall_mem_cons.2 ⟨.message _ fun _ _ m t => (fileSystemOnResponse_aside m t).serves, ?_⟩
  refine List.forall_mem_cons.2 ⟨.message _ fun _ _ _ t => processOnKillNotification_serves t, ?_⟩
  refine List.forall_mem_cons.2 ⟨.message _ fun _ _ m t => processOnRunAsyncResponse_serves m t, ?_⟩
  refine List.forall_mem_cons.2 ⟨.message _ fun _ _ m t => processOnPollResponse_serves m t, ?_⟩
  refine List.forall_mem_cons.2 ⟨.empty fun _ _ t => (spi_serves true rfl t).trans (processAck_aside ..).serves, ?_⟩
  refine List.forall_mem_cons.2 ⟨.message _ fun hal ctx m t => handleSpiTransfer_serves hal ctx m t, ?_⟩
  refine List.forall_mem_cons.2 ⟨.empty fun _ _ t => (spi_serves false rfl t).trans (processAck_aside ..).serves, ?_⟩
  exact List.forall_mem_singleton.2 (.message _ fun _ _ m t => flags_serves _ m _ t)

theorem dispatchCommand_serves (hal : Hal) (env : RpcEnvelope) (s : Mcu) : Serves P n s (s.dispatchCommand P hal env) := by
  have hcontext (ctx : CommandContext) (t : Mcu) : Serves P n t (t.dispatchContext P hal ctx) := by
    unfold dispatchContext
    split
    · exact (sendFrame_aside ..).serves
    split
    · exact (processAck_aside ..).serves
    split
    · exact enterSafeState_serves t
    split
    case h_1 h heq => exact kDispatchTable_serves P _ (findHandler_mem heq) hal ctx t rfl
    case h_2 =>
      unfold onUnknownCommand
      split
      · exact (handle_serves ctx t).trans (act_aside rfl _).serves
      · exact emitStatus_serves ..
  unfold dispatchCommand
  dsimp only
  split
  · exact hcontext _ s
  · have hpush : Aside s (s.pushHistory (s.commandContext env).sequenceId) := .of_eq rfl rfl rfl
    exact (Aside.serves hpush).trans (hcontext _ _)

theorem handleReceivedFrame_serves (hal : Hal) (res : Option RpcEnvelope) (s : Mcu) :
    Serves P n s (s.handleReceivedFrame P hal res) := by
  unfold handleReceivedFrame
  split
  case h_1 => exact emitStatus_serves ..
  case h_2 env =>
    split
    · split
      case h_1 => exact emitStatus_serves ..
      case h_2 c plain _ =>
        have hcounter : Aside s (s.acceptCounter c) := .of_eq rfl rfl rfl
        exact (Aside.serves hcounter).trans (dispatchCommand_serves hal _ _)
    · exact dispatchCommand_serves hal env s

/-! ### The calls of the sketch -/

theorem consoleProcess_serves (s : Mcu) : Serves P n s (s.consoleProcess P) := by
  unfold consoleProcess
  split
  · exact .refl s
  · have hsend := send_aside (P := P) .consoleWrite 0 (.consoleWrite (s.services.consoleTx.take 64)) s
    dsimp only
    split
    · refine (Aside.serves hsend).trans (.of_owed (fun h => { h with consoleTx := Nat.zero_le _ }) (fun k => ?_) rfl)
      cases k <;> exact Nat.le_add_right _ _
    · exact hsend.serves

theorem consoleTxInsert_serves {data : Bytes} (hfits : data.length ≤ P.consoleTxBufferSize - s.services.consoleTx.length) :
    Serves P n s (s.consoleTxInsert data) := by
  refine .of_owed (fun h => { h with consoleTx := ?_ }) (fun k => ?_) rfl
  · have hle := h.consoleTx
    show (s.services.consoleTx ++ data).length ≤ _
    rw [List.length_append]
    omega
  · cases k <;> exact Nat.le_add_right _ _

theorem consoleWrite_serves (data : Bytes) (s : Mcu) : Serves P n s (s.consoleWrite P data) := by
  have hfull (t : Mcu) : Serves P (fun _ => 0) t (t.consoleProcessIfFull P) := by
    unfold consoleProcessIfFull
    split
    · exact consoleProcess_serves t
    · exact .refl t
  unfold consoleWrite
  split
  · exact .refl s
  · have hinsert (t : Mcu) : Serves P (fun _ => 0) t
        (t.consoleTxInsert (data.take (min data.length (P.consoleTxBufferSize - t.services.consoleTx.length)))) :=
      consoleTxInsert_serves (by rw [List.length_take]; omega)
    have hfirst := (hfull s).trans (hinsert _)
    dsimp only
    split
    · refine (hfirst.trans (consoleProcess_serves _)).trans (consoleTxInsert_serves ?_)
      rw [List.length_take]
      omega
    · exact hfirst.more

/-- One more call of `k` is owed, if there is a handler. -/
def onlyOne (valid : Bool) (k : Callback) : Callback → Nat := fun j => if valid = true ∧ j = k then 1 else 0

theorem dataStoreGet_serves (key : Bytes) (valid : Bool) (s : Mcu) :
    Serves P (onlyOne valid .get) s (s.dataStoreGet P key valid) := by
  have hsend := send_aside (P := P) .datastoreGet 0 (.datastoreGet (key.take 31)) s
  unfold dataStoreGet
  split
  · exact emitStatus_serves ..
  case isFalse hroom =>
    dsimp only
    split
    · exact (Aside.serves hsend).trans (emitStatus_serves ..)
    · rw [← hsend.services] at hroom
      refine (Aside.serves hsend).trans (.of_owed (fun h => { h with gets := ?_ }) (fun k => ?_) rfl)
      · show (_ ++ [valid]).length ≤ maxPendingDatastore
        rw [List.length_append, List.length_singleton]
        exact Nat.lt_of_not_le hroom
      · cases k with
        | get =>
          show _ + (_ ++ [valid]).count true ≤ _ + _ + onlyOne valid .get .get
          rw [List.count_append]
          cases valid with
          | false => exact Nat.le_add_right _ _
          | true => exact Nat.le_refl _
        | runAsync | poll | message => exact Nat.le_add_right _ _

theorem fileSystemRead_serves (path : Bytes) (valid : Bool) (s : Mcu) : Serves P n s (s.fileSystemRead P path valid) := by
  have hregister : Serves P (fun _ => 0) s { s with services := { s.services with readHandler := valid } } :=
    flags_serves s.services.spiInitialized s.services.spiSettings valid s
  unfold fileSystemRead
  dsimp only
  split
  · exact (hregister.trans (Aside.serves (send_aside ..))).trans (emitStatus_serves ..)
  · exact hregister.trans (send_aside ..).serves

theorem processFail_serves (f : ProcessFailure) (valid : Bool) (s : Mcu) :
    Serves P (onlyOne valid .runAsync) s (s.processFail P f valid) := by
  unfold processFail
  dsimp only
  split
  case isTrue hvalid =>
    refine (emitStatus_serves .error (some f.text) s).trans (.of_owed id (fun k => ?_) rfl)
    generalize s.emitStatus P .error (some f.text) = t
    rw [Mcu.owed, calls_act, hvalid]
    show t.calls k + _ + t.services.due k ≤ t.calls k + t.services.due k + _
    cases k with
    | runAsync =>
      show t.calls .runAsync + 1 + _ ≤ t.calls .runAsync + _ + 1
      omega
    | get | poll | message => exact Nat.le_refl _
  case isFalse => exact emitStatus_serves ..

theorem processRunAsync_serves (cmd : Bytes) (args : List Bytes) (valid : Bool) (s : Mcu) :
    Serves P (onlyOne valid .runAsync) s (s.processRunAsync P cmd args valid) := by
  unfold processRunAsync
  split
  · exact processFail_serves ..
  case isFalse hroom =>
    split
    · exact processFail_serves ..
    case h_2 line _ =>
      have hsend := send_aside (P := P) .processRunAsync 0 (.processRunAsync (line.take 59)) s
      dsimp only
      split
      · exact (Aside.serves hsend).trans (processFail_serves ..)
      split
      case isTrue hvalid =>
        rw [← hsend.services] at hroom
        refine (Aside.serves hsend).trans (.of_owed (fun h => { h with runAsync := ?_ }) (fun k => ?_) rfl)
        · rw [hvalid, Bool.true_and, decide_eq_true_eq] at hroom
          exact Nat.lt_of_not_le hroom
        · cases k with
          | runAsync =>
            rw [hvalid]
            exact Nat.le_refl _
          | get | poll | message => exact Nat.le_add_right _ _
      case isFalse => exact hsend.serves

theorem processPoll_serves (pid : UInt32) (valid : Bool) (s : Mcu) :
    Serves P (onlyOne valid .poll) s (s.processPoll P pid valid) := by
  have hsend := send_aside (P := P) .processPoll 0 (.processPoll pid) s
  unfold processPoll
  split
  · exact emitStatus_serves ..
  case isFalse hroom =>
    dsimp only
    split
    · exact (Aside.serves hsend).trans (emitStatus_serves ..)
    split
    case isTrue hvalid =>
      rw [← hsend.services] at hroom
      refine (Aside.serves hsend).trans (.of_owed (fun h => { h with polls := ?_ }) (fun k => ?_) rfl)
      · rw [hvalid, Bool.true_and, decide_eq_true_eq] at hroom
        show (_ ++ [pid]).length ≤ maxPendingProcessPolls
        rw [List.length_append, List.length_singleton]
        exact Nat.lt_of_not_le hroom
      · cases k with
        | poll =>
          rw [hvalid]
          show _ + (_ ++ [pid]).length ≤ _ + _ + onlyOne true .poll .poll
          rw [List.length_append]
          exact Nat.le_refl _
        | get | runAsync | message => exact Nat.le_add_right _ _
    case isFalse => exact hsend.serves

/-- A message leaves the queue with the call. -/
theorem mailboxProcess_serves (s : Mcu) : Serves P n s s.mailboxProcess := by
  unfold mailboxProcess
  split
  · exact .refl s
  case h_2 m rest hqueue =>
    split
    · refine .of_owed (fun h => { h with mailbox := ?_, messages := ?_ }) (fun k => ?_) rfl
      · have hle := h.mailbox
        rw [hqueue, List.length_cons] at hle
        exact Nat.le_of_succ_le hle
      · exact fun x hx => h.messages x (hqueue ▸ List.mem_cons_of_mem _ hx)
      · show (s.act (.messageCallback m)).calls k + _ ≤ s.owed k + n k
        rw [calls_act, Mcu.owed]
        cases k with
        | message =>
          show s.calls .message + 1 + rest.length ≤ s.calls .message + s.services.mailboxQueue.length + n .message
          rw [hqueue, List.length_cons]
          omega
        | get | runAsync | poll => exact Nat.le_add_right _ _
    · exact .refl s

/-! ### Runs -/

theorem step_serves (P : Platform) (ev : McuEvent) (s : Mcu) : Serves P ev.requests s (step P ev s) := by
  cases ev with
  | recv hal res => exact handleReceivedFrame_serves hal res s
  | sendFrame cmd seq p => exact (sendFrame_aside ..).serves
  | send c seq packet => exact (send_aside ..).serves
  | sendStatus st seq packet => exact (sendSinglePass_aside ..).serves
  | emitStatus st message => exact emitStatus_serves ..
  | retransmitLastFrame => exact (retransmitLastFrame_aside P s).serves
  | enterSafeState => exact enterSafeState_serves s
  | onAckTimeout => exact (onAckTimeout_aside P s).serves
  | onRxDedupe => exact (show Aside s s.onRxDedupe from .of_eq rfl rfl rfl).serves
  | onBaudrateChange =>
    refine Aside.serves ?_
    show Aside s s.onBaudrateChange
    unfold onBaudrateChange
    split
    · dsimp only
      split
      · exact (act_aside rfl s).trans (.of_eq rfl rfl rfl)
      · exact .of_eq rfl rfl rfl
    · exact .refl s
  | onBootloaderDelay => exact (act_aside rfl s).serves
  | onHandshakeTimeout =>
    refine Aside.serves ?_
    show Aside s s.onHandshakeTimeout
    unfold onHandshakeTimeout
    split
    · exact .refl s
    · exact (receive_aside .timeout s).trans (.of_eq rfl rfl rfl)
  | serialTask avail =>
    refine Aside.serves ?_
    show Aside s (s.serialTask P avail)
    unfold serialTask
    split
    · exact (sendFrame_aside ..).trans (.of_eq rfl rfl rfl)
    split
    · exact (sendFrame_aside ..).trans (.of_eq rfl rfl rfl)
    · exact .refl s
  | consoleBegin =>
    refine .of_owed (fun h => { h with consoleRx := Nat.zero_le _, consoleTx := Nat.zero_le _ }) (fun k => ?_) rfl
    cases k <;> exact Nat.le_refl _
  | consoleWrite data => exact consoleWrite_serves data s
  | consoleProcess => exact consoleProcess_serves s
  | dataStoreGet key valid =>
    have h := dataStoreGet_serves (P := P) key valid s
    refine ⟨h.within, fun k => ?_⟩
    have hk := h.owed k
    cases valid <;> cases k <;> exact hk
  | fileSystemRead path valid => exact fileSystemRead_serves path valid s
  | processRunAsync cmd args valid =>
    have h := processRunAsync_serves (P := P) cmd args valid s
    refine ⟨h.within, fun k => ?_⟩
    have hk := h.owed k
    cases valid <;> cases k <;> exact hk
  | processPoll pid valid =>
    have h := processPoll_serves (P := P) pid valid s
    refine ⟨h.within, fun k => ?_⟩
    have hk := h.owed k
    cases valid <;> cases k <;> exact hk
  | mailboxProcess => exact mailboxProcess_serves s
  | register c m a =>
    refine .of_owed (fun h => ⟨h.consoleRx, h.consoleTx, h.gets, h.runAsync, h.polls, h.mailbox, h.messages⟩)
      (fun k => ?_) rfl
    cases k <;> exact Nat.le_refl _

theorem boot_within (P : Platform) (secret : Bytes) (postOk : Bool) :
    (boot secret postOk).services.Within P ∧ ∀ k, (boot secret postOk).owed k = 0 := by
  have hempty : (({} : Mcu)).services.Within P :=
    ⟨Nat.zero_le _, Nat.zero_le _, Nat.zero_le _, Nat.zero_le _, Nat.zero_le _, Nat.zero_le _, nofun⟩
  cases postOk with
  | true => exact ⟨hempty, fun k => by cases k <;> rfl⟩
  | false => exact ⟨within_onLost hempty, fun k => by cases k <;> rfl⟩

/-- After any run no container of the services is over its capacity, each handler of the sketch has been called at most
once for each request that registered one, those that still wait for a response counted in, and the message callback at
most once for each frame that brought a message. -/
theorem callbacks_accounted (P : Platform) (secret : Bytes) (postOk : Bool) (evs : List McuEvent) :
    (runFrom P secret postOk evs).services.Within P ∧
      ∀ k, (runFrom P secret postOk evs).calls k + (runFrom P secret postOk evs).services.due k ≤
        (evs.map fun ev => ev.requests k).sum + (runFrom P secret postOk evs).brought k := by
  obtain ⟨hwithin, howed⟩ := boot_within P secret postOk
  refine Run.history_invariant
    (I := fun pre (t : Mcu) => t.services.Within P ∧ ∀ k, t.owed k ≤ (pre.map fun ev => ev.requests k).sum + t.brought k)
    ⟨hwithin, fun k => ?_⟩ (fun pre ev h => ?_) evs
  · rw [howed]
    exact Nat.zero_le _
  · have hstep := step_serves P ev (Run.run (step P) (boot secret postOk) pre)
    refine ⟨hstep.within h.1, fun k => ?_⟩
    have hk := hstep.owed k
    have hpre := h.2 k
    rw [List.map_append, List.sum_append, List.map_singleton, List.sum_singleton]
    omega

end Mcu
end McuBridge
