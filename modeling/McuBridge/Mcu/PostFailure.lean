import McuBridge.Mcu.FlowControl

/-! # A failed power-on self-test

`begin` answers a failed self-test with `enterSafeState` and goes on: it enables transmission again, and nothing
reads `_is_post_passed` afterwards. What keeps the firmware silent is then only that nobody asks it to speak:
no LINK_SYNC authenticates, the sketch sends nothing, and without a secret no application frame comes in. -/

namespace McuBridge
namespace Mcu
open Run
variable (P : Platform)

/-- The state of an MCU whose failed self-test is respected: no session, and nothing but system frames sent or
executed. -/
structure FailSecure (s : Mcu) : Prop where
  unsynchronized : s.isSynchronized = false
  wire : ∀ f ∈ s.wire, isSystemCommand f.env.rawCommand = true
  handled : ∀ h ∈ s.handled, isSystemCommand h.1 = true

/-- The sketch's call reaches `send` or `sendFrame` with an application command. -/
def sendsApplication (s : Mcu) : McuEvent → Bool
  | .sendFrame cmd _ _ => !isSystemCommand cmd
  | .send c _ _ => !isSystemCommand c.toUnderlying
  | .consoleWrite data => !(data.isEmpty || s.services.consoleTx.length + data.length ≤ P.consoleTxBufferSize)
  | .consoleProcess => !s.services.consoleTx.isEmpty
  | .dataStoreGet _ _ => s.services.pendingGets.length < maxPendingDatastore
  | .fileSystemRead _ _ => true
  | .processRunAsync cmd args valid =>
    !(valid && maxPendingProcessPolls ≤ s.services.pendingRunAsync) && (processCommandLine cmd args).isSome
  | .processPoll _ valid => !(valid && maxPendingProcessPolls ≤ s.services.pendingPolls.length)
  | _ => false

/-- The three ways out of the quarantine: a LINK_SYNC authenticates in a state a handshake can start from, an
application frame reaches an MCU without a secret, the sketch sends while `_tx_enabled` is set. -/
inductive Escapes (s : Mcu) : McuEvent → Prop where
  | sync {hal : Hal} {env : RpcEnvelope} {m : LinkSync} (hm : linkSyncOf P s env = some m)
      (hauth : s.sharedSecret = [] ∨ acceptsTag P s.sharedSecret m = true)
      (hfsm : s.fsm = .unsynchronized ∨ s.fsm = .handshake) : Escapes s (.recv hal (some env))
  | app {hal : Hal} {env : RpcEnvelope} (hsec : s.sharedSecret = [])
      (henv : isSystemCommand env.rawCommand = false) : Escapes s (.recv hal (some env))
  | sketch {ev : McuEvent} (hen : s.txEnabled = true) (hev : sendsApplication P s ev = true) : Escapes s ev

/-- `FailSecure`, with nothing but system frames in the reliable queue. -/
structure Contained (s : Mcu) : Prop extends FailSecure s where
  queue : ∀ g ∈ s.pendingTxQueue, isSystemCommand g.commandId = true

namespace Contained
variable {P} {s t : Mcu}

/-! ### The transmit side -/

theorem congr (hs : Contained s) (hfsm : t.fsm = s.fsm) (hwire : t.wire = s.wire) (hhandled : t.handled = s.handled)
    (hqueue : t.pendingTxQueue = s.pendingTxQueue) : Contained t := by
  refine ⟨⟨?_, ?_, ?_⟩, ?_⟩
  · rw [isSynchronized, hfsm]
    exact hs.unsynchronized
  · rw [hwire]
    exact hs.wire
  · rw [hhandled]
    exact hs.handled
  · rw [hqueue]
    exact hs.queue

theorem act (hs : Contained s) (a : Act) : Contained (s.act a) := hs.congr rfl rfl rfl rfl

theorem startTimer (hs : Contained s) (i : TimerId) : Contained (s.startTimer i) := hs.congr rfl rfl rfl rfl

theorem stopTimer (hs : Contained s) (i : TimerId) : Contained (s.stopTimer i) := hs.congr rfl rfl rfl rfl

theorem services (hs : Contained s) (v : Services) : Contained { s with services := v } := hs.congr rfl rfl rfl rfl

theorem doEncrypt (hs : Contained s) (cmd : UInt16) : s.doEncrypt cmd = false := by
  simp [Mcu.doEncrypt, hs.unsynchronized]

theorem receive (hs : Contained s) {ev : FsmEvent} (hev : ev ≠ .handshakeComplete) : Contained (s.receive ev) := by
  refine ⟨⟨?_, hs.wire, hs.handled⟩, hs.queue⟩
  rw [Bool.eq_false_iff]
  intro h
  exact absurd (StateId.isSynchronized_onEvent hev h) (by rw [show s.fsm.isSynchronized = false from hs.unsynchronized]; decide)

theorem clearPendingTxQueue (hs : Contained s) : Contained s.clearPendingTxQueue :=
  ⟨⟨hs.unsynchronized, hs.wire, hs.handled⟩, nofun⟩

theorem serializeAndSend (hs : Contained s) {f : Sent} (hf : isSystemCommand f.env.rawCommand = true) :
    Contained (s.serializeAndSend P f) := by
  refine ⟨⟨hs.unsynchronized, ?_, hs.handled⟩, hs.queue⟩
  intro g hg
  simp only [Mcu.serializeAndSend] at hg
  split at hg
  · rcases List.mem_append.1 hg with hg | hg
    · exact hs.wire g hg
    · rw [List.mem_singleton.1 hg]
      exact hf
  · exact hs.wire g hg

theorem transmit (hs : Contained s) {cmd : UInt16} (hcmd : isSystemCommand cmd = true) (seq : UInt16) (p : Bytes)
    (ticket : Option Nat) : Contained (s.transmit P cmd seq p ticket) := by
  unfold Mcu.transmit
  rw [hs.doEncrypt]
  refine hs.serializeAndSend ?_
  rw [rawEnvelope_rawCommand]
  exact hcmd

theorem front (hs : Contained s) {f : PendingTxFrame} {rest : List PendingTxFrame} (hq : s.pendingTxQueue = f :: rest) :
    isSystemCommand f.commandId = true :=
  hs.queue f (by rw [hq]; exact List.mem_cons_self)

theorem retransmitLastFrame (hs : Contained s) : Contained (s.retransmitLastFrame P) := by
  unfold Mcu.retransmitLastFrame
  split
  · exact hs
  case h_2 f rest hq => exact (hs.transmit (hs.front hq) _ _ _).startTimer _

theorem flushPendingTxQueue (hs : Contained s) : Contained (s.flushPendingTxQueue P) := by
  unfold Mcu.flushPendingTxQueue
  split
  · exact hs
  case h_2 f rest hq =>
    split
    · exact hs
    · have hflush : Contained { s with lastCommandId := f.commandId, retryCount := 0 } := hs.congr rfl rfl rfl rfl
      exact ((hflush.receive (by decide)).transmit (hs.front hq) _ _ _).startTimer _

theorem enqueueWith (hs : Contained s) {cmd : UInt16} (hcmd : isSystemCommand cmd = true) (seq : UInt16)
    (data : Bytes) : Contained (s.enqueueWith P cmd seq data).1 := by
  unfold Mcu.enqueueWith
  split
  · exact hs
  split
  · exact hs
  case h_2 buf _ =>
    dsimp only [enqueue]
    have hpush : Contained { s with
        txPayloadPool := buf :: s.txPayloadPool
        pendingTxQueue := s.pendingTxQueue ++ [⟨cmd, seq, buf, data, s.accepted.length⟩]
        accepted := s.accepted ++ [(cmd, seq, data)] } := by
      refine ⟨⟨hs.unsynchronized, hs.wire, hs.handled⟩, ?_⟩
      intro g hg
      rcases List.mem_append.1 hg with hg | hg
      · exact hs.queue g hg
      · rw [List.mem_singleton.1 hg]
        exact hcmd
    split
    · exact hpush.flushPendingTxQueue
    · exact hpush

/-- `sendFrame` with a system command, or while transmission is off. -/
theorem sendFrame (hs : Contained s) {cmd : UInt16} (hcmd : s.txEnabled = true → isSystemCommand cmd = true)
    (seq : UInt16) (p : Bytes) : Contained (s.sendFrame P cmd seq p).1 := by
  unfold Mcu.sendFrame
  split
  · exact hs
  case isFalse hgate =>
    have hsys : isSystemCommand cmd = true := by
      cases hen : s.txEnabled with
      | true => exact hcmd hen
      | false => simpa [hen] using hgate
    split
    · exact hs.enqueueWith hsys _ _
    · exact hs.transmit hsys _ _ _

theorem sendSinglePass (hs : Contained s) {cmd : UInt16} (hcmd : s.txEnabled = true → isSystemCommand cmd = true)
    (seq : UInt16) (packet : PayloadType) : Contained (s.sendSinglePass P cmd seq packet).1 := by
  unfold Mcu.sendSinglePass sendFrameRaw
  split
  · exact hs
  case isFalse hgate =>
    refine hs.serializeAndSend ?_
    show isSystemCommand cmd.toUInt32.toUInt16 = true
    rw [toUInt16_toUInt32]
    cases hen : s.txEnabled with
    | true => exact hcmd hen
    | false => simpa [hen] using hgate

theorem sendStatus (hs : Contained s) (st : Status) (seq : UInt16) (packet : PayloadType) :
    Contained (s.sendStatus P st seq packet).1 :=
  hs.sendSinglePass (fun _ => isSystemCommand_status st) _ _

theorem processAck (hs : Contained s) (cmd seq : UInt16) : Contained (s.processAck P cmd seq) := hs.sendStatus _ _ _

theorem emitStatus (hs : Contained s) (st : Status) (message : Option Bytes) :
    Contained (s.emitStatus P st message) := by
  unfold Mcu.emitStatus
  cases message with
  | none =>
    have hsend := hs.sendFrame (P := P) (fun _ => isSystemCommand_status st) 0 []
    rw [sendFrame_system P s (isSystemCommand_status st) (requiresAck_status st)] at hsend ⊢
    exact hsend
  | some text =>
    dsimp only
    rw [sendStatus_true, if_pos rfl]
    exact hs.sendStatus _ _ _

/-- `send` with a system command, or while transmission is off. -/
theorem send (hs : Contained s) {c : Command} (hc : s.txEnabled = true → isSystemCommand c.toUnderlying = true)
    (seq : UInt16) (packet : PayloadType) : Contained (s.send P c seq packet).1 := by
  have hpass := hs.sendSinglePass (P := P) hc seq packet
  unfold Mcu.send
  rw [hs.doEncrypt, if_neg (by decide)]
  unfold sendUnqueued
  dsimp only
  split
  · exact hpass.congr rfl rfl rfl rfl
  · exact hpass

theorem enterSafeState (hs : Contained s) : Contained s.enterSafeState := by
  have hoff : Contained { s.act .forceSafeState with txEnabled := false } := hs.congr rfl rfl rfl rfl
  have hreset : Contained ({ s.act .forceSafeState with txEnabled := false }.clearPendingTxQueue.receive .reset) :=
    hoff.clearPendingTxQueue.receive (by decide)
  exact (hreset.services _).act _

theorem handle (hs : Contained s) {ctx : CommandContext} (hctx : isSystemCommand ctx.rawCommand = true) :
    Contained (s.handle ctx) := by
  refine ⟨⟨hs.unsynchronized, hs.wire, ?_⟩, hs.queue⟩
  intro h hh
  rcases List.mem_append.1 hh with hh | hh
  · exact hs.handled h hh
  · rw [List.mem_singleton.1 hh]
    exact hctx

/-! ### Received frames -/

theorem preDispatch (hs : Contained s) (ctx : CommandContext) (needsAck retransmitOnDup : Bool) :
    Contained (s.preDispatch P ctx needsAck retransmitOnDup).1 := by
  have hack : Contained (if needsAck then s.processAck P ctx.rawCommand ctx.sequenceId else s) := by
    split
    · exact hs.processAck _ _
    · exact hs
  unfold Mcu.preDispatch
  dsimp only
  split
  · dsimp only
    split
    · exact hack.retransmitLastFrame
    · exact hack
  · exact hack

theorem dispatchCmd (hs : Contained s) {M : Type} (d : PbMessage M) (handler : CommandContext → M → Mcu → Mcu)
    {ctx : CommandContext} (hctx : isSystemCommand ctx.rawCommand = true) (needsAck retransmitOnDup : Bool)
    (hh : ∀ m t, d.read P ctx.envelope.payloadType = some m → Contained t → t.fsm = s.fsm →
      t.sharedSecret = s.sharedSecret → ctx.isDuplicate = false → Contained (handler ctx m t)) :
    Contained (s.dispatchCmd P d handler ctx needsAck retransmitOnDup) := by
  have hpre := hs.preDispatch (P := P) ctx needsAck retransmitOnDup
  have hcases := preDispatch_cases P s ctx needsAck retransmitOnDup
  unfold Mcu.dispatchCmd
  generalize s.preDispatch P ctx needsAck retransmitOnDup = r at hpre hcases
  obtain ⟨t, b⟩ := r
  cases b with
  | false => exact hpre
  | true =>
    obtain ⟨-, h, -⟩ | ⟨hd, -, hq, -⟩ := hcases
    · cases h
    dsimp only
    split
    case h_1 m hm => exact hh m _ hm (hpre.handle hctx) hq.fsm hq.sharedSecret hd
    · exact hpre.emitStatus _ _

theorem dispatchNoPayload (hs : Contained s) (handler : CommandContext → Mcu → Mcu) {ctx : CommandContext}
    (hctx : isSystemCommand ctx.rawCommand = true) (needsAck retransmitOnDup : Bool)
    (hh : ∀ t, Contained t → Contained (handler ctx t)) :
    Contained (s.dispatchNoPayload P handler ctx needsAck retransmitOnDup) := by
  have hpre := hs.preDispatch (P := P) ctx needsAck retransmitOnDup
  unfold Mcu.dispatchNoPayload
  generalize s.preDispatch P ctx needsAck retransmitOnDup = r at hpre
  obtain ⟨t, b⟩ := r
  cases b with
  | false => exact hpre
  | true => exact hh _ (hpre.handle hctx)

theorem handleAck (hs : Contained s) (cmd : UInt16) : Contained (s.handleAck P cmd) := by
  unfold Mcu.handleAck
  split
  · exact hs
  · exact ((hs.stopTimer _).clearPendingTxQueue.receive (by decide)).flushPendingTxQueue

/-- An answered handshake that synchronises nothing: the FSM is in `STARTUP` or in `FAULT`. -/
theorem completeHandshake (hs : Contained s) (hfsm : ¬ (s.fsm = .unsynchronized ∨ s.fsm = .handshake))
    (ctx : CommandContext) (resp : LinkSync) : Contained (s.completeHandshake P ctx resp) := by
  have hstuck : ((s.fsm.onEvent .handshakeStart).onEvent .handshakeComplete).isSynchronized = false := by
    rw [Bool.eq_false_iff, ne_eq, StateId.isSynchronized_handshake]
    rintro (h | h | h)
    · exact hfsm (.inl h)
    · exact hfsm (.inr h)
    · rw [show s.fsm.isSynchronized = false from hs.unsynchronized] at h
      cases h
  have hdone : Contained ((s.receive .handshakeStart).receive .handshakeComplete) :=
    ⟨⟨hstuck, hs.wire, hs.handled⟩, hs.queue⟩
  exact (hdone.stopTimer _).send (fun _ => by decide) _ _

theorem handleLinkSync (hs : Contained s) (ctx : CommandContext) (m : LinkSync)
    (hesc : (s.sharedSecret = [] ∨ acceptsTag P s.sharedSecret m = true) →
      ¬ (s.fsm = .unsynchronized ∨ s.fsm = .handshake)) : Contained (s.handleLinkSync P ctx m) := by
  unfold Mcu.handleLinkSync
  dsimp only
  split
  case isTrue hsec => exact hs.completeHandshake (hesc (.inl (List.isEmpty_iff.1 hsec))) _ _
  · split
    case isTrue hok =>
      have hinstall : Contained (s.installSession P (linkSyncNonce m)) := hs.congr rfl rfl rfl rfl
      exact hinstall.completeHandshake (hesc (.inr hok)) _ _
    · exact (hs.receive (by decide)).emitStatus _ _

theorem handleLinkReset (hs : Contained s) (ctx : CommandContext) : Contained (s.handleLinkReset P ctx) := by
  have hconfig : Contained (s.applyResetConfig P ctx) := by
    unfold applyResetConfig
    split
    · exact hs.congr rfl rfl rfl rfl
    · exact hs
  unfold Mcu.handleLinkReset
  have hreset : Contained ((s.applyResetConfig P ctx).receive .reset) := hconfig.receive (by decide)
  have htimer : Contained (((s.applyResetConfig P ctx).receive .reset).restartHandshakeTimer) :=
    hreset.congr rfl rfl rfl rfl
  exact htimer.sendFrame (fun _ => by decide) _ _

theorem onUnknownCommand (hs : Contained s) {ctx : CommandContext} (hctx : isSystemCommand ctx.rawCommand = true) :
    Contained (s.onUnknownCommand P ctx) := by
  unfold Mcu.onUnknownCommand
  split
  · exact (hs.handle hctx).act _
  · exact hs.emitStatus _ _

/-- The table entries of the system commands. -/
theorem kDispatchTable (hs : Contained s) {cmd : UInt16} {h : Handler} (hmem : (cmd, h) ∈ kDispatchTable P)
    (hsys : isSystemCommand cmd = true) (hal : Hal) {ctx : CommandContext} (hctx : ctx.rawCommand = cmd)
    (hsync : ∀ m, cmd = Command.linkSync.toUnderlying → ctx.isDuplicate = false →
      PbMessage.linkSync.read P ctx.envelope.payloadType = some m →
      (s.sharedSecret = [] ∨ acceptsTag P s.sharedSecret m = true) →
      ¬ (s.fsm = .unsynchronized ∨ s.fsm = .handshake)) : Contained (h hal ctx s) := by
  have hctx' : isSystemCommand ctx.rawCommand = true := hctx ▸ hsys
  simp only [Mcu.kDispatchTable, List.mem_cons, Prod.mk.injEq, List.not_mem_nil, or_false] at hmem
  rcases hmem with ⟨rfl, rfl⟩ | ⟨rfl, rfl⟩ | ⟨rfl, rfl⟩ | ⟨rfl, rfl⟩ | ⟨rfl, rfl⟩ | ⟨rfl, rfl⟩ | ⟨rfl, rfl⟩ |
    ⟨rfl, rfl⟩ | ⟨rfl, rfl⟩ | ⟨rfl, rfl⟩ | ⟨rfl, -⟩ | ⟨rfl, -⟩ | ⟨rfl, -⟩ | ⟨rfl, -⟩ | ⟨rfl, -⟩ | ⟨rfl, -⟩ |
    ⟨rfl, -⟩ | ⟨rfl, -⟩ | ⟨rfl, -⟩ | ⟨rfl, -⟩ | ⟨rfl, -⟩ | ⟨rfl, -⟩ | ⟨rfl, -⟩ | ⟨rfl, -⟩ | ⟨rfl, -⟩ | ⟨rfl, -⟩ |
    ⟨rfl, -⟩ | ⟨rfl, -⟩ | ⟨rfl, -⟩ | ⟨rfl, -⟩ | ⟨rfl, -⟩
  · exact hs.dispatchCmd _ _ hctx' _ _ fun m t _ ht _ _ _ => ht.handleAck _
  · exact hs.dispatchNoPayload _ hctx' _ _ fun t ht => ht.send (fun _ => by decide) _ _
  · exact hs.dispatchNoPayload _ hctx' _ _ fun t ht => ht.send (fun _ => by decide) _ _
  · refine hs.dispatchCmd _ _ hctx' _ _ fun m t hm ht hfsm hsec hd => ht.handleLinkSync _ _ ?_
    rw [hfsm, hsec]
    exact hsync m rfl hd hm
  · exact hs.dispatchNoPayload _ hctx' _ _ fun t ht => ht.handleLinkReset _
  · exact hs.dispatchNoPayload _ hctx' _ _ fun t ht => ht.send (fun _ => by decide) _ _
  · refine hs.dispatchCmd _ _ hctx' _ _ fun m t _ ht _ _ _ => ?_
    unfold handleSetBaudrate
    split
    · exact ht
    · exact ht.congr rfl rfl rfl rfl
  · refine hs.dispatchCmd _ _ hctx' _ _ fun m t _ ht _ _ _ => ?_
    unfold handleEnterBootloader
    split
    · exact ht.startTimer _
    · exact ht
  · exact hs.dispatchNoPayload _ hctx' _ _ fun t ht => ht.congr rfl rfl rfl rfl
  · exact hs.dispatchNoPayload _ hctx' _ _ fun t ht => ht.congr rfl rfl rfl rfl
  all_goals exact absurd hsys (by decide)

theorem dispatchContext (hs : Contained s) (hal : Hal) {ctx : CommandContext}
    (hsys : isSystemCommand ctx.rawCommand = true)
    (hsync : ∀ m, ctx.rawCommand = Command.linkSync.toUnderlying → ctx.isDuplicate = false →
      PbMessage.linkSync.read P ctx.envelope.payloadType = some m →
      (s.sharedSecret = [] ∨ acceptsTag P s.sharedSecret m = true) →
      ¬ (s.fsm = .unsynchronized ∨ s.fsm = .handshake)) : Contained (s.dispatchContext P hal ctx) := by
  unfold Mcu.dispatchContext
  split
  · exact hs.sendFrame (fun _ => isSystemCommand_status _) _ _
  split
  · exact hs.processAck _ _
  split
  · exact hs.enterSafeState
  split
  case h_1 h hfind => exact hs.kDispatchTable (findHandler_mem hfind) hsys hal rfl hsync
  · exact hs.onUnknownCommand hsys

/-- An application frame is refused outside a session when there is a secret. -/
theorem dispatchContext_refused (hs : Contained s) (hal : Hal) {ctx : CommandContext} (hsec : s.sharedSecret ≠ [])
    (hctx : isSystemCommand ctx.rawCommand = false) : Contained (s.dispatchContext P hal ctx) := by
  unfold Mcu.dispatchContext
  rw [if_pos (by simp [isSecurityCheckPassed, hsec, hctx, hs.unsynchronized])]
  exact hs.sendFrame (fun _ => isSystemCommand_status _) _ _

theorem recv (hs : Contained s) (hal : Hal) (res : Option RpcEnvelope) (hev : ¬ Escapes P s (.recv hal res)) :
    Contained (step P (.recv hal res) s) := by
  show Contained (s.handleReceivedFrame P hal res)
  unfold handleReceivedFrame
  cases res with
  | none => exact hs.emitStatus _ _
  | some env =>
    dsimp only
    rw [hs.doEncrypt, if_neg (by decide)]
    unfold dispatchCommand
    have hpush : Contained
        (if (s.commandContext env).isDuplicate then s else s.pushHistory (s.commandContext env).sequenceId) ∧
        (if (s.commandContext env).isDuplicate then s else
          s.pushHistory (s.commandContext env).sequenceId).sharedSecret = s.sharedSecret ∧
        (if (s.commandContext env).isDuplicate then s else
          s.pushHistory (s.commandContext env).sequenceId).fsm = s.fsm := by
      split
      · exact ⟨hs, rfl, rfl⟩
      · exact ⟨hs.congr rfl rfl rfl rfl, rfl, rfl⟩
    obtain ⟨ht, hsec, hfsm⟩ := hpush
    dsimp only
    cases hsys : isSystemCommand env.rawCommand with
    | true =>
      refine ht.dispatchContext hal hsys fun m hcmd hd hm hauth hstart => hev ?_
      rw [hsec] at hauth
      rw [hfsm] at hstart
      exact .sync (by rw [linkSyncOf, if_pos ⟨hcmd, hd⟩]; exact hm) hauth hstart
    | false =>
      refine ht.dispatchContext_refused hal ?_ hsys
      rw [hsec]
      exact fun hnil => hev (.app hnil hsys)

/-! ### The sketch's calls -/

theorem consoleProcess (hs : Contained s) (hev : s.txEnabled = true → s.services.consoleTx = []) :
    Contained (s.consoleProcess P) := by
  unfold Mcu.consoleProcess
  split
  · exact hs
  case isFalse hne =>
    have hmute : s.txEnabled = true → isSystemCommand Command.consoleWrite.toUnderlying = true := by
      intro hen
      rw [hev hen] at hne
      exact absurd rfl hne
    have hsend := hs.send (P := P) hmute 0 (.consoleWrite (s.services.consoleTx.take 64))
    dsimp only
    split
    · exact hsend.services _
    · exact hsend

theorem consoleTxInsert (hs : Contained s) (data : Bytes) : Contained (s.consoleTxInsert data) := hs.services _

theorem consoleProcess_muted (hs : Contained s) (hen : s.txEnabled = false) : s.consoleProcess P = s := by
  unfold Mcu.consoleProcess
  split
  · rfl
  · have hsend : ∀ seq packet, s.send P .consoleWrite seq packet = (s, false) := by
      intro seq packet
      unfold Mcu.send
      rw [hs.doEncrypt, if_neg (by decide)]
      have happ : isSystemCommand Command.consoleWrite.toUnderlying = false := by decide
      simp [sendUnqueued, Mcu.sendSinglePass, sendFrameRaw, hen, happ]
    rw [hsend]
    rfl

theorem consoleWrite (hs : Contained s) (data : Bytes)
    (hev : s.txEnabled = true →
      data.isEmpty ∨ s.services.consoleTx.length + data.length ≤ P.consoleTxBufferSize) :
    Contained (s.consoleWrite P data) := by
  unfold Mcu.consoleWrite
  split
  · exact hs
  case isFalse hne =>
    have hpos : 0 < data.length := List.length_pos_iff.2 (by simpa using hne)
    -- a write that overflows calls `process`, which a muted firmware refuses
    have hfull : s.consoleProcessIfFull P = s := by
      unfold consoleProcessIfFull
      split
      case isTrue hfull =>
        cases hen : s.txEnabled with
        | true =>
          have hroom := (hev hen).resolve_left hne
          unfold consoleTxFull at hfull
          rw [decide_eq_true_iff] at hfull
          omega
        | false => exact hs.consoleProcess_muted hen
      · rfl
    rw [hfull]
    dsimp only
    have hinsert := hs.consoleTxInsert (data.take (min data.length (P.consoleTxBufferSize - s.services.consoleTx.length)))
    split
    case isTrue hover =>
      rw [Bool.and_eq_true, decide_eq_true_iff] at hover
      cases hen : s.txEnabled with
      | true =>
        have hroom := (hev hen).resolve_left hne
        omega
      | false =>
        rw [hinsert.consoleProcess_muted hen]
        exact hinsert.consoleTxInsert _
    · exact hinsert

/-- The services' requests: one `send`, and a status or a pending handler after it. -/
theorem request (hs : Contained s) {c : Command} (hc : s.txEnabled = true → isSystemCommand c.toUnderlying = true)
    (packet : PayloadType) {fail : Mcu → Mcu} (hfail : ∀ t, Contained t → Contained (fail t)) (done : Mcu → Mcu)
    (hdone : ∀ t, Contained t → Contained (done t)) :
    Contained (if !(s.send P c 0 packet).2 then fail (s.send P c 0 packet).1 else done (s.send P c 0 packet).1) := by
  have hsend := hs.send (P := P) hc 0 packet
  split
  · exact hfail _ hsend
  · exact hdone _ hsend

theorem processFail (hs : Contained s) (f : ProcessFailure) (valid : Bool) : Contained (s.processFail P f valid) := by
  unfold Mcu.processFail
  dsimp only
  split
  · exact (hs.emitStatus _ _).act _
  · exact hs.emitStatus _ _

theorem dataStoreGet (hs : Contained s) (key : Bytes) (valid : Bool)
    (hev : s.txEnabled = true → sendsApplication P s (.dataStoreGet key valid) = false) :
    Contained (s.dataStoreGet P key valid) := by
  unfold Mcu.dataStoreGet
  split
  · exact hs.emitStatus _ _
  case isFalse hroom =>
    refine hs.request (fun hen => absurd (hev hen) ?_) _ (fun t ht => ht.emitStatus _ _) _ fun t ht => ht.services _
    simpa [sendsApplication] using hroom

theorem fileSystemRead (hs : Contained s) (path : Bytes) (valid : Bool) (hev : s.txEnabled = false) :
    Contained (s.fileSystemRead P path valid) := by
  unfold Mcu.fileSystemRead
  have hpend : Contained { s with services := { s.services with readHandler := valid } } := hs.services _
  refine hpend.request (fun hen => ?_) _ (fun t ht => ht.emitStatus _ _) id fun t ht => ht
  exact absurd (hev.symm.trans hen) (by decide)

theorem processRunAsync (hs : Contained s) (cmd : Bytes) (args : List Bytes) (valid : Bool)
    (hev : s.txEnabled = true → sendsApplication P s (.processRunAsync cmd args valid) = false) :
    Contained (s.processRunAsync P cmd args valid) := by
  unfold Mcu.processRunAsync
  split
  · exact hs.processFail _ _
  case isFalse hroom =>
    split
    · exact hs.processFail _ _
    case h_2 line hline =>
      refine hs.request (fun hen => absurd (hev hen) ?_) _ (fun t ht => ht.processFail _ _)
        (fun t => if valid then
          { t with services := { t.services with pendingRunAsync := t.services.pendingRunAsync + 1 } } else t)
        fun t ht => ?_
      · simpa [sendsApplication, hline] using hroom
      · split
        · exact ht.services _
        · exact ht

theorem processPoll (hs : Contained s) (pid : UInt32) (valid : Bool)
    (hev : s.txEnabled = true → sendsApplication P s (.processPoll pid valid) = false) :
    Contained (s.processPoll P pid valid) := by
  unfold Mcu.processPoll
  split
  · exact hs.emitStatus _ _
  case isFalse hroom =>
    refine hs.request (fun hen => absurd (hev hen) ?_) _ (fun t ht => ht.emitStatus _ _)
      (fun t => if valid then
        { t with services := { t.services with pendingPolls := t.services.pendingPolls ++ [pid] } } else t)
      fun t ht => ?_
    · simpa [sendsApplication] using hroom
    · split
      · exact ht.services _
      · exact ht

/-! ### One event -/

theorem step (hs : Contained s) {ev : McuEvent} (hev : ¬ Escapes P s ev) : Contained (step P ev s) := by
  have hmute : s.txEnabled = true → sendsApplication P s ev = false := by
    intro hen
    rw [Bool.eq_false_iff]
    exact fun hsend => hev (.sketch hen hsend)
  have hidle : s.isAwaitingAck = false := by
    have hsync := hs.unsynchronized
    unfold isSynchronized StateId.isSynchronized at hsync
    unfold isAwaitingAck StateId.isAwaitingAck
    simp only [decide_eq_false_iff_not, not_or] at hsync ⊢
    exact hsync.2
  cases ev with
  | recv hal res => exact hs.recv hal res hev
  | sendFrame cmd seq p => exact hs.sendFrame (fun hen => by simpa [sendsApplication] using hmute hen) seq p
  | send c seq packet => exact hs.send (fun hen => by simpa [sendsApplication] using hmute hen) seq packet
  | sendStatus st seq packet => exact hs.sendStatus st seq packet
  | emitStatus st message => exact hs.emitStatus st message
  | retransmitLastFrame => exact hs.retransmitLastFrame
  | enterSafeState => exact hs.enterSafeState
  | onAckTimeout =>
    show Contained (s.onAckTimeout P)
    unfold onAckTimeout
    rw [hidle, if_pos (by decide)]
    exact hs
  | onHandshakeTimeout =>
    show Contained s.onHandshakeTimeout
    unfold onHandshakeTimeout
    split
    · exact hs
    · have hfault : Contained (s.receive .timeout) := hs.receive (by decide)
      exact hfault.congr rfl rfl rfl rfl
  | onBaudrateChange =>
    show Contained s.onBaudrateChange
    unfold onBaudrateChange
    split
    · dsimp only
      split
      · exact hs.congr rfl rfl rfl rfl
      · exact hs.congr rfl rfl rfl rfl
    · exact hs
  | serialTask avail =>
    show Contained (s.serialTask P avail)
    unfold serialTask
    split
    · exact (hs.sendFrame (fun _ => by decide) _ _).congr rfl rfl rfl rfl
    split
    · exact (hs.sendFrame (fun _ => by decide) _ _).congr rfl rfl rfl rfl
    · exact hs
  | consoleWrite data =>
    refine hs.consoleWrite data fun hen => ?_
    have h := hmute hen
    rw [sendsApplication, Bool.not_eq_false', Bool.or_eq_true, decide_eq_true_iff] at h
    exact h
  | consoleProcess => exact hs.consoleProcess fun hen => by simpa [sendsApplication] using hmute hen
  | dataStoreGet key valid => exact hs.dataStoreGet key valid hmute
  | fileSystemRead path valid =>
    refine hs.fileSystemRead path valid (Bool.eq_false_iff.2 fun hen => ?_)
    exact absurd (hmute hen) (by simp [sendsApplication])
  | processRunAsync cmd args valid => exact hs.processRunAsync cmd args valid hmute
  | processPoll pid valid => exact hs.processPoll pid valid hmute
  | mailboxProcess =>
    show Contained s.mailboxProcess
    unfold mailboxProcess
    split
    · exact hs
    split
    · exact hs.congr rfl rfl rfl rfl
    · exact hs
  | onRxDedupe | onBootloaderDelay | consoleBegin | register => exact hs.congr rfl rfl rfl rfl

end Contained

/-! ### Whole runs -/

theorem boot_contained (secret : Bytes) (postOk : Bool) : Contained (boot secret postOk) := by
  cases postOk with
  | true => exact ⟨⟨rfl, nofun, nofun⟩, nofun⟩
  | false => exact ⟨⟨rfl, nofun, nofun⟩, nofun⟩

/-- After a failed self-test the firmware stays out of every session and puts and executes nothing but system
frames, in every run that takes none of the three ways out. -/
theorem post_failure_contained (P : Platform) (secret : Bytes) (evs : List McuEvent)
    (h : Along (step P) (fun s ev => ¬ Escapes P s ev) (boot secret false) evs) :
    ∀ pre, pre <+: evs → FailSecure (runFrom P secret false pre) := by
  rintro pre ⟨rest, rfl⟩
  have hpre := ((along_append _ _ _).1 h).1
  exact (hpre.invariant (I := Contained) (fun s ev hs hev => hs.step hev) (boot_contained secret false)).toFailSecure

/-- A LINK_SYNC whose tag is wrong, on an MCU with the secret `[7]`. -/
def forgedSync : McuEvent := .recv .sample (some (linkSyncFrame 1 ⟨sampleNonce, List.replicate 16 0⟩))

theorem post_failure_contained_sample : FailSecure (runFrom .sample [7] false [forgedSync, .serialTask 60]) := by
  refine post_failure_contained .sample [7] [forgedSync, .serialTask 60] ⟨?_, ?_, trivial⟩ _ (List.prefix_refl _)
  · rintro (⟨hm, hauth, -⟩ | ⟨hsec, -⟩ | ⟨-, hev⟩)
    · cases linkSyncOf_read _ hm
      exact absurd hauth (by decide +kernel)
    · exact absurd hsec (by decide)
    · cases hev
  · rintro (_ | _ | ⟨-, hev⟩)
    cases hev

/-- A LINK_SYNC of the daemon synchronises an MCU whose self-test failed. -/
theorem post_failure_synchronizes :
    ¬ ∀ (P : Platform) (secret : Bytes) (evs : List McuEvent),
      ∀ pre, pre <+: evs → FailSecure (runFrom P secret false pre) := by
  intro h
  have hsecure := h .sample [7]
    [.recv .sample (some (linkSyncFrame 1 ⟨sampleNonce, Platform.sample.handshakeTag [7] sampleNonce⟩))] _
    (List.prefix_refl _)
  exact absurd hsecure.unsynchronized (by decide +kernel)

end Mcu
end McuBridge
