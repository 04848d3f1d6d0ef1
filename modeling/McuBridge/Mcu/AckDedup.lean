import McuBridge.Mcu.SyncAuth

/-! # ACKs and the duplicate check

`_dispatchCommand` tests for duplicates before it looks at the command, on the sequence id alone. An ACK
that arrives with the sequence id held in `_rx_history` is taken for a duplicate and only acknowledged:
`_handleAck` does not run and the FSM stays in `AWAITING_ACK`. -/

namespace McuBridge
namespace Mcu
open Run
variable (P : Platform) (s : Mcu)

/-- `env` is a well-formed STATUS_ACK for the command in flight. -/
def AckFor (env : RpcEnvelope) : Prop :=
  env.rawCommand = Status.ack.toUnderlying ∧
    ∃ m, PbMessage.ackPacket.read P env.payloadType = some m ∧ m.commandId.toUInt16 = s.lastCommandId

/-- A system command goes to dispatch as it is. -/
theorem handleReceivedFrame_system (hal : Hal) {env : RpcEnvelope} (h : isSystemCommand env.rawCommand = true) :
    s.handleReceivedFrame P hal (some env) = s.dispatchCommand P hal env := by
  unfold handleReceivedFrame
  dsimp only
  rw [doEncrypt_system s h, if_neg (by decide)]

theorem isDuplicate_eq_false {env : RpcEnvelope} :
    s.isDuplicate env = false ↔ ∀ h ∈ s.rxHistory, h.toUInt32 ≠ env.sequenceId := by
  simp [isDuplicate]

/-- Status ACK reaches its table entry in every link state. -/
theorem dispatchContext_ack (hal : Hal) {ctx : CommandContext} (h : ctx.rawCommand = Status.ack.toUnderlying) :
    s.dispatchContext P hal ctx =
      s.dispatchCmd P .ackPacket (fun _ m => handleAck P m.commandId.toUInt16) ctx true false := by
  have hsec : s.isSecurityCheckPassed ctx.rawCommand = true := by
    unfold isSecurityCheckPassed
    rw [h, isSystemCommand_status]
    simp
  unfold dispatchContext
  rw [hsec, h, if_neg (by decide), if_neg (by decide), if_neg (by decide), findHandler_ack]

theorem dispatchCmd_duplicate {M : Type} (d : PbMessage M) (handler : CommandContext → M → Mcu → Mcu)
    {ctx : CommandContext} (needsAck : Bool) (h : ctx.isDuplicate = true) :
    Quiet s (s.dispatchCmd P d handler ctx needsAck false) := by
  unfold dispatchCmd preDispatch
  cases needsAck
  · simpa [h] using Quiet.refl s
  · simpa [h] using processAck_quiet P s _ _

theorem handleAck_fsm {cmd : UInt16} (ha : s.fsm = .awaitingAck) (hc : cmd = s.lastCommandId) :
    (s.handleAck P cmd).fsm = .synchronized := by
  rw [handleAck_eq P s cmd (by unfold isAwaitingAck; rw [ha]; rfl) hc]
  show s.fsm.onEvent .ackReceived = _
  rw [ha]
  rfl

theorem dispatchCmd_fresh {M : Type} {d : PbMessage M} (handler : CommandContext → M → Mcu → Mcu)
    {ctx : CommandContext} {m : M} (hd : ctx.isDuplicate = false)
    (hm : d.read P ctx.envelope.payloadType = some m) :
    s.dispatchCmd P d handler ctx true false =
      handler ctx m ((s.processAck P ctx.rawCommand ctx.sequenceId).handle ctx) := by
  simp [dispatchCmd, preDispatch, hd, hm]

theorem dispatchNoPayload_fresh (handler : CommandContext → Mcu → Mcu) {ctx : CommandContext}
    (hd : ctx.isDuplicate = false) :
    s.dispatchNoPayload P handler ctx true false =
      handler ctx ((s.processAck P ctx.rawCommand ctx.sequenceId).handle ctx) := by
  simp [dispatchNoPayload, preDispatch, hd]

theorem dispatchCommand_duplicate (hal : Hal) {env : RpcEnvelope} (h : s.isDuplicate env = true) :
    s.dispatchCommand P hal env = s.dispatchContext P hal (s.commandContext env) := by
  unfold dispatchCommand
  dsimp only
  rw [if_pos (show (s.commandContext env).isDuplicate = true from h)]

theorem dispatchCommand_fresh (hal : Hal) {env : RpcEnvelope} (h : s.isDuplicate env = false) :
    s.dispatchCommand P hal env =
      (s.pushHistory env.sequenceId.toUInt16).dispatchContext P hal (s.commandContext env) := by
  unfold dispatchCommand
  dsimp only
  rw [if_neg (show ¬ (s.commandContext env).isDuplicate = true from Bool.eq_false_iff.1 h)]
  rfl

/-! ### Received frames -/

/-- A frame that the history knows runs no handler if its dispatch runs none, decrypted or not. -/
theorem recv_handled_of_duplicate (hal : Hal) {env : RpcEnvelope} (hd : s.isDuplicate env = true)
    (hclear : (s.dispatchContext P hal (s.commandContext env)).handled = s.handled)
    (hplain : ∀ c p, ((s.acceptCounter c).dispatchContext P hal
      ((s.acceptCounter c).commandContext { env with payloadType := p })).handled = s.handled) :
    (s.handleReceivedFrame P hal (some env)).handled = s.handled := by
  rcases handleReceivedFrame_cases P s hal env with h | ⟨c, plain, -, -, h⟩ | ⟨-, h⟩
  · exact h.handled
  · have hd' : (s.acceptCounter c).isDuplicate { env with payloadType := P.encryptedStore env.payloadType plain } = true :=
      hd
    rw [h, dispatchCommand_duplicate P _ hal hd']
    exact hplain c _
  · rw [h, dispatchCommand_duplicate P s hal hd]
    exact hclear

/-- The state in which a handler with ACK runs on a fresh frame. -/
def beforeHandler (env : RpcEnvelope) : Mcu :=
  ((s.pushHistory env.sequenceId.toUInt16).processAck P env.rawCommand env.sequenceId.toUInt16).handle
    (s.commandContext env)

/-- It is the state before, up to quiet fields, the history and the record of handlers. -/
theorem beforeHandler_quiet (env : RpcEnvelope) :
    Quiet ((s.pushHistory env.sequenceId.toUInt16).handle (s.commandContext env)) (beforeHandler P s env) := by
  have hq := processAck_quiet P (s.pushHistory env.sequenceId.toUInt16) env.rawCommand env.sequenceId.toUInt16
  exact { hq with handled := congrArg (· ++ _) hq.handled }

/-- A fresh well-formed ACK reaches `_handleAck`. -/
theorem recv_ack_fresh (hal : Hal) {env : RpcEnvelope} {m : AckPacket} (hcmd : env.rawCommand = Status.ack.toUnderlying)
    (hd : s.isDuplicate env = false) (hm : PbMessage.ackPacket.read P env.payloadType = some m) :
    step P (.recv hal (some env)) s = (beforeHandler P s env).handleAck P m.commandId.toUInt16 := by
  show s.handleReceivedFrame P hal (some env) = _
  rw [handleReceivedFrame_system P s hal (by rw [hcmd]; decide), dispatchCommand_fresh P s hal hd,
    dispatchContext_ack P _ hal hcmd]
  exact dispatchCmd_fresh P _ _ hd hm

/-- A matching ACK in a state that waits for it: the duplicate check decides. -/
theorem recv_ack_fsm (hal : Hal) {env : RpcEnvelope} (hfsm : s.fsm = .awaitingAck) (hack : AckFor P s env) :
    (step P (.recv hal (some env)) s).fsm = if s.isDuplicate env then .awaitingAck else .synchronized := by
  obtain ⟨hcmd, m, hm, hc⟩ := hack
  cases hd : s.isDuplicate env with
  | true =>
    show (s.handleReceivedFrame P hal (some env)).fsm = _
    rw [handleReceivedFrame_system P s hal (by rw [hcmd]; decide), dispatchCommand_duplicate P s hal hd,
      dispatchContext_ack P s hal hcmd]
    exact (dispatchCmd_duplicate P s _ _ _ hd).fsm.trans hfsm
  | false =>
    have hq := beforeHandler_quiet P s env
    rw [recv_ack_fresh P s hal hcmd hd hm]
    exact handleAck_fsm P _ (hq.fsm.trans hfsm) (hc.trans hq.lastCommandId.symm)

/-- In every reachable state that waits for an ACK, a well-formed ACK of the command in flight ends the
wait exactly when its sequence id is not in the receive history. -/
theorem ack_ends_wait_iff (P : Platform) (secret : Bytes) (postOk : Bool) (evs : List McuEvent) (hal : Hal)
    (env : RpcEnvelope) (hfsm : (runFrom P secret postOk evs).fsm = .awaitingAck)
    (hack : AckFor P (runFrom P secret postOk evs) env) :
    (step P (.recv hal (some env)) (runFrom P secret postOk evs)).fsm ≠ .awaitingAck ↔
      ∀ h ∈ (runFrom P secret postOk evs).rxHistory, h.toUInt32 ≠ env.sequenceId := by
  rw [recv_ack_fsm P _ hal hfsm hack, ← isDuplicate_eq_false]
  cases (runFrom P secret postOk evs).isDuplicate env <;> simp

/-- A STATUS_ACK frame as the daemon sends it: the sequence id and the command of the frame it
acknowledges. -/
def ackFrame (seq : UInt32) (cmd : UInt16) : RpcEnvelope :=
  ⟨protocolVersion, Status.ack.toUnderlying.toUInt32, seq, [], .ackPacket ⟨cmd.toUInt32⟩⟩

/-- A synchronised MCU that has sent one console frame; the services send with sequence id 0. -/
def oneConsoleFrame : List McuEvent :=
  [.recv .sample (some (linkSyncFrame 1 ⟨sampleNonce, Platform.sample.handshakeTag [7] sampleNonce⟩)),
    .send .consoleWrite 0 (.consoleWrite [65])]

theorem ack_ends_wait_iff_sample :
    (step .sample (.recv .sample (some (ackFrame 0 96))) (runFrom .sample [7] true oneConsoleFrame)).fsm ≠
      .awaitingAck := by
  have hhist : (runFrom .sample [7] true oneConsoleFrame).rxHistory = [1] := by decide +kernel
  refine (ack_ends_wait_iff .sample [7] true oneConsoleFrame .sample (ackFrame 0 96) (by decide +kernel)
    ⟨by decide, ⟨96⟩, rfl, by decide +kernel⟩).2 ?_
  rw [hhist]
  simp [ackFrame]

/-- Two frames of the sketch and an ACK for each, as the daemon echoes them: the second ACK is swallowed. -/
theorem second_ack_swallowed :
    ¬ ∀ (P : Platform) (secret : Bytes) (postOk : Bool) (evs : List McuEvent) (hal : Hal) (env : RpcEnvelope),
      (runFrom P secret postOk evs).fsm = .awaitingAck → AckFor P (runFrom P secret postOk evs) env →
      (step P (.recv hal (some env)) (runFrom P secret postOk evs)).fsm ≠ .awaitingAck := by
  intro h
  refine h .sample [7] true
    (oneConsoleFrame ++ [.recv .sample (some (ackFrame 0 96)), .send .consoleWrite 0 (.consoleWrite [66])])
    .sample (ackFrame 0 96) ?_ ⟨?_, ⟨96⟩, rfl, ?_⟩ ?_
  all_goals decide +kernel

end Mcu
end McuBridge
