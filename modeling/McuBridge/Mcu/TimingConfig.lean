import McuBridge.Daemon.Frame
import McuBridge.Mcu.DispatchSteps
import McuBridge.Mcu.Timers

/-! # The timing of the daemon on the firmware

`_synchronize_attempt` sends its `HandshakeConfig` as the typed member of the envelope, `_decodePayload` reads raw bytes
only: `_handleLinkReset` resets the link and restarts the watchdog with the times it had before. -/

namespace McuBridge
namespace Board
variable {T : Type}

/-- The times the firmware runs with, and the periods of its timers. -/
structure HasTiming (S : TimerService TimerId T) (m : HandshakeConfig) (b : Board T) : Prop where
  ackTimeout : b.mcu.ackTimeoutMs.toUInt32 = m.ackTimeoutMs
  retryLimit : b.mcu.retryLimit.toUInt32 = m.ackRetryLimit
  responseTimeout : b.mcu.responseTimeoutMs = m.responseTimeoutMs
  ackPeriod : S.period .ackTimeout b.service = some m.ackTimeoutMs
  handshakePeriod : S.period .handshakeTimeout b.service = some m.responseTimeoutMs

/-- The statuses that refuse a frame. -/
def refusals : List Status := [.error, .cmdUnknown, .malformed, .overflow, .crcMismatch, .timeout, .notImplemented]

/-- One of them was written. -/
def Refuses (before after : Board T) : Prop :=
  ∃ f ∈ after.mcu.wire.drop before.mcu.wire.length, ∃ st ∈ refusals, f.env.commandId = st.toUnderlying.toUInt32

instance (before after : Board T) : Decidable (Refuses before after) :=
  inferInstanceAs (Decidable (∃ f ∈ _, ∃ st ∈ _, _))

/-- The firmware has the times already, so that nothing needs to be applied: for a frame that is no duplicate, its
watchdog need only be registered. -/
structure TimedBefore (S : TimerService TimerId T) (m : HandshakeConfig) (env : RpcEnvelope) (b : Board T) : Prop where
  ackTimeout : b.mcu.ackTimeoutMs.toUInt32 = m.ackTimeoutMs
  retryLimit : b.mcu.retryLimit.toUInt32 = m.ackRetryLimit
  responseTimeout : b.mcu.responseTimeoutMs = m.responseTimeoutMs
  ackPeriod : S.period .ackTimeout b.service = some m.ackTimeoutMs
  watchdog : if b.mcu.isDuplicate env then S.period .handshakeTimeout b.service = some m.responseTimeoutMs
    else (S.period .handshakeTimeout b.service).isSome

/-! ### The frame on the firmware -/

variable {P : Platform}

/-- The steps in the handling of a LINK_RESET other than the restart of the watchdog. -/
structure Untimed (s t : Mcu) : Prop where
  ackTimeout : t.ackTimeoutMs = s.ackTimeoutMs
  retryLimit : t.retryLimit = s.retryLimit
  responseTimeout : t.responseTimeoutMs = s.responseTimeoutMs
  timerCalls : t.timerCalls = s.timerCalls
  wire : ∃ fs, t.wire = s.wire ++ fs ∧ ∀ f ∈ fs, f.env.commandId = Status.ack.toUnderlying.toUInt32 ∨
    f.env.commandId = Command.linkResetResp.toUnderlying.toUInt32

theorem Untimed.refl (s : Mcu) : Untimed s s := ⟨rfl, rfl, rfl, rfl, [], (List.append_nil _).symm, nofun⟩

theorem Untimed.trans {s t u : Mcu} (h : Untimed s t) (h' : Untimed t u) : Untimed s u := by
  obtain ⟨fs, hfs, hids⟩ := h.wire
  obtain ⟨fs', hfs', hids'⟩ := h'.wire
  refine ⟨h'.ackTimeout.trans h.ackTimeout, h'.retryLimit.trans h.retryLimit,
    h'.responseTimeout.trans h.responseTimeout, h'.timerCalls.trans h.timerCalls, fs ++ fs', ?_, fun f hf => ?_⟩
  · rw [hfs', hfs, List.append_assoc]
  · rw [List.mem_append] at hf
    exact hf.elim (hids f) (hids' f)

theorem Untimed.serializeAndSend (s : Mcu) {f : Sent} (hf : f.env.commandId = Status.ack.toUnderlying.toUInt32 ∨
    f.env.commandId = Command.linkResetResp.toUnderlying.toUInt32) : Untimed s (s.serializeAndSend P f) := by
  unfold Mcu.serializeAndSend
  split
  · exact ⟨rfl, rfl, rfl, rfl, [f], rfl, fun g hg => by rwa [List.mem_singleton.1 hg]⟩
  · exact .refl s

theorem Untimed.processAck (s : Mcu) (cmd seq : UInt16) : Untimed s (s.processAck P cmd seq) := by
  unfold Mcu.processAck Mcu.sendStatus Mcu.sendSinglePass Mcu.sendFrameRaw
  split
  · exact .refl s
  · exact .serializeAndSend s (.inl rfl)

/-- LINK_RESET_RESP is sent in the clear, also when transmission is off. -/
theorem Untimed.sendResetResp (s : Mcu) (seq : UInt16) :
    Untimed s (s.sendFrame P Command.linkResetResp.toUnderlying seq []).1 := by
  have hd : s.doEncrypt Command.linkResetResp.toUnderlying = false := by
    unfold Mcu.doEncrypt
    rw [show isSystemCommand Command.linkResetResp.toUnderlying = true by decide, Bool.not_true, Bool.and_false]
  unfold Mcu.sendFrame
  rw [show isSystemCommand Command.linkResetResp.toUnderlying = true by decide, Bool.not_true, Bool.and_false,
    if_neg (by simp), if_neg (by decide)]
  dsimp only
  unfold Mcu.transmit
  rw [hd, if_neg (by simp)]
  exact .serializeAndSend s (.inr rfl)

theorem Untimed.receive (s : Mcu) (ev : FsmEvent) : Untimed s (s.receive ev) :=
  ⟨rfl, rfl, rfl, rfl, [], (List.append_nil _).symm, nofun⟩

/-- The frame `build_frame` makes of a LINK_RESET with its timing. -/
def resetFrame (seq : UInt32) (nonce : Bytes) (m : HandshakeConfig) : RpcEnvelope :=
  ⟨protocolVersion, Command.linkReset.toUnderlying.toUInt32, seq, nonce, .handshakeConfig m⟩

theorem buildFrame_linkReset {seq : UInt32} {nonce : Bytes} {m : HandshakeConfig} {key : Option Bytes}
    {env : RpcEnvelope}
    (h : Daemon.buildFrame P Command.linkReset.toUnderlying seq (.message (.handshakeConfig m)) nonce key = some env) :
    ∃ n, env = resetFrame seq n m := by
  have hsys : isSystemCommand Command.linkReset.toUnderlying = true := by decide
  unfold Daemon.buildFrame at h
  cases key with
  | none =>
    cases h
    exact ⟨_, rfl⟩
  | some k =>
    dsimp only at h
    rw [hsys, Bool.not_true, Bool.and_false, if_neg (by simp)] at h
    cases h
    exact ⟨_, rfl⟩

/-- The frame is handled up to the restart of the watchdog, and from there on; a duplicate is only acknowledged. -/
theorem resetFrame_handled (hal : Hal) (s : Mcu) (seq : UInt32) (nonce : Bytes) (m : HandshakeConfig) :
    if s.isDuplicate (resetFrame seq nonce m) then Untimed s (s.handleReceivedFrame P hal (some (resetFrame seq nonce m)))
    else ∃ t, Untimed s t ∧
      Untimed t.restartHandshakeTimer (s.handleReceivedFrame P hal (some (resetFrame seq nonce m))) := by
  have hraw : (resetFrame seq nonce m).rawCommand = Command.linkReset.toUnderlying := rfl
  have hsys : isSystemCommand Command.linkReset.toUnderlying = true := by decide
  have hd : s.doEncrypt (resetFrame seq nonce m).rawCommand = false := by
    unfold Mcu.doEncrypt
    rw [hraw, hsys, Bool.not_true, Bool.and_false]
  have hdispatch : ∀ (ctx : CommandContext) (t : Mcu), ctx.rawCommand = Command.linkReset.toUnderlying →
      t.dispatchContext P hal ctx = t.dispatchNoPayload P (Mcu.handleLinkReset P) ctx true false := by
    intro ctx t hctx
    have hpass : t.isSecurityCheckPassed ctx.rawCommand = true := by
      unfold Mcu.isSecurityCheckPassed
      rw [hctx, hsys, Bool.or_true, Bool.true_or]
    unfold Mcu.dispatchContext
    rw [hpass, if_neg (by simp), hctx, if_neg (by decide), if_neg (by decide), Mcu.findHandler_linkReset]
  have hhandle : s.handleReceivedFrame P hal (some (resetFrame seq nonce m)) =
      (if s.isDuplicate (resetFrame seq nonce m) then s else s.pushHistory seq.toUInt16).dispatchNoPayload P
        (Mcu.handleLinkReset P) (s.commandContext (resetFrame seq nonce m)) true false := by
    unfold Mcu.handleReceivedFrame
    dsimp only
    rw [hd, if_neg (by simp)]
    exact hdispatch _ _ rfl
  rw [hhandle]
  unfold Mcu.dispatchNoPayload Mcu.preDispatch
  dsimp only
  cases hdup : s.isDuplicate (resetFrame seq nonce m) with
  | true =>
    rw [show (s.commandContext (resetFrame seq nonce m)).isDuplicate = true from hdup]
    exact Untimed.processAck s _ _
  | false =>
    rw [show (s.commandContext (resetFrame seq nonce m)).isDuplicate = false from hdup]
    have hack : Untimed (s.pushHistory seq.toUInt16) ((s.pushHistory seq.toUInt16).processAck P
        (s.commandContext (resetFrame seq nonce m)).rawCommand seq.toUInt16) := .processAck _ _ _
    have hpush : Untimed s (s.pushHistory seq.toUInt16) :=
      ⟨rfl, rfl, rfl, rfl, [], (List.append_nil _).symm, nofun⟩
    refine ⟨_, (hpush.trans hack).trans (Untimed.trans ?_ (.receive _ .reset)), .sendResetResp _ _⟩
    -- the typed member is not read
    exact ⟨rfl, rfl, rfl, rfl, [], (List.append_nil _).symm, nofun⟩

theorem not_refuses {b t : Board T} (h : ∃ fs, t.mcu.wire = b.mcu.wire ++ fs ∧
    ∀ f ∈ fs, f.env.commandId = Status.ack.toUnderlying.toUInt32 ∨
      f.env.commandId = Command.linkResetResp.toUnderlying.toUInt32) : ¬ Refuses b t := by
  rintro ⟨f, hf, st, hst, hid⟩
  obtain ⟨fs, hfs, hids⟩ := h
  rw [hfs, List.drop_left] at hf
  have hne : ∀ st ∈ refusals, st.toUnderlying.toUInt32 ≠ Status.ack.toUnderlying.toUInt32 ∧
      st.toUnderlying.toUInt32 ≠ Command.linkResetResp.toUnderlying.toUInt32 := by decide
  obtain hack | hresp := hids f hf
  · exact (hne st hst).1 (hid.symm.trans hack)
  · exact (hne st hst).2 (hid.symm.trans hresp)

/-- What a LINK_RESET does to the times: nothing, but the watchdog gets the response time-out that is in force. -/
structure Restarted (S : TimerService TimerId T) (env : RpcEnvelope) (b b' : Board T) : Prop where
  ackTimeout : b'.mcu.ackTimeoutMs = b.mcu.ackTimeoutMs
  retryLimit : b'.mcu.retryLimit = b.mcu.retryLimit
  responseTimeout : b'.mcu.responseTimeoutMs = b.mcu.responseTimeoutMs
  ackPeriod : S.period .ackTimeout b'.service = S.period .ackTimeout b.service
  handshakePeriod : S.period .handshakeTimeout b'.service =
    if b.mcu.isDuplicate env then S.period .handshakeTimeout b.service
    else (S.period .handshakeTimeout b.service).map fun _ => b.mcu.responseTimeoutMs
  accepts : ¬ Refuses b b'

theorem resetFrame_restarts {S : TimerService TimerId T} (hS : S.Lawful) (hal : Hal) (b : Board T) (seq : UInt32)
    (nonce : Bytes) (m : HandshakeConfig) : Restarted S (resetFrame seq nonce m) b
      (b.act S (Mcu.handleReceivedFrame P hal (some (resetFrame seq nonce m)))) := by
  have hhandled := resetFrame_handled (P := P) hal b.mcu seq nonce m
  have hservice : ∀ calls, (b.mcu.handleReceivedFrame P hal (some (resetFrame seq nonce m))).timerCalls =
      b.mcu.timerCalls ++ calls → (b.act S (Mcu.handleReceivedFrame P hal (some (resetFrame seq nonce m)))).service =
        S.performAll calls b.service := by
    intro calls hcalls
    unfold act
    dsimp only
    rw [hcalls, List.drop_left]
  cases hdup : b.mcu.isDuplicate (resetFrame seq nonce m) with
  | true =>
    rw [hdup, if_pos rfl] at hhandled
    have hsame := hservice [] (hhandled.timerCalls.trans (List.append_nil _).symm)
    refine ⟨hhandled.ackTimeout, hhandled.retryLimit, hhandled.responseTimeout, ?_, ?_, not_refuses hhandled.wire⟩
    · rw [hsame]
      rfl
    · rw [hsame, hdup, if_pos rfl]
      rfl
  | false =>
    rw [hdup, if_neg (by simp)] at hhandled
    obtain ⟨t, hbefore, hafter⟩ := hhandled
    have hresponse : t.responseTimeoutMs = b.mcu.responseTimeoutMs := hbefore.responseTimeout
    have hrestart := hservice
      [.stop .handshakeTimeout, .setPeriod .handshakeTimeout b.mcu.responseTimeoutMs, .start .handshakeTimeout] (by
        rw [hafter.timerCalls, ← hbefore.timerCalls, ← hresponse]
        show t.timerCalls ++ [_, _] ++ [_] = _
        rw [List.append_assoc]
        rfl)
    refine ⟨hafter.ackTimeout.trans hbefore.ackTimeout, hafter.retryLimit.trans hbefore.retryLimit,
      hafter.responseTimeout.trans hbefore.responseTimeout, ?_, ?_, not_refuses ?_⟩
    · rw [hrestart, hS.restart_period, hS.setPeriod_other _ _ _ _ (by decide), hS.stop_period]
    · rw [hrestart, hS.restart_period, hdup, if_neg (by simp)]
      have hstop := hS.stop_period TimerId.handshakeTimeout TimerId.handshakeTimeout b.service
      cases hperiod : S.period .handshakeTimeout b.service with
      | none => exact hS.setPeriod_unregistered _ _ _ (hstop.trans hperiod)
      | some p => exact hS.setPeriod_period _ _ _ (by rw [hstop, hperiod]; rfl)
    · -- the restart itself writes nothing
      obtain ⟨fs, hfs, hids⟩ := hbefore.wire
      obtain ⟨fs', hfs', hids'⟩ := hafter.wire
      refine ⟨fs ++ fs', ?_, fun f hf => ?_⟩
      · show (b.mcu.handleReceivedFrame P hal (some (resetFrame seq nonce m))).wire = _
        rw [hfs', ← List.append_assoc, ← hfs]
        rfl
      · rw [List.mem_append] at hf
        exact hf.elim (hids f) (hids' f)

/-- The times of the frame are in force after it if and only if they were before; it is not refused. -/
theorem timing_applied_iff (P : Platform) (S : TimerService TimerId T) (hS : S.Lawful) (hal : Hal) (b : Board T)
    (m : HandshakeConfig) (seq : UInt32) (nonce : Bytes) (key : Option Bytes) (env : RpcEnvelope)
    (hframe : Daemon.buildFrame P Command.linkReset.toUnderlying seq (.message (.handshakeConfig m)) nonce key =
      some env) :
    HasTiming S m (b.act S (Mcu.handleReceivedFrame P hal (some env))) ∨
        Refuses b (b.act S (Mcu.handleReceivedFrame P hal (some env))) ↔
      TimedBefore S m env b := by
  obtain ⟨n, rfl⟩ := buildFrame_linkReset hframe
  have h := resetFrame_restarts (P := P) hS hal b seq n m
  generalize b.act S (Mcu.handleReceivedFrame P hal (some (resetFrame seq n m))) = b' at h ⊢
  refine ⟨fun ht => ?_, fun ht => .inl ?_⟩
  · have ht := ht.resolve_right h.accepts
    have hack : b.mcu.ackTimeoutMs.toUInt32 = m.ackTimeoutMs := by
      rw [← h.ackTimeout]
      exact ht.ackTimeout
    have hretry : b.mcu.retryLimit.toUInt32 = m.ackRetryLimit := by
      rw [← h.retryLimit]
      exact ht.retryLimit
    refine ⟨hack, hretry, h.responseTimeout.symm.trans ht.responseTimeout, h.ackPeriod.symm.trans ht.ackPeriod, ?_⟩
    have hperiod := h.handshakePeriod.symm.trans ht.handshakePeriod
    split at hperiod
    case isTrue hdup =>
      rw [if_pos hdup]
      exact hperiod
    case isFalse hdup =>
      rw [if_neg hdup]
      rw [Option.map_eq_some_iff] at hperiod
      obtain ⟨p, hp, -⟩ := hperiod
      rw [hp]
      rfl
  · refine ⟨?_, ?_, h.responseTimeout.trans ht.responseTimeout, h.ackPeriod.trans ht.ackPeriod, ?_⟩
    · rw [h.ackTimeout]
      exact ht.ackTimeout
    · rw [h.retryLimit]
      exact ht.retryLimit
    · have hwatchdog := ht.watchdog
      rw [h.handshakePeriod]
      split at hwatchdog
      case isTrue hdup =>
        rw [if_pos hdup]
        exact hwatchdog
      case isFalse hdup =>
        obtain ⟨p, hp⟩ := Option.isSome_iff_exists.1 hwatchdog
        rw [if_neg hdup, hp, Option.map_some, ht.responseTimeout]

theorem timing_applied_iff_defaults :
    HasTiming CallbackTimer.service ⟨200, 5, 180000⟩ (sampleBoard.act CallbackTimer.service
      (Mcu.handleReceivedFrame .sample .sample (some (resetFrame 1 (List.replicate 12 0) ⟨200, 5, 180000⟩)))) := by
  have hiff := timing_applied_iff .sample CallbackTimer.service CallbackTimer.service_lawful .sample sampleBoard
    ⟨200, 5, 180000⟩ 1 [] none (resetFrame 1 (List.replicate 12 0) ⟨200, 5, 180000⟩) rfl
  refine (hiff.2 ⟨rfl, rfl, rfl, by decide +kernel, by decide +kernel⟩).resolve_right ?_
  decide +kernel

/-- The times of the default configuration, 10 s, 5 retries and 20 s, are not applied and not refused. -/
theorem timing_ignored :
    Daemon.buildFrame .sample Command.linkReset.toUnderlying 1 (.message (.handshakeConfig ⟨10000, 5, 20000⟩)) [] none =
      some (resetFrame 1 (List.replicate 12 0) ⟨10000, 5, 20000⟩) ∧
    ¬ HasTiming CallbackTimer.service ⟨10000, 5, 20000⟩ (sampleBoard.act CallbackTimer.service
      (Mcu.handleReceivedFrame .sample .sample (some (resetFrame 1 (List.replicate 12 0) ⟨10000, 5, 20000⟩)))) ∧
    ¬ Refuses sampleBoard (sampleBoard.act CallbackTimer.service
      (Mcu.handleReceivedFrame .sample .sample (some (resetFrame 1 (List.replicate 12 0) ⟨10000, 5, 20000⟩)))) := by
  refine ⟨rfl, fun h => ?_, by decide +kernel⟩
  have hack := h.ackTimeout
  revert hack
  decide +kernel

end Board
end McuBridge
