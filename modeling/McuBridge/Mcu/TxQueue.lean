import McuBridge.Mcu.AckDedup

/-! # The reliable queue

`accepted` logs the reliable frames for which `send` or `sendFrame` returned true, `frames` is what
`_pending_tx_queue` still holds of them. A step conserves the queue (`Conserves`) if every accepted frame
is appended and none leaves but the front, on its own ACK, or all of them, on entry into the safe state.

`_handleAck` clears the whole queue and compares the command id only, and `send` accepts a reliable command
outside an encrypted session without queueing it. Where neither matters (`QueueSafe`) the queue is
conserved over the whole run. -/

namespace McuBridge
namespace Mcu
open Run
variable (P : Platform)

def frames (s : Mcu) : List ReliableFrame := s.pendingTxQueue.map PendingTxFrame.frame

/-- `env` acknowledges the very frame `f`. -/
def AckOf (f : PendingTxFrame) (env : RpcEnvelope) : Prop :=
  env.rawCommand = Status.ack.toUnderlying ∧ env.sequenceId = f.sequenceId.toUInt32 ∧
    ∃ m, PbMessage.ackPacket.read P env.payloadType = some m ∧ m.commandId.toUInt16 = f.commandId

/-- The safe state is entered: by the sketch, on a MALFORMED status, or because the retries of the frame in
flight are exhausted and the FSM goes to `FAULT`. -/
def EntersSafeState (s : Mcu) : McuEvent → Prop
  | .enterSafeState => True
  | .recv _ (some env) => env.rawCommand = Status.malformed.toUnderlying
  | .onAckTimeout => RetriesExhausted s
  | _ => False

/-- Every frame accepted between `s` and `t` is appended, and none has left. -/
def Kept (s t : Mcu) : Prop := ∃ new, t.accepted = s.accepted ++ new ∧ t.frames = s.frames ++ new

/-- The front frame has left and nothing else has changed; the next frame, if there is one, is in flight. -/
structure Popped (f : PendingTxFrame) (rest : List PendingTxFrame) (s t : Mcu) : Prop where
  front : s.pendingTxQueue = f :: rest
  behind : t.pendingTxQueue = rest
  accepted : t.accepted = s.accepted
  next : ∀ g ∈ rest.head?, t.fsm = .awaitingAck ∧ t.lastCommandId = g.commandId

/-- What one step may do to the queue. -/
structure Conserves (s : Mcu) (ev : McuEvent) : Prop where
  leaves : Kept s (step P ev s) ∨
    (∃ hal env f rest, ev = .recv hal (some env) ∧ AckOf P f env ∧ Popped f rest s (step P ev s)) ∨
    (EntersSafeState s ev ∧ (step P ev s).pendingTxQueue = [] ∧ (step P ev s).accepted = s.accepted)
  ack : ∀ hal env, ev = .recv hal (some env) → MatchingAck P s env →
    ∃ f rest, AckOf P f env ∧ Popped f rest s (step P ev s)

/-- A matching ACK finds its own frame alone in the queue, and no reliable command is sent past the queue. -/
structure QueueSafe (s : Mcu) (ev : McuEvent) : Prop where
  ack : ∀ hal env, ev = .recv hal (some env) → MatchingAck P s env →
    ∃ f, s.pendingTxQueue = [f] ∧ env.sequenceId = f.sequenceId.toUInt32
  send : ∀ c, sends P s ev = some c → s.bypassesQueue c.toUnderlying = false

/-- While an ACK is awaited the frame in flight is the front of the queue. -/
def FrontInFlight (s : Mcu) : Prop :=
  s.fsm = .awaitingAck → ∃ f rest, s.pendingTxQueue = f :: rest ∧ s.lastCommandId = f.commandId

variable {P} {l : Label} {s t u : Mcu}

/-! ### The frame in flight -/

theorem Micro.frontInFlight (h : Micro P l s t) (hs : FrontInFlight s) : FrontInFlight t := by
  cases h with
  | quiet h =>
    unfold FrontInFlight
    rw [h.fsm, h.pendingTxQueue, h.lastCommandId]
    exact hs
  | flush hq => exact fun _ => ⟨_, _, hq, rfl⟩
  | enqueue f =>
    intro hf
    obtain ⟨g, rest, hq, hlast⟩ := hs hf
    refine ⟨g, rest ++ [f], ?_, hlast⟩
    rw [hq]
    rfl
  | clear w => exact fun hf => absurd hf (StateId.onEvent_clear s.fsm w)
  | fsm _ hcrit =>
    intro hf
    exact (StateId.onEvent_awaitingAck hf).elim hs hcrit
  | complete =>
    intro hf
    have hf := (StateId.onEvent_awaitingAck hf).resolve_right nofun
    exact hs ((StateId.onEvent_awaitingAck hf).resolve_right nofun)
  | _ => exact hs

theorem step_frontInFlight (ev : McuEvent) (hs : FrontInFlight s) : FrontInFlight (step P ev s) :=
  (step_steps P s ev).invariant (fun _ _ _ _ h => Micro.frontInFlight h) hs

theorem frontInFlight_boot (secret : Bytes) (postOk : Bool) : FrontInFlight (boot secret postOk) := by
  intro h
  cases postOk <;> cases h

/-! ### What stays in the queue -/

theorem Kept.refl (s : Mcu) : Kept s s := ⟨[], by simp, by simp⟩

theorem Kept.trans (h : Kept s t) (h' : Kept t u) : Kept s u := by
  obtain ⟨new, ha, hf⟩ := h
  obtain ⟨new', ha', hf'⟩ := h'
  exact ⟨new ++ new', by rw [ha', ha, List.append_assoc], by rw [hf', hf, List.append_assoc]⟩

theorem Kept.of_eq (ha : t.accepted = s.accepted) (hq : t.pendingTxQueue = s.pendingTxQueue) : Kept s t :=
  ⟨[], by simp [ha], by simp [frames, hq]⟩

theorem Micro.kept (h : Micro P l s t) (hc : ∀ w, l ≠ .clear w) (hb : ∀ f, l ≠ .bypass f) : Kept s t := by
  cases h with
  | quiet h => exact .of_eq h.accepted h.pendingTxQueue
  | enqueue f => exact ⟨[f.frame], rfl, by simp [frames]⟩
  | bypass => exact absurd rfl (hb _)
  | clear => exact absurd rfl (hc _)
  | _ => exact .of_eq rfl rfl

theorem Steps.kept {Q : Label → Prop} (h : Steps (Micro P) Q s t) (hc : ∀ w, ¬ Q (.clear w))
    (hb : ∀ f, ¬ Q (.bypass f)) : Kept s t := by
  refine h.invariant (I := Kept s) ?_ (.refl s)
  intro l u v hl hm hu
  exact hu.trans (Micro.kept hm (fun w hw => hc w (hw ▸ hl)) fun f hf => hb f (hf ▸ hl))

/-! ### The log is the list of accepted frames -/

theorem flushPendingTxQueue_accepted (P : Platform) (s : Mcu) : (s.flushPendingTxQueue P).accepted = s.accepted := by
  refine (flushPendingTxQueue_steps P s).invariant (I := fun t => t.accepted = s.accepted) ?_ rfl
  intro l t u hl h ht
  cases h with
  | quiet h => exact h.accepted.trans ht
  | enqueue | bypass => exact hl.elim
  | _ => exact ht

theorem transmit_accepted (P : Platform) (s : Mcu) (cmd seq : UInt16) (p : Bytes) (ticket : Option Nat) :
    (s.transmit P cmd seq p ticket).accepted = s.accepted := by
  cases h : s.doEncrypt cmd with
  | true => rcases transmit_sealed P s h seq p ticket with heq | ⟨f, -, heq⟩ <;> rw [heq] <;> rfl
  | false =>
    unfold transmit
    rw [if_neg (by rw [h]; decide)]
    rfl

theorem sendSinglePass_accepted (P : Platform) (s : Mcu) (cmd seq : UInt16) (packet : PayloadType) :
    (s.sendSinglePass P cmd seq packet).1.accepted = s.accepted := by
  unfold sendSinglePass sendFrameRaw
  split <;> rfl

theorem enqueueWith_accepted (P : Platform) (s : Mcu) (cmd seq : UInt16) (data : Bytes) :
    (s.enqueueWith P cmd seq data).1.accepted =
      if (s.enqueueWith P cmd seq data).2 then s.accepted ++ [(cmd, seq, data)] else s.accepted := by
  unfold enqueueWith
  split
  · rfl
  split
  · rfl
  · unfold enqueue
    dsimp only
    split
    · exact flushPendingTxQueue_accepted P _
    · rfl

theorem sendFrame_accepted (P : Platform) (s : Mcu) (cmd seq : UInt16) (p : Bytes) :
    (s.sendFrame P cmd seq p).1.accepted =
      if requiresAck cmd && (s.sendFrame P cmd seq p).2 then s.accepted ++ [(cmd, seq, p.take maxPayloadSize)]
      else s.accepted := by
  unfold sendFrame
  split
  · simp
  split
  case isTrue h =>
    rw [h, Bool.true_and]
    exact enqueueWith_accepted P s _ _ _
  case isFalse h => simp [h, transmit_accepted]

theorem send_accepted (P : Platform) (s : Mcu) (c : Command) (seq : UInt16) (packet : PayloadType) :
    (s.send P c seq packet).1.accepted =
      if requiresAck c.toUnderlying && (s.send P c seq packet).2 then
        s.accepted ++ [(c.toUnderlying, seq, P.pbEncode packet)]
      else s.accepted := by
  unfold send
  split
  · unfold sendEncryptedHelper
    dsimp only
    split
    · simp
    split
    case isTrue h =>
      rw [h, Bool.true_and]
      exact enqueueWith_accepted P s _ _ _
    case isFalse h => simp [h, transmit_accepted]
  · have hq := sendSinglePass_accepted P s c.toUnderlying seq packet
    unfold sendUnqueued
    dsimp only
    split
    case isTrue h =>
      rw [Bool.and_comm] at h
      simp [(Bool.and_eq_true_iff.1 h).1, hq]
    case isFalse h =>
      rw [Bool.and_comm] at h
      simp [h, hq]

/-! ### What leaves it -/

theorem clearPendingTxQueue_receive (s : Mcu) (ev : FsmEvent) :
    (s.clearPendingTxQueue.receive ev).pendingTxQueue = [] ∧
      (s.clearPendingTxQueue.receive ev).accepted = s.accepted :=
  ⟨rfl, rfl⟩

theorem enterSafeState_clears (s : Mcu) :
    s.enterSafeState.pendingTxQueue = [] ∧ s.enterSafeState.accepted = s.accepted :=
  clearPendingTxQueue_receive { s.act .forceSafeState with txEnabled := false } .reset

theorem recv_matchingAck (hal : Hal) {env : RpcEnvelope} (h : MatchingAck P s env) :
    (step P (.recv hal (some env)) s).pendingTxQueue = [] ∧
      (step P (.recv hal (some env)) s).accepted = s.accepted := by
  obtain ⟨hcmd, hd, hfsm, m, hm, hc⟩ := h
  have hbefore := beforeHandler_quiet P s env
  rw [recv_ack_fresh P s hal hcmd hd hm, handleAck_eq P _ _ ?_ (hc.trans hbefore.lastCommandId.symm)]
  · obtain ⟨hq, ha⟩ := clearPendingTxQueue_receive ((beforeHandler P s env).stopTimer .ackTimeout) .ackReceived
    exact ⟨hq, ha.trans hbefore.accepted⟩
  · unfold isAwaitingAck
    rw [hbefore.fsm]
    show s.fsm.isAwaitingAck = true
    rw [hfsm]
    rfl

/-- A MALFORMED status enters the safe state, known sequence id or not. -/
theorem recv_malformed_eq (hal : Hal) {env : RpcEnvelope} (h : env.rawCommand = Status.malformed.toUnderlying) :
    step P (.recv hal (some env)) s =
      (if s.isDuplicate env then s else s.pushHistory env.sequenceId.toUInt16).enterSafeState := by
  have hdispatch : ∀ u : Mcu, u.dispatchContext P hal (s.commandContext env) = u.enterSafeState := by
    intro u
    have hctx : (s.commandContext env).rawCommand = Status.malformed.toUnderlying := h
    have hsec : u.isSecurityCheckPassed (s.commandContext env).rawCommand = true := by
      rw [hctx, isSecurityCheckPassed, isSystemCommand_status]
      simp
    unfold dispatchContext
    rw [hsec, hctx, if_neg (by decide), if_neg (by decide), if_pos rfl]
  show s.handleReceivedFrame P hal (some env) = _
  rw [handleReceivedFrame_system P s hal (by rw [h]; decide)]
  unfold dispatchCommand
  rw [hdispatch]
  rfl

theorem recv_malformed (hal : Hal) {env : RpcEnvelope} (h : env.rawCommand = Status.malformed.toUnderlying) :
    (step P (.recv hal (some env)) s).pendingTxQueue = [] ∧
      (step P (.recv hal (some env)) s).accepted = s.accepted := by
  rw [recv_malformed_eq hal h]
  split <;> exact enterSafeState_clears _

theorem onAckTimeout_exhausted (h : RetriesExhausted s) :
    (s.onAckTimeout P).pendingTxQueue = [] ∧ (s.onAckTimeout P).accepted = s.accepted := by
  obtain ⟨ha, hlimit⟩ := h
  unfold onAckTimeout
  rw [ha, if_neg (by decide)]
  dsimp only
  rw [if_pos hlimit]
  exact ⟨rfl, rfl⟩

theorem entersSafeState_clears {ev : McuEvent} (h : EntersSafeState s ev) :
    (step P ev s).pendingTxQueue = [] ∧ (step P ev s).accepted = s.accepted := by
  cases ev with
  | recv hal res =>
    cases res with
    | none => exact h.elim
    | some env => exact recv_malformed hal h
  | enterSafeState => exact enterSafeState_clears s
  | onAckTimeout => exact onAckTimeout_exhausted h
  | _ => exact h.elim

/-! ### One step -/

/-- An event that is neither a matching ACK nor an entry into the safe state keeps the queue, if it sends no
reliable command past it. -/
theorem step_kept {ev : McuEvent} (hack : ∀ hal env, ev = .recv hal (some env) → ¬ MatchingAck P s env)
    (hsafe : ¬ EntersSafeState s ev) (hsend : ∀ c, sends P s ev = some c → s.bypassesQueue c.toUnderlying = false) :
    Kept s (step P ev s) := by
  have happ : ∀ {ev : McuEvent}, (∀ c, sends P s ev = some c → s.bypassesQueue c.toUnderlying = false) →
      ∀ f, ¬ AppLabel P s ev (.bypass f) := by
    rintro ev hsend f ⟨c, hc, hb⟩
    rw [hsend c hc] at hb
    cases hb
  refine Steps.kept (step_steps P s ev) (fun w hw => ?_) (fun f hf => ?_)
  · cases ev with
    | recv hal res =>
      cases res with
      | none => cases hw
      | some env =>
        cases w with
        | ack => exact hack hal env rfl hw
        | safe => exact hsafe hw
        | exhausted => exact hw
    | onAckTimeout =>
      rcases hw with hw | ⟨hx, -⟩
      · exact hw
      · exact hsafe hx
    | enterSafeState => exact hsafe trivial
    | onRxDedupe => cases hw
    | onHandshakeTimeout => rcases hw with ⟨-, hw | hw⟩ <;> cases hw
    | _ => exact hw
  · cases ev with
    | recv hal res =>
      cases res with
      | none => cases hf
      | some env => exact hf
    | onAckTimeout => rcases hf with hf | ⟨-, hf | hf⟩ <;> cases hf
    | enterSafeState => exact hsafe trivial
    | onRxDedupe => cases hf
    | onHandshakeTimeout => rcases hf with ⟨-, hf | hf⟩ <;> cases hf
    | _ => exact happ hsend f hf

theorem step_conserves {ev : McuEvent} (hfront : FrontInFlight s) (h : QueueSafe P s ev) : Conserves P s ev := by
  have hpop : ∀ hal env, ev = .recv hal (some env) → MatchingAck P s env →
      ∃ f rest, AckOf P f env ∧ Popped f rest s (step P ev s) := by
    rintro hal env rfl hmatch
    obtain ⟨f, hq, hseq⟩ := h.ack hal env rfl hmatch
    obtain ⟨hnil, haccepted⟩ := recv_matchingAck hal hmatch
    obtain ⟨hcmd, -, hfsm, m, hm, hc⟩ := hmatch
    obtain ⟨g, rest, hq', hlast⟩ := hfront hfsm
    obtain ⟨rfl, -⟩ := List.cons.inj (hq.symm.trans hq')
    exact ⟨f, [], ⟨hcmd, hseq, m, hm, hc.trans hlast⟩, ⟨hq, hnil, haccepted, by simp⟩⟩
  refine ⟨?_, hpop⟩
  by_cases hsafe : EntersSafeState s ev
  · exact .inr (.inr ⟨hsafe, entersSafeState_clears hsafe⟩)
  by_cases hack : ∃ hal env, ev = .recv hal (some env) ∧ MatchingAck P s env
  · obtain ⟨hal, env, hev, hmatch⟩ := hack
    obtain ⟨f, rest, hpopped⟩ := hpop hal env hev hmatch
    exact .inr (.inl ⟨hal, env, f, rest, hev, hpopped⟩)
  · exact .inl (step_kept (fun hal env hev hm => hack ⟨hal, env, hev, hm⟩) hsafe h.send)

/-! ### Whole runs -/

/-- The queue holds the latest accepted frames, in the order in which they were accepted. -/
theorem Conserves.frames_suffix {ev : McuEvent} (h : Conserves P s ev) (hs : s.frames <:+ s.accepted) :
    (step P ev s).frames <:+ (step P ev s).accepted := by
  rcases h.leaves with ⟨new, ha, hf⟩ | ⟨-, -, f, rest, -, -, hpop⟩ | ⟨-, hnil, -⟩
  · rw [ha, hf]
    exact List.suffix_append_inj_of_length_eq rfl |>.2 ⟨hs, rfl⟩
  · have hq : s.frames = f.frame :: rest.map PendingTxFrame.frame := by
      unfold frames
      rw [hpop.front]
      rfl
    have hq' : (step P ev s).frames = rest.map PendingTxFrame.frame := by
      unfold frames
      rw [hpop.behind]
    rw [hpop.accepted, hq']
    exact (List.suffix_cons _ _).trans (hq ▸ hs)
  · have hq : (step P ev s).frames = [] := by
      unfold frames
      rw [hnil]
      rfl
    rw [hq]
    exact List.nil_suffix

/-- In every run in which each matching ACK finds its own frame alone in the queue and no reliable command is
sent past the queue, every step conserves the queue, which is always a FIFO suffix of the accepted frames. -/
theorem accepted_frames_kept (P : Platform) (secret : Bytes) (postOk : Bool) (evs : List McuEvent)
    (h : Along (step P) (QueueSafe P) (boot secret postOk) evs) :
    Along (step P) (Conserves P) (boot secret postOk) evs ∧
      (runFrom P secret postOk evs).frames <:+ (runFrom P secret postOk evs).accepted := by
  have hconserves : Along (step P) (Conserves P) (boot secret postOk) evs :=
    h.of_invariant (I := FrontInFlight) (fun s ev hs _ => step_frontInFlight ev hs)
      (fun s ev hs hev => step_conserves hs hev) (frontInFlight_boot secret postOk)
  refine ⟨hconserves, hconserves.invariant (fun s ev hs hev => hev.frames_suffix hs) ?_⟩
  cases postOk <;> exact List.nil_suffix

theorem accepted_frames_kept_sample :
    Along (step .sample) (Conserves .sample) (boot [7] true)
      (oneConsoleFrame ++ [.recv .sample (some (ackFrame 0 96))]) ∧
    (runFrom .sample [7] true oneConsoleFrame).frames = [(96, 0, Sample.encodeBytes [65])] := by
  have hq : (runFrom .sample [7] true oneConsoleFrame).pendingTxQueue = [⟨96, 0, 0, Sample.encodeBytes [65], 0⟩] := by
    decide +kernel
  have hother : ∀ (s : Mcu) (hal : Hal) (env : RpcEnvelope), env.rawCommand ≠ Status.ack.toUnderlying →
      QueueSafe .sample s (.recv hal (some env)) := by
    intro s hal env hne
    refine ⟨?_, nofun⟩
    rintro hal' env' hev hmatch
    cases hev
    exact absurd hmatch.1 hne
  have hsend : QueueSafe .sample (runFrom .sample [7] true [oneConsoleFrame.head (by decide)])
      (.send .consoleWrite 0 (.consoleWrite [65])) := by
    refine ⟨nofun, ?_⟩
    rintro c hc
    cases hc
    decide +kernel
  have hack : QueueSafe .sample (runFrom .sample [7] true oneConsoleFrame) (.recv .sample (some (ackFrame 0 96))) := by
    refine ⟨?_, nofun⟩
    rintro hal env hev -
    cases hev
    exact ⟨_, hq, rfl⟩
  have hsafe : Along (step .sample) (QueueSafe .sample) (boot [7] true)
      (oneConsoleFrame ++ [.recv .sample (some (ackFrame 0 96))]) :=
    ⟨hother _ _ _ (by decide), hsend, hack, trivial⟩
  refine ⟨(accepted_frames_kept .sample [7] true _ hsafe).1, ?_⟩
  unfold frames
  rw [hq]
  rfl

/-- Two console frames are queued; the ACK of the first removes both. -/
theorem ack_drops_queued_frame :
    ¬ ∀ (P : Platform) (secret : Bytes) (postOk : Bool) (evs : List McuEvent),
      Along (step P) (Conserves P) (boot secret postOk) evs := by
  intro h
  let evs : List McuEvent := oneConsoleFrame ++ [.send .consoleWrite 1 (.consoleWrite [66])]
  have hq : (runFrom .sample [7] true evs).pendingTxQueue =
      [⟨96, 0, 0, Sample.encodeBytes [65], 0⟩, ⟨96, 1, 1, Sample.encodeBytes [66], 1⟩] := by decide +kernel
  have hnil : (step .sample (.recv .sample (some (ackFrame 0 96))) (runFrom .sample [7] true evs)).pendingTxQueue =
      [] := by decide +kernel
  have hlast := ((along_append _ _ _).1 (h .sample [7] true (evs ++ [.recv .sample (some (ackFrame 0 96))]))).2.1
  have hmatch : MatchingAck .sample (runFrom .sample [7] true evs) (ackFrame 0 96) :=
    ⟨by decide, by decide +kernel, by decide +kernel, ⟨96⟩, rfl, by decide +kernel⟩
  obtain ⟨f, rest, -, hpop⟩ := hlast.ack _ _ rfl hmatch
  have hcons := hpop.front.symm.trans hq
  have hrest := hpop.behind.symm.trans hnil
  rw [hrest] at hcons
  cases hcons

end Mcu
end McuBridge
