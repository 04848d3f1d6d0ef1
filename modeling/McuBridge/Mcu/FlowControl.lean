import McuBridge.Mcu.TxQueue

/-! # Flow control

`_tx_enabled` is not part of the FSM. `step_txEnabled` says which events switch it: a fresh XON or XOFF, the
safe state, the last ACK timeout and the handshake watchdog. A LINK_SYNC does not, so a session opened after
a fault transmits only if an XON came in between. `_handleXon` and `_handleLinkSync` do not flush the reliable
queue, so a frame queued before them waits for the next `send`. The unreliable branch of `_sendEncryptedHelper`
and `_retransmitLastFrame` do not look at the flag at all. -/

namespace McuBridge
namespace Mcu
open Run
variable (P : Platform) (s : Mcu)

instance : Decidable (RetriesExhausted s) := inferInstanceAs (Decidable (_ ∧ _))

/-- What the event sets `_tx_enabled` to, if it does. -/
def txSwitch : McuEvent → Option Bool
  | .recv _ (some env) =>
    if env.rawCommand = Status.malformed.toUnderlying then some false
    else if s.isDuplicate env then none
    else if env.rawCommand = Command.xon.toUnderlying then some true
    else if env.rawCommand = Command.xoff.toUnderlying then some false
    else none
  | .enterSafeState => some false
  | .onAckTimeout => if RetriesExhausted s then some false else none
  | .onHandshakeTimeout => if s.isSynchronized then none else some false
  | _ => none

/-! ### Frames that move the flag or the FSM -/

theorem findHandler_xoff : findHandler (kDispatchTable P) Command.xoff.toUnderlying =
    some (fun _ ctx => dispatchNoPayload P (fun _ => handleXoff) ctx true false) :=
  findHandler_eq (kDispatchTable_sorted P) (by simp only [kDispatchTable, List.mem_cons, true_or, or_true])

theorem findHandler_xon : findHandler (kDispatchTable P) Command.xon.toUnderlying =
    some (fun _ ctx => dispatchNoPayload P (fun _ => handleXon) ctx true false) :=
  findHandler_eq (kDispatchTable_sorted P) (by simp only [kDispatchTable, List.mem_cons, true_or, or_true])

/-- A fresh system command other than the two statuses handled before the table goes to its entry. -/
theorem recv_system_fresh (hal : Hal) {env : RpcEnvelope} {h : Handler} (hsys : isSystemCommand env.rawCommand = true)
    (hok : env.rawCommand ≠ Status.ok.toUnderlying) (hmal : env.rawCommand ≠ Status.malformed.toUnderlying)
    (hd : s.isDuplicate env = false) (hfind : findHandler (kDispatchTable P) env.rawCommand = some h) :
    step P (.recv hal (some env)) s =
      h hal (s.commandContext env) (s.pushHistory env.sequenceId.toUInt16) := by
  show s.handleReceivedFrame P hal (some env) = _
  rw [handleReceivedFrame_system P s hal hsys, dispatchCommand_fresh P s hal hd]
  have hcheck : (s.pushHistory env.sequenceId.toUInt16).isSecurityCheckPassed env.rawCommand = true := by
    simp [isSecurityCheckPassed, hsys]
  unfold dispatchContext
  rw [show (s.commandContext env).rawCommand = env.rawCommand from rfl, hcheck, if_neg (by decide), if_neg hok,
    if_neg hmal, hfind]

/-- A fresh XON or XOFF sets the flag and does nothing else. -/
theorem recv_switch (hal : Hal) {env : RpcEnvelope} {b : Bool} (h : Switches (s.commandContext env) b) :
    step P (.recv hal (some env)) s = { beforeHandler P s env with txEnabled := b } := by
  obtain ⟨hd, hcmd⟩ := h
  have hcmd : env.rawCommand = (if b then Command.xon else Command.xoff).toUnderlying := hcmd
  cases b with
  | true =>
    rw [recv_system_fresh P s hal (by rw [hcmd]; decide) (by rw [hcmd]; decide) (by rw [hcmd]; decide) hd
      (by rw [hcmd]; exact findHandler_xon P)]
    exact dispatchNoPayload_fresh P _ _ hd
  | false =>
    rw [recv_system_fresh P s hal (by rw [hcmd]; decide) (by rw [hcmd]; decide) (by rw [hcmd]; decide) hd
      (by rw [hcmd]; exact findHandler_xoff P)]
    exact dispatchNoPayload_fresh P _ _ hd

theorem recv_linkSync (hal : Hal) {env : RpcEnvelope} {m : LinkSync} (hm : linkSyncOf P s env = some m) :
    step P (.recv hal (some env)) s = (beforeHandler P s env).handleLinkSync P (s.commandContext env) m := by
  have hcmd := linkSyncOf_rawCommand hm
  have hread := linkSyncOf_read P hm
  have hd : s.isDuplicate env = false := by
    unfold linkSyncOf at hm
    split at hm
    case isTrue h => exact h.2
    case isFalse => cases hm
  rw [recv_system_fresh P s hal (by rw [hcmd]; decide) (by rw [hcmd]; decide) (by rw [hcmd]; decide) hd
    (by rw [hcmd]; exact findHandler_linkSync P)]
  exact dispatchCmd_fresh P _ _ hd hread

/-! ### Which events switch -/

theorem Micro.txEnabled {l : Label} {t : Mcu} (hl : ∀ b, l ≠ .enable b) (h : Micro P l s t) :
    t.txEnabled = s.txEnabled := by
  cases h with
  | quiet h => exact h.txEnabled
  | enable b => exact absurd rfl (hl b)
  | _ => rfl

theorem Steps.txEnabled {Q : Label → Prop} {t : Mcu} (hQ : ∀ b, ¬ Q (.enable b)) (h : Steps (Micro P) Q s t) :
    t.txEnabled = s.txEnabled := by
  refine h.invariant (I := fun u => u.txEnabled = s.txEnabled) ?_ rfl
  intro l u v hl hm hu
  refine (Micro.txEnabled P u ?_ hm).trans hu
  rintro b rfl
  exact hQ b hl

theorem switches_iff (env : RpcEnvelope) (b : Bool) (hmal : env.rawCommand ≠ Status.malformed.toUnderlying) (hal : Hal) :
    Switches (s.commandContext env) b ↔ s.txSwitch (.recv hal (some env)) = some b := by
  have hx : Command.xon.toUnderlying ≠ Command.xoff.toUnderlying := by decide
  unfold Switches
  rw [txSwitch, if_neg hmal]
  show s.isDuplicate env = false ∧ env.rawCommand = _ ↔ _
  cases s.isDuplicate env with
  | true => simp
  | false =>
    cases b with
    | true => by_cases hon : env.rawCommand = Command.xon.toUnderlying <;> simp [hon]
    | false =>
      by_cases hon : env.rawCommand = Command.xon.toUnderlying
      · simp [hon, hx]
      · simp [hon]

theorem recv_txEnabled (hal : Hal) (env : RpcEnvelope) :
    (step P (.recv hal (some env)) s).txEnabled =
      (s.txSwitch (.recv hal (some env))).getD s.txEnabled := by
  by_cases hmal : env.rawCommand = Status.malformed.toUnderlying
  · rw [recv_malformed_eq hal hmal, txSwitch, if_pos hmal]
    split <;> rfl
  cases hsw : s.txSwitch (.recv hal (some env)) with
  | some b => rw [recv_switch P s hal ((switches_iff s env b hmal hal).2 hsw), Option.getD_some]
  | none =>
    refine Steps.txEnabled P s ?_ (step_steps P s _)
    rintro b (h | ⟨-, h⟩)
    · rw [(switches_iff s env b hmal hal).1 h] at hsw
      cases hsw
    · exact hmal h

theorem step_txEnabled (ev : McuEvent) : (step P ev s).txEnabled = (s.txSwitch ev).getD s.txEnabled := by
  cases ev with
  | recv hal res =>
    cases res with
    | none => exact Steps.txEnabled P s (by rintro b ⟨⟩) (step_steps P s (.recv hal none))
    | some env => exact recv_txEnabled P s hal env
  | enterSafeState => rfl
  | onAckTimeout =>
    dsimp only [txSwitch]
    split
    case isTrue h =>
      show (s.onAckTimeout P).txEnabled = false
      unfold onAckTimeout
      rw [if_neg (by rw [h.1]; decide)]
      dsimp only
      rw [if_pos h.2]
      rfl
    case isFalse h =>
      refine Steps.txEnabled P s ?_ (step_steps P s .onAckTimeout)
      rintro b (hl | ⟨hx, -⟩)
      · exact hl
      · exact h hx
  | onHandshakeTimeout =>
    show s.onHandshakeTimeout.txEnabled = _
    dsimp only [txSwitch]
    unfold onHandshakeTimeout
    split <;> rfl
  | onRxDedupe => rfl
  | _ => exact Steps.txEnabled P s (fun _ => id) (step_steps P s _)

/-! ### A session after a fault -/

/-- The values `_tx_enabled` is set to along a run. -/
def txSwitches (s : Mcu) : List McuEvent → List Bool
  | [] => []
  | ev :: evs => (s.txSwitch ev).toList ++ txSwitches (step P ev s) evs

/-- The last switch of a run decides. -/
theorem run_txEnabled (evs : List McuEvent) :
    (run (step P) s evs).txEnabled = (txSwitches P s evs).getLast?.getD s.txEnabled := by
  induction evs generalizing s with
  | nil => rfl
  | cons ev evs ih =>
    rw [run, ih, step_txEnabled, txSwitches, List.getLast?_append]
    cases (txSwitches P (step P ev s) evs).getLast? <;> cases s.txSwitch ev <;> rfl

theorem boot_txEnabled (secret : Bytes) (postOk : Bool) : (boot secret postOk).txEnabled = true := by
  cases postOk <;> rfl

/-- `env` is a LINK_SYNC whose handler leaves the FSM synchronised. -/
structure CompletesHandshake (s : Mcu) (hal : Hal) (env : RpcEnvelope) : Prop where
  handled : (linkSyncOf P s env).isSome = true
  synchronized : (step P (.recv hal (some env)) s).isSynchronized = true

/-- When a handshake completes the firmware can transmit exactly if nothing in the run before switched
transmission off without an XON after it. -/
theorem sync_enables_tx_iff (P : Platform) (secret : Bytes) (postOk : Bool) (evs : List McuEvent) (hal : Hal)
    (env : RpcEnvelope) (h : CompletesHandshake P (runFrom P secret postOk evs) hal env) :
    (step P (.recv hal (some env)) (runFrom P secret postOk evs)).txEnabled = true ↔
      (txSwitches P (boot secret postOk) evs).getLast? ≠ some false := by
  obtain ⟨m, hm⟩ := Option.isSome_iff_exists.1 h.handled
  have hcmd := linkSyncOf_rawCommand hm
  have hno : (runFrom P secret postOk evs).txSwitch (.recv hal (some env)) = none := by
    have hon : Command.linkSync.toUnderlying ≠ Command.xon.toUnderlying := by decide
    have hoff : Command.linkSync.toUnderlying ≠ Command.xoff.toUnderlying := by decide
    rw [txSwitch, hcmd, if_neg (by decide), if_neg hon, if_neg hoff, ite_self]
  rw [step_txEnabled, hno, Option.getD_none, runFrom, run_txEnabled, boot_txEnabled]
  cases (txSwitches P (boot secret postOk) evs).getLast? <;> simp

/-- A LINK_SYNC with a valid tag for the secret `[7]`. -/
def validSync (seq : UInt32) : RpcEnvelope :=
  linkSyncFrame seq ⟨sampleNonce, Platform.sample.handshakeTag [7] sampleNonce⟩

/-- A frame without a payload, as the daemon's XON, XOFF and statuses are. -/
def bareFrame (cmd : UInt16) (seq : UInt32) : RpcEnvelope := ⟨protocolVersion, cmd.toUInt32, seq, [], .notSet⟩

theorem sync_enables_tx_iff_sample :
    (step .sample (.recv .sample (some (validSync 3))) (runFrom .sample [7] true
      [.recv .sample (some (bareFrame Status.malformed.toUnderlying 1)),
        .recv .sample (some (bareFrame Command.xon.toUnderlying 2))])).txEnabled = true :=
  (sync_enables_tx_iff .sample [7] true _ .sample (validSync 3)
    ⟨by decide +kernel, by decide +kernel⟩).2 (by decide +kernel)

/-- A session is opened again after a MALFORMED status: the firmware is synchronised and mute. -/
theorem sync_after_fault_mute :
    ¬ ∀ (P : Platform) (secret : Bytes) (postOk : Bool) (evs : List McuEvent) (hal : Hal) (env : RpcEnvelope),
      CompletesHandshake P (runFrom P secret postOk evs) hal env →
      (step P (.recv hal (some env)) (runFrom P secret postOk evs)).txEnabled = true := by
  intro h
  have hfault := h .sample [7] true
    [.recv .sample (some (validSync 1)), .recv .sample (some (bareFrame Status.malformed.toUnderlying 2))]
    .sample (validSync 3) ⟨by decide +kernel, by decide +kernel⟩
  exact absurd hfault (by decide +kernel)

/-! ### Frames left in the queue -/

/-- A frame that could be sent is in flight: synchronised and enabled, the firmware waits for the ACK of
the front of its queue. -/
def NoStranded (s : Mcu) : Prop :=
  s.isSynchronized = true → s.txEnabled = true → ∀ f ∈ s.pendingTxQueue.head?,
    s.fsm = .awaitingAck ∧ s.lastCommandId = f.commandId

/-- The event makes it possible to send the frames that wait in the queue: an XON in an idle session, or a
LINK_SYNC that opens one. -/
def Strands (s : Mcu) : McuEvent → Prop
  | .recv _ (some env) => s.pendingTxQueue ≠ [] ∧
      (Switches (s.commandContext env) true ∧ s.fsm = .synchronized ∨
        Opens P s env ∧ s.txEnabled = true ∧ (s.fsm = .unsynchronized ∨ s.fsm = .handshake))
  | _ => False

/-- An idle session that may transmit has nothing to transmit. -/
def Idle (s : Mcu) : Prop := s.fsm = .synchronized → s.txEnabled = true → s.pendingTxQueue = []

variable {P s} {t : Mcu}

theorem noStranded_iff (hfront : FrontInFlight s) : NoStranded s ↔ Idle s := by
  constructor
  · intro h hf hen
    cases hq : s.pendingTxQueue with
    | nil => rfl
    | cons f rest =>
      have hwait := (h (by rw [Mcu.isSynchronized, hf]; rfl) hen f (by rw [hq]; rfl)).1
      rw [hf] at hwait
      cases hwait
  · intro h hs hen f hf
    have hwait : s.fsm = .awaitingAck := by
      have hcases : s.fsm = .synchronized ∨ s.fsm = .awaitingAck := by
        simpa [Mcu.isSynchronized, StateId.isSynchronized] using hs
      refine hcases.resolve_left fun hidle => ?_
      rw [h hidle hen] at hf
      cases hf
    obtain ⟨g, rest, hq, hlast⟩ := hfront hwait
    rw [hq] at hf
    obtain rfl : g = f := Option.some.inj hf
    exact ⟨hwait, hlast⟩

/-- The small steps that can leave a frame behind. -/
theorem Micro.idle {l : Label} (h : Micro P l s t) (hs : Idle s) (henq : ∀ f, l ≠ .enqueue f)
    (hack : l ≠ .fsm .ackReceived) (hon : l ≠ .enable true)
    (hsync : l ≠ .complete) : Idle t := by
  cases h with
  | quiet h =>
    unfold Idle
    rw [h.fsm, h.txEnabled, h.pendingTxQueue]
    exact hs
  | enqueue f => exact absurd rfl (henq f)
  | enable b =>
    intro _ hb
    obtain rfl : b = true := hb
    exact absurd rfl hon
  | clear => exact fun _ _ => rfl
  | @fsm _ ev hev =>
    intro hf hen
    rcases StateId.onEvent_synchronized hf with hf | rfl | rfl
    · exact hs hf hen
    · exact absurd rfl hev
    · exact absurd rfl hack
  | complete => exact absurd rfl hsync
  | _ => exact hs

theorem Idle.congr (hf : t.fsm = s.fsm) (hen : t.txEnabled = s.txEnabled) (hq : t.pendingTxQueue = s.pendingTxQueue)
    (hs : Idle s) : Idle t := by
  unfold Idle
  rw [hf, hen, hq]
  exact hs

variable (P s)

theorem transmit_link (cmd seq : UInt16) (p : Bytes) (ticket : Option Nat) :
    (s.transmit P cmd seq p ticket).fsm = s.fsm ∧ (s.transmit P cmd seq p ticket).txEnabled = s.txEnabled ∧
      (s.transmit P cmd seq p ticket).pendingTxQueue = s.pendingTxQueue := by
  cases h : s.doEncrypt cmd with
  | true => rcases transmit_sealed P s h seq p ticket with heq | ⟨f, -, heq⟩ <;> rw [heq] <;> exact ⟨rfl, rfl, rfl⟩
  | false =>
    unfold transmit
    rw [if_neg (by rw [h]; decide)]
    exact ⟨rfl, rfl, rfl⟩

/-- A flush leaves an idle session that may transmit only if there was nothing to send. -/
theorem flushPendingTxQueue_idle : Idle (s.flushPendingTxQueue P) := by
  unfold flushPendingTxQueue
  split
  case h_1 hq => exact fun _ _ => hq
  split
  case isTrue hen =>
    intro _ hen'
    rw [hen'] at hen
    cases hen
  · intro hf
    have hf := (transmit_link P _ _ _ _ _).1.symm.trans hf
    exact absurd hf (StateId.onEvent_sendCritical s.fsm)

theorem enqueueWith_idle (hs : Idle s) (cmd seq : UInt16) (data : Bytes) :
    Idle (s.enqueueWith P cmd seq data).1 := by
  unfold enqueueWith
  split
  · exact hs
  split
  · exact hs
  unfold enqueue
  dsimp only
  split
  · exact flushPendingTxQueue_idle P _
  case isFalse hwait =>
    intro hf
    have hwait : s.fsm.isAwaitingAck = true := by simpa [Mcu.isAwaitingAck] using hwait
    have hf : s.fsm = .synchronized := hf
    rw [hf] at hwait
    cases hwait

theorem transmit_idle (hs : Idle s) (cmd seq : UInt16) (p : Bytes) (ticket : Option Nat) :
    Idle (s.transmit P cmd seq p ticket) := by
  obtain ⟨hf, hen, hq⟩ := transmit_link P s cmd seq p ticket
  exact hs.congr hf hen hq

theorem sendFrame_idle (hs : Idle s) (cmd seq : UInt16) (p : Bytes) : Idle (s.sendFrame P cmd seq p).1 := by
  unfold sendFrame
  split
  · exact hs
  split
  · exact enqueueWith_idle P s hs _ _ _
  · exact transmit_idle P s hs _ _ _ _

theorem sendUnqueued_idle (hs : Idle s) (c : Command) (seq : UInt16) (packet : PayloadType) :
    Idle (s.sendUnqueued P c seq packet).1 := by
  have hpass : Idle (s.sendSinglePass P c.toUnderlying seq packet).1 := by
    unfold sendSinglePass sendFrameRaw
    split
    · exact hs
    · exact hs.congr rfl rfl rfl
  unfold sendUnqueued
  dsimp only
  split
  · exact hpass.congr rfl rfl rfl
  · exact hpass

theorem send_idle (hs : Idle s) (c : Command) (seq : UInt16) (packet : PayloadType) :
    Idle (s.send P c seq packet).1 := by
  unfold send
  split
  · unfold sendEncryptedHelper
    dsimp only
    split
    · exact hs
    split
    · exact enqueueWith_idle P s hs _ _ _
    · exact transmit_idle P s hs _ _ _ _
  · exact sendUnqueued_idle P s hs _ _ _

theorem consoleProcess_idle (hs : Idle s) : Idle (s.consoleProcess P) := by
  unfold consoleProcess
  split
  · exact hs
  dsimp only
  split
  · exact (send_idle P s hs _ _ _).congr rfl rfl rfl
  · exact send_idle P s hs _ _ _

theorem consoleWrite_idle (hs : Idle s) (data : Bytes) : Idle (s.consoleWrite P data) := by
  have hfull : Idle (s.consoleProcessIfFull P) := by
    unfold consoleProcessIfFull
    split
    · exact consoleProcess_idle P s hs
    · exact hs
  have hinsert : ∀ (t : Mcu) (b : Bytes), Idle t → Idle (t.consoleTxInsert b) := fun t b h => h.congr rfl rfl rfl
  unfold consoleWrite
  split
  · exact hs
  dsimp only
  split
  · exact hinsert _ _ (consoleProcess_idle P _ (hinsert _ _ hfull))
  · exact hinsert _ _ hfull

/-! ### LINK_SYNC -/

theorem completeHandshake_link (ctx : CommandContext) (resp : LinkSync) :
    (s.completeHandshake P ctx resp).fsm = (s.fsm.onEvent .handshakeStart).onEvent .handshakeComplete ∧
      (s.completeHandshake P ctx resp).txEnabled = s.txEnabled ∧
      (s.completeHandshake P ctx resp).pendingTxQueue = s.pendingTxQueue := by
  unfold completeHandshake
  dsimp only
  rw [send_linkSyncResp]
  simp [serializeAndSend, stopTimer, receive]

variable {P s}

/-- An accepted LINK_SYNC moves the FSM and leaves flag and queue alone. -/
theorem recv_opens (hal : Hal) {env : RpcEnvelope} (h : Opens P s env) :
    (step P (.recv hal (some env)) s).fsm = (s.fsm.onEvent .handshakeStart).onEvent .handshakeComplete ∧
      (step P (.recv hal (some env)) s).txEnabled = s.txEnabled ∧
      (step P (.recv hal (some env)) s).pendingTxQueue = s.pendingTxQueue := by
  obtain ⟨m, hm, hacc⟩ := h
  have hq := beforeHandler_quiet P s env
  rw [recv_linkSync P s hal hm]
  generalize beforeHandler P s env = t at hq
  have hsec : t.sharedSecret = s.sharedSecret := hq.sharedSecret
  have hfsm : t.fsm = s.fsm := hq.fsm
  have hen : t.txEnabled = s.txEnabled := hq.txEnabled
  have hqueue : t.pendingTxQueue = s.pendingTxQueue := hq.pendingTxQueue
  rw [← hfsm, ← hen, ← hqueue]
  rw [← hsec] at hacc
  unfold handleLinkSync
  dsimp only
  split
  · exact completeHandshake_link P t _ _
  case isFalse hne =>
    have htag : (handshakeAuthenticate P.toCrypto t.sharedSecret (linkSyncNonce m) m.tag).2 = true :=
      hacc.resolve_left (by simpa using hne)
    rw [if_pos htag]
    exact completeHandshake_link P (t.installSession P (linkSyncNonce m)) _ _

/-! ### Every step -/

theorem recv_idle (hal : Hal) {env : RpcEnvelope} (hs : Idle s) (hev : ¬ Strands P s (.recv hal (some env))) :
    Idle (step P (.recv hal (some env)) s) := by
  by_cases hon : Switches (s.commandContext env) true
  · rw [recv_switch P s hal hon]
    have hq := beforeHandler_quiet P s env
    intro hf _
    have hf : s.fsm = .synchronized := hq.fsm.symm.trans hf
    refine hq.pendingTxQueue.trans ?_
    by_contra hne
    exact hev ⟨hne, .inl ⟨hon, hf⟩⟩
  by_cases hsync : Opens P s env
  · obtain ⟨hfsm, hen, hq⟩ := recv_opens hal hsync
    intro hf hen'
    rw [hen] at hen'
    rw [hq]
    rw [hfsm] at hf
    by_contra hne
    have hstart : ∀ q : StateId, (q.onEvent .handshakeStart).onEvent .handshakeComplete = .synchronized →
        q = .synchronized ∨ q = .unsynchronized ∨ q = .handshake := by
      intro q hq
      cases q <;> simp_all [StateId.onEvent]
    rcases hstart s.fsm hf with hidle | hopen
    · exact hne (hs hidle hen')
    · exact hev ⟨hne, .inr ⟨hsync, hen', hopen⟩⟩
  -- every other frame takes no step that could leave a frame behind
  refine (step_steps P s _).invariant ?_ hs
  intro l u v hl hm hu
  refine Micro.idle hm hu ?_ ?_ ?_ ?_
  · rintro f rfl
    exact hl
  · rintro rfl
    exact hl
  · rintro rfl
    rcases hl with hl | ⟨hl, -⟩
    · exact hon hl
    · cases hl
  · rintro rfl
    exact hsync hl

theorem step_idle {ev : McuEvent} (hs : Idle s) (hev : ¬ Strands P s ev) : Idle (step P ev s) := by
  have hsteps : ∀ {Q : Label → Prop} {t : Mcu}, Steps (Micro P) Q s t → (∀ f, ¬ Q (.enqueue f)) →
      ¬ Q (.fsm .ackReceived) → ¬ Q (.enable true) → ¬ Q .complete → Idle t := by
    intro Q t h henq hack hon hsync
    refine h.invariant ?_ hs
    intro l u v hl hm hu
    refine Micro.idle hm hu ?_ ?_ ?_ ?_
    · rintro f rfl
      exact henq f hl
    all_goals
      rintro rfl
      contradiction
  have htx : ∀ {g : Prop} {t : Mcu}, Steps (Micro P) (TxLabel g) s t → Idle t :=
    fun h => hsteps h (fun _ => id) id id id
  have hquiet : ∀ {t : Mcu}, Quiet s t → Idle t := fun h => hs.congr h.fsm h.txEnabled h.pendingTxQueue
  cases ev with
  | recv hal res =>
    cases res with
    | none => exact hquiet (t := s.emitStatus P .malformed none) (emitStatus_quiet P s _ _)
    | some env => exact recv_idle hal hs hev
  | sendFrame cmd seq p => exact sendFrame_idle P s hs _ _ _
  | send c seq packet => exact send_idle P s hs _ _ _
  | consoleWrite data => exact consoleWrite_idle P s hs _
  | consoleProcess => exact consoleProcess_idle P s hs
  | sendStatus st seq packet => exact hquiet (sendStatus_quiet P s _ _ _)
  | emitStatus st message => exact hquiet (emitStatus_quiet P s _ _)
  | retransmitLastFrame => exact htx (retransmitLastFrame_steps P s)
  | dataStoreGet key valid => exact htx (dataStoreGet_steps P s key valid)
  | fileSystemRead path valid => exact htx (fileSystemRead_steps P s path valid)
  | processRunAsync cmd args valid => exact htx (processRunAsync_steps P s cmd args valid)
  | processPoll pid valid => exact htx (processPoll_steps P s pid valid)
  | enterSafeState => exact fun _ _ => rfl
  | onAckTimeout =>
    refine hsteps (step_steps P s .onAckTimeout) ?_ ?_ ?_ ?_
    all_goals
      simp only [EventLabel, TxLabel, reduceCtorEq, Label.enable.injEq, Bool.true_eq_false, or_self, and_false,
        not_false_eq_true, implies_true]
  | onHandshakeTimeout =>
    refine hsteps (step_steps P s .onHandshakeTimeout) ?_ ?_ ?_ ?_
    all_goals
      simp only [EventLabel, reduceCtorEq, Label.enable.injEq, Label.fsm.injEq, Bool.true_eq_false, or_self, and_false,
        not_false_eq_true, implies_true]
  | onRxDedupe => exact hs.congr rfl rfl rfl
  | onBaudrateChange => exact hquiet (onBaudrateChange_quiet s)
  | onBootloaderDelay => exact hs.congr rfl rfl rfl
  | serialTask avail => exact hquiet (serialTask_quiet P s avail)
  | consoleBegin => exact hs.congr rfl rfl rfl
  | mailboxProcess => exact hquiet (mailboxProcess_quiet s)
  | register c m a => exact hs.congr rfl rfl rfl

theorem strands_idle {ev : McuEvent} (hev : Strands P s ev) : ¬ Idle (step P ev s) := by
  cases ev with
  | recv hal res =>
    cases res with
    | none => exact hev.elim
    | some env =>
      obtain ⟨hne, ⟨hon, hf⟩ | ⟨hsync, hen, hopen⟩⟩ := hev
      · have hq := beforeHandler_quiet P s env
        rw [recv_switch P s hal hon]
        exact fun h => hne (hq.pendingTxQueue.symm.trans (h (hq.fsm.trans hf) rfl))
      · obtain ⟨hfsm, hen', hq⟩ := recv_opens hal hsync
        intro h
        refine hne (hq.symm.trans (h ?_ (hen'.trans hen)))
        rw [hfsm]
        rcases hopen with hopen | hopen <;> rw [hopen] <;> rfl
  | _ => exact hev.elim

/-- No frame is left in the queue of a firmware that could send it, in any state a run reaches, exactly if no
XON comes in an idle session and no LINK_SYNC opens a session while frames wait. -/
theorem no_stranded_iff (P : Platform) (secret : Bytes) (postOk : Bool) (evs : List McuEvent) :
    (∀ pre, pre <+: evs → NoStranded (runFrom P secret postOk pre)) ↔
      Along (step P) (fun s ev => ¬ Strands P s ev) (boot secret postOk) evs := by
  have hboot : Idle (boot secret postOk) := by
    intro h
    cases postOk <;> cases h
  have hfront := frontInFlight_boot secret postOk
  have hreached := @reached_iff _ _ (step P) NoStranded (boot secret postOk) evs
  refine hreached.trans ⟨fun h => ?_, fun h => ⟨(noStranded_iff hfront).2 hboot, ?_⟩⟩
  · refine h.2.of_invariant (I := FrontInFlight) (fun s ev hs _ => step_frontInFlight ev hs) ?_ hfront
    intro s ev hs hnext hev
    exact strands_idle hev ((noStranded_iff (step_frontInFlight ev hs)).1 hnext)
  · refine h.of_invariant (I := fun s => FrontInFlight s ∧ Idle s) ?_ ?_ ⟨hfront, hboot⟩
    · exact fun s ev hs hev => ⟨step_frontInFlight ev hs.1, step_idle hs.2 hev⟩
    · exact fun s ev hs hev => (noStranded_iff (step_frontInFlight ev hs.1)).2 (step_idle hs.2 hev)

/-- A console frame is accepted while XOFF is in force; XON comes, and it stays in the queue. -/
theorem xon_strands_frame :
    ¬ ∀ (P : Platform) (secret : Bytes) (postOk : Bool) (evs : List McuEvent),
      NoStranded (runFrom P secret postOk evs) := by
  intro h
  let evs : List McuEvent := [.recv .sample (some (validSync 1)),
    .recv .sample (some (bareFrame Command.xoff.toUnderlying 2)), .send .consoleWrite 0 (.consoleWrite [65]),
    .recv .sample (some (bareFrame Command.xon.toUnderlying 3))]
  have hq : (runFrom .sample [7] true evs).pendingTxQueue = [⟨96, 0, 0, Sample.encodeBytes [65], 0⟩] := by
    decide +kernel
  have hidle : (runFrom .sample [7] true evs).fsm = .synchronized := by decide +kernel
  have hwait := (h .sample [7] true evs (by decide +kernel) (by decide +kernel) _ (by rw [hq]; rfl)).1
  rw [hidle] at hwait
  cases hwait

/-! ### Frames sent in spite of XOFF -/

/-- With transmission off the step puts nothing but system frames on the wire. -/
def Silenced (P : Platform) (s : Mcu) (ev : McuEvent) : Prop :=
  s.txEnabled = false →
    ∃ fs, (step P ev s).wire = s.wire ++ fs ∧ ∀ f ∈ fs, isSystemCommand f.env.rawCommand = true

/-- A label that, with transmission off, is not that of an application frame. -/
structure Muted (l : Label) : Prop where
  enable : l ≠ .enable true
  encrypt : l ≠ .encrypt
  copy : ∀ cmd, l = .copy cmd → isSystemCommand cmd = true

theorem Micro.muted {l : Label} (hl : Muted l) (h : Micro P l s t) (hen : s.txEnabled = false) :
    t.txEnabled = false ∧ ∃ fs, t.wire = s.wire ++ fs ∧ ∀ f ∈ fs, isSystemCommand f.env.rawCommand = true := by
  have hpermits : ∀ f, s.Permits f → isSystemCommand f.env.rawCommand = true := by
    intro f hf
    exact hf.resolve_left (by rw [hen]; decide)
  have hone : ∀ f : Sent, isSystemCommand f.env.rawCommand = true →
      ∃ fs, s.wire ++ [f] = s.wire ++ fs ∧ ∀ f ∈ fs, isSystemCommand f.env.rawCommand = true :=
    fun f hf => ⟨[f], rfl, by simpa using hf⟩
  have hnone : ∃ fs, s.wire = s.wire ++ fs ∧ ∀ f ∈ fs, isSystemCommand f.env.rawCommand = true :=
    ⟨[], by simp, by simp⟩
  cases h with
  | quiet h =>
    obtain ⟨fs, hfs, hf⟩ := h.wire
    exact ⟨h.txEnabled.trans hen, fs, hfs, fun f hmem => hpermits f (hf f hmem).2⟩
  | emit _ hp => exact ⟨hen, hone _ (hpermits _ hp)⟩
  | copy _ _ hcmd => exact ⟨hen, hone _ (by rw [hcmd]; exact hl.copy _ rfl)⟩
  | answer _ hcmd => exact ⟨hen, hone _ (by rw [hcmd]; decide)⟩
  | encrypt => exact absurd rfl hl.encrypt
  | enable b =>
    cases b with
    | true => exact absurd rfl hl.enable
    | false => exact ⟨rfl, hnone⟩
  | _ => exact ⟨hen, hnone⟩

theorem Steps.muted {Q : Label → Prop} (hQ : ∀ l, Q l → Muted l) (h : Steps (Micro P) Q s t)
    (hen : s.txEnabled = false) :
    ∃ fs, t.wire = s.wire ++ fs ∧ ∀ f ∈ fs, isSystemCommand f.env.rawCommand = true := by
  refine (h.invariant (I := fun u => u.txEnabled = false ∧
    ∃ fs, u.wire = s.wire ++ fs ∧ ∀ f ∈ fs, isSystemCommand f.env.rawCommand = true) ?_
    ⟨hen, [], by simp, by simp⟩).2
  rintro l u v hl hm ⟨hu, fs, hfs, hsys⟩
  obtain ⟨hv, fs', hfs', hsys'⟩ := Micro.muted (hQ l hl) hm hu
  refine ⟨hv, fs ++ fs', by rw [hfs', hfs, List.append_assoc], ?_⟩
  intro f hf
  exact (List.mem_append.1 hf).elim (hsys f) (hsys' f)

theorem TxLabel.muted {g : Prop} {l : Label} (hg : ¬ g) (h : TxLabel g l) : Muted l := by
  refine ⟨?_, ?_, ?_⟩
  · rintro rfl
    exact h
  · rintro rfl
    exact hg h
  · rintro cmd rfl
    exact h.resolve_left hg

theorem SendLabel.muted {g : Prop} {l : Label} (hg : ¬ g) (h : SendLabel g l) : Muted l := by
  refine ⟨?_, ?_, ?_⟩
  · rintro rfl
    exact h
  · rintro rfl
    exact hg h
  · rintro cmd rfl
    exact h.resolve_left hg

theorem EventLabel.muted {ev : McuEvent} {l : Label} (hen : s.txEnabled = false) (hun : unguarded P s ev = false)
    (hon : ∀ hal env, ev = .recv hal (some env) → ¬ Switches (s.commandContext env) true)
    (h : EventLabel P s ev l) : Muted l := by
  have happ : ∀ {ev : McuEvent}, unguarded P s ev = false → AppLabel P s ev l → Muted l := by
    intro ev hun h
    have hg : ¬ (s.txEnabled = true ∨ unguarded P s ev = true) := by simp [hen, hun]
    cases l with
    | bypass | emit => exact ⟨nofun, nofun, nofun⟩
    | _ => exact SendLabel.muted hg h
  cases ev with
  | recv hal res =>
    cases res with
    | none =>
      obtain rfl : l = .quiet := h
      exact ⟨nofun, nofun, nofun⟩
    | some env =>
      refine ⟨?_, ?_, ?_⟩
      · rintro rfl
        rcases h with h | ⟨h, -⟩
        · exact hon hal env rfl h
        · cases h
      · rintro rfl
        rw [h.2] at hun
        cases hun
      · rintro cmd rfl
        exact h.2.resolve_left (by rw [hun]; decide)
  | onAckTimeout =>
    rcases h with h | ⟨-, rfl | rfl⟩
    · exact h.muted (by rw [hun]; decide)
    · exact ⟨nofun, nofun, nofun⟩
    · exact ⟨nofun, nofun, nofun⟩
  | enterSafeState => rcases h with rfl | rfl | rfl <;> exact ⟨nofun, nofun, nofun⟩
  | onRxDedupe =>
    obtain rfl : l = .history := h
    exact ⟨nofun, nofun, nofun⟩
  | onHandshakeTimeout => rcases h with ⟨-, rfl | rfl⟩ <;> exact ⟨nofun, nofun, nofun⟩
  | _ => exact happ hun h

theorem step_silenced {ev : McuEvent} (hun : s.txEnabled = false → unguarded P s ev = false) : Silenced P s ev := by
  intro hen
  by_cases hon : ∃ hal env, ev = .recv hal (some env) ∧ Switches (s.commandContext env) true
  · -- the ACK of an XON goes out before the flag is set
    obtain ⟨hal, env, rfl, hon⟩ := hon
    rw [recv_switch P s hal hon]
    obtain ⟨fs, hfs, hf⟩ := (beforeHandler_quiet P s env).wire
    refine ⟨fs, hfs, fun f hmem => (hf f hmem).2.resolve_left ?_⟩
    show ¬ s.txEnabled = true
    rw [hen]
    decide
  · refine Steps.muted (fun l hl => EventLabel.muted hen (hun hen) ?_ hl) (step_steps P s ev) hen
    exact fun hal env hev hsw => hon ⟨hal, env, hev, hsw⟩

/-- In every run in which no event takes an unguarded path while transmission is off, nothing but system frames
is put on the wire in that time. -/
theorem xoff_silences (P : Platform) (secret : Bytes) (postOk : Bool) (evs : List McuEvent)
    (h : Along (step P) (fun s ev => s.txEnabled = false → unguarded P s ev = false) (boot secret postOk) evs) :
    Along (step P) (Silenced P) (boot secret postOk) evs :=
  h.mono fun _ _ => step_silenced

/-- A console frame in flight, and XOFF before its ACK. -/
def xoffInFlight : List McuEvent :=
  oneConsoleFrame ++ [.recv .sample (some (bareFrame Command.xoff.toUnderlying 2))]

theorem xoff_silences_sample :
    Along (step .sample) (Silenced .sample) (boot [7] true)
      (xoffInFlight ++ [.send .consoleWrite 1 (.consoleWrite [66])]) :=
  xoff_silences .sample [7] true _ (by decide +kernel)

/-- A session, and XOFF from the daemon. -/
def xoffInSession : List McuEvent :=
  [.recv .sample (some (validSync 1)), .recv .sample (some (bareFrame Command.xoff.toUnderlying 2))]

/-- `DataStore.get` sends its request in spite of XOFF: the unreliable branch of `_sendEncryptedHelper`. -/
theorem datastore_get_ignores_xoff :
    ¬ ∀ (P : Platform) (secret : Bytes) (postOk : Bool) (evs : List McuEvent),
      Along (step P) (Silenced P) (boot secret postOk) evs := by
  intro h
  have hlast := ((along_append _ _ _).1 (h .sample [7] true (xoffInSession ++ [.dataStoreGet [65] true]))).2.1
  obtain ⟨fs, hfs, hsys⟩ := hlast (by decide +kernel)
  have happ : ((step .sample (.dataStoreGet [65] true) (runFrom .sample [7] true xoffInSession)).wire.drop
      (runFrom .sample [7] true xoffInSession).wire.length).all
        (fun f => isSystemCommand f.env.rawCommand) = false := by decide +kernel
  have hdrop := congrArg (List.drop (runFrom .sample [7] true xoffInSession).wire.length) hfs
  rw [show run (step Platform.sample) (boot [7] true) xoffInSession = runFrom .sample [7] true xoffInSession from rfl,
    List.drop_left] at hdrop
  rw [hdrop, Bool.eq_false_iff] at happ
  exact happ (List.all_eq_true.2 hsys)

end Mcu
end McuBridge
