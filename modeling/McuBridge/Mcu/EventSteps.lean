import McuBridge.Mcu.DispatchSteps

/-! # What one event can do

`step_steps` is the specification of `Mcu.step`: the small steps each event can take, with the conditions
under which the link moves. Every invariant of the firmware is derived from it. -/

namespace McuBridge
namespace Mcu
variable (P : Platform) (s : Mcu)

/-- The ACK timer fires for the last time: the next timeout of the frame in flight gives up. -/
def RetriesExhausted : Prop := s.isAwaitingAck = true ∧ s.retryLimit ≤ s.retryCount + 1

/-- The reliable command the event hands to `send(CommandId, ..)`, if it calls it with one. `Console.write`
calls `process` when the ring overflows; the other services send commands that need no ACK. -/
def sends : McuEvent → Option Command
  | .send c _ _ => some c
  | .consoleProcess => if s.services.consoleTx.isEmpty then none else some .consoleWrite
  | .consoleWrite data =>
    if data.isEmpty || s.services.consoleTx.length + data.length ≤ P.consoleTxBufferSize then none
    else some .consoleWrite
  | _ => none

/-- The envelope `_handleReceivedFrame` hands to `_dispatchCommand`, if it does. -/
def dispatched (env : RpcEnvelope) : Option RpcEnvelope :=
  if s.doEncrypt env.rawCommand then
    (s.decryptFrame P env).map fun r => { env with payloadType := P.encryptedStore env.payloadType r.2 }
  else some env

/-- The frame gets past the decryption and past `_isSecurityCheckPassed`. -/
def admits (env : RpcEnvelope) : Bool := (s.dispatched P env).isSome && s.isSecurityCheckPassed env.rawCommand

/-- The event makes the firmware send an application frame on a path that does not look at `_tx_enabled`:
the unreliable branch of `_sendEncryptedHelper`, or a retransmission. -/
def unguarded : McuEvent → Bool
  | .recv hal (some env) => (s.dispatched P env).any (s.unguardedFrame P hal)
  | .send c _ packet => s.sendsUnguarded P c packet
  | .retransmitLastFrame => s.frontApp
  | .onAckTimeout => s.isAwaitingAck && s.retryCount + 1 < s.retryLimit && s.frontApp
  | .dataStoreGet key _ => s.services.pendingGets.length < maxPendingDatastore &&
      s.sendsUnguarded P .datastoreGet (.datastoreGet (key.take 31))
  | .fileSystemRead path _ => s.sendsUnguarded P .fileRead (.fileRead (path.take 63))
  | .processRunAsync cmd args valid =>
    !(valid && maxPendingProcessPolls ≤ s.services.pendingRunAsync) &&
      (processCommandLine cmd args).any fun line =>
        s.sendsUnguarded P .processRunAsync (.processRunAsync (line.take 59))
  | .processPoll pid valid =>
    !(valid && maxPendingProcessPolls ≤ s.services.pendingPolls.length) &&
      s.sendsUnguarded P .processPoll (.processPoll pid)
  | _ => false

/-- The labels of a received frame: an accepted counter, or what its dispatch can do. -/
def RecvLabel (hal : Hal) (env : RpcEnvelope) : Label → Prop
  | .counter c => ∃ plain, s.doEncrypt env.rawCommand = true ∧ s.decryptFrame P env = some (c, plain)
  | .encrypt => env.rawCommand ≠ Command.linkSync.toUnderlying ∧ unguarded P s (.recv hal (some env)) = true
  | .copy cmd => env.rawCommand ≠ Command.linkSync.toUnderlying ∧
      (unguarded P s (.recv hal (some env)) = true ∨ isSystemCommand cmd = true)
  | .history => True
  | l => DispatchLabel P s hal env l

/-- The sketch sends a frame under the handshake's LINK_SYNC_RESP command. -/
def impersonates : McuEvent → Prop
  | .sendFrame cmd _ _ => cmd = Command.linkSyncResp.toUnderlying
  | .send c _ _ => c = .linkSyncResp
  | _ => False

/-- Labels of a call the sketch makes. -/
def AppLabel (ev : McuEvent) : Label → Prop
  | .bypass _ => ∃ c, sends P s ev = some c ∧ s.bypassesQueue c.toUnderlying = true
  | .emit f => f.env.rawCommand = Command.linkSyncResp.toUnderlying → impersonates ev
  | l => SendLabel (s.txEnabled = true ∨ unguarded P s ev = true) l

def EventLabel : McuEvent → Label → Prop
  | .recv hal (some env), l => RecvLabel P s hal env l
  | .recv _ none, l => l = .quiet
  | .onAckTimeout, l =>
    TxLabel (unguarded P s .onAckTimeout = true) l ∨
      RetriesExhausted s ∧ (l = .enable false ∨ l = .clear .exhausted)
  | .enterSafeState, l => l = .quiet ∨ l = .enable false ∨ l = .clear .safe
  | .onRxDedupe, l => l = .history
  | .onHandshakeTimeout, l => s.isSynchronized = false ∧ (l = .enable false ∨ l = .fsm .timeout)
  | ev, l => AppLabel P s ev l

theorem SendLabel.app {ev : McuEvent} {l : Label}
    (h : SendLabel (s.txEnabled = true ∨ unguarded P s ev = true) l) : AppLabel P s ev l := by
  cases l <;> first | exact h | exact h.elim

/-- The labels of a method whose frames all leave on one unguarded path. -/
theorem TxLabel.app {ev : McuEvent} {g : Prop} (hg : g → unguarded P s ev = true) {l : Label} (h : TxLabel g l) :
    AppLabel P s ev l :=
  SendLabel.app P s (h.weaken fun h => .inr (hg h)).send

theorem CallLabel.app {ev : McuEvent} {c : Command} (hc : sends P s ev = some c)
    (himp : c.toUnderlying = Command.linkSyncResp.toUnderlying → impersonates ev) {l : Label}
    (h : CallLabel s (s.txEnabled = true ∨ unguarded P s ev = true) c l) : AppLabel P s ev l := by
  cases l with
  | bypass f => exact ⟨c, hc, h⟩
  | emit f =>
    have hcmd : f.env.rawCommand = c.toUnderlying := h
    intro hf
    exact himp (hcmd ▸ hf)
  | _ => exact h

theorem toUnderlying_eq_linkSyncResp {c : Command} (h : c.toUnderlying = Command.linkSyncResp.toUnderlying) :
    c = .linkSyncResp := by
  cases c <;> first | rfl | exact absurd h (by decide)

/-- A command the link itself reacts to is a system command. -/
theorem DispatchLabel.tx_of_not_system {hal : Hal} {env : RpcEnvelope} {l : Label}
    (h : DispatchLabel P s hal env l) (henv : isSystemCommand env.rawCommand = false) :
    TxLabel (s.unguardedFrame P hal env = true) l ∨ l = .handle := by
  have hne : ∀ {c : UInt16}, isSystemCommand c = true → env.rawCommand ≠ c := by
    rintro c hc rfl
    rw [henv] at hc
    cases hc
  have hsync : linkSyncOf P s env = none := by
    unfold linkSyncOf
    rw [if_neg fun h => hne (by decide) h.1]
  have hack : ¬ MatchingAck P s env := fun h => hne (by decide) h.1
  cases l with
  | quiet => exact .inl trivial
  | encrypt => exact .inl h.2
  | copy => exact .inl h.2
  | handle => exact .inr rfl
  | enable b =>
    rcases h with ⟨-, hcmd⟩ | ⟨-, hcmd⟩
    · exact (hne (by cases b <;> decide) hcmd).elim
    · exact (hne (by decide) hcmd).elim
  | fsm ev =>
    cases ev with
    | reset => exact (hne (by decide) h).elim
    | handshakeFailed => exact (hne (by decide) h).elim
    | _ => exact h.elim
  | clear w =>
    cases w with
    | ack => exact (hack h).elim
    | safe => exact (hne (by decide) h).elim
    | exhausted => exact h.elim
  | derive n =>
    obtain ⟨m, hm, -⟩ := h
    rw [hsync] at hm
    cases hm
  | complete | answer =>
    obtain ⟨m, hm, -⟩ := h
    rw [hsync] at hm
    cases hm
  | _ => exact h.elim

theorem decryptFrame_lt {env : RpcEnvelope} {c : UInt64} {plain : Bytes}
    (h : s.decryptFrame P env = some (c, plain)) : s.rxNonceCounter < c := by
  unfold decryptFrame at h
  dsimp only at h
  split at h
  · cases h
  · obtain ⟨_, -, h⟩ := Option.bind_eq_some_iff.1 h
    obtain ⟨_, hv, h⟩ := Option.map_eq_some_iff.1 h
    cases h
    exact validateFrameNonce_lt hv

theorem handleReceivedFrame_steps (hal : Hal) (env : RpcEnvelope) :
    Steps (Micro P) (RecvLabel P s hal env) s (s.handleReceivedFrame P hal (some env)) := by
  rcases handleReceivedFrame_cases P s hal env with h | ⟨c, plain, henc, hdec, h⟩ | ⟨hclear, h⟩
  · exact h.steps trivial
  · rw [h]
    obtain ⟨hsync, hsecret, hsys⟩ := (s.doEncrypt_iff).1 henc
    have hcount : RecvLabel P s hal env (.counter c) := ⟨plain, henc, hdec⟩
    have hne : env.rawCommand ≠ Command.linkSync.toUnderlying := by
      intro hcmd
      rw [hcmd] at hsys
      exact absurd hsys (by decide)
    refine Steps.trans (.single hcount (.counter hsync hsecret (decryptFrame_lt P s hdec))) ?_
    refine (dispatchCommand_steps P _ hal _).mono fun l hl => ?_
    have hun : (s.acceptCounter c).unguardedFrame P hal
        { env with payloadType := P.encryptedStore env.payloadType plain } = true →
        unguarded P s (.recv hal (some env)) = true := by
      intro hu
      simp only [unguarded, dispatched, henc, if_true, hdec, Option.map_some, Option.any_some]
      rw [← hu]
      unfold unguardedFrame
      refine congrArg _ ?_
      apply unguardedDispatch_congr P (s.acceptCounter c) <;> rfl
    rcases hl with rfl | hl
    · trivial
    rcases DispatchLabel.tx_of_not_system P _ hl hsys with ht | rfl
    · cases l with
      | quiet => trivial
      | encrypt => exact ⟨hne, hun ht⟩
      | copy => exact ⟨hne, ht.imp_left hun⟩
      | _ => exact ht.elim
    · trivial
  · rw [h]
    have hun : s.unguardedFrame P hal env = true → unguarded P s (.recv hal (some env)) = true := by
      intro hu
      simpa [unguarded, dispatched, hclear] using hu
    refine (dispatchCommand_steps P s hal env).mono fun l hl => ?_
    rcases hl with rfl | hl
    · trivial
    cases l with
    | encrypt => exact ⟨hl.1, hun hl.2⟩
    | copy => exact ⟨hl.1, hl.2.imp_left hun⟩
    | counter => exact hl.elim
    | history => trivial
    | _ => exact hl

theorem onAckTimeout_steps : Steps (Micro P) (EventLabel P s .onAckTimeout) s (s.onAckTimeout P) := by
  unfold onAckTimeout
  split
  · exact .refl
  case isFalse ha =>
    have ha : s.isAwaitingAck = true := by simpa using ha
    have hretry : Quiet s { s with retryCount := s.retryCount + 1 } :=
      .of_eq (by simp) rfl
    refine Steps.trans (hretry.steps (.inl trivial)) ?_
    dsimp only
    split
    case isTrue hlimit =>
      refine Steps.trans ((Quiet.stopTimer .ackTimeout _).steps (.inl trivial)) ?_
      refine Steps.trans (.single (l := .enable false) (.inr ⟨⟨ha, hlimit⟩, .inl rfl⟩) (.enable false)) ?_
      exact .single (l := .clear .exhausted) (.inr ⟨⟨ha, hlimit⟩, .inr rfl⟩) (.clear _)
    case isFalse hlimit =>
      refine (retransmitLastFrame_steps P _).mono fun _ h => .inl (h.weaken fun hfront => ?_)
      have hlt : s.retryCount + 1 < s.retryLimit := UInt8.not_le.1 hlimit
      have hfront : s.frontApp = true := hfront
      simp [unguarded, ha, hlt, hfront]

/-! ### The services' entry points -/

/-- CONSOLE_WRITE is reliable, so the console takes no unguarded path. -/
theorem sendsUnguarded_consoleWrite (packet : PayloadType) : s.sendsUnguarded P .consoleWrite packet = false := by
  unfold sendsUnguarded
  rw [show requiresAck Command.consoleWrite.toUnderlying = true by decide]
  simp

theorem consoleProcess_steps :
    Steps (Micro P) (CallLabel s (s.txEnabled = true) .consoleWrite) s (s.consoleProcess P) := by
  have hsend : ∀ seq packet, Steps (Micro P) (CallLabel s (s.txEnabled = true) .consoleWrite) s
      (s.send P .consoleWrite seq packet).1 := by
    intro seq packet
    have h := send_steps P s .consoleWrite seq packet
    simpa only [sendsUnguarded_consoleWrite, Bool.false_eq_true, or_false] using h
  unfold consoleProcess
  split
  · exact .refl
  dsimp only
  split
  · exact (hsend _ _).trans ((Quiet.services _ _).steps trivial)
  · exact hsend _ _

/-- No step of a `send` changes what its gate looks at. -/
theorem CallLabel.gate {g : Prop} {c : Command} {l : Label} {t u : Mcu} (hl : CallLabel s g c l) (h : Micro P l t u) :
    u.isSynchronized = t.isSynchronized ∧ u.sharedSecret = t.sharedSecret ∧ u.txEnabled = t.txEnabled := by
  cases h with
  | quiet h => exact ⟨congrArg StateId.isSynchronized h.fsm, h.sharedSecret, h.txEnabled⟩
  | @fsm t ev hev =>
    refine ⟨?_, rfl, rfl⟩
    cases ev with
    | sendCritical => exact StateId.isSynchronized_sendCritical t.fsm
    | _ => exact hl.elim
  | flush | encrypt | enqueue | bypass | emit | copy => exact ⟨rfl, rfl, rfl⟩
  | _ => exact hl.elim

theorem CallLabel.bypassesQueue {g : Prop} {c : Command} {t u : Mcu} (h : Steps (Micro P) (CallLabel s g c) t u)
    (cmd : UInt16) : u.bypassesQueue cmd = t.bypassesQueue cmd ∧ u.txEnabled = t.txEnabled := by
  refine h.invariant (I := fun v => v.bypassesQueue cmd = t.bypassesQueue cmd ∧ v.txEnabled = t.txEnabled) ?_ ⟨rfl, rfl⟩
  intro l v w hl hm hv
  obtain ⟨hsync, hsec, htx⟩ := CallLabel.gate P s hl hm
  refine ⟨?_, htx.trans hv.2⟩
  rw [← hv.1]
  unfold Mcu.bypassesQueue doEncrypt
  rw [hsync, hsec, htx]

theorem consoleWrite_steps (data : Bytes) :
    Steps (Micro P) (CallLabel s (s.txEnabled = true) .consoleWrite) s (s.consoleWrite P data) := by
  have hfull : Steps (Micro P) (CallLabel s (s.txEnabled = true) .consoleWrite) s (s.consoleProcessIfFull P) := by
    unfold consoleProcessIfFull
    split
    · exact consoleProcess_steps P s
    · exact .refl
  have hinsert : ∀ (t : Mcu) (b : Bytes),
      Steps (Micro P) (CallLabel s (s.txEnabled = true) .consoleWrite) t (t.consoleTxInsert b) :=
    fun t b => (Quiet.services t _).steps trivial
  unfold consoleWrite
  split
  · exact .refl
  dsimp only
  generalize data.take (min _ _) = head
  have hhead := hfull.trans (hinsert _ head)
  obtain ⟨hbypass, hen⟩ := CallLabel.bypassesQueue P s hhead Command.consoleWrite.toUnderlying
  split
  · refine (hhead.trans ?_).trans (hinsert _ _)
    refine (consoleProcess_steps P _).mono fun l hl => ?_
    cases l with
    | bypass f => exact hbypass.symm.trans hl
    | encrypt => exact hen.symm.trans hl
    | copy => exact hl.imp_left hen.symm.trans
    | fsm ev => cases ev <;> exact hl
    | _ => exact hl
  · exact hhead

theorem consoleWrite_fits {data : Bytes}
    (h : s.services.consoleTx.length + data.length ≤ P.consoleTxBufferSize) : Quiet s (s.consoleWrite P data) := by
  unfold consoleWrite
  split
  · exact .refl s
  case isFalse hne =>
    have hpos : 0 < data.length := List.length_pos_iff.2 (by simpa using hne)
    have hfull : s.consoleProcessIfFull P = s := by
      unfold consoleProcessIfFull consoleTxFull
      rw [if_neg (by simp only [decide_eq_true_eq]; omega)]
    rw [hfull]
    dsimp only
    rw [if_neg]
    · exact Quiet.services s _
    · rw [Bool.and_eq_true, decide_eq_true_iff]
      omega

theorem dataStoreGet_steps (key : Bytes) (valid : Bool) :
    Steps (Micro P) (TxLabel (unguarded P s (.dataStoreGet key valid) = true)) s (s.dataStoreGet P key valid) := by
  unfold dataStoreGet
  split
  · exact (emitStatus_quiet P s _ _).steps trivial
  case isFalse hroom =>
    dsimp only
    refine Steps.trans ((send_unreliable_steps P s (c := .datastoreGet) (by decide) 0 (.datastoreGet (key.take 31))).mono
      fun _ => TxLabel.weaken fun h => ?_) ?_
    · simpa [unguarded, h] using hroom
    split
    · exact (emitStatus_quiet P _ _ _).steps trivial
    · exact (Quiet.services _ _).steps trivial

theorem fileSystemRead_steps (path : Bytes) (valid : Bool) :
    Steps (Micro P) (TxLabel (unguarded P s (.fileSystemRead path valid) = true)) s
      (s.fileSystemRead P path valid) := by
  unfold fileSystemRead
  refine Steps.trans ((Quiet.services s { s.services with readHandler := valid }).steps trivial) ?_
  dsimp only
  refine Steps.trans ((send_unreliable_steps P _ (c := .fileRead) (by decide) 0 (.fileRead (path.take 63))).mono
    fun _ => TxLabel.weaken id) ?_
  split
  · exact (emitStatus_quiet P _ _ _).steps trivial
  · exact .refl

theorem processFail_quiet (f : ProcessFailure) (valid : Bool) : Quiet s (s.processFail P f valid) := by
  unfold processFail
  dsimp only
  split
  · exact (emitStatus_quiet P s _ _).trans (.act _ _)
  · exact emitStatus_quiet P s _ _

theorem processRunAsync_steps (cmd : Bytes) (args : List Bytes) (valid : Bool) :
    Steps (Micro P) (TxLabel (unguarded P s (.processRunAsync cmd args valid) = true)) s
      (s.processRunAsync P cmd args valid) := by
  unfold processRunAsync
  split
  · exact (processFail_quiet P s _ _).steps trivial
  case isFalse hroom =>
    split
    · exact (processFail_quiet P s _ _).steps trivial
    case h_2 line hline =>
      dsimp only
      refine Steps.trans ((send_unreliable_steps P s (c := .processRunAsync) (by decide) 0
        (.processRunAsync (line.take 59))).mono fun _ => TxLabel.weaken fun h => ?_) ?_
      · dsimp only [unguarded]
        rw [Bool.eq_false_iff.2 hroom, hline]
        simpa using h
      split
      · exact (processFail_quiet P _ _ _).steps trivial
      split
      · exact (Quiet.services _ _).steps trivial
      · exact .refl

theorem processPoll_steps (pid : UInt32) (valid : Bool) :
    Steps (Micro P) (TxLabel (unguarded P s (.processPoll pid valid) = true)) s (s.processPoll P pid valid) := by
  unfold processPoll
  split
  · exact (emitStatus_quiet P s _ _).steps trivial
  case isFalse hroom =>
    dsimp only
    refine Steps.trans ((send_unreliable_steps P s (c := .processPoll) (by decide) 0 (.processPoll pid)).mono
      fun _ => TxLabel.weaken fun h => ?_) ?_
    · dsimp only [unguarded]
      rw [Bool.eq_false_iff.2 hroom]
      simpa using h
    split
    · exact (emitStatus_quiet P _ _ _).steps trivial
    split
    · exact (Quiet.services _ _).steps trivial
    · exact .refl

theorem serialTask_quiet (avail : Nat) : Quiet s (s.serialTask P avail) := by
  have hflag : ∀ (t : Mcu) (b : Bool), Quiet t { t with serialXoffSent := b } :=
    fun _ _ => .of_eq (by simp) rfl
  unfold serialTask
  split
  · exact (sendFrame_system_quiet P s (by decide) (by decide) (by decide) _ _).trans (hflag _ _)
  split
  · exact (sendFrame_system_quiet P s (by decide) (by decide) (by decide) _ _).trans (hflag _ _)
  · exact .refl s

theorem onBaudrateChange_quiet : Quiet s s.onBaudrateChange := by
  unfold onBaudrateChange
  split
  · dsimp only
    split <;> exact .of_eq (by simp [act]) rfl
  · exact .refl s

theorem mailboxProcess_quiet : Quiet s s.mailboxProcess := by
  unfold mailboxProcess
  split
  · exact .refl s
  split
  · exact (Quiet.act _ s).trans (.services _ _)
  · exact .refl s

/-- The specification of one event. -/
theorem step_steps (ev : McuEvent) : Steps (Micro P) (EventLabel P s ev) s (step P ev s) := by
  cases ev with
  | recv hal res =>
    cases res with
    | none =>
      show Steps _ _ s (s.emitStatus P .malformed none)
      exact .single (l := .quiet) rfl (.quiet (emitStatus_quiet P s _ _))
    | some env => exact handleReceivedFrame_steps P s hal env
  | sendFrame cmd seq p =>
    refine (sendFrame_steps P s cmd seq p).mono fun l hl => ?_
    cases l with
    | emit f =>
      have hcmd : f.env.rawCommand = cmd := hl
      exact fun hf => hcmd.symm.trans hf
    | encrypt => exact .inl hl
    | copy => exact hl.imp_left .inl
    | fsm ev => cases ev <;> exact hl
    | bypass => exact hl.elim
    | _ => exact hl
  | send c seq packet =>
    exact (send_steps P s c seq packet).mono fun _ h =>
      @CallLabel.app P s (.send c seq packet) c rfl toUnderlying_eq_linkSyncResp _ h
  | sendStatus st seq packet => exact (sendStatus_quiet P s st seq packet).steps trivial
  | emitStatus st message => exact (emitStatus_quiet P s st message).steps trivial
  | retransmitLastFrame => exact (retransmitLastFrame_steps P s).mono fun _ h => @TxLabel.app P s .retransmitLastFrame _ id _ h
  | enterSafeState => exact enterSafeState_steps P s (.inl rfl) (.inr (.inl rfl)) (.inr (.inr rfl))
  | onAckTimeout => exact onAckTimeout_steps P s
  | onRxDedupe => exact .single (l := .history) rfl (.history [])
  | onBaudrateChange => exact (onBaudrateChange_quiet s).steps trivial
  | onBootloaderDelay => exact (Quiet.act _ s).steps trivial
  | onHandshakeTimeout =>
    show Steps _ _ s s.onHandshakeTimeout
    unfold onHandshakeTimeout
    split
    · exact .refl
    case isFalse hsync =>
      have hsync := Bool.eq_false_iff.2 hsync
      exact Steps.trans (.single (l := .fsm .timeout) ⟨hsync, .inr rfl⟩ (.fsm (by decide) nofun))
        (.single (l := .enable false) ⟨hsync, .inl rfl⟩ (.enable false))
  | serialTask avail => exact (serialTask_quiet P s avail).steps trivial
  | consoleBegin => exact (Quiet.services s _).steps trivial
  | consoleWrite data =>
    show Steps _ (AppLabel P s (.consoleWrite data)) s (s.consoleWrite P data)
    cases hs : sends P s (.consoleWrite data) with
    | none =>
      have hfits : data.isEmpty || s.services.consoleTx.length + data.length ≤ P.consoleTxBufferSize := by
        by_contra hno
        rw [sends, if_neg hno] at hs
        cases hs
      rcases Bool.or_eq_true_iff.1 hfits with hnil | hfits
      · unfold Mcu.consoleWrite
        rw [if_pos hnil]
        exact .refl
      · exact (consoleWrite_fits P s (of_decide_eq_true hfits)).steps trivial
    | some c =>
      obtain rfl : c = .consoleWrite := by
        simp only [sends, Option.ite_none_left_eq_some, Option.some.injEq] at hs
        exact hs.2.symm
      exact (consoleWrite_steps P s data).mono fun _ h =>
        CallLabel.app P s hs (fun h => absurd h (by decide)) (h.weaken s .inl)
  | consoleProcess =>
    show Steps _ (AppLabel P s .consoleProcess) s (s.consoleProcess P)
    cases hempty : s.services.consoleTx.isEmpty with
    | true =>
      unfold Mcu.consoleProcess
      rw [if_pos hempty]
      exact .refl
    | false => exact (consoleProcess_steps P s).mono fun _ h =>
      CallLabel.app P s (by simp [sends, hempty]) (fun h => absurd h (by decide)) (h.weaken s .inl)
  | dataStoreGet key valid => exact (dataStoreGet_steps P s key valid).mono fun _ => TxLabel.app P s id
  | fileSystemRead path valid => exact (fileSystemRead_steps P s path valid).mono fun _ => TxLabel.app P s id
  | processRunAsync cmd args valid =>
    exact (processRunAsync_steps P s cmd args valid).mono fun _ => TxLabel.app P s id
  | processPoll pid valid => exact (processPoll_steps P s pid valid).mono fun _ => TxLabel.app P s id
  | mailboxProcess => exact (mailboxProcess_quiet s).steps trivial
  | register c m a =>
    exact Quiet.steps (.of_eq (by simp [step, register]) rfl) trivial

/-! ### Frames that are refused -/

/-- A frame that fails the security check is not looked up. -/
theorem dispatchCommand_refused (hal : Hal) {env : RpcEnvelope} (h : s.isSecurityCheckPassed env.rawCommand = false) :
    (s.dispatchCommand P hal env).handled = s.handled := by
  have hrefuse : ∀ u : Mcu, u.isSecurityCheckPassed env.rawCommand = false →
      (u.dispatchContext P hal (s.commandContext env)).handled = u.handled := by
    intro u hu
    have hcheck : u.isSecurityCheckPassed (s.commandContext env).rawCommand = false := hu
    unfold dispatchContext
    rw [hcheck]
    exact (sendFrame_status_quiet P u _ _ _).handled
  unfold dispatchCommand
  dsimp only
  split
  · exact hrefuse s h
  · exact hrefuse _ h

/-- A frame that does not get past the checks runs nothing. -/
theorem recv_refused (hal : Hal) {env : RpcEnvelope} (h : s.admits P env = false) :
    (step P (.recv hal (some env)) s).handled = s.handled := by
  show (s.handleReceivedFrame P hal (some env)).handled = s.handled
  unfold admits dispatched at h
  rcases handleReceivedFrame_cases P s hal env with hq | ⟨c, plain, henc, hopen, heq⟩ | ⟨henc, heq⟩
  · exact hq.handled
  · -- the frame opened: it is a frame of the session, which passes
    rw [henc, if_pos rfl, hopen] at h
    rw [heq]
    exact dispatchCommand_refused P (s.acceptCounter c) hal h
  · rw [henc, if_neg (by decide)] at h
    rw [heq]
    exact dispatchCommand_refused P s hal h

end Mcu
end McuBridge
