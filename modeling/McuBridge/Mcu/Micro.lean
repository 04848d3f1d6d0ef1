import McuBridge.Mcu.Step

/-! # What one call can do

Every method of the firmware is a chain of small steps (`Micro`), and the labels say which. `Quiet` steps
touch none of the fields the link invariants speak about. This module takes the transmit side apart;
the handlers and the events follow in `DispatchSteps`. -/

namespace McuBridge

/-- The envelope left in the clear: the single-pass path leaves the nonce empty, `_transmit` zeroes it. -/
def Sent.Clear (f : Sent) : Prop :=
  f.sealNo = none ∧ (f.env.nonce = [] ∨ f.env.nonce = List.replicate aeadNonceSize 0)

/-- A clear frame that is no answer to a handshake. -/
def Sent.Plain (f : Sent) : Prop := f.Clear ∧ f.env.rawCommand ≠ Command.linkSyncResp.toUnderlying

/-- The check of `_tx_enabled` lets `f` through. -/
def Mcu.Permits (s : Mcu) (f : Sent) : Prop := s.txEnabled = true ∨ isSystemCommand f.env.rawCommand = true

/-- `s'` differs from `s` in fields no link invariant reads, and by plain frames put on the wire, with
transmission enabled or for a system command. -/
structure Quiet (s s' : Mcu) : Prop where
  fsm : s'.fsm = s.fsm
  sharedSecret : s'.sharedSecret = s.sharedSecret
  sessionKey : s'.sessionKey = s.sessionKey
  txNonceCounter : s'.txNonceCounter = s.txNonceCounter
  rxNonceCounter : s'.rxNonceCounter = s.rxNonceCounter
  pendingTxQueue : s'.pendingTxQueue = s.pendingTxQueue
  rxHistory : s'.rxHistory = s.rxHistory
  lastCommandId : s'.lastCommandId = s.lastCommandId
  txEnabled : s'.txEnabled = s.txEnabled
  seals : s'.seals = s.seals
  derived : s'.derived = s.derived
  accepts : s'.accepts = s.accepts
  handled : s'.handled = s.handled
  accepted : s'.accepted = s.accepted
  txPayloadPool : s'.txPayloadPool = s.txPayloadPool
  wire : ∃ fs, s'.wire = s.wire ++ fs ∧ ∀ f ∈ fs, f.Plain ∧ s.Permits f

/-- Why the reliable queue is emptied. -/
inductive ClearCause where
  | ack | exhausted | safe
  deriving DecidableEq

/-- The FSM event that goes with it. -/
def ClearCause.event : ClearCause → FsmEvent
  | .ack => .ackReceived
  | .exhausted => .timeout
  | .safe => .reset

/-- A wait for an ACK ends with each of them. -/
theorem StateId.onEvent_clear (q : StateId) (w : ClearCause) : q.onEvent w.event ≠ .awaitingAck := by
  cases q <;> cases w <;> decide

theorem ClearCause.event_ne (w : ClearCause) : w.event ≠ .handshakeComplete := by
  cases w <;> decide

inductive Label where
  | quiet
  | emit (f : Sent)
  | copy (cmd : UInt16)
  | answer
  | flush
  | encrypt
  | enqueue (f : PendingTxFrame)
  | bypass (f : ReliableFrame)
  | enable (b : Bool)
  | clear (w : ClearCause)
  | fsm (ev : FsmEvent)
  | derive (nonce : Bytes)
  | complete
  | counter (c : UInt64)
  | handle
  | history

/-- The state after a call of `aead_encrypt_frame`, with the frames `out` on the wire. -/
def Mcu.sealing (s : Mcu) (out : List Sent) : Mcu :=
  { s with
    txNonceCounter := s.txNonceCounter + 1
    seals := s.seals ++ [(s.sessionKey, mcuNonce (s.txNonceCounter + 1))]
    wire := s.wire ++ out }

/-- `f` is what the next call of `aead_encrypt_frame` makes of some application payload. -/
def SealedFrame (P : Platform) (s : Mcu) (f : Sent) : Prop :=
  f.sealNo = some s.seals.length ∧ ∃ cmd seq p ct tag, isSystemCommand cmd = false ∧
    P.aeadEncrypt s.sessionKey (mcuNonce (s.txNonceCounter + 1)) (P.aad cmd.toUInt32 seq.toUInt32) p = some (ct, tag) ∧
    f.env = Mcu.rawEnvelope cmd seq (mcuNonce (s.txNonceCounter + 1)) (ct.take maxPayloadSize ++ tag)

inductive Micro (P : Platform) : Label → Mcu → Mcu → Prop where
  | quiet {s s' : Mcu} (h : Quiet s s') : Micro P .quiet s s'
  | emit {s : Mcu} {f : Sent} (h : f.Clear) (hp : s.Permits f) :
      Micro P (.emit f) s { s with wire := s.wire ++ [f] }
  | copy {s : Mcu} {f : Sent} {g : PendingTxFrame} {rest : List PendingTxFrame} (h : f.Clear)
      (hq : s.pendingTxQueue = g :: rest) (hcmd : f.env.rawCommand = g.commandId) :
      Micro P (.copy g.commandId) s { s with wire := s.wire ++ [f] }
  | answer {s : Mcu} {f : Sent} {m : LinkSync} (h : f.Clear)
      (hcmd : f.env.rawCommand = Command.linkSyncResp.toUnderlying) (hf : f.env.payloadType = .linkSync m)
      (hm : m.tag = [] ∨ m.nonce ∈ s.derived) :
      Micro P .answer s { s with wire := s.wire ++ [f] }
  | flush {s : Mcu} {f : PendingTxFrame} {rest : List PendingTxFrame} (h : s.pendingTxQueue = f :: rest) :
      Micro P .flush s { s with lastCommandId := f.commandId, retryCount := 0 }
  | encrypt {s : Mcu} {out : Option Sent} (hs : s.isSynchronized = true) (hk : s.sharedSecret ≠ [])
      (hout : ∀ f ∈ out, SealedFrame P s f) :
      Micro P .encrypt s (s.sealing out.toList)
  | enqueue {s : Mcu} (f : PendingTxFrame) (hack : requiresAck f.commandId = true)
      (hroom : s.pendingTxQueue.length < P.maxPendingTxFrames) (hbuf : s.allocate P = some f.buffer)
      (hlen : f.data.length ≤ maxPayloadSize) :
      Micro P (.enqueue f) s
        { s with
          txPayloadPool := f.buffer :: s.txPayloadPool
          pendingTxQueue := s.pendingTxQueue ++ [f]
          accepted := s.accepted ++ [f.frame] }
  | bypass {s : Mcu} (f : ReliableFrame) : Micro P (.bypass f) s { s with accepted := s.accepted ++ [f] }
  | enable {s : Mcu} (b : Bool) : Micro P (.enable b) s { s with txEnabled := b }
  | clear {s : Mcu} (w : ClearCause) : Micro P (.clear w) s (s.clearPendingTxQueue.receive w.event)
  | fsm {s : Mcu} {ev : FsmEvent} (hev : ev ≠ .handshakeComplete)
      (hcrit : ev = .sendCritical → ∃ f rest, s.pendingTxQueue = f :: rest ∧ s.lastCommandId = f.commandId) :
      Micro P (.fsm ev) s (s.receive ev)
  | derive {s : Mcu} (nonce : Bytes) : Micro P (.derive nonce) s (s.installSession P nonce)
  | complete {s : Mcu}
      (h : s.sharedSecret = [] ∨ ∃ n ∈ s.derived, s.sessionKey = P.deriveSessionKey s.sharedSecret n) :
      Micro P .complete s ((s.receive .handshakeStart).receive .handshakeComplete)
  | counter {s : Mcu} {c : UInt64} (hs : s.isSynchronized = true) (hk : s.sharedSecret ≠ [])
      (h : s.rxNonceCounter < c) :
      Micro P (.counter c) s (s.acceptCounter c)
  | handle {s : Mcu} (ctx : CommandContext) : Micro P .handle s (s.handle ctx)
  | history {s : Mcu} (hist : List UInt16) : Micro P .history s { s with rxHistory := hist }

/-- A command that is sent without an ACK and is no answer to a handshake. -/
def Unreliable (c : Command) : Prop :=
  requiresAck c.toUnderlying = false ∧ c.toUnderlying ≠ Command.linkSyncResp.toUnderlying

instance (c : Command) : Decidable (Unreliable c) := inferInstanceAs (Decidable (_ ∧ _))

theorem toUInt16_toUInt32 (c : UInt16) : c.toUInt32.toUInt16 = c := by simp

theorem status_ne_linkSyncResp (st : Status) : st.toUnderlying ≠ Command.linkSyncResp.toUnderlying := by
  cases st <;> decide

namespace Quiet
variable {s s' s'' : Mcu}

theorem of_eq (h : s'.fsm = s.fsm ∧ s'.sharedSecret = s.sharedSecret ∧ s'.sessionKey = s.sessionKey ∧
    s'.txNonceCounter = s.txNonceCounter ∧ s'.rxNonceCounter = s.rxNonceCounter ∧
    s'.pendingTxQueue = s.pendingTxQueue ∧ s'.rxHistory = s.rxHistory ∧ s'.lastCommandId = s.lastCommandId ∧
    s'.txEnabled = s.txEnabled ∧ s'.seals = s.seals ∧ s'.derived = s.derived ∧ s'.accepts = s.accepts ∧
    s'.handled = s.handled ∧ s'.accepted = s.accepted ∧ s'.txPayloadPool = s.txPayloadPool) (hw : s'.wire = s.wire) :
    Quiet s s' := by
  obtain ⟨h₁, h₂, h₃, h₄, h₅, h₆, h₇, h₈, h₉, h₁₀, h₁₁, h₁₂, h₁₃, h₁₄, h₁₅⟩ := h
  exact ⟨h₁, h₂, h₃, h₄, h₅, h₆, h₇, h₈, h₉, h₁₀, h₁₁, h₁₂, h₁₃, h₁₄, h₁₅, [], by simp [hw], by simp⟩

theorem refl (s : Mcu) : Quiet s s := of_eq (by simp) rfl

theorem trans (h : Quiet s s') (h' : Quiet s' s'') : Quiet s s'' := by
  refine ⟨h'.1.trans h.1, h'.2.trans h.2, h'.3.trans h.3, h'.4.trans h.4, h'.5.trans h.5, h'.6.trans h.6,
    h'.7.trans h.7, h'.8.trans h.8, h'.9.trans h.9, h'.10.trans h.10, h'.11.trans h.11, h'.12.trans h.12,
    h'.13.trans h.13, h'.14.trans h.14, h'.15.trans h.15, ?_⟩
  obtain ⟨fs, hfs, hplain⟩ := h.wire
  obtain ⟨fs', hfs', hplain'⟩ := h'.wire
  refine ⟨fs ++ fs', by rw [hfs', hfs, List.append_assoc], ?_⟩
  intro f hf
  rcases List.mem_append.1 hf with hf | hf
  · exact hplain f hf
  · obtain ⟨hp, hperm⟩ := hplain' f hf
    exact ⟨hp, by rwa [Mcu.Permits, h.txEnabled] at hperm⟩

theorem steps {P : Platform} {Q : Label → Prop} (h : Quiet s s') (hQ : Q .quiet) : Steps (Micro P) Q s s' :=
  .single hQ (.quiet h)

theorem act (a : Act) (s : Mcu) : Quiet s (s.act a) := of_eq (by simp [Mcu.act]) rfl

theorem services (s : Mcu) (v : Services) : Quiet s { s with services := v } := of_eq (by simp) rfl

theorem startTimer (t : TimerId) (s : Mcu) : Quiet s (s.startTimer t) := of_eq (by simp [Mcu.startTimer]) rfl

theorem stopTimer (t : TimerId) (s : Mcu) : Quiet s (s.stopTimer t) := of_eq (by simp [Mcu.stopTimer]) rfl

theorem serializeAndSend (P : Platform) {f : Sent} (hf : f.Plain) {s : Mcu} (hp : s.Permits f) :
    Quiet s (s.serializeAndSend P f) := by
  refine ⟨rfl, rfl, rfl, rfl, rfl, rfl, rfl, rfl, rfl, rfl, rfl, rfl, rfl, rfl, rfl, ?_⟩
  unfold Mcu.serializeAndSend
  dsimp only
  split
  · exact ⟨[f], rfl, by simpa using ⟨hf, hp⟩⟩
  · exact ⟨[], by simp, by simp⟩

end Quiet

namespace Mcu
variable (P : Platform) (s : Mcu)

theorem doEncrypt_system {cmd : UInt16} (h : isSystemCommand cmd = true) : s.doEncrypt cmd = false := by
  simp [doEncrypt, h]

theorem doEncrypt_iff {cmd : UInt16} :
    s.doEncrypt cmd = true ↔ s.isSynchronized = true ∧ s.sharedSecret ≠ [] ∧ isSystemCommand cmd = false := by
  simp [doEncrypt, and_assoc]

/-! ### Transmission -/

theorem rawEnvelope_rawCommand (cmd seq : UInt16) (nonce p : Bytes) :
    (rawEnvelope cmd seq nonce p).rawCommand = cmd :=
  toUInt16_toUInt32 cmd

theorem serializeAndSend_steps {Q : Label → Prop} {f : Sent} {l : Label} (hl : Q l)
    (h : Micro P l s { s with wire := s.wire ++ [f] }) : Steps (Micro P) Q s (s.serializeAndSend P f) := by
  unfold serializeAndSend
  split
  · exact .single hl h
  · exact .refl

theorem transmit_sealed {cmd : UInt16} (h : s.doEncrypt cmd = true) (seq : UInt16) (p : Bytes) (ticket : Option Nat) :
    s.transmit P cmd seq p ticket = s.sealing [] ∨ ∃ f, SealedFrame P s f ∧ s.transmit P cmd seq p ticket = s.sealing [f] := by
  have hsys := ((s.doEncrypt_iff).1 h).2.2
  unfold transmit aeadEncryptFrame
  rw [if_pos h]
  dsimp only
  cases henc : P.aeadEncrypt s.sessionKey (mcuNonce (s.txNonceCounter + 1)) (P.aad cmd.toUInt32 seq.toUInt32) p with
  | none => exact .inl (by simp [sealing])
  | some r =>
    obtain ⟨ct, tag⟩ := r
    simp only [Option.map_some]
    unfold serializeAndSend
    split
    · exact .inr ⟨_, ⟨rfl, cmd, seq, p, ct, tag, hsys, henc, rfl⟩, rfl⟩
    · exact .inl (by simp [sealing])

/-- `_transmit` seals the frame, or puts it on the wire in the clear with the step `hclear` names. -/
theorem transmit_steps {Q : Label → Prop} (cmd seq : UInt16) (p : Bytes) (ticket : Option Nat)
    (henc : s.doEncrypt cmd = true → Q .encrypt)
    (hclear : s.doEncrypt cmd = false → ∀ f : Sent, f.Clear → f.env.rawCommand = cmd →
      ∃ l, Q l ∧ Micro P l s { s with wire := s.wire ++ [f] }) :
    Steps (Micro P) Q s (s.transmit P cmd seq p ticket) := by
  cases h : s.doEncrypt cmd with
  | true =>
    obtain ⟨hs, hk, -⟩ := (s.doEncrypt_iff).1 h
    rcases transmit_sealed P s h seq p ticket with heq | ⟨f, hf, heq⟩
    · rw [heq]
      exact .single (henc h) (@Micro.encrypt P s none hs hk nofun)
    · rw [heq]
      exact .single (henc h) (@Micro.encrypt P s (some f) hs hk (by rintro g ⟨⟩; exact hf))
  | false =>
    unfold transmit
    rw [if_neg (by rw [h]; decide)]
    obtain ⟨l, hl, hstep⟩ := hclear h
      ⟨rawEnvelope cmd seq (List.replicate aeadNonceSize 0) (p.take maxPayloadSize), ticket, none⟩
      ⟨rfl, .inr rfl⟩ (rawEnvelope_rawCommand ..)
    exact serializeAndSend_steps P s hl hstep

/-- Labels of a method that puts frames on the wire: sealed, plain, or clear copies of the front frame.
Beyond what `_tx_enabled` lets through it does so only if `g`. -/
def TxLabel (g : Prop) : Label → Prop
  | .quiet => True
  | .encrypt => g
  | .copy cmd => g ∨ isSystemCommand cmd = true
  | _ => False

theorem TxLabel.weaken {g g' : Prop} (hg : g → g') {l : Label} (h : TxLabel g l) : TxLabel g' l := by
  cases l with
  | quiet => trivial
  | encrypt => exact hg h
  | copy => exact h.imp_left hg
  | _ => exact h.elim

theorem transmit_quiet {cmd : UInt16} (h : isSystemCommand cmd = true)
    (hne : cmd ≠ Command.linkSyncResp.toUnderlying) (seq : UInt16) (p : Bytes) (ticket : Option Nat) :
    Quiet s (s.transmit P cmd seq p ticket) := by
  unfold transmit
  rw [doEncrypt_system s h]
  refine .serializeAndSend P ⟨⟨rfl, .inr rfl⟩, ?_⟩ (.inr ?_)
  · rw [rawEnvelope_rawCommand]
    exact hne
  · rw [rawEnvelope_rawCommand]
    exact h

theorem transmit_front {f : PendingTxFrame} {rest : List PendingTxFrame} (hq : s.pendingTxQueue = f :: rest)
    {g : Prop} (hg : isSystemCommand f.commandId = false → g) :
    Steps (Micro P) (TxLabel g) s (s.transmit P f.commandId f.sequenceId f.data f.ticket) := by
  refine transmit_steps P s _ _ _ _ (fun henc => hg ((s.doEncrypt_iff).1 henc).2.2) fun _ _ hf hcmd => ?_
  refine ⟨.copy f.commandId, ?_, .copy hf hq hcmd⟩
  cases hsys : isSystemCommand f.commandId with
  | true => exact .inr hsys
  | false => exact .inl (hg hsys)

/-- The front of the reliable queue is an application frame. -/
def frontApp : Bool := s.pendingTxQueue.head?.any fun f => !isSystemCommand f.commandId

/-- `_retransmitLastFrame` does not look at `_tx_enabled`. -/
theorem retransmitLastFrame_steps :
    Steps (Micro P) (TxLabel (s.frontApp = true)) s (s.retransmitLastFrame P) := by
  unfold retransmitLastFrame
  split
  · exact .refl
  case h_2 f rest hq =>
    have hfront : isSystemCommand f.commandId = false → s.frontApp = true := by
      intro hsys
      simp [frontApp, hq, hsys]
    exact (transmit_front P s hq hfront).trans ((Quiet.startTimer _ _).steps trivial)

/-- Labels of a flush of the reliable queue. -/
def FlushLabel (g : Prop) : Label → Prop
  | .flush | .fsm .sendCritical => True
  | l => TxLabel g l

theorem TxLabel.flush {g : Prop} {l : Label} (h : TxLabel g l) : FlushLabel g l := by
  cases l <;> first | exact h | exact h.elim

theorem flushPendingTxQueue_steps :
    Steps (Micro P) (FlushLabel (s.txEnabled = true)) s (s.flushPendingTxQueue P) := by
  unfold flushPendingTxQueue
  split
  · exact .refl
  case h_2 f rest hq =>
    split
    · exact .refl
    case isFalse hen =>
      have hen : s.txEnabled = true := by simpa using hen
      refine .trans (.single (l := .flush) trivial (.flush hq)) ?_
      refine .trans (.single (l := .fsm .sendCritical) trivial (.fsm (by decide) fun _ => ⟨f, rest, hq, rfl⟩)) ?_
      refine Steps.trans ((@transmit_front P _ f rest ?_ _ fun _ => hen).mono fun _ => TxLabel.flush)
        ((Quiet.startTimer _ _).steps trivial)
      exact hq

/-- Labels of an accepted `sendFrame` or `send`. -/
def SendLabel (g : Prop) : Label → Prop
  | .enqueue _ => True
  | l => FlushLabel g l

theorem FlushLabel.send {g : Prop} {l : Label} (h : FlushLabel g l) : SendLabel g l := by
  cases l <;> first | exact h | exact h.elim

theorem TxLabel.send {g : Prop} {l : Label} (h : TxLabel g l) : SendLabel g l := h.flush.send

theorem SendLabel.weaken {g g' : Prop} (hg : g → g') {l : Label} (h : SendLabel g l) : SendLabel g' l := by
  cases l with
  | encrypt => exact hg h
  | copy => exact h.imp_left hg
  | fsm ev => cases ev <;> exact h
  | _ => exact h

theorem enqueue_steps {f : PendingTxFrame} (hack : requiresAck f.commandId = true)
    (hroom : s.pendingTxQueue.length < P.maxPendingTxFrames) (hbuf : s.allocate P = some f.buffer)
    (hlen : f.data.length ≤ maxPayloadSize) :
    Steps (Micro P) (SendLabel (s.txEnabled = true)) s (s.enqueue P f) := by
  refine .trans (.single (l := .enqueue f) trivial (.enqueue f hack hroom hbuf hlen)) ?_
  unfold enqueue
  dsimp only
  split
  · exact (flushPendingTxQueue_steps P _).mono fun _ => FlushLabel.send
  · exact .refl

theorem enqueueWith_steps {cmd : UInt16} (hack : requiresAck cmd = true) (seq : UInt16) {data : Bytes}
    (hlen : data.length ≤ maxPayloadSize) :
    Steps (Micro P) (SendLabel (s.txEnabled = true)) s (s.enqueueWith P cmd seq data).1 := by
  unfold enqueueWith
  split
  · exact .refl
  case isFalse hfull =>
    split
    · exact .refl
    case h_2 buf hbuf =>
      exact @enqueue_steps P s ⟨cmd, seq, buf, data, s.accepted.length⟩ hack (Nat.lt_of_not_le hfull) hbuf hlen

theorem sendFrameRaw_quiet {env : RpcEnvelope} {cmd : UInt16} (hnonce : env.nonce = []) (hcmd : env.rawCommand = cmd)
    (hne : cmd ≠ Command.linkSyncResp.toUnderlying) : Quiet s (s.sendFrameRaw P env cmd).1 := by
  unfold sendFrameRaw
  split
  · exact .refl s
  case isFalse h =>
    refine .serializeAndSend P ⟨⟨rfl, .inl hnonce⟩, by rw [hcmd]; exact hne⟩ ?_
    unfold Permits
    rw [hcmd]
    simpa [or_iff_not_imp_left] using h

theorem sendSinglePass_quiet {cmd : UInt16} (hne : cmd ≠ Command.linkSyncResp.toUnderlying) (seq : UInt16)
    (packet : PayloadType) : Quiet s (s.sendSinglePass P cmd seq packet).1 :=
  sendFrameRaw_quiet P s rfl (toUInt16_toUInt32 cmd) hne

theorem sendStatus_quiet (st : Status) (seq : UInt16) (packet : PayloadType) :
    Quiet s (s.sendStatus P st seq packet).1 :=
  sendSinglePass_quiet P s (status_ne_linkSyncResp st) _ _

theorem sendStatus_true (st : Status) (seq : UInt16) (packet : PayloadType) :
    (s.sendStatus P st seq packet).2 = true := by
  simp [sendStatus, sendSinglePass, sendFrameRaw, isSystemCommand_status]

/-- Labels of a call that may put a clear frame with the command `cmd` on the wire. -/
def SpeakLabel (g : Prop) (cmd : UInt16) : Label → Prop
  | .emit f => f.env.rawCommand = cmd
  | l => SendLabel g l

theorem SendLabel.speak {g : Prop} {cmd : UInt16} {l : Label} (h : SendLabel g l) : SpeakLabel g cmd l := by
  cases l <;> first | exact h | exact h.elim

theorem sendFrame_steps (cmd seq : UInt16) (p : Bytes) :
    Steps (Micro P) (SpeakLabel (s.txEnabled = true) cmd) s (s.sendFrame P cmd seq p).1 := by
  unfold sendFrame
  split
  · exact .refl
  case isFalse hgate =>
    have hgate : s.txEnabled = true ∨ isSystemCommand cmd = true := by
      simpa [or_iff_not_imp_left] using hgate
    split
    case isTrue hack =>
      exact (enqueueWith_steps P s hack _ (List.length_take_le ..)).mono fun _ => SendLabel.speak
    · refine transmit_steps P s _ _ _ _ (fun henc => ?_) fun _ f hf hcmd => ⟨.emit f, hcmd, .emit hf ?_⟩
      · have hsys := ((s.doEncrypt_iff).1 henc).2.2
        exact hgate.resolve_right (by rw [hsys]; decide)
      · rwa [Permits, hcmd]

/-- A system command that is not reliable leaves in the clear and changes nothing else. -/
theorem sendFrame_system {cmd : UInt16} (hs : isSystemCommand cmd = true) (ha : requiresAck cmd = false)
    (seq : UInt16) (p : Bytes) : s.sendFrame P cmd seq p = (s.transmit P cmd seq p none, true) := by
  simp [sendFrame, hs, ha]

theorem sendFrame_system_quiet {cmd : UInt16} (hs : isSystemCommand cmd = true) (ha : requiresAck cmd = false)
    (hne : cmd ≠ Command.linkSyncResp.toUnderlying) (seq : UInt16) (p : Bytes) :
    Quiet s (s.sendFrame P cmd seq p).1 := by
  rw [sendFrame_system P s hs ha]
  exact transmit_quiet P s hs hne _ _ _

theorem sendFrame_status_quiet (st : Status) (seq : UInt16) (p : Bytes) :
    Quiet s (s.sendFrame P st.toUnderlying seq p).1 :=
  sendFrame_system_quiet P s (isSystemCommand_status st) (requiresAck_status st) (status_ne_linkSyncResp st) _ _

/-- `send` takes the unreliable branch of `_sendEncryptedHelper`, which does not look at `_tx_enabled`. -/
def sendsUnguarded (c : Command) (packet : PayloadType) : Bool :=
  s.doEncrypt c.toUnderlying && !requiresAck c.toUnderlying && (P.pbEncode packet).length ≤ maxPayloadSize

/-- Labels of `send`: its single-pass branch can accept a reliable frame without queueing it. -/
def CallLabel (g : Prop) (c : Command) : Label → Prop
  | .bypass _ => s.bypassesQueue c.toUnderlying = true
  | l => SpeakLabel g c.toUnderlying l

theorem SendLabel.call {g : Prop} {c : Command} {l : Label} (h : SendLabel g l) : CallLabel s g c l := by
  cases l <;> first | exact h | exact h.elim

theorem CallLabel.weaken {g g' : Prop} {c : Command} (hg : g → g') {l : Label} (h : CallLabel s g c l) :
    CallLabel s g' c l := by
  cases l with
  | encrypt => exact hg h
  | copy => exact h.imp_left hg
  | fsm ev => cases ev <;> exact h
  | _ => exact h

theorem sendSinglePass_steps {g : Prop} (c : Command) (seq : UInt16) (packet : PayloadType) :
    Steps (Micro P) (CallLabel s g c) s (s.sendSinglePass P c.toUnderlying seq packet).1 := by
  unfold sendSinglePass sendFrameRaw
  split
  · exact .refl
  case isFalse h =>
    have hcmd := toUInt16_toUInt32 c.toUnderlying
    refine serializeAndSend_steps P s ?_ (.emit ⟨rfl, .inl rfl⟩ ?_)
    · exact hcmd
    · unfold Permits RpcEnvelope.rawCommand
      rw [hcmd]
      simpa [or_iff_not_imp_left] using h

theorem sendUnqueued_steps {g : Prop} {c : Command} (henc : s.doEncrypt c.toUnderlying = false) (seq : UInt16)
    (packet : PayloadType) : Steps (Micro P) (CallLabel s g c) s (s.sendUnqueued P c seq packet).1 := by
  have hq := sendSinglePass_steps P s (g := g) c seq packet
  unfold sendUnqueued
  dsimp only
  split
  case isTrue h =>
    obtain ⟨hsent, hack⟩ := Bool.and_eq_true_iff.1 h
    have hgate : s.txEnabled = true ∨ isSystemCommand c.toUnderlying = true := by
      by_contra hno
      simp only [not_or, Bool.not_eq_true] at hno
      simp [sendSinglePass, sendFrameRaw, hno] at hsent
    have hbypass : s.bypassesQueue c.toUnderlying = true := by simpa [bypassesQueue, hack, henc] using hgate
    exact hq.trans (.single (l := .bypass _) hbypass (.bypass _))
  case isFalse => exact hq

/-- The unreliable branch of `_sendEncryptedHelper`. -/
theorem transmit_unguarded {Q : Label → Prop} {c : Command} {packet : PayloadType}
    (henc : s.doEncrypt c.toUnderlying = true) (hack : requiresAck c.toUnderlying = false)
    (hfits : ¬ maxPayloadSize < (P.pbEncode packet).length) (hQ : s.sendsUnguarded P c packet = true → Q .encrypt)
    (seq : UInt16) : Steps (Micro P) Q s (s.transmit P c.toUnderlying seq (P.pbEncode packet) none) := by
  refine transmit_steps P s _ _ _ _ (fun _ => hQ ?_) fun hno => ?_
  · simpa [sendsUnguarded, henc, hack] using hfits
  · rw [henc] at hno
    cases hno

theorem send_steps (c : Command) (seq : UInt16) (packet : PayloadType) :
    Steps (Micro P) (CallLabel s (s.txEnabled = true ∨ s.sendsUnguarded P c packet = true) c) s
      (s.send P c seq packet).1 := by
  unfold send
  split
  case isTrue henc =>
    unfold sendEncryptedHelper
    dsimp only
    split
    · exact .refl
    case isFalse hfits =>
      split
      case isTrue hack =>
        exact (enqueueWith_steps P s hack _ (Nat.le_of_not_lt hfits)).mono fun _ h => (h.weaken .inl).call s
      case isFalse hack => exact transmit_unguarded P s henc (Bool.eq_false_iff.2 hack) hfits .inr seq
  case isFalse h => exact sendUnqueued_steps P s (Bool.eq_false_iff.2 h) _ _

theorem sendUnqueued_unreliable {c : Command} (hc : requiresAck c.toUnderlying = false) (seq : UInt16)
    (packet : PayloadType) : s.sendUnqueued P c seq packet = s.sendSinglePass P c.toUnderlying seq packet := by
  simp [sendUnqueued, hc]

/-- A command that is not reliable never reaches the queue. -/
theorem send_unreliable_steps {c : Command} (hc : Unreliable c) (seq : UInt16) (packet : PayloadType) :
    Steps (Micro P) (TxLabel (s.sendsUnguarded P c packet = true)) s (s.send P c seq packet).1 := by
  unfold send
  split
  case isTrue henc =>
    unfold sendEncryptedHelper
    dsimp only
    rw [hc.1]
    split
    · exact .refl
    case isFalse hfits => exact transmit_unguarded P s henc hc.1 hfits id seq
  · rw [sendUnqueued_unreliable P s hc.1]
    exact (sendSinglePass_quiet P s hc.2 _ _).steps trivial

theorem send_system_quiet {c : Command} (hc : Unreliable c) (hs : isSystemCommand c.toUnderlying = true) (seq : UInt16)
    (packet : PayloadType) : Quiet s (s.send P c seq packet).1 := by
  unfold send
  rw [doEncrypt_system s hs, if_neg (by decide), sendUnqueued_unreliable P s hc.1]
  exact sendSinglePass_quiet P s hc.2 _ _

/-- Status codes are system commands, so `emitStatus` always succeeds and never enters the safe state. -/
theorem emitStatus_quiet (st : Status) (message : Option Bytes) : Quiet s (s.emitStatus P st message) := by
  unfold emitStatus
  cases message with
  | none =>
    simp only [sendFrame_system P s (isSystemCommand_status st) (requiresAck_status st), if_true]
    exact transmit_quiet P s (isSystemCommand_status st) (status_ne_linkSyncResp st) _ _ _
  | some text =>
    simp only [sendStatus_true, if_true]
    exact sendStatus_quiet P s _ _ _

theorem processAck_quiet (cmd seq : UInt16) : Quiet s (s.processAck P cmd seq) := sendStatus_quiet P s _ _ _

end Mcu
end McuBridge
