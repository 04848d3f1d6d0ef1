import McuBridge.Mcu.Micro
import McuBridge.Mcu.Lookup

/-! # What a received frame can do

`dispatchCommand_steps` lists the small steps one dispatched frame can cause, with the condition on the
frame and on the state before it for each that moves the link: a reset, a cleared queue, a derived session
key, a completed handshake. All 31 handlers are covered by the table lemma `kDispatchTable_plain` and by
the lemmas for STATUS_ACK, LINK_SYNC and LINK_RESET. -/

namespace McuBridge
namespace Mcu
variable (P : Platform) (s : Mcu)

/-- The LINK_SYNC message `env` delivers to `_handleLinkSync` in state `s`. -/
def linkSyncOf (env : RpcEnvelope) : Option LinkSync :=
  if env.rawCommand = Command.linkSync.toUnderlying ∧ s.isDuplicate env = false then
    PbMessage.linkSync.read P env.payloadType
  else none

/-- `handshake_authenticate` accepts the tag of `m`. -/
def acceptsTag (secret : Bytes) (m : LinkSync) : Bool :=
  (handshakeAuthenticate P.toCrypto secret (linkSyncNonce m) m.tag).2

/-- `env` is a LINK_SYNC that reaches `_handleLinkSync` and is accepted there. -/
def Opens (env : RpcEnvelope) : Prop :=
  ∃ m, linkSyncOf P s env = some m ∧ (s.sharedSecret = [] ∨ acceptsTag P s.sharedSecret m = true)

/-- `env` is an ACK that reaches `_handleAck` and matches the frame in flight. -/
def MatchingAck (env : RpcEnvelope) : Prop :=
  env.rawCommand = Status.ack.toUnderlying ∧ s.isDuplicate env = false ∧ s.fsm = .awaitingAck ∧
    ∃ m, PbMessage.ackPacket.read P env.payloadType = some m ∧ m.commandId.toUInt16 = s.lastCommandId

/-- The commands whose duplicates make the firmware send the front of the reliable queue again. -/
def retransmitsOnDup (cmd : UInt16) : Bool :=
  [Command.getVersion, .getFreeMemory, .getCapabilities, .digitalRead, .analogRead, .spiTransfer].any
    fun c => c.toUnderlying == cmd

/-- The handler of a fresh query answers it with an application frame on the unreliable branch of
`_sendEncryptedHelper`. Of a file it is the first chunk that decides. -/
def answersUnguarded (hal : Hal) (ctx : CommandContext) : Bool :=
  let p := ctx.envelope.payloadType
  if ctx.rawCommand = Command.digitalRead.toUnderlying then
    (PbMessage.pinRead.read P p).any fun pin => pin.toUInt8 < P.digitalPins &&
      s.sendsUnguarded P .digitalReadResp (.digitalReadResponse (hal.digitalRead pin.toUInt8))
  else if ctx.rawCommand = Command.analogRead.toUnderlying then
    (PbMessage.pinRead.read P p).any fun pin => P.hasAnalogRead && pin.toUInt8 < P.analogPins &&
      s.sendsUnguarded P .analogReadResp (.analogReadResponse (hal.analogRead pin.toUInt8))
  else if ctx.rawCommand = Command.spiTransfer.toUnderlying then
    (PbMessage.spiTransfer.read P p).any fun data =>
      (s.spiTransfer hal (data.take maxPayloadSize)).2.any fun received =>
        s.sendsUnguarded P .spiTransferResp (.spiTransferResponse (received.take 64))
  else if ctx.rawCommand = Command.fileRead.toUnderlying then
    (PbMessage.fileRead.read P p).any fun path =>
      !hal.readTimedOut 0 && (hal.readFileChunk path 0).isSome && s.doEncrypt Command.fileReadResp.toUnderlying
  else false

/-- What `ctx` makes the firmware send without a look at `_tx_enabled`. -/
def unguardedDispatch (hal : Hal) (ctx : CommandContext) : Bool :=
  if ctx.isDuplicate then retransmitsOnDup ctx.rawCommand && s.frontApp else s.answersUnguarded P hal ctx

/-- A dispatched frame that passes the security check and makes it do so. -/
def unguardedFrame (hal : Hal) (env : RpcEnvelope) : Bool :=
  s.isSecurityCheckPassed env.rawCommand && s.unguardedDispatch P hal (s.commandContext env)

/-- `ctx` is a fresh XON (`true`) or XOFF (`false`). -/
def Switches (ctx : CommandContext) (b : Bool) : Prop :=
  ctx.isDuplicate = false ∧ ctx.rawCommand = (if b then Command.xon else Command.xoff).toUnderlying

/-- Labels of a handler that leaves the link alone. -/
def PlainLabel (hal : Hal) (ctx : CommandContext) : Label → Prop
  | .handle => True
  | .enable b => Switches ctx b
  | l => TxLabel (s.unguardedDispatch P hal ctx = true) l

def DispatchLabel (hal : Hal) (env : RpcEnvelope) : Label → Prop
  | .quiet | .handle => True
  | .enable b => Switches (s.commandContext env) b ∨ b = false ∧ env.rawCommand = Status.malformed.toUnderlying
  | .encrypt => env.rawCommand ≠ Command.linkSync.toUnderlying ∧ s.unguardedFrame P hal env = true
  | .copy cmd => env.rawCommand ≠ Command.linkSync.toUnderlying ∧
      (s.unguardedFrame P hal env = true ∨ isSystemCommand cmd = true)
  | .fsm .reset => env.rawCommand = Command.linkReset.toUnderlying
  | .fsm .handshakeFailed => env.rawCommand = Command.linkSync.toUnderlying
  | .clear .ack => MatchingAck P s env
  | .clear .safe => env.rawCommand = Status.malformed.toUnderlying
  | .derive n => ∃ m, linkSyncOf P s env = some m ∧ s.sharedSecret ≠ [] ∧
      acceptsTag P s.sharedSecret m = true ∧ n = linkSyncNonce m
  | .complete | .answer => Opens P s env
  | _ => False

theorem TxLabel.plain {hal : Hal} {ctx : CommandContext} {l : Label}
    (h : TxLabel (s.unguardedDispatch P hal ctx = true) l) : PlainLabel P s hal ctx l := by
  cases l <;> first | exact h | exact h.elim

theorem PlainLabel.dispatch {hal : Hal} {env : RpcEnvelope} {l : Label}
    (h : PlainLabel P s hal (s.commandContext env) l) (hne : env.rawCommand ≠ Command.linkSync.toUnderlying)
    (hcheck : s.isSecurityCheckPassed env.rawCommand = true) : DispatchLabel P s hal env l := by
  have hun : s.unguardedDispatch P hal (s.commandContext env) = true → s.unguardedFrame P hal env = true :=
    fun h => Bool.and_eq_true_iff.2 ⟨hcheck, h⟩
  cases l with
  | quiet | handle => trivial
  | enable => exact .inl h
  | encrypt => exact ⟨hne, hun h⟩
  | copy => exact ⟨hne, h.imp_left hun⟩
  | _ => exact h.elim

/-- A query is answered alike in states with the same link and the same services. -/
theorem answersUnguarded_congr {t : Mcu} (hfsm : t.fsm = s.fsm) (hsec : t.sharedSecret = s.sharedSecret)
    (hserv : t.services = s.services) (hal : Hal) (ctx : CommandContext) :
    t.answersUnguarded P hal ctx = s.answersUnguarded P hal ctx := by
  have henc : ∀ cmd, t.doEncrypt cmd = s.doEncrypt cmd := by
    intro cmd
    unfold doEncrypt Mcu.isSynchronized
    rw [hfsm, hsec]
  have hsends : ∀ c packet, t.sendsUnguarded P c packet = s.sendsUnguarded P c packet := by
    intro c packet
    unfold sendsUnguarded
    rw [henc]
  have hspi : ∀ data, (t.spiTransfer hal data).2 = (s.spiTransfer hal data).2 := by
    intro data
    unfold spiTransfer
    rw [hserv]
    split <;> rfl
  unfold answersUnguarded
  simp only [henc, hsends, hspi]

theorem unguardedDispatch_congr {t : Mcu} (hfsm : t.fsm = s.fsm) (hsec : t.sharedSecret = s.sharedSecret)
    (hserv : t.services = s.services) (hq : t.pendingTxQueue = s.pendingTxQueue) (hal : Hal) (ctx : CommandContext) :
    t.unguardedDispatch P hal ctx = s.unguardedDispatch P hal ctx := by
  unfold unguardedDispatch frontApp
  rw [answersUnguarded_congr P s hfsm hsec hserv, hq]

/-! ### Handlers run -/

theorem Micro.handled {l : Label} {t : Mcu} (hl : l ≠ .handle) (h : Micro P l s t) : t.handled = s.handled := by
  cases h with
  | quiet h => exact h.handled
  | handle => exact absurd rfl hl
  | _ => rfl

theorem Steps.handled {Q : Label → Prop} (hQ : ∀ l, Q l → l ≠ .handle) {t : Mcu} (h : Steps (Micro P) Q s t) :
    t.handled = s.handled := by
  refine h.invariant (I := fun u => u.handled = s.handled) ?_ rfl
  intro l u v hl hm hu
  exact (Micro.handled P u (hQ l hl) hm).trans hu

theorem TxLabel.ne_handle {g : Prop} {l : Label} (h : TxLabel g l) : l ≠ .handle := by
  rintro rfl
  exact h

/-- At most one handler runs between `s` and `t`, and it is the one of `ctx`. -/
def RunsOne (ctx : CommandContext) (t : Mcu) : Prop :=
  t.handled = s.handled ∨ t.handled = s.handled ++ [(ctx.rawCommand, ctx.sequenceId)]

/-- What a command does that leaves the link alone. -/
structure PlainRun (hal : Hal) (ctx : CommandContext) (t : Mcu) : Prop where
  steps : Steps (Micro P) (PlainLabel P s hal ctx) s t
  runs : RunsOne s ctx t

/-! ### The dispatch templates -/

theorem preDispatch_cases (ctx : CommandContext) (needsAck retransmitOnDup : Bool) :
    (ctx.isDuplicate = true ∧ (s.preDispatch P ctx needsAck retransmitOnDup).2 = false ∧
      (Quiet s (s.preDispatch P ctx needsAck retransmitOnDup).1 ∨ retransmitOnDup = true ∧
        Steps (Micro P) (TxLabel (s.frontApp = true)) s (s.preDispatch P ctx needsAck retransmitOnDup).1)) ∨
    (ctx.isDuplicate = false ∧ (s.preDispatch P ctx needsAck retransmitOnDup).2 = true ∧
      Quiet s (s.preDispatch P ctx needsAck retransmitOnDup).1 ∧
      (s.preDispatch P ctx needsAck retransmitOnDup).1.services = s.services) := by
  have hack : Quiet s (if needsAck then s.processAck P ctx.rawCommand ctx.sequenceId else s) ∧
      (if needsAck then s.processAck P ctx.rawCommand ctx.sequenceId else s).services = s.services := by
    split
    · refine ⟨processAck_quiet P s _ _, ?_⟩
      unfold processAck sendStatus sendSinglePass sendFrameRaw
      split <;> rfl
    · exact ⟨.refl s, rfl⟩
  unfold preDispatch
  dsimp only
  split
  case isTrue hd =>
    refine .inl ⟨hd, rfl, ?_⟩
    cases retransmitOnDup with
    | true =>
      refine .inr ⟨rfl, (hack.1.steps trivial).trans ?_⟩
      refine (retransmitLastFrame_steps P _).mono fun _ => TxLabel.weaken fun h => ?_
      rwa [frontApp, hack.1.pendingTxQueue] at h
    | false => exact .inl hack.1
  case isFalse hd => exact .inr ⟨Bool.eq_false_iff.2 hd, rfl, hack⟩

/-- Labels of the body of such a command. -/
def BodyLabel (hal : Hal) (ctx : CommandContext) (l : Label) : Prop := PlainLabel P s hal ctx l ∧ l ≠ .handle

theorem BodyLabel.quiet (hal : Hal) (ctx : CommandContext) : BodyLabel P s hal ctx .quiet := ⟨trivial, nofun⟩

theorem BodyLabel.enable {hal : Hal} {ctx : CommandContext} {b : Bool} (h : Switches ctx b) :
    BodyLabel P s hal ctx (.enable b) :=
  ⟨h, nofun⟩

theorem TxLabel.body {hal : Hal} {ctx : CommandContext} {l : Label}
    (h : TxLabel (s.unguardedDispatch P hal ctx = true) l) : BodyLabel P s hal ctx l :=
  ⟨h.plain P s, h.ne_handle⟩

theorem PlainRun.of_quiet {t : Mcu} (hal : Hal) (ctx : CommandContext) (h : Quiet s t) : PlainRun P s hal ctx t :=
  ⟨h.steps trivial, .inl h.handled⟩

variable {s}

/-- A handler runs in a state that is the one before up to quiet fields. -/
theorem PlainRun.of_handle {hal : Hal} {ctx : CommandContext} {t u : Mcu} (hq : Quiet s t)
    (h : Steps (Micro P) (BodyLabel P s hal ctx) (t.handle ctx) u) : PlainRun P s hal ctx u := by
  constructor
  · refine Steps.trans (hq.steps trivial) ?_
    exact Steps.trans (.single (l := .handle) trivial (.handle ctx)) (h.mono fun _ hl => hl.1)
  · refine .inr ((Steps.handled P _ (fun _ hl => hl.2) h).trans ?_)
    show t.handled ++ _ = _
    rw [hq.handled]

/-- The shape both templates share: `body` runs on a state that is the one before up to quiet fields. -/
theorem dispatch_steps {Q : Label → Prop} (hquiet : Q .quiet) {ctx : CommandContext}
    {needsAck retransmitOnDup : Bool}
    (hdup : ctx.isDuplicate = true → retransmitOnDup = true → ∀ l, TxLabel (s.frontApp = true) l → Q l)
    (body : Mcu → Mcu)
    (hbody : ∀ t, ctx.isDuplicate = false → Quiet s t → t.services = s.services → Steps (Micro P) Q t (body t)) :
    Steps (Micro P) Q s
      (match s.preDispatch P ctx needsAck retransmitOnDup with
        | (t, false) => t
        | (t, true) => body t) := by
  have hpre := preDispatch_cases P s ctx needsAck retransmitOnDup
  generalize s.preDispatch P ctx needsAck retransmitOnDup = r at hpre ⊢
  obtain ⟨t, b⟩ := r
  rcases hpre with ⟨hd, hb, hq | ⟨hre, hsteps⟩⟩ | ⟨hd, hb, hq, hserv⟩
  · obtain rfl : b = false := hb
    exact hq.steps hquiet
  · obtain rfl : b = false := hb
    exact hsteps.mono (hdup hd hre)
  · obtain rfl : b = true := hb
    exact (hq.steps hquiet).trans (hbody t hd hq hserv)

theorem dispatchCmd_steps {M : Type} {Q : Label → Prop} (hquiet : Q .quiet) (hhandle : Q .handle)
    (d : PbMessage M) (handler : CommandContext → M → Mcu → Mcu) (ctx : CommandContext) (needsAck : Bool)
    (hh : ∀ m t, d.read P ctx.envelope.payloadType = some m → ctx.isDuplicate = false → Quiet s t →
      Steps (Micro P) Q (t.handle ctx) (handler ctx m (t.handle ctx))) :
    Steps (Micro P) Q s (s.dispatchCmd P d handler ctx needsAck false) := by
  unfold dispatchCmd
  have hnever : ctx.isDuplicate = true → false = true → ∀ l, TxLabel (s.frontApp = true) l → Q l :=
    fun _ h => absurd h Bool.false_ne_true
  cases hm : d.read P ctx.envelope.payloadType with
  | none => exact dispatch_steps P hquiet hnever _ fun t _ _ _ => (emitStatus_quiet P t _ _).steps hquiet
  | some m =>
    exact dispatch_steps P hquiet hnever _ fun t hd hq _ => Steps.trans (.single hhandle (.handle ctx)) (hh m t hm hd hq)

theorem dispatchNoPayload_steps {Q : Label → Prop} (hquiet : Q .quiet) (hhandle : Q .handle)
    (handler : CommandContext → Mcu → Mcu) (ctx : CommandContext) (needsAck : Bool)
    (hh : ∀ t, Steps (Micro P) Q t (handler ctx t)) :
    Steps (Micro P) Q s (s.dispatchNoPayload P handler ctx needsAck false) :=
  dispatch_steps P hquiet (fun _ h => absurd h Bool.false_ne_true) (fun t => handler ctx (t.handle ctx)) fun _ _ _ _ =>
    Steps.trans (.single hhandle (.handle ctx)) (hh _)

variable (s)

/-! ### Handlers that leave the link alone -/

theorem handleSetBaudrate_quiet (b : UInt32) : Quiet s (s.handleSetBaudrate b) := by
  unfold handleSetBaudrate
  split
  · exact .refl s
  · exact .of_eq (by simp [startTimer]) rfl

theorem handleEnterBootloader_quiet (m : UInt32) : Quiet s (s.handleEnterBootloader m) := by
  unfold handleEnterBootloader
  split
  · exact .startTimer _ s
  · exact .refl s

/-- A response, and STATUS_ERROR if it could not be sent. -/
theorem respond_steps {c : Command} (hc : Unreliable c) (seq : UInt16)
    (packet : PayloadType) :
    Steps (Micro P) (TxLabel (s.sendsUnguarded P c packet = true)) s
      (if (s.send P c seq packet).2 then (s.send P c seq packet).1
        else (s.send P c seq packet).1.emitStatus P .error none) := by
  split
  · exact send_unreliable_steps P s hc _ _
  · exact (send_unreliable_steps P s hc _ _).trans ((emitStatus_quiet P _ _ _).steps trivial)

theorem handlePinReadCommon_steps (ctx : CommandContext) (pin maxPins : UInt8) {resp : Command}
    (hc : Unreliable resp) (a : Act) (packet : PayloadType) :
    Steps (Micro P) (TxLabel (pin < maxPins ∧ s.sendsUnguarded P resp packet = true)) s
      (s.handlePinReadCommon P ctx pin maxPins resp a packet) := by
  unfold handlePinReadCommon
  split
  case isTrue hpin =>
    refine ((Quiet.act a s).steps trivial).trans ?_
    exact (respond_steps P _ hc _ _).mono fun _ => TxLabel.weaken fun h => ⟨hpin, h⟩
  · exact (emitStatus_quiet P s _ _).steps trivial

theorem handlePinRead_steps (hal : Hal) (ctx : CommandContext) {pin : UInt32}
    (hm : PbMessage.pinRead.read P ctx.envelope.payloadType = some pin)
    (hcmd : ctx.rawCommand = Command.digitalRead.toUnderlying ∨ ctx.rawCommand = Command.analogRead.toUnderlying) :
    Steps (Micro P) (TxLabel (s.answersUnguarded P hal ctx = true)) s (s.handlePinRead P hal ctx pin) := by
  unfold handlePinRead
  split
  case isTrue hd =>
    refine (handlePinReadCommon_steps P s ctx _ _ (by decide) _ _).mono fun _ => TxLabel.weaken fun h => ?_
    simpa [answersUnguarded, hd, hm] using h
  case isFalse hd =>
    have ha := hcmd.resolve_left hd
    unfold handleAnalogRead
    split
    case isTrue hread =>
      refine (handlePinReadCommon_steps P s ctx _ _ (by decide) _ _).mono fun _ => TxLabel.weaken fun h => ?_
      unfold answersUnguarded
      rw [if_neg hd, if_pos ha, hm]
      simpa [hread] using h
    case isFalse => exact (emitStatus_quiet P s _ _).steps trivial

theorem handleSpiTransfer_steps (hal : Hal) (ctx : CommandContext) {data : Bytes}
    (hm : PbMessage.spiTransfer.read P ctx.envelope.payloadType = some data)
    (hcmd : ctx.rawCommand = Command.spiTransfer.toUnderlying) :
    Steps (Micro P) (TxLabel (s.answersUnguarded P hal ctx = true)) s (s.handleSpiTransfer P hal ctx data) := by
  have hq : Quiet s (s.spiTransfer hal (data.take maxPayloadSize)).1 := by
    unfold spiTransfer
    split
    · exact .refl s
    · exact .act _ s
  unfold handleSpiTransfer
  split
  case h_1 heq =>
    rw [heq] at hq
    exact (hq.steps trivial).trans ((emitStatus_quiet P _ _ _).steps trivial)
  case h_2 t received heq =>
    rw [heq] at hq
    refine (hq.steps trivial).trans ?_
    refine (respond_steps P t (by decide) _ _).mono fun _ => TxLabel.weaken fun h => ?_
    have hsends : s.sendsUnguarded P .spiTransferResp (.spiTransferResponse (received.take 64)) = true := by
      rwa [sendsUnguarded, doEncrypt, Mcu.isSynchronized, hq.fsm, hq.sharedSecret] at h
    unfold answersUnguarded
    rw [hcmd, if_neg (by decide), if_neg (by decide), if_pos rfl, hm]
    simpa [heq] using hsends

theorem handleSpiBegin_quiet (ctx : CommandContext) : Quiet s (s.handleSpiBegin P ctx) :=
  Quiet.trans ((Quiet.services s _).trans (.act _ _)) (processAck_quiet P _ _ _)

theorem handleSpiEnd_quiet (ctx : CommandContext) : Quiet s (s.handleSpiEnd P ctx) :=
  Quiet.trans ((Quiet.services s _).trans (.act _ _)) (processAck_quiet P _ _ _)

theorem dataStoreOnResponse_quiet (v : Bytes) : Quiet s (s.dataStoreOnResponse v) := by
  unfold dataStoreOnResponse
  split
  · exact .refl s
  · dsimp only
    split
    · exact (Quiet.services s _).trans (.act _ _)
    · exact .services s _

theorem mailboxQueuePush_quiet (d : Bytes) : Quiet s (s.mailboxQueuePush d) := by
  unfold mailboxQueuePush
  split
  · exact .refl s
  · exact .services s _

theorem mailboxOnAvailableResponse_quiet (c : UInt32) : Quiet s (s.mailboxOnAvailableResponse c) := by
  unfold mailboxOnAvailableResponse
  split
  · exact .act _ s
  · exact .refl s

theorem fileSystemOnResponse_quiet (c : Bytes) : Quiet s (s.fileSystemOnResponse c) := by
  unfold fileSystemOnResponse
  split
  · exact .act _ s
  · exact .refl s

theorem fileSystemOnWrite_quiet (hal : Hal) (path data : Bytes) :
    Quiet s (s.fileSystemOnWrite P hal path data) :=
  (Quiet.act _ s).trans (sendFrame_status_quiet P _ _ _ _)

theorem fileSystemOnRemove_quiet (hal : Hal) (path : Bytes) : Quiet s (s.fileSystemOnRemove P hal path) :=
  (Quiet.act _ s).trans (sendFrame_status_quiet P _ _ _ _)

/-- Sending changes nothing `do_encrypt` looks at. -/
theorem TxLabel.doEncrypt {g : Prop} {t : Mcu} (h : Steps (Micro P) (TxLabel g) s t) (cmd : UInt16) :
    t.doEncrypt cmd = s.doEncrypt cmd := by
  refine h.invariant (I := fun u => u.doEncrypt cmd = s.doEncrypt cmd) ?_ rfl
  intro l u v hl hm hu
  rw [← hu]
  unfold Mcu.doEncrypt Mcu.isSynchronized
  cases hm with
  | quiet h => rw [h.fsm, h.sharedSecret]
  | encrypt | copy => rfl
  | _ => exact hl.elim

-- induction on the chunks still to read, for every offset and state
theorem fileSystemReadLoop_steps {g : Prop} (hal : Hal) (path : Bytes) (chunks : List Nat) (offset : Nat)
    (hg : s.doEncrypt Command.fileReadResp.toUnderlying = true → g) :
    Steps (Micro P) (TxLabel g) s (s.fileSystemReadLoop P hal path chunks offset) := by
  induction chunks generalizing offset s with
  | nil => exact .refl
  | cons chunk chunks ih =>
    unfold fileSystemReadLoop
    split
    · exact .refl
    split
    · exact (sendFrame_status_quiet P s _ _ _).steps trivial
    · have hsend : ∀ t : Mcu, t.doEncrypt Command.fileReadResp.toUnderlying =
          s.doEncrypt Command.fileReadResp.toUnderlying → ∀ c,
          Steps (Micro P) (TxLabel g) t (t.send P .fileReadResp 0 (.fileReadResponse c)).1 := by
        intro t ht c
        refine (send_unreliable_steps P t (by decide) _ _).mono fun _ => TxLabel.weaken fun h => hg ?_
        simp only [sendsUnguarded, Bool.and_eq_true] at h
        exact ht ▸ h.1.1
      dsimp only
      have hfirst := hsend s rfl
      split
      · exact (hfirst _).trans (hsend _ (TxLabel.doEncrypt P s (hfirst _) _) _)
      · exact (hfirst _).trans (ih _ _ fun h => hg (TxLabel.doEncrypt P s (hfirst _) _ ▸ h))

theorem fileSystemOnRead_steps (hal : Hal) (ctx : CommandContext) {path : Bytes}
    (hm : PbMessage.fileRead.read P ctx.envelope.payloadType = some path)
    (hcmd : ctx.rawCommand = Command.fileRead.toUnderlying) :
    Steps (Micro P) (TxLabel (s.answersUnguarded P hal ctx = true)) s (s.fileSystemOnRead P hal path) := by
  unfold fileSystemOnRead
  rw [show List.range fileMaxReadChunks = 0 :: (List.range 255).map (· + 1) from List.range_succ_eq_map]
  by_cases hfirst : hal.readTimedOut 0 = false ∧ (hal.readFileChunk path 0).isSome = true
  · refine fileSystemReadLoop_steps P s hal path _ _ fun henc => ?_
    unfold answersUnguarded
    rw [hcmd, if_neg (by decide), if_neg (by decide), if_neg (by decide), if_pos rfl, hm]
    simp [hfirst.1, hfirst.2, henc]
  -- without a first chunk the loop is left at once
  · unfold fileSystemReadLoop
    split
    · exact .refl
    case isFalse htime =>
      split
      · exact (sendFrame_status_quiet P s _ _ _).steps trivial
      case h_2 hsome => exact absurd ⟨Bool.eq_false_iff.2 htime, by rw [hsome]; rfl⟩ hfirst

theorem processOnRunAsyncResponse_quiet (pid : UInt32) : Quiet s (s.processOnRunAsyncResponse pid) := by
  unfold processOnRunAsyncResponse
  split
  · exact .refl s
  · exact (Quiet.services s _).trans (.act _ _)

theorem processOnPollResponse_quiet (m : ProcessPollResponse) : Quiet s (s.processOnPollResponse m) := by
  unfold processOnPollResponse
  split
  · exact .refl s
  · exact (Quiet.services s _).trans (.act _ _)

theorem onCmdResponse_plainRun {M : Type} (d : PbMessage M) (handler : M → Mcu → Mcu) (hal : Hal)
    (ctx : CommandContext) (hh : ∀ m t, Quiet t (handler m t)) :
    PlainRun P s hal ctx (s.onCmdResponse P d handler ctx) := by
  unfold onCmdResponse
  split
  · exact .of_quiet P s hal ctx (emitStatus_quiet P s _ _)
  · exact .of_handle P (.refl s) ((hh _ _).steps (.quiet P s hal ctx))

theorem onUnknownCommand_plainRun (hal : Hal) (ctx : CommandContext) :
    PlainRun P s hal ctx (s.onUnknownCommand P ctx) := by
  unfold onUnknownCommand
  split
  · exact .of_handle P (.refl s) ((Quiet.act _ _).steps (.quiet P s hal ctx))
  · exact .of_quiet P s hal ctx (emitStatus_quiet P s _ _)

/-! ### Handlers that move the link -/

theorem enterSafeState_steps {Q : Label → Prop} (hq : Q .quiet) (he : Q (.enable false)) (hc : Q (.clear .safe)) :
    Steps (Micro P) Q s s.enterSafeState := by
  refine Steps.trans ((Quiet.act .forceSafeState s).steps hq) ?_
  refine Steps.trans (.single he (.enable false)) ?_
  refine Steps.trans (.single hc (.clear .safe)) ?_
  exact ((Quiet.services _ _).trans (.act _ _)).steps hq

theorem flushPendingTxQueue_nil (h : s.pendingTxQueue = []) : s.flushPendingTxQueue P = s := by
  unfold flushPendingTxQueue
  rw [h]

/-- The flush at the end of `_handleAck` finds the queue empty. -/
theorem handleAck_eq (cmd : UInt16) (ha : s.isAwaitingAck = true) (hc : cmd = s.lastCommandId) :
    s.handleAck P cmd = ((s.stopTimer .ackTimeout).clearPendingTxQueue).receive .ackReceived := by
  unfold handleAck
  simp only [ha, hc, Bool.not_true, bne_self_eq_false, Bool.or_self, Bool.false_eq_true, if_false]
  exact flushPendingTxQueue_nil P _ rfl

theorem handleAck_steps {Q : Label → Prop} (cmd : UInt16) (hq : Q .quiet)
    (hQ : s.fsm = .awaitingAck → cmd = s.lastCommandId → Q (.clear .ack)) :
    Steps (Micro P) Q s (s.handleAck P cmd) := by
  by_cases h : s.isAwaitingAck = true ∧ cmd = s.lastCommandId
  · obtain ⟨ha, hc⟩ := h
    rw [handleAck_eq P s cmd ha hc]
    have hl := hQ (by simpa [isAwaitingAck, StateId.isAwaitingAck] using ha) hc
    refine Steps.trans ((Quiet.stopTimer .ackTimeout s).steps hq) ?_
    exact .single hl (.clear .ack)
  · unfold handleAck
    rw [if_pos]
    · exact .refl
    · by_contra hn
      simp only [Bool.or_eq_true, Bool.not_eq_true', bne_iff_ne, not_or, Bool.not_eq_false, not_not] at hn
      exact h hn

theorem send_linkSyncResp (seq : UInt16) (packet : PayloadType) :
    (s.send P .linkSyncResp seq packet).1 = s.serializeAndSend P
      ⟨⟨protocolVersion, Command.linkSyncResp.toUnderlying.toUInt32, seq.toUInt32, [], packet⟩, none, none⟩ := by
  unfold send
  rw [doEncrypt_system s (by decide), if_neg (by decide), sendUnqueued_unreliable P s (by decide)]
  unfold sendSinglePass sendFrameRaw
  rw [if_neg (by simp [show isSystemCommand Command.linkSyncResp.toUnderlying = true by decide])]

theorem completeHandshake_steps {Q : Label → Prop} (ctx : CommandContext) (resp : LinkSync) (hq : Q .quiet)
    (hc : Q .complete) (ha : Q .answer) (hresp : resp.tag = [] ∨ resp.nonce ∈ s.derived)
    (hkey : s.sharedSecret = [] ∨ ∃ n ∈ s.derived, s.sessionKey = P.deriveSessionKey s.sharedSecret n) :
    Steps (Micro P) Q s (s.completeHandshake P ctx resp) := by
  refine Steps.trans (.single hc (.complete hkey)) ?_
  refine Steps.trans ((Quiet.stopTimer .handshakeTimeout _).steps hq) ?_
  unfold completeHandshake
  dsimp only
  rw [send_linkSyncResp]
  exact serializeAndSend_steps P _ ha (.answer ⟨rfl, .inl rfl⟩ (toUInt16_toUInt32 _) rfl hresp)

theorem handleLinkSync_steps {Q : Label → Prop} (ctx : CommandContext) (m : LinkSync) (hq : Q .quiet)
    (hf : Q (.fsm .handshakeFailed))
    (hd : s.sharedSecret ≠ [] → acceptsTag P s.sharedSecret m = true → Q (.derive (linkSyncNonce m)))
    (hc : s.sharedSecret = [] ∨ acceptsTag P s.sharedSecret m = true → Q .complete ∧ Q .answer) :
    Steps (Micro P) Q s (s.handleLinkSync P ctx m) := by
  unfold handleLinkSync
  dsimp only
  split
  case isTrue h =>
    have hnil : s.sharedSecret = [] := by simpa using h
    exact completeHandshake_steps P s ctx _ hq (hc (.inl hnil)).1 (hc (.inl hnil)).2 (.inl rfl) (.inl hnil)
  case isFalse h =>
    have hne : s.sharedSecret ≠ [] := by simpa using h
    split
    case isTrue htag =>
      have hmem : linkSyncNonce m ∈ (s.installSession P (linkSyncNonce m)).derived :=
        List.mem_append_right _ (by simp)
      exact Steps.trans (.single (hd hne htag) (.derive _))
        (completeHandshake_steps P _ ctx _ hq (hc (.inr htag)).1 (hc (.inr htag)).2 (.inr hmem) (.inr ⟨_, hmem, rfl⟩))
    case isFalse =>
      exact Steps.trans (.single hf (.fsm (by decide) nofun)) ((emitStatus_quiet P _ _ _).steps hq)

theorem applyResetConfig_quiet (ctx : CommandContext) : Quiet s (s.applyResetConfig P ctx) := by
  unfold applyResetConfig
  split
  · exact .of_eq (by simp [applyTimingConfig]) rfl
  · exact .refl s

theorem handleLinkReset_steps {Q : Label → Prop} (ctx : CommandContext) (hq : Q .quiet) (hr : Q (.fsm .reset)) :
    Steps (Micro P) Q s (s.handleLinkReset P ctx) := by
  refine Steps.trans ((applyResetConfig_quiet P s ctx).steps hq) ?_
  refine Steps.trans (.single hr (.fsm (by decide) nofun)) ?_
  have htimer : ∀ t : Mcu, Quiet t t.restartHandshakeTimer :=
    fun _ => .of_eq (by simp [restartHandshakeTimer, startTimer]) rfl
  exact ((htimer _).trans (sendFrame_system_quiet P _ (by decide) (by decide) (by decide) _ _)).steps hq

/-! ### The table -/

variable {s}

/-- Both templates run their body at most once. -/
theorem dispatch_runsOne {ctx : CommandContext} {needsAck retransmitOnDup : Bool} (body : Mcu → Mcu)
    (hbody : ∀ t, RunsOne t ctx (body t)) :
    RunsOne s ctx
      (match s.preDispatch P ctx needsAck retransmitOnDup with
        | (t, false) => t
        | (t, true) => body t) := by
  have hpre := preDispatch_cases P s ctx needsAck retransmitOnDup
  generalize s.preDispatch P ctx needsAck retransmitOnDup = r at hpre ⊢
  obtain ⟨t, b⟩ := r
  rcases hpre with ⟨-, hb, hq | ⟨-, hsteps⟩⟩ | ⟨-, hb, hq, -⟩
  · obtain rfl : b = false := hb
    exact .inl hq.handled
  · obtain rfl : b = false := hb
    exact .inl (Steps.handled P s (fun _ => TxLabel.ne_handle) hsteps)
  · obtain rfl : b = true := hb
    unfold RunsOne
    rw [← hq.handled]
    exact hbody t

theorem dispatchCmd_runsOne {M : Type} (d : PbMessage M) (handler : CommandContext → M → Mcu → Mcu)
    (ctx : CommandContext) (needsAck retransmitOnDup : Bool)
    (hh : ∀ m t, (handler ctx m t).handled = t.handled) :
    RunsOne s ctx (s.dispatchCmd P d handler ctx needsAck retransmitOnDup) := by
  unfold dispatchCmd
  cases d.read P ctx.envelope.payloadType with
  | none => exact dispatch_runsOne P _ fun t => .inl (emitStatus_quiet P t _ _).handled
  | some m => exact dispatch_runsOne P _ fun t => .inr (hh m (t.handle ctx))

/-- A command that leaves the link alone: its duplicates, and its body. -/
theorem dispatch_plainRun {hal : Hal} {ctx : CommandContext} {needsAck retransmitOnDup : Bool}
    (hdup : retransmitOnDup = true → retransmitsOnDup ctx.rawCommand = true) (body : Mcu → Mcu)
    (hbody : ∀ t, ctx.isDuplicate = false → Quiet s t → t.services = s.services →
      PlainRun P s hal ctx (body t)) :
    PlainRun P s hal ctx
      (match s.preDispatch P ctx needsAck retransmitOnDup with
        | (t, false) => t
        | (t, true) => body t) := by
  have hpre := preDispatch_cases P s ctx needsAck retransmitOnDup
  generalize s.preDispatch P ctx needsAck retransmitOnDup = r at hpre ⊢
  obtain ⟨t, b⟩ := r
  rcases hpre with ⟨hd, hb, hq | ⟨hre, hsteps⟩⟩ | ⟨hd, hb, hq, hserv⟩
  · obtain rfl : b = false := hb
    exact .of_quiet P s hal ctx hq
  · obtain rfl : b = false := hb
    refine ⟨hsteps.mono fun l hl => ?_, .inl (Steps.handled P s (fun _ => TxLabel.ne_handle) hsteps)⟩
    refine (hl.weaken fun hfront => ?_).plain P s
    simp [unguardedDispatch, hd, hdup hre, hfront]
  · obtain rfl : b = true := hb
    exact hbody t hd hq hserv

theorem dispatchCmd_plain {M : Type} {hal : Hal} (d : PbMessage M) (handler : CommandContext → M → Mcu → Mcu)
    (ctx : CommandContext) (needsAck retransmitOnDup : Bool)
    (hdup : retransmitOnDup = true → retransmitsOnDup ctx.rawCommand = true)
    (hh : ∀ m t, d.read P ctx.envelope.payloadType = some m →
      Steps (Micro P) (TxLabel (t.answersUnguarded P hal ctx = true)) t (handler ctx m t)) :
    PlainRun P s hal ctx (s.dispatchCmd P d handler ctx needsAck retransmitOnDup) := by
  unfold dispatchCmd
  cases hm : d.read P ctx.envelope.payloadType with
  | none => exact dispatch_plainRun P hdup _ fun t _ hq _ => .of_quiet P s hal ctx (hq.trans (emitStatus_quiet P t _ _))
  | some m =>
    refine dispatch_plainRun P hdup _ fun t hd hq hserv => .of_handle P hq ((hh m (t.handle ctx) hm).mono fun l hl => ?_)
    refine (hl.weaken fun h => ?_).body P s
    have hcongr := answersUnguarded_congr P s (t := t.handle ctx) hq.fsm hq.sharedSecret hserv hal ctx
    rw [unguardedDispatch, if_neg (by rw [hd]; decide), ← hcongr]
    exact h

theorem dispatchCmd_quiet {M : Type} {hal : Hal} (d : PbMessage M) (handler : CommandContext → M → Mcu → Mcu)
    (ctx : CommandContext) (needsAck : Bool) (hh : ∀ m t, Quiet t (handler ctx m t)) :
    PlainRun P s hal ctx (s.dispatchCmd P d handler ctx needsAck false) :=
  dispatchCmd_plain P d handler ctx _ _ nofun fun m t _ => (hh m t).steps trivial

theorem dispatchNoPayload_plain {hal : Hal} (handler : CommandContext → Mcu → Mcu) (ctx : CommandContext)
    (needsAck retransmitOnDup : Bool) (hdup : retransmitOnDup = true → retransmitsOnDup ctx.rawCommand = true)
    (hh : ∀ t, ctx.isDuplicate = false → Steps (Micro P) (BodyLabel P s hal ctx) t (handler ctx t)) :
    PlainRun P s hal ctx (s.dispatchNoPayload P handler ctx needsAck retransmitOnDup) :=
  dispatch_plainRun P hdup (fun t => handler ctx (t.handle ctx)) fun _ hd hq _ => .of_handle P hq (hh _ hd)

/-- Every entry but STATUS_ACK, LINK_SYNC and LINK_RESET leaves the link alone. -/
theorem kDispatchTable_plain {cmd : UInt16} {h : Handler} (hmem : (cmd, h) ∈ kDispatchTable P)
    (hack : cmd ≠ Status.ack.toUnderlying) (hsync : cmd ≠ Command.linkSync.toUnderlying)
    (hreset : cmd ≠ Command.linkReset.toUnderlying) (hal : Hal) {ctx : CommandContext} (hctx : ctx.rawCommand = cmd) :
    PlainRun P s hal ctx (h hal ctx s) := by
  have hdup : ∀ {b : Bool}, retransmitsOnDup cmd = true → b = true → retransmitsOnDup ctx.rawCommand = true := by
    intro _ h _
    rw [hctx]
    exact h
  have hnever : false = true → retransmitsOnDup ctx.rawCommand = true := fun h => absurd h Bool.false_ne_true
  have hsend : ∀ {c : Command} (_ : Unreliable c) (_ : isSystemCommand c.toUnderlying = true) (t : Mcu) (q : UInt16)
      (p : PayloadType), Steps (Micro P) (BodyLabel P s hal ctx) t (t.send P c q p).1 :=
    fun hc hs t q p => (send_system_quiet P t hc hs q p).steps (.quiet P s hal ctx)
  simp only [kDispatchTable, List.mem_cons, Prod.mk.injEq, List.not_mem_nil, or_false] at hmem
  rcases hmem with ⟨rfl, rfl⟩ | ⟨rfl, rfl⟩ | ⟨rfl, rfl⟩ | ⟨rfl, rfl⟩ | ⟨rfl, rfl⟩ | ⟨rfl, rfl⟩ | ⟨rfl, rfl⟩ |
    ⟨rfl, rfl⟩ | ⟨rfl, rfl⟩ | ⟨rfl, rfl⟩ | ⟨rfl, rfl⟩ | ⟨rfl, rfl⟩ | ⟨rfl, rfl⟩ | ⟨rfl, rfl⟩ | ⟨rfl, rfl⟩ |
    ⟨rfl, rfl⟩ | ⟨rfl, rfl⟩ | ⟨rfl, rfl⟩ | ⟨rfl, rfl⟩ | ⟨rfl, rfl⟩ | ⟨rfl, rfl⟩ | ⟨rfl, rfl⟩ | ⟨rfl, rfl⟩ |
    ⟨rfl, rfl⟩ | ⟨rfl, rfl⟩ | ⟨rfl, rfl⟩ | ⟨rfl, rfl⟩ | ⟨rfl, rfl⟩ | ⟨rfl, rfl⟩ | ⟨rfl, rfl⟩ | ⟨rfl, rfl⟩
  · exact absurd rfl hack
  · exact dispatchNoPayload_plain P _ ctx _ _ (hdup (by decide)) fun t _ => hsend (by decide) (by decide) t _ _
  · exact dispatchNoPayload_plain P _ ctx _ _ (hdup (by decide)) fun t _ => hsend (by decide) (by decide) t _ _
  · exact absurd rfl hsync
  · exact absurd rfl hreset
  · exact dispatchNoPayload_plain P _ ctx _ _ (hdup (by decide)) fun t _ => hsend (by decide) (by decide) t _ _
  · exact dispatchCmd_quiet P _ _ ctx _ fun m t => handleSetBaudrate_quiet t m
  · exact dispatchCmd_quiet P _ _ ctx _ fun m t => handleEnterBootloader_quiet t m
  · exact dispatchNoPayload_plain P _ ctx _ _ hnever fun t hd => .single (.enable P s (b := false) ⟨hd, hctx⟩) (.enable false)
  · exact dispatchNoPayload_plain P _ ctx _ _ hnever fun t hd => .single (.enable P s (b := true) ⟨hd, hctx⟩) (.enable true)
  · exact dispatchCmd_quiet P _ _ ctx _ fun m t => .act _ t
  · exact dispatchCmd_quiet P _ _ ctx _ fun m t => .act _ t
  · exact dispatchCmd_quiet P _ _ ctx _ fun m t => .act _ t
  · exact dispatchCmd_plain P _ _ ctx _ _ (hdup (by decide)) fun m t hm => handlePinRead_steps P t hal ctx hm (.inl hctx)
  · exact dispatchCmd_plain P _ _ ctx _ _ (hdup (by decide)) fun m t hm => handlePinRead_steps P t hal ctx hm (.inr hctx)
  · exact dispatchCmd_quiet P _ _ ctx _ fun m t => .services t _
  · exact dispatchCmd_quiet P _ _ ctx _ fun m t => dataStoreOnResponse_quiet t m
  · exact dispatchCmd_quiet P _ _ ctx _ fun m t => mailboxQueuePush_quiet t m
  · exact onCmdResponse_plainRun P s _ _ hal ctx fun m t => mailboxQueuePush_quiet t m
  · exact onCmdResponse_plainRun P s _ _ hal ctx fun m t => mailboxOnAvailableResponse_quiet t m
  · exact dispatchCmd_quiet P _ _ ctx _ fun m t => fileSystemOnWrite_quiet P t hal _ _
  · exact dispatchCmd_plain P _ _ ctx _ _ hnever fun m t hm => fileSystemOnRead_steps P t hal ctx hm hctx
  · exact dispatchCmd_quiet P _ _ ctx _ fun m t => fileSystemOnRemove_quiet P t hal _
  · exact dispatchCmd_quiet P _ _ ctx _ fun m t => fileSystemOnResponse_quiet t m
  · exact dispatchCmd_quiet P _ _ ctx _ fun m t => .services t _
  · exact dispatchCmd_quiet P _ _ ctx _ fun m t => processOnRunAsyncResponse_quiet t m
  · exact dispatchCmd_quiet P _ _ ctx _ fun m t => processOnPollResponse_quiet t m
  · exact dispatchNoPayload_plain P _ ctx _ _ hnever fun t _ => (handleSpiBegin_quiet P t ctx).steps (.quiet P s hal ctx)
  · exact dispatchCmd_plain P _ _ ctx _ _ (hdup (by decide)) fun m t hm => handleSpiTransfer_steps P t hal ctx hm hctx
  · exact dispatchNoPayload_plain P _ ctx _ _ hnever fun t _ => (handleSpiEnd_quiet P t ctx).steps (.quiet P s hal ctx)
  · exact dispatchCmd_quiet P _ _ ctx _ fun m t => .services t _

theorem findHandler_ack : findHandler (kDispatchTable P) Status.ack.toUnderlying =
    some (fun _ ctx => dispatchCmd P .ackPacket (fun _ m => handleAck P m.commandId.toUInt16) ctx true false) :=
  findHandler_eq (kDispatchTable_sorted P) (by simp only [kDispatchTable, List.mem_cons, true_or])

theorem findHandler_linkSync : findHandler (kDispatchTable P) Command.linkSync.toUnderlying =
    some (fun _ ctx => dispatchCmd P .linkSync (handleLinkSync P) ctx true false) :=
  findHandler_eq (kDispatchTable_sorted P) (by simp only [kDispatchTable, List.mem_cons, true_or, or_true])

theorem findHandler_linkReset : findHandler (kDispatchTable P) Command.linkReset.toUnderlying =
    some (fun _ ctx => dispatchNoPayload P (handleLinkReset P) ctx true false) :=
  findHandler_eq (kDispatchTable_sorted P) (by simp only [kDispatchTable, List.mem_cons, true_or, or_true])

/-! ### Dispatch -/

variable (s)

/-- `_dispatchCommand` after the history update, with every condition read off the state before it. -/
theorem dispatchContext_steps (hal : Hal) (env : RpcEnvelope) {t : Mcu} (hfsm : t.fsm = s.fsm)
    (hsec : t.sharedSecret = s.sharedSecret) (hlast : t.lastCommandId = s.lastCommandId)
    (hun : t.unguardedDispatch P hal (s.commandContext env) = s.unguardedDispatch P hal (s.commandContext env)) :
    Steps (Micro P) (DispatchLabel P s hal env) t (t.dispatchContext P hal (s.commandContext env)) := by
  unfold dispatchContext
  by_cases hcheck : t.isSecurityCheckPassed (s.commandContext env).rawCommand = true
  case neg =>
    rw [if_pos (by simpa using hcheck)]
    exact (sendFrame_status_quiet P t _ _ _).steps trivial
  rw [if_neg (by simpa using hcheck)]
  split
  · exact (processAck_quiet P t _ _).steps trivial
  split
  case isTrue hmal =>
    exact enterSafeState_steps P t trivial (.inr ⟨rfl, hmal⟩) hmal
  by_cases hack : (s.commandContext env).rawCommand = Status.ack.toUnderlying
  · rw [hack, findHandler_ack]
    refine dispatchCmd_steps P trivial trivial _ _ _ _ fun m u hm hd hq => handleAck_steps P _ _ trivial ?_
    intro hf hc
    exact ⟨hack, hd, hfsm ▸ hq.fsm ▸ hf, m, hm, hlast ▸ hq.lastCommandId ▸ hc⟩
  by_cases hsync : (s.commandContext env).rawCommand = Command.linkSync.toUnderlying
  · rw [hsync, findHandler_linkSync]
    refine dispatchCmd_steps P trivial trivial _ _ _ _ fun m u hm hd hq => ?_
    have hof : linkSyncOf P s env = some m := by
      unfold linkSyncOf
      rw [if_pos ⟨hsync, hd⟩]
      exact hm
    have hsecret : (u.handle (s.commandContext env)).sharedSecret = s.sharedSecret :=
      hq.sharedSecret.trans hsec
    refine handleLinkSync_steps P _ _ m trivial hsync ?_ ?_
    · rw [hsecret]
      exact fun hne htag => ⟨m, hof, hne, htag, rfl⟩
    · rw [hsecret]
      exact fun h => ⟨⟨m, hof, h⟩, ⟨m, hof, h⟩⟩
  by_cases hreset : (s.commandContext env).rawCommand = Command.linkReset.toUnderlying
  · rw [hreset, findHandler_linkReset]
    exact dispatchNoPayload_steps P trivial trivial _ _ _ fun u => handleLinkReset_steps P u _ trivial hreset
  have hplain : ∀ l, PlainLabel P t hal (s.commandContext env) l → DispatchLabel P s hal env l := by
    intro l hl
    have hcheck : s.isSecurityCheckPassed env.rawCommand = true := by
      rwa [isSecurityCheckPassed, Mcu.isSynchronized, hsec, hfsm] at hcheck
    refine PlainLabel.dispatch P s ?_ hsync hcheck
    cases l with
    | encrypt => exact hun.symm.trans hl
    | copy cmd => exact hl.imp_left hun.symm.trans
    | _ => exact hl
  split
  case h_1 h heq =>
    exact (kDispatchTable_plain P (findHandler_mem heq) hack hsync hreset hal rfl).steps.mono hplain
  case h_2 => exact (onUnknownCommand_plainRun P t hal _).steps.mono hplain

theorem dispatchCommand_steps (hal : Hal) (env : RpcEnvelope) :
    Steps (Micro P) (fun l => l = .history ∨ DispatchLabel P s hal env l) s (s.dispatchCommand P hal env) := by
  unfold dispatchCommand
  dsimp only
  split
  · exact (dispatchContext_steps P s hal env rfl rfl rfl rfl).mono fun _ => .inr
  · have hctx : Steps (Micro P) (DispatchLabel P s hal env) (s.pushHistory (s.commandContext env).sequenceId) _ :=
      dispatchContext_steps P s hal env rfl rfl rfl (by apply unguardedDispatch_congr P s <;> rfl)
    exact Steps.trans (.single (l := .history) (.inl rfl) (.history _)) (hctx.mono fun _ => .inr)

/-- A dispatched frame runs at most one handler. -/
theorem dispatchContext_runsOne (hal : Hal) (ctx : CommandContext) : RunsOne s ctx (s.dispatchContext P hal ctx) := by
  unfold dispatchContext
  split
  · exact .inl (sendFrame_status_quiet P s _ _ _).handled
  split
  · exact .inl (processAck_quiet P s _ _).handled
  split
  · exact .inl (Steps.handled (Q := (· ≠ .handle)) P s (fun _ h => h) (enterSafeState_steps P s nofun nofun nofun))
  by_cases hack : ctx.rawCommand = Status.ack.toUnderlying
  · rw [hack, findHandler_ack]
    refine dispatchCmd_runsOne P _ _ ctx _ _ fun m t => ?_
    exact Steps.handled (Q := (· ≠ .handle)) P t (fun _ h => h) (handleAck_steps P t _ nofun nofun)
  by_cases hsync : ctx.rawCommand = Command.linkSync.toUnderlying
  · rw [hsync, findHandler_linkSync]
    refine dispatchCmd_runsOne P _ _ ctx _ _ fun m t => ?_
    exact Steps.handled (Q := (· ≠ .handle)) P t (fun _ h => h) (handleLinkSync_steps P t ctx m nofun nofun nofun fun _ => ⟨nofun, nofun⟩)
  by_cases hreset : ctx.rawCommand = Command.linkReset.toUnderlying
  · rw [hreset, findHandler_linkReset]
    refine dispatch_runsOne P (fun t => handleLinkReset P ctx (t.handle ctx)) fun t => .inr ?_
    exact Steps.handled (Q := (· ≠ .handle)) P _ (fun _ h => h) (handleLinkReset_steps P _ ctx nofun nofun)
  split
  case h_1 h heq => exact (kDispatchTable_plain P (findHandler_mem heq) hack hsync hreset hal rfl).runs
  case h_2 => exact (onUnknownCommand_plainRun P s hal ctx).runs

theorem dispatchCommand_runsOne (hal : Hal) (env : RpcEnvelope) :
    RunsOne s (s.commandContext env) (s.dispatchCommand P hal env) := by
  unfold dispatchCommand
  dsimp only
  split
  · exact dispatchContext_runsOne P s hal _
  · exact dispatchContext_runsOne P (s.pushHistory _) hal _

/-- A received frame: it is rejected with a status, or its counter is accepted and it is dispatched, or
it is dispatched in the clear. -/
theorem handleReceivedFrame_cases (hal : Hal) (env : RpcEnvelope) :
    Quiet s (s.handleReceivedFrame P hal (some env)) ∨
    (∃ c plain, s.doEncrypt env.rawCommand = true ∧ s.decryptFrame P env = some (c, plain) ∧
      s.handleReceivedFrame P hal (some env) =
        dispatchCommand P hal { env with payloadType := P.encryptedStore env.payloadType plain }
          (s.acceptCounter c)) ∨
    (s.doEncrypt env.rawCommand = false ∧
      s.handleReceivedFrame P hal (some env) = dispatchCommand P hal env s) := by
  unfold handleReceivedFrame
  dsimp only
  split
  case isTrue h =>
    split
    · exact .inl (emitStatus_quiet P s _ _)
    case h_2 c plain heq => exact .inr (.inl ⟨c, plain, h, heq, rfl⟩)
  case isFalse h => exact .inr (.inr ⟨Bool.eq_false_iff.2 h, rfl⟩)

/-- One received frame runs at most one handler. -/
theorem handleReceivedFrame_handled (hal : Hal) (env : RpcEnvelope) :
    (s.handleReceivedFrame P hal (some env)).handled = s.handled ∨
      (s.handleReceivedFrame P hal (some env)).handled =
        s.handled ++ [(env.rawCommand, env.sequenceId.toUInt16)] := by
  rcases handleReceivedFrame_cases P s hal env with h | ⟨c, plain, -, -, h⟩ | ⟨-, h⟩
  · exact .inl h.handled
  · rw [h]
    exact dispatchCommand_runsOne P (s.acceptCounter c) hal _
  · rw [h]
    exact dispatchCommand_runsOne P s hal env

end Mcu
end McuBridge
