import McuBridge.Net.Recovery

/-! # A command of the daemon gets through

In a session, `send` writes a sealed frame for each attempt, with a new sequence id and a new counter. The first one
that arrives is opened, acknowledged and handled once, and its ACK ends the call. -/

namespace McuBridge
open Run
open Daemon (Link PendingCommand Call)

/-- The frame opens on the MCU to this command and payload under the key, and has the counter in its nonce. -/
structure CommandFrame (P : Platform) (key : Bytes) (cmd seq : UInt16) (plain : Bytes) (counter : UInt64) (f : Sent) :
    Prop where
  command : f.env.commandId = cmd.toUInt32
  sequence : f.env.sequenceId = seq.toUInt32
  nonce : f.env.nonce.length = aeadNonceSize
  counter : readBe64 (f.env.nonce.drop 4) = counter
  seals : ∃ c t, f.env.payloadType = .encryptedPayloadWithTag (c ++ t) ∧ t.length = aeadTagSize ∧
    P.aeadDecrypt key f.env.nonce (P.aad cmd.toUInt32 seq.toUInt32) c t = some plain

variable {P : Platform} {random : Nat → UInt32} {key : Bytes} {cmd seq : UInt16} {plain : Bytes} {counter : UInt64}
  {f : Sent}

/-! ### The daemon seals -/

theorem Daemon.Link.Synced.sendRaw_sealed (random : Nat → UInt32) (hP : P.SealsFrames) {d : Link} (hd : d.Synced key)
    (hserial : d.serial = true) (hkey : key.length = 32) (hcmd : isSystemCommand cmd = false) {m : PayloadType}
    (hlen : (P.pbEncode m).length ≤ maxPayloadSize) (hcount : d.linkNonceCounter < Daemon.nonceCounterMask)
    (ticket : Option Nat) :
    ∃ f seals, CommandFrame P key cmd (d.txSequenceId + 1) (P.pbEncode m) (UInt64.ofNat (d.linkNonceCounter + 1)) f ∧
      d.sendRaw P random true cmd (.message m) none ticket =
        ({ d with
          txSequenceId := d.txSequenceId + 1
          linkNonceCounter := d.linkNonceCounter + 1
          seals := seals
          wire := d.wire ++ [f] }, .sent) := by
  obtain ⟨nonce, hgen, hnonce, hread⟩ : ∃ nonce,
      Daemon.generateNonceWithCounter (random d.linkNonceCounter) d.linkNonceCounter =
        some (nonce, d.linkNonceCounter + 1) ∧
      nonce.length = aeadNonceSize ∧ readBe64 (nonce.drop 4) = UInt64.ofNat (d.linkNonceCounter + 1) := by
    unfold Daemon.generateNonceWithCounter
    rw [if_neg (Nat.not_le.2 hcount)]
    exact ⟨_, rfl, rfl, readBe64_be64 _⟩
  have henc : Daemon.encrypts cmd (some key) = true := by
    have hne : key.isEmpty = false := by
      cases key with
      | nil => cases hkey
      | cons => rfl
    rw [Daemon.encrypts_some, hne, hcmd]
    rfl
  obtain ⟨c, t, hbuild, hct, -, ht⟩ := Daemon.buildFrame_encrypted hP.opens (d.txSequenceId + 1).toUInt32 henc hkey hnonce
    (show ((Payload.message m).serialize P).length ≤ maxPayloadSize from hlen)
  have hnext : ({ d with txSequenceId := d.txSequenceId + 1 } : Link).nextNonce random cmd =
      some ({ d with txSequenceId := d.txSequenceId + 1, linkNonceCounter := d.linkNonceCounter + 1 }, nonce) := by
    have hsync : ({ d with txSequenceId := d.txSequenceId + 1 } : Link).isSynchronized = true := hd.synchronized
    unfold Link.nextNonce
    rw [hsync, hcmd, Bool.not_false, Bool.and_true, if_pos rfl, hgen]
    rfl
  refine ⟨⟨⟨protocolVersion, cmd.toUInt32, (d.txSequenceId + 1).toUInt32, nonce, .encryptedPayloadWithTag (c ++ t)⟩,
    ticket, some d.seals.length⟩, d.seals ++ [(d.linkSessionKey.getD [], nonce)],
    ⟨rfl, rfl, hnonce, hread, c, t, rfl, ht, hP.opens.opens hct⟩, ?_⟩
  have hkey' : ({ d with txSequenceId := d.txSequenceId + 1, linkNonceCounter := d.linkNonceCounter + 1 } :
      Link).sessionKey = some key := Synced.sessionKey ⟨hd.synchronized, hd.key, hd.serial⟩
  have hdo : ({ d with txSequenceId := d.txSequenceId + 1, linkNonceCounter := d.linkNonceCounter + 1 } :
      Link).doEncrypt cmd = true := by
    unfold Link.doEncrypt
    rw [hcmd, hkey']
    rw [Daemon.encrypts_some, hcmd] at henc
    simpa using henc
  unfold Link.sendRaw
  rw [if_neg (by rw [hserial]; decide)]
  dsimp only [Link.nextSequenceId]
  rw [hnext]
  dsimp only
  rw [hkey', hbuild]
  unfold Link.write
  dsimp only
  rw [if_pos hdo, if_pos hdo, if_pos rfl]

/-! ### The MCU opens -/

theorem CommandFrame.decryptFrame {s : Mcu} (hf : CommandFrame P s.sessionKey cmd seq plain counter f)
    (hrx : s.rxNonceCounter < counter) : s.decryptFrame P f.env = some (counter, plain) := by
  obtain ⟨c, t, hpay, ht, hopen⟩ := hf.seals
  have hval : validateFrameNonce (padTo 12 f.env.nonce) s.rxNonceCounter = some counter := by
    have hread : readBe64 ((f.env.nonce.drop 4).take 8) = counter := by
      rw [List.take_of_length_le (by rw [List.length_drop, hf.nonce]; decide), hf.counter]
    unfold validateFrameNonce
    rw [Mcu.padTo_nonce hf.nonce, if_neg (by rw [hf.nonce]; decide), hread]
    dsimp only
    rw [if_neg (UInt64.not_le.2 hrx)]
  rw [Mcu.decryptFrame_eq, aeadDecryptFrame_eq hf.command hf.sequence hf.nonce hpay ht, hopen, Option.bind_some, hval,
    Option.map_some]

namespace Mcu
variable {s : Mcu}

/-- The state in which the handler of an opened frame runs. -/
def openedFor (P : Platform) (plain : Bytes) (counter : UInt64) (env : RpcEnvelope) (s : Mcu) : Mcu :=
  beforeHandler P (s.acceptCounter counter) { env with payloadType := .encryptedPayloadWithTag plain }

/-- A fresh sealed frame of a command with ACK reaches its handler. -/
theorem InSession.recv_command (hs : s.InSession) (hal : Hal)
    (hf : CommandFrame P s.sessionKey cmd seq plain counter f) (hrx : s.rxNonceCounter < counter)
    (hcmd : isSystemCommand cmd = false) (hfresh : ∀ h ∈ s.rxHistory, h ≠ seq) {M : Type} {d : PbMessage M}
    {handler : M → Mcu → Mcu}
    (htable : (cmd, fun (_ : Hal) ctx => dispatchCmd P d (fun _ m => handler m) ctx true false) ∈ kDispatchTable P)
    (htyped : d.Typed) {x : M} (hreads : (P.pbDecode d.tag plain).bind d.select = some x) :
    step P (.recv hal (some f.env)) s = handler x (s.openedFor P plain counter f.env) := by
  have hraw : f.env.rawCommand = cmd := by simp [RpcEnvelope.rawCommand, hf.command]
  obtain ⟨c, t, hpay, -, -⟩ := hf.seals
  have hstore : P.encryptedStore f.env.payloadType plain = .encryptedPayloadWithTag plain := by
    rw [hpay]
    rfl
  have hd : (s.acceptCounter counter).isDuplicate { f.env with payloadType := .encryptedPayloadWithTag plain } = false := by
    rw [isDuplicate_eq_false]
    intro h hh heq
    exact hfresh h hh (UInt16.toUInt32_inj.1 (heq.trans hf.sequence))
  have hread : d.read P (.encryptedPayloadWithTag plain) = some x := by
    rw [PbMessage.read_encrypted P htyped, hreads]
  show s.handleReceivedFrame P hal (some f.env) = _
  unfold handleReceivedFrame
  dsimp only
  rw [hraw, hs.doEncrypt, hcmd, Bool.not_false, if_pos rfl, hf.decryptFrame hrx]
  dsimp only
  rw [hstore, dispatchCommand_fresh P _ hal hd]
  have hctx : ((s.acceptCounter counter).commandContext
      { f.env with payloadType := .encryptedPayloadWithTag plain }).rawCommand = cmd := hraw
  have hcheck : ((s.acceptCounter counter).pushHistory f.env.sequenceId.toUInt16).isSecurityCheckPassed cmd = true := by
    have hsync : ((s.acceptCounter counter).pushHistory f.env.sequenceId.toUInt16).isSynchronized = true :=
      hs.synchronized
    unfold isSecurityCheckPassed
    rw [hsync, Bool.or_true]
  have hne : ∀ st : Status, cmd ≠ st.toUnderlying := by
    rintro st rfl
    rw [isSystemCommand_status] at hcmd
    cases hcmd
  unfold dispatchContext
  rw [hctx, hcheck, if_neg (by decide), if_neg (hne .ok), if_neg (hne .malformed),
    findHandler_eq (kDispatchTable_sorted P) htable]
  exact dispatchCmd_fresh P _ _ hd hread

variable (plain counter) in
/-- The ACK goes out before the handler runs; the rest of the board is as it was. -/
theorem openedFor_fields (hP : P.Handshakes) (hf : f.env.commandId = cmd.toUInt32) (hseq : f.env.sequenceId = seq.toUInt32) :
    s.openedFor P plain counter f.env =
      { s.pushHistory seq with
        rxNonceCounter := counter
        accepts := s.accepts ++ [(s.sessionKey, counter)]
        wire := s.wire ++ [clearFrame ⟨protocolVersion, Status.ack.toUnderlying.toUInt32, seq.toUInt32, [],
          .ackPacket ⟨cmd.toUInt32⟩⟩]
        handled := s.handled ++ [(cmd, seq)] } := by
  have hraw : f.env.rawCommand = cmd := by simp [RpcEnvelope.rawCommand, hf]
  have hseq16 : f.env.sequenceId.toUInt16 = seq := by simp [hseq]
  have hctx : ((s.acceptCounter counter).commandContext { f.env with payloadType := .encryptedPayloadWithTag plain }) =
      ⟨{ f.env with payloadType := .encryptedPayloadWithTag plain }, cmd, seq,
        (s.acceptCounter counter).isDuplicate { f.env with payloadType := .encryptedPayloadWithTag plain },
        requiresAck cmd⟩ := by
    unfold commandContext
    rw [show (⟨f.env.version, f.env.commandId, f.env.sequenceId, f.env.nonce, .encryptedPayloadWithTag plain⟩ :
      RpcEnvelope).rawCommand = cmd from hraw, hseq16]
  unfold openedFor beforeHandler
  rw [hctx, show (⟨f.env.version, f.env.commandId, f.env.sequenceId, f.env.nonce, .encryptedPayloadWithTag plain⟩ :
      RpcEnvelope).rawCommand = cmd from hraw, hseq16, processAck_wire hP]
  rfl

end Mcu

/-! ### The ACK ends the call -/

namespace Daemon.Link
variable {d : Link}

theorem correlatePending_ack (h : McuHost) {p : PendingCommand} (hcmd : p.commandId = cmd) (hresp : p.expectedRespIds = [])
    (hopen : p.success = none) :
    correlatePending h Status.ack.toUnderlying.toUInt32 (.message (.ackPacket ⟨cmd.toUInt32⟩)) p =
      PendingCommand.markSuccess (.message (.ackPacket ⟨cmd.toUInt32⟩)) { p with ackReceived := true } := by
  have htarget : ackTarget h p (.message (.ackPacket ⟨cmd.toUInt32⟩)) = p.commandId.toUInt32 := by rw [hcmd]; rfl
  unfold correlatePending
  rw [hopen, if_neg (by decide), if_pos rfl, if_pos htarget]
  dsimp only
  rw [hresp]
  rfl

/-- An ACK of the running command completes it. -/
theorem processPacket_ack (P : Platform) (random : Nat → UInt32) (hserial : d.service.serial = true) {c : Call}
    (hcall : d.current = some c) (hcmd : c.pending.commandId = cmd) (hresp : c.pending.expectedRespIds = [])
    (hopen : c.pending.success = none) (io : Io) (seq : UInt32) :
    d.processPacket P random io
        ⟨protocolVersion, Status.ack.toUnderlying.toUInt32, seq, [], .ackPacket ⟨cmd.toUInt32⟩⟩ =
      { d with
        executed := d.executed ++ [(Status.ack.toUnderlying.toUInt32, seq)]
        current := some { c with
          pending := PendingCommand.markSuccess (.message (.ackPacket ⟨cmd.toUInt32⟩))
            { c.pending with ackReceived := true } } } := by
  have hcorr : d.correlateFrame io.host Status.ack.toUnderlying.toUInt32 (.message (.ackPacket ⟨cmd.toUInt32⟩)) =
      { d with current := some { c with
          pending := PendingCommand.markSuccess (.message (.ackPacket ⟨cmd.toUInt32⟩))
            { c.pending with ackReceived := true } } } := by
    unfold correlateFrame
    rw [hcall, Option.map_some, correlatePending_ack io.host hcmd hresp hopen]
  have hreg : Service.mcuRegistry.lookup Status.ack.toUnderlying = some Service.onMcuAck := rfl
  have hsystem : isSystemCommand Status.ack.toUnderlying = true := by decide
  rw [processPacket_plain random d rfl rfl hsystem (by decide) io]
  show (d.correlateFrame io.host Status.ack.toUnderlying.toUInt32 (.message (.ackPacket ⟨cmd.toUInt32⟩))).handleMcuFrame
    P random io Status.ack.toUnderlying.toUInt32 seq (.message (.ackPacket ⟨cmd.toUInt32⟩)) = _
  rw [hcorr]
  unfold handleMcuFrame
  dsimp only
  rw [if_neg (by rw [hserial]; decide), if_neg (by simp [show isStatusValue Status.ack.toUnderlying.toUInt32 = true by decide]),
    if_neg (by decide), if_pos (by decide),
    show Status.ack.toUnderlying.toUInt32.toUInt16 = Status.ack.toUnderlying by decide, hreg]
  dsimp only [decodePayload]
  have hquiet : ∀ (alive : Bool) (service : Service),
      Service.onMcuAck io.host alive (.message (.ackPacket ⟨cmd.toUInt32⟩)) service = some ⟨service, [], false⟩ :=
    fun _ _ => rfl
  rw [runHandler_quiet (hquiet _ _), if_pos (by decide)]

end Daemon.Link

/-! ### Attempts -/

namespace Net

/-- The call of `send` after `attempts` attempts, while it waits. -/
def waiting (cmd : UInt16) (m : PayloadType) (attempts ticket : Nat) : Call :=
  ⟨{ commandId := cmd, expectedRespIds := [], attempts := attempts }, .message m, false, ticket⟩

/-- After `attempts` attempts of the command, all frames but the last one lost. -/
structure Trying (P : Platform) (key : Bytes) (cmd : UInt16) (m : PayloadType) (attempts : Nat) (s₀ s : Net) : Prop where
  call : s.daemon.current = some (waiting cmd m attempts s₀.daemon.calls)
  session : s.daemon.Synced key
  serial : s.daemon.serial = true
  sequence : s.daemon.txSequenceId = s₀.daemon.txSequenceId + UInt16.ofNat attempts
  counter : s.daemon.linkNonceCounter = s₀.daemon.linkNonceCounter + attempts
  calls : s.daemon.calls = s₀.daemon.calls + 1
  results : s.daemon.results = s₀.daemon.results
  maxAttempts : s.daemon.maxAttempts = s₀.daemon.maxAttempts
  mcu : s.mcu = s₀.mcu
  frame : ∃ f, s.toMcu = s₀.toMcu ++ [f] ∧
    CommandFrame P key cmd s.daemon.txSequenceId (P.pbEncode m) (UInt64.ofNat s.daemon.linkNonceCounter) f
  toDaemon : s.toDaemon = s₀.toDaemon

/-- The peers are in the session of this key, no call of `send` is running, and the MCU has counted no frame the daemon
has not yet numbered. -/
structure InTouch (key : Bytes) (s : Net) : Prop where
  daemon : s.daemon.Synced key
  serial : s.daemon.serial = true
  idle : s.daemon.current = none
  mcu : s.mcu.InSession
  mcuKey : s.mcu.sessionKey = key
  counters : s.mcu.rxNonceCounter.toNat ≤ s.daemon.linkNonceCounter

/-- A command with ACK and without response, whose message fits a frame. -/
structure Acknowledged (P : Platform) (cmd : UInt16) (m : PayloadType) : Prop where
  application : isSystemCommand cmd = false
  reliable : requiresAck cmd = true
  response : Daemon.expectedResponses cmd = []
  fits : (P.pbEncode m).length ≤ maxPayloadSize

variable {m : PayloadType} {s s₀ : Net}

/-- One attempt writes one sealed frame and leaves the call waiting. -/
theorem sendAttempt_waiting (random : Nat → UInt32) (hP : P.SealsFrames) {d : Link} (hd : d.Synced key)
    (hserial : d.serial = true) (hkey : key.length = 32) (h : Acknowledged P cmd m)
    (hcount : d.linkNonceCounter < Daemon.nonceCounterMask) (attempts ticket : Nat) (sleeping : Bool) :
    ∃ f seals, CommandFrame P key cmd (d.txSequenceId + 1) (P.pbEncode m) (UInt64.ofNat (d.linkNonceCounter + 1)) f ∧
      d.sendAttempt P random true { waiting cmd m attempts ticket with sleeping := sleeping } =
        { d with
          txSequenceId := d.txSequenceId + 1
          linkNonceCounter := d.linkNonceCounter + 1
          seals := seals
          wire := d.wire ++ [f]
          current := some (waiting cmd m (attempts + 1) ticket) } := by
  obtain ⟨f, seals, hf, hsend⟩ := hd.sendRaw_sealed random hP hserial hkey h.application h.fits hcount (some ticket)
  refine ⟨f, seals, hf, ?_⟩
  unfold Link.sendAttempt
  dsimp only [waiting]
  rw [hsend]

theorem InTouch.send (random : Nat → UInt32) (hP : P.SealsFrames) (hs : s.InTouch key) (h : Acknowledged P cmd m)
    (hcount : s.daemon.linkNonceCounter < Daemon.nonceCounterMask) :
    Trying P key cmd m 1 s (step P random (.daemon (.send true cmd (.message m))) s) := by
  have hkey : key.length = 32 := hs.mcuKey ▸ hs.mcu.key
  have hne : ∀ c : Command, isSystemCommand c.toUnderlying = true → (cmd == c.toUnderlying) = false := by
    intro c hc
    rw [beq_eq_false_iff_ne]
    rintro rfl
    rw [h.application] at hc
    cases hc
  have htracked : Link.isTracked cmd = true := by
    unfold Link.isTracked
    rw [hne .linkSync (by decide), hne .linkReset (by decide), h.reliable, Bool.or_true]
    rfl
  obtain ⟨f, seals, hf, hattempt⟩ := sendAttempt_waiting random hP
    (d := { s.daemon with calls := s.daemon.calls + 1 }) ⟨hs.daemon.synchronized, hs.daemon.key, hs.daemon.serial⟩
    hs.serial hkey h hcount 0 s.daemon.calls false
  have hsend : s.daemon.step P random (.send true cmd (.message m)) =
      ({ s.daemon with calls := s.daemon.calls + 1 } : Link).sendAttempt P random true
        { waiting cmd m 0 s.daemon.calls with sleeping := false } := by
    show s.daemon.send P random true cmd (.message m) = _
    unfold Link.send
    rw [if_neg (by rw [hs.serial]; decide), if_neg (by rw [htracked]; decide), if_neg (by rw [hs.idle]; decide),
      h.response]
    rfl
  rw [hattempt] at hsend
  rw [step_daemon_writes [f] rfl (by rw [hsend]), hsend]
  exact ⟨rfl, ⟨hs.daemon.synchronized, hs.daemon.key, hs.daemon.serial⟩, hs.serial, rfl, rfl, rfl, rfl, rfl,
    rfl, ⟨f, rfl, hf⟩, rfl⟩

/-- The frame of the attempt is lost on the way to the MCU, its wait times out, and the next attempt is made. -/
def lostAttempt (s : Net) : List NetEvent :=
  [.loseToMcu s.toMcu.length, .daemon .timeout, .daemon (.retry true)]

theorem Trying.again (random : Nat → UInt32) (hP : P.SealsFrames) {attempts : Nat} (hs : Trying P key cmd m attempts s₀ s)
    (hkey : key.length = 32) (h : Acknowledged P cmd m) (hmax : attempts < s₀.daemon.maxAttempts)
    (hcount : s₀.daemon.linkNonceCounter + attempts < Daemon.nonceCounterMask) :
    Trying P key cmd m (attempts + 1) s₀ (run (step P random) s (lostAttempt s₀)) := by
  obtain ⟨f, hq, -⟩ := hs.frame
  have hlose : s.toMcu.eraseIdx s₀.toMcu.length = s₀.toMcu := by
    rw [hq, List.eraseIdx_append_of_length_le (Nat.le_refl _), Nat.sub_self]
    exact List.append_nil _
  have htimeout : s.daemon.step P random .timeout =
      { s.daemon with current := some { waiting cmd m attempts s₀.daemon.calls with sleeping := true } } := by
    show s.daemon.onTimeout = _
    unfold Link.onTimeout
    rw [hs.call]
    show s.daemon.retryLater _ = _
    unfold Link.retryLater
    rw [if_pos (by rw [hs.maxAttempts]; exact hmax)]
  obtain ⟨g, seals, hg, hattempt⟩ := sendAttempt_waiting random hP
    (d := { s.daemon with current := some { waiting cmd m attempts s₀.daemon.calls with sleeping := true } })
    ⟨hs.session.synchronized, hs.session.key, hs.session.serial⟩ hs.serial hkey h
    (by rw [← hs.counter] at hcount; exact hcount) attempts s₀.daemon.calls true
  have hretry : ∀ t : Net, t.daemon =
      { s.daemon with current := some { waiting cmd m attempts s₀.daemon.calls with sleeping := true } } →
      step P random (.daemon (.retry true)) t = { t with
        daemon := { s.daemon with
          txSequenceId := s.daemon.txSequenceId + 1
          linkNonceCounter := s.daemon.linkNonceCounter + 1
          seals := seals
          wire := s.daemon.wire ++ [g]
          current := some (waiting cmd m (attempts + 1) s₀.daemon.calls) }
        toMcu := t.toMcu ++ [g] } := by
    intro t ht
    have hstep : t.daemon.step P random (.retry true) = _ := (congrArg (Link.step P random (.retry true)) ht).trans hattempt
    rw [step_daemon_writes [g] rfl (by rw [hstep, ht]), hstep]
  unfold lostAttempt
  simp only [run]
  show Trying P key cmd m (attempts + 1) s₀ (step P random (.daemon (.retry true)) (step P random (.daemon .timeout)
    { s with toMcu := s.toMcu.eraseIdx s₀.toMcu.length }))
  have hwaits : ∀ t : Net, t.daemon = s.daemon → (t.daemon.step P random .timeout).wire = t.daemon.wire ++ [] := by
    intro t ht
    rw [ht, htimeout, List.append_nil]
  rw [hlose, step_daemon_writes [] rfl (hwaits { s with toMcu := s₀.toMcu } rfl)]
  rw [hretry _ htimeout]
  refine ⟨rfl, ⟨hs.session.synchronized, hs.session.key, hs.session.serial⟩, hs.serial, ?_, ?_, hs.calls, hs.results,
    hs.maxAttempts, hs.mcu, ⟨g, ?_, hg⟩, hs.toDaemon⟩
  · show s.daemon.txSequenceId + 1 = _
    rw [hs.sequence, UInt16.ofNat_add, UInt16.add_assoc]
    rfl
  · show s.daemon.linkNonceCounter + 1 = _
    rw [hs.counter, Nat.add_assoc]
  · show s₀.toMcu ++ [] ++ [g] = _
    rw [List.append_nil]

/-- By induction on the lost attempts. -/
theorem Trying.lost (random : Nat → UInt32) (hP : P.SealsFrames) (hkey : key.length = 32) (h : Acknowledged P cmd m)
    (k : Nat) {attempts : Nat} (hs : Trying P key cmd m attempts s₀ s) (hmax : attempts + k ≤ s₀.daemon.maxAttempts)
    (hcount : s₀.daemon.linkNonceCounter + (attempts + k) ≤ Daemon.nonceCounterMask) :
    Trying P key cmd m (attempts + k) s₀ (run (step P random) s (List.replicate k (lostAttempt s₀)).flatten) := by
  induction k generalizing attempts s with
  | zero => exact hs
  | succ k ih =>
    rw [List.replicate_succ, List.flatten_cons, run_append]
    have hnext := hs.again random hP hkey h (by omega) (by omega)
    rw [show attempts + (k + 1) = attempts + 1 + k by omega] at hmax hcount ⊢
    exact ih hnext hmax hcount

/-- `send` with `lost` attempts whose frames do not reach the MCU, and one whose frame and ACK arrive. -/
def retried (cmd : UInt16) (m : PayloadType) (lost : Nat) (hal : Hal) (io : Daemon.Io) (s : Net) : List NetEvent :=
  [.daemon (.send true cmd (.message m))] ++ (List.replicate lost (lostAttempt s)).flatten ++
    [.deliverToMcu s.toMcu.length hal, .deliverToDaemon s.toDaemon.length io, .daemon .completion]

/-- The board `u` when the handler of the command starts. -/
structure Started (cmd seq : UInt16) (counter : Nat) (s u : Mcu) : Prop where
  acts : u.acts = s.acts
  services : u.services = s.services
  handled : u.handled = s.handled ++ [(cmd, seq)]
  session : u.InSession
  key : u.sessionKey = s.sessionKey
  counter : u.rxNonceCounter = UInt64.ofNat counter
  history : u.rxHistory = (s.pushHistory seq).rxHistory

/-- The handler has run once, on the message, and `send` has returned the ACK. -/
structure CarriedOut {M : Type} (key : Bytes) (handler : M → Mcu → Mcu) (x : M) (cmd : UInt16) (attempts : Nat)
    (s t : Net) : Prop where
  mcu : ∃ u, t.mcu = handler x u ∧ Started cmd (s.daemon.txSequenceId + UInt16.ofNat attempts)
    (s.daemon.linkNonceCounter + attempts) s.mcu u
  session : t.daemon.Synced key
  serial : t.daemon.serial = true
  idle : t.daemon.current = none
  sequence : t.daemon.txSequenceId = s.daemon.txSequenceId + UInt16.ofNat attempts
  counter : t.daemon.linkNonceCounter = s.daemon.linkNonceCounter + attempts
  calls : t.daemon.calls = s.daemon.calls + 1
  results : t.daemon.results =
    s.daemon.results ++ [(s.daemon.calls, .returned (some (.message (.ackPacket ⟨cmd.toUInt32⟩))))]
  maxAttempts : t.daemon.maxAttempts = s.daemon.maxAttempts
  toMcu : t.toMcu = s.toMcu
  toDaemon : t.toDaemon = s.toDaemon

/-- What the MCU does with the command: an entry of the dispatch table that reads the message and writes nothing. -/
structure Handles (P : Platform) (cmd : UInt16) (m : PayloadType) {M : Type} (d : PbMessage M) (handler : M → Mcu → Mcu)
    (x : M) : Prop where
  table : (cmd, fun (_ : Hal) ctx => Mcu.dispatchCmd P d (fun _ x => handler x) ctx true false) ∈ Mcu.kDispatchTable P
  typed : d.Typed
  reads : (P.pbDecode d.tag (P.pbEncode m)).bind d.select = some x
  quiet : ∀ u, (handler x u).wire = u.wire

theorem Trying.delivered (random : Nat → UInt32) (hH : P.Handshakes) {attempts : Nat}
    (hs : Trying P key cmd m attempts s₀ s) (hs₀ : s₀.InTouch key) (h : Acknowledged P cmd m) (hpos : 0 < attempts)
    (hcount : s₀.daemon.linkNonceCounter + attempts ≤ Daemon.nonceCounterMask)
    (hfresh : ∀ q ∈ s₀.mcu.rxHistory, q ≠ s₀.daemon.txSequenceId + UInt16.ofNat attempts) {M : Type} {d : PbMessage M}
    {handler : M → Mcu → Mcu} {x : M} (hh : Handles P cmd m d handler x) (hal : Hal) (io : Daemon.Io) :
    CarriedOut key handler x cmd attempts s₀
      (run (step P random) s
        [.deliverToMcu s₀.toMcu.length hal, .deliverToDaemon s₀.toDaemon.length io, .daemon .completion]) := by
  obtain ⟨f, hq, hf⟩ := hs.frame
  rw [hs.counter, hs.sequence] at hf
  have hlt : s₀.mcu.rxNonceCounter < UInt64.ofNat (s₀.daemon.linkNonceCounter + attempts) := by
    have hle := hs₀.counters
    rw [UInt64.lt_iff_toNat_lt, UInt64.toNat_ofNat_of_lt']
    · omega
    · unfold Daemon.nonceCounterMask at hcount
      show _ < 2 ^ 64
      omega
  have hrecv := hs₀.mcu.recv_command hal (by rw [hs₀.mcuKey]; exact hf) hlt h.application hfresh hh.table hh.typed hh.reads
  have hopened := Mcu.openedFor_fields (s := s₀.mcu) (P.pbEncode m)
    (UInt64.ofNat (s₀.daemon.linkNonceCounter + attempts)) hH hf.command hf.sequence
  have hwire : (s.mcu.step P (.recv hal (some f.env))).wire = s.mcu.wire ++ [Mcu.clearFrame ⟨protocolVersion,
      Status.ack.toUnderlying.toUInt32, (s₀.daemon.txSequenceId + UInt16.ofNat attempts).toUInt32, [],
      .ackPacket ⟨cmd.toUInt32⟩⟩] := by
    rw [hs.mcu, hrecv, hh.quiet, hopened]
  obtain ⟨calls, hdeliver⟩ := step_toMcu random hal hq hwire
  have hget : (s.toDaemon ++ [Mcu.clearFrame ⟨protocolVersion, Status.ack.toUnderlying.toUInt32,
      (s₀.daemon.txSequenceId + UInt16.ofNat attempts).toUInt32, [], .ackPacket ⟨cmd.toUInt32⟩⟩])[s₀.toDaemon.length]? =
        some (Mcu.clearFrame ⟨protocolVersion, Status.ack.toUnderlying.toUInt32,
          (s₀.daemon.txSequenceId + UInt16.ofNat attempts).toUInt32, [], .ackPacket ⟨cmd.toUInt32⟩⟩) := by
    rw [hs.toDaemon, List.getElem?_concat_length]
  have hack := Link.processPacket_ack P random hs.session.serial hs.call (show _ = cmd from rfl) rfl rfl io
    (s₀.daemon.txSequenceId + UInt16.ofNat attempts).toUInt32
  simp only [run]
  rw [hdeliver]
  obtain ⟨frames, hanswer⟩ := step_toDaemon P random
    (s := { s with
      mcu := s.mcu.step P (.recv hal (some f.env))
      toMcu := s₀.toMcu
      toDaemon := s.toDaemon ++ _
      calls := calls }) io hget
  rw [hanswer]
  show CarriedOut _ _ _ _ _ _ (daemonStep P random .completion _)
  unfold daemonStep
  dsimp only [Mcu.clearFrame]
  rw [hack]
  -- neither the ACK nor the end of the call writes a frame
  have hnothing (wire : List Sent) : written wire wire = [] := List.drop_length
  refine ⟨⟨_, by rw [hs.mcu]; exact hrecv, ?_⟩, ⟨hs.session.synchronized, hs.session.key, hs.session.serial⟩, hs.serial,
    rfl, hs.sequence, hs.counter, hs.calls, congrArg (· ++ _) hs.results, hs.maxAttempts, ?_, ?_⟩
  · rw [hopened]
    exact ⟨rfl, rfl, rfl, ⟨hs₀.mcu.synchronized, hs₀.mcu.secret, hs₀.mcu.key⟩, rfl, rfl, rfl⟩
  · show s₀.toMcu ++ written s.daemon.wire s.daemon.wire ++ written s.daemon.wire s.daemon.wire = s₀.toMcu
    rw [hnothing, List.append_nil, List.append_nil]
  · show (s.toDaemon ++ [_]).eraseIdx s₀.toDaemon.length = s₀.toDaemon
    rw [hs.toDaemon, List.eraseIdx_append_of_length_le (Nat.le_refl _), Nat.sub_self]
    exact List.append_nil _

/-- A command reaches its handler, once, and `send` returns its ACK, as long as the frame of one of the allowed attempts
and its ACK arrive and the frames before it were lost on the way to the MCU. -/
theorem carriedOut (random : Nat → UInt32) (hP : P.SealsFrames) (hH : P.Handshakes) (hs : s.InTouch key)
    (h : Acknowledged P cmd m) {M : Type} {d : PbMessage M} {handler : M → Mcu → Mcu} {x : M}
    (hh : Handles P cmd m d handler x) (lost : Nat) (hmax : lost < s.daemon.maxAttempts)
    (hcount : s.daemon.linkNonceCounter + (lost + 1) ≤ Daemon.nonceCounterMask)
    (hfresh : ∀ q ∈ s.mcu.rxHistory, q ≠ s.daemon.txSequenceId + UInt16.ofNat (lost + 1)) (hal : Hal) (io : Daemon.Io) :
    CarriedOut key handler x cmd (lost + 1) s
      (run (step P random) s (retried cmd m lost hal io s)) := by
  have hkey : key.length = 32 := hs.mcuKey ▸ hs.mcu.key
  have hlost := (hs.send random hP h (by omega)).lost random hP hkey h lost (by omega) (by omega)
  rw [Nat.add_comm] at hlost
  unfold retried
  rw [run_append, run_append]
  exact hlost.delivered random hH hs h (by omega) hcount hfresh hh hal io

end Net
end McuBridge
