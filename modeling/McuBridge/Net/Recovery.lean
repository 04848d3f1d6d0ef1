import McuBridge.Daemon.HandshakeRuns
import McuBridge.Mcu.FlowControl
import McuBridge.Net.Counters
import McuBridge.Net.InSession

/-! # A handshake brings any two peers together

The peers may be in any state: out of step, with different keys, the board freshly reset or in `FAULT`. One handshake
attempt whose frames arrive ends with both in the session of its nonce, whatever else is in flight. -/

namespace McuBridge
open Run

/-- What the handshake relies on: tags of the size of an HMAC-SHA256, and that its answers can be serialised. -/
structure Platform.Handshakes (P : Platform) : Prop where
  tag_length : ∀ key message, handshakeTagLength ≤ (P.hmac key message).length
  ack : ∀ (m : AckPacket) (seq : UInt16),
    P.serializes ⟨protocolVersion, Status.ack.toUnderlying.toUInt32, seq.toUInt32, [], .ackPacket m⟩ = true
  empty : ∀ cmd seq : UInt16, P.serializes (Mcu.rawEnvelope cmd seq (List.replicate aeadNonceSize 0) []) = true
  resp : ∀ (seq : UInt16) {nonce tag : Bytes}, nonce.length = handshakeNonceLength → tag.length = handshakeTagLength →
    P.serializes
      ⟨protocolVersion, Command.linkSyncResp.toUnderlying.toUInt32, seq.toUInt32, [], .linkSync ⟨nonce, tag⟩⟩ = true

theorem Platform.sample_handshakes : Platform.sample.Handshakes where
  tag_length key message := by
    show handshakeTagLength ≤ (Sample.hmac key message).length
    simp [Sample.hmac, padTo, handshakeTagLength]
  ack _ _ := rfl
  empty _ _ := rfl
  resp _ _ _ _ _ := rfl

namespace Daemon.Link
variable {P : Platform} {d : Link}

/-- What the daemon writes for a system command: the message in the clear, with the next sequence id. -/
def systemFrame (cmd : UInt16) (m : PayloadType) (ticket : Option Nat) (d : Link) : Sent :=
  ⟨⟨protocolVersion, cmd.toUInt32, (d.txSequenceId + 1).toUInt32, List.replicate aeadNonceSize 0, m⟩, ticket, none⟩

theorem sendRaw_system (random : Nat → UInt32) (hserial : d.serial = true) {cmd : UInt16}
    (hcmd : isSystemCommand cmd = true) (m : PayloadType) (ticket : Option Nat) :
    d.sendRaw P random true cmd (.message m) none ticket =
      ({ d with
        txSequenceId := d.txSequenceId + 1
        wire := d.wire ++ [systemFrame cmd m ticket d] }, .sent) := by
  have hbuild : ∀ key, buildFrame P cmd (d.txSequenceId + 1).toUInt32 (.message m) (List.replicate aeadNonceSize 0) key =
      some (systemFrame cmd m ticket d).env := by
    intro key
    unfold buildFrame
    cases key <;> simp [hcmd, buildFrame.plain, systemFrame, aeadNonceSize]
  have hnonce : ({ d with txSequenceId := d.txSequenceId + 1 } : Link).nextNonce random cmd =
      some ({ d with txSequenceId := d.txSequenceId + 1 }, List.replicate aeadNonceSize 0) := by
    unfold nextNonce
    rw [hcmd, Bool.not_true, Bool.and_false, if_neg (by simp)]
  unfold sendRaw
  rw [if_neg (by rw [hserial]; decide)]
  dsimp only [nextSequenceId]
  rw [hnonce]
  dsimp only
  rw [hbuild]
  unfold write doEncrypt
  simp only [hcmd, Bool.not_true, Bool.false_and, Bool.false_eq_true, if_false, if_true]
  rfl

/-- A handshake attempt is running, and `f` is the frame it has written last. -/
structure Attempting (P : Platform) (d₀ : Link) (nonce : Bytes) (confirming : Bool) (f : Sent) (d : Link) : Prop where
  wire : d.wire = d₀.wire ++ [f]
  serial : d.serial = true
  service : d.service = d₀.service
  secret : d.sharedSecret = d₀.sharedSecret
  sequence : d.txSequenceId = d₀.txSequenceId + 1
  pending : d.linkHandshakeNonce = some nonce
  tag : d.linkExpectedTag = some (calculateHandshakeTag P d₀.sharedSecret nonce)
  attempt : d.attempt = some ⟨nonce, confirming⟩
  running : d.fsmState ≠ .fault

theorem setFsmState_fields (new : HandshakeState) (d : Link) :
    ∃ st ev, d.setFsmState new = { d with fsmState := new, state := st, linkSyncEvent := ev } := by
  unfold setFsmState
  split
  · subst_vars
    exact ⟨_, _, rfl⟩
  · exact ⟨_, _, rfl⟩

theorem beginAttempt_attempting (random : Nat → UInt32) (hserial : d.serial = true) (nonce : Bytes) :
    ∃ f, f.env = ⟨protocolVersion, Command.linkReset.toUnderlying.toUInt32, (d.txSequenceId + 1).toUInt32,
        List.replicate aeadNonceSize 0, .handshakeConfig d.timing⟩ ∧
      Attempting P d nonce false f (d.beginAttempt P random true nonce) := by
  obtain ⟨st, ev, hreset⟩ := setFsmState_fields .unsynchronized d
  obtain ⟨st', ev', hreset'⟩ := setFsmState_fields .resetting (d.setFsmState .unsynchronized)
  unfold beginAttempt
  dsimp only
  rw [hreset', hreset]
  dsimp only
  rw [sendRaw_system random ?port (by decide)]
  case port => exact hserial
  exact ⟨_, rfl, ⟨rfl, hserial, rfl, rfl, rfl, rfl, rfl, rfl, nofun⟩⟩

theorem Attempting.confirm {d₀ : Link} {nonce : Bytes} {f : Sent} (h : Attempting P d₀ nonce false f d) :
    Attempting P d₀ nonce true f { d.setFsmState .confirming with attempt := some ⟨nonce, true⟩ } := by
  obtain ⟨st, ev, hconfirm⟩ := setFsmState_fields .confirming d
  rw [hconfirm]
  exact ⟨h.wire, h.serial, h.service, h.secret, h.sequence, h.pending, h.tag, rfl, nofun⟩

/-- The attempt goes on with its LINK_SYNC, which carries the tag of its nonce. -/
theorem Attempting.sendLinkSync (random : Nat → UInt32) {d₀ : Link} {nonce : Bytes} {g : Sent}
    (h : Attempting P d₀ nonce false g d) :
    ∃ f, f.env = ⟨protocolVersion, Command.linkSync.toUnderlying.toUInt32, (d.txSequenceId + 1).toUInt32,
        List.replicate aeadNonceSize 0, .linkSync ⟨nonce, calculateHandshakeTag P d.sharedSecret nonce⟩⟩ ∧
      Attempting P d nonce true f (d.sendLinkSync P random true ⟨nonce, false⟩) := by
  obtain ⟨st, ev, hsync⟩ := setFsmState_fields .syncing d
  unfold Link.sendLinkSync
  dsimp only
  rw [hsync, sendRaw_system random ?port (by decide)]
  case port => exact h.serial
  dsimp only
  rw [if_pos rfl, if_neg nofun, if_pos rfl]
  refine ⟨_, rfl, Attempting.confirm ⟨rfl, h.serial, rfl, rfl, rfl, h.pending, ?_, h.attempt, nofun⟩⟩
  rw [h.tag, h.secret]

theorem calculateHandshakeTag_eq {secret : Bytes} (h : secret ≠ []) (nonce : Bytes) :
    calculateHandshakeTag P secret nonce = P.handshakeTag secret nonce := by
  unfold calculateHandshakeTag
  rw [if_neg (by simpa using h)]

/-- The daemon is in the session of the nonce, and its attempt still has to end. -/
structure Answered (P : Platform) (d₀ : Link) (nonce : Bytes) (d : Link) : Prop where
  synchronized : d.isSynchronized = true
  key : d.linkSessionKey = some (P.deriveSessionKey d₀.sharedSecret nonce)
  attempt : d.attempt = d₀.attempt

theorem Answered.keeps {d₀ t : Link} {nonce : Bytes} (h : Answered P d₀ nonce d) (hk : Keeps d t) :
    Answered P d₀ nonce t := by
  refine ⟨?_, hk.linkSessionKey.trans h.key, hk.attempt.trans h.attempt⟩
  have hs := h.synchronized
  unfold isSynchronized at hs ⊢
  rw [hk.state]
  exact hs

/-- A message with the pending nonce and its tag is accepted. -/
theorem handleLinkSyncResp_accepts (random : Nat → UInt32) {nonce tag : Bytes}
    (hpending : d.linkHandshakeNonce = some nonce) (hexpected : d.linkExpectedTag = some tag) (hsecret : d.sharedSecret ≠ [])
    (hlen : (P.handshakeTag d.sharedSecret nonce).length = aeadTagSize) {io : Io} (hio : io.throttled = false)
    (seq : UInt32) :
    ∃ t, d.handleLinkSyncResp P random io seq
        (.message (.linkSync ⟨nonce, P.handshakeTag d.sharedSecret nonce⟩)) = (t, true) ∧ Answered P d nonce t := by
  have hcalc := calculateHandshakeTag_eq (P := P) hsecret nonce
  have hempty : d.sharedSecret.isEmpty = false := by simpa using hsecret
  obtain ⟨st, ev, hsync⟩ := setFsmState_fields .synchronized
    { d with linkSessionKey := some (P.deriveSessionKey d.sharedSecret nonce) }
  have hgood : ¬ (d.linkExpectedTag = none ∨ (P.handshakeTag d.sharedSecret nonce).length ≠ aeadTagSize ∨
      P.handshakeTag d.sharedSecret nonce ≠ calculateHandshakeTag P d.sharedSecret nonce) := by
    simp [hexpected, hlen, hcalc]
  refine ⟨{ (({ d with linkSessionKey := some (P.deriveSessionKey d.sharedSecret nonce) } : Link).setFsmState
      .synchronized).clearHandshakeExpectations.handleHandshakeSuccess with accepted := d.accepted ++ [nonce] }, ?_, ?_⟩
  · unfold handleLinkSyncResp
    split
    case h_1 hnone => cases hnone.symm.trans hpending
    case h_2 expected hsome =>
      obtain rfl : nonce = expected := Option.some.inj (hpending.symm.trans hsome)
      rw [if_neg (by rw [hio]; decide)]
      dsimp only [readLinkSync]
      rw [if_neg (not_not.2 rfl), if_neg hgood, if_neg (by rw [hempty]; decide), hsync]
      rfl
  · rw [hsync]
    exact ⟨rfl, rfl, rfl⟩

theorem handleMcuFrame_accepts (random : Nat → UInt32) {nonce tag : Bytes} (hpending : d.linkHandshakeNonce = some nonce)
    (hexpected : d.linkExpectedTag = some tag) (hsecret : d.sharedSecret ≠ [])
    (hlen : (P.handshakeTag d.sharedSecret nonce).length = aeadTagSize) (hserial : d.service.serial = true) {io : Io}
    (hio : io.throttled = false) (seq : UInt32) :
    Answered P d nonce (d.handleMcuFrame P random io Command.linkSyncResp.toUnderlying.toUInt32 seq
      (.message (.linkSync ⟨nonce, P.handshakeTag d.sharedSecret nonce⟩))) := by
  obtain ⟨t, hresp, ht⟩ := handleLinkSyncResp_accepts (P := P)
    (d := { d with executed := d.executed ++ [(Command.linkSyncResp.toUnderlying.toUInt32, seq)] })
    random hpending hexpected hsecret hlen hio seq
  unfold handleMcuFrame
  rw [if_neg (by rw [hserial]; decide), if_neg (by simp [preSyncAllowed]), if_pos rfl]
  dsimp only at hresp ⊢
  rw [hresp]
  exact Answered.keeps ⟨ht.synchronized, ht.key, ht.attempt⟩ (.acknowledge ..)

/-- The answer the attempt waits for synchronises the daemon. -/
theorem Attempting.answered (random : Nat → UInt32) {d₀ : Link} {nonce : Bytes} {f : Sent}
    (h : Attempting P d₀ nonce true f d) (hsecret : d.sharedSecret ≠ [])
    (hlen : (P.handshakeTag d.sharedSecret nonce).length = aeadTagSize) (hserial : d.service.serial = true) {io : Io}
    (hio : io.throttled = false) {env : RpcEnvelope} (hver : env.version = protocolVersion)
    (hcmd : env.commandId = Command.linkSyncResp.toUnderlying.toUInt32)
    (hpay : env.payloadType = .linkSync ⟨nonce, P.handshakeTag d.sharedSecret nonce⟩) :
    Answered P d nonce (d.processPacket P random io env) := by
  rw [processPacket_plain random d hver hcmd (by decide) (by decide) io, hpay]
  have ht := handleMcuFrame_accepts (P := P) (d := d.correlateFrame io.host Command.linkSyncResp.toUnderlying.toUInt32
    (.message (.linkSync ⟨nonce, P.handshakeTag d.sharedSecret nonce⟩))) random h.pending h.tag hsecret hlen hserial hio
    env.sequenceId
  exact ⟨ht.synchronized, ht.key, ht.attempt⟩

/-- The attempt ends as soon as the daemon is synchronised. -/
theorem Answered.endAttempt {d₀ : Link} {nonce : Bytes} (h : Answered P d₀ nonce d) (a : Attempt) :
    (d.endAttempt a).isSynchronized = true ∧ (d.endAttempt a).linkSessionKey = d.linkSessionKey ∧
      (d.endAttempt a).attempt = none := by
  obtain ⟨st, ev, hsync⟩ := setFsmState_fields .synchronized d
  unfold Link.endAttempt
  rw [if_pos h.synchronized]
  dsimp only
  split
  case isTrue hstate =>
    refine ⟨?_, by rw [hsync], rfl⟩
    unfold isSynchronized setFsmState
    rw [if_neg hstate.1]
    rfl
  case isFalse => exact ⟨h.synchronized, rfl, rfl⟩

end Daemon.Link
namespace Mcu
variable {P : Platform} {s : Mcu}

/-- A frame of the MCU that carries no seal. -/
def clearFrame (env : RpcEnvelope) : Sent := ⟨env, none, none⟩

theorem processAck_wire (hP : P.Handshakes) (cmd seq : UInt16) (s : Mcu) :
    s.processAck P cmd seq = { s with wire := s.wire ++ [clearFrame ⟨protocolVersion, Status.ack.toUnderlying.toUInt32,
      seq.toUInt32, [], .ackPacket ⟨cmd.toUInt32⟩⟩] } := by
  have hsys : isSystemCommand Status.ack.toUnderlying = true := by decide
  unfold processAck sendStatus sendSinglePass sendFrameRaw
  rw [hsys, Bool.not_true, Bool.and_false, if_neg (by simp)]
  exact serializeAndSend_wire (hP.ack ..)

theorem sendFrame_empty (hP : P.Handshakes) {cmd : UInt16} (hsys : isSystemCommand cmd = true)
    (hack : requiresAck cmd = false) (seq : UInt16) (s : Mcu) :
    (s.sendFrame P cmd seq []).1 = { s with
      wire := s.wire ++ [clearFrame (rawEnvelope cmd seq (List.replicate aeadNonceSize 0) [])] } := by
  unfold sendFrame transmit
  rw [hsys, Bool.not_true, Bool.and_false, if_neg (by simp), hack, if_neg (by simp), doEncrypt_system s hsys,
    if_neg (by simp)]
  exact serializeAndSend_wire (hP.empty ..)

/-- What a LINK_RESET leaves behind, from any state of the FSM, after the given frames. -/
structure Reset (s₀ : Mcu) (frames : Nat) (s : Mcu) : Prop where
  wire : ∃ fs, s.wire = s₀.wire ++ fs ∧ fs.length = frames
  fsm : s.fsm = .unsynchronized
  secret : s.sharedSecret = s₀.sharedSecret
  history : s.rxHistory = s₀.rxHistory

theorem handleLinkReset_reset (hP : P.Handshakes) (ctx : CommandContext) (s : Mcu) :
    Reset s 1 (s.handleLinkReset P ctx) := by
  have hconfig : ∃ a r p, s.applyResetConfig P ctx =
      { s with ackTimeoutMs := a, retryLimit := r, responseTimeoutMs := p } := by
    unfold applyResetConfig
    split <;> exact ⟨_, _, _, rfl⟩
  obtain ⟨a, r, p, hconfig⟩ := hconfig
  unfold handleLinkReset
  dsimp only
  rw [sendFrame_empty hP (by decide) (by decide), hconfig]
  refine ⟨⟨_, rfl, rfl⟩, ?_, rfl, rfl⟩
  show s.fsm.onEvent .reset = .unsynchronized
  cases s.fsm <;> rfl

theorem recv_linkReset (hP : P.Handshakes) (hal : Hal) {env : RpcEnvelope}
    (hcmd : env.rawCommand = Command.linkReset.toUnderlying) (hd : s.isDuplicate env = false) :
    Reset (s.pushHistory env.sequenceId.toUInt16) 2 (step P (.recv hal (some env)) s) := by
  rw [recv_system_fresh P s hal (by rw [hcmd]; decide) (by rw [hcmd]; decide) (by rw [hcmd]; decide) hd
    (by rw [hcmd]; exact findHandler_linkReset P)]
  rw [dispatchNoPayload_fresh P _ _ hd, processAck_wire hP]
  obtain ⟨⟨fs, hwire, hlen⟩, hfsm, hsecret, hhistory⟩ := handleLinkReset_reset hP (s.commandContext env)
    (({ s.pushHistory env.sequenceId.toUInt16 with
      wire := s.wire ++ [clearFrame ⟨protocolVersion, Status.ack.toUnderlying.toUInt32,
        env.sequenceId.toUInt16.toUInt32, [], .ackPacket ⟨env.rawCommand.toUInt32⟩⟩] } : Mcu).handle
      (s.commandContext env))
  exact ⟨⟨_, hwire.trans (List.append_assoc ..), by simp [hlen]⟩, hfsm, hsecret, hhistory⟩

/-- The session of the nonce is open, and its LINK_SYNC_RESP is the last frame written, after the given ones. -/
structure Opened (P : Platform) (s₀ : Mcu) (frames : Nat) (nonce : Bytes) (s : Mcu) : Prop where
  wire : ∃ fs g, s.wire = s₀.wire ++ (fs ++ [g]) ∧ fs.length = frames ∧ g.env.version = protocolVersion ∧
    g.env.commandId = Command.linkSyncResp.toUnderlying.toUInt32 ∧
    g.env.payloadType = .linkSync ⟨nonce, P.handshakeTag s₀.sharedSecret nonce⟩
  secret : s.sharedSecret = s₀.sharedSecret
  synchronized : s.isSynchronized = true
  key : s.sessionKey = P.deriveSessionKey s₀.sharedSecret nonce
  tx : s.txNonceCounter = 0
  rx : s.rxNonceCounter = 0

theorem handshakeTag_length (hP : P.Handshakes) (secret nonce : Bytes) :
    (P.handshakeTag secret nonce).length = handshakeTagLength := by
  unfold Crypto.handshakeTag
  rw [List.length_take]
  exact Nat.min_eq_left (hP.tag_length ..)

theorem handleLinkSync_opened (hP : P.Handshakes) (ctx : CommandContext) {nonce : Bytes}
    (hlen : nonce.length = handshakeNonceLength) (hsecret : s.sharedSecret ≠ []) (hfsm : s.fsm = .unsynchronized) :
    Opened P s 0 nonce (s.handleLinkSync P ctx ⟨nonce, P.handshakeTag s.sharedSecret nonce⟩) := by
  have htag := handshakeTag_length hP s.sharedSecret nonce
  have htake : linkSyncNonce ⟨nonce, P.handshakeTag s.sharedSecret nonce⟩ = nonce := by
    unfold linkSyncNonce
    exact List.take_of_length_le (Nat.le_of_eq hlen)
  have hauth : handshakeAuthenticate P.toCrypto s.sharedSecret nonce (P.handshakeTag s.sharedSecret nonce) =
      (P.hmac (P.handshakeKey s.sharedSecret) nonce, true) := by
    have hvalid := (acceptsTag_iff P s.sharedSecret ⟨nonce, P.handshakeTag s.sharedSecret nonce⟩).2
      (.inr ⟨htag, by rw [htake]⟩)
    unfold acceptsTag at hvalid
    rw [htake] at hvalid
    exact Prod.ext rfl hvalid
  unfold handleLinkSync completeHandshake
  dsimp only
  rw [if_neg (by simpa using hsecret), htake, hauth]
  dsimp only
  rw [if_pos rfl, send_linkSyncResp, serializeAndSend_wire ?serializes]
  case serializes => exact hP.resp _ hlen htag
  refine ⟨⟨[], _, rfl, rfl, rfl, rfl, rfl⟩, rfl, ?_, rfl, rfl, rfl⟩
  show ((s.fsm.onEvent .handshakeStart).onEvent .handshakeComplete).isSynchronized = true
  rw [hfsm]
  rfl

theorem recv_linkSync_opened (hP : P.Handshakes) (hal : Hal) {env : RpcEnvelope}
    (hcmd : env.rawCommand = Command.linkSync.toUnderlying) (hd : s.isDuplicate env = false) {nonce : Bytes}
    (hlen : nonce.length = handshakeNonceLength) (hsecret : s.sharedSecret ≠ [])
    (hpay : env.payloadType = .linkSync ⟨nonce, P.handshakeTag s.sharedSecret nonce⟩) (hfsm : s.fsm = .unsynchronized) :
    Opened P s 1 nonce (step P (.recv hal (some env)) s) := by
  have hread : PbMessage.linkSync.read P env.payloadType = some ⟨nonce, P.handshakeTag s.sharedSecret nonce⟩ := by
    rw [hpay]
    rfl
  rw [recv_system_fresh P s hal (by rw [hcmd]; decide) (by rw [hcmd]; decide) (by rw [hcmd]; decide) hd
    (by rw [hcmd]; exact findHandler_linkSync P)]
  rw [dispatchCmd_fresh P _ _ hd hread, processAck_wire hP]
  obtain ⟨⟨fs, g, hwire, hfs, hg⟩, hsec, hsync, hkey, htx, hrx⟩ := handleLinkSync_opened hP (s.commandContext env)
    (s := ({ s.pushHistory env.sequenceId.toUInt16 with
      wire := s.wire ++ [clearFrame ⟨protocolVersion, Status.ack.toUnderlying.toUInt32,
        env.sequenceId.toUInt16.toUInt32, [], .ackPacket ⟨env.rawCommand.toUInt32⟩⟩] } : Mcu).handle
      (s.commandContext env)) hlen hsecret hfsm
  refine ⟨⟨_ :: fs, g, hwire.trans (List.append_assoc ..), ?_, hg⟩, hsec, hsync, hkey, htx, hrx⟩
  rw [List.length_cons, hfs]

end Mcu

/-! ### The handshake -/

namespace Net

/-- One attempt of the daemon whose LINK_RESET, LINK_SYNC and LINK_SYNC_RESP arrive. The MCU's ACKs and its
LINK_RESET_RESP are left in flight. -/
def attempt (nonce : Bytes) (hal hal' : Hal) (io : Daemon.Io) (s : Net) : List NetEvent :=
  [.daemon (.beginAttempt true nonce), .deliverToMcu s.toMcu.length hal, .daemon (.sendLinkSync true),
    .deliverToMcu s.toMcu.length hal', .deliverToDaemon (s.toDaemon.length + 3) io, .daemon .endAttempt]

/-- Both peers are in the session of this nonce, and no attempt is left. -/
structure InSessionOf (P : Platform) (secret nonce : Bytes) (s : Net) : Prop where
  daemon : s.daemon.isSynchronized = true
  daemonKey : s.daemon.linkSessionKey = some (P.deriveSessionKey secret nonce)
  attempt : s.daemon.attempt = none
  mcu : s.mcu.isSynchronized = true
  mcuKey : s.mcu.sessionKey = P.deriveSessionKey secret nonce
  tx : s.mcu.txNonceCounter = 0
  rx : s.mcu.rxNonceCounter = 0

/-- The port is open, no attempt is running, the peers share a secret, and the MCU has not just seen the next two
sequence ids. -/
structure CanAttempt (s : Net) : Prop where
  serial : s.daemon.serial = true
  service : s.daemon.service.serial = true
  idle : s.daemon.attempt = none
  secret : s.mcu.sharedSecret = s.daemon.sharedSecret
  secret_ne : s.daemon.sharedSecret ≠ []
  fresh : ∀ h ∈ s.mcu.rxHistory, h ≠ s.daemon.txSequenceId + 1 ∧ h ≠ s.daemon.txSequenceId + 1 + 1

variable {P : Platform} {random : Nat → UInt32} {s : Net}

theorem step_daemon_writes {ev : Daemon.LinkEvent} (fs : List Sent) (hev : isLocalDaemon ev = true)
    (hwire : (s.daemon.step P random ev).wire = s.daemon.wire ++ fs) :
    step P random (.daemon ev) s = { s with daemon := s.daemon.step P random ev, toMcu := s.toMcu ++ fs } := by
  show (if _ then _ else _) = _
  rw [if_pos hev]
  unfold daemonStep
  dsimp only
  rw [hwire, written_append]

variable (random) in
/-- The frame written last is delivered. -/
theorem step_toMcu {q fs : List Sent} {f : Sent} (hal : Hal) (hq : s.toMcu = q ++ [f])
    (hwire : (s.mcu.step P (.recv hal (some f.env))).wire = s.mcu.wire ++ fs) :
    ∃ calls, step P random (.deliverToMcu q.length hal) s =
      { s with
        mcu := s.mcu.step P (.recv hal (some f.env))
        toMcu := q
        toDaemon := s.toDaemon ++ fs
        calls := calls } := by
  have hget : s.toMcu[q.length]? = some f := by rw [hq, List.getElem?_concat_length]
  have hrest : s.toMcu.eraseIdx q.length = q := by
    rw [hq, List.eraseIdx_append_of_length_le (Nat.le_refl _), Nat.sub_self]
    exact List.append_nil q
  simp only [Net.step, hget, hrest]
  unfold receiveMcu mcuStep
  dsimp only
  rw [hwire, written_append]
  exact ⟨_, rfl⟩

variable (P random) in
theorem step_toDaemon {i : Nat} {f : Sent} (io : Daemon.Io) (hget : s.toDaemon[i]? = some f) :
    ∃ frames, step P random (.deliverToDaemon i io) s =
      { s with
        daemon := s.daemon.processPacket P random io f.env
        toMcu := s.toMcu ++ written s.daemon.wire (s.daemon.processPacket P random io f.env).wire
        toDaemon := s.toDaemon.eraseIdx i
        frames := frames } := by
  simp only [Net.step, hget]
  exact ⟨_, rfl⟩

/-- The LINK_RESET has been handled, and the attempt waits to send its LINK_SYNC. -/
structure AtReset (P : Platform) (s₀ : Net) (nonce : Bytes) (s : Net) : Prop where
  daemon : ∃ f, Daemon.Link.Attempting P s₀.daemon nonce false f s.daemon
  fsm : s.mcu.fsm = .unsynchronized
  secret : s.mcu.sharedSecret = s₀.daemon.sharedSecret
  fresh : ∀ h ∈ s.mcu.rxHistory, h ≠ s.daemon.txSequenceId + 1
  toMcu : s.toMcu = s₀.toMcu
  toDaemon : s.toDaemon.length = s₀.toDaemon.length + 2

/-- The LINK_SYNC has been handled: the MCU is in the session, and its answer `r` in flight. -/
structure AtSync (P : Platform) (s₀ : Net) (nonce : Bytes) (r : RpcEnvelope) (s : Net) : Prop where
  daemon : ∃ d f, d.sharedSecret = s₀.daemon.sharedSecret ∧ d.service = s₀.daemon.service ∧
    Daemon.Link.Attempting P d nonce true f s.daemon
  synchronized : s.mcu.isSynchronized = true
  key : s.mcu.sessionKey = P.deriveSessionKey s₀.daemon.sharedSecret nonce
  tx : s.mcu.txNonceCounter = 0
  rx : s.mcu.rxNonceCounter = 0
  answer : ∃ f : Sent, s.toDaemon[s₀.toDaemon.length + 3]? = some f ∧ f.env = r

theorem ne_succ (q : UInt16) : q + 1 ≠ q := by
  intro h
  have h := congrArg UInt16.toBitVec h
  simp at h

variable (random) in
theorem CanAttempt.reset (hP : P.Handshakes) (hs : s.CanAttempt) {nonce : Bytes}
    (hnonce : nonce.length = handshakeNonceLength) (hal : Hal) :
    AtReset P s nonce
      (run (step P random) s [.daemon (.beginAttempt true nonce), .deliverToMcu s.toMcu.length hal]) := by
  obtain ⟨f, hf, hbegun⟩ := Daemon.Link.beginAttempt_attempting (P := P) random hs.serial nonce
  have hbegin : s.daemon.step P random (.beginAttempt true nonce) = s.daemon.beginAttempt P random true nonce := by
    show (if _ then _ else _) = _
    rw [if_neg (by simp [hs.idle, hnonce])]
  have hdaemon : (s.daemon.step P random (.beginAttempt true nonce)).wire = s.daemon.wire ++ [f] := by
    rw [hbegin]
    exact hbegun.wire
  have hdup : s.mcu.isDuplicate f.env = false := by
    rw [Mcu.isDuplicate_eq_false, hf]
    exact fun h hh heq => (hs.fresh h hh).1 (UInt16.toUInt32_inj.1 heq)
  have hcmd : f.env.rawCommand = Command.linkReset.toUnderlying := by
    rw [hf]
    rfl
  have hreset := Mcu.recv_linkReset hP hal (s := s.mcu) hcmd hdup
  obtain ⟨fs, hfs, hlen⟩ := hreset.wire
  obtain ⟨calls, hdeliver⟩ := step_toMcu random
    (s := { s with daemon := s.daemon.beginAttempt P random true nonce, toMcu := s.toMcu ++ [f] }) hal rfl hfs
  simp only [run]
  rw [step_daemon_writes _ rfl hdaemon, hbegin, hdeliver]
  refine ⟨⟨f, hbegun⟩, hreset.fsm, hreset.secret.trans hs.secret, ?_, rfl, ?_⟩
  · rw [hbegun.sequence]
    show ∀ h ∈ (s.mcu.step P (.recv hal (some f.env))).rxHistory, _
    rw [hreset.history, hf]
    intro h hh heq
    have hmem : h ∈ s.mcu.rxHistory ∨ h = s.daemon.txSequenceId + 1 := by
      have hpush : h ∈ (if rxHistorySize ≤ s.mcu.rxHistory.length then s.mcu.rxHistory.tail else s.mcu.rxHistory) ++
          [(s.daemon.txSequenceId + 1).toUInt32.toUInt16] := hh
      rw [List.mem_append, List.mem_singleton, UInt16.toUInt16_toUInt32] at hpush
      refine hpush.imp_left fun hold => ?_
      split at hold
      · exact List.mem_of_mem_tail hold
      · exact hold
    obtain hold | rfl := hmem
    · exact (hs.fresh h hold).2 heq
    · exact ne_succ _ heq.symm
  · show (s.toDaemon ++ fs).length = _
    rw [List.length_append, hlen]

variable (random) in
theorem AtReset.sync (hP : P.Handshakes) {s₀ : Net} (hs : s₀.CanAttempt) {nonce : Bytes} (h : AtReset P s₀ nonce s)
    (hnonce : nonce.length = handshakeNonceLength) (hal : Hal) :
    ∃ r : RpcEnvelope, r.version = protocolVersion ∧ r.commandId = Command.linkSyncResp.toUnderlying.toUInt32 ∧
      r.payloadType = .linkSync ⟨nonce, P.handshakeTag s₀.daemon.sharedSecret nonce⟩ ∧
      AtSync P s₀ nonce r
        (run (step P random) s [.daemon (.sendLinkSync true), .deliverToMcu s₀.toMcu.length hal]) := by
  obtain ⟨f, hbegun⟩ := h.daemon
  obtain ⟨g, hg, hsynced⟩ := hbegun.sendLinkSync random
  have hsync : s.daemon.step P random (.sendLinkSync true) = s.daemon.sendLinkSync P random true ⟨nonce, false⟩ := by
    simp only [Daemon.Link.step, hbegun.attempt]
    rfl
  have hdaemon : (s.daemon.step P random (.sendLinkSync true)).wire = s.daemon.wire ++ [g] := by
    rw [hsync]
    exact hsynced.wire
  have hdup : s.mcu.isDuplicate g.env = false := by
    rw [Mcu.isDuplicate_eq_false, hg]
    exact fun q hq heq => h.fresh q hq (UInt16.toUInt32_inj.1 heq)
  have hpay : g.env.payloadType = .linkSync ⟨nonce, P.handshakeTag s.mcu.sharedSecret nonce⟩ := by
    rw [hg, hbegun.secret, h.secret, Daemon.Link.calculateHandshakeTag_eq hs.secret_ne]
  have hcmd : g.env.rawCommand = Command.linkSync.toUnderlying := by
    rw [hg]
    rfl
  have hopened := Mcu.recv_linkSync_opened hP hal (s := s.mcu) hcmd hdup hnonce
    (by rw [h.secret]; exact hs.secret_ne) hpay h.fsm
  obtain ⟨fs, r, hfs, hlen, hver, hcmd, hresp⟩ := hopened.wire
  obtain ⟨calls, hdeliver⟩ := step_toMcu random
    (s := { s with daemon := s.daemon.sendLinkSync P random true ⟨nonce, false⟩, toMcu := s₀.toMcu ++ [g] }) hal rfl hfs
  rw [h.secret] at hresp
  refine ⟨r.env, hver, hcmd, hresp, ?_⟩
  simp only [run]
  rw [step_daemon_writes _ rfl hdaemon, hsync, h.toMcu, hdeliver]
  refine ⟨⟨s.daemon, g, hbegun.secret, hbegun.service, hsynced⟩, hopened.synchronized, ?_, hopened.tx, hopened.rx, ?_⟩
  · exact hopened.key.trans (by rw [h.secret])
  · refine ⟨r, ?_, rfl⟩
    show (s.toDaemon ++ (fs ++ [r]))[s₀.toDaemon.length + 3]? = some r
    rw [← List.append_assoc, List.getElem?_append_right (by rw [List.length_append, h.toDaemon, hlen]),
      List.length_append, h.toDaemon, hlen, Nat.sub_self]
    rfl

variable (random) in
theorem AtSync.answer_accepted (hP : P.Handshakes) {s₀ : Net} (hs : s₀.CanAttempt) {nonce : Bytes} {r : RpcEnvelope}
    (h : AtSync P s₀ nonce r s) (hver : r.version = protocolVersion)
    (hcmd : r.commandId = Command.linkSyncResp.toUnderlying.toUInt32)
    (hpay : r.payloadType = .linkSync ⟨nonce, P.handshakeTag s₀.daemon.sharedSecret nonce⟩) {io : Daemon.Io}
    (hio : io.throttled = false) :
    InSessionOf P s₀.daemon.sharedSecret nonce
      (run (step P random) s [.deliverToDaemon (s₀.toDaemon.length + 3) io, .daemon .endAttempt]) := by
  obtain ⟨d, f, hsecret, hservice, hsynced⟩ := h.daemon
  obtain ⟨g, hget, rfl⟩ := h.answer
  have hsame : s.daemon.sharedSecret = s₀.daemon.sharedSecret := hsynced.secret.trans hsecret
  have hanswered := hsynced.answered random (by rw [hsame]; exact hs.secret_ne)
    (Mcu.handshakeTag_length hP ..) (by rw [hsynced.service, hservice]; exact hs.service) hio hver hcmd
    (by rw [hsame]; exact hpay)
  obtain ⟨frames, hdeliver⟩ := step_toDaemon P random io hget
  have hend : ∀ t : Daemon.Link, t.attempt = some ⟨nonce, true⟩ →
      t.step P random .endAttempt = t.endAttempt ⟨nonce, true⟩ := by
    intro t ht
    simp only [Daemon.Link.step, ht]
    rfl
  obtain ⟨hsync, hkey, hnone⟩ := hanswered.endAttempt ⟨nonce, true⟩
  simp only [run]
  rw [hdeliver]
  show InSessionOf _ _ _ (daemonStep P random .endAttempt _)
  unfold daemonStep
  dsimp only
  rw [hend _ (hanswered.attempt.trans hsynced.attempt)]
  exact ⟨hsync, hkey.trans (by rw [hanswered.key, hsame]), hnone, h.synchronized, h.key, h.tx, h.rx⟩

/-- A handshake attempt whose frames arrive puts both peers in its session, from whatever state they are in and
whatever else is in flight. -/
theorem recovers (P : Platform) (hP : P.Handshakes) (random : Nat → UInt32) (s : Net) (hs : s.CanAttempt) (nonce : Bytes)
    (hnonce : nonce.length = handshakeNonceLength) (hal hal' : Hal) (io : Daemon.Io) (hio : io.throttled = false) :
    InSessionOf P s.daemon.sharedSecret nonce (run (step P random) s (attempt nonce hal hal' io s)) := by
  have hreset := hs.reset random hP hnonce hal
  obtain ⟨r, hver, hcmd, hpay, hsync⟩ := hreset.sync random hP hs hnonce hal'
  exact hsync.answer_accepted random hP hs hver hcmd hpay hio

/-- The board restarts in a session, with a frame of the session in flight: the daemon still takes itself for
synchronised. -/
def outOfStep : Net :=
  run (step .sample fun _ => 0) sampleInit ([.daemon .connect] ++ sampleHandshake handshakeNonce ++
    [.mcu (.send .mailboxPush 0 (.mailboxPush [65])), .reboot true])

theorem outOfStep_rxHistory : outOfStep.mcu.rxHistory = [] := by decide +kernel

theorem recovers_outOfStep :
    outOfStep.daemon.isSynchronized = true ∧ outOfStep.mcu.isSynchronized = false ∧ outOfStep.toDaemon.length = 1 ∧
      InSessionOf .sample [7] (handshakeNonce.map (· + 1))
        (run (step .sample fun _ => 0) outOfStep
          (attempt (handshakeNonce.map (· + 1)) .sample .sample .sample outOfStep)) := by
  refine ⟨by decide +kernel, by decide +kernel, by decide +kernel, ?_⟩
  exact recovers .sample Platform.sample_handshakes (fun _ => 0) outOfStep
    ⟨by decide +kernel, by decide +kernel, by decide +kernel, by decide +kernel, by decide +kernel,
      fun q hq => absurd (outOfStep_rxHistory ▸ hq) List.not_mem_nil⟩
    (handshakeNonce.map (· + 1)) (by decide) .sample .sample .sample rfl

end Net
end McuBridge
