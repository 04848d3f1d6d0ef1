import McuBridge.Mcu.Session
import McuBridge.Net.Traffic

/-! # The handshake with an adversary on the line

The adversary sees what both peers write and decides alone what reaches them. It can put any envelope
together, but a valid handshake tag only by taking it from a handshake frame it has seen: that is all the
unforgeability of the HMAC says. Both directions of the handshake use the same tag for a nonce, so the
daemon takes its own LINK_SYNC, brought back under the other command, for the answer of the MCU. -/

namespace McuBridge

structure Hostile where
  daemon : Daemon.Link
  mcu : Mcu

/-- Where the adversary has the tag of a frame from: nowhere, or a frame written by a peer. -/
inductive TagSource where
  | none
  | mcu (i : Nat)
  | daemon (i : Nat)

inductive HostileEvent where
  | daemon (ev : Daemon.LinkEvent)
  | mcu (ev : McuEvent)
  | reboot (postOk : Bool)
  | toMcu (hal : Hal) (env : RpcEnvelope)
  | toDaemon (source : TagSource) (io : Daemon.Io) (env : RpcEnvelope)

namespace Mcu

instance : DecidablePred impersonates
  | .sendFrame cmd _ _ => inferInstanceAs (Decidable (cmd = _))
  | .send c _ _ => inferInstanceAs (Decidable (c = _))
  | .recv _ _ | .sendStatus _ _ _ | .emitStatus _ _ | .retransmitLastFrame | .enterSafeState | .onAckTimeout
  | .onRxDedupe | .onBaudrateChange | .onBootloaderDelay | .onHandshakeTimeout | .serialTask _ | .consoleBegin
  | .consoleWrite _ | .consoleProcess | .dataStoreGet _ _ | .fileSystemRead _ _ | .processRunAsync _ _ _
  | .processPoll _ _ | .mailboxProcess | .register _ _ _ => inferInstanceAs (Decidable False)

end Mcu

/-- A handshake frame of the daemon is brought back to it as LINK_SYNC_RESP. -/
def HostileEvent.reflects : HostileEvent → Bool
  | .toDaemon (.daemon _) _ env => env.commandId == Command.linkSyncResp.toUnderlying.toUInt32
  | _ => false

namespace Hostile
variable (P : Platform) (random : Nat → UInt32)

/-- The handshake message the daemon reads from the envelope, if its tag is valid. -/
def validAnswer (io : Daemon.Io) (env : RpcEnvelope) (s : Hostile) : Option LinkSync :=
  (Daemon.Link.readLinkSync io.host (Daemon.parseFrame.plain env.payloadType)).filter fun m =>
    m.tag.length == aeadTagSize && m.tag == Daemon.Link.calculateHandshakeTag P s.daemon.sharedSecret m.nonce

/-- A frame with the given command carries the handshake message `m`. -/
def carries (cmd : Command) (m : LinkSync) (f : Sent) : Bool :=
  f.env.rawCommand == cmd.toUnderlying && f.env.payloadType == .linkSync m

/-- The adversary can make the envelope: a valid tag in it comes from the frame it names. -/
def derivable (source : TagSource) (io : Daemon.Io) (env : RpcEnvelope) (s : Hostile) : Bool :=
  (validAnswer P io env s).all fun m =>
    match source with
    | .none => false
    | .mcu i => s.mcu.wire[i]?.any (carries .linkSyncResp m)
    | .daemon i => s.daemon.wire[i]?.any (carries .linkSync m)

/-- The sketch is no party of the handshake: it does not send LINK_SYNC_RESP itself. -/
def step : HostileEvent → Hostile → Hostile
  | .daemon ev, s => if Net.isLocalDaemon ev then { s with daemon := s.daemon.step P random ev } else s
  | .mcu ev, s => if Net.isLocalMcu ev ∧ ¬ Mcu.impersonates ev then { s with mcu := s.mcu.step P ev } else s
  | .reboot postOk, s => { s with mcu := s.mcu.reboot postOk }
  | .toMcu hal env, s => { s with mcu := s.mcu.step P (.recv hal (some env)) }
  | .toDaemon source io env, s =>
    if derivable P source io env s then { s with daemon := s.daemon.step P random (.packet io env) } else s

def init (secret : Bytes) (timing : HandshakeConfig) (maxAttempts : Nat) (service : Daemon.Service)
    (postOk : Bool) : Hostile where
  daemon := { sharedSecret := secret, timing := timing, maxAttempts := maxAttempts, service := service }
  mcu := Mcu.boot secret postOk

end Hostile

/-! ### What the MCU writes as an answer -/

namespace Mcu
variable {P : Platform} {l : Label} {s t : Mcu}

/-- The MCU has derived a session key from `n` and sent the answer. -/
def Answered (n : Bytes) (s : Mcu) : Prop :=
  n ∈ s.derived ∧ ∃ f ∈ s.wire, f.env.rawCommand = Command.linkSyncResp.toUnderlying ∧
    ∃ m, f.env.payloadType = .linkSync m ∧ m.nonce = n

/-- Every LINK_SYNC_RESP on the wire is the answer to a processed LINK_SYNC, or has no tag. -/
structure Answers (s : Mcu) : Prop where
  wire : ∀ f ∈ s.wire, f.env.rawCommand = Command.linkSyncResp.toUnderlying →
    ∃ m, f.env.payloadType = .linkSync m ∧ (m.tag = [] ∨ m.nonce ∈ s.derived)
  queue : ∀ g ∈ s.pendingTxQueue, requiresAck g.commandId = true

theorem Answers.of_frames (h : Answers s) (fs : List Sent) (hw : t.wire = s.wire ++ fs)
    (hq : ∀ g ∈ t.pendingTxQueue, g ∈ s.pendingTxQueue ∨ requiresAck g.commandId = true)
    (hd : s.derived ⊆ t.derived)
    (hfs : ∀ f ∈ fs, f.env.rawCommand = Command.linkSyncResp.toUnderlying →
      ∃ m, f.env.payloadType = .linkSync m ∧ (m.tag = [] ∨ m.nonce ∈ s.derived)) : Answers t := by
  constructor
  · intro f hf hcmd
    rw [hw] at hf
    have hold : ∃ m, f.env.payloadType = .linkSync m ∧ (m.tag = [] ∨ m.nonce ∈ s.derived) := by
      rcases List.mem_append.1 hf with hf | hf
      · exact h.wire f hf hcmd
      · exact hfs f hf hcmd
    obtain ⟨m, hm, htag⟩ := hold
    exact ⟨m, hm, htag.imp_right fun hn => hd hn⟩
  · intro g hg
    exact (hq g hg).elim (h.queue g) id

theorem Answers.silent (h : Answers s) (hw : t.wire = s.wire) (hq : t.pendingTxQueue ⊆ s.pendingTxQueue)
    (hd : s.derived ⊆ t.derived) : Answers t :=
  h.of_frames [] (by simp [hw]) (fun _ hg => .inl (hq hg)) hd (by simp)

theorem Answers.other (h : Answers s) {f : Sent} (hne : f.env.rawCommand ≠ Command.linkSyncResp.toUnderlying) :
    Answers { s with wire := s.wire ++ [f] } := by
  refine h.of_frames _ rfl (fun _ hg => .inl hg) (List.Subset.refl _) ?_
  intro g hg hcmd
  rw [List.mem_singleton.1 hg] at hcmd
  exact absurd hcmd hne

theorem Micro.answers (hm : Micro P l s t)
    (hemit : ∀ f, l = .emit f → f.env.rawCommand ≠ Command.linkSyncResp.toUnderlying) (h : Answers s) : Answers t := by
  cases hm with
  | quiet hq =>
    obtain ⟨fs, hfs, hplain⟩ := hq.wire
    refine h.of_frames fs hfs ?_ ?_ ?_
    · rw [hq.pendingTxQueue]
      exact fun _ hg => .inl hg
    · rw [hq.derived]
      exact List.Subset.refl _
    · exact fun f hf hcmd => absurd hcmd (hplain f hf).1.2
  | emit => exact h.other (hemit _ rfl)
  | copy _ hq hcmd =>
    -- the front frame of the queue is a command with ACK
    refine h.other ?_
    rw [hcmd]
    intro hresp
    have hack := h.queue _ (by rw [hq]; exact List.mem_cons_self ..)
    rw [hresp] at hack
    exact absurd hack (by decide)
  | answer _ _ hf hm =>
    refine h.of_frames _ rfl (fun _ hg => .inl hg) (List.Subset.refl _) ?_
    intro g hg _
    rw [List.mem_singleton.1 hg]
    exact ⟨_, hf, hm⟩
  | encrypt _ _ hout =>
    refine h.of_frames _ rfl (fun _ hg => .inl hg) (List.Subset.refl _) ?_
    intro f hf hcmd
    obtain ⟨-, cmd, seq, p, ct, tag, hsys, -, henv⟩ := hout f (by simpa using hf)
    rw [henv, rawEnvelope_rawCommand] at hcmd
    rw [hcmd] at hsys
    exact absurd hsys (by decide)
  | enqueue g hack =>
    refine h.of_frames [] (by simp) ?_ (List.Subset.refl _) (by simp)
    intro x hx
    rcases List.mem_append.1 hx with hx | hx
    · exact .inl hx
    · rw [List.mem_singleton.1 hx]
      exact .inr hack
  | derive => exact h.silent rfl (List.Subset.refl _) (List.subset_append_left _ _)
  | clear w => exact h.silent rfl (List.nil_subset _) (List.Subset.refl _)
  | _ => exact h.silent rfl (List.Subset.refl _) (List.Subset.refl _)

theorem EventLabel.emit_impersonates {ev : McuEvent} {f : Sent} (h : EventLabel P s ev (.emit f))
    (hcmd : f.env.rawCommand = Command.linkSyncResp.toUnderlying) : impersonates ev := by
  cases ev with
  | recv hal res =>
    cases res with
    | none => cases h
    | some env => exact h.elim
  | onAckTimeout => rcases h with h | ⟨-, h | h⟩ <;> cases h
  | enterSafeState => rcases h with h | h | h <;> cases h
  | onRxDedupe => cases h
  | onHandshakeTimeout => rcases h with ⟨-, h | h⟩ <;> cases h
  | _ => exact h hcmd

theorem step_answers {ev : McuEvent} (hev : ¬ impersonates ev) (h : Answers s) : Answers (step P ev s) := by
  refine (step_steps P s ev).invariant ?_ h
  intro l u v hl hm hu
  refine Micro.answers hm ?_ hu
  rintro f rfl hcmd
  exact hev (EventLabel.emit_impersonates hl hcmd)

theorem Answered.step {n : Bytes} (ev : McuEvent) (h : Answered n s) : Answered n (step P ev s) := by
  obtain ⟨hn, f, hf, hans⟩ := h
  obtain ⟨fs, hfs, -⟩ := step_wrote (P := P) ev s
  refine ⟨step_derived_subset ev s hn, f, ?_, hans⟩
  rw [hfs]
  exact List.mem_append_left _ hf

end Mcu

/-! ### Agreement -/

namespace Daemon

/-- LINK_SYNC_RESP is read as it is in every link state. -/
theorem parseFrame_linkSyncResp {P : Platform} {env : RpcEnvelope} {key : Option Bytes} {payload : Payload}
    (hcmd : env.commandId = Command.linkSyncResp.toUnderlying.toUInt32) (h : parseFrame P env key = some payload) :
    payload = parseFrame.plain env.payloadType := by
  have hsys : isSystemCommand env.rawCommand = true := by
    unfold RpcEnvelope.rawCommand
    rw [hcmd]
    decide
  unfold parseFrame at h
  rw [hsys] at h
  split at h
  · cases h
  split at h
  · simpa using h.symm
  · exact (Option.some.inj h).symm

namespace Link
variable {P : Platform} {random : Nat → UInt32} {d t : Link}

theorem LinkMicro.accepted {l : LinkLabel} (h : LinkMicro P random l d t) (hl : ∀ n, l ≠ .sync n) :
    t.accepted = d.accepted := by
  cases h with
  | quiet h => exact h.accepted
  | sync n => exact absurd rfl (hl n)
  | _ => rfl

theorem step_accepted {ev : LinkEvent} (hev : ∀ io env, ev ≠ .packet io env) :
    (d.step P random ev).accepted = d.accepted := by
  refine (step_steps P random d hev).invariant (I := fun u => u.accepted = d.accepted) ?_ rfl
  intro l u v hl hm hu
  refine (LinkMicro.accepted hm ?_).trans hu
  rintro n rfl
  exact hl

/-- A packet adds a nonce to the accepted ones only if it is an answer for it. -/
theorem processPacket_accepted (io : Io) (env : RpcEnvelope) {n : Bytes}
    (h : n ∈ (d.processPacket P random io env).accepted) :
    n ∈ d.accepted ∨ env.commandId = Command.linkSyncResp.toUnderlying.toUInt32 ∧
      ∃ payload, parseFrame P env d.sessionKey = some payload ∧ AcceptsResp P d io payload n := by
  revert h
  refine (processPacket_steps P random d io env).invariant
    (I := fun u => n ∈ u.accepted → n ∈ d.accepted ∨ env.commandId = Command.linkSyncResp.toUnderlying.toUInt32 ∧
      ∃ payload, parseFrame P env d.sessionKey = some payload ∧ AcceptsResp P d io payload n) ?_ .inl
  intro l u v hl hm hu hn
  by_cases hs : ∃ n', l = .sync n'
  · obtain ⟨n', rfl⟩ := hs
    cases hm with
    | sync =>
      rcases List.mem_append.1 hn with hn | hn
      · exact hu hn
      · rw [List.mem_singleton.1 hn]
        exact .inr hl
  · rw [LinkMicro.accepted hm fun n' h => hs ⟨n', h⟩] at hn
    exact hu hn

end Link
end Daemon

namespace Hostile
open Run
variable {P : Platform} {random : Nat → UInt32} {s : Hostile} {ev : HostileEvent}

structure HandshakeInv (s : Hostile) : Prop where
  answers : s.mcu.Answers
  agreed : ∀ n ∈ s.daemon.accepted, s.mcu.Answered n

theorem HandshakeInv.mcuStep (h : HandshakeInv s) {ev : McuEvent} (hev : ¬ Mcu.impersonates ev) :
    HandshakeInv { s with mcu := s.mcu.step P ev } :=
  ⟨Mcu.step_answers hev h.answers, fun n hn => (h.agreed n hn).step ev⟩

theorem HandshakeInv.reboot (h : HandshakeInv s) (postOk : Bool) :
    HandshakeInv { s with mcu := s.mcu.reboot postOk } := by
  refine ⟨h.answers.silent rfl ?_ (List.Subset.refl _), h.agreed⟩
  cases postOk <;> exact List.nil_subset _

/-- An accepted answer whose tag the adversary took from the MCU was sent by it for this nonce. -/
theorem answered_of_derivable {i : Nat} {io : Daemon.Io} {env : RpcEnvelope} {m : LinkSync} (h : s.mcu.Answers)
    (hvalid : validAnswer P io env s = some m) (hlen : m.tag.length = aeadTagSize)
    (hder : derivable P (.mcu i) io env s = true) : s.mcu.Answered m.nonce := by
  simp only [derivable, hvalid, Option.all_some] at hder
  obtain ⟨f, hf, hcarries⟩ := (Option.any_eq_true _ _).1 hder
  rw [carries, Bool.and_eq_true, beq_iff_eq, beq_iff_eq] at hcarries
  obtain ⟨hcmd, hpay⟩ := hcarries
  have hmem := List.mem_of_getElem? hf
  obtain ⟨m', hm', htag⟩ := h.wire f hmem hcmd
  obtain rfl : m' = m := by
    rw [hpay] at hm'
    cases hm'
    rfl
  refine ⟨htag.resolve_left ?_, f, hmem, hcmd, m', hpay, rfl⟩
  intro hnil
  rw [hnil] at hlen
  cases hlen

theorem HandshakeInv.toDaemon (h : HandshakeInv s) {source : TagSource} {io : Daemon.Io} {env : RpcEnvelope}
    (hder : derivable P source io env s = true) (href : (HostileEvent.toDaemon source io env).reflects = false) :
    HandshakeInv { s with daemon := s.daemon.step P random (.packet io env) } := by
  refine ⟨h.answers, fun n hn => ?_⟩
  rcases Daemon.Link.processPacket_accepted io env hn with hold | ⟨hcmd, payload, hparse, hacc⟩
  · exact h.agreed n hold
  · obtain ⟨m, hm, rfl, hlen, htag⟩ := hacc.authentic
    rw [Daemon.parseFrame_linkSyncResp hcmd hparse] at hm
    have hvalid : validAnswer P io env s = some m := by
      rw [validAnswer, hm, Option.filter_some, if_pos (by simp [hlen, ← htag])]
    cases source with
    | none => simp [derivable, hvalid] at hder
    | mcu i => exact answered_of_derivable (s := s) h.answers hvalid hlen hder
    | daemon i => exact absurd hcmd (by simpa [HostileEvent.reflects] using href)

theorem HandshakeInv.step (h : HandshakeInv s) (href : ev.reflects = false) : HandshakeInv (step P random ev s) := by
  cases ev with
  | daemon ev =>
    simp only [Hostile.step]
    split
    case isTrue hloc =>
      have hev : ∀ io env, ev ≠ .packet io env := by
        rintro io env rfl
        cases hloc
      refine ⟨h.answers, ?_⟩
      dsimp only
      rw [Daemon.Link.step_accepted hev]
      exact h.agreed
    · exact h
  | mcu ev =>
    simp only [Hostile.step]
    split
    case isTrue hev => exact h.mcuStep hev.2
    · exact h
  | reboot postOk => exact h.reboot postOk
  | toMcu hal env => exact h.mcuStep id
  | toDaemon source io env =>
    simp only [Hostile.step]
    split
    case isTrue hder => exact h.toDaemon hder href
    · exact h

theorem HandshakeInv.init (secret : Bytes) (timing : HandshakeConfig) (maxAttempts : Nat)
    (service : Daemon.Service) (postOk : Bool) : HandshakeInv (init secret timing maxAttempts service postOk) := by
  have hmcu : (Mcu.boot secret postOk).wire = [] ∧ (Mcu.boot secret postOk).pendingTxQueue = [] := by
    cases postOk <;> exact ⟨rfl, rfl⟩
  refine ⟨⟨?_, ?_⟩, by simp [Hostile.init]⟩
  · show ∀ f ∈ (Mcu.boot secret postOk).wire, _
    simp [hmcu.1]
  · show ∀ g ∈ (Mcu.boot secret postOk).pendingTxQueue, _
    simp [hmcu.2]

/-- In every run in which the daemon's own LINK_SYNC is not brought back to it, the daemon accepts an answer
for a nonce only if the MCU has processed a LINK_SYNC with it and answered. -/
theorem handshake_agreement (P : Platform) (random : Nat → UInt32) (secret : Bytes) (timing : HandshakeConfig)
    (maxAttempts : Nat) (service : Daemon.Service) (postOk : Bool) (evs : List HostileEvent)
    (h : ∀ ev ∈ evs, ev.reflects = false) :
    ∀ n ∈ (run (step P random) (init secret timing maxAttempts service postOk) evs).daemon.accepted,
      (run (step P random) (init secret timing maxAttempts service postOk) evs).mcu.Answered n := by
  have hrun : Along (step P random) (fun _ ev => True ∧ ev.reflects = false)
      (init secret timing maxAttempts service postOk) evs := (along_true _ evs).and_mem h
  exact (hrun.invariant (I := HandshakeInv) (fun s ev hs hev => hs.step hev.2) (.init ..)).agreed

/-- The handshake message of the runs below, in an envelope of the adversary. -/
def sampleEnvelope (cmd : Command) : RpcEnvelope :=
  ⟨protocolVersion, cmd.toUnderlying.toUInt32, 9, [],
    .linkSync ⟨Net.handshakeNonce, Platform.sample.handshakeTag [7] Net.handshakeNonce⟩⟩

/-- An attempt of the daemon, and then what the adversary does. -/
def sampleAttempt (evs : List HostileEvent) : List HostileEvent :=
  [.daemon .connect, .daemon (.beginAttempt true Net.handshakeNonce), .daemon (.sendLinkSync true)] ++ evs

/-- The LINK_SYNC reaches the MCU, and its answer the daemon. -/
def honestAnswer : List HostileEvent :=
  [.toMcu .sample (sampleEnvelope .linkSync), .toDaemon (.mcu 1) .sample (sampleEnvelope .linkSyncResp)]

/-- The LINK_SYNC is brought back to the daemon. -/
def reflectedAnswer : List HostileEvent :=
  [.toDaemon (.daemon 1) .sample (sampleEnvelope .linkSyncResp)]

theorem handshake_agreement_honest :
    (run (step .sample fun _ => 0) (init [7] ⟨200, 5, 5000⟩ 3 (.sample []) true)
        (sampleAttempt honestAnswer)).daemon.accepted = [Net.handshakeNonce] ∧
      ∀ n ∈ (run (step .sample fun _ => 0) (init [7] ⟨200, 5, 5000⟩ 3 (.sample []) true)
          (sampleAttempt honestAnswer)).daemon.accepted,
        (run (step .sample fun _ => 0) (init [7] ⟨200, 5, 5000⟩ 3 (.sample []) true)
          (sampleAttempt honestAnswer)).mcu.Answered n :=
  ⟨by decide +kernel, handshake_agreement .sample (fun _ => 0) [7] ⟨200, 5, 5000⟩ 3 (.sample []) true
    (sampleAttempt honestAnswer) (by decide)⟩

/-- The daemon synchronises on its own LINK_SYNC; the MCU has seen nothing. -/
theorem reflected_link_sync_accepted :
    ¬ ∀ (P : Platform) (random : Nat → UInt32) (secret : Bytes) (timing : HandshakeConfig) (maxAttempts : Nat)
      (service : Daemon.Service) (postOk : Bool) (evs : List HostileEvent),
      ∀ n ∈ (run (step P random) (init secret timing maxAttempts service postOk) evs).daemon.accepted,
        (run (step P random) (init secret timing maxAttempts service postOk) evs).mcu.Answered n := by
  intro h
  have haccepted : (run (step .sample fun _ => 0) (init [7] ⟨200, 5, 5000⟩ 3 (.sample []) true)
      (sampleAttempt reflectedAnswer)).daemon.accepted = [Net.handshakeNonce] := by decide +kernel
  have hderived : (run (step .sample fun _ => 0) (init [7] ⟨200, 5, 5000⟩ 3 (.sample []) true)
      (sampleAttempt reflectedAnswer)).mcu.derived = [] := by decide +kernel
  have hanswered := h .sample (fun _ => 0) [7] ⟨200, 5, 5000⟩ 3 (.sample []) true (sampleAttempt reflectedAnswer)
    Net.handshakeNonce (by rw [haccepted]; exact List.mem_singleton_self _)
  have hmem := hanswered.1
  rw [hderived] at hmem
  cases hmem

end Hostile
end McuBridge
