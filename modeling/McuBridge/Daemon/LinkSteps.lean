import McuBridge.Daemon.Link

/-! # What one event of the link can do

As on the MCU's side, every method is a chain of small steps and the labels say which. The fields the link
invariants speak about are the connection state, the session key, both nonce counters, what was written and
the three records; everything else may change in a quiet step. -/

namespace McuBridge
namespace Daemon

/-- `d'` differs from `d` only in fields no link invariant reads. -/
structure LinkQuiet (d d' : Link) : Prop where
  sharedSecret : d'.sharedSecret = d.sharedSecret
  state : d'.state = d.state
  linkSessionKey : d'.linkSessionKey = d.linkSessionKey
  linkNonceCounter : d'.linkNonceCounter = d.linkNonceCounter
  linkLastNonceCounter : d'.linkLastNonceCounter = d.linkLastNonceCounter
  wire : d'.wire = d.wire
  seals : d'.seals = d.seals
  executed : d'.executed = d.executed
  accepted : d'.accepted = d.accepted

inductive LinkLabel where
  | quiet
  | bump
  | clear
  | encrypt
  | leave
  | sync (nonce : Bytes)
  | counter (c : Nat)
  | execute

/-- The nonce `send_raw` uses next. -/
def Link.nonce (random : Nat → UInt32) (d : Link) : Bytes :=
  let r := random d.linkNonceCounter
  [(r >>> 24).toUInt8, (r >>> 16).toUInt8, (r >>> 8).toUInt8, r.toUInt8] ++
    be64 (UInt64.ofNat (d.linkNonceCounter + 1))

/-- `f` is what `build_frame` makes of some application payload under the key `k`. -/
def LinkSealed (P : Platform) (random : Nat → UInt32) (d : Link) (k : Bytes) (f : Sent) : Prop :=
  f.sealNo = some d.seals.length ∧ ∃ cmd seq p ct tag, isSystemCommand cmd = false ∧
    P.aeadEncrypt k (d.nonce random) (P.aad cmd.toUInt32 seq) p = some (ct, tag) ∧
    f.env = ⟨protocolVersion, cmd.toUInt32, seq, d.nonce random, .encryptedPayloadWithTag (ct ++ tag)⟩

/-- The session key is missing although the link is synchronised. -/
def Link.Keyless (d : Link) : Prop :=
  d.isSynchronized = true ∧ ∀ k, d.linkSessionKey = some k → k = []

inductive LinkMicro (P : Platform) (random : Nat → UInt32) : LinkLabel → Link → Link → Prop where
  | quiet {d d' : Link} (h : LinkQuiet d d') : LinkMicro P random .quiet d d'
  | bump {d : Link} (hc : d.linkNonceCounter < nonceCounterMask) :
      LinkMicro P random .bump d { d with linkNonceCounter := d.linkNonceCounter + 1 }
  | clear {d : Link} {f : Sent} (hf : f.sealNo = none)
      (hn : f.env.nonce = List.replicate aeadNonceSize 0 ∨ d.Keyless) :
      LinkMicro P random .clear d { d with wire := d.wire ++ [f] }
  | encrypt {d : Link} {k : Bytes} {out : Option Sent} (hs : d.isSynchronized = true)
      (hk : d.linkSessionKey = some k) (hc : d.linkNonceCounter < nonceCounterMask)
      (hout : ∀ f ∈ out, LinkSealed P random d k f) :
      LinkMicro P random .encrypt d
        { d with
          linkNonceCounter := d.linkNonceCounter + 1
          seals := d.seals ++ [(k, d.nonce random)]
          wire := d.wire ++ out.toList }
  | leave {d : Link} {st : LinkState} (h : st ≠ .synchronized) : LinkMicro P random .leave d { d with state := st }
  | sync {d : Link} (nonce : Bytes) :
      LinkMicro P random (.sync nonce) d
        { d with
          linkSessionKey := some (P.deriveSessionKey d.sharedSecret nonce)
          state := .synchronized
          accepted := d.accepted ++ [nonce] }
  | counter {d : Link} (c : Nat) (h : d.linkLastNonceCounter < c) :
      LinkMicro P random (.counter c) d { d with linkLastNonceCounter := c }
  | execute {d : Link} (x : UInt32 × UInt32) :
      LinkMicro P random .execute d { d with executed := d.executed ++ [x] }

namespace LinkQuiet
variable {d d' : Link}

theorem refl (d : Link) : LinkQuiet d d := ⟨rfl, rfl, rfl, rfl, rfl, rfl, rfl, rfl, rfl⟩

theorem steps {P : Platform} {random : Nat → UInt32} {Q : LinkLabel → Prop} (h : LinkQuiet d d') (hQ : Q .quiet) :
    Steps (LinkMicro P random) Q d d' :=
  .single hQ (.quiet h)

theorem isSynchronized (h : LinkQuiet d d') : d'.isSynchronized = d.isSynchronized := by
  unfold Link.isSynchronized
  rw [h.state]

end LinkQuiet

/-- `build_frame` puts command, sequence id and nonce in the envelope as they are given. -/
theorem buildFrame_header {P : Platform} {cmd : UInt16} {seq : UInt32} {payload : Payload} {nonce : Bytes}
    {key : Option Bytes} {env : RpcEnvelope} (hnonce : nonce ≠ [])
    (h : buildFrame P cmd seq payload nonce key = some env) :
    env.commandId = cmd.toUInt32 ∧ env.nonce = nonce := by
  have hn : nonce.isEmpty = false := by simpa using hnonce
  have hplain : ∀ e, buildFrame.plain payload (fun p => ⟨protocolVersion, cmd.toUInt32, seq, nonce, p⟩) = some e →
      e.commandId = cmd.toUInt32 ∧ e.nonce = nonce := by
    intro e he
    unfold buildFrame.plain at he
    split at he
    · split at he <;> cases he
      exact ⟨rfl, rfl⟩
    · cases he
      exact ⟨rfl, rfl⟩
  unfold buildFrame at h
  simp only [hn, Bool.false_eq_true, if_false] at h
  split at h
  · split at h
    · split at h
      · cases h
      · obtain ⟨_, -, rfl⟩ := Option.map_eq_some_iff.1 h
        exact ⟨rfl, rfl⟩
    · exact hplain env h
  · exact hplain env h

namespace Link
variable (P : Platform) (random : Nat → UInt32) (d : Link)

theorem nonce_ne_nil : d.nonce random ≠ [] := by simp [nonce]

/-! ### Sending -/

/-- Labels of a method that writes frames. -/
def WriteLabel : LinkLabel → Prop
  | .quiet | .bump | .clear | .encrypt => True
  | _ => False

theorem nextSequenceId_quiet (seq : Option UInt32) : LinkQuiet d (d.nextSequenceId seq).1 := by
  cases seq <;> exact ⟨rfl, rfl, rfl, rfl, rfl, rfl, rfl, rfl, rfl⟩

theorem write_clear {cmd : UInt16} (henc : d.doEncrypt cmd = false) {env : RpcEnvelope}
    (hn : env.nonce = List.replicate aeadNonceSize 0 ∨ d.Keyless) (writes : Bool) (ticket : Option Nat) :
    Steps (LinkMicro P random) WriteLabel d (d.write writes cmd ticket env).1 := by
  unfold write
  simp only [henc, Bool.false_eq_true, if_false]
  split
  · exact .single (l := .clear) trivial (.clear rfl hn)
  · exact .refl

theorem write_encrypted {cmd : UInt16} (henc : d.doEncrypt cmd = true) {k : Bytes} (hk : d.linkSessionKey = some k)
    (env : RpcEnvelope) (writes : Bool) (ticket : Option Nat) :
    (d.write writes cmd ticket env).1 =
      { d with
        seals := d.seals ++ [(k, env.nonce)]
        wire := d.wire ++ if writes then [⟨env, ticket, some d.seals.length⟩] else [] } := by
  unfold write
  rw [if_pos henc, if_pos henc, hk]
  cases writes <;> simp

/-- The frame of an application command in a session. -/
theorem write_sealed {cmd : UInt16} {seq : UInt32} {payload : Payload} {env : RpcEnvelope}
    (hs : d.isSynchronized = true) (hsys : isSystemCommand cmd = false) {k : Bytes} (hk : d.linkSessionKey = some k)
    (hne : k ≠ []) (hc : d.linkNonceCounter < nonceCounterMask)
    (hbuild : buildFrame P cmd seq payload (d.nonce random) (some k) = some env) (writes : Bool)
    (ticket : Option Nat) :
    Steps (LinkMicro P random) WriteLabel d
      (({ d with linkNonceCounter := d.linkNonceCounter + 1 } : Link).write writes cmd ticket env).1 := by
  obtain ⟨ct, tag, hct, rfl⟩ := buildFrame_sealed P hsys hne (nonce_ne_nil random d) hbuild
  have henc : ({ d with linkNonceCounter := d.linkNonceCounter + 1 } : Link).doEncrypt cmd = true := by
    unfold doEncrypt sessionKey
    rw [show ({ d with linkNonceCounter := d.linkNonceCounter + 1 } : Link).isSynchronized = true from hs, hsys]
    simpa [hk] using hne
  rw [write_encrypted _ henc hk]
  cases writes with
  | true =>
    refine .single (l := .encrypt) trivial (@LinkMicro.encrypt P random d k (some _) hs hk hc ?_)
    rintro f ⟨⟩
    exact ⟨rfl, cmd, seq, payload.serialize P, ct, tag, hsys, hct, rfl⟩
  | false => exact .single (l := .encrypt) trivial (@LinkMicro.encrypt P random d k none hs hk hc nofun)

theorem generateNonce_eq {b : Bytes} {c : Nat}
    (h : generateNonceWithCounter (random d.linkNonceCounter) d.linkNonceCounter = some (b, c)) :
    d.linkNonceCounter < nonceCounterMask ∧ b = d.nonce random ∧ c = d.linkNonceCounter + 1 := by
  unfold generateNonceWithCounter at h
  split at h
  · cases h
  · cases h
    exact ⟨by omega, rfl, rfl⟩

theorem sendRaw_steps (writes : Bool) (cmd : UInt16) (payload : Payload) (seq : Option UInt32) (ticket : Option Nat) :
    Steps (LinkMicro P random) WriteLabel d (d.sendRaw P random writes cmd payload seq ticket).1 := by
  unfold sendRaw
  split
  · exact .refl
  refine Steps.trans ((nextSequenceId_quiet d seq).steps trivial) ?_
  generalize d.nextSequenceId seq = r
  obtain ⟨d, seq⟩ := r
  dsimp only
  by_cases hs : d.isSynchronized = true ∧ isSystemCommand cmd = false
  · -- in a session the counter moves on before the frame is built
    obtain ⟨hsync, hsys⟩ := hs
    unfold nextNonce
    simp only [hsync, hsys, Bool.not_false, Bool.and_self, if_true]
    cases hgen : generateNonceWithCounter (random d.linkNonceCounter) d.linkNonceCounter with
    | none => exact .refl
    | some bc =>
      obtain ⟨b, c⟩ := bc
      obtain ⟨hc, rfl, rfl⟩ := generateNonce_eq random d hgen
      have hbump : Steps (LinkMicro P random) WriteLabel d { d with linkNonceCounter := d.linkNonceCounter + 1 } :=
        .single (l := .bump) trivial (.bump hc)
      have hkey : ({ d with linkNonceCounter := d.linkNonceCounter + 1 } : Link).sessionKey = d.linkSessionKey := by
        unfold sessionKey
        exact if_pos hsync
      simp only [Option.map_some, hkey]
      cases hb : buildFrame P cmd seq payload (d.nonce random) d.linkSessionKey with
      | none => exact hbump
      | some env =>
        by_cases hk : ∃ k, d.linkSessionKey = some k ∧ k ≠ []
        · obtain ⟨k, hk, hne⟩ := hk
          exact write_sealed P random d hsync hsys hk hne hc (hk ▸ hb) writes ticket
        · have hkeyless : ({ d with linkNonceCounter := d.linkNonceCounter + 1 } : Link).Keyless :=
            ⟨hsync, fun k hk' => by_contra fun hne => hk ⟨k, hk', hne⟩⟩
          refine hbump.trans (write_clear P random _ ?_ (.inr hkeyless) writes ticket)
          unfold doEncrypt
          rw [hkey, hsys]
          cases hk' : d.linkSessionKey with
          | none => rfl
          | some k =>
            rw [hkeyless.2 k hk']
            rfl
  · have hplain : (d.isSynchronized && !isSystemCommand cmd) = false := by
      rw [Bool.eq_false_iff]
      simpa using hs
    unfold nextNonce
    rw [hplain]
    simp only [Bool.false_eq_true, if_false]
    split
    · exact .refl
    case h_2 env hb =>
      refine write_clear P random d ?_ (.inl (buildFrame_header (by decide) hb).2) writes ticket
      unfold doEncrypt sessionKey
      cases hsys : isSystemCommand cmd
      · rw [hsys, Bool.not_false, Bool.and_true] at hplain
        simp [hplain]
      · rfl

/-- `send_raw` changes four fields at most, and writes the frame it builds or nothing. -/
theorem sendRaw_frame (writes : Bool) (cmd : UInt16) (payload : Payload) (seq : Option UInt32) (ticket : Option Nat) :
    ∃ sequenceId counter seals fs,
      (d.sendRaw P random writes cmd payload seq ticket).1 = { d with
        txSequenceId := sequenceId
        linkNonceCounter := counter
        seals := seals
        wire := d.wire ++ fs } ∧
      ∀ f ∈ fs, f.env.commandId = cmd.toUInt32 ∧ f.sealNo.isSome = d.doEncrypt cmd := by
  have hnone : ∀ (q : UInt16) (c : Nat) (x : List (Bytes × Bytes)), ∃ sequenceId counter seals fs,
      ({ d with txSequenceId := q, linkNonceCounter := c, seals := x } : Link) = { d with
        txSequenceId := sequenceId
        linkNonceCounter := counter
        seals := seals
        wire := d.wire ++ fs } ∧
      ∀ f ∈ fs, f.env.commandId = cmd.toUInt32 ∧ f.sealNo.isSome = d.doEncrypt cmd :=
    fun q c x => ⟨q, c, x, [], by rw [List.append_nil], by simp⟩
  unfold sendRaw
  split
  · exact hnone _ _ _
  obtain ⟨q, hseq⟩ : ∃ q, (d.nextSequenceId seq).1 = { d with txSequenceId := q } := by
    cases seq <;> exact ⟨_, rfl⟩
  dsimp only
  rw [hseq]
  split
  · exact hnone _ _ _
  case h_2 t nonce hnonce =>
    obtain ⟨c, rfl, hne⟩ : ∃ c, t = { d with txSequenceId := q, linkNonceCounter := c } ∧ nonce ≠ [] := by
      unfold nextNonce at hnonce
      split at hnonce
      · obtain ⟨⟨b, c⟩, hgen, heq⟩ := Option.map_eq_some_iff.1 hnonce
        obtain ⟨-, rfl, rfl⟩ := generateNonce_eq random _ hgen
        cases heq
        exact ⟨_, rfl, nonce_ne_nil random _⟩
      · cases hnonce
        exact ⟨_, rfl, by decide⟩
    split
    · exact hnone _ _ _
    case h_2 env hb =>
      have hcmd := (buildFrame_header hne hb).1
      unfold write
      rw [show ({ d with txSequenceId := q, linkNonceCounter := c } : Link).doEncrypt cmd = d.doEncrypt cmd from rfl]
      dsimp only
      split
      · cases d.doEncrypt cmd <;> exact ⟨q, c, _, [_], rfl, by simp [hcmd]⟩
      · by_cases henc : d.doEncrypt cmd = true
        · rw [if_pos henc]
          exact hnone q c _
        · rw [if_neg henc]
          exact hnone q c _

theorem acknowledge_steps (writes : Bool) (cmd seq : UInt32) (st : Status) :
    Steps (LinkMicro P random) WriteLabel d (d.acknowledge P random writes cmd seq st) :=
  sendRaw_steps P random d _ _ _ _ _

/-- A change of fields no invariant reads, at the end of a method. -/
theorem Steps.quiet_right {Q : LinkLabel → Prop} {t u : Link} (h : Steps (LinkMicro P random) Q d t) (hq : Q .quiet)
    (hu : LinkQuiet t u) : Steps (LinkMicro P random) Q d u :=
  h.trans (hu.steps hq)

/-! ### Calls -/

theorem finish_quiet (c : Call) (r : CallResult) : LinkQuiet d (d.finish c r) :=
  ⟨rfl, rfl, rfl, rfl, rfl, rfl, rfl, rfl, rfl⟩

theorem sendAttempt_steps (writes : Bool) (c : Call) :
    Steps (LinkMicro P random) WriteLabel d (d.sendAttempt P random writes c) := by
  unfold sendAttempt
  dsimp only
  split
  · exact Steps.quiet_right P random d (sendRaw_steps P random d _ _ _ _ _) trivial ⟨rfl, rfl, rfl, rfl, rfl, rfl, rfl, rfl, rfl⟩
  · exact Steps.quiet_right P random d (sendRaw_steps P random d _ _ _ _ _) trivial (finish_quiet _ _ _)
  · exact Steps.quiet_right P random d (sendRaw_steps P random d _ _ _ _ _) trivial (finish_quiet _ _ _)

theorem send_steps (writes : Bool) (cmd : UInt16) (payload : Payload) :
    Steps (LinkMicro P random) WriteLabel d (d.send P random writes cmd payload) := by
  unfold send
  split
  · exact .refl
  split
  · exact sendRaw_steps P random d _ _ _ _ _
  split
  · exact .refl
  · have hcalls : LinkQuiet d { d with calls := d.calls + 1 } := ⟨rfl, rfl, rfl, rfl, rfl, rfl, rfl, rfl, rfl⟩
    exact (hcalls.steps trivial).trans (sendAttempt_steps P random _ _ _)

theorem retryLater_quiet (c : Call) : LinkQuiet d (d.retryLater c) := by
  unfold retryLater
  split
  · exact ⟨rfl, rfl, rfl, rfl, rfl, rfl, rfl, rfl, rfl⟩
  · exact finish_quiet d _ _

theorem onTimeout_quiet : LinkQuiet d d.onTimeout := by
  unfold onTimeout
  split
  · split
    · exact .refl d
    · exact retryLater_quiet d _
  · exact .refl d

theorem onCompletion_quiet : LinkQuiet d d.onCompletion := by
  unfold onCompletion
  split
  · split
    · exact .refl d
    split
    · exact finish_quiet d _ _
    split
    · exact finish_quiet d _ _
    · exact retryLater_quiet d _
  · exact .refl d

theorem onRetry_steps (writes : Bool) : Steps (LinkMicro P random) WriteLabel d (d.onRetry P random writes) := by
  unfold onRetry
  split
  · split
    · exact sendAttempt_steps P random d _ _
    · exact .refl
  · exact .refl

/-! ### The handshake -/

/-- Labels of the handshake as long as it does not succeed. -/
def HandshakeLabel : LinkLabel → Prop
  | .leave => True
  | l => WriteLabel l

theorem WriteLabel.handshake {l : LinkLabel} (h : WriteLabel l) : HandshakeLabel l := by
  cases l <;> trivial

/-- `_set_fsm_state` moves the connection state and nothing else that matters. -/
theorem setFsmState_quiet (new : HandshakeState) :
    LinkQuiet { d with state := (d.setFsmState new).state } (d.setFsmState new) := by
  unfold setFsmState
  split <;> exact ⟨rfl, rfl, rfl, rfl, rfl, rfl, rfl, rfl, rfl⟩

theorem setFsmState_state {new : HandshakeState} (hnew : new ≠ .synchronized) :
    (d.setFsmState new).state = d.state ∨ (d.setFsmState new).state = .connected := by
  by_cases hsame : d.fsmState = new
  · rw [setFsmState, if_pos hsame]
    exact .inl rfl
  · rw [setFsmState, if_neg hsame]
    dsimp only
    rw [if_neg hnew]
    split
    · exact .inr rfl
    · exact .inl rfl

theorem setFsmState_steps (new : HandshakeState) (hnew : new ≠ .synchronized) :
    Steps (LinkMicro P random) HandshakeLabel d (d.setFsmState new) := by
  have hq := setFsmState_quiet d new
  rcases setFsmState_state d hnew with hst | hst
  · rw [hst] at hq
    exact hq.steps trivial
  · rw [hst] at hq
    exact Steps.quiet_right P random d (.single (l := .leave) trivial (@LinkMicro.leave P random d .connected nofun)) trivial hq

theorem clearHandshakeExpectations_quiet : LinkQuiet d d.clearHandshakeExpectations :=
  ⟨rfl, rfl, rfl, rfl, rfl, rfl, rfl, rfl, rfl⟩

theorem handleHandshakeFailure_steps :
    Steps (LinkMicro P random) HandshakeLabel d d.handleHandshakeFailure := by
  refine Steps.trans (setFsmState_steps P random d .fault nofun) ?_
  refine Steps.quiet_right P random _ (.single (l := .leave) trivial (@LinkMicro.leave P random _ .connected nofun)) trivial ?_
  exact ⟨rfl, rfl, rfl, rfl, rfl, rfl, rfl, rfl, rfl⟩

theorem abandon_steps {t : Link} (h : Steps (LinkMicro P random) HandshakeLabel d t) :
    Steps (LinkMicro P random) HandshakeLabel d
      { t.clearHandshakeExpectations.handleHandshakeFailure with attempt := none } := by
  have hfail := (h.trans ((clearHandshakeExpectations_quiet t).steps trivial)).trans (handleHandshakeFailure_steps P random _)
  exact Steps.quiet_right P random d hfail trivial ⟨rfl, rfl, rfl, rfl, rfl, rfl, rfl, rfl, rfl⟩

theorem beginAttempt_steps (writes : Bool) (nonce : Bytes) :
    Steps (LinkMicro P random) HandshakeLabel d (d.beginAttempt P random writes nonce) := by
  have hfsm := (setFsmState_steps P random d .unsynchronized nofun).trans
    (setFsmState_steps P random _ .resetting nofun)
  unfold beginAttempt
  dsimp only
  generalize (d.setFsmState .unsynchronized).setFsmState .resetting = t at hfsm ⊢
  have hnonce : LinkQuiet t { t with
      linkSyncEvent := false
      linkHandshakeNonce := some nonce
      linkExpectedTag := some (calculateHandshakeTag P t.sharedSecret nonce) } :=
    ⟨rfl, rfl, rfl, rfl, rfl, rfl, rfl, rfl, rfl⟩
  have hsend := (hfsm.trans (hnonce.steps trivial)).trans
    ((sendRaw_steps P random _ writes Command.linkReset.toUnderlying
      (.message (.handshakeConfig t.timing)) none none).mono fun _ => WriteLabel.handshake)
  split
  · exact Steps.quiet_right P random d hsend trivial ⟨rfl, rfl, rfl, rfl, rfl, rfl, rfl, rfl, rfl⟩
  · exact abandon_steps P random d hsend

theorem sendLinkSync_steps (writes : Bool) (a : Attempt) :
    Steps (LinkMicro P random) HandshakeLabel d (d.sendLinkSync P random writes a) := by
  have hfsm := setFsmState_steps P random d .syncing nofun
  unfold sendLinkSync
  dsimp only
  generalize d.setFsmState .syncing = t at hfsm ⊢
  have hsend := hfsm.trans ((sendRaw_steps P random t writes Command.linkSync.toUnderlying
    (.message (.linkSync ⟨a.nonce, calculateHandshakeTag P t.sharedSecret a.nonce⟩)) none none).mono
      fun _ => WriteLabel.handshake)
  generalize t.sendRaw P random writes Command.linkSync.toUnderlying
    (.message (.linkSync ⟨a.nonce, calculateHandshakeTag P t.sharedSecret a.nonce⟩)) none none = r at hsend ⊢
  split
  · split
    · exact Steps.quiet_right P random d hsend trivial ⟨rfl, rfl, rfl, rfl, rfl, rfl, rfl, rfl, rfl⟩
    split
    · exact Steps.quiet_right P random d (hsend.trans (setFsmState_steps P random _ .confirming nofun)) trivial
        ⟨rfl, rfl, rfl, rfl, rfl, rfl, rfl, rfl, rfl⟩
    · exact Steps.quiet_right P random d hsend trivial ⟨rfl, rfl, rfl, rfl, rfl, rfl, rfl, rfl, rfl⟩
  · exact abandon_steps P random d hsend

theorem endAttempt_steps (a : Attempt) : Steps (LinkMicro P random) HandshakeLabel d (d.endAttempt a) := by
  have hattempt : ∀ t : Link, LinkQuiet t { t with attempt := none } :=
    fun _ => ⟨rfl, rfl, rfl, rfl, rfl, rfl, rfl, rfl, rfl⟩
  unfold endAttempt
  split
  case isTrue hs =>
    dsimp only
    refine Steps.quiet_right P random d ?_ trivial (hattempt _)
    split
    case isTrue hfsm =>
      -- the connection is synchronised already
      have hst : (d.setFsmState .synchronized).state = d.state := by
        have hsync : d.state = .synchronized := by simpa [isSynchronized] using hs
        unfold setFsmState
        rw [if_neg hfsm.1, hsync]
        rfl
      have hq := setFsmState_quiet d .synchronized
      rw [hst] at hq
      exact hq.steps trivial
    · exact .refl
  split
  · exact (hattempt d).steps trivial
  · dsimp only
    refine Steps.quiet_right P random d ?_ trivial (hattempt _)
    refine Steps.trans ((clearHandshakeExpectations_quiet d).steps trivial) ?_
    split
    · exact handleHandshakeFailure_steps P random _
    · exact .refl

/-- `handle_link_sync_resp` accepts the payload as the answer for the nonce `n`. -/
structure AcceptsResp (P : Platform) (d : Link) (io : Io) (payload : Payload) (n : Bytes) : Prop where
  pending : d.linkHandshakeNonce = some n
  admitted : io.throttled = false
  authentic : ∃ m, readLinkSync io.host payload = some m ∧ m.nonce = n ∧ m.tag.length = aeadTagSize ∧
    m.tag = calculateHandshakeTag P d.sharedSecret n

theorem calculateHandshakeTag_nil (n : Bytes) : calculateHandshakeTag P [] n = [] := rfl

theorem handleLinkSyncResp_steps {Q : LinkLabel → Prop} (hw : ∀ l, HandshakeLabel l → Q l) (io : Io) (seq : UInt32)
    (payload : Payload) (hs : ∀ n, AcceptsResp P d io payload n → Q (.sync n)) :
    Steps (LinkMicro P random) Q d (d.handleLinkSyncResp P random io seq payload).1 := by
  have hack : Steps (LinkMicro P random) HandshakeLabel d
      (d.acknowledge P random io.writes Command.linkSyncResp.toUnderlying.toUInt32 seq .malformed) :=
    (acknowledge_steps P random d _ _ _ _).mono fun _ => WriteLabel.handshake
  unfold handleLinkSyncResp
  dsimp only
  split
  · exact (hack.trans (handleHandshakeFailure_steps P random _)).mono hw
  case h_2 expected hexp =>
    split
    · exact (hack.trans (handleHandshakeFailure_steps P random _)).mono hw
    case isFalse hthrottle =>
      have hfail : Steps (LinkMicro P random) Q d (d.acknowledge P random io.writes
          Command.linkSyncResp.toUnderlying.toUInt32 seq .malformed).clearHandshakeExpectations.handleHandshakeFailure :=
        ((hack.trans ((clearHandshakeExpectations_quiet _).steps trivial)).trans
          (handleHandshakeFailure_steps P random _)).mono hw
      split
      · split
        · exact .refl
        · exact hfail
      case h_2 m hm =>
        split
        · exact .refl
        case isFalse hnonce =>
          have hnonce : m.nonce = expected := not_not.1 hnonce
          split
          · exact hfail
          case isFalse hbad =>
            simp only [not_or, not_not] at hbad
            obtain ⟨-, hlen, htag⟩ := hbad
            have hsec : d.sharedSecret ≠ [] := by
              intro hnil
              rw [htag, hnil, calculateHandshakeTag_nil] at hlen
              exact absurd hlen (by decide)
            have hempty : d.sharedSecret.isEmpty = false := by simpa using hsec
            have hacc : AcceptsResp P d io payload m.nonce :=
              ⟨hnonce ▸ hexp, by simpa using hthrottle, m, hm, rfl, hlen, htag⟩
            refine Steps.quiet_right P random d (.single (hs m.nonce hacc) (.sync m.nonce)) (hw _ trivial) ?_
            rw [hempty, if_neg (by decide)]
            unfold setFsmState
            split <;> exact ⟨rfl, rfl, rfl, rfl, rfl, rfl, rfl, rfl, rfl⟩

/-! ### Received packets -/

theorem sendReplies_steps (writes : Bool) (replies : List (UInt16 × Payload)) :
    Steps (LinkMicro P random) WriteLabel d (sendReplies P random writes replies d).1 := by
  induction replies generalizing d with
  | nil => exact .refl
  | cons r rest ih =>
    have hsend := sendRaw_steps P random d writes r.1 r.2 none none
    unfold sendReplies
    dsimp only
    split
    · exact hsend
    · exact hsend.trans (ih _)

theorem execute_steps {Q : LinkLabel → Prop} (hQ : Q .execute) (x : UInt32 × UInt32) :
    Steps (LinkMicro P random) Q d { d with executed := d.executed ++ [x] } :=
  .single hQ (.execute x)

/-- Labels of the dispatch of a frame other than an answer to the handshake. -/
def DispatchLabel : LinkLabel → Prop
  | .execute => True
  | l => WriteLabel l

theorem WriteLabel.dispatch {l : LinkLabel} (h : WriteLabel l) : DispatchLabel l := by
  cases l <;> trivial

/-- What follows the call of the handler only writes frames. -/
theorem runHandler_after (io : Io) (handler : McuHandler) (cmd seq : UInt32) (p : Payload) :
    Steps (LinkMicro P random) WriteLabel { d with executed := d.executed ++ [(cmd, seq)] }
      (d.runHandler P random io handler cmd seq p) := by
  unfold runHandler
  dsimp only
  split
  · exact .refl
  case h_2 r _ =>
    have hservice : LinkQuiet { d with executed := d.executed ++ [(cmd, seq)] }
        { d with executed := d.executed ++ [(cmd, seq)], service := r.service } :=
      ⟨rfl, rfl, rfl, rfl, rfl, rfl, rfl, rfl, rfl⟩
    have hreplies := (hservice.steps trivial).trans (sendReplies_steps P random _ io.writes r.replies)
    split
    · exact hreplies
    · exact hreplies.trans (acknowledge_steps P random _ _ _ _ _)

theorem runHandler_steps (io : Io) (handler : McuHandler) (cmd seq : UInt32) (p : Payload) :
    Steps (LinkMicro P random) DispatchLabel d (d.runHandler P random io handler cmd seq p) :=
  (execute_steps P random d trivial (cmd, seq)).trans
    ((runHandler_after P random d io handler cmd seq p).mono fun _ => WriteLabel.dispatch)

/-- Labels of one packet. A session starts with an accepted LINK_SYNC_RESP, and the anti-replay counter moves
with a frame that passed its check. -/
def PacketLabel (P : Platform) (io : Io) (env : RpcEnvelope) : LinkLabel → Prop
  | .execute => True
  | .sync n => env.commandId = Command.linkSyncResp.toUnderlying.toUInt32 ∧
      ∃ payload, parseFrame P env d.sessionKey = some payload ∧ AcceptsResp P d io payload n
  | .counter c => (parseFrame P env d.sessionKey).isSome ∧ d.isSynchronized = true ∧
      isExcluded env.commandId = false ∧ validateNonceCounter env.nonce d.linkLastNonceCounter = some c
  | l => HandshakeLabel l

theorem HandshakeLabel.packet {io : Io} {env : RpcEnvelope} {l : LinkLabel} (h : HandshakeLabel l) :
    PacketLabel d P io env l := by
  cases l <;> first | exact h | exact h.elim

theorem DispatchLabel.packet {io : Io} {env : RpcEnvelope} {l : LinkLabel} (h : DispatchLabel l) :
    PacketLabel d P io env l := by
  cases l <;> first | exact h | exact h.elim

theorem handleMcuFrame_steps {Q : LinkLabel → Prop} (hd : ∀ l, DispatchLabel l → Q l) (hw : ∀ l, HandshakeLabel l → Q l)
    (io : Io) (cmd seq : UInt32) (payload : Payload)
    (hs : cmd = Command.linkSyncResp.toUnderlying.toUInt32 → ∀ n, AcceptsResp P d io payload n → Q (.sync n)) :
    Steps (LinkMicro P random) Q d (d.handleMcuFrame P random io cmd seq payload) := by
  unfold handleMcuFrame
  split
  · exact .refl
  split
  · exact .refl
  split
  case isTrue hcmd =>
    have hrun := execute_steps P random d (hd _ trivial) (cmd, seq)
    have hresp := hrun.trans (handleLinkSyncResp_steps P random _ hw io seq payload
      fun n hn => hs hcmd n ⟨hn.pending, hn.admitted, hn.authentic⟩)
    dsimp only
    split
    · exact hresp.trans ((acknowledge_steps P random _ _ _ _ _).mono fun l h => hd l h.dispatch)
    · exact hresp
  split
  · split
    · exact .refl
    · exact (runHandler_steps P random d _ _ _ _ _).mono hd
  split
  · exact (sendRaw_steps P random d _ _ _ _ _).mono fun l h => hd l h.dispatch
  · exact .refl

theorem correlateFrame_quiet (h : McuHost) (cmd : UInt32) (payload : Payload) :
    LinkQuiet d (d.correlateFrame h cmd payload) := ⟨rfl, rfl, rfl, rfl, rfl, rfl, rfl, rfl, rfl⟩

theorem validateNonceCounter_lt {nonce : Bytes} {last c : Nat} (h : validateNonceCounter nonce last = some c) :
    last < c := by
  unfold validateNonceCounter at h
  split at h
  · cases h
  · dsimp only at h
    split at h
    · cases h
    · cases h
      omega

/-- The anti-replay check lets a frame pass with the counter advanced, or leaves the link alone. -/
theorem checkCounter_steps {Q : LinkLabel → Prop} (env : RpcEnvelope) {t : Link} (h : d.checkCounter env = some t)
    (hQ : ∀ c, d.isSynchronized = true → isExcluded env.commandId = false →
      validateNonceCounter env.nonce d.linkLastNonceCounter = some c → Q (.counter c)) :
    Steps (LinkMicro P random) Q d t := by
  unfold checkCounter at h
  split at h
  case isTrue hcond =>
    obtain ⟨hsync, hex⟩ := Bool.and_eq_true_iff.1 hcond
    obtain ⟨c, hc, rfl⟩ := Option.map_eq_some_iff.1 h
    exact .single (hQ c hsync (by simpa using hex) hc) (.counter c (validateNonceCounter_lt hc))
  · cases h
    exact .refl

theorem checkCounter_handshake {env : RpcEnvelope} {t : Link} (h : d.checkCounter env = some t) :
    t.sharedSecret = d.sharedSecret ∧ t.linkHandshakeNonce = d.linkHandshakeNonce ∧ t.executed = d.executed ∧
      t.wire = d.wire := by
  unfold checkCounter at h
  split at h
  · obtain ⟨c, -, rfl⟩ := Option.map_eq_some_iff.1 h
    exact ⟨rfl, rfl, rfl, rfl⟩
  · cases h
    exact ⟨rfl, rfl, rfl, rfl⟩

theorem processPacket_steps (io : Io) (env : RpcEnvelope) :
    Steps (LinkMicro P random) (PacketLabel d P io env) d (d.processPacket P random io env) := by
  unfold processPacket
  split
  · exact .refl
  case h_2 payload hparse =>
    split
    · exact LinkQuiet.steps ⟨rfl, rfl, rfl, rfl, rfl, rfl, rfl, rfl, rfl⟩ trivial
    split
    · exact .refl
    case h_2 t ht =>
      obtain ⟨hsec, hnonce, -, -⟩ := checkCounter_handshake d ht
      have hcheck := checkCounter_steps P random (Q := PacketLabel d P io env) d env ht
        fun c hs hx hc => ⟨by rw [hparse]; rfl, hs, hx, hc⟩
      refine (Steps.quiet_right P random d hcheck trivial (correlateFrame_quiet t io.host env.commandId payload)).trans ?_
      refine handleMcuFrame_steps P random _ (fun _ h => h.packet P d) (fun _ h => h.packet P d) io _ _ payload ?_
      intro hcmd n hn
      refine ⟨hcmd, payload, hparse, hnonce.symm.trans hn.pending, hn.admitted, ?_⟩
      have hauth := hn.authentic
      rw [show (t.correlateFrame io.host env.commandId payload).sharedSecret = d.sharedSecret from hsec] at hauth
      exact hauth

/-! ### A packet runs at most one handler -/

theorem executed_eq {Q : LinkLabel → Prop} (hQ : ¬ Q .execute) {t : Link} (h : Steps (LinkMicro P random) Q d t) :
    t.executed = d.executed := by
  refine h.invariant (I := fun u => u.executed = d.executed) ?_ rfl
  intro l u v hl hstep hu
  cases hstep with
  | quiet hq => exact hq.executed.trans hu
  | execute _ => exact absurd hl hQ
  | _ => exact hu

theorem sendRaw_wire (writes : Bool) (cmd : UInt16) (payload : Payload) (seq : Option UInt32) (ticket : Option Nat) :
    ∃ fs, (d.sendRaw P random writes cmd payload seq ticket).1.wire = d.wire ++ fs ∧
      ∀ f ∈ fs, f.env.commandId = cmd.toUInt32 := by
  obtain ⟨_, _, _, fs, h, hfs⟩ := sendRaw_frame P random d writes cmd payload seq ticket
  exact ⟨fs, by rw [h], fun f hf => (hfs f hf).1⟩

/-- No handler ran between `d` and `t`, and nothing but NOT_IMPLEMENTED was written. -/
def Skips (d t : Link) : Prop :=
  t.executed = d.executed ∧ ∃ fs, t.wire = d.wire ++ fs ∧
    ∀ f ∈ fs, f.env.commandId = Status.notImplemented.toUnderlying.toUInt32

theorem Skips.of_eq {t : Link} (he : t.executed = d.executed) (hw : t.wire = d.wire) : Skips d t :=
  ⟨he, [], by simp [hw], by simp⟩

theorem handleMcuFrame_executed (io : Io) (cmd seq : UInt32) (payload : Payload) :
    Skips d (d.handleMcuFrame P random io cmd seq payload) ∨
      (d.handleMcuFrame P random io cmd seq payload).executed = d.executed ++ [(cmd, seq)] := by
  unfold handleMcuFrame
  split
  · exact .inl (.of_eq d rfl rfl)
  split
  · exact .inl (.of_eq d rfl rfl)
  split
  · refine .inr ?_
    have hresp := executed_eq P random _ (Q := (· ≠ .execute)) (not_not.2 rfl)
      (handleLinkSyncResp_steps P random { d with executed := d.executed ++ [(cmd, seq)] }
        (by rintro _ h rfl; exact h) io seq payload fun _ _ => nofun)
    dsimp only
    split
    · exact (executed_eq P random _ (Q := WriteLabel) id (acknowledge_steps P random _ _ _ _ _)).trans hresp
    · exact hresp
  split
  · split
    · exact .inl (.of_eq d rfl rfl)
    · exact .inr (executed_eq P random _ (Q := WriteLabel) id (runHandler_after P random d _ _ _ _ _))
  split
  · exact .inl ⟨executed_eq P random d (Q := WriteLabel) id (sendRaw_steps P random d _ _ _ _ _),
      sendRaw_wire P random d _ _ _ _ _⟩
  · exact .inl (.of_eq d rfl rfl)

/-- A packet runs one handler, or none and is not acknowledged. -/
theorem processPacket_executed (io : Io) (env : RpcEnvelope) :
    Skips d (d.processPacket P random io env) ∨
      (d.processPacket P random io env).executed = d.executed ++ [(env.commandId, env.sequenceId)] := by
  unfold processPacket
  split
  · exact .inl (.of_eq d rfl rfl)
  split
  · exact .inl (.of_eq d rfl rfl)
  split
  · exact .inl (.of_eq d rfl rfl)
  case h_2 t ht =>
    obtain ⟨-, -, hex, hwire⟩ := checkCounter_handshake d ht
    unfold Skips
    rw [← hex, ← hwire]
    exact handleMcuFrame_executed P random (t.correlateFrame _ _ _) io _ _ _

/-! ### Events -/

/-- Every event but a packet writes frames at most, and may leave the synchronised state. -/
theorem step_steps {ev : LinkEvent} (hev : ∀ io env, ev ≠ .packet io env) :
    Steps (LinkMicro P random) HandshakeLabel d (d.step P random ev) := by
  have hwrite : ∀ t, Steps (LinkMicro P random) WriteLabel d t → Steps (LinkMicro P random) HandshakeLabel d t :=
    fun _ h => h.mono fun _ => WriteLabel.handshake
  cases ev with
  | packet io env => exact absurd rfl (hev io env)
  | send writes cmd payload => exact hwrite _ (send_steps P random d _ _ _)
  | timeout => exact (onTimeout_quiet d).steps trivial
  | completion => exact (onCompletion_quiet d).steps trivial
  | retry writes => exact hwrite _ (onRetry_steps P random d _)
  | beginAttempt writes nonce =>
    dsimp only [step]
    split
    · exact .refl
    · exact beginAttempt_steps P random d _ _
  | sendLinkSync writes =>
    dsimp only [step]
    split
    · split
      · exact .refl
      · exact sendLinkSync_steps P random d _ _
    · exact .refl
  | endAttempt =>
    dsimp only [step]
    split
    · split
      · exact endAttempt_steps P random d _
      · exact .refl
    · exact .refl
  | retryError =>
    dsimp only [step]
    split
    · exact .refl
    · exact setFsmState_steps P random d .fault nofun
  | connect =>
    refine Steps.quiet_right P random d (.single (l := .leave) trivial (@LinkMicro.leave P random d .connected nofun))
      trivial ⟨rfl, rfl, rfl, rfl, rfl, rfl, rfl, rfl, rfl⟩
  | disconnect =>
    refine Steps.quiet_right P random d
      (.single (l := .leave) trivial (@LinkMicro.leave P random d .disconnected nofun)) trivial
      ⟨rfl, rfl, rfl, rfl, rfl, rfl, rfl, rfl, rfl⟩
  | close => exact LinkQuiet.steps ⟨rfl, rfl, rfl, rfl, rfl, rfl, rfl, rfl, rfl⟩ trivial
  | negotiate writes baudrate =>
    refine hwrite _ (Steps.quiet_right P random d
      (sendRaw_steps P random d writes Command.setBaudrate.toUnderlying (.message (.setBaudratePacket baudrate)) none none)
      trivial ⟨rfl, rfl, rfl, rfl, rfl, rfl, rfl, rfl, rfl⟩)
  | negotiated => exact LinkQuiet.steps ⟨rfl, rfl, rfl, rfl, rfl, rfl, rfl, rfl, rfl⟩ trivial

/-! ### The session key -/

/-- Correlation resolves the pending command, it does not replace it. -/
theorem correlatePending_commandId (host : McuHost) (cmd : UInt32) (payload : Payload) (p : PendingCommand) :
    (correlatePending host cmd payload p).commandId = p.commandId := by
  unfold correlatePending
  dsimp only
  repeat' split
  all_goals rfl

/-- A synchronised link has a session key. -/
def Keyed (P : Platform) (d : Link) : Prop :=
  d.isSynchronized = true → ∃ n, d.linkSessionKey = some (P.deriveSessionKey d.sharedSecret n)

theorem LinkMicro.keyed {P : Platform} {random : Nat → UInt32} {l : LinkLabel} {d t : Link}
    (h : LinkMicro P random l d t) (hd : Keyed P d) : Keyed P t := by
  cases h with
  | quiet h =>
    unfold Keyed
    rw [h.isSynchronized, h.linkSessionKey, h.sharedSecret]
    exact hd
  | leave h =>
    intro hs
    exact absurd (by simpa [isSynchronized] using hs) h
  | sync n => exact fun _ => ⟨n, rfl⟩
  | _ => exact hd

theorem step_keyed (ev : LinkEvent) (hd : Keyed P d) : Keyed P (d.step P random ev) := by
  have hkeep : ∀ {Q : LinkLabel → Prop} {t}, Steps (LinkMicro P random) Q d t → Keyed P t := fun h =>
    h.invariant (I := Keyed P) (fun _ _ _ _ hm hu => LinkMicro.keyed hm hu) hd
  by_cases hev : ∃ io env, ev = .packet io env
  · obtain ⟨io, env, rfl⟩ := hev
    exact hkeep (processPacket_steps P random d io env)
  · exact hkeep (step_steps P random d fun io env h => hev ⟨io, env, h⟩)

end Link
end Daemon
end McuBridge
