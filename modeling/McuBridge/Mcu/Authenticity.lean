import McuBridge.Mcu.DecryptPath
import McuBridge.Mcu.Replay

/-! # What runs on the MCU was authenticated

`_handleReceivedFrame` decrypts when the FSM is synchronised and `_dispatchCommand` refuses application commands
when it is not, so with a secret an application handler runs only behind the AEAD. The key is the one of the last
accepted LINK_SYNC, and the receive counter bounds every counter accepted since. -/

namespace McuBridge

/-- The event is a call or a timer, not a received packet. -/
def McuEvent.isCall : McuEvent → Bool
  | .recv _ _ => false
  | _ => true

/-- What reaches the firmware: the bytes of a packet, or anything else that makes it act. -/
inductive McuInput where
  | packet (hal : Hal) (buffer : Bytes)
  | call (ev : McuEvent) (h : ev.isCall = true)

def McuInput.event (N : FrameCodec) : McuInput → McuEvent
  | .packet hal buffer => .recv hal (parseFrame N buffer).toOption
  | .call ev _ => ev

theorem McuInput.packet_error {N : FrameCodec} {buffer : Bytes} {e : FrameError} (h : parseFrame N buffer = .error e)
    (hal : Hal) : (McuInput.packet hal buffer).event N = .recv hal none := by
  rw [McuInput.event, h]
  rfl

theorem McuInput.packet_ok {N : FrameCodec} {buffer : Bytes} {env : RpcEnvelope} (h : parseFrame N buffer = .ok env)
    (hal : Hal) : (McuInput.packet hal buffer).event N = .recv hal (some env) := by
  rw [McuInput.event, h]
  rfl

namespace Mcu
open Run
variable (P : Platform) (N : FrameCodec)

/-- The firmware after `begin` and the inputs. -/
def runInputs (secret : Bytes) (postOk : Bool) (ins : List McuInput) : Mcu :=
  runFrom P secret postOk (ins.map (McuInput.event N))

/-- `env` passes `aead_decrypt_frame` under `key`, and its nonce carries the counter `c`. -/
def Authenticates (key : Bytes) (env : RpcEnvelope) (c : UInt64) : Prop :=
  c = readBe64 (((padTo 12 env.nonce).drop 4).take 8) ∧
    ∃ plain, P.aeadDecrypt key (padTo 12 env.nonce)
      (P.aad env.rawCommand.toUInt32 env.sequenceId.toUInt16.toUInt32)
      ((P.encryptedView env.payloadType).take ((P.encryptedView env.payloadType).length - aeadTagSize))
      ((P.encryptedView env.payloadType).drop ((P.encryptedView env.payloadType).length - aeadTagSize)) = some plain

/-- The counters accepted between an earlier state and this one. -/
def acceptedSince (s₀ s : Mcu) : List UInt64 := (s.accepts.drop s₀.accepts.length).map Prod.snd

/-- The packet is turned away: it does not parse, or it is an application frame and comes outside a session, fails
to authenticate, or repeats a counter. -/
inductive Rejected (s : Mcu) (buffer : Bytes) : Prop where
  | parse {e : FrameError} (h : parseFrame N buffer = .error e)
  | session {env : RpcEnvelope} (h : parseFrame N buffer = .ok env) (happ : isSystemCommand env.rawCommand = false)
      (hs : s.isSynchronized = false)
  | decrypt {env : RpcEnvelope} (h : parseFrame N buffer = .ok env) (happ : isSystemCommand env.rawCommand = false)
      (hs : s.decryptFrame P env = none)

/-- The handler entry `(cmd, seq)` of the input `i` after `ins` was authenticated: the firmware was synchronised,
`i` is a packet with that command which opens under the key of the last accepted LINK_SYNC, and its counter is
above every counter accepted since: in any earlier state with no LINK_SYNC accepted after it. -/
def ExecutedAuthentic (secret : Bytes) (postOk : Bool) (ins : List McuInput) (i : McuInput) (cmd : UInt16) : Prop :=
  (runInputs P N secret postOk ins).isSynchronized = true ∧
  ∃ hal buffer env n c, i = .packet hal buffer ∧ parseFrame N buffer = .ok env ∧ env.rawCommand = cmd ∧
    (runInputs P N secret postOk ins).derived.getLast? = some n ∧
    Authenticates P (P.deriveSessionKey (secret.take 64) n) env c ∧
    ∀ pre, pre <+: ins → (runInputs P N secret postOk pre).derived = (runInputs P N secret postOk ins).derived →
      ∀ c' ∈ acceptedSince (runInputs P N secret postOk pre) (runInputs P N secret postOk ins), c' < c

/-- What the input `i` may do after `ins`. -/
structure InputAuthentic (secret : Bytes) (postOk : Bool) (ins : List McuInput) (i : McuInput) : Prop where
  executed : ∀ h ∈ (runInputs P N secret postOk (ins ++ [i])).handled.drop
      (runInputs P N secret postOk ins).handled.length, isSystemCommand h.1 = false →
    ExecutedAuthentic P N secret postOk ins i h.1
  rejected : ∀ hal buffer, i = .packet hal buffer → Rejected P N (runInputs P N secret postOk ins) buffer →
    (runInputs P N secret postOk (ins ++ [i])).handled = (runInputs P N secret postOk ins).handled ∧
    (runInputs P N secret postOk (ins ++ [i])).rxNonceCounter = (runInputs P N secret postOk ins).rxNonceCounter

variable {P N} {s t : Mcu} {l : Label}

/-! ### The key of the session -/

/-- The session key is derived from the last accepted nonce. -/
def KeyOfLast (P : Platform) (s : Mcu) : Prop :=
  ∀ n, s.derived.getLast? = some n → s.sessionKey = P.deriveSessionKey s.sharedSecret n

theorem Micro.keyOfLast (h : Micro P l s t) (hs : KeyOfLast P s) : KeyOfLast P t := by
  cases h with
  | quiet h =>
    intro n hn
    rw [h.derived] at hn
    rw [h.sessionKey, h.sharedSecret]
    exact hs n hn
  | derive nonce =>
    intro n hn
    have hlast : (s.derived ++ [nonce]).getLast? = some n := hn
    rw [List.getLast?_concat] at hlast
    cases hlast
    rfl
  | _ => exact hs

theorem run_keyOfLast (secret : Bytes) (postOk : Bool) (evs : List McuEvent) :
    KeyOfLast P (runFrom P secret postOk evs) ∧ Keyed P (runFrom P secret postOk evs) := by
  have hboot : KeyOfLast P (boot secret postOk) := by
    intro n hn
    have hnil : (boot secret postOk).derived = [] := by cases postOk <;> rfl
    rw [hnil] at hn
    cases hn
  refine run_invariant (I := fun u => KeyOfLast P u ∧ Keyed P u) (fun u ev hu => ⟨?_, step_keyed ev hu.2⟩)
    ⟨hboot, (RxInv.boot P secret postOk).keyed⟩ evs
  exact (step_steps P u ev).invariant (fun _ _ _ _ h => Micro.keyOfLast h) hu.1

/-- A synchronised MCU with a secret holds the key of the last accepted LINK_SYNC. -/
theorem key_of_session (hlast : KeyOfLast P s) (hkeyed : Keyed P s) (hsec : s.sharedSecret ≠ [])
    (hsync : s.isSynchronized = true) :
    ∃ n, s.derived.getLast? = some n ∧ s.sessionKey = P.deriveSessionKey s.sharedSecret n := by
  obtain ⟨n, hn, -⟩ := hkeyed hsec hsync
  cases h : s.derived.getLast? with
  | none =>
    rw [List.getLast?_eq_none_iff.1 h] at hn
    cases hn
  | some n => exact ⟨n, rfl, hlast n h⟩

/-! ### The counters of the session -/

/-- Nothing is forgotten since `s₀`, and as long as no key is derived the receive counter bounds what was accepted. -/
structure Bounds (s₀ s : Mcu) : Prop where
  derived : s₀.derived.length ≤ s.derived.length
  accepts : s₀.accepts <+: s.accepts
  le : s.derived.length = s₀.derived.length → ∀ c ∈ acceptedSince s₀ s, c ≤ s.rxNonceCounter

theorem Bounds.refl (s : Mcu) : Bounds s s :=
  ⟨le_rfl, List.prefix_refl _, fun _ c hc => by simp [acceptedSince] at hc⟩

theorem acceptedSince_congr {s₀ : Mcu} (h : t.accepts = s.accepts) : acceptedSince s₀ t = acceptedSince s₀ s := by
  unfold acceptedSince
  rw [h]

theorem acceptedSince_acceptCounter {s₀ : Mcu} (h : s₀.accepts <+: s.accepts) (c : UInt64) :
    acceptedSince s₀ (s.acceptCounter c) = acceptedSince s₀ s ++ [c] := by
  unfold acceptedSince
  show ((s.accepts ++ [(s.sessionKey, c)]).drop s₀.accepts.length).map Prod.snd = _
  rw [List.drop_append_of_le_length h.length_le, List.map_append]
  rfl

theorem Micro.bounds {s₀ : Mcu} (h : Micro P l s t) (hs : Bounds s₀ s) : Bounds s₀ t := by
  cases h with
  | quiet h =>
    refine ⟨?_, ?_, ?_⟩
    · rw [h.derived]
      exact hs.derived
    · rw [h.accepts]
      exact hs.accepts
    · rw [h.derived, h.rxNonceCounter, acceptedSince_congr h.accepts]
      exact hs.le
  | derive n =>
    -- from here on a key was derived, so nothing is claimed about the counters any more
    have hlen : (s.installSession P n).derived.length = s.derived.length + 1 := by simp [installSession]
    have hle := hs.derived
    refine ⟨by omega, hs.accepts, fun heq => ?_⟩
    omega
  | @counter _ c _ _ hlt =>
    refine ⟨hs.derived, hs.accepts.trans (List.prefix_append _ _), fun heq c' hc' => ?_⟩
    rw [acceptedSince_acceptCounter hs.accepts] at hc'
    rcases List.mem_append.1 hc' with hc' | hc'
    · exact UInt64.le_of_lt (UInt64.lt_of_le_of_lt (hs.le heq c' hc') hlt)
    · rw [List.mem_singleton.1 hc']
      exact UInt64.le_refl c
  | _ => exact ⟨hs.derived, hs.accepts, hs.le⟩

theorem run_bounds (s : Mcu) (evs : List McuEvent) : Bounds s (run (step P) s evs) :=
  run_invariant (fun u ev hu => (step_steps P u ev).invariant (fun _ _ _ _ h => Micro.bounds h) hu) (.refl s) evs

/-- Between two states of a run with no LINK_SYNC accepted in between. -/
theorem runInputs_bounds (secret : Bytes) (postOk : Bool) {pre ins : List McuInput} (h : pre <+: ins) :
    Bounds (runInputs P N secret postOk pre) (runInputs P N secret postOk ins) := by
  obtain ⟨rest, rfl⟩ := h
  unfold runInputs runFrom
  rw [List.map_append, run_append]
  exact run_bounds _ _

/-! ### One input -/

theorem runInputs_concat (secret : Bytes) (postOk : Bool) (ins : List McuInput) (i : McuInput) :
    runInputs P N secret postOk (ins ++ [i]) = step P (i.event N) (runInputs P N secret postOk ins) := by
  unfold runInputs runFrom
  rw [List.map_append, run_append]
  rfl

theorem EventLabel.call_ne_handle {ev : McuEvent} (hcall : ev.isCall = true) (h : EventLabel P s ev l) :
    l ≠ .handle := by
  rintro rfl
  cases ev with
  | recv => cases hcall
  | onAckTimeout =>
    rcases h with h | ⟨-, h | h⟩
    · exact h
    · cases h
    · cases h
  | enterSafeState => rcases h with h | h | h <;> cases h
  | onRxDedupe => cases h
  | onHandshakeTimeout => rcases h with ⟨-, h | h⟩ <;> cases h
  | _ => exact h

/-- Only a received packet runs a handler. -/
theorem step_call_handled {ev : McuEvent} (hcall : ev.isCall = true) : (step P ev s).handled = s.handled :=
  Steps.handled P s (fun _ => EventLabel.call_ne_handle hcall) (step_steps P s ev)

theorem Micro.rxNonceCounter (h : Micro P l s t) (hc : ∀ c, l ≠ .counter c) (hd : ∀ n, l ≠ .derive n) :
    t.rxNonceCounter = s.rxNonceCounter := by
  cases h with
  | quiet h => exact h.rxNonceCounter
  | counter => exact absurd rfl (hc _)
  | derive => exact absurd rfl (hd _)
  | _ => rfl

/-- An application frame outside a session is answered with an error and changes neither record. -/
theorem recv_unsynchronized (hal : Hal) {env : RpcEnvelope} (hsec : s.sharedSecret ≠ [])
    (happ : isSystemCommand env.rawCommand = false) (hs : s.isSynchronized = false) :
    (step P (.recv hal (some env)) s).handled = s.handled ∧
      (step P (.recv hal (some env)) s).rxNonceCounter = s.rxNonceCounter := by
  have henc : s.doEncrypt env.rawCommand = false := by simp [doEncrypt, hs]
  have heq : step P (.recv hal (some env)) s = s.dispatchCommand P hal env := by
    show s.handleReceivedFrame P hal (some env) = _
    unfold handleReceivedFrame
    dsimp only
    rw [henc]
    rfl
  refine ⟨by rw [heq]; exact dispatchCommand_refused P s hal (by simp [isSecurityCheckPassed, hsec, happ, hs]), ?_⟩
  rw [heq]
  refine (dispatchCommand_steps P s hal env).invariant (I := fun u => u.rxNonceCounter = s.rxNonceCounter) ?_ rfl
  intro l u v hl hm hu
  refine (Micro.rxNonceCounter hm ?_ ?_).trans hu
  · rintro c rfl
    rcases hl with h | h
    · cases h
    · rcases h.tx_of_not_system P s happ with h | h
      · exact h
      · cases h
  · rintro n rfl
    rcases hl with h | h
    · cases h
    · rcases h.tx_of_not_system P s happ with h | h
      · exact h
      · cases h

theorem step_rejected (hsec : s.sharedSecret ≠ []) {hal : Hal} {buffer : Bytes} (h : Rejected P N s buffer) :
    (step P ((McuInput.packet hal buffer).event N) s).handled = s.handled ∧
      (step P ((McuInput.packet hal buffer).event N) s).rxNonceCounter = s.rxNonceCounter := by
  have hquiet : ∀ st : Status, (s.emitStatus P st none).handled = s.handled ∧
      (s.emitStatus P st none).rxNonceCounter = s.rxNonceCounter :=
    fun st => ⟨(emitStatus_quiet P s st none).handled, (emitStatus_quiet P s st none).rxNonceCounter⟩
  cases h with
  | parse h =>
    rw [McuInput.packet_error h]
    exact hquiet .malformed
  | session h happ hs =>
    rw [McuInput.packet_ok h]
    exact recv_unsynchronized hal hsec happ hs
  | @decrypt env h happ hs =>
    rw [McuInput.packet_ok h]
    cases hsync : s.isSynchronized with
    | false => exact recv_unsynchronized hal hsec happ hsync
    | true =>
      have heq : step P (.recv hal (some env)) s = s.emitStatus P .error none := by
        show s.handleReceivedFrame P hal (some env) = _
        unfold handleReceivedFrame
        dsimp only
        rw [if_pos ((s.doEncrypt_iff).2 ⟨hsync, hsec, happ⟩), hs]
      rw [heq]
      exact hquiet .error

/-- A handler entry that a step adds: the packet it comes from, and the counter it used up. -/
theorem step_executed (hsec : s.sharedSecret ≠ []) {i : McuInput} {h : UInt16 × UInt16}
    (hmem : h ∈ (step P (i.event N) s).handled.drop s.handled.length) (happ : isSystemCommand h.1 = false) :
    ∃ hal buffer env c plain, i = .packet hal buffer ∧ parseFrame N buffer = .ok env ∧ env.rawCommand = h.1 ∧
      s.isSynchronized = true ∧ s.decryptFrame P env = some (c, plain) := by
  have hgrow : s.handled.length < (step P (i.event N) s).handled.length := by
    have hpos := List.length_pos_of_mem hmem
    rw [List.length_drop] at hpos
    omega
  cases i with
  | call ev hcall =>
    rw [show (McuInput.call ev hcall).event N = ev from rfl, step_call_handled hcall] at hgrow
    exact absurd hgrow (lt_irrefl _)
  | packet hal buffer =>
    cases hparse : parseFrame N buffer with
    | error e =>
      rw [(step_rejected hsec (.parse hparse)).1] at hgrow
      exact absurd hgrow (lt_irrefl _)
    | ok env =>
      rw [McuInput.packet_ok hparse] at hmem hgrow
      have hcmd : env.rawCommand = h.1 := by
        rcases handleReceivedFrame_handled P s hal env with heq | heq
        · have heq : (step P (.recv hal (some env)) s).handled = s.handled := heq
          rw [heq] at hgrow
          exact absurd hgrow (lt_irrefl _)
        · have heq : (step P (.recv hal (some env)) s).handled =
            s.handled ++ [(env.rawCommand, env.sequenceId.toUInt16)] := heq
          rw [heq, List.drop_left, List.mem_singleton] at hmem
          rw [hmem]
      have happ' : isSystemCommand env.rawCommand = false := by rw [hcmd]; exact happ
      have hsync : s.isSynchronized = true := by
        by_contra hno
        rw [(recv_unsynchronized hal hsec happ' (Bool.eq_false_iff.2 hno)).1] at hgrow
        exact absurd hgrow (lt_irrefl _)
      obtain ⟨c, plain, hdec, -⟩ := recv_executes hal hsec happ' hgrow
      exact ⟨hal, buffer, env, c, plain, rfl, hparse, hcmd, hsync, hdec⟩

/-! ### Whole runs -/

/-- With a secret, in every run and for every next input: an application handler runs only behind the AEAD under
the key of the last accepted LINK_SYNC, with a counter above all accepted since, and a packet that is turned away
runs no handler and leaves the receive counter alone. -/
theorem executed_only_authenticated (P : Platform) (N : FrameCodec) (secret : Bytes) (postOk : Bool)
    (hsecret : secret ≠ []) (ins : List McuInput) (i : McuInput) : InputAuthentic P N secret postOk ins i := by
  have hshared : (runInputs P N secret postOk ins).sharedSecret = secret.take 64 :=
    run_invariant (I := fun u => u.sharedSecret = secret.take 64)
      (fun u ev hu => (step_sharedSecret P ev u).trans hu) (boot_sharedSecret secret postOk) _
  have hsec : (runInputs P N secret postOk ins).sharedSecret ≠ [] := by
    rw [hshared]
    cases secret with
    | nil => exact absurd rfl hsecret
    | cons => simp
  constructor
  · intro h hmem happ
    rw [runInputs_concat] at hmem
    obtain ⟨hal, buffer, env, c, plain, rfl, hparse, hcmd, hsync, hdec⟩ := step_executed hsec hmem happ
    obtain ⟨hlast, hkeyed⟩ := run_keyOfLast (P := P) secret postOk (ins.map (McuInput.event N))
    obtain ⟨n, hn, hkey⟩ := key_of_session hlast hkeyed hsec hsync
    obtain ⟨hc, hopen⟩ := decryptFrame_opens hdec
    refine ⟨hsync, hal, buffer, env, n, c, rfl, hparse, hcmd, hn, ⟨hc, plain, ?_⟩, ?_⟩
    · rw [← hshared]
      exact hkey ▸ hopen
    · intro pre hpre hderived c' hc'
      have hbounds := runInputs_bounds (P := P) (N := N) secret postOk hpre
      exact UInt64.lt_of_le_of_lt (hbounds.le (by rw [hderived]) c' hc') (decryptFrame_lt P _ hdec)
  · rintro hal buffer rfl hrej
    rw [runInputs_concat]
    exact step_rejected hsec hrej

/-- The frames of `Sample.codec`, and LINK_SYNC frames with a nonce and a tag of 16 bytes. -/
def sampleLinkCodec : FrameCodec where
  crc32 := Sample.crc32
  decodeEnvelope
    | 8 :: v :: 16 :: cmd :: 24 :: seq :: 170 :: 2 :: 36 :: 10 :: 16 :: b =>
      some ⟨v.toUInt32, cmd.toUInt32, seq.toUInt32, [], .linkSync ⟨b.take 16, b.drop 18⟩⟩
    | b => Sample.decodeEnvelope b

/-- The LINK_SYNC of the daemon, as it arrives. -/
def sampleSyncPacket : McuInput :=
  .packet .sample (Sample.withCrc ([8, 2, 16, 68, 24, 1, 170, 2, 36, 10, 16] ++ sampleNonce ++ [18, 16] ++
    Platform.sample.handshakeTag [7] sampleNonce))

theorem executed_only_authenticated_sample :
    InputAuthentic .sample sampleLinkCodec [7] true [sampleSyncPacket] (.packet .sample sealedFrame) ∧
    (runInputs .sample sampleLinkCodec [7] true [sampleSyncPacket, .packet .sample sealedFrame]).handled =
      [(Command.linkSync.toUnderlying, 1), (Command.consoleWrite.toUnderlying, 2)] :=
  ⟨executed_only_authenticated .sample sampleLinkCodec [7] true (by decide) _ _, by decide +kernel⟩

end Mcu
end McuBridge
