import McuBridge.Daemon.Frame
import McuBridge.Mcu.NonceUnique

/-! # Replayed frames on the MCU

Within a session `validate_frame_nonce` lets every counter through once. Across sessions a frame of the
daemon opens only under the key it was sealed with, so it can run a second time only if that key comes
back: only if a LINK_SYNC repeats a handshake nonce. -/

namespace McuBridge
namespace Mcu
open Run
variable {P : Platform} {l : Label} {s t : Mcu}

/-! ### The receive side as an epoch log -/

theorem rxView_counter {c : UInt64} : rxView P (s.acceptCounter c) = (rxView P s).use c.toNat := by
  simp only [rxView, EpochLog.use, acceptCounter, List.map_append, List.map_singleton]
  rfl

theorem rxSteps_of_no_derive (hsteps : Steps (Micro P) (fun l => ∀ n, l ≠ .derive n) s t) (hkeyed : Keyed P s) :
    Relation.ReflTransGen EpochLog.Step (rxView P s) (rxView P t) := by
  have hinv := hsteps.invariant
    (I := fun u => Keyed P u ∧ Relation.ReflTransGen EpochLog.Step (rxView P s) (rxView P u))
    (by
      rintro l u v hl h ⟨hk, hview⟩
      refine ⟨Micro.keyed h hk, ?_⟩
      by_cases hc : ∀ c, l ≠ .counter c
      · rw [Micro.rxView_eq h hc hl]
        exact hview
      · obtain ⟨c, rfl⟩ := not_forall_not.1 hc
        cases h with
        | counter hsync hsec hlt =>
          rw [rxView_counter]
          exact hview.tail (.use (hk hsec hsync) (UInt64.lt_iff_toNat_lt.1 hlt)))
    ⟨hkeyed, .refl⟩
  exact hinv.2

theorem step_rxView {ev : McuEvent} (hfresh : FreshSync P s ev) (hdist : KeysDistinct P (step P ev s))
    (hkeyed : Keyed P s) : Relation.ReflTransGen EpochLog.Step (rxView P s) (rxView P (step P ev s)) := by
  rcases step_derive_cases hfresh with hsteps | ⟨n, hn, hsteps⟩
  · exact rxSteps_of_no_derive hsteps hkeyed
  · exact rekey_of_steps (fun h hl hd => Micro.rxView_eq h hl.2.1 hd) rxView_installSession rfl
      (fun n' hl => hl.2.2 n' rfl) hn hsteps hdist

structure RxInv (P : Platform) (s : Mcu) : Prop where
  keyed : Keyed P s
  ok : KeysDistinct P s → (rxView P s).Ok

theorem RxInv.boot (P : Platform) (secret : Bytes) (postOk : Bool) : RxInv P (boot secret postOk) := by
  obtain ⟨-, haccepts, -, hsync⟩ := boot_seals secret postOk
  refine ⟨fun _ h => ?_, fun _ => ⟨?_, ?_, ?_⟩⟩
  · rw [hsync] at h
    cases h
  all_goals simp [rxView, haccepts]

theorem RxInv.step {ev : McuEvent} (h : RxInv P s) (hfresh : FreshSync P s ev) : RxInv P (step P ev s) :=
  ⟨step_keyed ev h.keyed, fun hdist => .of_steps (step_rxView hfresh hdist h.keyed) (h.ok hdist.of_step)⟩

theorem run_accepts_nodup (secret : Bytes) (postOk : Bool) (evs : List McuEvent)
    (hinj : KeysDistinct P (runFrom P secret postOk evs))
    (hfresh : Along (step P) (FreshSync P) (boot secret postOk) evs) :
    (runFrom P secret postOk evs).accepts.Nodup := by
  have hinv : RxInv P (runFrom P secret postOk evs) :=
    hfresh.invariant (fun _ _ h hev => h.step hev) (RxInv.boot P secret postOk)
  exact List.Nodup.of_map _ (hinv.ok hinj).nodup

/-! ### A handler that runs has used up a counter -/

theorem Micro.accepts_sublist (h : Micro P l s t) : s.accepts.Sublist t.accepts := by
  cases h with
  | quiet h => rw [h.accepts]
  | counter => exact List.sublist_append_left _ _
  | _ => exact List.Sublist.refl _

theorem Micro.accepts_eq (h : Micro P l s t) (hc : ∀ c, l ≠ .counter c) : t.accepts = s.accepts := by
  cases h with
  | quiet h => exact h.accepts
  | counter => exact absurd rfl (hc _)
  | _ => rfl

theorem step_accepts_sublist (ev : McuEvent) (s : Mcu) : s.accepts.Sublist (step P ev s).accepts :=
  (step_steps P s ev).invariant (I := fun t => s.accepts.Sublist t.accepts)
    (fun _ _ _ _ h hs => hs.trans (Micro.accepts_sublist h)) (List.Sublist.refl _)

/-- An application frame runs a handler in a session only. -/
theorem recv_executes_synchronized (hal : Hal) {env : RpcEnvelope} (hsec : s.sharedSecret ≠ [])
    (hsys : isSystemCommand env.rawCommand = false)
    (h : s.handled.length < (step P (.recv hal (some env)) s).handled.length) : s.isSynchronized = true := by
  by_contra hsync
  rw [Bool.not_eq_true] at hsync
  have hrefused : s.admits P env = false := by simp [admits, isSecurityCheckPassed, hsec, hsys, hsync]
  rw [recv_refused P s hal hrefused] at h
  exact absurd h (lt_irrefl _)

/-- An application frame runs a handler only if it opened and its counter was accepted. -/
theorem recv_executes (hal : Hal) {env : RpcEnvelope} (hsec : s.sharedSecret ≠ [])
    (hsys : isSystemCommand env.rawCommand = false)
    (h : s.handled.length < (step P (.recv hal (some env)) s).handled.length) :
    ∃ c plain, s.decryptFrame P env = some (c, plain) ∧
      (step P (.recv hal (some env)) s).accepts = s.accepts ++ [(s.sessionKey, c)] := by
  have hsync := recv_executes_synchronized hal hsec hsys h
  change _ < (s.handleReceivedFrame P hal (some env)).handled.length at h
  show ∃ c plain, _ ∧ (s.handleReceivedFrame P hal (some env)).accepts = _
  rcases handleReceivedFrame_cases P s hal env with hq | ⟨c, plain, -, hdec, heq⟩ | ⟨henc, -⟩
  · rw [hq.handled] at h
    exact absurd h (lt_irrefl _)
  · refine ⟨c, plain, hdec, ?_⟩
    rw [heq]
    have hsteps := dispatchCommand_steps P (s.acceptCounter c) hal
      { env with payloadType := P.encryptedStore env.payloadType plain }
    refine hsteps.invariant (I := fun t => t.accepts = s.accepts ++ [(s.sessionKey, c)]) ?_ rfl
    intro l u v hl hm hu
    refine (Micro.accepts_eq hm ?_).trans hu
    rintro c rfl
    exact hl.resolve_left nofun
  · rw [(s.doEncrypt_iff).2 ⟨hsync, hsec, hsys⟩] at henc
    cases henc

theorem decryptFrame_opens {env : RpcEnvelope} {c : UInt64} {plain : Bytes}
    (h : s.decryptFrame P env = some (c, plain)) :
    c = readBe64 (((padTo 12 env.nonce).drop 4).take 8) ∧
      P.aeadDecrypt s.sessionKey (padTo 12 env.nonce)
        (P.aad env.rawCommand.toUInt32 env.sequenceId.toUInt16.toUInt32)
        ((P.encryptedView env.payloadType).take ((P.encryptedView env.payloadType).length - aeadTagSize))
        ((P.encryptedView env.payloadType).drop ((P.encryptedView env.payloadType).length - aeadTagSize)) =
      some plain := by
  unfold decryptFrame at h
  dsimp only at h
  split at h
  · cases h
  · obtain ⟨_, hopen, h⟩ := Option.bind_eq_some_iff.1 h
    obtain ⟨_, hv, h⟩ := Option.map_eq_some_iff.1 h
    cases h
    exact ⟨validateFrameNonce_eq hv, hopen⟩

theorem padTo_nonce {n : Bytes} (h : n.length = aeadNonceSize) : padTo 12 n = n := by
  unfold padTo
  rw [List.take_append_of_le_length (by rw [h]; decide), List.take_of_length_le (by rw [h]; decide)]

/-- What the MCU opens opens under its session key. -/
theorem decryptFrame_opensUnder {env : RpcEnvelope} {b : Bytes} (hpay : env.payloadType = .encryptedPayloadWithTag b)
    (hnonce : env.nonce.length = aeadNonceSize) {c : UInt64} {plain : Bytes}
    (h : s.decryptFrame P env = some (c, plain)) :
    env.opensUnder P.toCrypto s.sessionKey (P.aad env.rawCommand.toUInt32 env.sequenceId.toUInt16.toUInt32) = true := by
  have hopen := (decryptFrame_opens h).2
  rw [padTo_nonce hnonce, hpay] at hopen
  change P.aeadDecrypt _ _ _ (b.take (b.length - aeadTagSize)) (b.drop (b.length - aeadTagSize)) = _ at hopen
  unfold RpcEnvelope.opensUnder
  rw [hpay]
  dsimp only
  rw [hopen]
  rfl

/-- A frame of the daemon that, of the keys in `keys`, opens under its own only. -/
theorem decryptFrame_key {keys : Set Bytes} {cmd seq : UInt16} {payload : Payload} {nonce key : Bytes} {e : RpcEnvelope}
    (hcmd : isSystemCommand cmd = false) (hkey : key ≠ []) (hnonce : nonce.length = aeadNonceSize)
    (hbuild : Daemon.buildFrame P cmd seq.toUInt32 payload nonce (some key) = some e)
    (hauth : ∀ k ∈ keys, e.opensUnder P.toCrypto k (P.aad cmd.toUInt32 seq.toUInt32) = true → k = key)
    (hs : s.sessionKey ∈ keys) {c : UInt64} {plain : Bytes} (h : s.decryptFrame P e = some (c, plain)) :
    s.sessionKey = key ∧ c = readBe64 (((padTo 12 nonce).drop 4).take 8) := by
  have hne : nonce ≠ [] := by
    rintro rfl
    cases hnonce
  obtain ⟨ct, tag, -, rfl⟩ := Daemon.buildFrame_sealed P hcmd hkey hne hbuild
  have hopen := decryptFrame_opensUnder rfl hnonce h
  simp only [RpcEnvelope.rawCommand, UInt16.toUInt16_toUInt32] at hopen
  exact ⟨hauth _ hs hopen, (decryptFrame_opens h).1⟩

/-! ### Whole runs -/

end Mcu

/-- The event is the reception of `e`. -/
def McuEvent.isRecv (e : RpcEnvelope) : McuEvent → Bool
  | .recv _ (some e') => e' == e
  | _ => false

namespace Mcu
open Run
variable (P : Platform)

/-- How often the reception of `e` ran a handler in the run. -/
def executions (e : RpcEnvelope) : Mcu → List McuEvent → Nat
  | _, [] => 0
  | s, ev :: evs =>
    (if ev.isRecv e && s.handled.length < (step P ev s).handled.length then 1 else 0) +
      executions e (step P ev s) evs

variable {P}

theorem isRecv_eq {e : RpcEnvelope} {ev : McuEvent} (h : ev.isRecv e = true) : ∃ hal, ev = .recv hal (some e) := by
  unfold McuEvent.isRecv at h
  split at h
  case h_1 hal e' =>
    obtain rfl : e' = e := beq_iff_eq.1 h
    exact ⟨hal, rfl⟩
  case h_2 => cases h

theorem seenKeys_subset_run (evs : List McuEvent) (s : Mcu) : seenKeys P s ⊆ seenKeys P (run (step P) s evs) := by
  induction evs generalizing s with
  | nil => exact Set.Subset.refl _
  | cons ev evs ih =>
    refine Set.Subset.trans ?_ (ih (step P ev s))
    rintro k ⟨n, hn, rfl⟩
    exact ⟨n, step_derived_subset ev s hn, by rw [step_sharedSecret]⟩

/-- Every execution of `e` adds the same entry to the log of accepted counters, if under the keys of the run `e`
opens with that entry only. -/
theorem executions_le_count {e : RpcEnvelope} {x : Bytes × UInt64} (hsys : isSystemCommand e.rawCommand = false)
    (evs : List McuEvent) (s : Mcu) (hsec : s.sharedSecret ≠ []) (hkeyed : Keyed P s)
    (hx : ∀ {u : Mcu} {c plain}, u.sessionKey ∈ seenKeys P (run (step P) s evs) →
      u.decryptFrame P e = some (c, plain) → (u.sessionKey, c) = x) :
    s.accepts.count x + executions P e s evs ≤ (run (step P) s evs).accepts.count x := by
  induction evs generalizing s with
  | nil => exact le_rfl
  | cons ev evs ih =>
    have hrest := ih (step P ev s) (by rw [step_sharedSecret]; exact hsec) (step_keyed ev hkeyed) hx
    have hgrow := (step_accepts_sublist (P := P) ev s).count_le x
    have hseen := seenKeys_subset_run (P := P) (ev :: evs) s
    rw [executions, run]
    rw [run] at hseen hx
    generalize hcount : List.count x (run (step P) (step P ev s) evs).accepts = total at hrest ⊢
    by_cases hexec : (ev.isRecv e && decide (s.handled.length < (step P ev s).handled.length)) = true
    · rw [if_pos hexec]
      obtain ⟨hrecv, hlt⟩ := Bool.and_eq_true_iff.1 hexec
      obtain ⟨hal, rfl⟩ := isRecv_eq hrecv
      have hsync := recv_executes_synchronized hal hsec hsys (of_decide_eq_true hlt)
      obtain ⟨c, plain, hdec, haccepts⟩ := recv_executes hal hsec hsys (of_decide_eq_true hlt)
      rw [hx (hseen (hkeyed hsec hsync)) hdec] at haccepts
      rw [haccepts, List.count_append, List.count_singleton_self] at hrest
      omega
    · rw [if_neg hexec]
      omega

/-- In every run of an MCU with a secret in which no accepted LINK_SYNC repeats a handshake nonce, a frame
the daemon sealed for an application command runs its handler at most once, whatever else is received and
however often the frame is injected. -/
theorem replay_runs_once (P : Platform) (secret : Bytes) (postOk : Bool)
    (hsecret : secret ≠ []) (evs : List McuEvent) (hinj : KeysDistinct P (runFrom P secret postOk evs))
    (hfresh : Along (step P) (FreshSync P) (boot secret postOk) evs)
    (cmd seq : UInt16) (payload : Payload) (nonce key : Bytes) (e : RpcEnvelope)
    (hcmd : isSystemCommand cmd = false) (hkey : key ≠ []) (hnonce : nonce.length = aeadNonceSize)
    (hbuild : Daemon.buildFrame P cmd seq.toUInt32 payload nonce (some key) = some e)
    (hauth : ∀ k ∈ seenKeys P (runFrom P secret postOk evs),
      e.opensUnder P.toCrypto k (P.aad cmd.toUInt32 seq.toUInt32) = true → k = key) :
    executions P e (boot secret postOk) evs ≤ 1 := by
  have hsec : (boot secret postOk).sharedSecret ≠ [] := by
    rw [boot_sharedSecret]
    cases secret with
    | nil => exact absurd rfl hsecret
    | cons => simp
  have hsys : isSystemCommand e.rawCommand = false := by
    have hne : nonce ≠ [] := by
      rintro rfl
      cases hnonce
    obtain ⟨ct, tag, -, rfl⟩ := Daemon.buildFrame_sealed P hcmd hkey hne hbuild
    simpa [RpcEnvelope.rawCommand] using hcmd
  have hcount := executions_le_count (P := P) (x := (key, readBe64 (((padTo 12 nonce).drop 4).take 8))) hsys evs
    (boot secret postOk) hsec (RxInv.boot P secret postOk).keyed
    (fun hk hdec => Prod.ext_iff.2 (decryptFrame_key hcmd hkey hnonce hbuild hauth hk hdec))
  have hnodup := List.nodup_iff_count_le_one.1 (run_accepts_nodup secret postOk evs hinj hfresh)
    (key, readBe64 (((padTo 12 nonce).drop 4).take 8))
  exact le_trans (Nat.le_add_left _ _) (hcount.trans hnodup)

/-- The session key of the sample nonce. -/
def sampleKey : Bytes := Platform.sample.deriveSessionKey [7] sampleNonce

/-- A console frame of the daemon under the sample key, with counter 1. -/
def sampleConsoleFrame : RpcEnvelope :=
  ⟨protocolVersion, 96, 2, [1, 2, 3, 4] ++ be64 1,
    .encryptedPayloadWithTag (Sample.encodeBytes [65] ++ sampleKey.take 16)⟩

theorem sampleConsoleFrame_built : Daemon.buildFrame .sample Command.consoleWrite.toUnderlying 2
    (.message (.consoleWrite [65])) ([1, 2, 3, 4] ++ be64 1) (some sampleKey) = some sampleConsoleFrame := by
  decide +kernel

/-- One handshake of the daemon and the console frame, as they arrive. -/
def sampleSession : List McuEvent :=
  [.recv .sample (some (linkSyncFrame 1 ⟨sampleNonce, Platform.sample.handshakeTag [7] sampleNonce⟩)),
    .recv .sample (some sampleConsoleFrame)]

/-- The console frame is injected again in its own session and in the next one. -/
def sampleInjected : List McuEvent :=
  sampleSession ++ [.recv .sample (some sampleConsoleFrame), linkReset 3,
    .recv .sample (some (linkSyncFrame 4 ⟨sampleNonce.map (· + 1),
      Platform.sample.handshakeTag [7] (sampleNonce.map (· + 1))⟩)),
    .recv .sample (some sampleConsoleFrame)]

theorem sampleConsoleFrame_opensUnder {k : Bytes}
    (hk : k = sampleKey ∨ k = Platform.sample.deriveSessionKey [7] (sampleNonce.map (· + 1)))
    (hopen : sampleConsoleFrame.opensUnder Platform.sample.toCrypto k
      (Platform.sample.aad Command.consoleWrite.toUnderlying.toUInt32 2) = true) : k = sampleKey := by
  rcases hk with rfl | rfl
  · rfl
  · exact absurd hopen (by decide +kernel)

theorem replay_runs_once_sample :
    executions .sample sampleConsoleFrame (boot [7] true) sampleInjected ≤ 1 ∧
    executions .sample sampleConsoleFrame (boot [7] true) sampleSession = 1 := by
  have hd : (runFrom .sample [7] true sampleInjected).derived = [sampleNonce, sampleNonce.map (· + 1)] ∧
      (runFrom .sample [7] true sampleInjected).sharedSecret = [7] := by decide +kernel
  refine ⟨?_, by decide +kernel⟩
  refine replay_runs_once .sample [7] true (by decide) _ (keysDistinct_of_nodup (by decide +kernel)) (by decide +kernel)
    Command.consoleWrite.toUnderlying 2 (.message (.consoleWrite [65])) ([1, 2, 3, 4] ++ be64 1) sampleKey
    sampleConsoleFrame (by decide) (by decide +kernel) (by decide +kernel) sampleConsoleFrame_built ?_
  rintro k ⟨n, hn, rfl⟩
  refine sampleConsoleFrame_opensUnder ?_
  rw [hd.1] at hn
  rw [hd.2]
  rcases List.mem_cons.1 hn with rfl | hn
  · exact .inl rfl
  · rw [List.mem_singleton.1 hn]
    exact .inr rfl

/-- The recorded LINK_SYNC and the recorded console frame, injected again in that order: the console frame
runs a second time. -/
theorem replayed_session_runs_twice :
    ¬ ∀ (P : Platform) (secret : Bytes) (postOk : Bool), secret ≠ [] →
      ∀ evs : List McuEvent, KeysDistinct P (runFrom P secret postOk evs) →
      ∀ (cmd seq : UInt16) (payload : Payload) (nonce key : Bytes) (e : RpcEnvelope),
      isSystemCommand cmd = false → key ≠ [] → nonce.length = aeadNonceSize →
      Daemon.buildFrame P cmd seq.toUInt32 payload nonce (some key) = some e →
      (∀ k ∈ seenKeys P (runFrom P secret postOk evs),
        e.opensUnder P.toCrypto k (P.aad cmd.toUInt32 seq.toUInt32) = true → k = key) →
      executions P e (boot secret postOk) evs ≤ 1 := by
  intro h
  have hd : (runFrom .sample [7] true (sampleSession ++ sampleSession)).derived = List.replicate 2 sampleNonce ∧
      (runFrom .sample [7] true (sampleSession ++ sampleSession)).sharedSecret = [7] := by decide +kernel
  refine absurd (h .sample [7] true (by decide) (sampleSession ++ sampleSession) (keysDistinct_of_replicate 2 hd.1)
    Command.consoleWrite.toUnderlying 2 (.message (.consoleWrite [65])) ([1, 2, 3, 4] ++ be64 1) sampleKey
    sampleConsoleFrame (by decide) (by decide +kernel) (by decide +kernel) sampleConsoleFrame_built ?_)
    (by decide +kernel)
  rintro k ⟨n, hn, rfl⟩
  refine sampleConsoleFrame_opensUnder ?_
  rw [hd.1] at hn
  rw [hd.2, List.eq_of_mem_replicate hn]
  exact .inl rfl

end Mcu
end McuBridge
