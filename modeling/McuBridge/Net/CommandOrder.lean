import McuBridge.Lib.InOrder
import McuBridge.Mcu.Authenticity
import McuBridge.Net.Counters
import McuBridge.Net.Origin

/-! # The order of the commands in a session

The daemon numbers the frames it seals, and its counter never goes back; the MCU lets a counter pass only if it is
above the last one. So as long as the MCU keeps its session key, what the adversary does with the frames of the daemon
comes to no more than losing some of them. -/

namespace McuBridge

/-- The counter in the nonce of a frame; a frame in the clear has zero. -/
def nonceCounter (env : RpcEnvelope) : Nat := (readBe64 (((padTo 12 env.nonce).drop 4).take 8)).toNat

def counterNo (env : RpcEnvelope) : Option Nat := if nonceCounter env = 0 then none else some (nonceCounter env)

namespace Tap
variable (P : Platform) (random : Nat → UInt32)

/-- The application frame whose handler the event makes the MCU run. -/
def executes (ev : TapEvent) (s : Hostile) : Option RpcEnvelope :=
  match ev with
  | .toMcu _ env =>
    if !isSystemCommand env.rawCommand && s.mcu.handled.length < (step P random ev s).mcu.handled.length then some env
    else none
  | _ => none

def reboots : TapEvent → Bool
  | .reboot _ => true
  | _ => false

/-- The MCU is not reset and derives no new session key, and no frame of its own that is ahead of its receive counter
is brought back to it. -/
structure KeepsSession (s : Hostile) (ev : TapEvent) : Prop where
  running : reboots ev = false
  derived : (step P random ev s).mcu.derived = s.mcu.derived
  stale : StaleReflection s ev

end Tap

/-! ### The numbers of the daemon's frames -/

theorem nonceCounter_zero {env : RpcEnvelope} (h : env.nonce = List.replicate aeadNonceSize 0) : nonceCounter env = 0 := by
  unfold nonceCounter
  rw [h]
  decide

namespace Daemon.Link
variable {P : Platform} {random : Nat → UInt32} {l : LinkLabel} {d t : Link}

theorem nonceCounter_next (hc : d.linkNonceCounter < nonceCounterMask) {env : RpcEnvelope}
    (h : env.nonce = d.nonce random) : nonceCounter env = d.linkNonceCounter + 1 := by
  have hread : ((padTo 12 (d.nonce random)).drop 4).take 8 = be64 (UInt64.ofNat (d.linkNonceCounter + 1)) := by
    rw [Mcu.padTo_nonce rfl]
    rfl
  unfold nonceCounter
  rw [h, hread, readBe64_be64, UInt64.toNat_ofNat_of_lt']
  unfold nonceCounterMask at hc
  simp only [UInt64.size]
  omega

/-- The frames that are not in the clear are numbered upwards, up to the counter. -/
structure Numbered (d : Link) : Prop where
  ordered : Ordered counterNo (d.wire.map Sent.env)
  le : ∀ f ∈ d.wire, nonceCounter f.env ≤ d.linkNonceCounter

theorem counterNo_eq {env : RpcEnvelope} {i : Nat} (h : counterNo env = some i) : nonceCounter env = i := by
  unfold counterNo at h
  split at h
  · cases h
  · exact Option.some.inj h

/-- The next frame is in the clear, or has the next number. -/
theorem Numbered.append (h : Numbered d) (fs : List Sent) {c : Nat} (hc : d.linkNonceCounter ≤ c) (hone : fs.length ≤ 1)
    (hfs : ∀ f ∈ fs, nonceCounter f.env = 0 ∨ (nonceCounter f.env = c ∧ d.linkNonceCounter < c)) :
    Ordered counterNo ((d.wire ++ fs).map Sent.env) ∧ ∀ f ∈ d.wire ++ fs, nonceCounter f.env ≤ c := by
  constructor
  · rw [List.map_append]
    refine h.ordered.append ?_ ?_
    · have hlen : ((fs.map Sent.env).filterMap counterNo).length ≤ 1 :=
        (List.length_filterMap_le _ _).trans ((List.length_map _).trans_le hone)
      unfold Ordered
      generalize (fs.map Sent.env).filterMap counterNo = ns at hlen
      match ns, hlen with
      | [], _ => exact .nil
      | [n], _ => exact List.pairwise_singleton _ _
    · intro a ha b hb i j hi hj
      obtain ⟨f, hf, rfl⟩ := List.mem_map.1 ha
      obtain ⟨g, hg, rfl⟩ := List.mem_map.1 hb
      have hle := h.le f hf
      rw [counterNo_eq hi] at hle
      rcases hfs g hg with hzero | ⟨hnext, hlt⟩
      · unfold counterNo at hj
        rw [if_pos hzero] at hj
        cases hj
      · rw [counterNo_eq hj] at hnext
        omega
  · intro f hf
    rcases List.mem_append.1 hf with hf | hf
    · exact (h.le f hf).trans hc
    · rcases hfs f hf with hzero | ⟨hnext, -⟩ <;> omega

theorem LinkMicro.numbered (hP : P.toCrypto.KeyLength) (h : LinkMicro P random l d t) (hk : Keyed P d)
    (hd : Numbered d) : Numbered t := by
  cases h with
  | quiet h =>
    constructor
    · rw [h.wire]
      exact hd.ordered
    · rw [h.wire, h.linkNonceCounter]
      exact hd.le
  | bump => exact ⟨hd.ordered, fun f hf => Nat.le_succ_of_le (hd.le f hf)⟩
  | @clear _ f hf hn =>
    obtain ⟨hord, hle⟩ := hd.append [f] (Nat.le_refl _) (Nat.le_refl _) fun g hg => by
      obtain rfl := List.mem_singleton.1 hg
      exact .inl (nonceCounter_zero (hn.resolve_right (hk.not_keyless hP)))
    exact ⟨hord, hle⟩
  | @encrypt _ k out hs hkey hc hout =>
    obtain ⟨hord, hle⟩ := hd.append out.toList (Nat.le_succ _) (by cases out <;> simp) fun g hg => by
      obtain ⟨-, _, _, _, _, _, -, -, henv⟩ := hout g (Option.mem_toList.1 hg)
      exact .inr ⟨nonceCounter_next hc (show g.env.nonce = d.nonce random by rw [henv]), Nat.lt_succ_self _⟩
    exact ⟨hord, hle⟩
  | _ => exact ⟨hd.ordered, hd.le⟩

theorem step_numbered (hP : P.toCrypto.KeyLength) (random : Nat → UInt32) (ev : LinkEvent)
    (hk : Keyed P d) (hd : Numbered d) : Keyed P (d.step P random ev) ∧ Numbered (d.step P random ev) := by
  have hkeep : ∀ {Q : LinkLabel → Prop} {t}, Steps (LinkMicro P random) Q d t → Keyed P t ∧ Numbered t := fun h =>
    h.invariant (I := fun u => Keyed P u ∧ Numbered u)
      (fun _ _ _ _ hm hu => ⟨LinkMicro.keyed hm hu.1, LinkMicro.numbered hP hm hu.1 hu.2⟩) ⟨hk, hd⟩
  by_cases hev : ∃ io env, ev = .packet io env
  · obtain ⟨io, env, rfl⟩ := hev
    exact hkeep (processPacket_steps P random d io env)
  · exact hkeep (step_steps P random d fun io env h => hev ⟨io, env, h⟩)

end Daemon.Link

/-! ### The receive counter of the MCU -/

namespace Mcu
variable {P : Platform} {s : Mcu}

/-- While no key is derived the receive counter only goes up. -/
theorem step_rx_le (ev : McuEvent) (h : (step P ev s).derived = s.derived) :
    s.rxNonceCounter ≤ (step P ev s).rxNonceCounter := by
  have hinv := (step_steps P s ev).invariant
    (I := fun u => s.derived.length ≤ u.derived.length ∧
      (u.derived.length = s.derived.length → s.rxNonceCounter ≤ u.rxNonceCounter))
    (by
      intro l u v _ hm hu
      cases hm with
      | quiet h =>
        rw [h.derived, h.rxNonceCounter]
        exact hu
      | derive n =>
        have hlen : (u.installSession P n).derived.length = u.derived.length + 1 := by simp [installSession]
        rw [hlen]
        exact ⟨by omega, fun heq => by omega⟩
      | counter _ _ hlt => exact ⟨hu.1, fun heq => UInt64.le_of_lt (UInt64.lt_of_le_of_lt (hu.2 heq) hlt)⟩
      | _ => exact hu)
    ⟨Nat.le_refl _, fun _ => UInt64.le_refl _⟩
  exact hinv.2 (by rw [h])

/-- A frame that runs an application handler has a counter between the receive counters before and after it. -/
theorem recv_counter {hal : Hal} {env : RpcEnvelope} (hsec : s.sharedSecret ≠ [])
    (hsys : isSystemCommand env.rawCommand = false)
    (hran : s.handled.length < (step P (.recv hal (some env)) s).handled.length)
    (hderived : (step P (.recv hal (some env)) s).derived = s.derived) :
    s.rxNonceCounter.toNat < nonceCounter env ∧
      nonceCounter env ≤ (step P (.recv hal (some env)) s).rxNonceCounter.toNat := by
  obtain ⟨c, plain, hdec, haccepts⟩ := recv_executes hal hsec hsys hran
  have hc : c.toNat = nonceCounter env := congrArg UInt64.toNat (decryptFrame_opens hdec).1
  have hle : c ≤ (step P (.recv hal (some env)) s).rxNonceCounter := by
    refine (run_bounds (P := P) s [.recv hal (some env)]).le ?_ c ?_
    · exact congrArg List.length hderived
    · show c ∈ ((step P (.recv hal (some env)) s).accepts.drop s.accepts.length).map Prod.snd
      rw [haccepts, List.drop_left]
      exact List.mem_singleton.2 rfl
  rw [← hc]
  exact ⟨UInt64.lt_iff_toNat_lt.1 (decryptFrame_lt P s hdec), UInt64.le_iff_toNat_le.1 hle⟩

end Mcu

/-! ### A run of the line -/

namespace Tap
open Run
variable {P : Platform} {random : Nat → UInt32} {s : Hostile}

structure Line (P : Platform) (s : Hostile) : Prop where
  secret : s.mcu.sharedSecret ≠ []
  keyed : Daemon.Link.Keyed P s.daemon
  numbered : s.daemon.Numbered

theorem Line.step (hP : P.toCrypto.KeyLength) (h : Line P s) (ev : TapEvent) : Line P (step P random ev s) := by
  have hmcu : ∀ e, Line P { s with mcu := s.mcu.step P e } := fun e =>
    ⟨by rw [show ({ s with mcu := s.mcu.step P e } : Hostile).mcu.sharedSecret = s.mcu.sharedSecret from
      Mcu.step_sharedSecret P e s.mcu]; exact h.secret, h.keyed, h.numbered⟩
  have hdaemon : ∀ e, Line P { s with daemon := s.daemon.step P random e } := fun e =>
    ⟨h.secret, (Daemon.Link.step_numbered hP random e h.keyed h.numbered).1,
      (Daemon.Link.step_numbered hP random e h.keyed h.numbered).2⟩
  cases ev with
  | daemon e =>
    simp only [Tap.step]
    split
    · exact hdaemon e
    · exact h
  | mcu e =>
    simp only [Tap.step]
    split
    · exact hmcu e
    · exact h
  | reboot postOk =>
    refine ⟨?_, h.keyed, h.numbered⟩
    show (Mcu.boot s.mcu.sharedSecret postOk).sharedSecret ≠ []
    rw [Mcu.boot_sharedSecret]
    cases hsecret : s.mcu.sharedSecret with
    | nil => exact absurd hsecret h.secret
    | cons => simp
  | toMcu hal env =>
    simp only [Tap.step]
    split
    · exact hmcu _
    · exact h
  | toDaemon io env =>
    simp only [Tap.step]
    split
    · exact hdaemon _
    · exact h

theorem step_wire_isPrefix (hP : P.toCrypto.KeyLength) (h : Line P s) (ev : TapEvent) :
    s.daemon.wire <+: (Tap.step P random ev s).daemon.wire := by
  have hgrow : ∀ e, s.daemon.wire <+: (s.daemon.step P random e).wire := by
    intro e
    obtain ⟨-, fs, hfs, -⟩ := Daemon.Link.step_wrote hP random e h.keyed
    exact ⟨fs, hfs.symm⟩
  cases ev with
  | daemon e =>
    simp only [Tap.step]
    split
    · exact hgrow e
    · exact List.prefix_refl _
  | toDaemon io env =>
    simp only [Tap.step]
    split
    · exact hgrow _
    · exact List.prefix_refl _
  | mcu e =>
    simp only [Tap.step]
    split <;> exact List.prefix_refl _
  | reboot postOk => exact List.prefix_refl _
  | toMcu hal env =>
    simp only [Tap.step]
    split <;> exact List.prefix_refl _

theorem run_wire_isPrefix (hP : P.toCrypto.KeyLength) (h : Line P s) (evs : List TapEvent) :
    s.daemon.wire <+: (run (Tap.step P random) s evs).daemon.wire := by
  have hinv : Line P (run (Tap.step P random) s evs) ∧ s.daemon.wire <+: (run (Tap.step P random) s evs).daemon.wire :=
    run_invariant (I := fun t => Line P t ∧ s.daemon.wire <+: t.daemon.wire)
      (fun t ev ht => ⟨ht.1.step hP ev, ht.2.trans (step_wire_isPrefix hP ht.1 ev)⟩) ⟨h, List.prefix_refl _⟩ evs
  exact hinv.2

/-- The receive counter only goes up. -/
theorem KeepsSession.rx_le {ev : TapEvent} (h : KeepsSession P random s ev) :
    s.mcu.rxNonceCounter.toNat ≤ (Tap.step P random ev s).mcu.rxNonceCounter.toNat := by
  have hmcu : ∀ e, (s.mcu.step P e).derived = s.mcu.derived →
      s.mcu.rxNonceCounter.toNat ≤ (s.mcu.step P e).rxNonceCounter.toNat :=
    fun e he => UInt64.le_iff_toNat_le.1 (Mcu.step_rx_le e he)
  have hderived := h.derived
  cases ev with
  | daemon e =>
    simp only [Tap.step]
    split <;> exact Nat.le_refl _
  | toDaemon io env =>
    simp only [Tap.step]
    split <;> exact Nat.le_refl _
  | reboot postOk => cases (show true = false from h.running)
  | mcu e =>
    simp only [Tap.step] at hderived ⊢
    split at hderived
    case isTrue hlocal =>
      rw [if_pos hlocal]
      exact hmcu e hderived
    case isFalse hlocal =>
      rw [if_neg hlocal]
  | toMcu hal env =>
    simp only [Tap.step] at hderived ⊢
    split at hderived
    case isTrue hinject =>
      rw [if_pos hinject]
      exact hmcu _ hderived
    case isFalse hinject =>
      rw [if_neg hinject]

theorem executes_some {ev : TapEvent} {env : RpcEnvelope} (h : env ∈ executes P random ev s) :
    ∃ hal, ev = .toMcu hal env ∧ isSystemCommand env.rawCommand = false ∧
      s.mcu.handled.length < (Tap.step P random ev s).mcu.handled.length := by
  unfold executes at h
  split at h
  case h_1 hal env' =>
    split at h
    case isTrue hran =>
      obtain rfl := Option.some.inj h
      obtain ⟨hsys, hlt⟩ := Bool.and_eq_true_iff.1 hran
      exact ⟨hal, rfl, by simpa using hsys, of_decide_eq_true hlt⟩
    case isFalse => cases h
  case h_2 => cases h

/-- A frame that runs has the next number that can, and the daemon wrote it. -/
theorem executes_counter {ev : TapEvent} (hline : Line P s) (h : KeepsSession P random s ev) {env : RpcEnvelope}
    (henv : env ∈ executes P random ev s) :
    s.mcu.rxNonceCounter.toNat < nonceCounter env ∧
      nonceCounter env ≤ (Tap.step P random ev s).mcu.rxNonceCounter.toNat ∧ env ∈ s.daemon.wire.map Sent.env := by
  obtain ⟨hal, rfl, hsys, hran⟩ := executes_some henv
  have hsent : sentBy s.daemon.wire env = true := (originOk_of_stale h.stale).mcu hal env rfl hsys hran
  have hmem : env ∈ s.daemon.wire.map Sent.env := by
    obtain ⟨f, hf, heq⟩ := List.any_eq_true.1 hsent
    exact List.mem_map.2 ⟨f, hf, beq_iff_eq.1 heq⟩
  have hderived := h.derived
  simp only [Tap.step] at hran hderived ⊢
  split at hran
  case isFalse => exact absurd hran (lt_irrefl _)
  case isTrue hinject =>
    rw [if_pos hinject] at hderived ⊢
    obtain ⟨hlt, hle⟩ := Mcu.recv_counter hline.secret hsys hran hderived
    exact ⟨hlt, hle, hmem⟩

/-- In every stretch of a run in which the MCU keeps its session, the application frames whose handlers it runs are a
subsequence of the frames the daemon has written: none is run twice, none before an older one, and none that the daemon
did not write, whatever is lost, held back, repeated or brought in another order. -/
theorem commands_in_order (P : Platform) (hP : P.toCrypto.KeyLength) (random : Nat → UInt32) (secret : Bytes)
    (hsecret : secret ≠ []) (timing : HandshakeConfig) (maxAttempts : Nat) (service : Daemon.Service) (postOk : Bool)
    (pre post : List TapEvent)
    (h : Along (Tap.step P random) (KeepsSession P random)
      (run (Tap.step P random) (Hostile.init secret timing maxAttempts service postOk) pre) post) :
    (outputs (Tap.step P random) (executes P random)
      (run (Tap.step P random) (Hostile.init secret timing maxAttempts service postOk) pre) post).Sublist
      ((run (Tap.step P random) (Hostile.init secret timing maxAttempts service postOk) (pre ++ post)).daemon.wire.map
        Sent.env) := by
  have hinit : Line P (Hostile.init secret timing maxAttempts service postOk) := by
    refine ⟨?_, fun hs => ?_, .nil, nofun⟩
    · show (Mcu.boot secret postOk).sharedSecret ≠ []
      rw [Mcu.boot_sharedSecret]
      cases secret with
      | nil => exact absurd rfl hsecret
      | cons => simp
    · cases (show false = true from hs)
  have hkeep : ∀ (t : Hostile) (ev : TapEvent), Line P t → Line P (Tap.step P random ev t) := fun _ ev ht => ht.step hP ev
  have hpre := run_invariant hkeep hinit pre
  have hpost := run_invariant hkeep hpre post
  rw [run_append]
  generalize run (Tap.step P random) (Hostile.init secret timing maxAttempts service postOk) pre = s at h hpre hpost ⊢
  -- every step of the stretch starts in a state of the line, and what it runs ends up on the final wire
  have halong : Along (Tap.step P random) (fun t ev => (Line P t ∧
      ∃ rest, run (Tap.step P random) s post = run (Tap.step P random) t rest) ∧ KeepsSession P random t ev) s post := by
    clear hpost
    induction post generalizing s with
    | nil => trivial
    | cons ev post ih =>
      exact ⟨⟨⟨hpre, ev :: post, rfl⟩, h.1⟩, ih _ h.2 (hpre.step hP ev)⟩
  have hpairs : (outputs (Tap.step P random) (executes P random) s post).Pairwise fun a b =>
      nonceCounter a < nonceCounter b :=
    (halong.outputs_numbered (fun t ev ht => ht.2.rx_le) fun t ev ht env henv => by
      obtain ⟨hlt, hle, -⟩ := executes_counter ht.1.1 ht.2 henv
      exact ⟨hlt, hle⟩).2
  have hall : ∀ env ∈ outputs (Tap.step P random) (executes P random) s post,
      env ∈ (run (Tap.step P random) s post).daemon.wire.map Sent.env ∧ counterNo env = some (nonceCounter env) :=
    halong.forall_outputs fun t ev ht env henv => by
      obtain ⟨⟨hline, rest, hrest⟩, hkeeps⟩ := ht
      obtain ⟨hlt, -, hmem⟩ := executes_counter hline hkeeps henv
      refine ⟨?_, by unfold counterNo; rw [if_neg (by omega)]⟩
      rw [hrest]
      exact ((run_wire_isPrefix hP hline rest).map Sent.env).subset hmem
  exact hpost.numbered.ordered.sublist_of_mem hpairs (fun env henv => (hall env henv).1) fun env henv => (hall env henv).2

instance (s : Hostile) (ev : TapEvent) : Decidable (KeepsSession P random s ev) :=
  decidable_of_iff (reboots ev = false ∧ (Tap.step P random ev s).mcu.derived = s.mcu.derived ∧ StaleReflection s ev)
    ⟨fun h => ⟨h.1, h.2.1, h.2.2⟩, fun h => ⟨h.running, h.derived, h.stale⟩⟩

/-- A handshake. -/
def sampleOpening : List TapEvent := sampleTraffic.take 5

/-- A message of the daemon in three attempts. -/
def sampleAttempts : List TapEvent :=
  [.daemon (.send true Command.mailboxPush.toUnderlying (.message (.mailboxPush [65]))), .daemon .timeout,
    .daemon (.retry true), .daemon .timeout, .daemon (.retry true)]

/-- The frame of the i-th attempt. -/
def sampleAttempt (i : Nat) : RpcEnvelope :=
  ((run (Tap.step .sample fun _ => 0) (Hostile.init [7] ⟨200, 5, 5000⟩ 3 (.sample []) true)
    (sampleOpening ++ sampleAttempts.take (2 * i + 1))).daemon.wire.getLast?.map Sent.env).getD
      (Hostile.sampleEnvelope .linkSync)

/-- The first frame comes twice, the third before the second. -/
def sampleDisorder : List TapEvent :=
  sampleAttempts ++ [0, 0, 2, 1, 0].map fun i => .toMcu .sample (sampleAttempt i)

theorem commands_in_order_sample :
    (outputs (Tap.step .sample fun _ => 0) (executes .sample fun _ => 0)
      (run (Tap.step .sample fun _ => 0) (Hostile.init [7] ⟨200, 5, 5000⟩ 3 (.sample []) true) sampleOpening)
      sampleDisorder).Sublist
      ((run (Tap.step .sample fun _ => 0) (Hostile.init [7] ⟨200, 5, 5000⟩ 3 (.sample []) true)
        (sampleOpening ++ sampleDisorder)).daemon.wire.map Sent.env) ∧
    outputs (Tap.step .sample fun _ => 0) (executes .sample fun _ => 0)
      (run (Tap.step .sample fun _ => 0) (Hostile.init [7] ⟨200, 5, 5000⟩ 3 (.sample []) true) sampleOpening)
      sampleDisorder = [sampleAttempt 0, sampleAttempt 2] :=
  ⟨commands_in_order .sample Platform.sample_keyLength (fun _ => 0) [7] (by decide) ⟨200, 5, 5000⟩ 3 (.sample []) true
    sampleOpening sampleDisorder (by decide +kernel), by decide +kernel⟩

end Tap
end McuBridge
