import McuBridge.Mcu.Replay
import McuBridge.Net.Traffic

/-! # Nonce counters across handshakes

Each side checks a counter the other one sends. The MCU resets both of its counters with every session key
(`_handleLinkSync`); the daemon keeps its own through all of them. Its send counter may go on, because the
MCU starts again from zero. Its receive counter may not: the MCU's first frame of a new session carries
counter 1, and `validate_nonce_counter` compares it with the last counter of the session before. -/

namespace McuBridge

/-- The encryption `i` is the first one under the key `k`. -/
def FirstSeal (seals : List (Bytes × Bytes)) (k : Bytes) (i : Nat) : Prop :=
  (∃ n, seals[i]? = some (k, n)) ∧ ∀ j < i, ∀ n, seals[j]? ≠ some (k, n)

/-! ### Frames that pass a counter check -/

theorem readBe64_zero : readBe64 ((List.replicate aeadNonceSize (0 : UInt8)).drop 4) = 0 := by decide

namespace Daemon
variable {P : Platform}

theorem validateNonceCounter_eq {nonce : Bytes} {last c : Nat} (h : validateNonceCounter nonce last = some c) :
    c = (readBe64 (nonce.drop 4)).toNat ∧ nonce.length = aeadNonceSize := by
  unfold validateNonceCounter at h
  split at h
  · cases h
  case isFalse hlen =>
    dsimp only at h
    split at h
    · cases h
    · cases h
      exact ⟨rfl, not_not.1 hlen⟩

/-- The counter of a frame in the clear is zero, or there is none. -/
theorem validateNonceCounter_clear {f : Sent} (hf : f.Clear) (last : Nat) :
    validateNonceCounter f.env.nonce last = none := by
  cases h : validateNonceCounter f.env.nonce last with
  | none => rfl
  | some c =>
    have hlt := Link.validateNonceCounter_lt h
    obtain ⟨rfl, hlen⟩ := validateNonceCounter_eq h
    rcases hf.2 with hn | hn
    · rw [hn] at hlen
      cases hlen
    · rw [hn, readBe64_zero] at hlt
      cases hlt

/-- What the daemon reads of a sealed frame in a session opens under its session key. -/
theorem parseFrame_opensUnder {env : RpcEnvelope} {n k k' : Bytes} (henv : env.SealedUnder P.toCrypto k' n) (hk : k ≠ [])
    (hparse : (parseFrame P env (some k)).isSome) :
    env.opensUnder P.toCrypto k (P.aad env.commandId env.sequenceId) = true := by
  obtain ⟨hsys, -, a, p, c, ct, tag, -, hpay⟩ := henv
  have hk : k.isEmpty = false := by simpa using hk
  unfold parseFrame at hparse
  unfold RpcEnvelope.opensUnder
  split at hparse
  · cases hparse
  · simp only [hk, hsys, Bool.not_false, Bool.and_self, if_true, hpay] at hparse
    rw [hpay]
    split at hparse
    · cases hparse
    · simpa using hparse

/-- A frame the daemon accepts in the session `k` is one the MCU sealed under `k`. -/
theorem accepted_sealed {seals : List (Bytes × Bytes)} {f : Sent} (hf : f.Fits P.toCrypto seals) {k : Bytes} (hk : k ≠ [])
    (hauth : ∀ i ∈ f.sealNo, ∀ x ∈ seals[i]?,
      f.env.opensUnder P.toCrypto k (P.aad f.env.commandId f.env.sequenceId) = true → k = x.1)
    (hparse : (parseFrame P f.env (some k)).isSome) {last c : Nat}
    (hc : validateNonceCounter f.env.nonce last = some c) :
    ∃ i n, f.sealNo = some i ∧ seals[i]? = some (k, n) := by
  rcases hf with hclear | ⟨i, k', n, hno, hi, henv⟩
  · rw [validateNonceCounter_clear hclear] at hc
    cases hc
  · obtain rfl := hauth i hno _ hi (parseFrame_opensUnder henv hk hparse)
    exact ⟨i, n, hno, hi⟩

end Daemon

namespace Mcu
variable {P : Platform} {s : Mcu}

/-- A frame the MCU opens in its session is one the daemon sealed under its key. -/
theorem opened_sealed {seals : List (Bytes × Bytes)} {f : Sent} (hf : f.Fits P.toCrypto seals)
    (hlen : ∀ x ∈ seals, x.2.length = aeadNonceSize)
    (hauth : ∀ i ∈ f.sealNo, ∀ x ∈ seals[i]?, f.env.opensUnder P.toCrypto s.sessionKey
      (P.aad f.env.rawCommand.toUInt32 f.env.sequenceId.toUInt16.toUInt32) = true → s.sessionKey = x.1)
    {c : UInt64} {plain : Bytes} (h : s.decryptFrame P f.env = some (c, plain)) :
    ∃ i n, f.sealNo = some i ∧ seals[i]? = some (s.sessionKey, n) := by
  have hlt := decryptFrame_lt P s h
  rcases hf with hclear | ⟨i, k, n, hno, hi, henv⟩
  · have hzero : c = 0 := by
      rcases hclear.2 with hn | hn <;> rw [(decryptFrame_opens h).1, hn] <;> decide
    rw [hzero] at hlt
    exact absurd hlt (by simp)
  · obtain ⟨-, rfl, a, p, c', ct, tag, -, hpay⟩ := henv
    obtain rfl : s.sessionKey = k :=
      hauth i hno _ hi (decryptFrame_opensUnder hpay (hlen _ (List.mem_of_getElem? hi)) h)
    exact ⟨i, _, hno, hi⟩

/-! ### The first nonce under a key -/

/-- The firmware's counter is at zero until something was sealed under the session key, so the first nonce
under every key has counter 1. -/
structure FirstNonces (s : Mcu) : Prop where
  started : s.txNonceCounter ≠ 0 → ∃ n, (s.sessionKey, n) ∈ s.seals
  first : ∀ i k n, FirstSeal s.seals k i → s.seals[i]? = some (k, n) → n = mcuNonce 1

variable {l : Label} {t : Mcu}

theorem FirstNonces.of_eq (h : FirstNonces s) (htx : t.txNonceCounter = s.txNonceCounter ∨ t.txNonceCounter = 0)
    (hkey : t.txNonceCounter = 0 ∨ t.sessionKey = s.sessionKey) (hseals : t.seals = s.seals) : FirstNonces t := by
  constructor
  · intro h0
    rw [hkey.resolve_left h0, hseals]
    rw [htx.resolve_right h0] at h0
    exact h.started h0
  · rw [hseals]
    exact h.first

theorem FirstNonces.encrypt (h : FirstNonces s) (out : List Sent) : FirstNonces (s.sealing out) := by
  constructor
  · exact fun _ => ⟨_, List.mem_append_right _ (List.mem_singleton_self _)⟩
  · intro i k n hfirst hi
    have hi : (s.seals ++ [(s.sessionKey, mcuNonce (s.txNonceCounter + 1))])[i]? = some (k, n) := hi
    have hfirst : FirstSeal (s.seals ++ [(s.sessionKey, mcuNonce (s.txNonceCounter + 1))]) k i := hfirst
    rcases Nat.lt_or_ge i s.seals.length with hlt | hge
    · -- an encryption of before
      rw [List.getElem?_append_left hlt] at hi
      refine h.first i k n ⟨⟨n, hi⟩, fun j hj m hm => hfirst.2 j hj m ?_⟩ hi
      rw [List.getElem?_append_left (by omega)]
      exact hm
    · -- the one just made: nothing was sealed under this key before it
      obtain rfl : i = s.seals.length := by
        have hlen := (List.getElem?_eq_some_iff.1 hi).1
        simp only [List.length_append, List.length_singleton] at hlen
        omega
      have hx : (s.sessionKey, mcuNonce (s.txNonceCounter + 1)) = (k, n) := by simpa using hi
      obtain ⟨rfl, rfl⟩ := Prod.mk.inj hx
      have htx : s.txNonceCounter = 0 := by
        by_contra h0
        obtain ⟨m, hm⟩ := h.started h0
        obtain ⟨j, hj⟩ := List.mem_iff_getElem?.1 hm
        have hjlt := (List.getElem?_eq_some_iff.1 hj).1
        refine hfirst.2 j hjlt m ?_
        rw [List.getElem?_append_left hjlt]
        exact hj
      rw [htx]
      rfl

theorem Micro.firstNonces (h : Micro P l s t) (hs : FirstNonces s) : FirstNonces t := by
  cases h with
  | quiet h => exact hs.of_eq (.inl h.txNonceCounter) (.inr h.sessionKey) h.seals
  | encrypt => exact hs.encrypt _
  | derive => exact hs.of_eq (.inr rfl) (.inl rfl) rfl
  | _ => exact hs.of_eq (.inl rfl) (.inr rfl) rfl

theorem step_firstNonces (ev : McuEvent) (hs : FirstNonces s) : FirstNonces (step P ev s) :=
  (step_steps P s ev).invariant (fun _ _ _ _ hm => Micro.firstNonces hm) hs

/-! ### The receive counter of the MCU -/

/-- An event leaves key and receive counter alone, or accepts the frame it received in the session, or starts
a session with the counter at zero. -/
theorem step_rxNonceCounter (ev : McuEvent) (s : Mcu) :
    (step P ev s).rxNonceCounter = 0 ∨ (step P ev s).sessionKey = s.sessionKey ∧
      ((step P ev s).rxNonceCounter = s.rxNonceCounter ∨
        ∃ hal env c plain, ev = .recv hal (some env) ∧ s.decryptFrame P env = some (c, plain)) := by
  have hinv := (step_steps P s ev).invariant
    (I := fun u => (u.rxNonceCounter = 0 ∧ ∃ n, EventLabel P s ev (.derive n)) ∨ u.sessionKey = s.sessionKey ∧
      (u.rxNonceCounter = s.rxNonceCounter ∨
        ∃ hal env c plain, ev = .recv hal (some env) ∧ s.decryptFrame P env = some (c, plain)))
    (by
      intro l u v hl hm hu
      cases hm with
      | quiet h =>
        rw [h.rxNonceCounter, h.sessionKey]
        exact hu
      | derive n => exact .inl ⟨rfl, n, hl⟩
      | counter =>
        -- a new key and an accepted counter do not come from the same frame
        rcases hu with ⟨-, n, hn⟩ | ⟨hkey, -⟩
        · exact (EventLabel.not_derive_counter hn hl).elim
        · obtain ⟨hal, env, plain, hev, -, hdec⟩ := EventLabel.counter_recv hl
          exact .inr ⟨hkey, .inr ⟨hal, env, _, plain, hev, hdec⟩⟩
      | _ => exact hu)
    (.inr ⟨rfl, .inl rfl⟩)
  exact hinv.imp_left And.left

end Mcu

/-! ### The counters of the daemon -/

namespace Daemon
namespace Link
variable {P : Platform} {random : Nat → UInt32} {l : LinkLabel} {d t : Link}

/-- The nonces the daemon seals with carry a counter above zero. -/
def Counted (d : Link) : Prop :=
  ∀ x ∈ d.seals, x.2.length = aeadNonceSize ∧ readBe64 (x.2.drop 4) ≠ 0

theorem nonce_counted (hc : d.linkNonceCounter < nonceCounterMask) :
    (d.nonce random).length = aeadNonceSize ∧ readBe64 ((d.nonce random).drop 4) ≠ 0 := by
  refine ⟨rfl, ?_⟩
  have hread : readBe64 ((d.nonce random).drop 4) = UInt64.ofNat (d.linkNonceCounter + 1) := readBe64_be64 _
  rw [hread]
  intro hzero
  have hnat := congrArg UInt64.toNat hzero
  rw [UInt64.toNat_ofNat_of_lt' (by unfold nonceCounterMask at hc; simp only [UInt64.size]; omega)] at hnat
  cases hnat

theorem LinkMicro.counted (h : LinkMicro P random l d t) (hd : Counted d) : Counted t := by
  cases h with
  | quiet h =>
    unfold Counted
    rw [h.seals]
    exact hd
  | encrypt _ _ hc =>
    intro x hx
    rcases List.mem_append.1 hx with hx | hx
    · exact hd x hx
    · rw [List.mem_singleton.1 hx]
      exact nonce_counted hc
  | _ => exact hd

theorem step_counted (ev : LinkEvent) (hd : Counted d) : Counted (d.step P random ev) := by
  by_cases hev : ∃ io env, ev = .packet io env
  · obtain ⟨io, env, rfl⟩ := hev
    exact (processPacket_steps P random d io env).invariant (fun _ _ _ _ => LinkMicro.counted) hd
  · exact (step_steps P random d fun io env h => hev ⟨io, env, h⟩).invariant (fun _ _ _ _ => LinkMicro.counted) hd

/-- The packet completes a handshake. -/
def completes (P : Platform) (io : Io) (env : RpcEnvelope) (d : Link) : Bool :=
  env.commandId == Command.linkSyncResp.toUnderlying.toUInt32 &&
    match parseFrame P env d.sessionKey, d.linkHandshakeNonce with
    | some payload, some n =>
      !io.throttled && (readLinkSync io.host payload).any fun m =>
        m.nonce == n && m.tag.length == aeadTagSize && m.tag == calculateHandshakeTag P d.sharedSecret n
    | _, _ => false

theorem AcceptsResp.completes {io : Io} {env : RpcEnvelope} {payload : Payload} {n : Bytes}
    (h : AcceptsResp P d io payload n) (hcmd : env.commandId = Command.linkSyncResp.toUnderlying.toUInt32)
    (hparse : parseFrame P env d.sessionKey = some payload) : d.completes P io env = true := by
  obtain ⟨m, hm, hnonce, hlen, htag⟩ := h.authentic
  rw [htag] at hlen
  simp [Link.completes, hcmd, hparse, h.pending, h.admitted, hm, hnonce, hlen, htag]

/-- The packet moves the receive counter. -/
def Counts (P : Platform) (env : RpcEnvelope) (d : Link) : Prop :=
  (parseFrame P env d.sessionKey).isSome ∧ d.isSynchronized = true ∧ isExcluded env.commandId = false ∧
    ∃ c, validateNonceCounter env.nonce d.linkLastNonceCounter = some c

/-- One packet: the receive counter stays or the packet was counted, and the link stays in its session or the
packet completed a handshake. -/
theorem processPacket_counter (P : Platform) (random : Nat → UInt32) (io : Io) (env : RpcEnvelope) (d : Link) :
    ((d.processPacket P random io env).linkLastNonceCounter = d.linkLastNonceCounter ∨ d.Counts P env) ∧
      ((d.processPacket P random io env).isSynchronized = true →
        d.isSynchronized = true ∧ (d.processPacket P random io env).linkSessionKey = d.linkSessionKey ∨
          d.completes P io env = true) := by
  refine (processPacket_steps P random d io env).invariant
    (I := fun u => (u.linkLastNonceCounter = d.linkLastNonceCounter ∨ d.Counts P env) ∧
      (u.isSynchronized = true → d.isSynchronized = true ∧ u.linkSessionKey = d.linkSessionKey ∨
        d.completes P io env = true)) ?_ ⟨.inl rfl, fun hs => .inl ⟨hs, rfl⟩⟩
  intro l u v hl hm hu
  cases hm with
  | quiet h =>
    rw [h.linkLastNonceCounter, h.isSynchronized, h.linkSessionKey]
    exact hu
  | leave h => exact ⟨hu.1, fun hs => absurd (by simpa [isSynchronized] using hs) h⟩
  | sync n =>
    obtain ⟨hcmd, payload, hparse, hacc⟩ := hl
    exact ⟨hu.1, fun _ => .inr (hacc.completes hcmd hparse)⟩
  | counter c =>
    obtain ⟨hparse, hs, hx, hc⟩ := hl
    exact ⟨.inr ⟨hparse, hs, hx, c, hc⟩, hu.2⟩
  | _ => exact hu

/-- Any other event moves no counter and starts no session. -/
theorem step_counter (P : Platform) (random : Nat → UInt32) {ev : LinkEvent} (hev : ∀ io env, ev ≠ .packet io env)
    (d : Link) :
    (d.step P random ev).linkLastNonceCounter = d.linkLastNonceCounter ∧
      ((d.step P random ev).isSynchronized = true →
        d.isSynchronized = true ∧ (d.step P random ev).linkSessionKey = d.linkSessionKey) := by
  refine (step_steps P random d hev).invariant
    (I := fun u => u.linkLastNonceCounter = d.linkLastNonceCounter ∧
      (u.isSynchronized = true → d.isSynchronized = true ∧ u.linkSessionKey = d.linkSessionKey)) ?_
    ⟨rfl, fun hs => ⟨hs, rfl⟩⟩
  intro l u v hl hm hu
  cases hm with
  | quiet h =>
    rw [h.linkLastNonceCounter, h.isSynchronized, h.linkSessionKey]
    exact hu
  | leave h => exact ⟨hu.1, fun hs => absurd (by simpa [isSynchronized] using hs) h⟩
  | sync n => exact hl.elim
  | counter c => exact hl.elim
  | _ => exact hu

end Link
end Daemon

/-! ### The two peers -/

namespace Net
open Run
variable {P : Platform} {random : Nat → UInt32} {s : Net}

/-- A peer that has accepted a frame in its session is past the first one sealed under its key. -/
structure CounterInv (P : Platform) (s : Net) : Prop where
  keyed : s.daemon.Keyed P
  counted : s.daemon.Counted
  first : s.mcu.FirstNonces
  toDaemon : Channel P.toCrypto s.mcu.seals s.toDaemon
  toMcu : Channel P.toCrypto s.daemon.seals s.toMcu
  daemonPast : s.daemon.isSynchronized = true → s.daemon.linkLastNonceCounter ≠ 0 →
    ∀ k ∈ s.daemon.linkSessionKey, Passed s.mcu.seals s.toDaemon k
  mcuPast : s.mcu.rxNonceCounter ≠ 0 → Passed s.daemon.seals s.toMcu s.mcu.sessionKey

theorem written_append (wire fs : List Sent) : written wire (wire ++ fs) = fs := List.drop_left

theorem CounterInv.drop (h : CounterInv P s) {q r : List Sent} (hq : q.Sublist s.toDaemon) (hr : r.Sublist s.toMcu) :
    CounterInv P { s with toDaemon := q, toMcu := r } where
  keyed := h.keyed
  counted := h.counted
  first := h.first
  toDaemon := h.toDaemon.sublist hq
  toMcu := h.toMcu.sublist hr
  daemonPast hs hlast k hk := (h.daemonPast hs hlast k hk).sublist hq
  mcuPast hrx := (h.mcuPast hrx).sublist hr

/-- An event of the MCU; `hrecv` is what is known of a frame it receives. -/
theorem CounterInv.mcuStep (h : CounterInv P s) (ev : McuEvent)
    (hrecv : ∀ hal env c plain, ev = .recv hal (some env) → s.mcu.decryptFrame P env = some (c, plain) →
      Passed s.daemon.seals s.toMcu s.mcu.sessionKey) : CounterInv P (s.mcuStep P ev) := by
  obtain ⟨fs, hfs, hg⟩ := Mcu.step_wrote ev s.mcu
  have hout : s.toDaemon ++ written s.mcu.wire (s.mcu.step P ev).wire = s.toDaemon ++ fs := by
    rw [hfs, written_append]
  unfold Net.mcuStep
  dsimp only
  rw [hout]
  refine ⟨h.keyed, h.counted, Mcu.step_firstNonces ev h.first, h.toDaemon.grow hg, h.toMcu, ?_, ?_⟩
  · exact fun hs hlast k hk => (h.daemonPast hs hlast k hk).grow hg
  · intro hrx
    rcases Mcu.step_rxNonceCounter (P := P) ev s.mcu with hzero | ⟨hkey, hsame | ⟨hal, env, c, plain, hev, hdec⟩⟩
    · exact absurd hzero hrx
    · dsimp only at hrx ⊢
      rw [hkey]
      rw [hsame] at hrx
      exact h.mcuPast hrx
    · dsimp only
      rw [hkey]
      exact hrecv hal env c plain hev hdec

/-- An event of the daemon; `hpast` is what is known of its session after it. -/
theorem CounterInv.daemonStep (hP : P.toCrypto.KeyLength) (h : CounterInv P s) (ev : Daemon.LinkEvent)
    (hpast : (s.daemon.step P random ev).isSynchronized = true →
      (s.daemon.step P random ev).linkLastNonceCounter ≠ 0 →
      ∀ k ∈ (s.daemon.step P random ev).linkSessionKey, Passed s.mcu.seals s.toDaemon k) :
    CounterInv P (s.daemonStep P random ev) := by
  obtain ⟨hkeyed, fs, hfs, hg⟩ := Daemon.Link.step_wrote hP random ev h.keyed
  have hout : s.toMcu ++ written s.daemon.wire (s.daemon.step P random ev).wire = s.toMcu ++ fs := by
    rw [hfs, written_append]
  unfold Net.daemonStep
  dsimp only
  rw [hout]
  exact ⟨hkeyed, Daemon.Link.step_counted ev h.counted, h.first, h.toDaemon, h.toMcu.grow hg, hpast,
    fun hrx => (h.mcuPast hrx).grow hg⟩

theorem CounterInv.daemonLocal (hP : P.toCrypto.KeyLength) (h : CounterInv P s) {ev : Daemon.LinkEvent}
    (hev : ∀ io env, ev ≠ .packet io env) : CounterInv P (s.daemonStep P random ev) := by
  obtain ⟨hlast, hsync⟩ := Daemon.Link.step_counter P random hev s.daemon
  refine h.daemonStep hP ev fun hs hne k hk => ?_
  obtain ⟨hs', hkey⟩ := hsync hs
  rw [hlast] at hne
  rw [hkey] at hk
  exact h.daemonPast hs' hne k hk

theorem reboot_firstNonces {m : Mcu} (h : m.FirstNonces) (postOk : Bool) : (m.reboot postOk).FirstNonces :=
  h.of_eq (.inr (by cases postOk <;> rfl)) (.inl (by cases postOk <;> rfl)) rfl

theorem CounterInv.reboot (h : CounterInv P s) (postOk : Bool) : CounterInv P { s with mcu := s.mcu.reboot postOk } where
  keyed := h.keyed
  counted := h.counted
  first := reboot_firstNonces h.first postOk
  toDaemon := h.toDaemon
  toMcu := h.toMcu
  daemonPast := h.daemonPast
  mcuPast hrx := absurd (by cases postOk <;> rfl) hrx

/-- The frame at the head of the line reaches the MCU. -/
theorem CounterInv.receiveMcu (h : CounterInv P s) {f : Sent} {rest : List Sent} (hq : s.toMcu = f :: rest)
    (hauth : ∀ i ∈ f.sealNo, ∀ x ∈ s.daemon.seals[i]?, f.env.opensUnder P.toCrypto s.mcu.sessionKey
      (P.aad f.env.rawCommand.toUInt32 f.env.sequenceId.toUInt16.toUInt32) = true → s.mcu.sessionKey = x.1)
    (hal : Hal) : CounterInv P ({ s with toMcu := rest }.receiveMcu P f hal) := by
  have hsub : rest.Sublist s.toMcu := by
    rw [hq]
    exact List.sublist_cons_self _ _
  have hchan := h.toMcu
  rw [hq] at hchan
  have hstep := (h.drop (List.Sublist.refl _) hsub).mcuStep (.recv hal (some f.env)) (by
    rintro _ _ c plain ⟨⟩ hdec
    obtain ⟨i, n, hno, hi⟩ :=
      Mcu.opened_sealed (hchan.fits f (List.mem_cons_self ..)) (fun x hx => (h.counted x hx).1) hauth hdec
    exact hchan.passed hno hi)
  exact ⟨hstep.1, hstep.2, hstep.3, hstep.4, hstep.5, hstep.6, hstep.7⟩

/-- The frame at the head of the line reaches the daemon. -/
theorem CounterInv.receiveDaemon (hP : P.toCrypto.KeyLength) (h : CounterInv P s) {f : Sent} {rest : List Sent}
    (hq : s.toDaemon = f :: rest) (io : Daemon.Io)
    (hauth : ∀ k ∈ s.daemon.sessionKey, ∀ i ∈ f.sealNo, ∀ x ∈ s.mcu.seals[i]?,
      f.env.opensUnder P.toCrypto k (P.aad f.env.commandId f.env.sequenceId) = true → k = x.1)
    (hfresh : s.daemon.completes P io f.env = true → s.daemon.linkLastNonceCounter = 0) :
    CounterInv P ({ s with toDaemon := rest }.receiveDaemon P random f io) := by
  have hsub : rest.Sublist s.toDaemon := by
    rw [hq]
    exact List.sublist_cons_self _ _
  have hchan := h.toDaemon
  rw [hq] at hchan
  obtain ⟨hlast, hsync⟩ := Daemon.Link.processPacket_counter P random io f.env s.daemon
  have hdrop := h.drop hsub (List.Sublist.refl _)
  have hstep : CounterInv P ({ s with toDaemon := rest }.daemonStep P random (.packet io f.env)) :=
    hdrop.daemonStep hP (.packet io f.env) (by
      intro hs hne k hk
      rcases hsync hs with ⟨hs', hkey⟩ | hcomp
      · have hk : k ∈ s.daemon.linkSessionKey := hkey ▸ hk
        rcases hlast with hsame | ⟨hparse, -, -, c, hc⟩
        · exact hdrop.daemonPast hs' (hsame ▸ hne) k hk
        · -- the packet was counted: it is sealed under the session key and leaves the line
          have hne : k ≠ [] := by
            rintro rfl
            exact h.keyed.not_keyless hP ⟨hs', fun k' hk' => by rw [hk] at hk'; cases hk'; rfl⟩
          have hkey : s.daemon.sessionKey = some k := by
            unfold Daemon.Link.sessionKey
            rw [if_pos hs']
            exact hk
          rw [hkey] at hparse
          obtain ⟨i, n, hno, hi⟩ := Daemon.accepted_sealed (hchan.fits f (List.mem_cons_self ..)) hne (hauth k hkey) hparse hc
          exact hchan.passed hno hi
      · -- a completed handshake: LINK_SYNC_RESP itself is not counted
        rcases hlast with hsame | ⟨-, -, hex, -⟩
        · exact absurd (hsame.trans (hfresh hcomp)) hne
        · have hcmd : f.env.commandId = Command.linkSyncResp.toUnderlying.toUInt32 := by
            unfold Daemon.Link.completes at hcomp
            rw [Bool.and_eq_true, beq_iff_eq] at hcomp
            exact hcomp.1
          rw [hcmd] at hex
          exact absurd hex (by decide))
  exact ⟨hstep.1, hstep.2, hstep.3, hstep.4, hstep.5, hstep.6, hstep.7⟩

end Net

/-- A serial line: what is delivered is what was written first. -/
def NetEvent.InOrder : NetEvent → Prop
  | .deliverToMcu i _ => i = 0
  | .deliverToDaemon i _ => i = 0
  | _ => True

instance : DecidablePred NetEvent.InOrder
  | .deliverToMcu i _ => inferInstanceAs (Decidable (i = 0))
  | .deliverToDaemon i _ => inferInstanceAs (Decidable (i = 0))
  | .daemon _ | .mcu _ | .reboot _ | .loseToMcu _ | .loseToDaemon _ => inferInstanceAs (Decidable True)

namespace Net
open Run
variable {P : Platform} {random : Nat → UInt32} {s : Net} {ev : NetEvent}

/-- The first frame sealed under the key of the receiver's session passes its counter check. -/
structure FirstFramesPass (s : Net) (ev : NetEvent) : Prop where
  daemon : ∀ f ∈ handedToDaemon ev s, ∀ i ∈ f.sealNo, s.daemon.isSynchronized = true →
    ∀ k ∈ s.daemon.linkSessionKey, FirstSeal s.mcu.seals k i →
    (Daemon.validateNonceCounter f.env.nonce s.daemon.linkLastNonceCounter).isSome
  mcu : ∀ f ∈ handedToMcu ev s, ∀ i ∈ f.sealNo, s.mcu.isSynchronized = true →
    FirstSeal s.daemon.seals s.mcu.sessionKey i →
    (validateFrameNonce (padTo 12 f.env.nonce) s.mcu.rxNonceCounter).isSome

/-- The event completes a handshake at the daemon. -/
def completesHandshake (P : Platform) (ev : NetEvent) (s : Net) : Bool :=
  match ev with
  | .deliverToDaemon i io => s.toDaemon[i]?.any fun f => s.daemon.completes P io f.env
  | _ => false

/-- A handshake completes only as long as the daemon has counted no frame. -/
def CounterUnused (P : Platform) (s : Net) (ev : NetEvent) : Prop :=
  completesHandshake P ev s = true → s.daemon.linkLastNonceCounter = 0

instance (P : Platform) (s : Net) (ev : NetEvent) : Decidable (CounterUnused P s ev) :=
  inferInstanceAs (Decidable (_ → _))

/-- Authenticity of the AEAD for the frames and the keys of the run: a sealed frame that is delivered opens under the
session key of its receiver only if that is the key it was sealed with. -/
structure Authentic (P : Platform) (s : Net) (ev : NetEvent) : Prop where
  daemon : ∀ f ∈ handedToDaemon ev s, ∀ k ∈ s.daemon.sessionKey, ∀ i ∈ f.sealNo, ∀ x ∈ s.mcu.seals[i]?,
    f.env.opensUnder P.toCrypto k (P.aad f.env.commandId f.env.sequenceId) = true → k = x.1
  mcu : ∀ f ∈ handedToMcu ev s, ∀ i ∈ f.sealNo, ∀ x ∈ s.daemon.seals[i]?,
    f.env.opensUnder P.toCrypto s.mcu.sessionKey
      (P.aad f.env.rawCommand.toUInt32 f.env.sequenceId.toUInt16.toUInt32) = true → s.mcu.sessionKey = x.1

instance (P : Platform) (s : Net) (ev : NetEvent) : Decidable (Authentic P s ev) :=
  decidable_of_iff
    ((∀ f ∈ handedToDaemon ev s, ∀ k ∈ s.daemon.sessionKey, ∀ i ∈ f.sealNo, ∀ x ∈ s.mcu.seals[i]?,
        f.env.opensUnder P.toCrypto k (P.aad f.env.commandId f.env.sequenceId) = true → k = x.1) ∧
      ∀ f ∈ handedToMcu ev s, ∀ i ∈ f.sealNo, ∀ x ∈ s.daemon.seals[i]?,
        f.env.opensUnder P.toCrypto s.mcu.sessionKey
          (P.aad f.env.rawCommand.toUInt32 f.env.sequenceId.toUInt16.toUInt32) = true → s.mcu.sessionKey = x.1)
    ⟨fun h => ⟨h.1, h.2⟩, fun h => ⟨h.daemon, h.mcu⟩⟩

theorem CounterInv.step (hP : P.toCrypto.KeyLength) (h : CounterInv P s) (hord : ev.InOrder)
    (hauth : Authentic P s ev) (hfresh : CounterUnused P s ev) : CounterInv P (step P random ev s) := by
  cases ev with
  | daemon ev =>
    simp only [Net.step]
    split
    case isTrue hloc =>
      refine h.daemonLocal hP ?_
      rintro io env rfl
      cases hloc
    · exact h
  | mcu ev =>
    simp only [Net.step]
    split
    case isTrue hloc =>
      refine h.mcuStep ev ?_
      rintro hal env c plain rfl -
      cases hloc
    · exact h
  | reboot postOk => exact h.reboot postOk
  | deliverToMcu i hal =>
    obtain rfl : i = 0 := hord
    cases hq : s.toMcu with
    | nil =>
      simp only [Net.step, hq, List.getElem?_nil]
      exact h
    | cons f rest =>
      simp only [Net.step, hq, List.getElem?_cons_zero, List.eraseIdx_zero, List.tail_cons]
      exact h.receiveMcu hq (hauth.mcu f (by simp [handedToMcu, hq])) hal
  | deliverToDaemon i io =>
    obtain rfl : i = 0 := hord
    cases hq : s.toDaemon with
    | nil =>
      simp only [Net.step, hq, List.getElem?_nil]
      exact h
    | cons f rest =>
      simp only [Net.step, hq, List.getElem?_cons_zero, List.eraseIdx_zero, List.tail_cons]
      refine h.receiveDaemon hP hq io (hauth.daemon f (by simp [handedToDaemon, hq])) fun hcomp => hfresh ?_
      simpa [completesHandshake, hq] using hcomp
  | loseToMcu i => exact h.drop (List.Sublist.refl _) (List.eraseIdx_sublist ..)
  | loseToDaemon i => exact h.drop (List.eraseIdx_sublist ..) (List.Sublist.refl _)

theorem CounterInv.init (P : Platform) (secret mcuSecret : Bytes) (timing : HandshakeConfig) (maxAttempts : Nat)
    (service : Daemon.Service) (postOk : Bool) :
    CounterInv P (init secret mcuSecret timing maxAttempts service postOk) where
  keyed h := by cases h
  counted := by simp [Daemon.Link.Counted, Net.init]
  first := by
    obtain ⟨hseals, -, htx, -⟩ := Mcu.boot_seals mcuSecret postOk
    refine ⟨fun h => absurd htx h, fun i k n _ hi => ?_⟩
    rw [show (Net.init secret mcuSecret timing maxAttempts service postOk).mcu.seals = [] from hseals] at hi
    cases hi
  toDaemon := ⟨by simp [Net.init], .nil⟩
  toMcu := ⟨by simp [Net.init], .nil⟩
  daemonPast h := by cases h
  mcuPast h := absurd (by cases postOk <;> rfl) h

/-- Nothing sealed under the key has passed before the first frame under it. -/
theorem FirstSeal.not_passed {seals : List (Bytes × Bytes)} {q : List Sent} {k : Bytes} {f : Sent} {i : Nat}
    (h : FirstSeal seals k i) (hf : f ∈ q) (hi : i ∈ f.sealNo) : ¬ Passed seals q k := by
  rintro ⟨j, n, hj, hlt⟩
  exact h.2 j (hlt f hf i hi) n hj

theorem handedToDaemon_mem {f : Sent} (h : f ∈ handedToDaemon ev s) : f ∈ s.toDaemon := by
  cases ev with
  | deliverToDaemon i io => exact List.mem_of_getElem? h
  | _ => cases h

theorem handedToMcu_mem {f : Sent} (h : f ∈ handedToMcu ev s) : f ∈ s.toMcu := by
  cases ev with
  | deliverToMcu i hal => exact List.mem_of_getElem? h
  | _ => cases h

/-- The nonce of the numbered frame is the one on record. -/
theorem Sent.Fits.nonce {P : Crypto} {seals : List (Bytes × Bytes)} {f : Sent} {i : Nat} (h : f.Fits P seals)
    (hi : i ∈ f.sealNo) : ∃ k, seals[i]? = some (k, f.env.nonce) := by
  rcases h with hc | ⟨j, k, n, hno, hj, henv⟩
  · rw [hc.1] at hi
    cases hi
  · rw [hno] at hi
    cases hi
    exact ⟨k, henv.2.1 ▸ hj⟩

theorem CounterInv.firstFramesPass (h : CounterInv P s) (ev : NetEvent) : FirstFramesPass s ev where
  daemon f hf i hi hs k hk hfirst := by
    have hmem := handedToDaemon_mem hf
    have hzero : s.daemon.linkLastNonceCounter = 0 := by
      by_contra hne
      exact FirstSeal.not_passed hfirst hmem hi (h.daemonPast hs hne k hk)
    obtain ⟨k', hk'⟩ := Sent.Fits.nonce (h.toDaemon.fits f hmem) hi
    obtain ⟨n, hn⟩ := hfirst.1
    have hnonce : f.env.nonce = mcuNonce 1 := by
      refine h.first.first i k' _ ?_ hk'
      rw [hn] at hk'
      cases hk'
      exact hfirst
    rw [hnonce, hzero]
    decide
  mcu f hf i hi hs hfirst := by
    have hmem := handedToMcu_mem hf
    have hzero : s.mcu.rxNonceCounter = 0 := by
      by_contra hne
      exact FirstSeal.not_passed hfirst hmem hi (h.mcuPast hne)
    obtain ⟨k, hk⟩ := Sent.Fits.nonce (h.toMcu.fits f hmem) hi
    obtain ⟨hlen, hcount⟩ := h.counted _ (List.mem_of_getElem? hk)
    have hread : (f.env.nonce.drop 4).take 8 = f.env.nonce.drop 4 :=
      List.take_of_length_le (by rw [List.length_drop, hlen]; decide)
    unfold validateFrameNonce
    rw [Mcu.padTo_nonce hlen, if_neg (by rw [hlen]; decide), hread, hzero]
    dsimp only
    rw [if_neg (by simpa using hcount)]
    rfl

/-- On a serial line, in every run in which no handshake completes after the daemon has counted a frame, the
first frame of either side under a session key passes the counter check of the other. -/
theorem first_frames_pass (P : Platform) (hP : P.toCrypto.KeyLength) (random : Nat → UInt32) (secret mcuSecret : Bytes)
    (timing : HandshakeConfig) (maxAttempts : Nat) (service : Daemon.Service) (postOk : Bool) (evs : List NetEvent)
    (hord : ∀ ev ∈ evs, ev.InOrder)
    (hauth : Along (step P random) (Authentic P) (init secret mcuSecret timing maxAttempts service postOk) evs)
    (h : Along (step P random) (CounterUnused P) (init secret mcuSecret timing maxAttempts service postOk) evs) :
    Along (step P random) FirstFramesPass (init secret mcuSecret timing maxAttempts service postOk) evs := by
  refine ((hauth.and h).and_mem hord).of_invariant (I := CounterInv P) ?_ ?_ (.init ..)
  · exact fun s ev hs hev => hs.step hP hev.2 hev.1.1 hev.1.2
  · exact fun s ev hs _ => hs.firstFramesPass ev

/-- A session: the handshake, a mailbox message of the MCU with its ACK, and a console write of the daemon. -/
def sampleSession (nonce : Bytes) : List NetEvent :=
  [.daemon .connect] ++ sampleHandshake nonce ++
    [.mcu (.send .mailboxPush 0 (.mailboxPush [65])), .deliverToDaemon 0 .sample, .deliverToMcu 0 .sample,
      .deliverToDaemon 0 .sample, .daemon (.send true Command.consoleWrite.toUnderlying (.message (.consoleWrite [66]))),
      .deliverToMcu 0 .sample, .deliverToDaemon 0 .sample, .daemon .completion, .daemon .disconnect]

theorem first_frames_pass_session :
    (run (step .sample fun _ => 0) sampleInit (sampleSession handshakeNonce)).daemon.linkLastNonceCounter = 1 ∧
      (run (step .sample fun _ => 0) sampleInit (sampleSession handshakeNonce)).mcu.rxNonceCounter = 1 ∧
      Along (step .sample fun _ => 0) FirstFramesPass sampleInit (sampleSession handshakeNonce) :=
  ⟨by decide +kernel, by decide +kernel,
    first_frames_pass .sample Platform.sample_keyLength (fun _ => 0) [7] [7] ⟨200, 5, 5000⟩ 3 (.sample []) true
      (sampleSession handshakeNonce) (by decide) (by decide +kernel) (by decide +kernel)⟩

/-- A session, a reconnection with another nonce, and the first frame of the MCU in the new session. -/
def reconnection : List NetEvent :=
  sampleSession handshakeNonce ++ [.daemon .connect] ++ sampleHandshake (handshakeNonce.map (· + 1)) ++
    [.mcu (.send .mailboxPush 0 (.mailboxPush [67]))]

def reconnected : Net := run (step .sample fun _ => 0) sampleInit reconnection

theorem reconnected_seals :
    reconnected.mcu.seals = [(Platform.sample.deriveSessionKey [7] handshakeNonce, mcuNonce 1),
      (Platform.sample.deriveSessionKey [7] (handshakeNonce.map (· + 1)), mcuNonce 1)] := by
  decide +kernel

/-- The daemon takes the first frame of the second session for a replay. -/
theorem second_session_rejected :
    ¬ ∀ (P : Platform), P.toCrypto.KeyLength → ∀ (random : Nat → UInt32) (secret mcuSecret : Bytes)
      (timing : HandshakeConfig) (maxAttempts : Nat) (service : Daemon.Service) (postOk : Bool) (evs : List NetEvent),
      (∀ ev ∈ evs, ev.InOrder) →
      Along (step P random) (Authentic P) (init secret mcuSecret timing maxAttempts service postOk) evs →
      Along (step P random) FirstFramesPass (init secret mcuSecret timing maxAttempts service postOk) evs := by
  intro h
  have hall := h .sample Platform.sample_keyLength (fun _ => 0) [7] [7] ⟨200, 5, 5000⟩ 3 (.sample []) true
    (reconnection ++ [.deliverToDaemon 0 .sample]) (by decide) (by decide +kernel)
  have hpass : FirstFramesPass reconnected (.deliverToDaemon 0 .sample) := ((along_append _ _ _).1 hall).2.1
  have hframe : (reconnected.toDaemon[0]?.map fun f =>
      (f.sealNo, Daemon.validateNonceCounter f.env.nonce reconnected.daemon.linkLastNonceCounter)) =
        some (some 1, none) := by decide +kernel
  obtain ⟨f, hf, hx⟩ := Option.map_eq_some_iff.1 hframe
  obtain ⟨hno, hval⟩ := Prod.mk.inj hx
  have hfirst : FirstSeal reconnected.mcu.seals
      (Platform.sample.deriveSessionKey [7] (handshakeNonce.map (· + 1))) 1 := by
    rw [reconnected_seals]
    refine ⟨⟨_, rfl⟩, ?_⟩
    intro j hj n hn
    obtain rfl : j = 0 := by omega
    obtain ⟨hkeys, -⟩ := Prod.mk.inj (Option.some.inj hn)
    exact absurd hkeys (by decide)
  have hsome := hpass.daemon f hf 1 hno (by decide +kernel) _ (by decide +kernel) hfirst
  rw [hval] at hsome
  cases hsome

end Net
end McuBridge
