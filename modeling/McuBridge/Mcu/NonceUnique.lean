import McuBridge.Mcu.Session

/-! # No AEAD nonce is used twice under one key

`aead_encrypt_frame` counts up within a session and `_handleLinkSync` starts every session at zero, so the
pairs of key and nonce are distinct as long as every session has its own key. A repeated handshake nonce
derives the same key again and restarts the counter. -/

namespace McuBridge
namespace Mcu
open Run
variable {P : Platform} {l : Label} {s t : Mcu}

theorem Micro.tx_le_seals (h : Micro P l s t) (hs : s.txNonceCounter.toNat ≤ s.seals.length) :
    t.txNonceCounter.toNat ≤ t.seals.length := by
  cases h with
  | quiet h => rw [h.txNonceCounter, h.seals]; exact hs
  | encrypt =>
    have hadd : (s.txNonceCounter + 1).toNat ≤ s.txNonceCounter.toNat + 1 := by
      rw [UInt64.toNat_add]
      exact Nat.mod_le _ _
    simp only [sealing, List.length_append, List.length_singleton]
    omega
  | derive => exact Nat.zero_le _
  | _ => exact hs

/-- One encryption is a use of the abstract machine, unless the counter wraps. -/
theorem txView_encrypt (hc : s.txNonceCounter.toNat + 1 < 2 ^ 64) (out : List Sent) :
    txView P (s.sealing out) = (txView P s).use (s.txNonceCounter.toNat + 1) := by
  have hadd : (s.txNonceCounter + 1).toNat = s.txNonceCounter.toNat + 1 := by
    rw [UInt64.toNat_add]
    exact Nat.mod_eq_of_lt hc
  have hnonce : readBe64 ((mcuNonce (s.txNonceCounter + 1)).drop 4) = s.txNonceCounter + 1 :=
    readBe64_be64 _
  simp only [txView, sealing, EpochLog.use, List.map_append, List.map_singleton, hnonce, hadd]
  rfl

/-- An event without a new key: every step is a use, or none. -/
theorem txSteps_of_no_derive (hsteps : Steps (Micro P) (fun l => ∀ n, l ≠ .derive n) s t)
    (hkeyed : Keyed P s) (hle : s.txNonceCounter.toNat ≤ s.seals.length) (hlen : t.seals.length < 2 ^ 64) :
    Relation.ReflTransGen EpochLog.Step (txView P s) (txView P t) := by
  -- the length bound only has to hold at the end: it is handed back along the chain
  have hinv := hsteps.invariant (I := fun u => Keyed P u ∧ u.txNonceCounter.toNat ≤ u.seals.length ∧
      (u.seals.length < 2 ^ 64 → Relation.ReflTransGen EpochLog.Step (txView P s) (txView P u)))
    (by
      rintro l u v hl h ⟨hk, hu, hview⟩
      refine ⟨Micro.keyed h hk, Micro.tx_le_seals h hu, fun hv => ?_⟩
      have hu' := hview (lt_of_le_of_lt (Micro.seals_length h) hv)
      by_cases he : l = .encrypt
      · subst he
        cases h with
        | encrypt hsync hsec =>
          have hv : u.seals.length + 1 < 2 ^ 64 := by simpa [sealing] using hv
          rw [txView_encrypt (by omega)]
          exact hu'.tail (.use (hk hsec hsync) (Nat.lt_succ_self _))
      · rw [Micro.txView_eq h he hl]
        exact hu')
    ⟨hkeyed, hle, fun _ => .refl⟩
  exact hinv.2.2 hlen

theorem step_txView {ev : McuEvent} (hfresh : FreshSync P s ev) (hdist : KeysDistinct P (step P ev s))
    (hkeyed : Keyed P s) (hle : s.txNonceCounter.toNat ≤ s.seals.length)
    (hlen : (step P ev s).seals.length < 2 ^ 64) :
    Relation.ReflTransGen EpochLog.Step (txView P s) (txView P (step P ev s)) := by
  rcases step_derive_cases hfresh with hsteps | ⟨n, hn, hsteps⟩
  · exact txSteps_of_no_derive hsteps hkeyed hle hlen
  · exact rekey_of_steps (fun h hl hd => Micro.txView_eq h hl.1 hd) txView_installSession rfl
      (fun n' hl => hl.2.2 n' rfl) hn hsteps hdist

/-! ### Whole runs -/

/-- What the run keeps, given at its end that keys are distinct and that the counter cannot have wrapped. -/
structure TxInv (P : Platform) (s : Mcu) : Prop where
  keyed : Keyed P s
  le_seals : s.txNonceCounter.toNat ≤ s.seals.length
  ok : KeysDistinct P s → s.seals.length < 2 ^ 64 → (txView P s).Ok

theorem boot_seals (secret : Bytes) (postOk : Bool) :
    (boot secret postOk).seals = [] ∧ (boot secret postOk).accepts = [] ∧
      (boot secret postOk).txNonceCounter = 0 ∧ (boot secret postOk).isSynchronized = false := by
  cases postOk <;> exact ⟨rfl, rfl, rfl, rfl⟩

theorem TxInv.boot (P : Platform) (secret : Bytes) (postOk : Bool) : TxInv P (boot secret postOk) := by
  obtain ⟨hseals, -, htx, hsync⟩ := boot_seals secret postOk
  refine ⟨fun _ h => ?_, ?_, fun _ _ => ⟨?_, ?_, ?_⟩⟩
  · rw [hsync] at h
    cases h
  · rw [htx]
    exact Nat.zero_le _
  all_goals simp [txView, hseals]

theorem TxInv.step {ev : McuEvent} (h : TxInv P s) (hfresh : FreshSync P s ev) : TxInv P (step P ev s) := by
  have hle : (Mcu.step P ev s).txNonceCounter.toNat ≤ (Mcu.step P ev s).seals.length :=
    (step_steps P s ev).invariant (I := fun t => t.txNonceCounter.toNat ≤ t.seals.length)
      (fun _ _ _ _ hm => Micro.tx_le_seals hm) h.le_seals
  have hmono : s.seals.length ≤ (Mcu.step P ev s).seals.length :=
    (step_steps P s ev).invariant (I := fun t => s.seals.length ≤ t.seals.length)
      (fun _ _ _ _ hm hs => hs.trans (Micro.seals_length hm)) le_rfl
  refine ⟨step_keyed ev h.keyed, hle, fun hdist hlen => ?_⟩
  exact .of_steps (step_txView hfresh hdist h.keyed h.le_seals hlen)
    (h.ok hdist.of_step (lt_of_le_of_lt hmono hlen))

/-- In every run in which each accepted LINK_SYNC carries a new handshake nonce and fewer than 2^64 frames
are encrypted, no call of `aead_encrypt_frame` repeats a pair of key and nonce. -/
theorem aead_nonce_unique (P : Platform) (secret : Bytes) (postOk : Bool) (evs : List McuEvent)
    (hinj : KeysDistinct P (runFrom P secret postOk evs))
    (hfresh : Along (step P) (FreshSync P) (boot secret postOk) evs)
    (hlen : (runFrom P secret postOk evs).seals.length < 2 ^ 64) :
    (runFrom P secret postOk evs).seals.Nodup := by
  have hinv : TxInv P (runFrom P secret postOk evs) :=
    hfresh.invariant (fun _ _ h hev => h.step hev) (TxInv.boot P secret postOk)
  exact List.Nodup.of_map _ (hinv.ok hinj hlen).nodup

theorem keysDistinct_of_replicate {n : Bytes} (k : Nat) (h : s.derived = List.replicate k n) :
    KeysDistinct P s := by
  intro a ha b hb _
  have ha : a ∈ s.derived := ha
  have hb : b ∈ s.derived := hb
  rw [h] at ha hb
  rw [List.eq_of_mem_replicate ha, List.eq_of_mem_replicate hb]

theorem keysDistinct_of_nodup (h : (s.derived.map (P.deriveSessionKey s.sharedSecret)).Nodup) : KeysDistinct P s :=
  fun _ ha _ hb heq => List.inj_on_of_nodup_map h ha hb heq

/-- A LINK_SYNC with the nonce, and two console frames that the daemon acknowledges. -/
def sealTwice (nonce : Bytes) (seq : UInt32) : List McuEvent :=
  let ack (seq : UInt32) : McuEvent :=
    .recv .sample (some ⟨protocolVersion, Status.ack.toUnderlying.toUInt32, seq, [], .ackPacket ⟨96⟩⟩)
  [.recv .sample (some (linkSyncFrame seq ⟨nonce, Platform.sample.handshakeTag [7] nonce⟩)),
    .send .consoleWrite 0 (.consoleWrite [65]), ack (seq + 1), .send .consoleWrite 0 (.consoleWrite [66]),
    ack (seq + 2)]

/-- The link is reset, as the daemon does before every handshake. -/
def linkReset (seq : UInt32) : McuEvent :=
  .recv .sample (some ⟨protocolVersion, Command.linkReset.toUnderlying.toUInt32, seq, [], .notSet⟩)

/-- Two sessions with handshake nonces of their own: both count from 1. -/
def twoSessions : List McuEvent :=
  sealTwice sampleNonce 1 ++ [linkReset 4] ++ sealTwice (sampleNonce.map (· + 1)) 5

theorem aead_nonce_unique_sample :
    (runFrom .sample [7] true twoSessions).seals.Nodup ∧
      (runFrom .sample [7] true twoSessions).seals.map Prod.snd = [mcuNonce 1, mcuNonce 2, mcuNonce 1, mcuNonce 2] := by
  have hseals : (runFrom .sample [7] true twoSessions).seals.map Prod.snd =
      [mcuNonce 1, mcuNonce 2, mcuNonce 1, mcuNonce 2] := by decide +kernel
  have hlen : (runFrom .sample [7] true twoSessions).seals.length = 4 := by simpa using congrArg List.length hseals
  refine ⟨aead_nonce_unique .sample [7] true twoSessions ?_ ?_ ?_, hseals⟩
  · exact keysDistinct_of_nodup (by decide +kernel)
  · decide +kernel
  · rw [hlen]
    omega

/-- The first session again, with the same LINK_SYNC: the MCU encrypts two more frames with the key and the nonces it
has used before. -/
theorem replayed_sync_repeats_nonce :
    ¬ ∀ (P : Platform) (secret : Bytes) (postOk : Bool) (evs : List McuEvent),
      KeysDistinct P (runFrom P secret postOk evs) → (runFrom P secret postOk evs).seals.Nodup := by
  intro h
  have hd : (runFrom .sample [7] true (sealTwice sampleNonce 1 ++ [linkReset 4] ++ sealTwice sampleNonce 5)).derived =
      List.replicate 2 sampleNonce := by decide +kernel
  exact absurd (h .sample [7] true _ (keysDistinct_of_replicate 2 hd)) (by decide +kernel)

end Mcu
end McuBridge
