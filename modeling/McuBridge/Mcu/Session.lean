import Mathlib.Data.Set.Function
import McuBridge.Lib.EpochLog
import McuBridge.Mcu.SyncAuth

/-! # Session keys and counters over a run

The transmit side (`txView`) and the receive side (`rxView`) of the firmware are both instances of the
abstract key-and-counter machine `EpochLog`: `_transmit` and `validate_frame_nonce` use the current
key with a new counter value, `_handleLinkSync` changes the key. The change is a fresh one as long as no
accepted LINK_SYNC repeats a handshake nonce (`FreshSync`) and the key derivation is injective on the
nonces that occur. -/

namespace McuBridge
namespace Mcu
open Run
variable (P : Platform)

/-- The keys derived so far. -/
def seenKeys (s : Mcu) : Set Bytes := {k | ∃ n ∈ s.derived, k = P.deriveSessionKey s.sharedSecret n}

/-- The transmit side: the calls of `aead_encrypt_frame`, with the counter read back from the nonce. -/
def txView (s : Mcu) : EpochLog Bytes :=
  ⟨s.sessionKey, s.txNonceCounter.toNat, seenKeys P s, s.seals.map fun p => (p.1, (readBe64 (p.2.drop 4)).toNat)⟩

/-- The receive side: the counters `validate_frame_nonce` let through. -/
def rxView (s : Mcu) : EpochLog Bytes :=
  ⟨s.sessionKey, s.rxNonceCounter.toNat, seenKeys P s, s.accepts.map fun p => (p.1, p.2.toNat)⟩

/-- No accepted LINK_SYNC of this event carries a nonce a session key was derived from before. -/
def FreshSync (s : Mcu) (ev : McuEvent) : Prop :=
  ∀ hal env m, ev = .recv hal (some env) → linkSyncOf P s env = some m →
    acceptsTag P s.sharedSecret m = true → linkSyncNonce m ∉ s.derived

/-- The frame the event hands to `_handleReceivedFrame`. -/
def frameOf : McuEvent → Option RpcEnvelope
  | .recv _ res => res
  | _ => none

theorem mem_frameOf {ev : McuEvent} {env : RpcEnvelope} : env ∈ frameOf ev ↔ ∃ hal, ev = .recv hal (some env) := by
  constructor
  · intro h
    unfold frameOf at h
    split at h
    · exact ⟨_, by rw [Option.mem_def.1 h]⟩
    · cases h
  · rintro ⟨hal, rfl⟩
    rfl

instance (s : Mcu) (ev : McuEvent) : Decidable (FreshSync P s ev) :=
  decidable_of_iff (∀ env ∈ frameOf ev, ∀ m ∈ linkSyncOf P s env,
      acceptsTag P s.sharedSecret m = true → linkSyncNonce m ∉ s.derived)
    ⟨fun h hal env m hev => h env (mem_frameOf.2 ⟨hal, hev⟩) m, fun h env henv m =>
      let ⟨hal, hev⟩ := mem_frameOf.1 henv
      h hal env m hev⟩

/-- The key derivation is injective on the nonces of the run so far. -/
def KeysDistinct (s : Mcu) : Prop :=
  Set.InjOn (P.deriveSessionKey s.sharedSecret) {n | n ∈ s.derived}

/-- A synchronised MCU with a secret holds a key it derived. -/
def Keyed (s : Mcu) : Prop := s.sharedSecret ≠ [] → s.isSynchronized = true → s.sessionKey ∈ seenKeys P s

/-! ### The small steps on keys and counters -/

variable {P} {l : Label} {s t : Mcu}

theorem Micro.derived_subset (h : Micro P l s t) : s.derived ⊆ t.derived := by
  cases h with
  | quiet h => rw [h.derived]; exact List.Subset.refl _
  | derive n => exact List.subset_append_left _ _
  | _ => exact List.Subset.refl _

theorem Micro.seals_length (h : Micro P l s t) : s.seals.length ≤ t.seals.length := by
  cases h with
  | quiet h => rw [h.seals]
  | encrypt => simp [sealing]
  | _ => exact le_rfl

theorem step_derived_subset (ev : McuEvent) (s : Mcu) : s.derived ⊆ (step P ev s).derived :=
  (step_steps P s ev).invariant (I := fun t => s.derived ⊆ t.derived)
    (fun _ _ _ _ h hs => List.Subset.trans hs (Micro.derived_subset h)) (List.Subset.refl _)

theorem KeysDistinct.of_step {ev : McuEvent} (h : KeysDistinct P (step P ev s)) : KeysDistinct P s := by
  unfold KeysDistinct at h ⊢
  rw [step_sharedSecret] at h
  exact Set.InjOn.mono (fun n hn => step_derived_subset ev s hn) h

theorem seenKeys_installSession (n : Bytes) (s : Mcu) :
    seenKeys P (s.installSession P n) = insert (P.deriveSessionKey s.sharedSecret n) (seenKeys P s) := by
  ext k
  simp [seenKeys, installSession, or_and_right, exists_or, or_comm]

theorem Micro.keyed (h : Micro P l s t) (hs : Keyed P s) : Keyed P t := by
  intro hsec hsync
  cases h with
  | quiet h =>
    have := hs (h.sharedSecret ▸ hsec) (by unfold Mcu.isSynchronized at hsync ⊢; rw [← h.fsm]; exact hsync)
    unfold seenKeys at this ⊢
    rw [h.sessionKey, h.derived, h.sharedSecret]
    exact this
  | fsm hev => exact hs hsec (StateId.isSynchronized_onEvent hev hsync)
  | clear w => exact hs hsec (StateId.isSynchronized_onEvent w.event_ne hsync)
  | derive n => rw [seenKeys_installSession]; exact Set.mem_insert _ _
  | complete hkey => exact hkey.resolve_left hsec
  | _ => exact hs hsec hsync

theorem step_keyed (ev : McuEvent) (hs : Keyed P s) : Keyed P (step P ev s) :=
  (step_steps P s ev).invariant (fun _ _ _ _ h => Micro.keyed h) hs

/-- Nothing but an encryption or a new key moves the transmit side. -/
theorem Micro.txView_eq (h : Micro P l s t) (he : l ≠ .encrypt) (hd : ∀ n, l ≠ .derive n) :
    txView P t = txView P s := by
  cases h with
  | quiet h => simp only [txView, seenKeys, h.sessionKey, h.txNonceCounter, h.sharedSecret, h.derived, h.seals]
  | encrypt => exact absurd rfl he
  | derive => exact absurd rfl (hd _)
  | _ => rfl

/-- Nothing but an accepted counter or a new key moves the receive side. -/
theorem Micro.rxView_eq (h : Micro P l s t) (hc : ∀ c, l ≠ .counter c) (hd : ∀ n, l ≠ .derive n) :
    rxView P t = rxView P s := by
  cases h with
  | quiet h => simp only [rxView, seenKeys, h.sessionKey, h.rxNonceCounter, h.sharedSecret, h.derived, h.accepts]
  | counter => exact absurd rfl (hc _)
  | derive => exact absurd rfl (hd _)
  | _ => rfl

theorem txView_installSession (n : Bytes) (s : Mcu) :
    txView P (s.installSession P n) = (txView P s).rekey (P.deriveSessionKey s.sharedSecret n) := by
  simp only [txView, EpochLog.rekey, ← seenKeys_installSession]
  rfl

theorem rxView_installSession (n : Bytes) (s : Mcu) :
    rxView P (s.installSession P n) = (rxView P s).rekey (P.deriveSessionKey s.sharedSecret n) := by
  simp only [rxView, EpochLog.rekey, ← seenKeys_installSession]
  rfl

/-! ### One event -/

theorem EventLabel.derive_recv {ev : McuEvent} {n : Bytes} (h : EventLabel P s ev (.derive n)) :
    ∃ hal env m, ev = .recv hal (some env) ∧ linkSyncOf P s env = some m ∧ acceptsTag P s.sharedSecret m = true := by
  cases ev with
  | recv hal res =>
    cases res with
    | none => cases h
    | some env =>
      obtain ⟨m, hm, -, hacc, -⟩ := h
      exact ⟨hal, env, m, rfl, hm, hacc⟩
  | onAckTimeout => rcases h with h | ⟨-, h | h⟩ <;> cases h
  | enterSafeState => rcases h with h | h | h <;> cases h
  | onRxDedupe => cases h
  | onHandshakeTimeout => rcases h with ⟨-, h | h⟩ <;> cases h
  | _ => cases h

theorem EventLabel.counter_recv {ev : McuEvent} {c : UInt64} (h : EventLabel P s ev (.counter c)) :
    ∃ hal env plain, ev = .recv hal (some env) ∧ s.doEncrypt env.rawCommand = true ∧
      s.decryptFrame P env = some (c, plain) := by
  cases ev with
  | recv hal res =>
    cases res with
    | none => cases h
    | some env =>
      obtain ⟨plain, henc, hdec⟩ := h
      exact ⟨hal, env, plain, rfl, henc, hdec⟩
  | onAckTimeout => rcases h with h | ⟨-, h | h⟩ <;> cases h
  | enterSafeState => rcases h with h | h | h <;> cases h
  | onRxDedupe => cases h
  | onHandshakeTimeout => rcases h with ⟨-, h | h⟩ <;> cases h
  | _ => cases h

/-- A LINK_SYNC that derives a key is a system command, and one whose counter is accepted is not. -/
theorem EventLabel.not_derive_counter {ev : McuEvent} {n : Bytes} {c : UInt64} (hd : EventLabel P s ev (.derive n))
    (hc : EventLabel P s ev (.counter c)) : False := by
  obtain ⟨hal, env, m, rfl, hm, -⟩ := EventLabel.derive_recv hd
  obtain ⟨_, _, _, heq, henc, -⟩ := EventLabel.counter_recv hc
  cases heq
  rw [doEncrypt_system s (by rw [linkSyncOf_rawCommand hm]; decide)] at henc
  cases henc

/-- Either the event derives no key, or it is an accepted LINK_SYNC: then it derives keys from that one
nonce and neither encrypts nor accepts a counter. -/
theorem step_derive_cases {ev : McuEvent} (hfresh : FreshSync P s ev) :
    Steps (Micro P) (fun l => ∀ n, l ≠ .derive n) s (step P ev s) ∨
    ∃ n, n ∉ s.derived ∧ Steps (Micro P)
      (fun l => l ≠ .encrypt ∧ (∀ c, l ≠ .counter c) ∧ ∀ n', l = .derive n' → n' = n) s (step P ev s) := by
  by_cases h : ∃ hal env m, ev = .recv hal (some env) ∧ linkSyncOf P s env = some m ∧
      acceptsTag P s.sharedSecret m = true
  · obtain ⟨hal, env, m, rfl, hm, hacc⟩ := h
    refine .inr ⟨linkSyncNonce m, hfresh hal env m rfl hm hacc, (step_steps P s _).mono fun l hl => ?_⟩
    have hcmd := linkSyncOf_rawCommand hm
    refine ⟨by rintro rfl; exact hl.1 hcmd, ?_, ?_⟩
    · rintro c rfl
      obtain ⟨_, henc, -⟩ := hl
      rw [doEncrypt_system s (by rw [hcmd]; decide)] at henc
      cases henc
    · rintro n rfl
      obtain ⟨m', hm', -, -, rfl⟩ := hl
      rw [hm] at hm'
      cases hm'
      rfl
  · refine .inl ((step_steps P s ev).mono fun l hl n hn => h ?_)
    subst hn
    obtain ⟨hal, env, m, rfl, hm, hacc⟩ := EventLabel.derive_recv hl
    exact ⟨hal, env, m, rfl, hm, hacc⟩

/-- The second case of `step_derive_cases`, for a view that only a new key moves there: the whole event is
at most one change of key, to a key not held before. -/
theorem rekey_of_steps {view : Mcu → EpochLog Bytes} {n : Bytes} {Q : Label → Prop}
    (hview : ∀ {l s t}, Micro P l s t → Q l → (∀ n', l ≠ .derive n') → view t = view s)
    (hinstall : ∀ n s, view (installSession P n s) = (view s).rekey (P.deriveSessionKey s.sharedSecret n))
    (hseen : (view s).seen = seenKeys P s) (hQ : ∀ n', Q (.derive n') → n' = n) (hn : n ∉ s.derived)
    (hsteps : Steps (Micro P) Q s t) (hdist : KeysDistinct P t) :
    Relation.ReflTransGen EpochLog.Step (view s) (view t) := by
  have hinv := hsteps.invariant (I := fun u => s.derived ⊆ u.derived ∧ u.sharedSecret = s.sharedSecret ∧
      (view u = view s ∨ n ∈ u.derived ∧ view u = (view s).rekey (P.deriveSessionKey s.sharedSecret n)))
    (by
      rintro l u v hl h ⟨hsub, hsec, hu⟩
      refine ⟨List.Subset.trans hsub (Micro.derived_subset h), (Micro.sharedSecret P h).trans hsec, ?_⟩
      by_cases hd : ∀ n', l ≠ .derive n'
      · rw [hview h hl hd]
        exact hu.imp_right fun hu => ⟨Micro.derived_subset h hu.1, hu.2⟩
      · obtain ⟨n', rfl⟩ := not_forall_not.1 hd
        obtain rfl := hQ n' hl
        cases h with
        | derive =>
          refine .inr ⟨List.mem_append_right _ (by simp), ?_⟩
          rw [hinstall, hsec]
          rcases hu with hu | ⟨-, hu⟩
          · rw [hu]
          · rw [hu, EpochLog.rekey_rekey])
    ⟨List.Subset.refl _, rfl, .inl rfl⟩
  obtain ⟨hsub, hsec, hu | ⟨hmem, hu⟩⟩ := hinv
  · rw [hu]
  · rw [hu]
    refine .single (.rekey ?_)
    rw [hseen]
    rintro ⟨n', hn', heq⟩
    unfold KeysDistinct at hdist
    rw [hsec] at hdist
    exact hn (hdist hmem (hsub hn') heq ▸ hn')

end Mcu
end McuBridge
