import McuBridge.Mcu.EventSteps

/-! # Who can synchronise the firmware

The FSM becomes synchronised through the `complete` step of `_handleLinkSync` and through nothing else, and
with a shared secret that step needs `handshake_authenticate` to accept the tag. It accepts the truncated
HMAC of the nonce (`ValidTag`), and it accepts the empty tag. -/

namespace McuBridge
namespace Mcu
open Run
variable (P : Platform)

/-- The tag of `m` is the 16-byte truncated HMAC of its nonce under the handshake key. -/
def ValidTag (secret : Bytes) (m : LinkSync) : Prop :=
  m.tag.length = handshakeTagLength ∧ m.tag = P.handshakeTag secret (linkSyncNonce m)

instance (secret : Bytes) (m : LinkSync) : Decidable (ValidTag P secret m) :=
  inferInstanceAs (Decidable (_ ∧ _))

theorem acceptsTag_iff (secret : Bytes) (m : LinkSync) :
    acceptsTag P secret m = true ↔ m.tag = [] ∨ ValidTag P secret m := by
  unfold acceptsTag handshakeAuthenticate ValidTag Crypto.handshakeTag
  cases h : m.tag with
  | nil => simp
  | cons b bs =>
    simp only [List.isEmpty_cons, Bool.false_eq_true, if_false, reduceCtorEq, false_or]
    split
    case isTrue hlen => simp only [Bool.false_eq_true, false_iff]; exact fun h => hlen h.1
    case isFalse hlen =>
      rw [beq_iff_eq]
      exact ⟨fun h => ⟨not_not.1 hlen, h.symm⟩, fun h => h.2.symm⟩

/-- The event hands `_handleLinkSync` a message whose tag is empty. -/
def EmptyTagSync (s : Mcu) (ev : McuEvent) : Prop :=
  ∃ hal env m, ev = .recv hal (some env) ∧ linkSyncOf P s env = some m ∧ m.tag = []

/-- One step, in an MCU with secret `secret`: it enters a synchronised state only on a LINK_SYNC with a
valid tag, and a LINK_SYNC without one does not synchronise, derive a key or touch the counters. -/
structure SyncAuthentic (secret : Bytes) (s : Mcu) (ev : McuEvent) : Prop where
  enters : s.isSynchronized = false → (step P ev s).isSynchronized = true →
    ∃ hal env m, ev = .recv hal (some env) ∧ linkSyncOf P s env = some m ∧ ValidTag P secret m
  rejects : ∀ hal env, ev = .recv hal (some env) → env.rawCommand = Command.linkSync.toUnderlying →
    (∀ m, PbMessage.linkSync.read P env.payloadType = some m → ¬ ValidTag P secret m) →
    ((step P ev s).isSynchronized = true → s.isSynchronized = true) ∧
      (step P ev s).sessionKey = s.sessionKey ∧
      (step P ev s).txNonceCounter = s.txNonceCounter ∧ (step P ev s).rxNonceCounter = s.rxNonceCounter

/-! ### One step -/

theorem linkSyncOf_read {s : Mcu} {env : RpcEnvelope} {m : LinkSync} (h : linkSyncOf P s env = some m) :
    PbMessage.linkSync.read P env.payloadType = some m := by
  unfold linkSyncOf at h
  split at h
  · exact h
  · cases h

variable {P} in
theorem linkSyncOf_rawCommand {s : Mcu} {env : RpcEnvelope} {m : LinkSync} (h : linkSyncOf P s env = some m) :
    env.rawCommand = Command.linkSync.toUnderlying := by
  unfold linkSyncOf at h
  split at h
  case isTrue h' => exact h'.1
  case isFalse => cases h

/-- Without a `complete` step nothing synchronises. -/
theorem Micro.isSynchronized {l : Label} {s t : Mcu} (hl : l ≠ .complete) (h : Micro P l s t)
    (ht : t.isSynchronized = true) : s.isSynchronized = true := by
  cases h with
  | quiet h =>
    unfold Mcu.isSynchronized at ht ⊢
    rw [← h.fsm]
    exact ht
  | fsm hev => exact StateId.isSynchronized_onEvent hev ht
  | clear w => exact StateId.isSynchronized_onEvent w.event_ne ht
  | complete => exact absurd rfl hl
  | _ => exact ht

theorem Steps.isSynchronized {Q : Label → Prop} (hQ : ¬ Q .complete) {s t : Mcu} (h : Steps (Micro P) Q s t)
    (ht : t.isSynchronized = true) : s.isSynchronized = true := by
  induction h with
  | refl => exact ht
  | tail _ hl hstep ih => exact ih (Micro.isSynchronized P (fun hc => hQ (hc ▸ hl)) hstep ht)

theorem Micro.sharedSecret {l : Label} {s t : Mcu} (h : Micro P l s t) : t.sharedSecret = s.sharedSecret := by
  cases h with
  | quiet h => exact h.sharedSecret
  | _ => rfl

theorem step_sharedSecret (ev : McuEvent) (s : Mcu) : (step P ev s).sharedSecret = s.sharedSecret :=
  (step_steps P s ev).invariant (I := fun t => t.sharedSecret = s.sharedSecret)
    (fun _ _ _ _ h hs => (Micro.sharedSecret P h).trans hs) rfl

theorem boot_sharedSecret (secret : Bytes) (postOk : Bool) : (boot secret postOk).sharedSecret = secret.take 64 := by
  cases postOk <;> rfl

/-- Key and counters move only with an encryption, an accepted counter or a derived key. -/
theorem Micro.session_eq {l : Label} {s t : Mcu} (he : l ≠ .encrypt) (hc : ∀ c, l ≠ .counter c)
    (hd : ∀ n, l ≠ .derive n) (h : Micro P l s t) :
    t.sessionKey = s.sessionKey ∧ t.txNonceCounter = s.txNonceCounter ∧ t.rxNonceCounter = s.rxNonceCounter := by
  cases h with
  | quiet h => exact ⟨h.sessionKey, h.txNonceCounter, h.rxNonceCounter⟩
  | encrypt => exact absurd rfl he
  | counter => exact absurd rfl (hc _)
  | derive => exact absurd rfl (hd _)
  | _ => exact ⟨rfl, rfl, rfl⟩

variable {P} {s : Mcu} {secret : Bytes}

theorem step_enters {ev : McuEvent} (hsec : s.sharedSecret = secret) (hne : secret ≠ [])
    (hev : ¬ EmptyTagSync P s ev) (hs : s.isSynchronized = false) (ht : (step P ev s).isSynchronized = true) :
    ∃ hal env m, ev = .recv hal (some env) ∧ linkSyncOf P s env = some m ∧ ValidTag P secret m := by
  by_contra hno
  have hcomplete : ¬ EventLabel P s ev .complete := by
    intro hl
    cases ev with
    | recv hal res =>
      cases res with
      | none => cases hl
      | some env =>
        obtain ⟨m, hm, hacc⟩ := hl
        have hacc : acceptsTag P secret m = true := hsec ▸ hacc.resolve_left (hsec ▸ hne)
        rcases (acceptsTag_iff P secret m).1 hacc with hnil | hvalid
        · exact hev ⟨hal, env, m, rfl, hm, hnil⟩
        · exact hno ⟨hal, env, m, rfl, hm, hvalid⟩
    | onAckTimeout => rcases hl with h | ⟨-, h | h⟩ <;> cases h
    | enterSafeState => rcases hl with h | h | h <;> cases h
    | onRxDedupe => cases hl
    | onHandshakeTimeout => rcases hl with ⟨-, h | h⟩ <;> cases h
    | _ => exact hl
  rw [Steps.isSynchronized P hcomplete (step_steps P s ev) ht] at hs
  cases hs

theorem step_rejects {hal : Hal} {env : RpcEnvelope} (hsec : s.sharedSecret = secret) (hne : secret ≠ [])
    (hev : ¬ EmptyTagSync P s (.recv hal (some env))) (hcmd : env.rawCommand = Command.linkSync.toUnderlying)
    (hbad : ∀ m, PbMessage.linkSync.read P env.payloadType = some m → ¬ ValidTag P secret m) :
    ((step P (.recv hal (some env)) s).isSynchronized = true → s.isSynchronized = true) ∧
      (step P (.recv hal (some env)) s).sessionKey = s.sessionKey ∧
      (step P (.recv hal (some env)) s).txNonceCounter = s.txNonceCounter ∧
      (step P (.recv hal (some env)) s).rxNonceCounter = s.rxNonceCounter := by
  -- no message of this frame is accepted: not with a valid tag, and not with an empty one
  have hacc : ∀ m, linkSyncOf P s env = some m → acceptsTag P secret m = false := by
    intro m hm
    rw [Bool.eq_false_iff, ne_eq, acceptsTag_iff]
    rintro (hnil | hvalid)
    · exact hev ⟨hal, env, m, rfl, hm, hnil⟩
    · exact hbad m (linkSyncOf_read P hm) hvalid
  have hno : ∀ m, linkSyncOf P s env = some m → acceptsTag P s.sharedSecret m = true → False := by
    intro m hm h
    rw [hsec, hacc m hm] at h
    cases h
  have hsteps := step_steps P s (.recv hal (some env))
  constructor
  · refine Steps.isSynchronized P ?_ hsteps
    rintro ⟨m, hm, hs | h⟩
    · exact hne (hsec ▸ hs)
    · exact hno m hm h
  · refine hsteps.invariant (I := fun t => t.sessionKey = s.sessionKey ∧
      t.txNonceCounter = s.txNonceCounter ∧ t.rxNonceCounter = s.rxNonceCounter) ?_ ⟨rfl, rfl, rfl⟩
    rintro l t u hl h ⟨h₁, h₂, h₃⟩
    obtain ⟨e₁, e₂, e₃⟩ := Micro.session_eq P (by rintro rfl; exact hl.1 hcmd)
      (by
        rintro c rfl
        obtain ⟨_, henc, -⟩ := hl
        rw [doEncrypt_system s (by rw [hcmd]; decide)] at henc
        cases henc)
      (by
        rintro n rfl
        obtain ⟨m, hm, -, h, -⟩ := hl
        exact hno m hm h) h
    exact ⟨e₁.trans h₁, e₂.trans h₂, e₃.trans h₃⟩

/-! ### Whole runs -/

/-- In every run of an MCU with a secret in which no LINK_SYNC with an empty tag is handled, only a
LINK_SYNC with a valid tag synchronises. -/
theorem synchronizes_only_authenticated (P : Platform) (secret : Bytes) (postOk : Bool) (hsecret : secret ≠ [])
    (evs : List McuEvent)
    (h : Along (step P) (fun s ev => ¬ EmptyTagSync P s ev) (boot secret postOk) evs) :
    Along (step P) (SyncAuthentic P (secret.take 64)) (boot secret postOk) evs := by
  have hne : secret.take 64 ≠ [] := by
    cases secret with
    | nil => exact absurd rfl hsecret
    | cons => simp
  refine h.of_invariant (I := fun s => s.sharedSecret = secret.take 64) ?_ ?_ (boot_sharedSecret secret postOk)
  · exact fun s ev hs _ => (step_sharedSecret P ev s).trans hs
  · refine fun s ev hs hev => ⟨step_enters hs hne hev, ?_⟩
    rintro hal env rfl hcmd hbad
    exact step_rejects hs hne hev hcmd hbad

/-- A LINK_SYNC frame with the given sequence id. -/
def linkSyncFrame (seq : UInt32) (m : LinkSync) : RpcEnvelope :=
  ⟨protocolVersion, Command.linkSync.toUnderlying.toUInt32, seq, [], .linkSync m⟩

/-- The nonce of the runs below. -/
def sampleNonce : Bytes := [1, 2, 3, 4, 5, 6, 7, 8, 9, 10, 11, 12, 13, 14, 15, 16]

theorem synchronizes_only_authenticated_sample :
    Along (step .sample) (SyncAuthentic .sample [7]) (boot [7] true)
      [.recv .sample (some (linkSyncFrame 1 ⟨sampleNonce, Platform.sample.handshakeTag [7] sampleNonce⟩))] ∧
    (step .sample (.recv .sample
      (some (linkSyncFrame 1 ⟨sampleNonce, Platform.sample.handshakeTag [7] sampleNonce⟩)))
        (boot [7] true)).isSynchronized = true := by
  refine ⟨synchronizes_only_authenticated .sample [7] true (by decide) _ ⟨?_, trivial⟩, by decide +kernel⟩
  rintro ⟨hal, env, m, hev, hm, hnil⟩
  cases hev
  have hm := linkSyncOf_read _ hm
  cases hm
  exact absurd hnil (by decide)

/-- The empty tag synchronises an MCU that has a secret. -/
theorem empty_tag_synchronizes :
    ¬ ∀ (P : Platform) (secret : Bytes) (postOk : Bool), secret ≠ [] → ∀ evs : List McuEvent,
      Along (step P) (SyncAuthentic P (secret.take 64)) (boot secret postOk) evs := by
  intro h
  obtain ⟨⟨henters, -⟩, -⟩ := h .sample [7] true (by decide)
    [.recv .sample (some (linkSyncFrame 1 ⟨sampleNonce, []⟩))]
  obtain ⟨hal, env, m, hev, hm, hvalid⟩ := henters (by decide) (by decide +kernel)
  cases hev
  have hm := linkSyncOf_read _ hm
  cases hm
  exact absurd hvalid.1 (by decide)

end Mcu
end McuBridge
