import McuBridge.Daemon.LinkSteps

/-! # The handshake at its awaits (`services/handshake.py`)

`Link` runs an attempt in three events and `handle_link_sync_resp` in one. Here both are cut at every await, and the
attempt, the handler and the connection's callbacks go on in any order. What a send puts on the wire in the meantime is
not part of the state: a send only takes its time and tells whether it succeeded. -/

namespace McuBridge
namespace Daemon

/-- Where `_synchronize_attempt` is suspended: LINK_RESET, the two sleeps, LINK_SYNC, the wait for the confirmation, and
the publication of a failure. `nonce` is its local variable. -/
inductive AttemptAt where
  | resetting (nonce : Bytes)
  | stabilizing (nonce : Bytes)
  | settling (nonce : Bytes)
  | syncing (nonce : Bytes)
  | confirming (nonce : Bytes)
  | failing
  deriving DecidableEq

/-- Where `handle_link_sync_resp` is suspended: the MALFORMED acknowledgement, after which it may clear the
expectations, and the publications of a failure and of a success. -/
inductive RespAt where
  | refusing (clears : Bool)
  | failing
  | succeeding
  deriving DecidableEq

/-- A response that was accepted, with the number of the attempt it answers. -/
structure Acceptance where
  attempt : Nat
  resp : LinkSync
  deriving DecidableEq

/-- `generated` and `acceptances` are records: the nonces of all attempts, and the accepted responses. -/
structure HandshakeTasks where
  link : Link
  attempt : Option AttemptAt := none
  resp : Option RespAt := none
  generated : List Bytes := []
  acceptances : List Acceptance := []

inductive HandshakeEvent where
  /-- `synchronize` starts an attempt with this nonce. -/
  | begin (nonce : Bytes)
  /-- The attempt goes on; `sent` is what its send has returned. The wait for the confirmation has ended by the event,
  or it has timed out. -/
  | attempt (sent timedOut : Bool)
  /-- The await of the attempt raises, or it is cancelled. -/
  | dropAttempt
  /-- `synchronize` gives up. -/
  | retryError
  | resp (io : Io) (payload : Payload)
  /-- The handler goes on. -/
  | handler
  /-- The await of the handler raises, or the read loop is cancelled. -/
  | dropHandler
  | connect
  | disconnect

namespace HandshakeTasks
variable (P : Platform)

/-- `_attempt` and `_synchronize_attempt` up to the first await. -/
def begin (nonce : Bytes) (d : Link) : Link :=
  let d := (d.setFsmState .unsynchronized).setFsmState .resetting
  { d with
    linkSyncEvent := false
    linkHandshakeNonce := some nonce
    linkExpectedTag := some (Link.calculateHandshakeTag P d.sharedSecret nonce) }

/-- `clear_handshake_expectations`, then `handle_handshake_failure` up to its publication. -/
def abandon (d : Link) : Link := d.clearHandshakeExpectations.handleHandshakeFailure

/-- `_synchronize_attempt` behind the wait. -/
def finish (confirmed : Bool) (nonce : Bytes) (d : Link) : Link × Option AttemptAt :=
  if confirmed then
    (if d.fsmState ≠ .synchronized ∧ d.fsmState ≠ .fault then d.setFsmState .synchronized else d, none)
  else if d.fsmState = .fault then (d, none)
  else if d.linkHandshakeNonce = some nonce then (abandon d, some .failing)
  else (d.clearHandshakeExpectations, none)

/-- `_synchronize_attempt` from one await to the next. -/
def resume (sent timedOut : Bool) (d : Link) : AttemptAt → Link × Option AttemptAt
  | .resetting nonce => if sent then (d, some (.stabilizing nonce)) else (abandon d, some .failing)
  | .stabilizing nonce => (d.setFsmState .syncing, some (.settling nonce))
  | .settling nonce => (d, some (.syncing nonce))
  | .syncing nonce =>
    if !sent then (abandon d, some .failing)
    else if d.fsmState = .fault then (d, none)
    else
      let d := if d.fsmState = .syncing then d.setFsmState .confirming else d
      -- a session that is there already is not waited for
      if d.isSynchronized then finish true nonce d else (d, some (.confirming nonce))
  | .confirming nonce => finish (!timedOut && d.isSynchronized) nonce d
  | .failing => (d, none)

/-- What `handle_link_sync_resp` does with a response it accepts, up to the publication. -/
def accept (m : LinkSync) (d : Link) : Link :=
  let d :=
    if d.sharedSecret.isEmpty then d
    else { d with linkSessionKey := some (P.deriveSessionKey d.sharedSecret m.nonce) }
  ((d.setFsmState .synchronized).clearHandshakeExpectations).handleHandshakeSuccess

/-- `handle_link_sync_resp` up to its first await, with the response it has accepted. -/
def respond (io : Io) (payload : Payload) (d : Link) : Link × Option RespAt × Option LinkSync :=
  match d.linkHandshakeNonce with
  | none => (d, some (.refusing false), none)
  | some expected =>
    if io.throttled then (d, some (.refusing false), none)
    else
      match Link.readLinkSync io.host payload with
      | none =>
        match payload with
        | .message _ => (d, none, none)
        | .bytes _ => (d, some (.refusing true), none)
      | some m =>
        if m.nonce ≠ expected then (d, none, none)
        else if d.linkExpectedTag = none ∨ m.tag.length ≠ aeadTagSize ∨
            m.tag ≠ Link.calculateHandshakeTag P d.sharedSecret m.nonce then (d, some (.refusing true), none)
        else (accept P m d, some .succeeding, some m)

/-- `handle_link_sync_resp` from one await to the next. -/
def resumeResp (d : Link) : RespAt → Link × Option RespAt
  | .refusing clears => (if clears then abandon d else d.handleHandshakeFailure, some .failing)
  | .failing => (d, none)
  | .succeeding => (d, none)

/-- There is one attempt at a time, and the read loop waits for its handler. An accepted response answers the latest
attempt: only its nonce can be pending. -/
def step : HandshakeEvent → HandshakeTasks → HandshakeTasks
  | .begin nonce, s =>
    if s.attempt.isSome || nonce.length ≠ handshakeNonceLength then s
    else
      { s with
        link := begin P nonce s.link
        attempt := some (.resetting nonce)
        generated := s.generated ++ [nonce] }
  | .attempt sent timedOut, s =>
    match s.attempt with
    | some a =>
      let r := resume sent timedOut s.link a
      { s with link := r.1, attempt := r.2 }
    | none => s
  | .dropAttempt, s => { s with attempt := none }
  | .retryError, s => if s.attempt.isSome then s else { s with link := s.link.setFsmState .fault }
  | .resp io payload, s =>
    if s.resp.isSome then s
    else
      let r := respond P io payload s.link
      { s with
        link := r.1
        resp := r.2.1
        acceptances := s.acceptances ++ (r.2.2.map fun m => ⟨s.generated.length - 1, m⟩).toList }
  | .handler, s =>
    match s.resp with
    | some a =>
      let r := resumeResp s.link a
      { s with link := r.1, resp := r.2 }
    | none => s
  | .dropHandler, s => { s with resp := none }
  | .connect, s => { s with link := s.link.connect }
  | .disconnect, s => { s with link := s.link.disconnect }

/-- Before the first connection. -/
def start (secret : Bytes) (timing : HandshakeConfig) (maxAttempts : Nat) (service : Service) : HandshakeTasks where
  link := { sharedSecret := secret, timing := timing, maxAttempts := maxAttempts, service := service }

/-! ### Statement -/

/-- `key`: the key in use is that of the nonce accepted last. `accepted`: the nonce of every accepted response was
generated by the attempt it counts for, and the response carries the tag for it. `once`: an attempt has one accepted
response at most. -/
structure Sound (s : HandshakeTasks) : Prop where
  fsm : s.link.isSynchronized = true → s.link.fsmState = .synchronized
  secret : s.link.isSynchronized = true → s.link.sharedSecret ≠ []
  key : s.link.isSynchronized = true → ∃ a, s.acceptances.getLast? = some a ∧
    s.link.linkSessionKey = some (P.deriveSessionKey s.link.sharedSecret a.resp.nonce)
  accepted : ∀ a ∈ s.acceptances, s.generated[a.attempt]? = some a.resp.nonce ∧ a.resp.tag.length = aeadTagSize ∧
    a.resp.tag = Link.calculateHandshakeTag P s.link.sharedSecret a.resp.nonce
  once : (s.acceptances.map Acceptance.attempt).Nodup

/-! ### The link's part of the invariant -/

/-- `pending`: a pending nonce is that of the latest attempt, which has no accepted response yet. -/
structure Agrees (generated : List Bytes) (acceptances : List Acceptance) (d : Link) : Prop where
  fsm : d.isSynchronized = true → d.fsmState = .synchronized
  key : d.isSynchronized = true → ∃ a, acceptances.getLast? = some a ∧
    d.linkSessionKey = some (P.deriveSessionKey d.sharedSecret a.resp.nonce)
  accepted : ∀ a ∈ acceptances, generated[a.attempt]? = some a.resp.nonce ∧ a.resp.tag.length = aeadTagSize ∧
    a.resp.tag = Link.calculateHandshakeTag P d.sharedSecret a.resp.nonce
  once : (acceptances.map Acceptance.attempt).Nodup
  pending : ∀ n ∈ d.linkHandshakeNonce, generated[generated.length - 1]? = some n ∧
    ∀ a ∈ acceptances, a.attempt ≠ generated.length - 1

variable {P} {generated : List Bytes} {acceptances : List Acceptance} {d t : Link}

/-- A tag of 16 bytes needs a secret. -/
theorem Agrees.secret (h : Agrees P generated acceptances d) (hs : d.isSynchronized = true) : d.sharedSecret ≠ [] := by
  obtain ⟨a, ha, -⟩ := h.key hs
  obtain ⟨-, hlen, htag⟩ := h.accepted a (List.mem_of_getLast? ha)
  intro hnil
  rw [htag, hnil, Link.calculateHandshakeTag_nil] at hlen
  exact absurd hlen (by decide)

/-- The session may end and the pending nonce be dropped; secret, key and records stay. -/
theorem Agrees.shrink (h : Agrees P generated acceptances d) (hsecret : t.sharedSecret = d.sharedSecret)
    (hkey : t.linkSessionKey = d.linkSessionKey) (hnonce : ∀ n ∈ t.linkHandshakeNonce, n ∈ d.linkHandshakeNonce)
    (hsync : t.isSynchronized = true → d.isSynchronized = true ∧ t.fsmState = .synchronized) :
    Agrees P generated acceptances t := by
  refine ⟨fun hs => (hsync hs).2, fun hs => ?_, ?_, h.once, fun n hn => h.pending n (hnonce n hn)⟩
  · rw [hkey, hsecret]
    exact h.key (hsync hs).1
  · rw [hsecret]
    exact h.accepted

/-- `_set_fsm_state` takes the link out of a session together with the FSM. -/
theorem Agrees.setFsmState (h : Agrees P generated acceptances d) (new : HandshakeState)
    (hnew : new ≠ .synchronized) : Agrees P generated acceptances (d.setFsmState new) := by
  unfold Link.setFsmState
  split
  case isTrue => exact h
  case isFalse hne =>
    refine h.shrink rfl rfl (fun _ hn => hn) fun hs => ?_
    have hstate : (if d.fsmState = .synchronized then LinkState.connected else d.state) = .synchronized := by
      simpa [Link.isSynchronized, hnew] using hs
    split at hstate
    case isTrue => cases hstate
    case isFalse hfsm => exact absurd (h.fsm (by rw [Link.isSynchronized, hstate]; rfl)) hfsm

theorem Agrees.clear (h : Agrees P generated acceptances d) :
    Agrees P generated acceptances d.clearHandshakeExpectations :=
  h.shrink rfl rfl nofun fun hs => ⟨hs, h.fsm hs⟩

theorem Agrees.handleHandshakeFailure (h : Agrees P generated acceptances d) :
    Agrees P generated acceptances d.handleHandshakeFailure :=
  (h.setFsmState .fault nofun).shrink rfl rfl (fun _ hn => hn) nofun

theorem Agrees.abandon (h : Agrees P generated acceptances d) : Agrees P generated acceptances (abandon d) :=
  h.clear.handleHandshakeFailure

/-! ### The attempt -/

theorem Agrees.begin (h : Agrees P generated acceptances d) (nonce : Bytes) :
    Agrees P (generated ++ [nonce]) acceptances (begin P nonce d) := by
  have hreset := (h.setFsmState .unsynchronized nofun).setFsmState .resetting nofun
  refine ⟨hreset.fsm, hreset.key, fun a ha => ?_, h.once, ?_⟩
  · obtain ⟨hnonce, htag⟩ := hreset.accepted a ha
    refine ⟨?_, htag⟩
    rw [List.getElem?_append_left (List.getElem?_eq_some_iff.1 hnonce).1]
    exact hnonce
  · rintro n ⟨⟩
    rw [List.length_append, List.length_singleton, Nat.add_sub_cancel]
    refine ⟨List.getElem?_concat_length, fun a ha hlast => ?_⟩
    obtain ⟨hlt, -⟩ := List.getElem?_eq_some_iff.1 (hreset.accepted a ha).1
    exact absurd hlt (by omega)

theorem Agrees.finish (h : Agrees P generated acceptances d) {confirmed : Bool}
    (hc : confirmed = true → d.isSynchronized = true) (nonce : Bytes) :
    Agrees P generated acceptances (finish confirmed nonce d).1 := by
  unfold HandshakeTasks.finish
  split
  case isTrue hconf =>
    -- the transition for an implicit confirmation is never taken
    rw [if_neg fun hfsm => hfsm.1 (h.fsm (hc hconf))]
    exact h
  split
  · exact h
  split
  · exact h.abandon
  · exact h.clear

/-- What is left of an attempt behind LINK_SYNC. -/
theorem Agrees.resume_syncing (h : Agrees P generated acceptances d) (sent timedOut : Bool) (nonce : Bytes) :
    Agrees P generated acceptances (resume sent timedOut d (.syncing nonce)).1 := by
  have hnext : Agrees P generated acceptances (if d.fsmState = .syncing then d.setFsmState .confirming else d) := by
    split
    · exact h.setFsmState _ nofun
    · exact h
  simp only [HandshakeTasks.resume]
  split
  · exact h.abandon
  split
  · exact h
  generalize (if d.fsmState = .syncing then d.setFsmState .confirming else d) = t at hnext ⊢
  split
  case isTrue hs => exact hnext.finish (fun _ => hs) nonce
  case isFalse => exact hnext

theorem Agrees.resume (h : Agrees P generated acceptances d) (sent timedOut : Bool) (a : AttemptAt) :
    Agrees P generated acceptances (resume sent timedOut d a).1 := by
  cases a with
  | resetting nonce =>
    simp only [HandshakeTasks.resume]
    split
    · exact h
    · exact h.abandon
  | stabilizing nonce => exact h.setFsmState _ nofun
  | settling nonce => exact h
  | syncing nonce => exact h.resume_syncing sent timedOut nonce
  | confirming nonce => exact h.finish (fun hc => (Bool.and_eq_true_iff.1 hc).2) nonce
  | failing => exact h

/-! ### The response handler -/

/-- A response leaves the link alone, or it is accepted as the answer to the pending nonce. -/
theorem respond_cases (P : Platform) (io : Io) (payload : Payload) (d : Link) :
    ((respond P io payload d).1 = d ∧ (respond P io payload d).2.2 = none) ∨
      ∃ m, (respond P io payload d).1 = accept P m d ∧ (respond P io payload d).2.2 = some m ∧
        d.linkHandshakeNonce = some m.nonce ∧ m.tag.length = aeadTagSize ∧
        m.tag = Link.calculateHandshakeTag P d.sharedSecret m.nonce := by
  unfold respond
  split
  · exact .inl ⟨rfl, rfl⟩
  case h_2 expected hexp =>
    split
    · exact .inl ⟨rfl, rfl⟩
    split
    · split <;> exact .inl ⟨rfl, rfl⟩
    case h_2 m hread =>
      split
      · exact .inl ⟨rfl, rfl⟩
      case isFalse hnonce =>
        split
        · exact .inl ⟨rfl, rfl⟩
        case isFalse hbad =>
          simp only [not_or, not_not] at hbad
          exact .inr ⟨m, rfl, rfl, not_not.1 hnonce ▸ hexp, hbad.2⟩

theorem accept_eq (m : LinkSync) (hsecret : d.sharedSecret ≠ []) :
    (accept P m d).sharedSecret = d.sharedSecret ∧ (accept P m d).fsmState = .synchronized ∧
      (accept P m d).linkHandshakeNonce = none ∧
      (accept P m d).linkSessionKey = some (P.deriveSessionKey d.sharedSecret m.nonce) := by
  have hempty : d.sharedSecret.isEmpty = false := by simpa using hsecret
  unfold accept Link.setFsmState
  rw [hempty, if_neg (by simp)]
  dsimp only
  split
  case isTrue hfsm => exact ⟨rfl, hfsm, rfl, rfl⟩
  case isFalse => exact ⟨rfl, rfl, rfl, rfl⟩

/-- The key becomes that of the latest attempt's nonce, and the nonce is pending no longer. -/
theorem Agrees.accept (h : Agrees P generated acceptances d) {m : LinkSync}
    (hnonce : d.linkHandshakeNonce = some m.nonce)
    (hlen : m.tag.length = aeadTagSize) (htag : m.tag = Link.calculateHandshakeTag P d.sharedSecret m.nonce) :
    Agrees P generated (acceptances ++ [⟨generated.length - 1, m⟩]) (accept P m d) := by
  have hsecret : d.sharedSecret ≠ [] := by
    intro hnil
    rw [htag, hnil, Link.calculateHandshakeTag_nil] at hlen
    exact absurd hlen (by decide)
  obtain ⟨hs, hfsm, hnone, hkey⟩ := accept_eq (P := P) m hsecret
  obtain ⟨hlatest, hfresh⟩ := h.pending m.nonce hnonce
  refine ⟨fun _ => hfsm, fun _ => ⟨⟨generated.length - 1, m⟩, List.getLast?_concat, by rw [hkey, hs]⟩, ?_, ?_, ?_⟩
  · intro a ha
    rw [hs]
    rcases List.mem_append.1 ha with ha | ha
    · exact h.accepted a ha
    · rw [List.mem_singleton.1 ha]
      exact ⟨hlatest, hlen, htag⟩
  · rw [List.map_append, List.map_singleton]
    refine List.nodup_append.2 ⟨h.once, List.nodup_singleton _, ?_⟩
    intro i hi j hj
    obtain ⟨a, ha, rfl⟩ := List.mem_map.1 hi
    rw [List.mem_singleton.1 hj]
    exact hfresh a ha
  · rw [hnone]
    exact nofun

theorem Agrees.resumeResp (h : Agrees P generated acceptances d) (a : RespAt) :
    Agrees P generated acceptances (resumeResp d a).1 := by
  cases a with
  | refusing clears =>
    simp only [HandshakeTasks.resumeResp]
    split
    · exact h.abandon
    · exact h.handleHandshakeFailure
  | failing => exact h
  | succeeding => exact h

/-! ### Whole runs -/

theorem step_agrees (s : HandshakeTasks) (e : HandshakeEvent) (h : Agrees P s.generated s.acceptances s.link) :
    Agrees P (step P e s).generated (step P e s).acceptances (step P e s).link := by
  cases e with
  | begin nonce =>
    simp only [HandshakeTasks.step]
    split
    · exact h
    · exact h.begin nonce
  | attempt sent timedOut =>
    simp only [HandshakeTasks.step]
    split
    · exact h.resume sent timedOut _
    · exact h
  | retryError =>
    simp only [HandshakeTasks.step]
    split
    · exact h
    · exact h.setFsmState _ nofun
  | resp io payload =>
    simp only [HandshakeTasks.step]
    split
    · exact h
    obtain ⟨hlink, hnone⟩ | ⟨m, hlink, hsome, hnonce, hlen, htag⟩ := respond_cases P io payload s.link
    · rw [hlink, hnone, Option.map_none, Option.toList_none, List.append_nil]
      exact h
    · rw [hlink, hsome]
      exact h.accept hnonce hlen htag
  | handler =>
    simp only [HandshakeTasks.step]
    split
    · exact h.resumeResp _
    · exact h
  | dropAttempt => exact h
  | dropHandler => exact h
  | connect => exact h.shrink rfl rfl (fun _ hn => hn) nofun
  | disconnect => exact h.shrink rfl rfl nofun nofun

theorem start_agrees (P : Platform) (secret : Bytes) (timing : HandshakeConfig) (maxAttempts : Nat)
    (service : Service) :
    Agrees P (start secret timing maxAttempts service).generated (start secret timing maxAttempts service).acceptances
      (start secret timing maxAttempts service).link :=
  ⟨nofun, nofun, nofun, .nil, nofun⟩

/-- In every state that attempts, responses, failures, timeouts, connects and disconnects lead to. -/
theorem handshake_sound (P : Platform) (secret : Bytes) (timing : HandshakeConfig) (maxAttempts : Nat)
    (service : Service) (es : List HandshakeEvent) : Sound P (Run.run (step P) (start secret timing maxAttempts service) es) := by
  have h := Run.run_invariant (I := fun s : HandshakeTasks => Agrees P s.generated s.acceptances s.link) step_agrees
    (start_agrees P secret timing maxAttempts service) es
  exact ⟨h.fsm, h.secret, h.key, h.accepted, h.once⟩

/-- The first attempt fails, and its answer comes too late; that of the second comes before `send` has returned. -/
example :
    let nonce (b : UInt8) : Bytes := List.replicate handshakeNonceLength b
    let resp (b : UInt8) : HandshakeEvent :=
      .resp .sample (.message (.linkSync ⟨nonce b, Link.calculateHandshakeTag .sample [7] (nonce b)⟩))
    let reset : List HandshakeEvent := [.attempt true false, .attempt false false, .attempt false false]
    let s := Run.run (step .sample) (start [7] ⟨200, 5, 5000⟩ 3 (.sample []))
      ([.connect, .begin (nonce 1)] ++ reset ++ [.attempt false false, .handler, .attempt false false, .begin (nonce 2),
        resp 1] ++ reset ++ [resp 2, .attempt true false, .handler])
    s.link.isSynchronized = true ∧ s.link.fsmState = .synchronized ∧ s.attempt = none ∧
      s.acceptances.map Acceptance.attempt = [1] := by decide +kernel

end HandshakeTasks
end Daemon
end McuBridge
