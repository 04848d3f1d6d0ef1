import McuBridge.Daemon.Freshness
import McuBridge.Daemon.HandshakeTasks

/-! # The events of the link as runs of the handshake's tasks

`Link` runs everything between two of its events without a pause. Each event does to the handshake what a run of
`HandshakeTasks` does, so what holds with the tasks cut at every await holds of the link. -/

namespace McuBridge
namespace Daemon

namespace Link
variable {d t u : Link}

/-- The fields of the handshake are the same in `t`. -/
structure SameHandshake (d t : Link) : Prop where
  sharedSecret : t.sharedSecret = d.sharedSecret
  state : t.state = d.state
  linkSyncEvent : t.linkSyncEvent = d.linkSyncEvent
  fsmState : t.fsmState = d.fsmState
  linkHandshakeNonce : t.linkHandshakeNonce = d.linkHandshakeNonce
  linkExpectedTag : t.linkExpectedTag = d.linkExpectedTag
  linkSessionKey : t.linkSessionKey = d.linkSessionKey

namespace SameHandshake

theorem refl (d : Link) : SameHandshake d d := ⟨rfl, rfl, rfl, rfl, rfl, rfl, rfl⟩

theorem symm (h : SameHandshake d t) : SameHandshake t d :=
  ⟨h.sharedSecret.symm, h.state.symm, h.linkSyncEvent.symm, h.fsmState.symm, h.linkHandshakeNonce.symm,
    h.linkExpectedTag.symm, h.linkSessionKey.symm⟩

theorem trans (h : SameHandshake d t) (h' : SameHandshake t u) : SameHandshake d u :=
  ⟨h'.sharedSecret.trans h.sharedSecret, h'.state.trans h.state, h'.linkSyncEvent.trans h.linkSyncEvent,
    h'.fsmState.trans h.fsmState, h'.linkHandshakeNonce.trans h.linkHandshakeNonce,
    h'.linkExpectedTag.trans h.linkExpectedTag, h'.linkSessionKey.trans h.linkSessionKey⟩

theorem isSynchronized (h : SameHandshake d t) : t.isSynchronized = d.isSynchronized := by
  unfold Link.isSynchronized
  rw [h.state]

/-! ### What the handshake does to both -/

theorem setFsmState (h : SameHandshake d t) (new : HandshakeState) :
    SameHandshake (d.setFsmState new) (t.setFsmState new) := by
  unfold Link.setFsmState
  rw [h.fsmState, h.state, h.linkSyncEvent]
  split
  · exact h
  · exact ⟨h.sharedSecret, rfl, rfl, rfl, h.linkHandshakeNonce, h.linkExpectedTag, h.linkSessionKey⟩

theorem clear (h : SameHandshake d t) : SameHandshake d.clearHandshakeExpectations t.clearHandshakeExpectations :=
  ⟨h.sharedSecret, h.state, h.linkSyncEvent, h.fsmState, rfl, rfl, h.linkSessionKey⟩

theorem failure (h : SameHandshake d t) : SameHandshake d.handleHandshakeFailure t.handleHandshakeFailure :=
  have hf := h.setFsmState .fault
  ⟨hf.sharedSecret, rfl, hf.linkSyncEvent, hf.fsmState, hf.linkHandshakeNonce, hf.linkExpectedTag, hf.linkSessionKey⟩

theorem abandon (h : SameHandshake d t) :
    SameHandshake d.clearHandshakeExpectations.handleHandshakeFailure (HandshakeTasks.abandon t) :=
  h.clear.failure

theorem success (h : SameHandshake d t) : SameHandshake d.handleHandshakeSuccess t.handleHandshakeSuccess :=
  ⟨h.sharedSecret, rfl, rfl, h.fsmState, h.linkHandshakeNonce, h.linkExpectedTag, h.linkSessionKey⟩

theorem withAttempt (h : SameHandshake d t) (a : Option Attempt) : SameHandshake { d with attempt := a } t :=
  ⟨h.sharedSecret, h.state, h.linkSyncEvent, h.fsmState, h.linkHandshakeNonce, h.linkExpectedTag, h.linkSessionKey⟩

theorem disconnect (h : SameHandshake d t) : SameHandshake d.disconnect t.disconnect :=
  ⟨h.sharedSecret, rfl, rfl, h.fsmState, rfl, rfl, h.linkSessionKey⟩

end SameHandshake

/-! ### What leaves the handshake alone -/

/-- Nothing of the handshake is changed, and no response accepted. -/
structure Keeps (d t : Link) : Prop extends SameHandshake d t where
  attempt : t.attempt = d.attempt
  accepted : t.accepted = d.accepted

namespace Keeps
variable (P : Platform) (random : Nat → UInt32)

theorem refl (d : Link) : Keeps d d := ⟨.refl d, rfl, rfl⟩

theorem trans (h : Keeps d t) (h' : Keeps t u) : Keeps d u :=
  ⟨h.toSameHandshake.trans h'.toSameHandshake, h'.attempt.trans h.attempt, h'.accepted.trans h.accepted⟩

theorem sendRaw (writes : Bool) (cmd : UInt16) (payload : Payload) (seq : Option UInt32) (ticket : Option Nat)
    (d : Link) : Keeps d (d.sendRaw P random writes cmd payload seq ticket).1 := by
  obtain ⟨_, _, _, _, h, -⟩ := sendRaw_frame P random d writes cmd payload seq ticket
  rw [h]
  exact ⟨⟨rfl, rfl, rfl, rfl, rfl, rfl, rfl⟩, rfl, rfl⟩

theorem acknowledge (writes : Bool) (cmd seq : UInt32) (status : Status) (d : Link) :
    Keeps d (d.acknowledge P random writes cmd seq status) := .sendRaw ..

theorem finish (c : Call) (r : CallResult) (d : Link) : Keeps d (d.finish c r) :=
  ⟨⟨rfl, rfl, rfl, rfl, rfl, rfl, rfl⟩, rfl, rfl⟩

theorem sendAttempt (writes : Bool) (c : Call) (d : Link) : Keeps d (d.sendAttempt P random writes c) := by
  unfold Link.sendAttempt
  dsimp only
  split
  · have hsent := Keeps.sendRaw P random writes c.pending.commandId c.payload none (some c.ticket) d
    exact hsent.trans ⟨⟨rfl, rfl, rfl, rfl, rfl, rfl, rfl⟩, rfl, rfl⟩
  · exact (Keeps.sendRaw P random writes _ _ _ _ d).trans (.finish ..)
  · exact (Keeps.sendRaw P random writes _ _ _ _ d).trans (.finish ..)

theorem send (writes : Bool) (cmd : UInt16) (payload : Payload) (d : Link) :
    Keeps d (d.send P random writes cmd payload) := by
  unfold Link.send
  split
  · exact .refl d
  split
  · exact .sendRaw ..
  split
  · exact .refl d
  · have hcalls : Keeps d { d with calls := d.calls + 1 } := ⟨⟨rfl, rfl, rfl, rfl, rfl, rfl, rfl⟩, rfl, rfl⟩
    exact hcalls.trans (.sendAttempt ..)

theorem retryLater (c : Call) (d : Link) : Keeps d (d.retryLater c) := by
  unfold Link.retryLater
  split
  · exact ⟨⟨rfl, rfl, rfl, rfl, rfl, rfl, rfl⟩, rfl, rfl⟩
  · exact .finish ..

theorem onTimeout (d : Link) : Keeps d d.onTimeout := by
  unfold Link.onTimeout
  split
  · split
    · exact .refl d
    · exact .retryLater ..
  · exact .refl d

theorem onCompletion (d : Link) : Keeps d d.onCompletion := by
  unfold Link.onCompletion
  split
  · split
    · exact .refl d
    split
    · exact .finish ..
    split
    · exact .finish ..
    · exact .retryLater ..
  · exact .refl d

theorem onRetry (writes : Bool) (d : Link) : Keeps d (d.onRetry P random writes) := by
  unfold Link.onRetry
  split
  · split
    · exact .sendAttempt ..
    · exact .refl d
  · exact .refl d

theorem checkCounter {env : RpcEnvelope} (h : d.checkCounter env = some t) : Keeps d t := by
  unfold Link.checkCounter at h
  split at h
  · obtain ⟨c, -, rfl⟩ := Option.map_eq_some_iff.1 h
    exact ⟨⟨rfl, rfl, rfl, rfl, rfl, rfl, rfl⟩, rfl, rfl⟩
  · cases h
    exact .refl d

theorem sendReplies (writes : Bool) (replies : List (UInt16 × Payload)) (d : Link) :
    Keeps d (sendReplies P random writes replies d).1 := by
  induction replies generalizing d with
  | nil => exact .refl d
  | cons r rest ih =>
    have hsend := Keeps.sendRaw P random writes r.1 r.2 none none d
    unfold Link.sendReplies
    dsimp only
    split
    · exact hsend
    · exact hsend.trans (ih _)

theorem runHandler (io : Io) (handler : McuHandler) (cmd seq : UInt32) (p : Payload) (d : Link) :
    Keeps d (d.runHandler P random io handler cmd seq p) := by
  have hrun : ∀ service, Keeps d { d with executed := d.executed ++ [(cmd, seq)], service := service } :=
    fun _ => ⟨⟨rfl, rfl, rfl, rfl, rfl, rfl, rfl⟩, rfl, rfl⟩
  unfold Link.runHandler
  dsimp only
  split
  · exact hrun d.service
  case h_2 r _ =>
    have hreplies := (hrun r.service).trans (.sendReplies P random io.writes r.replies _)
    split
    · exact hreplies
    · exact hreplies.trans (.acknowledge ..)

end Keeps
end Link

namespace HandshakeTasks
variable (P : Platform)

/-- Where `_synchronize_attempt` is between two events of the link: in the first sleep, or waiting for the
confirmation. -/
def attemptAt (a : Attempt) : AttemptAt := if a.confirming then .confirming a.nonce else .stabilizing a.nonce

/-- The tasks are where the link is between two events. -/
structure Matches (d : Link) (s : HandshakeTasks) : Prop where
  link : Link.SameHandshake d s.link
  attempt : s.attempt = d.attempt.map attemptAt
  resp : s.resp = none
  accepted : s.acceptances.map (fun a => a.resp.nonce) = d.accepted

variable {P} {random : Nat → UInt32} {d t : Link} {s : HandshakeTasks}

theorem Matches.of_keeps (h : Matches d s) (hk : Link.Keeps d t) : Matches t s :=
  ⟨hk.toSameHandshake.symm.trans h.link, by rw [h.attempt, hk.attempt], h.resp, by rw [h.accepted, hk.accepted]⟩

variable (P) in
/-- A run of the tasks gets to where the link is. -/
def Follows (d : Link) (s : HandshakeTasks) : Prop := ∃ fs, Matches d (Run.run (step P) s fs)

theorem Matches.follows (h : Matches d s) : Follows P d s := ⟨[], h⟩

theorem Follows.of_step (e : HandshakeEvent) (h : Follows P d (step P e s)) : Follows P d s := by
  obtain ⟨fs, h⟩ := h
  exact ⟨e :: fs, h⟩

theorem Follows.of_keeps (h : Follows P d s) (hk : Link.Keeps d t) : Follows P t s := by
  obtain ⟨fs, h⟩ := h
  exact ⟨fs, h.of_keeps hk⟩

theorem Follows.of_attempt {a : AttemptAt} (h : s.attempt = some a) (sent timedOut : Bool)
    (hnext : Follows P d
      { s with link := (resume sent timedOut s.link a).1, attempt := (resume sent timedOut s.link a).2 }) :
    Follows P d s := by
  refine .of_step (.attempt sent timedOut) ?_
  simp only [HandshakeTasks.step]
  rw [h]
  exact hnext

@[simp] theorem setFsmState_accepted (new : HandshakeState) (d : Link) : (d.setFsmState new).accepted = d.accepted :=
  (Link.setFsmState_quiet d new).accepted

theorem failure_accepted (d : Link) : d.handleHandshakeFailure.accepted = d.accepted := setFsmState_accepted .fault d

theorem abandon_accepted (d : Link) : (abandon d).accepted = d.accepted := failure_accepted d.clearHandshakeExpectations

theorem setFsmState_attempt (new : HandshakeState) (d : Link) : (d.setFsmState new).attempt = d.attempt := by
  unfold Link.setFsmState
  split <;> rfl

theorem failure_attempt (d : Link) : d.handleHandshakeFailure.attempt = d.attempt := setFsmState_attempt .fault d

/-! ### The attempt -/

theorem same_begin (h : Link.SameHandshake d t) (nonce : Bytes) :
    Link.SameHandshake (begin P nonce d) (begin P nonce t) := by
  have hfsm := (h.setFsmState .unsynchronized).setFsmState .resetting
  exact ⟨hfsm.sharedSecret, hfsm.state, rfl, hfsm.fsmState, rfl,
    congrArg (fun secret => some (Link.calculateHandshakeTag P secret nonce)) hfsm.sharedSecret, hfsm.linkSessionKey⟩

theorem beginAttempt_eq (writes : Bool) (nonce : Bytes) (d : Link) : d.beginAttempt P random writes nonce =
    let r := (begin P nonce d).sendRaw P random writes Command.linkReset.toUnderlying
      (.message (.handshakeConfig (begin P nonce d).timing)) none none
    if r.2 = .sent then { r.1 with attempt := some ⟨nonce, false⟩ } else { abandon r.1 with attempt := none } := rfl

/-- LINK_RESET is sent, or the attempt is given up. -/
theorem Matches.beginAttempt (h : Matches d s) (hattempt : d.attempt = none) (writes : Bool) {nonce : Bytes}
    (hlen : nonce.length = handshakeNonceLength) : Follows P (d.beginAttempt P random writes nonce) s := by
  have hidle : s.attempt = none := by rw [h.attempt, hattempt, Option.map_none]
  have hbegin : step P (.begin nonce) s = { s with
      link := begin P nonce s.link
      attempt := some (.resetting nonce)
      generated := s.generated ++ [nonce] } := by
    simp only [HandshakeTasks.step]
    rw [hidle, hlen]
    rfl
  have hsend := Link.Keeps.sendRaw P random writes Command.linkReset.toUnderlying
    (.message (.handshakeConfig (begin P nonce d).timing)) none none (begin P nonce d)
  have hsame := hsend.toSameHandshake.symm.trans (same_begin h.link nonce)
  have hacc := hsend.accepted.trans (show (begin P nonce d).accepted = d.accepted by simp [begin])
  rw [beginAttempt_eq]
  refine .of_step (.begin nonce) ?_
  rw [hbegin]
  dsimp only
  split
  · refine .of_attempt rfl true false (Matches.follows ?_)
    exact ⟨hsame.withAttempt _, rfl, h.resp, h.accepted.trans hacc.symm⟩
  · refine .of_attempt rfl false false (.of_attempt rfl false false (Matches.follows ?_))
    exact ⟨hsame.abandon.withAttempt _, rfl, h.resp, h.accepted.trans (hacc.symm.trans (abandon_accepted _).symm)⟩

/-- The FSM is SYNCHRONIZED in a session, so there is none in another state. -/
theorem not_synchronized (hd : d.isSynchronized = true → d.fsmState = .synchronized) (new : HandshakeState)
    (hnew : new ≠ .synchronized) : (d.setFsmState new).isSynchronized = false := by
  have hstate : d.fsmState ≠ .synchronized → d.state ≠ .synchronized := by
    intro hfsm hs
    exact hfsm (hd (by rw [Link.isSynchronized, hs]; rfl))
  unfold Link.setFsmState Link.isSynchronized
  split
  case isTrue hsame =>
    subst hsame
    simpa using hstate hnew
  case isFalse =>
    split
    · rfl
    · simpa using hstate ‹_›

/-- Behind LINK_SYNC the session is not there yet, so the attempt waits, or it is given up. -/
theorem Matches.sendLinkSync (h : Matches d s) (hd : d.isSynchronized = true → d.fsmState = .synchronized) {a : Attempt}
    (hattempt : d.attempt = some a) (hconfirming : a.confirming = false) (writes : Bool) :
    Follows P (d.sendLinkSync P random writes a) s := by
  have hat : s.attempt = some (.stabilizing a.nonce) := by
    rw [h.attempt, hattempt, Option.map_some, attemptAt, hconfirming]
    rfl
  have hsyncing := h.link.setFsmState .syncing
  have hnot := not_synchronized hd .syncing (by decide)
  have hacc := setFsmState_accepted .syncing d
  unfold Link.sendLinkSync
  dsimp only
  generalize d.setFsmState .syncing = t at hsyncing hnot hacc ⊢
  have hsend := Link.Keeps.sendRaw P random writes Command.linkSync.toUnderlying
    (.message (.linkSync ⟨a.nonce, Link.calculateHandshakeTag P t.sharedSecret a.nonce⟩)) none none t
  generalize t.sendRaw P random writes Command.linkSync.toUnderlying
    (.message (.linkSync ⟨a.nonce, Link.calculateHandshakeTag P t.sharedSecret a.nonce⟩)) none none = r at hsend ⊢
  have hsame := hsend.toSameHandshake.symm.trans hsyncing
  have hacc' := h.accepted.trans (hacc.symm.trans hsend.accepted.symm)
  have hnot' : r.1.isSynchronized = false := hsend.toSameHandshake.isSynchronized.trans hnot
  -- both sleeps
  refine .of_attempt hat false false (.of_attempt rfl false false ?_)
  split
  · refine .of_attempt rfl true false (Matches.follows ?_)
    simp only [resume, Bool.not_true, Bool.false_eq_true, if_false, hsame.fsmState]
    split
    · exact ⟨hsame.withAttempt _, rfl, h.resp, hacc'⟩
    -- `confirming`, if nothing has happened in the meantime
    have hnext : Link.SameHandshake (if r.1.fsmState = .syncing then r.1.setFsmState .confirming else r.1)
        (if r.1.fsmState = .syncing then (s.link.setFsmState .syncing).setFsmState .confirming
          else s.link.setFsmState .syncing) := by
      split
      · exact hsame.setFsmState .confirming
      · exact hsame
    have hwaits : (if r.1.fsmState = .syncing then r.1.setFsmState .confirming else r.1).isSynchronized = false := by
      split
      · exact not_synchronized (by simp [hnot']) .confirming (by decide)
      · exact hnot'
    have hkept : (if r.1.fsmState = .syncing then r.1.setFsmState .confirming else r.1).accepted = r.1.accepted := by
      split
      · exact setFsmState_accepted ..
      · rfl
    generalize (if r.1.fsmState = .syncing then r.1.setFsmState .confirming else r.1) = u at hnext hwaits hkept ⊢
    rw [if_neg (by rw [hnext.isSynchronized, hwaits]; simp)]
    exact ⟨hnext.withAttempt _, rfl, h.resp, hacc'.trans hkept.symm⟩
  · refine .of_attempt rfl false false (.of_attempt rfl false false (Matches.follows ?_))
    exact ⟨hsame.abandon.withAttempt _, rfl, h.resp, hacc'.trans (abandon_accepted _).symm⟩

/-- The wait ends with the session, or with the time. -/
theorem Matches.endAttempt (h : Matches d s) {a : Attempt} (hattempt : d.attempt = some a)
    (hconfirming : a.confirming = true) : Follows P (d.endAttempt a) s := by
  have hat : s.attempt = some (.confirming a.nonce) := by
    rw [h.attempt, hattempt, Option.map_some, attemptAt, hconfirming]
    rfl
  have hsync := h.link.isSynchronized
  unfold Link.endAttempt
  split
  case isTrue hs =>
    refine .of_attempt hat false false (Matches.follows ?_)
    simp only [resume, finish, Bool.not_false, Bool.true_and, hsync, hs, if_true, h.link.fsmState]
    split
    · exact ⟨(h.link.setFsmState .synchronized).withAttempt _, rfl, h.resp,
        h.accepted.trans (setFsmState_accepted ..).symm⟩
    · exact ⟨h.link.withAttempt _, rfl, h.resp, h.accepted⟩
  case isFalse hs =>
    refine .of_attempt hat false true ?_
    simp only [resume, finish, Bool.not_true, Bool.false_and, Bool.false_eq_true, if_false, h.link.fsmState,
      h.link.linkHandshakeNonce]
    split
    · exact Matches.follows ⟨h.link.withAttempt _, rfl, h.resp, h.accepted⟩
    split
    · refine .of_attempt rfl false false (Matches.follows ?_)
      exact ⟨h.link.abandon.withAttempt _, rfl, h.resp, h.accepted.trans (abandon_accepted d).symm⟩
    · exact Matches.follows ⟨h.link.clear.withAttempt _, rfl, h.resp, h.accepted⟩

/-! ### The response handler -/

theorem same_accept (h : Link.SameHandshake d t) (m : LinkSync) : Link.SameHandshake (accept P m d) (accept P m t) := by
  have hkey : Link.SameHandshake
      (if d.sharedSecret.isEmpty then d
        else { d with linkSessionKey := some (P.deriveSessionKey d.sharedSecret m.nonce) })
      (if t.sharedSecret.isEmpty then t
        else { t with linkSessionKey := some (P.deriveSessionKey t.sharedSecret m.nonce) }) := by
    rw [h.sharedSecret]
    split
    · exact h
    · exact ⟨rfl, h.state, h.linkSyncEvent, h.fsmState, h.linkHandshakeNonce, h.linkExpectedTag, rfl⟩
  exact ((hkey.setFsmState .synchronized).clear).success

theorem accept_accepted (m : LinkSync) (d : Link) : (accept P m d).accepted = d.accepted := by
  refine (setFsmState_accepted ..).trans ?_
  split <;> rfl

theorem accept_attempt (m : LinkSync) (d : Link) : (accept P m d).attempt = d.attempt := by
  refine (setFsmState_attempt ..).trans ?_
  split <;> rfl

theorem Follows.of_handler {a : RespAt} (h : s.resp = some a)
    (hnext : Follows P d { s with link := (resumeResp s.link a).1, resp := (resumeResp s.link a).2 }) :
    Follows P d s := by
  refine .of_step .handler ?_
  simp only [HandshakeTasks.step]
  rw [h]
  exact hnext

/-- The response is refused, with a MALFORMED acknowledgement. -/
theorem Matches.refused (h : Matches d s) (clears : Bool) (hk : Link.Keeps d t) :
    Follows P (if clears then t.clearHandshakeExpectations else t).handleHandshakeFailure
      { s with resp := some (.refusing clears) } := by
  have ht := h.of_keeps hk
  refine .of_handler rfl (.of_handler rfl (Matches.follows ?_))
  have hattempt : ∀ u : Link, u.attempt = t.attempt → s.attempt = u.handleHandshakeFailure.attempt.map attemptAt := by
    intro u hu
    rw [failure_attempt, hu]
    exact ht.attempt
  cases clears with
  | false => exact ⟨ht.link.failure, hattempt t rfl, rfl, ht.accepted.trans (failure_accepted t).symm⟩
  | true => exact ⟨ht.link.abandon, hattempt _ rfl, rfl, ht.accepted.trans (abandon_accepted t).symm⟩

theorem same_respond (h : Link.SameHandshake d t) (io : Io) (payload : Payload) :
    Link.SameHandshake (respond P io payload d).1 (respond P io payload t).1 ∧
      (respond P io payload t).2 = (respond P io payload d).2 := by
  unfold respond
  rw [h.linkHandshakeNonce, h.linkExpectedTag, h.sharedSecret]
  split
  · exact ⟨h, rfl⟩
  split
  · exact ⟨h, rfl⟩
  split
  · split <;> exact ⟨h, rfl⟩
  split
  · exact ⟨h, rfl⟩
  split
  · exact ⟨h, rfl⟩
  · exact ⟨same_accept h _, rfl⟩

/-- The handler of the link ignores a response, refuses or accepts it where `respond` does. -/
theorem handleLinkSyncResp_cases (P : Platform) (random : Nat → UInt32) (io : Io) (seq : UInt32) (payload : Payload)
    (d : Link) :
    respond P io payload d = (d, none, none) ∧ (d.handleLinkSyncResp P random io seq payload).1 = d ∨
    (∃ clears t, respond P io payload d = (d, some (.refusing clears), none) ∧ Link.Keeps d t ∧
      (d.handleLinkSyncResp P random io seq payload).1 =
        (if clears then t.clearHandshakeExpectations else t).handleHandshakeFailure) ∨
    ∃ m, respond P io payload d = (accept P m d, some .succeeding, some m) ∧
      (d.handleLinkSyncResp P random io seq payload).1 =
        { accept P m d with accepted := (accept P m d).accepted ++ [m.nonce] } := by
  have hmal := Link.Keeps.acknowledge P random io.writes Command.linkSyncResp.toUnderlying.toUInt32 seq .malformed d
  unfold Link.handleLinkSyncResp
  dsimp only
  split
  case h_1 hn => exact .inr (.inl ⟨false, _, by simp [respond, hn], hmal, rfl⟩)
  case h_2 expected hn =>
    split
    case isTrue hlimit => exact .inr (.inl ⟨false, _, by simp [respond, hn, hlimit], hmal, rfl⟩)
    case isFalse hlimit =>
      split
      case h_1 hread =>
        split
        · exact .inl ⟨by simp [respond, hn, hlimit, hread], rfl⟩
        · exact .inr (.inl ⟨true, _, by simp [respond, hn, hlimit, hread], hmal, rfl⟩)
      case h_2 m hread =>
        split
        case isTrue hother => exact .inl ⟨by simp [respond, hn, hlimit, hread, hother], rfl⟩
        case isFalse hnonce =>
          split
          case isTrue hbad =>
            refine .inr (.inl ⟨true, _, ?_, hmal, rfl⟩)
            simp only [respond, hn, hlimit, hread]
            rw [if_neg (by simp), if_neg hnonce, if_pos hbad]
          case isFalse hgood =>
            refine .inr (.inr ⟨m, ?_, rfl⟩)
            simp only [respond, hn, hlimit, hread]
            rw [if_neg (by simp), if_neg hnonce, if_neg hgood]

theorem Matches.handleLinkSyncResp (h : Matches d s) (io : Io) (seq : UInt32) (payload : Payload) :
    Follows P (d.handleLinkSyncResp P random io seq payload).1 s := by
  have hresp : step P (.resp io payload) s = { s with
      link := (respond P io payload s.link).1
      resp := (respond P io payload s.link).2.1
      acceptances := s.acceptances ++
        ((respond P io payload s.link).2.2.map fun m => ⟨s.generated.length - 1, m⟩).toList } := by
    simp only [HandshakeTasks.step]
    rw [h.resp]
    rfl
  obtain ⟨hsame, hanswer⟩ := same_respond (P := P) h.link io payload
  refine .of_step (.resp io payload) ?_
  rw [hresp, hanswer]
  obtain ⟨heq, hlink⟩ | ⟨clears, t, heq, hk, hlink⟩ | ⟨m, heq, hlink⟩ :=
    handleLinkSyncResp_cases P random io seq payload d
  · rw [heq] at hsame ⊢
    rw [hlink]
    exact Matches.follows ⟨hsame, h.attempt, rfl, by simpa using h.accepted⟩
  · rw [heq] at hsame ⊢
    rw [hlink]
    have hs : Matches d { s with link := (respond P io payload s.link).1 } := ⟨hsame, h.attempt, h.resp, h.accepted⟩
    simpa using hs.refused clears hk
  · rw [heq] at hsame ⊢
    rw [hlink]
    refine .of_handler rfl (Matches.follows ⟨?_, ?_, rfl, ?_⟩)
    · exact ⟨hsame.sharedSecret, hsame.state, hsame.linkSyncEvent, hsame.fsmState, hsame.linkHandshakeNonce,
        hsame.linkExpectedTag, hsame.linkSessionKey⟩
    · exact h.attempt.trans (congrArg (Option.map attemptAt) (accept_attempt m d).symm)
    · simp [h.accepted, accept_accepted]

/-! ### Events of the link -/

theorem Matches.handleMcuFrame (h : Matches d s) (io : Io) (cmd seq : UInt32) (payload : Payload) :
    Follows P (d.handleMcuFrame P random io cmd seq payload) s := by
  unfold Link.handleMcuFrame
  split
  · exact h.follows
  split
  · exact h.follows
  split
  · have hrun : Matches { d with executed := d.executed ++ [(cmd, seq)] } s :=
      h.of_keeps ⟨⟨rfl, rfl, rfl, rfl, rfl, rfl, rfl⟩, rfl, rfl⟩
    have hresp := @Matches.handleLinkSyncResp P random _ _ hrun io seq payload
    dsimp only
    split
    · exact hresp.of_keeps (.acknowledge ..)
    · exact hresp
  split
  · split
    · exact h.follows
    · exact (h.of_keeps (.runHandler ..)).follows
  split
  · exact (h.of_keeps (.sendRaw ..)).follows
  · exact h.follows

theorem Matches.processPacket (h : Matches d s) (io : Io) (env : RpcEnvelope) :
    Follows P (d.processPacket P random io env) s := by
  unfold Link.processPacket
  split
  · exact h.follows
  case h_2 payload _ =>
    split
    · exact Matches.follows (h.of_keeps ⟨⟨rfl, rfl, rfl, rfl, rfl, rfl, rfl⟩, rfl, rfl⟩)
    split
    · exact h.follows
    case h_2 t ht =>
      have hcorrelated : Matches (t.correlateFrame io.host env.commandId payload) s :=
        (h.of_keeps (.checkCounter ht)).of_keeps ⟨⟨rfl, rfl, rfl, rfl, rfl, rfl, rfl⟩, rfl, rfl⟩
      exact hcorrelated.handleMcuFrame io env.commandId env.sequenceId payload

theorem Matches.step (h : Matches d s) (hs : Agrees P s.generated s.acceptances s.link) (e : LinkEvent) :
    Follows P (d.step P random e) s := by
  have hd : d.isSynchronized = true → d.fsmState = .synchronized := by
    intro hsync
    rw [← h.link.fsmState]
    exact hs.fsm (h.link.isSynchronized.trans hsync)
  cases e with
  | packet io env => exact h.processPacket io env
  | send writes cmd payload => exact (h.of_keeps (.send ..)).follows
  | timeout => exact (h.of_keeps (.onTimeout d)).follows
  | completion => exact (h.of_keeps (.onCompletion d)).follows
  | retry writes => exact (h.of_keeps (.onRetry ..)).follows
  | beginAttempt writes nonce =>
    dsimp only [Link.step]
    split
    · exact h.follows
    case isFalse hidle =>
      simp only [Bool.or_eq_true, decide_eq_true_eq, not_or, not_not] at hidle
      exact h.beginAttempt (by simpa using hidle.1) writes hidle.2
  | sendLinkSync writes =>
    dsimp only [Link.step]
    split
    case h_1 a ha =>
      split
      · exact h.follows
      case isFalse hc => exact h.sendLinkSync hd ha (by simpa using hc) writes
    · exact h.follows
  | endAttempt =>
    dsimp only [Link.step]
    split
    case h_1 a ha =>
      split
      case isTrue hc => exact h.endAttempt ha hc
      · exact h.follows
    · exact h.follows
  | retryError =>
    dsimp only [Link.step]
    split
    · exact h.follows
    case isFalse hidle =>
      have hnone : s.attempt.isSome = false := by simpa [h.attempt] using hidle
      refine .of_step .retryError (Matches.follows ?_)
      simp only [HandshakeTasks.step]
      rw [hnone, if_neg (by simp)]
      exact ⟨h.link.setFsmState .fault, by rw [setFsmState_attempt]; exact h.attempt, h.resp,
        h.accepted.trans (setFsmState_accepted ..).symm⟩
  | connect =>
    refine .of_step .connect (Matches.follows ⟨?_, h.attempt, h.resp, h.accepted⟩)
    exact ⟨h.link.sharedSecret, rfl, h.link.linkSyncEvent, h.link.fsmState, h.link.linkHandshakeNonce,
      h.link.linkExpectedTag, h.link.linkSessionKey⟩
  | disconnect =>
    exact .of_step .disconnect (Matches.follows ⟨h.link.disconnect, h.attempt, h.resp, h.accepted⟩)
  | close => exact Matches.follows (h.of_keeps ⟨⟨rfl, rfl, rfl, rfl, rfl, rfl, rfl⟩, rfl, rfl⟩)
  | negotiate writes baudrate =>
    have hsend := Link.Keeps.sendRaw P random writes Command.setBaudrate.toUnderlying
      (.message (.setBaudratePacket baudrate)) none none d
    exact Matches.follows ((h.of_keeps hsend).of_keeps ⟨⟨rfl, rfl, rfl, rfl, rfl, rfl, rfl⟩, rfl, rfl⟩)
  | negotiated => exact Matches.follows (h.of_keeps ⟨⟨rfl, rfl, rfl, rfl, rfl, rfl, rfl⟩, rfl, rfl⟩)

/-- Every run of the link is one of the tasks, as far as the handshake goes. -/
theorem link_follows (P : Platform) (random : Nat → UInt32) (secret : Bytes) (timing : HandshakeConfig)
    (maxAttempts : Nat) (service : Service) (es : List LinkEvent) :
    Follows P (Run.run (Link.step P random) (Link.start secret timing maxAttempts service) es)
      (start secret timing maxAttempts service) := by
  have hinit : Matches (Link.start secret timing maxAttempts service) (start secret timing maxAttempts service) :=
    ⟨.refl _, rfl, rfl, rfl⟩
  have hstep : ∀ (d : Link) (s : HandshakeTasks) (e : LinkEvent),
      Matches d s ∧ Agrees P s.generated s.acceptances s.link →
      ∃ fs, Matches (d.step P random e) (Run.run (step P) s fs) ∧ Agrees P (Run.run (step P) s fs).generated
        (Run.run (step P) s fs).acceptances (Run.run (step P) s fs).link := by
    rintro d s e ⟨h, hs⟩
    obtain ⟨fs, hfs⟩ := h.step hs e
    exact ⟨fs, hfs, Run.run_invariant (I := fun s : HandshakeTasks => Agrees P s.generated s.acceptances s.link)
      step_agrees hs fs⟩
  obtain ⟨fs, hfs, -⟩ := Run.follows hstep ⟨hinit, start_agrees P secret timing maxAttempts service⟩ es
  exact ⟨fs, hfs⟩

/-- In a session of the link the FSM is SYNCHRONIZED, the secret is not empty, and the key is that of the nonce accepted
last. -/
theorem link_session (P : Platform) (random : Nat → UInt32) (secret : Bytes) (timing : HandshakeConfig)
    (maxAttempts : Nat) (service : Service) (es : List LinkEvent) (d : Link)
    (hd : d = Run.run (Link.step P random) (Link.start secret timing maxAttempts service) es)
    (hs : d.isSynchronized = true) :
    d.fsmState = .synchronized ∧ d.sharedSecret ≠ [] ∧
      ∃ n, d.accepted.getLast? = some n ∧ d.linkSessionKey = some (P.deriveSessionKey d.sharedSecret n) := by
  obtain ⟨fs, hfs⟩ := link_follows P random secret timing maxAttempts service es
  rw [← hd] at hfs
  have hag := Run.run_invariant (I := fun s : HandshakeTasks => Agrees P s.generated s.acceptances s.link) step_agrees
    (start_agrees P secret timing maxAttempts service) fs
  have hsync := hfs.link.isSynchronized.trans hs
  obtain ⟨a, ha, hkey⟩ := hag.key hsync
  refine ⟨hfs.link.fsmState.symm.trans (hag.fsm hsync), ?_, a.resp.nonce, ?_, ?_⟩
  · rw [← hfs.link.sharedSecret]
    exact hag.secret hsync
  · rw [← hfs.accepted, List.getLast?_map, ha, Option.map_some]
  · rw [← hfs.link.linkSessionKey, hkey, hfs.link.sharedSecret]

end HandshakeTasks
end Daemon
end McuBridge
