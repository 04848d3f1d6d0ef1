import McuBridge.Daemon.SendCalls

/-! # Which answers a call of `send` takes

The record of a pending command is used again for every attempt: an attempt starts by clearing `success`, but
`completion` stays set. So an answer counts only within the attempt in which it comes, and it counts for every call
with the command it names. -/

namespace McuBridge
namespace Daemon

namespace SendCall

/-! ### Late answers -/

/-- The event does not lose an answer: none comes while the call sleeps, and after one the attempt meets no time-out and
its write does not fail. -/
def keepsAnswer (c : SendCall) : SendEvent → Bool
  | .frame h cmd payload =>
    !(c.phase == .sleeping && c.transmitted && !c.refused && isAnswer h cmd payload c.pending)
  | .timeout => !(c.phase == .waiting && c.answered)
  | .raw r => !(c.phase == .writing && c.answered && r != .sent)
  | _ => true

/-- The answer of the running attempt is still there. -/
structure Keeps (c : SendCall) : Prop where
  success : c.answered = true → c.pending.success = some true
  awake : c.answered = true → c.phase ≠ .sleeping
  refused : c.refused = false → c.pending.success ≠ some false

theorem fresh_keeps (ticket : Nat) (cmd : UInt16) : (fresh ticket cmd).beginAttempt.Keeps :=
  ⟨Bool.noConfusion, Bool.noConfusion, fun _ => Option.some_ne_none _ |>.symm⟩

theorem correlatePending_of_some {h : McuHost} {cmd : UInt32} {payload : Payload} {p : PendingCommand}
    (hp : p.success.isSome) : Link.correlatePending h cmd payload p = p := if_pos hp

/-- An answer resolves a command that is pending. -/
theorem correlatePending_answer {h : McuHost} {cmd : UInt32} {payload : Payload} {p : PendingCommand}
    (hp : p.success = none) (hans : isAnswer h cmd payload p = true) :
    (Link.correlatePending h cmd payload p).success = some true := by
  unfold isAnswer at hans
  rw [Bool.or_eq_true, Bool.and_eq_true, Bool.and_eq_true, Bool.and_eq_true] at hans
  unfold Link.correlatePending
  rw [hp]
  rcases hans with ⟨⟨hack, htarget⟩, hempty⟩ | ⟨hne, hresp⟩
  · rw [if_neg (by simp), if_pos (beq_iff_eq.1 hack), if_pos (beq_iff_eq.1 htarget)]
    dsimp only
    rw [if_pos hempty]
    rfl
  · rw [if_neg (by simp), if_neg (bne_iff_ne.1 hne), if_pos (beq_iff_eq.1 hresp)]
    rfl

theorem correlate_keeps {c : SendCall} (hc : c.Keeps) (hreg : c.registered = true) {h : McuHost} {cmd : UInt32}
    {payload : Payload} (hkeeps : c.keepsAnswer (.frame h cmd payload) = true) : (c.correlate h cmd payload).Keeps := by
  unfold correlate
  rw [if_pos hreg]
  have hans : ∀ hnew : (c.answered || (c.transmitted && !c.refused && isAnswer h cmd payload c.pending)) = true,
      (Link.correlatePending h cmd payload c.pending).success = some true ∧ c.phase ≠ .sleeping := by
    intro hnew
    rcases Bool.or_eq_true_iff.1 hnew with hold | hnow
    · rw [correlatePending_of_some (by rw [hc.success hold]; rfl)]
      exact ⟨hc.success hold, hc.awake hold⟩
    · simp only [Bool.and_eq_true, Bool.not_eq_true'] at hnow
      obtain ⟨⟨htrans, hrefused⟩, hanswer⟩ := hnow
      constructor
      · cases hsucc : c.pending.success with
        | none => exact correlatePending_answer hsucc hanswer
        | some b =>
          rw [correlatePending_of_some (by rw [hsucc]; rfl), hsucc]
          cases b with
          | true => rfl
          | false => exact absurd hsucc (hc.refused hrefused)
      · intro hsleep
        simp [keepsAnswer, hsleep, htrans, hrefused, hanswer] at hkeeps
  refine ⟨fun h => (hans h).1, fun h => (hans h).2, fun hrefused => ?_⟩
  rw [Bool.or_eq_false_iff] at hrefused
  cases hsucc : c.pending.success with
  | none =>
    simp only [hsucc, Option.isNone_none, Bool.true_and] at hrefused
    exact fun h => absurd (beq_iff_eq.2 h) (Bool.eq_false_iff.1 hrefused.2)
  | some b =>
    show (Link.correlatePending h cmd payload c.pending).success ≠ some false
    rw [correlatePending_of_some (by rw [hsucc]; rfl)]
    exact hc.refused hrefused.1

/-- A call that was answered has returned a value. -/
def Returns (o : SendOutcome) : Prop := o.answered = true → ∃ v, o.result = .returned v

theorem retryLater_keeps {c : SendCall} (hc : c.Keeps) (hans : c.answered = false) (maxAttempts : Nat) :
    (c.retryLater maxAttempts).Holds Keeps Returns := by
  rcases retryLater_cases maxAttempts c with h | h
  · rw [h]
    refine ⟨fun ha => ?_, fun ha => ?_, hc.refused⟩
    · exact absurd (hans.symm.trans ha) Bool.false_ne_true
    · exact absurd (hans.symm.trans ha) Bool.false_ne_true
  · rw [h]
    exact fun ha => absurd (hans.symm.trans ha) Bool.false_ne_true

theorem completed_keeps {c : SendCall} (hc : c.Keeps) (maxAttempts : Nat) :
    (c.completed maxAttempts).Holds Keeps Returns := by
  rcases completed_cases maxAttempts c with ⟨-, h⟩ | ⟨hne, h⟩
  · rw [h]
    exact fun _ => ⟨_, rfl⟩
  · have hans : c.answered = false := Bool.eq_false_iff.2 fun ha => hne (hc.success ha)
    rcases h with ⟨st, -, h⟩ | h
    · rw [h]
      exact fun ha => absurd (hans.symm.trans ha) Bool.false_ne_true
    · rw [h]
      exact retryLater_keeps hc hans maxAttempts

/-- The step: under an event that keeps the answer it stays, and the call that has it returns it. -/
theorem next_keeps {c : SendCall} (hc : c.Keeps) (hreg : c.registered = true) {e : SendEvent}
    (hkeeps : c.keepsAnswer e = true) (maxAttempts : Nat) : (c.next maxAttempts e).Holds Keeps Returns := by
  have hnext := c.next_next maxAttempts e
  generalize c.next maxAttempts e = p at hnext ⊢
  cases hnext with
  | idle => exact hc
  | transmitted hphase => exact ⟨hc.success, hc.awake, hc.refused⟩
  | written hphase =>
    refine ⟨hc.success, fun _ h => ?_, hc.refused⟩
    cases h
  | complete hphase =>
    have hwait : ({ c with phase := .waiting, transmitted := true } : SendCall).Keeps := by
      refine ⟨hc.success, fun _ h => ?_, hc.refused⟩
      cases h
    exact completed_keeps hwait maxAttempts
  | failed hphase =>
    intro ha
    have ha : c.answered = true := ha
    simp [keepsAnswer, hphase, ha] at hkeeps
  | raised hphase =>
    intro ha
    have ha : c.answered = true := ha
    simp [keepsAnswer, hphase, ha] at hkeeps
  | frame h cmd payload => exact correlate_keeps hc hreg hkeeps
  | timeout hphase =>
    refine retryLater_keeps hc (Bool.eq_false_iff.2 fun ha => ?_) maxAttempts
    simp [keepsAnswer, hphase, ha] at hkeeps
  | completion hphase => exact completed_keeps hc maxAttempts
  | retry hphase =>
    have hans : c.answered = false := Bool.eq_false_iff.2 fun ha => hc.awake ha hphase
    refine ⟨fun ha => ?_, fun _ h => ?_, fun _ h => ?_⟩
    · exact absurd (hans.symm.trans ha) Bool.false_ne_true
    · cases h
    · cases h

end SendCall

namespace SendCalls

/-- The event does not lose an answer of the call in flight. -/
def keepsAnswer (s : SendCalls) (e : SendEvent) : Bool := s.current.all fun c => c.keepsAnswer e

/-- The invariant of a run that loses no answer: the call in flight has its answer still, every call that has ended and
was answered has returned a value. -/
structure Kept (s : SendCalls) : Prop where
  locked : s.Locked
  current : ∀ c, s.current = some c → c.Keeps
  outcomes : ∀ o ∈ s.outcomes, SendCall.Returns o

theorem init_kept (maxAttempts : Nat) : (init maxAttempts).Kept := by
  refine ⟨init_locked maxAttempts, fun c hc => ?_, fun o ho => ?_⟩
  · cases hc
  · cases ho

theorem step_kept {s : SendCalls} (hs : s.Kept) {e : SendEvent} (hkeeps : s.keepsAnswer e = true) : (step e s).Kept := by
  have hinv := step_invariant hs.locked SendCall.fresh_keeps (e := e) (fun c hcur hc => ?_) hs.current hs.outcomes
  · exact ⟨step_locked hs.locked e, hinv.1, hinv.2⟩
  · have hkeep : c.keepsAnswer e = true := by rwa [keepsAnswer, hcur, Option.all_some] at hkeeps
    exact SendCall.next_keeps hc (hs.locked.registered c hcur) hkeep s.maxAttempts

/-- Where no answer comes between two attempts, and no time-out or failed write follows one, every call that is answered
returns a value. -/
theorem answered_returns (maxAttempts : Nat) (es : List SendEvent)
    (h : Run.Along step (fun s e => s.keepsAnswer e = true) (init maxAttempts) es) :
    ∀ o ∈ (Run.run step (init maxAttempts) es).outcomes, o.answered = true → ∃ v, o.result = .returned v :=
  (h.invariant (I := Kept) (fun _ _ hs hkeeps => step_kept hs hkeeps) (init_kept maxAttempts)).outcomes

/-- A read answered in its second attempt. -/
def secondAttempt : List SendEvent :=
  [.send Command.digitalRead.toUnderlying, .transmit, .raw .sent, .timeout, .retry, .raw .sent,
    .frame .sample Command.digitalReadResp.toUnderlying.toUInt32 (.bytes [1]), .completion]

def secondOutcome : SendOutcome := ⟨0, Command.digitalRead.toUnderlying, true, none, .returned (some (.bytes [1]))⟩

theorem answered_returns_second : secondOutcome ∈ (Run.run step (init 2) secondAttempt).outcomes ∧
    ∃ v, secondOutcome.result = .returned v :=
  ⟨by decide, answered_returns 2 secondAttempt (by decide) secondOutcome (by decide) rfl⟩

/-- A read whose answer comes during the sleep before the last attempt: the attempt resets `success`, finds `completion`
set and gives up. -/
theorem late_answer_lost :
    (⟨0, Command.digitalRead.toUnderlying, true, none, .false⟩ : SendOutcome) ∈ (Run.run step (init 2)
      [.send Command.digitalRead.toUnderlying, .transmit, .raw .sent, .timeout,
        .frame .sample Command.digitalReadResp.toUnderlying.toUInt32 (.bytes [1]), .retry, .raw .sent]).outcomes := by
  decide

end SendCalls
end Daemon
end McuBridge
