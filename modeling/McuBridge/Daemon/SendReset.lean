import McuBridge.Daemon.SendCalls

/-! # A disconnect during a call of `send`

`reset` is to resolve the command in flight, but it needs the lock that the call keeps until it returns. -/

namespace McuBridge
namespace Daemon

namespace SendCalls

/-- The calls that have returned. -/
def ended (s : SendCalls) : List Nat := s.outcomes.map SendOutcome.ticket

/-- The call is in flight or has returned. -/
def Started (s : SendCalls) (call : Nat) : Prop := (∃ c, s.current = some c ∧ c.ticket = call) ∨ call ∈ s.ended

theorem Started.ended_of_none {s : SendCalls} {call : Nat} (h : s.Started call) (hnone : s.current = none) :
    call ∈ s.ended := by
  rcases h with ⟨c, hcur, -⟩ | h
  · rw [hnone] at hcur
    cases hcur
  · exact h

theorem step_ended {s : SendCalls} (h : s.Locked) (e : SendEvent) {call : Nat} (hcall : call ∈ s.ended) :
    call ∈ (step e s).ended := by
  unfold ended
  rcases (step_cases h e).2 with ⟨-, hout, -⟩ | ⟨ticket, cmd, -, -, hout, -⟩ | ⟨ticket, during, -, -, -, hout, -⟩ |
    ⟨c, -, hstep⟩
  · rwa [hout]
  · rwa [hout]
  · rwa [hout]
  · rw [hstep]
    cases c.next s.maxAttempts e with
    | running c' => exact hcall
    | ended o =>
      rw [proceed, List.map_append]
      exact List.mem_append_left _ hcall

/-- A call leaves the lock by ending. -/
theorem step_started {s : SendCalls} (h : s.Locked) (e : SendEvent) {call : Nat} (hcall : s.Started call) :
    (step e s).Started call := by
  rcases hcall with ⟨c, hcur, rfl⟩ | hcall
  · rcases (step_cases h e).2 with ⟨hcur', -⟩ | ⟨ticket, cmd, hnone, -⟩ | ⟨ticket, during, -, hnone, -⟩ |
      ⟨c', hcur', hstep⟩
    · exact .inl ⟨c, hcur'.trans hcur, rfl⟩
    · rw [hnone] at hcur
      cases hcur
    · rw [hnone] at hcur
      cases hcur
    · cases hcur.symm.trans hcur'
      have hcall := c.next_call s.maxAttempts e
      rw [hstep]
      cases hn : c.next s.maxAttempts e with
      | running c' =>
        rw [hn] at hcall
        exact .inl ⟨c', rfl, congrArg Prod.fst hcall⟩
      | ended o =>
        rw [hn] at hcall
        refine .inr ?_
        rw [ended, proceed, List.map_append]
        exact List.mem_append_right _ (List.mem_singleton.2 (congrArg Prod.fst hcall).symm)
  · exact .inr (step_ended h e hcall)

/-- Who waits for the lock after a step: who did, or the task that asks for it. -/
theorem step_waiters {s : SendCalls} {e : SendEvent} {task : SendTask} (h : task ∈ (step e s).lock.waiters) :
    task ∈ s.lock.waiters ∨ (∃ cmd, task = .send s.tickets cmd) ∨
      task = .reset s.tickets (s.current.map SendCall.ticket) := by
  have hadvance : ∀ (e : SendEvent), task ∈ (s.advance e).lock.waiters → task ∈ s.lock.waiters := by
    intro e h
    rcases advance_cases e s with ⟨-, hs⟩ | ⟨c, -, hs⟩
    · rwa [hs] at h
    · rw [hs] at h
      cases hn : c.next s.maxAttempts e with
      | running c' => rwa [hn] at h
      | ended o => rwa [hn] at h
  cases e with
  | send cmd =>
    have hmem : task ∈ (s.lock.acquire (.send s.tickets cmd)).waiters := by
      simp only [step, send] at h
      split at h
      · exact h
      · exact h
    exact (FifoLock.of_mem_acquire hmem).imp_right fun h => .inl ⟨cmd, h⟩
  | reset =>
    have hmem : task ∈ (s.lock.acquire (.reset s.tickets (s.current.map SendCall.ticket))).waiters := by
      simp only [step, reset] at h
      split at h
      · exact h
      · exact h
    exact (FifoLock.of_mem_acquire hmem).imp_right .inr
  | grant =>
    refine .inl ?_
    simp only [step, grant] at h
    split at h
    · exact FifoLock.of_mem_grant h
    · exact FifoLock.of_mem_grant h
    · exact h
  | _ => exact .inl (hadvance _ h)

/-- The invariant of the resets: one that waits was called during a call that has started, and one that has returned
found no pending command, after the call had ended. -/
structure ResetsWait (s : SendCalls) : Prop where
  locked : s.Locked
  waiters : ∀ ticket call, SendTask.reset ticket (some call) ∈ s.lock.waiters → s.Started call
  resets : ∀ o ∈ s.resets, o.marked = false ∧ ∀ call, o.during = some call → call ∈ s.ended

theorem init_resetsWait (maxAttempts : Nat) : (init maxAttempts).ResetsWait := by
  refine ⟨init_locked maxAttempts, fun ticket call h => ?_, fun o h => ?_⟩
  · cases h
  · cases h

theorem step_resetsWait {s : SendCalls} (h : s.ResetsWait) (e : SendEvent) : (step e s).ResetsWait := by
  have hold : ∀ o ∈ s.resets, o.marked = false ∧ ∀ call, o.during = some call → call ∈ (step e s).ended := fun o ho =>
    ⟨(h.resets o ho).1, fun call hcall => step_ended h.locked e ((h.resets o ho).2 call hcall)⟩
  refine ⟨step_locked h.locked e, fun ticket call hmem => ?_, ?_⟩
  · rcases step_waiters hmem with hmem | ⟨cmd, heq⟩ | heq
    · exact step_started h.locked e (h.waiters ticket call hmem)
    · cases heq
    · injection heq with hticket hcall
      obtain ⟨c, hcur, hc⟩ := Option.map_eq_some_iff.1 hcall.symm
      exact step_started h.locked e (.inl ⟨c, hcur, hc⟩)
  · rcases (step_cases h.locked e).2 with ⟨-, -, hresets, -⟩ | ⟨ticket, cmd, -, -, -, hresets, -⟩ |
      ⟨ticket, during, hduring, hnone, -, -, hresets⟩ | ⟨c, hcur, hstep⟩
    · rwa [hresets]
    · rwa [hresets]
    · rw [hresets]
      intro o ho
      rcases List.mem_append.1 ho with ho | ho
      · exact hold o ho
      -- the reset that has just got the lock
      rw [List.mem_singleton.1 ho]
      refine ⟨rfl, fun call hcall => ?_⟩
      rcases hduring with hduring | hmem
      · cases hduring.symm.trans hcall
      · rw [show during = some call from hcall] at hmem
        exact step_ended h.locked e ((h.waiters ticket call hmem).ended_of_none hnone)
    · have hresets : (step e s).resets = s.resets := by
        rw [hstep]
        cases c.next s.maxAttempts e with
        | running c' => rfl
        | ended o => rfl
      rwa [hresets]

/-- Behind a call in flight a `reset` waits, and the call goes on as it is. -/
theorem reset_waits {s : SendCalls} (h : s.Locked) {c : SendCall} (hcur : s.current = some c) :
    (step .reset s).current = some c ∧ SendTask.reset s.tickets (some c.ticket) ∈ (step .reset s).lock.waiters := by
  have hheld : s.lock.holder ≠ none := fun hnone => by
    rw [h.held hnone] at hcur
    cases hcur
  obtain ⟨holder, hholder⟩ := Option.ne_none_iff_exists'.1 hheld
  have hstep : step .reset s = { s with
      tickets := s.tickets + 1, lock := s.lock.acquire (.reset s.tickets (some c.ticket)) } := by
    simp only [step, reset]
    rw [if_neg (by simp [FifoLock.not_free_of_held hholder]), hcur, Option.map_some]
  rw [hstep]
  exact ⟨hcur, FifoLock.acquire_held hholder⟩

/-- The `reset` has resolved a command, or returned before the call in flight when it was called. -/
def Aborts (o : ResetOutcome) (s : SendCalls) : Prop :=
  o.marked = true ∨ ∃ call, o.during = some call ∧ call ∉ s.ended

/-- In every run a `reset` during a call waits, with the call unchanged, until the call has ended, and then it finds
nothing to resolve. -/
theorem reset_aborts_nothing (maxAttempts : Nat) (es : List SendEvent) :
    let s := Run.run step (init maxAttempts) es
    (∀ c, s.current = some c → (step .reset s).current = some c ∧
      SendTask.reset s.tickets (some c.ticket) ∈ (step .reset s).lock.waiters) ∧
    ∀ o ∈ s.resets, ¬ Aborts o s := by
  have hinv : (Run.run step (init maxAttempts) es).ResetsWait :=
    Run.run_invariant (I := ResetsWait) (fun _ e h => step_resetsWait h e) (init_resetsWait maxAttempts) es
  refine ⟨fun c hcur => reset_waits hinv.locked hcur, fun o ho haborts => ?_⟩
  obtain ⟨hmarked, hended⟩ := hinv.resets o ho
  rcases haborts with haborts | ⟨call, hcall, hnot⟩
  · exact Bool.false_ne_true (hmarked.symm.trans haborts)
  · exact hnot (hended call hcall)

/-- A disconnect while a read waits for its answer: the call goes through its second attempt and its time-out, and only
then the `reset` runs. -/
theorem reset_after_send :
    let s := Run.run step (init 2) [.send Command.digitalRead.toUnderlying, .transmit, .raw .sent, .reset, .timeout,
      .retry, .transmit, .raw .sent]
    (s.current.map fun c => (c.ticket, c.phase, c.pending.attempts, c.pending.success)) = some (0, .waiting, 2, none) ∧
      s.lock.waiters = [.reset 1 (some 0)] ∧ s.resets = [] ∧
      (Run.run step s [.timeout, .grant]).resets = [⟨1, some 0, false⟩] := by
  decide

end SendCalls
end Daemon
end McuBridge
