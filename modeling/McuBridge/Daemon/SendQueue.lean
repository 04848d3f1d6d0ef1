import McuBridge.Daemon.SendCalls

/-! # Calls of `send` as a queue

Seen from its callers, `send` is a queue: a call joins it at the end, only its first call is in flight, and a call leaves
it by returning. -/

namespace McuBridge
namespace Daemon

def SendTask.call : SendTask → Option (Nat × UInt16)
  | .send ticket cmd => some (ticket, cmd)
  | .reset _ _ => none

namespace SendCalls

/-- The calls that have not returned, in the order in which they have asked for the lock. -/
def calls (s : SendCalls) : List (Nat × UInt16) :=
  s.current.toList.map SendCall.call ++ s.lock.waiters.filterMap SendTask.call

/-- What the call in flight returns at the event. -/
def ends (e : SendEvent) (s : SendCalls) : Option SendOutcome :=
  match s.current.map (SendCall.next s.maxAttempts e) with
  | some (.ended o) => some o
  | _ => none

theorem ends_of_none {s : SendCalls} (e : SendEvent) (h : s.current = none) : s.ends e = none := by
  rw [ends, h]
  rfl

theorem ends_of_ended {s : SendCalls} {e : SendEvent} {c : SendCall} {o : SendOutcome} (hcur : s.current = some c)
    (hn : c.next s.maxAttempts e = .ended o) : s.ends e = some o := by
  rw [ends, hcur, Option.map_some, hn]

theorem ends_of_running {s : SendCalls} {e : SendEvent} {c c' : SendCall} (hcur : s.current = some c)
    (hn : c.next s.maxAttempts e = .running c') : s.ends e = none := by
  rw [ends, hcur, Option.map_some, hn]

theorem ends_of_idle {s : SendCalls} {e : SendEvent} (h : ∀ c : SendCall, c.next s.maxAttempts e = .running c) :
    s.ends e = none := by
  cases hcur : s.current with
  | none => exact ends_of_none e hcur
  | some c => exact ends_of_running hcur (h c)

/-- What a step does to the queue. -/
inductive QueueStep (s : SendCalls) (e : SendEvent) (t : SendCalls) : Prop where
  | joins (cmd : UInt16) (he : e = .send cmd) (hcalls : t.calls = s.calls ++ [(s.tickets, cmd)])
      (htickets : t.tickets = s.tickets + 1) (houtcomes : t.outcomes = s.outcomes) (hends : s.ends e = none)
  | leaves (c : SendCall) (o : SendOutcome) (hcur : s.current = some c) (hnext : c.next s.maxAttempts e = .ended o)
      (hcalls : s.calls = o.call :: t.calls) (htickets : t.tickets = s.tickets)
      (houtcomes : t.outcomes = s.outcomes ++ [o]) (hends : s.ends e = some o)
  | stays (he : ∀ cmd, e ≠ .send cmd) (hcalls : t.calls = s.calls) (htickets : s.tickets ≤ t.tickets)
      (houtcomes : t.outcomes = s.outcomes) (hends : s.ends e = none)

theorem calls_of_current {s : SendCalls} {c : SendCall} (hcur : s.current = some c) :
    s.calls = c.call :: s.lock.waiters.filterMap SendTask.call := by
  rw [calls, hcur]
  rfl

theorem calls_of_none {s : SendCalls} (hcur : s.current = none) : s.calls = s.lock.waiters.filterMap SendTask.call := by
  rw [calls, hcur]
  rfl

theorem send_calls {s : SendCalls} (h : s.Locked) (cmd : UInt16) :
    let t := step (.send cmd) s
    t.calls = s.calls ++ [(s.tickets, cmd)] ∧ t.tickets = s.tickets + 1 ∧ t.outcomes = s.outcomes := by
  refine ⟨?_, ?_, ?_⟩
  · simp only [step, send]
    split
    case isTrue hfree =>
      -- the lock is free, so there is no call but this one
      have hempty : s.lock.waiters = [] := by
        unfold FifoLock.isFree at hfree
        exact List.isEmpty_iff.1 (Bool.and_eq_true_iff.1 hfree).2
      rw [calls_of_none (h.of_free hfree), FifoLock.acquire_of_free hfree, hempty]
      simp [calls, begin, SendCall.call, SendCall.fresh, SendCall.beginAttempt]
    case isFalse hheld =>
      rw [FifoLock.acquire_of_not_free (Bool.eq_false_iff.2 hheld)]
      simp [calls, List.filterMap_append, SendTask.call]
  · simp only [step, send]
    split
    · rfl
    · rfl
  · simp only [step, send]
    split
    · rfl
    · rfl

theorem send_queue {s : SendCalls} (h : s.Locked) (cmd : UInt16) : QueueStep s (.send cmd) (step (.send cmd) s) :=
  have hcalls := send_calls h cmd
  .joins cmd rfl hcalls.1 hcalls.2.1 hcalls.2.2 (ends_of_idle fun _ => rfl)

theorem reset_queue {s : SendCalls} (h : s.Locked) : QueueStep s .reset (step .reset s) := by
  simp only [step, reset]
  split
  case isTrue hfree =>
    refine .stays (fun cmd he => by cases he) ?_ (Nat.le_succ _) rfl (ends_of_idle fun _ => rfl)
    rw [FifoLock.acquire_of_free hfree]
    simp [calls, resetBody, h.of_free hfree]
  case isFalse hheld =>
    refine .stays (fun cmd he => by cases he) ?_ (Nat.le_succ _) rfl (ends_of_idle fun _ => rfl)
    rw [FifoLock.acquire_of_not_free (Bool.eq_false_iff.2 hheld)]
    simp only [calls, List.filterMap_append]
    rw [List.filterMap_cons_none rfl, List.filterMap_nil, List.append_nil]

theorem grant_queue {s : SendCalls} (h : s.Locked) : QueueStep s .grant (step .grant s) := by
  have he : ∀ cmd, SendEvent.grant ≠ .send cmd := fun cmd he => by cases he
  simp only [step, grant]
  split
  case h_1 ticket cmd rest hholder hwaiters =>
    refine .stays he ?_ (Nat.le_refl _) rfl (ends_of_idle fun _ => rfl)
    rw [calls_of_none (h.held hholder), hwaiters]
    simp [calls, begin, FifoLock.grant, hholder, hwaiters, SendCall.call, SendCall.fresh, SendCall.beginAttempt,
      SendTask.call]
  case h_2 ticket during rest hholder hwaiters =>
    refine .stays he ?_ (Nat.le_refl _) rfl (ends_of_idle fun _ => rfl)
    rw [calls_of_none (h.held hholder), hwaiters, List.filterMap_cons_none rfl]
    simp [calls, resetBody, h.held hholder, FifoLock.grant, hholder, hwaiters]
  case h_3 => exact .stays he rfl (Nat.le_refl _) rfl (ends_of_idle fun _ => rfl)

theorem advance_queue (s : SendCalls) (e : SendEvent) (he : ∀ cmd, e ≠ .send cmd) : QueueStep s e (s.advance e) := by
  rcases advance_cases e s with ⟨hcur, hs⟩ | ⟨c, hcur, hs⟩
  · rw [hs]
    exact .stays he rfl (Nat.le_refl _) rfl (ends_of_none e hcur)
  · have hcall := c.next_call s.maxAttempts e
    rw [hs]
    cases hn : c.next s.maxAttempts e with
    | running c' =>
      rw [hn] at hcall
      refine .stays he ?_ (Nat.le_refl _) rfl (ends_of_running hcur hn)
      rw [calls_of_current hcur, ← hcall]
      rfl
    | ended o =>
      rw [hn] at hcall
      refine .leaves c o hcur hn ?_ rfl rfl (ends_of_ended hcur hn)
      rw [calls_of_current hcur, ← hcall]
      rfl

theorem step_queue {s : SendCalls} (h : s.Locked) (e : SendEvent) : QueueStep s e (step e s) := by
  cases e with
  | send cmd => exact send_queue h cmd
  | reset => exact reset_queue h
  | grant => exact grant_queue h
  | _ => exact advance_queue s _ fun cmd he => by cases he

theorem step_calls {s : SendCalls} (h : s.Locked) {e : SendEvent} (he : ∀ cmd, e ≠ .send cmd)
    (hnext : ∀ (c : SendCall) o, c.next s.maxAttempts e ≠ .ended o) :
    (step e s).calls = s.calls ∧ s.tickets ≤ (step e s).tickets ∧ (step e s).outcomes = s.outcomes := by
  cases step_queue h e with
  | joins cmd he' => exact absurd he' (he cmd)
  | leaves c o hcur hn => exact absurd hn (hnext c o)
  | stays he hcalls htickets houtcomes => exact ⟨hcalls, htickets, houtcomes⟩

theorem frame_calls {s : SendCalls} (h : s.Locked) (host : McuHost) (cmd : UInt32) (payload : Payload) :
    let t := step (.frame host cmd payload) s
    t.calls = s.calls ∧ s.tickets ≤ t.tickets ∧ t.outcomes = s.outcomes := by
  refine step_calls h (fun cmd he => ?_) fun c o hn => ?_
  · cases he
  · cases hn

/-- The tickets of the calls so far: each is given once. -/
structure Numbered (s : SendCalls) : Prop where
  locked : s.Locked
  nodup : (s.outcomes.map SendOutcome.ticket ++ s.calls.map Prod.fst).Nodup
  bound : ∀ n ∈ s.outcomes.map SendOutcome.ticket ++ s.calls.map Prod.fst, n < s.tickets

theorem init_numbered (maxAttempts : Nat) : (init maxAttempts).Numbered := by
  refine ⟨init_locked maxAttempts, .nil, fun n hn => ?_⟩
  cases hn

theorem step_numbered {s : SendCalls} (h : s.Numbered) (e : SendEvent) : (step e s).Numbered := by
  refine ⟨step_locked h.locked e, ?_, ?_⟩
  · cases step_queue h.locked e with
    | joins cmd he hcalls htickets houtcomes =>
      rw [hcalls, houtcomes, List.map_append, ← List.append_assoc]
      refine List.nodup_append.2 ⟨h.nodup, List.nodup_singleton _, fun n hn m hm => ?_⟩
      rw [List.mem_singleton.1 hm]
      exact (h.bound n hn).ne
    | leaves c o hcur hnext hcalls htickets houtcomes =>
      have hnodup := h.nodup
      rw [hcalls] at hnodup
      rw [houtcomes, List.map_append, List.append_assoc]
      exact hnodup
    | stays he hcalls htickets houtcomes =>
      rw [hcalls, houtcomes]
      exact h.nodup
  · cases step_queue h.locked e with
    | joins cmd he hcalls htickets houtcomes =>
      rw [hcalls, houtcomes, htickets, List.map_append, ← List.append_assoc]
      intro n hn
      rcases List.mem_append.1 hn with hn | hn
      · exact (h.bound n hn).trans (Nat.lt_succ_self _)
      · rw [List.mem_singleton.1 hn]
        exact Nat.lt_succ_self _
    | leaves c o hcur hnext hcalls htickets houtcomes =>
      have hbound := h.bound
      rw [hcalls] at hbound
      rw [houtcomes, htickets, List.map_append, List.append_assoc]
      exact hbound
    | stays he hcalls htickets houtcomes =>
      rw [hcalls, houtcomes]
      exact fun n hn => (h.bound n hn).trans_le htickets

end SendCalls
end Daemon
end McuBridge
