import McuBridge.Daemon.LinkSteps
import McuBridge.Lib.FifoLock

/-! # Calls of `send` and their lock (`transport/serial.py`)

`send` and `reset` again, cut at every await: a call writes its frame, waits for its answer or sleeps before its next
attempt, and it keeps `_flow_lock` from its first attempt to its return. The frames of the MCU are correlated in
between, and so are the calls and resets of other tasks, which wait for the lock. -/

namespace McuBridge
namespace Daemon

/-- Where a call stands: in `send_raw`, at `completion.wait`, or between two attempts. -/
inductive SendPhase where
  | writing | waiting | sleeping
  deriving DecidableEq

/-- A call that holds the lock. `registered` says that `_current` is its pending command. `transmitted`, `answered` and
`refused` are records: its frame has been written, an answer has been correlated since, and a failure status. -/
structure SendCall where
  ticket : Nat
  pending : PendingCommand
  phase : SendPhase := .writing
  registered : Bool := true
  transmitted : Bool := false
  answered : Bool := false
  refused : Bool := false
  deriving DecidableEq

/-- A task that holds the lock or waits for it. A `reset` records the call in flight when it was called. -/
inductive SendTask where
  | send (ticket : Nat) (cmd : UInt16)
  | reset (ticket : Nat) (during : Option Nat)
  deriving DecidableEq

/-- A call that has ended. `status` is the failure status it gave up on. -/
structure SendOutcome where
  ticket : Nat
  commandId : UInt16
  answered : Bool
  status : Option UInt16
  result : CallResult
  deriving DecidableEq

/-- A `reset` that has returned: `marked` if it found a pending command. -/
structure ResetOutcome where
  ticket : Nat
  during : Option Nat
  marked : Bool
  deriving DecidableEq

structure SendCalls where
  maxAttempts : Nat
  lock : FifoLock SendTask := {}
  current : Option SendCall := none
  tickets : Nat := 0
  outcomes : List SendOutcome := []
  resets : List ResetOutcome := []

inductive SendEvent where
  /-- A call of `send` for a tracked command on an open port. -/
  | send (cmd : UInt16)
  | reset
  /-- The first task that waits for the lock takes it. -/
  | grant
  /-- The frame of the running attempt has been written. -/
  | transmit
  /-- `send_raw` returns or raises. -/
  | raw (r : Link.RawResult)
  /-- A packet is correlated. -/
  | frame (h : McuHost) (cmd : UInt32) (payload : Payload)
  /-- The response time-out strikes. -/
  | timeout
  /-- The wait returns because `completion` is set. -/
  | completion
  /-- The sleep ends. -/
  | retry

/-- What an event makes of the call in flight. -/
inductive SendProgress where
  | running (c : SendCall)
  | ended (o : SendOutcome)

/-- Ticket and command of a call. -/
def SendCall.call (c : SendCall) : Nat × UInt16 := (c.ticket, c.pending.commandId)

def SendOutcome.call (o : SendOutcome) : Nat × UInt16 := (o.ticket, o.commandId)

/-- The call an event goes on with, or has ended. -/
def SendProgress.call : SendProgress → Nat × UInt16
  | .running c => c.call
  | .ended o => o.call

/-- `I` holds of the call that goes on, or `O` of what it returns. -/
def SendProgress.Holds (I : SendCall → Prop) (O : SendOutcome → Prop) : SendProgress → Prop
  | .running c => I c
  | .ended o => O o

namespace SendCall

/-- A call that has just got the lock, before its first attempt. -/
def fresh (ticket : Nat) (cmd : UInt16) : SendCall :=
  { ticket := ticket, pending := { commandId := cmd, expectedRespIds := expectedResponses cmd } }

/-- `_send_attempt` up to its call of `send_raw`. -/
def beginAttempt (c : SendCall) : SendCall :=
  { c with
    pending := { c.pending with attempts := c.pending.attempts + 1, ackReceived := false, success := none }
    phase := .writing }

/-- The call returns or raises. -/
def finish (status : Option UInt16) (r : CallResult) (c : SendCall) : SendProgress :=
  .ended ⟨c.ticket, c.pending.commandId, c.answered, status, r⟩

/-- `_RetryableSerialError` -/
def retryLater (maxAttempts : Nat) (c : SendCall) : SendProgress :=
  if c.pending.attempts < maxAttempts then .running { c with phase := .sleeping } else c.finish none .false

/-- `completion.wait` has returned. -/
def completed (maxAttempts : Nat) (c : SendCall) : SendProgress :=
  if c.pending.success = some true then c.finish none (.returned c.pending.responsePayload)
  else if c.pending.failureStatus.isSome then c.finish c.pending.failureStatus .false
  else c.retryLater maxAttempts

def onTransmit (c : SendCall) : SendCall := if c.phase = .writing then { c with transmitted := true } else c

/-- `wait` on an event that is set returns at once. -/
def onRaw (maxAttempts : Nat) (c : SendCall) : Link.RawResult → SendProgress
  | .sent =>
    let c := { c with phase := .waiting, transmitted := true }
    if c.pending.completion then c.completed maxAttempts else .running c
  | .failed => c.finish none .false
  | .raised => c.finish none .raised

/-- The frame answers the command: its response, or for a command without one an ACK that names it or nothing. -/
def isAnswer (h : McuHost) (cmd : UInt32) (payload : Payload) (p : PendingCommand) : Bool :=
  (cmd == Status.ack.toUnderlying.toUInt32 && Link.ackTarget h p payload == p.commandId.toUInt32 &&
    p.expectedRespIds.isEmpty) ||
  (cmd != Status.ack.toUnderlying.toUInt32 && responseToRequest cmd == some p.commandId)

/-- `_correlate_frame` -/
def correlate (h : McuHost) (cmd : UInt32) (payload : Payload) (c : SendCall) : SendCall :=
  if c.registered then
    let pending := Link.correlatePending h cmd payload c.pending
    { c with
      pending := pending
      answered := c.answered || (c.transmitted && !c.refused && isAnswer h cmd payload c.pending)
      refused := c.refused || (c.pending.success.isNone && pending.success == some false) }
  else c

def next (maxAttempts : Nat) : SendEvent → SendCall → SendProgress
  | .transmit, c => .running c.onTransmit
  | .raw r, c => if c.phase = .writing then c.onRaw maxAttempts r else .running c
  | .frame h cmd payload, c => .running (c.correlate h cmd payload)
  | .timeout, c => if c.phase = .waiting then c.retryLater maxAttempts else .running c
  | .completion, c => if c.phase = .waiting ∧ c.pending.completion then c.completed maxAttempts else .running c
  | .retry, c => if c.phase = .sleeping then .running c.beginAttempt else .running c
  | _, c => .running c

end SendCall

namespace SendCalls

def init (maxAttempts : Nat) : SendCalls := { maxAttempts := maxAttempts }

/-- The holder of the lock starts its call. -/
def begin (ticket : Nat) (cmd : UInt16) (s : SendCalls) : SendCalls :=
  { s with current := some (SendCall.fresh ticket cmd).beginAttempt }

/-- A call that ends releases the lock. -/
def proceed (s : SendCalls) : SendProgress → SendCalls
  | .running c => { s with current := some c }
  | .ended o => { s with current := none, lock := s.lock.release, outcomes := s.outcomes ++ [o] }

/-- A call of `send`. -/
def send (cmd : UInt16) (s : SendCalls) : SendCalls :=
  let t := { s with tickets := s.tickets + 1, lock := s.lock.acquire (.send s.tickets cmd) }
  if s.lock.isFree then t.begin s.tickets cmd else t

/-- The body of `reset`. -/
def resetBody (ticket : Nat) (during : Option Nat) (s : SendCalls) : SendCalls :=
  { s with
    current := s.current.map fun c => { c with
      pending := if c.registered then c.pending.markFailure (some Status.timeout.toUnderlying) else c.pending
      registered := false }
    lock := s.lock.release
    resets := s.resets ++ [⟨ticket, during, s.current.any fun c => c.registered⟩] }

/-- A call of `reset`. -/
def reset (s : SendCalls) : SendCalls :=
  let during := s.current.map SendCall.ticket
  let t := { s with tickets := s.tickets + 1, lock := s.lock.acquire (.reset s.tickets during) }
  if s.lock.isFree then t.resetBody s.tickets during else t

def grant (s : SendCalls) : SendCalls :=
  match s.lock.holder, s.lock.waiters with
  | none, .send ticket cmd :: _ => { s with lock := s.lock.grant }.begin ticket cmd
  | none, .reset ticket during :: _ => { s with lock := s.lock.grant }.resetBody ticket during
  | _, _ => s

/-- An event of the call in flight. -/
def advance (e : SendEvent) (s : SendCalls) : SendCalls :=
  match s.current with
  | some c => s.proceed (c.next s.maxAttempts e)
  | none => s

def step : SendEvent → SendCalls → SendCalls
  | .send cmd, s => s.send cmd
  | .reset, s => s.reset
  | .grant, s => s.grant
  | e, s => s.advance e

/-! ### What a step does -/

/-- No task but the holder of the lock has a pending command. -/
structure Locked (s : SendCalls) : Prop where
  held : s.lock.holder = none → s.current = none
  registered : ∀ c, s.current = some c → c.registered = true

theorem Locked.of_free {s : SendCalls} (h : s.Locked) (hfree : s.lock.isFree = true) : s.current = none := by
  refine h.held ?_
  unfold FifoLock.isFree at hfree
  rw [Bool.and_eq_true, Option.isNone_iff_eq_none] at hfree
  exact hfree.1

@[simp] theorem proceed_maxAttempts (s : SendCalls) (p : SendProgress) : (s.proceed p).maxAttempts = s.maxAttempts := by
  cases p <;> rfl

theorem advance_cases (e : SendEvent) (s : SendCalls) :
    s.current = none ∧ s.advance e = s ∨ ∃ c, s.current = some c ∧ s.advance e = s.proceed (c.next s.maxAttempts e) := by
  unfold advance
  cases s.current with
  | none => exact .inl ⟨rfl, rfl⟩
  | some c => exact .inr ⟨c, rfl, rfl⟩

/-- What a step does to the call in flight, the outcomes and the resets: a task without the lock changes nothing; a
call begins, with the lock; a `reset` runs where no command is pending; or the call in flight goes on or ends. -/
theorem step_cases {s : SendCalls} (h : s.Locked) (e : SendEvent) :
    (step e s).maxAttempts = s.maxAttempts ∧
    (((step e s).current = s.current ∧ (step e s).outcomes = s.outcomes ∧ (step e s).resets = s.resets ∧
        (step e s).lock.holder = s.lock.holder) ∨
      (∃ ticket cmd, s.current = none ∧ (step e s).current = some (SendCall.fresh ticket cmd).beginAttempt ∧
        (step e s).outcomes = s.outcomes ∧ (step e s).resets = s.resets ∧ (step e s).lock.holder ≠ none) ∨
      (∃ ticket during, (during = none ∨ .reset ticket during ∈ s.lock.waiters) ∧ s.current = none ∧
        (step e s).current = none ∧ (step e s).outcomes = s.outcomes ∧
        (step e s).resets = s.resets ++ [⟨ticket, during, false⟩]) ∨
      ∃ c, s.current = some c ∧ step e s = s.proceed (c.next s.maxAttempts e)) := by
  cases e with
  | send cmd =>
    simp only [step, send]
    split
    case isTrue hfree =>
      refine ⟨rfl, .inr (.inl ⟨s.tickets, cmd, h.of_free hfree, rfl, rfl, rfl, ?_⟩)⟩
      simp [begin, FifoLock.acquire_of_free hfree]
    case isFalse hfree =>
      refine ⟨rfl, .inl ⟨rfl, rfl, rfl, ?_⟩⟩
      simp [FifoLock.acquire_of_not_free (Bool.eq_false_iff.2 hfree)]
  | reset =>
    simp only [step, reset]
    split
    case isTrue hfree =>
      have hnone := h.of_free hfree
      refine ⟨rfl, .inr (.inr (.inl ⟨s.tickets, none, .inl rfl, hnone, ?_, rfl, ?_⟩))⟩
      · simp only [resetBody, hnone, Option.map_none]
      · simp only [resetBody, hnone, Option.map_none, Option.any_none]
    case isFalse hfree =>
      refine ⟨rfl, .inl ⟨rfl, rfl, rfl, ?_⟩⟩
      simp [FifoLock.acquire_of_not_free (Bool.eq_false_iff.2 hfree)]
  | grant =>
    simp only [step, grant]
    split
    case h_1 ticket cmd rest hholder hwaiters =>
      refine ⟨rfl, .inr (.inl ⟨ticket, cmd, h.held hholder, rfl, rfl, rfl, ?_⟩)⟩
      simp [begin, FifoLock.grant, hholder, hwaiters]
    case h_2 ticket during rest hholder hwaiters =>
      have hnone := h.held hholder
      have hmem : .reset ticket during ∈ s.lock.waiters := hwaiters ▸ List.mem_cons_self
      refine ⟨rfl, .inr (.inr (.inl ⟨ticket, during, .inr hmem, hnone, ?_, rfl, ?_⟩))⟩
      · simp only [resetBody, hnone, Option.map_none]
      · simp only [resetBody, hnone, Option.any_none]
    case h_3 => exact ⟨rfl, .inl ⟨rfl, rfl, rfl, rfl⟩⟩
  | _ =>
    simp only [step]
    rcases advance_cases _ s with ⟨-, h⟩ | ⟨c, hcur, h⟩
    · rw [h]
      exact ⟨rfl, .inl ⟨rfl, rfl, rfl, rfl⟩⟩
    · rw [h]
      exact ⟨proceed_maxAttempts s _, .inr (.inr (.inr ⟨c, hcur, rfl⟩))⟩

theorem init_locked (maxAttempts : Nat) : (init maxAttempts).Locked := ⟨fun _ => rfl, fun _ h => by cases h⟩

end SendCalls

namespace SendCall

theorem correlate_registered (h : McuHost) (cmd : UInt32) (payload : Payload) (c : SendCall) :
    (c.correlate h cmd payload).registered = c.registered := by
  unfold correlate
  split
  · rfl
  · rfl

theorem retryLater_cases (maxAttempts : Nat) (c : SendCall) :
    c.retryLater maxAttempts = .running { c with phase := .sleeping } ∨
      c.retryLater maxAttempts = c.finish none .false := by
  unfold retryLater
  split
  · exact .inl rfl
  · exact .inr rfl

theorem completed_cases (maxAttempts : Nat) (c : SendCall) :
    (c.pending.success = some true ∧ c.completed maxAttempts = c.finish none (.returned c.pending.responsePayload)) ∨
      (c.pending.success ≠ some true ∧
        ((∃ st, c.pending.failureStatus = some st ∧ c.completed maxAttempts = c.finish (some st) .false) ∨
          c.completed maxAttempts = c.retryLater maxAttempts)) := by
  unfold completed
  split
  case isTrue h => exact .inl ⟨h, rfl⟩
  case isFalse h =>
    refine .inr ⟨h, ?_⟩
    split
    case isTrue hst =>
      obtain ⟨st, hst⟩ := Option.isSome_iff_exists.1 hst
      exact .inl ⟨st, hst, by rw [hst]⟩
    case isFalse => exact .inr rfl

/-- What an event makes of a call. -/
inductive Next (maxAttempts : Nat) (c : SendCall) : SendEvent → SendProgress → Prop where
  | idle (e : SendEvent) : Next maxAttempts c e (.running c)
  | transmitted (hphase : c.phase = .writing) : Next maxAttempts c .transmit (.running { c with transmitted := true })
  | written (hphase : c.phase = .writing) :
    Next maxAttempts c (.raw .sent) (.running { c with phase := .waiting, transmitted := true })
  | complete (hphase : c.phase = .writing) :
    Next maxAttempts c (.raw .sent) (({ c with phase := .waiting, transmitted := true } : SendCall).completed maxAttempts)
  | failed (hphase : c.phase = .writing) : Next maxAttempts c (.raw .failed) (c.finish none .false)
  | raised (hphase : c.phase = .writing) : Next maxAttempts c (.raw .raised) (c.finish none .raised)
  | frame (h : McuHost) (cmd : UInt32) (payload : Payload) :
    Next maxAttempts c (.frame h cmd payload) (.running (c.correlate h cmd payload))
  | timeout (hphase : c.phase = .waiting) : Next maxAttempts c .timeout (c.retryLater maxAttempts)
  | completion (hphase : c.phase = .waiting) : Next maxAttempts c .completion (c.completed maxAttempts)
  | retry (hphase : c.phase = .sleeping) : Next maxAttempts c .retry (.running c.beginAttempt)

theorem next_next (maxAttempts : Nat) (e : SendEvent) (c : SendCall) : Next maxAttempts c e (c.next maxAttempts e) := by
  cases e with
  | send cmd => exact .idle _
  | reset => exact .idle _
  | grant => exact .idle _
  | transmit =>
    simp only [next, onTransmit]
    split
    case isTrue h => exact .transmitted h
    case isFalse => exact .idle _
  | raw r =>
    simp only [next]
    split
    case isTrue hphase =>
      cases r with
      | sent =>
        simp only [onRaw]
        split
        · exact .complete hphase
        · exact .written hphase
      | failed => exact .failed hphase
      | raised => exact .raised hphase
    case isFalse => exact .idle _
  | frame h cmd payload => exact .frame h cmd payload
  | timeout =>
    simp only [next]
    split
    case isTrue h => exact .timeout h
    case isFalse => exact .idle _
  | completion =>
    simp only [next]
    split
    case isTrue h => exact .completion h.1
    case isFalse => exact .idle _
  | retry =>
    simp only [next]
    split
    case isTrue h => exact .retry h
    case isFalse => exact .idle _

theorem retryLater_running {maxAttempts : Nat} {c c' : SendCall} (h : c.retryLater maxAttempts = .running c') :
    c' = { c with phase := .sleeping } := by
  rcases retryLater_cases maxAttempts c with hr | hr
  · exact (SendProgress.running.inj (hr.symm.trans h)).symm
  · cases hr.symm.trans h

/-- A call that goes on after its wait sleeps. -/
theorem completed_running {maxAttempts : Nat} {c c' : SendCall} (h : c.completed maxAttempts = .running c') :
    c' = { c with phase := .sleeping } := by
  rcases completed_cases maxAttempts c with ⟨-, hc⟩ | ⟨-, ⟨st, -, hc⟩ | hc⟩
  · cases hc.symm.trans h
  · cases hc.symm.trans h
  · exact retryLater_running (hc.symm.trans h)

theorem next_registered {maxAttempts : Nat} {e : SendEvent} {c c' : SendCall} (h : c.next maxAttempts e = .running c') :
    c'.registered = c.registered := by
  have hnext := c.next_next maxAttempts e
  generalize c.next maxAttempts e = p at h hnext
  cases hnext with
  | idle => cases h; rfl
  | transmitted => cases h; rfl
  | written => cases h; rfl
  | complete => rw [completed_running h]
  | failed => cases h
  | raised => cases h
  | frame h' cmd payload =>
    cases h
    exact correlate_registered h' cmd payload c
  | timeout => rw [retryLater_running h]
  | completion => rw [completed_running h]
  | retry => cases h; rfl

/-! ### The command of a call -/

@[simp] theorem retryLater_call (maxAttempts : Nat) (c : SendCall) : (c.retryLater maxAttempts).call = c.call := by
  rcases retryLater_cases maxAttempts c with h | h
  · rw [h]
    rfl
  · rw [h]
    rfl

@[simp] theorem completed_call (maxAttempts : Nat) (c : SendCall) : (c.completed maxAttempts).call = c.call := by
  rcases completed_cases maxAttempts c with ⟨-, h⟩ | ⟨-, ⟨st, -, h⟩ | h⟩
  · rw [h]
    rfl
  · rw [h]
    rfl
  · rw [h, retryLater_call]

theorem correlate_call (h : McuHost) (cmd : UInt32) (payload : Payload) (c : SendCall) :
    (c.correlate h cmd payload).call = c.call := by
  unfold correlate
  split
  · simp only [call, Link.correlatePending_commandId]
  · rfl

theorem next_call (maxAttempts : Nat) (e : SendEvent) (c : SendCall) : (c.next maxAttempts e).call = c.call := by
  have hnext := c.next_next maxAttempts e
  generalize c.next maxAttempts e = p at hnext
  cases hnext with
  | idle => rfl
  | transmitted => rfl
  | written => rfl
  | complete => exact completed_call maxAttempts _
  | failed => rfl
  | raised => rfl
  | frame h cmd payload => exact correlate_call h cmd payload c
  | timeout => exact retryLater_call maxAttempts c
  | completion => exact completed_call maxAttempts c
  | retry => rfl

end SendCall

namespace SendCalls

theorem step_locked {s : SendCalls} (h : s.Locked) (e : SendEvent) : (step e s).Locked := by
  rcases (step_cases h e).2 with ⟨hcur, -, -, hholder⟩ | ⟨ticket, cmd, -, hcur, -, -, hholder⟩ |
    ⟨ticket, during, -, -, hcur, -⟩ | ⟨c, hcur, hstep⟩
  · refine ⟨fun hnone => hcur.trans (h.held (hholder.symm.trans hnone)), fun c hc => h.registered c (hcur.symm.trans hc)⟩
  · refine ⟨fun hnone => absurd hnone hholder, fun c hc => ?_⟩
    cases hcur.symm.trans hc
    rfl
  · refine ⟨fun _ => hcur, fun c hc => ?_⟩
    cases hcur.symm.trans hc
  · rw [hstep]
    cases hnext : c.next s.maxAttempts e with
    | running c' =>
      refine ⟨fun hnone => ?_, fun c'' hc'' => ?_⟩
      · rw [h.held hnone] at hcur
        cases hcur
      · cases hc''
        rw [SendCall.next_registered hnext]
        exact h.registered c hcur
    | ended o => exact ⟨fun _ => rfl, fun _ hc => by cases hc⟩

/-- The invariant rule for calls: what a call has from its first attempt on and every event keeps holds of the call in
flight, and what every end of such a call has holds of the outcomes. -/
theorem step_invariant {I : SendCall → Prop} {O : SendOutcome → Prop} {s : SendCalls} {e : SendEvent} (h : s.Locked)
    (hfresh : ∀ ticket cmd, I (SendCall.fresh ticket cmd).beginAttempt)
    (hnext : ∀ c, s.current = some c → I c → (c.next s.maxAttempts e).Holds I O)
    (hI : ∀ c, s.current = some c → I c) (hO : ∀ o ∈ s.outcomes, O o) :
    (∀ c, (step e s).current = some c → I c) ∧ ∀ o ∈ (step e s).outcomes, O o := by
  rcases (step_cases h e).2 with ⟨hcur, hout, -⟩ | ⟨ticket, cmd, -, hcur, hout, -⟩ | ⟨ticket, during, -, -, hcur, hout, -⟩ |
    ⟨c, hcur, hstep⟩
  · rw [hcur, hout]
    exact ⟨hI, hO⟩
  · rw [hcur, hout]
    refine ⟨fun c hc => ?_, hO⟩
    cases hc
    exact hfresh ticket cmd
  · rw [hcur, hout]
    refine ⟨fun c hc => ?_, hO⟩
    cases hc
  · have hc := hnext c hcur (hI c hcur)
    rw [hstep]
    cases hn : c.next s.maxAttempts e with
    | running c' =>
      rw [hn] at hc
      refine ⟨fun c'' hc'' => ?_, hO⟩
      cases hc''
      exact hc
    | ended o =>
      rw [hn] at hc
      constructor
      · intro c' hc'
        cases hc'
      · intro o' ho'
        rcases List.mem_append.1 ho' with ho' | ho'
        · exact hO o' ho'
        · rw [List.mem_singleton.1 ho']
          exact hc

end SendCalls
end Daemon
end McuBridge
