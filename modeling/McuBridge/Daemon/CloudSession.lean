import McuBridge.Daemon.RequestErrors
import McuBridge.Lib.Broadcast

/-! # The cloud session (`services/runtime.py`, `run_cloud`, `connect_cloud_session` and `_cloud_incoming_worker`)

A session reads envelopes in one task and handles their command requests in another, with `_cloud_incoming_queue` between
the two. The queue has no bound and outlives the session. When the stream ends, or the worker's task has failed, the
worker is cancelled, `queue.get` or the request it handles raises `CancelledError`, and the task group waits for it. An
exception is retried, by `run_cloud` or by `supervise`; a stream that the gateway ends in order is a result, so that
`run_cloud` returns and nobody calls it again. The shutdown of the daemon is not modelled. -/

namespace McuBridge
namespace Daemon
open Broadcast

/-- The payloads of the gateway that the read loop tells apart. -/
inductive GatewayPayload where
  | pong
  | commandRequest (commandPath : Text) (payload : Bytes)
  | other

/-- A request of `_cloud_incoming_queue`. -/
structure IncomingRequest where
  request : BridgeRequest
  correlationData : Bytes

/-- `topic_path(self.state.topic_prefix, cmd.command_path)` is the topic. -/
def incomingRequest (topicPrefix : Text) (sequenceId : UInt64) (commandPath : Text) (payload : Bytes) : IncomingRequest :=
  ⟨⟨joinSlash (([topicPrefix, commandPath].map stripSlashes).filter fun s => !s.isEmpty), payload⟩, be64 sequenceId⟩

/-- The task of `_cloud_incoming_worker`. -/
inductive IncomingWorker where
  | waiting
  | handling (m : IncomingRequest)
  | ended (failed : Bool)

inductive CloudPhase where
  /-- Between two sessions, until the worker of the next one is created. -/
  | connecting
  | reading
  /-- The loop over the stream is over, and `worker_task.cancel()` has been called. -/
  | closing (clean : Bool)
  /-- `run_cloud` has returned. -/
  | returned
  deriving DecidableEq

/-- How the handling of a request ended. -/
inductive Handling where
  | returned (job : CloudJob)
  | interrupted

/-- `received`, `handled` and `sessions` are records: the requests put on the queue, those that are over, and the
workers created. -/
structure CloudLink where
  topicPrefix : Text
  phase : CloudPhase
  worker : IncomingWorker
  queue : List IncomingRequest
  tasksDone : Nat
  received : List IncomingRequest
  handled : List (IncomingRequest × Handling)
  sessions : Nat

inductive CloudLinkEvent where
  | opened
  | envelope (sequenceId : UInt64) (payload : GatewayPayload)
  | take
  /-- `handle_request` returns or raises, as it does with this host. -/
  | requestEnds (host : McuHost) (faults : Faults) (service : Service)
  | streamEnds (clean : Bool)
  /-- The cancellation reaches the worker. -/
  | workerCancelled
  | sessionEnds

/-- The exception leaves the worker, or the worker is cancelled. -/
def Handling.endsWorker : Handling → Bool
  | .returned j => (j.raises.filter fun e => !e.isCaught).isSome
  | .interrupted => true

namespace CloudLink

def init (topicPrefix : Text) : CloudLink := ⟨topicPrefix, .connecting, .ended false, [], 0, [], [], 0⟩

def opened (s : CloudLink) : CloudLink :=
  if s.phase = .connecting then { s with phase := .reading, worker := .waiting, sessions := s.sessions + 1 } else s

/-- One turn of `async for envelope in stream`. -/
def envelope (sequenceId : UInt64) (payload : GatewayPayload) (s : CloudLink) : CloudLink :=
  if s.phase = .reading then
    match payload with
    | .commandRequest commandPath payload =>
      let m := incomingRequest s.topicPrefix sequenceId commandPath payload
      { s with queue := s.queue ++ [m], received := s.received ++ [m] }
    | .pong | .other => s
  else s

def take (s : CloudLink) : CloudLink :=
  match s.worker, s.queue with
  | .waiting, m :: rest => { s with worker := .handling m, queue := rest }
  | _, _ => s

/-- The `finally` of the request. -/
def taskDone (m : IncomingRequest) (h : Handling) (s : CloudLink) : CloudLink :=
  { s with handled := s.handled ++ [(m, h)], tasksDone := s.tasksDone + 1 }

def requestEnds (host : McuHost) (faults : Faults) (service : Service) (s : CloudLink) : CloudLink :=
  match s.worker with
  | .handling m =>
    let h := Handling.returned ⟨host, faults, service, m.request⟩
    { s.taskDone m h with worker := if h.endsWorker then .ended true else .waiting }
  | _ => s

def streamEnds (clean : Bool) (s : CloudLink) : CloudLink :=
  if s.phase = .reading then { s with phase := .closing clean } else s

def workerCancelled (s : CloudLink) : CloudLink :=
  match s.phase, s.worker with
  | .closing _, .waiting => { s with worker := .ended false }
  | .closing _, .handling m => { s.taskDone m .interrupted with worker := .ended false }
  | _, _ => s

/-- The task group raises the worker's exception, whatever the stream ended with. -/
def sessionEnds (s : CloudLink) : CloudLink :=
  match s.phase, s.worker with
  | .closing clean, .ended failed => { s with phase := if clean && !failed then .returned else .connecting }
  | _, _ => s

def step : CloudLinkEvent → CloudLink → CloudLink
  | .opened, s => s.opened
  | .envelope sequenceId payload, s => s.envelope sequenceId payload
  | .take, s => s.take
  | .requestEnds host faults service, s => s.requestEnds host faults service
  | .streamEnds clean, s => s.streamEnds clean
  | .workerCancelled, s => s.workerCancelled
  | .sessionEnds, s => s.sessionEnds

/-- The request the worker handles. -/
def current (s : CloudLink) : Option IncomingRequest :=
  match s.worker with
  | .handling m => some m
  | _ => none

/-- The worker as a subscriber of the requests received. -/
def inbox (s : CloudLink) : Subscriber IncomingRequest := ⟨0, s.handled.map Prod.fst, s.current, s.queue⟩

def alive (s : CloudLink) : Bool :=
  match s.worker with
  | .ended _ => false
  | _ => true

/-- The handlings that ended a worker. -/
def fatal (s : CloudLink) : List (IncomingRequest × Handling) := s.handled.filter fun h => h.2.endsWorker

/-! ### The invariant -/

structure Served (s : CloudLink) : Prop where
  follows : Follows s.received s.inbox
  done : s.tasksDone = s.handled.length
  /-- Each worker ends once. -/
  fatal : s.fatal.length + s.alive.toNat ≤ s.sessions
  jobs : ∀ m j, (m, Handling.returned j) ∈ s.handled → j.request = m.request
  /-- Between two sessions there is no worker. -/
  idle : s.phase = .connecting ∨ s.phase = .returned → s.alive = false

variable {s : CloudLink}

theorem current_of_not_alive (h : s.alive = false) : s.current = none := by
  unfold alive at h
  unfold current
  cases hw : s.worker with
  | ended => rfl
  | _ => simp [hw] at h

theorem served_init (topicPrefix : Text) : (init topicPrefix).Served :=
  ⟨.join [], rfl, Nat.le_refl _, nofun, fun _ => rfl⟩

/-- What `Served` speaks of, apart from the phase. -/
theorem Served.congr (h : s.Served) {t : CloudLink} (hreceived : t.received = s.received) (hinbox : t.inbox = s.inbox)
    (hhandled : t.handled = s.handled) (hdone : t.tasksDone = s.tasksDone)
    (hsessions : s.sessions + t.alive.toNat ≤ t.sessions + s.alive.toNat)
    (hidle : t.phase = .connecting ∨ t.phase = .returned → t.alive = false) : t.Served := by
  have hfatal : t.fatal = s.fatal := by
    unfold CloudLink.fatal
    rw [hhandled]
  refine ⟨hreceived ▸ hinbox ▸ h.follows, by rw [hdone, hhandled, h.done], ?_, hhandled ▸ h.jobs, hidle⟩
  have hle := h.fatal
  rw [hfatal]
  omega

theorem Served.opened (h : s.Served) : s.opened.Served := by
  unfold CloudLink.opened
  split
  case isTrue hphase =>
    have halive := h.idle (.inl hphase)
    refine h.congr rfl ?_ rfl rfl ?_ nofun
    · simp only [inbox, current_of_not_alive halive]
      rfl
    · rw [halive]
      exact Nat.le_refl _
  case isFalse => exact h

theorem Served.envelope (h : s.Served) (sequenceId : UInt64) (payload : GatewayPayload) :
    (s.envelope sequenceId payload).Served := by
  unfold CloudLink.envelope
  split
  · cases payload with
    | commandRequest => exact ⟨h.follows.publish _, h.done, h.fatal, h.jobs, h.idle⟩
    | pong | other => exact h
  · exact h

theorem Served.take (h : s.Served) : s.take.Served := by
  unfold CloudLink.take
  split
  case h_1 m rest hworker hqueue =>
    have hcurrent : s.current = none := by simp [current, hworker]
    have halive : s.alive = true := by simp [alive, hworker]
    refine ⟨h.follows.take hcurrent hqueue, h.done, ?_, h.jobs, fun hphase => ?_⟩
    · have hle := h.fatal
      rw [halive] at hle
      exact hle
    · have hdead := h.idle hphase
      rw [halive] at hdead
      cases hdead
  case h_2 => exact h

/-- A request is over; the worker that goes on is the one of the session. -/
theorem Served.taskDone (h : s.Served) {m : IncomingRequest} (hworker : s.worker = .handling m) {e : Handling}
    (hjob : ∀ j, e = .returned j → j.request = m.request) {w : IncomingWorker} (hcurrent : ∀ n, w ≠ .handling n)
    (hw : e.endsWorker = true → w ≠ .waiting) : ({ s.taskDone m e with worker := w } : CloudLink).Served := by
  have hm : s.current = some m := by simp [current, hworker]
  have halive : s.alive = true := by simp [alive, hworker]
  have hnone : ({ s.taskDone m e with worker := w } : CloudLink).current = none := by
    cases w with
    | handling n => exact absurd rfl (hcurrent n)
    | waiting | ended => rfl
  have hle := h.fatal
  rw [halive] at hle
  refine ⟨?_, ?_, ?_, fun n j hmem => ?_, fun hphase => ?_⟩
  · have hsent := h.follows.send hm
    rw [inbox, hnone]
    show Follows s.received ⟨0, (s.handled ++ [(m, e)]).map Prod.fst, none, s.queue⟩
    rw [List.map_append]
    exact hsent
  · show s.tasksDone + 1 = (s.handled ++ [(m, e)]).length
    rw [List.length_append, h.done]
    rfl
  · have hfatal : ({ s.taskDone m e with worker := w } : CloudLink).fatal =
        s.fatal ++ [(m, e)].filter fun h => h.2.endsWorker := List.filter_append ..
    rw [hfatal, List.length_append]
    show s.fatal.length + _ + _ ≤ s.sessions
    cases he : e.endsWorker with
    | false =>
      rw [List.filter_cons_of_neg (by simp [he])]
      exact Nat.le_trans (Nat.add_le_add_left (Bool.toNat_le _) _) hle
    | true =>
      have hdead : ({ s.taskDone m e with worker := w } : CloudLink).alive = false := by
        cases w with
        | handling n => exact absurd rfl (hcurrent n)
        | waiting => exact absurd rfl (hw he)
        | ended => rfl
      rw [hdead, List.filter_cons_of_pos (by simp [he])]
      exact hle
  · rcases List.mem_append.1 hmem with hold | hnew
    · exact h.jobs n j hold
    · obtain ⟨rfl, rfl⟩ := Prod.mk.inj (List.mem_singleton.1 hnew)
      exact hjob j rfl
  · have hdead := h.idle hphase
    rw [halive] at hdead
    cases hdead

theorem Served.requestEnds (h : s.Served) (host : McuHost) (faults : Faults) (service : Service) :
    (s.requestEnds host faults service).Served := by
  unfold CloudLink.requestEnds
  split
  case h_1 m hworker =>
    refine h.taskDone hworker (fun j hj => ?_) (fun n => ?_) fun hends => ?_
    · cases hj
      rfl
    · split <;> nofun
    · rw [if_pos hends]
      nofun
  case h_2 => exact h

theorem Served.streamEnds (h : s.Served) (clean : Bool) : (s.streamEnds clean).Served := by
  unfold CloudLink.streamEnds
  split
  · exact ⟨h.follows, h.done, h.fatal, h.jobs, nofun⟩
  · exact h

theorem Served.workerCancelled (h : s.Served) : s.workerCancelled.Served := by
  unfold CloudLink.workerCancelled
  split
  case h_1 hphase hworker =>
    refine h.congr rfl ?_ rfl rfl ?_ fun _ => rfl
    · simp [inbox, current, hworker]
    · exact Nat.le_add_right _ _
  case h_2 m hphase hworker => exact h.taskDone hworker (fun j hj => by cases hj) nofun nofun
  case h_3 => exact h

theorem Served.sessionEnds (h : s.Served) : s.sessionEnds.Served := by
  unfold CloudLink.sessionEnds
  split
  case h_1 clean failed hphase hworker =>
    have hdead : s.alive = false := by simp [alive, hworker]
    exact ⟨h.follows, h.done, h.fatal, h.jobs, fun _ => hdead⟩
  case h_2 => exact h

theorem Served.step (h : s.Served) (e : CloudLinkEvent) : (s.step e).Served := by
  cases e with
  | opened => exact h.opened
  | envelope sequenceId payload => exact h.envelope sequenceId payload
  | take => exact h.take
  | requestEnds host faults service => exact h.requestEnds host faults service
  | streamEnds clean => exact h.streamEnds clean
  | workerCancelled => exact h.workerCancelled
  | sessionEnds => exact h.sessionEnds

/-! ### Runs -/

theorem endsWorker_returned_iff {j : CloudJob} : (Handling.returned j).endsWorker = true ↔ ¬ j.Safe := by
  rw [← CloudJob.raises_caught_iff]
  simp only [Handling.endsWorker, Option.isSome_filter, Option.any_eq_true, Bool.not_eq_true', not_forall, exists_prop,
    Bool.not_eq_true]

theorem step_returned (h : s.Served) (hphase : s.phase = .returned) (e : CloudLinkEvent) : step e s = s := by
  have hdead := h.idle (.inr hphase)
  unfold alive at hdead
  cases e with
  | opened | envelope | streamEnds => simp [step, CloudLink.opened, CloudLink.envelope, CloudLink.streamEnds, hphase]
  | take | requestEnds | workerCancelled | sessionEnds =>
    cases hworker : s.worker with
    | ended failed =>
      simp [step, CloudLink.take, CloudLink.requestEnds, CloudLink.workerCancelled, CloudLink.sessionEnds, hphase, hworker]
    | waiting | handling => simp [hworker] at hdead

/-- Over any number of sessions the requests are handled in the order in which they came, each at most once; a session
ends at most one of them before it is done, or is ended by one that raises what the worker does not catch. After a
session that the gateway ends in order nothing happens any more. -/
theorem cloud_requests (topicPrefix : Text) (es : List CloudLinkEvent) :
    (Run.run step (init topicPrefix) es).received =
        (Run.run step (init topicPrefix) es).handled.map Prod.fst ++
          (Run.run step (init topicPrefix) es).current.toList ++ (Run.run step (init topicPrefix) es).queue ∧
      (Run.run step (init topicPrefix) es).tasksDone = (Run.run step (init topicPrefix) es).handled.length ∧
      (Run.run step (init topicPrefix) es).fatal.length ≤ (Run.run step (init topicPrefix) es).sessions ∧
      (∀ m j, (m, Handling.returned j) ∈ (Run.run step (init topicPrefix) es).handled →
        j.request = m.request ∧ ((Handling.returned j).endsWorker = true ↔ ¬ j.Safe)) ∧
      ((Run.run step (init topicPrefix) es).phase = .returned →
        ∀ more, Run.run step (Run.run step (init topicPrefix) es) more = Run.run step (init topicPrefix) es) := by
  have hserved : (Run.run step (init topicPrefix) es).Served :=
    Run.run_invariant (fun _ e h => h.step e) (served_init topicPrefix) es
  generalize Run.run step (init topicPrefix) es = s at hserved ⊢
  refine ⟨?_, hserved.done, Nat.le_of_add_right_le hserved.fatal,
    fun m j hmem => ⟨hserved.jobs m j hmem, endsWorker_returned_iff⟩, fun hphase more => ?_⟩
  · exact hserved.follows.handed_eq.symm
  · induction more with
    | nil => rfl
    | cons e more ih =>
      show Run.run step (step e s) more = s
      rw [step_returned hserved hphase, ih]

end CloudLink
end Daemon
end McuBridge
