import McuBridge.Daemon.CloudSpool
import McuBridge.Lib.Run
import McuBridge.Lib.Semaphore

/-! # Where replies go (`services/runtime.py`, `LocalBridgeService`)

A request of the cloud or of a local client gives its handler a context, and `enqueue_cloud` finds the way of a reply
in the correlation data of the context alone: a key of `ipc_requests` leads to the queue of a `Publish` call, anything
else to the cloud, where a message with correlation data is a command response. Handlers may reply at any time, also
after the call is over, as the reads of a pin do. What was handed to the cloud is in `outgoing` until it is written or
dropped, in whatever order. -/

namespace McuBridge
namespace Daemon

/-- The k-th command request of the cloud stream, or the n-th call of `Publish`. -/
inductive Requester where
  | cloud (k : Nat)
  | ipc (n : Nat)
  deriving DecidableEq

/-- The part of a `BridgeRequest` that `resolve_cloud_context` reads. -/
structure ReplyContext where
  responseTopic : Option (List Char)
  correlationData : Option Bytes

def createQueuedPublish (topicName : List Char) (payload : Bytes) : CloudQueuedPublish := ⟨topicName, payload, none⟩

def resolveCloudContext (message : CloudQueuedPublish) : Option ReplyContext → CloudQueuedPublish
  | none => message
  | some ctx =>
    { message with
      topicName := ctx.responseTopic.getD message.topicName
      correlationData := ctx.correlationData.or message.correlationData }

/-- A resolved message and, for the record, whom it replies to. -/
structure Reply where
  origin : Option Requester
  message : CloudQueuedPublish
  deriving DecidableEq

/-- A call of `Publish` in progress. `queue` is its `response_queue`, of size one. -/
structure IpcCall where
  correlation : Bytes
  hasCorrelation : Bool
  queue : Option Reply
  deriving DecidableEq

/-- `correlations` has the correlation of each call of `Publish` so far, `received` the sequence ids of the command
requests; `delivered`, `sent` and `produced` are records. -/
structure Routing where
  deviceId : List Char
  ipcRequests : AList fun _ : Bytes => Nat
  calls : AList fun _ : Nat => IpcCall
  correlations : List Bytes
  received : List UInt64
  consoleQueues : List (List Reply)
  outgoing : List Reply
  delivered : List (Nat × Reply)
  sent : List (Reply × CloudEnvelope)
  produced : List Reply

inductive RoutingEvent where
  | commandRequest (sequenceId : UInt64)
  | publish (correlation : Option Bytes) (token : Bytes)
  | reply (who : Requester) (topicName : List Char) (payload : Bytes)
  | unsolicited (topicName : List Char) (payload : Bytes)
  | response (n : Nat)
  | ends (n : Nat)
  | cloudSends (i : Nat)
  | cloudDrops (i : Nat)
  | subscribeConsole
  | unsubscribeConsole (i : Nat)

namespace Routing

def init (deviceId : List Char) : Routing := ⟨deviceId, ∅, ∅, [], [], [], [], [], [], []⟩

/-- The `BridgeRequest` of a command request or of a `Publish` call, as a context. -/
def context (s : Routing) : Requester → Option ReplyContext
  | .cloud k => s.received[k]?.map fun seq => ⟨some "cloud".toList, some (be64 seq)⟩
  | .ipc n => s.correlations[n]?.map fun c => ⟨none, some c⟩

/-- `if correlation and correlation in self.ipc_requests`: the call whose queue is meant. -/
def ipcTarget (message : CloudQueuedPublish) (s : Routing) : Option Nat :=
  match message.correlationData with
  | some c => if c ≠ [] then s.ipcRequests.lookup c else none
  | none => none

/-- `put_nowait`; a full queue raises `QueueFull` and the message is lost. -/
def putNowait (n : Nat) (r : Reply) (s : Routing) : Routing :=
  match s.calls.lookup n with
  | some call =>
    match call.queue with
    | none => { s with calls := s.calls.insert n { call with queue := some r } }
    | some _ => s
  | none => s

/-- `enqueue_cloud` up to the cloud's publish lock. -/
def enqueueCloud (topicName : List Char) (payload : Bytes) (origin : Option Requester) (s : Routing) : Routing :=
  let message := resolveCloudContext (createQueuedPublish topicName payload) (origin.bind s.context)
  let r : Reply := ⟨origin, message⟩
  let s := { s with produced := s.produced ++ [r] }
  match s.ipcTarget message with
  | some n => s.putNowait n r
  | none =>
    let console := containsText "console".toList message.topicName
    { s with
      consoleQueues := if console then s.consoleQueues.map fun q => q ++ [r] else s.consoleQueues
      outgoing := s.outgoing ++ [r] }

/-- A handler replies to its request. -/
def reply (who : Requester) (topicName : List Char) (payload : Bytes) (s : Routing) : Routing :=
  if (s.context who).isSome then s.enqueueCloud topicName payload (some who) else s

/-- `Publish` up to the call of `handle_request`; `token` is what `secrets.token_bytes` gives. -/
def publish (correlation : Option Bytes) (token : Bytes) (s : Routing) : Routing :=
  let n := s.correlations.length
  let c := correlation.getD token
  { s with
    correlations := s.correlations ++ [c]
    calls := s.calls.insert n ⟨c, correlation.isSome, none⟩
    ipcRequests := if correlation.isSome then s.ipcRequests.insert c n else s.ipcRequests }

/-- The end of `Publish`, with its `finally` block. -/
def endCall (n : Nat) (call : IpcCall) (s : Routing) : Routing :=
  { s with
    calls := s.calls.erase n
    ipcRequests := if call.hasCorrelation then s.ipcRequests.erase call.correlation else s.ipcRequests }

/-- The call takes the response from its queue and sends it. -/
def response (n : Nat) (s : Routing) : Routing :=
  match s.calls.lookup n with
  | some call =>
    match call.queue with
    | some r => { s.endCall n call with delivered := s.delivered ++ [(n, r)] }
    | none => s
  | none => s

/-- The call ends without a response: it had no correlation data, its time is out, or it failed. -/
def ends (n : Nat) (s : Routing) : Routing :=
  match s.calls.lookup n with
  | some call => s.endCall n call
  | none => s

/-- `_publish_cloud_message` writes the message to the stream. -/
def cloudSends (i : Nat) (s : Routing) : Routing :=
  match s.outgoing[i]? with
  | some r => { s with outgoing := s.outgoing.eraseIdx i, sent := s.sent ++ [(r, cloudEnvelope s.deviceId r.message)] }
  | none => s

def step : RoutingEvent → Routing → Routing
  | .commandRequest seq, s => { s with received := s.received ++ [seq] }
  | .publish correlation token, s => s.publish correlation token
  | .reply who topicName payload, s => s.reply who topicName payload
  | .unsolicited topicName payload, s => s.enqueueCloud topicName payload none
  | .response n, s => s.response n
  | .ends n, s => s.ends n
  | .cloudSends i, s => s.cloudSends i
  | .cloudDrops i, s => { s with outgoing := s.outgoing.eraseIdx i }
  | .subscribeConsole, s => { s with consoleQueues := s.consoleQueues ++ [[]] }
  | .unsubscribeConsole i, s => { s with consoleQueues := s.consoleQueues.eraseIdx i }

/-! ### Statement -/

/-- The messages that reply to a request. -/
def replies (rs : List Reply) : List Reply := rs.filter fun r => r.origin.isSome

/-- The responses in the queues of the calls. -/
def queued (s : Routing) : List Reply := s.calls.entries.filterMap fun e => e.2.queue

/-- Each reply is in one place, on its way to its requester or with it; a local client gets its own replies, the cloud
those to its requests, with their sequence ids; console subscribers get none. -/
structure Routed (s : Routing) : Prop where
  queued : ∀ n call r, s.calls.lookup n = some call → call.queue = some r → r.origin = some (.ipc n)
  delivered : ∀ d ∈ s.delivered, d.2.origin = some (.ipc d.1)
  outgoing : ∀ r ∈ s.outgoing, ∀ who, r.origin = some who → ∃ k, who = .cloud k
  sent : ∀ x ∈ s.sent, ∀ who, x.1.origin = some who → ∃ k seq, who = .cloud k ∧ s.received[k]? = some seq ∧
    x.2.sequenceId = seq.toNat ∧ x.2.payload = .commandResponse 200 x.1.message.payload
  responses : ∀ x ∈ s.sent, ∀ status payload, x.2.payload = .commandResponse status payload →
    ∃ seq ∈ s.received, x.2.sequenceId = seq.toNat
  console : ∀ q ∈ s.consoleQueues, ∀ r ∈ q, r.origin = none
  once : (replies s.produced).Perm
    (s.queued ++ s.delivered.map Prod.snd ++ replies (s.outgoing ++ s.sent.map Prod.fst))

/-- A new call of `Publish` has correlation data that no call in progress has. A reply to a local call comes while the
call is in progress and is its first, and the call has correlation data that is not empty; a reply to a command request
finds no local call in progress with the sequence id for its correlation data. A call does not end with a response in
its queue, and no reply is dropped on the way to the cloud. -/
def Regular (s : Routing) : RoutingEvent → Prop
  | .publish (some c) _ => s.ipcRequests.lookup c = none
  | .reply (.ipc n) _ _ =>
    match s.calls.lookup n with
    | some call => call.hasCorrelation = true ∧ call.correlation ≠ [] ∧ call.queue = none
    | none => s.correlations.length ≤ n
  | .reply (.cloud k) _ _ =>
    match s.received[k]? with
    | some seq => s.ipcRequests.lookup (be64 seq) = none
    | none => True
  | .ends n =>
    match s.calls.lookup n with
    | some call => call.queue = none
    | none => True
  | .cloudDrops i =>
    match s.outgoing[i]? with
    | some r => r.origin = none
    | none => True
  | _ => True

/-! ### The map of the calls -/

/-- `ipc_requests` has the calls in progress that have correlation data, and no others. -/
structure Registered (s : Routing) : Prop where
  known : ∀ {n call}, s.calls.lookup n = some call → s.correlations[n]? = some call.correlation
  mapped : ∀ {c n}, s.ipcRequests.lookup c = some n →
    ∃ call, s.calls.lookup n = some call ∧ call.correlation = c ∧ call.hasCorrelation = true
  own : ∀ {n call}, s.calls.lookup n = some call → call.hasCorrelation = true →
    s.ipcRequests.lookup call.correlation = some n

namespace Registered
variable {s t : Routing}

theorem congr (h : s.Registered) (hcalls : t.calls = s.calls) (hreq : t.ipcRequests = s.ipcRequests)
    (hcorr : t.correlations = s.correlations) : t.Registered := by
  refine ⟨?_, ?_, ?_⟩ <;> simp only [hcalls, hreq, hcorr]
  exacts [h.known, h.mapped, h.own]

theorem fresh (h : s.Registered) : s.calls.lookup s.correlations.length = none := by
  cases hlook : s.calls.lookup s.correlations.length with
  | none => rfl
  | some call =>
    have hknown := h.known hlook
    rw [List.getElem?_eq_none (Nat.le_refl _)] at hknown
    cases hknown

/-- A new call is added under a key that nobody has. -/
theorem publish (h : s.Registered) {correlation : Option Bytes} (token : Bytes)
    (hfree : ∀ c, correlation = some c → s.ipcRequests.lookup c = none) : (s.publish correlation token).Registered := by
  have hne : ∀ {n call}, s.calls.lookup n = some call → n ≠ s.correlations.length := by
    rintro n call hlook rfl
    cases h.fresh.symm.trans hlook
  have hold : ∀ {n call}, s.calls.lookup n = some call →
      (s.calls.insert s.correlations.length ⟨correlation.getD token, correlation.isSome, none⟩).lookup n = some call :=
    fun hlook => (AList.lookup_insert_ne (hne hlook)).trans hlook
  have hcases : ∀ {n call}, (s.publish correlation token).calls.lookup n = some call →
      (n = s.correlations.length ∧ call = ⟨correlation.getD token, correlation.isSome, none⟩) ∨
      (n ≠ s.correlations.length ∧ s.calls.lookup n = some call) := by
    intro n call hlook
    by_cases heq : n = s.correlations.length
    · subst heq
      exact .inl ⟨rfl, Option.some.inj (hlook.symm.trans (AList.lookup_insert s.calls))⟩
    · exact .inr ⟨heq, (AList.lookup_insert_ne heq).symm.trans hlook⟩
  refine ⟨fun hlook => ?_, fun {c n} hlook => ?_, fun {n call} hlook hhas => ?_⟩
  · rcases hcases hlook with ⟨rfl, rfl⟩ | ⟨-, hlook⟩
    · exact List.getElem?_concat_length ..
    · have hknown := h.known hlook
      exact (List.getElem?_append_left (List.getElem?_eq_some_iff.1 hknown).1).trans hknown
  · cases correlation with
    | none =>
      obtain ⟨call, hcall, hc⟩ := h.mapped hlook
      exact ⟨call, hold hcall, hc⟩
    | some c₀ =>
      by_cases heq : c = c₀
      · subst heq
        cases (AList.lookup_insert s.ipcRequests).symm.trans hlook
        exact ⟨_, AList.lookup_insert s.calls, rfl, rfl⟩
      · obtain ⟨call, hcall, hc⟩ := h.mapped ((AList.lookup_insert_ne heq).symm.trans hlook)
        exact ⟨call, hold hcall, hc⟩
  · cases correlation with
    | none =>
      rcases hcases hlook with ⟨rfl, rfl⟩ | ⟨-, hlook⟩
      · cases hhas
      · exact h.own hlook hhas
    | some c₀ =>
      rcases hcases hlook with ⟨rfl, rfl⟩ | ⟨-, hlook⟩
      · exact AList.lookup_insert s.ipcRequests
      · have hown := h.own hlook hhas
        have hne₀ : call.correlation ≠ c₀ := by
          rintro rfl
          cases (hfree _ rfl).symm.trans hown
        exact (AList.lookup_insert_ne hne₀).trans hown

/-- The end of a call removes its own key. -/
theorem endCall (h : s.Registered) {n : Nat} {call : IpcCall} (hcall : s.calls.lookup n = some call) :
    (s.endCall n call).Registered := by
  have hcases : ∀ {n' call'}, (s.calls.erase n).lookup n' = some call' → n' ≠ n ∧ s.calls.lookup n' = some call' := by
    intro n' call' hlook
    have hne : n' ≠ n := by
      rintro rfl
      cases (AList.lookup_erase n' s.calls).symm.trans hlook
    exact ⟨hne, (AList.lookup_erase_ne hne).symm.trans hlook⟩
  refine ⟨fun hlook => h.known (hcases hlook).2, fun {c n'} hlook => ?_, fun {n' call'} hlook hhas => ?_⟩
  · have hreq : s.ipcRequests.lookup c = some n' ∧ (call.hasCorrelation = true → c ≠ call.correlation) := by
      change (if call.hasCorrelation then s.ipcRequests.erase call.correlation else s.ipcRequests).lookup c = _ at hlook
      split at hlook
      · have hne : c ≠ call.correlation := by
          rintro rfl
          cases (AList.lookup_erase _ s.ipcRequests).symm.trans hlook
        exact ⟨(AList.lookup_erase_ne hne).symm.trans hlook, fun _ => hne⟩
      case isFalse hno => exact ⟨hlook, fun hyes => absurd hyes hno⟩
    obtain ⟨call', hcall', hc, hhas⟩ := h.mapped hreq.1
    have hne : n' ≠ n := by
      rintro rfl
      cases hcall.symm.trans hcall'
      exact hreq.2 hhas hc.symm
    exact ⟨call', (AList.lookup_erase_ne hne).trans hcall', hc, hhas⟩
  · obtain ⟨hne, hcall'⟩ := hcases hlook
    have hown := h.own hcall' hhas
    show (if call.hasCorrelation then s.ipcRequests.erase call.correlation else s.ipcRequests).lookup _ = _
    split
    case isTrue hyes =>
      have hdiff : call'.correlation ≠ call.correlation := fun heq =>
        hne (Option.some.inj ((heq ▸ hown).symm.trans (h.own hcall hyes)))
      exact (AList.lookup_erase_ne hdiff).trans hown
    case isFalse => exact hown

/-- Filling the queue of a call changes nothing here. -/
theorem fill (h : s.Registered) {n : Nat} {call : IpcCall} (hcall : s.calls.lookup n = some call) (r : Reply) :
    ({ s with calls := s.calls.insert n { call with queue := some r } }).Registered := by
  have hcases : ∀ {n' call'}, (s.calls.insert n { call with queue := some r }).lookup n' = some call' →
      ∃ old, s.calls.lookup n' = some old ∧ old.correlation = call'.correlation ∧
        old.hasCorrelation = call'.hasCorrelation := by
    intro n' call' hlook
    by_cases heq : n' = n
    · subst heq
      cases (AList.lookup_insert s.calls).symm.trans hlook
      exact ⟨call, hcall, rfl, rfl⟩
    · exact ⟨call', (AList.lookup_insert_ne heq).symm.trans hlook, rfl, rfl⟩
  refine ⟨fun hlook => ?_, fun {c n'} hlook => ?_, fun hlook hhas => ?_⟩
  · obtain ⟨old, hold, hcorr, -⟩ := hcases hlook
    exact hcorr ▸ h.known hold
  · obtain ⟨call', hcall', hc⟩ := h.mapped hlook
    by_cases heq : n' = n
    · subst heq
      cases hcall.symm.trans hcall'
      exact ⟨_, AList.lookup_insert s.calls, hc⟩
    · exact ⟨call', (AList.lookup_insert_ne heq).trans hcall', hc⟩
  · obtain ⟨old, hold, hcorr, hhas'⟩ := hcases hlook
    exact hcorr ▸ h.own hold (hhas'.trans hhas)

end Registered

/-! ### The queues of the calls -/

section Queues
variable {s : Routing} {n : Nat} {call : IpcCall}

theorem queued_perm_erase (hcall : s.calls.lookup n = some call) :
    s.queued.Perm (call.queue.toList ++ (s.calls.erase n).entries.filterMap fun e => e.2.queue) := by
  have hperm := (AList.entries_perm_erase hcall).filterMap fun e : (_ : Nat) × IpcCall => e.2.queue
  cases hqueue : call.queue with
  | none => simpa only [queued, List.filterMap_cons, hqueue, Option.toList, List.nil_append] using hperm
  | some r => simpa only [queued, List.filterMap_cons, hqueue, Option.toList, List.singleton_append] using hperm

theorem queued_fill (hcall : s.calls.lookup n = some call) (hempty : call.queue = none) (r : Reply) :
    ({ s with calls := s.calls.insert n { call with queue := some r } }).queued.Perm (r :: s.queued) := by
  have hold := queued_perm_erase hcall
  rw [hempty] at hold
  exact (hold.symm.cons r)

theorem queued_publish (correlation : Option Bytes) (token : Bytes)
    (hfresh : s.calls.lookup s.correlations.length = none) : (s.publish correlation token).queued = s.queued := by
  unfold queued publish
  dsimp only
  rw [AList.entries_insert_of_notMem (AList.lookup_eq_none.1 hfresh), List.filterMap_cons]

end Queues

theorem replies_append (rs rs' : List Reply) : replies (rs ++ rs') = replies rs ++ replies rs' := List.filter_append ..

theorem replies_none {r : Reply} (h : r.origin = none) : replies [r] = [] := by simp [replies, h]

theorem replies_some {r : Reply} {who : Requester} (h : r.origin = some who) : replies [r] = [r] := by simp [replies, h]

theorem replies_eraseIdx {rs : List Reply} {i : Nat} {r : Reply} (h : rs[i]? = some r) :
    (replies rs).Perm (replies [r] ++ replies (rs.eraseIdx i)) := by
  obtain ⟨hlt, rfl⟩ := List.getElem?_eq_some_iff.1 h
  rw [← replies_append]
  exact (List.getElem_cons_eraseIdx_perm hlt).symm.filter _

/-! ### Envelopes -/

/-- The correlation data of a command request is its sequence id. -/
theorem cloudEnvelope_response (deviceId topicName : List Char) (payload : Bytes) (seq : UInt64) :
    (cloudEnvelope deviceId ⟨topicName, payload, some (be64 seq)⟩).sequenceId = seq.toNat ∧
    (cloudEnvelope deviceId ⟨topicName, payload, some (be64 seq)⟩).payload = .commandResponse 200 payload := by
  have hne : be64 seq ≠ [] := List.cons_ne_nil _ _
  unfold cloudEnvelope
  dsimp only [Option.getD_some]
  rw [if_pos hne]
  refine ⟨?_, rfl⟩
  rw [show (be64 seq).take 8 = be64 seq from rfl]
  exact foldl_be64 seq

theorem cloudEnvelope_telemetry (deviceId topicName : List Char) (payload : Bytes) (status : Nat) (body : Bytes) :
    (cloudEnvelope deviceId ⟨topicName, payload, none⟩).payload ≠ .commandResponse status body := by
  unfold cloudEnvelope
  simp only [Option.getD_none, ne_eq, not_true_eq_false, if_false]
  split
  · simp
  split
  · simp
  split
  · simp
  · simp

/-! ### Places -/

/-- What may be handed to the cloud: a message of no request, or a reply to a command request with its sequence id. -/
def ForCloud (received : List UInt64) (r : Reply) : Prop :=
  (r.origin = none ∧ r.message.correlationData = none) ∨
  ∃ k seq, r.origin = some (.cloud k) ∧ received[k]? = some seq ∧ r.message.correlationData = some (be64 seq)

theorem ForCloud.mono {received : List UInt64} {r : Reply} (h : ForCloud received r) (seq : UInt64) :
    ForCloud (received ++ [seq]) r := by
  rcases h with h | ⟨k, seq', horigin, hreceived, hcorr⟩
  · exact .inl h
  · have hlt := (List.getElem?_eq_some_iff.1 hreceived).1
    exact .inr ⟨k, seq', horigin, (List.getElem?_append_left hlt).trans hreceived, hcorr⟩

/-- Each reply is where it belongs. -/
structure Placed (s : Routing) : Prop where
  registered : s.Registered
  queued : ∀ {n call}, s.calls.lookup n = some call → ∀ {r}, call.queue = some r → r.origin = some (.ipc n)
  delivered : ∀ d ∈ s.delivered, d.2.origin = some (.ipc d.1)
  away : ∀ r ∈ s.outgoing ++ s.sent.map Prod.fst, ForCloud s.received r
  envelopes : ∀ x ∈ s.sent, x.2 = cloudEnvelope s.deviceId x.1.message
  console : ∀ q ∈ s.consoleQueues, ∀ r ∈ q, r.origin = none
  once : (replies s.produced).Perm
    (s.queued ++ s.delivered.map Prod.snd ++ replies (s.outgoing ++ s.sent.map Prod.fst))

namespace Placed
variable {s : Routing}

theorem init (deviceId : List Char) : (init deviceId).Placed where
  registered := by
    refine ⟨fun h => ?_, fun h => ?_, fun h => ?_⟩ <;> cases h
  queued := by
    intro n call h
    cases h
  delivered := by simp [Routing.init]
  away := by simp [Routing.init]
  envelopes := by simp [Routing.init]
  console := by simp [Routing.init]
  once := List.Perm.refl _

/-- A message that finds no queue goes to the cloud. -/
theorem hand (h : s.Placed) (r : Reply) (hcloud : ForCloud s.received r)
    (hconsole : containsText "console".toList r.message.topicName = true → r.origin = none) :
    ({ s with
      produced := s.produced ++ [r]
      consoleQueues := if containsText "console".toList r.message.topicName then
        s.consoleQueues.map fun q => q ++ [r] else s.consoleQueues
      outgoing := s.outgoing ++ [r] }).Placed where
  registered := h.registered.congr rfl rfl rfl
  queued := h.queued
  delivered := h.delivered
  away := by
    intro r' hr'
    rcases List.mem_append.1 hr' with hr' | hr'
    · rcases List.mem_append.1 hr' with hr' | hr'
      · exact h.away r' (List.mem_append_left _ hr')
      · rw [List.mem_singleton.1 hr']
        exact hcloud
    · exact h.away r' (List.mem_append_right _ hr')
  envelopes := h.envelopes
  console := by
    intro q hq r' hr'
    dsimp only at hq
    split at hq
    case isTrue hyes =>
      obtain ⟨q₀, hq₀, rfl⟩ := List.mem_map.1 hq
      rcases List.mem_append.1 hr' with hr' | hr'
      · exact h.console q₀ hq₀ r' hr'
      · rw [List.mem_singleton.1 hr']
        exact hconsole hyes
    case isFalse => exact h.console q hq r' hr'
  once := by
    show (replies (s.produced ++ [r])).Perm (s.queued ++ _ ++ replies (s.outgoing ++ [r] ++ s.sent.map Prod.fst))
    refine List.perm_iff_count.2 fun a => ?_
    have honce := h.once.count_eq a
    simp only [replies_append, List.count_append] at honce ⊢
    omega

/-- A reply to a local call is put into the queue of the call. -/
theorem fill (h : s.Placed) {n : Nat} {call : IpcCall} (hcall : s.calls.lookup n = some call)
    (hempty : call.queue = none) {r : Reply} (horigin : r.origin = some (.ipc n)) :
    ({ s with produced := s.produced ++ [r], calls := s.calls.insert n { call with queue := some r } }).Placed where
  registered := (h.registered.fill hcall r).congr rfl rfl rfl
  queued := by
    intro n' call' hlook r' hr'
    by_cases heq : n' = n
    · subst heq
      cases (AList.lookup_insert s.calls).symm.trans hlook
      cases hr'
      exact horigin
    · exact h.queued ((AList.lookup_insert_ne heq).symm.trans hlook) hr'
  delivered := h.delivered
  away := h.away
  envelopes := h.envelopes
  console := h.console
  once := by
    refine List.perm_iff_count.2 fun a => ?_
    have honce := h.once.count_eq a
    have hfill := (queued_fill hcall hempty r).count_eq a
    change List.count a (replies (s.produced ++ [r])) =
      List.count a (({ s with calls := s.calls.insert n { call with queue := some r } } : Routing).queued ++
        s.delivered.map Prod.snd ++ replies (s.outgoing ++ s.sent.map Prod.fst))
    rw [replies_append, replies_some horigin]
    simp only [List.count_append, List.count_cons, List.count_nil] at honce hfill ⊢
    omega

theorem unsolicited (h : s.Placed) (topicName : List Char) (payload : Bytes) :
    (s.enqueueCloud topicName payload none).Placed :=
  h.hand ⟨none, createQueuedPublish topicName payload⟩ (.inl ⟨rfl, rfl⟩) fun _ => rfl

/-- `enqueue_cloud` for a request, when the reply is regular. -/
theorem reply (h : s.Placed) {who : Requester} {topicName : List Char} {payload : Bytes}
    (hreg : s.Regular (.reply who topicName payload)) : (s.reply who topicName payload).Placed := by
  unfold Routing.reply
  split
  case isFalse => exact h
  case isTrue hsome =>
    cases who with
    | cloud k =>
      obtain ⟨ctx, hctx⟩ := Option.isSome_iff_exists.1 hsome
      obtain ⟨seq, hseq, rfl⟩ := Option.map_eq_some_iff.1 hctx
      have hfree : s.ipcRequests.lookup (be64 seq) = none := by simpa only [Regular, hseq] using hreg
      have htarget : s.ipcTarget (resolveCloudContext (createQueuedPublish topicName payload)
          (s.context (.cloud k))) = none := by
        rw [hctx]
        unfold ipcTarget
        dsimp only [resolveCloudContext, Option.some_or]
        split
        · exact hfree
        · rfl
      unfold enqueueCloud
      dsimp only [Option.bind_some]
      rw [show ({ s with produced := s.produced ++ [_] } : Routing).ipcTarget _ = none from htarget]
      refine h.hand ⟨some (.cloud k), _⟩ (.inr ⟨k, seq, rfl, hseq, ?_⟩) fun hconsole => ?_
      · rw [hctx]
        rfl
      · rw [hctx] at hconsole
        have hcloud : containsText "console".toList "cloud".toList = false := by decide
        cases hcloud.symm.trans hconsole
    | ipc n =>
      obtain ⟨ctx, hctx⟩ := Option.isSome_iff_exists.1 hsome
      obtain ⟨c, hc, rfl⟩ := Option.map_eq_some_iff.1 hctx
      cases hcall : s.calls.lookup n with
      | none =>
        have hle : s.correlations.length ≤ n := by simpa only [Regular, hcall] using hreg
        rw [List.getElem?_eq_none hle] at hc
        cases hc
      | some call =>
        obtain ⟨hhas, hne, hempty⟩ : call.hasCorrelation = true ∧ call.correlation ≠ [] ∧ call.queue = none := by
          simpa only [Regular, hcall] using hreg
        obtain rfl : call.correlation = c := Option.some.inj ((h.registered.known hcall).symm.trans hc)
        have htarget : s.ipcTarget (resolveCloudContext (createQueuedPublish topicName payload)
            (s.context (.ipc n))) = some n := by
          rw [hctx]
          unfold ipcTarget
          dsimp only [resolveCloudContext, Option.some_or]
          rw [if_pos hne]
          exact h.registered.own hcall hhas
        unfold enqueueCloud
        dsimp only [Option.bind_some]
        rw [show ({ s with produced := s.produced ++ [_] } : Routing).ipcTarget _ = some n from htarget]
        dsimp only
        unfold putNowait
        dsimp only
        rw [hcall]
        dsimp only
        rw [hempty]
        exact h.fill hcall hempty rfl

theorem publish (h : s.Placed) {correlation : Option Bytes} {token : Bytes}
    (hreg : s.Regular (.publish correlation token)) : (s.publish correlation token).Placed where
  registered := by
    refine h.registered.publish token fun c hc => ?_
    subst hc
    exact hreg
  queued := by
    intro n call hlook r hr
    by_cases heq : n = s.correlations.length
    · subst heq
      cases (AList.lookup_insert s.calls).symm.trans hlook
      cases hr
    · exact h.queued ((AList.lookup_insert_ne heq).symm.trans hlook) hr
  delivered := h.delivered
  away := h.away
  envelopes := h.envelopes
  console := h.console
  once := by
    show (replies s.produced).Perm ((s.publish correlation token).queued ++ _ ++ _)
    rw [queued_publish correlation token h.registered.fresh]
    exact h.once

/-- A call ends; the response in its queue, if there was one, has been sent. -/
theorem endCall (h : s.Placed) {n : Nat} {call : IpcCall} (hcall : s.calls.lookup n = some call) :
    ({ s.endCall n call with delivered := s.delivered ++ call.queue.toList.map fun r => (n, r) }).Placed where
  registered := (h.registered.endCall hcall).congr rfl rfl rfl
  queued := by
    intro n' call' hlook r hr
    have hne : n' ≠ n := by
      rintro rfl
      cases (AList.lookup_erase n' s.calls).symm.trans hlook
    exact h.queued ((AList.lookup_erase_ne hne).symm.trans hlook) hr
  delivered := by
    intro d hd
    rcases List.mem_append.1 hd with hd | hd
    · exact h.delivered d hd
    · obtain ⟨r, hr, rfl⟩ := List.mem_map.1 hd
      exact h.queued hcall (Option.mem_toList.1 hr)
  away := h.away
  envelopes := h.envelopes
  console := h.console
  once := by
    refine List.perm_iff_count.2 fun a => ?_
    have honce := h.once.count_eq a
    have herase := (queued_perm_erase hcall).count_eq a
    change List.count a (replies s.produced) = List.count a ((s.calls.erase n).entries.filterMap (fun e => e.2.queue) ++
      (s.delivered ++ call.queue.toList.map fun r => (n, r)).map Prod.snd ++
      replies (s.outgoing ++ s.sent.map Prod.fst))
    have hsnd : (call.queue.toList.map fun r => (n, r)).map Prod.snd = call.queue.toList := by
      rw [List.map_map]
      exact List.map_id _
    rw [List.map_append, hsnd]
    simp only [List.count_append] at honce herase ⊢
    omega

theorem cloudSends (h : s.Placed) (i : Nat) : (s.cloudSends i).Placed := by
  unfold Routing.cloudSends
  split
  case h_2 => exact h
  case h_1 r hr =>
    have hmem : r ∈ s.outgoing := List.mem_of_getElem? hr
    refine ⟨h.registered.congr rfl rfl rfl, h.queued, h.delivered, fun r' hr' => ?_, fun x hx => ?_, h.console, ?_⟩
    · apply h.away r'
      rcases List.mem_append.1 hr' with hr' | hr'
      · exact List.mem_append_left _ (List.mem_of_mem_eraseIdx hr')
      · rw [List.map_append] at hr'
        rcases List.mem_append.1 hr' with hr' | hr'
        · exact List.mem_append_right _ hr'
        · rw [List.mem_singleton.1 hr']
          exact List.mem_append_left _ hmem
    · rcases List.mem_append.1 hx with hx | hx
      · exact h.envelopes x hx
      · rw [List.mem_singleton.1 hx]
    · refine List.perm_iff_count.2 fun a => ?_
      have honce := h.once.count_eq a
      have herase := (replies_eraseIdx hr).count_eq a
      change _ = List.count a (s.queued ++ _ ++ replies (s.outgoing.eraseIdx i ++ (s.sent ++ [(r, _)]).map Prod.fst))
      rw [List.map_append]
      simp only [replies_append, List.count_append, List.map_cons, List.map_nil] at honce herase ⊢
      omega

theorem cloudDrops (h : s.Placed) {i : Nat} (hreg : s.Regular (.cloudDrops i)) :
    ({ s with outgoing := s.outgoing.eraseIdx i }).Placed := by
  refine ⟨h.registered.congr rfl rfl rfl, h.queued, h.delivered, fun r hr => ?_, h.envelopes, h.console, ?_⟩
  · apply h.away r
    rcases List.mem_append.1 hr with hr | hr
    · exact List.mem_append_left _ (List.mem_of_mem_eraseIdx hr)
    · exact List.mem_append_right _ hr
  · refine List.perm_iff_count.2 fun a => ?_
    have honce := h.once.count_eq a
    change _ = List.count a (s.queued ++ _ ++ replies (s.outgoing.eraseIdx i ++ s.sent.map Prod.fst))
    cases hr : s.outgoing[i]? with
    | none =>
      rw [List.eraseIdx_of_length_le (List.getElem?_eq_none_iff.1 hr)]
      exact honce
    | some r =>
      have hnone : r.origin = none := by simpa only [Regular, hr] using hreg
      have herase := (replies_eraseIdx hr).count_eq a
      rw [replies_none hnone, List.nil_append] at herase
      simp only [replies_append, List.count_append] at honce herase ⊢
      omega

theorem step (h : s.Placed) {e : RoutingEvent} (hreg : s.Regular e) : (step e s).Placed := by
  cases e with
  | commandRequest seq =>
    exact ⟨h.registered.congr rfl rfl rfl, h.queued, h.delivered, fun r hr => (h.away r hr).mono seq, h.envelopes,
      h.console, h.once⟩
  | publish correlation token => exact h.publish hreg
  | reply who topicName payload => exact h.reply hreg
  | unsolicited topicName payload => exact h.unsolicited topicName payload
  | response n =>
    show (s.response n).Placed
    unfold Routing.response
    split
    case h_1 call hcall =>
      have hend := h.endCall hcall
      split
      case h_1 r hr =>
        rw [hr] at hend
        exact hend
      case h_2 => exact h
    case h_2 => exact h
  | ends n =>
    show (s.ends n).Placed
    unfold Routing.ends
    split
    case h_1 call hcall =>
      have hnone : call.queue = none := by simpa only [Regular, hcall] using hreg
      have hend := h.endCall hcall
      simp only [hnone, Option.toList, List.map_nil, List.append_nil] at hend
      exact hend
    case h_2 => exact h
  | cloudSends i => exact h.cloudSends i
  | cloudDrops i => exact h.cloudDrops hreg
  | subscribeConsole =>
    refine ⟨h.registered.congr rfl rfl rfl, h.queued, h.delivered, h.away, h.envelopes, fun q hq r hr => ?_, h.once⟩
    rcases List.mem_append.1 hq with hq | hq
    · exact h.console q hq r hr
    · rw [List.mem_singleton.1 hq] at hr
      cases hr
  | unsubscribeConsole i =>
    exact ⟨h.registered.congr rfl rfl rfl, h.queued, h.delivered, h.away, h.envelopes,
      fun q hq r hr => h.console q (List.mem_of_mem_eraseIdx hq) r hr, h.once⟩

theorem routed (h : s.Placed) : s.Routed where
  queued := fun _ _ _ hcall hr => h.queued hcall hr
  delivered := h.delivered
  outgoing := by
    intro r hr who horigin
    rcases h.away r (List.mem_append_left _ hr) with ⟨hnone, -⟩ | ⟨k, seq, hk, -, -⟩
    · cases hnone.symm.trans horigin
    · exact ⟨k, Option.some.inj (horigin.symm.trans hk)⟩
  sent := by
    intro x hx who horigin
    rcases h.away x.1 (List.mem_append_right _ (List.mem_map_of_mem hx)) with ⟨hnone, -⟩ | ⟨k, seq, hk, hseq, hcorr⟩
    · cases hnone.symm.trans horigin
    · have henv := cloudEnvelope_response s.deviceId x.1.message.topicName x.1.message.payload seq
      rw [← hcorr, ← h.envelopes x hx] at henv
      exact ⟨k, seq, Option.some.inj (horigin.symm.trans hk), hseq, henv⟩
  responses := by
    intro x hx status payload hpayload
    rcases h.away x.1 (List.mem_append_right _ (List.mem_map_of_mem hx)) with ⟨-, hcorr⟩ | ⟨k, seq, -, hseq, hcorr⟩
    · have htel := cloudEnvelope_telemetry s.deviceId x.1.message.topicName x.1.message.payload status payload
      rw [← hcorr, ← h.envelopes x hx] at htel
      exact absurd hpayload htel
    · have henv := cloudEnvelope_response s.deviceId x.1.message.topicName x.1.message.payload seq
      rw [← hcorr, ← h.envelopes x hx] at henv
      exact ⟨seq, List.mem_of_getElem? hseq, henv.1⟩
  console := h.console
  once := h.once

end Placed

/-- In a run whose steps are regular every reply goes to its requester, and to nobody else. -/
theorem replies_routed (deviceId : List Char) {es : List RoutingEvent}
    (h : Run.Along step Regular (init deviceId) es) : (Run.run step (init deviceId) es).Routed :=
  (h.invariant (I := Placed) (fun _ _ hs hreg => hs.step hreg) (.init deviceId)).routed

/-- A command request and two local calls with correlation data of their own, answered out of order. -/
theorem replies_routed_sample :
    let es := [.commandRequest 5, .publish (some [1]) [], .publish (some [2]) [], .reply (.ipc 1) "t".toList [20],
      .reply (.cloud 0) "t".toList [30], .reply (.ipc 0) "t".toList [10], .response 0, .response 1, .cloudSends 0]
    Run.Along step Regular (init "yun".toList) es ∧ (Run.run step (init "yun".toList) es).Routed := by
  have h : Run.Along step Regular (init "yun".toList) [.commandRequest 5, .publish (some [1]) [],
      .publish (some [2]) [], .reply (.ipc 1) "t".toList [20], .reply (.cloud 0) "t".toList [30],
      .reply (.ipc 0) "t".toList [10], .response 0, .response 1, .cloudSends 0] := by
    refine ⟨trivial, ?_, ?_, ?_, ?_, ?_, trivial, trivial, trivial, trivial⟩
    · exact rfl
    · show AList.lookup _ _ = none
      decide +kernel
    · refine ⟨rfl, ?_, rfl⟩
      decide
    · show AList.lookup _ _ = none
      decide +kernel
    · refine ⟨rfl, ?_, rfl⟩
      decide
  exact ⟨h, replies_routed "yun".toList h⟩

/-- The reply to a local call without correlation data, and one that comes after its call has timed out, leave as
command responses to requests nobody made; of two calls with the same correlation data the second gets the reply to the
first. -/
theorem replies_misrouted :
    (let s := Run.run step (init "yun".toList) [.publish none [0, 0, 0, 0, 0, 0, 0, 9, 1, 2, 3, 4],
        .reply (.ipc 0) "br/system/bridge/summary/value".toList [1], .ends 0, .cloudSends 0]
     s.received = [] ∧ s.sent.map Prod.snd = [⟨2, "yun".toList, 9, .commandResponse 200 [1]⟩] ∧ ¬ s.Routed) ∧
    (let s := Run.run step (init "yun".toList) [.publish (some [7]) [], .ends 0,
        .reply (.ipc 0) "br/d/5/value".toList [1],
        .cloudSends 0]
     s.received = [] ∧ s.sent.map Prod.snd = [⟨2, "yun".toList, 7, .commandResponse 200 [1]⟩] ∧ ¬ s.Routed) ∧
    (let s := Run.run step (init "yun".toList) [.publish (some [7]) [], .publish (some [7]) [],
        .reply (.ipc 0) "br/d/5/value".toList [1], .response 1]
     s.delivered.map (fun d => (d.1, d.2.origin)) = [(1, some (.ipc 0))] ∧ ¬ s.Routed) := by
  refine ⟨⟨by decide +kernel, by decide +kernel, fun h => ?_⟩, ⟨by decide +kernel, by decide +kernel, fun h => ?_⟩,
    by decide +kernel, fun h => ?_⟩
  · obtain ⟨seq, hseq, -⟩ := h.responses _ (List.mem_singleton.2 rfl) 200 [1] (by decide +kernel)
    cases hseq
  · obtain ⟨seq, hseq, -⟩ := h.responses _ (List.mem_singleton.2 rfl) 200 [1] (by decide +kernel)
    cases hseq
  · have hown := h.delivered _ (List.mem_singleton.2 rfl)
    revert hown
    decide +kernel

end Routing
end Daemon
end McuBridge
