import McuBridge.Daemon.ReplyRouting
import McuBridge.Lib.Broadcast

/-! # Console subscribers (`services/runtime.py`, `SubscribeConsole` and `enqueue_cloud`)

`SubscribeConsole` puts an unbounded queue of its own on `console_queues` and then, until its stream breaks, takes a
message out and sends it. `enqueue_cloud` appends each message with "console" in its topic to all of these queues, once
it is clear that the message is no answer to a local call, and hands the message to the cloud after that. A call that
ends, by an error of its stream or because the client is gone, takes its queue off the list and leaves the rest of what
is in it. -/

namespace McuBridge
namespace Daemon
open Broadcast

/-- The locals of a call of `SubscribeConsole`; its queue is the one of `console_queues` with the same index. `joined` and
`sent` are records, `held` is `msg` while `stream.send_message` is awaited. -/
structure ConsoleStream where
  joined : Nat
  sent : List Reply
  held : Option Reply
  deriving DecidableEq

/-- `broadcasts`, `ended` and `dropped` are records: what `enqueue_cloud` put on the queues, the calls that are over, and
what was dropped on the way to the cloud. -/
structure Consoles where
  routing : Routing
  streams : List ConsoleStream
  broadcasts : List Reply
  ended : List ConsoleStream
  dropped : List Reply

inductive SubscriberEvent where
  | routing (e : RoutingEvent)
  | take (i : Nat)
  | sends (i : Nat)

/-- What `enqueue_cloud` puts on the queues of the subscribers. -/
def Routing.broadcast (topicName : List Char) (payload : Bytes) (origin : Option Requester) (s : Routing) : List Reply :=
  let message := resolveCloudContext (createQueuedPublish topicName payload) (origin.bind s.context)
  match s.ipcTarget message with
  | some _ => []
  | none => if containsText "console".toList message.topicName then [⟨origin, message⟩] else []

namespace Consoles

def init (deviceId : List Char) : Consoles := ⟨.init deviceId, [], [], [], []⟩

/-- The messages that an event puts on the queues. -/
def broadcast (s : Consoles) : RoutingEvent → List Reply
  | .reply who topicName payload =>
    if (s.routing.context who).isSome then s.routing.broadcast topicName payload (some who) else []
  | .unsolicited topicName payload => s.routing.broadcast topicName payload none
  | _ => []

/-- `msg = await queue.get()` -/
def take (i : Nat) (s : Consoles) : Consoles :=
  match s.streams[i]?, s.routing.consoleQueues[i]? with
  | some t, some (m :: q) =>
    if t.held = none then
      { s with
        streams := s.streams.set i { t with held := some m }
        routing := { s.routing with consoleQueues := s.routing.consoleQueues.set i q } }
    else s
  | _, _ => s

/-- `await stream.send_message(msg)` -/
def sends (i : Nat) (s : Consoles) : Consoles :=
  match s.streams[i]? with
  | some t =>
    match t.held with
    | some m => { s with streams := s.streams.set i { t with sent := t.sent ++ [m], held := none } }
    | none => s
  | none => s

def step : SubscriberEvent → Consoles → Consoles
  | .routing e, s =>
    let streams :=
      match e with
      | .subscribeConsole => s.streams ++ [⟨s.broadcasts.length, [], none⟩]
      | .unsubscribeConsole i => s.streams.eraseIdx i
      | _ => s.streams
    let ended :=
      match e with
      | .unsubscribeConsole i => s.ended ++ s.streams[i]?.toList
      | _ => s.ended
    let dropped :=
      match e with
      | .cloudDrops i => s.dropped ++ s.routing.outgoing[i]?.toList
      | _ => s.dropped
    ⟨Routing.step e s.routing, streams, s.broadcasts ++ s.broadcast e, ended, dropped⟩
  | .take i, s => s.take i
  | .sends i, s => s.sends i

/-- A call of `SubscribeConsole` with its queue. -/
def subscriber (t : ConsoleStream) (q : List Reply) : Subscriber Reply := ⟨t.joined, t.sent, t.held, q⟩

/-- What was handed to the cloud: it is on the way, written to the stream, or dropped. -/
def toCloud (s : Consoles) : List Reply := s.routing.outgoing ++ s.routing.sent.map Prod.fst ++ s.dropped

/-- Every subscriber has been handed the broadcasts since it came, in order and without a gap, and a call that is over
sent a prefix of them; every broadcast was handed to the cloud too, as often as it was broadcast. -/
structure Streamed (s : Consoles) : Prop where
  length_eq : s.streams.length = s.routing.consoleQueues.length
  follows : ∀ (i : Nat) t q, s.streams[i]? = some t → s.routing.consoleQueues[i]? = some q →
    Follows s.broadcasts (subscriber t q)
  ended : ∀ t ∈ s.ended, t.joined ≤ s.broadcasts.length ∧ t.sent <+: s.broadcasts.drop t.joined
  console : ∀ r ∈ s.broadcasts, containsText "console".toList r.message.topicName = true
  cloud : s.broadcasts.Subperm s.toCloud

/-! ### One event -/

section Event
variable {s : Routing}

theorem putNowait_consoleQueues (n : Nat) (r : Reply) (s : Routing) :
    (s.putNowait n r).consoleQueues = s.consoleQueues := by
  unfold Routing.putNowait
  split
  · split <;> rfl
  · rfl

theorem putNowait_outgoing (n : Nat) (r : Reply) (s : Routing) :
    (s.putNowait n r).outgoing = s.outgoing ∧ (s.putNowait n r).sent = s.sent := by
  unfold Routing.putNowait
  split
  · split <;> exact ⟨rfl, rfl⟩
  · exact ⟨rfl, rfl⟩

theorem enqueueCloud_consoleQueues (topicName : List Char) (payload : Bytes) (origin : Option Requester) (s : Routing) :
    (s.enqueueCloud topicName payload origin).consoleQueues =
      s.consoleQueues.map (· ++ s.broadcast topicName payload origin) := by
  have hnil : s.consoleQueues = s.consoleQueues.map (· ++ ([] : List Reply)) := by simp
  have htarget : ∀ message p, Routing.ipcTarget message { s with produced := p } = s.ipcTarget message :=
    fun _ _ => rfl
  simp only [Routing.enqueueCloud, Routing.broadcast, htarget]
  cases s.ipcTarget (resolveCloudContext (createQueuedPublish topicName payload) (origin.bind s.context)) with
  | some n => exact (putNowait_consoleQueues ..).trans hnil
  | none =>
    dsimp only
    split
    · rfl
    · exact hnil

/-- What goes to the subscribers goes to the cloud. -/
theorem enqueueCloud_outgoing (topicName : List Char) (payload : Bytes) (origin : Option Requester) (s : Routing) :
    ∃ rs, (s.enqueueCloud topicName payload origin).outgoing = s.outgoing ++ rs ∧
      (s.enqueueCloud topicName payload origin).sent = s.sent ∧ (s.broadcast topicName payload origin).Sublist rs := by
  have htarget : ∀ message p, Routing.ipcTarget message { s with produced := p } = s.ipcTarget message :=
    fun _ _ => rfl
  simp only [Routing.enqueueCloud, Routing.broadcast, htarget]
  cases s.ipcTarget (resolveCloudContext (createQueuedPublish topicName payload) (origin.bind s.context)) with
  | some n =>
    obtain ⟨houtgoing, hsent⟩ := putNowait_outgoing n
      ⟨origin, resolveCloudContext (createQueuedPublish topicName payload) (origin.bind s.context)⟩
      { s with produced := s.produced ++
        [⟨origin, resolveCloudContext (createQueuedPublish topicName payload) (origin.bind s.context)⟩] }
    exact ⟨[], houtgoing.trans (List.append_nil _).symm, hsent, List.Sublist.refl _⟩
  | none =>
    refine ⟨_, rfl, rfl, ?_⟩
    dsimp only
    split
    · exact List.Sublist.refl _
    · exact List.nil_sublist _

theorem mem_broadcast {topicName : List Char} {payload : Bytes} {origin : Option Requester} {r : Reply}
    (h : r ∈ s.broadcast topicName payload origin) : containsText "console".toList r.message.topicName = true := by
  unfold Routing.broadcast at h
  dsimp only at h
  split at h
  · cases h
  · split at h
    case isTrue hconsole =>
      obtain rfl := List.mem_singleton.1 h
      exact hconsole
    case isFalse => cases h

/-- Only a message that goes to the cloud changes the queues of the subscribers. -/
theorem step_consoleQueues (s : Consoles) (e : RoutingEvent) (hsub : e ≠ .subscribeConsole)
    (hunsub : ∀ i, e ≠ .unsubscribeConsole i) :
    (Routing.step e s.routing).consoleQueues = s.routing.consoleQueues.map (· ++ s.broadcast e) := by
  have hsame : ∀ t : Routing, t.consoleQueues = s.routing.consoleQueues →
      t.consoleQueues = s.routing.consoleQueues.map (· ++ ([] : List Reply)) := by
    intro t ht
    simpa using ht
  cases e with
  | reply who topicName payload =>
    simp only [Routing.step, Routing.reply, broadcast]
    split
    · exact enqueueCloud_consoleQueues ..
    · exact hsame _ rfl
  | unsolicited topicName payload => exact enqueueCloud_consoleQueues ..
  | response n =>
    refine hsame _ ?_
    simp only [Routing.step, Routing.response]
    split
    · split <;> rfl
    · rfl
  | ends n =>
    refine hsame _ ?_
    simp only [Routing.step, Routing.ends]
    split <;> rfl
  | cloudSends i =>
    refine hsame _ ?_
    simp only [Routing.step, Routing.cloudSends]
    split <;> rfl
  | commandRequest _ | publish _ _ | cloudDrops _ => exact hsame _ rfl
  | subscribeConsole => exact absurd rfl hsub
  | unsubscribeConsole i => exact absurd rfl (hunsub i)

/-- An event adds its broadcasts to what was handed to the cloud, and takes nothing away. -/
theorem step_toCloud (s : Consoles) (e : RoutingEvent) :
    ∃ rs, (step (.routing e) s).toCloud.Perm (s.toCloud ++ rs) ∧ (s.broadcast e).Sublist rs := by
  have hsame : ∀ {t : Consoles}, t.toCloud.Perm s.toCloud → ∃ rs, t.toCloud.Perm (s.toCloud ++ rs) ∧
      ([] : List Reply).Sublist rs :=
    fun h => ⟨[], by rwa [List.append_nil], List.Sublist.refl _⟩
  have hone : ∀ (t : Consoles) topicName payload origin,
      t.routing = s.routing.enqueueCloud topicName payload origin → t.dropped = s.dropped →
      ∃ rs, t.toCloud.Perm (s.toCloud ++ rs) ∧ (s.routing.broadcast topicName payload origin).Sublist rs := by
    intro t topicName payload origin hrouting hdropped
    obtain ⟨rs, houtgoing, hsent, hsub⟩ := enqueueCloud_outgoing topicName payload origin s.routing
    refine ⟨rs, ?_, hsub⟩
    unfold toCloud
    rw [hrouting, hdropped, houtgoing, hsent]
    refine List.perm_iff_count.2 fun a => ?_
    simp only [List.count_append]
    omega
  cases e with
  | reply who topicName payload =>
    simp only [broadcast]
    split
    case isTrue hsome => exact hone _ topicName payload (some who) (if_pos hsome) rfl
    case isFalse hnone =>
      refine hsame (.of_eq ?_)
      simp only [toCloud, step, Routing.step, Routing.reply, if_neg hnone]
  | unsolicited topicName payload => exact hone _ topicName payload none rfl rfl
  | response n =>
    refine hsame (.of_eq ?_)
    simp only [toCloud, step, Routing.step, Routing.response]
    split
    · split <;> rfl
    · rfl
  | ends n =>
    refine hsame (.of_eq ?_)
    simp only [toCloud, step, Routing.step, Routing.ends]
    split <;> rfl
  | cloudSends i =>
    refine hsame ?_
    simp only [toCloud, step, Routing.step, Routing.cloudSends]
    split
    case h_1 r hr =>
      obtain ⟨hlt, rfl⟩ := List.getElem?_eq_some_iff.1 hr
      refine List.perm_iff_count.2 fun a => ?_
      have herase := (List.getElem_cons_eraseIdx_perm hlt).count_eq a
      simp only [List.map_append, List.map_cons, List.map_nil, List.count_append, List.count_cons, List.count_nil] at herase ⊢
      omega
    · exact .refl _
  | cloudDrops i =>
    refine hsame ?_
    simp only [toCloud, step, Routing.step]
    cases hr : s.routing.outgoing[i]? with
    | none =>
      rw [List.eraseIdx_of_length_le (List.getElem?_eq_none_iff.1 hr)]
      simp
    | some r =>
      obtain ⟨hlt, rfl⟩ := List.getElem?_eq_some_iff.1 hr
      refine List.perm_iff_count.2 fun a => ?_
      have herase := (List.getElem_cons_eraseIdx_perm hlt).count_eq a
      simp only [Option.toList_some, List.count_append, List.count_cons, List.count_nil] at herase ⊢
      omega
  | commandRequest _ | publish _ _ | subscribeConsole | unsubscribeConsole _ => exact hsame (.refl _)

theorem mem_step_broadcast {s : Consoles} {e : RoutingEvent} {r : Reply} (h : r ∈ s.broadcast e) :
    containsText "console".toList r.message.topicName = true := by
  unfold broadcast at h
  split at h
  · split at h
    · exact mem_broadcast h
    · cases h
  · exact mem_broadcast h
  · cases h

end Event

/-! ### All events -/

namespace Streamed
variable {s : Consoles}

theorem cloud_step (h : s.Streamed) (e : RoutingEvent) :
    (Consoles.step (.routing e) s).broadcasts.Subperm (Consoles.step (.routing e) s).toCloud := by
  obtain ⟨rs, hperm, hsub⟩ := step_toCloud s e
  exact (h.cloud.append hsub.subperm).trans hperm.symm.subperm

/-- A message goes out to all subscribers. -/
theorem publish (h : s.Streamed) {e : RoutingEvent} (hsub : e ≠ .subscribeConsole)
    (hunsub : ∀ i, e ≠ .unsubscribeConsole i) : (Consoles.step (.routing e) s).Streamed := by
  have hstreams : (Consoles.step (.routing e) s).streams = s.streams := by
    cases e with
    | subscribeConsole => exact absurd rfl hsub
    | unsubscribeConsole i => exact absurd rfl (hunsub i)
    | _ => rfl
  have hended : (Consoles.step (.routing e) s).ended = s.ended := by
    cases e with
    | unsubscribeConsole i => exact absurd rfl (hunsub i)
    | _ => rfl
  have hqueues : (Consoles.step (.routing e) s).routing.consoleQueues =
      s.routing.consoleQueues.map (· ++ s.broadcast e) := step_consoleQueues s e hsub hunsub
  have hlog : (Consoles.step (.routing e) s).broadcasts = s.broadcasts ++ s.broadcast e := rfl
  refine ⟨?_, fun i t q ht hq => ?_, fun t ht => ?_, fun r hr => ?_, h.cloud_step e⟩
  · rw [hstreams, hqueues, List.length_map]
    exact h.length_eq
  · rw [hstreams] at ht
    rw [hqueues, List.getElem?_map, Option.map_eq_some_iff] at hq
    obtain ⟨q₀, hq₀, rfl⟩ := hq
    exact (h.follows i t q₀ ht hq₀).publish _
  · rw [hended] at ht
    obtain ⟨hle, hpre⟩ := h.ended t ht
    exact ⟨hle.trans (by simp [hlog]), sent_prefix_append hle hpre _⟩
  · rw [hlog] at hr
    rcases List.mem_append.1 hr with hr | hr
    · exact h.console r hr
    · exact mem_step_broadcast hr

/-- A new subscriber starts with an empty queue, after the broadcasts so far. -/
theorem subscribe (h : s.Streamed) : (step (.routing .subscribeConsole) s).Streamed := by
  have hlog : (step (.routing .subscribeConsole) s).broadcasts = s.broadcasts := List.append_nil _
  refine ⟨?_, fun i t q ht hq => ?_, by rw [hlog]; exact h.ended, by rw [hlog]; exact h.console,
    h.cloud_step _⟩
  · simp [step, Routing.step, h.length_eq]
  · rw [hlog]
    change (s.streams ++ [_])[i]? = some t at ht
    change (s.routing.consoleQueues ++ [[]])[i]? = some q at hq
    rcases Nat.lt_trichotomy i s.streams.length with hlt | rfl | hgt
    · rw [List.getElem?_append_left hlt] at ht
      rw [List.getElem?_append_left (h.length_eq ▸ hlt)] at hq
      exact h.follows i t q ht hq
    · rw [List.getElem?_concat_length] at ht
      rw [h.length_eq, List.getElem?_concat_length] at hq
      cases ht
      cases hq
      exact Follows.join _
    · rw [List.getElem?_eq_none (by rw [List.length_append]; exact hgt)] at ht
      cases ht

/-- The `finally` block of a call. -/
theorem unsubscribe (h : s.Streamed) (i : Nat) : (step (.routing (.unsubscribeConsole i)) s).Streamed := by
  have hlog : (step (.routing (.unsubscribeConsole i)) s).broadcasts = s.broadcasts := List.append_nil _
  refine ⟨?_, fun j t q ht hq => ?_, fun t ht => ?_, by rw [hlog]; exact h.console, h.cloud_step _⟩
  · show (s.streams.eraseIdx i).length = (s.routing.consoleQueues.eraseIdx i).length
    rw [List.length_eraseIdx, List.length_eraseIdx, h.length_eq]
  · rw [hlog]
    change (s.streams.eraseIdx i)[j]? = some t at ht
    change (s.routing.consoleQueues.eraseIdx i)[j]? = some q at hq
    rw [List.getElem?_eraseIdx] at ht hq
    split at ht
    case isTrue hlt =>
      rw [if_pos hlt] at hq
      exact h.follows j t q ht hq
    case isFalse hge =>
      rw [if_neg hge] at hq
      exact h.follows (j + 1) t q ht hq
  · rw [hlog]
    rcases List.mem_append.1 ht with ht | ht
    · exact h.ended t ht
    · have hstream : s.streams[i]? = some t := Option.mem_toList.1 ht
      have hlt : i < s.routing.consoleQueues.length := h.length_eq ▸ (List.getElem?_eq_some_iff.1 hstream).1
      have hfollows := h.follows i t _ hstream (List.getElem?_eq_getElem hlt)
      exact ⟨hfollows.joined_le, hfollows.sent_isPrefix⟩

/-- A subscriber moves a message between its own places; the others are left alone. -/
theorem set (h : s.Streamed) {i : Nat} {t' : ConsoleStream} {queues : List (List Reply)}
    (hqueues : queues.length = s.routing.consoleQueues.length) (hother : ∀ j, i ≠ j → queues[j]? = s.routing.consoleQueues[j]?)
    (hown : ∀ q, queues[i]? = some q → Follows s.broadcasts (subscriber t' q)) :
    ({ s with streams := s.streams.set i t', routing := { s.routing with consoleQueues := queues } }).Streamed := by
  refine ⟨?_, fun j t q ht hq => ?_, h.ended, h.console, h.cloud⟩
  · exact (List.length_set ..).trans (h.length_eq.trans hqueues.symm)
  · change (s.streams.set i t')[j]? = some t at ht
    change queues[j]? = some q at hq
    by_cases hij : i = j
    · subst hij
      obtain ⟨hlt, rfl⟩ := List.getElem?_eq_some_iff.1 ht
      rw [List.getElem_set_self]
      exact hown q hq
    · rw [List.getElem?_set_ne hij] at ht
      rw [hother j hij] at hq
      exact h.follows j t q ht hq

theorem take (h : s.Streamed) (i : Nat) : (s.take i).Streamed := by
  unfold Consoles.take
  split
  case h_1 t m q ht hq =>
    split
    case isTrue hheld =>
      refine h.set (List.length_set ..) (fun j hij => List.getElem?_set_ne hij) fun q' hq' => ?_
      obtain ⟨hlt, rfl⟩ := List.getElem?_eq_some_iff.1 hq'
      rw [List.getElem_set_self]
      exact (h.follows i t (m :: q) ht hq).take hheld rfl
    case isFalse => exact h
  · exact h

theorem sends (h : s.Streamed) (i : Nat) : (s.sends i).Streamed := by
  unfold Consoles.sends
  split
  case h_1 t ht =>
    split
    case h_1 m hheld =>
      exact h.set rfl (fun _ _ => rfl) fun q hq => (h.follows i t q ht hq).send hheld
    · exact h
  · exact h

theorem step (h : s.Streamed) (e : SubscriberEvent) : (Consoles.step e s).Streamed := by
  cases e with
  | take i => exact h.take i
  | sends i => exact h.sends i
  | routing e =>
    by_cases hsub : e = .subscribeConsole
    · subst hsub
      exact h.subscribe
    by_cases hunsub : ∃ i, e = .unsubscribeConsole i
    · obtain ⟨i, rfl⟩ := hunsub
      exact h.unsubscribe i
    exact h.publish hsub fun i heq => hunsub ⟨i, heq⟩

end Streamed

theorem streamed_init (deviceId : List Char) : (init deviceId).Streamed :=
  ⟨rfl, nofun, nofun, nofun, List.nil_subperm⟩

/-- Whatever replies, messages, subscriptions and ends of calls come between each other, and however slow a subscriber
is, each has been handed exactly the broadcasts since it came. -/
theorem console_streams (deviceId : List Char) (es : List SubscriberEvent) :
    (Run.run step (init deviceId) es).Streamed :=
  Run.run_invariant (fun _ e h => h.step e) (streamed_init deviceId) es

end Consoles
end Daemon
end McuBridge
