import Mathlib.Data.List.Nodup
import McuBridge.Lib.Run

/-! # The cloud gateway's connection table (`gateway.py`)

`CloudBridgeService.Session` runs once for each stream. It registers the stream under the device's id before its
first `await` and removes the entry in its `finally` clause; between the two, sessions of the same device may overlap
in any order. The table is keyed by the device only, and so is the removal. -/

namespace McuBridge
namespace Gateway

/-- The peer's certificate: its subject, or one on which the loops over the subject raise. -/
inductive Certificate where
  | subject (names : List (List (List Char × List Char)))
  | unreadable

structure Peer where
  addr : Option (List Char × Nat)
  cert : Option Certificate

namespace Peer

def anonymous (peer : Peer) : List Char :=
  match peer.addr with
  | some (host, port) => "anonymous-".toList ++ host ++ ':' :: (Nat.repr port).toList
  | none => "anonymous-unknown".toList

/-- The last common name of the subject. -/
def commonName (device : List Char) (names : List (List (List Char × List Char))) : List Char :=
  names.flatten.foldl (fun device entry => if entry.1 = "commonName".toList then entry.2 else device) device

/-- The id the session registers under; `none` where it returns or raises before it registers. -/
def deviceId (peer : Peer) : Option (List Char) :=
  match peer.cert with
  | none => some peer.anonymous
  | some (.subject names) => some (commonName peer.anonymous names)
  | some .unreadable => none

end Peer

inductive Payload where
  | ping | pong | telemetry | commandRequest | commandResponse | event
  deriving DecidableEq

structure CloudEnvelope where
  sequenceId : UInt64
  payload : Option Payload

/-- The answer to a ping. -/
structure PongEnvelope where
  protocolVersion : UInt32 := 2
  deviceId : List Char := "CLOUD_GW".toList
  sequenceId : UInt64
  roundtripMs : UInt32 := 0

/-- A session past its registration; `pong` while `send_message` is awaited. -/
structure Session where
  stream : Nat
  deviceId : List Char
  pong : Option PongEnvelope := none

structure ProtobufGateway where
  connections : List Char → Option Nat := fun _ => none
  sessions : List Session := []
  nextStream : Nat := 0
  /-- What each stream has been sent. -/
  sent : List (Nat × PongEnvelope) := []

inductive Event where
  | start (peer : Peer)
  | message (stream : Nat) (envelope : CloudEnvelope)
  | pongSent (stream : Nat)
  | ended (stream : Nat)

namespace ProtobufGateway
variable (g : ProtobufGateway)

def register (deviceId : List Char) : ProtobufGateway :=
  { g with
    connections := Function.update g.connections deviceId (some g.nextStream)
    sessions := { stream := g.nextStream, deviceId } :: g.sessions }

def startSession (peer : Peer) : ProtobufGateway :=
  let g' := match peer.deviceId with
    | some deviceId => g.register deviceId
    | none => g
  { g' with nextStream := g.nextStream + 1 }

def modifySession (stream : Nat) (f : Session → Session) : ProtobufGateway :=
  { g with sessions := g.sessions.map fun x => if x.stream = stream then f x else x }

/-- One turn of the `async for` loop, up to the `await` of the answer to a ping; the other payloads are only logged.
A session that awaits `send_message` does not read. -/
def receive (stream : Nat) (envelope : CloudEnvelope) : ProtobufGateway :=
  match envelope.payload with
  | some .ping => g.modifySession stream fun x =>
    if x.pong.isNone then { x with pong := some { sequenceId := envelope.sequenceId } } else x
  | _ => g

def pongSent (stream : Nat) : ProtobufGateway :=
  match g.sessions.find? fun x => x.stream = stream with
  | some { pong := some envelope, .. } =>
    { g.modifySession stream fun x => { x with pong := none } with sent := g.sent ++ [(stream, envelope)] }
  | _ => g

/-- The `finally` clause, which every end of the session goes through: the end of the stream, a cancellation, an
error of the network and any other exception. -/
def endSession (stream : Nat) : ProtobufGateway :=
  match g.sessions.find? fun x => x.stream = stream with
  | some x =>
    { g with
      connections := Function.update g.connections x.deviceId none
      sessions := g.sessions.filter fun y => y.stream ≠ stream }
  | none => g

def step (e : Event) (g : ProtobufGateway) : ProtobufGateway :=
  match e with
  | .start peer => g.startSession peer
  | .message stream envelope => g.receive stream envelope
  | .pongSent stream => g.pongSent stream
  | .ended stream => g.endSession stream

/-- The session of the stream is running, and it is one of the device. -/
def Running (stream : Nat) (deviceId : List Char) : Prop :=
  ∃ x ∈ g.sessions, x.stream = stream ∧ x.deviceId = deviceId

/-- The table names a running session of each device that has one, and nothing else. -/
def Consistent : Prop :=
  ∀ deviceId,
    ((∃ n, g.Running n deviceId) → ∃ n, g.connections deviceId = some n ∧ g.Running n deviceId) ∧
    ((¬∃ n, g.Running n deviceId) → g.connections deviceId = none)

/-- The event does not end a session while another one of the same device is running. -/
def EndsAlone : ProtobufGateway → Event → Prop
  | g, .ended stream => ∀ x ∈ g.sessions, x.stream = stream →
    ∀ y ∈ g.sessions, y.deviceId = x.deviceId → y.stream = stream
  | _, _ => True

instance decidableEndsAlone : ∀ (g : ProtobufGateway) (e : Event), Decidable (EndsAlone g e)
  | g, .ended stream => inferInstanceAs (Decidable (∀ x ∈ g.sessions, x.stream = stream →
    ∀ y ∈ g.sessions, y.deviceId = x.deviceId → y.stream = stream))
  | _, .start _ | _, .message .. | _, .pongSent _ => inferInstanceAs (Decidable True)

/-- What holds however sessions overlap: an entry of the table is never stale. -/
structure Registered (g : ProtobufGateway) : Prop where
  distinct : (g.sessions.map Session.stream).Nodup
  fresh : ∀ x ∈ g.sessions, x.stream < g.nextStream
  running : ∀ deviceId n, g.connections deviceId = some n → g.Running n deviceId

variable {g}

theorem Registered.consistent_iff (h : Registered g) :
    g.Consistent ↔ ∀ x ∈ g.sessions, g.connections x.deviceId ≠ none := by
  constructor
  · intro hc x hx
    obtain ⟨n, hn, -⟩ := (hc x.deviceId).1 ⟨x.stream, x, hx, rfl, rfl⟩
    simp [hn]
  · intro hall deviceId
    constructor
    · rintro ⟨n, x, hx, rfl, rfl⟩
      obtain ⟨m, hm⟩ := Option.ne_none_iff_exists'.1 (hall x hx)
      exact ⟨m, hm, h.running _ m hm⟩
    · intro hno
      by_contra hne
      obtain ⟨m, hm⟩ := Option.ne_none_iff_exists'.1 hne
      exact hno ⟨m, h.running _ m hm⟩

/-! ### Steps that change no session's stream or device -/

/-- The same table and the same running sessions. -/
structure SameTable (g g' : ProtobufGateway) : Prop where
  connections : g'.connections = g.connections
  sessions : g'.sessions.map (fun x => (x.stream, x.deviceId)) = g.sessions.map fun x => (x.stream, x.deviceId)
  nextStream : g'.nextStream = g.nextStream

namespace SameTable
variable {g' : ProtobufGateway}

theorem refl (g : ProtobufGateway) : SameTable g g :=
  ⟨rfl, rfl, rfl⟩

theorem forall_iff (h : SameTable g g') (Q : Nat → List Char → Prop) :
    (∀ x ∈ g'.sessions, Q x.stream x.deviceId) ↔ ∀ x ∈ g.sessions, Q x.stream x.deviceId := by
  have hmem (l : List Session) :
      (∀ x ∈ l, Q x.stream x.deviceId) ↔ ∀ p ∈ l.map fun x => (x.stream, x.deviceId), Q p.1 p.2 := by simp
  rw [hmem, hmem, h.sessions]

theorem running_iff (h : SameTable g g') (n : Nat) (deviceId : List Char) :
    g'.Running n deviceId ↔ g.Running n deviceId := by
  have hno := h.forall_iff fun m d => ¬(m = n ∧ d = deviceId)
  simpa [Running] using not_congr hno

theorem registered (h : SameTable g g') (hg : Registered g) : Registered g' where
  distinct := by
    have hstreams (l : List Session) : l.map Session.stream = (l.map fun x => (x.stream, x.deviceId)).map Prod.fst := by
      simp
    rw [hstreams, h.sessions, ← hstreams]
    exact hg.distinct
  fresh := (h.forall_iff fun n _ => n < g'.nextStream).2 (h.nextStream ▸ hg.fresh)
  running := by
    intro deviceId n hn
    rw [h.connections] at hn
    exact (h.running_iff n deviceId).2 (hg.running _ _ hn)

theorem consistent_iff (h : SameTable g g') : g'.Consistent ↔ g.Consistent := by
  unfold Consistent
  simp only [h.running_iff, h.connections]

end SameTable

theorem modifySession_same (g : ProtobufGateway) (stream : Nat) {f : Session → Session}
    (hf : ∀ x, (f x).stream = x.stream ∧ (f x).deviceId = x.deviceId) : SameTable g (g.modifySession stream f) := by
  refine ⟨rfl, ?_, rfl⟩
  simp only [modifySession, List.map_map]
  refine List.map_congr_left fun x _ => ?_
  dsimp only [Function.comp_apply]
  split
  · rw [(hf x).1, (hf x).2]
  · rfl

theorem receive_same (g : ProtobufGateway) (stream : Nat) (envelope : CloudEnvelope) :
    SameTable g (g.receive stream envelope) := by
  unfold receive
  split
  · refine modifySession_same g stream fun x => ?_
    split <;> exact ⟨rfl, rfl⟩
  · exact .refl g

theorem pongSent_same (g : ProtobufGateway) (stream : Nat) : SameTable g (g.pongSent stream) := by
  unfold pongSent
  split
  · obtain ⟨hc, hs, hn⟩ := modifySession_same g stream (f := fun x => { x with pong := none }) fun _ => ⟨rfl, rfl⟩
    exact ⟨hc, hs, hn⟩
  · exact .refl g

/-! ### Start and end -/

theorem register_connections (g : ProtobufGateway) (deviceId d : List Char) :
    (g.register deviceId).connections d = if d = deviceId then some g.nextStream else g.connections d := by
  simp only [register, Function.update_apply]

theorem Registered.startSession (h : Registered g) (peer : Peer) : Registered (g.startSession peer) := by
  unfold ProtobufGateway.startSession
  cases peer.deviceId with
  | none => exact ⟨h.distinct, fun x hx => Nat.lt_succ_of_lt (h.fresh x hx), h.running⟩
  | some deviceId =>
    refine ⟨?_, ?_, ?_⟩
    · refine List.nodup_cons.2 ⟨fun hmem => ?_, h.distinct⟩
      obtain ⟨x, hx, hstream⟩ := List.mem_map.1 hmem
      have hlt := h.fresh x hx
      exact absurd hstream (Nat.ne_of_lt hlt)
    · intro x hx
      rcases List.mem_cons.1 hx with rfl | hx
      · exact Nat.lt_succ_self _
      · exact Nat.lt_succ_of_lt (h.fresh x hx)
    · intro d n hn
      have hn' := (register_connections g deviceId d).symm.trans hn
      by_cases hd : d = deviceId
      · rw [if_pos hd] at hn'
        cases hn'
        exact ⟨_, List.mem_cons_self .., rfl, hd.symm⟩
      · rw [if_neg hd] at hn'
        obtain ⟨x, hx, hstream⟩ := h.running d n hn'
        exact ⟨x, List.mem_cons_of_mem _ hx, hstream⟩

theorem Registered.find (h : Registered g) {stream : Nat} {x : Session}
    (hfind : (g.sessions.find? fun x => x.stream = stream) = some x) :
    x ∈ g.sessions ∧ x.stream = stream ∧ ∀ y ∈ g.sessions, y.stream = stream → y = x := by
  have hx := List.mem_of_find?_eq_some hfind
  have hstream : x.stream = stream := by simpa using List.find?_some hfind
  refine ⟨hx, hstream, fun y hy hys => ?_⟩
  exact List.inj_on_of_nodup_map h.distinct hy hx (hys.trans hstream.symm)

theorem Registered.endSession (h : Registered g) (stream : Nat) : Registered (g.endSession stream) := by
  unfold ProtobufGateway.endSession
  split
  case h_2 => exact h
  case h_1 x hfind =>
    obtain ⟨hx, hstream, honly⟩ := h.find hfind
    refine ⟨?_, fun y hy => h.fresh y (List.mem_of_mem_filter hy), ?_⟩
    · exact h.distinct.sublist (List.filter_sublist.map _)
    · intro d n hn
      simp only [Function.update_apply] at hn
      split at hn
      · cases hn
      case isFalse hd =>
        obtain ⟨y, hy, hyn, hyd⟩ := h.running d n hn
        refine ⟨y, List.mem_filter.2 ⟨hy, ?_⟩, hyn, hyd⟩
        simp only [decide_eq_true_eq]
        intro hys
        exact hd (hyd.symm.trans (congrArg Session.deviceId (honly y hy hys)))

/-- However sessions of a device overlap, the table only names streams whose session is still running. -/
theorem Registered.step (h : Registered g) : ∀ e : Event, Registered (g.step e)
  | .start peer => h.startSession peer
  | .message stream envelope => (receive_same g stream envelope).registered h
  | .pongSent stream => (pongSent_same g stream).registered h
  | .ended stream => h.endSession stream

theorem Registered.initial : Registered {} :=
  ⟨List.nodup_nil, nofun, nofun⟩

theorem startSession_consistent (h : Registered g) (hc : g.Consistent) (peer : Peer) :
    (g.startSession peer).Consistent := by
  rw [(h.startSession peer).consistent_iff]
  rw [h.consistent_iff] at hc
  unfold startSession
  cases peer.deviceId with
  | none => exact hc
  | some deviceId =>
    intro x hx
    show (g.register deviceId).connections x.deviceId ≠ none
    rw [register_connections]
    split
    · nofun
    case isFalse hd =>
      rcases List.mem_cons.1 hx with rfl | hx
      · exact absurd rfl hd
      · exact hc x hx

/-- The end of a session takes its device out of the table, so it is right exactly if no other session of the device
is running. -/
theorem endSession_consistent_iff (h : Registered g) (hc : g.Consistent) (stream : Nat) :
    (g.endSession stream).Consistent ↔ EndsAlone g (.ended stream) := by
  rw [(h.endSession stream).consistent_iff]
  rw [h.consistent_iff] at hc
  unfold endSession
  split
  case h_2 hfind =>
    refine iff_of_true hc fun x hx hstream => ?_
    exact absurd hstream (by simpa using List.find?_eq_none.1 hfind x hx)
  case h_1 x hfind =>
    obtain ⟨hx, hstream, honly⟩ := h.find hfind
    simp only [List.mem_filter, Function.update_apply]
    constructor
    · intro hall z hz hzs y hy hyd
      rw [honly z hz hzs] at hyd
      by_contra hys
      exact hall y ⟨hy, by simpa using hys⟩ (if_pos hyd)
    · rintro halone y ⟨hy, hys⟩
      rw [if_neg fun hyd => absurd (halone x hx hstream y hy hyd) (by simpa using hys)]
      exact hc y hy

theorem step_consistent_iff (h : Registered g) (hc : g.Consistent) :
    ∀ e : Event, (g.step e).Consistent ↔ EndsAlone g e
  | .start peer => iff_of_true (startSession_consistent h hc peer) trivial
  | .message stream envelope => iff_of_true ((receive_same g stream envelope).consistent_iff.2 hc) trivial
  | .pongSent stream => iff_of_true ((pongSent_same g stream).consistent_iff.2 hc) trivial
  | .ended stream => endSession_consistent_iff h hc stream

/-- The table is right in every state reached exactly if no session ends while another one of its device runs. -/
theorem table_consistent_iff (es : List Event) :
    (∀ pre, pre <+: es → (Run.run step ({} : ProtobufGateway) pre).Consistent) ↔
      Run.Along step EndsAlone ({} : ProtobufGateway) es := by
  refine Run.reached_iff_along_of (J := fun g => Registered g ∧ g.Consistent) ?_ ?_ ?_ ?_ es
  · exact fun g e h => step_consistent_iff h.1 h.2 e
  · exact fun g e h he => ⟨h.1.step e, (step_consistent_iff h.1 h.2 e).2 he⟩
  · exact Registered.initial.consistent_iff.2 nofun
  · exact ⟨.initial, Registered.initial.consistent_iff.2 nofun⟩

def reconnecting : Peer where
  addr := some ("10.0.0.7".toList, 40112)
  cert := some (.subject [[("commonName".toList, "yun".toList)]])

/-- A device reconnects, and then its old stream ends. -/
theorem reconnected_device_removed :
    ¬∀ pre, pre <+: [Event.start reconnecting, .start reconnecting, .ended 0] →
      (Run.run step ({} : ProtobufGateway) pre).Consistent := by
  intro h
  have hdevice := h _ (List.prefix_refl _) "yun".toList
  obtain ⟨n, hn, -⟩ := hdevice.1 ⟨1, _, List.mem_cons_self .., rfl, by decide⟩
  have hnone : (Run.run step ({} : ProtobufGateway)
      [.start reconnecting, .start reconnecting, .ended 0]).connections "yun".toList = none := by
    decide +kernel
  rw [hnone] at hn
  cases hn

end ProtobufGateway
end Gateway
end McuBridge
