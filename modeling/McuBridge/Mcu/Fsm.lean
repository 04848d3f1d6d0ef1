import McuBridge.Protocol

/-! # The link state machine (`fsm/bridge_fsm.h`)

Six states, seven events. An event a state does not list goes to `on_event_unknown`, which stays. -/

namespace McuBridge

inductive StateId where
  | startup | unsynchronized | handshake | synchronized | awaitingAck | fault
  deriving DecidableEq

inductive FsmEvent where
  | handshakeStart | handshakeComplete | handshakeFailed | sendCritical | ackReceived | timeout | reset
  deriving DecidableEq

namespace StateId

def onEvent : StateId → FsmEvent → StateId
  | _, .reset => .unsynchronized
  | .fault, _ => .fault
  | _, .handshakeFailed => .startup
  | _, .timeout => .fault
  | .unsynchronized, .handshakeStart => .handshake
  | .handshake, .handshakeComplete => .synchronized
  | .synchronized, .sendCritical => .awaitingAck
  | .awaitingAck, .ackReceived => .synchronized
  | q, _ => q

def isSynchronized (q : StateId) : Bool := q = .synchronized ∨ q = .awaitingAck

def isAwaitingAck (q : StateId) : Bool := q = .awaitingAck

/-- Only a completed handshake synchronises: every other event keeps an unsynchronised state so. -/
theorem isSynchronized_onEvent {q : StateId} {ev : FsmEvent} (hev : ev ≠ .handshakeComplete)
    (h : (q.onEvent ev).isSynchronized = true) : q.isSynchronized = true := by
  cases q <;> cases ev <;> first | rfl | exact absurd h (by decide) | exact absurd rfl hev

theorem isSynchronized_sendCritical (q : StateId) : (q.onEvent .sendCritical).isSynchronized = q.isSynchronized := by
  cases q <;> rfl

theorem onEvent_awaitingAck {q : StateId} {ev : FsmEvent} (h : q.onEvent ev = .awaitingAck) :
    q = .awaitingAck ∨ ev = .sendCritical := by
  cases q <;> cases ev <;> simp_all [onEvent]

theorem onEvent_synchronized {q : StateId} {ev : FsmEvent} (h : q.onEvent ev = .synchronized) :
    q = .synchronized ∨ ev = .handshakeComplete ∨ ev = .ackReceived := by
  cases q <;> cases ev <;> simp_all [onEvent]

theorem onEvent_sendCritical (q : StateId) : q.onEvent .sendCritical ≠ .synchronized := by
  cases q <;> decide

/-- A handshake completes from `UNSYNCHRONIZED` and from a synchronised state, and nowhere else. -/
theorem isSynchronized_handshake (q : StateId) :
    ((q.onEvent .handshakeStart).onEvent .handshakeComplete).isSynchronized = true ↔
      q = .unsynchronized ∨ q = .handshake ∨ q.isSynchronized = true := by
  cases q <;> decide

end StateId
end McuBridge
