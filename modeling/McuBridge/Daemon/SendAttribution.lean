import McuBridge.Daemon.SendCalls

/-! # Which frame a call of `send` takes for its answer

Correlation knows the command of the one pending call and nothing of its instance. A frame that resolves a call comes
while the call is in flight and names its command, or is a failure status of any origin. -/

namespace McuBridge
namespace Daemon

namespace SendEvent

/-- The frame carries the payload and is a success for the command: its response or, where it has none, an ACK that
names it or nothing, or STATUS_OK. -/
def Answers (commandId : UInt16) (payload : Payload) : SendEvent → Prop
  | .frame h cmd p => p = payload ∧
    (responseToRequest cmd = some commandId ∨ expectedResponses commandId = [] ∧
      (cmd = Status.ack.toUnderlying.toUInt32 ∧
          Link.ackTarget h (SendCall.fresh 0 commandId).pending p = commandId.toUInt32 ∨
        cmd = Status.ok.toUnderlying.toUInt32))
  | _ => False

/-- The frame is this failure status. -/
def Fails (status : UInt16) : SendEvent → Prop
  | .frame _ cmd _ => cmd.toUInt16 = status ∧ failureStatuses.any (fun st => st.toUnderlying.toUInt32 == cmd) = true
  | _ => False

end SendEvent

/-! ### Correlation -/

/-- The target of an ACK depends on the pending command by its id only. -/
theorem ackTarget_congr {p q : PendingCommand} (hid : p.commandId = q.commandId) (h : McuHost) (payload : Payload) :
    Link.ackTarget h p payload = Link.ackTarget h q payload := by
  unfold Link.ackTarget
  rw [hid]

/-- What `_correlate_frame` does to a pending command: nothing but to note an ACK, or it resolves the command for a
frame that names it, or for a failure status. -/
theorem correlatePending_cases (h : McuHost) (cmd : UInt32) (payload : Payload) (p : PendingCommand)
    (hexp : p.expectedRespIds = expectedResponses p.commandId) :
    (∃ ack, Link.correlatePending h cmd payload p = { p with ackReceived := ack }) ∨
    (∃ ack, (SendEvent.frame h cmd payload).Answers p.commandId payload ∧
      Link.correlatePending h cmd payload p = ({ p with ackReceived := ack } : PendingCommand).markSuccess payload) ∨
    ((SendEvent.frame h cmd payload).Fails cmd.toUInt16 ∧
      Link.correlatePending h cmd payload p = p.markFailure (some cmd.toUInt16)) := by
  have hself : p = { p with ackReceived := p.ackReceived } := rfl
  unfold Link.correlatePending
  split
  · exact .inl ⟨p.ackReceived, hself⟩
  split
  case isTrue hack =>
    split
    case isTrue htarget =>
      dsimp only
      split
      case isTrue hempty =>
        have hnone : expectedResponses p.commandId = [] := hexp ▸ List.isEmpty_iff.1 hempty
        have hnames := (ackTarget_congr (q := (SendCall.fresh 0 p.commandId).pending) rfl h payload).symm.trans htarget
        exact .inr (.inl ⟨true, ⟨rfl, .inr ⟨hnone, .inl ⟨hack, hnames⟩⟩⟩, rfl⟩)
      case isFalse => exact .inl ⟨true, rfl⟩
    case isFalse => exact .inl ⟨p.ackReceived, hself⟩
  case isFalse =>
    split
    case isTrue hresp => exact .inr (.inl ⟨p.ackReceived, ⟨rfl, .inl hresp⟩, rfl⟩)
    case isFalse =>
      split
      case isTrue hfail => exact .inr (.inr ⟨⟨rfl, hfail⟩, rfl⟩)
      case isFalse =>
        split
        case isTrue hok =>
          have hnone : expectedResponses p.commandId = [] := hexp ▸ List.isEmpty_iff.1 hok.2
          exact .inr (.inl ⟨p.ackReceived, ⟨rfl, .inr ⟨hnone, .inr hok.1⟩⟩, rfl⟩)
        case isFalse => exact .inl ⟨p.ackReceived, hself⟩

/-! ### Calls -/

section Evidence
variable {A : Nat → UInt16 → Payload → Prop} {F : Nat → UInt16 → Prop}

/-- A success of the call has an answer `A` behind it, with its payload, a failure status a frame `F`. -/
structure SendCall.Backed (A : Nat → UInt16 → Payload → Prop) (F : Nat → UInt16 → Prop) (c : SendCall) : Prop where
  expected : c.pending.expectedRespIds = expectedResponses c.pending.commandId
  answer : c.pending.success = some true →
    ∃ payload, c.pending.responsePayload = some payload ∧ A c.ticket c.pending.commandId payload
  failure : ∀ st, c.pending.failureStatus = some st → F c.ticket st

/-- The same of what a call returns. -/
structure SendOutcome.Backed (A : Nat → UInt16 → Payload → Prop) (F : Nat → UInt16 → Prop) (o : SendOutcome) : Prop where
  answer : ∀ v, o.result = .returned v → ∃ payload, v = some payload ∧ A o.ticket o.commandId payload
  failure : ∀ st, o.status = some st → F o.ticket st

section Mono
variable {A' : Nat → UInt16 → Payload → Prop} {F' : Nat → UInt16 → Prop}

theorem SendCall.Backed.mono {c : SendCall} (h : c.Backed A F) (hA : ∀ n cmd v, A n cmd v → A' n cmd v)
    (hF : ∀ n st, F n st → F' n st) : c.Backed A' F' := by
  refine ⟨h.expected, fun hsucc => ?_, fun st hst => hF _ _ (h.failure st hst)⟩
  obtain ⟨payload, hpayload, hans⟩ := h.answer hsucc
  exact ⟨payload, hpayload, hA _ _ _ hans⟩

theorem SendOutcome.Backed.mono {o : SendOutcome} (h : o.Backed A F) (hA : ∀ n cmd v, A n cmd v → A' n cmd v)
    (hF : ∀ n st, F n st → F' n st) : o.Backed A' F' := by
  refine ⟨fun v hv => ?_, fun st hst => hF _ _ (h.failure st hst)⟩
  obtain ⟨payload, hpayload, hans⟩ := h.answer v hv
  exact ⟨payload, hpayload, hA _ _ _ hans⟩

end Mono

def SendProgress.Backed (A : Nat → UInt16 → Payload → Prop) (F : Nat → UInt16 → Prop) (p : SendProgress) : Prop :=
  p.Holds (SendCall.Backed A F) (SendOutcome.Backed A F)

namespace SendCall
variable {c : SendCall}

theorem fresh_backed (ticket : Nat) (cmd : UInt16) : (fresh ticket cmd).beginAttempt.Backed A F := by
  refine ⟨rfl, fun h => ?_, fun st h => ?_⟩
  · cases h
  · cases h

theorem retryLater_backed (hc : c.Backed A F) (maxAttempts : Nat) : (c.retryLater maxAttempts).Backed A F := by
  rcases retryLater_cases maxAttempts c with h | h
  · rw [h]
    exact ⟨hc.expected, hc.answer, hc.failure⟩
  · rw [h]
    refine ⟨fun v hv => ?_, fun st hst => ?_⟩
    · cases hv
    · cases hst

theorem completed_backed (hc : c.Backed A F) (maxAttempts : Nat) : (c.completed maxAttempts).Backed A F := by
  rcases completed_cases maxAttempts c with ⟨hsucc, h⟩ | ⟨-, ⟨st, hst, h⟩ | h⟩
  · rw [h]
    refine ⟨fun v hv => ?_, fun st hst => ?_⟩
    · obtain ⟨payload, hpayload, hA⟩ := hc.answer hsucc
      cases hv
      exact ⟨payload, hpayload, hA⟩
    · cases hst
  · rw [h]
    refine ⟨fun v hv => ?_, fun st' hst' => ?_⟩
    · cases hv
    · cases hst'
      exact hc.failure st hst
  · rw [h]
    exact retryLater_backed hc maxAttempts

/-- The step: a frame that resolves the call is evidence for it. -/
theorem next_backed (hc : c.Backed A F) {e : SendEvent}
    (hA : ∀ payload, e.Answers c.pending.commandId payload → A c.ticket c.pending.commandId payload)
    (hF : ∀ st, e.Fails st → F c.ticket st) (maxAttempts : Nat) : (c.next maxAttempts e).Backed A F := by
  have hnext := c.next_next maxAttempts e
  generalize c.next maxAttempts e = p at hnext
  cases hnext with
  | idle => exact hc
  | transmitted => exact ⟨hc.expected, hc.answer, hc.failure⟩
  | written => exact ⟨hc.expected, hc.answer, hc.failure⟩
  | complete =>
    have hwait : ({ c with phase := .waiting, transmitted := true } : SendCall).Backed A F :=
      ⟨hc.expected, hc.answer, hc.failure⟩
    exact completed_backed hwait maxAttempts
  | failed | raised =>
    refine ⟨fun v hv => ?_, fun st hst => ?_⟩
    · cases hv
    · cases hst
  | frame h cmd payload =>
    show (c.correlate h cmd payload).Backed A F
    unfold correlate
    split
    · dsimp only
      rcases correlatePending_cases h cmd payload c.pending hc.expected with ⟨ack, hp⟩ | ⟨ack, hans, hp⟩ | ⟨hfail, hp⟩
      · rw [hp]
        exact ⟨hc.expected, hc.answer, hc.failure⟩
      · rw [hp]
        exact ⟨hc.expected, fun _ => ⟨payload, rfl, hA payload hans⟩, hc.failure⟩
      · rw [hp]
        refine ⟨hc.expected, fun hs => ?_, fun st hst => ?_⟩
        · cases hs
        · cases hst
          exact hF _ hfail
    · exact hc
  | timeout => exact retryLater_backed hc maxAttempts
  | completion => exact completed_backed hc maxAttempts
  | retry =>
    refine ⟨hc.expected, fun h => ?_, hc.failure⟩
    cases h

end SendCall
end Evidence

namespace SendCalls

/-- The call is in flight. -/
def InFlight (s : SendCalls) (call : Nat) : Prop := ∃ c, s.current = some c ∧ c.ticket = call

/-- A frame with this answer has been processed during the call. -/
def AnsweredIn (maxAttempts : Nat) (es : List SendEvent) (call : Nat) (commandId : UInt16) (payload : Payload) : Prop :=
  Run.Occurs step (fun s e => s.InFlight call ∧ e.Answers commandId payload) (init maxAttempts) es

/-- This failure status has been processed during the call. -/
def FailedIn (maxAttempts : Nat) (es : List SendEvent) (call : Nat) (status : UInt16) : Prop :=
  Run.Occurs step (fun s e => s.InFlight call ∧ e.Fails status) (init maxAttempts) es

/-- The invariant with the events so far. -/
structure AllBacked (maxAttempts : Nat) (es : List SendEvent) (s : SendCalls) : Prop where
  locked : s.Locked
  current : ∀ c, s.current = some c → c.Backed (AnsweredIn maxAttempts es) (FailedIn maxAttempts es)
  outcomes : ∀ o ∈ s.outcomes, o.Backed (AnsweredIn maxAttempts es) (FailedIn maxAttempts es)

theorem run_allBacked (maxAttempts : Nat) (es : List SendEvent) :
    AllBacked maxAttempts es (Run.run step (init maxAttempts) es) := by
  refine Run.history_invariant (I := AllBacked maxAttempts) ?_ (fun pre e h => ?_) es
  · refine ⟨init_locked maxAttempts, fun c hc => ?_, fun o ho => ?_⟩
    · cases hc
    · cases ho
  have hA : ∀ n cmd v, AnsweredIn maxAttempts pre n cmd v → AnsweredIn maxAttempts (pre ++ [e]) n cmd v :=
    fun _ _ _ h => h.append [e]
  have hF : ∀ n st, FailedIn maxAttempts pre n st → FailedIn maxAttempts (pre ++ [e]) n st := fun _ _ h => h.append [e]
  have hinv := step_invariant h.locked SendCall.fresh_backed (e := e) (fun c hc hb => ?_)
    (fun c hc => (h.current c hc).mono hA hF) fun o ho => (h.outcomes o ho).mono hA hF
  · exact ⟨step_locked h.locked e, hinv.1, hinv.2⟩
  · exact SendCall.next_backed hb (fun payload hans => Run.Occurs.last ⟨⟨c, hc, rfl⟩, hans⟩)
      (fun st hfail => Run.Occurs.last ⟨⟨c, hc, rfl⟩, hfail⟩) (Run.run step (init maxAttempts) pre).maxAttempts

/-- A call returns a value only for a frame that came during the call and answers its command, with the frame's payload,
and gives up on a status only for that status during the call. -/
theorem outcomes_attributed (maxAttempts : Nat) (es : List SendEvent) :
    let s := Run.run step (init maxAttempts) es
    (∀ o ∈ s.outcomes, ∀ v, o.result = .returned v → ∃ payload, v = some payload ∧
      AnsweredIn maxAttempts es o.ticket o.commandId payload) ∧
    ∀ o ∈ s.outcomes, ∀ st, o.status = some st → FailedIn maxAttempts es o.ticket st :=
  have h := (run_allBacked maxAttempts es).outcomes
  ⟨fun o ho => (h o ho).answer, fun o ho => (h o ho).failure⟩

/-- The ACK of a write that timed out resolves the next write, before that one is on the wire; so does the error status
of an unrelated frame. -/
theorem stale_ack_resolves :
    let write := SendEvent.send Command.digitalWrite.toUnderlying
    let ack := SendEvent.frame .sample Status.ack.toUnderlying.toUInt32
      (.message (.ackPacket ⟨Command.digitalWrite.toUnderlying.toUInt32⟩))
    let error := SendEvent.frame .sample Status.error.toUnderlying.toUInt32 (.bytes [])
    let s := Run.run step (init 1) [write, .transmit, .raw .sent, .timeout, write, ack]
    s.current.map (fun c => (c.ticket, c.transmitted, c.pending.success)) = some (1, false, some true) ∧
      (Run.run step s [.transmit, .raw .sent, write, .transmit, .raw .sent, error, .completion]).outcomes =
        [⟨0, Command.digitalWrite.toUnderlying, false, none, .false⟩,
          ⟨1, Command.digitalWrite.toUnderlying, false, none,
            .returned (some (.message (.ackPacket ⟨Command.digitalWrite.toUnderlying.toUInt32⟩)))⟩,
          ⟨2, Command.digitalWrite.toUnderlying, false, some Status.error.toUnderlying, .false⟩] := by
  decide

end SendCalls
end Daemon
end McuBridge
