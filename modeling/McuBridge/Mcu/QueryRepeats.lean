import McuBridge.Mcu.Replies
import McuBridge.Daemon.Frame

/-! # Repeated queries

For a query taken for a duplicate `_preDispatch` calls `_retransmitLastFrame`, which sends the front of the reliable
queue again. A response is not a reliable frame and is never in that queue. -/

namespace McuBridge
namespace Mcu
variable {P : Platform} {A : UInt16 → Prop} {s : Mcu}

/-- The queries dispatched with `retransmit_on_dup`, each with the command of its response. -/
def queryResponses : List (UInt16 × UInt16) :=
  [(Command.getVersion.toUnderlying, Command.getVersionResp.toUnderlying),
    (Command.getFreeMemory.toUnderlying, Command.getFreeMemoryResp.toUnderlying),
    (Command.getCapabilities.toUnderlying, Command.getCapabilitiesResp.toUnderlying),
    (Command.digitalRead.toUnderlying, Command.digitalReadResp.toUnderlying),
    (Command.analogRead.toUnderlying, Command.analogReadResp.toUnderlying),
    (Command.spiTransfer.toUnderlying, Command.spiTransferResp.toUnderlying)]

def sentFrames (s t : Mcu) : List Sent := t.wire.drop s.wire.length

/-- The key the daemon reads the frames of this link with. -/
def readKey (s : Mcu) : Option Bytes := if s.doEncrypt Command.digitalRead.toUnderlying then some s.sessionKey else none

variable (P) in
/-- In reaction to the frame the MCU sends one frame, with the command of the answer and a payload that reads the
same, and starts no timer. -/
structure AnswerRepeated (hal : Hal) (s : Mcu) (env : RpcEnvelope) (answer : Sent) : Prop where
  frame : ∃ f, sentFrames s (step P (.recv hal (some env)) s) = [f] ∧ f.env.rawCommand = answer.env.rawCommand ∧
    Daemon.parseFrame P f.env s.readKey = Daemon.parseFrame P answer.env s.readKey
  timers : (step P (.recv hal (some env)) s).timerCalls = s.timerCalls

variable (P) in
/-- The MCU answered the query `env₀` with the frame `answer` in the state `s₀`, and in `s` takes `env` for a duplicate
of it. -/
structure RepeatedQuery (hal₀ : Hal) (env₀ : RpcEnvelope) (answer : Sent) (s₀ s : Mcu) (env : RpcEnvelope) : Prop where
  query : (env₀.rawCommand, answer.env.rawCommand) ∈ queryResponses
  answered : answer ∈ sentFrames s₀ (step P (.recv hal₀ (some env₀)) s₀)
  command : env.rawCommand = env₀.rawCommand
  sequence : env.sequenceId = env₀.sequenceId
  duplicate : s.isDuplicate env = true

/-- What a duplicate query can set off: a reliable frame, or a status that it was rejected. -/
def Retransmittable (cmd : UInt16) : Prop :=
  requiresAck cmd = true ∨ cmd = Status.error.toUnderlying ∨ cmd = Status.malformed.toUnderlying

/-- A duplicate gets no further than `_preDispatch`; the two mailbox responses do not ask it. -/
theorem Entry.duplicate_puts {cmd : UInt16} {h : Handler} (he : Entry P cmd h)
    (hlookup : (ackedMessages P).lookup cmd = none) (hmal : A Status.malformed.toUnderlying) {ctx : CommandContext}
    (hd : ctx.isDuplicate = true) (hal : Hal) (s : Mcu) : Puts A s (h hal ctx s) := by
  cases he with
  | acked d hack => rw [hack] at hlookup; cases hlookup
  | ackedEmpty hack => rw [hack] at hlookup; cases hlookup
  | ackedTwice hack => rw [hack] at hlookup; cases hlookup
  | @query M _ d f _ _ _ =>
    have heq : s.dispatchCmd P d (f hal) ctx false true = s.retransmitLastFrame P := by
      simp [dispatchCmd, preDispatch, hd]
    show Puts A s (s.dispatchCmd P d (f hal) ctx false true)
    rw [heq]
    exact (retransmitLastFrame_sends P s).toPuts
  | @queryEmpty _ f _ _ _ =>
    have heq : s.dispatchNoPayload P (f hal) ctx false true = s.retransmitLastFrame P := by
      simp [dispatchNoPayload, preDispatch, hd]
    show Puts A s (s.dispatchNoPayload P (f hal) ctx false true)
    rw [heq]
    exact (retransmitLastFrame_sends P s).toPuts
  | @response M _ d f _ _ hf =>
    show Puts A s (s.onCmdResponse P d f ctx)
    unfold onCmdResponse
    split
    · exact (emitStatus_sends hmal none s).toPuts
    · exact (handle_puts ctx s).trans (hf A _ _).toPuts

theorem duplicate_query_puts (ctx : CommandContext) (hquery : ctx.rawCommand ∈ queryResponses.map Prod.fst)
    (hd : ctx.isDuplicate = true) (hal : Hal) (s : Mcu) : Puts Retransmittable s (s.dispatchContext P hal ctx) := by
  have herror : Retransmittable Status.error.toUnderlying := .inr (.inl rfl)
  have hno : (ackedMessages P).lookup ctx.rawCommand = none ∧ ctx.rawCommand ≠ Status.ok.toUnderlying ∧
      ctx.rawCommand ≠ Status.malformed.toUnderlying := by
    simp only [queryResponses, List.map_cons, List.map_nil, List.mem_cons, List.not_mem_nil, or_false] at hquery
    rcases hquery with h | h | h | h | h | h <;> rw [h] <;> exact ⟨rfl, by decide, by decide⟩
  unfold dispatchContext
  split
  · exact (sendFrame_sends herror _ _ s).toPuts
  rw [if_neg hno.2.1, if_neg hno.2.2]
  split
  case h_1 h hfind =>
    exact (kDispatchTable_entry P _ (findHandler_mem hfind)).duplicate_puts hno.1 (.inr (.inr rfl)) hd hal s
  case h_2 =>
    unfold onUnknownCommand
    split
    · exact .of_eq rfl rfl
    · exact (emitStatus_sends herror none s).toPuts

theorem recv_duplicate_query_puts (hal : Hal) {env : RpcEnvelope} (hquery : env.rawCommand ∈ queryResponses.map Prod.fst)
    (hd : s.isDuplicate env = true) : Puts Retransmittable s (s.handleReceivedFrame P hal (some env)) := by
  have herror : Retransmittable Status.error.toUnderlying := .inr (.inl rfl)
  unfold handleReceivedFrame
  dsimp only
  split
  · split
    case h_1 => exact (emitStatus_sends herror none s).toPuts
    case h_2 c plain _ =>
      have hcounter : Puts Retransmittable s (s.acceptCounter c) := .of_eq rfl rfl
      refine hcounter.trans ?_
      let opened : RpcEnvelope := { env with payloadType := P.encryptedStore env.payloadType plain }
      have hdup : (s.acceptCounter c).isDuplicate opened = true := hd
      rw [dispatchCommand_duplicate P (s.acceptCounter c) hal hdup]
      exact duplicate_query_puts (P := P) ((s.acceptCounter c).commandContext opened) hquery hdup hal _
  · rw [dispatchCommand_duplicate P s hal hd]
    exact duplicate_query_puts (s.commandContext env) hquery hd hal s

/-- In no reachable state is the answer to a query repeated: whatever has happened since the MCU answered it, a
duplicate of the query does not make it send the answer again. -/
theorem answer_never_repeated (P : Platform) (secret : Bytes) (postOk : Bool) (pre post : List McuEvent) (hal₀ hal : Hal)
    (env₀ env : RpcEnvelope) (answer : Sent)
    (h : RepeatedQuery P hal₀ env₀ answer (runFrom P secret postOk pre)
      (runFrom P secret postOk (pre ++ .recv hal₀ (some env₀) :: post)) env) :
    ¬ AnswerRepeated P hal (runFrom P secret postOk (pre ++ .recv hal₀ (some env₀) :: post)) env answer := by
  rintro ⟨⟨f, hsent, hf, -⟩, -⟩
  generalize hs : runFrom P secret postOk (pre ++ .recv hal₀ (some env₀) :: post) = s at h hsent
  have hreq : env.rawCommand ∈ queryResponses.map Prod.fst := by
    rw [h.command]
    exact List.mem_map_of_mem h.query
  have hqueued : Queued Retransmittable s := by
    rw [← hs]
    exact fun g hg => .inl (queued_requiresAck secret postOk _ g hg)
  obtain ⟨fs, hfs, hA⟩ := (recv_duplicate_query_puts (P := P) hal hreq h.duplicate).wire hqueued
  have hmem : f ∈ fs := by
    have heq : sentFrames s (step P (.recv hal (some env)) s) = fs := by
      unfold sentFrames
      rw [show (step P (.recv hal (some env)) s).wire = _ from hfs, List.drop_left]
    rw [← heq, hsent]
    exact List.mem_singleton_self f
  have hresp : ∀ r ∈ queryResponses, ¬ Retransmittable r.2 := by
    have hall : queryResponses.all (fun r => !requiresAck r.2 && r.2 != Status.error.toUnderlying &&
        r.2 != Status.malformed.toUnderlying) = true := by decide
    intro r hr hsent
    have hnot := List.all_eq_true.1 hall r hr
    rcases hsent with h | h | h <;> simp [h] at hnot
  exact hresp _ h.query (hf ▸ hA f hmem)

def getVersionFrame (seq : UInt32) : RpcEnvelope :=
  ⟨protocolVersion, Command.getVersion.toUnderlying.toUInt32, seq, [], .encryptedPayloadWithTag []⟩

/-- The answer of the sample board, to a query with this sequence id. -/
def versionAnswer (seq : UInt32) : Sent :=
  ⟨⟨protocolVersion, Command.getVersionResp.toUnderlying.toUInt32, seq, [], .versionResponse ⟨2, 0, 0⟩⟩, none, none⟩

/-- A GET_VERSION comes twice. -/
theorem answer_never_repeated_version :
    ¬ AnswerRepeated .sample .sample (runFrom .sample [7] true [.recv .sample (some (getVersionFrame 5))])
      (getVersionFrame 5) (versionAnswer 5) :=
  answer_never_repeated .sample [7] true [] [] .sample .sample (getVersionFrame 5) (getVersionFrame 5) (versionAnswer 5)
    ⟨by decide, by decide +kernel, rfl, rfl, by decide +kernel⟩

/-- The second of two identical queries gets no answer, and with a console frame in the queue that frame is sent again
and its timer restarted. -/
theorem duplicate_query_unanswered :
    (let s := runFrom .sample [7] true [.recv .sample (some (getVersionFrame 5))];
      versionAnswer 5 ∈ s.wire ∧ s.isDuplicate (getVersionFrame 5) = true ∧
      sentFrames s (step .sample (.recv .sample (some (getVersionFrame 5))) s) = [] ∧
      ¬ AnswerRepeated .sample .sample s (getVersionFrame 5) (versionAnswer 5)) ∧
    (let s := runFrom .sample [7] true (oneConsoleFrame ++ [.recv .sample (some (getVersionFrame 5))]);
      let t := step .sample (.recv .sample (some (getVersionFrame 5))) s;
      versionAnswer 5 ∈ s.wire ∧ s.isDuplicate (getVersionFrame 5) = true ∧
      (sentFrames s t).map (fun f => f.env.rawCommand) = [Command.consoleWrite.toUnderlying] ∧
      t.timerCalls = s.timerCalls ++ [.start .ackTimeout]) := by
  refine ⟨⟨by decide +kernel, by decide +kernel, ?_, ?_⟩, by decide +kernel, by decide +kernel, by decide +kernel,
    by decide +kernel⟩
  · decide +kernel
  · rintro ⟨⟨f, hsent, -⟩, -⟩
    have hnone : sentFrames (runFrom .sample [7] true [.recv .sample (some (getVersionFrame 5))])
        (step .sample (.recv .sample (some (getVersionFrame 5)))
          (runFrom .sample [7] true [.recv .sample (some (getVersionFrame 5))])) = [] := by decide +kernel
    rw [hnone] at hsent
    cases hsent

end Mcu
end McuBridge
