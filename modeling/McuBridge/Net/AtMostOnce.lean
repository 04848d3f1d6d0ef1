import Mathlib.Data.List.Nodup
import McuBridge.Daemon.LinkSteps
import McuBridge.Mcu.AckDedup
import McuBridge.Net.System

/-! # Retries and repeated execution

Neither direction of the link keeps a retry apart from a new command. `SerialTransport.send` numbers every
attempt anew, so the history of the MCU, which compares sequence ids, does not know the second one; the
daemon compares no sequence ids at all and runs its handler for every copy the MCU retransmits. -/

namespace McuBridge
namespace Net
open Run
variable {P : Platform} {random : Nat → UInt32} {s : Net} {ev : NetEvent}

/-- A delivery that runs one handler at most, and none for a ticket that has run before. -/
theorem note_nodup {f : Sent} {runs : Nat} {l : List Nat} (h : l.Nodup) (hruns : runs ≤ 1)
    (hrun : ∀ k ∈ f.ticket, k ∈ l → runs = 0) : (note f runs l).Nodup := by
  unfold note
  split
  case h_1 k hk =>
    obtain rfl | rfl : runs = 0 ∨ runs = 1 := by omega
    · simpa using h
    · have hnew : k ∉ l := fun hmem => absurd (hrun k hk hmem) (by decide)
      refine List.nodup_append.2 ⟨h, List.nodup_singleton k, ?_⟩
      rintro x hx y hy rfl
      exact hnew (List.mem_singleton.1 hy ▸ hx)
  · exact h

/-! ### Calls of the daemon -/

/-- No call of `send` for a command with ACK runs its handler twice, and a frame of a call that was executed, if it gets
past the checks of the MCU, is taken for a duplicate and runs nothing. -/
structure CallsOnce (P : Platform) (random : Nat → UInt32) (s : Net) (ev : NetEvent) : Prop where
  nodup : (step P random ev s).calls.Nodup
  duplicate : ∀ f ∈ handedToMcu ev s, requiresAck f.env.rawCommand = true → ∀ k ∈ f.ticket, k ∈ s.calls →
    s.mcu.admits P f.env = true → s.mcu.isDuplicate f.env = true ∧ (step P random ev s).mcu.handled = s.mcu.handled

/-- No frame of a call is delivered in a state in which the MCU admits it, once a frame of the call was executed: what
is still under way was sealed before that frame, or under the key of another session. -/
def NoRetryAfterExecution (P : Platform) (s : Net) (ev : NetEvent) : Prop :=
  ∀ f ∈ handedToMcu ev s, requiresAck f.env.rawCommand = true → ∀ k ∈ f.ticket, k ∈ s.calls →
    s.mcu.admits P f.env = false

instance (P : Platform) (s : Net) (ev : NetEvent) : Decidable (NoRetryAfterExecution P s ev) :=
  inferInstanceAs (Decidable (∀ f ∈ handedToMcu ev s, _))

theorem step_deliverToMcu {i : Nat} {hal : Hal} {f : Sent} (hf : s.toMcu[i]? = some f) :
    step P random (.deliverToMcu i hal) s = { s with toMcu := s.toMcu.eraseIdx i }.receiveMcu P f hal := by
  simp only [step, hf]

theorem calls_eq (h : handedToMcu ev s = none) : (step P random ev s).calls = s.calls := by
  cases ev with
  | daemon ev =>
    simp only [step]
    split <;> rfl
  | mcu ev =>
    simp only [step]
    split <;> rfl
  | reboot postOk => rfl
  | deliverToMcu i hal =>
    have h : s.toMcu[i]? = none := h
    simp only [step, h]
  | deliverToDaemon i io =>
    simp only [step]
    split <;> rfl
  | loseToMcu i => rfl
  | loseToDaemon i => rfl

theorem step_calls (h : s.calls.Nodup) (hev : NoRetryAfterExecution P s ev) : (step P random ev s).calls.Nodup := by
  cases hf : handedToMcu ev s with
  | none =>
    rw [calls_eq hf]
    exact h
  | some f =>
    cases ev with
    | deliverToMcu i hal =>
      rw [step_deliverToMcu hf]
      refine note_nodup h ?_ ?_
      · split
        · rcases Mcu.handleReceivedFrame_handled P s.mcu hal f.env with hh | hh
          · simp [mcuStep, Mcu.step, hh]
          · simp [mcuStep, Mcu.step, hh]
        · omega
      · intro k hk hrun
        split
        case isTrue hack =>
          have hh := Mcu.recv_refused P s.mcu hal (hev f hf hack k hk hrun)
          simp [mcuStep, hh]
        case isFalse => rfl
    | _ => cases hf

/-- In every run in which the MCU admits no frame of a call that was executed, no call runs its command twice. -/
theorem calls_run_once (P : Platform) (random : Nat → UInt32) (secret mcuSecret : Bytes) (timing : HandshakeConfig)
    (maxAttempts : Nat) (service : Daemon.Service) (postOk : Bool) (evs : List NetEvent)
    (h : Along (step P random) (NoRetryAfterExecution P) (init secret mcuSecret timing maxAttempts service postOk) evs) :
    Along (step P random) (CallsOnce P random) (init secret mcuSecret timing maxAttempts service postOk) evs := by
  refine h.of_invariant (I := fun s => s.calls.Nodup) (fun s ev hs hev => step_calls hs hev) ?_ List.nodup_nil
  intro s ev hs hev
  refine ⟨step_calls hs hev, ?_⟩
  intro f hf hack k hk hrun hadm
  rw [hev f hf hack k hk hrun] at hadm
  cases hadm

/-- A synchronised link and one call, whose wait times out; `first` is what becomes of its first frame until then, and
`last` what comes after the second one was sent. -/
def retriedCall (first last : List NetEvent) : List NetEvent :=
  [.daemon .connect] ++ sampleHandshake handshakeNonce ++
    [.daemon (.send true Command.consoleWrite.toUnderlying (.message (.consoleWrite [65])))] ++ first ++
    [.daemon .timeout, .daemon (.retry true)] ++ last

/-- The first frame is late: the second attempt runs the command, and the first one is refused after it. -/
theorem calls_run_once_retried :
    (run (step .sample fun _ => 0) sampleInit
        (retriedCall [] [.deliverToMcu 1 .sample, .deliverToMcu 0 .sample])).calls = [0] ∧
      Along (step .sample fun _ => 0) (CallsOnce .sample fun _ => 0) sampleInit
        (retriedCall [] [.deliverToMcu 1 .sample, .deliverToMcu 0 .sample]) :=
  ⟨by decide +kernel,
    calls_run_once .sample (fun _ => 0) [7] [7] ⟨200, 5, 5000⟩ 3 (.sample []) true _ (by decide +kernel)⟩

/-- The first frame is delivered and its ACK lost: the second attempt runs the command again. -/
theorem retried_call_runs_twice :
    ¬ ∀ (P : Platform) (random : Nat → UInt32) (secret mcuSecret : Bytes) (timing : HandshakeConfig)
      (maxAttempts : Nat) (service : Daemon.Service) (postOk : Bool) (evs : List NetEvent),
      Along (step P random) (CallsOnce P random) (init secret mcuSecret timing maxAttempts service postOk) evs := by
  intro h
  have hruns : (run (step .sample fun _ => 0) sampleInit
      (retriedCall [.deliverToMcu 0 .sample, .loseToDaemon 0] [.deliverToMcu 0 .sample])).calls = [0, 0] := by decide +kernel
  have hall := h .sample (fun _ => 0) [7] [7] ⟨200, 5, 5000⟩ 3 (.sample []) true
    (retriedCall [.deliverToMcu 0 .sample, .loseToDaemon 0] [.deliverToMcu 0 .sample])
  have hnodup := hall.invariant (I := fun s => s.calls.Nodup) (fun s ev _ hs => hs.nodup) List.nodup_nil
  have hnodup : (run (step .sample fun _ => 0) sampleInit
      (retriedCall [.deliverToMcu 0 .sample, .loseToDaemon 0] [.deliverToMcu 0 .sample])).calls.Nodup := hnodup
  rw [hruns] at hnodup
  exact absurd hnodup (by decide)

/-! ### Reliable frames of the MCU -/

/-- No frame of the reliable queue runs its handler twice, and a further copy of one that was executed is
acknowledged again and runs nothing. -/
structure FramesOnce (P : Platform) (random : Nat → UInt32) (s : Net) (ev : NetEvent) : Prop where
  nodup : (step P random ev s).frames.Nodup
  duplicate : ∀ f ∈ handedToDaemon ev s, ∀ k ∈ f.ticket, k ∈ s.frames →
    (step P random ev s).daemon.executed = s.daemon.executed ∧
      ∃ g ∈ written s.daemon.wire (step P random ev s).daemon.wire,
        g.env.commandId = Status.ack.toUnderlying.toUInt32 ∧ g.env.sequenceId = f.env.sequenceId

/-- No copy of a frame reaches the daemon after an earlier one was executed. -/
def NoCopyAfterExecution (s : Net) (ev : NetEvent) : Prop :=
  ∀ f ∈ handedToDaemon ev s, ∀ k ∈ f.ticket, k ∉ s.frames

instance (s : Net) (ev : NetEvent) : Decidable (NoCopyAfterExecution s ev) :=
  inferInstanceAs (Decidable (∀ f ∈ handedToDaemon ev s, _))

theorem step_deliverToDaemon {i : Nat} {io : Daemon.Io} {f : Sent} (hf : s.toDaemon[i]? = some f) :
    step P random (.deliverToDaemon i io) s =
      { s with toDaemon := s.toDaemon.eraseIdx i }.receiveDaemon P random f io := by
  simp only [step, hf]

theorem frames_eq (h : handedToDaemon ev s = none) : (step P random ev s).frames = s.frames := by
  cases ev with
  | daemon ev =>
    simp only [step]
    split <;> rfl
  | mcu ev =>
    simp only [step]
    split <;> rfl
  | reboot postOk => rfl
  | deliverToMcu i hal =>
    simp only [step]
    split <;> rfl
  | deliverToDaemon i io =>
    have h : s.toDaemon[i]? = none := h
    simp only [step, h]
  | loseToMcu i => rfl
  | loseToDaemon i => rfl

theorem step_frames (h : s.frames.Nodup) (hev : NoCopyAfterExecution s ev) : (step P random ev s).frames.Nodup := by
  cases hf : handedToDaemon ev s with
  | none =>
    rw [frames_eq hf]
    exact h
  | some f =>
    cases ev with
    | deliverToDaemon i io =>
      rw [step_deliverToDaemon hf]
      refine note_nodup h ?_ fun k hk hrun => absurd hrun (hev f hf k hk)
      rcases s.daemon.processPacket_executed P random io f.env with hh | hh
      · simp [daemonStep, Daemon.Link.step, hh.1]
      · simp [daemonStep, Daemon.Link.step, hh]
    | _ => cases hf

/-- The daemon runs its handler again for a copy that passes its checks, and does not acknowledge one that
does not pass. -/
theorem noCopy_of_framesOnce (h : FramesOnce P random s ev) : NoCopyAfterExecution s ev := by
  intro f hf k hk hrun
  obtain ⟨hex, g, hg, hack, -⟩ := h.duplicate f hf k hk hrun
  cases ev with
  | deliverToDaemon i io =>
    rw [step_deliverToDaemon hf] at hex hg
    have hex : (s.daemon.processPacket P random io f.env).executed = s.daemon.executed := hex
    have hg : g ∈ written s.daemon.wire (s.daemon.processPacket P random io f.env).wire := hg
    rcases s.daemon.processPacket_executed P random io f.env with ⟨-, fs, hfs, hcmd⟩ | hh
    · rw [written, hfs, List.drop_left] at hg
      rw [hcmd g hg] at hack
      exact absurd hack (by decide)
    · rw [hh] at hex
      simpa using congrArg List.length hex
  | _ => cases hf

/-- Retransmitted frames are executed at most once, and further copies only acknowledged, exactly in the
runs in which no copy reaches the daemon after an earlier one was executed. -/
theorem frames_run_once_iff (P : Platform) (random : Nat → UInt32) (secret mcuSecret : Bytes)
    (timing : HandshakeConfig) (maxAttempts : Nat) (service : Daemon.Service) (postOk : Bool) (evs : List NetEvent) :
    Along (step P random) (FramesOnce P random) (init secret mcuSecret timing maxAttempts service postOk) evs ↔
      Along (step P random) NoCopyAfterExecution (init secret mcuSecret timing maxAttempts service postOk) evs := by
  constructor
  · exact fun h => h.mono fun _ _ => noCopy_of_framesOnce
  · intro h
    refine h.of_invariant (I := fun s => s.frames.Nodup) (fun s ev hs hev => step_frames hs hev) ?_ List.nodup_nil
    intro s ev hs hev
    exact ⟨step_frames hs hev, fun f hf k hk hrun => absurd hrun (hev f hf k hk)⟩

/-- A synchronised link and two mailbox messages of the sketch. The ACK of the first leaves its sequence id, 3, in the
history of the MCU; the ACK of the second is lost. The daemon's GET_VERSION has the number 3, so the MCU takes it for a
duplicate and retransmits the message that waits for its ACK. -/
def retransmittedPush : List NetEvent :=
  [.daemon .connect] ++ sampleHandshake handshakeNonce ++
    [.mcu (.send .mailboxPush 3 (.mailboxPush [65])), .deliverToDaemon 0 .sample, .deliverToMcu 0 .sample,
      .deliverToDaemon 0 .sample, .mcu (.send .mailboxPush 0 (.mailboxPush [66])), .deliverToDaemon 0 .sample,
      .loseToMcu 0, .daemon (.send true Command.getVersion.toUnderlying (.bytes [])), .deliverToMcu 0 .sample,
      .deliverToDaemon 0 .sample]

/-- One lost ACK: the daemon stores the message twice. -/
theorem retransmitted_push_runs_twice :
    (run (step .sample fun _ => 0) sampleInit retransmittedPush).daemon.service.mailboxIncomingQueue =
        [[65], [66], [66]] ∧
      ¬ Along (step .sample fun _ => 0) (FramesOnce .sample fun _ => 0) sampleInit retransmittedPush := by
  refine ⟨by decide +kernel, ?_⟩
  intro h
  have hno : Along (step .sample fun _ => 0) NoCopyAfterExecution sampleInit retransmittedPush :=
    h.mono fun _ _ => noCopy_of_framesOnce
  exact absurd hno (by decide +kernel)

end Net
end McuBridge
