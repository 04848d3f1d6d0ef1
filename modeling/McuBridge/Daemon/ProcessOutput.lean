import McuBridge.Daemon.Processes
import McuBridge.Daemon.Request
import McuBridge.Lib.BufferedStream
import Mathlib.Logic.Function.Basic

/-! # Output of the processes (`services/runtime.py`)

`_poll_process` with the two pipes of each process. A poll holds `process_lock` while it reads stdout, then stderr; a
read that finds nothing waits until something comes or its time is out. Every other task of `Processes` goes on
meanwhile, so the entry of the process may be gone when the poll ends.

`Books` follows each byte from the process to an answer: it is still buffered, read by the poll in progress, answered,
or lost with a poll that was cut short. -/

namespace McuBridge
namespace Daemon
open BufferedStream

inductive Fd where
  | stdout | stderr
  deriving DecidableEq

/-- Where a poll with the lock waits for data; with stderr goes what came of stdout. -/
inductive Reading where
  | stdout
  | stderr (o : Bytes) (tOut : Bool)
  deriving DecidableEq

/-- The answer to a poll of `pid`, with the call of `_run_process` whose context it found. -/
structure PollAnswer where
  pid : Int
  call : Option Nat
  response : ProcessPollResponse
  deriving DecidableEq

def PollAnswer.data (a : PollAnswer) : Fd → Bytes
  | .stdout => a.response.stdoutData
  | .stderr => a.response.stderrData

def PollAnswer.truncated (a : PollAnswer) : Fd → Bool
  | .stdout => a.response.stdoutTruncated
  | .stderr => a.response.stderrTruncated

/-- `streams` and `exitCode` belong to the contexts, by their call. `answers`, `cut` and `done` are records: what the
polls answered, the calls of polls that raised or were cancelled, and those of polls that found the process ended and
both pipes at their end. -/
structure Outputs where
  procs : Processes
  streams : Nat × Fd → BufferedStream UInt8
  exitCode : Nat → Int
  reading : Option Reading
  answers : List PollAnswer
  cut : List Nat
  done : List Nat

inductive OutputEvent where
  | process (e : ProcessEvent)
  | writes (call : Nat) (fd : Fd) (data : Bytes)
  | closes (call : Nat) (fd : Fd)
  | exitCode (call : Nat) (code : Int)
  | readable
  | timedOut
  | pollRaised

namespace Outputs

def init (processMaxConcurrent : Nat) : Outputs where
  procs := .init processMaxConcurrent
  streams := fun _ => .empty
  exitCode := fun _ => 0
  reading := none
  answers := []
  cut := []
  done := []

def setStream (k : Nat × Fd) (b : BufferedStream UInt8) (s : Outputs) : Outputs :=
  { s with streams := Function.update s.streams k b }

/-- `MAX_PAYLOAD_SIZE - 32` -/
def readSize : Nat := maxPayloadSize - 32

/-- `s.read` once it need not wait. -/
def readStream (k : Nat × Fd) (s : Outputs) : (Bytes × Bool) × Outputs :=
  let b := (s.streams k).read readSize
  (((s.streams k).front readSize, !b.atEof), s.setStream k b)

/-- `_rd` up to its await: `none` where the read waits. -/
def rd (k : Nat × Fd) (s : Outputs) : Option ((Bytes × Bool) × Outputs) :=
  if (s.streams k).atEof then some (([], false), s)
  else if (s.streams k).buffer = [] then none
  else some (s.readStream k)

/-- No context for the pid. -/
def unknownProcess : ProcessPollResponse where
  status := Status.error.toUnderlying.toUInt32
  exitCode := 1
  stdoutData := []
  stderrData := []
  finished := true
  stdoutTruncated := false
  stderrTruncated := false

/-- Both streams have been read. An exit code below zero, of a process that a signal ended, is no `uint32`: the answer
cannot be built and the poll raises. -/
def pollEnds (r : PollRead) (o : Bytes) (tOut : Bool) (e : Bytes) (tErr : Bool) (s : Outputs) : Outputs :=
  let call := r.ctx.call
  let fin := decide (call ∈ s.procs.exited)
  let drained := (s.streams (call, .stdout)).atEof && (s.streams (call, .stderr)).atEof
  let s := { s with
    procs := s.procs.pollEnds drained
    reading := none
    done := if fin && drained then call :: s.done else s.done }
  match Service.pbUint32 (s.exitCode call) with
  | some code =>
    { s with answers := s.answers ++ [⟨r.pid, some call, ⟨Status.ok.toUnderlying.toUInt32, code, o, e, fin, tOut, tErr⟩⟩] }
  | none => { s with cut := call :: s.cut }

def readStderr (r : PollRead) (o : Bytes) (tOut : Bool) (s : Outputs) : Outputs :=
  match s.rd (r.ctx.call, .stderr) with
  | some ((e, tErr), s) => s.pollEnds r o tOut e tErr
  | none => { s with reading := some (.stderr o tOut) }

def readStdout (r : PollRead) (s : Outputs) : Outputs :=
  match s.rd (r.ctx.call, .stdout) with
  | some ((o, tOut), s) => s.readStderr r o tOut
  | none => { s with reading := some .stdout }

/-- The poll gets `process_lock`. -/
def pollLooks (pid : Int) (s : Outputs) : Outputs :=
  if pid ∈ s.procs.polls ∧ s.procs.processLock = none then
    let s := { s with procs := s.procs.pollLooks pid }
    match s.procs.processLock with
    | some r => s.readStdout r
    | none => { s with answers := s.answers ++ [⟨pid, none, unknownProcess⟩] }
  else s

/-- Data, or the end of the stream, wakes the read. -/
def readable (s : Outputs) : Outputs :=
  match s.procs.processLock, s.reading with
  | some r, some .stdout =>
    let b := s.streams (r.ctx.call, .stdout)
    if b.buffer ≠ [] ∨ b.eof then
      let ((o, tOut), s) := s.readStream (r.ctx.call, .stdout)
      s.readStderr r o tOut
    else s
  | some r, some (.stderr o tOut) =>
    let b := s.streams (r.ctx.call, .stderr)
    if b.buffer ≠ [] ∨ b.eof then
      let ((e, tErr), s) := s.readStream (r.ctx.call, .stderr)
      s.pollEnds r o tOut e tErr
    else s
  | _, _ => s

/-- `TimeoutError` in `_rd` -/
def timedOut (s : Outputs) : Outputs :=
  match s.procs.processLock, s.reading with
  | some r, some .stdout => s.readStderr r [] true
  | some r, some (.stderr o tOut) => s.pollEnds r o tOut [] true
  | _, _ => s

/-- The poll is cancelled, or its read raises. -/
def pollRaised (s : Outputs) : Outputs :=
  match s.procs.processLock with
  | some r => { s with procs := s.procs.pollEnds false, reading := none, cut := r.ctx.call :: s.cut }
  | none => s

/-- A poll that has the lock goes on by its reads, not by an event of `Processes`. -/
def step (policy : CommandPolicy) : OutputEvent → Outputs → Outputs
  | .process (.pollLooks pid), s => s.pollLooks pid
  | .process (.pollEnds _), s => s
  | .process e, s => { s with procs := Processes.step policy e s.procs }
  | .writes call fd data, s => s.setStream (call, fd) ((s.streams (call, fd)).feed data)
  | .closes call fd, s => s.setStream (call, fd) (s.streams (call, fd)).feedEof
  | .exitCode call code, s => { s with exitCode := Function.update s.exitCode call code }
  | .readable, s => s.readable
  | .timedOut, s => s.timedOut
  | .pollRaised, s => s.pollRaised

/-! ### Statement -/

/-- What the polls of a process answered of one of its pipes, in order. -/
def answered (s : Outputs) (k : Nat × Fd) : Bytes :=
  (s.answers.filter fun a => a.call = some k.1).flatMap fun a => a.data k.2

/-- An answer said that nothing is left of the pipe, or a poll found the process ended and both pipes at their end. -/
def Over (s : Outputs) (k : Nat × Fd) : Prop :=
  (∃ a ∈ s.answers, a.call = some k.1 ∧ a.truncated k.2 = false) ∨ k.1 ∈ s.done

/-- The answers hold only output of the process, in order. As long as no poll of the process has been cut short nothing
of it is missing, and once its output is over all of it has been answered. -/
structure Delivered (s : Outputs) : Prop where
  ordered : ∀ k, (s.answered k).Sublist (s.streams k).received
  gapless : ∀ k, k.1 ∉ s.cut → s.answered k <+: (s.streams k).received
  complete : ∀ k, s.Over k → k.1 ∉ s.cut → s.answered k = (s.streams k).received
  bounded : ∀ a ∈ s.answers, ∀ fd, (a.data fd).length ≤ readSize

/-! ### Books -/

/-- `held` is what the poll in progress has read. -/
structure Books (s : Outputs) (held : Nat × Fd → Bytes) : Prop where
  ordered : ∀ k, (s.answered k ++ held k).Sublist (s.streams k).taken
  gapless : ∀ k, k.1 ∉ s.cut → s.answered k ++ held k = (s.streams k).taken
  complete : ∀ k, s.Over k → (s.streams k).atEof = true ∧ held k = []
  bounded : ∀ a ∈ s.answers, ∀ fd, (a.data fd).length ≤ readSize

/-- Nothing but what `k` says is held. -/
def only (k : Nat × Fd) (data : Bytes) : Nat × Fd → Bytes := Function.update (fun _ => []) k data

/-- What the poll in progress has read of stdout. -/
def held (s : Outputs) : Nat × Fd → Bytes :=
  match s.procs.processLock, s.reading with
  | some r, some (.stderr o _) => only (r.ctx.call, .stdout) o
  | _, _ => fun _ => []

/-- What `_rd` returned of a stream is true of it. -/
def Reads (s : Outputs) (k : Nat × Fd) (data : Bytes) (truncated : Bool) : Prop :=
  data.length ≤ readSize ∧ (truncated = false → (s.streams k).atEof = true)

/-- The books of every state; a poll reads only while it has the lock. -/
structure Kept (s : Outputs) : Prop where
  books : s.Books s.held
  idle : s.procs.processLock = none → s.reading = none
  stdout : ∀ r o tOut, s.procs.processLock = some r → s.reading = some (.stderr o tOut) →
    s.Reads (r.ctx.call, .stdout) o tOut

/-! ### One read, one answer -/

@[simp] theorem setStream_self (k : Nat × Fd) (b : BufferedStream UInt8) (s : Outputs) :
    (s.setStream k b).streams k = b := Function.update_self ..

theorem setStream_of_ne {j k : Nat × Fd} (h : j ≠ k) (b : BufferedStream UInt8) (s : Outputs) :
    (s.setStream k b).streams j = s.streams j := Function.update_of_ne h ..

theorem only_nil (k : Nat × Fd) : only k [] = fun _ => [] := Function.update_eq_self k _

theorem processLock_popRelease (pid : Int) (s : Processes) : (s.popRelease pid).processLock = s.processLock := by
  unfold Processes.popRelease
  split <;> rfl

theorem processLock_monitorEnds (m : Monitor) (s : Processes) : (s.monitorEnds m).processLock = s.processLock := by
  unfold Processes.monitorEnds
  split
  · exact processLock_popRelease ..
  · rfl

theorem processLock_pollEnds (drained : Bool) (s : Processes) : (s.pollEnds drained).processLock = none := by
  unfold Processes.pollEnds
  split
  · dsimp only
    split
    · exact processLock_popRelease ..
    · rfl
  case h_2 hlock => exact hlock

/-- Only the polls take `process_lock` for longer than a step. -/
theorem processLock_step (policy : CommandPolicy) {e : ProcessEvent} (hlooks : ∀ pid, e ≠ .pollLooks pid)
    (hends : ∀ drained, e ≠ .pollEnds drained) (s : Processes) :
    (Processes.step policy e s).processLock = s.processLock := by
  cases e with
  | pollLooks pid => exact absurd rfl (hlooks pid)
  | pollEnds drained => exact absurd rfl (hends drained)
  | poll _ | kill _ | killCancelled _ | exits _ => rfl
  | run command =>
    simp only [Processes.step, Processes.runProcess]
    split <;> rfl
  | acquired st =>
    simp only [Processes.step, Processes.acquired]
    split
    · split <;> rfl
    · rfl
  | spawned st outcome =>
    simp only [Processes.step, Processes.spawned]
    split
    · cases outcome <;> rfl
    · rfl
  | registered st =>
    simp only [Processes.step, Processes.registered]
    split
    · split <;> rfl
    · rfl
  | raised st =>
    simp only [Processes.step, Processes.raised]
    split <;> rfl
  | monitorLooks m =>
    simp only [Processes.step, Processes.monitorLooks]
    split
    · split
      · rfl
      · exact processLock_monitorEnds m s
    · rfl
  | monitorWakes m =>
    simp only [Processes.step, Processes.monitorWakes]
    split
    · split <;> rfl
    · rfl
  | monitorEnds m => exact processLock_monitorEnds m s
  | killLooks k =>
    simp only [Processes.step, Processes.killLooks]
    split
    · split <;> rfl
    · rfl
  | killEnds k =>
    simp only [Processes.step, Processes.killEnds]
    split
    · exact processLock_popRelease ..
    · rfl

namespace Books
variable {s : Outputs} {held : Nat × Fd → Bytes}

/-- The books are about the streams and the records only. -/
theorem congr (h : s.Books held) {t : Outputs} (hstreams : t.streams = s.streams) (hanswers : t.answers = s.answers)
    (hcut : t.cut = s.cut) (hdone : t.done = s.done) : t.Books held := by
  obtain ⟨procs, streams, exitCode, reading, answers, cut, done⟩ := t
  cases hstreams
  cases hanswers
  cases hcut
  cases hdone
  exact ⟨h.ordered, h.gapless, h.complete, h.bounded⟩

/-- The process writes, or closes a pipe. -/
theorem arrives (h : s.Books held) (k : Nat × Fd) {b : BufferedStream UInt8} (htaken : b.taken = (s.streams k).taken)
    (heof : (s.streams k).atEof = true → b.atEof = true) : (s.setStream k b).Books held := by
  have hstream : ∀ j, ((s.setStream k b).streams j).taken = (s.streams j).taken ∧
      ((s.streams j).atEof = true → ((s.setStream k b).streams j).atEof = true) := by
    intro j
    by_cases hj : j = k
    · subst hj
      rw [setStream_self]
      exact ⟨htaken, heof⟩
    · rw [setStream_of_ne hj]
      exact ⟨rfl, id⟩
  refine ⟨fun j => ?_, fun j hj => ?_, fun j hj => ?_, h.bounded⟩
  · rw [(hstream j).1]
    exact h.ordered j
  · rw [(hstream j).1]
    exact h.gapless j hj
  · exact ⟨(hstream j).2 (h.complete j hj).1, (h.complete j hj).2⟩

/-- A read moves the front of the buffer to what the poll holds. -/
theorem readStream (h : s.Books held) {k : Nat × Fd} (hk : held k = []) :
    (s.readStream k).2.Books (Function.update held k (s.readStream k).1.1) := by
  have hself : (s.readStream k).2.streams k = (s.streams k).read readSize := setStream_self ..
  have hother : ∀ j, j ≠ k → (s.readStream k).2.streams j = s.streams j := fun j hj => setStream_of_ne hj ..
  refine ⟨fun j => ?_, fun j hcut => ?_, fun j hover => ?_, h.bounded⟩
  · by_cases hj : j = k
    · subst hj
      rw [Function.update_self, hself, taken_read]
      have hordered := h.ordered j
      rw [hk, List.append_nil] at hordered
      exact hordered.append (List.Sublist.refl _)
    · rw [Function.update_of_ne hj, hother j hj]
      exact h.ordered j
  · by_cases hj : j = k
    · subst hj
      rw [Function.update_self, hself, taken_read, ← h.gapless j hcut, hk, List.append_nil]
      rfl
    · rw [Function.update_of_ne hj, hother j hj]
      exact h.gapless j hcut
  · obtain ⟨heof, hheld⟩ := h.complete j hover
    by_cases hj : j = k
    · subst hj
      rw [Function.update_self, hself]
      exact ⟨atEof_read heof _, front_of_atEof heof _⟩
    · rw [Function.update_of_ne hj, hother j hj]
      exact ⟨heof, hheld⟩

/-- The poll answers what it holds; `htruncated` says that its flags are true. -/
theorem reports (h : s.Books held) {a : PollAnswer} {call : Nat} (hheld : ∀ k, k.1 ≠ call → held k = [])
    (hcall : a.call = some call) (hdata : ∀ fd, a.data fd = held (call, fd)) (hle : ∀ fd, (a.data fd).length ≤ readSize)
    (htruncated : ∀ fd, a.truncated fd = false → (s.streams (call, fd)).atEof = true) :
    ({ s with answers := s.answers ++ [a] }).Books fun _ => [] := by
  have hanswered : ∀ k, ({ s with answers := s.answers ++ [a] } : Outputs).answered k = s.answered k ++ held k := by
    intro k
    rw [answered, List.filter_append, List.flatMap_append]
    congr 1
    by_cases hk : call = k.1
    · subst hk
      simp [hcall, hdata]
    · rw [hheld k (Ne.symm hk)]
      simp [hcall, hk]
  refine ⟨fun k => ?_, fun k hcut => ?_, fun k hover => ⟨?_, rfl⟩, fun b hb => ?_⟩
  · rw [hanswered, List.append_nil]
    exact h.ordered k
  · rw [hanswered, List.append_nil]
    exact h.gapless k hcut
  · rcases hover with ⟨b, hb, hbcall, hbtruncated⟩ | hdone
    · rcases List.mem_append.1 hb with hb | hb
      · exact (h.complete k (.inl ⟨b, hb, hbcall, hbtruncated⟩)).1
      · obtain rfl := List.mem_singleton.1 hb
        obtain rfl := Option.some.inj (hcall.symm.trans hbcall)
        exact htruncated k.2 hbtruncated
    · exact (h.complete k (.inr hdone)).1
  · rcases List.mem_append.1 hb with hb | hb
    · exact h.bounded b hb
    · obtain rfl := List.mem_singleton.1 hb
      exact hle

/-- The answer to a poll of an unknown pid is about no process. -/
theorem unknown (h : s.Books held) (pid : Int) :
    ({ s with answers := s.answers ++ [⟨pid, none, unknownProcess⟩] } : Outputs).Books held := by
  have hanswered : ∀ k, ({ s with answers := s.answers ++ [⟨pid, none, unknownProcess⟩] } : Outputs).answered k =
      s.answered k := by
    intro k
    simp [answered]
  refine ⟨fun k => ?_, fun k hcut => ?_, fun k hover => h.complete k ?_, fun b hb => ?_⟩
  · rw [hanswered]
    exact h.ordered k
  · rw [hanswered]
    exact h.gapless k hcut
  · rcases hover with ⟨b, hb, hbcall, hbtruncated⟩ | hdone
    · rcases List.mem_append.1 hb with hb | hb
      · exact .inl ⟨b, hb, hbcall, hbtruncated⟩
      · obtain rfl := List.mem_singleton.1 hb
        cases hbcall
    · exact .inr hdone
  · rcases List.mem_append.1 hb with hb | hb
    · exact h.bounded b hb
    · obtain rfl := List.mem_singleton.1 hb
      rintro (_ | _) <;> exact Nat.zero_le _

/-- A poll finds the process ended and both pipes at their end. -/
theorem marks (h : s.Books fun _ => []) {call : Nat} (heof : ∀ fd, (s.streams (call, fd)).atEof = true) :
    ({ s with done := call :: s.done }).Books fun _ => [] := by
  refine ⟨h.ordered, h.gapless, fun k hover => ⟨?_, rfl⟩, h.bounded⟩
  rcases hover with hanswer | hdone
  · exact (h.complete k (.inl hanswer)).1
  · rcases List.mem_cons.1 hdone with heq | hdone
    · exact heq ▸ heof k.2
    · exact (h.complete k (.inr hdone)).1

/-- Bytes are lost: those of a poll that is cut short. -/
theorem loses (h : s.Books held) {call : Nat} (hheld : ∀ k, k.1 ≠ call → held k = []) :
    ({ s with cut := call :: s.cut }).Books fun _ => [] := by
  refine ⟨fun k => ?_, fun k hcut => ?_, fun k hover => ⟨(h.complete k hover).1, rfl⟩, h.bounded⟩
  · exact ((List.sublist_append_left ..).append_right []).trans (by rw [List.append_nil]; exact h.ordered k)
  · obtain ⟨hne, hcut⟩ := List.ne_and_not_mem_of_not_mem_cons hcut
    have hgapless := h.gapless k hcut
    rwa [hheld k hne] at hgapless

end Books

/-! ### One step -/

section Step
variable {s : Outputs} {r : PollRead} {o e : Bytes} {tOut tErr : Bool}

theorem only_of_ne {call : Nat} {fd : Fd} {data : Bytes} {k : Nat × Fd} (h : k.1 ≠ call) :
    only (call, fd) data k = [] := Function.update_of_ne (fun heq => h (by rw [heq])) ..

/-- What a poll holds that has read both pipes. -/
def both (call : Nat) (o e : Bytes) : Nat × Fd → Bytes := Function.update (only (call, .stdout) o) (call, .stderr) e

theorem both_stdout (call : Nat) (o e : Bytes) : both call o e (call, .stdout) = o :=
  (Function.update_of_ne (by simp) ..).trans (Function.update_self ..)

theorem both_stderr (call : Nat) (o e : Bytes) : both call o e (call, .stderr) = e := Function.update_self ..

theorem both_nil (call : Nat) (o : Bytes) : both call o [] = only (call, .stdout) o := by
  have hheld : only (call, .stdout) o (call, .stderr) = [] := Function.update_of_ne (by simp) ..
  rw [both, ← hheld, Function.update_eq_self]

theorem both_of_ne {call : Nat} {k : Nat × Fd} (h : k.1 ≠ call) (o e : Bytes) : both call o e k = [] :=
  (Function.update_of_ne (fun heq => h (by rw [heq])) ..).trans (only_of_ne h)

theorem reads_readStream (k : Nat × Fd) (s : Outputs) :
    (s.readStream k).2.Reads k (s.readStream k).1.1 (s.readStream k).1.2 := by
  refine ⟨length_front_le _, fun h => ?_⟩
  rw [show (s.readStream k).2.streams k = (s.streams k).read readSize from setStream_self ..]
  simpa [readStream] using h

/-- Reading one stream leaves what is known of another. -/
theorem Reads.readStream {j k : Nat × Fd} (h : s.Reads j o tOut) (hjk : j ≠ k) : (s.readStream k).2.Reads j o tOut := by
  refine ⟨h.1, fun ht => ?_⟩
  rw [show (s.readStream k).2.streams j = s.streams j from setStream_of_ne hjk ..]
  exact h.2 ht

theorem kept_pollEnds (h : s.Books (both r.ctx.call o e)) (hout : s.Reads (r.ctx.call, .stdout) o tOut)
    (herr : s.Reads (r.ctx.call, .stderr) e tErr) : (s.pollEnds r o tOut e tErr).Kept := by
  have hidle : ∀ t : Outputs, t.procs.processLock = none → t.reading = none → t.Books (fun _ => []) → t.Kept := by
    intro t hlock hreading hbooks
    refine ⟨?_, fun _ => hreading, fun r o tOut hr => by rw [hlock] at hr; cases hr⟩
    rw [held, hlock]
    exact hbooks
  have hmarked : ∀ t : Outputs, t.Books (fun _ => []) → t.streams = s.streams →
      ({ t with done := if decide (r.ctx.call ∈ s.procs.exited) && ((s.streams (r.ctx.call, .stdout)).atEof &&
        (s.streams (r.ctx.call, .stderr)).atEof) then r.ctx.call :: t.done else t.done } : Outputs).Books fun _ => [] := by
    intro t hbooks hstreams
    split
    case isTrue hdone =>
      obtain ⟨_, heof⟩ := Bool.and_eq_true_iff.1 hdone
      obtain ⟨hstdout, hstderr⟩ := Bool.and_eq_true_iff.1 heof
      refine hbooks.marks fun fd => ?_
      rw [hstreams]
      cases fd
      · exact hstdout
      · exact hstderr
    case isFalse => exact hbooks
  have hlock := processLock_pollEnds ((s.streams (r.ctx.call, .stdout)).atEof && (s.streams (r.ctx.call, .stderr)).atEof)
    s.procs
  unfold pollEnds
  dsimp only
  cases hcode : Service.pbUint32 (s.exitCode r.ctx.call) with
  | some code =>
    refine hidle _ hlock rfl ((hmarked _ (h.reports (fun k hk => both_of_ne hk o e) rfl ?_ ?_ ?_) rfl).congr rfl rfl rfl rfl)
    · rintro (_ | _)
      · exact (both_stdout ..).symm
      · exact (both_stderr ..).symm
    · rintro (_ | _)
      · exact hout.1
      · exact herr.1
    · rintro (_ | _)
      · exact hout.2
      · exact herr.2
  | none =>
    exact hidle _ hlock rfl ((hmarked _ (h.loses fun k hk => both_of_ne hk o e) rfl).congr rfl rfl rfl rfl)

theorem kept_readStderr (h : s.Books (only (r.ctx.call, .stdout) o)) (hout : s.Reads (r.ctx.call, .stdout) o tOut)
    (hlock : s.procs.processLock = some r) : (s.readStderr r o tOut).Kept := by
  have hne : ((r.ctx.call, .stdout) : Nat × Fd) ≠ (r.ctx.call, .stderr) := by simp
  have hheld : only (r.ctx.call, .stdout) o (r.ctx.call, .stderr) = [] := Function.update_of_ne hne.symm ..
  unfold readStderr rd
  split
  case h_1 e tErr t heq =>
    split at heq
    case isTrue heof =>
      cases heq
      refine kept_pollEnds ?_ hout ⟨Nat.zero_le _, fun _ => heof⟩
      rwa [both_nil]
    case isFalse =>
      split at heq
      · cases heq
      · cases heq
        exact kept_pollEnds (h.readStream hheld) (hout.readStream hne) (reads_readStream ..)
  case h_2 =>
    refine ⟨?_, fun hnone => ?_, fun r' o' tOut' hr ho => ?_⟩
    · rw [held, hlock]
      exact h.congr rfl rfl rfl rfl
    · rw [hlock] at hnone
      cases hnone
    · obtain rfl := Option.some.inj (hlock.symm.trans hr)
      cases ho
      exact hout

theorem kept_readStdout (h : s.Books fun _ => []) (hlock : s.procs.processLock = some r) : (s.readStdout r).Kept := by
  unfold readStdout rd
  split
  case h_1 o tOut t heq =>
    split at heq
    case isTrue heof =>
      cases heq
      refine kept_readStderr ?_ ⟨Nat.zero_le _, fun _ => heof⟩ hlock
      rwa [only_nil]
    case isFalse =>
      split at heq
      · cases heq
      · cases heq
        exact kept_readStderr (h.readStream rfl) (reads_readStream ..) hlock
  case h_2 =>
    refine ⟨?_, fun hnone => ?_, fun r' o' tOut' hr ho => by cases ho⟩
    · rw [held, hlock]
      exact h.congr rfl rfl rfl rfl
    · rw [hlock] at hnone
      cases hnone

end Step

/-! ### All steps -/

namespace Kept
variable {s : Outputs}

/-- Without the lock nothing is held. -/
theorem held_idle (h : s.Kept) (hlock : s.procs.processLock = none) : s.Books fun _ => [] := by
  have hbooks := h.books
  rwa [held, hlock] at hbooks

/-- A step that leaves the poll in progress alone. -/
theorem aside (h : s.Kept) {t : Outputs} (hlock : t.procs.processLock = s.procs.processLock)
    (hreading : t.reading = s.reading) (hbooks : s.Books s.held → t.Books s.held)
    (hreads : ∀ k o tOut, s.Reads k o tOut → t.Reads k o tOut) : t.Kept := by
  have hheld : t.held = s.held := by rw [held, held, hlock, hreading]
  refine ⟨hheld ▸ hbooks h.books, fun hnone => ?_, fun r o tOut hr ho => ?_⟩
  · rw [hreading]
    exact h.idle (hlock ▸ hnone)
  · exact hreads _ _ _ (h.stdout r o tOut (hlock ▸ hr) (hreading ▸ ho))

theorem pollLooks (h : s.Kept) (pid : Int) : (s.pollLooks pid).Kept := by
  unfold Outputs.pollLooks
  split
  case isTrue hpoll =>
    have hbooks := h.held_idle hpoll.2
    dsimp only
    split
    case h_1 r hlock => exact kept_readStdout (hbooks.congr rfl rfl rfl rfl) hlock
    case h_2 hlock =>
      refine ⟨?_, fun _ => h.idle hpoll.2, fun r o tOut hr => ?_⟩
      · rw [held, hlock]
        exact (hbooks.unknown pid).congr rfl rfl rfl rfl
      · rw [hlock] at hr
        cases hr
  case isFalse => exact h

theorem readable (h : s.Kept) : s.readable.Kept := by
  unfold Outputs.readable
  have hbooks := h.books
  rw [held] at hbooks
  split
  case h_1 r hlock hreading =>
    rw [hlock, hreading] at hbooks
    dsimp only
    split
    · exact kept_readStderr (hbooks.readStream rfl) (reads_readStream ..) hlock
    · exact h
  case h_2 r o tOut hlock hreading =>
    rw [hlock, hreading] at hbooks
    have hne : ((r.ctx.call, .stdout) : Nat × Fd) ≠ (r.ctx.call, .stderr) := by simp
    dsimp only
    split
    · exact kept_pollEnds (hbooks.readStream (Function.update_of_ne hne.symm ..))
        ((h.stdout r o tOut hlock hreading).readStream hne) (reads_readStream ..)
    · exact h
  · exact h

theorem timedOut (h : s.Kept) : s.timedOut.Kept := by
  unfold Outputs.timedOut
  have hbooks := h.books
  rw [held] at hbooks
  split
  case h_1 r hlock hreading =>
    rw [hlock, hreading] at hbooks
    refine kept_readStderr ?_ ⟨Nat.zero_le _, nofun⟩ hlock
    rwa [only_nil]
  case h_2 r o tOut hlock hreading =>
    rw [hlock, hreading] at hbooks
    refine kept_pollEnds ?_ (h.stdout r o tOut hlock hreading) ⟨Nat.zero_le _, nofun⟩
    rwa [both_nil]
  · exact h

theorem pollRaised (h : s.Kept) : s.pollRaised.Kept := by
  unfold Outputs.pollRaised
  split
  case h_1 r hlock =>
    refine ⟨?_, fun _ => rfl, fun r' o tOut hr ho => by cases ho⟩
    have hheld : ∀ k : Nat × Fd, k.1 ≠ r.ctx.call → s.held k = [] := by
      intro k hk
      rw [held, hlock]
      rcases s.reading with _ | _ | ⟨o, tOut⟩
      · rfl
      · rfl
      · exact only_of_ne hk
    rw [held, processLock_pollEnds]
    exact (h.books.loses hheld).congr rfl rfl rfl rfl
  case h_2 => exact h

/-- The process writes, or closes a pipe. -/
theorem arrives (h : s.Kept) (k : Nat × Fd) {b : BufferedStream UInt8} (htaken : b.taken = (s.streams k).taken)
    (heof : (s.streams k).atEof = true → b.atEof = true) : (s.setStream k b).Kept := by
  refine h.aside rfl rfl (fun hbooks => hbooks.arrives k htaken heof) fun j o tOut hreads => ⟨hreads.1, fun ht => ?_⟩
  by_cases hj : j = k
  · subst hj
    rw [setStream_self]
    exact heof (hreads.2 ht)
  · rw [setStream_of_ne hj]
    exact hreads.2 ht

theorem step (h : s.Kept) (policy : CommandPolicy) (e : OutputEvent) : (Outputs.step policy e s).Kept := by
  cases e with
  | process e =>
    by_cases hlooks : ∃ pid, e = .pollLooks pid
    · obtain ⟨pid, rfl⟩ := hlooks
      exact h.pollLooks pid
    by_cases hends : ∃ drained, e = .pollEnds drained
    · obtain ⟨drained, rfl⟩ := hends
      exact h
    have haside : ({ s with procs := Processes.step policy e s.procs } : Outputs).Kept :=
      h.aside (processLock_step policy (fun pid he => hlooks ⟨pid, he⟩) (fun drained he => hends ⟨drained, he⟩) s.procs) rfl
        (fun hbooks => hbooks.congr rfl rfl rfl rfl) fun _ _ _ hreads => hreads
    cases e with
    | pollLooks pid => exact absurd ⟨pid, rfl⟩ hlooks
    | pollEnds drained => exact absurd ⟨drained, rfl⟩ hends
    | _ => exact haside
  | writes call fd data => exact h.arrives _ (taken_feed _) fun heof => atEof_feed heof _
  | closes call fd => exact h.arrives _ taken_feedEof atEof_feedEof
  | exitCode call code => exact h.aside rfl rfl (fun hbooks => hbooks.congr rfl rfl rfl rfl) fun _ _ _ hreads => hreads
  | readable => exact h.readable
  | timedOut => exact h.timedOut
  | pollRaised => exact h.pollRaised

/-- Between the answers and the output of the process is only what is buffered or held. -/
theorem delivered (h : s.Kept) : s.Delivered := by
  refine ⟨fun k => ?_, fun k hcut => ?_, fun k hover hcut => ?_, h.books.bounded⟩
  · exact ((List.sublist_append_left ..).trans (h.books.ordered k)).trans (s.streams k).taken_isPrefix.sublist
  · exact (h.books.gapless k hcut ▸ List.prefix_append ..).trans (s.streams k).taken_isPrefix
  · obtain ⟨heof, hheld⟩ := h.books.complete k hover
    rw [← taken_of_atEof heof, ← h.books.gapless k hcut, hheld, List.append_nil]

end Kept

theorem kept_init (processMaxConcurrent : Nat) : (init processMaxConcurrent).Kept := by
  refine ⟨⟨fun k => List.Sublist.refl _, fun k _ => rfl, fun k hover => ?_, nofun⟩, fun _ => rfl, nofun⟩
  rcases hover with ⟨a, ha, _⟩ | hdone
  · cases ha
  · cases hdone

/-- Whatever starts, writes, ends, kills and polls come between each other: the polls hand out the output of each
process in order, all of it once they say that it is over, unless one of them was cut short. -/
theorem polls_deliver (policy : CommandPolicy) (processMaxConcurrent : Nat) (es : List OutputEvent) :
    (Run.run (step policy) (init processMaxConcurrent) es).Delivered := by
  have hkept : (Run.run (step policy) (init processMaxConcurrent) es).Kept :=
    Run.run_invariant (fun _ e h => h.step policy e) (kept_init processMaxConcurrent) es
  exact hkept.delivered


end Outputs
end Daemon
end McuBridge
