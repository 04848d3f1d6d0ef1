import McuBridge.Daemon.Commands
import McuBridge.Lib.Run
import McuBridge.Lib.Semaphore

/-! # Processes of the daemon (`services/runtime.py`)

`_run_process`, `_monitor_process`, `_poll_process` and the two kill handlers as tasks that interleave at their awaits.
A step resumes one task and runs it to its next await; a task that is not there, or cannot go on, leaves the state
alone. `process_lock` is held over an await by a poll only, everyone else takes and leaves it within one step.

The permit of `_process_slots` taken by a call of `_run_process` is entered in the ledger under the number of the call,
and so is its return when the context of that call leaves `running_processes`. -/

namespace McuBridge
namespace Daemon

/-- `ProcessContext`: the process that a call of `_run_process` started. -/
structure ProcessContext where
  call : Nat
  ospid : Nat
  deriving DecidableEq

/-- `p.pid & 0xFFFF` -/
def ProcessContext.pid (ctx : ProcessContext) : Int := ((ctx.ospid &&& 0xFFFF : Nat) : Int)

/-- The await a call of `_run_process` is at: the permit, the new process, or `process_lock`. -/
inductive StartPhase where
  | acquiring
  | spawning
  | registering (ospid : Nat)
  deriving DecidableEq

structure ProcessStart where
  call : Nat
  command : Text
  phase : StartPhase
  deriving DecidableEq

/-- The await of `_monitor_process`: `process_lock`, the end of the process, or the minute after it. -/
inductive MonitorPhase where
  | looking
  | watching (ctx : ProcessContext)
  | sleeping
  deriving DecidableEq

structure Monitor where
  call : Nat
  pid : Int
  phase : MonitorPhase
  deriving DecidableEq

/-- A kill of the MCU or of the cloud: at `process_lock`, then in `_terminate_process` of what it found. -/
structure ProcessKill where
  pid : Int
  ctx : Option ProcessContext
  deriving DecidableEq

/-- A poll that has found its context and holds `process_lock`. -/
structure PollRead where
  pid : Int
  ctx : ProcessContext
  deriving DecidableEq

/-- How `create_subprocess_exec` ends. -/
inductive SpawnOutcome where
  | spawned (ospid : Nat)
  | osError

/-- `calls` is the number of calls of `_run_process` so far; `polls` are the polls that wait for `process_lock`;
`exited` are the calls whose process has a return code. -/
structure Processes where
  slots : Semaphore Nat
  running : AList fun _ : Int => ProcessContext
  calls : Nat
  starts : List ProcessStart
  monitors : List Monitor
  polls : List Int
  kills : List ProcessKill
  processLock : Option PollRead
  exited : List Nat

inductive ProcessEvent where
  | run (command : Text)
  | acquired (st : ProcessStart)
  | spawned (st : ProcessStart) (outcome : SpawnOutcome)
  | registered (st : ProcessStart)
  | raised (st : ProcessStart)
  | monitorLooks (m : Monitor)
  | monitorWakes (m : Monitor)
  | monitorEnds (m : Monitor)
  | poll (pid : Int)
  | pollLooks (pid : Int)
  | pollEnds (drained : Bool)
  | kill (pid : Int)
  | killLooks (k : ProcessKill)
  | killEnds (k : ProcessKill)
  | killCancelled (k : ProcessKill)
  | exits (call : Nat)

namespace Processes

def init (processMaxConcurrent : Nat) : Processes where
  slots := .init processMaxConcurrent
  running := ∅
  calls := 0
  starts := []
  monitors := []
  polls := []
  kills := []
  processLock := none
  exited := []

/-- `if running_processes.pop(pid, None): _process_slots.release()` -/
def popRelease (pid : Int) (s : Processes) : Processes :=
  match s.running.lookup pid with
  | some ctx => { s with running := s.running.erase pid, slots := s.slots.release ctx.call }
  | none => s

/-! ### `_run_process` -/

def runProcess (policy : CommandPolicy) (command : Text) (s : Processes) : Processes :=
  if policy.isCommandAllowed command then
    { s with starts := ⟨s.calls, command, .acquiring⟩ :: s.starts, calls := s.calls + 1 }
  else s

/-- A call goes on to its next await. -/
def advance (st : ProcessStart) (phase : StartPhase) (s : Processes) : Processes :=
  { s with starts := { st with phase := phase } :: s.starts.erase st }

/-- A call returns or raises. -/
def endStart (st : ProcessStart) (s : Processes) : Processes := { s with starts := s.starts.erase st }

/-- The permit is there; the arguments are split before the process is asked for, and a `ValueError` of the split is
not an `OSError`. -/
def acquired (st : ProcessStart) (s : Processes) : Processes :=
  if st ∈ s.starts ∧ st.phase = .acquiring ∧ 0 < s.slots.value then
    let s := { s with slots := s.slots.acquire st.call }
    if (shlexSplit st.command).isSome then s.advance st .spawning else s.endStart st
  else s

def spawned (st : ProcessStart) (outcome : SpawnOutcome) (s : Processes) : Processes :=
  if st ∈ s.starts ∧ st.phase = .spawning then
    match outcome with
    | .spawned ospid => s.advance st (.registering ospid)
    | .osError => { s.endStart st with slots := s.slots.release st.call }
  else s

/-- The entry and the monitor. A later context takes the place of an earlier one with its pid. -/
def registered (st : ProcessStart) (s : Processes) : Processes :=
  match st.phase with
  | .registering ospid =>
    if st ∈ s.starts ∧ s.processLock = none then
      let ctx : ProcessContext := ⟨st.call, ospid⟩
      { s.endStart st with
        running := s.running.insert ctx.pid ctx
        monitors := ⟨st.call, ctx.pid, .looking⟩ :: s.monitors }
    else s
  | _ => s

/-- The await ends with an exception that is not an `OSError`: a cancellation, or a `ValueError` of
`create_subprocess_exec`. -/
def raised (st : ProcessStart) (s : Processes) : Processes := if st ∈ s.starts then s.endStart st else s

/-! ### `_monitor_process` -/

/-- The `finally` block. -/
def monitorEnds (m : Monitor) (s : Processes) : Processes :=
  if m ∈ s.monitors then { s with monitors := s.monitors.erase m }.popRelease m.pid else s

def monitorLooks (m : Monitor) (s : Processes) : Processes :=
  if m ∈ s.monitors ∧ m.phase = .looking ∧ s.processLock = none then
    match s.running.lookup m.pid with
    | some ctx => { s with monitors := { m with phase := .watching ctx } :: s.monitors.erase m }
    | none => s.monitorEnds m
  else s

/-- The process has ended, or its time is out and it has been terminated. -/
def monitorWakes (m : Monitor) (s : Processes) : Processes :=
  match m.phase with
  | .watching _ =>
    if m ∈ s.monitors then { s with monitors := { m with phase := .sleeping } :: s.monitors.erase m } else s
  | _ => s

/-! ### `_poll_process` -/

def poll (pid : Int) (s : Processes) : Processes := { s with polls := pid :: s.polls }

/-- The poll has the lock: without a context it answers at once. -/
def pollLooks (pid : Int) (s : Processes) : Processes :=
  if pid ∈ s.polls ∧ s.processLock = none then
    { s with polls := s.polls.erase pid, processLock := (s.running.lookup pid).map fun ctx => ⟨pid, ctx⟩ }
  else s

/-- The poll has read; `drained` says that both streams are at their end. A poll that raises or is cancelled ends with
`drained` false. -/
def pollEnds (drained : Bool) (s : Processes) : Processes :=
  match s.processLock with
  | some r =>
    let s := { s with processLock := none }
    if r.ctx.call ∈ s.exited ∧ drained then s.popRelease r.pid else s
  | none => s

/-! ### `_on_mcu_process_kill` and the kill of `_handle_shell` -/

def kill (pid : Int) (s : Processes) : Processes := { s with kills := ⟨pid, none⟩ :: s.kills }

def killLooks (k : ProcessKill) (s : Processes) : Processes :=
  if k ∈ s.kills ∧ k.ctx = none ∧ s.processLock = none then
    match s.running.lookup k.pid with
    | some ctx => { s with kills := { k with ctx := some ctx } :: s.kills.erase k }
    | none => { s with kills := s.kills.erase k }
  else s

/-- `_terminate_process` has returned, or raised an `OSError`, which is logged. -/
def killEnds (k : ProcessKill) (s : Processes) : Processes :=
  if k ∈ s.kills ∧ k.ctx ≠ none then { s with kills := s.kills.erase k }.popRelease k.pid else s

def killCancelled (k : ProcessKill) (s : Processes) : Processes := { s with kills := s.kills.erase k }

/-! ### Steps -/

def step (policy : CommandPolicy) : ProcessEvent → Processes → Processes
  | .run command, s => s.runProcess policy command
  | .acquired st, s => s.acquired st
  | .spawned st outcome, s => s.spawned st outcome
  | .registered st, s => s.registered st
  | .raised st, s => s.raised st
  | .monitorLooks m, s => s.monitorLooks m
  | .monitorWakes m, s => s.monitorWakes m
  | .monitorEnds m, s => s.monitorEnds m
  | .poll pid, s => s.poll pid
  | .pollLooks pid, s => s.pollLooks pid
  | .pollEnds drained, s => s.pollEnds drained
  | .kill pid, s => s.kill pid
  | .killLooks k, s => s.killLooks k
  | .killEnds k, s => s.killEnds k
  | .killCancelled k, s => s.killCancelled k
  | .exits call, s => { s with exited := call :: s.exited }

end Processes

end Daemon
end McuBridge
