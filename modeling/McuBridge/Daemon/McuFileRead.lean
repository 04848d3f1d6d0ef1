import McuBridge.Daemon.Link

/-! # Reading a file of the MCU (`services/runtime.py`)

`_handle_file_mcu_read` and `_on_mcu_file_read_resp`. Requests wait for `_mcu_read_lock`; the one that has it awaits
the future of `_pending_mcu_read`, into which the chunks of any response go, up to an empty one. -/

namespace McuBridge
namespace Daemon

/-- `_PendingMcuRead`; `future` is the result that was set. -/
structure PendingMcuRead where
  chunks : List Bytes := []
  future : Option Bytes := none
  deriving DecidableEq

/-- A chunk is kept, an empty one ends the file, unless it has been ended. -/
def PendingMcuRead.onContent (r : PendingMcuRead) (content : Bytes) : PendingMcuRead :=
  if content ≠ [] then { r with chunks := r.chunks ++ [content] }
  else if r.future.isNone then { r with future := some r.chunks.flatten }
  else r

/-- What a request publishes: the content, or one of the errors `mcu_file_read_dispatch_failed` and
`mcu_file_read_timeout`. It publishes nothing when `send_raw` raises. -/
inductive ReadOutcome where
  | content (b : Bytes)
  | dispatchFailed
  | timedOut
  | raised
  deriving DecidableEq

/-- `waiting` are the paths of the requests that wait for the lock, `current` is the path of the request that awaits
its future, `ended` has the outcome of the others. -/
structure McuFileReader where
  waiting : List Bytes := []
  current : Option Bytes := none
  pending : Option PendingMcuRead := none
  ended : List (Bytes × ReadOutcome) := []
  deriving DecidableEq

namespace McuFileReader

def request (path : Bytes) (s : McuFileReader) : McuFileReader := { s with waiting := s.waiting ++ [path] }

/-- The request that gets the lock next. -/
def next (s : McuFileReader) : Option Bytes := if s.current.isNone then s.waiting.head? else none

def finish (path : Bytes) (o : ReadOutcome) (s : McuFileReader) : McuFileReader :=
  { s with current := none, pending := none, ended := s.ended ++ [(path, o)] }

/-- The request has the lock and has called `send_raw`. If that raises, `_pending_mcu_read` stays set. -/
def begin (path : Bytes) (result : Link.RawResult) (s : McuFileReader) : McuFileReader :=
  let s := { s with waiting := s.waiting.tail, pending := some {} }
  match result with
  | .sent => { s with current := some path }
  | .failed => s.finish path .dispatchFailed
  | .raised => { s with ended := s.ended ++ [(path, .raised)] }

/-- `_on_mcu_file_read_resp` -/
def onResponse (content : Bytes) (s : McuFileReader) : McuFileReader :=
  { s with pending := s.pending.map fun r => r.onContent content }

/-- The awaited future has its result. -/
def completes (s : McuFileReader) : McuFileReader :=
  match s.current, s.pending.bind fun r => r.future with
  | some path, some b => s.finish path (.content b)
  | _, _ => s

def timeout (s : McuFileReader) : McuFileReader :=
  match s.current with
  | some path => s.finish path .timedOut
  | none => s

end McuFileReader

/-! ### Assembling -/

/-- What was handled of a chunk and the empty one behind it. -/
theorem PendingMcuRead.future_of_prefix {file b : Bytes} {handled : List Bytes} (hpre : handled <+: [file, []])
    (hfut : (handled.foldl PendingMcuRead.onContent {}).future = some b) : b = file := by
  obtain ⟨rest, hrest⟩ := hpre
  match handled, hrest with
  | [], _ => cases hfut
  | [c], hrest =>
    have hc : c = file := (List.cons.inj hrest).1
    by_cases hempty : c = []
    · rw [hempty] at hfut
      cases hfut
      exact hempty.symm.trans hc
    · simp [PendingMcuRead.onContent, hempty] at hfut
  | [c, d], hrest =>
    have hc : c = file := (List.cons.inj hrest).1
    have hd : d = [] := (List.cons.inj (List.cons.inj hrest).2).1
    by_cases hempty : c = []
    · rw [hempty, hd] at hfut
      cases hfut
      exact hempty.symm.trans hc
    · simp [PendingMcuRead.onContent, hempty, hd] at hfut
      exact hfut.symm.trans hc
  | _ :: _ :: _ :: _, hrest =>
    have hlen := congrArg List.length hrest
    simp at hlen

end Daemon
end McuBridge
