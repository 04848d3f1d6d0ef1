import McuBridge.Mcu.Transmit

/-! # The services (`services/*.cpp`)

First the methods the command handlers call, then the methods the sketch calls. `DataStore.set`,
`Mailbox.push`, `Mailbox.requestRead`, `Mailbox.requestAvailable`, `Mailbox.signalProcessed`,
`FileSystem.write`, `FileSystem.remove` and `Process.kill` truncate their arguments and make one call of
`send` or `sendFrame`, so they have no definition of their own. -/

namespace McuBridge
namespace Mcu
variable (P : Platform)

/-! ### Called by the command handlers -/

/-- `Console._push`: what does not fit in the receive ring is dropped. -/
def consolePush (data : Bytes) (s : Mcu) : Mcu :=
  let room := P.consoleRxBufferSize - s.services.consoleRx.length
  { s with services := { s.services with consoleRx := s.services.consoleRx ++ data.take room } }

/-- `DataStore._onResponse` -/
def dataStoreOnResponse (value : Bytes) (s : Mcu) : Mcu :=
  match s.services.pendingGets with
  | [] => s
  | valid :: rest =>
    let s := { s with services := { s.services with pendingGets := rest } }
    if valid then s.act (.datastoreCallback value) else s

/-- `Mailbox._onPush` and `Mailbox._onReadResponse`, which differ in the message type only. -/
def mailboxQueuePush (data : Bytes) (s : Mcu) : Mcu :=
  if mailboxCapacity ≤ s.services.mailboxQueue.length then s
  else { s with services := { s.services with mailboxQueue := s.services.mailboxQueue ++ [data.take 64] } }

/-- `Mailbox._onAvailableResponse` -/
def mailboxOnAvailableResponse (count : UInt32) (s : Mcu) : Mcu :=
  if s.services.availableCallback then s.act (.availableCallback count) else s

/-- `FileSystem._onWrite` -/
def fileSystemOnWrite (hal : Hal) (path data : Bytes) (s : Mcu) : Mcu :=
  let s := s.act (.writeFile path data)
  (s.sendFrame P (if hal.writeFile then Status.ok else Status.error).toUnderlying 0 []).1

/-- The chunk loop of `FileSystem._onRead`. Leaving it early is `finished`. -/
def fileSystemReadLoop (hal : Hal) (path : Bytes) : List Nat → Nat → Mcu → Mcu
  | [], _, s => s
  | chunk :: chunks, offset, s =>
    if hal.readTimedOut chunk then s
    else
      match hal.readFileChunk path offset with
      | none => (s.sendFrame P Status.error.toUnderlying 0 []).1
      | some (data, hasMore) =>
        let s := (s.send P .fileReadResp 0 (.fileReadResponse (data.take 64))).1
        if !hasMore then (s.send P .fileReadResp 0 (.fileReadResponse [])).1
        else fileSystemReadLoop hal path chunks (offset + data.length) s

/-- `FileSystem._onRead` -/
def fileSystemOnRead (hal : Hal) (path : Bytes) (s : Mcu) : Mcu :=
  s.fileSystemReadLoop P hal path (List.range fileMaxReadChunks) 0

/-- `FileSystem._onRemove` -/
def fileSystemOnRemove (hal : Hal) (path : Bytes) (s : Mcu) : Mcu :=
  let s := s.act (.removeFile path)
  (s.sendFrame P (if hal.removeFile then Status.ok else Status.error).toUnderlying 0 []).1

/-- `FileSystem._onResponse` -/
def fileSystemOnResponse (content : Bytes) (s : Mcu) : Mcu :=
  if s.services.readHandler then s.act (.readCallback content) else s

/-- `Process._onKillNotification` -/
def processOnKillNotification (s : Mcu) : Mcu :=
  { s with services := { s.services with pendingRunAsync := 0, pendingPolls := [] } }

/-- `Process._onRunAsyncResponse` -/
def processOnRunAsyncResponse (pid : UInt32) (s : Mcu) : Mcu :=
  match s.services.pendingRunAsync with
  | 0 => s
  | n + 1 => ({ s with services := { s.services with pendingRunAsync := n } } : Mcu).act (.runAsyncCallback pid)

/-- `Process._onPollResponse` -/
def processOnPollResponse (m : ProcessPollResponse) (s : Mcu) : Mcu :=
  match s.services.pendingPolls with
  | [] => s
  | _ :: rest => ({ s with services := { s.services with pendingPolls := rest } } : Mcu).act (.pollCallback m)

/-- `SPIService.begin` -/
def spiBegin (s : Mcu) : Mcu :=
  ({ s with services := { s.services with spiInitialized := true } } : Mcu).act .spiBegin

/-- `SPIService.end` -/
def spiEnd (s : Mcu) : Mcu :=
  ({ s with services := { s.services with spiInitialized := false } } : Mcu).act .spiEnd

/-- `SPIService.setConfig` -/
def spiSetConfig (m : SpiConfig) (s : Mcu) : Mcu :=
  { s with services := { s.services with spiSettings := m } }

/-- `SPIService.transfer`: the bytes clocked in, or `none` where it returns zero. -/
def spiTransfer (hal : Hal) (data : Bytes) (s : Mcu) : Mcu × Option Bytes :=
  if !s.services.spiInitialized || data.isEmpty then (s, none)
  else (s.act (.spiTransfer data), hal.spiTransfer data)

/-! ### Called by the sketch -/

/-- `Console.process` -/
def consoleProcess (s : Mcu) : Mcu :=
  if s.services.consoleTx.isEmpty then s
  else
    let r := s.send P .consoleWrite 0 (.consoleWrite (s.services.consoleTx.take 64))
    if r.2 then { r.1 with services := { r.1.services with consoleTx := [] } } else r.1

def consoleTxFull (s : Mcu) : Bool := P.consoleTxBufferSize ≤ s.services.consoleTx.length

def consoleTxInsert (data : Bytes) (s : Mcu) : Mcu :=
  { s with services := { s.services with consoleTx := s.services.consoleTx ++ data } }

def consoleProcessIfFull (s : Mcu) : Mcu := if s.consoleTxFull P then s.consoleProcess P else s

/-- `Console.write(buffer, size)` -/
def consoleWrite (data : Bytes) (s : Mcu) : Mcu :=
  if data.isEmpty then s
  else
    let s := s.consoleProcessIfFull P
    let toWrite := min data.length (P.consoleTxBufferSize - s.services.consoleTx.length)
    let s := s.consoleTxInsert (data.take toWrite)
    if toWrite < data.length && s.consoleTxFull P then
      let s := s.consoleProcess P
      let extraWrite := min (data.length - toWrite) (P.consoleTxBufferSize - s.services.consoleTx.length)
      s.consoleTxInsert ((data.drop toWrite).take extraWrite)
    else s

/-- `DataStore.get` -/
def dataStoreGet (key : Bytes) (valid : Bool) (s : Mcu) : Mcu :=
  if maxPendingDatastore ≤ s.services.pendingGets.length then s.emitStatus P .error none
  else
    let r := s.send P .datastoreGet 0 (.datastoreGet (key.take 31))
    if !r.2 then r.1.emitStatus P .error none
    else { r.1 with services := { r.1.services with pendingGets := r.1.services.pendingGets ++ [valid] } }

/-- `FileSystem.read` -/
def fileSystemRead (path : Bytes) (valid : Bool) (s : Mcu) : Mcu :=
  let s := { s with services := { s.services with readHandler := valid } }
  let r := s.send P .fileRead 0 (.fileRead (path.take 63))
  if !r.2 then r.1.emitStatus P .error none else r.1

/-- The command line `Process.runAsync` builds in its 64-byte buffer. -/
def processCommandLine (cmd : Bytes) (args : List Bytes) : Option Bytes :=
  if 64 < cmd.length then none
  else args.foldl (fun acc arg => acc.bind fun b =>
    if 64 - b.length < 1 + arg.length then none else some (b ++ [32] ++ arg)) (some cmd)

/-- `kProcessInvalidPid`, cast to the callback's argument. -/
def processInvalidPid : UInt32 := 4294967295

/-- The status texts `Process` reports: `"process_limit_reached"`, `"process_run_async_failed"` and
`"process_run_internal_error"`. -/
inductive ProcessFailure where
  | limitReached | runAsyncFailed | runInternalError

def ProcessFailure.text : ProcessFailure → Bytes
  | .limitReached => "process_limit_reached".toUTF8.toList
  | .runAsyncFailed => "process_run_async_failed".toUTF8.toList
  | .runInternalError => "process_run_internal_error".toUTF8.toList

/-- `emitStatus` with a text, then the handler with the invalid pid if there is one. -/
def processFail (f : ProcessFailure) (valid : Bool) (s : Mcu) : Mcu :=
  let s := s.emitStatus P .error (some f.text)
  if valid then s.act (.runAsyncCallback processInvalidPid) else s

/-- `Process.runAsync` -/
def processRunAsync (cmd : Bytes) (args : List Bytes) (valid : Bool) (s : Mcu) : Mcu :=
  if valid && maxPendingProcessPolls ≤ s.services.pendingRunAsync then s.processFail P .limitReached valid
  else
    match processCommandLine cmd args with
    | none => s.processFail P .runAsyncFailed valid
    | some line =>
      let r := s.send P .processRunAsync 0 (.processRunAsync (line.take 59))
      if !r.2 then r.1.processFail P .runAsyncFailed valid
      else if valid then
        { r.1 with services := { r.1.services with pendingRunAsync := r.1.services.pendingRunAsync + 1 } }
      else r.1

/-- `Process.poll` -/
def processPoll (pid : UInt32) (valid : Bool) (s : Mcu) : Mcu :=
  if valid && maxPendingProcessPolls ≤ s.services.pendingPolls.length then
    s.emitStatus P .error (some ProcessFailure.limitReached.text)
  else
    let r := s.send P .processPoll 0 (.processPoll pid)
    if !r.2 then r.1.emitStatus P .error (some ProcessFailure.runInternalError.text)
    else if valid then
      { r.1 with services := { r.1.services with pendingPolls := r.1.services.pendingPolls ++ [pid] } }
    else r.1

/-- `Mailbox.process` -/
def mailboxProcess (s : Mcu) : Mcu :=
  match s.services.mailboxQueue with
  | [] => s
  | m :: rest =>
    if s.services.messageCallback then
      { s.act (.messageCallback m) with services := { s.services with mailboxQueue := rest } }
    else s

end Mcu
end McuBridge
