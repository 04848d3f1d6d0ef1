import McuBridge.Daemon.Frame
import McuBridge.Daemon.Policy

/-! # Cloud and IPC requests (`services/runtime.py`)

`handleRequest` and the handlers it selects, on the part of the service's state they read. `effects` is the
trace of what a request does: serial commands, console input, operations on files, processes, mailboxes
and the datastore, and publications. An exception ends the request and is kept in `raised`. -/

namespace McuBridge
namespace Daemon

inductive PyError where
  | indexError | valueError | unicodeDecodeError | decodeError
  deriving DecidableEq

/-- What `serial.send` returns: `False`, `True`, or the bytes of a response. -/
inductive SendResult where
  | failed
  | accepted
  | answered (payload : Bytes)

/-- Its truth value. -/
def SendResult.ok : SendResult → Bool
  | .failed => false
  | .accepted => true
  | .answered b => !b.isEmpty

inductive CloudBody where
  | raw (b : Bytes)
  | runAsyncResponse (pid : UInt32)
  | pollResponse (m : ProcessPollResponse)
  | forbidden (topic action : Text)
  | pinOverflow (topic : Text) (pin : Int)
  | versionText (m : VersionResponse)
  | freeMemoryText (value : UInt32)
  | handshakeSnapshot
  | bridgeSnapshot
  | statusReport (status : Status) (message : Text)
  deriving DecidableEq

inductive Effect where
  | send (cmd : Command) (payload : Payload)
  | consoleInput (data : Bytes)
  | datastoreSet (key : Text) (value : Bytes)
  | datastoreGet (key : Text)
  | mailboxAppend (data : Bytes)
  | mailboxPopleft
  | fileWrite (path : Text) (data : Bytes)
  | fileRead (path : Text)
  | fileRemove (path : Text)
  | processRun (command : Text)
  | processPoll (pid : Int)
  | processKill (pid : Int)
  | publish (topic : Text) (body : CloudBody)
  deriving DecidableEq

/-- What the file system, the process table and the protobuf parsers answer during one request; a parser
is `none` where it raises `DecodeError`. -/
structure Host where
  py : PyText
  safePath : Text → Option Text
  writeWithQuota : Text → Bytes → Bool
  isFile : Text → Bool
  pathExists : Text → Bool
  readBytes : Text → Bytes
  isCommandAllowed : Text → Bool
  createSubprocess : Text → Option UInt32
  pollProcess : Int → ProcessPollResponse
  mcuFileRead : Option Bytes
  parseRunAsync : Bytes → Option Text
  parseSpiConfig : Bytes → Option SpiConfig
  parseSpiTransferResponse : Bytes → Option Bytes
  parseFreeMemoryResponse : Bytes → Option UInt32
  parseVersionResponse : Bytes → Option VersionResponse

structure BridgeRequest where
  topic : Text
  payload : Bytes

/-- `sendResults` is what the next calls of `serial.send` will return; a call past its end fails. -/
structure Service where
  serial : Bool
  cloudTopicPrefix : Text
  topicAuthorization : Option TopicAuthorization
  consoleToMcuQueue : List Bytes
  mcuIsPaused : Bool
  mailboxQueue : List Bytes
  mailboxIncomingQueue : List Bytes
  datastoreCache : Option (List (Text × Bytes))
  pendingDigitalReads : List Int
  pendingAnalogReads : List Int
  pendingPinRequestLimit : Nat
  runningProcesses : List Int
  mcuVersion : Option VersionResponse
  sendResults : List SendResult
  effects : List Effect
  raised : Option PyError

namespace Service

def perform (e : Effect) (s : Service) : Service := { s with effects := s.effects ++ [e] }

def raises (e : PyError) (s : Service) : Service := { s with raised := some e }

/-- `serial.send` -/
def send (cmd : Command) (payload : Payload) (s : Service) : Service × SendResult :=
  ({ s.perform (.send cmd payload) with sendResults := s.sendResults.tail }, s.sendResults.headD .failed)

/-- `enqueue_cloud` of a publication below the topic prefix. -/
def publish (t : Topic) (segments : List Text) (body : CloudBody) (s : Service) : Service :=
  s.perform (.publish (topicPath s.cloudTopicPrefix t segments) body)

/-! ### Console -/

def iterChunks (data : Bytes) (chunkSize : Nat) : List Bytes :=
  (List.range ((data.length + chunkSize - 1) / chunkSize)).map fun i => (data.drop (i * chunkSize)).take chunkSize

/-- The inner loop of `_flush_console_queue`: false if a chunk could not be sent. -/
def sendChunks : List Bytes → Service → Service × Bool
  | [], s => (s, true)
  | chunk :: chunks, s =>
    let r := s.send .consoleWrite (.message (.consoleWrite chunk))
    if r.2.ok then sendChunks chunks r.1 else (r.1, false)

/-- The outer loop, on the queue it finds. -/
def flushConsoleLoop : List Bytes → Service → Service
  | [], s => { s with consoleToMcuQueue := [] }
  | buf :: rest, s =>
    if s.mcuIsPaused then { s with consoleToMcuQueue := buf :: rest }
    else
      let r := sendChunks (iterChunks buf maxPayloadSize) s
      if r.2 then flushConsoleLoop rest r.1 else { r.1 with consoleToMcuQueue := buf :: rest }

def flushConsoleQueue (s : Service) : Service :=
  if !s.serial then s else flushConsoleLoop s.consoleToMcuQueue s

def handleConsole (req : BridgeRequest) (s : Service) : Service :=
  if req.payload.isEmpty then s
  else flushConsoleQueue { s.perform (.consoleInput req.payload) with
    consoleToMcuQueue := s.consoleToMcuQueue ++ [req.payload] }

/-! ### Datastore and mailbox -/

def publishDatastoreValue (key : Text) (value : Bytes) (s : Service) : Service :=
  s.publish .datastore ("get".toList :: segmentsOf key) (.raw value)

def handleDatastore (h : Host) (route : TopicRoute) (req : BridgeRequest) (s : Service) : Service :=
  let key := joinSlash route.remainder
  if key.isEmpty then s
  else if route.identifier = "put".toList then
    if (h.py.encode key).length ≤ 255 ∧ req.payload.length ≤ 255 then
      let s := match s.datastoreCache with
        | some cache => { s.perform (.datastoreSet key req.payload) with
            datastoreCache := some ((key, req.payload) :: cache) }
        | none => s
      s.publishDatastoreValue key req.payload
    else s
  else if route.identifier = "get".toList then
    let found := s.datastoreCache.bind fun cache => cache.lookup key
    let s := if s.datastoreCache.isSome then s.perform (.datastoreGet key) else s
    match found with
    | some value => s.publishDatastoreValue key value
    | none =>
      if route.remainder.getLast? = some "request".toList then s.publishDatastoreValue key [] else s
  else s

def handleMailbox (route : TopicRoute) (req : BridgeRequest) (s : Service) : Service :=
  if !s.serial then s
  else if route.identifier = "write".toList then
    let s := { s.perform (.mailboxAppend req.payload) with mailboxQueue := s.mailboxQueue ++ [req.payload] }
    (s.send .mailboxPush (.message (.mailboxPush req.payload))).1
  else if route.identifier = "read".toList then
    let data := s.mailboxIncomingQueue.headD []
    let s := { s.perform .mailboxPopleft with mailboxIncomingQueue := s.mailboxIncomingQueue.tail }
    s.publish .mailbox ["read".toList, "response".toList] (.raw data)
  else s

/-! ### Files -/

def mcuFsPrefix : Text := "mcu/".toList

/-- `_handle_file_mcu_read`; `mcuFileRead` is what the awaited future gives before its timeout. -/
def handleFileMcuRead (h : Host) (target : Text) (s : Service) : Service :=
  let response := ["read".toList, "response".toList, target]
  let r := s.send .fileRead (.message (.fileRead (h.py.encode (target.drop mcuFsPrefix.length))))
  if r.2.ok then
    match h.mcuFileRead with
    | some content => r.1.publish .file response (.raw content)
    | none => r.1.publish .file response (.raw (h.py.encode "error:mcu_file_read_timeout".toList))
  else r.1.publish .file response (.raw (h.py.encode "error:mcu_file_read_dispatch_failed".toList))

def handleFile (h : Host) (route : TopicRoute) (req : BridgeRequest) (s : Service) : Service :=
  if !s.serial then s
  else
    let target := joinSlash route.remainder
    match route.action with
    | none => s
    | some act =>
      if act.isEmpty || target.isEmpty then s
      else if mcuFsPrefix.isPrefixOf target then
        let path := h.py.encode (target.drop mcuFsPrefix.length)
        if act = "read".toList then s.handleFileMcuRead h target
        else if act = "write".toList then
          let r := s.send .fileWrite (.message (.fileWrite path req.payload))
          if r.2.ok then r.1.publish .file ["read".toList, target] (.raw req.payload) else r.1
        else if act = "remove".toList then (s.send .fileRemove (.message (.fileRemove path))).1
        else s
      else
        match h.safePath target with
        | none => s
        | some path =>
          if act = "write".toList then
            if h.writeWithQuota path req.payload then
              (s.perform (.fileWrite path req.payload)).publish .file ["read".toList, target] (.raw req.payload)
            else s
          else if act = "read".toList then
            if h.isFile path && !"response".toList.isSuffixOf req.topic then
              (s.perform (.fileRead path)).publish .file ["read".toList, "response".toList, target]
                (.raw (h.readBytes path))
            else s
          else if act = "remove".toList then
            if h.pathExists path then s.perform (.fileRemove path) else s
          else s

/-! ### Processes -/

/-- `_run_process`: pid 0 where it is refused or cannot be started. -/
def runProcess (h : Host) (command : Text) (s : Service) : Service × UInt32 :=
  if !h.isCommandAllowed command then (s, 0)
  else
    match h.createSubprocess command with
    | some pid =>
      let pid := pid &&& 65535
      ({ s.perform (.processRun command) with
        runningProcesses := pid.toNat :: s.runningProcesses.erase pid.toNat }, pid)
    | none => (s, 0)

/-- The command of a RUN_ASYNC request: a protobuf message if the payload starts with its field tag. -/
def runAsyncCommand (h : Host) (payload : Bytes) : Option Text :=
  if payload.head? = some 10 then h.parseRunAsync payload else (h.py.decode payload).map h.py.strip

def handleShell (h : Host) (route : TopicRoute) (req : BridgeRequest) (s : Service) : Service :=
  match route.segments with
  | [] => s
  | act :: rest =>
    if act = "run_async".toList then
      let r := match runAsyncCommand h req.payload with
        | some command => s.runProcess h command
        | none => (s, 0)
      r.1.publish .shell ["run_async".toList, "response".toList] (.runAsyncResponse r.2)
    else if act = "poll".toList ∨ act = "kill".toList then
      match rest with
      | [pidText] =>
        match h.py.int pidText with
        | none => s.raises .valueError
        | some pid =>
          if act = "poll".toList then
            (s.perform (.processPoll pid)).publish .shell ["poll".toList, (toString pid).toList, "response".toList]
              (.pollResponse (h.pollProcess pid))
          else if pid ∈ s.runningProcesses then
            { s.perform (.processKill pid) with runningProcesses := s.runningProcesses.erase pid }
          else s
      | _ => s
    else s

/-! ### SPI and pins -/

def handleSpi (h : Host) (route : TopicRoute) (req : BridgeRequest) (s : Service) : Service :=
  if !s.serial then s
  else if route.identifier = "begin".toList then (s.send .spiBegin (.bytes [])).1
  else if route.identifier = "end".toList then (s.send .spiEnd (.bytes [])).1
  else if route.identifier = "config".toList then
    match h.parseSpiConfig req.payload with
    | some p => (s.send .spiSetConfig (.message (.spiConfig p))).1
    | none => s
  else if route.identifier = "transfer".toList then
    if req.payload.isEmpty then s
    else
      match s.send .spiTransfer (.message (.spiTransfer req.payload)) with
      | (s, .answered res) =>
        match h.parseSpiTransferResponse res with
        | some data => s.publish .spi ["transfer".toList, "response".toList] (.raw data)
        | none => s.raises .decodeError
      | (s, _) => s
  else s

/-- `_parse_pin`: `none` where `int` raises. -/
def parsePin (py : PyText) (s : Text) : Option Int :=
  let s := py.upper s
  if s.head? = some 'A' && py.isDigit s.tail then py.int s.tail
  else if py.isDigit s then py.int s
  else some (-1)

/-- A `uint32` field of a message under construction: out of range raises `ValueError`. -/
def pbUint32 (i : Int) : Option UInt32 := if 0 ≤ i ∧ i < 2 ^ 32 then some (UInt32.ofNat i.toNat) else none

/-- An open enum field, stored as an `int32`. -/
def pbEnum (i : Int) : Option UInt32 := if -2 ^ 31 ≤ i ∧ i < 2 ^ 31 then some (UInt32.ofInt i) else none

def pinModeMessage (pin mode : Int) : Option PayloadType :=
  (pbUint32 pin).bind fun p => (pbEnum mode).map fun m => .pinMode p m

/-- Both kinds of write carry a `DigitalWrite` message. -/
def pinWriteMessage (pin value : Int) : Option PayloadType :=
  (pbUint32 pin).bind fun p => (pbUint32 value).map fun v => .digitalWrite p v

/-- Send a message whose construction may have raised. -/
def sendOrRaise (cmd : Command) (m : Option PayloadType) (s : Service) : Service :=
  match m with
  | some m => (s.send cmd (.message m)).1
  | none => s.raises .valueError

def handlePinRead (route : TopicRoute) (pin : Int) (s : Service) : Service :=
  let pending := if route.topic = .digital then s.pendingDigitalReads else s.pendingAnalogReads
  if pending.length < s.pendingPinRequestLimit then
    let message := (pbUint32 pin).map .pinRead
    if route.topic = .digital then
      sendOrRaise .digitalRead message { s with pendingDigitalReads := s.pendingDigitalReads ++ [pin] }
    else sendOrRaise .analogRead message { s with pendingAnalogReads := s.pendingAnalogReads ++ [pin] }
  else s.publish .system ["status".toList] (.pinOverflow route.topic.value pin)

def handlePinWrite (h : Host) (route : TopicRoute) (pin : Int) (pl : Text) (s : Service) : Service :=
  let cmd := if route.topic = .digital then Command.digitalWrite else .analogWrite
  match (if h.py.isDigit pl then h.py.int pl else some 0) with
  | none => s.raises .valueError
  | some value => s.sendOrRaise cmd (pinWriteMessage pin value)

/-- With two segments the second one chooses; with any other number the pin is written. -/
def handlePinAction (h : Host) (route : TopicRoute) (pin : Int) (pl : Text) (s : Service) : Service :=
  match route.segments with
  | [_, act] =>
    if act = "mode".toList then
      match h.py.int pl with
      | none => s.raises .valueError
      | some mode => s.sendOrRaise .setPinMode (pinModeMessage pin mode)
    else if act = "read".toList then s.handlePinRead route pin
    else s
  | _ => s.handlePinWrite h route pin pl

def handlePin (h : Host) (route : TopicRoute) (req : BridgeRequest) (s : Service) : Service :=
  if !s.serial then s
  else
    match route.segments with
    | [] => s.raises .indexError
    | pinText :: _ =>
      match parsePin h.py pinText with
      | none => s.raises .valueError
      | some pin =>
        if pin < 0 then s
        else
          match h.py.decode req.payload with
          | none => s.raises .unicodeDecodeError
          | some pl => s.handlePinAction h route pin pl

/-! ### System -/

/-- `_request_mcu_version` -/
def requestMcuVersion (h : Host) (s : Service) : Service :=
  match s.send .getVersion (.bytes []) with
  | (s, .answered pl) =>
    match h.parseVersionResponse pl with
    | some v => { s with mcuVersion := some v }.publish .system ["version".toList, "value".toList] (.versionText v)
    | none => s.raises .decodeError
  | (s, _) => s

def handleSystem (h : Host) (route : TopicRoute) (s : Service) : Service :=
  if !s.serial then s
  else if route.identifier = "bootloader".toList then
    (s.send .enterBootloader (.message (.enterBootloader bootloaderMagic))).1
  else if route.identifier = "free_memory".toList ∧ "get".toList ∈ route.segments then
    match s.send .getFreeMemory (.bytes []) with
    | (s, .answered pl) =>
      match h.parseFreeMemoryResponse pl with
      | some v => s.publish .system ["free_memory".toList, "value".toList] (.freeMemoryText v)
      | none => s.raises .decodeError
    | (s, _) => s
  else if route.identifier = "version".toList ∧ "get".toList ∈ route.segments then s.requestMcuVersion h
  else if route.identifier = "bridge".toList then
    if route.segments[1]? = some "handshake".toList then
      s.publish .system ["bridge".toList, "handshake".toList, "value".toList] .handshakeSnapshot
    else s.publish .system ["bridge".toList, "summary".toList, "value".toList] .bridgeSnapshot
  else s

/-! ### Dispatch -/

/-- `_deduce_action` -/
def deduceAction (py : PyText) (r : TopicRoute) : Option Text :=
  match r.topic with
  | .system => none
  | .digital | .analog =>
    match r.segments with
    | [] => none
    | [_] => some "write".toList
    | _ :: act :: _ => some (py.lower act)
  | _ => if r.identifier.isEmpty then none else some r.identifier

/-- `_reject_cloud` -/
def rejectCloud (t : Topic) (act : Text) (s : Service) : Service :=
  s.publish .system ["status".toList] (.forbidden t.value act)

def dispatchRequest (h : Host) (route : TopicRoute) (req : BridgeRequest) (s : Service) : Service :=
  match route.topic with
  | .console => s.handleConsole req
  | .datastore => s.handleDatastore h route req
  | .mailbox => s.handleMailbox route req
  | .file => s.handleFile h route req
  | .shell => s.handleShell h route req
  | .spi => s.handleSpi h route req
  | .digital | .analog => s.handlePin h route req
  | .system => s.handleSystem h route
  | .status => s

/-- The policy check of `handle_request`: an action that is empty or missing is not checked. -/
def checkPasses (py : PyText) (route : TopicRoute) (s : Service) : Bool :=
  match deduceAction py route with
  | none => true
  | some act => act.isEmpty || s.topicAuthorization.any fun auth => allowsTopic py auth route.topic.value act

/-- `handle_request`. The wait for `link_sync_event` before it has no effect of its own and its timeout is
only logged. -/
def handleRequest (h : Host) (req : BridgeRequest) (s : Service) : Service :=
  match parseTopic s.cloudTopicPrefix req.topic with
  | none => s
  | some route =>
    if s.checkPasses h.py route then s.dispatchRequest h route req
    else s.rejectCloud route.topic ((deduceAction h.py route).getD [])

end Service

/-- A host without files and processes. -/
def Host.sample : Host where
  py := .ascii
  safePath := fun _ => none
  writeWithQuota := fun _ _ => false
  isFile := fun _ => false
  pathExists := fun _ => false
  readBytes := fun _ => []
  isCommandAllowed := fun _ => false
  createSubprocess := fun _ => none
  pollProcess := fun _ => ⟨49, 1, [], [], true, false, false⟩
  mcuFileRead := none
  parseRunAsync := fun _ => none
  parseSpiConfig := fun _ => none
  parseSpiTransferResponse := fun _ => none
  parseFreeMemoryResponse := fun _ => none
  parseVersionResponse := fun _ => none

/-- A connected service whose policy grants the given flags. -/
def Service.sample (flags : List Flag) : Service where
  serial := true
  cloudTopicPrefix := "br".toList
  topicAuthorization := some fun f => flags.contains f
  consoleToMcuQueue := []
  mcuIsPaused := false
  mailboxQueue := []
  mailboxIncomingQueue := []
  datastoreCache := none
  pendingDigitalReads := []
  pendingAnalogReads := []
  pendingPinRequestLimit := 16
  runningProcesses := []
  mcuVersion := none
  sendResults := []
  effects := []
  raised := none

end Daemon
end McuBridge
