import McuBridge.Daemon.Link

/-! # Requests on a link that comes and goes (`services/runtime.py`)

Every call of `handle_request` is a task. One for a hardware topic first waits for `link_sync_event`, for at most
`DEFAULT_SYNC_TIMEOUT_SECONDS`; its handler then calls `serial.send` once or more, and each call may have to wait for
the lock of `send` or for flow control. The link changes at all of these awaits. A handler is `Service.handleRequest`
with the commands it sends taken apart, so that they are sent one at a time. -/

namespace McuBridge
namespace Daemon

/-- The topics whose requests wait for the link. -/
def Topic.awaitsLink : Topic → Bool
  | .digital | .analog | .console | .spi => true
  | _ => false

/-- Where a call of `handle_request` stands: in `link_sync_event.wait()`, woken by `set()`, or in its handler with
these commands left to send. -/
inductive RequestPhase where
  | waiting (req : BridgeRequest)
  | woken (req : BridgeRequest)
  | sending (commands : List (Command × Payload))

structure RequestTask where
  topic : Topic
  phase : RequestPhase

/-- A call of `serial.send` by a handler, and whether the link was synchronised then. -/
structure Issue where
  topic : Topic
  command : Command
  synchronized : Bool
  deriving DecidableEq

/-- What the host and the calls of `serial.send` answer to one handler. -/
structure Answers where
  host : Host
  sendResults : List SendResult

/-- `issued` is a record. -/
structure Bridge where
  link : Link
  tasks : List RequestTask := []
  issued : List Issue := []

/-- The commands among the effects. -/
def sentCommands (effects : List Effect) : List (Command × Payload) :=
  effects.filterMap fun
    | .send cmd payload => some (cmd, payload)
    | _ => none

/-- `asyncio.Event.set` wakes the tasks that wait for the event; they stay woken if it is cleared before they run. -/
def RequestTask.wake (t : RequestTask) : RequestTask :=
  match t.phase with
  | .waiting req => { t with phase := .woken req }
  | _ => t

inductive BridgeEvent where
  /-- An event of the link, or a frame that no request sends. -/
  | link (ev : LinkEvent)
  | request (answers : Answers) (req : BridgeRequest)
  /-- A woken task goes on. -/
  | resume (i : Nat) (answers : Answers)
  /-- The time for the wait is over. -/
  | expire (i : Nat) (answers : Answers)
  /-- The handler's next command is sent. -/
  | issue (i : Nat) (writes : Bool)

namespace Bridge
variable (P : Platform) (random : Nat → UInt32)

/-- The part of `handle_request` after the wait. -/
def handle (answers : Answers) (req : BridgeRequest) (b : Bridge) : Bridge × List (Command × Payload) :=
  let before := b.link.service
  let after := ({ before with sendResults := answers.sendResults } : Service).handleRequest answers.host req
  ({ b with link := { b.link with service := after } }, sentCommands (after.effects.drop before.effects.length))

/-- `handle_request` up to its first await. `wait` returns at once when the event is set. -/
def handleRequest (answers : Answers) (req : BridgeRequest) (b : Bridge) : Bridge :=
  match parseTopic b.link.service.cloudTopicPrefix req.topic with
  | none => b
  | some route =>
    if route.topic.awaitsLink && !b.link.linkSyncEvent then
      { b with tasks := b.tasks ++ [⟨route.topic, .waiting req⟩] }
    else
      let r := b.handle answers req
      { r.1 with tasks := r.1.tasks ++ [⟨route.topic, .sending r.2⟩] }

/-- Task `i` leaves its wait. A timeout is only logged. -/
def proceed (i : Nat) (answers : Answers) (topic : Topic) (req : BridgeRequest) (b : Bridge) : Bridge :=
  let r := b.handle answers req
  { r.1 with tasks := r.1.tasks.set i ⟨topic, .sending r.2⟩ }

/-- Task `i` calls `serial.send`; nothing happens while another call holds the lock it needs. -/
def issue (i : Nat) (writes : Bool) (b : Bridge) : Bridge :=
  match b.tasks[i]? with
  | some ⟨topic, .sending ((cmd, payload) :: rest)⟩ =>
    if b.link.serial && Link.isTracked cmd.toUnderlying && b.link.current.isSome then b
    else
      { link := b.link.send P random writes cmd.toUnderlying payload
        tasks := b.tasks.set i ⟨topic, .sending rest⟩
        issued := b.issued ++ [⟨topic, cmd, b.link.isSynchronized⟩] }
  | _ => b

def step : BridgeEvent → Bridge → Bridge
  | .link ev, b =>
    let link := b.link.step P random ev
    { b with link := link, tasks := if link.linkSyncEvent then b.tasks.map RequestTask.wake else b.tasks }
  | .request answers req, b => b.handleRequest answers req
  | .resume i answers, b =>
    match b.tasks[i]? with
    | some ⟨topic, .woken req⟩ => b.proceed i answers topic req
    | _ => b
  | .expire i answers, b =>
    match b.tasks[i]? with
    | some ⟨topic, .waiting req⟩ | some ⟨topic, .woken req⟩ => b.proceed i answers topic req
    | _ => b
  | .issue i writes, b => b.issue P random i writes

end Bridge
end Daemon
end McuBridge
