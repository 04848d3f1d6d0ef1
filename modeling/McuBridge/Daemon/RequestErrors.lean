import McuBridge.Daemon.Authorization
import McuBridge.Daemon.ReaderErrors
import McuBridge.Lib.Run

/-! # Exceptions inside a cloud request (`services/runtime.py`)

What `handle_request` raises, and what becomes of `_cloud_incoming_worker` then: the worker logs `ValueError`,
`RuntimeError` and `QueueFull`, and any other exception ends its task, and with it the task group of the cloud session.
`serial.send` returns. The host is asked through the `HostCall`s of the read loop, in the order of the source; an error
of the file system is one of their faults. -/

namespace McuBridge
namespace Daemon

/-- An exception of the handler itself, or of something it calls. -/
inductive RequestExc where
  | own (e : PyError)
  | host (e : PyExc)
  deriving DecidableEq

/-- The `except` clause of `_cloud_incoming_worker`; a `UnicodeDecodeError` is a `ValueError`. -/
def RequestExc.isCaught : RequestExc → Bool
  | .own .valueError | .own .unicodeDecodeError => true
  | .host .valueError | .host .runtimeError | .host .queueFull => true
  | _ => false

namespace HostCall

/-- What gets out of the handler. `_handle_shell` answers with pid 0 where the process cannot be started. -/
def requestFault (h : McuHost) (f : Faults) : HostCall → Option PyExc
  | .createSubprocess c => (f.raises (.createSubprocess c)).filter fun e =>
      e != .decodeError && e != .valueError && e != .osError
  | c => c.fault h f

end HostCall

namespace Service
variable (h : McuHost) (route : TopicRoute) (req : BridgeRequest) (s : Service)

/-! ### The calls of the handlers -/

def datastoreCalls : List HostCall :=
  let key := joinSlash route.remainder
  if key.isEmpty then []
  else if route.identifier = "put".toList then
    if (h.py.encode key).length ≤ 255 ∧ req.payload.length ≤ 255 then
      (if s.datastoreCache.isSome then [.cacheSet key] else []) ++ [.enqueueCloud]
    else []
  else if route.identifier = "get".toList then
    if (s.datastoreCache.bind fun cache => cache.lookup key).isSome ∨
        route.remainder.getLast? = some "request".toList then [.enqueueCloud]
    else []
  else []

def mailboxCalls : List HostCall :=
  if !s.serial then []
  else if route.identifier = "write".toList then [.mailboxAppend]
  else if route.identifier = "read".toList then [.mailboxPopleft, .enqueueCloud]
  else []

/-- The calls for a file of the host; the quota check handles its own errors. -/
def pathCalls (act : Text) (path : Text) : List HostCall :=
  if act = "write".toList then
    if h.writeWithQuota path req.payload then [.writeBytes path, .enqueueCloud] else []
  else if act = "read".toList then
    .isFile path ::
      if h.isFile path && !"response".toList.isSuffixOf req.topic then [.readBytes path, .enqueueCloud] else []
  else if act = "remove".toList then
    .pathExists path :: if h.pathExists path then [.unlink path] else []
  else []

def fileCalls : List HostCall :=
  if !s.serial then []
  else
    let target := joinSlash route.remainder
    match route.action with
    | none => []
    | some act =>
      if act.isEmpty || target.isEmpty then []
      else if mcuFsPrefix.isPrefixOf target then
        if act = "read".toList ∨ act = "write".toList ∧ (s.sendResults.headD .failed).ok then [.enqueueCloud] else []
      else
        .safePath target ::
          match h.safePath target with
          | none => []
          | some path => pathCalls h req act path

def runAsyncCalls : List HostCall :=
  match runAsyncCommand h.toHost req.payload with
  | some command => if h.isCommandAllowed command then [.createSubprocess command] else []
  | none => []

def pollCalls (pid : Int) : List HostCall :=
  (if pid ∈ s.runningProcesses then [.pollResponse (UInt32.ofNat pid.toNat)] else []) ++ [.enqueueCloud]

/-- `kill` handles the errors of `_terminate_process`. -/
def shellCalls : List HostCall :=
  match route.segments with
  | [] => []
  | act :: rest =>
    if act = "run_async".toList then runAsyncCalls h req ++ [.enqueueCloud]
    else if act = "poll".toList then
      match rest with
      | [pidText] =>
        match h.py.int pidText with
        | none => []
        | some pid => s.pollCalls pid
      | _ => []
    else []

/-- A bytes answer of the MCU is published once it is parsed. -/
def answerCalls (parses : Bytes → Bool) : List HostCall :=
  match s.sendResults.headD .failed with
  | .answered res => if parses res then [.enqueueCloud] else []
  | _ => []

def spiCalls : List HostCall :=
  if s.serial && route.identifier == "transfer".toList && !req.payload.isEmpty then
    s.answerCalls fun res => (h.parseSpiTransferResponse res).isSome
  else []

/-- Only the report that too many reads are pending is published; it has the pin in a `uint32` field, and the
`ValueError` for any other pin is caught. -/
def pinCalls : List HostCall :=
  if !s.serial then []
  else
    match route.segments with
    | [pinText, act] =>
      match parsePin h.py pinText, h.py.decode req.payload with
      | some pin, some _ =>
        let pending := if route.topic = .digital then s.pendingDigitalReads else s.pendingAnalogReads
        if act = "read".toList ∧ s.pendingPinRequestLimit ≤ pending.length ∧ (pbUint32 pin).isSome then
          [.enqueueCloud]
        else []
      | _, _ => []
    | _ => []

def systemCalls : List HostCall :=
  if !s.serial || route.identifier == "bootloader".toList then []
  else if route.identifier = "free_memory".toList ∧ "get".toList ∈ route.segments then
    s.answerCalls fun res => (h.parseFreeMemoryResponse res).isSome
  else if route.identifier = "version".toList ∧ "get".toList ∈ route.segments then
    s.answerCalls fun res => (h.parseVersionResponse res).isSome
  else if route.identifier = "bridge".toList then [.enqueueCloud]
  else []

def dispatchCalls : List HostCall :=
  match route.topic with
  | .datastore => s.datastoreCalls h route req
  | .mailbox => s.mailboxCalls route
  | .file => s.fileCalls h route req
  | .shell => s.shellCalls h route req
  | .spi => s.spiCalls h route req
  | .digital | .analog => s.pinCalls h route req
  | .system => s.systemCalls h route
  | .console | .status => []

/-- The calls of `handle_request` that may raise; a refusal is published. -/
def requestCalls : List HostCall :=
  match parseTopic s.cloudTopicPrefix req.topic with
  | none => []
  | some route => if s.checkPasses h.py route then s.dispatchCalls h route req else [.enqueueCloud]

/-- What `handle_request` raises. A handler that raises by itself has not made a call before. -/
def requestRaises (f : Faults) : Option RequestExc :=
  match ({ s with raised := none }.handleRequest h.toHost req).raised with
  | some e => some (.own e)
  | none => ((s.requestCalls h req).findSome? fun c => c.requestFault h f).map .host

end Service

/-! ### The worker -/

/-- A request, and what the daemon and its host are like when the worker takes it. -/
structure CloudJob where
  host : McuHost
  faults : Faults
  service : Service
  request : BridgeRequest

def CloudJob.raises (j : CloudJob) : Option RequestExc := j.service.requestRaises j.host j.request j.faults

/-- The requests the worker has taken, its calls of `task_done`, and the exception its task has ended with. -/
structure Worker where
  taken : Nat := 0
  tasksDone : Nat := 0
  failed : Option RequestExc := none
  deriving DecidableEq

/-- One turn of `_cloud_incoming_worker`: `task_done` is in the `finally` of the request. -/
def Worker.turn (j : CloudJob) (w : Worker) : Worker :=
  if w.failed.isSome then w
  else
    { taken := w.taken + 1
      tasksDone := w.tasksDone + 1
      failed := j.raises.filter fun e => !e.isCaught }

/-! ### Requests that leave the worker running -/

/-- The parser that reads what `serial.send` returns for the request. -/
def answerParser (h : Host) (route : TopicRoute) (req : BridgeRequest) : Option (Bytes → Bool) :=
  match route.topic with
  | .spi =>
    if route.identifier = "transfer".toList ∧ !req.payload.isEmpty then
      some fun res => (h.parseSpiTransferResponse res).isSome
    else none
  | .system =>
    if "get".toList ∈ route.segments then
      if route.identifier = "free_memory".toList then some fun res => (h.parseFreeMemoryResponse res).isSome
      else if route.identifier = "version".toList then some fun res => (h.parseVersionResponse res).isSome
      else none
    else none
  | _ => none

/-- A pin request names a pin, where the port is open. -/
def Service.NamesPin (route : TopicRoute) (s : Service) : Prop :=
  s.serial = true → route.topic = .digital ∨ route.topic = .analog → route.segments ≠ []

/-- The answer of the MCU to the request, if there is one, parses. -/
def Service.AnswerParses (h : Host) (route : TopicRoute) (req : BridgeRequest) (s : Service) : Prop :=
  s.serial = true → ∀ parses, answerParser h route req = some parses →
    ∀ res, s.sendResults.headD .failed = .answered res → parses res = true

/-- The request names a pin where it has to, the MCU answers it in the expected format, and the worker catches what
the first failing call to the host raises. -/
structure CloudJob.Safe (j : CloudJob) : Prop where
  pin : ∀ route, parseTopic j.service.cloudTopicPrefix j.request.topic = some route → j.service.NamesPin route
  answer : ∀ route, parseTopic j.service.cloudTopicPrefix j.request.topic = some route →
    j.service.checkPasses j.host.py route = true → j.service.AnswerParses j.host.toHost route j.request
  calls : ∀ e, (j.service.requestCalls j.host j.request).findSome? (fun c => c.requestFault j.host j.faults) = some e →
    (RequestExc.host e).isCaught = true

/-! ### What the handlers raise -/

/-- What a handler raises itself comes before its calls, and is caught exactly if `ok` holds. -/
structure Handled (raised : Option PyError) (calls : List HostCall) (ok : Prop) : Prop where
  first : raised ≠ none → calls = []
  caught : (∀ e, raised = some e → (RequestExc.own e).isCaught = true) ↔ ok

section
variable {raised : Option PyError} {calls : List HostCall} {ok : Prop} {e : PyError}

theorem handled_none (h : raised = none) (hok : ok) : Handled raised calls ok := by
  refine ⟨fun hne => absurd h hne, iff_of_true (fun e he => ?_) hok⟩
  rw [h] at he
  cases he

theorem handled_caught (h : raised = some e) (he : (RequestExc.own e).isCaught = true) (hcalls : calls = [])
    (hok : ok) : Handled raised calls ok := by
  refine ⟨fun _ => hcalls, iff_of_true (fun e' he' => ?_) hok⟩
  rw [h] at he'
  cases he'
  exact he

theorem handled_uncaught (h : raised = some e) (he : (RequestExc.own e).isCaught = false) (hcalls : calls = [])
    (hok : ¬ ok) : Handled raised calls ok := by
  refine ⟨fun _ => hcalls, iff_of_false (fun hall => ?_) hok⟩
  rw [hall e h] at he
  cases he

end

namespace Service
variable {h : McuHost} {route : TopicRoute} {req : BridgeRequest} {s : Service}

theorem sendChunks_raised (chunks : List Bytes) (s : Service) : (sendChunks chunks s).1.raised = s.raised := by
  induction chunks generalizing s with
  | nil => rfl
  | cons chunk chunks ih =>
    unfold sendChunks
    dsimp only
    split
    · exact ih _
    · rfl

theorem flushConsoleLoop_raised (queue : List Bytes) (s : Service) :
    (flushConsoleLoop queue s).raised = s.raised := by
  induction queue generalizing s with
  | nil => rfl
  | cons buf rest ih =>
    unfold flushConsoleLoop
    dsimp only
    have hchunks := sendChunks_raised (iterChunks buf maxPayloadSize) s
    split
    · rfl
    split
    · rw [ih, hchunks]
    · exact hchunks

theorem handleConsole_raised (req : BridgeRequest) (s : Service) : (s.handleConsole req).raised = s.raised := by
  unfold handleConsole flushConsoleQueue
  split
  · rfl
  split
  · rfl
  · exact flushConsoleLoop_raised _ _

theorem handleDatastore_raised (h : Host) (route : TopicRoute) (req : BridgeRequest) (s : Service) :
    (s.handleDatastore h route req).raised = s.raised := by
  unfold handleDatastore publishDatastoreValue
  dsimp only
  split
  · rfl
  split
  · split
    · split <;> rfl
    · rfl
  split
  · split
    · split <;> rfl
    · split <;> split <;> rfl
  · rfl

theorem handleMailbox_raised (route : TopicRoute) (req : BridgeRequest) (s : Service) :
    (s.handleMailbox route req).raised = s.raised := by
  unfold handleMailbox
  split
  · rfl
  split
  · rfl
  · split <;> rfl

theorem handleFileMcuRead_raised (h : Host) (target : Text) (s : Service) :
    (s.handleFileMcuRead h target).raised = s.raised := by
  unfold handleFileMcuRead
  dsimp only
  split
  · split <;> rfl
  · rfl

theorem handleFile_raised (h : Host) (route : TopicRoute) (req : BridgeRequest) (s : Service) :
    (s.handleFile h route req).raised = s.raised := by
  unfold handleFile
  split
  · rfl
  dsimp only
  split
  · rfl
  split
  · rfl
  split
  · split
    · exact handleFileMcuRead_raised h _ s
    split
    · split <;> rfl
    · split <;> rfl
  split
  · rfl
  split
  · split <;> rfl
  split
  · split <;> rfl
  split
  · split <;> rfl
  · rfl

theorem runProcess_raised (h : Host) (command : Text) (s : Service) : (s.runProcess h command).1.raised = s.raised := by
  unfold runProcess
  split
  · rfl
  · split <;> rfl

theorem handleShell_handled (hs : s.raised = none) :
    Handled (s.handleShell h.toHost route req).raised (s.shellCalls h route req) True := by
  unfold handleShell
  split
  case h_1 => exact handled_none hs trivial
  case h_2 act rest hseg =>
    split
    case isTrue =>
      have hrun : ∀ o : Option Text, (match o with
          | some command => s.runProcess h.toHost command
          | none => (s, 0)).1.raised = none := by
        intro o
        cases o with
        | none => exact hs
        | some command => rw [runProcess_raised, hs]
      exact handled_none (hrun _) trivial
    case isFalse hrun =>
      split
      case isFalse => exact handled_none hs trivial
      case isTrue =>
        split
        case h_2 => exact handled_none hs trivial
        case h_1 pidText =>
          split
          case h_1 hint =>
            have hcalls : s.shellCalls h route req = [] := by
              unfold shellCalls
              rw [hseg]
              dsimp only
              rw [if_neg hrun, hint]
              exact ite_self _
            exact handled_caught rfl rfl hcalls trivial
          case h_2 pid hint =>
            split
            · exact handled_none hs trivial
            · split <;> exact handled_none hs trivial

/-- A handler that goes on with the bytes `serial.send` returns, and raises exactly when they do not parse. -/
theorem answer_handled {α : Type} {cmd : Command} {p : Payload} {next : Service → Bytes → Service}
    {parse : Bytes → Option α} {t : Service} (hs : s.raised = none)
    (ht : t = match s.send cmd p with
      | (s, .answered res) => next s res
      | (s, _) => s)
    (hbad : ∀ s res, parse res = none → (next s res).raised = some .decodeError)
    (hgood : ∀ s res v, parse res = some v → (next s res).raised = s.raised) :
    Handled t.raised (s.answerCalls fun res => (parse res).isSome)
      (∀ res, s.sendResults.headD .failed = .answered res → (parse res).isSome = true) := by
  unfold send at ht
  dsimp only at ht
  unfold answerCalls
  cases hres : s.sendResults.headD .failed with
  | failed | accepted =>
    rw [hres] at ht
    refine handled_none (by rw [ht]; exact hs) fun res heq => ?_
    cases heq
  | answered res =>
    rw [hres] at ht
    dsimp only at ht ⊢
    obtain hparse | ⟨v, hparse⟩ := Option.eq_none_or_eq_some (parse res)
    · refine handled_uncaught (by rw [ht]; exact hbad _ res hparse) rfl (by simp [hparse]) fun hall => ?_
      have hsome := hall res rfl
      rw [hparse] at hsome
      cases hsome
    · refine handled_none (by rw [ht, hgood _ res v hparse]; exact hs) fun res' heq => ?_
      cases heq
      rw [hparse]
      rfl

theorem answerParses_iff {h : Host} {parses : Bytes → Bool} (hopen : s.serial = true)
    (hparser : answerParser h route req = some parses) :
    s.AnswerParses h route req ↔ ∀ res, s.sendResults.headD .failed = .answered res → parses res = true := by
  unfold AnswerParses
  rw [hparser]
  simp [hopen]

theorem answerParses_of_none {h : Host} (hparser : answerParser h route req = none) : s.AnswerParses h route req := by
  intro _ parses hparses
  rw [hparser] at hparses
  cases hparses

theorem answerParses_of_closed {h : Host} (hclosed : (!s.serial) = true) : s.AnswerParses h route req := by
  intro hopen
  rw [hopen] at hclosed
  cases hclosed

theorem handleSpi_handled (hs : s.raised = none) (ht : route.topic = .spi) :
    Handled (s.handleSpi h.toHost route req).raised (s.spiCalls h route req)
      (s.AnswerParses h.toHost route req) := by
  have hparser : answerParser h.toHost route req =
      if route.identifier = "transfer".toList ∧ !req.payload.isEmpty then
        some fun res => (h.parseSpiTransferResponse res).isSome
      else none := by
    rw [answerParser, ht]
  have hother : route.identifier ≠ "transfer".toList → s.AnswerParses h.toHost route req := by
    intro hne
    exact answerParses_of_none (hparser.trans (if_neg fun hboth => hne hboth.1))
  unfold handleSpi
  split
  case isTrue hclosed => exact handled_none hs (answerParses_of_closed hclosed)
  split
  case isTrue hid => exact handled_none hs (hother (by rw [hid]; decide))
  split
  case isTrue hid => exact handled_none hs (hother (by rw [hid]; decide))
  split
  case isTrue hid => split <;> exact handled_none hs (hother (by rw [hid]; decide))
  split
  case isFalse hid => exact handled_none hs (hother hid)
  case isTrue hclosed _ _ _ hid =>
    have hopen : s.serial = true := by simpa using hclosed
    split
    case isTrue hempty =>
      exact handled_none hs (answerParses_of_none (hparser.trans (if_neg fun hboth => by simp [hempty] at hboth)))
    case isFalse hempty =>
      have hcalls : s.spiCalls h route req = s.answerCalls fun res => (h.parseSpiTransferResponse res).isSome := by
        unfold spiCalls
        rw [if_pos]
        simp [hopen, hid, hempty]
      rw [hcalls, answerParses_iff hopen (hparser.trans (if_pos ⟨hid, by simpa using hempty⟩))]
      refine answer_handled hs rfl (fun s res hnone => ?_) fun s res v hv => ?_
      · rw [hnone]
        rfl
      · rw [hv]
        rfl

theorem requestMcuVersion_handled (hs : s.raised = none) :
    Handled (s.requestMcuVersion h.toHost).raised (s.answerCalls fun res => (h.parseVersionResponse res).isSome)
      (∀ res, s.sendResults.headD .failed = .answered res → (h.parseVersionResponse res).isSome = true) := by
  unfold requestMcuVersion
  refine answer_handled hs rfl (fun s res hnone => ?_) fun s res v hv => ?_
  · rw [hnone]
    rfl
  · rw [hv]
    rfl

theorem handleSystem_handled (hs : s.raised = none) (ht : route.topic = .system) :
    Handled (s.handleSystem h.toHost route).raised (s.systemCalls h route) (s.AnswerParses h.toHost route req) := by
  have hparser : answerParser h.toHost route req =
      if "get".toList ∈ route.segments then
        if route.identifier = "free_memory".toList then some fun res => (h.parseFreeMemoryResponse res).isSome
        else if route.identifier = "version".toList then some fun res => (h.parseVersionResponse res).isSome
        else none
      else none := by
    rw [answerParser, ht]
  have hother : ¬ (route.identifier = "free_memory".toList ∧ "get".toList ∈ route.segments) →
      ¬ (route.identifier = "version".toList ∧ "get".toList ∈ route.segments) → s.AnswerParses h.toHost route req := by
    intro hfree hversion
    refine answerParses_of_none (hparser.trans ?_)
    split
    case isTrue hget => rw [if_neg fun hid => hfree ⟨hid, hget⟩, if_neg fun hid => hversion ⟨hid, hget⟩]
    case isFalse => rfl
  unfold handleSystem systemCalls
  by_cases hclosed : (!s.serial) = true
  · rw [if_pos hclosed]
    exact handled_none hs (answerParses_of_closed hclosed)
  have hopen : s.serial = true := by simpa using hclosed
  rw [if_neg hclosed]
  by_cases hboot : route.identifier = "bootloader".toList
  · rw [if_pos hboot]
    exact handled_none hs (hother (fun hid => absurd (hboot.symm.trans hid.1) (by decide))
      fun hid => absurd (hboot.symm.trans hid.1) (by decide))
  have hgoes : ¬ (!s.serial || route.identifier == "bootloader".toList) = true := by
    rw [hopen]
    simpa using hboot
  rw [if_neg hboot, if_neg hgoes]
  split
  case isTrue hfree =>
    rw [answerParses_iff hopen (hparser.trans (by rw [if_pos hfree.2, if_pos hfree.1]))]
    refine answer_handled hs rfl (fun s res hnone => ?_) fun s res v hv => ?_
    · rw [hnone]
      rfl
    · rw [hv]
      rfl
  case isFalse hfree =>
    split
    case isTrue hversion =>
      have hid : route.identifier ≠ "free_memory".toList := fun hid => hfree ⟨hid, hversion.2⟩
      rw [answerParses_iff hopen (hparser.trans (by rw [if_pos hversion.2, if_neg hid, if_pos hversion.1]))]
      exact requestMcuVersion_handled hs
    case isFalse hversion =>
      split
      case isTrue => split <;> exact handled_none hs (hother hfree hversion)
      case isFalse => exact handled_none hs (hother hfree hversion)

/-! ### Pins -/

theorem sendOrRaise_handled {cmd : Command} {m : Option PayloadType} (hs : s.raised = none) :
    Handled (s.sendOrRaise cmd m).raised [] True := by
  cases m with
  | none => exact handled_caught rfl rfl rfl trivial
  | some m => exact handled_none hs trivial

theorem handlePinRead_handled {pin : Int} (hs : s.raised = none) :
    Handled (s.handlePinRead route pin).raised [] True := by
  unfold handlePinRead
  generalize (if route.topic = .digital then s.pendingDigitalReads else s.pendingAnalogReads) = pending
  dsimp only
  split
  · split <;> exact sendOrRaise_handled hs
  · exact handled_none hs trivial

theorem handlePinAction_handled {pin : Int} {pl : Text} (hs : s.raised = none) :
    Handled (s.handlePinAction h.toHost route pin pl).raised [] True := by
  unfold handlePinAction
  split
  case h_1 =>
    split
    case isTrue =>
      split
      · exact handled_caught rfl rfl rfl trivial
      · exact sendOrRaise_handled hs
    case isFalse =>
      split
      · exact handlePinRead_handled hs
      · exact handled_none hs trivial
  case h_2 =>
    unfold handlePinWrite
    dsimp only
    split
    · exact handled_caught rfl rfl rfl trivial
    · exact sendOrRaise_handled hs

theorem handlePin_own (hs : s.raised = none) (ht : route.topic = .digital ∨ route.topic = .analog) :
    Handled (s.handlePin h.toHost route req).raised [] (s.NamesPin route) := by
  unfold handlePin
  split
  case isTrue hclosed =>
    refine handled_none hs fun hopen => ?_
    rw [hopen] at hclosed
    cases hclosed
  case isFalse hclosed =>
    cases hseg : route.segments with
    | nil => exact handled_uncaught rfl rfl rfl fun hnames => hnames (by simpa using hclosed) ht hseg
    | cons pinText rest =>
      have hok : s.NamesPin route := fun _ _ => by rw [hseg]; exact List.cons_ne_nil _ _
      rw [iff_true_intro hok]
      dsimp only
      split
      · exact handled_caught rfl rfl rfl trivial
      split
      · exact handled_none hs trivial
      split
      · exact handled_caught rfl rfl rfl trivial
      · exact handlePinAction_handled hs

/-- A pin request publishes only that too many reads are pending. -/
theorem pinCalls_ne_nil (hcalls : s.pinCalls h route req ≠ []) :
    s.serial = true ∧ ∃ pinText pin pl, route.segments = [pinText, "read".toList] ∧ parsePin h.py pinText = some pin ∧
      h.py.decode req.payload = some pl ∧ 0 ≤ pin ∧ s.pendingPinRequestLimit ≤
        (if route.topic = .digital then s.pendingDigitalReads else s.pendingAnalogReads).length := by
  unfold pinCalls at hcalls
  split at hcalls
  case isTrue => exact absurd rfl hcalls
  case isFalse hopen =>
    refine ⟨by simpa using hopen, ?_⟩
    split at hcalls
    case h_2 => exact absurd rfl hcalls
    case h_1 pinText act hseg =>
      split at hcalls
      case h_2 => exact absurd rfl hcalls
      case h_1 pin pl hpin hpl =>
        obtain ⟨rfl, hfull, huint⟩ := by_contra fun hno => hcalls (if_neg hno)
        refine ⟨pinText, pin, pl, hseg, hpin, hpl, ?_, hfull⟩
        unfold pbUint32 at huint
        by_contra hneg
        rw [if_neg fun hrange => hneg hrange.1] at huint
        cases huint

theorem handlePin_handled (hs : s.raised = none) (ht : route.topic = .digital ∨ route.topic = .analog) :
    Handled (s.handlePin h.toHost route req).raised (s.pinCalls h route req) (s.NamesPin route) := by
  refine ⟨fun hne => by_contra fun hcalls => hne ?_, (handlePin_own hs ht).caught⟩
  obtain ⟨hopen, pinText, pin, pl, hseg, hpin, hpl, hpos, hfull⟩ := pinCalls_ne_nil hcalls
  unfold handlePin
  rw [hopen, hseg]
  dsimp only [Bool.not_true]
  rw [hpin, hpl]
  dsimp only
  rw [if_neg (by decide), if_neg (by omega)]
  unfold handlePinAction
  rw [hseg]
  dsimp only
  rw [if_neg (by decide), if_pos rfl]
  unfold handlePinRead
  dsimp only
  rw [if_neg (by omega)]
  exact hs

/-! ### The request -/

theorem namesPin_of_topic (ht : ¬ (route.topic = .digital ∨ route.topic = .analog)) : s.NamesPin route :=
  fun _ htopic => absurd htopic ht

theorem answerParses_of_topic (hspi : route.topic ≠ .spi) (hsystem : route.topic ≠ .system) :
    s.AnswerParses h.toHost route req := by
  refine answerParses_of_none ?_
  unfold answerParser
  split
  case h_1 ht => exact absurd ht hspi
  case h_2 ht => exact absurd ht hsystem
  case h_3 => rfl

theorem dispatch_handled (hs : s.raised = none) :
    Handled (s.dispatchRequest h.toHost route req).raised (s.dispatchCalls h route req)
      (s.NamesPin route ∧ s.AnswerParses h.toHost route req) := by
  have hpins (ht : route.topic = .digital ∨ route.topic = .analog) :
      s.NamesPin route ∧ s.AnswerParses h.toHost route req ↔ s.NamesPin route := by
    refine and_iff_left (answerParses_of_topic ?_ ?_) <;> rcases ht with ht | ht <;> rw [ht] <;> decide
  have hanswer (ht : route.topic = .spi ∨ route.topic = .system) :
      s.NamesPin route ∧ s.AnswerParses h.toHost route req ↔ s.AnswerParses h.toHost route req := by
    refine and_iff_right (namesPin_of_topic ?_)
    rcases ht with ht | ht <;> rw [ht] <;> decide
  have hquiet (ht : route.topic ∉ [.spi, .system, .digital, .analog]) :
      (s.NamesPin route ∧ s.AnswerParses h.toHost route req) := by
    simp only [List.mem_cons, List.not_mem_nil, or_false, not_or] at ht
    exact ⟨namesPin_of_topic (by simp [ht]), answerParses_of_topic ht.1 ht.2.1⟩
  unfold dispatchRequest dispatchCalls
  cases ht : route.topic with
  | console => exact handled_none ((handleConsole_raised req s).trans hs) (hquiet (by rw [ht]; decide))
  | datastore => exact handled_none ((handleDatastore_raised _ route req s).trans hs) (hquiet (by rw [ht]; decide))
  | mailbox => exact handled_none ((handleMailbox_raised route req s).trans hs) (hquiet (by rw [ht]; decide))
  | file => exact handled_none ((handleFile_raised _ route req s).trans hs) (hquiet (by rw [ht]; decide))
  | status => exact handled_none hs (hquiet (by rw [ht]; decide))
  | shell => rw [iff_true_intro (hquiet (by rw [ht]; decide))]; exact handleShell_handled hs
  | spi => rw [hanswer (.inl ht)]; exact handleSpi_handled hs ht
  | system => rw [hanswer (.inr ht)]; exact handleSystem_handled hs ht
  | digital => rw [hpins (.inl ht)]; exact handlePin_handled hs (.inl ht)
  | analog => rw [hpins (.inr ht)]; exact handlePin_handled hs (.inr ht)

/-- Without a segment there is no action, and nothing to refuse. -/
theorem namesPin_of_refused (hcheck : ¬ s.checkPasses h.py route = true) : s.NamesPin route := by
  intro _ ht hseg
  refine hcheck ?_
  have hnone : deduceAction h.py route = none := by
    unfold deduceAction
    rcases ht with ht | ht <;> rw [ht, hseg]
  unfold checkPasses
  rw [hnone]

theorem request_handled (hs : s.raised = none) :
    Handled (s.handleRequest h.toHost req).raised (s.requestCalls h req)
      (∀ route, parseTopic s.cloudTopicPrefix req.topic = some route →
        s.NamesPin route ∧ (s.checkPasses h.py route = true → s.AnswerParses h.toHost route req)) := by
  unfold handleRequest requestCalls
  cases hroute : parseTopic s.cloudTopicPrefix req.topic with
  | none => exact handled_none hs fun route heq => by cases heq
  | some route =>
    have hone : (∀ route', some route = some route' →
        s.NamesPin route' ∧ (s.checkPasses h.py route' = true → s.AnswerParses h.toHost route' req)) ↔
        s.NamesPin route ∧ (s.checkPasses h.py route = true → s.AnswerParses h.toHost route req) :=
      ⟨fun hall => hall route rfl, fun hroute route' heq => by cases heq; exact hroute⟩
    rw [hone]
    dsimp only
    by_cases hcheck : s.checkPasses h.py route = true
    · rw [if_pos hcheck, if_pos hcheck, forall_prop_of_true hcheck]
      exact dispatch_handled hs
    · rw [if_neg hcheck, if_neg hcheck]
      exact handled_none hs ⟨namesPin_of_refused hcheck, fun hpasses => absurd hpasses hcheck⟩

end Service

/-! ### The worker -/

namespace CloudJob
variable {j : CloudJob}

/-- What the handler raises itself, then what the host raises. -/
theorem caught_iff {raised : Option PyError} {calls : List HostCall} {ok : Prop} (hh : Handled raised calls ok)
    (fault : HostCall → Option PyExc) :
    (∀ e, (match raised with
      | some e => some (RequestExc.own e)
      | none => (calls.findSome? fault).map .host) = some e → e.isCaught = true) ↔
      ok ∧ ∀ e, calls.findSome? fault = some e → (RequestExc.host e).isCaught = true := by
  cases raised with
  | none =>
    have hok : ok := hh.caught.1 fun e he => by cases he
    rw [and_iff_right hok]
    dsimp only
    simp only [Option.map_eq_some_iff]
    exact ⟨fun h e he => h _ ⟨e, he, rfl⟩, fun h e ⟨e', he, heq⟩ => heq ▸ h e' he⟩
  | some own =>
    have hcalls := hh.first (by simp)
    have hown : ok ↔ (RequestExc.own own).isCaught = true := by
      rw [← hh.caught]
      exact ⟨fun h => h own rfl, fun h e he => by cases he; exact h⟩
    rw [hcalls, hown]
    simp

/-- What the request makes the daemon raise is caught exactly if the request is safe. -/
theorem raises_caught_iff : (∀ e, j.raises = some e → e.isCaught = true) ↔ j.Safe := by
  obtain ⟨h, f, s, req⟩ := j
  unfold raises Service.requestRaises
  dsimp only
  have hhandled := @Service.request_handled h req { s with raised := none } rfl
  refine (caught_iff hhandled fun c => c.requestFault h f).trans ⟨?_, ?_⟩
  · rintro ⟨hown, hcalls⟩
    exact ⟨fun route hroute => (hown route hroute).1, fun route hroute => (hown route hroute).2, hcalls⟩
  · rintro ⟨hpin, hanswer, hcalls⟩
    exact ⟨fun route hroute => ⟨hpin route hroute, hanswer route hroute⟩, hcalls⟩

end CloudJob

/-- The worker has taken `n` requests, each has had its `task_done`, and it goes on. -/
structure Worker.Contained (n : Nat) (w : Worker) : Prop where
  running : w.failed = none
  taken : w.taken = n
  done : w.tasksDone = n

namespace Worker
variable {w : Worker} {n : Nat} {j : CloudJob} {jobs : List CloudJob}

/-- Whatever a request raises, it is marked as done once. -/
theorem turn_counts (hw : w.failed = none) (j : CloudJob) :
    (w.turn j).taken = w.taken + 1 ∧ (w.turn j).tasksDone = w.tasksDone + 1 := by
  unfold turn
  rw [hw]
  exact ⟨rfl, rfl⟩

theorem turn_failed (hw : w.failed = none) : (w.turn j).failed = none ↔ j.Safe := by
  rw [← CloudJob.raises_caught_iff]
  unfold turn
  rw [hw]
  show j.raises.filter (fun e => !e.isCaught) = none ↔ _
  simp [Option.filter_eq_none_iff]

theorem turn_contained_iff (hw : w.Contained n) (j : CloudJob) : (w.turn j).Contained (n + 1) ↔ j.Safe := by
  obtain ⟨hrunning, htaken, hdone⟩ := hw
  obtain ⟨ht, hd⟩ := turn_counts hrunning j
  rw [← turn_failed hrunning]
  exact ⟨Contained.running, fun hf => ⟨hf, by omega, by omega⟩⟩

/-- A task that has ended takes nothing more from the queue. -/
theorem run_ended (hw : w.failed ≠ none) (jobs : List CloudJob) : Run.run turn w jobs = w := by
  induction jobs with
  | nil => rfl
  | cons j jobs ih =>
    have hturn : w.turn j = w := by
      unfold turn
      rw [if_pos (Option.isSome_iff_ne_none.2 hw)]
    show Run.run _ (w.turn j) jobs = w
    rw [hturn, ih]

theorem run_contained_iff (hw : w.Contained n) :
    (Run.run turn w jobs).Contained (n + jobs.length) ↔ ∀ j ∈ jobs, j.Safe := by
  induction jobs generalizing w n with
  | nil => exact iff_of_true hw (List.forall_mem_nil _)
  | cons j jobs ih =>
    rw [List.forall_mem_cons, ← turn_contained_iff hw j, List.length_cons, Nat.add_comm jobs.length, ← Nat.add_assoc]
    show (Run.run _ (w.turn j) jobs).Contained _ ↔ _
    by_cases hturn : (w.turn j).Contained (n + 1)
    · rw [ih hturn, and_iff_right hturn]
    · have hfailed : (w.turn j).failed ≠ none := by
        rwa [ne_eq, turn_failed hw.running, ← turn_contained_iff hw j]
      refine iff_of_false (fun hend => ?_) fun hboth => hturn hboth.1
      rw [run_ended hfailed] at hend
      exact hfailed hend.running

/-- The worker gets through all requests exactly if each of them names a pin where it has to, is answered by the MCU in
the expected format, and meets no failure of the host that the worker does not catch. -/
theorem requests_contained_iff (jobs : List CloudJob) :
    (Run.run turn ({} : Worker) jobs).Contained jobs.length ↔ ∀ j ∈ jobs, j.Safe := by
  have hstart : ({} : Worker).Contained 0 := ⟨rfl, rfl, rfl⟩
  have hrun := @run_contained_iff _ _ jobs hstart
  rwa [Nat.zero_add] at hrun

/-- A request on a host that raises nothing. -/
def sampleJob (topic : Text) : CloudJob where
  host := .sample
  faults := ⟨fun _ => none, fun _ => 0⟩
  service := .sample [.digitalWrite]
  request := ⟨topic, [49]⟩

/-- A topic that names no pin ends the session: the write after it is never taken. -/
theorem bare_pin_topic_ends_worker :
    ¬ (∀ jobs : List CloudJob, (∀ j ∈ jobs, ∀ c, j.faults.raises c = none) →
      (Run.run turn ({} : Worker) jobs).Contained jobs.length) ∧
    Run.run turn {} [sampleJob "br/d".toList, sampleJob "br/d/13".toList] =
      { taken := 1, tasksDone := 1, failed := some (.own .indexError) } := by
  have hrun : Run.run turn {} [sampleJob "br/d".toList, sampleJob "br/d/13".toList] =
      ({ taken := 1, tasksDone := 1, failed := some (.own .indexError) } : Worker) := by decide +kernel
  refine ⟨fun hall => ?_, hrun⟩
  have hcontained := hall [sampleJob "br/d".toList, sampleJob "br/d/13".toList] fun j hj c => by
    rcases List.mem_pair.1 hj with rfl | rfl <;> rfl
  rw [hrun] at hcontained
  exact absurd hcontained.running (by decide)

end Worker

end Daemon
end McuBridge
