import McuBridge.Net.InSession
import McuBridge.Net.System

/-! # Version and free memory of the firmware

`_request_mcu_version` and `_handle_system` await `serial.send` and take a result of type `bytes` for the answer. The
answers of the firmware are system frames: they leave through `sendSinglePass`, in a session and outside of one, and
`parse_frame` gives such a frame's message to the waiting call. -/

namespace McuBridge
open Daemon (Link McuHost Host Io Service TopicRoute CallResult SendResult CloudBody)

/-- What the callers of `serial.send` tell apart; `none` where it raised. A message is true and no `bytes`, as `True`
is. -/
def Daemon.CallResult.seen : CallResult → Option SendResult
  | .returned (some (.bytes b)) => some (.answered b)
  | .returned (some (.message _)) => some .accepted
  | .returned none => some .accepted
  | .false => some .failed
  | .raised => none

inductive SystemQuery where
  | version | freeMemory
  deriving DecidableEq

namespace SystemQuery
variable (P : Platform) (random : Nat → UInt32) (hal : Hal)

def command : SystemQuery → Command
  | .version => .getVersion
  | .freeMemory => .getFreeMemory

def response : SystemQuery → Command
  | .version => .getVersionResp
  | .freeMemory => .getFreeMemoryResp

/-- What the firmware reports. -/
def report : SystemQuery → PayloadType
  | .version => .versionResponse P.firmwareVersion
  | .freeMemory => .freeMemoryResponse hal.freeMemory.toUInt32

/-- `_handleGetVersion` and `_handleGetFreeMemory` -/
def handle (ctx : CommandContext) (m : Mcu) : SystemQuery → Mcu
  | .version => m.handleGetVersion P ctx
  | .freeMemory => m.handleGetFreeMemory P hal ctx

/-- The method that waits for the answer, from what `serial.send` gives it. -/
def caller (h : Host) (route : TopicRoute) (r : SendResult) (s : Service) : SystemQuery → Service
  | .version => { s with sendResults := [r] }.requestMcuVersion h
  | .freeMemory => { s with sendResults := [r] }.handleSystem h route

/-- What it publishes, and below which topic. -/
def publication (s : Service) : SystemQuery → Daemon.Effect
  | .version => .publish (Daemon.topicPath s.cloudTopicPrefix .system ["version".toList, "value".toList])
      (.versionText P.firmwareVersion)
  | .freeMemory => .publish (Daemon.topicPath s.cloudTopicPrefix .system ["free_memory".toList, "value".toList])
      (.freeMemoryText hal.freeMemory.toUInt32)

/-- The version is recorded, and the report published. -/
def Told (s t : Service) (q : SystemQuery) : Prop :=
  (q = .version → t.mcuVersion = some P.firmwareVersion) ∧
    q.publication P hal s ∈ t.effects.drop s.effects.length

/-- The frames reach the daemon, and the call of `send` goes on. -/
def delivered (io : Io) (fs : List Sent) (d : Link) : Link :=
  (fs.foldl (fun d f => d.processPacket P random io f.env) d).onCompletion

/-- The firmware answers, its frame is delivered, the call of `send` ends, and the caller of it is told the report. -/
def Agreed (h : Host) (route : TopicRoute) (ctx : CommandContext) (m : Mcu) (io : Io) (d : Link) (s : Service)
    (q : SystemQuery) : Prop :=
  ∃ x ∈ (delivered P random io (Net.written m.wire (q.handle P hal ctx m).wire) d).results.drop d.results.length,
    ∃ r, x.2.seen = some r ∧ q.Told P hal s (q.caller h route r s)

/-- A call for the query waits for its response. -/
def Waits (d : Link) (q : SystemQuery) : Prop :=
  ∃ c, d.current = some c ∧ c.sleeping = false ∧ c.pending.commandId = q.command.toUnderlying ∧ c.pending.success = none

variable {P random hal} {q : SystemQuery} {d : Link} {m : Mcu} {ctx : CommandContext} {h : Host} {route : TopicRoute}
  {s : Service}

/-! ### The callers -/

/-- Only `bytes` make a caller record or publish. -/
theorem told_bytes {r : SendResult} (ht : q.Told P hal s (q.caller h route r s)) : ∃ b, r = .answered b := by
  cases r with
  | answered b => exact ⟨b, rfl⟩
  | failed | accepted =>
    exfalso
    have hpub := ht.2
    cases q with
    | version => simp [caller, Service.requestMcuVersion, Service.send, Service.perform, publication] at hpub
    | freeMemory =>
      unfold caller Service.handleSystem at hpub
      simp only [Service.send, Service.perform, Service.requestMcuVersion, Service.publish] at hpub
      split_ifs at hpub <;> simp [publication] at hpub

/-- `bytes` that parse to the version would do. -/
theorem version_told {b : Bytes} (hb : h.parseVersionResponse b = some P.firmwareVersion) :
    SystemQuery.version.Told P hal s (SystemQuery.version.caller h route (.answered b) s) := by
  refine ⟨fun _ => ?_, ?_⟩
  · simp [caller, Service.requestMcuVersion, Service.send, Service.publish, Service.perform, hb]
  · simp [caller, Service.requestMcuVersion, Service.send, Service.publish, Service.perform, hb, publication]

/-- As would `bytes` that parse to the amount of memory, when that is what the request asks for. -/
theorem freeMemory_told {b : Bytes} (hb : h.parseFreeMemoryResponse b = some hal.freeMemory.toUInt32)
    (hserial : s.serial = true) (hid : route.identifier = "free_memory".toList) (hget : "get".toList ∈ route.segments) :
    SystemQuery.freeMemory.Told P hal s (SystemQuery.freeMemory.caller h route (.answered b) s) := by
  have hmem : ['g', 'e', 't'] ∈ route.segments := hget
  refine ⟨nofun, ?_⟩
  simp [caller, Service.handleSystem, Service.send, Service.publish, Service.perform, hb, publication, hserial, hid,
    hmem]

/-! ### The frame -/

/-- A system frame that no handler is registered for and that is the response to a command. -/
theorem processPacket_response (d : Link) (P : Platform) (random : Nat → UInt32) (io : Io) (env : RpcEnvelope)
    (cmd : UInt16) (hver : env.version = protocolVersion) (hid : env.commandId = cmd.toUInt32)
    (hcmd : isSystemCommand cmd = true) (hsync : cmd ≠ Command.linkSyncResp.toUnderlying)
    (hbaud : cmd ≠ Command.setBaudrateResp.toUnderlying) (hreg : Service.mcuRegistry.lookup cmd = none)
    (hresp : (Daemon.responseToRequest cmd.toUInt32).isNone = false) :
    d.processPacket P random io env =
      d.correlateFrame io.host cmd.toUInt32 (Daemon.parseFrame.plain env.payloadType) := by
  have hne : cmd.toUInt32 ≠ Command.linkSyncResp.toUnderlying.toUInt32 :=
    fun heq => hsync (by simpa using congrArg UInt32.toUInt16 heq)
  rw [Link.processPacket_plain random d hver hid hcmd hbaud io]
  unfold Link.handleMcuFrame
  rw [if_neg hne, if_pos (toUInt32_lt cmd), show cmd.toUInt32.toUInt16 = cmd by simp, hreg]
  dsimp only
  rw [hresp, if_neg (by simp : ¬ false = true)]
  split_ifs <;> rfl

/-- The firmware's answer: one typed frame in the clear, whatever the state of the session. -/
theorem handle_wire (P : Platform) (hal : Hal) (ctx : CommandContext) (m : Mcu) (q : SystemQuery) :
    (q.handle P hal ctx m).wire = (m.serializeAndSend P ⟨⟨protocolVersion, q.response.toUnderlying.toUInt32,
      ctx.sequenceId.toUInt32, [], q.report P hal⟩, none, none⟩).wire := by
  cases q with
  | version =>
    simp [handle, Mcu.handleGetVersion, Mcu.send, Mcu.doEncrypt, Mcu.sendUnqueued, Mcu.sendSinglePass, Mcu.sendFrameRaw,
      response, report, show isSystemCommand Command.getVersionResp.toUnderlying = true by decide,
      show requiresAck Command.getVersionResp.toUnderlying = false by decide]
  | freeMemory =>
    simp [handle, Mcu.handleGetFreeMemory, Mcu.send, Mcu.doEncrypt, Mcu.sendUnqueued, Mcu.sendSinglePass,
      Mcu.sendFrameRaw, response, report, show isSystemCommand Command.getFreeMemoryResp.toUnderlying = true by decide,
      show requiresAck Command.getFreeMemoryResp.toUnderlying = false by decide]

/-- `_correlate_frame` marks the waiting call, and the call returns the message itself. -/
theorem Waits.delivered_typed (hw : q.Waits d) (P : Platform) (random : Nat → UInt32) (hal : Hal) (io : Io)
    {seq : UInt32}
    {f : Sent} (hf : f.env = ⟨protocolVersion, q.response.toUnderlying.toUInt32, seq, [], q.report P hal⟩) :
    ∃ n, (delivered P random io [f] d).results = d.results ++ [(n, .returned (some (.message (q.report P hal))))] := by
  obtain ⟨c, hcur, hsleep, hcmd, hsuccess⟩ := hw
  have hplain : Daemon.parseFrame.plain f.env.payloadType = .message (q.report P hal) := by
    rw [hf]
    cases q <;> rfl
  have hpacket := processPacket_response d P random io f.env q.response.toUnderlying
    (by rw [hf]) (by rw [hf]) (by cases q <;> decide) (by cases q <;> decide)
    (by cases q <;> decide) (by cases q <;> decide) (by cases q <;> decide)
  have hmark : Link.correlatePending io.host q.response.toUnderlying.toUInt32 (.message (q.report P hal)) c.pending =
      c.pending.markSuccess (.message (q.report P hal)) := by
    have hack : ¬ q.response.toUnderlying.toUInt32 = Status.ack.toUnderlying.toUInt32 := by cases q <;> decide
    have hresp : Daemon.responseToRequest q.response.toUnderlying.toUInt32 = some c.pending.commandId := by
      rw [hcmd]
      cases q <;> decide
    unfold Link.correlatePending
    rw [hsuccess, if_neg (by simp), if_neg hack, if_pos hresp]
  refine ⟨c.ticket, ?_⟩
  unfold delivered
  rw [List.foldl_cons, List.foldl_nil, hpacket, hplain]
  unfold Link.correlateFrame Link.onCompletion
  rw [hcur, Option.map_some]
  dsimp only
  rw [hmark, hsleep]
  rfl

/-- A call that nothing has reached returns no payload. -/
theorem Waits.undelivered (hw : q.Waits d) {x : Nat × CallResult}
    (hx : x ∈ d.onCompletion.results.drop d.results.length) :
    x.2 = .false := by
  obtain ⟨c, hcur, hsleep, -, hsuccess⟩ := hw
  unfold Link.onCompletion Link.retryLater Link.finish at hx
  rw [hcur] at hx
  dsimp only at hx
  rw [hsuccess, if_neg (by simp : ¬ (none : Option Bool) = some true)] at hx
  split_ifs at hx <;> simp at hx <;> rw [hx]

/-- The call of `send` waits once its frame is written. -/
theorem send_waits (hserial : d.serial = true) (hidle : d.current = none) (q : SystemQuery) :
    q.Waits (d.send P random true q.command.toUnderlying (.bytes [])) := by
  have htracked : Link.isTracked q.command.toUnderlying = true := by cases q <;> decide
  have hbuilds : ∀ d : Link, d.frameBuilds P random q.command.toUnderlying (.bytes []) none = true := by
    intro d
    have hsys : isSystemCommand q.command.toUnderlying = true := by cases q <;> decide
    unfold Link.frameBuilds Link.frameNonce
    rw [hsys]
    cases d.sessionKey <;> simp [Daemon.buildFrame, Daemon.buildFrame.plain, hsys]
  unfold Link.send Link.sendAttempt
  rw [hserial, htracked, hidle, if_neg (by simp), if_neg (by simp), if_neg (by simp)]
  dsimp only
  rw [Link.sendRaw_result, hbuilds]
  simp [Waits]

/-- Whatever the firmware reports, the caller is not told: the call of `send` returns a message. -/
theorem queries_unanswered (P : Platform) (random : Nat → UInt32) (hal : Hal) (q : SystemQuery) (h : Host)
    (route : TopicRoute) (ctx : CommandContext) (m : Mcu) (io : Io) (d : Link) (s : Service) (hw : q.Waits d) :
    ¬ q.Agreed P random hal h route ctx m io d s := by
  rintro ⟨x, hx, r, hr, htold⟩
  obtain ⟨b, rfl⟩ := told_bytes htold
  have hwritten : Net.written m.wire (q.handle P hal ctx m).wire = [] ∨
      ∃ f : Sent, f.env = ⟨protocolVersion, q.response.toUnderlying.toUInt32, ctx.sequenceId.toUInt32, [],
        q.report P hal⟩ ∧ Net.written m.wire (q.handle P hal ctx m).wire = [f] := by
    rw [handle_wire, Mcu.serializeAndSend]
    dsimp only
    split
    · exact .inr ⟨_, rfl, by rw [Net.written, List.drop_left]⟩
    · exact .inl (by rw [Net.written, List.drop_length])
  obtain hnone | ⟨f, hf, hone⟩ := hwritten
  · rw [hnone] at hx
    rw [hw.undelivered hx] at hr
    cases hr
  · obtain ⟨n, hresults⟩ := hw.delivered_typed P random hal io hf
    rw [hone, hresults, List.drop_left] at hx
    rw [List.mem_singleton.1 hx] at hr
    cases hr

/-! ### A session to evaluate runs on -/

def sampleHost : Host :=
  { Host.sample with
    parseVersionResponse := fun b => (Proto.decode b).map fun fs =>
      ⟨.ofNat (Proto.lastUint 1 fs), .ofNat (Proto.lastUint 2 fs), .ofNat (Proto.lastUint 3 fs)⟩
    parseFreeMemoryResponse := fun b => (Proto.decode b).map fun fs => .ofNat (Proto.lastUint 1 fs) }

def sampleContext (q : SystemQuery) : CommandContext :=
  ⟨⟨protocolVersion, q.command.toUnderlying.toUInt32, 1, [], .notSet⟩, q.command.toUnderlying, 1, false, false⟩

def sampleMcu : Mcu := Mcu.runFrom .sample [7] true [.recv .sample (some (Mcu.validSync 1))]

/-- A daemon in the session of this firmware, without a call of `send`. -/
def sampleIdle : Link :=
  { Link.start [7] ⟨200, 5, 5000⟩ 3 (.sample []) with
    serial := true
    state := .synchronized
    linkSessionKey := some sampleMcu.sessionKey }

def sampleWaiting (q : SystemQuery) : Link :=
  sampleIdle.send .sample (fun _ => 0) true q.command.toUnderlying (.bytes [])

def sampleRoute : TopicRoute :=
  ⟨"br/system/free_memory/get".toList, "br".toList, .system, ["free_memory".toList, "get".toList]⟩

/-- The host reads the encodings of what the firmware reports, so `bytes` would do. -/
example : sampleHost.parseVersionResponse (Proto.encode (Proto.uintField 1 2)) = some ⟨2, 0, 0⟩ ∧
    sampleHost.parseFreeMemoryResponse (Proto.encode (Proto.uintField 1 1024)) = some 1024 := by decide +kernel

theorem queries_unanswered_sample :
    ¬ SystemQuery.version.Agreed .sample (fun _ => 0) .sample sampleHost sampleRoute (sampleContext .version) sampleMcu
      .sample (sampleWaiting .version) (.sample []) :=
  queries_unanswered .sample (fun _ => 0) .sample .version sampleHost sampleRoute (sampleContext .version) sampleMcu
    .sample (sampleWaiting .version) (.sample []) (send_waits rfl rfl .version)

/-- In a session both calls return the firmware's message, and neither caller is told. -/
theorem queries_return_messages :
    (delivered .sample (fun _ => 0) .sample (Net.written sampleMcu.wire
        (SystemQuery.version.handle .sample .sample (sampleContext .version) sampleMcu).wire)
        (sampleWaiting .version)).results =
      [(0, .returned (some (.message (.versionResponse ⟨2, 0, 0⟩))))] ∧
    (delivered .sample (fun _ => 0) .sample (Net.written sampleMcu.wire
        (SystemQuery.freeMemory.handle .sample .sample (sampleContext .freeMemory) sampleMcu).wire)
        (sampleWaiting .freeMemory)).results =
      [(0, .returned (some (.message (.freeMemoryResponse 1024))))] ∧
    ∀ q : SystemQuery, ¬ q.Agreed .sample (fun _ => 0) .sample sampleHost sampleRoute (sampleContext q) sampleMcu .sample
      (sampleWaiting q) (.sample []) := by
  have hversion : (delivered .sample (fun _ => 0) .sample (Net.written sampleMcu.wire
      (SystemQuery.version.handle .sample .sample (sampleContext .version) sampleMcu).wire)
      (sampleWaiting .version)).results = [(0, .returned (some (.message (.versionResponse ⟨2, 0, 0⟩))))] := by
    decide +kernel
  have hmemory : (delivered .sample (fun _ => 0) .sample (Net.written sampleMcu.wire
      (SystemQuery.freeMemory.handle .sample .sample (sampleContext .freeMemory) sampleMcu).wire)
      (sampleWaiting .freeMemory)).results = [(0, .returned (some (.message (.freeMemoryResponse 1024))))] := by
    decide +kernel
  refine ⟨hversion, hmemory, ?_⟩
  rintro q ⟨x, hx, r, hr, htold⟩
  obtain ⟨b, rfl⟩ := told_bytes htold
  have hmem := List.mem_of_mem_drop hx
  cases q with
  | version =>
    rw [hversion, List.mem_singleton] at hmem
    rw [hmem] at hr
    cases hr
  | freeMemory =>
    rw [hmemory, List.mem_singleton] at hmem
    rw [hmem] at hr
    cases hr

end SystemQuery
end McuBridge
