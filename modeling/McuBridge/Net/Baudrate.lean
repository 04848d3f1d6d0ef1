import McuBridge.Daemon.Baudrate
import McuBridge.Mcu.Replies

/-! # Who answers CMD_SET_BAUDRATE (`transport/serial.py`, `Bridge.cpp`)

`_handleSetBaudrate` notes the rate and starts a timer that switches the port of the firmware. It sends no
CMD_SET_BAUDRATE_RESP, and no other part of the firmware does. -/

namespace McuBridge
namespace Mcu
variable (P : Platform)

/-- The frame gets to `_handleSetBaudrate` and past its early return. As a system command it is neither encrypted nor
refused by the security check. -/
structure AcceptsBaudrate (env : RpcEnvelope) (rate : UInt32) (s : Mcu) : Prop where
  command : env.rawCommand = Command.setBaudrate.toUnderlying
  fresh : s.isDuplicate env = false
  reads : PbMessage.setBaudratePacket.read P env.payloadType = some rate
  nonzero : rate ≠ 0
  changes : rate ≠ s.pendingBaudrate

/-- From the event on, some run in which the sketch does not send the command itself puts the response that the daemon
waits for on the wire. -/
def AnswersBaudrate (ev : McuEvent) (s : Mcu) : Prop :=
  ∃ more : List McuEvent, (∀ e ∈ more, chosenCommand e ≠ some Command.setBaudrateResp.toUnderlying) ∧
    ∃ f ∈ (Run.run (step P) s (ev :: more)).wire.drop s.wire.length,
      f.env.rawCommand = Command.setBaudrateResp.toUnderlying

/-- If the event makes the firmware accept a rate, it is answered. -/
def BaudrateAnswered (s : Mcu) (ev : McuEvent) : Prop :=
  ∀ hal env rate, ev = .recv hal (some env) → s.AcceptsBaudrate P env rate → s.AnswersBaudrate P ev

/-- The event does not make the firmware accept a rate. -/
def BaudrateIgnored (s : Mcu) (ev : McuEvent) : Prop :=
  ∀ hal env rate, ev = .recv hal (some env) → ¬ s.AcceptsBaudrate P env rate

variable {P} {s : Mcu} {env : RpcEnvelope} {rate : UInt32}

theorem processAck_pendingBaudrate (cmd seq : UInt16) (s : Mcu) :
    (s.processAck P cmd seq).pendingBaudrate = s.pendingBaudrate := by
  unfold processAck sendStatus sendSinglePass sendFrameRaw
  split <;> rfl

theorem handleSetBaudrate_pending (hzero : rate ≠ 0) (hchanges : rate ≠ s.pendingBaudrate) :
    (s.handleSetBaudrate rate).pendingBaudrate = rate := by
  unfold handleSetBaudrate
  rw [if_neg (not_or.2 ⟨hzero, hchanges⟩)]
  rfl

/-- The accepted rate is the one the port will be switched to. -/
theorem AcceptsBaudrate.pending (h : s.AcceptsBaudrate P env rate) (hal : Hal) :
    (step P (.recv hal (some env)) s).pendingBaudrate = rate := by
  obtain ⟨hcmd, hfresh, hreads, hzero, hchanges⟩ := h
  have hsystem : isSystemCommand Command.setBaudrate.toUnderlying = true := by decide
  have hclear : s.doEncrypt env.rawCommand = false := by simp [doEncrypt, hcmd, hsystem]
  have hpasses : (s.pushHistory env.sequenceId.toUInt16).isSecurityCheckPassed
      Command.setBaudrate.toUnderlying = true := by simp [isSecurityCheckPassed, hsystem]
  show (s.handleReceivedFrame P hal (some env)).pendingBaudrate = rate
  unfold handleReceivedFrame
  dsimp only
  rw [hclear, if_neg Bool.false_ne_true, dispatchCommand_fresh P s hal hfresh]
  have hfind : findHandler (kDispatchTable P) Command.setBaudrate.toUnderlying = some fun _ ctx =>
      dispatchCmd P .setBaudratePacket (fun _ m => handleSetBaudrate m) ctx true false :=
    findHandler_eq (kDispatchTable_sorted P) (by simp only [kDispatchTable, List.mem_cons, true_or, or_true])
  unfold dispatchContext
  rw [show (s.commandContext env).rawCommand = Command.setBaudrate.toUnderlying from hcmd, if_neg (by simp [hpasses]),
    if_neg (by decide), if_neg (by decide), hfind]
  dsimp only
  unfold dispatchCmd preDispatch
  dsimp only
  rw [if_pos rfl, if_neg (show ¬ (s.commandContext env).isDuplicate = true from Bool.eq_false_iff.1 hfresh)]
  dsimp only
  rw [show (s.commandContext env).envelope.payloadType = env.payloadType from rfl, hreads]
  refine handleSetBaudrate_pending hzero fun hrate => hchanges (hrate.trans ?_)
  exact processAck_pendingBaudrate _ _ _

/-- Commands other than the response. -/
def NotResp (cmd : UInt16) : Prop := cmd ≠ Command.setBaudrateResp.toUnderlying

/-- A firmware that queues only reliable frames never answers a received one with the response. -/
theorem not_answersBaudrate (hs : Queued (fun c => requiresAck c = true) s) (hal : Hal) (res : Option RpcEnvelope) :
    ¬ s.AnswersBaudrate P (.recv hal res) := by
  rintro ⟨more, hmore, f, hf, hresp⟩
  have hqueued : Queued NotResp s := by
    intro g hg hcmd
    have hack := hs g hg
    rw [hcmd] at hack
    exact absurd hack (by decide)
  have hchosen : ∀ e ∈ McuEvent.recv hal res :: more, ∀ c ∈ chosenCommand e, NotResp c := by
    refine List.forall_mem_cons.2 ⟨fun c hc => (by cases hc), fun e he c hc heq => hmore e he ?_⟩
    rw [hc, heq]
  have hown : ∀ c ∈ ownCommands, NotResp c := by
    have hall : ownCommands.all (· != Command.setBaudrateResp.toUnderlying) = true := by decide
    exact fun c hc => bne_iff_ne.1 (List.all_eq_true.1 hall c hc)
  obtain ⟨fs, hfs, hall⟩ := (run_puts hown _ hchosen s).wire hqueued
  rw [hfs, List.drop_left] at hf
  exact hall f hf hresp

/-- In a run of the firmware every accepted rate is answered exactly if none is accepted. -/
theorem baudrate_answered_iff (P : Platform) (secret : Bytes) (postOk : Bool) (evs : List McuEvent) :
    Run.Along (step P) (BaudrateAnswered P) (boot secret postOk) evs ↔
      Run.Along (step P) (BaudrateIgnored P) (boot secret postOk) evs := by
  refine Run.along_iff_along (J := Queued fun c => requiresAck c = true) (fun s ev hs => ?_)
    (fun s ev hs _ => step_queued ev hs) (boot_queued _ secret postOk) evs
  constructor
  · intro hanswered hal env rate hev haccepts
    have hanswers := hanswered hal env rate hev haccepts
    rw [hev] at hanswers
    exact not_answersBaudrate hs hal (some env) hanswers
  · exact fun hignored hal env rate hev haccepts => absurd haccepts (hignored hal env rate hev)

end Mcu

open Daemon

/-- Every negotiation of the daemon ends with the truth about its port, and every rate the firmware accepts is
answered, exactly if no negotiation ends in one of the two ways that are told wrongly and no rate is accepted. -/
theorem baudrate_negotiation_iff (cfg : ReaderConfig) (baudrate : UInt32) (es : List UartEvent) (P : Platform)
    (secret : Bytes) (postOk : Bool) (evs : List McuEvent) :
    ((∀ pre, pre <+: es → (Run.run (Uart.step cfg) (.start baudrate) pre).Sound) ∧
        Run.Along (Mcu.step P) (Mcu.BaudrateAnswered P) (Mcu.boot secret postOk) evs) ↔
      Run.Along (Uart.step cfg) (Uart.EndsRight cfg) (.start baudrate) es ∧
        Run.Along (Mcu.step P) (Mcu.BaudrateIgnored P) (Mcu.boot secret postOk) evs :=
  and_congr (Uart.run_sound_iff cfg baudrate es) (Mcu.baudrate_answered_iff P secret postOk evs)

/-- The daemon runs at 230400 baud, and at 115200 until it has negotiated that. -/
def fastConfig : ReaderConfig := ⟨230400, 115200, 5⟩

/-- A negotiation of another target than the configured rate. -/
def otherTarget : List UartEvent :=
  [.connect, .call .startup 57600, .sent .startup true, .response true, .resume .startup]

/-- The response comes, and the timeout before the task wakes up. -/
def lateResponse : List UartEvent :=
  [.connect, .call .startup 230400, .sent .startup true, .response true, .timeout .startup]

/-- A negotiation of 57600 baud returns `True` at 230400, one of 230400 returns `False` after the switch to it, and a
firmware that accepts 57600 does not answer. -/
theorem negotiation_told_wrongly :
    ((Run.run (Uart.step fastConfig) (.start 0) otherTarget).ended = [⟨57600, 115200, 230400, some true⟩] ∧
      ¬ (Run.run (Uart.step fastConfig) (.start 0) otherTarget).Sound) ∧
    ((Run.run (Uart.step fastConfig) (.start 0) lateResponse).ended = [⟨230400, 115200, 230400, some false⟩] ∧
      ¬ (Run.run (Uart.step fastConfig) (.start 0) lateResponse).Sound) ∧
    ¬ Run.Along (Mcu.step .sample) (Mcu.BaudrateAnswered .sample) (Mcu.boot [7] true) [.recv .sample
      (some ⟨protocolVersion, Command.setBaudrate.toUnderlying.toUInt32, 5, [], .setBaudratePacket 57600⟩)] := by
  have hother : (Run.run (Uart.step fastConfig) (.start 0) otherTarget).ended =
      [⟨57600, 115200, 230400, some true⟩] := by decide +kernel
  have hlate : (Run.run (Uart.step fastConfig) (.start 0) lateResponse).ended =
      [⟨230400, 115200, 230400, some false⟩] := by decide +kernel
  refine ⟨⟨hother, fun hsound => ?_⟩, ⟨hlate, fun hsound => ?_⟩, fun hanswered => ?_⟩
  · have hend := (hsound _ (hother ▸ List.mem_cons_self)).switched rfl
    exact absurd hend (by decide)
  · have hend := (hsound _ (hlate ▸ List.mem_cons_self)).kept rfl
    exact absurd hend (by decide)
  · obtain ⟨hfirst, -⟩ := hanswered
    refine Mcu.not_answersBaudrate (Mcu.boot_queued _ [7] true) .sample _ (hfirst .sample _ 57600 rfl ?_)
    exact ⟨by decide, by decide +kernel, by decide +kernel, by decide, by decide +kernel⟩

end McuBridge
