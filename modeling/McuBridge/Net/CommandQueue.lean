import McuBridge.Net.PinControl

/-! # One command after the other

`send` is called for a list of commands, each when the call before it has returned. Every call may lose the frames of
its first attempts. By induction on the list, each call starts in a session that the calls before it have only moved on:
the sequence ids and the nonce counters go up by the attempts made, so the MCU takes no frame for one it has seen.

The commands are those whose handler sends nothing of its own: the pin writes, MAILBOX_PUSH and SPI_SET_CONFIG. FILE_WRITE
also sends a status, CONSOLE_WRITE an XOFF when the buffer fills up, SPI_BEGIN and SPI_END acknowledge twice, and
DATASTORE_PUT has no entry in the table. -/

namespace McuBridge

/-- What the handlers of commands leave alone. -/
structure Mcu.SameLink (s t : Mcu) : Prop where
  fsm : t.fsm = s.fsm
  sharedSecret : t.sharedSecret = s.sharedSecret
  sessionKey : t.sessionKey = s.sessionKey
  rxNonceCounter : t.rxNonceCounter = s.rxNonceCounter
  rxHistory : t.rxHistory = s.rxHistory
  handled : t.handled = s.handled

/-- The commands with ACK whose handlers send nothing. -/
inductive QuietCommand where
  | pin (w : PinWrite)
  | mailboxPush (data : Bytes)
  | spiSetConfig (m : SpiConfig)

namespace QuietCommand

def command : QuietCommand → Command
  | .pin w => w.command
  | .mailboxPush _ => .mailboxPush
  | .spiSetConfig _ => .spiSetConfig

def message : QuietCommand → PayloadType
  | .pin w => w.message
  | .mailboxPush data => .mailboxPush data
  | .spiSetConfig m => .spiConfig m

/-- What the handler does on the hardware. -/
def acts : QuietCommand → List Act
  | .pin w => [w.act]
  | .mailboxPush _ | .spiSetConfig _ => []

/-- What the handler does to the services. -/
def services : QuietCommand → Services → Services
  | .pin _, v => v
  | .mailboxPush data, v =>
    if mailboxCapacity ≤ v.mailboxQueue.length then v else { v with mailboxQueue := v.mailboxQueue ++ [data.take 64] }
  | .spiSetConfig m, v => { v with spiSettings := m }

end QuietCommand

/-- What nanopb makes of their messages: the MCU reads the fields of a payload back. -/
structure Platform.QuietCodec (P : Platform) : Prop where
  pin : P.PinCodec
  push : ∀ data, (P.pbEncode (.mailboxPush data)).length ≤ maxPayloadSize →
    (P.pbDecode PbMessage.mailboxPush.tag (P.pbEncode (.mailboxPush data))).bind PbMessage.mailboxPush.select = some data
  spi : ∀ m, (P.pbDecode PbMessage.spiConfig.tag (P.pbEncode (.spiConfig m))).bind PbMessage.spiConfig.select = some m

namespace Net
open Run

/-- A call of `send`, and how many of its attempts are lost. -/
structure CommandCall where
  command : QuietCommand
  lost : Nat

def CommandCall.cmd (c : CommandCall) : UInt16 := c.command.command.toUnderlying

def CommandCall.message (c : CommandCall) : PayloadType := c.command.message

/-- The command gets an ACK and no response, and its handler does no more than what is said of the command. -/
structure Performs (P : Platform) (c : CommandCall) : Prop where
  acknowledged : Acknowledged P c.cmd c.message
  handled : ∃ (M : Type) (d : PbMessage M) (handler : M → Mcu → Mcu) (x : M),
    Handles P c.cmd c.message d handler x ∧
      ∀ u, Mcu.SameLink u (handler x u) ∧ (handler x u).acts = u.acts ++ c.command.acts ∧
        (handler x u).services = c.command.services u.services

/-- The calls one after the other. A call leaves the queues of the line as they were, so all are written for the same
state. -/
def retriedAll (cs : List CommandCall) (hal : Hal) (io : Daemon.Io) (s : Net) : List NetEvent :=
  cs.flatMap fun c => retried c.cmd c.message c.lost hal io s

def attempts (cs : List CommandCall) : Nat := (cs.map fun c => c.lost + 1).sum

/-- What the calls return, from the call with the number `n` on. -/
def acks : Nat → List CommandCall → List (Nat × Daemon.CallResult)
  | _, [] => []
  | n, c :: cs => (n, .returned (some (.message (.ackPacket ⟨c.cmd.toUInt32⟩)))) :: acks (n + 1) cs

/-- None of the next `n` sequence ids is in the history of the MCU. -/
def Unseen (n : Nat) (s : Net) : Prop :=
  ∀ q ∈ s.mcu.rxHistory, ∀ i, 0 < i → i ≤ n → q ≠ s.daemon.txSequenceId + UInt16.ofNat i

variable {P : Platform} {key : Bytes} {s t : Net} {c : CommandCall}

theorem retriedAll_congr {cs : List CommandCall} {hal : Hal} {io : Daemon.Io} (hmcu : t.toMcu = s.toMcu)
    (hdaemon : t.toDaemon = s.toDaemon) : retriedAll cs hal io t = retriedAll cs hal io s := by
  unfold retriedAll retried lostAttempt
  rw [hmcu, hdaemon]

theorem ne_add_ofNat (a : UInt16) {i : Nat} (hi : 0 < i) (hlt : i < 65536) : a ≠ a + UInt16.ofNat i := by
  intro h
  have hzero : UInt16.ofNat i = 0 := by
    have hadd : a + 0 = a + UInt16.ofNat i := by rwa [UInt16.add_zero]
    exact ((UInt16.add_right_inj _).1 hadd).symm
  have hnat := congrArg UInt16.toNat hzero
  rw [UInt16.toNat_ofNat_of_lt' (show i < 65536 by omega)] at hnat
  exact absurd hnat (Nat.pos_iff_ne_zero.1 hi)

/-- The session goes on after a call. -/
theorem CarriedOut.inTouch {M : Type} {handler : M → Mcu → Mcu} {x : M} {cmd : UInt16} {k : Nat}
    (h : CarriedOut key handler x cmd k s t) (hs : s.InTouch key) (hlink : ∀ u, Mcu.SameLink u (handler x u))
    (hcount : s.daemon.linkNonceCounter + k ≤ Daemon.nonceCounterMask) : t.InTouch key := by
  obtain ⟨u, hmcu, hu⟩ := h.mcu
  have hsame := hlink u
  rw [← hmcu] at hsame
  refine ⟨h.session, h.serial, h.idle, ⟨?_, ?_, ?_⟩, ?_, ?_⟩
  · rw [Mcu.isSynchronized, hsame.fsm]
    exact hu.session.synchronized
  · rw [hsame.sharedSecret]
    exact hu.session.secret
  · rw [hsame.sessionKey]
    exact hu.session.key
  · rw [hsame.sessionKey, hu.key, hs.mcuKey]
  · rw [hsame.rxNonceCounter, hu.counter, h.counter, UInt64.toNat_ofNat_of_lt']
    unfold Daemon.nonceCounterMask at hcount
    show _ < 2 ^ 64
    omega

theorem CarriedOut.unseen {M : Type} {handler : M → Mcu → Mcu} {x : M} {cmd : UInt16} {k n : Nat}
    (h : CarriedOut key handler x cmd k s t) (hlink : ∀ u, Mcu.SameLink u (handler x u)) (hlt : k + n < 65536)
    (hunseen : Unseen (k + n) s) : Unseen n t := by
  obtain ⟨u, hmcu, hu⟩ := h.mcu
  intro q hq i hi hle
  rw [hmcu, (hlink u).rxHistory, hu.history] at hq
  rw [h.sequence]
  rcases List.mem_append.1 hq with hold | hnew
  · have hmem : q ∈ s.mcu.rxHistory := by
      split at hold
      · exact List.mem_of_mem_tail hold
      · exact hold
    have hne := hunseen q hmem (k + i) (by omega) (by omega)
    rwa [UInt16.ofNat_add, ← UInt16.add_assoc] at hne
  · rw [List.mem_singleton.1 hnew]
    exact ne_add_ofNat _ hi (by omega)

theorem performs (hP : P.QuietCodec) {c : CommandCall} (hfits : (P.pbEncode c.message).length ≤ maxPayloadSize)
    (hvalid : c.message.wellFormed = true) : Performs P c := by
  obtain ⟨command, lost⟩ := c
  cases command with
  | pin w =>
    refine ⟨w.acknowledged hP.pin, _, w.descriptor, w.handler, w.fields, PinWrite.handles hP.pin hvalid, fun u => ?_⟩
    cases w <;> exact ⟨⟨rfl, rfl, rfl, rfl, rfl, rfl⟩, rfl, rfl⟩
  | mailboxPush data =>
    refine ⟨⟨rfl, rfl, rfl, hfits⟩, _, .mailboxPush, Mcu.mailboxQueuePush, data,
      ⟨?_, fun _ => rfl, hP.push data hfits, fun u => ?_⟩, fun u => ?_⟩
    · simp only [CommandCall.cmd, QuietCommand.command, Mcu.kDispatchTable, List.mem_cons, true_or, or_true]
    · unfold Mcu.mailboxQueuePush
      split <;> rfl
    · unfold Mcu.mailboxQueuePush QuietCommand.services
      refine ⟨?_, ?_, ?_⟩
      · split <;> exact ⟨rfl, rfl, rfl, rfl, rfl, rfl⟩
      · split <;> exact (List.append_nil _).symm
      · dsimp only
        split <;> rfl
  | spiSetConfig m =>
    refine ⟨⟨rfl, rfl, rfl, hfits⟩, _, .spiConfig, Mcu.spiSetConfig, m, ⟨?_, fun _ => rfl, hP.spi m, fun _ => rfl⟩,
      fun u => ⟨⟨rfl, rfl, rfl, rfl, rfl, rfl⟩, (List.append_nil _).symm, rfl⟩⟩
    simp only [CommandCall.cmd, QuietCommand.command, Mcu.kDispatchTable, List.mem_cons, true_or, or_true]

/-- As long as only frames on their way to the MCU are lost, and of each command fewer than it has attempts, the commands
of a session are carried out one after the other, each once, and each call returns its ACK. -/
theorem commands_carried_out (P : Platform) (hP : P.SealsFrames) (hH : P.Handshakes) (hC : P.QuietCodec)
    (random : Nat → UInt32) (cs : List CommandCall) (hfits : ∀ c ∈ cs, (P.pbEncode c.message).length ≤ maxPayloadSize)
    (hvalid : ∀ c ∈ cs, c.message.wellFormed = true) (key : Bytes) (s : Net) (hs : s.InTouch key) (hmax : ∀ c ∈ cs, c.lost < s.daemon.maxAttempts)
    (hcount : s.daemon.linkNonceCounter + attempts cs ≤ Daemon.nonceCounterMask) (hwrap : attempts cs < 65536)
    (hunseen : Unseen (attempts cs) s) (hal : Hal) (io : Daemon.Io) :
    (run (step P random) s (retriedAll cs hal io s)).mcu.acts = s.mcu.acts ++ cs.flatMap (fun c => c.command.acts) ∧
      (run (step P random) s (retriedAll cs hal io s)).mcu.services =
        cs.foldl (fun v c => c.command.services v) s.mcu.services ∧
      (run (step P random) s (retriedAll cs hal io s)).mcu.handled.map Prod.fst =
        s.mcu.handled.map Prod.fst ++ cs.map CommandCall.cmd ∧
      (run (step P random) s (retriedAll cs hal io s)).daemon.results = s.daemon.results ++ acks s.daemon.calls cs ∧
      (run (step P random) s (retriedAll cs hal io s)).InTouch key := by
  induction cs generalizing s with
  | nil => exact ⟨(List.append_nil _).symm, rfl, (List.append_nil _).symm, (List.append_nil _).symm, hs⟩
  | cons c cs ih =>
    have htotal : attempts (c :: cs) = c.lost + 1 + attempts cs := List.sum_cons
    rw [htotal] at hcount hwrap hunseen
    obtain ⟨hack, M, d, handler, x, hh, hdoes⟩ := performs hC (hfits c (List.mem_cons_self ..))
      (hvalid c (List.mem_cons_self ..))
    have hdone := carriedOut random hP hH hs hack hh c.lost (hmax c (List.mem_cons_self ..)) (by omega)
      (fun q hq => hunseen q hq (c.lost + 1) (Nat.succ_pos _) (by omega)) hal io
    have htouch := hdone.inTouch hs (fun u => (hdoes u).1) (by omega)
    have hnext := hdone.unseen (fun u => (hdoes u).1) hwrap hunseen
    obtain ⟨u, hmcu, hu⟩ := hdone.mcu
    obtain ⟨hlink, hact, hservices⟩ := hdoes u
    have hsplit : retriedAll (c :: cs) hal io s = retried c.cmd c.message c.lost hal io s ++ retriedAll cs hal io
        (run (step P random) s (retried c.cmd c.message c.lost hal io s)) := by
      rw [retriedAll_congr hdone.toMcu hdone.toDaemon]
      rfl
    rw [hsplit, run_append]
    generalize run (step P random) s (retried c.cmd c.message c.lost hal io s) = t at *
    obtain ⟨hacts, hrest, hhandled, hresults, hend⟩ := ih (fun c hc => hfits c (List.mem_cons_of_mem _ hc))
      (fun c hc => hvalid c (List.mem_cons_of_mem _ hc)) t htouch
      (fun c hc => hdone.maxAttempts ▸ hmax c (List.mem_cons_of_mem _ hc)) (by rw [hdone.counter]; omega) (by omega) hnext
    refine ⟨?_, ?_, ?_, ?_, hend⟩
    · rw [hacts, hmcu, hact, hu.acts, List.flatMap_cons, List.append_assoc]
    · rw [hrest, hmcu, hservices, hu.services, List.foldl_cons]
    · rw [hhandled, hmcu, hlink.handled, hu.handled, List.map_append, List.append_assoc]
      rfl
    · rw [hresults, hdone.results, hdone.calls, List.append_assoc]
      rfl

end Net

/-! ### A queue to evaluate -/

open Run

theorem Platform.pinned_quiet : Platform.pinned.QuietCodec where
  pin := Platform.pinned_codec
  push data _ := by
    have hread := decodeMessage_encodeMessage (m := .mailboxPush data) (by simp [PayloadType.fieldNumber])
      (PayloadType.wellFormed_flags rfl)
    exact congrArg (Option.bind · PbMessage.mailboxPush.select) hread
  spi m := by
    have hread := decodeMessage_encodeMessage (m := .spiConfig m) (by simp [PayloadType.fieldNumber])
      (PayloadType.wellFormed_flags rfl)
    exact congrArg (Option.bind · PbMessage.spiConfig.select) hread

theorem samplePinSession_unseen : Net.Unseen 5 samplePinSession := by
  intro q hq i hi hle
  rw [show samplePinSession.mcu.rxHistory = [samplePinSession.daemon.txSequenceId] by decide +kernel] at hq
  rw [List.mem_singleton.1 hq]
  exact Net.ne_add_ofNat _ hi (by omega)

/-- A pin mode, the settings of the SPI and a mailbox message; the first frames of the first and the last are lost. -/
def sampleCommands : List Net.CommandCall :=
  [⟨.pin (.mode 13 1), 1⟩, ⟨.spiSetConfig ⟨1, 0, 4000000⟩, 0⟩, ⟨.mailboxPush [65], 1⟩]

theorem commands_carried_out_sample :
    let t := run (Net.step .pinned fun _ => 0) samplePinSession
      (Net.retriedAll sampleCommands .sample .sample samplePinSession)
    t.mcu.acts = samplePinSession.mcu.acts ++ [(PinWrite.mode 13 1).act] ∧ t.mcu.services.mailboxQueue = [[65]] ∧
      t.daemon.results.length = samplePinSession.daemon.results.length + 3 := by
  obtain ⟨hacts, hservices, -, hresults, -⟩ := Net.commands_carried_out .pinned Platform.pinned_seals
    Platform.pinned_handshakes Platform.pinned_quiet (fun _ => 0) sampleCommands (by decide +kernel) (by decide)
    samplePinSession.mcu.sessionKey samplePinSession
    ⟨⟨by decide +kernel, by decide +kernel, by decide +kernel⟩, by decide +kernel, by decide +kernel,
      ⟨by decide +kernel, by decide +kernel, by decide +kernel⟩, rfl, by decide +kernel⟩
    (by decide +kernel) (by decide +kernel) (by decide) samplePinSession_unseen .sample .sample
  refine ⟨hacts, ?_, ?_⟩
  · rw [hservices]
    decide +kernel
  · rw [hresults, List.length_append]
    rfl

end McuBridge
