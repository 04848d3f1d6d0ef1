import McuBridge.Lib.Proto
import McuBridge.Mcu.DedupSound
import McuBridge.Mcu.TxPool

/-! # The output of the console (`services/Console.cpp`)

`Console` is modelled over whatever holds its `_tx_buffer` and answers `Bridge.send`: the calls and their results
depend on nothing else. The firmware is one such host (`Mcu.consoleHost`). -/

namespace McuBridge

/-- The two builds of the library. -/
inductive Build where
  | avr | other
  deriving DecidableEq

/-- `CONSOLE_TX_BUFFER_SIZE` (`console_tx_buffer_size_avr`, `console_tx_buffer_size_other`) -/
def Build.consoleTxBufferSize : Build → Nat
  | .avr => 32
  | .other => 60

/-- `sizeof(p.data.bytes)` of a ConsoleWrite (`mcubridge.options`) -/
def consoleWriteMaxSize : Nat := 64

theorem Build.consoleTxBufferSize_pos (b : Build) : 0 < b.consoleTxBufferSize := by cases b <;> decide

theorem Build.consoleTxBufferSize_le (b : Build) : b.consoleTxBufferSize ≤ consoleWriteMaxSize := by cases b <;> decide

/-- A state with a `_tx_buffer`, and `Bridge.send` of a CMD_CONSOLE_WRITE with this data, which leaves the buffer
alone. -/
structure ConsoleHost (S : Type*) where
  build : Build
  txBuffer : S → Bytes
  setTxBuffer : Bytes → S → S
  send : Bytes → S → S × Bool
  txBuffer_set : ∀ b s, txBuffer (setTxBuffer b s) = b
  txBuffer_send : ∀ data s, txBuffer (send data s).1 = txBuffer s

inductive ConsoleCall where
  | writeByte (c : UInt8)
  /-- `none` is the null pointer. -/
  | write (buffer : Option Bytes)
  | process
  deriving DecidableEq

/-- The bytes the sketch asks to write. -/
def ConsoleCall.bytes : ConsoleCall → Bytes
  | .writeByte c => [c]
  | .write buffer => buffer.getD []
  | .process => []

namespace ConsoleHost
variable {S : Type*} (H : ConsoleHost S)

def full (s : S) : Bool := H.build.consoleTxBufferSize ≤ (H.txBuffer s).length

def available (s : S) : Nat := H.build.consoleTxBufferSize - (H.txBuffer s).length

def insert (data : Bytes) (s : S) : S := H.setTxBuffer (H.txBuffer s ++ data) s

/-- `process` -/
def process (s : S) : S :=
  if (H.txBuffer s).isEmpty then s
  else
    let toCopy := min (H.txBuffer s).length consoleWriteMaxSize
    let r := H.send ((H.txBuffer s).take toCopy) s
    if r.2 then H.setTxBuffer [] r.1 else r.1

def processIfFull (s : S) : S := if H.full s then H.process s else s

/-- `write(uint8_t)` -/
def writeByte (c : UInt8) (s : S) : S × Nat :=
  let s := H.processIfFull s
  if !H.full s then (H.insert [c] s, 1) else (s, 0)

/-- `write(const uint8_t*, size_t)` -/
def write (buffer : Option Bytes) (s : S) : S × Nat :=
  match buffer with
  | none => (s, 0)
  | some data =>
    if data.isEmpty then (s, 0)
    else
      let s := H.processIfFull s
      let toWrite := min data.length (H.available s)
      let s := H.insert (data.take toWrite) s
      if toWrite < data.length && H.full s then
        let s := H.process s
        let extraWrite := min (data.length - toWrite) (H.available s)
        (H.insert ((data.drop toWrite).take extraWrite) s, toWrite + extraWrite)
      else (s, toWrite)

/-- A call, and what it returns. -/
def call : ConsoleCall → S → S × Nat
  | .writeByte c, s => H.writeByte c s
  | .write buffer, s => H.write buffer s
  | .process, s => (H.process s, 0)

/-- The state after the calls, and of each call the first bytes, as many as it returned. -/
def run (s : S) : List ConsoleCall → S × List Bytes
  | [] => (s, [])
  | c :: cs =>
    let r := H.call c s
    let t := run r.1 cs
    (t.1, c.bytes.take r.2 :: t.2)

/-- The host with a record of the payloads for which `Bridge.send` returned true. -/
def logged : ConsoleHost (S × List Bytes) where
  build := H.build
  txBuffer s := H.txBuffer s.1
  setTxBuffer b s := (H.setTxBuffer b s.1, s.2)
  send data s :=
    let r := H.send data s.1
    ((r.1, if r.2 then s.2 ++ [data] else s.2), r.2)
  txBuffer_set b s := H.txBuffer_set b s.1
  txBuffer_send data s := H.txBuffer_send data s.1

attribute [simp] txBuffer_set txBuffer_send

/-! ### What a call keeps -/

/-- All that has gone out, and what waits behind it. -/
def output (s : S × List Bytes) : Bytes := s.2.flatten ++ H.txBuffer s.1

/-- The call appends these bytes to the output, and the buffer stays within its capacity. -/
structure Appends (data : Bytes) (s t : S × List Bytes) : Prop where
  output : H.output t = H.output s ++ data
  bounded : (H.txBuffer t.1).length ≤ H.build.consoleTxBufferSize

variable {H} {s t u : S × List Bytes} {a b : Bytes}

theorem Appends.trans (h : H.Appends a s t) (h' : H.Appends b t u) : H.Appends (a ++ b) s u :=
  ⟨by rw [h'.output, h.output, List.append_assoc], h'.bounded⟩

theorem insert_appends (h : a.length ≤ H.logged.available s) (hs : (H.txBuffer s.1).length ≤ H.build.consoleTxBufferSize) :
    H.Appends a s (H.logged.insert a s) := by
  have hbuf : H.txBuffer (H.logged.insert a s).1 = H.txBuffer s.1 ++ a := H.txBuffer_set _ _
  refine ⟨?_, ?_⟩
  · unfold output
    rw [hbuf, ← List.append_assoc]
    rfl
  · have hroom : a.length ≤ H.build.consoleTxBufferSize - (H.txBuffer s.1).length := h
    rw [hbuf, List.length_append]
    omega

/-- A successful send moves the whole buffer: its capacity is within the size of the message. -/
theorem process_appends (hs : (H.txBuffer s.1).length ≤ H.build.consoleTxBufferSize) :
    H.Appends [] s (H.logged.process s) := by
  have hall : (H.txBuffer s.1).take (min (H.txBuffer s.1).length consoleWriteMaxSize) = H.txBuffer s.1 := by
    have hmax := H.build.consoleTxBufferSize_le
    rw [Nat.min_eq_left (by omega), List.take_length]
  have hsend : H.logged.process s = if (H.txBuffer s.1).isEmpty then s
      else if (H.send (H.txBuffer s.1) s.1).2 then
        (H.setTxBuffer [] (H.send (H.txBuffer s.1) s.1).1, s.2 ++ [H.txBuffer s.1])
      else ((H.send (H.txBuffer s.1) s.1).1, s.2) := by
    unfold process logged
    dsimp only
    rw [hall]
    split
    · rfl
    · split <;> rfl
  rw [hsend]
  split
  · exact ⟨(List.append_nil _).symm, hs⟩
  split
  · exact ⟨by simp [output], by simp⟩
  · exact ⟨by simp [output], by simpa using hs⟩

theorem processIfFull_appends (hs : (H.txBuffer s.1).length ≤ H.build.consoleTxBufferSize) :
    H.Appends [] s (H.logged.processIfFull s) := by
  unfold processIfFull
  split
  · exact process_appends hs
  · exact ⟨(List.append_nil _).symm, hs⟩

theorem writeByte_appends (c : UInt8) (hs : (H.txBuffer s.1).length ≤ H.build.consoleTxBufferSize) :
    H.Appends ([c].take (H.logged.writeByte c s).2) s (H.logged.writeByte c s).1 := by
  have hpre := processIfFull_appends hs
  unfold writeByte
  dsimp only
  cases hfull : H.logged.full (H.logged.processIfFull s) with
  | true => exact hpre
  | false =>
    have hroom : [c].length ≤ H.logged.available (H.logged.processIfFull s) := by
      have hlt := decide_eq_false_iff_not.1 hfull
      unfold available
      simp only [List.length_singleton]
      omega
    exact hpre.trans (insert_appends hroom hpre.bounded)

theorem write_appends (buffer : Option Bytes) (hs : (H.txBuffer s.1).length ≤ H.build.consoleTxBufferSize) :
    H.Appends ((buffer.getD []).take (H.logged.write buffer s).2) s (H.logged.write buffer s).1 := by
  cases buffer with
  | none => exact ⟨(List.append_nil _).symm, hs⟩
  | some data =>
    unfold write
    dsimp only [Option.getD_some]
    split
    · exact ⟨(List.append_nil _).symm, hs⟩
    have hpre := processIfFull_appends hs
    generalize H.logged.processIfFull s = t at hpre ⊢
    have hfits : (data.take (min data.length (H.logged.available t))).length ≤ H.logged.available t := by
      rw [List.length_take]
      omega
    have hhead := hpre.trans (insert_appends hfits hpre.bounded)
    split
    · -- the second flush, and what fits after it
      have hflush := hhead.trans (process_appends hhead.bounded)
      generalize H.logged.process (H.logged.insert _ t) = u at hflush ⊢
      have hextra : ((data.drop (min data.length (H.logged.available t))).take
          (min (data.length - min data.length (H.logged.available t)) (H.logged.available u))).length ≤
          H.logged.available u := by
        rw [List.length_take]
        omega
      have htail := hflush.trans (insert_appends hextra hflush.bounded)
      rw [List.append_nil, List.nil_append, ← List.take_add] at htail
      exact htail
    · exact hhead

theorem call_appends (c : ConsoleCall) (hs : (H.txBuffer s.1).length ≤ H.build.consoleTxBufferSize) :
    H.Appends (c.bytes.take (H.logged.call c s).2) s (H.logged.call c s).1 := by
  cases c with
  | writeByte c => exact writeByte_appends c hs
  | write buffer => exact write_appends buffer hs
  | process => exact process_appends hs

theorem run_appends (cs : List ConsoleCall) (hs : (H.txBuffer s.1).length ≤ H.build.consoleTxBufferSize) :
    H.Appends (H.logged.run s cs).2.flatten s (H.logged.run s cs).1 := by
  induction cs generalizing s with
  | nil => exact ⟨(List.append_nil _).symm, hs⟩
  | cons c cs ih =>
    have hcall := call_appends c hs
    exact hcall.trans (ih hcall.bounded)

/-- No call accepts more than it is given. -/
theorem call_count_le (c : ConsoleCall) (s : S) : (H.call c s).2 ≤ c.bytes.length := by
  cases c with
  | writeByte c =>
    show (H.writeByte c s).2 ≤ 1
    unfold writeByte
    dsimp only
    split
    · exact le_rfl
    · exact Nat.zero_le _
  | process => exact le_rfl
  | write buffer =>
    show (H.write buffer s).2 ≤ (buffer.getD []).length
    cases buffer with
    | none => exact le_rfl
    | some data =>
      unfold write
      dsimp only [Option.getD_some]
      split
      · exact Nat.zero_le _
      split
      · omega
      · exact Nat.min_le_left ..

/-- From an empty buffer, over every sequence of calls and whatever `Bridge.send` answers: the payloads that were sent
and then the buffer are the bytes the calls accepted, in order. -/
theorem console_output_conserved (H : ConsoleHost S) (s : S) (calls : List ConsoleCall) :
    let t := H.logged.run (H.setTxBuffer [] s, []) calls
    t.1.2.flatten ++ H.txBuffer t.1.1 = t.2.flatten ∧
      (H.txBuffer t.1.1).length ≤ H.build.consoleTxBufferSize ∧
      ∀ c u, (H.call c u).2 ≤ c.bytes.length := by
  have hempty : H.txBuffer (H.setTxBuffer [] s) = [] := H.txBuffer_set [] s
  have hroom : (H.txBuffer (H.setTxBuffer [] s)).length ≤ H.build.consoleTxBufferSize := by
    rw [hempty]
    exact Nat.zero_le _
  have hrun := run_appends calls (show (H.txBuffer (H.setTxBuffer [] s, ([] : List Bytes)).1).length ≤ _ from hroom)
  refine ⟨?_, hrun.bounded, call_count_le⟩
  have houtput := hrun.output
  unfold output at houtput
  rw [hempty] at houtput
  exact houtput

end ConsoleHost

/-! ### The firmware -/

namespace Mcu
variable (P : Platform) (s : Mcu)

theorem transmit_services (cmd seq : UInt16) (p : Bytes) (ticket : Option Nat) :
    (s.transmit P cmd seq p ticket).services = s.services := by
  cases h : s.doEncrypt cmd with
  | true => rcases transmit_sealed P s h seq p ticket with heq | ⟨f, -, heq⟩ <;> rw [heq] <;> rfl
  | false =>
    unfold transmit
    rw [h, if_neg Bool.false_ne_true]
    rfl

theorem flushPendingTxQueue_services : (s.flushPendingTxQueue P).services = s.services := by
  unfold flushPendingTxQueue
  split
  · rfl
  · split
    · rfl
    · exact transmit_services P _ _ _ _ _

theorem enqueueWith_services (cmd seq : UInt16) (data : Bytes) : (s.enqueueWith P cmd seq data).1.services = s.services := by
  unfold enqueueWith
  split
  · rfl
  split
  · rfl
  unfold enqueue
  dsimp only
  split
  · exact flushPendingTxQueue_services P _
  · rfl

theorem send_services (c : Command) (seq : UInt16) (packet : PayloadType) :
    (s.send P c seq packet).1.services = s.services := by
  unfold send
  split
  · unfold sendEncryptedHelper
    dsimp only
    split
    · rfl
    split
    · exact enqueueWith_services ..
    · exact transmit_services ..
  · unfold sendUnqueued sendSinglePass sendFrameRaw
    dsimp only
    split <;> split <;> rfl

/-- The firmware as the host of its console. -/
def consoleHost (b : Build) : ConsoleHost Mcu where
  build := b
  txBuffer s := s.services.consoleTx
  setTxBuffer data s := { s with services := { s.services with consoleTx := data } }
  send data s := s.send P .consoleWrite 0 (.consoleWrite data)
  txBuffer_set _ _ := rfl
  txBuffer_send _ s := congrArg Services.consoleTx (send_services P s _ _ _)

variable {P s} {b : Build}

theorem consoleHost_process : (consoleHost P b).process s = s.consoleProcess P := by
  have htake : s.services.consoleTx.take (min s.services.consoleTx.length consoleWriteMaxSize) =
      s.services.consoleTx.take 64 := by
    rw [Nat.min_comm, ← List.take_eq_take_min]
    rfl
  show (if s.services.consoleTx.isEmpty then s else _) = _
  unfold consoleProcess
  dsimp only [consoleHost]
  rw [htake]

theorem consoleHost_write (hsize : P.consoleTxBufferSize = b.consoleTxBufferSize) (data : Bytes) :
    ((consoleHost P b).write (some data) s).1 = s.consoleWrite P data := by
  have hfull : ∀ t : Mcu, (consoleHost P b).full t = t.consoleTxFull P := by
    intro t
    unfold consoleTxFull
    rw [hsize]
    rfl
  have hpre : (consoleHost P b).processIfFull s = s.consoleProcessIfFull P := by
    unfold ConsoleHost.processIfFull consoleProcessIfFull
    rw [hfull, consoleHost_process]
  have havailable : ∀ t : Mcu, (consoleHost P b).available t = P.consoleTxBufferSize - t.services.consoleTx.length := by
    intro t
    rw [hsize]
    rfl
  unfold ConsoleHost.write consoleWrite
  dsimp only
  split
  · rfl
  have hinsert : ∀ (d : Bytes) (t : Mcu), (consoleHost P b).insert d t = t.consoleTxInsert d := fun _ _ => rfl
  simp only [hpre, havailable, hfull, consoleHost_process, hinsert]
  split <;> rfl

/-! ### A full buffer can be sent -/

/-- `Bridge.send` takes a console message that fits: there is room in the queue in a session, and transmission is
enabled outside one. -/
def takesConsole (P : Platform) (s : Mcu) : Bool :=
  if s.doEncrypt Command.consoleWrite.toUnderlying then s.pendingTxQueue.length < P.maxPendingTxFrames else s.txEnabled

theorem encode_console_length (hP : ∀ d, P.pbEncode (.consoleWrite d) = Proto.encode (Proto.octetsField 1 d)) {d : Bytes}
    (hd : d.length ≤ b.consoleTxBufferSize) : (P.pbEncode (.consoleWrite d)).length ≤ maxPayloadSize := by
  have hmax : b.consoleTxBufferSize ≤ 60 := by cases b <;> decide
  rw [hP]
  unfold Proto.octetsField
  split
  · decide
  · rw [Proto.encode_octets_length (by omega) (by omega)]
    show _ ≤ 64
    omega

theorem send_console (hs : TxConsistent P s) {d : Bytes} (hfits : (P.pbEncode (.consoleWrite d)).length ≤ maxPayloadSize) :
    (s.send P .consoleWrite 0 (.consoleWrite d)).2 = s.takesConsole P := by
  have hack : requiresAck Command.consoleWrite.toUnderlying = true := by decide
  unfold send takesConsole
  split
  · unfold sendEncryptedHelper
    dsimp only
    rw [if_neg (Nat.not_lt.2 hfits), if_pos hack, Bool.eq_iff_iff, enqueueWith_accepts hs, decide_eq_true_iff]
  · unfold sendUnqueued sendSinglePass sendFrameRaw
    cases s.txEnabled <;> simp [hack, show isSystemCommand Command.consoleWrite.toUnderlying = false by decide]

/-- Outside a session nothing limits the size. -/
theorem send_console_clear (hd : s.doEncrypt Command.consoleWrite.toUnderlying = false) (data : Bytes) :
    (s.send P .consoleWrite 0 (.consoleWrite data)).2 = s.txEnabled := by
  have hack : requiresAck Command.consoleWrite.toUnderlying = true := by decide
  unfold send
  rw [hd, if_neg Bool.false_ne_true]
  unfold sendUnqueued sendSinglePass sendFrameRaw
  cases s.txEnabled <;> simp [hack, show isSystemCommand Command.consoleWrite.toUnderlying = false by decide]

end Mcu

namespace ConsoleHost
variable {S : Type*} {H : ConsoleHost S} {s : S}

/-- Where the buffer can be sent, a call with something to write accepts some of it. -/
theorem call_accepts (hsend : (H.send ((H.txBuffer s).take consoleWriteMaxSize) s).2 = true) {c : ConsoleCall}
    (hc : c.bytes ≠ []) : 0 < (H.call c s).2 := by
  have hpos := H.build.consoleTxBufferSize_pos
  -- the call finds room, at once or after the flush
  have hroom : (H.txBuffer (H.processIfFull s)).length < H.build.consoleTxBufferSize := by
    unfold processIfFull
    split
    case isFalse hfull => simpa [full] using hfull
    case isTrue hfull =>
      have hlen : H.build.consoleTxBufferSize ≤ (H.txBuffer s).length := by simpa [full] using hfull
      have hne : ¬(H.txBuffer s).isEmpty = true := by
        rw [List.isEmpty_iff_length_eq_zero]
        omega
      unfold process
      dsimp only
      rw [if_neg hne, Nat.min_comm, ← List.take_eq_take_min, if_pos hsend, H.txBuffer_set]
      exact hpos
  cases c with
  | writeByte c =>
    have hfull : H.full (H.processIfFull s) = false := by
      unfold full
      rw [decide_eq_false_iff_not]
      omega
    show 0 < (H.writeByte c s).2
    unfold writeByte
    dsimp only
    rw [hfull, Bool.not_false, if_pos rfl]
    exact Nat.zero_lt_one
  | process => exact absurd rfl hc
  | write buffer =>
    cases buffer with
    | none => exact absurd rfl hc
    | some data =>
      have hdata : data ≠ [] := hc
      have hlen := List.length_pos_iff.2 hdata
      have havailable : 0 < H.available (H.processIfFull s) := by
        unfold available
        omega
      show 0 < (H.write (some data) s).2
      unfold write
      dsimp only
      rw [if_neg (by simpa using hdata)]
      split
      · dsimp only
        omega
      · exact Nat.lt_min.2 ⟨hlen, havailable⟩

end ConsoleHost

/-! ### No state is final for the console -/

/-- The entry points of the firmware and `Console.write(uint8_t)`. -/
inductive SketchEvent where
  | writeByte (c : UInt8)
  | event (ev : McuEvent)

namespace Mcu
variable {P : Platform} {b : Build} {s : Mcu}

def sketchStep (P : Platform) (b : Build) : SketchEvent → Mcu → Mcu
  | .writeByte c, s => ((consoleHost P b).writeByte c s).1
  | .event ev, s => step P ev s

theorem TxConsistent.services (h : TxConsistent P s) (v : Services) : TxConsistent P { s with services := v } :=
  h.congr rfl rfl h.frontInFlight

/-- What every event of the firmware keeps and no service matters to. -/
theorem sketchStep_invariant {I : Mcu → Prop} (hstep : ∀ ev t, I t → I (step P ev t))
    (hservices : ∀ (t : Mcu) v, I t → I { t with services := v }) (ev : SketchEvent) (h : I s) : I (sketchStep P b ev s) := by
  cases ev with
  | event ev => exact hstep ev s h
  | writeByte c =>
    have hpre : I ((consoleHost P b).processIfFull s) := by
      unfold ConsoleHost.processIfFull
      split
      · rw [consoleHost_process]
        exact hstep .consoleProcess s h
      · exact h
    show I ((consoleHost P b).writeByte c s).1
    unfold ConsoleHost.writeByte
    dsimp only
    split
    · exact hservices _ _ hpre
    · exact hpre

theorem sketchStep_txConsistent (ev : SketchEvent) (h : TxConsistent P s) : TxConsistent P (sketchStep P b ev s) :=
  sketchStep_invariant (fun ev _ ht => step_txConsistent ev ht) (fun _ v ht => ht.services v) ev h

theorem sketchStep_rxHistory_length (ev : SketchEvent) (h : s.rxHistory.length ≤ rxHistorySize) :
    (sketchStep P b ev s).rxHistory.length ≤ rxHistorySize :=
  sketchStep_invariant (I := fun t : Mcu => t.rxHistory.length ≤ rxHistorySize) (fun ev t => step_rxHistory_length P t ev)
    (fun _ _ ht => ht) ev h

theorem enterSafeState_isSynchronized (s : Mcu) : s.enterSafeState.isSynchronized = false := by
  show (s.fsm.onEvent .reset).isSynchronized = false
  cases s.fsm <;> rfl

/-- A MALFORMED status and an XON. -/
def wakeUp : List SketchEvent :=
  [.event (.recv .sample (some (bareFrame Status.malformed.toUnderlying 1))),
    .event (.recv .sample (some (bareFrame Command.xon.toUnderlying 2)))]

/-- The history has room for one id, and the XON has another one than the status. -/
theorem wakeUp_clear (hlen : s.rxHistory.length ≤ rxHistorySize) :
    (Run.run (sketchStep P b) s wakeUp).doEncrypt Command.consoleWrite.toUnderlying = false ∧
      (Run.run (sketchStep P b) s wakeUp).txEnabled = true := by
  have hmal : (bareFrame Status.malformed.toUnderlying 1).rawCommand = Status.malformed.toUnderlying := by decide
  have hxon : ∀ t : Mcu, t.rxHistory = [1] → Switches (t.commandContext (bareFrame Command.xon.toUnderlying 2)) true := by
    intro t ht
    refine ⟨?_, show (bareFrame Command.xon.toUnderlying 2).rawCommand = Command.xon.toUnderlying by decide⟩
    show t.isDuplicate _ = false
    unfold isDuplicate
    rw [ht]
    rfl
  have hhist : (if s.isDuplicate (bareFrame Status.malformed.toUnderlying 1) then s else
      s.pushHistory (bareFrame Status.malformed.toUnderlying 1).sequenceId.toUInt16 : Mcu).rxHistory = [1] := by
    split
    case isTrue hdup =>
      obtain ⟨q, hq, hid⟩ := List.any_eq_true.1 hdup
      obtain rfl : q = 1 := UInt16.toUInt32_inj.1 (eq_of_beq hid)
      cases hs : s.rxHistory with
      | nil =>
        rw [hs] at hq
        cases hq
      | cons a l =>
        rw [hs] at hq hlen
        obtain rfl : l = [] := List.eq_nil_of_length_eq_zero (Nat.le_zero.1 (Nat.le_of_succ_le_succ hlen))
        rw [List.mem_singleton.1 hq]
    case isFalse => exact pushHistory_rxHistory hlen _
  have hrun : Run.run (sketchStep P b) s wakeUp = step P (.recv .sample (some (bareFrame Command.xon.toUnderlying 2)))
      (step P (.recv .sample (some (bareFrame Status.malformed.toUnderlying 1))) s) := rfl
  rw [hrun, recv_malformed_eq .sample hmal]
  generalize (if s.isDuplicate _ then s else _ : Mcu) = t at hhist ⊢
  rw [recv_switch P _ .sample (hxon t.enterSafeState hhist)]
  refine ⟨?_, rfl⟩
  have hfsm := (beforeHandler_quiet P t.enterSafeState (bareFrame Command.xon.toUnderlying 2)).fsm
  have hsync : (beforeHandler P t.enterSafeState (bareFrame Command.xon.toUnderlying 2)).isSynchronized = false := by
    unfold isSynchronized
    rw [hfsm]
    exact enterSafeState_isSynchronized t
  unfold doEncrypt
  show ((beforeHandler P t.enterSafeState (bareFrame Command.xon.toUnderlying 2)).isSynchronized && _ && _) = _
  rw [hsync, Bool.false_and, Bool.false_and]

/-- In every state of a run, with any content of the buffer: its message fits the buffer that it is encoded into; in a
session whose queue has room, `process` queues it and empties the buffer, and a write accepts something; and some
continuation, of received frames alone, leads to a state where every write does. -/
theorem console_never_wedges (P : Platform)
    (hP : ∀ d, P.pbEncode (.consoleWrite d) = Proto.encode (Proto.octetsField 1 d)) (b : Build) (secret : Bytes)
    (postOk : Bool) (evs : List SketchEvent) (d : Bytes) (hd : d.length ≤ b.consoleTxBufferSize) :
    let s := (consoleHost P b).setTxBuffer d (Run.run (sketchStep P b) (boot secret postOk) evs)
    (P.pbEncode (.consoleWrite d)).length ≤ maxPayloadSize ∧
      (s.isSynchronized = true → s.sharedSecret ≠ [] → s.pendingTxQueue.length < P.maxPendingTxFrames →
        (s.consoleProcess P).services.consoleTx = [] ∧
          (d ≠ [] → (s.consoleProcess P).accepted =
            s.accepted ++ [(Command.consoleWrite.toUnderlying, 0, P.pbEncode (.consoleWrite d))]) ∧
          ∀ c : ConsoleCall, c.bytes ≠ [] → 0 < ((consoleHost P b).call c s).2) ∧
      ∃ more, (∀ ev ∈ more, ∃ hal env, ev = .event (.recv hal (some env))) ∧
        ∀ c : ConsoleCall, c.bytes ≠ [] → 0 < ((consoleHost P b).call c (Run.run (sketchStep P b) s more)).2 := by
  intro s
  have hs : TxConsistent P s := TxConsistent.services (Run.run_invariant
    (fun _ ev h => sketchStep_txConsistent ev h) (boot_txConsistent P secret postOk) evs) _
  have hfits := encode_console_length hP hd
  have htake : d.take consoleWriteMaxSize = d := List.take_of_length_le (Nat.le_trans hd b.consoleTxBufferSize_le)
  refine ⟨hfits, fun hsync hsecret hroom => ?_, wakeUp, ?_, fun c hc => ?_⟩
  · have henc : s.doEncrypt Command.consoleWrite.toUnderlying = true :=
      (doEncrypt_iff s).2 ⟨hsync, hsecret, by decide⟩
    have hsend : (s.send P .consoleWrite 0 (.consoleWrite d)).2 = true := by
      rw [send_console hs hfits, takesConsole, if_pos henc, decide_eq_true hroom]
    refine ⟨?_, fun hne => ?_, fun c hc => ConsoleHost.call_accepts ?_ hc⟩
    · show (consoleProcess P s).services.consoleTx = []
      unfold consoleProcess
      split
      case isTrue hempty => exact List.isEmpty_iff.1 hempty
      case isFalse =>
        rw [show s.services.consoleTx = d from rfl, show d.take 64 = d from htake]
        dsimp only
        rw [if_pos hsend]
    · unfold consoleProcess
      rw [show s.services.consoleTx = d from rfl, show d.take 64 = d from htake, if_neg (by simpa using hne)]
      dsimp only
      rw [if_pos hsend]
      show (s.send P .consoleWrite 0 (.consoleWrite d)).1.accepted = _
      rw [send_accepted, hsend, Bool.and_true, if_pos (by decide)]
    · show (s.send P .consoleWrite 0 (.consoleWrite (d.take consoleWriteMaxSize))).2 = true
      rw [htake, hsend]
  · intro ev hev
    rcases List.mem_pair.1 hev with rfl | rfl <;> exact ⟨_, _, rfl⟩
  · have hboot : (boot secret postOk).rxHistory = [] := by cases postOk <;> rfl
    have hlen : s.rxHistory.length ≤ rxHistorySize :=
      Run.run_invariant (I := fun t : Mcu => t.rxHistory.length ≤ rxHistorySize)
        (fun _ ev h => sketchStep_rxHistory_length ev h) (by rw [hboot]; exact Nat.zero_le _) evs
    obtain ⟨hclear, htx⟩ := wakeUp_clear (P := P) (b := b) hlen
    exact ConsoleHost.call_accepts ((send_console_clear hclear _).trans htx) hc

/-- A platform that encodes console messages of any size. -/
def consolePlatform : Platform :=
  { Platform.sample with
    pbEncode := fun
      | .consoleWrite d => Proto.encode (Proto.octetsField 1 d)
      | p => Platform.sample.pbEncode p }

/-- The full buffer of the larger build, after a handshake. -/
theorem console_never_wedges_sample :
    let s := (consoleHost consolePlatform .other).setTxBuffer (List.replicate 60 65) (Run.run
      (sketchStep consolePlatform .other) (boot [7] true) [.event (.recv .sample (some (validSync 1)))])
    (s.consoleProcess consolePlatform).services.consoleTx = [] := by
  have h := console_never_wedges consolePlatform (fun _ => rfl) .other [7] true
    [.event (.recv .sample (some (validSync 1)))] (List.replicate 60 65) (by decide)
  exact (h.2.1 (by decide +kernel) (by decide +kernel) (by decide +kernel)).1

end Mcu
end McuBridge
