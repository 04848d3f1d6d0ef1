import McuBridge.Mcu.Replies

/-! # Pin numbers of the GPIO commands

The pin of a GPIO message has 32 bits, the functions of the board take 8. The three writing handlers pass it on as it
is; the reading ones compare it with the board's limit after it has been narrowed. -/

namespace McuBridge

/-- The pin a hardware access function is called with. -/
def Act.pin : Act → Option UInt8
  | .pinMode pin _ | .digitalWrite pin _ | .analogWrite pin _ | .digitalRead pin | .analogRead pin => some pin
  | _ => none

/-- An empty STATUS_ERROR fits the firmware's buffer. -/
def Platform.FramesError (P : Platform) : Prop :=
  P.serializes (Mcu.rawEnvelope Status.error.toUnderlying 0 (List.replicate aeadNonceSize 0) []) = true

inductive GpioMessage where
  | setPinMode (pin mode : UInt32)
  | digitalWrite (pin value : UInt32)
  | analogWrite (pin value : UInt32)
  | digitalRead (pin : UInt32)
  | analogRead (pin : UInt32)

namespace GpioMessage

def pin : GpioMessage → UInt32
  | setPinMode pin _ | digitalWrite pin _ | analogWrite pin _ | digitalRead pin | analogRead pin => pin

variable (P : Platform)

/-- `DIGITAL_PINS`, or `ANALOG_PINS` for an analog read. -/
def limit : GpioMessage → UInt8
  | analogRead _ => P.analogPins
  | _ => P.digitalPins

def handler (hal : Hal) (ctx : CommandContext) : GpioMessage → Mcu → Mcu
  | setPinMode pin mode => Mcu.handleSetPinMode (pin, mode)
  | digitalWrite pin value => Mcu.handleDigitalWrite (pin, value)
  | analogWrite pin value => Mcu.handleAnalogWrite (pin, value)
  | digitalRead pin => Mcu.handleDigitalRead P hal ctx pin
  | analogRead pin => Mcu.handleAnalogRead P hal ctx pin

/-- The pin is on the board, or a read rejects what is left of it in 8 bits. A board without analog reading rejects
them all. -/
def Bounded : GpioMessage → Prop
  | setPinMode pin _ | digitalWrite pin _ | analogWrite pin _ => pin.toNat < P.digitalPins.toNat
  | digitalRead pin => pin.toNat < P.digitalPins.toNat ∨ P.digitalPins.toNat ≤ pin.toNat % 256
  | analogRead pin =>
    P.hasAnalogRead = true → pin.toNat < P.analogPins.toNat ∨ P.analogPins.toNat ≤ pin.toNat % 256

end GpioMessage

namespace Mcu
variable {P : Platform} {s t u : Mcu}

/-- The pins touched from `s` to `t`. -/
def touched (s t : Mcu) : List UInt8 := (t.acts.drop s.acts.length).filterMap Act.pin

/-- Only the pin of the message is touched, and only if the board has it; for any other pin an error status is sent. -/
structure PinBounds (P : Platform) (m : GpioMessage) (s t : Mcu) : Prop where
  within : ∀ pin ∈ touched s t, pin.toNat = m.pin.toNat ∧ m.pin.toNat < (m.limit P).toNat
  rejected : (m.limit P).toNat ≤ m.pin.toNat →
    touched s t = [] ∧ ∃ f ∈ t.wire.drop s.wire.length, f.env.rawCommand = Status.error.toUnderlying

/-- From `s` to `t` no pin is touched. -/
def NoPins (s t : Mcu) : Prop := ∃ as, t.acts = s.acts ++ as ∧ as.filterMap Act.pin = []

theorem NoPins.of_eq (h : t.acts = s.acts) : NoPins s t := ⟨[], by rw [h, List.append_nil], rfl⟩

theorem NoPins.trans (h : NoPins s t) (h' : NoPins t u) : NoPins s u := by
  obtain ⟨as, has, hnone⟩ := h
  obtain ⟨bs, hbs, hnone'⟩ := h'
  exact ⟨as ++ bs, by rw [hbs, has, List.append_assoc], by rw [List.filterMap_append, hnone, hnone']; rfl⟩

/-- One action, and then none on a pin. -/
theorem touched_act {a : Act} (h : NoPins (s.act a) t) : touched s t = (a.pin).toList := by
  obtain ⟨as, has, hnone⟩ := h
  have heq : t.acts = s.acts ++ (a :: as) := by
    rw [has]
    show (s.acts ++ [a]) ++ as = _
    rw [List.append_assoc]
    rfl
  rw [touched, heq, List.drop_left, List.filterMap_cons, hnone]
  cases a.pin <;> rfl

theorem emitStatus_error (hP : P.FramesError) (s : Mcu) :
    s.emitStatus P .error none = { s with wire := s.wire ++
      [⟨rawEnvelope Status.error.toUnderlying 0 (List.replicate aeadNonceSize 0) [], none, none⟩] } := by
  have hsys := isSystemCommand_status .error
  have hsend : s.sendFrame P Status.error.toUnderlying 0 [] = (s.transmit P Status.error.toUnderlying 0 [] none, true) :=
    sendFrame_system P s hsys (requiresAck_status .error) 0 []
  have hframe : P.serializes (rawEnvelope Status.error.toUnderlying 0 (List.replicate aeadNonceSize 0) []) = true := hP
  unfold emitStatus
  dsimp only
  rw [hsend, if_pos rfl]
  dsimp only
  unfold transmit
  rw [doEncrypt_system s hsys, if_neg (by simp)]
  unfold serializeAndSend
  rw [List.take_nil, if_pos hframe]

theorem transmit_acts (cmd seq : UInt16) (p : Bytes) (ticket : Option Nat) (s : Mcu) :
    (s.transmit P cmd seq p ticket).acts = s.acts := by
  unfold transmit
  split
  · unfold aeadEncryptFrame
    dsimp only
    split
    case h_1 heq =>
      obtain ⟨rfl, -⟩ := Prod.mk.inj heq
      rfl
    case h_2 heq =>
      obtain ⟨rfl, -⟩ := Prod.mk.inj heq
      rfl
  · rfl

/-- A response is sent at once; nothing is queued that could move the link. -/
theorem send_acts {c : Command} (hc : requiresAck c.toUnderlying = false) (seq : UInt16) (packet : PayloadType) (s : Mcu) :
    (s.send P c seq packet).1.acts = s.acts := by
  unfold send
  split
  · unfold sendEncryptedHelper
    dsimp only
    split
    · rfl
    rw [hc, if_neg Bool.false_ne_true]
    exact transmit_acts _ _ _ _ s
  · rw [sendUnqueued_unreliable P s hc]
    unfold sendSinglePass sendFrameRaw
    split <;> rfl

/-- The error status for a pin that is refused. -/
theorem rejected_bounds (hP : P.FramesError) (m : GpioMessage) (s : Mcu) :
    PinBounds P m s (s.emitStatus P .error none) := by
  have hnone : touched s (s.emitStatus P .error none) = [] := by
    rw [emitStatus_error hP, touched]
    simp
  refine ⟨fun pin hpin => ?_, fun _ => ⟨hnone, ?_⟩⟩
  · rw [hnone] at hpin
    cases hpin
  · rw [emitStatus_error hP, List.drop_left]
    exact ⟨_, List.mem_singleton_self _, by rw [rawEnvelope_rawCommand]⟩

/-- One pin is touched, with the lower 8 bits of the message's. -/
theorem bounds_of_touched {m : GpioMessage} (h : touched s t = [m.pin.toUInt8]) :
    PinBounds P m s t ↔ m.pin.toNat < (m.limit P).toNat := by
  have hbyte : m.pin.toUInt8.toNat = m.pin.toNat % 256 := by simp
  constructor
  · intro hb
    exact (hb.within m.pin.toUInt8 (by rw [h]; exact List.mem_singleton_self _)).2
  · intro hlt
    have hlimit := (m.limit P).toNat_lt
    refine ⟨fun pin hpin => ?_, fun hge => by omega⟩
    rw [h, List.mem_singleton] at hpin
    subst hpin
    exact ⟨by omega, hlt⟩

/-- A read is refused by what is left of the pin. -/
theorem handlePinReadCommon_bounds (hP : P.FramesError) {m : GpioMessage} (ctx : CommandContext) {resp : Command}
    (hresp : requiresAck resp.toUnderlying = false) {a : Act} (ha : a.pin = some m.pin.toUInt8) (packet : PayloadType)
    (s : Mcu) :
    PinBounds P m s (s.handlePinReadCommon P ctx m.pin.toUInt8 (m.limit P) resp a packet) ↔
      m.pin.toNat < (m.limit P).toNat ∨ (m.limit P).toNat ≤ m.pin.toNat % 256 := by
  have hbyte : m.pin.toUInt8.toNat = m.pin.toNat % 256 := by simp
  unfold handlePinReadCommon
  by_cases hlt : m.pin.toUInt8 < m.limit P
  · rw [if_pos hlt]
    rw [UInt8.lt_iff_toNat_lt, hbyte] at hlt
    have hnone : NoPins (s.act a) (if ((s.act a).send P resp ctx.sequenceId packet).2 then
        ((s.act a).send P resp ctx.sequenceId packet).1
        else ((s.act a).send P resp ctx.sequenceId packet).1.emitStatus P .error none) := by
      have hsend : NoPins (s.act a) ((s.act a).send P resp ctx.sequenceId packet).1 := .of_eq (send_acts hresp _ _ _)
      split
      · exact hsend
      · refine hsend.trans (.of_eq ?_)
        rw [emitStatus_error hP]
    have htouched := touched_act hnone
    rw [ha] at htouched
    refine (bounds_of_touched htouched).trans ⟨.inl, fun h => ?_⟩
    omega
  · rw [if_neg hlt]
    rw [UInt8.lt_iff_toNat_lt, hbyte] at hlt
    exact iff_of_true (rejected_bounds hP m s) (.inr (by omega))

/-- For every GPIO message, in any state, the handler keeps to the pins of the board exactly if the message names one
of them, or is a read whose pin is refused by its lower 8 bits. -/
theorem pin_bounds_iff (P : Platform) (hP : P.FramesError) (hal : Hal) (ctx : CommandContext) (m : GpioMessage) (s : Mcu) :
    PinBounds P m s (m.handler P hal ctx s) ↔ m.Bounded P := by
  have hwrite {m : GpioMessage} {a : Act} (ha : a.pin = some m.pin.toUInt8) :
      PinBounds P m s (s.act a) ↔ m.pin.toNat < (m.limit P).toNat := by
    have htouched := touched_act (a := a) (NoPins.of_eq (rfl : (s.act a).acts = (s.act a).acts))
    rw [ha] at htouched
    exact bounds_of_touched htouched
  cases m with
  | setPinMode pin mode => exact hwrite rfl
  | digitalWrite pin value => exact hwrite rfl
  | analogWrite pin value => exact hwrite rfl
  | digitalRead pin => exact handlePinReadCommon_bounds hP (m := .digitalRead pin) ctx (by decide) rfl _ s
  | analogRead pin =>
    show PinBounds P _ s (s.handleAnalogRead P hal ctx pin) ↔ (P.hasAnalogRead = true → _)
    unfold handleAnalogRead
    split
    case isTrue h =>
      rw [h, iff_true_intro rfl, true_imp_iff]
      exact handlePinReadCommon_bounds hP (m := .analogRead pin) ctx (by decide) rfl _ s
    case isFalse h => exact iff_of_true (rejected_bounds hP _ s) fun h' => absurd h' h

/-- A board whose analog inputs can be read. -/
def analogBoard : Platform := { Platform.sample with hasAnalogRead := true }

def gpioContext : CommandContext := ⟨⟨protocolVersion, 0, 1, [], .notSet⟩, 0, 1, false, true⟩

/-- A write to the last pin of the board, and a read of one past it. -/
theorem pin_bounds_edge :
    PinBounds analogBoard (.digitalWrite 31 1) {} ((GpioMessage.digitalWrite 31 1).handler analogBoard .sample gpioContext {}) ∧
      PinBounds analogBoard (.digitalRead 32) {} ((GpioMessage.digitalRead 32).handler analogBoard .sample gpioContext {}) :=
  ⟨(pin_bounds_iff analogBoard rfl .sample gpioContext (.digitalWrite 31 1) {}).2 (by decide : (31 : Nat) < 32),
    (pin_bounds_iff analogBoard rfl .sample gpioContext (.digitalRead 32) {}).2 (by decide : (32 : Nat) < 32 ∨ 32 ≤ 32 % 256)⟩

/-- A write to a pin the board does not have reaches the hardware; 256 + 13 is written and 256 + 5 read as 13 and 5. -/
theorem foreign_pins_touched :
    (touched {} ((GpioMessage.digitalWrite 40 1).handler analogBoard .sample gpioContext {}) = [40] ∧
      ¬ PinBounds analogBoard (.digitalWrite 40 1) {}
        ((GpioMessage.digitalWrite 40 1).handler analogBoard .sample gpioContext {})) ∧
    (touched {} ((GpioMessage.digitalWrite 269 1).handler analogBoard .sample gpioContext {}) = [13] ∧
      ¬ PinBounds analogBoard (.digitalWrite 269 1) {}
        ((GpioMessage.digitalWrite 269 1).handler analogBoard .sample gpioContext {})) ∧
    (touched {} ((GpioMessage.analogRead 261).handler analogBoard .sample gpioContext {}) = [5] ∧
      ¬ PinBounds analogBoard (.analogRead 261) {}
        ((GpioMessage.analogRead 261).handler analogBoard .sample gpioContext {})) := by
  refine ⟨⟨by decide +kernel, fun h => ?_⟩, ⟨by decide +kernel, fun h => ?_⟩, by decide +kernel, fun h => ?_⟩
  · exact absurd (h.within 40 (by decide +kernel)).2 (by decide)
  · exact absurd (h.within 13 (by decide +kernel)).1 (by decide)
  · exact absurd (h.within 5 (by decide +kernel)).1 (by decide)

end Mcu
end McuBridge
