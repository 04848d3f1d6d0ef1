import McuBridge.Messages
import McuBridge.Daemon.Request
import McuBridge.Net.CommandDelivery

/-! # From a pin topic to the pin

A request below `d/` or `a/` is read by `_handle_pin`, sent by `SerialTransport.send` and carried out by one of the GPIO
handlers of the MCU. The message of both kinds of write is a `DigitalWrite`; the MCU reads the bytes of one sent with
ANALOG_WRITE as an `AnalogWrite`, which has the same fields. -/

namespace McuBridge
open Run
open Daemon (Service Host TopicRoute BridgeRequest Text)

inductive PinWrite where
  | mode (pin mode : UInt32)
  | digital (pin value : UInt32)
  | analog (pin value : UInt32)
  deriving DecidableEq

namespace PinWrite

def command : PinWrite → Command
  | .mode _ _ => .setPinMode
  | .digital _ _ => .digitalWrite
  | .analog _ _ => .analogWrite

/-- The message the daemon sends. -/
def message : PinWrite → PayloadType
  | .mode p m => .pinMode p m
  | .digital p v | .analog p v => .digitalWrite p v

/-- The call of the hardware: the handlers take the pin for a byte. -/
def act : PinWrite → Act
  | .mode p m => .pinMode p.toUInt8 (Mcu.pinModeValue m)
  | .digital p v => .digitalWrite p.toUInt8 (v != 0)
  | .analog p v => .analogWrite p.toUInt8 v

def pin : PinWrite → UInt32
  | .mode p _ | .digital p _ | .analog p _ => p

/-- The call of the hardware with the pin and the value of the write. -/
inductive Drives : PinWrite → Act → Prop
  | mode {p m : UInt32} {q v : UInt8} : q.toUInt32 = p → v.toUInt32 = m → Drives (.mode p m) (.pinMode q v)
  | digital {p v : UInt32} {q : UInt8} : q.toUInt32 = p → Drives (.digital p v) (.digitalWrite q (v != 0))
  | analog {p v : UInt32} {q : UInt8} : q.toUInt32 = p → Drives (.analog p v) (.analogWrite q v)

/-- The type the MCU reads the payload as. -/
def descriptor : PinWrite → PbMessage (UInt32 × UInt32)
  | .mode _ _ => .pinMode
  | .digital _ _ => .digitalWrite
  | .analog _ _ => .analogWrite

def fields : PinWrite → UInt32 × UInt32
  | .mode p v | .digital p v | .analog p v => (p, v)

def handler : PinWrite → UInt32 × UInt32 → Mcu → Mcu
  | .mode _ _ => Mcu.handleSetPinMode
  | .digital _ _ => Mcu.handleDigitalWrite
  | .analog _ _ => Mcu.handleAnalogWrite

end PinWrite

/-- What nanopb makes of the messages of pin writes: they fit a frame, and the MCU reads their fields back, if the mode
is one of the enumeration. -/
structure Platform.PinCodec (P : Platform) : Prop where
  fits : ∀ w : PinWrite, (P.pbEncode w.message).length ≤ maxPayloadSize
  reads : ∀ w : PinWrite, w.message.wellFormed = true →
    (P.pbDecode w.descriptor.tag (P.pbEncode w.message)).bind w.descriptor.select = some w.fields

/-! ### What a request asks for -/

/-- The write a request below a pin topic asks for: the pin is the first segment, `mode` the second one of a mode
request, and the payload the value. An empty payload writes zero. -/
inductive Asks (h : Host) (route : TopicRoute) (req : BridgeRequest) : PinWrite → Prop
  | mode {pinText pl : Text} {pin value : Int} {p v : UInt32} :
      route.segments = [pinText, "mode".toList] → Service.parsePin h.py pinText = some pin → Service.pbUint32 pin = some p →
      h.py.decode req.payload = some pl → h.py.int pl = some value → Service.pbEnum value = some v →
      Asks h route req (.mode p v)
  | write {pinText pl : Text} {rest : List Text} {pin value : Int} {p v : UInt32} :
      route.segments = pinText :: rest → rest.length ≠ 1 → Service.parsePin h.py pinText = some pin →
      Service.pbUint32 pin = some p → h.py.decode req.payload = some pl →
      (if h.py.isDigit pl then h.py.int pl else some 0) = some value → Service.pbUint32 value = some v →
      Asks h route req (if route.topic = .digital then .digital p v else .analog p v)

variable {h : Host} {route : TopicRoute} {req : BridgeRequest} {w : PinWrite} {s : Service}

theorem nonneg_of_pbUint32 {i : Int} {p : UInt32} (h : Service.pbUint32 i = some p) : ¬ i < 0 := by
  unfold Service.pbUint32 at h
  split at h
  case isTrue hi => omega
  case isFalse => cases h

theorem sendOrRaise_sends_iff {c c' : Command} {m : Option PayloadType} {m' : PayloadType} :
    (s.sendOrRaise c m).effects = s.effects ++ [.send c' (.message m')] ↔ c = c' ∧ m = some m' := by
  cases m with
  | none =>
    refine ⟨fun he => ?_, fun he => by simp at he⟩
    simpa [Service.sendOrRaise, Service.raises] using congrArg List.length he
  | some m =>
    show s.effects ++ [.send c (.message m)] = _ ↔ _
    simp

/-- The two writes are told apart by the topic. -/
theorem handlePinWrite_sends_iff (ht : route.topic = .digital ∨ route.topic = .analog) {pin : Int} {pl : Text} :
    (s.handlePinWrite h route pin pl).effects = s.effects ++ [.send w.command (.message w.message)] ↔
      ∃ value p v, (if h.py.isDigit pl then h.py.int pl else some 0) = some value ∧ Service.pbUint32 pin = some p ∧
        Service.pbUint32 value = some v ∧ w = if route.topic = .digital then .digital p v else .analog p v := by
  unfold Service.handlePinWrite
  dsimp only
  cases hvalue : (if h.py.isDigit pl then h.py.int pl else some 0 : Option Int) with
  | none =>
    refine ⟨fun he => ?_, fun he => by simp at he⟩
    simpa [Service.raises] using congrArg List.length he
  | some value =>
    dsimp only
    rw [sendOrRaise_sends_iff]
    unfold Service.pinWriteMessage
    constructor
    · rintro ⟨hcmd, hm⟩
      obtain ⟨p, hp, hm⟩ := Option.bind_eq_some_iff.1 hm
      obtain ⟨v, hv, hm⟩ := Option.map_eq_some_iff.1 hm
      refine ⟨value, p, v, rfl, hp, hv, ?_⟩
      obtain htopic | htopic := ht
      all_goals
        rw [htopic] at hcmd ⊢
        cases w with
        | mode => cases hm
        | digital => cases hm; first | rfl | cases hcmd
        | analog => cases hm; first | rfl | cases hcmd
    · rintro ⟨value', p, v, hval, hp, hv, rfl⟩
      cases hval
      rw [hp, Option.bind_some, hv, Option.map_some]
      obtain htopic | htopic := ht <;> rw [htopic] <;> exact ⟨rfl, rfl⟩

/-- A read sends no write. -/
theorem handlePinRead_sends {pin : Int} :
    (s.handlePinRead route pin).effects ≠ s.effects ++ [.send w.command (.message w.message)] := by
  have hread : ∀ t : Service, t.effects = s.effects → ∀ c : Command,
      (t.sendOrRaise c ((Service.pbUint32 pin).map .pinRead)).effects ≠
        s.effects ++ [.send w.command (.message w.message)] := by
    intro t ht c
    rw [← ht]
    intro he
    obtain ⟨-, hm⟩ := sendOrRaise_sends_iff.1 he
    obtain ⟨p, -, hm⟩ := Option.map_eq_some_iff.1 hm
    cases w <;> cases hm
  have hfull : ∀ t : Daemon.Topic, ∀ segments body, (s.publish t segments body).effects ≠
      s.effects ++ [.send w.command (.message w.message)] := by
    intro t segments body he
    cases List.append_cancel_left he
  unfold Service.handlePinRead
  by_cases htopic : route.topic = .digital
  all_goals
    simp only [htopic, if_true, if_false]
    split
    · refine hread _ ?_ _
      rfl
    · exact hfull _ _ _

/-- The checks before a pin request is acted on. -/
theorem handlePin_eq (hs : s.serial = true) {pinText pl : Text} {rest : List Text} (hseg : route.segments = pinText :: rest)
    {pin : Int} (hpin : Service.parsePin h.py pinText = some pin) (hpos : ¬ pin < 0) (hpl : h.py.decode req.payload = some pl) :
    s.handlePin h route req = s.handlePinAction h route pin pl := by
  unfold Service.handlePin
  rw [if_neg (by rw [hs]; decide), hseg]
  dsimp only
  rw [hpin]
  dsimp only
  rw [if_neg hpos, hpl]

/-- The request makes the daemon send the write it asks for, and no other. -/
theorem handlePin_sends_iff (hs : s.serial = true) (ht : route.topic = .digital ∨ route.topic = .analog) :
    (s.handlePin h route req).effects = s.effects ++ [.send w.command (.message w.message)] ↔ Asks h route req w := by
  have hself : ∀ e : Daemon.Effect, s.effects ≠ s.effects ++ [e] := fun e he => by simpa using congrArg List.length he
  constructor
  · unfold Service.handlePin
    rw [hs, Bool.not_true, if_neg (by decide)]
    split
    case h_1 => exact fun he => absurd he (hself _)
    case h_2 pinText rest hseg =>
      split
      case h_1 => exact fun he => absurd he (hself _)
      case h_2 pin hpin =>
        split
        case isTrue => exact fun he => absurd he (hself _)
        case isFalse hpos =>
          split
          case h_1 => exact fun he => absurd he (hself _)
          case h_2 pl hpl =>
            have hwrite : rest.length ≠ 1 → (s.handlePinWrite h route pin pl).effects =
                s.effects ++ [.send w.command (.message w.message)] → Asks h route req w := by
              intro hlen he
              obtain ⟨value, p, v, hvalue, hp, hv, rfl⟩ := (handlePinWrite_sends_iff ht).1 he
              exact .write hseg hlen hpin hp hpl hvalue hv
            unfold Service.handlePinAction
            rw [hseg]
            match rest, hseg, hwrite with
            | [], _, hwrite => exact hwrite (by simp)
            | a :: b :: _, _, hwrite => exact hwrite (by simp)
            | [act], hseg, _ =>
              dsimp only
              split
              case isTrue hact =>
                subst hact
                split
                case h_1 => exact fun he => absurd he (hself _)
                case h_2 mode hmode =>
                  rw [sendOrRaise_sends_iff]
                  rintro ⟨hcmd, hm⟩
                  obtain ⟨p, hp, hm⟩ := Option.bind_eq_some_iff.1 hm
                  obtain ⟨v, hv, hm⟩ := Option.map_eq_some_iff.1 hm
                  cases w with
                  | mode =>
                    cases hm
                    exact .mode hseg hpin hp hpl hmode hv
                  | _ => cases hcmd
              case isFalse =>
                split
                case isTrue => exact fun he => absurd he handlePinRead_sends
                case isFalse => exact fun he => absurd he (hself _)
  · rintro (⟨hseg, hpin, hp, hpl, hvalue, hv⟩ | ⟨hseg, hlen, hpin, hp, hpl, hvalue, hv⟩)
    · rw [handlePin_eq hs hseg hpin (nonneg_of_pbUint32 hp) hpl]
      unfold Service.handlePinAction
      rw [hseg]
      dsimp only
      rw [if_pos rfl, hvalue]
      dsimp only
      rw [sendOrRaise_sends_iff]
      unfold Service.pinModeMessage
      rw [hp, Option.bind_some, hv]
      exact ⟨rfl, rfl⟩
    · rw [handlePin_eq hs hseg hpin (nonneg_of_pbUint32 hp) hpl]
      unfold Service.handlePinAction
      rw [hseg]
      split
      case h_1 heq =>
        obtain ⟨-, rfl⟩ := List.cons.inj heq
        exact absurd rfl hlen
      case h_2 =>
        rw [handlePinWrite_sends_iff ht]
        exact ⟨_, _, _, hvalue, hp, hv, rfl⟩

/-! ### What the board does -/

theorem PinWrite.handles {P : Platform} (hP : P.PinCodec) {w : PinWrite} (hw : w.message.wellFormed = true) :
    Net.Handles P w.command.toUnderlying w.message w.descriptor w.handler w.fields where
  table := by
    cases w <;> simp only [PinWrite.command, PinWrite.descriptor, PinWrite.handler, Mcu.kDispatchTable, List.mem_cons,
      true_or, or_true]
  typed := by cases w <;> exact fun _ => rfl
  reads := hP.reads w hw
  quiet u := by cases w <;> rfl

theorem PinWrite.acknowledged {P : Platform} (hP : P.PinCodec) (w : PinWrite) :
    Net.Acknowledged P w.command.toUnderlying w.message where
  application := by cases w <;> rfl
  reliable := by cases w <;> rfl
  response := by cases w <;> rfl
  fits := hP.fits w

/-- The modes of the enumeration are those of `kPinModeMap`. -/
theorem pinModeValue_toUInt32 {m : UInt32} (hm : m ≤ 2) : (Mcu.pinModeValue m).toUInt32 = m := by
  have hcases : m = 0 ∨ m = 1 ∨ m = 2 := by
    rw [UInt32.le_iff_toNat_le] at hm
    simp only [← UInt32.toNat_inj]
    have htwo : (2 : UInt32).toNat = 2 := rfl
    have hone : (1 : UInt32).toNat = 1 := rfl
    have hzero : (0 : UInt32).toNat = 0 := rfl
    omega
  rcases hcases with rfl | rfl | rfl <;> rfl

theorem PinWrite.drives_act {w : PinWrite} (hpin : w.pin < 256) (hw : w.message.wellFormed = true) :
    w.Drives w.act := by
  have hbyte : w.pin.toUInt8.toUInt32 = w.pin := by
    apply UInt32.toNat_inj.1
    rw [UInt8.toNat_toUInt32, UInt32.toNat_toUInt8]
    exact Nat.mod_eq_of_lt (UInt32.lt_iff_toNat_lt.1 hpin)
  cases w with
  | mode p m => exact .mode hbyte (pinModeValue_toUInt32 (of_decide_eq_true hw))
  | digital p v => exact .digital hbyte
  | analog p v => exact .analog hbyte

/-- A write to a pin below 256, with a mode of the enumeration if it sets one, that a request asks for is sent, and carried
out once on that pin, as long as the frame of one of the allowed attempts and its ACK arrive and the frames before it did
not reach the MCU. -/
theorem pin_writes_carried_out (P : Platform) (hP : P.SealsFrames) (hH : P.Handshakes) (hC : P.PinCodec)
    (random : Nat → UInt32) (h : Host) (route : TopicRoute) (req : BridgeRequest) (service : Service) (w : PinWrite)
    (hserial : service.serial = true) (ht : route.topic = .digital ∨ route.topic = .analog) (hw : Asks h route req w)
    (hpin : w.pin < 256) (hmode : w.message.wellFormed = true) (key : Bytes) (s : Net) (hs : s.InTouch key) (lost : Nat) (hmax : lost < s.daemon.maxAttempts)
    (hcount : s.daemon.linkNonceCounter + (lost + 1) ≤ Daemon.nonceCounterMask)
    (hfresh : ∀ q ∈ s.mcu.rxHistory, q ≠ s.daemon.txSequenceId + UInt16.ofNat (lost + 1)) (hal : Hal) (io : Daemon.Io) :
    (service.handlePin h route req).effects = service.effects ++ [.send w.command (.message w.message)] ∧
      (∃ a, w.Drives a ∧ (run (Net.step P random) s (Net.retried w.command.toUnderlying w.message lost hal io s)).mcu.acts =
        s.mcu.acts ++ [a]) ∧
      (run (Net.step P random) s (Net.retried w.command.toUnderlying w.message lost hal io s)).daemon.results =
        s.daemon.results ++
          [(s.daemon.calls, .returned (some (.message (.ackPacket ⟨w.command.toUnderlying.toUInt32⟩))))] := by
  have hdone := Net.carriedOut random hP hH hs (w.acknowledged hC) (PinWrite.handles hC hmode) lost hmax hcount hfresh hal io
  obtain ⟨u, hmcu, hstarted⟩ := hdone.mcu
  refine ⟨(handlePin_sends_iff hserial ht).2 hw, ⟨w.act, PinWrite.drives_act hpin hmode, ?_⟩, hdone.results⟩
  rw [hmcu, ← hstarted.acts]
  cases w <;> rfl

/-! ### A request to evaluate -/

/-- A platform with the messages of the schema. -/
def Platform.pinned : Platform :=
  { Platform.keyed with
    pbEncode := encodeMessage
    pbDecode := decodeMessage }

theorem Platform.pinned_seals : Platform.pinned.SealsFrames where
  opens := ⟨Platform.keyed_opens.seals, Platform.keyed_opens.opens⟩
  serializes _ _ _ _ _ _ := rfl

theorem Platform.pinned_handshakes : Platform.pinned.Handshakes where
  tag_length := Platform.sample_handshakes.tag_length
  ack _ _ := rfl
  empty _ _ := rfl
  resp _ _ _ _ _ := rfl

theorem encode_uintFields_length (p v : UInt32) :
    (Proto.encode (Proto.uintField 1 p.toNat ++ Proto.uintField 2 v.toNat)).length ≤ 12 := by
  have hp : (Proto.encode (Proto.uintField 1 p.toNat)).length ≤ 4 + 2 :=
    Proto.encode_uintField_length (by decide) (Nat.lt_of_lt_of_le p.toNat_lt (by decide))
  have hv : (Proto.encode (Proto.uintField 2 v.toNat)).length ≤ 4 + 2 :=
    Proto.encode_uintField_length (by decide) (Nat.lt_of_lt_of_le v.toNat_lt (by decide))
  rw [Proto.encode_append, List.length_append]
  omega

theorem Platform.pinned_codec : Platform.pinned.PinCodec where
  fits w := by
    cases w <;> exact Nat.le_trans (encode_uintFields_length _ _) (by decide)
  reads w hw := by
    cases w with
    | mode p v =>
      have hread := decodeMessage_encodeMessage (m := .pinMode p v) (by simp [PayloadType.fieldNumber])
        (PayloadType.wellFormed_flags hw)
      exact congrArg (Option.bind · PbMessage.pinMode.select) hread
    | digital p v =>
      have hread := decodeMessage_encodeMessage (m := .digitalWrite p v) (by simp [PayloadType.fieldNumber])
        (PayloadType.wellFormed_flags hw)
      exact congrArg (Option.bind · PbMessage.digitalWrite.select) hread
    | analog p v =>
      -- the same bytes as those of a `DigitalWrite`
      have hread := decodeMessage_encodeMessage (m := .analogWrite p v) (by simp [PayloadType.fieldNumber])
        (PayloadType.wellFormed_flags rfl)
      exact congrArg (Option.bind · PbMessage.analogWrite.select) hread

/-- `br/d/13` with the payload `1`. -/
def samplePinRoute : TopicRoute := ⟨"br/d/13".toList, "br".toList, .digital, ["13".toList]⟩

def samplePinRequest : BridgeRequest := ⟨"br/d/13".toList, [49]⟩

def samplePinSession : Net :=
  run (Net.step .pinned fun _ => 0) Net.sampleInit ([.daemon .connect] ++ Net.sampleHandshake Net.handshakeNonce)

theorem samplePinSession_fresh :
    samplePinSession.daemon.txSequenceId + UInt16.ofNat 2 ∉ samplePinSession.mcu.rxHistory := by
  decide +kernel

theorem samplePinRequest_asks : Asks Host.sample samplePinRoute samplePinRequest (.digital 13 1) :=
  .write rfl (by decide) (show Service.parsePin Host.sample.py "13".toList = some 13 by decide +kernel) (by decide +kernel)
    (show Host.sample.py.decode [49] = some ['1'] by decide +kernel)
    (show (if Host.sample.py.isDigit ['1'] then Host.sample.py.int ['1'] else some 0) = some 1 by decide +kernel)
    (by decide +kernel)

/-- The first frame is lost. -/
theorem pin_writes_carried_out_sample :
    ∃ a, (PinWrite.digital 13 1).Drives a ∧
      (run (Net.step .pinned fun _ => 0) samplePinSession (Net.retried Command.digitalWrite.toUnderlying
        (.digitalWrite 13 1) 1 .sample .sample samplePinSession)).mcu.acts = samplePinSession.mcu.acts ++ [a] :=
  (pin_writes_carried_out .pinned Platform.pinned_seals Platform.pinned_handshakes Platform.pinned_codec (fun _ => 0)
    Host.sample samplePinRoute samplePinRequest (.sample []) (.digital 13 1) rfl (.inl rfl) samplePinRequest_asks
    (by decide) rfl samplePinSession.mcu.sessionKey samplePinSession
    ⟨⟨by decide +kernel, by decide +kernel, by decide +kernel⟩, by decide +kernel, by decide +kernel,
      ⟨by decide +kernel, by decide +kernel, by decide +kernel⟩, rfl, by decide +kernel⟩
    1 (by decide +kernel) (by decide +kernel) (fun _ hq heq => samplePinSession_fresh (heq ▸ hq)) .sample .sample).2.1

end McuBridge
