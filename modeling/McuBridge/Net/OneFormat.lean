import McuBridge.Messages
import McuBridge.Daemon.FrameCodec
import McuBridge.Mcu.DecryptPath

/-! # Both programs speak one format

The daemon's `build_frame` against the firmware's `parse_frame` and `aead_decrypt_frame`, and `_transmit`,
`aead_encrypt_frame` and `serialize_frame` against the daemon's `parse_frame`, on bytes. Raw and sealed payloads of at
most 64 bytes stay within the limits of nanopb; a typed message in a plain frame need not: the firmware reads it
exactly when its fields are within `mcubridge.options`. -/

namespace McuBridge
open Daemon (PyCodec IsMessage Accepts encrypts)

/-- What the firmware's frames are made with beside `FrameCodec`: `pb_encode` and the generated constant
`rpc_pb_RpcEnvelope_size`. -/
structure FirmwareCodec extends FrameCodec where
  encodeEnvelope : RpcEnvelope → Bytes
  envelopeSize : Nat

namespace FirmwareCodec
variable (N : FirmwareCodec)

/-- `serialize_frame`; `none` where it returns 0. -/
def serializeFrame (e : RpcEnvelope) : Option Bytes :=
  let body := N.encodeEnvelope e
  if N.envelopeSize < body.length then none else some (body ++ le32 (N.crc32 body))

/-- The associated data of `aead_encrypt_frame` and `aead_decrypt_frame`, in an array of 32 bytes. -/
def aad (cmd seq : UInt16) : Option Bytes :=
  let ad := N.encodeEnvelope ⟨protocolVersion, cmd.toUInt32, seq.toUInt32, [], .notSet⟩
  if 32 < ad.length then none else some ad

end FirmwareCodec

/-- `is_system_command` of the daemon, on the integer it gets. -/
def Daemon.isSystemCommandId (commandId : Nat) : Bool :=
  let rawCmd := commandId &&& 0xFFFF
  (48 ≤ rawCmd && rawCmd ≤ 63) || (64 ≤ rawCmd && rawCmd ≤ 79)

/-- What `build_frame` accepts: bytes within the limit, or a message object, which fits when it is encrypted. -/
def Daemon.Sends (P : Platform) (cmd : UInt16) (key : Option Bytes) : Payload → Prop
  | .bytes b => b.length ≤ maxPayloadSize
  | .message m => IsMessage m ∧ m.wellFormed = true ∧ (encrypts cmd key = true → (P.pbEncode m).length ≤ maxPayloadSize)

/-- The associated data of `build_frame` and `parse_frame`. -/
def Daemon.PyCodec.aad (C : PyCodec) (e : RpcEnvelope) : Bytes := C.encode e.header

/-- The call of `aead_decrypt_frame` in `_handleReceivedFrame`. -/
def aeadDecryptFrame (P : Platform) (key : Bytes) (env : RpcEnvelope) : Option Bytes :=
  let view := P.encryptedView env.payloadType
  if view.length < aeadTagSize then none
  else
    let ctSize := view.length - aeadTagSize
    P.aeadDecrypt key (padTo 12 env.nonce) (P.aad env.rawCommand.toUInt32 env.sequenceId.toUInt16.toUInt32)
      (view.take ctSize) (view.drop ctSize)

/-- The assumptions on the libraries: one CRC, canonical proto3 from both encoders, decoders that read it back (nanopb
whatever is within the options, and nothing else), and the meaning of the two parameters of the platform that stand
for encodings. nanopb's bound on an envelope counts at least 18 bytes for the three integers, 14 for the nonce and 82
for the encrypted member. -/
structure SharedFormat (P : Platform) (C : PyCodec) (N : FirmwareCodec) : Prop where
  crc : N.crc32 = C.crc32
  nanopb : N.encodeEnvelope = encodeEnvelope P.pbEncode
  python : C.encode = encodeEnvelope P.pbEncode
  nanopbReads : ∀ e, e.withinOptions = true → (IsMessage e.payloadType → e.payloadType.wellFormed = true) →
    N.decodeEnvelope (encodeEnvelope P.pbEncode e) = some e
  nanopbLimits : ∀ {b e}, N.decodeEnvelope b = some e → e.withinOptions = true
  pythonReads : C.RoundTrips
  pythonHolds : ∀ m, IsMessage m → m.wellFormed = true → C.holds m
  aad : ∀ cmd seq, P.aad cmd seq = encodeHeader ⟨protocolVersion, cmd, seq, [], .notSet⟩
  serializes : ∀ e, P.serializes e = (N.serializeFrame e).isSome
  size : 114 ≤ N.envelopeSize

/-- The firmware reads what the daemon builds: the same ids, and the payload by decryption or as the active
member. -/
def ReadsDaemonFrame (P : Platform) (C : PyCodec) (N : FirmwareCodec) (cmd seq : UInt16) (payload : Payload)
    (nonce : Bytes) (key : Option Bytes) : Prop :=
  ∃ raw env, Daemon.buildFrameBytes P C cmd seq.toUInt32 payload nonce key = some raw ∧
    parseFrame N.toFrameCodec raw = .ok env ∧ env.rawCommand = cmd ∧ env.sequenceId.toUInt16 = seq ∧
    env.nonce = nonce ∧
    if encrypts cmd key then ∀ k ∈ key, aeadDecryptFrame P k env = some (payload.serialize P)
    else Daemon.parseFrame.plain env.payloadType = payload

/-- The daemon reads what the firmware transmits, with the key of the session where the frame is sealed. -/
def ReadsMcuFrame (P : Platform) (C : PyCodec) (N : FirmwareCodec) (s : Mcu) (cmd seq : UInt16) (payload : Bytes)
    (ticket : Option Nat) : Prop :=
  ∃ f raw, (s.transmit P cmd seq payload ticket).wire = s.wire ++ [f] ∧ N.serializeFrame f.env = some raw ∧
    ∀ key, encrypts cmd key = s.doEncrypt cmd → (s.doEncrypt cmd = true → key = some s.sessionKey) →
      ∃ env, Daemon.parseFrameBytes P C raw key = some ⟨env, .bytes payload⟩ ∧ env.commandId = cmd.toUInt32 ∧
        env.sequenceId = seq.toUInt32

structure OneFormat (P : Platform) (C : PyCodec) (N : FirmwareCodec) : Prop where
  toMcu : ∀ (cmd seq : UInt16) (payload : Payload) (nonce : Bytes) (key : Option Bytes),
    nonce.length = aeadNonceSize → (∀ k ∈ key, k.length = 32) → Daemon.Sends P cmd key payload →
    (ReadsDaemonFrame P C N cmd seq payload nonce key ↔
      (encrypts cmd key = false → ∀ m, payload = .message m → m.withinOptions = true))
  toDaemon : ∀ (s : Mcu) (cmd seq : UInt16) (payload : Bytes) (ticket : Option Nat),
    s.sessionKey.length = 32 → payload.length ≤ maxPayloadSize → ReadsMcuFrame P C N s cmd seq payload ticket
  aad : ∀ (cmd seq : UInt16) (nonce : Bytes) (p : PayloadType),
    N.aad cmd seq = some (C.aad ⟨protocolVersion, cmd.toUInt32, seq.toUInt32, nonce, p⟩) ∧
      N.aad cmd seq = some (P.aad cmd.toUInt32 seq.toUInt32)
  classification : ∀ id : UInt32, Daemon.isSystemCommandId id.toNat = isSystemCommand id.toUInt16

variable {P : Platform} {C : PyCodec} {N : FirmwareCodec}

/-! ### Parsing on the firmware -/

theorem readLe32_eq {b : Bytes} (h : b.length ≤ 4) : readLe32 b = unpackLe32 b := by
  have hstep : (fun (x : UInt8) (n : UInt32) => n <<< 8 ||| x.toUInt32) = fun x n => n * 256 + x.toUInt32 := by
    funext x n
    exact shiftLeft_or_eq n x
  unfold readLe32
  rw [hstep, List.take_of_length_le h]
  rfl

theorem readLe32_le32 (c : UInt32) : readLe32 (le32 c) = c := (readLe32_eq (le_refl 4)).trans (unpackLe32_le32 c)

/-- Behind its own CRC nothing but the body decides. -/
theorem parseFrame_body (N : FrameCodec) {body : Bytes} (hlen : 2 ≤ body.length) :
    parseFrame N (body ++ le32 (N.crc32 body)) =
      match N.decodeEnvelope body with
      | none => .error .malformed
      | some env => if env.version ≠ protocolVersion then .error .malformed else .ok env := by
  have hlength : (body ++ le32 (N.crc32 body)).length = body.length + crcTrailerSize := List.length_append
  unfold parseFrame
  dsimp only
  rw [if_neg (by omega), hlength, Nat.add_sub_cancel, List.take_left, List.drop_left, readLe32_le32]
  refine (if_neg (fun h => h rfl)).trans ?_
  cases N.decodeEnvelope body <;> rfl

theorem parseFrame_append {N : FrameCodec} {body : Bytes} {env : RpcEnvelope} (hlen : 2 ≤ body.length)
    (hdec : N.decodeEnvelope body = some env) (hver : env.version = protocolVersion) :
    parseFrame N (body ++ le32 (N.crc32 body)) = .ok env := by
  rw [parseFrame_body N hlen, hdec]
  exact if_neg (fun h => h hver)

/-- The version alone takes two bytes. -/
theorem encodeEnvelope_length (pb : PayloadType → Bytes) (cmd seq : UInt32) (nonce : Bytes) (p : PayloadType) :
    2 ≤ (encodeEnvelope pb ⟨protocolVersion, cmd, seq, nonce, p⟩).length := by
  have hver : (Proto.encode (Proto.uintField 1 protocolVersion.toNat)).length = 2 := by decide +kernel
  simp only [encodeEnvelope, envelopeFields, Proto.encode_append, List.length_append]
  omega

theorem aeadDecryptFrame_eq {env : RpcEnvelope} {key c t : Bytes} {cmd seq : UInt16}
    (hcmd : env.commandId = cmd.toUInt32) (hseq : env.sequenceId = seq.toUInt32)
    (hnonce : env.nonce.length = aeadNonceSize) (hpay : env.payloadType = .encryptedPayloadWithTag (c ++ t))
    (htag : t.length = aeadTagSize) :
    aeadDecryptFrame P key env = P.aeadDecrypt key env.nonce (P.aad cmd.toUInt32 seq.toUInt32) c t := by
  have hpad : padTo 12 env.nonce = env.nonce := List.take_left' hnonce
  have hlen : (c ++ t).length - aeadTagSize = c.length := by
    rw [List.length_append, htag]
    omega
  have hview : P.encryptedView env.payloadType = c ++ t := by
    rw [hpay]
    rfl
  have hraw : env.rawCommand = cmd := by simp [RpcEnvelope.rawCommand, hcmd]
  have hseq16 : env.sequenceId.toUInt16 = seq := by simp [hseq]
  unfold aeadDecryptFrame
  rw [hview, hraw, hseq16, hpad]
  dsimp only
  rw [hlen, List.take_left, List.drop_left, if_neg]
  rw [List.length_append, htag]
  omega

/-- `aead_decrypt_frame` is what `_handleReceivedFrame` does before it looks at the counter. -/
theorem Mcu.decryptFrame_eq (s : Mcu) (env : RpcEnvelope) :
    s.decryptFrame P env = (aeadDecryptFrame P s.sessionKey env).bind fun plain =>
      (validateFrameNonce (padTo 12 env.nonce) s.rxNonceCounter).map fun counter => (counter, plain) := by
  unfold Mcu.decryptFrame aeadDecryptFrame
  dsimp only
  split <;> rfl

/-- In a plain frame the bytes of a raw payload are within the limits, and a message where it is. -/
theorem Daemon.Sends.withinOptions {cmd : UInt16} {key : Option Bytes} {payload : Payload} {p : PayloadType}
    (hpay : Daemon.Sends P cmd key payload) (hlimits : ∀ m, payload = .message m → m.withinOptions = true)
    (hback : Daemon.parseFrame.plain p = payload) :
    p.withinOptions = true ∧ (IsMessage p → p.wellFormed = true) := by
  cases payload with
  | bytes b =>
    cases p with
    | notSet => exact ⟨rfl, fun _ => rfl⟩
    | encryptedPayloadWithTag b' =>
      -- `build_frame` has measured the bytes
      cases hback
      exact ⟨decide_eq_true (Nat.le_trans hpay (by decide)), fun _ => rfl⟩
    | _ => cases hback
  | message m =>
    cases p with
    | notSet | encryptedPayloadWithTag _ => cases hback
    | _ =>
      cases hback
      exact ⟨hlimits _ rfl, fun _ => hpay.2.1⟩

namespace SharedFormat
variable (h : SharedFormat P C N)
include h

/-! ### From the daemon to the firmware -/

theorem accepts {cmd : UInt16} {key : Option Bytes} {payload : Payload} (hpay : Daemon.Sends P cmd key payload) :
    Accepts P C cmd key payload := by
  cases payload with
  | bytes b => exact hpay
  | message m => exact ⟨hpay.1, h.pythonHolds m hpay.1 hpay.2.1, hpay.2.2⟩

theorem parseFrame_encode {cmd seq : UInt32} {nonce : Bytes} {p : PayloadType} (hnonce : nonce.length = aeadNonceSize)
    (hfits : p.withinOptions = true) (hvalid : IsMessage p → p.wellFormed = true) :
    parseFrame N.toFrameCodec (C.encode ⟨protocolVersion, cmd, seq, nonce, p⟩ ++
      le32 (C.crc32 (C.encode ⟨protocolVersion, cmd, seq, nonce, p⟩))) = .ok ⟨protocolVersion, cmd, seq, nonce, p⟩ := by
  have henv : (⟨protocolVersion, cmd, seq, nonce, p⟩ : RpcEnvelope).withinOptions = true := by
    simp [RpcEnvelope.withinOptions, fitsBytes, hnonce, hfits]
  rw [← h.crc, h.python]
  exact parseFrame_append (encodeEnvelope_length ..) (h.nanopbReads _ henv hvalid) rfl

theorem readsDaemonFrame (hP : P.toCrypto.Opens) (cmd seq : UInt16) {payload : Payload} {nonce : Bytes}
    {key : Option Bytes} (hnonce : nonce.length = aeadNonceSize) (hkey : ∀ k ∈ key, k.length = 32)
    (hpay : Daemon.Sends P cmd key payload)
    (hlimits : encrypts cmd key = false → ∀ m, payload = .message m → m.withinOptions = true) :
    ReadsDaemonFrame P C N cmd seq payload nonce key := by
  have hraw : ∀ p : PayloadType,
      (⟨protocolVersion, cmd.toUInt32, seq.toUInt32, nonce, p⟩ : RpcEnvelope).rawCommand = cmd :=
    fun _ => by simp [RpcEnvelope.rawCommand]
  have hseq : seq.toUInt32.toUInt16 = seq := by simp
  cases henc : encrypts cmd key with
  | true =>
    obtain ⟨k, rfl⟩ : ∃ k, key = some k := by
      cases key with
      | none => cases henc
      | some k => exact ⟨k, rfl⟩
    have hlen := (h.accepts hpay).serialize_length henc
    obtain ⟨c, t, hbuild, hct, hc, ht⟩ := Daemon.buildFrame_encrypted hP seq.toUInt32 henc (hkey k rfl) hnonce hlen
    have hfits : (PayloadType.encryptedPayloadWithTag (c ++ t)).withinOptions = true := by
      unfold maxPayloadSize at hlen
      unfold aeadTagSize at ht
      simp [PayloadType.withinOptions, fitsBytes, hc, ht]
      omega
    refine ⟨_, _, by rw [Daemon.buildFrameBytes, hbuild]; rfl, h.parseFrame_encode hnonce hfits fun _ => rfl, hraw _, hseq,
      rfl, ?_⟩
    rw [henc, if_pos rfl]
    rintro k' ⟨⟩
    rw [aeadDecryptFrame_eq rfl rfl hnonce rfl ht]
    exact hP.opens hct
  | false =>
    have hne : nonce ≠ [] := by
      rintro rfl
      cases hnonce
    obtain ⟨p, hbuild, hback, -⟩ := Daemon.buildFrame_plain seq.toUInt32 henc hne (h.accepts hpay)
    have hfits := Daemon.Sends.withinOptions hpay (hlimits henc) hback
    refine ⟨_, _, by rw [Daemon.buildFrameBytes, hbuild]; rfl, h.parseFrame_encode hnonce hfits.1 hfits.2, hraw _, hseq,
      rfl, ?_⟩
    rw [henc, if_neg (by simp)]
    exact hback

/-- nanopb reads no message that exceeds its limits. -/
theorem withinOptions_of_reads {cmd seq : UInt16} {m : PayloadType} {nonce : Bytes} {key : Option Bytes}
    (hm : IsMessage m) (hplain : encrypts cmd key = false)
    (hread : ReadsDaemonFrame P C N cmd seq (.message m) nonce key) : m.withinOptions = true := by
  obtain ⟨raw, env, -, hparse, -, -, -, hback⟩ := hread
  rw [hplain, if_neg (by simp)] at hback
  obtain rfl : env.payloadType = m := by
    cases hp : env.payloadType <;> rw [hp] at hback <;> cases hback <;> rfl
  exact (Bool.and_eq_true_iff.1 (h.nanopbLimits (parseFrame_ok hparse).2.2.1)).2

/-! ### From the firmware to the daemon -/

theorem serializeFrame_raw (cmd seq : UInt16) {nonce b : Bytes} (hnonce : nonce.length = aeadNonceSize)
    (hb : b.length ≤ encryptedMaxSize) :
    N.serializeFrame (Mcu.rawEnvelope cmd seq nonce b) =
      some (C.encode (Mcu.rawEnvelope cmd seq nonce b) ++ le32 (C.crc32 (C.encode (Mcu.rawEnvelope cmd seq nonce b)))) := by
  have hlen := encodeEnvelope_raw_length P.pbEncode cmd seq hnonce.le hb
  have hsize := h.size
  unfold FirmwareCodec.serializeFrame Mcu.rawEnvelope
  unfold encryptedMaxSize at hb
  rw [h.nanopb, h.python, h.crc]
  dsimp only
  rw [if_neg (by omega)]

theorem wire_serializeAndSend {f : Sent} {raw : Bytes} (hraw : N.serializeFrame f.env = some raw) (t : Mcu) :
    (t.serializeAndSend P f).wire = t.wire ++ [f] := by
  unfold Mcu.serializeAndSend
  dsimp only
  rw [h.serializes, hraw, Option.isSome_some, if_pos rfl]

/-- The envelope of `_transmit` reaches the second half of the daemon's `parse_frame` as it is. -/
theorem parseFrameBytes_raw (cmd seq : UInt16) (nonce b : Bytes) (key : Option Bytes) :
    Daemon.parseFrameBytes P C (C.encode (Mcu.rawEnvelope cmd seq nonce b) ++
        le32 (C.crc32 (C.encode (Mcu.rawEnvelope cmd seq nonce b)))) key =
      (Daemon.parseFrame P (Mcu.rawEnvelope cmd seq nonce b) key).map fun p => ⟨Mcu.rawEnvelope cmd seq nonce b, p⟩ := by
  rw [Daemon.parseFrameBytes, Daemon.decodeFrame_append, h.pythonReads]
  · rfl
  · intro hm
    exact absurd hm (by simp [IsMessage, Mcu.rawEnvelope, PayloadType.fieldNumber])

theorem readsMcuFrame (hP : P.toCrypto.Opens) (s : Mcu) (cmd seq : UInt16) {payload : Bytes} (ticket : Option Nat)
    (hkey : s.sessionKey.length = 32) (hlen : payload.length ≤ maxPayloadSize) :
    ReadsMcuFrame P C N s cmd seq payload ticket := by
  have hraw : ∀ nonce b, (Mcu.rawEnvelope cmd seq nonce b).rawCommand = cmd :=
    fun _ _ => by simp [RpcEnvelope.rawCommand, Mcu.rawEnvelope]
  cases hd : s.doEncrypt cmd with
  | true =>
    have hnonce : (mcuNonce (s.txNonceCounter + 1)).length = aeadNonceSize := rfl
    obtain ⟨c, t, hct, hc, ht⟩ := hP.seals (P.aad cmd.toUInt32 seq.toUInt32) payload hkey hnonce
    have htake : c.take maxPayloadSize = c := List.take_of_length_le (by omega)
    have hfits : (c ++ t).length ≤ encryptedMaxSize := by
      rw [List.length_append, hc, ht]
      unfold maxPayloadSize at hlen
      unfold aeadTagSize encryptedMaxSize
      omega
    have hser := h.serializeFrame_raw cmd seq hnonce hfits
    refine ⟨⟨Mcu.rawEnvelope cmd seq _ (c ++ t), ticket, some s.seals.length⟩, _, ?_, hser, ?_⟩
    · unfold Mcu.transmit Mcu.aeadEncryptFrame
      dsimp only
      rw [if_pos hd, hct, Option.map_some]
      dsimp only
      rw [htake, h.wire_serializeAndSend hser]
    · intro key hsame hsession
      obtain rfl := hsession hd
      have hparse : Daemon.parseFrame P (Mcu.rawEnvelope cmd seq (mcuNonce (s.txNonceCounter + 1)) (c ++ t))
          (some s.sessionKey) = (P.aeadDecrypt s.sessionKey (mcuNonce (s.txNonceCounter + 1))
            (P.aad cmd.toUInt32 seq.toUInt32) c t).map .bytes :=
        Daemon.parseFrame_encrypted rfl (by rw [hraw, hsame, hd]) hnonce rfl ht
      refine ⟨Mcu.rawEnvelope cmd seq (mcuNonce (s.txNonceCounter + 1)) (c ++ t), ?_, rfl, rfl⟩
      rw [h.parseFrameBytes_raw, hparse, hP.opens hct]
      rfl
  | false =>
    have htake : payload.take maxPayloadSize = payload := List.take_of_length_le hlen
    have hnonce : (List.replicate aeadNonceSize (0 : UInt8)).length = aeadNonceSize := rfl
    have hser := h.serializeFrame_raw cmd seq hnonce (Nat.le_trans hlen (by decide))
    refine ⟨⟨Mcu.rawEnvelope cmd seq _ payload, ticket, none⟩, _, ?_, hser, ?_⟩
    · unfold Mcu.transmit
      rw [hd, if_neg (by simp), htake, h.wire_serializeAndSend hser]
    · intro key hsame _
      refine ⟨Mcu.rawEnvelope cmd seq (List.replicate aeadNonceSize 0) payload, ?_, rfl, rfl⟩
      rw [h.parseFrameBytes_raw, Daemon.parseFrame_plain rfl (by rw [hraw, hsame, hd])]
      rfl

/-! ### The header -/

theorem aad_eq (cmd seq : UInt16) (nonce : Bytes) (p : PayloadType) :
    N.aad cmd seq = some (C.aad ⟨protocolVersion, cmd.toUInt32, seq.toUInt32, nonce, p⟩) ∧
      N.aad cmd seq = some (P.aad cmd.toUInt32 seq.toUInt32) := by
  have hlen := encodeHeader_length ⟨protocolVersion, cmd.toUInt32, seq.toUInt32, [], .notSet⟩
  have haad : N.aad cmd seq = some (encodeHeader ⟨protocolVersion, cmd.toUInt32, seq.toUInt32, [], .notSet⟩) := by
    unfold FirmwareCodec.aad
    rw [h.nanopb]
    exact if_neg (Nat.not_lt.2 hlen)
  constructor
  · rw [haad, Daemon.PyCodec.aad, h.python]
    rfl
  · rw [haad, h.aad]

end SharedFormat

theorem Daemon.isSystemCommandId_eq (id : UInt32) : isSystemCommandId id.toNat = isSystemCommand id.toUInt16 := by
  have hmask : id.toNat &&& 0xFFFF = id.toNat % 2 ^ 16 := Nat.and_two_pow_sub_one_eq_mod id.toNat 16
  unfold isSystemCommandId isSystemCommand
  rw [hmask]
  simp only [UInt16.le_iff_toNat_le, UInt32.toNat_toUInt16]
  rfl

namespace Sample

/-- The protobuf runtime of Python raises on a string that is not UTF-8. -/
def readPython (number : Nat) (b : Bytes) : Option PayloadType := (decodeMessage number b).filter PayloadType.wellFormed

def python : PyCodec where
  crc32 := crc32
  encode := McuBridge.encodeEnvelope encodeMessage
  decode := McuBridge.decodeEnvelope readPython
  holds m := m.wellFormed

/-- nanopb, for which `daemon_metrics` is an unknown field. -/
def firmware : FirmwareCodec where
  crc32 := crc32
  decodeEnvelope b :=
    ((McuBridge.decodeEnvelope decodeMessage (Proto.withoutField 42 b)).map fun e =>
      { e with payloadType := e.payloadType.cStrings }).filter RpcEnvelope.withinOptions
  encodeEnvelope := McuBridge.encodeEnvelope encodeMessage
  envelopeSize := 192

end Sample

def Platform.framed : Platform :=
  { Platform.keyed with
    pbEncode := encodeMessage
    pbDecode := decodeMessage
    serializes := fun e => (Sample.firmware.serializeFrame e).isSome }

/-- What is within the options has no field 42. -/
theorem envelopeFields_number {pb : PayloadType → Bytes} {e : RpcEnvelope} (h : e.withinOptions = true) :
    (envelopeFields pb e).filter (fun f => f.number ≠ 42) = envelopeFields pb e := by
  have hpay : ∀ f ∈ payloadFields pb e.payloadType, f.number ≠ 42 := by
    have hlimits := (Bool.and_eq_true_iff.1 h).2
    revert hlimits
    cases e.payloadType <;> simp [payloadFields, PayloadType.fieldNumber, PayloadType.withinOptions]
  have huint : ∀ k n, k < 42 → ∀ f ∈ Proto.uintField k n, f.number ≠ 42 := by
    intro k n hk f hf
    unfold Proto.uintField at hf
    split at hf
    · cases hf
    · rw [List.mem_singleton.1 hf]
      exact Nat.ne_of_lt hk
  have hnonce : ∀ f ∈ Proto.octetsField 4 e.nonce, f.number ≠ 42 := by
    intro f hf
    unfold Proto.octetsField at hf
    split at hf
    · cases hf
    · rw [List.mem_singleton.1 hf]
      exact Nat.ne_of_lt (by decide : 4 < 42)
  refine List.filter_eq_self.2 fun f hf => decide_eq_true ?_
  simp only [envelopeFields, List.mem_append] at hf
  rcases hf with (((hf | hf) | hf) | hf) | hf
  · exact huint 1 _ (by decide) f hf
  · exact huint 2 _ (by decide) f hf
  · exact huint 3 _ (by decide) f hf
  · exact hnonce f hf
  · exact hpay f hf

theorem sample_sharedFormat : SharedFormat .framed Sample.python Sample.firmware where
  crc := rfl
  nanopb := rfl
  python := rfl
  nanopbReads e hfits hvalid := by
    have hsame : decodeEnvelope decodeMessage (Proto.withoutField 42 (encodeEnvelope encodeMessage e)) =
        decodeEnvelope decodeMessage (encodeEnvelope encodeMessage e) := by
      unfold decodeEnvelope encodeEnvelope
      rw [Proto.decode_withoutField 42 (Proto.decode_encode _), Proto.decode_encode, envelopeFields_number hfits]
    have hdec : decodeEnvelope decodeMessage (encodeEnvelope encodeMessage e) = some e :=
      decodeEnvelope_encodeEnvelope fun hm => decodeMessage_encodeMessage hm (PayloadType.wellFormed_flags (hvalid hm))
    have hstrings : { e with payloadType := e.payloadType.cStrings } = e := by
      rw [PayloadType.withinOptions_cStrings (Bool.and_eq_true_iff.1 hfits).2]
    show ((decodeEnvelope decodeMessage (Proto.withoutField 42 (encodeEnvelope encodeMessage e))).map _).filter _ = some e
    rw [hsame, hdec, Option.map_some, hstrings, Option.filter_some, if_pos hfits]
  nanopbLimits h := (Option.filter_eq_some_iff.1 h).2
  pythonReads e hvalid := by
    refine decodeEnvelope_encodeEnvelope fun hm => ?_
    have hwell : e.payloadType.wellFormed = true := hvalid hm
    rw [Sample.readPython, decodeMessage_encodeMessage hm (PayloadType.wellFormed_flags hwell), Option.filter_some, if_pos hwell]
  pythonHolds _ _ h := h
  aad _ _ := rfl
  serializes _ := rfl
  size := by decide

theorem Platform.framed_opens : Platform.framed.toCrypto.Opens := ⟨Platform.keyed_opens.seals, Platform.keyed_opens.opens⟩

/-- An MCU in a session. -/
def framedSession : Mcu := Mcu.runFrom .framed [7] true [.recv .sample (some (Mcu.validSync 1))]

end McuBridge
