import McuBridge.Daemon.Frame
import McuBridge.Wire

/-! # The frame codec of the daemon, on bytes (`protocol/frame.py`)

`build_frame` serialises the envelope and puts its CRC behind it, `parse_frame` takes the two apart again. Whether
the payload travels encrypted, as raw bytes or as a typed member is decided on both sides from the command, the
key and the payload's type; the round trip holds because the two decisions agree. -/

namespace McuBridge

/-- ChaCha20-Poly1305 on keys of 32 and nonces of 12 bytes: encryption succeeds, the ciphertext is as long as the
plaintext, and decryption undoes it. -/
structure Crypto.Opens (P : Crypto) : Prop where
  seals : ∀ {k n : Bytes} (a p : Bytes), k.length = 32 → n.length = aeadNonceSize →
    ∃ c t, P.aeadEncrypt k n a p = some (c, t) ∧ c.length = p.length ∧ t.length = aeadTagSize
  opens : ∀ {k n a p c t}, P.aeadEncrypt k n a p = some (c, t) → P.aeadDecrypt k n a c t = some p

namespace Daemon

/-- `binascii.crc32` and the protobuf runtime. `holds` are the typed messages there are Python objects of: those
whose strings are valid, for one. -/
structure PyCodec where
  crc32 : Bytes → UInt32
  encode : RpcEnvelope → Bytes
  decode : Bytes → Option RpcEnvelope
  holds : PayloadType → Prop

/-- A message class of the `payload_type` oneof. -/
def IsMessage (p : PayloadType) : Prop := 7 ≤ p.fieldNumber

instance (p : PayloadType) : Decidable (IsMessage p) := inferInstanceAs (Decidable (_ ≤ _))

/-- Serialisation round-trips. -/
def PyCodec.RoundTrips (C : PyCodec) : Prop :=
  ∀ e, (IsMessage e.payloadType → C.holds e.payloadType) → C.decode (C.encode e) = some e

/-- The canonical encoding, with `pb` and `read` for the typed members. -/
def PyCodec.canonical (crc32 : Bytes → UInt32) (pb : PayloadType → Bytes)
    (read : Nat → Bytes → Option PayloadType) : PyCodec where
  crc32 := crc32
  encode := encodeEnvelope pb
  decode := decodeEnvelope read
  holds p := read p.fieldNumber (pb p) = some p

theorem PyCodec.canonical_roundTrips (crc32 : Bytes → UInt32) (pb : PayloadType → Bytes)
    (read : Nat → Bytes → Option PayloadType) : (canonical crc32 pb read).RoundTrips :=
  fun _ h => decodeEnvelope_encodeEnvelope h

structure DecodedFrame where
  envelope : RpcEnvelope
  payload : Payload
  deriving DecidableEq

def crcSize : Nat := 4

variable (P : Platform) (C : PyCodec)

/-- `build_frame` -/
def buildFrameBytes (cmd : UInt16) (seq : UInt32) (payload : Payload) (nonce : Bytes) (sessionKey : Option Bytes) :
    Option Bytes :=
  (buildFrame P cmd seq payload nonce sessionKey).map fun env => C.encode env ++ le32 (C.crc32 (C.encode env))

/-- The first half of `parse_frame`: length, CRC and protobuf. -/
def decodeFrame (raw : Bytes) : Option RpcEnvelope :=
  if raw.length < crcSize then none
  else
    let body := raw.take (raw.length - crcSize)
    if C.crc32 body ≠ unpackLe32 (raw.drop (raw.length - crcSize)) then none else C.decode body

/-- `parse_frame`; `none` where it raises. -/
def parseFrameBytes (raw : Bytes) (sessionKey : Option Bytes) : Option DecodedFrame :=
  (decodeFrame C raw).bind fun env => (parseFrame P env sessionKey).map fun p => ⟨env, p⟩

/-- Both functions encrypt: there is a key and the command is an application command. -/
def encrypts (cmd : UInt16) (sessionKey : Option Bytes) : Bool :=
  sessionKey.any (fun k => !k.isEmpty) && !isSystemCommand cmd

/-- What `build_frame` accepts: bytes within the limit, or a message of the oneof that fits when it is encrypted. -/
def Accepts (cmd : UInt16) (sessionKey : Option Bytes) : Payload → Prop
  | .bytes b => b.length ≤ maxPayloadSize
  | .message m => IsMessage m ∧ C.holds m ∧ (encrypts cmd sessionKey = true → (P.pbEncode m).length ≤ maxPayloadSize)

variable {P C}

/-! ### Both sides choose alike -/

theorem encrypts_some {cmd : UInt16} {key : Bytes} :
    encrypts cmd (some key) = (!key.isEmpty && !isSystemCommand cmd) := rfl

/-- Without encryption the payload is a member of the envelope: raw bytes, or the message. -/
theorem buildFrame_plain {cmd : UInt16} (seq : UInt32) {payload : Payload} {nonce : Bytes} {key : Option Bytes}
    (hplain : encrypts cmd key = false) (hnonce : nonce ≠ []) (hpay : Accepts P C cmd key payload) :
    ∃ p, buildFrame P cmd seq payload nonce key = some ⟨protocolVersion, cmd.toUInt32, seq, nonce, p⟩ ∧
      parseFrame.plain p = payload ∧ (IsMessage p → C.holds p) := by
  have hn : nonce.isEmpty = false := by simpa using hnonce
  have hbuild : buildFrame P cmd seq payload nonce key =
      buildFrame.plain payload fun p => ⟨protocolVersion, cmd.toUInt32, seq, nonce, p⟩ := by
    unfold buildFrame
    rw [hn]
    cases key with
    | none => rfl
    | some k =>
      rw [encrypts_some] at hplain
      simp only [hplain, Bool.false_eq_true, if_false]
  rw [hbuild]
  cases payload with
  | bytes b =>
    refine ⟨.encryptedPayloadWithTag b, ?_, rfl, fun h => absurd h (by simp [IsMessage, PayloadType.fieldNumber])⟩
    exact if_neg (Nat.not_lt.2 hpay)
  | message m =>
    refine ⟨m, rfl, ?_, fun _ => hpay.2.1⟩
    have hmsg : 7 ≤ m.fieldNumber := hpay.1
    cases m with
    | notSet => exact absurd hmsg (by decide)
    | encryptedPayloadWithTag b => exact absurd hmsg (by simp [PayloadType.fieldNumber])
    | _ => rfl

theorem parseFrame_plain {env : RpcEnvelope} {key : Option Bytes} (hver : env.version = protocolVersion)
    (hplain : encrypts env.rawCommand key = false) : parseFrame P env key = some (parseFrame.plain env.payloadType) := by
  unfold parseFrame
  rw [if_neg (by rw [hver]; exact fun h => h rfl)]
  cases key with
  | none => rfl
  | some k =>
    rw [encrypts_some] at hplain
    simp only [hplain, Bool.false_eq_true, if_false]

theorem parseFrame_encrypted {env : RpcEnvelope} {key c t : Bytes} (hver : env.version = protocolVersion)
    (henc : encrypts env.rawCommand (some key) = true) (hnonce : env.nonce.length = aeadNonceSize)
    (hpay : env.payloadType = .encryptedPayloadWithTag (c ++ t)) (htag : t.length = aeadTagSize) :
    parseFrame P env (some key) =
      (P.aeadDecrypt key env.nonce (P.aad env.commandId env.sequenceId) c t).map .bytes := by
  have hlen : (c ++ t).length - aeadTagSize = c.length := by
    rw [List.length_append, htag]
    omega
  have hfits : ¬ (env.nonce.length ≠ aeadNonceSize ∨ (c ++ t).length < aeadTagSize) := by
    rw [List.length_append, htag]
    omega
  rw [encrypts_some] at henc
  unfold parseFrame
  rw [if_neg (by rw [hver]; exact fun h => h rfl)]
  dsimp only
  rw [if_pos henc, hpay]
  dsimp only
  rw [if_neg hfits, hlen, List.take_left, List.drop_left]

theorem Accepts.serialize_length {cmd : UInt16} {key : Option Bytes} {payload : Payload}
    (hpay : Accepts P C cmd key payload) (henc : encrypts cmd key = true) :
    (payload.serialize P).length ≤ maxPayloadSize := by
  cases payload with
  | bytes b => exact hpay
  | message m => exact hpay.2.2 henc

/-- With encryption the payload is its ciphertext and the tag. -/
theorem buildFrame_encrypted (hP : P.toCrypto.Opens) {cmd : UInt16} (seq : UInt32) {payload : Payload}
    {nonce key : Bytes} (henc : encrypts cmd (some key) = true) (hkey : key.length = 32)
    (hnonce : nonce.length = aeadNonceSize) (hlen : (payload.serialize P).length ≤ maxPayloadSize) :
    ∃ c t, buildFrame P cmd seq payload nonce (some key) =
        some ⟨protocolVersion, cmd.toUInt32, seq, nonce, .encryptedPayloadWithTag (c ++ t)⟩ ∧
      P.aeadEncrypt key nonce (P.aad cmd.toUInt32 seq) (payload.serialize P) = some (c, t) ∧
      c.length = (payload.serialize P).length ∧ t.length = aeadTagSize := by
  obtain ⟨c, t, hct, hc, ht⟩ := hP.seals (P.aad cmd.toUInt32 seq) (payload.serialize P) hkey hnonce
  have hn : nonce.isEmpty = false := by
    cases nonce with
    | nil => cases hnonce
    | cons => rfl
  rw [encrypts_some] at henc
  refine ⟨c, t, ?_, hct, hc, ht⟩
  unfold buildFrame
  rw [hn]
  simp only [henc, if_true, Bool.false_eq_true, if_false]
  rw [if_neg (Nat.not_lt.2 hlen), hct]
  rfl

/-! ### The CRC trailer -/

theorem le32_length (c : UInt32) : (le32 c).length = crcSize := rfl

theorem decodeFrame_append (body : Bytes) : decodeFrame C (body ++ le32 (C.crc32 body)) = C.decode body := by
  have hlen : (body ++ le32 (C.crc32 body)).length - crcSize = body.length := by
    rw [List.length_append, le32_length]
    omega
  unfold decodeFrame
  dsimp only
  rw [if_neg (by rw [List.length_append, le32_length]; omega), hlen, List.take_left, List.drop_left,
    unpackLe32_le32, if_neg (fun h => h rfl)]

/-! ### Round trip -/

/-- `parse_frame` undoes `build_frame` under the same key: it returns command, sequence id and nonce, and as the payload
the original one, or its serialisation where it was encrypted. -/
theorem parse_build_frame (P : Platform) (hP : P.toCrypto.Opens) (C : PyCodec) (hC : C.RoundTrips) (cmd seq : UInt16)
    (payload : Payload) (nonce : Bytes) (hnonce : nonce.length = aeadNonceSize) (key : Option Bytes)
    (hkey : ∀ k ∈ key, k.length = 32) (hpay : Accepts P C cmd key payload) :
    ∃ raw f, buildFrameBytes P C cmd seq.toUInt32 payload nonce key = some raw ∧
      parseFrameBytes P C raw key = some f ∧ f.envelope.commandId = cmd.toUInt32 ∧
      f.envelope.sequenceId = seq.toUInt32 ∧ f.envelope.nonce = nonce ∧
      f.payload = if encrypts cmd key then .bytes (payload.serialize P) else payload := by
  have hne : nonce ≠ [] := by
    rintro rfl
    cases hnonce
  have hraw : ∀ p : PayloadType,
      (⟨protocolVersion, cmd.toUInt32, seq.toUInt32, nonce, p⟩ : RpcEnvelope).rawCommand = cmd :=
    fun _ => by simp [RpcEnvelope.rawCommand]
  cases henc : encrypts cmd key with
  | true =>
    obtain ⟨k, rfl⟩ : ∃ k, key = some k := by
      cases key with
      | none => cases henc
      | some k => exact ⟨k, rfl⟩
    obtain ⟨c, t, hbuild, hct, -, ht⟩ := buildFrame_encrypted hP seq.toUInt32 henc (hkey k rfl) hnonce
      (hpay.serialize_length henc)
    refine ⟨_, ⟨⟨protocolVersion, cmd.toUInt32, seq.toUInt32, nonce, .encryptedPayloadWithTag (c ++ t)⟩,
      .bytes (payload.serialize P)⟩, by rw [buildFrameBytes, hbuild]; rfl, ?_, rfl, rfl, rfl, rfl⟩
    rw [parseFrameBytes, decodeFrame_append, hC _ fun h => absurd h (by simp [IsMessage, PayloadType.fieldNumber]),
      Option.bind_some, parseFrame_encrypted rfl (by rw [hraw]; exact henc) hnonce rfl ht, hP.opens hct]
    rfl
  | false =>
    obtain ⟨p, hbuild, hback, hholds⟩ := buildFrame_plain seq.toUInt32 henc hne hpay
    refine ⟨_, ⟨⟨protocolVersion, cmd.toUInt32, seq.toUInt32, nonce, p⟩, payload⟩,
      by rw [buildFrameBytes, hbuild]; rfl, ?_, rfl, rfl, rfl, rfl⟩
    rw [parseFrameBytes, decodeFrame_append, hC _ hholds, Option.bind_some,
      parseFrame_plain rfl (by rw [hraw]; exact henc), hback]
    rfl

end Daemon

/-! ### A platform whose AEAD takes every key -/

namespace Sample

/-- Key and associated data in one tag. -/
def keyedTag (key aad : Bytes) : Bytes := padTo 16 (key.take 4 ++ aad)

def keyedEncrypt (key nonce aad plain : Bytes) : Option (Bytes × Bytes) :=
  if key.length = 32 ∧ nonce.length = aeadNonceSize then some (plain.map (· + key.sum), keyedTag key aad) else none

def keyedDecrypt (key _nonce aad cipher tag : Bytes) : Option Bytes :=
  if tag = keyedTag key aad then some (cipher.map (· - key.sum)) else none

end Sample

/-- `sample` with the canonical associated data, and an AEAD for all keys of 32 bytes. -/
def Platform.keyed : Platform :=
  { Platform.sample with
    aad := fun cmd seq => encodeHeader ⟨protocolVersion, cmd, seq, [], .notSet⟩
    aeadEncrypt := Sample.keyedEncrypt
    aeadDecrypt := Sample.keyedDecrypt }

theorem Platform.keyed_opens : Platform.keyed.toCrypto.Opens where
  seals {k n} a p hk hn := by
    refine ⟨p.map (· + k.sum), Sample.keyedTag k a, if_pos ⟨hk, hn⟩, List.length_map .., ?_⟩
    simp [Sample.keyedTag, padTo, aeadTagSize]
    omega
  opens {k n a p c t} h := by
    change Sample.keyedEncrypt k n a p = some (c, t) at h
    show Sample.keyedDecrypt k n a c t = some p
    unfold Sample.keyedEncrypt at h
    split at h
    · cases h
      simp [Sample.keyedDecrypt, Function.comp_def]
    · cases h

namespace Daemon

def sampleCodec : PyCodec := .canonical Sample.crc32 Platform.keyed.pbEncode Platform.keyed.pbDecode

/-- A sealed console frame and a plain one, with a sequence id of 16 bits. -/
theorem parse_build_frame_sample :
    (∃ raw f, buildFrameBytes .keyed sampleCodec 96 65535 (.message (.consoleWrite [65])) (List.replicate 12 7)
        (some (List.replicate 32 5)) = some raw ∧
      parseFrameBytes .keyed sampleCodec raw (some (List.replicate 32 5)) = some f ∧ f.envelope.commandId = 96 ∧
      f.envelope.sequenceId = 65535 ∧ f.envelope.nonce = List.replicate 12 7 ∧
      f.payload = .bytes [10, 1, 65]) ∧
    ∃ raw f, buildFrameBytes .keyed sampleCodec 96 65535 (.message (.consoleWrite [65])) (List.replicate 12 7) none =
        some raw ∧
      parseFrameBytes .keyed sampleCodec raw none = some f ∧ f.envelope.commandId = 96 ∧
      f.envelope.sequenceId = 65535 ∧ f.envelope.nonce = List.replicate 12 7 ∧
      f.payload = .message (.consoleWrite [65]) := by
  have haccepts : ∀ key, Accepts .keyed sampleCodec 96 key (.message (.consoleWrite [65])) :=
    fun _ => ⟨by decide, show Platform.keyed.pbDecode 16 [10, 1, 65] = some _ by decide +kernel, fun _ => by decide +kernel⟩
  constructor
  · exact parse_build_frame .keyed Platform.keyed_opens sampleCodec (PyCodec.canonical_roundTrips _ _ _) 96 65535 _ _ rfl
      (some (List.replicate 32 5)) (by rintro k ⟨⟩; rfl) (haccepts _)
  · exact parse_build_frame .keyed Platform.keyed_opens sampleCodec (PyCodec.canonical_roundTrips _ _ _) 96 65535 _ _ rfl
      none nofun (haccepts _)

end Daemon
end McuBridge
