import McuBridge.Lib.Proto
import McuBridge.Protocol

/-! # The bytes of a frame

`RpcEnvelope` in canonical proto3, as nanopb and the Python runtime both write it, and the CRC-32 behind it in
little-endian order. The header alone, with version, command and sequence id, is what the AEAD authenticates beside
the payload. `pb` and `read` are the encoding and the decoding of the typed members. -/

namespace McuBridge
open Proto

/-! ### The CRC trailer -/

def le32 (c : UInt32) : Bytes := [c.toUInt8, (c >>> 8).toUInt8, (c >>> 16).toUInt8, (c >>> 24).toUInt8]

/-- `_CRC_STRUCT.unpack` -/
def unpackLe32 (b : Bytes) : UInt32 := b.foldr (fun x n => n * 256 + x.toUInt32) 0

theorem unpackLe32_le32 (c : UInt32) : unpackLe32 (le32 c) = c := by
  have h := c.toNat_lt
  apply UInt32.toNat_inj.1
  simp [unpackLe32, le32, Nat.shiftRight_eq_div_pow]
  omega

theorem shiftLeft_or_eq (n : UInt32) (x : UInt8) : n <<< 8 ||| x.toUInt32 = n * 256 + x.toUInt32 := by
  have hand : (n <<< 8) &&& x.toUInt32 = 0 := by
    apply UInt32.toBitVec_inj.1
    ext i hi
    simp
    grind
  have hmul : n <<< 8 = n * 256 := by
    apply UInt32.toBitVec_inj.1
    rw [UInt32.toBitVec_shiftLeft, UInt32.toBitVec_mul]
    exact BitVec.shiftLeft_eq_mul_twoPow ..
  rw [← hmul]
  apply UInt32.toBitVec_inj.1
  rw [UInt32.toBitVec_or, UInt32.toBitVec_add, BitVec.add_eq_or_of_and_eq_zero]
  rw [← UInt32.toBitVec_and, hand]
  rfl

/-! ### The envelope -/

def payloadFields (pb : PayloadType → Bytes) : PayloadType → List Field
  | .notSet => []
  | .encryptedPayloadWithTag b => [⟨6, .octets b⟩]
  | p => [⟨p.fieldNumber, .octets (pb p)⟩]

def envelopeFields (pb : PayloadType → Bytes) (e : RpcEnvelope) : List Field :=
  uintField 1 e.version.toNat ++ uintField 2 e.commandId.toNat ++ uintField 3 e.sequenceId.toNat ++
    octetsField 4 e.nonce ++ payloadFields pb e.payloadType

def encodeEnvelope (pb : PayloadType → Bytes) (e : RpcEnvelope) : Bytes := Proto.encode (envelopeFields pb e)

/-- The envelope with nothing but its header. -/
def RpcEnvelope.header (e : RpcEnvelope) : RpcEnvelope := ⟨e.version, e.commandId, e.sequenceId, [], .notSet⟩

/-- The associated data of the AEAD: no typed member occurs in it. -/
def encodeHeader (e : RpcEnvelope) : Bytes := encodeEnvelope (fun _ => []) e.header

/-- A member of the oneof replaces the one read before; anything else is skipped. -/
def readMember (read : Nat → Bytes → Option PayloadType) (p : PayloadType) (f : Field) : Option PayloadType :=
  match f.value with
  | .varint _ => some p
  | .octets b =>
    if f.number = 6 then some (.encryptedPayloadWithTag b)
    else if 7 ≤ f.number ∧ f.number ≤ 42 then read f.number b
    else some p

def decodeEnvelope (read : Nat → Bytes → Option PayloadType) (b : Bytes) : Option RpcEnvelope :=
  (Proto.decode b).bind fun fs => (fs.foldlM (readMember read) .notSet).map fun p =>
    ⟨UInt32.ofNat (lastUint 1 fs), UInt32.ofNat (lastUint 2 fs), UInt32.ofNat (lastUint 3 fs), lastOctets 4 fs, p⟩

/-! ### Round trip -/

/-- A typed member has a field number of its own; the two others are numbers 0 and 6. -/
theorem payloadFields_cases (pb : PayloadType → Bytes) (p : PayloadType) :
    (p = .notSet ∧ payloadFields pb p = []) ∨
    (∃ b, p = .encryptedPayloadWithTag b ∧ payloadFields pb p = [⟨6, .octets b⟩]) ∨
    (7 ≤ p.fieldNumber ∧ p.fieldNumber ≤ 42 ∧ payloadFields pb p = [⟨p.fieldNumber, .octets (pb p)⟩]) := by
  cases p with
  | notSet => exact .inl ⟨rfl, rfl⟩
  | encryptedPayloadWithTag b => exact .inr (.inl ⟨b, rfl, rfl⟩)
  | _ => exact .inr (.inr ⟨by simp [PayloadType.fieldNumber], by simp [PayloadType.fieldNumber], rfl⟩)

theorem foldl_uintStep_payloadFields (pb : PayloadType → Bytes) (p : PayloadType) (number a : Nat) :
    (payloadFields pb p).foldl (uintStep number) a = a := by
  rcases payloadFields_cases pb p with ⟨-, h⟩ | ⟨b, -, h⟩ | ⟨-, -, h⟩ <;> rw [h] <;> rfl

theorem foldl_octetsStep_payloadFields (pb : PayloadType → Bytes) (p : PayloadType) (a : Bytes) :
    (payloadFields pb p).foldl (octetsStep 4) a = a := by
  rcases payloadFields_cases pb p with ⟨-, h⟩ | ⟨b, -, h⟩ | ⟨hge, -, h⟩
  · rw [h]
    rfl
  · rw [h]
    rfl
  · rw [h]
    have hne : p.fieldNumber ≠ 4 := by omega
    simp [octetsStep, hne]

theorem foldlM_uintField (read : Nat → Bytes → Option PayloadType) (k n : Nat) (p : PayloadType) :
    (uintField k n).foldlM (readMember read) p = some p := by
  unfold uintField
  split <;> rfl

theorem foldlM_nonce (read : Nat → Bytes → Option PayloadType) (b : Bytes) (p : PayloadType) :
    (octetsField 4 b).foldlM (readMember read) p = some p := by
  unfold octetsField
  split <;> rfl

theorem foldlM_payloadFields {read : Nat → Bytes → Option PayloadType} {pb : PayloadType → Bytes} {p : PayloadType}
    (hread : 7 ≤ p.fieldNumber → read p.fieldNumber (pb p) = some p) :
    (payloadFields pb p).foldlM (readMember read) .notSet = some p := by
  rcases payloadFields_cases pb p with ⟨rfl, h⟩ | ⟨b, rfl, h⟩ | ⟨hge, hle, h⟩
  · rw [h]
    rfl
  · rw [h]
    rfl
  · rw [h]
    have hne : p.fieldNumber ≠ 6 := by omega
    simp [readMember, hne, hge, hle, hread hge]

/-- An envelope is read back from its encoding, as far as its typed member is. -/
theorem decodeEnvelope_encodeEnvelope {read : Nat → Bytes → Option PayloadType} {pb : PayloadType → Bytes}
    {e : RpcEnvelope} (hread : 7 ≤ e.payloadType.fieldNumber →
      read e.payloadType.fieldNumber (pb e.payloadType) = some e.payloadType) :
    decodeEnvelope read (encodeEnvelope pb e) = some e := by
  have hmember : (envelopeFields pb e).foldlM (readMember read) .notSet = some e.payloadType := by
    simp only [envelopeFields, List.foldlM_append, foldlM_uintField, foldlM_nonce, Option.bind_eq_bind,
      Option.bind_some, foldlM_payloadFields hread]
  have huint : ∀ n : UInt32, UInt32.ofNat (if n.toNat = 0 then 0 else n.toNat) = n := by
    intro n
    split
    case isTrue h => rw [← h, UInt32.ofNat_toNat]
    case isFalse => exact UInt32.ofNat_toNat
  have hnonce : (if e.nonce = [] then [] else e.nonce) = e.nonce := by
    split
    case isTrue h => exact h.symm
    case isFalse => rfl
  unfold decodeEnvelope encodeEnvelope
  rw [decode_encode, Option.bind_some, hmember, Option.map_some]
  simp only [lastUint, lastOctets, envelopeFields, List.foldl_append, foldl_uintStep_uintField,
    foldl_uintStep_octetsField, foldl_uintStep_payloadFields, foldl_octetsStep_uintField,
    foldl_octetsStep_octetsField, foldl_octetsStep_payloadFields]
  simp [huint, hnonce]

/-! ### Sizes -/

theorem encode_uint16_length (number : Nat) (n : UInt16) (hkey : number < 16) :
    (Proto.encode (uintField number n.toUInt32.toNat)).length ≤ 4 := by
  refine encode_uintField_length hkey ?_
  have h := n.toNat_lt
  rw [UInt16.toNat_toUInt32]
  omega

/-- The envelope of a 16-bit command and sequence id with a raw payload: its fields take 2, 4, 4 and 14 bytes and
two more than the payload. -/
theorem encodeEnvelope_raw_length (pb : PayloadType → Bytes) (cmd seq : UInt16) {nonce b : Bytes}
    (hnonce : nonce.length ≤ aeadNonceSize) (hb : b.length ≤ 80) :
    (encodeEnvelope pb ⟨protocolVersion, cmd.toUInt32, seq.toUInt32, nonce, .encryptedPayloadWithTag b⟩).length ≤
      24 + (b.length + 2) := by
  have hcmd := encode_uint16_length 2 cmd (by decide)
  have hseq := encode_uint16_length 3 seq (by decide)
  have hpay : (Proto.encode [⟨6, .octets b⟩]).length = b.length + 2 := encode_octets_length (by decide) (by omega)
  have hver : (Proto.encode (uintField 1 protocolVersion.toNat)).length = 2 := by decide +kernel
  have hnon : (Proto.encode (octetsField 4 nonce)).length ≤ 14 := by
    unfold octetsField
    unfold aeadNonceSize at hnonce
    split
    · exact Nat.zero_le _
    · rw [encode_octets_length (by decide) (by omega)]
      omega
  simp only [encodeEnvelope, envelopeFields, payloadFields, encode_append, List.length_append] at hpay ⊢
  omega

/-- The associated data fits the firmware's buffer of 32 bytes. -/
theorem encodeHeader_length (e : RpcEnvelope) : (encodeHeader e).length ≤ 32 := by
  have huint : ∀ (number : Nat) (n : UInt32), number < 16 →
      (Proto.encode (uintField number n.toNat)).length ≤ 6 := by
    intro number n hkey
    refine encode_uintField_length hkey ?_
    have h := n.toNat_lt
    omega
  have h1 := huint 1 e.version (by decide)
  have h2 := huint 2 e.commandId (by decide)
  have h3 := huint 3 e.sequenceId (by decide)
  simp only [encodeHeader, RpcEnvelope.header, encodeEnvelope, envelopeFields, payloadFields, octetsField,
    encode_append, List.length_append, if_true]
  simp only [Proto.encode, List.flatMap_nil, List.length_nil] at h1 h2 h3 ⊢
  omega

namespace Sample

def crcStep (c : UInt32) : UInt32 := if c &&& 1 = 1 then (c >>> 1) ^^^ 0xEDB88320 else c >>> 1

/-- CRC-32 with the reflected polynomial, bit by bit. -/
def crc32 (b : Bytes) : UInt32 :=
  (b.foldl (fun c x => Nat.repeat crcStep 8 (c ^^^ x.toUInt32)) 0xFFFFFFFF) ^^^ 0xFFFFFFFF

end Sample
end McuBridge
