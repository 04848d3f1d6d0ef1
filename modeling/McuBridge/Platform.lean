import McuBridge.Protocol

/-! # What the two programs are linked against

The cryptographic primitives (wolfSSL on the MCU, `cryptography` on the daemon), the nanopb codec and
the board configuration are not part of the repository. They are the parameters of both models. -/

namespace McuBridge

/-- The primitives both peers call: HKDF-SHA256 with a 32-byte output, HMAC-SHA256 and
ChaCha20-Poly1305. `aad` is the encoded header (`version`, `command_id`, `sequence_id`) that is
authenticated beside the payload. -/
structure Crypto where
  hkdf : (secret salt info : Bytes) → Bytes
  hmac : (key message : Bytes) → Bytes
  aad : (commandId sequenceId : UInt32) → Bytes
  aeadEncrypt : (key nonce aad plain : Bytes) → Option (Bytes × Bytes)
  aeadDecrypt : (key nonce aad cipher tag : Bytes) → Option Bytes

namespace Crypto
variable (P : Crypto)

/-- The key of the handshake tags. -/
def handshakeKey (secret : Bytes) : Bytes := P.hkdf secret hkdfSalt hkdfInfoAuth

/-- The 16-byte handshake tag of `nonce`: the same value in both directions. -/
def handshakeTag (secret nonce : Bytes) : Bytes :=
  (P.hmac (P.handshakeKey secret) nonce).take handshakeTagLength

/-- `derive_session_key` -/
def deriveSessionKey (secret nonce : Bytes) : Bytes := P.hkdf secret nonce hkdfInfoSession

end Crypto

/-- HKDF gives the 32 bytes it is asked for. -/
def Crypto.KeyLength (P : Crypto) : Prop := ∀ secret salt info, (P.hkdf secret salt info).length = 32

/-- The sealed payload of the frame opens under the key `k`, with `aad` as associated data. The results that rest on
authenticity assume of the frames and the keys of a run that this is so only for the key a frame was sealed with. -/
def RpcEnvelope.opensUnder (P : Crypto) (k aad : Bytes) (env : RpcEnvelope) : Bool :=
  match env.payloadType with
  | .encryptedPayloadWithTag b =>
    (P.aeadDecrypt k env.nonce aad (b.take (b.length - aeadTagSize)) (b.drop (b.length - aeadTagSize))).isSome
  | _ => false

/-- What the results on errors assume: a session key is not empty, and a payload is encrypted under it with every
nonce of 12 bytes. -/
structure Crypto.Seals (P : Crypto) : Prop where
  key_ne_nil : ∀ secret nonce, P.deriveSessionKey secret nonce ≠ []
  seals : ∀ secret salt cmd seq {nonce plain : Bytes}, nonce.length = aeadNonceSize → plain.length ≤ maxPayloadSize →
    (P.aeadEncrypt (P.deriveSessionKey secret salt) nonce (P.aad cmd seq) plain).isSome = true

/-- The firmware's build: the primitives, nanopb and the board. `unionBytes` and `unionStore` say what
the `encrypted_payload_with_tag` member of the nanopb union reads as, and what a store to it does, while
another member is the active one: they depend on the memory layout of the compiled union. -/
structure Platform extends Crypto where
  pbEncode : PayloadType → Bytes
  pbDecode : (tag : Nat) → Bytes → Option PayloadType
  serializes : RpcEnvelope → Bool
  unionBytes : PayloadType → Bytes
  unionStore : PayloadType → Bytes → PayloadType
  firmwareVersion : VersionResponse
  maxPendingTxFrames : Nat
  digitalPins : UInt8
  analogPins : UInt8
  hasAnalogRead : Bool
  consoleRxBufferSize : Nat
  consoleTxBufferSize : Nat

/-- What the hardware abstraction layer answers while one frame is handled. -/
structure Hal where
  digitalRead : UInt8 → UInt32
  analogRead : UInt8 → UInt32
  freeMemory : UInt16
  capabilities : Capabilities
  writeFile : Bool
  removeFile : Bool
  readFileChunk : (path : Bytes) → (offset : Nat) → Option (Bytes × Bool)
  readTimedOut : (chunk : Nat) → Bool
  spiTransfer : Bytes → Option Bytes

namespace Platform
variable (P : Platform)

/-- `envelope.payload_type.encrypted_payload_with_tag`, read without looking at `which_payload_type`. -/
def encryptedView : PayloadType → Bytes
  | .encryptedPayloadWithTag b => b
  | p => P.unionBytes p

/-- A store to `encrypted_payload_with_tag` that leaves `which_payload_type` alone. -/
def encryptedStore (p : PayloadType) (b : Bytes) : PayloadType :=
  match p with
  | .encryptedPayloadWithTag _ => .encryptedPayloadWithTag b
  | p => P.unionStore p b

end Platform

/-! ### A platform to evaluate runs on

`sample` is a 32-bit board whose primitives are small functions with the interface of the real ones: the
key depends on secret, salt and info, the handshake tag on key and nonce, and a ciphertext opens under the
key it was sealed with and no other. The codec covers the messages the runs in this project carry, in
their protobuf encoding. -/

/-- A bytes field read as the zero-initialised array of size `n` it is stored in. -/
def padTo (n : Nat) (b : Bytes) : Bytes := (b ++ List.replicate n 0).take n

namespace Sample

def hkdf (secret salt info : Bytes) : Bytes :=
  (padTo 16 salt).map (· + secret.sum + info.sum) ++ List.replicate 16 0

def hmac (key message : Bytes) : Bytes := (padTo 32 message).map (· + key.sum + 1)

/-- Base-128 varint of a value below 2^21, which covers every command and sequence id. -/
def varint (n : UInt32) : Bytes :=
  if n < 128 then [n.toUInt8] else if n < 16384 then [n.toUInt8 ||| 128, (n >>> 7).toUInt8]
  else [n.toUInt8 ||| 128, (n >>> 7).toUInt8 ||| 128, (n >>> 14).toUInt8]

def aad (cmd seq : UInt32) : Bytes :=
  [8, 2] ++ (if cmd = 0 then [] else 16 :: varint cmd) ++ (if seq = 0 then [] else 24 :: varint seq)

def isKey (key : Bytes) : Bool := key == key.take 16 ++ List.replicate 16 0

def aeadEncrypt (key _nonce _aad plain : Bytes) : Option (Bytes × Bytes) :=
  if isKey key then some (plain, key.take 16) else none

def aeadDecrypt (key _nonce _aad cipher tag : Bytes) : Option Bytes :=
  if isKey key && tag == key.take 16 then some cipher else none

/-- A message whose only field is a bytes field with number 1. -/
def encodeBytes (d : Bytes) : Bytes := if d = [] then [] else 10 :: d.length.toUInt8 :: d

def decodeBytes : Bytes → Option Bytes
  | [] => some []
  | 10 :: n :: d => if d.length.toUInt8 = n then some d else none
  | _ => none

def pbEncode : PayloadType → Bytes
  | .consoleWrite d => encodeBytes d
  | .mailboxPush d => encodeBytes d
  | .mailboxReadResponse d => encodeBytes d
  | _ => []

def pbDecode (tag : Nat) (b : Bytes) : Option PayloadType :=
  if tag = 16 then (decodeBytes b).map .consoleWrite
  else if tag = 20 then (decodeBytes b).map .mailboxPush
  else if tag = 23 then (decodeBytes b).map .mailboxReadResponse
  else none

end Sample

def Platform.sample : Platform where
  hkdf := Sample.hkdf
  hmac := Sample.hmac
  aad := Sample.aad
  aeadEncrypt := Sample.aeadEncrypt
  aeadDecrypt := Sample.aeadDecrypt
  pbEncode := Sample.pbEncode
  pbDecode := Sample.pbDecode
  serializes := fun _ => true
  unionBytes := fun _ => []
  unionStore := fun p _ => p
  firmwareVersion := ⟨2, 0, 0⟩
  maxPendingTxFrames := 8
  digitalPins := 32
  analogPins := 6
  hasAnalogRead := false
  consoleRxBufferSize := 64
  consoleTxBufferSize := 60

theorem Platform.sample_keyLength : Platform.sample.toCrypto.KeyLength := by
  intro secret salt info
  change (Sample.hkdf secret salt info).length = 32
  simp [Sample.hkdf, padTo]

theorem Platform.sample_seals : Platform.sample.toCrypto.Seals := by
  have hkey : ∀ secret salt info, Sample.isKey (Sample.hkdf secret salt info) = true := by
    intro secret salt info
    have hlen : ((padTo 16 salt).map (· + secret.sum + info.sum)).length = 16 := by simp [padTo]
    unfold Sample.isKey Sample.hkdf
    rw [List.take_left' hlen]
    exact beq_self_eq_true _
  constructor
  · intro secret nonce h
    have hlen := congrArg List.length h
    simp [Platform.sample, Crypto.deriveSessionKey, Sample.hkdf, padTo] at hlen
  · intro secret salt cmd seq nonce plain hnonce hplain
    change (Sample.aeadEncrypt (Sample.hkdf secret salt hkdfInfoSession) nonce (Sample.aad cmd seq) plain).isSome = true
    unfold Sample.aeadEncrypt
    rw [if_pos (hkey ..)]
    rfl

def Hal.sample : Hal where
  digitalRead := fun _ => 0
  analogRead := fun _ => 0
  freeMemory := 1024
  capabilities := ⟨2, 2, 32, 6, List.replicate 12 false, 0⟩
  writeFile := true
  removeFile := true
  readFileChunk := fun _ _ => none
  readTimedOut := fun _ => false
  spiTransfer := some

end McuBridge
