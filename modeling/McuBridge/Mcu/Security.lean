import McuBridge.Mcu.State

/-! # Handshake and frame cryptography of the firmware (`security/security.cpp`) -/

namespace McuBridge

/-- The AEAD nonce of the firmware: `"MCU"`, a zero byte, the counter. -/
def mcuNonce (counter : UInt64) : Bytes := [77, 67, 85, 0] ++ be64 counter

/-- `handshake_authenticate`: the computed tag, and whether the received one is accepted. A received tag
of length zero skips the comparison. -/
def handshakeAuthenticate (P : Crypto) (secret nonce receivedTag : Bytes) : Bytes × Bool :=
  let outTag := P.hmac (P.handshakeKey secret) nonce
  let tagOk :=
    if receivedTag.isEmpty then true
    else if receivedTag.length ≠ handshakeTagLength then false
    else outTag.take handshakeTagLength == receivedTag
  (outTag, tagOk)

/-- `validate_frame_nonce`: the new last-seen counter, or `none` for a counter that is not above it. -/
def validateFrameNonce (nonce : Bytes) (lastSeen : UInt64) : Option UInt64 :=
  if nonce.length < 12 then none
  else
    let counter := readBe64 ((nonce.drop 4).take 8)
    if counter ≤ lastSeen then none else some counter

namespace Mcu
variable (P : Platform)

/-- `aead_encrypt_frame` on the firmware's key and counter: the counter moves on before the cipher
runs, so a failed call uses its counter value up. -/
def aeadEncryptFrame (cmd seq : UInt16) (payload : Bytes) (s : Mcu) : Mcu × Option (Bytes × Bytes × Bytes) :=
  let counter := s.txNonceCounter + 1
  let nonce := mcuNonce counter
  ({ s with txNonceCounter := counter, seals := s.seals ++ [(s.sessionKey, nonce)] },
    (P.aeadEncrypt s.sessionKey nonce (P.aad cmd.toUInt32 seq.toUInt32) payload).map fun (ct, tag) => (nonce, ct, tag))

end Mcu

theorem validateFrameNonce_lt {nonce : Bytes} {last c : UInt64} (h : validateFrameNonce nonce last = some c) :
    last < c := by
  unfold validateFrameNonce at h
  split at h
  · cases h
  · dsimp only at h
    split at h
    · cases h
    · cases h
      exact UInt64.not_le.1 ‹_›

theorem validateFrameNonce_eq {nonce : Bytes} {last c : UInt64} (h : validateFrameNonce nonce last = some c) :
    c = readBe64 ((nonce.drop 4).take 8) := by
  unfold validateFrameNonce at h
  split at h
  · cases h
  · dsimp only at h
    split at h
    · cases h
    · exact (Option.some.inj h).symm

end McuBridge
