import McuBridge.Platform

/-! # Frames of the daemon (`protocol/frame.py`)

Between the envelope and the serial line lie only the protobuf encoding, the CRC and COBS/R, which both
peers undo; a frame is its envelope here. -/

namespace McuBridge

/-- `bytes | ProtobufMessage` -/
inductive Payload where
  | bytes (b : Bytes)
  | message (m : PayloadType)
  deriving DecidableEq

namespace Payload

/-- `payload.SerializeToString()` for a message, the bytes themselves otherwise. -/
def serialize (P : Platform) : Payload → Bytes
  | .bytes b => b
  | .message m => P.pbEncode m

end Payload

namespace Daemon
variable (P : Platform)

/-- `build_frame`; `none` where it raises `ValueError`. -/
def buildFrame (cmd : UInt16) (seq : UInt32) (payload : Payload) (nonce : Bytes) (sessionKey : Option Bytes) :
    Option RpcEnvelope :=
  let nonce := if nonce.isEmpty then List.replicate aeadNonceSize 0 else nonce
  let envelope (p : PayloadType) : RpcEnvelope := ⟨protocolVersion, cmd.toUInt32, seq, nonce, p⟩
  match sessionKey with
  | some key =>
    if !key.isEmpty && !isSystemCommand cmd then
      let bytes := payload.serialize P
      if maxPayloadSize < bytes.length then none
      else (P.aeadEncrypt key nonce (P.aad cmd.toUInt32 seq) bytes).map fun (ct, tag) =>
        envelope (.encryptedPayloadWithTag (ct ++ tag))
    else plain envelope
  | none => plain envelope
where
  /-- The unencrypted branch. -/
  plain (envelope : PayloadType → RpcEnvelope) : Option RpcEnvelope :=
    match payload with
    | .bytes b => if maxPayloadSize < b.length then none else some (envelope (.encryptedPayloadWithTag b))
    | .message m => some (envelope m)

/-- `parse_frame` from the decoded envelope on: the payload it returns, `none` where it raises. -/
def parseFrame (env : RpcEnvelope) (sessionKey : Option Bytes) : Option Payload :=
  if env.version ≠ protocolVersion then none
  else
    match sessionKey with
    | some key =>
      if !key.isEmpty && !isSystemCommand env.rawCommand then
        let view := match env.payloadType with
          | .encryptedPayloadWithTag b => b
          | _ => []
        if env.nonce.length ≠ aeadNonceSize ∨ view.length < aeadTagSize then none
        else
          let ctSize := view.length - aeadTagSize
          (P.aeadDecrypt key env.nonce (P.aad env.commandId env.sequenceId) (view.take ctSize)
            (view.drop ctSize)).map .bytes
      else some (plain env.payloadType)
    | none => some (plain env.payloadType)
where
  /-- The unencrypted branch: the active oneof member, raw bytes as such. -/
  plain : PayloadType → Payload
    | .encryptedPayloadWithTag b => .bytes b
    | .notSet => .bytes []
    | m => .message m

/-- What `build_frame` makes of an application command in a session. -/
theorem buildFrame_sealed {cmd : UInt16} {seq : UInt32} {payload : Payload} {nonce key : Bytes} {e : RpcEnvelope}
    (hcmd : isSystemCommand cmd = false) (hkey : key ≠ []) (hnonce : nonce ≠ [])
    (h : buildFrame P cmd seq payload nonce (some key) = some e) :
    ∃ ct tag, P.aeadEncrypt key nonce (P.aad cmd.toUInt32 seq) (payload.serialize P) = some (ct, tag) ∧
      e = ⟨protocolVersion, cmd.toUInt32, seq, nonce, .encryptedPayloadWithTag (ct ++ tag)⟩ := by
  have hk : key.isEmpty = false := by simpa using hkey
  have hn : nonce.isEmpty = false := by simpa using hnonce
  simp only [buildFrame, hk, hcmd, hn, Bool.not_false, Bool.and_self, if_true, Bool.false_eq_true, if_false] at h
  split at h
  · cases h
  · obtain ⟨⟨ct, tag⟩, henc, rfl⟩ := Option.map_eq_some_iff.1 h
    exact ⟨ct, tag, henc, rfl⟩

end Daemon
end McuBridge
