import McuBridge.Wire
import McuBridge.Mcu.FlowControl

/-! # From the received bytes to the message of a handler

`parse_frame` leaves a C union and a tag that says which member is active. `_handleReceivedFrame` decrypts the
`encrypted_payload_with_tag` member without a look at the tag, and writes the plaintext back to it; then
`_dispatchCmd` follows the tag. Nothing authenticates the tag. With the encrypted member active the two agree,
and a handler gets what was sealed. -/

namespace McuBridge

inductive FrameError where
  | malformed | crcMismatch
  deriving DecidableEq

/-- What `parse_frame` is linked against: CRC-32 and nanopb's decoder of `RpcEnvelope`. -/
structure FrameCodec where
  crc32 : Bytes → UInt32
  decodeEnvelope : Bytes → Option RpcEnvelope

def crcTrailerSize : Nat := 4

/-- `max_size` of `encrypted_payload_with_tag` in `mcubridge.options`. -/
def encryptedMaxSize : Nat := 80

/-- nanopb fails on a bytes field that is longer than its `max_size`. -/
def FrameCodec.Limits (N : FrameCodec) : Prop :=
  ∀ b env c, N.decodeEnvelope b = some env → env.payloadType = .encryptedPayloadWithTag c → c.length ≤ encryptedMaxSize

def readLe32 (b : Bytes) : UInt32 := (b.take 4).foldr (fun x n => n <<< 8 ||| x.toUInt32) 0

/-- `parse_frame` -/
def parseFrame (N : FrameCodec) (buffer : Bytes) : Except FrameError RpcEnvelope :=
  if buffer.length < crcTrailerSize + 2 then .error .malformed
  else
    let crcOffset := buffer.length - crcTrailerSize
    if readLe32 (buffer.drop crcOffset) ≠ N.crc32 (buffer.take crcOffset) then .error .crcMismatch
    else
      match N.decodeEnvelope (buffer.take crcOffset) with
      | none => .error .malformed
      | some env => if env.version ≠ protocolVersion then .error .malformed else .ok env

theorem parseFrame_ok {N : FrameCodec} {buffer : Bytes} {env : RpcEnvelope} (h : parseFrame N buffer = .ok env) :
    crcTrailerSize + 2 ≤ buffer.length ∧
      readLe32 (buffer.drop (buffer.length - crcTrailerSize)) = N.crc32 (buffer.take (buffer.length - crcTrailerSize)) ∧
      N.decodeEnvelope (buffer.take (buffer.length - crcTrailerSize)) = some env ∧ env.version = protocolVersion := by
  unfold parseFrame at h
  split at h
  · cases h
  case isFalse hlen =>
    dsimp only at h
    split at h
    · cases h
    case isFalse hcrc =>
      split at h
      · cases h
      case h_2 env' henv =>
        split at h
        · cases h
        case isFalse hver =>
          cases h
          exact ⟨Nat.not_lt.1 hlen, Decidable.not_not.1 hcrc, henv, Decidable.not_not.1 hver⟩

/-- `which_payload_type` says `encrypted_payload_with_tag`. -/
def PayloadType.isEncrypted : PayloadType → Bool
  | .encryptedPayloadWithTag _ => true
  | _ => false

namespace PbMessage
variable {M : Type}

/-- The message type is one of the typed members of the union. -/
def Typed (d : PbMessage M) : Prop := ∀ b, d.select (.encryptedPayloadWithTag b) = none

theorem read_encrypted (P : Platform) {d : PbMessage M} (hd : d.Typed) (b : Bytes) :
    d.read P (.encryptedPayloadWithTag b) = (P.pbDecode d.tag b).bind d.select := by
  unfold PbMessage.read
  rw [hd b]
  rfl

end PbMessage

namespace Mcu
variable (P : Platform)

/-! ### What the entries of the dispatch table read -/

/-- The handler of the command gets the message of type `d` that `_dispatchCmd` reads from the payload, or no
payload. The two mailbox responses call `_decodePayload` themselves. -/
inductive Reads : UInt16 → Handler → Prop
  | command {M : Type} (cmd : UInt16) (d : PbMessage M) (hd : d.Typed) (f : Hal → CommandContext → M → Mcu → Mcu)
      (ack retr : Bool) : Reads cmd fun hal ctx => dispatchCmd P d (f hal) ctx ack retr
  | noPayload (cmd : UInt16) (f : Hal → CommandContext → Mcu → Mcu) (ack retr : Bool) :
      Reads cmd fun hal ctx => dispatchNoPayload P (f hal) ctx ack retr
  | response {M : Type} {cmd : UInt16} (d : PbMessage M) (hd : d.Typed) (f : M → Mcu → Mcu)
      (hcmd : cmd = Command.mailboxReadResp.toUnderlying ∨ cmd = Command.mailboxAvailableResp.toUnderlying) :
      Reads cmd fun _ ctx => onCmdResponse P d f ctx

/-- Every handler gets its message as a typed member. -/
theorem kDispatchTable_reads : ∀ e ∈ kDispatchTable P, Reads P e.1 e.2 := by
  unfold kDispatchTable
  repeat' refine List.forall_mem_cons.2 ⟨?_, ?_⟩
  all_goals first
    | exact .noPayload _ _ _ _
    | exact .response _ (fun _ => rfl) _ (.inl rfl)
    | exact .response _ (fun _ => rfl) _ (.inr rfl)
    | exact .command _ _ (fun _ => rfl) _ _ _
    | exact List.forall_mem_nil _

/-- The decrypt path is sound for the frame: the encrypted member is read only while it is the active one, the
ciphertext fits `dec_pl`, the frame is dispatched with the authenticated plaintext as its encrypted member, and
every message type reads the decoding of it. -/
structure DecryptSound (s : Mcu) (env : RpcEnvelope) : Prop where
  active : s.doEncrypt env.rawCommand = true → env.payloadType.isEncrypted = true
  fits : s.doEncrypt env.rawCommand = true →
    (P.encryptedView env.payloadType).length - aeadTagSize ≤ maxPayloadSize
  dispatched : s.doEncrypt env.rawCommand = true → ∀ c plain, s.decryptFrame P env = some (c, plain) → ∀ hal,
    step P (.recv hal (some env)) s =
      dispatchCommand P hal { env with payloadType := .encryptedPayloadWithTag plain } (s.acceptCounter c)
  decoded : s.doEncrypt env.rawCommand = true → ∀ c plain, s.decryptFrame P env = some (c, plain) →
    ∀ {M : Type} (d : PbMessage M), d.Typed →
      d.read P (P.encryptedStore env.payloadType plain) = (P.pbDecode d.tag plain).bind d.select

variable {P}

theorem decryptSound_active {s : Mcu} {env : RpcEnvelope} {c : Bytes} (hpay : env.payloadType = .encryptedPayloadWithTag c)
    (hlen : c.length ≤ encryptedMaxSize) : DecryptSound P s env where
  active _ := by rw [hpay]; rfl
  fits _ := by
    rw [hpay]
    show c.length - aeadTagSize ≤ maxPayloadSize
    unfold encryptedMaxSize at hlen
    unfold aeadTagSize maxPayloadSize
    omega
  dispatched hd c plain hdec hal := by
    show s.handleReceivedFrame P hal (some env) = _
    unfold handleReceivedFrame
    dsimp only
    rw [if_pos hd, hdec, hpay]
    rfl
  decoded _ _ plain _ M d hd := by
    rw [hpay]
    exact d.read_encrypted P hd plain

/-- In every state and for every accepted frame, the decrypt path is sound exactly when the frame does not take it
or its active member is the encrypted one. -/
theorem decrypt_sound_iff (P : Platform) (N : FrameCodec) (hN : N.Limits) (s : Mcu) (buffer : Bytes)
    (env : RpcEnvelope) (h : parseFrame N buffer = .ok env) :
    DecryptSound P s env ↔ s.doEncrypt env.rawCommand = false ∨ env.payloadType.isEncrypted = true := by
  constructor
  · intro hs
    cases hd : s.doEncrypt env.rawCommand with
    | false => exact .inl rfl
    | true => exact .inr (hs.active hd)
  · rintro (hd | hact)
    · -- the frame is dispatched as it is
      have hno : s.doEncrypt env.rawCommand ≠ true := by simp [hd]
      exact ⟨fun h => absurd h hno, fun h => absurd h hno, fun h => absurd h hno, fun h => absurd h hno⟩
    · obtain ⟨-, -, hb, -⟩ := parseFrame_ok h
      cases hpay : env.payloadType with
      | encryptedPayloadWithTag c => exact decryptSound_active hpay (hN _ env c hb hpay)
      | _ =>
        rw [hpay] at hact
        cases hact

end Mcu

/-! ### Frames to evaluate -/

namespace Sample

/-- The last field of the frames below: 6 (`encrypted_payload_with_tag`) or 16 (`console_write`). -/
def decodeMember : Bytes → Option PayloadType
  | 50 :: n :: b => if b.length = n.toNat ∧ b.length ≤ encryptedMaxSize then some (.encryptedPayloadWithTag b) else none
  | 130 :: 1 :: n :: b => if b.length = n.toNat then (decodeBytes b).map .consoleWrite else none
  | _ => none

/-- Header fields in order, with values of one byte, and a nonce. -/
def decodeEnvelope : Bytes → Option RpcEnvelope
  | 8 :: v :: 16 :: cmd :: 24 :: seq :: 34 :: 12 :: b =>
    (decodeMember (b.drop 12)).map fun p => ⟨v.toUInt32, cmd.toUInt32, seq.toUInt32, b.take 12, p⟩
  | _ => none

def codec : FrameCodec := ⟨crc32, decodeEnvelope⟩

theorem codec_limits : codec.Limits := by
  intro b env c hb hpay
  have hmember : ∀ {b' : Bytes}, decodeMember b' = some (.encryptedPayloadWithTag c) → c.length ≤ encryptedMaxSize := by
    intro b' h
    unfold decodeMember at h
    split at h
    · split at h
      case isTrue hlen =>
        cases h
        exact hlen.2
      case isFalse => cases h
    · split at h
      · obtain ⟨_, -, h⟩ := Option.map_eq_some_iff.1 h
        cases h
      · cases h
    · cases h
  change decodeEnvelope b = some env at hb
  unfold decodeEnvelope at hb
  split at hb
  · obtain ⟨p, hp, rfl⟩ := Option.map_eq_some_iff.1 hb
    obtain rfl : p = .encryptedPayloadWithTag c := hpay
    exact hmember hp
  · cases hb

/-- The CRC of the bytes is put behind them. -/
def withCrc (b : Bytes) : Bytes :=
  let c := crc32 b
  b ++ [c.toUInt8, (c >>> 8).toUInt8, (c >>> 16).toUInt8, (c >>> 24).toUInt8]

end Sample

/-- `sample` with the layout nanopb gives a message of one bytes field: size and bytes lie where those of
`encrypted_payload_with_tag` lie. -/
def Platform.overlaid : Platform :=
  { Platform.sample with
    unionBytes := fun
      | .consoleWrite d => d
      | _ => []
    unionStore := fun
      | .consoleWrite _, b => .consoleWrite b
      | p, _ => p }

namespace Mcu

/-- The session of the runs below. -/
def inSession : Mcu := runFrom .overlaid [7] true [.recv .sample (some (validSync 1))]

/-- CONSOLE_WRITE `[66]`, sealed by the daemon. -/
def sealedWrite : Bytes := [10, 1, 66] ++ inSession.sessionKey.take 16

/-- Version 2, command 96, sequence id 2 and a nonce with counter 1. -/
def writeHeader : Bytes := [8, 2, 16, 96, 24, 2, 34, 12, 1, 2, 3, 4, 0, 0, 0, 0, 0, 0, 0, 1]

def writeEnvelope (p : PayloadType) : RpcEnvelope := ⟨2, 96, 2, [1, 2, 3, 4, 0, 0, 0, 0, 0, 0, 0, 1], p⟩

/-- The frame of the daemon. -/
def sealedFrame : Bytes := Sample.withCrc (writeHeader ++ [50, 19] ++ sealedWrite)

/-- The same ciphertext as `data` of a `console_write` member. -/
def retaggedFrame : Bytes := Sample.withCrc (writeHeader ++ [130, 1, 21, 10, 19] ++ sealedWrite)

theorem decrypt_sound_iff_sealed :
    inSession.doEncrypt 96 = true ∧ DecryptSound .overlaid inSession (writeEnvelope (.encryptedPayloadWithTag sealedWrite)) :=
  ⟨by decide +kernel, (decrypt_sound_iff .overlaid Sample.codec Sample.codec_limits inSession sealedFrame
    (writeEnvelope (.encryptedPayloadWithTag sealedWrite)) (by decide +kernel)).2 (.inr rfl)⟩

/-- The console gets the encoded message `[10, 1, 66]` in the place of its `data`. -/
theorem retagged_write_misread :
    ¬ ∀ (P : Platform) (N : FrameCodec), N.Limits → ∀ (secret : Bytes) (postOk : Bool) (evs : List McuEvent)
      (buffer : Bytes) (env : RpcEnvelope), parseFrame N buffer = .ok env →
      DecryptSound P (runFrom P secret postOk evs) env := by
  intro h
  have hsound : DecryptSound .overlaid inSession (writeEnvelope (.consoleWrite sealedWrite)) :=
    h .overlaid Sample.codec Sample.codec_limits [7] true [.recv .sample (some (validSync 1))] retaggedFrame
      (writeEnvelope (.consoleWrite sealedWrite)) (by decide +kernel)
  have hread := hsound.decoded (by decide +kernel) 1 [10, 1, 66] (by decide +kernel) PbMessage.consoleWrite
    fun _ => rfl
  exact absurd hread (by decide)

end Mcu
end McuBridge
