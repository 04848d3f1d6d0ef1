import Mathlib.Algebra.Group.Int.Defs
import Mathlib.Data.List.Basic
import Mathlib.Data.UInt

/-! # The wire protocol (`tools/protocol/mcubridge.proto`)

Status codes, command identifiers, the protobuf messages and the RPC envelope that carries them.
Both peers are generated from this file, so both models import this module. Bytes fields are lists:
the nanopb size limits are bounds on what can arrive and nothing here depends on them. -/

namespace McuBridge

abbrev Bytes := List UInt8

/-! ### Status codes and commands -/

inductive Status where
  | ok | error | cmdUnknown | malformed | overflow | crcMismatch | timeout | notImplemented | ack
  deriving DecidableEq

def Status.toUnderlying : Status → UInt16
  | .ok => 48
  | .error => 49
  | .cmdUnknown => 50
  | .malformed => 51
  | .overflow => 52
  | .crcMismatch => 53
  | .timeout => 54
  | .notImplemented => 55
  | .ack => 56

inductive Command where
  | getVersion | getVersionResp | getFreeMemory | getFreeMemoryResp
  | linkSync | linkSyncResp | linkReset | linkResetResp
  | getCapabilities | getCapabilitiesResp | setBaudrate | setBaudrateResp | enterBootloader
  | xoff | xon
  | setPinMode | digitalWrite | analogWrite | digitalRead | analogRead | digitalReadResp | analogReadResp
  | consoleWrite
  | datastorePut | datastoreGet | datastoreGetResp
  | mailboxRead | mailboxProcessed | mailboxAvailable | mailboxPush | mailboxReadResp | mailboxAvailableResp
  | fileWrite | fileRead | fileRemove | fileReadResp
  | processRunAsync | processPoll | processKill | processRunAsyncResp | processPollResp
  | spiBegin | spiTransfer | spiTransferResp | spiEnd | spiSetConfig
  deriving DecidableEq

def Command.toUnderlying : Command → UInt16
  | .getVersion => 64
  | .getVersionResp => 65
  | .getFreeMemory => 66
  | .getFreeMemoryResp => 67
  | .linkSync => 68
  | .linkSyncResp => 69
  | .linkReset => 70
  | .linkResetResp => 71
  | .getCapabilities => 72
  | .getCapabilitiesResp => 73
  | .setBaudrate => 74
  | .setBaudrateResp => 75
  | .enterBootloader => 76
  | .xoff => 78
  | .xon => 79
  | .setPinMode => 80
  | .digitalWrite => 81
  | .analogWrite => 82
  | .digitalRead => 83
  | .analogRead => 84
  | .digitalReadResp => 85
  | .analogReadResp => 86
  | .consoleWrite => 96
  | .datastorePut => 112
  | .datastoreGet => 113
  | .datastoreGetResp => 114
  | .mailboxRead => 128
  | .mailboxProcessed => 129
  | .mailboxAvailable => 130
  | .mailboxPush => 131
  | .mailboxReadResp => 132
  | .mailboxAvailableResp => 133
  | .fileWrite => 144
  | .fileRead => 145
  | .fileRemove => 146
  | .fileReadResp => 147
  | .processRunAsync => 161
  | .processPoll => 162
  | .processKill => 163
  | .processRunAsyncResp => 165
  | .processPollResp => 166
  | .spiBegin => 176
  | .spiTransfer => 177
  | .spiTransferResp => 178
  | .spiEnd => 179
  | .spiSetConfig => 180

/-- `rpc::is_system_command`: the status codes (48..63) and the system commands (64..79) travel in
the clear in every link state. -/
def isSystemCommand (cmd : UInt16) : Bool :=
  (48 ≤ cmd && cmd ≤ 63) || (64 ≤ cmd && cmd ≤ 79)

/-- The commands whose `cmd_opts` set `requires_ack`. -/
def ackCommands : List Command :=
  [.setBaudrate, .enterBootloader, .setPinMode, .digitalWrite, .analogWrite, .consoleWrite,
    .datastorePut, .mailboxPush, .fileWrite, .spiBegin, .spiEnd, .spiSetConfig]

def requiresAck (id : UInt16) : Bool :=
  ackCommands.any fun c => c.toUnderlying == id

theorem isSystemCommand_status (st : Status) : isSystemCommand st.toUnderlying = true := by
  cases st <;> decide

theorem requiresAck_status (st : Status) : requiresAck st.toUnderlying = false := by
  cases st <;> decide

/-! ### Constants -/

def protocolVersion : UInt32 := 2
def maxPayloadSize : Nat := 64
def aeadNonceSize : Nat := 12
def aeadTagSize : Nat := 16
def handshakeNonceLength : Nat := 16
def handshakeTagLength : Nat := 16
def rxHistorySize : Nat := 1
def fileMaxReadChunks : Nat := 256
def bootloaderMagic : UInt32 := 3735929054

/-- `"mcubridge-v2"` -/
def hkdfSalt : Bytes := [109, 99, 117, 98, 114, 105, 100, 103, 101, 45, 118, 50]
/-- `"handshake-auth"` -/
def hkdfInfoAuth : Bytes := [104, 97, 110, 100, 115, 104, 97, 107, 101, 45, 97, 117, 116, 104]
/-- `"session-key"` -/
def hkdfInfoSession : Bytes := [115, 101, 115, 115, 105, 111, 110, 45, 107, 101, 121]

/-! ### Messages -/

structure AckPacket where
  commandId : UInt32
  deriving DecidableEq

structure LinkSync where
  nonce : Bytes
  tag : Bytes
  deriving DecidableEq

structure HandshakeConfig where
  ackTimeoutMs : UInt32
  ackRetryLimit : UInt32
  responseTimeoutMs : UInt32
  deriving DecidableEq

structure VersionResponse where
  major : UInt32
  minor : UInt32
  patch : UInt32
  deriving DecidableEq

/-- The numeric fields of `Capabilities`, and its twelve flags in field order. -/
structure Capabilities where
  ver : UInt32
  arch : UInt32
  dig : UInt32
  ana : UInt32
  flags : List Bool
  feat : UInt32
  deriving DecidableEq

structure ProcessPollResponse where
  status : UInt32
  exitCode : UInt32
  stdoutData : Bytes
  stderrData : Bytes
  finished : Bool
  stdoutTruncated : Bool
  stderrTruncated : Bool
  deriving DecidableEq

structure SpiConfig where
  bitOrder : UInt32
  dataMode : UInt32
  frequency : UInt32
  deriving DecidableEq

/-- The `payload_type` oneof of `RpcEnvelope`: one constructor a member, `notSet` for tag 0. nanopb skips
`daemon_metrics`, so only the daemon can find it in a frame. -/
inductive PayloadType where
  | notSet
  | encryptedPayloadWithTag (bytes : Bytes)
  | versionResponse (m : VersionResponse)
  | freeMemoryResponse (value : UInt32)
  | capabilities (m : Capabilities)
  | pinMode (pin mode : UInt32)
  | digitalWrite (pin value : UInt32)
  | analogWrite (pin value : UInt32)
  | pinRead (pin : UInt32)
  | digitalReadResponse (value : UInt32)
  | analogReadResponse (value : UInt32)
  | consoleWrite (data : Bytes)
  | datastorePut (key value : Bytes)
  | datastoreGet (key : Bytes)
  | datastoreGetResponse (value : Bytes)
  | mailboxPush (data : Bytes)
  | mailboxProcessed (messageId : UInt32)
  | mailboxAvailableResponse (count : UInt32)
  | mailboxReadResponse (content : Bytes)
  | fileWrite (path data : Bytes)
  | fileRead (path : Bytes)
  | fileRemove (path : Bytes)
  | fileReadResponse (content : Bytes)
  | processRunAsync (command : Bytes)
  | processRunAsyncResponse (pid : UInt32)
  | processPoll (pid : UInt32)
  | processPollResponse (m : ProcessPollResponse)
  | processKill (pid : UInt32)
  | genericResponse (status message : Bytes)
  | ackPacket (m : AckPacket)
  | handshakeConfig (m : HandshakeConfig)
  | setBaudratePacket (baudrate : UInt32)
  | linkSync (m : LinkSync)
  | enterBootloader (magic : UInt32)
  | spiTransfer (data : Bytes)
  | spiTransferResponse (data : Bytes)
  | spiConfig (m : SpiConfig)
  | daemonMetrics (encoded : Bytes)
  deriving DecidableEq

/-- The field number of the active member. -/
def PayloadType.fieldNumber : PayloadType → Nat
  | .notSet => 0
  | .encryptedPayloadWithTag _ => 6
  | .versionResponse _ => 7
  | .freeMemoryResponse _ => 8
  | .capabilities _ => 9
  | .pinMode .. => 10
  | .digitalWrite .. => 11
  | .analogWrite .. => 12
  | .pinRead _ => 13
  | .digitalReadResponse _ => 14
  | .analogReadResponse _ => 15
  | .consoleWrite _ => 16
  | .datastorePut .. => 17
  | .datastoreGet _ => 18
  | .datastoreGetResponse _ => 19
  | .mailboxPush _ => 20
  | .mailboxProcessed _ => 21
  | .mailboxAvailableResponse _ => 22
  | .mailboxReadResponse _ => 23
  | .fileWrite .. => 24
  | .fileRead _ => 25
  | .fileRemove _ => 26
  | .fileReadResponse _ => 27
  | .processRunAsync _ => 28
  | .processRunAsyncResponse _ => 29
  | .processPoll _ => 30
  | .processPollResponse _ => 31
  | .processKill _ => 32
  | .genericResponse .. => 33
  | .ackPacket _ => 34
  | .handshakeConfig _ => 35
  | .setBaudratePacket _ => 36
  | .linkSync _ => 37
  | .enterBootloader _ => 38
  | .spiTransfer _ => 39
  | .spiTransferResponse _ => 40
  | .spiConfig _ => 41
  | .daemonMetrics _ => 42

structure RpcEnvelope where
  version : UInt32
  commandId : UInt32
  sequenceId : UInt32
  nonce : Bytes
  payloadType : PayloadType
  deriving DecidableEq

/-- The sixteen bits of `command_id` the firmware works with. -/
def RpcEnvelope.rawCommand (e : RpcEnvelope) : UInt16 := e.commandId.toUInt16

/-! ### The counter in an AEAD nonce -/

/-- A 64-bit counter in big-endian byte order. -/
def be64 (c : UInt64) : Bytes :=
  [(c >>> 56).toUInt8, (c >>> 48).toUInt8, (c >>> 40).toUInt8, (c >>> 32).toUInt8,
    (c >>> 24).toUInt8, (c >>> 16).toUInt8, (c >>> 8).toUInt8, c.toUInt8]

def readBe64 (b : Bytes) : UInt64 :=
  b.foldl (fun acc x => acc * 256 + x.toUInt64) 0

/-- The bytes of a counter, read from the most significant one on. -/
theorem foldl_be64 (c : UInt64) : (be64 c).foldl (fun n x => n * 256 + x.toNat) 0 = c.toNat := by
  have hshift : ∀ k : UInt64, k.toNat < 64 → (c >>> k).toNat = c.toNat / 2 ^ k.toNat := by
    intro k hk
    rw [UInt64.toNat_shiftRight, Nat.mod_eq_of_lt hk, Nat.shiftRight_eq_div_pow]
  -- one byte more
  have hstep : ∀ k l : UInt64, k.toNat + 8 = l.toNat → l.toNat < 64 →
      (c >>> l).toNat * 256 + (c >>> k).toUInt8.toNat = (c >>> k).toNat := by
    intro k l hkl hl
    rw [UInt64.toNat_toUInt8, hshift l hl, hshift k (by omega), ← hkl, Nat.pow_add, ← Nat.div_div_eq_div_mul]
    exact Nat.div_add_mod' _ _
  have htop : (c >>> 56).toUInt8.toNat = (c >>> 56).toNat := by
    have hlt : (c >>> 56).toNat < 256 := by
      rw [hshift 56 (by decide)]
      exact Nat.div_lt_of_lt_mul c.toNat_lt
    rw [UInt64.toNat_toUInt8]
    exact Nat.mod_eq_of_lt hlt
  have hlast : (c >>> 8).toNat * 256 + c.toUInt8.toNat = c.toNat := by
    rw [UInt64.toNat_toUInt8, hshift 8 (by decide)]
    exact Nat.div_add_mod' _ _
  unfold be64
  iterate 8 rw [List.foldl_cons]
  rw [List.foldl_nil, Nat.zero_mul, Nat.zero_add, htop, hstep 48 56 rfl (by decide), hstep 40 48 rfl (by decide),
    hstep 32 40 rfl (by decide), hstep 24 32 rfl (by decide), hstep 16 24 rfl (by decide), hstep 8 16 rfl (by decide),
    hlast]

theorem readBe64_toNat (b : Bytes) : (readBe64 b).toNat = b.foldl (fun n x => n * 256 + x.toNat) 0 % 2 ^ 64 := by
  have hfold : ∀ (a : UInt64) (n : Nat), a.toNat = n % 2 ^ 64 →
      (b.foldl (fun acc x => acc * 256 + x.toUInt64) a).toNat = b.foldl (fun n x => n * 256 + x.toNat) n % 2 ^ 64 := by
    induction b with
    | nil => exact fun _ _ h => h
    | cons x b ih =>
      intro a n h
      refine ih _ _ ?_
      rw [UInt64.toNat_add, UInt64.toNat_mul, h, UInt8.toNat_toUInt64]
      simp
  exact hfold 0 0 rfl

theorem readBe64_be64 (c : UInt64) : readBe64 (be64 c) = c := by
  apply UInt64.toNat_inj.1
  rw [readBe64_toNat, foldl_be64]
  exact Nat.mod_eq_of_lt c.toNat_lt

/-- An envelope on the serial line. For the record, `ticket` says what it is a copy of (a reliable frame of
the firmware, a call of the daemon) and `sealNo` which encryption it came out of; both count in its
sender's records. -/
structure Sent where
  env : RpcEnvelope
  ticket : Option Nat
  sealNo : Option Nat
  deriving DecidableEq

end McuBridge
