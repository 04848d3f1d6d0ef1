import McuBridge.Wire

/-! # The typed messages on the wire

The messages of the oneof in canonical proto3, the values a message object of Python holds, and the limits of
`mcubridge.options` on what a generated struct of the firmware holds. -/

namespace McuBridge
open Proto

/-! ### Encoding -/

def boolField (number : Nat) (b : Bool) : List Field := uintField number b.toNat

def messageFields : PayloadType → List Field
  | .notSet | .encryptedPayloadWithTag _ | .daemonMetrics _ => []
  | .versionResponse m => uintField 1 m.major.toNat ++ uintField 2 m.minor.toNat ++ uintField 3 m.patch.toNat
  | .freeMemoryResponse value => uintField 1 value.toNat
  | .capabilities m =>
    uintField 1 m.ver.toNat ++ uintField 2 m.arch.toNat ++ uintField 3 m.dig.toNat ++ uintField 4 m.ana.toNat ++
      (m.flags.zipIdx 5).flatMap (fun f => boolField f.2 f.1) ++ uintField 17 m.feat.toNat
  | .pinMode pin mode => uintField 1 pin.toNat ++ uintField 2 mode.toNat
  | .digitalWrite pin value => uintField 1 pin.toNat ++ uintField 2 value.toNat
  | .analogWrite pin value => uintField 1 pin.toNat ++ uintField 2 value.toNat
  | .pinRead pin => uintField 1 pin.toNat
  | .digitalReadResponse value => uintField 1 value.toNat
  | .analogReadResponse value => uintField 1 value.toNat
  | .consoleWrite data => octetsField 1 data
  | .datastorePut key value => octetsField 1 key ++ octetsField 2 value
  | .datastoreGet key => octetsField 1 key
  | .datastoreGetResponse value => octetsField 1 value
  | .mailboxPush data => octetsField 1 data
  | .mailboxProcessed messageId => uintField 1 messageId.toNat
  | .mailboxAvailableResponse count => uintField 1 count.toNat
  | .mailboxReadResponse content => octetsField 1 content
  | .fileWrite path data => octetsField 1 path ++ octetsField 2 data
  | .fileRead path => octetsField 1 path
  | .fileRemove path => octetsField 1 path
  | .fileReadResponse content => octetsField 1 content
  | .processRunAsync command => octetsField 1 command
  | .processRunAsyncResponse pid => uintField 1 pid.toNat
  | .processPoll pid => uintField 1 pid.toNat
  | .processPollResponse m =>
    uintField 1 m.status.toNat ++ uintField 2 m.exitCode.toNat ++ octetsField 3 m.stdoutData ++
      octetsField 4 m.stderrData ++ boolField 5 m.finished ++ boolField 6 m.stdoutTruncated ++
      boolField 7 m.stderrTruncated
  | .processKill pid => uintField 1 pid.toNat
  | .genericResponse status message => octetsField 1 status ++ octetsField 2 message
  | .ackPacket m => uintField 1 m.commandId.toNat
  | .handshakeConfig m =>
    uintField 1 m.ackTimeoutMs.toNat ++ uintField 2 m.ackRetryLimit.toNat ++ uintField 3 m.responseTimeoutMs.toNat
  | .setBaudratePacket baudrate => uintField 1 baudrate.toNat
  | .linkSync m => octetsField 1 m.nonce ++ octetsField 2 m.tag
  | .enterBootloader magic => uintField 1 magic.toNat
  | .spiTransfer data => octetsField 1 data
  | .spiTransferResponse data => octetsField 1 data
  | .spiConfig m => uintField 1 m.bitOrder.toNat ++ uintField 2 m.dataMode.toNat ++ uintField 3 m.frequency.toNat

/-- `DaemonMetrics` is kept as its bytes. -/
def encodeMessage : PayloadType → Bytes
  | .daemonMetrics encoded => encoded
  | m => Proto.encode (messageFields m)

/-! ### Decoding -/

section
variable (fs : List Field)

def lastWord (number : Nat) : UInt32 := UInt32.ofNat (lastUint number fs)

def lastFlag (number : Nat) : Bool := lastUint number fs != 0

/-- The message of a member's number. -/
def readMessage : Nat → Option PayloadType
  | 7 => some (.versionResponse ⟨lastWord fs 1, lastWord fs 2, lastWord fs 3⟩)
  | 8 => some (.freeMemoryResponse (lastWord fs 1))
  | 9 => some (.capabilities ⟨lastWord fs 1, lastWord fs 2, lastWord fs 3, lastWord fs 4,
      (List.range' 5 12).map (lastFlag fs), lastWord fs 17⟩)
  | 10 => some (.pinMode (lastWord fs 1) (lastWord fs 2))
  | 11 => some (.digitalWrite (lastWord fs 1) (lastWord fs 2))
  | 12 => some (.analogWrite (lastWord fs 1) (lastWord fs 2))
  | 13 => some (.pinRead (lastWord fs 1))
  | 14 => some (.digitalReadResponse (lastWord fs 1))
  | 15 => some (.analogReadResponse (lastWord fs 1))
  | 16 => some (.consoleWrite (lastOctets 1 fs))
  | 17 => some (.datastorePut (lastOctets 1 fs) (lastOctets 2 fs))
  | 18 => some (.datastoreGet (lastOctets 1 fs))
  | 19 => some (.datastoreGetResponse (lastOctets 1 fs))
  | 20 => some (.mailboxPush (lastOctets 1 fs))
  | 21 => some (.mailboxProcessed (lastWord fs 1))
  | 22 => some (.mailboxAvailableResponse (lastWord fs 1))
  | 23 => some (.mailboxReadResponse (lastOctets 1 fs))
  | 24 => some (.fileWrite (lastOctets 1 fs) (lastOctets 2 fs))
  | 25 => some (.fileRead (lastOctets 1 fs))
  | 26 => some (.fileRemove (lastOctets 1 fs))
  | 27 => some (.fileReadResponse (lastOctets 1 fs))
  | 28 => some (.processRunAsync (lastOctets 1 fs))
  | 29 => some (.processRunAsyncResponse (lastWord fs 1))
  | 30 => some (.processPoll (lastWord fs 1))
  | 31 => some (.processPollResponse ⟨lastWord fs 1, lastWord fs 2, lastOctets 3 fs, lastOctets 4 fs, lastFlag fs 5,
      lastFlag fs 6, lastFlag fs 7⟩)
  | 32 => some (.processKill (lastWord fs 1))
  | 33 => some (.genericResponse (lastOctets 1 fs) (lastOctets 2 fs))
  | 34 => some (.ackPacket ⟨lastWord fs 1⟩)
  | 35 => some (.handshakeConfig ⟨lastWord fs 1, lastWord fs 2, lastWord fs 3⟩)
  | 36 => some (.setBaudratePacket (lastWord fs 1))
  | 37 => some (.linkSync ⟨lastOctets 1 fs, lastOctets 2 fs⟩)
  | 38 => some (.enterBootloader (lastWord fs 1))
  | 39 => some (.spiTransfer (lastOctets 1 fs))
  | 40 => some (.spiTransferResponse (lastOctets 1 fs))
  | 41 => some (.spiConfig ⟨lastWord fs 1, lastWord fs 2, lastWord fs 3⟩)
  | _ => none

end

def decodeMessage (number : Nat) (b : Bytes) : Option PayloadType :=
  if number = 42 then some (.daemonMetrics b) else (Proto.decode b).bind fun fs => readMessage fs number

/-! ### Values of the fields -/

def isUtf8 (b : Bytes) : Bool := ByteArray.validateUTF8 ⟨b.toArray⟩

/-- A value of the schema: strings are UTF-8, the mode is one of `PinModeType`, and `Capabilities` has its twelve
flags. -/
def PayloadType.wellFormed : PayloadType → Bool
  | .capabilities m => m.flags.length = 12
  | .pinMode _ mode => mode ≤ 2
  | .datastorePut key _ | .datastoreGet key => isUtf8 key
  | .fileWrite path _ | .fileRead path | .fileRemove path => isUtf8 path
  | .processRunAsync command => isUtf8 command
  | .genericResponse status message => isUtf8 status && isUtf8 message
  | _ => true

/-- A string in an array of characters ends at its first zero. -/
def cString (b : Bytes) : Bytes := b.takeWhile (· != 0)

def PayloadType.cStrings : PayloadType → PayloadType
  | .datastorePut key value => .datastorePut (cString key) value
  | .datastoreGet key => .datastoreGet (cString key)
  | .fileWrite path data => .fileWrite (cString path) data
  | .fileRead path => .fileRead (cString path)
  | .fileRemove path => .fileRemove (cString path)
  | .processRunAsync command => .processRunAsync (cString command)
  | .genericResponse status message => .genericResponse (cString status) (cString message)
  | p => p

/-- A bytes field with `max_size` holds that many bytes. -/
def fitsBytes (maxSize : Nat) (b : Bytes) : Bool := b.length ≤ maxSize

/-- A string field with `max_size` holds its terminator too. -/
def fitsString (maxSize : Nat) (b : Bytes) : Bool := b.length < maxSize && cString b == b

/-- The limits of `mcubridge.options`. `daemon_metrics` is no member of the generated struct (`FT_IGNORE`). -/
def PayloadType.withinOptions : PayloadType → Bool
  | .encryptedPayloadWithTag b => fitsBytes 80 b
  | .capabilities m => m.flags.length = 12
  | .consoleWrite data => fitsBytes 64 data
  | .datastorePut key value => fitsString 32 key && fitsBytes 64 value
  | .datastoreGet key => fitsString 32 key
  | .datastoreGetResponse value => fitsBytes 64 value
  | .mailboxPush data => fitsBytes 64 data
  | .mailboxReadResponse content => fitsBytes 64 content
  | .fileWrite path data => fitsString 64 path && fitsBytes 64 data
  | .fileRead path | .fileRemove path => fitsString 64 path
  | .fileReadResponse content => fitsBytes 64 content
  | .processRunAsync command => fitsString 60 command
  | .processPollResponse m => fitsBytes 32 m.stdoutData && fitsBytes 32 m.stderrData
  | .genericResponse status message => fitsString 8 status && fitsString 48 message
  | .linkSync m => fitsBytes 16 m.nonce && fitsBytes 16 m.tag
  | .spiTransfer data | .spiTransferResponse data => fitsBytes 64 data
  | .daemonMetrics _ => false
  | _ => true

def RpcEnvelope.withinOptions (e : RpcEnvelope) : Bool :=
  fitsBytes aeadNonceSize e.nonce && e.payloadType.withinOptions

theorem PayloadType.withinOptions_cStrings {p : PayloadType} (h : p.withinOptions = true) : p.cStrings = p := by
  have hstring : ∀ {n b}, fitsString n b = true → cString b = b := by
    intro n b h
    exact eq_of_beq (Bool.and_eq_true_iff.1 h).2
  cases p with
  | datastorePut key value => rw [cStrings, hstring (Bool.and_eq_true_iff.1 h).1]
  | datastoreGet key => rw [cStrings, hstring h]
  | fileWrite path data => rw [cStrings, hstring (Bool.and_eq_true_iff.1 h).1]
  | fileRead path => rw [cStrings, hstring h]
  | fileRemove path => rw [cStrings, hstring h]
  | processRunAsync command => rw [cStrings, hstring h]
  | genericResponse status message =>
    rw [cStrings, hstring (Bool.and_eq_true_iff.1 h).1, hstring (Bool.and_eq_true_iff.1 h).2]
  | _ => rfl

theorem PayloadType.wellFormed_flags {m : PayloadType} (h : m.wellFormed = true) :
    ∀ c, m = .capabilities c → c.flags.length = 12 := by
  rintro c rfl
  exact of_decide_eq_true h

/-! ### Round trip -/

theorem exists_map_range {l : List Bool} {n : Nat} (h : l.length = n) : ∃ g : Nat → Bool, l = (List.range n).map g := by
  refine ⟨fun i => l.getD i false, List.ext_getElem (by simp [h]) ?_⟩
  intro i hi _
  simp [hi]

/-- A message is read back from its encoding. -/
theorem decodeMessage_encodeMessage {m : PayloadType} (hm : 7 ≤ m.fieldNumber)
    (hflags : ∀ c, m = .capabilities c → c.flags.length = 12) :
    decodeMessage m.fieldNumber (encodeMessage m) = some m := by
  have hword : ∀ n : UInt32, UInt32.ofNat (if n.toNat = 0 then 0 else n.toNat) = n := by
    intro n
    split
    case isTrue h => rw [← h, UInt32.ofNat_toNat]
    case isFalse => exact UInt32.ofNat_toNat
  have hflag : ∀ b : Bool, ((if b = true then b.toNat else 0) != 0) = b := by decide
  have hoctets : ∀ b : Bytes, (if b = [] then [] else b) = b := by
    intro b
    split
    case isTrue h => exact h.symm
    case isFalse => rfl
  cases m with
  | notSet => exact absurd hm (by decide)
  | encryptedPayloadWithTag b => exact absurd hm (by simp [PayloadType.fieldNumber])
  | daemonMetrics b => rfl
  | capabilities c =>
    obtain ⟨ver, arch, dig, ana, flags, feat⟩ := c
    obtain ⟨g, rfl⟩ := exists_map_range (hflags _ rfl)
    have hlist : (List.range 12).map g = [g 0, g 1, g 2, g 3, g 4, g 5, g 6, g 7, g 8, g 9, g 10, g 11] := rfl
    rw [hlist]
    simp [decodeMessage, encodeMessage, PayloadType.fieldNumber, decode_encode, readMessage, messageFields, lastWord,
      lastFlag, boolField, lastUint, hword, hflag, List.range']
  | _ =>
    simp [decodeMessage, encodeMessage, PayloadType.fieldNumber, decode_encode, readMessage, messageFields, lastWord,
      lastFlag, boolField, lastUint, lastOctets, hword, hflag, hoctets]

end McuBridge
