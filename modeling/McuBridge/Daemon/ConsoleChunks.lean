import McuBridge.Daemon.ConsoleFlush
import McuBridge.Daemon.FrameCodec
import McuBridge.Lib.Proto

/-! # The size of console chunks (`services/runtime.py`, `protocol/frame.py`)

`_flush_console_queue` cuts the raw bytes at MAX_PAYLOAD_SIZE, and `build_frame` holds the encoded message against the
same bound. The field header takes two bytes of it, so a chunk of 63 or 64 bytes does not fit. -/

namespace McuBridge
namespace Daemon

/-- What `send_raw` gives to `build_frame` beside the payload: the sequence id and the nonce of the n-th frame, and the
key of the session. -/
structure FrameInputs where
  sequenceId : Nat → UInt32
  nonce : Nat → Bytes
  sessionKey : Option Bytes

/-- What `_flush_console_queue` leaves when it returns or raises: the chunks whose frames were built, and the queue. -/
structure Flushed where
  sent : List (Bytes × RpcEnvelope) := []
  queue : List Bytes := []
  raised : Bool := false

namespace FrameInputs
variable (P : Platform) (inputs : FrameInputs)

/-- The frame of a chunk; `none` where `build_frame` raises `ValueError`. -/
def consoleFrame (n : Nat) (chunk : Bytes) : Option RpcEnvelope :=
  buildFrame P Command.consoleWrite.toUnderlying (inputs.sequenceId n) (.message (.consoleWrite chunk)) (inputs.nonce n)
    inputs.sessionKey

/-- The `for` loop over the chunks of a buffer, and whether it ends with an exception. -/
def flushChunks (n : Nat) : List Bytes → List (Bytes × RpcEnvelope) × Bool
  | [] => ([], false)
  | chunk :: chunks =>
    match inputs.consoleFrame P n chunk with
    | none => ([], true)
    | some e =>
      let r := flushChunks (n + 1) chunks
      ((chunk, e) :: r.1, r.2)

/-- `_flush_console_queue` while the MCU does not pause the link and every frame that is built is acknowledged. The
buffer is off the queue before its first chunk is sent. -/
def flushQueue (n : Nat) : List Bytes → Flushed
  | [] => {}
  | buf :: queue =>
    let r := inputs.flushChunks P n (Service.iterChunks buf maxPayloadSize)
    if r.2 then { sent := r.1, queue, raised := true }
    else
      let t := flushQueue (n + r.1.length) queue
      { t with sent := r.1 ++ t.sent }

/-- Nonces have the size the cipher wants, and so has the key of a session that encrypts. -/
structure Sealing : Prop where
  nonce : ∀ n, (inputs.nonce n).length = aeadNonceSize
  key : ∀ k, inputs.sessionKey = some k → k.length = 32

end FrameInputs

/-- The message as proto3 writes it. -/
structure ConsoleFormat (P : Platform) : Prop where
  encode : ∀ d, P.pbEncode (.consoleWrite d) = Proto.encode (Proto.octetsField 1 d)

/-- Everything that was queued is sent, in messages of at most MAX_PAYLOAD_SIZE bytes. -/
structure Flushed.Delivers (P : Platform) (queue : List Bytes) (r : Flushed) : Prop where
  returns : r.raised = false
  drained : r.queue = []
  content : (r.sent.map Prod.fst).flatten = queue.flatten
  fits : ∀ p ∈ r.sent, (P.pbEncode (.consoleWrite p.1)).length ≤ maxPayloadSize

/-- The longest data whose message fits. -/
def maxConsoleData : Nat := maxPayloadSize - 2

/-! ### Chunks -/

theorem mem_iterChunks {chunk buf : Bytes} (h : chunk ∈ Service.iterChunks buf maxPayloadSize) :
    chunk.length ≤ maxPayloadSize ∧ chunk.length ≤ buf.length := by
  obtain ⟨i, -, rfl⟩ := List.mem_map.1 h
  rw [List.length_take, List.length_drop]
  omega

/-- A buffer over the limit has a first chunk over the limit. -/
theorem chunks_fit_iff (buf : Bytes) :
    (∀ chunk ∈ Service.iterChunks buf maxPayloadSize, chunk.length ≤ maxConsoleData) ↔
      buf.length ≤ maxConsoleData := by
  constructor
  · intro hall
    by_contra hlong
    rw [maxConsoleData, maxPayloadSize] at hlong
    have hfirst : buf.take maxPayloadSize ∈ Service.iterChunks buf maxPayloadSize := by
      refine List.mem_map.2 ⟨0, List.mem_range.2 ?_, by simp⟩
      rw [maxPayloadSize]
      omega
    have hlen := hall _ hfirst
    rw [List.length_take, maxConsoleData, maxPayloadSize] at hlen
    omega
  · intro hshort chunk hchunk
    exact Nat.le_trans (mem_iterChunks hchunk).2 hshort

variable {P : Platform}

theorem ConsoleFormat.fits_iff (hF : ConsoleFormat P) {chunk : Bytes} (hlen : chunk.length ≤ maxPayloadSize) :
    (P.pbEncode (.consoleWrite chunk)).length ≤ maxPayloadSize ↔ chunk.length ≤ maxConsoleData := by
  rw [maxPayloadSize] at hlen
  rw [hF.encode, maxConsoleData, maxPayloadSize]
  by_cases hnil : chunk = []
  · subst hnil
    exact iff_of_true (Nat.zero_le _) (Nat.zero_le _)
  · rw [show Proto.octetsField 1 chunk = [⟨1, .octets chunk⟩] from if_neg hnil,
      Proto.encode_octets_length (by decide) (by omega)]
    omega

namespace FrameInputs
variable {inputs : FrameInputs}

/-- `build_frame` takes the chunk if its message fits, or if nothing is encrypted. -/
theorem consoleFrame_isSome_iff (hP : P.toCrypto.Opens) (hF : ConsoleFormat P) (hI : inputs.Sealing) (n : Nat)
    {chunk : Bytes} (hlen : chunk.length ≤ maxPayloadSize) :
    (inputs.consoleFrame P n chunk).isSome = true ↔ inputs.sessionKey = none ∨ chunk.length ≤ maxConsoleData := by
  rw [← hF.fits_iff hlen]
  unfold consoleFrame
  cases hkey : inputs.sessionKey with
  | none => exact iff_of_true rfl (.inl rfl)
  | some k =>
    have hk := hI.key k hkey
    have hne : k ≠ [] := by
      rintro rfl
      cases hk
    have henc : encrypts Command.consoleWrite.toUnderlying (some k) = true := by
      rw [encrypts_some, show k.isEmpty = false by simpa using hne]
      rfl
    have hor : (some k = none ∨ (P.pbEncode (.consoleWrite chunk)).length ≤ maxPayloadSize) ↔
        (P.pbEncode (.consoleWrite chunk)).length ≤ maxPayloadSize := by simp
    rw [hor]
    constructor
    · intro hsome
      by_contra hlong
      have hover : maxPayloadSize < ((Payload.message (.consoleWrite chunk)).serialize P).length :=
        Nat.lt_of_not_le hlong
      rw [encrypts_some] at henc
      unfold buildFrame at hsome
      simp only [henc, if_true] at hsome
      rw [if_pos hover] at hsome
      cases hsome
    · intro hfits
      have hser : ((Payload.message (.consoleWrite chunk)).serialize P).length ≤ maxPayloadSize := hfits
      obtain ⟨c, t, hbuild, -⟩ := buildFrame_encrypted hP (inputs.sequenceId n) henc hk (hI.nonce n) hser
      rw [hbuild]
      rfl

/-! ### The loops -/

theorem flushChunks_sent {n : Nat} {chunks : List Bytes} (h : (inputs.flushChunks P n chunks).2 = false) :
    (inputs.flushChunks P n chunks).1.map Prod.fst = chunks := by
  induction chunks generalizing n with
  | nil => rfl
  | cons chunk chunks ih =>
    unfold flushChunks at h ⊢
    split at h
    · cases h
    · exact congrArg (chunk :: ·) (ih h)

theorem flushChunks_returns_iff {ok : Bytes → Prop} {n : Nat} {chunks : List Bytes}
    (hok : ∀ m, ∀ chunk ∈ chunks, (inputs.consoleFrame P m chunk).isSome = true ↔ ok chunk) :
    (inputs.flushChunks P n chunks).2 = false ↔ ∀ chunk ∈ chunks, ok chunk := by
  induction chunks generalizing n with
  | nil => exact iff_of_true rfl nofun
  | cons chunk chunks ih =>
    have hfirst := hok n chunk List.mem_cons_self
    have hrest := ih (n := n + 1) fun m c hc => hok m c (List.mem_cons_of_mem _ hc)
    unfold flushChunks
    rw [List.forall_mem_cons, ← hrest, ← hfirst]
    cases inputs.consoleFrame P n chunk with
    | none => simp
    | some e => simp

theorem flushQueue_sent {n : Nat} {queue : List Bytes} (h : (inputs.flushQueue P n queue).raised = false) :
    (inputs.flushQueue P n queue).queue = [] ∧
      (inputs.flushQueue P n queue).sent.map Prod.fst =
        queue.flatMap fun buf => Service.iterChunks buf maxPayloadSize := by
  induction queue generalizing n with
  | nil => exact ⟨rfl, rfl⟩
  | cons buf queue ih =>
    unfold flushQueue at h ⊢
    dsimp only at h ⊢
    split at h
    · cases h
    case isFalse hchunks =>
      rw [if_neg hchunks]
      obtain ⟨hdrained, hsent⟩ := ih h
      refine ⟨hdrained, ?_⟩
      rw [List.map_append, flushChunks_sent (Bool.eq_false_iff.2 hchunks), hsent, List.flatMap_cons]

theorem flushQueue_returns_iff {ok : Bytes → Prop} {n : Nat} {queue : List Bytes}
    (hok : ∀ m, ∀ buf ∈ queue, ∀ chunk ∈ Service.iterChunks buf maxPayloadSize,
      (inputs.consoleFrame P m chunk).isSome = true ↔ ok chunk) :
    (inputs.flushQueue P n queue).raised = false ↔
      ∀ buf ∈ queue, ∀ chunk ∈ Service.iterChunks buf maxPayloadSize, ok chunk := by
  induction queue generalizing n with
  | nil => exact iff_of_true rfl nofun
  | cons buf queue ih =>
    have hchunks := flushChunks_returns_iff (n := n) fun m => hok m buf List.mem_cons_self
    rw [List.forall_mem_cons, ← hchunks]
    unfold flushQueue
    dsimp only
    split
    case isTrue h => simp [h]
    case isFalse h =>
      rw [and_iff_right (Bool.eq_false_iff.2 h)]
      exact ih fun m b hb => hok m b (List.mem_cons_of_mem _ hb)

/-- In a session that encrypts, one buffer over the limit ends the flush, and is lost. Without encryption `build_frame`
takes every chunk. -/
theorem flushQueue_raised_iff (hP : P.toCrypto.Opens) (hF : ConsoleFormat P) (hI : inputs.Sealing)
    (queue : List Bytes) :
    (inputs.flushQueue P 0 queue).raised = true ↔
      inputs.sessionKey ≠ none ∧ ∃ buf ∈ queue, maxConsoleData < buf.length := by
  have hreturns := flushQueue_returns_iff (n := 0) fun m buf (_ : buf ∈ queue) chunk hchunk =>
    consoleFrame_isSome_iff hP hF hI m (mem_iterChunks hchunk).1
  rw [← Bool.not_eq_false, hreturns]
  by_cases hkey : inputs.sessionKey = none
  · simp [hkey]
  · simp only [hkey, false_or, chunks_fit_iff]
    simp [hkey]

/-- What is queued for the console arrives in messages within the limit exactly if every buffer has at most 62 bytes. -/
theorem flush_delivers_iff (P : Platform) (hP : P.toCrypto.Opens) (hF : ConsoleFormat P) (inputs : FrameInputs)
    (hI : inputs.Sealing) (queue : List Bytes) :
    (inputs.flushQueue P 0 queue).Delivers P queue ↔ ∀ buf ∈ queue, buf.length ≤ maxConsoleData := by
  have hchunks : (∀ buf ∈ queue, buf.length ≤ maxConsoleData) ↔
      ∀ buf ∈ queue, ∀ chunk ∈ Service.iterChunks buf maxPayloadSize, chunk.length ≤ maxConsoleData :=
    forall₂_congr fun buf _ => (chunks_fit_iff buf).symm
  rw [hchunks]
  constructor
  · intro h buf hbuf chunk hchunk
    have hmem : chunk ∈ (inputs.flushQueue P 0 queue).sent.map Prod.fst := by
      rw [(flushQueue_sent h.returns).2]
      exact List.mem_flatMap.2 ⟨buf, hbuf, hchunk⟩
    obtain ⟨p, hp, rfl⟩ := List.mem_map.1 hmem
    exact (hF.fits_iff (mem_iterChunks hchunk).1).1 (h.fits p hp)
  · intro hall
    have hreturns : (inputs.flushQueue P 0 queue).raised = false := by
      rw [← Bool.not_eq_true, flushQueue_raised_iff hP hF hI]
      rintro ⟨-, buf, hbuf, hlong⟩
      exact Nat.not_le.2 hlong ((chunks_fit_iff buf).1 (hall buf hbuf))
    obtain ⟨hdrained, hsent⟩ := flushQueue_sent hreturns
    refine ⟨hreturns, hdrained, ?_, fun p hp => ?_⟩
    · rw [hsent, List.flatMap_def, List.flatten_flatten, List.map_map]
      congr 1
      exact (List.map_congr_left fun buf _ => ConsoleFlush.iterChunks_flatten buf).trans (List.map_id _)
    · have hmem := List.mem_map_of_mem (f := Prod.fst) hp
      rw [hsent] at hmem
      obtain ⟨buf, hbuf, hchunk⟩ := List.mem_flatMap.1 hmem
      exact (hF.fits_iff (mem_iterChunks hchunk).1).2 (hall buf hbuf _ hchunk)

/-! ### A session to evaluate flushes in -/

def consolePlatform : Platform :=
  { Platform.keyed with
    pbEncode := fun
      | .consoleWrite d => Proto.encode (Proto.octetsField 1 d)
      | p => Platform.keyed.pbEncode p }

theorem consolePlatform_opens : consolePlatform.toCrypto.Opens :=
  ⟨Platform.keyed_opens.seals, Platform.keyed_opens.opens⟩

theorem consolePlatform_format : ConsoleFormat consolePlatform :=
  ⟨fun _ => rfl⟩

def sessionInputs : FrameInputs where
  sequenceId n := n.toUInt32
  nonce n := padTo aeadNonceSize [n.toUInt8]
  sessionKey := some (List.replicate 32 7)

theorem sessionInputs_sealing : sessionInputs.Sealing where
  nonce n := by simp [sessionInputs, padTo, aeadNonceSize]
  key := by
    rintro k ⟨⟩
    rfl

theorem short_buffers_delivered :
    (sessionInputs.flushQueue consolePlatform 0 [List.replicate 62 9, [], [1, 2, 3]]).Delivers consolePlatform
      [List.replicate 62 9, [], [1, 2, 3]] :=
  (flush_delivers_iff consolePlatform consolePlatform_opens consolePlatform_format sessionInputs sessionInputs_sealing
    [List.replicate 62 9, [], [1, 2, 3]]).2 (by decide)

/-- A buffer of 63 bytes is one chunk, which `build_frame` refuses when the buffer is already off the queue. -/
theorem long_buffer_lost :
    ¬(∀ (P : Platform) (inputs : FrameInputs) (buf : Bytes), P.toCrypto.Opens → ConsoleFormat P →
      inputs.Sealing → (inputs.flushQueue P 0 [buf]).Delivers P [buf]) ∧
    (sessionInputs.flushQueue consolePlatform 0 [List.replicate 63 9]).raised = true ∧
    (sessionInputs.flushQueue consolePlatform 0 [List.replicate 63 9]).sent.map Prod.fst = [] ∧
    (sessionInputs.flushQueue consolePlatform 0 [List.replicate 63 9]).queue = [] := by
  have hraised : (sessionInputs.flushQueue consolePlatform 0 [List.replicate 63 9]).raised = true := by decide +kernel
  refine ⟨fun h => ?_, hraised, by decide +kernel, by decide +kernel⟩
  have hdelivers := h consolePlatform sessionInputs (List.replicate 63 9) consolePlatform_opens consolePlatform_format
    sessionInputs_sealing
  rw [hdelivers.returns] at hraised
  cases hraised

end FrameInputs
end Daemon
end McuBridge
