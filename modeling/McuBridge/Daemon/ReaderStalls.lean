import McuBridge.Daemon.ReadLoop

/-! # When the read loop waits

`Reader.Stalls` is the exact condition: function by function, from `send_raw` up to `_process_packet`. A packet
that does not make the reader wait does what `Link.processPacket` says. -/

namespace McuBridge
namespace Daemon

namespace Link
variable {P : Platform} {random : Nat → UInt32} {d t : Link} {io : Io} {next : Link → Progress}

/-- What the waits depend on is the same in `t`. -/
structure SameFlow (d t : Link) : Prop where
  serial : t.serial = d.serial
  paused : t.service.mcuIsPaused = d.service.mcuIsPaused
  current : t.current = d.current

theorem SameFlow.trans {u : Link} (h : SameFlow d t) (h' : SameFlow t u) : SameFlow d u :=
  ⟨h'.serial.trans h.serial, h'.paused.trans h.paused, h'.current.trans h.current⟩

theorem SameFlow.txBlocked (h : SameFlow d t) : t.txBlocked = d.txBlocked := by
  unfold Link.txBlocked
  rw [h.serial, h.paused]

theorem sendRaw_sameFlow (writes : Bool) (cmd : UInt16) (payload : Payload) (seq : Option UInt32) (ticket : Option Nat) :
    SameFlow d (d.sendRaw P random writes cmd payload seq ticket).1 := by
  obtain ⟨_, _, _, _, h, -⟩ := sendRaw_frame P random d writes cmd payload seq ticket
  rw [h]
  exact ⟨rfl, rfl, rfl⟩

theorem nextNonce_eq (cmd : UInt16) :
    ∃ f : Bytes → Link, d.nextNonce random cmd = (d.frameNonce random cmd).map (fun nonce => (f nonce, nonce)) ∧
      ∀ nonce, (f nonce).sessionKey = d.sessionKey := by
  unfold nextNonce frameNonce
  split
  · refine ⟨fun nonce => { d with linkNonceCounter := d.linkNonceCounter + 1 }, ?_, fun _ => rfl⟩
    unfold generateNonceWithCounter
    split <;> rfl
  · exact ⟨fun _ => d, rfl, fun _ => rfl⟩

theorem sendRaw_result (writes : Bool) (cmd : UInt16) (payload : Payload) (seq : Option UInt32) (ticket : Option Nat) :
    (d.sendRaw P random writes cmd payload seq ticket).2 =
      if !d.serial then .failed
      else if !d.frameBuilds P random cmd payload seq then .raised
      else if writes then .sent else .failed := by
  unfold sendRaw
  cases hserial : d.serial
  · rfl
  rw [if_neg (by decide), if_neg (by decide)]
  obtain ⟨f, hnext, hkey⟩ := @nextNonce_eq random (d.nextSequenceId seq).1 cmd
  have hnonce : (d.nextSequenceId seq).1.frameNonce random cmd = d.frameNonce random cmd := by cases seq <;> rfl
  have hsession : (d.nextSequenceId seq).1.sessionKey = d.sessionKey := by cases seq <;> rfl
  unfold frameBuilds
  dsimp only
  rw [hnext, hnonce]
  cases d.frameNonce random cmd with
  | none => rfl
  | some nonce =>
    simp only [Option.map_some, Option.any_some]
    rw [hkey, hsession]
    split
    case h_1 hbuild => simp [hbuild]
    case h_2 env hbuild =>
      unfold write
      cases writes <;> simp [hbuild]

/-! ### The waits, function by function -/

theorem awaitTx_blocked (h : d.txBlocked = true) : d.awaitTx next = { link := d, wait := some .xon } := by
  unfold awaitTx
  rw [if_pos h]

theorem awaitTx_free (h : d.txBlocked = false) : d.awaitTx next = next d := by
  unfold awaitTx
  rw [if_neg (by rw [h]; decide)]

theorem awaitTx_wait (h : (next d).wait = none) : (d.awaitTx next).wait.isSome = d.txBlocked := by
  cases hb : d.txBlocked
  · rw [awaitTx_free hb, h]
    rfl
  · rw [awaitTx_blocked hb]
    rfl

theorem awaitAck_wait (cmd seq : UInt32) (returnsFalse : Bool) :
    (d.awaitAck P random io cmd seq returnsFalse).wait.isSome =
      (!(returnsFalse || isStatusValue cmd) && d.txBlocked) := by
  unfold awaitAck
  split
  case isTrue h => simp [h]
  case isFalse h =>
    rw [awaitTx_wait rfl]
    simp [h]

theorem awaitReplies_free (writes : Bool) (hd : d.txBlocked = false)
    (hnext : ∀ t, SameFlow d t → (next t).wait = none) (replies : List (UInt16 × Payload)) :
    (awaitReplies P random writes next replies d).wait = none := by
  induction replies generalizing d with
  | nil => exact hnext d ⟨rfl, rfl, rfl⟩
  | cons x rest ih =>
    unfold awaitReplies
    rw [awaitTx_free hd]
    dsimp only
    have hsend := @sendRaw_sameFlow P random d writes x.1 x.2 none none
    split
    · rfl
    · exact ih (hsend.txBlocked.trans hd) fun t ht => hnext t (hsend.trans ht)

theorem awaitReplies_wait (cmd seq : UInt32) (returnsFalse : Bool) (replies : List (UInt16 × Payload)) :
    (awaitReplies P random io.writes (awaitAck P random io cmd seq returnsFalse) replies d).wait.isSome = true ↔
      d.txBlocked = true ∧ (replies ≠ [] ∨ (returnsFalse || isStatusValue cmd) = false) := by
  cases hd : d.txBlocked
  · rw [awaitReplies_free io.writes hd]
    · simp
    · intro t ht
      have hack := @awaitAck_wait P random t io cmd seq returnsFalse
      rw [ht.txBlocked, hd, Bool.and_false] at hack
      simpa using hack
  · cases replies with
    | nil =>
      show (d.awaitAck P random io cmd seq returnsFalse).wait.isSome = true ↔ _
      rw [awaitAck_wait, hd]
      simp
    | cons x rest =>
      unfold awaitReplies
      rw [awaitTx_blocked hd]
      simp

theorem iterChunks_head {buf : Bytes} (hbuf : buf ≠ []) :
    ∃ rest, Service.iterChunks buf maxPayloadSize = buf.take maxPayloadSize :: rest := by
  have hlen : 0 < buf.length := List.length_pos_iff.2 hbuf
  obtain ⟨k, hk⟩ : ∃ k, (buf.length + maxPayloadSize - 1) / maxPayloadSize = k + 1 :=
    Nat.exists_eq_add_one.2 (Nat.div_pos (by unfold maxPayloadSize; omega) (by decide))
  unfold Service.iterChunks
  rw [hk, List.range_succ_eq_map, List.map_cons, Nat.zero_mul, List.drop_zero]
  exact ⟨_, rfl⟩

theorem onCompletion_eq : ∃ c rs, d.onCompletion = { d with current := c, results := rs } := by
  unfold onCompletion
  split
  · split
    · exact ⟨_, _, rfl⟩
    split
    · exact ⟨_, _, rfl⟩
    split
    · exact ⟨_, _, rfl⟩
    · unfold retryLater
      split <;> exact ⟨_, _, rfl⟩
  · exact ⟨_, _, rfl⟩

theorem onCompletion_setConsoleQueue (q : List Bytes) :
    (d.setConsoleQueue q).onCompletion = d.onCompletion.setConsoleQueue q := by
  unfold onCompletion
  dsimp only [setConsoleQueue]
  split
  · split
    · rfl
    split
    · rfl
    split
    · rfl
    · unfold retryLater
      dsimp only
      split <;> rfl
  · rfl

/-- A tracked call of `send` ends in a wait when the lock is taken, or when its frame is written. -/
theorem send_current {cmd : UInt16} (hcmd : isTracked cmd = true) (hserial : d.serial = true) (writes : Bool)
    (payload : Payload) :
    (d.send P random writes cmd payload).current.isSome =
      (d.current.isSome || writes && d.frameBuilds P random cmd payload none) := by
  unfold send
  rw [if_neg (by rw [hserial]; decide), if_neg (by rw [hcmd]; decide)]
  split
  case isTrue h => simp [h]
  case isFalse h =>
    have hres := @sendRaw_result P random { d with calls := d.calls + 1 } writes cmd payload none
      (some d.calls)
    rw [if_neg (by simp [hserial])] at hres
    have hb : ({ d with calls := d.calls + 1 } : Link).frameBuilds P random cmd payload none =
      d.frameBuilds P random cmd payload none := rfl
    rw [hb] at hres
    unfold sendAttempt
    dsimp only
    rw [hres]
    cases d.frameBuilds P random cmd payload none <;> cases writes <;> simp [finish, h]

theorem sendAttempt_paused (writes : Bool) (c : Call) :
    (d.sendAttempt P random writes c).service.mcuIsPaused = d.service.mcuIsPaused := by
  have hsend : ∀ pending : PendingCommand, (d.sendRaw P random writes pending.commandId c.payload none
      (some c.ticket)).1.service.mcuIsPaused = d.service.mcuIsPaused := fun _ => (sendRaw_sameFlow ..).paused
  unfold sendAttempt
  dsimp only
  split <;> exact hsend _

theorem send_paused (writes : Bool) (cmd : UInt16) (payload : Payload) :
    (d.send P random writes cmd payload).service.mcuIsPaused = d.service.mcuIsPaused := by
  unfold send
  split
  · rfl
  split
  · exact (sendRaw_sameFlow ..).paused
  split
  · rfl
  · exact sendAttempt_paused ..

theorem consoleChunk_current (hserial : d.serial = true) (rest : List Bytes) (writes : Bool) (chunk : Bytes) :
    ((d.onCompletion.setConsoleQueue rest).send P random writes Command.consoleWrite.toUnderlying
      (.message (.consoleWrite chunk))).current.isSome =
      (d.lockHeld || writes &&
        d.frameBuilds P random Command.consoleWrite.toUnderlying (.message (.consoleWrite chunk)) none) := by
  obtain ⟨c, rs, heq⟩ := onCompletion_eq (d := d)
  have hbuilds : (d.onCompletion.setConsoleQueue rest).frameBuilds P random Command.consoleWrite.toUnderlying
      (.message (.consoleWrite chunk)) none =
      d.frameBuilds P random Command.consoleWrite.toUnderlying (.message (.consoleWrite chunk)) none := by
    rw [heq]
    rfl
  have htracked : isTracked Command.consoleWrite.toUnderlying = true := by decide
  have hopen : (d.onCompletion.setConsoleQueue rest).serial = true := by
    rw [heq]
    exact hserial
  rw [send_current htracked hopen, hbuilds]
  rfl

theorem consoleChunk_paused (rest : List Bytes) (writes : Bool) (chunk : Bytes) :
    ((d.onCompletion.setConsoleQueue rest).send P random writes Command.consoleWrite.toUnderlying
      (.message (.consoleWrite chunk))).service.mcuIsPaused = d.service.mcuIsPaused := by
  obtain ⟨c, rs, heq⟩ := onCompletion_eq (d := d)
  rw [send_paused, heq]
  rfl

theorem awaitFlush_wait (writes : Bool) (hpaused : d.service.mcuIsPaused = false)
    (hnext : ∀ t, t.service.mcuIsPaused = false → (next t).wait = none) (q : List Bytes) :
    (awaitFlush P random writes next q d).wait.isSome = true ↔
      d.serial = true ∧ ∃ chunk, nextChunk q = some chunk ∧ (d.lockHeld = true ∨ writes = true ∧
        d.frameBuilds P random Command.consoleWrite.toUnderlying (.message (.consoleWrite chunk)) none = true) := by
  induction q with
  | nil =>
    unfold awaitFlush
    rw [hnext (d.setConsoleQueue []) hpaused]
    simp [nextChunk]
  | cons buf rest ih =>
    by_cases hbuf : buf = []
    · subst hbuf
      exact ih
    · obtain ⟨chunks, hchunks⟩ := iterChunks_head hbuf
      have hchunk : nextChunk (buf :: rest) = some (buf.take maxPayloadSize) := by simp [nextChunk, hbuf]
      unfold awaitFlush
      rw [hchunks, hchunk]
      dsimp only
      cases hserial : d.serial
      · rw [if_pos (by decide), hnext (d.setConsoleQueue (buf :: rest)) hpaused]
        simp
      · rw [if_neg (by decide), onCompletion_setConsoleQueue]
        have hsend := @consoleChunk_current P random d hserial rest writes (buf.take maxPayloadSize)
        have hpause := @consoleChunk_paused P random d rest writes (buf.take maxPayloadSize)
        generalize (d.onCompletion.setConsoleQueue rest).send P random writes Command.consoleWrite.toUnderlying
          (.message (.consoleWrite (buf.take maxPayloadSize))) = t at hsend hpause
        have hfree : t.service.mcuIsPaused = false := hpause.trans hpaused
        split
        case isTrue h =>
          rw [h] at hsend
          simpa using hsend.symm
        case isFalse h =>
          rw [Bool.not_eq_true] at h
          rw [h] at hsend
          have hlast : (if (t.results.getLast?.map Prod.snd) = some .raised then ({ link := t } : Progress)
              else next (t.setConsoleQueue (buf :: rest))).wait = none := by
            split
            · rfl
            · exact hnext _ hfree
          rw [hlast]
          simpa using hsend

theorem lockHeld_congr (hcur : t.current = d.current) (hmax : t.maxAttempts = d.maxAttempts) :
    t.lockHeld = d.lockHeld := by
  unfold lockHeld onCompletion
  rw [hcur]
  split
  case h_1 c hc =>
    split
    · rw [hcur]
    split
    · rfl
    split
    · rfl
    · unfold retryLater
      rw [hmax]
      split <;> rfl
  case h_2 => rw [hcur]

theorem toUInt16_toUInt32_of_lt {cmd : UInt32} (h : cmd < 65536) : cmd.toUInt16.toUInt32 = cmd := by
  have hlt : cmd.toNat < 65536 := UInt32.lt_iff_toNat_lt.1 h
  apply UInt32.toNat_inj.1
  simp only [UInt16.toNat_toUInt32, UInt32.toNat_toUInt16]
  omega

theorem registered_spec {cmd : UInt32} {handler : McuHandler} (h : registered cmd = some handler) :
    Service.HandlerSpec cmd.toUInt16 handler ∧ cmd.toUInt16.toUInt32 = cmd := by
  unfold registered at h
  split at h
  case isTrue hlt => exact ⟨Service.lookup_spec h, toUInt16_toUInt32_of_lt hlt⟩
  case isFalse => cases h

/-- XON resumes the link before anything is sent, so only the console can make it wait. -/
theorem awaitHandler_xon (seq : UInt32) (p : Payload) :
    (d.awaitHandler P random io Service.handleMcuXon Command.xon.toUnderlying.toUInt32 seq p).wait.isSome = true ↔
      d.serial = true ∧ ∃ chunk, nextChunk d.service.consoleToMcuQueue = some chunk ∧ (d.lockHeld = true ∨
        io.writes = true ∧
          d.frameBuilds P random Command.consoleWrite.toUnderlying (.message (.consoleWrite chunk)) none = true) := by
  unfold awaitHandler
  dsimp only [Service.handleMcuXon]
  rw [if_pos rfl, awaitFlush_wait io.writes rfl]
  · have hlock : Link.lockHeld { d with
        service := { d.service with mcuIsPaused := false }
        executed := d.executed ++ [(Command.xon.toUnderlying.toUInt32, seq)] } = d.lockHeld := lockHeld_congr rfl rfl
    rw [hlock]
    rfl
  · intro t ht
    have hack := @awaitAck_wait P random t io
      Command.xon.toUnderlying.toUInt32 seq false
    simpa [txBlocked, ht] using hack

/-- XOFF pauses the link before its own acknowledgment. -/
theorem awaitHandler_xoff (seq : UInt32) (p : Payload) :
    (d.awaitHandler P random io Service.handleMcuXoff Command.xoff.toUnderlying.toUInt32 seq p).wait.isSome = true ↔
      d.serial = true := by
  unfold awaitHandler
  dsimp only [Service.handleMcuXoff]
  rw [if_neg (by decide), awaitReplies_wait]
  have hst : isStatusValue Command.xoff.toUnderlying.toUInt32 = false := rfl
  simp [txBlocked, hst]

theorem awaitHandler_wait {cmd : UInt32} {handler : McuHandler} (hreg : registered cmd = some handler)
    (hxon : cmd ≠ Command.xon.toUnderlying.toUInt32) (hxoff : cmd ≠ Command.xoff.toUnderlying.toUInt32)
    (seq : UInt32) (p : Payload) :
    (d.awaitHandler P random io handler cmd seq p).wait.isSome = true ↔
      Service.raisesOn io.host cmd.toUInt16 p = false ∧ d.txBlocked = true ∧
        Service.answered io.host cmd.toUInt16 = true := by
  obtain ⟨hspec, hcmd⟩ := registered_spec hreg
  have hsome := hspec.isSome io.host (d.serial && io.writes) p d.service
  unfold awaitHandler
  dsimp only
  split
  case h_1 hr =>
    rw [hr] at hsome
    have hraises : Service.raisesOn io.host cmd.toUInt16 p = true := by simpa using hsome
    simp [hraises]
  case h_2 r hr =>
    rw [hr] at hsome
    have hraises : Service.raisesOn io.host cmd.toUInt16 p = false := by simpa using hsome
    have hpaused := hspec.paused hr (fun h => hxon (by rw [← hcmd, h])) fun h => hxoff (by rw [← hcmd, h])
    have hanswers := hspec.answers hr
    rw [hcmd] at hanswers
    rw [if_neg hxon, awaitReplies_wait, hraises, hanswers]
    simp only [txBlocked, hpaused, true_and]

theorem handleLinkSyncResp_ignored {payload : Payload} (h : d.ignoresSyncResp io payload = true) (seq : UInt32) :
    d.handleLinkSyncResp P random io seq payload = (d, false) := by
  unfold ignoresSyncResp at h
  unfold handleLinkSyncResp
  dsimp only
  split at h
  · cases h
  case h_2 expected hexp =>
    rw [Bool.and_eq_true] at h
    obtain ⟨hthrottle, h⟩ := h
    simp only [hexp]
    rw [if_neg (by simpa using hthrottle)]
    split at h
    case h_1 m hm =>
      simp only [hm]
      exact if_pos (by simpa using h)
    case h_2 hm =>
      simp only [hm]
      split at h
      · rfl
      · cases h

theorem setFsmState_sameFlow (new : HandshakeState) : SameFlow d (d.setFsmState new) := by
  unfold setFsmState
  split <;> exact ⟨rfl, rfl, rfl⟩

theorem handleHandshakeFailure_sameFlow : SameFlow d d.handleHandshakeFailure :=
  have h := setFsmState_sameFlow (d := d) .fault
  ⟨h.serial, h.paused, h.current⟩

theorem acknowledge_sameFlow (writes : Bool) (cmd seq : UInt32) (st : Status) :
    SameFlow d (d.acknowledge P random writes cmd seq st) :=
  sendRaw_sameFlow ..

theorem handleLinkSyncResp_sameFlow (seq : UInt32) (payload : Payload) :
    SameFlow d (d.handleLinkSyncResp P random io seq payload).1 := by
  have hack := @acknowledge_sameFlow P random d io.writes
    Command.linkSyncResp.toUnderlying.toUInt32 seq .malformed
  have hfail : ∀ t, SameFlow d t → SameFlow d t.handleHandshakeFailure := fun t ht =>
    ht.trans handleHandshakeFailure_sameFlow
  unfold handleLinkSyncResp
  dsimp only
  split
  · exact hfail _ hack
  split
  · exact hfail _ hack
  split
  · split
    · exact ⟨rfl, rfl, rfl⟩
    · exact hfail _ ⟨hack.serial, hack.paused, hack.current⟩
  split
  · exact ⟨rfl, rfl, rfl⟩
  split
  · exact hfail _ ⟨hack.serial, hack.paused, hack.current⟩
  case isFalse m _ _ _ =>
    have hkey : SameFlow d (if d.sharedSecret.isEmpty then d
        else { d with linkSessionKey := some (P.deriveSessionKey d.sharedSecret m.nonce) }) := by
      split <;> exact ⟨rfl, rfl, rfl⟩
    have hsync := hkey.trans (setFsmState_sameFlow .synchronized)
    exact ⟨hsync.serial, hsync.paused, hsync.current⟩

theorem awaitLinkSyncResp_wait (cmd seq : UInt32) (payload : Payload) :
    (d.awaitLinkSyncResp P random io cmd seq payload).wait.isSome = true ↔
      d.txBlocked = true ∧ d.ignoresSyncResp io payload = false := by
  unfold awaitLinkSyncResp
  dsimp only
  have hignores : Link.ignoresSyncResp io payload { d with executed := d.executed ++ [(cmd, seq)] } =
    d.ignoresSyncResp io payload := rfl
  split
  case isTrue h =>
    have hnot : d.ignoresSyncResp io payload = false := by
      by_contra hno
      rw [handleLinkSyncResp_ignored (by rw [hignores]; simpa using hno)] at h
      cases h
    rw [awaitTx_wait rfl, (handleLinkSyncResp_sameFlow seq payload).txBlocked, hnot]
    simp [txBlocked]
  case isFalse =>
    rw [hignores]
    split
    case isTrue h => simp [h]
    case isFalse h =>
      rw [awaitTx_wait rfl]
      simp [h, txBlocked]

theorem decodePayload_flow {cmd : UInt32} (payload : Payload)
    (h : cmd = Command.xon.toUnderlying.toUInt32 ∨ cmd = Command.xoff.toUnderlying.toUInt32) :
    decodePayload io.host cmd.toUInt16 payload = some payload := by
  rcases h with rfl | rfl <;> cases payload <;> rfl

theorem sends_registered {cmd : UInt32} {payload : Payload} {handler : McuHandler}
    (hcmd : cmd ≠ Command.linkSyncResp.toUnderlying.toUInt32) (hreg : registered cmd = some handler) :
    d.Sends io cmd payload ↔ Service.answered io.host cmd.toUInt16 = true ∧
      ∃ p, decodePayload io.host cmd.toUInt16 payload = some p ∧ Service.raisesOn io.host cmd.toUInt16 p = false := by
  unfold Sends
  rw [if_neg hcmd, if_pos (by rw [hreg]; rfl)]

theorem sends_unregistered {cmd : UInt32} {payload : Payload} (hcmd : cmd ≠ Command.linkSyncResp.toUnderlying.toUInt32)
    (hreg : registered cmd = none) : d.Sends io cmd payload ↔ responseToRequest cmd = none := by
  unfold Sends
  rw [if_neg hcmd, if_neg (by rw [hreg]; decide)]

theorem awaitRegistered_wait {cmd : UInt32} {handler : McuHandler} (hcmd : cmd ≠ Command.linkSyncResp.toUnderlying.toUInt32)
    (hreg : registered cmd = some handler) (seq : UInt32) (payload : Payload) :
    (match decodePayload io.host cmd.toUInt16 payload with
      | none => ({ link := d } : Progress)
      | some p => d.awaitHandler P random io handler cmd seq p).wait.isSome = true ↔
      d.FrameStalls P random io cmd payload := by
  unfold FrameStalls
  by_cases hxon : cmd = Command.xon.toUnderlying.toUInt32
  · subst hxon
    cases hreg
    rw [decodePayload_flow payload (.inl rfl), if_pos rfl]
    exact awaitHandler_xon seq payload
  by_cases hxoff : cmd = Command.xoff.toUnderlying.toUInt32
  · subst hxoff
    cases hreg
    rw [decodePayload_flow payload (.inr rfl), if_neg hxon, if_pos rfl, and_true]
    exact awaitHandler_xoff seq payload
  rw [if_neg hxon, if_neg hxoff, sends_registered hcmd hreg]
  cases hdec : decodePayload io.host cmd.toUInt16 payload with
  | none => simp
  | some p =>
    dsimp only
    rw [awaitHandler_wait hreg hxon hxoff]
    simp only [txBlocked, Bool.and_eq_true, Option.some.injEq, exists_eq_left']
    tauto

theorem awaitMcuFrame_wait (cmd seq : UInt32) (payload : Payload) :
    (d.awaitMcuFrame P random io cmd seq payload).wait.isSome = true ↔
      d.service.serial = true ∧ (d.isSynchronized || isStatusValue cmd || preSyncAllowed cmd) = true ∧
        d.FrameStalls P random io cmd payload := by
  unfold awaitMcuFrame
  cases hserial : d.service.serial
  · simp
  cases hadm : d.isSynchronized || isStatusValue cmd || preSyncAllowed cmd
  · simp
  rw [if_neg (by decide), if_neg (by decide)]
  simp only [true_and]
  split
  case isTrue hcmd =>
    subst hcmd
    unfold FrameStalls Sends
    rw [awaitLinkSyncResp_wait, if_neg (by decide), if_neg (by decide), if_pos rfl]
    simp only [txBlocked, Bool.and_eq_true, and_assoc]
  case isFalse hcmd =>
    split
    case h_1 handler hreg => exact awaitRegistered_wait hcmd hreg seq payload
    case h_2 hreg =>
      have hne : ∀ {c : UInt32}, (registered c).isSome → cmd ≠ c := by
        rintro c hc rfl
        rw [hreg] at hc
        cases hc
      unfold FrameStalls
      rw [if_neg (hne rfl), if_neg (hne rfl), sends_unregistered hcmd hreg]
      split
      case isTrue h =>
        rw [awaitTx_wait rfl]
        simp [txBlocked, Option.isNone_iff_eq_none.1 h]
      case isFalse h =>
        rw [Option.isNone_iff_eq_none] at h
        simp [h]

/-- A system command travels in the clear, so only raw bytes can be too long for it. -/
theorem frameBuilds_system {cmd : UInt16} (hcmd : isSystemCommand cmd = true) {payload : Payload}
    (hfits : ∀ b, payload = .bytes b → b.length ≤ maxPayloadSize) (seq : Option UInt32) :
    d.frameBuilds P random cmd payload seq = true := by
  have hplain : ∀ envelope, (buildFrame.plain payload envelope).isSome = true := by
    intro envelope
    cases payload with
    | bytes b => simp only [buildFrame.plain, if_neg (Nat.not_lt.2 (hfits b rfl)), Option.isSome_some]
    | message m => rfl
  unfold frameBuilds frameNonce buildFrame
  simp only [hcmd, Bool.not_true, Bool.and_false, Bool.false_eq_true, if_false, Option.any_some]
  split <;> exact hplain _

theorem awaitNegotiation_wait (writes : Bool) (baudrate : UInt32) :
    (d.awaitNegotiation P random writes baudrate).wait.isSome = true ↔
      d.serial = true ∧ (d.service.mcuIsPaused = true ∨ writes = true) := by
  unfold awaitNegotiation
  cases hblocked : ({ d with negotiating := true } : Link).txBlocked
  · rw [awaitTx_free hblocked]
    dsimp only
    -- CMD_SET_BAUDRATE goes out in the clear
    have hbuilds := @frameBuilds_system P random { d with negotiating := true } Command.setBaudrate.toUnderlying (by decide)
      (.message (.setBaudratePacket baudrate)) nofun none
    have hblocked : (d.serial && d.service.mcuIsPaused) = false := hblocked
    rw [sendRaw_result, hbuilds]
    cases hserial : d.serial <;> cases writes <;> simp_all
  · rw [awaitTx_blocked hblocked]
    have hblocked : (d.serial && d.service.mcuIsPaused) = true := hblocked
    simp_all

/-- XON answers no command, so correlation leaves the calls alone. -/
theorem correlateFrame_xon (h : McuHost) (payload : Payload) :
    d.correlateFrame h Command.xon.toUnderlying.toUInt32 payload = d := by
  have hpending : ∀ p, correlatePending h Command.xon.toUnderlying.toUInt32 payload p = p := by
    intro p
    have hresp : responseToRequest Command.xon.toUnderlying.toUInt32 = none := by decide
    unfold correlatePending
    rw [hresp]
    split
    · rfl
    rw [if_neg (by decide), if_neg nofun, if_neg (by decide), if_neg (fun h => absurd h.1 (by decide))]
  unfold correlateFrame
  simp [hpending]

end Link

namespace Reader
open Link Run
variable {P : Platform} {random : Nat → UInt32} {cfg : ReaderConfig} {r : Reader} {io : Io}

theorem checkBaudrateFallback_wait (writes : Bool) (hr : r.wait = none) :
    (r.checkBaudrateFallback P random cfg writes).wait.isSome = true ↔ r.FallbackStalls cfg writes := by
  unfold checkBaudrateFallback FallbackStalls
  split
  case isTrue h => simp [hr, Nat.not_le.2 h]
  case isFalse h =>
    split
    case isTrue hbaud => simp [hr, hbaud]
    case isFalse hbaud =>
      show (r.link.awaitNegotiation P random writes cfg.serialSafeBaud).wait.isSome = true ↔ _
      rw [awaitNegotiation_wait]
      simp [Nat.not_lt.1 h, hbaud]

theorem checkCounter_eq {d t : Link} {env : RpcEnvelope} (ht : d.checkCounter env = some t) :
    (∃ c, t = { d with linkLastNonceCounter := c }) ∧ (isExcluded env.commandId = true → t = d) := by
  unfold checkCounter at ht
  split at ht
  case isTrue h =>
    obtain ⟨c, -, rfl⟩ := Option.map_eq_some_iff.1 ht
    refine ⟨⟨c, rfl⟩, fun hex => ?_⟩
    rw [hex] at h
    simp at h
  case isFalse =>
    cases ht
    exact ⟨⟨_, rfl⟩, fun _ => rfl⟩

/-- The stages before the dispatch keep what decides about the wait. -/
theorem frameStalls_dispatch {d t : Link} {env : RpcEnvelope} (payload : Payload) (ht : d.checkCounter env = some t) :
    (t.correlateFrame io.host env.commandId payload).FrameStalls P random io env.commandId payload ↔
      d.FrameStalls P random io env.commandId payload := by
  obtain ⟨⟨c, hc⟩, hex⟩ := checkCounter_eq ht
  by_cases hxon : env.commandId = Command.xon.toUnderlying.toUInt32
  · rw [hex (by rw [hxon]; decide), hxon, correlateFrame_xon]
  · subst hc
    unfold FrameStalls
    rw [if_neg hxon, if_neg hxon]
    rfl

theorem processFrame_wait (env : RpcEnvelope) (hr : r.wait = none) :
    (r.processFrame P random cfg io env).wait.isSome = true ↔ Stalls P random cfg io (.frame env) r := by
  unfold processFrame Stalls
  dsimp only
  split
  · exact checkBaudrateFallback_wait io.writes hr
  case h_2 payload hpayload =>
    split
    case isTrue hneg =>
      have : ¬ r.link.Dispatched env := fun h => by
        rw [h.noNegotiation] at hneg
        cases hneg
      simp [hr, this]
    case isFalse hneg =>
      split
      case h_1 hcount =>
        have : ¬ r.link.Dispatched env := fun h => by
          have hfresh := h.fresh
          rw [hcount] at hfresh
          cases hfresh
        simp [hr, this]
      case h_2 d hd =>
        show (Link.awaitMcuFrame P random io _ _ _ _).wait.isSome = true ↔ _
        rw [awaitMcuFrame_wait, frameStalls_dispatch payload hd]
        obtain ⟨⟨c, rfl⟩, -⟩ := checkCounter_eq hd
        constructor
        · rintro ⟨hserial, hadm, hstalls⟩
          exact ⟨⟨by simpa using hneg, by rw [hd]; rfl, hserial, hadm⟩, hstalls⟩
        · rintro ⟨hdisp, hstalls⟩
          exact ⟨hdisp.serial, hdisp.admitted, hstalls⟩

theorem processPacket_wait (p : Packet) (hr : r.wait = none) :
    (r.processPacket P random cfg io p).wait.isSome = true ↔ Stalls P random cfg io p r := by
  cases p with
  | undecodable => exact checkBaudrateFallback_wait io.writes hr
  | frame env => exact processFrame_wait env hr

end Reader

/-! ### Without a wait the packet is the event of the link -/

namespace Link
variable {P : Platform} {random : Nat → UInt32} {d : Link} {io : Io} {next : Link → Progress}

theorem awaitTx_done (h : (d.awaitTx next).wait = none) : d.awaitTx next = next d := by
  cases hb : d.txBlocked
  · exact awaitTx_free hb
  · rw [awaitTx_blocked hb] at h
    cases h

theorem awaitReplies_done (writes : Bool) (replies : List (UInt16 × Payload))
    (h : (awaitReplies P random writes next replies d).wait = none) :
    awaitReplies P random writes next replies d =
      if (sendReplies P random writes replies d).2 then next (sendReplies P random writes replies d).1
      else { link := (sendReplies P random writes replies d).1 } := by
  induction replies generalizing d with
  | nil => rfl
  | cons x rest ih =>
    unfold awaitReplies at h ⊢
    have hfree := awaitTx_done h
    rw [hfree] at h ⊢
    unfold sendReplies
    dsimp only at h ⊢
    split at h
    case isTrue hraised =>
      rw [if_pos hraised, if_pos hraised]
      rfl
    case isFalse hraised =>
      rw [if_neg hraised, if_neg hraised]
      exact ih h

theorem awaitAck_done (cmd seq : UInt32) (returnsFalse : Bool)
    (h : (d.awaitAck P random io cmd seq returnsFalse).wait = none) :
    (d.awaitAck P random io cmd seq returnsFalse).link =
      if returnsFalse || isStatusValue cmd then d else d.acknowledge P random io.writes cmd seq .ack := by
  unfold awaitAck at h ⊢
  split at h
  case isTrue hno => rw [if_pos hno, if_pos hno]
  case isFalse hno => rw [if_neg hno, if_neg hno, awaitTx_done h]

theorem awaitHandler_done (handler : McuHandler) {cmd : UInt32} (hxon : cmd ≠ Command.xon.toUnderlying.toUInt32)
    (seq : UInt32) (p : Payload) (h : (d.awaitHandler P random io handler cmd seq p).wait = none) :
    (d.awaitHandler P random io handler cmd seq p).link = d.runHandler P random io handler cmd seq p := by
  unfold awaitHandler at h ⊢
  unfold runHandler
  dsimp only at h ⊢
  revert h
  cases handler io.host (d.serial && io.writes) p d.service with
  | none => exact fun _ => rfl
  | some r =>
    intro h
    dsimp only at h ⊢
    rw [if_neg hxon] at h ⊢
    have hdone := awaitReplies_done io.writes r.replies h
    rw [hdone] at h ⊢
    generalize sendReplies P random io.writes r.replies _ = s at h ⊢
    obtain ⟨t, returned⟩ := s
    cases returned
    · rfl
    · exact awaitAck_done cmd seq r.returnsFalse h

theorem awaitLinkSyncResp_done (cmd seq : UInt32) (payload : Payload)
    (h : (d.awaitLinkSyncResp P random io cmd seq payload).wait = none) :
    (d.awaitLinkSyncResp P random io cmd seq payload).link =
      let r := { d with executed := d.executed ++ [(cmd, seq)] }.handleLinkSyncResp P random io seq payload
      if r.2 then r.1.acknowledge P random io.writes cmd seq .ack else r.1 := by
  unfold awaitLinkSyncResp at h ⊢
  dsimp only at h ⊢
  split at h
  case isTrue hok =>
    rw [if_pos hok, if_pos hok, awaitTx_done h]
  case isFalse hok =>
    rw [if_neg hok, if_neg hok]
    split at h
    case isTrue hig => rw [if_pos hig]
    case isFalse hig => rw [if_neg hig, awaitTx_done h]

theorem awaitMcuFrame_done {cmd : UInt32} (hxon : cmd ≠ Command.xon.toUnderlying.toUInt32) (seq : UInt32) (payload : Payload)
    (h : (d.awaitMcuFrame P random io cmd seq payload).wait = none) :
    (d.awaitMcuFrame P random io cmd seq payload).link = d.handleMcuFrame P random io cmd seq payload := by
  unfold awaitMcuFrame at h ⊢
  unfold handleMcuFrame
  split at h
  case isTrue hs => rw [if_pos hs, if_pos hs]
  case isFalse hs =>
    rw [if_neg hs, if_neg hs]
    split at h
    case isTrue ha => rw [if_pos ha, if_pos ha]
    case isFalse ha =>
      rw [if_neg ha, if_neg ha]
      split at h
      case isTrue hcmd =>
        rw [if_pos hcmd, if_pos hcmd]
        exact awaitLinkSyncResp_done cmd seq payload h
      case isFalse hcmd =>
        rw [if_neg hcmd, if_neg hcmd]
        rw [← registered]
        revert h
        cases registered cmd with
        | some handler =>
          intro h
          dsimp only at h ⊢
          cases hdec : decodePayload io.host cmd.toUInt16 payload with
          | none => rfl
          | some p =>
            rw [hdec] at h
            exact awaitHandler_done handler hxon seq p h
        | none =>
          intro h
          dsimp only at h ⊢
          split at h
          case isTrue hresp => rw [if_pos hresp, if_pos hresp, awaitTx_done h]
          case isFalse hresp => rw [if_neg hresp, if_neg hresp]

end Link

namespace Reader
open Link
variable {P : Platform} {random : Nat → UInt32} {cfg : ReaderConfig} {r : Reader} {io : Io}

/-- A frame the reader handles to its end does what the link's packet event says. XON flushes the console as well,
by calls that are events of their own there. -/
theorem processFrame_done {env : RpcEnvelope} (hparse : (parseFrame P env r.link.sessionKey).isSome)
    (hxon : env.commandId ≠ Command.xon.toUnderlying.toUInt32) (h : (r.processFrame P random cfg io env).wait = none) :
    (r.processFrame P random cfg io env).link = r.link.processPacket P random io env := by
  obtain ⟨payload, hpayload⟩ := Option.isSome_iff_exists.1 hparse
  unfold processFrame at h ⊢
  unfold Link.processPacket
  rw [hpayload] at h ⊢
  dsimp only at h ⊢
  split at h
  case isTrue hneg => rw [if_pos hneg, if_pos hneg]
  case isFalse hneg =>
    rw [if_neg hneg, if_neg hneg]
    cases hcount : r.link.checkCounter env with
    | none => rfl
    | some d =>
      rw [hcount] at h
      exact awaitMcuFrame_done hxon env.sequenceId payload h

end Reader

end Daemon
end McuBridge
