import McuBridge.Daemon.Freshness
import McuBridge.Daemon.ReaderStalls
import McuBridge.Net.SameFrames

/-! # Frames of a session, from the firmware to the handlers of the daemon

What `_transmit` puts on the wire in a session, and what `_process_packet` of a daemon in the same session does with
it when the anti-replay counter lets it pass. -/

namespace McuBridge
open Daemon (Link McuHost McuHandler Io)

/-- The primitives work, and a frame of at most 64 bytes and a tag fits the firmware's buffer. -/
structure Platform.SealsFrames (P : Platform) : Prop where
  opens : P.toCrypto.Opens
  serializes : ∀ (cmd seq : UInt16) {nonce b : Bytes}, nonce.length = aeadNonceSize →
    b.length ≤ maxPayloadSize + aeadTagSize → P.serializes (Mcu.rawEnvelope cmd seq nonce b) = true

/-- The frame opens to this command and payload under the key, and has the counter in its nonce. -/
structure SessionFrame (P : Platform) (key : Bytes) (cmd seq : UInt16) (plain : Bytes) (counter : UInt64) (f : Sent) :
    Prop where
  command : f.env.commandId = cmd.toUInt32
  sequence : f.env.sequenceId = seq.toUInt32
  nonce : f.env.nonce = mcuNonce counter
  opens : Daemon.parseFrame P f.env (some key) = some (.bytes plain)

variable {P : Platform} {key : Bytes} {cmd seq : UInt16} {plain : Bytes} {counter : UInt64} {f : Sent}

theorem Mcu.serializeAndSend_wire {s : Mcu} (hser : P.serializes f.env = true) :
    s.serializeAndSend P f = { s with wire := s.wire ++ [f] } := by
  unfold Mcu.serializeAndSend
  rw [if_pos hser]

/-- `_transmit` in a session: one sealed frame with the next counter. -/
theorem Mcu.InSession.transmit (hP : P.SealsFrames) {s : Mcu} (hs : s.InSession) (seq : UInt16)
    (hcmd : isSystemCommand cmd = false) (hlen : plain.length ≤ maxPayloadSize) (ticket : Option Nat) :
    ∃ f, SessionFrame P s.sessionKey cmd seq plain (s.txNonceCounter + 1) f ∧
      s.transmit P cmd seq plain ticket = { s with
        txNonceCounter := s.txNonceCounter + 1
        seals := s.seals ++ [(s.sessionKey, mcuNonce (s.txNonceCounter + 1))]
        wire := s.wire ++ [f] } := by
  have hd : s.doEncrypt cmd = true := by rw [hs.doEncrypt, hcmd, Bool.not_false]
  have hraw : (Mcu.rawEnvelope cmd seq (mcuNonce (s.txNonceCounter + 1)) []).rawCommand = cmd := by
    simp [RpcEnvelope.rawCommand, Mcu.rawEnvelope]
  have hnonce : (mcuNonce (s.txNonceCounter + 1)).length = aeadNonceSize := rfl
  obtain ⟨c, t, hct, hc, ht⟩ := hP.opens.seals (P.aad cmd.toUInt32 seq.toUInt32) plain hs.key hnonce
  have htake : c.take maxPayloadSize = c := List.take_of_length_le (by omega)
  have hfits : (c ++ t).length ≤ maxPayloadSize + aeadTagSize := by
    rw [List.length_append, hc, ht]
    omega
  refine ⟨⟨Mcu.rawEnvelope cmd seq (mcuNonce (s.txNonceCounter + 1)) (c ++ t), ticket, some s.seals.length⟩,
    ⟨rfl, rfl, rfl, ?_⟩, ?_⟩
  · have hparse : Daemon.parseFrame P (Mcu.rawEnvelope cmd seq (mcuNonce (s.txNonceCounter + 1)) (c ++ t))
        (some s.sessionKey) = (P.aeadDecrypt s.sessionKey (mcuNonce (s.txNonceCounter + 1))
          (P.aad cmd.toUInt32 seq.toUInt32) c t).map .bytes :=
      Daemon.parseFrame_encrypted rfl (by
        show Daemon.encrypts (Mcu.rawEnvelope cmd seq _ _).rawCommand _ = true
        rw [hs.encrypts,
          show (Mcu.rawEnvelope cmd seq (mcuNonce (s.txNonceCounter + 1)) (c ++ t)).rawCommand = cmd from hraw,
          hcmd, Bool.not_false]) hnonce rfl ht
    rw [hparse, hP.opens.opens hct]
    rfl
  · unfold Mcu.transmit Mcu.aeadEncryptFrame
    dsimp only
    rw [if_pos hd, hct, Option.map_some]
    dsimp only
    rw [htake, Mcu.serializeAndSend_wire (hP.serializes cmd seq hnonce hfits)]

/-- `send` of an unreliable command whose message fits. -/
theorem Mcu.InSession.send_sealed (hP : P.SealsFrames) {s : Mcu} (hs : s.InSession) (seq : UInt16) {c : Command}
    (hcmd : isSystemCommand c.toUnderlying = false) (hack : requiresAck c.toUnderlying = false) {packet : PayloadType}
    (hlen : (P.pbEncode packet).length ≤ maxPayloadSize) :
    ∃ f, SessionFrame P s.sessionKey c.toUnderlying seq (P.pbEncode packet) (s.txNonceCounter + 1) f ∧
      (s.send P c seq packet).1 = { s with
        txNonceCounter := s.txNonceCounter + 1
        seals := s.seals ++ [(s.sessionKey, mcuNonce (s.txNonceCounter + 1))]
        wire := s.wire ++ [f] } := by
  obtain ⟨f, hf, heq⟩ := hs.transmit hP seq hcmd hlen none
  refine ⟨f, hf, ?_⟩
  unfold Mcu.send Mcu.sendEncryptedHelper
  rw [hs.doEncrypt, hcmd, Bool.not_false, if_pos rfl]
  dsimp only
  rw [if_neg (Nat.not_lt.2 hlen), hack, if_neg (by simp), heq]

theorem Mcu.InSession.send_oversized {s : Mcu} (hs : s.InSession) {c : Command}
    (hcmd : isSystemCommand c.toUnderlying = false) {packet : PayloadType}
    (hlen : maxPayloadSize < (P.pbEncode packet).length) : s.send P c seq packet = (s, false) := by
  unfold Mcu.send Mcu.sendEncryptedHelper
  rw [hs.doEncrypt, hcmd, Bool.not_false, if_pos rfl]
  dsimp only
  rw [if_pos hlen]

/-- A status leaves in the clear, without payload. -/
theorem Mcu.transmit_plain (hP : P.SealsFrames) {s : Mcu} (hd : s.doEncrypt cmd = false)
    (hlen : plain.length ≤ maxPayloadSize) (ticket : Option Nat) :
    s.transmit P cmd seq plain ticket = { s with
      wire := s.wire ++ [⟨Mcu.rawEnvelope cmd seq (List.replicate aeadNonceSize 0) plain, ticket, none⟩] } := by
  unfold Mcu.transmit
  rw [hd, if_neg (by simp), List.take_of_length_le hlen]
  exact Mcu.serializeAndSend_wire (hP.serializes cmd seq rfl (Nat.le_trans hlen (by decide)))

/-! ### On the daemon -/

namespace Daemon.Link
variable {d : Link} {random : Nat → UInt32}

/-- The daemon is in the session with this key. -/
structure Synced (key : Bytes) (d : Link) : Prop where
  synchronized : d.isSynchronized = true
  key : d.linkSessionKey = some key
  serial : d.service.serial = true

theorem Synced.sessionKey (hd : d.Synced key) : d.sessionKey = some key := by
  unfold Link.sessionKey
  rw [hd.synchronized, if_pos rfl, hd.key]

/-- What the session consists of, the anti-replay counter and the handlers that have run. -/
structure SameSession (d d' : Link) : Prop where
  state : d'.state = d.state
  key : d'.linkSessionKey = d.linkSessionKey
  last : d'.linkLastNonceCounter = d.linkLastNonceCounter
  service : d'.service = d.service
  executed : d'.executed = d.executed

theorem Synced.of_same {d' : Link} (hd : d.Synced key) (h : SameSession d d') : d'.Synced key := by
  refine ⟨?_, h.key.trans hd.key, ?_⟩
  · have hsync := hd.synchronized
    unfold isSynchronized at hsync ⊢
    rw [h.state]
    exact hsync
  · rw [h.service]
    exact hd.serial

theorem sendRaw_same (writes : Bool) (cmd : UInt16) (payload : Payload) (seq : Option UInt32) (ticket : Option Nat)
    (d : Link) : SameSession d (d.sendRaw P random writes cmd payload seq ticket).1 := by
  obtain ⟨_, _, _, _, h, -⟩ := sendRaw_frame P random d writes cmd payload seq ticket
  rw [h]
  exact ⟨rfl, rfl, rfl, rfl, rfl⟩

theorem acknowledge_same (writes : Bool) (cmd seq : UInt32) (st : Status) (d : Link) :
    SameSession d (d.acknowledge P random writes cmd seq st) := sendRaw_same ..

/-- A message of an application command that fits can be built. -/
theorem Synced.sendRaw_ne_raised (random : Nat → UInt32) (hP : P.SealsFrames) (hd : d.Synced key)
    (hkey : key.length = 32)
    (hcmd : isSystemCommand cmd = false) {m : PayloadType} (hlen : (P.pbEncode m).length ≤ maxPayloadSize)
    (hcount : d.linkNonceCounter < nonceCounterMask) (writes : Bool) (seq : Option UInt32) (ticket : Option Nat) :
    (d.sendRaw P random writes cmd (.message m) seq ticket).2 ≠ .raised := by
  have hbuilds : d.frameBuilds P random cmd (.message m) seq = true := by
    have hempty : key.isEmpty = false := by
      rw [← Bool.not_eq_true, List.isEmpty_iff]
      intro h
      rw [h] at hkey
      cases hkey
    have hseals : ∀ nonce aad plain, nonce.length = aeadNonceSize →
        (P.aeadEncrypt key nonce aad plain).isSome = true := by
      intro nonce aad plain hn
      obtain ⟨c, t, hct, -⟩ := hP.opens.seals aad plain hkey hn
      rw [hct, Option.isSome_some]
    unfold frameBuilds frameNonce generateNonceWithCounter
    rw [hd.synchronized, hcmd, hd.sessionKey, Bool.not_false, Bool.and_true, if_pos rfl, if_neg (Nat.not_le.2 hcount),
      Option.map_some, Option.any_some]
    simp only [buildFrame, hempty, hcmd, Payload.serialize, Nat.not_lt.2 hlen, if_false, Bool.not_false, Bool.and_self,
      if_true, Option.isSome_map]
    exact hseals _ _ _ rfl
  rw [sendRaw_result, hbuilds]
  split
  · exact fun h => by cases h
  · cases writes <;> exact fun h => by cases h

theorem validateNonceCounter_mcuNonce {last : Nat} (h : last < counter.toNat) :
    validateNonceCounter (mcuNonce counter) last = some counter.toNat := by
  have hread : readBe64 ((mcuNonce counter).drop 4) = counter := readBe64_be64 counter
  have hlen : (mcuNonce counter).length = aeadNonceSize := rfl
  unfold validateNonceCounter
  rw [if_neg (not_not.2 hlen), hread]
  dsimp only
  rw [if_neg (Nat.not_le.2 h)]

theorem Synced.handleMcuFrame (random : Nat → UInt32) (hd : d.Synced key)
    (hsync : cmd ≠ Command.linkSyncResp.toUnderlying) (io : Io)
    {handler : McuHandler} (hreg : Service.mcuRegistry.lookup cmd = some handler) {payload p : Payload}
    (hdec : decodePayload io.host cmd payload = some p) (seq : UInt32) :
    d.handleMcuFrame P random io cmd.toUInt32 seq payload = d.runHandler P random io handler cmd.toUInt32 seq p := by
  have hne : cmd.toUInt32 ≠ Command.linkSyncResp.toUnderlying.toUInt32 :=
    fun heq => hsync (by simpa using congrArg UInt32.toUInt16 heq)
  unfold Link.handleMcuFrame
  rw [hd.serial, hd.synchronized, Bool.true_or, Bool.true_or, if_neg (by simp), if_neg (by simp), if_neg hne,
    if_pos (toUInt32_lt cmd), show cmd.toUInt32.toUInt16 = cmd by simp, hreg]
  dsimp only
  rw [hdec]

/-- A sealed frame above the anti-replay counter reaches its handler. -/
theorem Synced.processPacket (random : Nat → UInt32) (hd : d.Synced key)
    (hf : SessionFrame P key cmd seq plain counter f)
    (hcmd : isSystemCommand cmd = false) (hlast : d.linkLastNonceCounter < counter.toNat) (io : Io)
    {handler : McuHandler} (hreg : Service.mcuRegistry.lookup cmd = some handler) {p : Payload}
    (hdec : decodePayload io.host cmd (.bytes plain) = some p) :
    d.processPacket P random io f.env =
      (({ d with linkLastNonceCounter := counter.toNat } : Link).correlateFrame io.host cmd.toUInt32
        (.bytes plain)).runHandler P random io handler cmd.toUInt32 seq.toUInt32 p := by
  have hne : ∀ c : UInt16, isSystemCommand c = true → cmd.toUInt32 ≠ c.toUInt32 := by
    intro c hc heq
    have hid : cmd = c := by simpa using congrArg UInt32.toUInt16 heq
    rw [hid, hc] at hcmd
    cases hcmd
  have hcheck : d.checkCounter f.env = some { d with linkLastNonceCounter := counter.toNat } := by
    unfold checkCounter
    rw [hd.synchronized, hf.command, isExcluded_eq (toUInt32_lt cmd), show cmd.toUInt32.toUInt16 = cmd by simp, hcmd,
      hf.nonce, validateNonceCounter_mcuNonce hlast]
    rfl
  unfold Link.processPacket
  rw [hd.sessionKey, hf.opens]
  dsimp only
  rw [hf.command, hf.sequence, beq_false_of_ne (hne _ (by decide)), Bool.and_false, if_neg (by simp), hcheck]
  dsimp only
  exact Synced.handleMcuFrame random (d := ({ d with linkLastNonceCounter := counter.toNat } : Link).correlateFrame io.host
    cmd.toUInt32 (.bytes plain)) ⟨hd.synchronized, hd.key, hd.serial⟩ (fun h => hne _ (by decide) (congrArg _ h)) io hreg
    hdec _

/-- A system frame is in the clear, in a session or not, and has no counter to check. -/
theorem processPacket_plain (random : Nat → UInt32) (d : Link) {env : RpcEnvelope}
    (hver : env.version = protocolVersion) (hid : env.commandId = cmd.toUInt32) (hcmd : isSystemCommand cmd = true)
    (hbaud : cmd ≠ Command.setBaudrateResp.toUnderlying) (io : Io) :
    d.processPacket P random io env =
      (d.correlateFrame io.host cmd.toUInt32 (parseFrame.plain env.payloadType)).handleMcuFrame P random io
        cmd.toUInt32 env.sequenceId (parseFrame.plain env.payloadType) := by
  have hraw : env.rawCommand = cmd := by
    unfold RpcEnvelope.rawCommand
    rw [hid]
    simp
  have hplain : parseFrame P env d.sessionKey = some (parseFrame.plain env.payloadType) := by
    unfold parseFrame
    rw [if_neg (not_not.2 hver), hraw, hcmd]
    cases d.sessionKey <;> simp
  have hne : cmd.toUInt32 ≠ Command.setBaudrateResp.toUnderlying.toUInt32 :=
    fun heq => hbaud (by simpa using congrArg UInt32.toUInt16 heq)
  have hcheck : d.checkCounter env = some d := by
    unfold checkCounter
    rw [hid, isExcluded_eq (toUInt32_lt cmd), show cmd.toUInt32.toUInt16 = cmd by simp, hcmd]
    simp
  unfold Link.processPacket
  rw [hplain]
  dsimp only
  rw [hid, beq_false_of_ne hne, Bool.and_false, if_neg (by simp), hcheck]

theorem Synced.processPacket_system (random : Nat → UInt32) (hd : d.Synced key) {env : RpcEnvelope}
    (hver : env.version = protocolVersion) (hid : env.commandId = cmd.toUInt32) (hcmd : isSystemCommand cmd = true)
    (hsync : cmd ≠ Command.linkSyncResp.toUnderlying) (hbaud : cmd ≠ Command.setBaudrateResp.toUnderlying) (io : Io)
    {handler : McuHandler} (hreg : Service.mcuRegistry.lookup cmd = some handler) {p : Payload}
    (hdec : decodePayload io.host cmd (parseFrame.plain env.payloadType) = some p) :
    d.processPacket P random io env =
      (d.correlateFrame io.host cmd.toUInt32 (parseFrame.plain env.payloadType)).runHandler P random io handler
        cmd.toUInt32 env.sequenceId p := by
  rw [processPacket_plain random d hver hid hcmd hbaud io]
  exact Synced.handleMcuFrame random (d := d.correlateFrame io.host cmd.toUInt32 (parseFrame.plain env.payloadType))
    ⟨hd.synchronized, hd.key, hd.serial⟩ hsync io hreg hdec _

theorem runHandler_quiet {io : Io} {handler : McuHandler} {p : Payload} {service : Service} {refuses : Bool}
    (hr : handler io.host (d.serial && io.writes) p d.service = some ⟨service, [], refuses⟩) (cmd seq : UInt32) :
    d.runHandler P random io handler cmd seq p =
      if (refuses || isStatusValue cmd) = true then
        { d with executed := d.executed ++ [(cmd, seq)], service := service }
      else ({ d with executed := d.executed ++ [(cmd, seq)], service := service } : Link).acknowledge P random io.writes
        cmd seq .ack := by
  unfold Link.runHandler
  dsimp only
  rw [hr]
  rfl

theorem Synced.runHandler (random : Nat → UInt32) (hd : d.Synced key) {io : Io} {handler : McuHandler}
    {p : Payload} {service : Service} {refuses : Bool}
    (hr : handler io.host (d.serial && io.writes) p d.service = some ⟨service, [], refuses⟩)
    (hserial : service.serial = true) (cmd seq : UInt32) :
    (d.runHandler P random io handler cmd seq p).Synced key ∧
      (d.runHandler P random io handler cmd seq p).linkLastNonceCounter = d.linkLastNonceCounter ∧
      (d.runHandler P random io handler cmd seq p).executed.length = d.executed.length + 1 := by
  rw [runHandler_quiet hr]
  have hrun : ({ d with executed := d.executed ++ [(cmd, seq)], service := service } : Link).Synced key :=
    ⟨hd.synchronized, hd.key, hserial⟩
  have hlast : ({ d with executed := d.executed ++ [(cmd, seq)], service := service } : Link).linkLastNonceCounter =
      d.linkLastNonceCounter := rfl
  have hlen : ({ d with executed := d.executed ++ [(cmd, seq)], service := service } : Link).executed.length =
      d.executed.length + 1 := List.length_append
  generalize ({ d with executed := d.executed ++ [(cmd, seq)], service := service } : Link) = t at hrun hlast hlen ⊢
  by_cases hquiet : (refuses || isStatusValue cmd) = true
  · rw [if_pos hquiet]
    exact ⟨hrun, hlast, hlen⟩
  · rw [if_neg hquiet]
    have hsame : SameSession t (t.acknowledge P random io.writes cmd seq .ack) := acknowledge_same ..
    exact ⟨hrun.of_same hsame, hsame.last.trans hlast, (congrArg List.length hsame.executed).trans hlen⟩

end Daemon.Link
end McuBridge
