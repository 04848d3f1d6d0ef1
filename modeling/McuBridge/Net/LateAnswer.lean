import McuBridge.Daemon.LinkSteps
import McuBridge.Net.System

/-! # An answer nobody waits for

LINK_SYNC_RESP is a system frame: nothing authenticates it, and a serial line with retries brings it late or
twice. `handle_link_sync_resp` takes one that comes without a pending nonce for a failed handshake. It ends the
daemon's session, counts a failure, and answers STATUS_MALFORMED, on which the MCU enters its safe state. -/

namespace McuBridge
namespace Daemon
namespace Link
variable {P : Platform} {random : Nat → UInt32} {d : Link} {io : Io} {env : RpcEnvelope}

/-- The packet leaves the session alone on both sides. -/
structure Unharmed (P : Platform) (random : Nat → UInt32) (d : Link) (io : Io) (env : RpcEnvelope) : Prop where
  fsmState : (d.processPacket P random io env).fsmState = d.fsmState
  synchronized : (d.processPacket P random io env).isSynchronized = d.isSynchronized
  sessionKey : (d.processPacket P random io env).linkSessionKey = d.linkSessionKey
  streak : (d.processPacket P random io env).handshakeFailureStreak = d.handshakeFailureStreak
  mcu : ∀ f ∈ Net.written d.wire (d.processPacket P random io env).wire, ∀ (m : Mcu) (hal : Hal),
    m.isSynchronized = true → (m.step P (.recv hal (some f.env))).isSynchronized = true

theorem Unharmed.of_quiet (h : LinkQuiet d (d.processPacket P random io env))
    (hfsm : (d.processPacket P random io env).fsmState = d.fsmState)
    (hstreak : (d.processPacket P random io env).handshakeFailureStreak = d.handshakeFailureStreak) :
    Unharmed P random d io env where
  fsmState := hfsm
  synchronized := h.isSynchronized
  sessionKey := h.linkSessionKey
  streak := hstreak
  mcu f hf := by
    rw [h.wire, Net.written, List.drop_length] at hf
    cases hf

/-- A LINK_SYNC_RESP of the right version passes every check before `handle_mcu_frame`. -/
theorem processPacket_linkSyncResp (hcmd : env.commandId = Command.linkSyncResp.toUnderlying.toUInt32)
    (hver : env.version = protocolVersion) :
    ∃ payload, d.processPacket P random io env =
      (d.correlateFrame io.host env.commandId payload).handleMcuFrame P random io env.commandId env.sequenceId payload := by
  have hsys : isSystemCommand env.rawCommand = true := by
    unfold RpcEnvelope.rawCommand
    rw [hcmd]
    decide
  have hparse : parseFrame P env d.sessionKey = some (parseFrame.plain env.payloadType) := by
    unfold parseFrame
    rw [if_neg (not_not.2 hver), hsys]
    cases d.sessionKey <;> simp
  have hbaud : (d.negotiating && env.commandId == Command.setBaudrateResp.toUnderlying.toUInt32) = false := by
    rw [hcmd]
    cases d.negotiating <;> decide
  have hcheck : d.checkCounter env = some d := by
    have hex : isExcluded env.commandId = true := by
      rw [hcmd]
      decide
    unfold checkCounter
    rw [hex]
    simp
  refine ⟨parseFrame.plain env.payloadType, ?_⟩
  unfold processPacket
  rw [hparse]
  dsimp only
  rw [if_neg (by rw [hbaud]; decide), hcheck]

/-- Without a pending nonce the handler ends the session. -/
theorem handleMcuFrame_unexpected {t : Link} (hserial : t.service.serial = true) (hn : t.linkHandshakeNonce = none)
    (seq : UInt32) (payload : Payload) :
    (t.handleMcuFrame P random io Command.linkSyncResp.toUnderlying.toUInt32 seq payload).isSynchronized = false := by
  unfold handleMcuFrame
  rw [if_neg (by rw [hserial]; decide), if_neg (by simp [preSyncAllowed]), if_pos rfl]
  dsimp only [handleLinkSyncResp]
  rw [hn]
  rfl

/-- In every state of the daemon that is synchronised and waits for no answer, a LINK_SYNC_RESP leaves the session
alone exactly when it never reaches its handler. -/
theorem unsolicited_resp_iff (P : Platform) (random : Nat → UInt32) (d : Link) (io : Io) (env : RpcEnvelope)
    (hs : d.isSynchronized = true) (hn : d.linkHandshakeNonce = none)
    (hcmd : env.commandId = Command.linkSyncResp.toUnderlying.toUInt32) :
    Unharmed P random d io env ↔ env.version ≠ protocolVersion ∨ d.service.serial = false := by
  constructor
  · intro h
    by_contra hno
    obtain ⟨hver, hset⟩ := not_or.1 hno
    have hserial : d.service.serial = true := by simpa using hset
    obtain ⟨payload, hpacket⟩ := @processPacket_linkSyncResp P random d io env hcmd
      (not_not.1 hver)
    have hsync := h.synchronized
    rw [hpacket, hs, hcmd, handleMcuFrame_unexpected] at hsync
    · cases hsync
    · exact hserial
    · exact hn
  · intro h
    by_cases hver : env.version = protocolVersion
    · -- `self.serial` is not set: correlation is all that happens
      have hserial : d.service.serial = false := h.resolve_left (not_not.2 hver)
      obtain ⟨payload, hpacket⟩ := @processPacket_linkSyncResp P random d io env hcmd hver
      have hskip : d.processPacket P random io env = d.correlateFrame io.host env.commandId payload := by
        rw [hpacket]
        unfold handleMcuFrame
        rw [if_pos]
        show (!d.service.serial) = true
        rw [hserial]
        rfl
      apply Unharmed.of_quiet <;> rw [hskip]
      · exact correlateFrame_quiet d _ _ _
      · rfl
      · rfl
    · -- `parse_frame` raises
      have hskip : d.processPacket P random io env = d := by
        unfold processPacket parseFrame
        rw [if_pos hver]
      apply Unharmed.of_quiet <;> rw [hskip]
      exact .refl d

end Link
end Daemon

namespace Net
open Run

/-- The daemon after a handshake in which nothing was lost. -/
def sampleSynchronized : Net :=
  run (step .sample fun _ => 0) sampleInit ([.daemon .connect] ++ sampleHandshake handshakeNonce)

/-- The answer of the handshake a second time. -/
def secondAnswer (version : UInt32) : RpcEnvelope :=
  ⟨version, Command.linkSyncResp.toUnderlying.toUInt32, 2, [],
    .linkSync ⟨handshakeNonce, Platform.sample.handshakeTag [7] handshakeNonce⟩⟩

theorem unsolicited_resp_iff_version :
    sampleSynchronized.daemon.isSynchronized = true ∧
      Daemon.Link.Unharmed .sample (fun _ => 0) sampleSynchronized.daemon .sample (secondAnswer 3) :=
  ⟨by decide +kernel, (Daemon.Link.unsolicited_resp_iff .sample (fun _ => 0) sampleSynchronized.daemon .sample
    (secondAnswer 3) (by decide +kernel) (by decide +kernel) rfl).2 (.inl (by decide))⟩

/-- The second answer takes both peers out of their session. -/
theorem second_answer_ends_session :
    ¬ ∀ (P : Platform) (random : Nat → UInt32) (d : Daemon.Link) (io : Daemon.Io) (env : RpcEnvelope),
      d.isSynchronized = true → d.linkHandshakeNonce = none →
      env.commandId = Command.linkSyncResp.toUnderlying.toUInt32 → d.Unharmed P random io env := by
  intro h
  have hunharmed := h .sample (fun _ => 0) sampleSynchronized.daemon .sample (secondAnswer protocolVersion)
    (by decide +kernel) (by decide +kernel) rfl
  -- the one frame the daemon writes is STATUS_MALFORMED
  have hwritten : (written sampleSynchronized.daemon.wire (sampleSynchronized.daemon.processPacket .sample (fun _ => 0)
      .sample (secondAnswer protocolVersion)).wire).map (fun f =>
        (f.env.rawCommand, (sampleSynchronized.mcu.step .sample (.recv .sample (some f.env))).isSynchronized)) =
      [(Status.malformed.toUnderlying, false)] := by decide +kernel
  obtain ⟨f, hf, hleaves⟩ := List.mem_map.1 (hwritten ▸ List.mem_singleton_self _)
  have hstays := hunharmed.mcu f hf sampleSynchronized.mcu .sample (by decide +kernel)
  rw [(Prod.mk.inj hleaves).2] at hstays
  cases hstays

end Net
end McuBridge
