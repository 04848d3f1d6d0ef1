import McuBridge.Mcu.Replay
import McuBridge.Net.Handshake

/-! # Who sent an application frame

The adversary on the line has no session key. It keeps every frame the peers write and brings frames to either of
them, in any order and as often as it likes; what it makes up itself does not open, unless it is a system frame.
Both directions use one key, the associated data names no sender, and the nonce check reads the counter bytes
only. So a peer also opens the frames it sealed itself, as long as their counter is ahead of the one it receives
on. -/

namespace McuBridge

inductive TapEvent where
  | daemon (ev : Daemon.LinkEvent)
  | mcu (ev : McuEvent)
  | reboot (postOk : Bool)
  | toMcu (hal : Hal) (env : RpcEnvelope)
  | toDaemon (io : Daemon.Io) (env : RpcEnvelope)

namespace Tap
variable (P : Platform) (random : Nat → UInt32)

def sentBy (wire : List Sent) (env : RpcEnvelope) : Bool := wire.any fun f => f.env == env

/-- The adversary has the frame from the line, or it is a system frame. -/
def available (env : RpcEnvelope) (s : Hostile) : Bool :=
  isSystemCommand env.rawCommand || sentBy s.daemon.wire env || sentBy s.mcu.wire env

/-- A frame the adversary does not have does not open at the receiver. -/
def step : TapEvent → Hostile → Hostile
  | .daemon ev, s => if Net.isLocalDaemon ev then { s with daemon := s.daemon.step P random ev } else s
  | .mcu ev, s => if Net.isLocalMcu ev then { s with mcu := s.mcu.step P ev } else s
  | .reboot postOk, s => { s with mcu := s.mcu.reboot postOk }
  | .toMcu hal env, s =>
    if available env s || (s.mcu.dispatched P env).isNone then
      { s with mcu := s.mcu.step P (.recv hal (some env)) }
    else s
  | .toDaemon io env, s =>
    if available env s || (Daemon.parseFrame P env s.daemon.sessionKey).isNone then
      { s with daemon := s.daemon.step P random (.packet io env) }
    else s

/-- An application frame whose handler runs at one peer was written by the other. -/
structure OriginOk (s : Hostile) (ev : TapEvent) : Prop where
  mcu : ∀ hal env, ev = .toMcu hal env → isSystemCommand env.rawCommand = false →
    s.mcu.handled.length < (step P random ev s).mcu.handled.length → sentBy s.daemon.wire env = true
  daemon : ∀ io env, ev = .toDaemon io env → isSystemCommand env.rawCommand = false →
    s.daemon.executed.length < (step P random ev s).daemon.executed.length → sentBy s.mcu.wire env = true

/-- An application frame is brought back to the peer that wrote it only if the counter check of that peer rejects
it. Without a shared secret the MCU makes no such check. -/
def StaleReflection (s : Hostile) : TapEvent → Prop
  | .toMcu _ env => isSystemCommand env.rawCommand = false → sentBy s.mcu.wire env = true →
      s.mcu.sharedSecret ≠ [] ∧ validateFrameNonce (padTo 12 env.nonce) s.mcu.rxNonceCounter = none
  | .toDaemon _ env => isSystemCommand env.rawCommand = false → sentBy s.daemon.wire env = true →
      Daemon.validateNonceCounter env.nonce s.daemon.linkLastNonceCounter = none
  | _ => True

end Tap

/-! ### The checks of the two peers -/

namespace Mcu
variable {P : Platform} {s : Mcu}

theorem decryptFrame_nonce {env : RpcEnvelope} {c : UInt64} {plain : Bytes} (h : s.decryptFrame P env = some (c, plain)) :
    validateFrameNonce (padTo 12 env.nonce) s.rxNonceCounter = some c := by
  unfold decryptFrame at h
  dsimp only at h
  split at h
  · cases h
  · obtain ⟨_, -, h⟩ := Option.bind_eq_some_iff.1 h
    obtain ⟨_, hv, h⟩ := Option.map_eq_some_iff.1 h
    cases h
    exact hv

theorem recv_undispatched (hal : Hal) {env : RpcEnvelope} (h : s.dispatched P env = none) :
    (step P (.recv hal (some env)) s).handled = s.handled := by
  show (s.handleReceivedFrame P hal (some env)).handled = _
  rcases handleReceivedFrame_cases P s hal env with hq | ⟨c, plain, henc, hdec, -⟩ | ⟨henc, -⟩
  · exact hq.handled
  · simp [dispatched, henc, hdec] at h
  · simp [dispatched, henc] at h

end Mcu

namespace Daemon
namespace Link
variable (P : Platform) (random : Nat → UInt32)

/-- The exclusions of the daemon cover no application command. -/
theorem isExcluded_app {cmd : UInt32} (h : isSystemCommand cmd.toUInt16 = false) :
    isExcluded cmd = false ∧ isStatusValue cmd = false ∧ preSyncAllowed cmd = false := by
  have hmod : cmd.toUInt16.toNat = cmd.toNat % 65536 := UInt32.toNat_toUInt16 cmd
  have happ : ¬ (48 ≤ cmd.toUInt16.toNat ∧ cmd.toUInt16.toNat ≤ 79) := by
    intro hr
    have hsys : isSystemCommand cmd.toUInt16 = true := by
      simp only [isSystemCommand, Bool.or_eq_true, Bool.and_eq_true, decide_eq_true_eq, UInt16.le_iff_toNat_le]
      simp only [UInt16.reduceToNat]
      omega
    rw [h] at hsys
    cases hsys
  have hrange : ¬ (48 ≤ cmd.toNat ∧ cmd.toNat ≤ 79) := by omega
  refine ⟨?_, ?_, ?_⟩
  · simp only [isExcluded, Bool.or_eq_false_iff, Bool.and_eq_false_iff, decide_eq_false_iff_not, UInt32.le_iff_toNat_le,
      UInt32.reduceToNat]
    omega
  · simp only [isStatusValue, Bool.and_eq_false_iff, decide_eq_false_iff_not, UInt32.le_iff_toNat_le, UInt32.reduceToNat]
    omega
  · simp only [preSyncAllowed, Bool.or_eq_false_iff, beq_eq_false_iff_ne]
    constructor <;>
      · rintro rfl
        exact hrange (by decide)

/-- An application frame the counter check rejects runs no handler. -/
theorem processPacket_stale (d : Link) (io : Io) {env : RpcEnvelope} (hsys : isSystemCommand env.rawCommand = false)
    (hstale : validateNonceCounter env.nonce d.linkLastNonceCounter = none) :
    (d.processPacket P random io env).executed = d.executed := by
  obtain ⟨hex, hstatus, hpre⟩ := isExcluded_app hsys
  unfold processPacket
  split
  · rfl
  split
  · rfl
  split
  · rfl
  case h_2 payload _ _ _ t ht =>
    unfold checkCounter at ht
    rw [hex, hstale] at ht
    cases hs : d.isSynchronized with
    | true =>
      rw [hs] at ht
      cases ht
    | false =>
      -- outside a session no application frame is handled
      rw [hs] at ht
      cases ht
      have hsync : (d.correlateFrame io.host env.commandId payload).isSynchronized = false := hs
      unfold handleMcuFrame
      split
      · rfl
      · rw [if_pos]
        · rfl
        · rw [hsync, hstatus, hpre]
          rfl

end Link
end Daemon

namespace Tap
open Run
variable {P : Platform} {random : Nat → UInt32} {s : Hostile}

theorem sentBy_of_available {env : RpcEnvelope} (hsys : isSystemCommand env.rawCommand = false) (h : available env s = true) :
    sentBy s.daemon.wire env = true ∨ sentBy s.mcu.wire env = true := by
  unfold available at h
  rw [hsys, Bool.false_or, Bool.or_eq_true] at h
  exact h

theorem originOk_of_stale {ev : TapEvent} (hstale : StaleReflection s ev) : OriginOk P random s ev := by
  constructor
  · rintro hal env rfl hsys hran
    simp only [step] at hran
    split at hran
    case isFalse => exact absurd hran (lt_irrefl _)
    case isTrue hinject =>
      rcases Bool.or_eq_true_iff.1 hinject with havail | hrejected
      · refine (sentBy_of_available hsys havail).resolve_right fun hown => ?_
        obtain ⟨hsecret, hnonce⟩ := hstale hsys hown
        obtain ⟨c, plain, hdec, -⟩ := Mcu.recv_executes hal hsecret hsys hran
        rw [Mcu.decryptFrame_nonce hdec] at hnonce
        cases hnonce
      · rw [Mcu.recv_undispatched hal (Option.isNone_iff_eq_none.1 hrejected)] at hran
        exact absurd hran (lt_irrefl _)
  · rintro io env rfl hsys hran
    simp only [step] at hran
    split at hran
    case isFalse => exact absurd hran (lt_irrefl _)
    case isTrue hinject =>
      have hpacket : s.daemon.executed.length < (s.daemon.processPacket P random io env).executed.length := hran
      rcases Bool.or_eq_true_iff.1 hinject with havail | hrejected
      · refine (sentBy_of_available hsys havail).resolve_left fun hown => ?_
        rw [Daemon.Link.processPacket_stale P random s.daemon io hsys (hstale hsys hown)] at hpacket
        exact absurd hpacket (lt_irrefl _)
      · unfold Daemon.Link.processPacket at hpacket
        rw [Option.isNone_iff_eq_none.1 hrejected] at hpacket
        exact absurd hpacket (lt_irrefl _)

/-- In every run in which no peer is brought an application frame of its own that is ahead of its receive counter,
every application frame that a handler runs on comes from the other peer. -/
theorem application_origin (P : Platform) (random : Nat → UInt32) (secret : Bytes) (timing : HandshakeConfig)
    (maxAttempts : Nat) (service : Daemon.Service) (postOk : Bool) (evs : List TapEvent)
    (h : Along (step P random) StaleReflection (Hostile.init secret timing maxAttempts service postOk) evs) :
    Along (step P random) (OriginOk P random) (Hostile.init secret timing maxAttempts service postOk) evs :=
  h.mono fun _ _ => originOk_of_stale

instance (s : Hostile) : DecidablePred (StaleReflection s)
  | .toMcu _ _ | .toDaemon _ _ => inferInstanceAs (Decidable (_ → _ → _))
  | .daemon _ | .mcu _ | .reboot _ => inferInstanceAs (Decidable True)

/-- A handshake, and a mailbox message of the MCU. -/
def sampleTraffic : List TapEvent :=
  [.daemon .connect, .daemon (.beginAttempt true Net.handshakeNonce), .daemon (.sendLinkSync true),
    .toMcu .sample (Hostile.sampleEnvelope .linkSync), .toDaemon .sample (Hostile.sampleEnvelope .linkSyncResp),
    .mcu (.send .mailboxPush 0 (.mailboxPush [65]))]

/-- The frame of the message. -/
def sampleFrame : RpcEnvelope :=
  ((run (step .sample fun _ => 0) (Hostile.init [7] ⟨200, 5, 5000⟩ 3 (.sample []) true) sampleTraffic).mcu.wire.getLast?.map
    Sent.env).getD (Hostile.sampleEnvelope .linkSync)

theorem application_origin_delivered :
    (run (step .sample fun _ => 0) (Hostile.init [7] ⟨200, 5, 5000⟩ 3 (.sample []) true)
        (sampleTraffic ++ [.toDaemon .sample sampleFrame])).daemon.executed.length = 2 ∧
      Along (step .sample fun _ => 0) (OriginOk .sample fun _ => 0)
        (Hostile.init [7] ⟨200, 5, 5000⟩ 3 (.sample []) true) (sampleTraffic ++ [.toDaemon .sample sampleFrame]) :=
  ⟨by decide +kernel, application_origin .sample (fun _ => 0) [7] ⟨200, 5, 5000⟩ 3 (.sample []) true _ (by decide +kernel)⟩

/-- The MCU takes its own message for one of the daemon. -/
theorem reflected_push_handled :
    ¬ ∀ (P : Platform) (random : Nat → UInt32) (secret : Bytes) (timing : HandshakeConfig) (maxAttempts : Nat)
      (service : Daemon.Service) (postOk : Bool) (evs : List TapEvent),
      Along (step P random) (OriginOk P random) (Hostile.init secret timing maxAttempts service postOk) evs := by
  intro h
  have hrun := h .sample (fun _ => 0) [7] ⟨200, 5, 5000⟩ 3 (.sample []) true
    (sampleTraffic ++ [.toMcu .sample sampleFrame])
  have hlast := ((along_append _ _ _).1 hrun).2.1
  have hsent := hlast.mcu .sample sampleFrame rfl (by decide +kernel) (by decide +kernel)
  exact absurd hsent (by decide +kernel)

end Tap
end McuBridge
