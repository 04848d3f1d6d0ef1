import McuBridge.Daemon.Freshness
import McuBridge.Daemon.Reactions

/-! # `link_sync_event` and the session

The event follows the connection state as long as a session ends only where the event is cleared too: in
`on_serial_disconnected` and at the start of a handshake attempt. `mark_transport_connected` leaves it set. Application
commands that are sent in a session are encrypted. -/

namespace McuBridge
namespace Daemon
namespace Link

/-! ### Frames -/

/-- An application command that is not encrypted. -/
def Exposed (f : Sent) : Prop := isExcluded f.env.commandId = false ∧ f.sealNo = none

theorem isExcluded_of_system {cmd : UInt16} (h : isSystemCommand cmd = true) : isExcluded cmd.toUInt32 = true := by
  have hlt : cmd.toUInt32 < 65536 := by
    rw [UInt32.lt_iff_toNat_lt, UInt16.toNat_toUInt32]
    exact cmd.toNat_lt
  rw [isExcluded_eq hlt, UInt16.toUInt16_toUInt32]
  exact h

variable {P : Platform} {random : Nat → UInt32} {d t u : Link}

/-- `t` has the frames of `d` and new ones of `cmd`, encrypted if `d` has a session for it, and nothing else that
matters here is changed. -/
structure Writes (cmd : UInt16) (d t : Link) : Prop where
  state : t.state = d.state
  linkSyncEvent : t.linkSyncEvent = d.linkSyncEvent
  fsmState : t.fsmState = d.fsmState
  linkSessionKey : t.linkSessionKey = d.linkSessionKey
  current : t.current = d.current
  wire : ∃ fs, t.wire = d.wire ++ fs ∧ ∀ f ∈ fs, f.env.commandId = cmd.toUInt32 ∧ f.sealNo.isSome = d.doEncrypt cmd

theorem Writes.doEncrypt {cmd : UInt16} (h : Writes cmd d t) : t.doEncrypt cmd = d.doEncrypt cmd := by
  unfold Link.doEncrypt sessionKey isSynchronized
  rw [h.state, h.linkSessionKey]

theorem sendRaw_writes (P : Platform) (random : Nat → UInt32) (writes : Bool) (cmd : UInt16) (payload : Payload)
    (seq : Option UInt32) (ticket : Option Nat) (d : Link) :
    Writes cmd d (d.sendRaw P random writes cmd payload seq ticket).1 := by
  obtain ⟨_, _, _, fs, h, hfs⟩ := sendRaw_frame P random d writes cmd payload seq ticket
  rw [h]
  exact ⟨rfl, rfl, rfl, rfl, rfl, fs, rfl, hfs⟩

/-! ### The link's part of the invariant -/

/-- `Up` says where the session must be in force. -/
structure Guarded (Up : Prop) (d : Link) : Prop where
  event : d.linkSyncEvent = d.isSynchronized
  fsm : d.isSynchronized = true → d.fsmState = .synchronized
  key : d.isSynchronized = true → ∃ k, d.linkSessionKey = some k ∧ k ≠ []
  wire : ∀ f ∈ d.wire, ¬ Exposed f
  current : d.isSynchronized = false → ∀ c ∈ d.current, isSystemCommand c.pending.commandId = true
  up : Up → d.isSynchronized = true

variable {Up : Prop}

theorem Guarded.doEncrypt (h : d.Guarded Up) {cmd : UInt16} (hs : d.isSynchronized = true)
    (hcmd : isSystemCommand cmd = false) : d.doEncrypt cmd = true := by
  obtain ⟨k, hk, hne⟩ := h.key hs
  unfold Link.doEncrypt sessionKey
  rw [if_pos hs, hk, hcmd]
  simpa using hne

/-- A command may be sent in a session, and a system command always. -/
theorem Guarded.writes (h : d.Guarded Up) {cmd : UInt16} (hcmd : isSystemCommand cmd = true ∨ d.isSynchronized = true)
    (hw : Writes cmd d t) : t.Guarded Up := by
  have hsync : t.isSynchronized = d.isSynchronized := by
    unfold isSynchronized
    rw [hw.state]
  refine ⟨by rw [hw.linkSyncEvent, hsync]; exact h.event, ?_, ?_, ?_, ?_, by rw [hsync]; exact h.up⟩
  · rw [hsync, hw.fsmState]
    exact h.fsm
  · rw [hsync, hw.linkSessionKey]
    exact h.key
  · obtain ⟨fs, hfs, hall⟩ := hw.wire
    rw [hfs]
    intro f hf
    rcases List.mem_append.1 hf with hf | hf
    · exact h.wire f hf
    · obtain ⟨hid, hseal⟩ := hall f hf
      rintro ⟨happ, hnone⟩
      rw [hid] at happ
      cases hsys : isSystemCommand cmd with
      | true =>
        rw [isExcluded_of_system hsys] at happ
        cases happ
      | false =>
        rw [hsys] at hcmd
        rw [h.doEncrypt (hcmd.resolve_left nofun) hsys, hnone] at hseal
        cases hseal
  · rw [hsync, hw.current]
    exact h.current

theorem Guarded.congr (h : d.Guarded Up) (hstate : t.state = d.state) (hevent : t.linkSyncEvent = d.linkSyncEvent)
    (hfsm : t.fsmState = d.fsmState) (hkey : t.linkSessionKey = d.linkSessionKey) (hwire : t.wire = d.wire)
    (hcur : ∀ c ∈ t.current, ∃ c' ∈ d.current, c.pending.commandId = c'.pending.commandId) : t.Guarded Up := by
  have hsync : t.isSynchronized = d.isSynchronized := by
    unfold isSynchronized
    rw [hstate]
  refine ⟨by rw [hevent, hsync]; exact h.event, ?_, ?_, by rw [hwire]; exact h.wire, ?_, by rw [hsync]; exact h.up⟩
  · rw [hsync, hfsm]
    exact h.fsm
  · rw [hsync, hkey]
    exact h.key
  · rw [hsync]
    intro hs c hc
    obtain ⟨c', hc', heq⟩ := hcur c hc
    rw [heq]
    exact h.current hs c' hc'

/-! ### Calls of `send` -/

theorem Guarded.finish (h : d.Guarded Up) (c : Call) (r : CallResult) : (d.finish c r).Guarded Up := by
  refine h.congr rfl rfl rfl rfl rfl ?_
  rintro _ ⟨⟩

theorem Guarded.sendAttempt (h : d.Guarded Up) {c : Call}
    (hcmd : isSystemCommand c.pending.commandId = true ∨ d.isSynchronized = true) (writes : Bool) :
    (d.sendAttempt P random writes c).Guarded Up := by
  unfold Link.sendAttempt
  dsimp only
  have hw := sendRaw_writes P random writes c.pending.commandId c.payload none (some c.ticket) d
  have hg := h.writes hcmd hw
  split
  · refine ⟨hg.event, hg.fsm, hg.key, hg.wire, ?_, hg.up⟩
    rintro hs _ ⟨⟩
    refine hcmd.resolve_right fun hs' => ?_
    rw [isSynchronized, ← hw.state] at hs'
    exact Bool.noConfusion (hs'.symm.trans hs)
  · exact hg.finish _ _
  · exact hg.finish _ _

theorem Guarded.send (h : d.Guarded Up) (P : Platform) (random : Nat → UInt32) {cmd : UInt16}
    (hcmd : isSystemCommand cmd = true ∨ d.isSynchronized = true) (writes : Bool) (payload : Payload) :
    (d.send P random writes cmd payload).Guarded Up := by
  unfold Link.send
  split
  · exact h
  split
  · exact h.writes hcmd (sendRaw_writes P random writes cmd payload none none d)
  split
  · exact h
  · have hcalls : Guarded Up { d with calls := d.calls + 1 } := h.congr rfl rfl rfl rfl rfl fun c hc => ⟨c, hc, rfl⟩
    exact hcalls.sendAttempt hcmd writes

theorem Guarded.retryLater (h : d.Guarded Up) {c : Call} (hc : d.current = some c) : (d.retryLater c).Guarded Up := by
  unfold Link.retryLater
  split
  · refine h.congr rfl rfl rfl rfl rfl ?_
    rintro _ ⟨⟩
    exact ⟨c, hc, rfl⟩
  · exact h.finish _ _

theorem Guarded.onTimeout (h : d.Guarded Up) : d.onTimeout.Guarded Up := by
  unfold Link.onTimeout
  split
  case h_1 c hc =>
    split
    · exact h
    · exact h.retryLater hc
  · exact h

theorem Guarded.onCompletion (h : d.Guarded Up) : d.onCompletion.Guarded Up := by
  unfold Link.onCompletion
  split
  case h_1 c hc =>
    split
    · exact h
    split
    · exact h.finish _ _
    split
    · exact h.finish _ _
    · exact h.retryLater hc
  · exact h

theorem Guarded.onRetry (h : d.Guarded Up) (writes : Bool) : (d.onRetry P random writes).Guarded Up := by
  unfold Link.onRetry
  split
  case h_1 c hc =>
    split
    · refine h.sendAttempt ?_ writes
      cases hs : d.isSynchronized with
      | true => exact .inr rfl
      | false => exact .inl (h.current hs c hc)
    · exact h
  · exact h

/-! ### The handshake without a session -/

/-- Guarded and not synchronised. -/
structure Down (Up : Prop) (d : Link) : Prop where
  down : d.isSynchronized = false
  event : d.linkSyncEvent = false
  wire : ∀ f ∈ d.wire, ¬ Exposed f
  current : ∀ c ∈ d.current, isSystemCommand c.pending.commandId = true
  not_up : ¬ Up

theorem Down.guarded (h : d.Down Up) : d.Guarded Up where
  event := h.event.trans h.down.symm
  fsm hs := absurd (hs.symm.trans h.down) nofun
  key hs := absurd (hs.symm.trans h.down) nofun
  wire := h.wire
  current _ := h.current
  up hup := absurd hup h.not_up

theorem Guarded.down (h : d.Guarded Up) (hs : d.isSynchronized = false) : d.Down Up :=
  ⟨hs, h.event.trans hs, h.wire, h.current hs, fun hup => absurd ((h.up hup).symm.trans hs) nofun⟩

theorem Down.writes (h : d.Down Up) {cmd : UInt16} (hcmd : isSystemCommand cmd = true) (hw : Writes cmd d t) :
    t.Down Up := by
  refine (h.guarded.writes (.inl hcmd) hw).down ?_
  rw [isSynchronized, hw.state]
  exact h.down

theorem setFsmState_wire (new : HandshakeState) (d : Link) : (d.setFsmState new).wire = d.wire :=
  (setFsmState_quiet d new).wire

theorem setFsmState_current (new : HandshakeState) (d : Link) : (d.setFsmState new).current = d.current := by
  unfold Link.setFsmState
  split <;> rfl

theorem Down.setFsmState (h : d.Down Up) (new : HandshakeState) (hnew : new ≠ .synchronized) :
    (d.setFsmState new).Down Up := by
  have hstate := setFsmState_state d hnew
  refine ⟨?_, ?_, ?_, ?_, h.not_up⟩
  · rcases hstate with hst | hst
    · rw [isSynchronized, hst]
      exact h.down
    · rw [isSynchronized, hst]
      rfl
  · unfold Link.setFsmState
    rw [if_neg hnew]
    split <;> exact h.event
  · rw [setFsmState_wire]
    exact h.wire
  · rw [setFsmState_current]
    exact h.current

theorem Down.handleHandshakeFailure (h : d.Down Up) : d.handleHandshakeFailure.Down Up := by
  have hfault := h.setFsmState .fault nofun
  exact ⟨rfl, hfault.event, hfault.wire, hfault.current, h.not_up⟩

theorem Down.clearHandshakeExpectations (h : d.Down Up) : d.clearHandshakeExpectations.Down Up :=
  ⟨h.down, h.event, h.wire, h.current, h.not_up⟩

theorem Down.setAttempt (h : d.Down Up) (a : Option Attempt) : Down Up { d with attempt := a } :=
  ⟨h.down, h.event, h.wire, h.current, h.not_up⟩

/-- The start of an attempt ends a session, and clears the event. -/
theorem Guarded.beginAttempt (h : d.Guarded Up) (hcur : ∀ c ∈ d.current, isSystemCommand c.pending.commandId = true)
    (writes : Bool) (nonce : Bytes) : (d.beginAttempt P random writes nonce).Down False := by
  have hreset : Down False { (d.setFsmState .unsynchronized).setFsmState .resetting with
      linkSyncEvent := false
      linkHandshakeNonce := some nonce
      linkExpectedTag := some (calculateHandshakeTag P ((d.setFsmState .unsynchronized).setFsmState .resetting).sharedSecret nonce) } := by
    have hunsync : (d.setFsmState .unsynchronized).isSynchronized = false := by
      cases hs : d.isSynchronized with
      | true =>
        unfold Link.setFsmState
        rw [h.fsm hs]
        rfl
      | false => exact ((h.down hs).setFsmState .unsynchronized nofun).down
    refine ⟨?_, rfl, ?_, ?_, id⟩
    · have hresetting : HandshakeState.resetting ≠ .synchronized := nofun
      rcases setFsmState_state (d.setFsmState .unsynchronized) hresetting with hst | hst
      · unfold isSynchronized
        dsimp only
        rw [hst]
        exact hunsync
      · unfold isSynchronized
        dsimp only
        rw [hst]
        rfl
    · dsimp only
      rw [setFsmState_wire, setFsmState_wire]
      exact h.wire
    · dsimp only
      rw [setFsmState_current, setFsmState_current]
      exact hcur
  unfold Link.beginAttempt
  dsimp only
  have hsend := hreset.writes (by decide) (sendRaw_writes P random writes Command.linkReset.toUnderlying
    (.message (.handshakeConfig ((d.setFsmState .unsynchronized).setFsmState .resetting).timing)) none none _)
  split
  · exact hsend.setAttempt _
  · exact hsend.clearHandshakeExpectations.handleHandshakeFailure.setAttempt _

theorem Down.sendLinkSync (h : d.Down Up) (writes : Bool) (a : Attempt) :
    (d.sendLinkSync P random writes a).Down Up := by
  unfold Link.sendLinkSync
  dsimp only
  have hsend := (h.setFsmState .syncing nofun).writes (by decide)
    (sendRaw_writes P random writes Command.linkSync.toUnderlying
      (.message (.linkSync ⟨a.nonce, calculateHandshakeTag P (d.setFsmState .syncing).sharedSecret a.nonce⟩)) none none _)
  split
  · split
    · exact hsend.setAttempt _
    split
    · exact (hsend.setFsmState .confirming nofun).setAttempt _
    · exact hsend.setAttempt _
  · exact hsend.clearHandshakeExpectations.handleHandshakeFailure.setAttempt _

theorem Guarded.endAttempt (h : d.Guarded Up) (a : Attempt) : (d.endAttempt a).Guarded Up := by
  unfold Link.endAttempt
  split
  case isTrue hs =>
    rw [if_neg fun hfsm => hfsm.1 (h.fsm hs)]
    exact h.congr rfl rfl rfl rfl rfl fun c hc => ⟨c, hc, rfl⟩
  case isFalse hs =>
    have hdown := h.down (eq_false_of_ne_true hs)
    split
    · exact (hdown.setAttempt none).guarded
    · dsimp only
      split
      · exact (hdown.clearHandshakeExpectations.handleHandshakeFailure.setAttempt none).guarded
      · exact (hdown.clearHandshakeExpectations.setAttempt none).guarded

/-! ### Received packets -/

/-- `handle_link_sync_resp` ends in `handle_handshake_failure`. -/
def failsResp (P : Platform) (io : Io) (payload : Payload) (d : Link) : Bool :=
  match d.linkHandshakeNonce with
  | none => true
  | some expected =>
    io.throttled ||
      match readLinkSync io.host payload, payload with
      | none, .bytes _ => true
      | none, .message _ => false
      | some m, _ => m.nonce == expected && (d.linkExpectedTag.isNone || m.tag.length != aeadTagSize ||
          m.tag != calculateHandshakeTag P d.sharedSecret m.nonce)

theorem Down.acknowledge (h : d.Down Up) (writes : Bool) (cmd seq : UInt32) (st : Status) :
    (d.acknowledge P random writes cmd seq st).Down Up :=
  h.writes (isSystemCommand_status st) (sendRaw_writes ..)

theorem Guarded.acknowledge (h : d.Guarded Up) (writes : Bool) (cmd seq : UInt32) (st : Status) :
    (d.acknowledge P random writes cmd seq st).Guarded Up :=
  h.writes (.inl (isSystemCommand_status st)) (sendRaw_writes ..)

/-- A tag of the right length is made with a secret. -/
theorem sharedSecret_of_tag {nonce tag : Bytes} (hlen : tag.length = aeadTagSize)
    (htag : tag = calculateHandshakeTag P d.sharedSecret nonce) : d.sharedSecret.isEmpty = false := by
  cases hs : d.sharedSecret with
  | nil =>
    rw [htag, hs, calculateHandshakeTag_nil] at hlen
    exact absurd hlen (by decide)
  | cons => rfl

theorem Guarded.accept (h : d.Guarded Up) {key : Bytes} (hkey : key ≠ []) (accepted : List Bytes) :
    ({ (({ d with linkSessionKey := some key } : Link).setFsmState .synchronized).clearHandshakeExpectations
      |>.handleHandshakeSuccess with accepted := accepted } : Link).Guarded Up := by
  refine ⟨rfl, fun _ => ?_, fun _ => ⟨key, ?_, hkey⟩, ?_, nofun, fun _ => rfl⟩
  all_goals
    unfold Link.handleHandshakeSuccess Link.publishHandshakeEvent Link.clearHandshakeExpectations Link.setFsmState
    split
  case refine_1.isTrue hsame => exact hsame
  case refine_1.isFalse => rfl
  case refine_2.isTrue => rfl
  case refine_2.isFalse => rfl
  case refine_3.isTrue => exact h.wire
  case refine_3.isFalse => exact h.wire

theorem Guarded.handleLinkSyncResp (random : Nat → UInt32) (hkey : ∀ secret nonce, P.deriveSessionKey secret nonce ≠ [])
    (h : d.Guarded Up) {io : Io}
    {payload : Payload} (hfail : d.isSynchronized = true → failsResp P io payload d = false) (seq : UInt32) :
    (d.handleLinkSyncResp P random io seq payload).1.Guarded Up := by
  -- a failure is met without a session only
  have hdown : failsResp P io payload d = true → d.Down Up := by
    intro hf
    refine h.down (eq_false_of_ne_true fun hs => ?_)
    rw [hfail hs] at hf
    cases hf
  unfold failsResp at hdown
  unfold Link.handleLinkSyncResp
  dsimp only
  split
  case h_1 hnone =>
    rw [hnone] at hdown
    exact (((hdown rfl).acknowledge _ _ _ _).handleHandshakeFailure).guarded
  case h_2 expected hexp =>
    rw [hexp] at hdown
    dsimp only at hdown
    split
    case isTrue hth =>
      rw [hth] at hdown
      exact (((hdown rfl).acknowledge _ _ _ _).handleHandshakeFailure).guarded
    case isFalse hth =>
    rw [eq_false_of_ne_true hth, Bool.false_or] at hdown
    split
    case h_1 hread =>
      rw [hread] at hdown
      cases payload with
      | message m => exact h
      | bytes b =>
        exact (((hdown rfl).acknowledge _ _ _ _).clearHandshakeExpectations.handleHandshakeFailure).guarded
    case h_2 m hread =>
      rw [hread] at hdown
      dsimp only at hdown
      split
      · exact h
      case isFalse hnonce =>
        have hnonce : m.nonce = expected := not_not.1 hnonce
        split
        case isTrue hbad =>
          have hd := hdown (by simpa [hnonce, or_assoc] using hbad)
          exact ((hd.acknowledge _ _ _ _).clearHandshakeExpectations.handleHandshakeFailure).guarded
        case isFalse hgood =>
          simp only [not_or, not_not] at hgood
          obtain ⟨-, hlen, htag⟩ := hgood
          rw [sharedSecret_of_tag hlen htag, if_neg (by decide)]
          exact h.accept (hkey _ _) _

theorem Guarded.sendReplies (h : d.Guarded Up) (P : Platform) (random : Nat → UInt32)
    {replies : List (UInt16 × Payload)} (hcmd : d.isSynchronized = true ∨ replies = []) (writes : Bool) :
    (sendReplies P random writes replies d).1.Guarded Up := by
  induction replies generalizing d with
  | nil => exact h
  | cons r rest ih =>
    have hs := hcmd.resolve_right nofun
    have hw := sendRaw_writes P random writes r.1 r.2 none none d
    have hg := h.writes (.inr hs) hw
    unfold Link.sendReplies
    dsimp only
    split
    · exact hg
    · refine ih hg (.inl ?_)
      rw [isSynchronized, hw.state]
      exact hs

theorem Guarded.runHandler (h : d.Guarded Up) {handler : McuHandler} {io : Io} {p : Payload}
    (hcmd : d.isSynchronized = true ∨ ∀ s r, handler io.host (d.serial && io.writes) p s = some r → r.replies = [])
    (cmd seq : UInt32) : (d.runHandler P random io handler cmd seq p).Guarded Up := by
  have hcongr : ∀ x s, Guarded Up { d with executed := d.executed ++ [x], service := s } :=
    fun _ _ => h.congr rfl rfl rfl rfl rfl fun c hc => ⟨c, hc, rfl⟩
  unfold Link.runHandler
  dsimp only
  split
  · exact hcongr _ d.service
  case h_2 r hr =>
    have hreplies := (hcongr (cmd, seq) r.service).sendReplies P random
      (hcmd.imp_right fun hall => hall _ r hr) io.writes
    split
    · exact hreplies
    · exact hreplies.acknowledge _ _ _ _

/-- The handlers that run without a session send nothing. -/
theorem replies_nil {cmd : UInt32} (hcmd : (isStatusValue cmd || preSyncAllowed cmd) = true) {handler : McuHandler}
    (hget : (if cmd < 65536 then Service.mcuRegistry.lookup cmd.toUInt16 else none) = some handler) {h : McuHost}
    {sent : Bool} {p : Payload} {s : Service} {r : Reaction} (hr : handler h sent p s = some r) : r.replies = [] := by
  split at hget
  case isFalse => cases hget
  case isTrue hlt =>
    rcases Bool.or_eq_true_iff.1 hcmd with hst | hpre
    · have hround : cmd.toUInt16.toUInt32 = cmd := by
        rw [UInt32.toUInt32_toUInt16]
        exact UInt32.toNat_inj.1 (Nat.mod_eq_of_lt (UInt32.lt_iff_toNat_lt.1 hlt))
      have hspec := (Service.lookup_spec hget).answers hr
      unfold Service.answered at hspec
      rw [hround, hst] at hspec
      simpa using hspec
    · rcases Bool.or_eq_true_iff.1 hpre with hsync | hreset
      · rw [beq_iff_eq.1 hsync] at hget
        cases hget
      · rw [beq_iff_eq.1 hreset] at hget
        cases hget
        cases hr
        rfl

theorem Guarded.handleMcuFrame (hkey : ∀ secret nonce, P.deriveSessionKey secret nonce ≠ []) (h : d.Guarded Up) {io : Io}
    {cmd : UInt32} {payload : Payload} (hfail : cmd = Command.linkSyncResp.toUnderlying.toUInt32 →
      d.service.serial = true → d.isSynchronized = true → failsResp P io payload d = false) (seq : UInt32) :
    (d.handleMcuFrame P random io cmd seq payload).Guarded Up := by
  have hexecuted : Guarded Up { d with executed := d.executed ++ [(cmd, seq)] } :=
    h.congr rfl rfl rfl rfl rfl fun c hc => ⟨c, hc, rfl⟩
  unfold Link.handleMcuFrame
  split
  · exact h
  case isFalse hserial =>
    split
    · exact h
    case isFalse hgate =>
      split
      case isTrue hcmd =>
        have hresp := hexecuted.handleLinkSyncResp random hkey (hfail hcmd (by simpa using hserial)) seq
        dsimp only
        split
        · exact hresp.acknowledge _ _ _ _
        · exact hresp
      split
      case h_1 handler hget =>
        split
        · exact h
        case h_2 p _ =>
          refine h.runHandler ?_ cmd seq
          cases hs : d.isSynchronized with
          | true => exact .inl rfl
          | false =>
            rw [hs, Bool.false_or, Bool.not_eq_true, Bool.not_eq_false'] at hgate
            exact .inr fun s r hr => replies_nil hgate hget hr
      · split
        · exact h.writes (.inl (isSystemCommand_status .notImplemented)) (sendRaw_writes ..)
        · exact h

theorem checkCounter_guarded (h : d.Guarded Up) {env : RpcEnvelope} (ht : d.checkCounter env = some t) :
    t.Guarded Up ∧ t.isSynchronized = d.isSynchronized ∧ t.service = d.service ∧
      ∀ io payload, failsResp P io payload t = failsResp P io payload d := by
  unfold checkCounter at ht
  split at ht
  · obtain ⟨c, -, rfl⟩ := Option.map_eq_some_iff.1 ht
    exact ⟨h.congr rfl rfl rfl rfl rfl fun c hc => ⟨c, hc, rfl⟩, rfl, rfl, fun _ _ => rfl⟩
  · cases ht
    exact ⟨h, rfl, rfl, fun _ _ => rfl⟩

theorem Guarded.correlateFrame (h : d.Guarded Up) (host : McuHost) (cmd : UInt32) (payload : Payload) :
    (d.correlateFrame host cmd payload).Guarded Up := by
  refine h.congr rfl rfl rfl rfl rfl fun c hc => ?_
  obtain ⟨c', hc', rfl⟩ := Option.map_eq_some_iff.1 hc
  exact ⟨c', hc', correlatePending_commandId _ _ _ _⟩

/-- The packet is a LINK_SYNC_RESP that fails. -/
def failsPacket (P : Platform) (io : Io) (env : RpcEnvelope) (d : Link) : Bool :=
  env.commandId == Command.linkSyncResp.toUnderlying.toUInt32 && d.service.serial &&
    (parseFrame P env d.sessionKey).any fun payload => failsResp P io payload d

theorem Guarded.processPacket (hkey : ∀ secret nonce, P.deriveSessionKey secret nonce ≠ []) (h : d.Guarded Up) {io : Io}
    {env : RpcEnvelope} (hfail : d.isSynchronized = true → failsPacket P io env d = false) :
    (d.processPacket P random io env).Guarded Up := by
  unfold Link.processPacket
  split
  · exact h
  case h_2 payload hparse =>
    split
    · exact h.congr rfl rfl rfl rfl rfl fun c hc => ⟨c, hc, rfl⟩
    split
    · exact h
    case h_2 t ht =>
      obtain ⟨hg, hsync, hservice, hresp⟩ := checkCounter_guarded (P := P) h ht
      refine (hg.correlateFrame _ _ _).handleMcuFrame hkey (fun hcmd hserial hs => ?_) env.sequenceId
      have hpacket := hfail (hsync.symm.trans hs)
      have hserial' : d.service.serial = true := by
        rw [← hservice]
        exact hserial
      unfold failsPacket at hpacket
      rw [hparse, hcmd, hserial', beq_self_eq_true, Bool.and_true, Bool.true_and] at hpacket
      exact (hresp io payload).trans hpacket

/-! ### Events -/

/-- The session ends, and `link_sync_event` is cleared. -/
def endsSession (d : Link) : LinkEvent → Bool
  | .disconnect => true
  | .beginAttempt _ nonce => d.attempt.isNone && nonce.length == handshakeNonceLength
  | _ => false

/-- `mark_transport_connected` ends the session, and `link_sync_event` stays set. -/
def dropsSession (P : Platform) (d : Link) : LinkEvent → Bool
  | .connect => true
  | .retryError => d.attempt.isNone
  | .sendLinkSync _ => d.attempt.any fun a => !a.confirming
  | .packet io env => failsPacket P io env d
  | _ => false

/-- The command of a frame that is sent from outside the requests. -/
def sentBy : LinkEvent → Option UInt16
  | .send _ cmd _ => some cmd
  | _ => none

theorem Guarded.step_ends (h : d.Guarded Up) {ev : LinkEvent} (hends : d.endsSession ev = true)
    (hcur : ∀ c ∈ d.current, isSystemCommand c.pending.commandId = true) : (d.step P random ev).Down False := by
  cases ev with
  | disconnect => exact ⟨rfl, rfl, h.wire, hcur, id⟩
  | beginAttempt writes nonce =>
    obtain ⟨hnone, hlen⟩ := Bool.and_eq_true_iff.1 hends
    unfold Link.step
    dsimp only
    rw [if_neg (by simp [Option.isNone_iff_eq_none.1 hnone, beq_iff_eq.1 hlen])]
    exact h.beginAttempt hcur writes nonce
  | _ => cases hends

theorem Guarded.step_within (hkey : ∀ secret nonce, P.deriveSessionKey secret nonce ≠ []) (h : d.Guarded Up)
    {ev : LinkEvent} (hends : d.endsSession ev = false) (hdrop : d.isSynchronized = true → d.dropsSession P ev = false)
    (hsend : ∀ cmd ∈ sentBy ev, isSystemCommand cmd = true ∨ d.isSynchronized = true) :
    (d.step P random ev).Guarded Up := by
  -- what drops a session is met without one
  have hdown : d.dropsSession P ev = true → d.Down Up := by
    intro hd
    refine h.down (eq_false_of_ne_true fun hs => ?_)
    rw [hdrop hs] at hd
    cases hd
  cases ev with
  | packet io env => exact h.processPacket hkey hdrop
  | send writes cmd payload => exact h.send P random (hsend cmd rfl) writes payload
  | timeout => exact h.onTimeout
  | completion => exact h.onCompletion
  | retry writes => exact h.onRetry writes
  | beginAttempt writes nonce =>
    unfold Link.step
    dsimp only
    rw [if_pos]
    · exact h
    · cases ha : d.attempt with
      | some a => rfl
      | none =>
        unfold endsSession at hends
        rw [ha] at hends
        simpa using hends
  | sendLinkSync writes =>
    unfold Link.step
    dsimp only
    split
    case h_1 a ha =>
      split
      · exact h
      case isFalse hconf =>
        have hdrops : d.dropsSession P (.sendLinkSync writes) = true := by
          unfold dropsSession
          rw [ha]
          simpa using hconf
        exact ((hdown hdrops).sendLinkSync writes a).guarded
    · exact h
  | endAttempt =>
    unfold Link.step
    dsimp only
    split
    · split
      · exact h.endAttempt _
      · exact h
    · exact h
  | retryError =>
    unfold Link.step
    dsimp only
    split
    · exact h
    case isFalse hnone =>
      exact ((hdown (Option.isNone_iff_eq_none.2 (Option.not_isSome_iff_eq_none.1 hnone))).setFsmState .fault
        nofun).guarded
  | connect =>
    have hd := hdown rfl
    exact Down.guarded ⟨rfl, hd.event, hd.wire, hd.current, hd.not_up⟩
  | disconnect => cases hends
  | close => exact h.congr rfl rfl rfl rfl rfl fun c hc => ⟨c, hc, rfl⟩
  | negotiate writes baudrate =>
    have hg := h.writes (.inl (by decide)) (sendRaw_writes P random writes
      Command.setBaudrate.toUnderlying (.message (.setBaudratePacket baudrate)) none none d)
    exact hg.congr rfl rfl rfl rfl rfl fun c hc => ⟨c, hc, rfl⟩
  | negotiated => exact h.congr rfl rfl rfl rfl rfl fun c hc => ⟨c, hc, rfl⟩

end Link

end Daemon
end McuBridge
