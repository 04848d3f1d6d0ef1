import McuBridge.Daemon.ReaderStalls

/-! # The read loop among the other tasks

Runs of the reader without time limits. A wait lasts as long as the connection: no other task brings what the
reader waits for. -/

namespace McuBridge
namespace Daemon

/-! ### What a wait waits for -/

/-- Nothing the wait could end with is there yet. -/
def Progress.Stuck (p : Progress) : Prop := ∀ w, p.wait = some w → p.link.resolves w = false

namespace Link
variable {P : Platform} {random : Nat → UInt32} {d t : Link} {io : Io} {next : Link → Progress}

theorem done_stuck (d : Link) : Progress.Stuck { link := d } := nofun

theorem awaitTx_stuck (h : ∀ t, (next t).Stuck) : (d.awaitTx next).Stuck := by
  cases hb : d.txBlocked
  · rw [awaitTx_free hb]
    exact h d
  · rw [awaitTx_blocked hb]
    rintro w ⟨⟩
    have hpaused : d.service.mcuIsPaused = true := (Bool.and_eq_true_iff.1 hb).2
    simp [resolves, hpaused]

theorem awaitReplies_stuck (h : ∀ t, (next t).Stuck) (writes : Bool) (replies : List (UInt16 × Payload)) :
    (awaitReplies P random writes next replies d).Stuck := by
  induction replies generalizing d with
  | nil => exact h d
  | cons x rest ih =>
    unfold awaitReplies
    refine awaitTx_stuck fun t => ?_
    dsimp only
    split
    · exact done_stuck _
    · exact ih

theorem onCompletion_isWaiting : ∀ c ∈ d.onCompletion.current, c.isWaiting = true := by
  unfold onCompletion
  split
  case h_1 c hc =>
    split
    case isTrue h =>
      intro c' hc'
      rw [hc] at hc'
      obtain rfl := Option.some.inj hc'
      exact h
    split
    · exact fun c' hc' => absurd hc' (Option.not_mem_none c')
    split
    · exact fun c' hc' => absurd hc' (Option.not_mem_none c')
    unfold retryLater
    split
    · intro c' hc'
      obtain rfl := Option.some.inj hc'
      rfl
    · exact fun c' hc' => absurd hc' (Option.not_mem_none c')
  case h_2 hc =>
    rw [hc]
    exact fun c' hc' => absurd hc' (Option.not_mem_none c')

theorem sendAttempt_isWaiting {c : Call} (hc : c.pending.completion = false) (writes : Bool) :
    ∀ c' ∈ (d.sendAttempt P random writes c).current, c'.isWaiting = true := by
  unfold sendAttempt
  dsimp only
  split
  · intro c' hc'
    obtain rfl := Option.some.inj hc'
    simp [Call.isWaiting, hc]
  · exact fun c' hc' => absurd hc' (Option.not_mem_none c')
  · exact fun c' hc' => absurd hc' (Option.not_mem_none c')

theorem send_isWaiting (h : ∀ c ∈ d.current, c.isWaiting = true) (writes : Bool) (cmd : UInt16) (payload : Payload) :
    ∀ c ∈ (d.send P random writes cmd payload).current, c.isWaiting = true := by
  unfold send
  split
  · exact h
  split
  · rw [(sendRaw_sameFlow ..).current]
    exact h
  split
  · exact h
  · exact sendAttempt_isWaiting rfl writes

theorem awaitFlush_stuck (h : ∀ t, (next t).Stuck) (writes : Bool) (q : List Bytes) :
    (awaitFlush P random writes next q d).Stuck := by
  induction q with
  | nil => exact h _
  | cons buf rest ih =>
    unfold awaitFlush
    split
    · exact ih
    case h_2 chunk _ _ =>
      split
      · exact h _
      dsimp only
      split
      case isTrue hsome =>
        rintro w ⟨⟩
        have hwaits := @send_isWaiting P random _ (onCompletion_isWaiting (d := d.setConsoleQueue rest))
          writes Command.consoleWrite.toUnderlying (.message (.consoleWrite chunk))
        obtain ⟨c, hc⟩ := Option.isSome_iff_exists.1 hsome
        simp only [resolves, hc, Option.any_some, hwaits c hc, Bool.not_true]
      split
      · exact done_stuck _
      · exact h _

theorem awaitAck_stuck (cmd seq : UInt32) (returnsFalse : Bool) :
    (d.awaitAck P random io cmd seq returnsFalse).Stuck := by
  unfold awaitAck
  split
  · exact done_stuck _
  · exact awaitTx_stuck fun _ => done_stuck _

theorem awaitHandler_stuck (handler : McuHandler) (cmd seq : UInt32) (p : Payload) :
    (d.awaitHandler P random io handler cmd seq p).Stuck := by
  unfold awaitHandler
  dsimp only
  split
  · exact done_stuck _
  split
  · exact awaitFlush_stuck (fun _ => awaitAck_stuck _ _ _) _ _
  · exact awaitReplies_stuck (fun _ => awaitAck_stuck _ _ _) _ _

theorem awaitMcuFrame_stuck (cmd seq : UInt32) (payload : Payload) :
    (d.awaitMcuFrame P random io cmd seq payload).Stuck := by
  unfold awaitMcuFrame
  split
  · exact done_stuck _
  split
  · exact done_stuck _
  split
  · unfold awaitLinkSyncResp
    dsimp only
    split
    · exact awaitTx_stuck fun _ => done_stuck _
    split
    · exact done_stuck _
    · exact awaitTx_stuck fun _ => done_stuck _
  split
  · split
    · exact done_stuck _
    · exact awaitHandler_stuck _ _ _ _
  split
  · exact awaitTx_stuck fun _ => done_stuck _
  · exact done_stuck _

theorem awaitNegotiation_stuck (writes : Bool) (baudrate : UInt32) :
    (d.awaitNegotiation P random writes baudrate).Stuck := by
  refine awaitTx_stuck fun t => ?_
  dsimp only
  split
  · rintro w ⟨⟩
    rfl
  · exact done_stuck _

/-- What other tasks do brings nothing the reader can wait for. -/
def Unresolving (d t : Link) : Prop := ∀ w, d.resolves w = false → t.resolves w = false

theorem Unresolving.of_eq (hpaused : t.service.mcuIsPaused = d.service.mcuIsPaused) (hcur : t.current = d.current) :
    Unresolving d t := by
  intro w hw
  cases w with
  | xon =>
    simp only [resolves, hpaused] at hw ⊢
    exact hw
  | answer =>
    simp only [resolves, hcur] at hw ⊢
    exact hw
  | baudrateResp => rfl

theorem SameFlow.unresolving (h : SameFlow d t) : Unresolving d t := .of_eq h.paused h.current

theorem send_unresolving (writes : Bool) (cmd : UInt16) (payload : Payload) :
    Unresolving d (d.send P random writes cmd payload) := by
  have hpaused := @send_paused P random d writes cmd payload
  cases hcur : d.current with
  | some c =>
    -- the lock is taken
    refine .of_eq hpaused ?_
    unfold send
    rw [hcur, Option.isSome_some, if_pos rfl]
    split
    · exact hcur
    split
    · exact (sendRaw_sameFlow ..).current.trans hcur
    · exact hcur
  | none =>
    intro w hw
    cases w with
    | xon =>
      simp only [resolves, hpaused] at hw ⊢
      exact hw
    | answer => simp [resolves, hcur] at hw
    | baudrateResp => rfl

theorem onCompletion_unresolving : Unresolving d d.onCompletion := by
  obtain ⟨c, rs, heq⟩ := onCompletion_eq (d := d)
  intro w hw
  cases w with
  | xon =>
    rw [heq]
    exact hw
  | answer =>
    have hsame : d.onCompletion = d := by
      unfold onCompletion
      split
      case h_1 c hc =>
        have hwaits : c.isWaiting = true := by simpa only [resolves, hc, Option.any_some, Bool.not_eq_false'] using hw
        exact if_pos hwaits
      · rfl
    rw [hsame]
    exact hw
  | baudrateResp => rfl

theorem abandon_sameFlow (h : SameFlow d t) :
    SameFlow d { t.clearHandshakeExpectations.handleHandshakeFailure with attempt := none } := by
  have hfail := handleHandshakeFailure_sameFlow (d := t.clearHandshakeExpectations)
  exact ⟨hfail.serial.trans h.serial, hfail.paused.trans h.paused, hfail.current.trans h.current⟩

theorem beginAttempt_sameFlow (writes : Bool) (nonce : Bytes) :
    SameFlow d (d.beginAttempt P random writes nonce) := by
  have hfsm := (setFsmState_sameFlow (d := d) .unsynchronized).trans (setFsmState_sameFlow .resetting)
  unfold beginAttempt
  dsimp only
  generalize (d.setFsmState .unsynchronized).setFsmState .resetting = t at hfsm ⊢
  have hnonce : SameFlow t { t with
      linkSyncEvent := false
      linkHandshakeNonce := some nonce
      linkExpectedTag := some (calculateHandshakeTag P t.sharedSecret nonce) } := ⟨rfl, rfl, rfl⟩
  have hsend := (hfsm.trans hnonce).trans (@sendRaw_sameFlow P random _ writes
    Command.linkReset.toUnderlying (.message (.handshakeConfig t.timing)) none none)
  split
  · exact ⟨hsend.serial, hsend.paused, hsend.current⟩
  · exact abandon_sameFlow hsend

theorem sendLinkSync_sameFlow (writes : Bool) (a : Attempt) : SameFlow d (d.sendLinkSync P random writes a) := by
  have hfsm := setFsmState_sameFlow (d := d) .syncing
  unfold sendLinkSync
  dsimp only
  generalize d.setFsmState .syncing = t at hfsm ⊢
  have hsend := hfsm.trans (@sendRaw_sameFlow P random _ writes Command.linkSync.toUnderlying
    (.message (.linkSync ⟨a.nonce, calculateHandshakeTag P t.sharedSecret a.nonce⟩)) none none)
  split
  · split
    · exact ⟨hsend.serial, hsend.paused, hsend.current⟩
    split
    · have hconfirm := hsend.trans (setFsmState_sameFlow .confirming)
      exact ⟨hconfirm.serial, hconfirm.paused, hconfirm.current⟩
    · exact ⟨hsend.serial, hsend.paused, hsend.current⟩
  · exact abandon_sameFlow hsend

theorem endAttempt_sameFlow (a : Attempt) : SameFlow d (d.endAttempt a) := by
  have hattempt : ∀ t, SameFlow d t → SameFlow d { t with attempt := none } :=
    fun _ h => ⟨h.serial, h.paused, h.current⟩
  unfold endAttempt
  split
  · apply hattempt
    split
    · exact setFsmState_sameFlow _
    · exact ⟨rfl, rfl, rfl⟩
  split
  · exact hattempt _ ⟨rfl, rfl, rfl⟩
  · apply hattempt
    split
    · have hfail := handleHandshakeFailure_sameFlow (d := d.clearHandshakeExpectations)
      exact ⟨hfail.serial, hfail.paused, hfail.current⟩
    · exact ⟨rfl, rfl, rfl⟩

/-- No event of another task ends a wait of the reader. Closing the connection cancels the reader. -/
theorem step_unresolving {e : LinkEvent} (hlocal : e.isLocal = true) (hup : e ≠ .disconnect) :
    Unresolving d (d.step P random e) := by
  cases e with
  | send writes cmd payload => exact send_unresolving _ _ _
  | completion => exact onCompletion_unresolving
  | beginAttempt writes nonce =>
    dsimp only [step]
    split
    · exact .of_eq rfl rfl
    · exact (beginAttempt_sameFlow ..).unresolving
  | sendLinkSync writes =>
    dsimp only [step]
    split
    · split
      · exact .of_eq rfl rfl
      · exact (sendLinkSync_sameFlow ..).unresolving
    · exact .of_eq rfl rfl
  | endAttempt =>
    dsimp only [step]
    split
    · split
      · exact (endAttempt_sameFlow _).unresolving
      · exact .of_eq rfl rfl
    · exact .of_eq rfl rfl
  | retryError =>
    dsimp only [step]
    split
    · exact .of_eq rfl rfl
    · exact (setFsmState_sameFlow _).unresolving
  | connect => exact .of_eq rfl rfl
  | disconnect => exact absurd rfl hup
  | close => exact .of_eq rfl rfl
  | negotiate writes baudrate =>
    have hsend := @sendRaw_sameFlow P random d writes Command.setBaudrate.toUnderlying
      (.message (.setBaudratePacket baudrate)) none none
    exact .of_eq hsend.paused hsend.current
  | packet | timeout | retry | negotiated => cases hlocal

end Link

namespace Reader
open Link Run
variable {P : Platform} {random : Nat → UInt32} {cfg : ReaderConfig} {r : Reader}

theorem checkBaudrateFallback_stuck (hr : r.wait = none) (writes : Bool) :
    ∀ w, (r.checkBaudrateFallback P random cfg writes).wait = some w →
      (r.checkBaudrateFallback P random cfg writes).link.resolves w = false := by
  unfold checkBaudrateFallback
  split
  · intro w hw
    cases hr.symm.trans hw
  split
  · intro w hw
    cases hr.symm.trans hw
  · exact awaitNegotiation_stuck writes cfg.serialSafeBaud

/-- A packet that makes the reader wait leaves a wait that nothing has resolved. -/
theorem processPacket_stuck (hr : r.wait = none) (io : Io) (p : Packet) :
    ∀ w, (r.processPacket P random cfg io p).wait = some w →
      (r.processPacket P random cfg io p).link.resolves w = false := by
  cases p with
  | undecodable => exact checkBaudrateFallback_stuck hr io.writes
  | frame env =>
    dsimp only [processPacket]
    unfold processFrame
    split
    · exact checkBaudrateFallback_stuck hr io.writes
    split
    · intro w hw
      cases hr.symm.trans hw
    split
    · intro w hw
      cases hr.symm.trans hw
    · exact awaitMcuFrame_stuck _ _ _

/-- A wait lasts until the connection is closed: while it does the reader takes no packet, and no other task
brings what it waits for. -/
theorem wait_lasts {w : Wait} (hr : r.wait = some w) (hstuck : r.link.resolves w = false) (es : List ReaderEvent)
    (hup : ∀ e ∈ es, e ≠ .task .disconnect) : (run (step P random cfg) r es).wait = some w := by
  have hinv : ∀ (s : Reader) (e : ReaderEvent), (s.wait = some w ∧ s.link.resolves w = false) → e ≠ .task .disconnect →
      ((step P random cfg e s).wait = some w ∧ (step P random cfg e s).link.resolves w = false) := by
    rintro s e ⟨hs, hstuck⟩ he
    cases e with
    | packet io p =>
      dsimp only [step]
      rw [if_pos (by rw [hs]; rfl)]
      exact ⟨hs, hstuck⟩
    | task e =>
      dsimp only [step]
      split
      case isFalse => exact ⟨hs, hstuck⟩
      case isTrue hlocal =>
        have hnext := @step_unresolving P random s.link e hlocal (fun h => he (h ▸ rfl)) w hstuck
        unfold taskStep
        split
        · exact absurd rfl he
        · exact ⟨by simp [hs, hnext], hnext⟩
  have halong := ((@along_true _ _ (step P random cfg) r es).and_mem hup).mono fun _ _ h => h.2
  exact (halong.invariant (I := fun s => s.wait = some w ∧ s.link.resolves w = false) hinv ⟨hr, hstuck⟩).1

/-- What a packet has to meet so that the reader does not wait. -/
def Reads (P : Platform) (random : Nat → UInt32) (cfg : ReaderConfig) (r : Reader) : ReaderEvent → Prop
  | .packet io p => ¬ Stalls P random cfg io p r
  | .task _ => True

theorem step_wait_iff (e : ReaderEvent) (hr : r.wait = none) :
    (step P random cfg e r).wait = none ↔ Reads P random cfg r e := by
  cases e with
  | packet io p =>
    dsimp only [step, Reads]
    rw [if_neg (by rw [hr]; decide), ← processPacket_wait p hr]
    simp
  | task e =>
    dsimp only [step, Reads]
    rw [iff_true]
    split
    · unfold taskStep
      split
      · rfl
      · simp [hr]
    · exact hr

/-- From every state of the daemon and in every run without time limits, the reader is never found waiting exactly
when no packet of the run stalls it. -/
theorem never_waits_iff (P : Platform) (random : Nat → UInt32) (cfg : ReaderConfig) (d : Link) (errors : Nat)
    (es : List ReaderEvent) :
    (∀ pre, pre <+: es → (run (step P random cfg) ⟨d, errors, none⟩ pre).wait = none) ↔
      Along (step P random cfg) (Reads P random cfg) ⟨d, errors, none⟩ es :=
  reached_iff_along (I := fun r : Reader => r.wait = none) (fun _ e hr => step_wait_iff e hr) rfl es

/-! ### A run that ends in a wait -/

def sampleNonce : Bytes := [1, 2, 3, 4, 5, 6, 7, 8, 9, 10, 11, 12, 13, 14, 15, 16]

/-- The daemon before its first connection. -/
def sampleLink : Link := { sharedSecret := [7], timing := ⟨200, 5, 5000⟩, maxAttempts := 3, service := .sample [] }

/-- A handshake, and the MCU asks for a pause. -/
def pausedSession : List ReaderEvent :=
  [.task .connect, .task (.beginAttempt true sampleNonce), .task (.sendLinkSync true),
    .packet .sample (.frame ⟨protocolVersion, Command.linkSyncResp.toUnderlying.toUInt32, 2, [],
      .linkSync ⟨sampleNonce, Platform.sample.handshakeTag [7] sampleNonce⟩⟩),
    .task .endAttempt, .packet .sample (.frame ⟨protocolVersion, Command.xoff.toUnderlying.toUInt32, 3, [], .notSet⟩)]

/-- The reader waits for an XON that only it could read. -/
theorem xoff_stalls_reader :
    ¬ ∀ (P : Platform) (random : Nat → UInt32) (cfg : ReaderConfig) (d : Link) (errors : Nat) (es pre : List ReaderEvent),
      pre <+: es → (run (step P random cfg) ⟨d, errors, none⟩ pre).wait = none := by
  intro h
  have hwait := h .sample (fun _ => 0) ⟨115200, 115200, 5⟩ sampleLink 0 pausedSession pausedSession List.prefix_rfl
  have hxon : (run (step .sample (fun _ => 0) ⟨115200, 115200, 5⟩) ⟨sampleLink, 0, none⟩ pausedSession).wait =
    some .xon := by decide +kernel
  rw [hxon] at hwait
  cases hwait

end Reader
end Daemon
end McuBridge
