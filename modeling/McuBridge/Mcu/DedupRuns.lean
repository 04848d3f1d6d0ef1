import McuBridge.Mcu.Replies

/-! # What a duplicate proves

The receive history recognises a repetition by its number alone. So over a run it finds repetitions, and nothing else, if the
daemon keeps its numbers apart: a command that comes with the number of the frame before is that frame again, and the
firmware was able to execute it. -/

namespace McuBridge
namespace Mcu
variable (P : Platform) (s : Mcu)

/-- The frame gets to `_preDispatch`. -/
def checked (env : RpcEnvelope) : Bool := s.admits P env && checksDuplicates P env.rawCommand

/-- A new frame like this one is executed: it gets past the security check to an entry that asks `_preDispatch`, and its
payload decodes. -/
def executable (env : RpcEnvelope) : Bool :=
  s.isSecurityCheckPassed env.rawCommand && (s.dispatched P env).any fun e =>
    ((ackedMessages P ++ queryMessages P).lookup e.rawCommand).any fun decodes => decodes e.payloadType

variable {P s}

theorem takenForDuplicate_iff {env : RpcEnvelope} :
    s.takenForDuplicate P env = true ↔ s.checked P env = true ∧ s.isDuplicate env = true := by
  simp only [takenForDuplicate, checked, admits, Bool.and_eq_true]
  tauto

theorem Entry.executed {cmd : UInt16} {h : Handler} (he : Entry P cmd h) {ctx : CommandContext}
    (hd : ctx.isDuplicate = false)
    (hdec : (((ackedMessages P ++ queryMessages P).lookup cmd).any fun f => f ctx.envelope.payloadType) = true)
    (hal : Hal) (s : Mcu) : (h hal ctx s).handled = s.handled ++ [(ctx.rawCommand, ctx.sequenceId)] := by
  have hpre : ((s.processAck P ctx.rawCommand ctx.sequenceId).handle ctx).handled =
      s.handled ++ [(ctx.rawCommand, ctx.sequenceId)] := by
    show (s.processAck P ctx.rawCommand ctx.sequenceId).handled ++ _ = _
    rw [(processAck_quiet P s _ _).handled]
  have hany : ∀ c ∈ replyCommands, (fun _ : UInt16 => True) c := fun _ _ => trivial
  rw [List.lookup_append] at hdec
  cases he with
  | @acked M _ d f hack _ hf =>
    rw [hack] at hdec
    obtain ⟨m, hm⟩ := Option.isSome_iff_exists.1 hdec
    show (s.dispatchCmd P d (f hal) ctx true false).handled = _
    rw [dispatchCmd_fresh P s (f hal) hd hm]
    exact (hf _ hany hal ctx m _).handled.trans hpre
  | @ackedEmpty _ f _ _ hf =>
    show (s.dispatchNoPayload P f ctx true false).handled = _
    rw [dispatchNoPayload_fresh P s f hd]
    exact (hf _ hany ctx _).handled.trans hpre
  | @ackedTwice _ f _ _ hf =>
    show (s.dispatchNoPayload P (fun ctx t => (f t).processAck P ctx.rawCommand ctx.sequenceId) ctx true false).handled = _
    rw [dispatchNoPayload_fresh P s _ hd]
    exact (processAck_quiet P _ _ _).handled.trans ((hf (fun _ => True) _).handled.trans hpre)
  | @query M _ d f hack hquery hf =>
    rw [hack, hquery] at hdec
    obtain ⟨m, hm⟩ := Option.isSome_iff_exists.1 hdec
    have heq : s.dispatchCmd P d (f hal) ctx false true = f hal ctx m (s.handle ctx) := by
      simp [dispatchCmd, preDispatch, hd, hm]
    show (s.dispatchCmd P d (f hal) ctx false true).handled = _
    rw [heq]
    exact (hf _ hany hal ctx m _).handled
  | @queryEmpty _ f _ _ hf =>
    have heq : s.dispatchNoPayload P (f hal) ctx false true = f hal ctx (s.handle ctx) := by
      simp [dispatchNoPayload, preDispatch, hd]
    show (s.dispatchNoPayload P (f hal) ctx false true).handled = _
    rw [heq]
    exact (hf _ hany hal ctx _).handled
  | response d hack hquery =>
    rw [hack, hquery] at hdec
    cases hdec

theorem dispatchContext_executed (hal : Hal) (ctx : CommandContext) (hd : ctx.isDuplicate = false)
    (hsec : s.isSecurityCheckPassed ctx.rawCommand = true)
    (hdec : (((ackedMessages P ++ queryMessages P).lookup ctx.rawCommand).any fun f => f ctx.envelope.payloadType) = true) :
    (s.dispatchContext P hal ctx).handled = s.handled ++ [(ctx.rawCommand, ctx.sequenceId)] := by
  have hno : ∀ cmd, (ackedMessages P ++ queryMessages P).lookup cmd = none → ctx.rawCommand ≠ cmd := by
    rintro cmd hnone rfl
    rw [hnone] at hdec
    cases hdec
  obtain ⟨decodes, hlookup, -⟩ := (Option.any_eq_true _ _).1 hdec
  obtain ⟨h, hfind⟩ := checked_found hlookup
  unfold dispatchContext
  rw [if_neg (by rw [hsec]; decide), if_neg (hno _ rfl), if_neg (hno _ rfl), hfind]
  exact (kDispatchTable_entry P _ (findHandler_mem hfind)).executed hd hdec hal s

theorem dispatchCommand_executed (hal : Hal) {env : RpcEnvelope} (hd : s.isDuplicate env = false)
    (hsec : s.isSecurityCheckPassed env.rawCommand = true)
    (hdec : (((ackedMessages P ++ queryMessages P).lookup env.rawCommand).any fun f => f env.payloadType) = true) :
    (s.dispatchCommand P hal env).handled = s.handled ++ [(env.rawCommand, env.sequenceId.toUInt16)] := by
  rw [dispatchCommand_fresh P s hal hd]
  exact dispatchContext_executed (s := s.pushHistory env.sequenceId.toUInt16) hal (s.commandContext env) hd hsec hdec

/-- A new frame that is executable is executed. -/
theorem recv_executed (hal : Hal) {env : RpcEnvelope} (hent : s.enters P env = true) (hex : s.executable P env = true) :
    (step P (.recv hal (some env)) s).handled = s.handled ++ [(env.rawCommand, env.sequenceId.toUInt16)] := by
  unfold enters at hent
  unfold executable at hex
  rw [Bool.and_eq_true, Bool.not_eq_true'] at hent
  rw [Bool.and_eq_true] at hex
  obtain ⟨hsec, hdec⟩ := hex
  have hd := hent.2
  show (s.handleReceivedFrame P hal (some env)).handled = _
  unfold dispatched at hdec
  unfold handleReceivedFrame
  dsimp only
  cases henc : s.doEncrypt env.rawCommand with
  | false =>
    rw [henc] at hdec
    exact dispatchCommand_executed hal hd hsec hdec
  | true =>
    rw [henc] at hdec
    cases hopen : s.decryptFrame P env with
    | none =>
      rw [hopen] at hdec
      cases hdec
    | some r =>
      rw [hopen] at hdec
      exact dispatchCommand_executed (s := s.acceptCounter r.1) hal hd hsec hdec

end Mcu

/-! ### Runs with the frames on record -/

/-- A frame as it was sent: the daemon process it is from, its command and its sequence id. -/
structure FrameId where
  peer : Nat
  command : UInt16
  sequenceId : UInt32
  deriving DecidableEq

/-- The firmware with records: the frames whose handler ran, and the frame whose id the history holds with
whether it was executable when it came. -/
structure Traced where
  mcu : Mcu
  executed : List FrameId := []
  entered : Option (FrameId × Bool) := none

namespace Traced
open Run
variable (P : Platform)

/-- An event; for a received frame the number tells the daemon process that sent it. -/
def step (e : Nat × McuEvent) (s : Traced) : Traced :=
  let m := s.mcu.step P e.2
  match e.2 with
  | .recv _ (some env) =>
    let id : FrameId := ⟨e.1, env.rawCommand, env.sequenceId⟩
    { mcu := m
      executed := if s.mcu.handled.length < m.handled.length then s.executed ++ [id] else s.executed
      entered := if s.mcu.enters P env then some (id, s.mcu.executable P env) else s.entered }
  | .onRxDedupe => { s with mcu := m, entered := none }
  | _ => { s with mcu := m }

/-- A frame is taken for a duplicate only if it was executed before, and the repetition of a frame is not missed
while its id is held. -/
structure DedupSound (s : Traced) (e : Nat × McuEvent) : Prop where
  sound : ∀ hal env, e.2 = .recv hal (some env) → s.mcu.takenForDuplicate P env = true →
    ⟨e.1, env.rawCommand, env.sequenceId⟩ ∈ s.executed
  complete : ∀ hal env, e.2 = .recv hal (some env) →
    s.entered.map Prod.fst = some ⟨e.1, env.rawCommand, env.sequenceId⟩ → s.mcu.isDuplicate env = true

/-- A frame that gets to `_preDispatch` with the low 16 bits of the number of the frame last entered is that frame again, which
was executable; and a frame that is repeated has a number of 16 bits. -/
def KeepsNumbers (s : Traced) (e : Nat × McuEvent) : Prop :=
  match e.2 with
  | .recv _ (some env) =>
    (s.mcu.checked P env = true → ∀ x ∈ s.entered, x.1.sequenceId.toUInt16.toUInt32 = env.sequenceId →
      x = (⟨e.1, env.rawCommand, env.sequenceId⟩, true)) ∧
    (s.entered.map Prod.fst = some ⟨e.1, env.rawCommand, env.sequenceId⟩ → env.sequenceId < 65536)
  | _ => True

/-- The history holds the id of the frame on record, which was executed if it was executable. -/
structure TracedInv (s : Traced) : Prop where
  history : s.mcu.rxHistory = s.entered.toList.map fun x => x.1.sequenceId.toUInt16
  ran : ∀ x ∈ s.entered, x.2 = true → x.1 ∈ s.executed

theorem toUInt16_of_lt {n : UInt32} (h : n < 65536) : n.toUInt16.toUInt32 = n := by
  have hn : n.toNat < 65536 := h
  refine UInt32.toNat.inj ?_
  simp only [UInt16.toNat_toUInt32, UInt32.toNat_toUInt16]
  omega

variable {P} {s : Traced}

theorem TracedInv.isDuplicate_iff (h : TracedInv s) (env : RpcEnvelope) :
    s.mcu.isDuplicate env = true ↔ ∃ x ∈ s.entered, x.1.sequenceId.toUInt16.toUInt32 = env.sequenceId := by
  unfold Mcu.isDuplicate
  rw [h.history]
  cases s.entered <;> simp

theorem TracedInv.dedupSound (h : TracedInv s) {e : Nat × McuEvent} (hkeep : KeepsNumbers P s e) : DedupSound P s e := by
  obtain ⟨peer, ev⟩ := e
  constructor
  · rintro hal env rfl htaken
    obtain ⟨hcheck, hdup⟩ := Mcu.takenForDuplicate_iff.1 htaken
    obtain ⟨x, hx, hid⟩ := (h.isDuplicate_iff env).1 hdup
    obtain rfl := hkeep.1 hcheck x hx hid
    exact h.ran _ hx rfl
  · rintro hal env rfl hlast
    obtain ⟨x, hx, hid⟩ := Option.map_eq_some_iff.1 hlast
    refine (h.isDuplicate_iff env).2 ⟨x, hx, ?_⟩
    rw [hid]
    exact toUInt16_of_lt (hkeep.2 hlast)

theorem TracedInv.recv (h : TracedInv s) (peer : Nat) (hal : Hal) (env : RpcEnvelope) :
    TracedInv (step P (peer, .recv hal (some env)) s) := by
  have hlen : s.mcu.rxHistory.length ≤ rxHistorySize := by
    rw [h.history]
    cases s.entered <;> simp [rxHistorySize]
  have hhist := Mcu.recv_rxHistory P s.mcu hal env
  unfold step
  dsimp only
  cases hent : s.mcu.enters P env with
  | false =>
    rw [hent] at hhist
    refine ⟨hhist.trans h.history, fun x hx hr => ?_⟩
    have hran := h.ran x hx hr
    dsimp only
    split
    · exact List.mem_append_left _ hran
    · exact hran
  | true =>
    rw [hent, if_pos rfl, Mcu.pushHistory_rxHistory hlen] at hhist
    refine ⟨hhist, ?_⟩
    rintro x ⟨⟩ hex
    have hran := Mcu.recv_executed hal hent hex
    dsimp only
    rw [if_pos (by rw [hran]; simp)]
    exact List.mem_append_right _ (List.mem_singleton_self _)

theorem TracedInv.step (h : TracedInv s) (e : Nat × McuEvent) : TracedInv (step P e s) := by
  obtain ⟨peer, ev⟩ := e
  by_cases hrecv : ∃ hal env, ev = .recv hal (some env)
  · obtain ⟨hal, env, rfl⟩ := hrecv
    exact h.recv peer hal env
  · by_cases hded : ev = .onRxDedupe
    · subst hded
      exact ⟨rfl, by rintro x ⟨⟩⟩
    · have hhist := Mcu.step_rxHistory P s.mcu (fun hal env hev => hrecv ⟨hal, env, hev⟩) hded
      have hstep : Traced.step P (peer, ev) s = { s with mcu := s.mcu.step P ev } := by
        unfold Traced.step
        dsimp only
        split
        · exact absurd ⟨_, _, rfl⟩ hrecv
        · exact absurd rfl hded
        · rfl
      rw [hstep]
      exact ⟨hhist.trans h.history, h.ran⟩

/-- In every run in which the daemon processes keep their numbers apart, the firmware takes no frame for a
duplicate that it has not executed, and misses no repetition of the frame it holds the id of. -/
theorem dedup_sound (P : Platform) (secret : Bytes) (postOk : Bool) (evs : List (Nat × McuEvent))
    (h : Along (Traced.step P) (KeepsNumbers P) ⟨Mcu.boot secret postOk, [], none⟩ evs) :
    Along (Traced.step P) (DedupSound P) ⟨Mcu.boot secret postOk, [], none⟩ evs := by
  refine h.of_invariant (I := TracedInv) ?_ ?_ ?_
  · exact fun s e hs _ => hs.step e
  · exact fun s e hs hkeep => hs.dedupSound hkeep
  · exact ⟨by cases postOk <;> rfl, by rintro x ⟨⟩⟩

instance (P : Platform) (s : Traced) : DecidablePred (KeepsNumbers P s)
  | (_, .recv _ (some _)) => inferInstanceAs (Decidable (_ ∧ _))
  | (_, .recv _ none) | (_, .sendFrame _ _ _) | (_, .send _ _ _) | (_, .sendStatus _ _ _) | (_, .emitStatus _ _)
  | (_, .retransmitLastFrame) | (_, .enterSafeState) | (_, .onAckTimeout) | (_, .onRxDedupe) | (_, .onBaudrateChange)
  | (_, .onBootloaderDelay) | (_, .onHandshakeTimeout) | (_, .serialTask _) | (_, .consoleBegin) | (_, .consoleWrite _)
  | (_, .consoleProcess) | (_, .dataStoreGet _ _) | (_, .fileSystemRead _ _) | (_, .processRunAsync _ _ _)
  | (_, .processPoll _ _) | (_, .mailboxProcess) | (_, .register _ _ _) => inferInstanceAs (Decidable True)

/-- A session: an acknowledgment with number 5, an answer with the same number, XOFF twice, and XON. -/
def repeatedXoff : List (Nat × McuEvent) :=
  let key := Platform.sample.deriveSessionKey [7] Mcu.sampleNonce
  let answer : RpcEnvelope := ⟨protocolVersion, Command.mailboxReadResp.toUnderlying.toUInt32, 5, [1, 2, 3, 4] ++ be64 1,
    .encryptedPayloadWithTag (Sample.encodeBytes [65] ++ key.take 16)⟩
  [Mcu.validSync 1, Mcu.bareFrame Status.ack.toUnderlying 5, answer, Mcu.bareFrame Command.xoff.toUnderlying 6,
    Mcu.bareFrame Command.xoff.toUnderlying 6, Mcu.bareFrame Command.xon.toUnderlying 7].map
      fun env => (0, .recv .sample (some env))

theorem dedup_sound_repeated :
    (run (Traced.step .sample) ⟨Mcu.boot [7] true, [], none⟩ repeatedXoff).executed =
        [⟨0, Command.linkSync.toUnderlying, 1⟩, ⟨0, Command.mailboxReadResp.toUnderlying, 5⟩,
          ⟨0, Command.xoff.toUnderlying, 6⟩, ⟨0, Command.xon.toUnderlying, 7⟩] ∧
      Along (Traced.step .sample) (DedupSound .sample) ⟨Mcu.boot [7] true, [], none⟩ repeatedXoff :=
  ⟨by decide +kernel, dedup_sound .sample [7] true repeatedXoff (by decide +kernel)⟩

/-- An ACK of the daemon carries the number of the frame it answers; the daemon's own command with that number is
not executed. -/
theorem ack_hides_command :
    ¬ ∀ (P : Platform) (secret : Bytes) (postOk : Bool) (evs : List (Nat × McuEvent)),
      Along (Traced.step P) (DedupSound P) ⟨Mcu.boot secret postOk, [], none⟩ evs := by
  intro h
  have hrun := h .sample [7] true
    [(0, .recv .sample (some (Mcu.bareFrame Status.ack.toUnderlying 5))),
      (0, .recv .sample (some (Mcu.bareFrame Command.xoff.toUnderlying 5)))]
  have hexecuted := hrun.2.1.sound .sample (Mcu.bareFrame Command.xoff.toUnderlying 5) rfl (by decide +kernel)
  exact absurd hexecuted (by decide +kernel)

end Traced
end McuBridge
