import McuBridge.Mcu.DecryptPath

/-! # The receive history

`_rx_history` holds the low 16 bits of one sequence id, that of the last frame that was not a duplicate. It is
filled before the security check and before decoding, for every command and status alike, and outlives the
session. -/

namespace McuBridge
namespace Mcu
variable (P : Platform) (s : Mcu)

/-! ### How the history changes -/

theorem Micro.rxHistory {l : Label} {t : Mcu} (hl : l ≠ .history) (h : Micro P l s t) : t.rxHistory = s.rxHistory := by
  cases h with
  | quiet h => exact h.rxHistory
  | history => exact absurd rfl hl
  | _ => rfl

theorem Steps.rxHistory {Q : Label → Prop} (hQ : ¬ Q .history) {t : Mcu} (h : Steps (Micro P) Q s t) :
    t.rxHistory = s.rxHistory := by
  refine h.invariant (I := fun u => u.rxHistory = s.rxHistory) ?_ rfl
  intro l u v hl hm hu
  refine (Micro.rxHistory P u ?_ hm).trans hu
  rintro rfl
  exact hQ hl

theorem dispatchCommand_rxHistory (hal : Hal) (env : RpcEnvelope) :
    (s.dispatchCommand P hal env).rxHistory =
      if s.isDuplicate env then s.rxHistory else (s.pushHistory env.sequenceId.toUInt16).rxHistory := by
  unfold dispatchCommand
  dsimp only
  show (dispatchContext P hal (s.commandContext env)
    (if s.isDuplicate env then s else s.pushHistory env.sequenceId.toUInt16)).rxHistory = _
  split
  · exact Steps.rxHistory P s id (dispatchContext_steps P s hal env rfl rfl rfl rfl)
  · refine Steps.rxHistory P _ id (dispatchContext_steps P s hal env rfl rfl rfl ?_)
    apply unguardedDispatch_congr P s <;> rfl

/-- The frame enters the history: it reaches `_dispatchCommand` and is no duplicate there. -/
def enters (env : RpcEnvelope) : Bool := (s.dispatched P env).isSome && !s.isDuplicate env

theorem recv_rxHistory (hal : Hal) (env : RpcEnvelope) :
    (step P (.recv hal (some env)) s).rxHistory =
      if s.enters P env then (s.pushHistory env.sequenceId.toUInt16).rxHistory else s.rxHistory := by
  show (s.handleReceivedFrame P hal (some env)).rxHistory = _
  unfold enters dispatched handleReceivedFrame
  dsimp only
  cases s.doEncrypt env.rawCommand with
  | false =>
    simp only [Bool.false_eq_true, if_false, Option.isSome_some, Bool.true_and]
    rw [dispatchCommand_rxHistory]
    cases s.isDuplicate env <;> rfl
  | true =>
    simp only [if_true, Option.isSome_map]
    cases s.decryptFrame P env with
    | none => exact (emitStatus_quiet P s _ _).rxHistory
    | some r =>
      dsimp only
      rw [dispatchCommand_rxHistory]
      show (if s.isDuplicate env then s.rxHistory else _) = _
      cases s.isDuplicate env <;> rfl

/-- Besides the frames that enter it, only the timer of `_onRxDedupe` touches the history. -/
theorem step_rxHistory {ev : McuEvent} (hrecv : ∀ hal env, ev ≠ .recv hal (some env)) (hded : ev ≠ .onRxDedupe) :
    (step P ev s).rxHistory = s.rxHistory := by
  refine Steps.rxHistory P s ?_ (step_steps P s ev)
  intro h
  cases ev with
  | recv hal res =>
    cases res with
    | none => cases h
    | some env => exact hrecv hal env rfl
  | onRxDedupe => exact hded rfl
  | onAckTimeout => rcases h with h | ⟨-, h | h⟩ <;> cases h
  | enterSafeState => rcases h with h | h | h <;> cases h
  | onHandshakeTimeout => rcases h with ⟨-, h | h⟩ <;> cases h
  | _ => exact h.elim

theorem pushHistory_rxHistory {s : Mcu} (h : s.rxHistory.length ≤ rxHistorySize) (seq : UInt16) :
    (s.pushHistory seq).rxHistory = [seq] := by
  unfold rxHistorySize at h
  unfold pushHistory rxHistorySize
  cases hs : s.rxHistory with
  | nil => rfl
  | cons a l =>
    cases l with
    | nil => rfl
    | cons b l =>
      rw [hs] at h
      simp at h

theorem step_rxHistory_length (ev : McuEvent) (h : s.rxHistory.length ≤ rxHistorySize) :
    (step P ev s).rxHistory.length ≤ rxHistorySize := by
  by_cases hded : ev = .onRxDedupe
  · subst hded
    exact Nat.zero_le _
  by_cases hrecv : ∃ hal env, ev = .recv hal (some env)
  · obtain ⟨hal, env, rfl⟩ := hrecv
    rw [recv_rxHistory]
    split
    · rw [pushHistory_rxHistory h]
      exact Nat.le_refl 1
    · exact h
  · rw [step_rxHistory P s (fun hal env heq => hrecv ⟨hal, env, heq⟩) hded]
    exact h

/-! ### Frames taken for duplicates -/

/-- The table entries that ask `_preDispatch`: all but the two mailbox responses. -/
def checksDuplicates (cmd : UInt16) : Bool :=
  (findHandler (kDispatchTable P) cmd).isSome && cmd != Command.mailboxReadResp.toUnderlying &&
    cmd != Command.mailboxAvailableResp.toUnderlying

/-- The frame gets to `_preDispatch` with `is_duplicate` set. -/
def takenForDuplicate (env : RpcEnvelope) : Bool :=
  (s.dispatched P env).isSome && s.isDuplicate env && s.isSecurityCheckPassed env.rawCommand &&
    checksDuplicates P env.rawCommand

theorem dispatch_duplicate {ctx : CommandContext} (hd : ctx.isDuplicate = true) (needsAck retransmitOnDup : Bool)
    (body : Mcu → Mcu) :
    (match s.preDispatch P ctx needsAck retransmitOnDup with
      | (t, false) => t
      | (t, true) => body t).handled = s.handled := by
  have hpre := preDispatch_cases P s ctx needsAck retransmitOnDup
  generalize s.preDispatch P ctx needsAck retransmitOnDup = r at hpre ⊢
  obtain ⟨t, b⟩ := r
  rcases hpre with ⟨-, hb, hq | ⟨-, hsteps⟩⟩ | ⟨hfresh, -⟩
  · obtain rfl : b = false := hb
    exact hq.handled
  · obtain rfl : b = false := hb
    exact Steps.handled P s (fun _ => TxLabel.ne_handle) hsteps
  · rw [hd] at hfresh
    cases hfresh

theorem dispatchContext_taken (hal : Hal) {ctx : CommandContext} (hd : ctx.isDuplicate = true)
    (hsec : s.isSecurityCheckPassed ctx.rawCommand = true) (hcheck : checksDuplicates P ctx.rawCommand = true) :
    (s.dispatchContext P hal ctx).handled = s.handled := by
  unfold checksDuplicates at hcheck
  simp only [Bool.and_eq_true, bne_iff_ne] at hcheck
  obtain ⟨⟨hfound, hread⟩, havail⟩ := hcheck
  obtain ⟨h, hfind⟩ := Option.isSome_iff_exists.1 hfound
  unfold dispatchContext
  rw [if_neg (by rw [hsec]; decide)]
  split
  · exact (processAck_quiet P s _ _).handled
  split
  · exact Steps.handled (Q := (· ≠ .handle)) P s (fun _ h => h) (enterSafeState_steps P s nofun nofun nofun)
  rw [hfind]
  dsimp only
  have hentry : Reads P ctx.rawCommand h := kDispatchTable_reads P _ (findHandler_mem hfind)
  cases hentry with
  | command _ d _ f ack retr =>
    change (s.dispatchCmd P d (f hal) ctx ack retr).handled = s.handled
    unfold dispatchCmd
    cases d.read P ctx.envelope.payloadType with
    | none => exact dispatch_duplicate P s hd ack retr fun t => t.emitStatus P .malformed none
    | some m => exact dispatch_duplicate P s hd ack retr fun t => f hal ctx m (t.handle ctx)
  | noPayload _ f ack retr => exact dispatch_duplicate P s hd ack retr fun t => f hal ctx (t.handle ctx)
  | response _ _ _ hcmd => exact (hcmd.elim hread havail).elim

/-- A frame taken for a duplicate runs no handler. -/
theorem recv_taken (hal : Hal) {env : RpcEnvelope} (h : s.takenForDuplicate P env = true) :
    (step P (.recv hal (some env)) s).handled = s.handled := by
  unfold takenForDuplicate at h
  simp only [Bool.and_eq_true] at h
  obtain ⟨⟨⟨-, hd⟩, hsec⟩, hcheck⟩ := h
  exact recv_handled_of_duplicate P s hal hd (dispatchContext_taken P s hal hd hsec hcheck)
    fun c _ => dispatchContext_taken P (s.acceptCounter c) hal hd hsec hcheck

end Mcu

end McuBridge
