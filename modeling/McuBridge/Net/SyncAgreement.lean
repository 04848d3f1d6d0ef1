import McuBridge.Mcu.FlowControl
import McuBridge.Net.Counters
import McuBridge.Net.Handshake

/-! # Does the MCU share the session it answers for?

`_handleLinkSync` sends LINK_SYNC_RESP after two FSM events, without a look at what they did. `STARTUP` and
`FAULT` ignore both, so an MCU in one of them answers and stays as it is, and the daemon synchronises on the
answer. From every other state the answer leaves a synchronised MCU behind. -/

namespace McuBridge

/-! ### What the MCU answers -/

namespace Mcu
variable {P : Platform} {l : Label} {s t : Mcu}

/-- No LINK_SYNC_RESP is on the wire of `t` beyond that of `s`, and none can be retransmitted. -/
structure NoAnswer (s t : Mcu) : Prop where
  wire : ∃ fs, t.wire = s.wire ++ fs ∧ ∀ f ∈ fs, f.env.rawCommand ≠ Command.linkSyncResp.toUnderlying
  queue : ∀ g ∈ t.pendingTxQueue, requiresAck g.commandId = true

theorem NoAnswer.extend {u : Mcu} (h : NoAnswer s t) (fs : List Sent) (hw : u.wire = t.wire ++ fs)
    (hfs : ∀ f ∈ fs, f.env.rawCommand ≠ Command.linkSyncResp.toUnderlying)
    (hq : ∀ g ∈ u.pendingTxQueue, requiresAck g.commandId = true) : NoAnswer s u := by
  obtain ⟨gs, hgs, hne⟩ := h.wire
  refine ⟨⟨gs ++ fs, by rw [hw, hgs, List.append_assoc], fun f hf => ?_⟩, hq⟩
  exact (List.mem_append.1 hf).elim (hne f) (hfs f)

theorem Micro.noAnswer {u : Mcu} (hm : Micro P l t u) (hl : l ≠ .answer)
    (hemit : ∀ f, l = .emit f → f.env.rawCommand ≠ Command.linkSyncResp.toUnderlying) (h : NoAnswer s t) :
    NoAnswer s u := by
  have hone : ∀ f : Sent, f.env.rawCommand ≠ Command.linkSyncResp.toUnderlying →
      NoAnswer s { t with wire := t.wire ++ [f] } :=
    fun f hf => h.extend [f] rfl (by simpa using hf) h.queue
  have hsame : ∀ {v : Mcu}, v.wire = t.wire → v.pendingTxQueue = t.pendingTxQueue → NoAnswer s v :=
    fun hw hq => h.extend [] (by rw [hw, List.append_nil]) (by simp) (by rw [hq]; exact h.queue)
  cases hm with
  | quiet hq =>
    obtain ⟨fs, hfs, hplain⟩ := hq.wire
    exact h.extend fs hfs (fun f hf => (hplain f hf).1.2) (by rw [hq.pendingTxQueue]; exact h.queue)
  | emit => exact hone _ (hemit _ rfl)
  | copy _ hq hcmd =>
    refine hone _ ?_
    rw [hcmd]
    intro hresp
    have hack := h.queue _ (by rw [hq]; exact List.mem_cons_self ..)
    rw [hresp] at hack
    exact absurd hack (by decide)
  | answer => exact absurd rfl hl
  | encrypt _ _ hout =>
    refine h.extend _ rfl (fun f hf hcmd => ?_) h.queue
    obtain ⟨-, cmd, seq, p, ct, tag, hsys, -, henv⟩ := hout f (by simpa using hf)
    rw [henv, rawEnvelope_rawCommand] at hcmd
    rw [hcmd] at hsys
    exact absurd hsys (by decide)
  | enqueue g hack =>
    refine h.extend [] (List.append_nil _).symm (by simp) fun x hx => ?_
    rcases List.mem_append.1 hx with hx | hx
    · exact h.queue x hx
    · rw [List.mem_singleton.1 hx]
      exact hack
  | clear => exact h.extend [] (List.append_nil _).symm (by simp) (by simp [receive, clearPendingTxQueue])
  | _ => exact hsame rfl rfl

theorem EventLabel.answer_opens {ev : McuEvent} (h : EventLabel P s ev .answer) :
    ∃ hal env, ev = .recv hal (some env) ∧ Opens P s env := by
  cases ev with
  | recv hal res =>
    cases res with
    | none => cases h
    | some env => exact ⟨hal, env, rfl, h⟩
  | onAckTimeout => rcases h with h | ⟨-, h | h⟩ <;> cases h
  | enterSafeState => rcases h with h | h | h <;> cases h
  | onRxDedupe => cases h
  | onHandshakeTimeout => rcases h with ⟨-, h | h⟩ <;> cases h
  | _ => exact h.elim

/-- The MCU answers an accepted LINK_SYNC and nothing else. -/
theorem step_answer {ev : McuEvent} (hev : ¬ impersonates ev) (hq : ∀ g ∈ s.pendingTxQueue, requiresAck g.commandId = true)
    {f : Sent} (hf : f ∈ Net.written s.wire (step P ev s).wire)
    (hcmd : f.env.rawCommand = Command.linkSyncResp.toUnderlying) :
    ∃ hal env, ev = .recv hal (some env) ∧ Opens P s env := by
  by_contra hno
  have hsteps : NoAnswer s (step P ev s) := by
    refine (step_steps P s ev).invariant ?_ ⟨⟨[], (List.append_nil _).symm, by simp⟩, hq⟩
    intro l t u hl hm ht
    refine Micro.noAnswer hm ?_ ?_ ht
    · rintro rfl
      exact hno (EventLabel.answer_opens hl)
    · rintro g rfl hresp
      exact hev (EventLabel.emit_impersonates hl hresp)
  obtain ⟨fs, hfs, hne⟩ := hsteps.wire
  rw [Net.written, hfs, List.drop_left] at hf
  exact hne f hf hcmd

/-- Whether an accepted LINK_SYNC synchronises is decided by the FSM before it. -/
theorem recv_opens_isSynchronized (hal : Hal) {env : RpcEnvelope} (h : Opens P s env) :
    (step P (.recv hal (some env)) s).isSynchronized = true ↔ s.fsm ≠ .startup ∧ s.fsm ≠ .fault := by
  unfold Mcu.isSynchronized
  rw [(recv_opens hal h).1, StateId.isSynchronized_handshake]
  cases s.fsm <;> decide

end Mcu

/-! ### The two sides -/

namespace Hostile
open Run
variable {P : Platform} {random : Nat → UInt32} {s : Hostile}

/-- A step that writes LINK_SYNC_RESP ends with a synchronised MCU. -/
def RespSynced (P : Platform) (random : Nat → UInt32) (s : Hostile) (ev : HostileEvent) : Prop :=
  ∀ f ∈ Net.written s.mcu.wire (step P random ev s).mcu.wire,
    f.env.rawCommand = Command.linkSyncResp.toUnderlying → (step P random ev s).mcu.isSynchronized = true

/-- Frame `i` of the MCU was written in a step that ended with a synchronised MCU. -/
def WrittenInSync (P : Platform) (random : Nat → UInt32) (s₀ : Hostile) (evs : List HostileEvent) (i : Nat) : Prop :=
  ∃ pre ev, pre ++ [ev] <+: evs ∧ (run (step P random) s₀ pre).mcu.wire.length ≤ i ∧
    i < (run (step P random) s₀ (pre ++ [ev])).mcu.wire.length ∧
    (run (step P random) s₀ (pre ++ [ev])).mcu.isSynchronized = true

/-- The MCU answers only as it synchronises, and the daemon synchronises on no other answer of it. -/
structure SyncAgreement (P : Platform) (random : Nat → UInt32) (s₀ : Hostile) (evs : List HostileEvent) : Prop where
  mcu : Along (step P random) (RespSynced P random) s₀ evs
  daemon : ∀ pre i io env, pre ++ [.toDaemon (.mcu i) io env] <+: evs →
    (run (step P random) s₀ pre).daemon.isSynchronized = false →
    (run (step P random) s₀ (pre ++ [.toDaemon (.mcu i) io env])).daemon.isSynchronized = true →
    WrittenInSync P random s₀ pre i

/-- No valid LINK_SYNC reaches the MCU in `STARTUP` or `FAULT`. -/
def SyncSafe (P : Platform) (s : Hostile) : HostileEvent → Prop
  | .toMcu _ env => Mcu.Opens P s.mcu env → s.mcu.fsm ≠ .startup ∧ s.mcu.fsm ≠ .fault
  | _ => True

theorem step_respSynced (hq : ∀ g ∈ s.mcu.pendingTxQueue, requiresAck g.commandId = true) {ev : HostileEvent}
    (hsafe : SyncSafe P s ev) : RespSynced P random s ev := by
  have hsame : ∀ {f : Sent}, f ∉ Net.written s.mcu.wire s.mcu.wire := by simp [Net.written]
  intro f hf hcmd
  cases ev with
  | mcu ev =>
    simp only [step] at hf
    split at hf
    case isTrue hev =>
      -- a local event of the MCU answers nothing
      obtain ⟨hal, env, rfl, -⟩ := Mcu.step_answer hev.2 hq hf hcmd
      exact absurd hev.1 Bool.false_ne_true
    case isFalse => exact absurd hf hsame
  | toMcu hal env =>
    obtain ⟨hal', env', heq, hopen⟩ := @Mcu.step_answer P s.mcu (.recv hal (some env)) id hq _ hf hcmd
    cases heq
    exact (Mcu.recv_opens_isSynchronized hal hopen).2 (hsafe hopen)
  | daemon ev =>
    simp only [step] at hf
    split at hf <;> exact absurd hf hsame
  | reboot postOk => exact absurd hf hsame
  | toDaemon source io env =>
    simp only [step] at hf
    split at hf <;> exact absurd hf hsame

theorem step_mcu_wire (P : Platform) (random : Nat → UInt32) (s : Hostile) (ev : HostileEvent) :
    s.mcu.wire <+: (step P random ev s).mcu.wire := by
  have hmcu : ∀ ev : McuEvent, s.mcu.wire <+: (s.mcu.step P ev).wire := by
    intro ev
    obtain ⟨fs, hfs, -⟩ := Mcu.step_wrote (P := P) ev s.mcu
    exact ⟨fs, hfs.symm⟩
  cases ev with
  | mcu ev =>
    simp only [step]
    split
    · exact hmcu ev
    · exact List.prefix_rfl
  | toMcu hal env => exact hmcu _
  | daemon ev =>
    simp only [step]
    split <;> exact List.prefix_rfl
  | reboot postOk => exact List.prefix_rfl
  | toDaemon source io env =>
    simp only [step]
    split <;> exact List.prefix_rfl

theorem step_mcu_answers {ev : HostileEvent} (h : s.mcu.Answers) : (step P random ev s).mcu.Answers := by
  cases ev with
  | mcu ev =>
    simp only [step]
    split
    case isTrue hev => exact Mcu.step_answers hev.2 h
    case isFalse => exact h
  | toMcu hal env => exact @Mcu.step_answers P s.mcu (.recv hal (some env)) id h
  | daemon ev =>
    simp only [step]
    split <;> exact h
  | reboot postOk =>
    refine h.silent rfl ?_ (List.Subset.refl _)
    cases postOk <;> exact List.nil_subset _
  | toDaemon source io env =>
    simp only [step]
    split <;> exact h

theorem WrittenInSync.extend {s₀ : Hostile} {evs evs' : List HostileEvent} {i : Nat} (h : WrittenInSync P random s₀ evs i)
    (hpre : evs <+: evs') : WrittenInSync P random s₀ evs' i := by
  obtain ⟨pre, ev, hev, hrest⟩ := h
  exact ⟨pre, ev, hev.trans hpre, hrest⟩

/-- Every answer on the MCU's wire was written as it synchronised. -/
theorem answer_writtenInSync {s₀ : Hostile} (hs₀ : s₀.mcu.wire = []) (evs : List HostileEvent)
    (h : Along (step P random) (RespSynced P random) s₀ evs) {i : Nat} {f : Sent}
    (hf : (run (step P random) s₀ evs).mcu.wire[i]? = some f)
    (hcmd : f.env.rawCommand = Command.linkSyncResp.toUnderlying) : WrittenInSync P random s₀ evs i := by
  induction evs using List.reverseRecOn with
  | nil =>
    simp only [run, hs₀] at hf
    cases hf
  | append_singleton evs ev ih =>
    obtain ⟨hprev, hlast, -⟩ := (along_append _ _ _).1 h
    have hstep : run (step P random) s₀ (evs ++ [ev]) = step P random ev (run (step P random) s₀ evs) :=
      run_append _ _ _
    obtain ⟨fs, hfs⟩ := step_mcu_wire P random (run (step P random) s₀ evs) ev
    have hi := (List.getElem?_eq_some_iff.1 hf).1
    rcases Nat.lt_or_ge i (run (step P random) s₀ evs).mcu.wire.length with hlt | hge
    · -- written before this step
      rw [hstep, ← hfs, List.getElem?_append_left hlt] at hf
      exact (ih hprev hf).extend (List.prefix_append _ _)
    · -- written by this step
      refine ⟨evs, ev, List.prefix_rfl, hge, hi, ?_⟩
      rw [hstep] at hf ⊢
      refine hlast f ?_ hcmd
      rw [← hfs, List.getElem?_append_right hge] at hf
      rw [Net.written, ← hfs, List.drop_left]
      exact List.mem_of_getElem? hf

theorem completes_validAnswer {io : Daemon.Io} {env : RpcEnvelope} (h : s.daemon.completes P io env = true) :
    ∃ m, validAnswer P io env s = some m := by
  unfold Daemon.Link.completes at h
  rw [Bool.and_eq_true, beq_iff_eq] at h
  obtain ⟨hcmd, h⟩ := h
  split at h
  case h_2 => cases h
  case h_1 payload n hparse _ =>
    obtain ⟨m, hm, hok⟩ := (Option.any_eq_true _ _).1 (Bool.and_eq_true_iff.1 h).2
    simp only [Bool.and_eq_true, beq_iff_eq] at hok
    obtain ⟨⟨hnonce, hlen⟩, htag⟩ := hok
    rw [Daemon.parseFrame_linkSyncResp hcmd hparse] at hm
    refine ⟨m, ?_⟩
    rw [validAnswer, hm, Option.filter_some, if_pos]
    rw [Bool.and_eq_true, beq_iff_eq, beq_iff_eq, hnonce]
    exact ⟨hlen, htag⟩

/-- A packet that synchronises the daemon with a tag of the MCU carries an answer of the MCU. -/
theorem synchronized_on_answer {i : Nat} {io : Daemon.Io} {env : RpcEnvelope} (hbefore : s.daemon.isSynchronized = false)
    (hafter : (step P random (.toDaemon (.mcu i) io env) s).daemon.isSynchronized = true) :
    ∃ f, s.mcu.wire[i]? = some f ∧ f.env.rawCommand = Command.linkSyncResp.toUnderlying := by
  simp only [step] at hafter
  split at hafter
  case isFalse =>
    rw [hbefore] at hafter
    cases hafter
  case isTrue hder =>
    obtain ⟨-, hsync⟩ := Daemon.Link.processPacket_counter P random io env s.daemon
    rcases hsync hafter with ⟨hs, -⟩ | hcomp
    · rw [hbefore] at hs
      cases hs
    · obtain ⟨m, hvalid⟩ := completes_validAnswer hcomp
      simp only [derivable, hvalid, Option.all_some] at hder
      obtain ⟨f, hf, hcarries⟩ := (Option.any_eq_true _ _).1 hder
      rw [carries, Bool.and_eq_true, beq_iff_eq, beq_iff_eq] at hcarries
      exact ⟨f, hf, hcarries.1⟩

/-- In every run in which no valid LINK_SYNC reaches the MCU in `STARTUP` or `FAULT`, it synchronises whenever it
answers, and the daemon synchronises only on answers written so. -/
theorem sync_agreement (P : Platform) (random : Nat → UInt32) (secret : Bytes) (timing : HandshakeConfig)
    (maxAttempts : Nat) (service : Daemon.Service) (postOk : Bool) (evs : List HostileEvent)
    (h : Along (step P random) (SyncSafe P) (init secret timing maxAttempts service postOk) evs) :
    SyncAgreement P random (init secret timing maxAttempts service postOk) evs := by
  have hmcu : Along (step P random) (RespSynced P random) (init secret timing maxAttempts service postOk) evs := by
    refine h.of_invariant (I := fun s => s.mcu.Answers) ?_ ?_ (HandshakeInv.init ..).answers
    · exact fun s ev hs _ => step_mcu_answers hs
    · exact fun s ev hs hsafe => step_respSynced hs.queue hsafe
  refine ⟨hmcu, fun pre i io env hpre hbefore hafter => ?_⟩
  obtain ⟨rest, rfl⟩ := (List.prefix_append _ _).trans hpre
  rw [run_append] at hafter
  obtain ⟨f, hf, hcmd⟩ := synchronized_on_answer hbefore hafter
  refine answer_writtenInSync ?_ pre ((along_append _ _ _).1 hmcu).1 hf hcmd
  cases postOk <;> rfl

instance (P : Platform) (m : Mcu) (env : RpcEnvelope) : Decidable (Mcu.Opens P m env) :=
  inferInstanceAs (Decidable (∃ x ∈ Mcu.linkSyncOf P m env, _))

instance (P : Platform) (s : Hostile) : DecidablePred (SyncSafe P s)
  | .toMcu _ _ => inferInstanceAs (Decidable (_ → _))
  | .daemon _ | .mcu _ | .reboot _ | .toDaemon _ _ _ => inferInstanceAs (Decidable True)

/-- The LINK_SYNC of a daemon with another secret. -/
def foreignSync : RpcEnvelope :=
  ⟨protocolVersion, Command.linkSync.toUnderlying.toUInt32, 8, [],
    .linkSync ⟨Net.handshakeNonce, Platform.sample.handshakeTag [9] Net.handshakeNonce⟩⟩

/-- It comes before the daemon's own LINK_SYNC, and the answer to that one reaches the daemon. -/
def lateAnswer : List HostileEvent :=
  sampleAttempt [.toMcu .sample foreignSync, .toMcu .sample (sampleEnvelope .linkSync),
    .toDaemon (.mcu 3) .sample (sampleEnvelope .linkSyncResp)]

theorem sync_agreement_honest :
    (run (step .sample fun _ => 0) (init [7] ⟨200, 5, 5000⟩ 3 (.sample []) true)
        (sampleAttempt honestAnswer)).daemon.isSynchronized = true ∧
      SyncAgreement .sample (fun _ => 0) (init [7] ⟨200, 5, 5000⟩ 3 (.sample []) true) (sampleAttempt honestAnswer) :=
  ⟨by decide +kernel, sync_agreement .sample (fun _ => 0) [7] ⟨200, 5, 5000⟩ 3 (.sample []) true
    (sampleAttempt honestAnswer) (by decide +kernel)⟩

/-- The MCU goes to `STARTUP` over the bad tag of another daemon, answers the next LINK_SYNC from there, and the
daemon synchronises with it. -/
theorem sync_with_startup :
    ¬ ∀ (P : Platform) (random : Nat → UInt32) (secret : Bytes) (timing : HandshakeConfig) (maxAttempts : Nat)
      (service : Daemon.Service) (postOk : Bool) (evs : List HostileEvent),
      SyncAgreement P random (init secret timing maxAttempts service postOk) evs := by
  intro h
  have hall := (h .sample (fun _ => 0) [7] ⟨200, 5, 5000⟩ 3 (.sample []) true lateAnswer).daemon
    (lateAnswer.take 5) 3 .sample (sampleEnvelope .linkSyncResp) List.prefix_rfl (by decide +kernel)
    (by decide +kernel)
  obtain ⟨pre, ev, hpre, hle, hlt, hsync⟩ := hall
  -- the MCU is synchronised in no state of the run
  have hno := (@reached_iff _ _ (step .sample fun _ => 0) (fun s => s.mcu.isSynchronized = false)
    (init [7] ⟨200, 5, 5000⟩ 3 (.sample []) true) (lateAnswer.take 5)).2 (by decide +kernel)
  have hlast := hno (pre ++ [ev]) hpre
  rw [hsync] at hlast
  cases hlast

end Hostile
end McuBridge
