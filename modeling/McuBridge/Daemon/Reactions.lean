import McuBridge.Daemon.Link

/-! # What the handlers of the MCU's commands have in common

One statement about every entry of the registry: when its handler raises, that only XON and XOFF touch the flow
control, and which frames it leaves without an answer. -/

namespace McuBridge
namespace Daemon
namespace Service
open Link (isStatusValue)

/-- The handler of `cmd` finds the message it reads: the class `COMMAND_TO_PB` names, or for an ACK an
`AckPacket` or bytes. A message of another class comes in an envelope in the clear, so in a session only system
commands can have one. -/
def readable (cmd : UInt16) (p : Payload) : Bool :=
  match commandToPb.lookup cmd, p with
  | some tag, .message m => m.fieldNumber == tag
  | some _, .bytes _ => false
  | none, .message m => cmd != Status.ack.toUnderlying || m.fieldNumber == 34
  | none, .bytes _ => true

/-- `path.unlink` raises on what CMD_FILE_REMOVE names. -/
def removeFails (h : McuHost) : Payload → Bool
  | .message (.fileRemove path) => (h.safePath (h.text path)).any fun p => h.pathExists p && !h.pathUnlink p
  | _ => false

/-- The handler of `cmd` raises. -/
def raisesOn (h : McuHost) (cmd : UInt16) (p : Payload) : Bool :=
  !readable cmd p || cmd == Command.fileRemove.toUnderlying && removeFails h p

/-- A frame of this command gets an answer or an acknowledgment once its handler returns. -/
def answered (h : McuHost) (cmd : UInt16) : Bool :=
  !isStatusValue cmd.toUInt32 && (cmd != Command.fileReadResp.toUnderlying || h.mcuReadPending)

/-- What holds of every entry of the registry. -/
structure HandlerSpec (cmd : UInt16) (handler : McuHandler) : Prop where
  isSome : ∀ h sent p s, (handler h sent p s).isSome = !raisesOn h cmd p
  paused : ∀ {h sent p s r}, handler h sent p s = some r → cmd ≠ Command.xon.toUnderlying →
    cmd ≠ Command.xoff.toUnderlying → r.service.mcuIsPaused = s.mcuIsPaused
  answers : ∀ {h sent p s r}, handler h sent p s = some r →
    (answered h cmd = true ↔ r.replies ≠ [] ∨ (r.returnsFalse || isStatusValue cmd.toUInt32) = false)

/-! ### Handlers of one message -/

/-- The reaction keeps the flow control as it is, and the frame is answered or acknowledged. -/
structure Responds (s : Service) (r : Reaction) : Prop where
  paused : r.service.mcuIsPaused = s.mcuIsPaused
  answers : r.replies ≠ [] ∨ r.returnsFalse = false

variable {h : McuHost} {sent : Bool} {p : Payload} {s t : Service} {r : Reaction}

theorem Responds.answer (cmd : UInt16) (p : Payload) (ht : t.mcuIsPaused = s.mcuIsPaused) :
    Responds s (t.answer sent cmd p) :=
  ⟨ht, .inl nofun⟩

theorem Responds.silent (ht : t.mcuIsPaused = s.mcuIsPaused) : Responds s ⟨t, [], false⟩ :=
  ⟨ht, .inr rfl⟩

/-- The handlers that read a message, by its field number. -/
def messageHandlers : List (Nat × McuHandler) :=
  [(16, onMcuConsoleWrite), (17, onMcuDatastorePut), (18, onMcuDatastoreGet), (20, onMcuMailboxPush),
    (21, onMcuMailboxProcessed), (24, onMcuFileWrite), (25, onMcuFileRead), (28, onMcuProcessRun),
    (30, onMcuProcessPoll), (32, onMcuProcessKill), (14, onMcuDigitalReadResp), (15, onMcuAnalogReadResp),
    (40, onMcuSpiResp)]

theorem messageHandlers_reads : ∀ e ∈ messageHandlers, ∀ h sent p s r, e.2 h sent p s = some r →
    ∃ m, p = .message m ∧ m.fieldNumber = e.1 := by
  simp only [messageHandlers, List.forall_mem_cons]
  refine ⟨?_, ?_, ?_, ?_, ?_, ?_, ?_, ?_, ?_, ?_, ?_, ?_, ?_, nofun⟩
  all_goals
    intro h sent p s r hr
    rcases p with _ | m
    · cases hr
    · cases m <;> first | exact ⟨_, rfl, rfl⟩ | cases hr

theorem onMcuConsoleWrite_responds (d : Bytes) :
    ∃ r, onMcuConsoleWrite h sent (.message (.consoleWrite d)) s = some r ∧ Responds s r := by
  refine ⟨_, rfl, .silent ?_⟩
  split <;> rfl

theorem onMcuDatastorePut_responds (key value : Bytes) :
    ∃ r, onMcuDatastorePut h sent (.message (.datastorePut key value)) s = some r ∧ Responds s r := by
  refine ⟨_, rfl, .silent ?_⟩
  dsimp only
  split <;> rfl

theorem onMcuFileWrite_responds (path data : Bytes) :
    ∃ r, onMcuFileWrite h sent (.message (.fileWrite path data)) s = some r ∧ Responds s r := by
  dsimp only [onMcuFileWrite]
  split
  · split <;> exact ⟨_, rfl, .answer _ _ rfl⟩
  · exact ⟨_, rfl, .answer _ _ rfl⟩

theorem onMcuFileRead_responds (path : Bytes) :
    ∃ r, onMcuFileRead h sent (.message (.fileRead path)) s = some r ∧ Responds s r := by
  dsimp only [onMcuFileRead]
  split
  · split <;> exact ⟨_, rfl, rfl, .inr rfl⟩
  · exact ⟨_, rfl, rfl, .inr rfl⟩

theorem runProcess_paused (host : Host) (command : Text) :
    (s.runProcess host command).1.mcuIsPaused = s.mcuIsPaused := by
  unfold runProcess
  split
  · rfl
  · split <;> rfl

theorem onMcuProcessRun_responds (command : Bytes) :
    ∃ r, onMcuProcessRun h sent (.message (.processRunAsync command)) s = some r ∧ Responds s r := by
  have hrun := runProcess_paused (s := s) h.toHost (h.text command)
  dsimp only [onMcuProcessRun]
  split
  · split
    · exact ⟨_, rfl, .answer _ _ hrun⟩
    · exact ⟨_, rfl, hrun, .inl nofun⟩
  · exact ⟨_, rfl, rfl, .inl nofun⟩

theorem onMcuProcessKill_responds (pid : UInt32) :
    ∃ r, onMcuProcessKill h sent (.message (.processKill pid)) s = some r ∧ Responds s r := by
  dsimp only [onMcuProcessKill]
  split <;> exact ⟨_, rfl, .silent rfl⟩

theorem messageHandlers_responds : ∀ e ∈ messageHandlers, ∀ h sent m s, m.fieldNumber = e.1 →
    ∃ r, e.2 h sent (.message m) s = some r ∧ Responds s r := by
  simp only [messageHandlers, List.forall_mem_cons]
  refine ⟨?_, ?_, ?_, ?_, ?_, ?_, ?_, ?_, ?_, ?_, ?_, ?_, ?_, nofun⟩
  all_goals
    intro h sent m s hm
    cases m <;> cases hm
  · exact onMcuConsoleWrite_responds _
  · exact onMcuDatastorePut_responds _ _
  · exact ⟨_, rfl, .answer _ _ rfl⟩
  · exact ⟨_, rfl, .silent rfl⟩
  · exact ⟨_, rfl, .silent rfl⟩
  · exact onMcuFileWrite_responds _ _
  · exact onMcuFileRead_responds _
  · exact onMcuProcessRun_responds _
  · exact ⟨_, rfl, .answer _ _ rfl⟩
  · exact onMcuProcessKill_responds _
  · exact ⟨_, rfl, .silent rfl⟩
  · exact ⟨_, rfl, .silent rfl⟩
  · exact ⟨_, rfl, .silent rfl⟩

/-! ### The registry -/

/-- A command without a special rule in what follows. -/
def Plain (cmd : UInt16) : Prop :=
  cmd ≠ Command.fileRemove.toUnderlying ∧ cmd ≠ Command.fileReadResp.toUnderlying ∧
    isStatusValue cmd.toUInt32 = false

instance (cmd : UInt16) : Decidable (Plain cmd) := inferInstanceAs (Decidable (_ ∧ _))

theorem Responds.answers_iff {cmd : UInt16} (hr : Responds s r) (hcmd : cmd ≠ Command.fileReadResp.toUnderlying)
    (hst : isStatusValue cmd.toUInt32 = false) :
    answered h cmd = true ↔ r.replies ≠ [] ∨ (r.returnsFalse || isStatusValue cmd.toUInt32) = false := by
  simp only [answered, hst, Bool.not_false, Bool.true_and, bne_iff_ne.2 hcmd, Bool.true_or, Bool.or_false, true_iff]
  exact hr.answers

theorem HandlerSpec.message {cmd : UInt16} {tag : Nat} {handler : McuHandler} (hmem : (tag, handler) ∈ messageHandlers)
    (hpb : commandToPb.lookup cmd = some tag) (hplain : Plain cmd) : HandlerSpec cmd handler := by
  obtain ⟨hremove, hcmd, hst⟩ := hplain
  have hreads := messageHandlers_reads _ hmem
  have hresponds := messageHandlers_responds _ hmem
  have hsome : ∀ {h sent p s r}, handler h sent p s = some r → Responds s r := by
    intro h sent p s r hr
    obtain ⟨m, rfl, hm⟩ := hreads h sent p s r hr
    obtain ⟨r', hr', hresp⟩ := hresponds h sent m s hm
    rwa [Option.some.inj (hr.symm.trans hr')]
  refine ⟨fun h sent p s => ?_, fun hr _ _ => (hsome hr).paused, fun hr => (hsome hr).answers_iff hcmd hst⟩
  have hraises : raisesOn h cmd p = !readable cmd p := by simp [raisesOn, hremove]
  rw [hraises, Bool.not_not]
  unfold readable
  rw [hpb]
  cases hr : handler h sent p s with
  | some r =>
    obtain ⟨m, rfl, hm⟩ := hreads h sent p s r hr
    exact (beq_iff_eq.2 hm).symm
  | none =>
    rcases p with _ | m
    · rfl
    · have hne : m.fieldNumber ≠ tag := by
        intro hm
        obtain ⟨r, hr', -⟩ := hresponds h sent m s hm
        cases hr.symm.trans hr'
      exact (beq_eq_false_iff_ne.2 hne).symm

/-- Commands whose handler does not look at the payload. -/
theorem HandlerSpec.anyPayload {cmd : UInt16} {handler : McuHandler} (hpb : commandToPb.lookup cmd = none)
    (hplain : Plain cmd) (hresponds : ∀ h sent p s, ∃ r, handler h sent p s = some r ∧ Responds s r) :
    HandlerSpec cmd handler := by
  obtain ⟨hremove, hcmd, hst⟩ := hplain
  have hack : cmd ≠ Status.ack.toUnderlying := by
    rintro rfl
    cases hst
  have hsome : ∀ {h sent p s r}, handler h sent p s = some r → Responds s r := by
    intro h sent p s r hr
    obtain ⟨r', hr', hresp⟩ := hresponds h sent p s
    rwa [Option.some.inj (hr.symm.trans hr')]
  refine ⟨fun h sent p s => ?_, fun hr _ _ => (hsome hr).paused, fun hr => (hsome hr).answers_iff hcmd hst⟩
  obtain ⟨r, hr, -⟩ := hresponds h sent p s
  have hreadable : readable cmd p = true := by
    unfold readable
    rw [hpb]
    cases p
    · rfl
    · simp [hack]
  simp [hr, raisesOn, hreadable, hremove]

/-- XON and XOFF are acknowledged like any other command. -/
theorem HandlerSpec.flow {cmd : UInt16} (hcmd : cmd = Command.xon.toUnderlying ∨ cmd = Command.xoff.toUnderlying)
    (paused : Bool) : HandlerSpec cmd fun _ _ _ s => some ⟨{ s with mcuIsPaused := paused }, [], false⟩ := by
  refine ⟨fun h sent p s => ?_, fun _ hxon hxoff => ?_, fun hr => ?_⟩
  · rcases hcmd with rfl | rfl <;> cases p <;> rfl
  · rcases hcmd with rfl | rfl
    · exact absurd rfl hxon
    · exact absurd rfl hxoff
  · cases hr
    have hst : isStatusValue cmd.toUInt32 = false := by rcases hcmd with rfl | rfl <;> rfl
    have hresp : cmd ≠ Command.fileReadResp.toUnderlying := by rcases hcmd with rfl | rfl <;> decide
    simp [answered, hst, hresp]

theorem onMcuFileRemove_spec : HandlerSpec Command.fileRemove.toUnderlying onMcuFileRemove := by
  have hsome : ∀ {h sent p s r}, onMcuFileRemove h sent p s = some r → Responds s r := by
    intro h sent p s r hr
    unfold onMcuFileRemove at hr
    split at hr
    · split at hr
      · split at hr
        · split at hr <;> cases hr
          exact .answer _ _ rfl
        · cases hr
          exact .answer _ _ rfl
      · cases hr
        exact .answer _ _ rfl
    · cases hr
  refine ⟨fun h sent p s => ?_, fun hr _ _ => (hsome hr).paused, fun hr => (hsome hr).answers_iff (by decide) rfl⟩
  rcases p with _ | m
  · rfl
  · cases m <;> try rfl
    case fileRemove path =>
      have hread : readable Command.fileRemove.toUnderlying (.message (.fileRemove path)) = true := rfl
      simp only [onMcuFileRemove, raisesOn, removeFails, hread]
      split
      case h_1 q hq =>
        simp only [hq, Option.any_some]
        cases h.pathExists q <;> cases h.pathUnlink q <;> rfl
      case h_2 hq => simp [hq]

theorem onMcuFileReadResp_spec : HandlerSpec Command.fileReadResp.toUnderlying onMcuFileReadResp := by
  constructor
  · intro h sent p s
    rcases p with _ | m
    · rfl
    · cases m <;> rfl
  · intro h sent p s r hr _ _
    unfold onMcuFileReadResp at hr
    split at hr <;> cases hr
    rfl
  · intro h sent p s r hr
    unfold onMcuFileReadResp at hr
    split at hr <;> cases hr
    have hst : isStatusValue Command.fileReadResp.toUnderlying.toUInt32 = false := rfl
    simp [answered, hst]

/-- Status frames are neither answered nor acknowledged. -/
theorem HandlerSpec.status {cmd : UInt16} {handler : McuHandler} (hst : isStatusValue cmd.toUInt32 = true)
    (hremove : cmd ≠ Command.fileRemove.toUnderlying)
    (hread : ∀ h sent p s, (handler h sent p s).isSome = readable cmd p)
    (hquiet : ∀ h sent p s r, handler h sent p s = some r → r.service.mcuIsPaused = s.mcuIsPaused ∧ r.replies = []) :
    HandlerSpec cmd handler := by
  refine ⟨fun h sent p s => ?_, fun hr _ _ => (hquiet _ _ _ _ _ hr).1, fun hr => ?_⟩
  · simp [raisesOn, hremove, hread]
  · simp [answered, hst, (hquiet _ _ _ _ _ hr).2]

theorem handleMcuStatus_spec (st : Status) (hst : st ≠ .ack) :
    HandlerSpec st.toUnderlying (handleMcuStatus st) := by
  refine .status (by cases st <;> rfl) (by cases st <;> decide) (fun h sent p s => ?_) fun h sent p s r hr => ?_
  · have hread : readable st.toUnderlying p = true := by
      cases p <;> cases st <;> first | rfl | exact absurd rfl hst
    rw [hread]
    rfl
  · cases hr
    exact ⟨rfl, rfl⟩

theorem onMcuAck_spec : HandlerSpec Status.ack.toUnderlying onMcuAck := by
  refine .status rfl (by decide) (fun h sent p s => ?_) fun h sent p s r hr => ?_
  · rcases p with _ | m
    · rfl
    · cases m <;> rfl
  · unfold onMcuAck at hr
    split at hr <;> cases hr <;> exact ⟨rfl, rfl⟩

theorem mcuRegistry_spec : ∀ e ∈ mcuRegistry, HandlerSpec e.1 e.2 := by
  simp only [mcuRegistry, List.forall_mem_cons]
  refine ⟨.flow (.inl rfl) false, .flow (.inr rfl) true, ?_⟩
  -- console, datastore and mailbox
  refine ⟨.message (by simp [messageHandlers]) rfl (by decide), .message (by simp [messageHandlers]) rfl (by decide),
    .message (by simp [messageHandlers]) rfl (by decide), .message (by simp [messageHandlers]) rfl (by decide),
    .anyPayload rfl (by decide) fun _ _ _ _ => ⟨_, rfl, .answer _ _ rfl⟩,
    .anyPayload rfl (by decide) fun _ _ _ _ => ⟨_, rfl, .answer _ _ rfl⟩,
    .message (by simp [messageHandlers]) rfl (by decide), ?_⟩
  -- files
  refine ⟨.message (by simp [messageHandlers]) rfl (by decide), .message (by simp [messageHandlers]) rfl (by decide),
    onMcuFileRemove_spec, onMcuFileReadResp_spec, ?_⟩
  -- processes, SPI, ACK and pins
  refine ⟨.message (by simp [messageHandlers]) rfl (by decide), .message (by simp [messageHandlers]) rfl (by decide),
    .message (by simp [messageHandlers]) rfl (by decide), onMcuAck_spec,
    .message (by simp [messageHandlers]) rfl (by decide), .message (by simp [messageHandlers]) rfl (by decide),
    .message (by simp [messageHandlers]) rfl (by decide),
    .anyPayload rfl (by decide) fun _ _ _ _ => ⟨_, rfl, .answer _ _ rfl⟩,
    .anyPayload rfl (by decide) fun _ _ _ _ => ⟨_, rfl, .answer _ _ rfl⟩, ?_⟩
  -- the link and the status codes
  exact ⟨.anyPayload rfl (by decide) fun _ _ _ _ => ⟨_, rfl, .silent rfl⟩,
    .anyPayload rfl (by decide) fun _ _ _ _ => ⟨_, rfl, .silent rfl⟩,
    handleMcuStatus_spec _ nofun, handleMcuStatus_spec _ nofun, handleMcuStatus_spec _ nofun,
    handleMcuStatus_spec _ nofun, handleMcuStatus_spec _ nofun, handleMcuStatus_spec _ nofun,
    handleMcuStatus_spec _ nofun, handleMcuStatus_spec _ nofun, nofun⟩

theorem lookup_spec {cmd : UInt16} {handler : McuHandler} (hget : mcuRegistry.lookup cmd = some handler) :
    HandlerSpec cmd handler := by
  obtain ⟨l₁, l₂, heq, -⟩ := List.lookup_eq_some_iff.1 hget
  exact mcuRegistry_spec (cmd, handler) (heq ▸ List.mem_append_right _ List.mem_cons_self)

end Service
end Daemon
end McuBridge
