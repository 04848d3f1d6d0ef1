import McuBridge.Daemon.FrameCodec
import McuBridge.Daemon.ReaderErrors
import McuBridge.Daemon.ReaderStalls

/-! # When the read loop survives a frame

The read task survives exactly the frames of `FrameSafe`; the last section carries this over to whole runs. -/

namespace McuBridge
namespace Daemon

/-! ### Answers that fit -/

namespace Link
variable {P : Platform} {random : Nat → UInt32} {d : Link} {io : Io} {f : Faults}

/-- The link is in a session whose key encrypts. -/
structure InSession (P : Platform) (d : Link) : Prop where
  synchronized : d.isSynchronized = true
  key : ∃ k, d.linkSessionKey = some k ∧ k ≠ [] ∧ ∀ cmd seq {nonce plain : Bytes}, nonce.length = aeadNonceSize →
    plain.length ≤ maxPayloadSize → (P.aeadEncrypt k nonce (P.aad cmd seq) plain).isSome = true

theorem Keyed.inSession (hP : P.toCrypto.Seals) (hd : Keyed P d) (hs : d.isSynchronized = true) : InSession P d := by
  obtain ⟨n, hn⟩ := hd hs
  exact ⟨hs, _, hn, hP.key_ne_nil _ _, hP.seals _ _⟩

theorem generateNonceWithCounter_length {r : UInt32} {c c' : Nat} {nonce : Bytes}
    (h : generateNonceWithCounter r c = some (nonce, c')) : nonce.length = aeadNonceSize := by
  unfold generateNonceWithCounter at h
  split at h <;> cases h
  rfl

theorem InSession.frameBuilds_iff (hd : InSession P d) {cmd : UInt16} (hcmd : isSystemCommand cmd = false) (m : PayloadType)
    (seq : Option UInt32) :
    d.frameBuilds P random cmd (.message m) seq = true ↔
      d.linkNonceCounter < nonceCounterMask ∧ (P.pbEncode m).length ≤ maxPayloadSize := by
  obtain ⟨hs, k, hk, hne, hseals⟩ := hd
  have hkey : d.sessionKey = some k := by
    unfold sessionKey
    rw [hs, if_pos rfl, hk]
  have hempty : k.isEmpty = false := by simpa using hne
  unfold frameBuilds frameNonce
  rw [hs, hcmd, hkey, if_pos (by decide)]
  by_cases hcount : nonceCounterMask ≤ d.linkNonceCounter
  · simp [generateNonceWithCounter, hcount, Nat.not_lt.2 hcount]
  · obtain ⟨⟨nonce, c⟩, hnonce⟩ : ∃ x, generateNonceWithCounter (random d.linkNonceCounter) d.linkNonceCounter = some x :=
      ⟨_, if_neg hcount⟩
    have hlen := generateNonceWithCounter_length hnonce
    have hfull : nonce.isEmpty = false := by
      cases nonce with
      | nil => cases hlen
      | cons => rfl
    rw [hnonce]
    by_cases hfits : maxPayloadSize < (P.pbEncode m).length
    · simp [buildFrame, hempty, hcmd, Payload.serialize, hfits]
    · have hle : (P.pbEncode m).length ≤ maxPayloadSize := Nat.not_lt.1 hfits
      have hbuild : (buildFrame P cmd (d.nextSequenceId seq).2 (.message m) nonce (some k)).isSome = true := by
        unfold buildFrame
        simp only [hempty, hcmd, hfull, Bool.not_false, Bool.and_self, if_true, Bool.false_eq_true, if_false,
          Payload.serialize, hfits, Option.isSome_map]
        exact hseals cmd.toUInt32 _ hlen hle
      simp [hbuild, hle, Nat.not_le.1 hcount]

theorem sendReplies_closed (hserial : d.serial = false) (writes : Bool) (replies : List (UInt16 × Payload)) :
    (sendReplies P random writes replies d).2 = true := by
  induction replies with
  | nil => rfl
  | cons x rest ih =>
    have hsend : d.sendRaw P random writes x.1 x.2 none none = (d, .failed) := by
      unfold sendRaw
      rw [if_pos (by rw [hserial]; rfl)]
    unfold sendReplies
    dsimp only
    rw [hsend, if_neg RawResult.noConfusion]
    exact ih

theorem sendReplies_system (writes : Bool) (replies : List (UInt16 × Payload))
    (h : ∀ x ∈ replies, isSystemCommand x.1 = true ∧ ∀ b, x.2 = .bytes b → b.length ≤ maxPayloadSize) :
    (sendReplies P random writes replies d).2 = true := by
  induction replies generalizing d with
  | nil => rfl
  | cons x rest ih =>
    obtain ⟨hsys, hfits⟩ := h x List.mem_cons_self
    have hne : (d.sendRaw P random writes x.1 x.2 none none).2 ≠ .raised := by
      rw [sendRaw_result, frameBuilds_system hsys hfits]
      cases d.serial <;> cases writes <;> decide
    unfold sendReplies
    dsimp only
    rw [if_neg hne]
    exact ih fun y hy => h y (List.mem_cons_of_mem _ hy)

theorem nextNonce_session (hs : d.isSynchronized = true) {cmd : UInt16} (hcmd : isSystemCommand cmd = false)
    (hcount : d.linkNonceCounter < nonceCounterMask) :
    ∃ nonce, d.nextNonce random cmd = some ({ d with linkNonceCounter := d.linkNonceCounter + 1 }, nonce) := by
  unfold nextNonce generateNonceWithCounter
  rw [hs, hcmd, if_pos (by decide), if_neg (Nat.not_le.2 hcount)]
  exact ⟨_, rfl⟩

theorem InSession.sendRaw_next (hd : InSession P d) (hserial : d.serial = true) {cmd : UInt16}
    (hcmd : isSystemCommand cmd = false) (hcount : d.linkNonceCounter < nonceCounterMask) (writes : Bool)
    (payload : Payload) :
    InSession P (d.sendRaw P random writes cmd payload none none).1 ∧
      (d.sendRaw P random writes cmd payload none none).1.serial = true ∧
      (d.sendRaw P random writes cmd payload none none).1.linkNonceCounter = d.linkNonceCounter + 1 := by
  have hnonce := @nextNonce_session random { d with txSequenceId := d.txSequenceId + 1 } hd.synchronized cmd
    hcmd hcount
  obtain ⟨nonce, hnonce⟩ := hnonce
  obtain ⟨hs, hkey⟩ := hd
  unfold sendRaw
  rw [if_neg (by rw [hserial]; decide)]
  dsimp only [nextSequenceId]
  rw [hnonce]
  dsimp only
  split
  · exact ⟨⟨hs, hkey⟩, hserial, rfl⟩
  · unfold write
    dsimp only
    split <;> split <;> exact ⟨⟨hs, hkey⟩, hserial, rfl⟩

theorem InSession.sendReplies_iff (hd : InSession P d) (hserial : d.serial = true) (writes : Bool)
    (xs : List (UInt16 × PayloadType)) (hcmd : ∀ x ∈ xs, isSystemCommand x.1 = false) :
    (sendReplies P random writes (xs.map fun x => (x.1, .message x.2)) d).2 = true ↔
      (∀ x ∈ xs, (P.pbEncode x.2).length ≤ maxPayloadSize) ∧
        ∀ i < xs.length, d.linkNonceCounter + i < nonceCounterMask := by
  induction xs generalizing d with
  | nil => simp [sendReplies]
  | cons x rest ih =>
    have hx := hcmd x List.mem_cons_self
    have hbuilds := @InSession.frameBuilds_iff P random d hd x.1 hx x.2 none
    have hres := @sendRaw_result P random d writes x.1 (.message x.2) none none
    rw [if_neg (by rw [hserial]; decide)] at hres
    rw [List.map_cons]
    unfold sendReplies
    dsimp only
    cases hb : d.frameBuilds P random x.1 (.message x.2) none
    · rw [hb, if_pos (by decide)] at hres
      rw [if_pos hres]
      have hno : ¬ (d.linkNonceCounter < nonceCounterMask ∧ (P.pbEncode x.2).length ≤ maxPayloadSize) := by
        rw [← hbuilds, hb]
        decide
      constructor
      · nofun
      · rintro ⟨hfits, hnonces⟩
        exact absurd ⟨by simpa using hnonces 0 (by simp), hfits x List.mem_cons_self⟩ hno
    · rw [hb] at hres hbuilds
      obtain ⟨hcount, hfits⟩ := hbuilds.1 rfl
      have hne : (d.sendRaw P random writes x.1 (.message x.2) none none).2 ≠ .raised := by
        rw [hres]
        cases writes <;> decide
      obtain ⟨hd', hserial', hnext⟩ := @InSession.sendRaw_next P random d hd hserial x.1 hx hcount writes (.message x.2)
      rw [if_neg hne, ih hd' hserial' fun y hy => hcmd y (List.mem_cons_of_mem _ hy), hnext]
      rw [List.forall_mem_cons, List.length_cons]
      constructor
      · rintro ⟨hrest, hnonces⟩
        refine ⟨⟨hfits, hrest⟩, fun i hi => ?_⟩
        cases i with
        | zero => exact hcount
        | succ i =>
          have := hnonces i (by omega)
          omega
      · rintro ⟨⟨-, hrest⟩, hnonces⟩
        refine ⟨hrest, fun i hi => ?_⟩
        have := hnonces (i + 1) (by omega)
        omega

end Link

/-! ### What the handlers send -/

namespace Service
open Link (isStatusValue preSyncAllowed)

/-- The replies of the handler are its sealed answers, or a status. -/
def AnswerSpec (cmd : UInt16) (handler : McuHandler) : Prop :=
  ∀ h sent p s r, handler h sent p s = some r →
    r.replies = (s.sealedAnswers h cmd p).map (fun x => (x.1, .message x.2)) ∨
      s.sealedAnswers h cmd p = [] ∧
        ∀ x ∈ r.replies, isSystemCommand x.1 = true ∧ ∀ b, x.2 = .bytes b → b.length ≤ maxPayloadSize

variable {h : McuHost} {sent : Bool} {p : Payload} {s : Service} {r : Reaction}

theorem status_reply (st : Status) (q : Payload) (hq : ∀ b, q = .bytes b → b.length ≤ maxPayloadSize) :
    ∀ x ∈ [(st.toUnderlying, q)], isSystemCommand x.1 = true ∧ ∀ b, x.2 = .bytes b → b.length ≤ maxPayloadSize := by
  intro x hx
  obtain rfl := List.mem_singleton.1 hx
  exact ⟨isSystemCommand_status st, hq⟩

/-- Handlers of messages that are only acknowledged, or answered with one frame. -/
theorem simple_answers : ∀ e ∈ [(Command.consoleWrite.toUnderlying, onMcuConsoleWrite),
    (Command.datastorePut.toUnderlying, onMcuDatastorePut), (Command.datastoreGet.toUnderlying, onMcuDatastoreGet),
    (Command.mailboxPush.toUnderlying, onMcuMailboxPush), (Command.mailboxProcessed.toUnderlying, onMcuMailboxProcessed),
    (Command.fileReadResp.toUnderlying, onMcuFileReadResp), (Command.processPoll.toUnderlying, onMcuProcessPoll),
    (Command.spiTransferResp.toUnderlying, onMcuSpiResp), (Command.digitalReadResp.toUnderlying, onMcuDigitalReadResp),
    (Command.analogReadResp.toUnderlying, onMcuAnalogReadResp)], AnswerSpec e.1 e.2 := by
  simp only [List.forall_mem_cons]
  refine ⟨?_, ?_, ?_, ?_, ?_, ?_, ?_, ?_, ?_, ?_, nofun⟩
  all_goals
    intro h sent p s r hr
    rcases p with _ | m
    · cases hr
    · cases m <;> cases hr
      exact .inl rfl

theorem onMcuProcessKill_answers : AnswerSpec Command.processKill.toUnderlying onMcuProcessKill := by
  intro h sent p s r hr
  unfold onMcuProcessKill at hr
  split at hr
  · split at hr <;> cases hr <;> exact .inl rfl
  · cases hr

theorem onMcuAck_answers : AnswerSpec Status.ack.toUnderlying onMcuAck := by
  intro h sent p s r hr
  unfold onMcuAck at hr
  split at hr <;> cases hr <;> exact .inl rfl

/-- Handlers that look at no payload and send nothing. -/
theorem AnswerSpec.silent {cmd : UInt16} (hnone : ∀ h p s, sealedAnswers h cmd p s = [])
    (g : McuHost → Payload → Service → Service) :
    AnswerSpec cmd fun h _ p s => some ⟨g h p s, [], false⟩ := by
  intro h sent p s r hr
  cases hr
  rw [hnone]
  exact .inl rfl

theorem onMcuFileWrite_answers : AnswerSpec Command.fileWrite.toUnderlying onMcuFileWrite := by
  intro h sent p s r hr
  unfold onMcuFileWrite at hr
  split at hr
  · refine .inr ⟨rfl, ?_⟩
    split at hr
    · split at hr <;> cases hr
      · exact status_reply .ok _ fun b hb => by cases hb; decide
      · exact status_reply .error _ nofun
    · cases hr
      exact status_reply .error _ nofun
  · cases hr

theorem onMcuFileRead_answers : AnswerSpec Command.fileRead.toUnderlying onMcuFileRead := by
  intro h sent p s r hr
  unfold onMcuFileRead at hr
  split at hr
  case h_1 path =>
    have hanswers : sealedAnswers h Command.fileRead.toUnderlying (.message (.fileRead path)) s =
      messageAnswers h s (.fileRead path) := rfl
    rw [hanswers]
    unfold messageAnswers
    split at hr
    case h_1 q hq =>
      simp only [hq]
      split at hr
      case isTrue hfile =>
        cases hr
        rw [if_pos hfile, List.map_map]
        exact .inl rfl
      case isFalse hfile =>
        cases hr
        rw [if_neg hfile]
        exact .inr ⟨rfl, status_reply .error _ nofun⟩
    case h_2 hq =>
      cases hr
      simp only [hq]
      exact .inr ⟨trivial, status_reply .error _ nofun⟩
  · cases hr

theorem onMcuFileRemove_answers : AnswerSpec Command.fileRemove.toUnderlying onMcuFileRemove := by
  intro h sent p s r hr
  unfold onMcuFileRemove at hr
  split at hr
  · refine .inr ⟨rfl, ?_⟩
    split at hr
    · split at hr
      · split at hr <;> cases hr
        exact status_reply .ok _ fun b hb => by cases hb; decide
      · cases hr
        exact status_reply .error _ nofun
    · cases hr
      exact status_reply .error _ nofun
  · cases hr

theorem onMcuProcessRun_answers : AnswerSpec Command.processRunAsync.toUnderlying onMcuProcessRun := by
  intro h sent p s r hr
  unfold onMcuProcessRun at hr
  split at hr
  case h_1 command =>
    have hanswers : sealedAnswers h Command.processRunAsync.toUnderlying (.message (.processRunAsync command)) s =
      messageAnswers h s (.processRunAsync command) := rfl
    rw [hanswers]
    unfold messageAnswers
    dsimp only at hr ⊢
    split at hr
    case isTrue hallowed =>
      rw [if_pos hallowed]
      split at hr
      case isTrue hpid =>
        cases hr
        rw [if_pos hpid]
        exact .inl rfl
      case isFalse hpid =>
        cases hr
        rw [if_neg hpid]
        exact .inr ⟨rfl, status_reply .error _ nofun⟩
    case isFalse hallowed =>
      cases hr
      rw [if_neg hallowed]
      exact .inr ⟨rfl, status_reply .error _ nofun⟩
  · cases hr

theorem handleMcuStatus_answers (st : Status) : AnswerSpec st.toUnderlying (handleMcuStatus st) :=
  .silent (fun h p s => by cases st <;> rfl)
    fun h p s => s.publish .system ["status".toList] (.statusReport st (statusText h p))

theorem mcuRegistry_answers : ∀ e ∈ mcuRegistry, AnswerSpec e.1 e.2 := by
  have hsimple := simple_answers
  simp only [List.forall_mem_cons] at hsimple
  obtain ⟨hconsole, hput, hget, hpush, hprocessed, hreadResp, hpoll, hspi, hdigital, hanalog, -⟩ := hsimple
  have hunsupported : ∀ {cmd message}, (∀ h p s, sealedAnswers h cmd p s = []) →
      AnswerSpec cmd fun h sent _ s => some (s.answerStatus h sent .notImplemented message) := by
    intro cmd message hnone h sent p s r hr
    cases hr
    exact .inr ⟨hnone h p s, status_reply .notImplemented _ fun _ h => Payload.noConfusion h⟩
  simp only [mcuRegistry, List.forall_mem_cons]
  refine ⟨.silent (fun _ _ _ => rfl) fun _ _ s => { s with mcuIsPaused := false },
    .silent (fun _ _ _ => rfl) fun _ _ s => { s with mcuIsPaused := true }, hconsole, hput, hget, hpush, ?_, ?_, hprocessed,
    onMcuFileWrite_answers, onMcuFileRead_answers, onMcuFileRemove_answers, hreadResp, onMcuProcessRun_answers, hpoll, hspi,
    onMcuAck_answers, hdigital, hanalog, onMcuProcessKill_answers, hunsupported fun _ _ _ => rfl,
    hunsupported fun _ _ _ => rfl, .silent (fun _ _ _ => rfl) fun _ _ s => s, .silent (fun _ _ _ => rfl) fun _ _ s => s,
    handleMcuStatus_answers _, handleMcuStatus_answers _, handleMcuStatus_answers _, handleMcuStatus_answers _,
    handleMcuStatus_answers _, handleMcuStatus_answers _, handleMcuStatus_answers _, handleMcuStatus_answers _, List.forall_mem_nil _⟩
  · intro h sent p s r hr
    cases hr
    exact .inl rfl
  · intro h sent p s r hr
    cases hr
    exact .inl rfl

theorem messageAnswers_sealed (m : PayloadType) : ∀ x ∈ s.messageAnswers h m, isSystemCommand x.1 = false := by
  intro x hx
  unfold messageAnswers at hx
  split at hx
  · obtain rfl := List.mem_singleton.1 hx
    rfl
  · split at hx
    · split at hx
      · obtain ⟨c, -, rfl⟩ := List.mem_map.1 hx
        rfl
      · cases hx
    · cases hx
  · dsimp only at hx
    split at hx
    · split at hx
      · obtain rfl := List.mem_singleton.1 hx
        rfl
      · cases hx
    · cases hx
  · obtain rfl := List.mem_singleton.1 hx
    rfl
  · cases hx

theorem sealedAnswers_sealed {cmd : UInt16} : ∀ x ∈ s.sealedAnswers h cmd p, isSystemCommand x.1 = false := by
  intro x hx
  unfold sealedAnswers at hx
  split at hx
  · exact messageAnswers_sealed _ x hx
  · cases hx
  · split at hx
    · obtain rfl := List.mem_singleton.1 hx
      rfl
    split at hx
    · obtain rfl := List.mem_singleton.1 hx
      rfl
    · cases hx

/-- Only commands of a session have such answers. -/
theorem sealedAnswers_session {cmd : UInt16} (hne : s.sealedAnswers h cmd p ≠ []) :
    isStatusValue cmd.toUInt32 = false ∧ preSyncAllowed cmd.toUInt32 = false := by
  have htable : ∀ e ∈ commandToPb, isStatusValue e.1.toUInt32 = false ∧ preSyncAllowed e.1.toUInt32 = false := by
    decide
  cases hpb : commandToPb.lookup cmd with
  | some tag =>
    obtain ⟨l₁, l₂, heq, -⟩ := List.lookup_eq_some_iff.1 hpb
    exact htable (cmd, tag) (heq ▸ List.mem_append_right _ List.mem_cons_self)
  | none =>
    unfold sealedAnswers at hne
    rw [hpb] at hne
    dsimp only at hne
    split at hne
    case isTrue hcmd =>
      rw [hcmd]
      decide
    split at hne
    case isTrue hcmd =>
      rw [hcmd]
      decide
    · exact absurd rfl hne

theorem unlink_mem_hostCalls (hfails : removeFails h p = true) :
    ∃ q, HostCall.unlink q ∈ s.hostCalls h Command.fileRemove.toUnderlying p ∧ h.pathUnlink q = false := by
  unfold removeFails at hfails
  split at hfails
  case h_1 path =>
    cases hq : h.safePath (h.text path) with
    | none =>
      rw [hq] at hfails
      cases hfails
    | some q =>
      rw [hq, Option.any_some, Bool.and_eq_true] at hfails
      refine ⟨q, ?_, by simpa using hfails.2⟩
      show HostCall.unlink q ∈ messageCalls h s (.fileRemove path)
      simp [messageCalls, hq, hfails.1]
  · cases hfails

end Service

namespace Link
variable {P : Platform} {random : Nat → UInt32} {d : Link} {io : Io} {f : Faults}

theorem registered_answers {cmd : UInt32} {handler : McuHandler} (hreg : registered cmd = some handler) :
    Service.AnswerSpec cmd.toUInt16 handler := by
  unfold registered at hreg
  split at hreg
  · obtain ⟨l₁, l₂, heq, -⟩ := List.lookup_eq_some_iff.1 hreg
    exact Service.mcuRegistry_answers (cmd.toUInt16, handler) (heq ▸ List.mem_append_right _ List.mem_cons_self)
  · cases hreg

theorem findSome_fault (cs : List HostCall) :
    cs.findSome? (fun c => c.fault io.host f) = none ↔ ∀ c ∈ cs, c.fault io.host f = none := by
  simp [List.findSome?_eq_none_iff]

theorem handler_returns {cmd : UInt16} {handler : McuHandler} {p : Payload} (hspec : Service.HandlerSpec cmd handler)
    (hread : Service.readable cmd p = true) (hcalls : ∀ c ∈ d.service.hostCalls io.host cmd p, c.fault io.host f = none) :
    ∃ r, handler io.host (d.serial && io.writes) p d.service = some r := by
  have hremove : (cmd == Command.fileRemove.toUnderlying && Service.removeFails io.host p) = false := by
    by_contra hno
    rw [Bool.not_eq_false, Bool.and_eq_true, beq_iff_eq] at hno
    obtain ⟨rfl, hfails⟩ := hno
    obtain ⟨q, hq, hunlink⟩ := Service.unlink_mem_hostCalls (s := d.service) hfails
    have := hcalls _ hq
    simp [HostCall.fault, hunlink] at this
  have hsome := hspec.isSome io.host (d.serial && io.writes) p d.service
  rw [Service.raisesOn, hread, hremove] at hsome
  exact Option.isSome_iff_exists.1 hsome

theorem sendReplies_returned_iff (hP : P.toCrypto.Seals) (hd : Keyed P d) {cmd : UInt16} {handler : McuHandler}
    {p : Payload} (hspec : Service.AnswerSpec cmd handler) {r : Reaction}
    (hr : handler io.host (d.serial && io.writes) p d.service = some r)
    (hadm : (d.isSynchronized || isStatusValue cmd.toUInt32 || preSyncAllowed cmd.toUInt32) = true) :
    (sendReplies P random io.writes r.replies { d with service := r.service }).2 = true ↔
      (d.serial = true → ∀ x ∈ d.service.sealedAnswers io.host cmd p, (P.pbEncode x.2).length ≤ maxPayloadSize) ∧
        (d.serial = true → ∀ i < (d.service.sealedAnswers io.host cmd p).length,
          d.linkNonceCounter + i < nonceCounterMask) := by
  -- the handler may have changed the service, but not the link
  have hserial : ({ d with service := r.service } : Link).serial = d.serial := rfl
  have hcounter : ({ d with service := r.service } : Link).linkNonceCounter = d.linkNonceCounter := rfl
  have hsession : InSession P d → InSession P { d with service := r.service } := fun h => ⟨h.synchronized, h.key⟩
  generalize ({ d with service := r.service } : Link) = t at *
  rw [← hserial, ← hcounter]
  cases hopen : t.serial
  · simp [sendReplies_closed hopen]
  simp only [true_implies]
  rcases hspec _ _ _ _ _ hr with hreplies | ⟨hnil, hsystem⟩
  · rw [hreplies]
    by_cases hnil : d.service.sealedAnswers io.host cmd p = []
    · rw [hnil]
      simp [sendReplies]
    · obtain ⟨hst, hpre⟩ := Service.sealedAnswers_session hnil
      rw [hst, hpre, Bool.or_false, Bool.or_false] at hadm
      exact (hsession (Keyed.inSession hP hd hadm)).sendReplies_iff hopen io.writes _ Service.sealedAnswers_sealed
  · rw [sendReplies_system _ _ hsystem, hnil]
    simp

theorem flushRaises_iff (hd : InSession P d) :
    d.flushRaises P random = none ↔ (d.serial = true → ∀ chunk, nextChunk d.service.consoleToMcuQueue = some chunk →
      (P.pbEncode (.consoleWrite chunk)).length ≤ maxPayloadSize ∧ d.linkNonceCounter < nonceCounterMask) := by
  unfold flushRaises
  cases hchunk : nextChunk d.service.consoleToMcuQueue with
  | none => simp
  | some chunk =>
    have hbuilds := @InSession.frameBuilds_iff P random d hd Command.consoleWrite.toUnderlying (by decide)
      (.consoleWrite chunk) none
    simp only [Option.some.injEq, forall_eq', and_comm, ← hbuilds]
    cases d.serial <;>
      cases d.frameBuilds P random Command.consoleWrite.toUnderlying (.message (.consoleWrite chunk)) none <;> simp

theorem handlerRaises_iff (hP : P.toCrypto.Seals) (hd : Keyed P d) {cmd : UInt32} {handler : McuHandler}
    (hreg : registered cmd = some handler) (hadm : (d.isSynchronized || isStatusValue cmd || preSyncAllowed cmd) = true)
    (p : Payload) :
    d.handlerRaises P random io f handler cmd.toUInt16 p = none ↔ d.HandlerSafe P io f cmd.toUInt16 p := by
  obtain ⟨hspec, hcmd⟩ := registered_spec hreg
  have hanswers := registered_answers hreg
  rw [← hcmd] at hadm
  generalize cmd.toUInt16 = c at *
  unfold handlerRaises
  cases hread : Service.readable c p
  · rw [if_pos (by decide)]
    constructor
    · nofun
    · intro h
      cases hread.symm.trans h.readable
  rw [if_neg (by decide)]
  by_cases hcalls : ∀ x ∈ d.service.hostCalls io.host c p, x.fault io.host f = none
  case neg =>
    obtain ⟨e, he⟩ := Option.ne_none_iff_exists'.1 fun h => hcalls ((findSome_fault _).1 h)
    rw [he]
    constructor
    · nofun
    · exact fun h => absurd h.calls hcalls
  obtain ⟨r, hr⟩ := handler_returns hspec hread hcalls
  rw [(findSome_fault _).2 hcalls, hr]
  dsimp only
  by_cases hxon : c = Command.xon.toUnderlying
  · subst hxon
    have hst : isStatusValue Command.xon.toUnderlying.toUInt32 = false := rfl
    have hpre : preSyncAllowed Command.xon.toUnderlying.toUInt32 = false := rfl
    have hs : d.isSynchronized = true := by rwa [hst, hpre, Bool.or_false, Bool.or_false] at hadm
    rw [if_pos rfl, flushRaises_iff (Keyed.inSession hP hd hs)]
    constructor
    · exact fun h => ⟨hread, hcalls, nofun, nofun, fun _ => h⟩
    · exact fun h => h.console rfl
  · rw [if_neg hxon]
    have hsent := @sendReplies_returned_iff P random d io hP hd c handler p hanswers r hr hadm
    constructor
    · intro h
      obtain ⟨hfits, hnonces⟩ := hsent.1 (by
        by_contra hno
        rw [if_neg hno] at h
        cases h)
      exact ⟨hread, hcalls, hfits, hnonces, fun heq => absurd heq hxon⟩
    · intro h
      rw [if_pos (hsent.2 ⟨h.fits, h.nonces⟩)]

/-! ### The answer to the handshake -/

theorem failureRaises_iff (n : Nat) :
    d.failureRaises f n = none ↔ d.handshakeFailureStreak + 1 < 1024 + n ∧ f.raises .enqueueCloud = none := by
  unfold failureRaises
  split
  case isTrue h =>
    have : ¬ d.handshakeFailureStreak + 1 < 1024 + n := by omega
    simp [this]
  case isFalse h =>
    have : d.handshakeFailureStreak + 1 < 1024 + n := by omega
    simp [this]

/-- A branch of `handle_link_sync_resp` that ends in `handle_handshake_failure`. -/
theorem SyncRespSafe.failure_iff {payload : Payload} {n : Nat} (hn : d.failureThreshold P io payload = some n)
    (hanswers : d.ignoresSyncResp io payload = false)
    (htyped : d.linkHandshakeNonce.isSome → io.throttled = false → ∀ m, payload = .message m → m.fieldNumber = 37) :
    d.failureRaises f n = none ↔ d.SyncRespSafe P io f payload := by
  rw [failureRaises_iff]
  constructor
  · rintro ⟨hstreak, hcloud⟩
    refine ⟨htyped, fun _ => hcloud, fun k hk => ?_⟩
    rw [hn] at hk
    obtain rfl := Option.some.inj hk
    exact hstreak
  · exact fun h => ⟨h.backoff n hn, h.published hanswers⟩

theorem readLinkSync_message (h : McuHost) (x : PayloadType) :
    (readLinkSync h (.message x)).isSome = true ↔ x.fieldNumber = 37 := by
  cases x <;> simp [readLinkSync, PayloadType.fieldNumber]

/-- An answer that could be read and whose nonce is another one is passed over. -/
theorem SyncRespSafe.of_ignored {payload : Payload} {expected : Bytes} {m : LinkSync}
    (hexp : d.linkHandshakeNonce = some expected) (hthrottle : io.throttled = false)
    (hread : readLinkSync io.host payload = some m) (hnonce : m.nonce ≠ expected)
    (htyped : ∀ x, payload = .message x → x.fieldNumber = 37) : d.SyncRespSafe P io f payload := by
  have hnone : d.failureThreshold P io payload = none := by
    simp [failureThreshold, hexp, hthrottle, hread, hnonce]
  have hignored : d.ignoresSyncResp io payload = true := by
    simp [ignoresSyncResp, hexp, hthrottle, hread, hnonce]
  refine ⟨fun _ _ => htyped, fun h => ?_, fun n hn => ?_⟩
  · cases hignored.symm.trans h
  · cases hnone.symm.trans hn

theorem linkSyncRespRaises_expected {payload : Payload} {m : LinkSync} (hexp : d.linkHandshakeNonce = some m.nonce)
    (hthrottle : io.throttled = false) (hread : readLinkSync io.host payload = some m)
    (htyped : ∀ x, payload = .message x → x.fieldNumber = 37) :
    d.linkSyncRespRaises P io f payload = none ↔ d.SyncRespSafe P io f payload := by
  have hanswers : d.ignoresSyncResp io payload = false := by
    simp [ignoresSyncResp, hexp, hread]
  unfold linkSyncRespRaises
  simp only [hexp, hthrottle, hread]
  rw [if_neg (by decide), if_neg (not_not.2 rfl)]
  split
  case isTrue hbad =>
    refine SyncRespSafe.failure_iff ?_ hanswers fun _ _ => htyped
    simp only [failureThreshold, hexp, hthrottle, hread]
    rw [if_neg (by decide), if_neg (not_not.2 rfl), if_pos hbad]
  case isFalse hbad =>
    have hnone : d.failureThreshold P io payload = none := by
      simp only [failureThreshold, hexp, hthrottle, hread]
      rw [if_neg (by decide), if_neg (not_not.2 rfl), if_neg hbad]
    constructor
    · refine fun h => ⟨fun _ _ => htyped, fun _ => h, fun n hn => ?_⟩
      cases hnone.symm.trans hn
    · exact fun h => h.published hanswers

theorem linkSyncRespRaises_iff (payload : Payload) :
    d.linkSyncRespRaises P io f payload = none ↔ d.SyncRespSafe P io f payload := by
  cases hexp : d.linkHandshakeNonce with
  | none =>
    simp only [linkSyncRespRaises, hexp]
    exact SyncRespSafe.failure_iff (by simp [failureThreshold, hexp]) (by simp [ignoresSyncResp, hexp]) (by simp [hexp])
  | some expected =>
    cases hthrottle : io.throttled
    case true =>
      simp only [linkSyncRespRaises, hexp, hthrottle]
      exact SyncRespSafe.failure_iff (by simp [failureThreshold, hexp, hthrottle])
        (by simp [ignoresSyncResp, hexp, hthrottle]) (by simp [hthrottle])
    case false =>
      cases hread : readLinkSync io.host payload with
      | none =>
        simp only [linkSyncRespRaises, hexp, hthrottle, hread]
        rw [if_neg (by decide)]
        cases payload with
        | message x =>
          constructor
          · intro h
            cases h
          · intro h
            have htyped := h.typed (by rw [hexp]; rfl) hthrottle x rfl
            rw [← readLinkSync_message io.host, hread] at htyped
            cases htyped
        | bytes b =>
          exact SyncRespSafe.failure_iff (by simp [failureThreshold, hexp, hthrottle, hread])
            (by simp [ignoresSyncResp, hexp, hread]) fun _ _ _ h => Payload.noConfusion h
      | some m =>
        have htyped : ∀ x, payload = .message x → x.fieldNumber = 37 := by
          rintro x rfl
          rw [← readLinkSync_message io.host, hread]
          rfl
        by_cases hnonce : m.nonce = expected
        · subst hnonce
          exact linkSyncRespRaises_expected hexp hthrottle hread htyped
        · have hnothing : d.linkSyncRespRaises P io f payload = none := by
            simp [linkSyncRespRaises, hexp, hthrottle, hread, hnonce]
          exact iff_of_true hnothing (.of_ignored hexp hthrottle hread hnonce htyped)

/-! ### The frame -/

theorem mcuFrameRaises_iff (hP : P.toCrypto.Seals) (hd : Keyed P d) (cmd : UInt32) (payload : Payload) :
    d.mcuFrameRaises P random io f cmd payload = none ↔ (d.service.serial = true →
      (d.isSynchronized || isStatusValue cmd || preSyncAllowed cmd) = true →
      if cmd = Command.linkSyncResp.toUnderlying.toUInt32 then d.SyncRespSafe P io f payload
      else (registered cmd).isSome → ∃ p, decodePayload io.host cmd.toUInt16 payload = some p ∧
        d.HandlerSafe P io f cmd.toUInt16 p) := by
  unfold mcuFrameRaises
  cases hserial : d.service.serial
  · simp
  cases hadm : d.isSynchronized || isStatusValue cmd || preSyncAllowed cmd
  · simp
  rw [if_neg (by decide), if_neg (by decide)]
  simp only [true_implies]
  split
  case isTrue => exact linkSyncRespRaises_iff payload
  case isFalse =>
    cases hreg : registered cmd with
    | none => simp
    | some handler =>
      simp only [Option.isSome_some, true_implies]
      cases hdec : decodePayload io.host cmd.toUInt16 payload with
      | none => simp
      | some p =>
        dsimp only
        rw [handlerRaises_iff hP hd hreg hadm]
        simp

/-- The anti-replay check and the correlation leave alone what the handlers depend on. -/
theorem handlerSafe_received {cmd : UInt16} {p : Payload} (c : Nat) (h : McuHost) (id : UInt32) (payload : Payload) :
    (correlateFrame h id payload { d with linkLastNonceCounter := c }).HandlerSafe P io f cmd p ↔
      d.HandlerSafe P io f cmd p := by
  constructor <;> exact fun h => ⟨h.readable, h.calls, h.fits, h.nonces, h.console⟩

theorem syncRespSafe_received (c : Nat) (h : McuHost) (id : UInt32) (payload : Payload) :
    (correlateFrame h id payload { d with linkLastNonceCounter := c }).SyncRespSafe P io f payload ↔
      d.SyncRespSafe P io f payload := by
  constructor <;> exact fun h => ⟨h.typed, h.published, h.backoff⟩

theorem packetRaises_iff (hP : P.toCrypto.Seals) (hd : Keyed P d) (env : RpcEnvelope) (payload : Payload) :
    d.packetRaises P random io f env payload = none ↔ d.FrameSafe P io f env payload := by
  unfold packetRaises FrameSafe
  split
  · exact Iff.rfl
  case isFalse hneg =>
    cases hcount : d.checkCounter env with
    | none =>
      have hstale : ¬ d.Dispatched env := fun h => by
        have hfresh := h.fresh
        rw [hcount] at hfresh
        cases hfresh
      simp [hstale]
    | some t =>
      obtain ⟨⟨c, rfl⟩, -⟩ := Reader.checkCounter_eq hcount
      have hkeyed : Keyed P (correlateFrame io.host env.commandId payload { d with linkLastNonceCounter := c }) := hd
      refine (mcuFrameRaises_iff hP hkeyed env.commandId payload).trans ?_
      rw [syncRespSafe_received]
      simp only [handlerSafe_received]
      constructor
      · exact fun h hdisp => h hdisp.serial hdisp.admitted
      · exact fun h hserial hadm => h ⟨by simpa using hneg, by rw [hcount]; rfl, hserial, hadm⟩

end Link

/-! ### Whole connections -/

theorem ReadTask.after_reading (e : Option PyExc) : ReadTask.after e = .reading ↔ e = none := by
  unfold ReadTask.after
  cases e with
  | none => simp
  | some e => cases h : e.isCaught <;> simp [h]

/-- The cleanup is skipped for the classes `_read_loop` does not catch. -/
theorem ReadTask.after_disconnects (e : PyExc) : (ReadTask.after (some e)).disconnects = e.isCaught := by
  unfold ReadTask.after
  cases h : e.isCaught <;> simp [h, ReadTask.disconnects]

namespace Connection
open Link Run
variable {P : Platform} {random : Nat → UInt32} {c : Connection}

/-- What a frame of the connection has to meet. -/
def Safe (P : Platform) (c : Connection) : ConnectionEvent → Prop
  | .packet io f env => ∀ payload, parseFrame P env c.link.sessionKey = some payload → c.link.FrameSafe P io f env payload
  | .task _ => True

theorem survives_iff_reading : c.Survives ↔ c.task = .reading :=
  ⟨fun h => h.reading, fun h => ⟨h, fun hno => absurd h hno⟩⟩

theorem finish_task (t : ReadTask) (d : Link) : (finish t d).task = t := by
  unfold finish
  split <;> rfl

theorem finish_keyed (t : ReadTask) {d : Link} (hd : Keyed P d) : Keyed P (finish t d).link := by
  unfold finish
  split
  · exact step_keyed P (fun _ => 0) d .disconnect hd
  · exact hd

theorem readPacket_keyed (io : Io) (f : Faults) (env : RpcEnvelope) (hc : Keyed P c.link) :
    Keyed P (c.readPacket P random io f env).link := by
  have hd : Keyed P (c.link.processPacket P random io env) := step_keyed P random c.link (.packet io env) hc
  unfold readPacket
  dsimp only
  split
  · exact hd
  split
  · exact hd
  · exact finish_keyed _ hd

theorem connectionStep_keyed (e : ConnectionEvent) (hc : Keyed P c.link) : Keyed P (step P random e c).link := by
  unfold step
  split
  · split
    · exact readPacket_keyed _ _ _ hc
    · exact hc
  · exact step_keyed P random c.link .connect hc
  · exact hc
  · exact step_keyed P random c.link _ hc

theorem readPacket_reading_iff (hP : P.toCrypto.Seals) (hc : Keyed P c.link) (hr : c.task = .reading) (io : Io) (f : Faults)
    (env : RpcEnvelope) : (c.readPacket P random io f env).task = .reading ↔ Safe P c (.packet io f env) := by
  unfold readPacket Safe
  dsimp only
  cases hparse : parseFrame P env c.link.sessionKey with
  | none => simp [hr]
  | some payload =>
    have hframe := @packetRaises_iff P random c.link io f hP hc env payload
    simp only [Option.some.injEq, forall_eq', ← hframe, ← ReadTask.after_reading]
    split
    case h_1 heq => simp [heq, hr]
    case h_2 t heq => simp [finish_task]

theorem step_reading_iff (hP : P.toCrypto.Seals) (e : ConnectionEvent) (hc : Keyed P c.link) (hr : c.task = .reading) :
    (step P random e c).task = .reading ↔ Safe P c e := by
  cases e with
  | packet io f env =>
    dsimp only [step]
    rw [if_pos hr]
    exact readPacket_reading_iff hP hc hr io f env
  | task e =>
    have htask : (step P random (.task e) c).task = .reading := by
      unfold step
      split
      · contradiction
      · rfl
      · exact hr
      · exact hr
    simp [htask, Safe]

/-- The daemon before its first connection. -/
def start (secret : Bytes) (timing : HandshakeConfig) (maxAttempts : Nat) (service : Service) : Connection where
  link := { sharedSecret := secret, timing := timing, maxAttempts := maxAttempts, service := service }

theorem start_keyed (secret : Bytes) (timing : HandshakeConfig) (maxAttempts : Nat) (service : Service) :
    Keyed P (start secret timing maxAttempts service).link := by
  intro hs
  cases hs

/-- In every run from the start of the daemon, the read task survives every frame, whatever the host raises,
exactly when each frame that `parse_frame` accepts is safe where it arrives. -/
theorem survives_iff_safe (hP : P.toCrypto.Seals) (random : Nat → UInt32) (secret : Bytes) (timing : HandshakeConfig)
    (maxAttempts : Nat) (service : Service) (es : List ConnectionEvent) :
    (∀ pre, pre <+: es → (run (step P random) (start secret timing maxAttempts service) pre).Survives) ↔
      Along (step P random) (Safe P) (start secret timing maxAttempts service) es := by
  have hstep : ∀ c e, (Keyed P c.link ∧ c.task = .reading) →
      ((Keyed P (step P random e c).link ∧ (step P random e c).task = .reading) ↔ Safe P c e) := by
    rintro c e ⟨hc, hr⟩
    rw [← step_reading_iff hP e hc hr, and_iff_right (connectionStep_keyed e hc)]
  have hstart : Keyed P (start secret timing maxAttempts service).link := start_keyed secret timing maxAttempts service
  rw [← reached_iff_along (I := fun c : Connection => Keyed P c.link ∧ c.task = .reading) hstep ⟨hstart, rfl⟩ es]
  have hkeyed : ∀ pre, Keyed P (run (step P random) (start secret timing maxAttempts service) pre).link := fun pre =>
    run_invariant (I := fun c : Connection => Keyed P c.link) (fun c e hc => connectionStep_keyed e hc) hstart pre
  simp only [survives_iff_reading, hkeyed, true_and]

/-! ### A session, and a frame that ends the connection -/

end Connection
end Daemon

theorem Platform.keyed_seals : Platform.keyed.toCrypto.Seals where
  key_ne_nil secret nonce := by simp [Crypto.deriveSessionKey, Platform.keyed, Platform.sample, Sample.hkdf]
  seals secret salt cmd seq {nonce plain} hnonce _ := by
    have hkey : (Platform.keyed.deriveSessionKey secret salt).length = 32 := Platform.sample_keyLength ..
    obtain ⟨c, t, henc, -⟩ := Platform.keyed_opens.seals (Platform.keyed.aad cmd seq) plain hkey hnonce
    rw [henc]
    rfl

namespace Daemon
namespace Connection
open Link Run

/-- A connected daemon gets an acknowledgment; `p` is the payload of its envelope. -/
def ackSession (p : PayloadType) : List ConnectionEvent :=
  [.task .connect,
    .packet .sample ⟨fun _ => none, fun _ => 0⟩ ⟨protocolVersion, Status.ack.toUnderlying.toUInt32, 1, [], p⟩]

/-- A handshake, and MAILBOX_READ in the session it starts: the handler sends MAILBOX_READ_RESP. -/
def mailboxSession : List ConnectionEvent :=
  let faults : Faults := ⟨fun _ => none, fun _ => 0⟩
  let nonce : Bytes := [1, 2, 3, 4, 5, 6, 7, 8, 9, 10, 11, 12, 13, 14, 15, 16]
  let key := Platform.keyed.deriveSessionKey [7] nonce
  [.task .connect, .task (.beginAttempt true nonce), .task (.sendLinkSync true),
    .packet .sample faults ⟨protocolVersion, Command.linkSyncResp.toUnderlying.toUInt32, 2, [],
      .linkSync ⟨nonce, Platform.keyed.handshakeTag [7] nonce⟩⟩,
    .task .endAttempt,
    .packet .sample faults ⟨protocolVersion, Command.mailboxRead.toUnderlying.toUInt32, 3, [77, 67, 85, 0] ++ be64 1,
      .encryptedPayloadWithTag (Sample.keyedTag key (Platform.keyed.aad Command.mailboxRead.toUnderlying.toUInt32 3))⟩]

/-- The daemon with a message for the MCU. -/
def mailboxStart : Connection := start [7] ⟨200, 5, 5000⟩ 3 { Service.sample [] with mailboxQueue := [[65]] }

/-- A session whose frames are safe. -/
theorem survives_mailboxSession :
    (run (step .keyed fun _ => 0) mailboxStart mailboxSession).Survives ∧
      (run (step .keyed fun _ => 0) mailboxStart mailboxSession).link.service.mailboxQueue = [] := by
  refine ⟨?_, by decide +kernel⟩
  refine (survives_iff_safe Platform.keyed_seals (fun _ => 0) [7] ⟨200, 5, 5000⟩ 3 _ mailboxSession).2 ?_ _ List.prefix_rfl
  refine ⟨trivial, trivial, trivial, fun payload hparse => ?_, trivial, fun payload hparse => ?_, trivial⟩
  · obtain rfl := Option.some.inj hparse
    refine fun _ => ⟨?_, fun _ => rfl, ?_⟩
    · rintro - - m ⟨⟩
      rfl
    · decide +kernel
  · obtain rfl : .bytes [] = payload := Option.some.inj (Eq.trans (by decide +kernel) hparse)
    exact fun _ _ => ⟨_, rfl, rfl, by decide +kernel, by decide +kernel, by decide +kernel, nofun⟩

/-- With the message of another command in its place, `_on_mcu_ack` raises `AttributeError`: the read task fails, and
the link is not cleaned up. -/
theorem ack_message_kills_reader :
    ¬ ∀ (P : Platform) (_ : P.toCrypto.Seals) (random : Nat → UInt32) (secret : Bytes) (timing : HandshakeConfig)
      (maxAttempts : Nat) (service : Service) (es pre : List ConnectionEvent), pre <+: es →
      (run (step P random) (start secret timing maxAttempts service) pre).Survives := by
  intro h
  have hsurvives := h .sample Platform.sample_seals (fun _ => 0) [7] ⟨200, 5, 5000⟩ 3 (.sample [])
    (ackSession (.linkSync ⟨[], []⟩)) (ackSession (.linkSync ⟨[], []⟩)) List.prefix_rfl
  have hfailed : (run (step .sample fun _ => 0) (start [7] ⟨200, 5, 5000⟩ 3 (.sample []))
      (ackSession (.linkSync ⟨[], []⟩))).task = .failed .attributeError := by decide +kernel
  rw [survives_iff_reading, hfailed] at hsurvives
  cases hsurvives

end Connection
end Daemon
end McuBridge
