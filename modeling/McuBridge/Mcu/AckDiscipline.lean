import McuBridge.Mcu.Replies

/-! # When STATUS_ACK is sent

`_preDispatch` acknowledges a frame before its payload is decoded and whatever its command is; `_dispatchCommand` does
so for STATUS_OK, and the handlers of SPI_BEGIN and SPI_END once more. A duplicate is acknowledged on the strength of
its sequence id alone. -/

namespace McuBridge

def Sent.isAck (f : Sent) : Bool := f.env.rawCommand == Status.ack.toUnderlying

/-- A STATUS_ACK fits the firmware's buffer. -/
def Platform.FramesAcks (P : Platform) : Prop := ∀ cmd seq : UInt16,
  P.serializes ⟨protocolVersion, Status.ack.toUnderlying.toUInt32, seq.toUInt32, [], .ackPacket ⟨cmd.toUInt32⟩⟩ = true

namespace Mcu
variable {P : Platform} {s t u : Mcu}

/-- The STATUS_ACK frames put on the wire from `s` to `t`. -/
def acksSent (s t : Mcu) : Nat := (t.wire.drop s.wire.length).countP Sent.isAck

def isStatus (cmd : UInt16) : Prop := ∃ st : Status, st.toUnderlying = cmd

/-- From `s` to `t` a frame is acknowledged at most once, only where its handler ran, now or for the frame it is a
duplicate of, and not if it is a status or a flow-control command. -/
structure Disciplined (cmd seq : UInt16) (duplicate : Bool) (s t : Mcu) : Prop where
  once : acksSent s t ≤ 1
  justified : acksSent s t ≠ 0 →
    t.handled = s.handled ++ [(cmd, seq)] ∨ duplicate = true ∧ (cmd, seq) ∈ s.handled
  excluded : isStatus cmd ∨ cmd = Command.xoff.toUnderlying ∨ cmd = Command.xon.toUnderlying → acksSent s t = 0

variable (P) in
/-- The discipline for one received frame; one that `parse_frame` rejects is not acknowledged. -/
def AckDiscipline (hal : Hal) (s : Mcu) : Option RpcEnvelope → Prop
  | none => acksSent s (step P (.recv hal none) s) = 0
  | some env => Disciplined env.rawCommand env.sequenceId.toUInt16 (s.isDuplicate env) s
      (step P (.recv hal (some env)) s)

/-- The commands that are acknowledged and must not be. -/
def neverAcked : List UInt16 :=
  [Status.ok.toUnderlying, Status.ack.toUnderlying, Command.xoff.toUnderlying, Command.xon.toUnderlying]

variable (P) in
/-- The command is none of those, and where its entry acknowledges, the frame is a duplicate of one whose handler ran,
or it is new, its payload decodes, and its handler does not acknowledge again. -/
def AckedRightly (s : Mcu) (cmd seq : UInt16) (duplicate : Bool) (p : PayloadType) : Prop :=
  cmd ∉ neverAcked ∧ ∀ decodes, (ackedMessages P).lookup cmd = some decodes →
    if duplicate then (cmd, seq) ∈ s.handled else decodes p = true ∧ acksAgain cmd = false

/-! ### Counting -/

def NotAck (cmd : UInt16) : Prop := cmd ≠ Status.ack.toUnderlying

theorem replies_notAck : ∀ c ∈ replyCommands, NotAck c := by
  have hall : replyCommands.all (· != Status.ack.toUnderlying) = true := by decide
  exact fun c hc => bne_iff_ne.1 (List.all_eq_true.1 hall c hc)

/-- `n` of the frames put on the wire from `s` to `t` are STATUS_ACK, given that none is queued. -/
structure Acks (n : Nat) (s t : Mcu) : Prop where
  queue : Queued NotAck s → Queued NotAck t
  wire : Queued NotAck s → ∃ fs, t.wire = s.wire ++ fs ∧ fs.countP Sent.isAck = n

theorem Puts.acks (h : Puts NotAck s t) : Acks 0 s t := by
  refine ⟨h.queue, fun hs => ?_⟩
  obtain ⟨fs, hfs, hA⟩ := h.wire hs
  refine ⟨fs, hfs, List.countP_eq_zero.2 fun f hf hack => hA f hf ?_⟩
  exact beq_iff_eq.1 hack

theorem Acks.trans {m n : Nat} (h : Acks m s t) (h' : Acks n t u) : Acks (m + n) s u := by
  refine ⟨fun hs => h'.queue (h.queue hs), fun hs => ?_⟩
  obtain ⟨fs, hfs, hm⟩ := h.wire hs
  obtain ⟨gs, hgs, hn⟩ := h'.wire (h.queue hs)
  exact ⟨fs ++ gs, by rw [hgs, hfs, List.append_assoc], by rw [List.countP_append, hm, hn]⟩

theorem Acks.sent {n : Nat} (h : Acks n s t) (hs : Queued NotAck s) : acksSent s t = n := by
  obtain ⟨fs, hfs, hn⟩ := h.wire hs
  rw [acksSent, hfs, List.drop_left, hn]

theorem processAck_acks (hP : P.FramesAcks) (cmd seq : UInt16) (s : Mcu) :
    Acks 1 s (s.processAck P cmd seq) ∧ (s.processAck P cmd seq).handled = s.handled := by
  have heq : s.processAck P cmd seq = { s with wire := s.wire ++
      [⟨⟨protocolVersion, Status.ack.toUnderlying.toUInt32, seq.toUInt32, [], .ackPacket ⟨cmd.toUInt32⟩⟩, none, none⟩] } := by
    unfold processAck sendStatus sendSinglePass sendFrameRaw serializeAndSend
    rw [if_neg (by rw [isSystemCommand_status]; simp), hP cmd seq, if_pos rfl]
  rw [heq]
  exact ⟨⟨id, fun _ => ⟨_, rfl, rfl⟩⟩, rfl⟩

/-! ### The table -/

/-- What an entry does with a frame: `n` acknowledgments, and its handler ran or did not. -/
structure Outcome (ctx : CommandContext) (n : Nat) (ran : Bool) (s t : Mcu) : Prop where
  acks : Acks n s t
  handled : t.handled = if ran then s.handled ++ [(ctx.rawCommand, ctx.sequenceId)] else s.handled

theorem outcome_duplicate (hP : P.FramesAcks) (ctx : CommandContext) (s : Mcu) :
    Outcome ctx 1 false s (s.processAck P ctx.rawCommand ctx.sequenceId) :=
  ⟨(processAck_acks hP _ _ s).1, (processAck_acks hP _ _ s).2⟩

/-- The acknowledgment, then the handler. -/
theorem outcome_fresh (hP : P.FramesAcks) (ctx : CommandContext) {n : Nat}
    (hacks : Acks n ((s.processAck P ctx.rawCommand ctx.sequenceId).handle ctx) t)
    (hhandled : t.handled = ((s.processAck P ctx.rawCommand ctx.sequenceId).handle ctx).handled) :
    Outcome ctx (1 + n) true s t := by
  obtain ⟨hack, hsame⟩ := processAck_acks hP ctx.rawCommand ctx.sequenceId s
  refine ⟨hack.trans ?_, ?_⟩
  · have hhandle : Acks 0 (s.processAck P ctx.rawCommand ctx.sequenceId)
        ((s.processAck P ctx.rawCommand ctx.sequenceId).handle ctx) := (handle_puts ctx _).acks
    simpa using hhandle.trans hacks
  · rw [hhandled, if_pos rfl]
    show (s.processAck P ctx.rawCommand ctx.sequenceId).handled ++ _ = _
    rw [hsame]

theorem dispatchCmd_outcome {M : Type} (hP : P.FramesAcks) (d : PbMessage M) {handler : CommandContext → M → Mcu → Mcu}
    (ctx : CommandContext) (hh : ∀ m t, Says NotAck t (handler ctx m t)) (s : Mcu) :
    Outcome ctx 1 (!ctx.isDuplicate && (d.read P ctx.envelope.payloadType).isSome) s
      (s.dispatchCmd P d handler ctx true false) := by
  cases hd : ctx.isDuplicate with
  | true =>
    have heq : s.dispatchCmd P d handler ctx true false = s.processAck P ctx.rawCommand ctx.sequenceId := by
      simp [dispatchCmd, preDispatch, hd]
    rw [heq]
    exact outcome_duplicate hP ctx s
  | false =>
    cases hm : d.read P ctx.envelope.payloadType with
    | none =>
      have heq : s.dispatchCmd P d handler ctx true false =
          (s.processAck P ctx.rawCommand ctx.sequenceId).emitStatus P .malformed none := by
        simp [dispatchCmd, preDispatch, hd, hm]
      have hmal := malformed_sends (P := P) replies_notAck (s.processAck P ctx.rawCommand ctx.sequenceId)
      rw [heq]
      exact ⟨(processAck_acks hP _ _ s).1.trans hmal.acks, hmal.handled.trans (processAck_acks hP _ _ s).2⟩
    | some m =>
      rw [dispatchCmd_fresh P s handler hd hm]
      exact outcome_fresh hP ctx (hh m _).acks (hh m _).handled

theorem dispatchNoPayload_outcome (hP : P.FramesAcks) {handler : CommandContext → Mcu → Mcu} (ctx : CommandContext)
    {n : Nat} (hh : ∀ t, Acks n t (handler ctx t) ∧ (handler ctx t).handled = t.handled) (s : Mcu) :
    Outcome ctx (if ctx.isDuplicate then 1 else 1 + n) (!ctx.isDuplicate) s
      (s.dispatchNoPayload P handler ctx true false) := by
  cases hd : ctx.isDuplicate with
  | true =>
    have heq : s.dispatchNoPayload P handler ctx true false = s.processAck P ctx.rawCommand ctx.sequenceId := by
      simp [dispatchNoPayload, preDispatch, hd]
    rw [heq]
    exact outcome_duplicate hP ctx s
  | false =>
    rw [dispatchNoPayload_fresh P s handler hd]
    exact outcome_fresh hP ctx (hh _).1 (hh _).2

theorem Entry.outcome (hP : P.FramesAcks) {cmd : UInt16} {h : Handler} (he : Entry P cmd h)
    {decodes : PayloadType → Bool} (hlookup : (ackedMessages P).lookup cmd = some decodes) (hal : Hal)
    (ctx : CommandContext) (s : Mcu) :
    Outcome ctx (if !ctx.isDuplicate && acksAgain cmd then 2 else 1)
      (!ctx.isDuplicate && decodes ctx.envelope.payloadType) s (h hal ctx s) := by
  cases he with
  | acked d hack honce hf =>
    obtain rfl := Option.some.inj (hack.symm.trans hlookup)
    rw [honce, Bool.and_false, if_neg Bool.false_ne_true]
    exact dispatchCmd_outcome hP d ctx (fun m t => hf NotAck replies_notAck hal ctx m t) s
  | ackedEmpty hack honce hf =>
    obtain rfl := Option.some.inj (hack.symm.trans hlookup)
    have hout := dispatchNoPayload_outcome hP ctx
      (fun t => ⟨(hf NotAck replies_notAck ctx t).acks, (hf NotAck replies_notAck ctx t).handled⟩) s
    rw [honce, Bool.and_false, if_neg Bool.false_ne_true, Bool.and_true]
    simpa using hout
  | @ackedTwice _ f hack htwice hf =>
    obtain rfl := Option.some.inj (hack.symm.trans hlookup)
    have hh (t : Mcu) : Acks 1 t ((f t).processAck P ctx.rawCommand ctx.sequenceId) ∧
        ((f t).processAck P ctx.rawCommand ctx.sequenceId).handled = t.handled := by
      obtain ⟨hack, hsame⟩ := processAck_acks hP ctx.rawCommand ctx.sequenceId (f t)
      refine ⟨?_, hsame.trans (hf NotAck t).handled⟩
      simpa using (hf NotAck t).acks.trans hack
    have hout : Outcome ctx (if ctx.isDuplicate then 1 else 1 + 1) (!ctx.isDuplicate) s
        (s.dispatchNoPayload P (fun ctx t => (f t).processAck P ctx.rawCommand ctx.sequenceId) ctx true false) :=
      dispatchNoPayload_outcome hP ctx hh s
    rw [htwice, Bool.and_true]
    cases hd : ctx.isDuplicate with
    | true => simpa [hd] using hout
    | false => simpa [hd] using hout
  | query d hack => rw [hack] at hlookup; cases hlookup
  | queryEmpty hack => rw [hack] at hlookup; cases hlookup
  | response d hack => rw [hack] at hlookup; cases hlookup

theorem Entry.outcome_none {cmd : UInt16} {h : Handler} (he : Entry P cmd h)
    (hlookup : (ackedMessages P).lookup cmd = none) (hal : Hal) (ctx : CommandContext) (s : Mcu) :
    Acks 0 s (h hal ctx s) :=
  (he.puts replies_notAck (fun h => absurd hlookup h) hal ctx s).acks

theorem acked_found {cmd : UInt16} {decodes : PayloadType → Bool} (hlookup : (ackedMessages P).lookup cmd = some decodes) :
    ∃ h, findHandler (kDispatchTable P) cmd = some h := by
  have hboth : (ackedMessages P ++ queryMessages P).lookup cmd = some decodes := by
    rw [List.lookup_append, hlookup]
    rfl
  exact checked_found hboth

/-! ### The law -/

theorem Disciplined.of_zero {cmd seq : UInt16} {duplicate : Bool} (h : acksSent s t = 0) :
    Disciplined cmd seq duplicate s t :=
  ⟨by omega, fun hne => absurd h hne, fun _ => h⟩

theorem Acks.disciplined {cmd seq : UInt16} {duplicate : Bool} (h : Acks 0 s t) (hs : Queued NotAck s) :
    Disciplined cmd seq duplicate s t :=
  .of_zero (h.sent hs)

/-- Of the status codes only STATUS_ACK has an entry. -/
theorem lookup_status {cmd : UInt16} {decodes : PayloadType → Bool}
    (hlookup : (ackedMessages P).lookup cmd = some decodes) (hstatus : isStatus cmd) : cmd = Status.ack.toUnderlying := by
  obtain ⟨st, rfl⟩ := hstatus
  cases st with
  | ack => rfl
  | _ => cases hlookup

theorem Outcome.disciplined_iff {ctx : CommandContext} {again dec : Bool}
    (h : Outcome ctx (if !ctx.isDuplicate && again then 2 else 1) (!ctx.isDuplicate && dec) s t) (hs : Queued NotAck s)
    (hstatus : isStatus ctx.rawCommand → ctx.rawCommand ∈ neverAcked) :
    Disciplined ctx.rawCommand ctx.sequenceId ctx.isDuplicate s t ↔ ctx.rawCommand ∉ neverAcked ∧
      if ctx.isDuplicate then (ctx.rawCommand, ctx.sequenceId) ∈ s.handled else dec = true ∧ again = false := by
  have hn := h.acks.sent hs
  have hhandled := h.handled
  have hpos : acksSent s t ≠ 0 := by
    rw [hn]
    split <;> omega
  constructor
  · intro hd
    refine ⟨fun hmem => ?_, ?_⟩
    · -- every command of the list is acknowledged
      refine hpos (hd.excluded ?_)
      simp only [neverAcked, List.mem_cons, List.not_mem_nil, or_false] at hmem
      rcases hmem with h | h | h | h
      · exact .inl ⟨.ok, h.symm⟩
      · exact .inl ⟨.ack, h.symm⟩
      · exact .inr (.inl h)
      · exact .inr (.inr h)
    · have honce := hd.once
      rw [hn] at honce
      cases hdup : ctx.isDuplicate with
      | true =>
        rw [hdup, Bool.not_true, Bool.false_and, if_neg Bool.false_ne_true] at hhandled
        rcases hd.justified hpos with hran | ⟨-, hmem⟩
        · rw [hhandled] at hran
          simp at hran
        · exact hmem
      | false =>
        rw [hdup, Bool.not_false, Bool.true_and] at hhandled honce
        refine ⟨?_, ?_⟩
        · cases hdec : dec with
          | true => rfl
          | false =>
            rw [hdec, if_neg Bool.false_ne_true] at hhandled
            rcases hd.justified hpos with hran | ⟨hdup', -⟩
            · rw [hhandled] at hran
              simp at hran
            · rw [hdup] at hdup'
              cases hdup'
        · cases hagain : again with
          | false => rfl
          | true => simp [hagain] at honce
  · rintro ⟨hnever, hright⟩
    refine ⟨?_, fun _ => ?_, fun hcmd => ?_⟩
    · rw [hn]
      cases hdup : ctx.isDuplicate with
      | true => simp
      | false =>
        rw [hdup, if_neg Bool.false_ne_true] at hright
        simp [hright.2]
    · cases hdup : ctx.isDuplicate with
      | true =>
        rw [hdup, if_pos rfl] at hright
        exact .inr ⟨rfl, hright⟩
      | false =>
        rw [hdup, if_neg Bool.false_ne_true] at hright
        rw [hdup, hright.1, Bool.not_false, Bool.true_and, if_pos rfl] at hhandled
        exact .inl hhandled
    · refine absurd ?_ hnever
      rcases hcmd with h | h | h
      · exact hstatus h
      · simp [neverAcked, h]
      · simp [neverAcked, h]

theorem dispatchContext_disciplined_iff (hP : P.FramesAcks) (hs : Queued NotAck s) (hal : Hal) (ctx : CommandContext) :
    Disciplined ctx.rawCommand ctx.sequenceId ctx.isDuplicate s (s.dispatchContext P hal ctx) ↔
      (s.isSecurityCheckPassed ctx.rawCommand = true →
        AckedRightly P s ctx.rawCommand ctx.sequenceId ctx.isDuplicate ctx.envelope.payloadType) := by
  unfold dispatchContext
  by_cases hsec : s.isSecurityCheckPassed ctx.rawCommand = true
  case neg =>
    rw [if_pos (by simpa using hsec)]
    have herror : NotAck Status.error.toUnderlying := replies_notAck _ (by decide)
    have hsend := sendFrame_sends (P := P) herror ctx.sequenceId [] s
    exact iff_of_true (hsend.acks.disciplined hs) fun h => absurd h hsec
  rw [if_neg (by simpa using hsec), iff_true_intro hsec, true_imp_iff]
  split
  case isTrue hok =>
    -- STATUS_OK is acknowledged
    refine iff_of_false (fun hd => ?_) fun hright => hright.1 (by rw [hok]; decide)
    have hone := (processAck_acks hP ctx.rawCommand ctx.sequenceId s).1.sent hs
    rw [hd.excluded (.inl ⟨.ok, hok.symm⟩)] at hone
    cases hone
  split
  case isTrue hmal =>
    refine iff_of_true ((enterSafeState_sends s).acks.disciplined hs) ⟨by rw [hmal]; decide, fun decodes hlookup => ?_⟩
    rw [hmal] at hlookup
    cases hlookup
  case isFalse hok hmal =>
    cases hlookup : (ackedMessages P).lookup ctx.rawCommand with
    | some decodes =>
      obtain ⟨h, hfind⟩ := acked_found hlookup
      rw [hfind]
      have hout := (kDispatchTable_entry P _ (findHandler_mem hfind)).outcome hP hlookup hal ctx s
      refine (hout.disciplined_iff hs fun hstatus => ?_).trans ?_
      · rw [lookup_status hlookup hstatus]
        decide
      · unfold AckedRightly
        simp [hlookup]
    | none =>
      refine iff_of_true ?_ ⟨fun hmem => ?_, fun decodes h => by rw [hlookup] at h; cases h⟩
      · split
        case h_1 h hfind =>
          exact ((kDispatchTable_entry P _ (findHandler_mem hfind)).outcome_none hlookup hal ctx s).disciplined hs
        case h_2 => exact (onUnknownCommand_puts replies_notAck ctx s).acks.disciplined hs
      · simp only [neverAcked, List.mem_cons, List.not_mem_nil, or_false] at hmem
        rcases hmem with h | h | h | h
        · exact hok h
        all_goals
          rw [h] at hlookup
          cases hlookup

/-- The history update and the accepted counter change nothing the law speaks of. -/
theorem disciplined_congr {cmd seq : UInt16} {duplicate : Bool} (hw : u.wire = s.wire) (hh : u.handled = s.handled) :
    Disciplined cmd seq duplicate s t ↔ Disciplined cmd seq duplicate u t := by
  have hacks : acksSent u t = acksSent s t := by rw [acksSent, hw, acksSent]
  constructor
  · rintro ⟨h1, h2, h3⟩
    exact ⟨hacks ▸ h1, hacks.symm ▸ hh.symm ▸ h2, hacks.symm ▸ h3⟩
  · rintro ⟨h1, h2, h3⟩
    exact ⟨hacks ▸ h1, hacks ▸ hh ▸ h2, hacks ▸ h3⟩

theorem dispatchCommand_disciplined_iff (hP : P.FramesAcks) (hs : Queued NotAck s) (hal : Hal) (env : RpcEnvelope) :
    Disciplined env.rawCommand env.sequenceId.toUInt16 (s.isDuplicate env) s (s.dispatchCommand P hal env) ↔
      (s.isSecurityCheckPassed env.rawCommand = true →
        AckedRightly P s env.rawCommand env.sequenceId.toUInt16 (s.isDuplicate env) env.payloadType) := by
  by_cases hd : s.isDuplicate env = true
  · rw [dispatchCommand_duplicate P s hal hd]
    exact dispatchContext_disciplined_iff hP hs hal (s.commandContext env)
  · rw [dispatchCommand_fresh P s hal (Bool.eq_false_iff.2 hd)]
    refine (disciplined_congr (s := s) (u := s.pushHistory env.sequenceId.toUInt16) rfl rfl).trans ?_
    exact dispatchContext_disciplined_iff hP (s := s.pushHistory env.sequenceId.toUInt16) hs hal (s.commandContext env)

theorem handleReceivedFrame_disciplined_iff (hP : P.FramesAcks) (hs : Queued NotAck s) (hal : Hal)
    (res : Option RpcEnvelope) :
    AckDiscipline P hal s res ↔ ∀ env d, res = some env → s.dispatched P env = some d →
      s.isSecurityCheckPassed env.rawCommand = true →
        AckedRightly P s env.rawCommand env.sequenceId.toUInt16 (s.isDuplicate env) d.payloadType := by
  cases res with
  | none =>
    refine iff_of_true ?_ fun env d h => by cases h
    exact (malformed_sends replies_notAck s).acks.sent hs
  | some env =>
    have hsplit : AckDiscipline P hal s (some env) ↔
        (∀ d, s.dispatched P env = some d → s.isSecurityCheckPassed env.rawCommand = true →
          AckedRightly P s env.rawCommand env.sequenceId.toUInt16 (s.isDuplicate env) d.payloadType) := by
      show Disciplined _ _ _ s (s.handleReceivedFrame P hal (some env)) ↔ _
      unfold handleReceivedFrame dispatched
      dsimp only
      split
      case isTrue hdec =>
        cases hplain : s.decryptFrame P env with
        | none =>
          exact iff_of_true ((error_sends replies_notAck s).acks.disciplined hs) fun d h => by cases h
        | some r =>
          obtain ⟨c, plain⟩ := r
          rw [Option.map_some]
          simp only [Option.some.injEq, forall_eq']
          refine (disciplined_congr (s := s) (u := s.acceptCounter c) rfl rfl).trans ?_
          exact dispatchCommand_disciplined_iff hP (s := s.acceptCounter c) hs hal
            { env with payloadType := P.encryptedStore env.payloadType plain }
      case isFalse =>
        simp only [Option.some.injEq, forall_eq']
        exact dispatchCommand_disciplined_iff hP hs hal env
    rw [hsplit]
    constructor
    · intro h env' d heq
      cases heq
      exact h d
    · exact fun h d => h env d rfl

/-- In every reachable state, the ACK of a received frame keeps the discipline exactly if the frame does not get to its
table entry or is acknowledged rightly there. -/
theorem ack_discipline_iff (P : Platform) (hP : P.FramesAcks) (secret : Bytes) (postOk : Bool) (evs : List McuEvent)
    (hal : Hal) (res : Option RpcEnvelope) :
    AckDiscipline P hal (runFrom P secret postOk evs) res ↔ ∀ env d, res = some env →
      (runFrom P secret postOk evs).dispatched P env = some d →
      (runFrom P secret postOk evs).isSecurityCheckPassed env.rawCommand = true →
        AckedRightly P (runFrom P secret postOk evs) env.rawCommand env.sequenceId.toUInt16
          ((runFrom P secret postOk evs).isDuplicate env) d.payloadType := by
  refine handleReceivedFrame_disciplined_iff hP (fun g hg hack => ?_) hal res
  have hreq := queued_requiresAck secret postOk evs g hg
  rw [hack, requiresAck_status] at hreq
  cases hreq

/-- A SET_BAUDRATE is acknowledged once, and its handler runs. -/
theorem ack_discipline_baudrate :
    AckDiscipline .sample .sample (runFrom .sample [7] true [])
      (some ⟨protocolVersion, Command.setBaudrate.toUnderlying.toUInt32, 5, [], .setBaudratePacket 57600⟩) := by
  refine (ack_discipline_iff .sample (fun _ _ => rfl) [7] true [] .sample _).2 fun env d henv hd _ => ?_
  cases henv
  cases hd
  refine ⟨by decide, fun decodes hlookup => ?_⟩
  cases hlookup
  decide +kernel

/-- On a link without secret: a CONSOLE_WRITE that does not decode is acknowledged and no handler runs, a STATUS_ACK is
acknowledged, and a SPI_BEGIN is acknowledged twice. -/
theorem undecoded_and_status_acked :
    ¬ AckDiscipline .sample .sample (runFrom .sample [] true [])
        (some ⟨protocolVersion, Command.consoleWrite.toUnderlying.toUInt32, 1, [], .encryptedPayloadWithTag [255]⟩) ∧
      ¬ AckDiscipline .sample .sample (runFrom .sample [] true [])
        (some ⟨protocolVersion, Status.ack.toUnderlying.toUInt32, 1, [], .ackPacket ⟨96⟩⟩) ∧
      ¬ AckDiscipline .sample .sample (runFrom .sample [] true [])
        (some ⟨protocolVersion, Command.spiBegin.toUnderlying.toUInt32, 1, [], .encryptedPayloadWithTag []⟩) := by
  refine ⟨fun h => ?_, fun h => ?_, fun h => ?_⟩
  · exact absurd (h.justified (by decide +kernel)) (by decide +kernel)
  · exact absurd (h.excluded (.inl ⟨.ack, rfl⟩)) (by decide +kernel)
  · exact absurd h.once (by decide +kernel)

end Mcu
end McuBridge
