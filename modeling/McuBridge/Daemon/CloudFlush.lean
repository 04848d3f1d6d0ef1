import McuBridge.Daemon.CloudSpool

/-! # Flushing the spool

With a database that raises no errors, the flush publishes the decodable entries in order and stops before the first
one whose publish fails; undecodable entries on the way are dropped and counted. -/

namespace McuBridge
namespace Daemon

/-- No SQLite statement fails. -/
def CloudIo.FaultFree (E : CloudIo) : Prop := ∀ i, (E.database i).first = .ok

/-- The entries that decode, with their messages. -/
def CloudIo.decoded (E : CloudIo) (entries : List SpoolEntry) : List (SpoolEntry × CloudQueuedPublish) :=
  entries.filterMap fun entry => (E.decode entry.bytes).map (entry, ·)

/-- The entries that do not. -/
def CloudIo.corrupt (E : CloudIo) (entries : List SpoolEntry) : List SpoolEntry :=
  entries.filter fun entry => (E.decode entry.bytes).isNone

namespace Cloud
variable (E : CloudIo)

/-- What no call under the lock changes. -/
structure Frame (c t : Cloud) : Prop where
  waiting : t.waiting = c.waiting
  tickets : t.tickets = c.tickets
  deviceId : t.deviceId = c.deviceId
  hasSpool : t.hasSpool = c.hasSpool
  cloudQueueLimit : t.cloudQueueLimit = c.cloudQueueLimit

theorem Frame.refl (c : Cloud) : Frame c c := ⟨rfl, rfl, rfl, rfl, rfl⟩

theorem Frame.after {c t u : Cloud} (h' : Frame t u) (h : Frame c t) : Frame c u :=
  ⟨h'.waiting.trans h.waiting, h'.tickets.trans h.tickets, h'.deviceId.trans h.deviceId, h'.hasSpool.trans h.hasSpool,
    h'.cloudQueueLimit.trans h.cloudQueueLimit⟩

/-- The entries of `consumed` are taken from the front of the spool: those that decode are published, the others
counted. -/
structure Consumed (c t : Cloud) (consumed rest : List SpoolEntry) : Prop where
  frame : Frame c t
  split : c.spool.rows = consumed ++ rest
  spool : t.spool = ⟨rest, rest.length, c.spool.maxlen⟩
  sends : ∃ new, t.sends = c.sends ++ new ∧ new.map (fun s => (s.envelope, s.ticket, s.direct)) =
    (E.decoded consumed).map fun x => (cloudEnvelope c.deviceId x.2, x.1.ticket, false)
  corruptDropped : t.cloudSpoolCorruptDropped = c.cloudSpoolCorruptDropped + (E.corrupt consumed).length
  counted : t.counted = c.counted ++ (E.corrupt consumed).map fun entry => (entry.ticket, .spoolCorruptDropped)
  sent : ∀ i < (E.decoded consumed).length, E.stream (c.publishes + i) = .sent

/-- Where the loop ends: the spool is empty, or its first entry decodes and the publish after those of `consumed`
failed; `raises` says that it raised. -/
inductive Stops (c t : Cloud) (consumed : List SpoolEntry) : List SpoolEntry → Bool → Prop
  | empty (h : t.publishes = c.publishes + (E.decoded consumed).length) : Stops c t consumed [] false
  | failed {entry : SpoolEntry} {tail : List SpoolEntry} {m : CloudQueuedPublish}
      (hdecode : E.decode entry.bytes = some m)
      (h : t.publishes = c.publishes + (E.decoded consumed).length + 1)
      (hfail : E.stream (c.publishes + (E.decoded consumed).length) ≠ .sent) :
      Stops c t consumed (entry :: tail) (E.stream (c.publishes + (E.decoded consumed).length) == .raised)

variable {E} {c : Cloud}

/-! ### One use of the spool -/

theorem execute_ok {β : Type} {use : SpoolUse} (hE : E.FaultFree)
    (func : SqliteDeque SpoolEntry → Option (β × SqliteDeque SpoolEntry)) (c : Cloud) :
    c.execute E use func = match func c.spool with
      | none => ({ c with databaseCalls := c.databaseCalls + 1 }, .error .index)
      | some (b, q) => ({ c with spool := q, databaseCalls := c.databaseCalls + 1 }, .ok b) := by
  unfold execute
  dsimp only
  rw [SqliteDeque.execute_ok (hE _), if_pos (hE _)]
  cases func c.spool <;> rfl

theorem popleft_ok {use : SpoolUse} (hE : E.FaultFree) {entry : SpoolEntry} {rest : List SpoolEntry} {m : Option Nat}
    (h : c.spool = ⟨entry :: rest, rest.length + 1, m⟩) :
    c.execute E use SqliteDeque.popleftImpl =
      ({ c with spool := ⟨rest, rest.length, m⟩, databaseCalls := c.databaseCalls + 1 }, .ok entry) := by
  rw [execute_ok hE, h]
  rfl

theorem peek_ok (hE : E.FaultFree) {entry : SpoolEntry} {rest : List SpoolEntry} (h : c.spool.rows = entry :: rest) :
    c.execute E .peek SqliteDeque.peekImpl = ({ c with databaseCalls := c.databaseCalls + 1 }, .ok entry) := by
  rw [execute_ok hE]
  unfold SqliteDeque.peekImpl
  rw [h]
  rfl

/-! ### One use of the stream -/

theorem publishCloudMessage_sent (h : E.stream c.publishes = .sent) (direct : Bool) (m : CloudQueuedPublish)
    (ticket : Nat) :
    c.publishCloudMessage E true direct m ticket = ({ c with
      publishes := c.publishes + 1
      sends := c.sends ++ [⟨cloudEnvelope c.deviceId m, ticket, direct, c.spool.rows.map SpoolEntry.ticket⟩] },
      .published) := by
  unfold publishCloudMessage
  rw [if_neg (by simp)]
  dsimp only
  rw [h]

theorem publishCloudMessage_not_sent (h : E.stream c.publishes ≠ .sent) (direct : Bool) (m : CloudQueuedPublish)
    (ticket : Nat) :
    c.publishCloudMessage E true direct m ticket =
      ({ c with publishes := c.publishes + 1 }, if E.stream c.publishes = .raised then .raised else .failed) := by
  unfold publishCloudMessage
  rw [if_neg (by simp)]
  dsimp only
  cases hout : E.stream c.publishes with
  | sent => exact absurd hout h
  | gone | caught | raised => rfl

/-! ### The trimming loop -/

theorem trimLoop_below (h : ¬ c.cloudQueueLimit ≤ c.spool.length) : c.trimLoop E = c := by
  rw [trimLoop, if_neg h]

theorem trimLoop_popped {t : Cloud} {entry : SpoolEntry} (hfull : c.cloudQueueLimit ≤ c.spool.length)
    (h : c.execute E .popTrim SqliteDeque.popleftImpl = (t, .ok entry)) :
    c.trimLoop E = (t.count .spoolDroppedLimit entry.ticket).trimLoop E := by
  rw [trimLoop, if_pos hfull]
  split
  case h_1 u x hu =>
    cases hu.symm.trans h
    rfl
  case h_2 u x hu => cases hu.symm.trans h

theorem trimLoop_error {t : Cloud} {e : DbError} (hfull : c.cloudQueueLimit ≤ c.spool.length)
    (h : c.execute E .popTrim SqliteDeque.popleftImpl = (t, .error e)) : c.trimLoop E = t := by
  rw [trimLoop, if_pos hfull]
  split
  case h_1 u x hu => cases hu.symm.trans h
  case h_2 u x hu =>
    cases hu.symm.trans h
    rfl

/-! ### The loop -/

theorem flushLoop_zero (h : c.spool.length = 0) : c.flushLoop E = (c, false) := by
  rw [flushLoop, dif_pos h]

theorem flushLoop_again {t : Cloud} (hlen : c.spool.length ≠ 0) (h : c.flushStep E = (t, .again)) :
    c.flushLoop E = t.flushLoop E := by
  rw [flushLoop, dif_neg hlen]
  split
  case h_1 u hu =>
    cases hu.symm.trans h
    rfl
  case h_2 u hu => cases hu.symm.trans h
  case h_3 u hu => cases hu.symm.trans h

theorem flushLoop_leaves {t : Cloud} (hlen : c.spool.length ≠ 0) (h : c.flushStep E = (t, .leaves)) :
    c.flushLoop E = (t, false) := by
  rw [flushLoop, dif_neg hlen]
  split
  case h_1 u hu => cases hu.symm.trans h
  case h_2 u hu =>
    cases hu.symm.trans h
    rfl
  case h_3 u hu => cases hu.symm.trans h

theorem flushLoop_raises {t : Cloud} (hlen : c.spool.length ≠ 0) (h : c.flushStep E = (t, .raises)) :
    c.flushLoop E = (t, true) := by
  rw [flushLoop, dif_neg hlen]
  split
  case h_1 u hu => cases hu.symm.trans h
  case h_2 u hu => cases hu.symm.trans h
  case h_3 u hu =>
    cases hu.symm.trans h
    rfl

/-- The state after an undecodable entry is dropped. -/
theorem flushStep_corrupt (hE : E.FaultFree) {entry : SpoolEntry} {rest : List SpoolEntry} {m : Option Nat}
    (h : c.spool = ⟨entry :: rest, rest.length + 1, m⟩) (hdecode : E.decode entry.bytes = none) :
    c.flushStep E = (({ c with spool := ⟨rest, rest.length, m⟩, databaseCalls := c.databaseCalls + 2 } : Cloud).count
      .spoolCorruptDropped entry.ticket, .again) := by
  unfold flushStep
  rw [peek_ok hE (by rw [h])]
  dsimp only
  rw [hdecode]
  dsimp only
  unfold dropCorrupt
  rw [popleft_ok hE (by rw [h])]
  simp [h]

theorem publishEntry_sent (hE : E.FaultFree) {entry : SpoolEntry} {rest : List SpoolEntry} {m : Option Nat}
    (h : c.spool = ⟨entry :: rest, rest.length + 1, m⟩) (hsent : E.stream c.publishes = .sent)
    (queued : CloudQueuedPublish) :
    c.publishEntry E entry queued = ({ c with
      spool := ⟨rest, rest.length, m⟩, publishes := c.publishes + 1, databaseCalls := c.databaseCalls + 1
      sends := c.sends ++ [⟨cloudEnvelope c.deviceId queued, entry.ticket, false,
        c.spool.rows.map SpoolEntry.ticket⟩] }, .again) := by
  unfold publishEntry
  rw [publishCloudMessage_sent hsent]
  dsimp only
  rw [popleft_ok hE (by exact h)]

theorem publishEntry_not_sent (h : E.stream c.publishes ≠ .sent) (entry : SpoolEntry) (queued : CloudQueuedPublish) :
    c.publishEntry E entry queued =
      ({ c with publishes := c.publishes + 1 }, if E.stream c.publishes = .raised then .raises else .leaves) := by
  unfold publishEntry
  rw [publishCloudMessage_not_sent h]
  by_cases hraised : E.stream c.publishes = .raised
  · rw [if_pos hraised, if_pos hraised]
  · rw [if_neg hraised, if_neg hraised]

/-- A decodable entry is published and removed, or the loop ends with the entry still there. -/
theorem flushStep_decoded (hE : E.FaultFree) {entry : SpoolEntry} {rest : List SpoolEntry} {m : Option Nat}
    {queued : CloudQueuedPublish} (h : c.spool = ⟨entry :: rest, rest.length + 1, m⟩)
    (hdecode : E.decode entry.bytes = some queued) :
    (E.stream c.publishes = .sent ∧ c.flushStep E = (({ c with
        spool := ⟨rest, rest.length, m⟩, publishes := c.publishes + 1, databaseCalls := c.databaseCalls + 2
        sends := c.sends ++ [⟨cloudEnvelope c.deviceId queued, entry.ticket, false,
          c.spool.rows.map SpoolEntry.ticket⟩] } : Cloud), .again)) ∨
    (E.stream c.publishes ≠ .sent ∧ c.flushStep E = (({ c with
        publishes := c.publishes + 1, databaseCalls := c.databaseCalls + 1 } : Cloud),
      if E.stream c.publishes = .raised then .raises else .leaves)) := by
  have hstep : c.flushStep E =
      ({ c with databaseCalls := c.databaseCalls + 1 } : Cloud).publishEntry E entry queued := by
    unfold flushStep
    rw [peek_ok hE (by rw [h])]
    dsimp only
    rw [hdecode]
  by_cases hsent : E.stream c.publishes = .sent
  · have hpublish := publishEntry_sent (c := { c with databaseCalls := c.databaseCalls + 1 }) hE h hsent queued
    exact .inl ⟨hsent, hstep.trans hpublish⟩
  · have hpublish := publishEntry_not_sent (c := { c with databaseCalls := c.databaseCalls + 1 }) hsent entry queued
    exact .inr ⟨hsent, hstep.trans hpublish⟩

section Entry
variable {t : Cloud} {entry : SpoolEntry} {rows consumed rest : List SpoolEntry} {m : Option Nat} {b : Bool}

/-- An entry that does not decode comes before those of `consumed`. -/
theorem Consumed.corrupt (h : c.spool = ⟨entry :: rows, (entry :: rows).length, m⟩)
    (hdecode : E.decode entry.bytes = none) (hcons : Consumed E (({ c with
      spool := ⟨rows, rows.length, m⟩, databaseCalls := c.databaseCalls + 2 } : Cloud).count
        .spoolCorruptDropped entry.ticket) t consumed rest) : Consumed E c t (entry :: consumed) rest := by
  have hdec : E.decoded (entry :: consumed) = E.decoded consumed := by simp [CloudIo.decoded, hdecode]
  have hcor : E.corrupt (entry :: consumed) = entry :: E.corrupt consumed := by simp [CloudIo.corrupt, hdecode]
  refine ⟨hcons.frame.after ⟨rfl, rfl, rfl, rfl, rfl⟩, ?_, hcons.spool.trans (by rw [h]; rfl), ?_, ?_, ?_, ?_⟩
  · rw [h]
    exact congrArg (entry :: ·) hcons.split
  · rw [hdec]
    exact hcons.sends
  · rw [hcor, hcons.corruptDropped]
    show c.cloudSpoolCorruptDropped + 1 + _ = _
    rw [List.length_cons]
    omega
  · rw [hcor, hcons.counted]
    exact List.append_assoc ..
  · rw [hdec]
    exact hcons.sent

theorem Stops.corrupt (hdecode : E.decode entry.bytes = none) (hstop : Stops E (({ c with
      spool := ⟨rows, rows.length, m⟩, databaseCalls := c.databaseCalls + 2 } : Cloud).count
        .spoolCorruptDropped entry.ticket) t consumed rest b) : Stops E c t (entry :: consumed) rest b := by
  have hdec : E.decoded (entry :: consumed) = E.decoded consumed := by simp [CloudIo.decoded, hdecode]
  cases hstop with
  | empty hp => exact .empty (by rw [hdec]; exact hp)
  | failed hd hp hf =>
    rw [← hdec] at hp hf ⊢
    exact .failed hd hp hf

variable {queued : CloudQueuedPublish}

theorem decoded_cons (hdecode : E.decode entry.bytes = some queued) (consumed : List SpoolEntry) :
    E.decoded (entry :: consumed) = (entry, queued) :: E.decoded consumed := by
  simp [CloudIo.decoded, hdecode]

/-- A published entry comes before those of `consumed`. -/
theorem Consumed.published (h : c.spool = ⟨entry :: rows, (entry :: rows).length, m⟩)
    (hdecode : E.decode entry.bytes = some queued) (hsent : E.stream c.publishes = .sent) (hcons : Consumed E { c with
      spool := ⟨rows, rows.length, m⟩, publishes := c.publishes + 1, databaseCalls := c.databaseCalls + 2
      sends := c.sends ++ [⟨cloudEnvelope c.deviceId queued, entry.ticket, false,
        c.spool.rows.map SpoolEntry.ticket⟩] } t consumed rest) : Consumed E c t (entry :: consumed) rest := by
  have hdec := decoded_cons hdecode consumed
  have hcor : E.corrupt (entry :: consumed) = E.corrupt consumed := by simp [CloudIo.corrupt, hdecode]
  -- the publishes of the rest start one later
  have hshift : ∀ i, c.publishes + 1 + i = c.publishes + (i + 1) := by
    intro i
    omega
  refine ⟨hcons.frame.after ⟨rfl, rfl, rfl, rfl, rfl⟩, ?_, hcons.spool.trans (by rw [h]), ?_, ?_, ?_, ?_⟩
  · rw [h]
    exact congrArg (entry :: ·) hcons.split
  · obtain ⟨new, hnew, hmap⟩ := hcons.sends
    refine ⟨⟨cloudEnvelope c.deviceId queued, entry.ticket, false, c.spool.rows.map SpoolEntry.ticket⟩ :: new,
      hnew.trans (List.append_assoc ..), ?_⟩
    rw [hdec, List.map_cons, List.map_cons, hmap]
  · rw [hcor]
    exact hcons.corruptDropped
  · rw [hcor]
    exact hcons.counted
  · intro i hi
    rw [hdec, List.length_cons] at hi
    cases i with
    | zero => exact hsent
    | succ i =>
      rw [← hshift]
      exact hcons.sent i (by omega)

theorem Stops.published {c' : Cloud} (hpub : c'.publishes = c.publishes + 1)
    (hdecode : E.decode entry.bytes = some queued) (hstop : Stops E c' t consumed rest b) :
    Stops E c t (entry :: consumed) rest b := by
  have hcount : c'.publishes + (E.decoded consumed).length =
      c.publishes + (E.decoded (entry :: consumed)).length := by
    rw [decoded_cons hdecode, List.length_cons, hpub]
    omega
  cases hstop with
  | empty hp => exact .empty (hp.trans hcount)
  | failed hd hp hf =>
    rw [hcount] at hp hf ⊢
    exact .failed hd hp hf

end Entry

theorem flushLoop_failed {t : Cloud} (hlen : c.spool.length ≠ 0) (hfail : E.stream c.publishes ≠ .sent)
    (hstep : c.flushStep E = (t, if E.stream c.publishes = .raised then .raises else .leaves)) :
    c.flushLoop E = (t, E.stream c.publishes == .raised) := by
  cases hout : E.stream c.publishes with
  | raised =>
    rw [hout, if_pos rfl] at hstep
    exact flushLoop_raises hlen hstep
  | gone | caught =>
    rw [hout, if_neg nofun] at hstep
    exact flushLoop_leaves hlen hstep
  | sent => exact absurd hout hfail

/-- The loop takes a prefix off the spool and stops. -/
theorem flushLoop_consumed (hE : E.FaultFree) {rows : List SpoolEntry} {m : Option Nat}
    (h : c.spool = ⟨rows, rows.length, m⟩) :
    ∃ t b consumed rest, c.flushLoop E = (t, b) ∧ Consumed E c t consumed rest ∧ Stops E c t consumed rest b := by
  induction rows generalizing c with
  | nil =>
    refine ⟨c, false, [], [], flushLoop_zero (by rw [h]; rfl), ⟨.refl c, by rw [h]; rfl, ?_, ?_, rfl, ?_, ?_⟩, .empty rfl⟩
    · rw [h]
    · exact ⟨[], (List.append_nil _).symm, rfl⟩
    · simp [CloudIo.corrupt]
    · intro i hi
      exact absurd hi (Nat.not_lt_zero _)
  | cons entry rows ih =>
    have hlen : c.spool.length ≠ 0 := by
      rw [h]
      exact Nat.succ_ne_zero _
    cases hdecode : E.decode entry.bytes with
    | none =>
      obtain ⟨t, b, consumed, rest, hloop, hcons, hstop⟩ := ih (c := ({ c with
        spool := ⟨rows, rows.length, m⟩, databaseCalls := c.databaseCalls + 2 } : Cloud).count
          .spoolCorruptDropped entry.ticket) rfl
      exact ⟨t, b, entry :: consumed, rest, (flushLoop_again hlen (flushStep_corrupt hE h hdecode)).trans hloop,
        hcons.corrupt h hdecode, hstop.corrupt hdecode⟩
    | some queued =>
      rcases flushStep_decoded hE h hdecode with ⟨hsent, hstep⟩ | ⟨hfail, hstep⟩
      · obtain ⟨t, b, consumed, rest, hloop, hcons, hstop⟩ := ih (c := { c with
          spool := ⟨rows, rows.length, m⟩, publishes := c.publishes + 1, databaseCalls := c.databaseCalls + 2
          sends := c.sends ++ [⟨cloudEnvelope c.deviceId queued, entry.ticket, false,
            c.spool.rows.map SpoolEntry.ticket⟩] }) rfl
        exact ⟨t, b, entry :: consumed, rest, (flushLoop_again hlen hstep).trans hloop,
          hcons.published h hdecode hsent, hstop.published rfl hdecode⟩
      · refine ⟨{ c with publishes := c.publishes + 1, databaseCalls := c.databaseCalls + 1 },
          (E.stream c.publishes == .raised), [], entry :: rows, flushLoop_failed hlen hfail hstep,
          ⟨⟨rfl, rfl, rfl, rfl, rfl⟩, by rw [h]; rfl, h.trans (by rw [h]), ?_, rfl, ?_,
            fun i hi => absurd hi (Nat.not_lt_zero _)⟩,
          .failed hdecode rfl hfail⟩
        · exact ⟨[], (List.append_nil _).symm, rfl⟩
        · simp [CloudIo.corrupt]

/-! ### After the loop -/

theorem finishFlush_ok (hE : E.FaultFree) (c : Cloud) :
    ∃ n, c.finishFlush E = { c with cloudSpoolPendingMessages := c.spool.length, databaseCalls := n } := by
  unfold finishFlush
  dsimp only
  split
  · rw [execute_ok hE]
    exact ⟨_, rfl⟩
  · exact ⟨_, rfl⟩

/-- Without errors of the database the flush ends as its loop does. -/
theorem flushCloudSpoolLocked_consumed (hE : E.FaultFree) (hspool : c.hasSpool = true) (hcount : c.spool.Counted) :
    ∃ t b consumed rest, c.flushCloudSpoolLocked E true = (t, b) ∧ Consumed E c t consumed rest ∧
      Stops E c t consumed rest b ∧ (b = false → t.cloudSpoolPendingMessages = rest.length) := by
  have hcounted : c.spool = ⟨c.spool.rows, c.spool.rows.length, c.spool.maxlen⟩ := by
    rw [← hcount]
  obtain ⟨t, b, consumed, rest, hloop, hcons, hstop⟩ := flushLoop_consumed hE hcounted
  unfold flushCloudSpoolLocked
  rw [hspool, if_neg (by simp)]
  dsimp only
  rw [hloop]
  cases b with
  | true => exact ⟨t, true, consumed, rest, rfl, hcons, hstop, nofun⟩
  | false =>
    obtain ⟨n, hfinish⟩ := finishFlush_ok hE t
    refine ⟨t.finishFlush E, false, consumed, rest, rfl, ?_, ?_, fun _ => ?_⟩
    · rw [hfinish]
      exact ⟨⟨hcons.frame.1, hcons.frame.2, hcons.frame.3, hcons.frame.4, hcons.frame.5⟩, hcons.split, hcons.spool,
        hcons.sends, hcons.corruptDropped, hcons.counted, hcons.sent⟩
    · rw [hfinish]
      cases rest with
      | nil =>
        cases hstop with
        | empty hp => exact .empty hp
      | cons entry tail =>
        generalize hb : false = b at hstop ⊢
        cases hstop with
        | failed hd hp hf => exact .failed hd hp hf
    · rw [hfinish]
      exact congrArg SqliteDeque.length hcons.spool

/-- The flush ends, and takes a prefix off the spool: it publishes the decodable entries of it in order, counts the
others, and stops before the first decodable entry whose publish fails, or at the end. -/
theorem flush_consumes_prefix (E : CloudIo) (hE : E.FaultFree) (hstream : ∀ i, E.stream i ≠ .raised) (c : Cloud)
    (hspool : c.hasSpool = true) (hcount : c.spool.Counted) :
    ∃ t consumed rest, c.flushCloudSpoolLocked E true = (t, false) ∧ Consumed E c t consumed rest ∧
      (rest = [] ∨ ∃ entry tail m, rest = entry :: tail ∧ E.decode entry.bytes = some m ∧
        E.stream (c.publishes + (E.decoded consumed).length) ≠ .sent) ∧
      t.cloudSpoolPendingMessages = rest.length := by
  obtain ⟨t, b, consumed, rest, hflush, hcons, hstop, hpending⟩ := flushCloudSpoolLocked_consumed hE hspool hcount
  cases hstop with
  | empty => exact ⟨t, consumed, [], hflush, hcons, .inl rfl, hpending rfl⟩
  | @failed entry tail m hdecode _ hfail =>
    have hnot : (E.stream (c.publishes + (E.decoded consumed).length) == .raised) = false :=
      beq_eq_false_iff_ne.2 (hstream _)
    rw [hnot] at hflush hpending
    exact ⟨t, consumed, entry :: tail, hflush, hcons, .inr ⟨entry, tail, m, rfl, hdecode, hfail⟩, hpending rfl⟩

end Cloud

/-! ### A stream and a database to evaluate runs on -/

/-- Topic and payload are what the sample messages differ in: a byte each. -/
def CloudIo.sample (stream : Nat → StreamOutcome) (database : Nat → DbCall) : CloudIo where
  encode m := some (m.topicName.map (fun ch => ch.toNat.toUInt8) ++ m.payload)
  decode
    | [t, p] => some ⟨[Char.ofNat t.toNat], [p], none⟩
    | _ => none
  stream := stream
  database := database

/-- No statement fails. -/
def DbCall.ok : DbCall := ⟨.ok, true, .ok⟩

namespace Cloud

/-- Four items, the second one unreadable; the second publish fails. -/
theorem flush_consumes_prefix_sample :
    (start [] 10 true (some [[65, 1], [9], [65, 2], [65, 3]])).flushCloudSpoolLocked
        (.sample (fun i => if i = 1 then .caught else .sent) fun _ => .ok) true =
      ({ start [] 10 true (some [[65, 1], [9], [65, 2], [65, 3]]) with
        spool := ⟨[⟨[65, 2], 2⟩, ⟨[65, 3], 3⟩], 2, some 10⟩, cloudSpoolCorruptDropped := 1
        cloudSpoolPendingMessages := 2, counted := [(1, .spoolCorruptDropped)], publishes := 2, databaseCalls := 5
        sends := [⟨⟨2, [], 0, .systemStatusBlob [1]⟩, 0, false, [0, 1, 2, 3]⟩] }, false) ∧
    ∃ t consumed rest, (start [] 10 true (some [[65, 1], [9], [65, 2], [65, 3]])).flushCloudSpoolLocked
        (.sample (fun i => if i = 1 then .caught else .sent) fun _ => .ok) true = (t, false) ∧
      Consumed (.sample (fun i => if i = 1 then .caught else .sent) fun _ => .ok)
        (start [] 10 true (some [[65, 1], [9], [65, 2], [65, 3]])) t consumed rest ∧
      t.cloudSpoolPendingMessages = rest.length := by
  refine ⟨by decide +kernel, ?_⟩
  obtain ⟨t, consumed, rest, hflush, hcons, -, hpending⟩ :=
    flush_consumes_prefix (.sample (fun i => if i = 1 then .caught else .sent) fun _ => .ok) (fun _ => rfl)
      (fun i => by show (if i = 1 then StreamOutcome.caught else .sent) ≠ .raised; split <;> decide)
      (start [] 10 true (some [[65, 1], [9], [65, 2], [65, 3]])) rfl rfl
  exact ⟨t, consumed, rest, hflush, hcons, hpending⟩

end Cloud
end Daemon
end McuBridge
