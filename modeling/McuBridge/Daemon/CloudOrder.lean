import McuBridge.Daemon.CloudFlush
import McuBridge.Lib.Run

/-! # The order of published messages

The messages sent, those in the spool and those of waiting calls form one line, oldest first. Every step takes the
line to a part of it, except where the flush of `enqueue_cloud` stops at a failed publish and the direct publish right
after it succeeds: then the new message overtakes those in the spool. -/

namespace McuBridge
namespace Daemon
open Run

/-- The number of the publish at which a flush stops, the first one having number `k`. -/
def CloudIo.failedPublish (E : CloudIo) : Nat → List SpoolEntry → Option Nat
  | _, [] => none
  | k, entry :: entries =>
    if (E.decode entry.bytes).isNone then failedPublish E k entries
    else if E.stream k = .sent then failedPublish E (k + 1) entries
    else some k

def CloudCall.ticket? : CloudCall → Option Nat
  | .enqueue _ ticket => some ticket
  | .flush => none

namespace Cloud

def sentTickets (c : Cloud) : List Nat := c.sends.map CloudSend.ticket

def spoolTickets (c : Cloud) : List Nat := c.spool.rows.map SpoolEntry.ticket

def waitingTickets (c : Cloud) : List Nat := c.waiting.filterMap CloudCall.ticket?

/-- Messages are written in the order of their tickets, and none directly while an older one is in the spool. -/
structure InOrder (c : Cloud) : Prop where
  order : c.sentTickets.Pairwise (· < ·)
  direct : ∀ s ∈ c.sends, s.direct = true → ∀ t ∈ s.behind, s.ticket ≤ t

variable (E : CloudIo)

/-- In `enqueue_cloud` the direct publish does not succeed right after a publish at which the flush stopped. -/
def StopsTogether (c : Cloud) : CloudEvent → Prop
  | .proceed true =>
    c.hasSpool = true → (c.waiting.head?.bind CloudCall.ticket?).isSome = true →
      ∀ k ∈ E.failedPublish c.publishes c.spool.rows, E.stream k ≠ .raised → E.stream (k + 1) ≠ .sent
  | _ => True

/-- Sent, spooled, in the hand of the running call, waiting. -/
def line (c : Cloud) (hand : List Nat) : List Nat := c.sentTickets ++ c.spoolTickets ++ hand ++ c.waitingTickets

structure Ordered (c : Cloud) (hand : List Nat) : Prop where
  line : (c.line hand).Pairwise (· < ·)
  fresh : ∀ t ∈ c.line hand, t < c.tickets
  direct : ∀ s ∈ c.sends, s.direct = true → ∀ t ∈ s.behind, s.ticket ≤ t
  counted : c.spool.Counted
  noSpool : c.hasSpool = false → c.spool.rows = []

variable {E} {c t : Cloud}

theorem Ordered.inOrder {hand : List Nat} (h : c.Ordered hand) : c.InOrder where
  order := by
    refine h.line.sublist ?_
    unfold Cloud.line
    simp only [List.append_assoc]
    exact List.sublist_append_left _ _
  direct := h.direct

/-- A part of the line, with no new direct send, is in order. -/
theorem Ordered.part {hand hand' : List Nat} (h : c.Ordered hand) (hframe : Frame c t)
    (hsub : (t.line hand').Sublist (c.line hand))
    (hdirect : ∀ s ∈ t.sends, s.direct = true → ∀ x ∈ s.behind, s.ticket ≤ x) (hcount : t.spool.Counted)
    (hrows : t.hasSpool = false → t.spool.rows = []) : t.Ordered hand' where
  line := h.line.sublist hsub
  fresh x hx := by
    rw [hframe.tickets]
    exact h.fresh x (hsub.subset hx)
  direct := hdirect
  counted := hcount
  noSpool := hrows

theorem Frame.waitingTickets (h : Frame c t) : t.waitingTickets = c.waitingTickets := by
  unfold Cloud.waitingTickets
  rw [h.waiting]

/-! ### The flush -/

theorem failedPublish_append {consumed rest : List SpoolEntry} {k : Nat}
    (hsent : ∀ i < (E.decoded consumed).length, E.stream (k + i) = .sent) :
    E.failedPublish k (consumed ++ rest) = E.failedPublish (k + (E.decoded consumed).length) rest := by
  induction consumed generalizing k with
  | nil => rfl
  | cons entry consumed ih =>
    rw [List.cons_append, CloudIo.failedPublish]
    cases hdecode : E.decode entry.bytes with
    | none =>
      have hdec : E.decoded (entry :: consumed) = E.decoded consumed := by simp [CloudIo.decoded, hdecode]
      rw [hdec] at hsent ⊢
      rw [Option.isNone_none, if_pos rfl]
      exact ih hsent
    | some m =>
      have hdec : E.decoded (entry :: consumed) = (entry, m) :: E.decoded consumed := by simp [CloudIo.decoded, hdecode]
      rw [hdec, List.length_cons] at hsent ⊢
      have hfirst : E.stream k = .sent := hsent 0 (Nat.succ_pos _)
      rw [Option.isNone_some, if_neg (by simp), if_pos hfirst, ih, Nat.add_right_comm, Nat.add_assoc]
      intro i hi
      rw [Nat.add_right_comm, Nat.add_assoc]
      exact hsent (i + 1) (Nat.succ_lt_succ hi)

/-- `failedPublish` is where the flush stops. -/
theorem Stops.failedPublish {consumed rest : List SpoolEntry} {b : Bool} (hcons : Consumed E c t consumed rest)
    (hstop : Stops E c t consumed rest b) :
    (rest = [] ∧ E.failedPublish c.publishes c.spool.rows = none) ∨
      (rest ≠ [] ∧ ∃ k, E.failedPublish c.publishes c.spool.rows = some k ∧ t.publishes = k + 1 ∧
        E.stream k ≠ .sent ∧ b = (E.stream k == .raised)) := by
  rw [hcons.split, failedPublish_append hcons.sent]
  cases hstop with
  | empty => exact .inl ⟨rfl, rfl⟩
  | failed hdecode hp hfail =>
    refine .inr ⟨nofun, _, ?_, hp, hfail, rfl⟩
    rw [CloudIo.failedPublish, hdecode, Option.isNone_some, if_neg (by simp), if_neg hfail]

theorem decoded_sublist (entries : List SpoolEntry) :
    ((E.decoded entries).map fun x => x.1.ticket).Sublist (entries.map SpoolEntry.ticket) := by
  induction entries with
  | nil => exact .slnil
  | cons entry entries ih =>
    cases hdecode : E.decode entry.bytes with
    | none =>
      have hdec : E.decoded (entry :: entries) = E.decoded entries := by simp [CloudIo.decoded, hdecode]
      rw [hdec]
      exact ih.cons _
    | some m =>
      have hdec : E.decoded (entry :: entries) = (entry, m) :: E.decoded entries := by simp [CloudIo.decoded, hdecode]
      rw [hdec]
      exact ih.cons_cons _

theorem Consumed.sentTickets {consumed rest : List SpoolEntry} (h : Consumed E c t consumed rest) :
    t.sentTickets = c.sentTickets ++ (E.decoded consumed).map fun x => x.1.ticket := by
  obtain ⟨new, hnew, hmap⟩ := h.sends
  have htickets : new.map CloudSend.ticket = (E.decoded consumed).map fun x => x.1.ticket := by
    have hproj := congrArg (List.map fun x => x.2.1) hmap
    rwa [List.map_map, List.map_map] at hproj
  unfold Cloud.sentTickets
  rw [hnew, List.map_append, htickets]

/-- What the flush sends is not sent directly. -/
theorem Consumed.direct {consumed rest : List SpoolEntry} (h : Consumed E c t consumed rest) {s : CloudSend}
    (hs : s ∈ t.sends) (hd : s.direct = true) : s ∈ c.sends := by
  obtain ⟨new, hnew, hmap⟩ := h.sends
  rw [hnew] at hs
  rcases List.mem_append.1 hs with hs | hs
  · exact hs
  · have hin : (s.envelope, s.ticket, s.direct) ∈ (E.decoded consumed).map
        fun x => (cloudEnvelope c.deviceId x.2, x.1.ticket, false) := by
      rw [← hmap]
      exact List.mem_map_of_mem hs
    obtain ⟨x, -, hx⟩ := List.mem_map.1 hin
    cases (Prod.mk.inj (Prod.mk.inj hx).2).2.trans hd

/-- After the flush the line is a part of what it was. -/
theorem Ordered.consumed {hand : List Nat} {consumed rest : List SpoolEntry} (h : c.Ordered hand)
    (hcons : Consumed E c t consumed rest) : t.Ordered hand := by
  refine h.part hcons.frame ?_ (fun s hs hd => h.direct s (hcons.direct hs hd) hd) ?_ ?_
  · have hspool : c.spoolTickets = consumed.map SpoolEntry.ticket ++ t.spoolTickets := by
      unfold Cloud.spoolTickets
      rw [hcons.split, hcons.spool, List.map_append]
    unfold Cloud.line
    rw [hcons.frame.waitingTickets, hcons.sentTickets, hspool]
    simp only [List.append_assoc]
    exact (List.Sublist.refl _).append ((decoded_sublist consumed).append (List.Sublist.refl _))
  · rw [hcons.spool]
    rfl
  · intro hno
    have hrows := h.noSpool (hcons.frame.hasSpool.symm.trans hno)
    rw [hcons.split, List.append_eq_nil_iff] at hrows
    rw [hcons.spool]
    exact hrows.2

/-! ### Spooling -/

/-- Nothing is sent, and the spool holds a part of what it held, followed by `new`. -/
structure Spooled (c t : Cloud) (new : List Nat) : Prop where
  frame : Frame c t
  sends : t.sends = c.sends
  spool : t.spoolTickets.Sublist (c.spoolTickets ++ new)
  counted : t.spool.Counted

theorem Spooled.refl (h : c.spool.Counted) : Spooled c c [] :=
  ⟨.refl c, rfl, (List.append_nil c.spoolTickets).symm ▸ List.Sublist.refl _, h⟩

theorem popleftImpl_sublist {q q' : SqliteDeque SpoolEntry} {entry : SpoolEntry} (hq : q.Counted)
    (h : SqliteDeque.popleftImpl q = some (entry, q')) :
    (q'.rows.map SpoolEntry.ticket).Sublist (q.rows.map SpoolEntry.ticket) ∧ q'.Counted := by
  unfold SqliteDeque.popleftImpl at h
  split at h
  · cases h
  case h_2 rest hrows =>
    cases h
    unfold SqliteDeque.Counted at hq ⊢
    rw [hrows] at hq ⊢
    exact ⟨List.sublist_cons_self _ _, by simp [hq]⟩

theorem trimLoop_spooled (hE : E.FaultFree) (h : c.spool.Counted) : Spooled c (c.trimLoop E) [] := by
  induction c using trimLoop.induct E with
  | case1 c hfull u entry hpop ih =>
    rw [trimLoop_popped hfull hpop]
    rw [execute_ok hE] at hpop
    split at hpop
    · cases hpop
    case h_2 entry' q hq =>
      cases hpop
      obtain ⟨hsub, hcount⟩ := popleftImpl_sublist h hq
      have hrest := ih hcount
      refine ⟨hrest.frame.after ⟨rfl, rfl, rfl, rfl, rfl⟩, hrest.sends, ?_, hrest.counted⟩
      exact hrest.spool.trans (hsub.append_right _)
  | case2 c hfull u e hpop =>
    rw [trimLoop_error hfull hpop]
    rw [execute_ok hE] at hpop
    split at hpop
    · cases hpop
      exact ⟨⟨rfl, rfl, rfl, rfl, rfl⟩, rfl, (Spooled.refl h).spool, h⟩
    · cases hpop
  | case3 c hbelow =>
    rw [trimLoop_below hbelow]
    exact .refl h

theorem trimSpool_spooled (hE : E.FaultFree) (h : c.spool.Counted) : Spooled c (c.trimSpool E) [] := by
  have htrim := trimLoop_spooled hE h
  unfold trimSpool
  split
  · dsimp only
    split
    · exact ⟨⟨htrim.frame.1, htrim.frame.2, htrim.frame.3, htrim.frame.4, htrim.frame.5⟩, htrim.sends, htrim.spool,
        htrim.counted⟩
    · exact htrim
  · exact .refl h

theorem appendImpl_sublist {q q' : SqliteDeque SpoolEntry} {entry : SpoolEntry}
    (h : SqliteDeque.appendImpl entry q = some ((), q')) :
    (q'.rows.map SpoolEntry.ticket).Sublist (q.rows.map SpoolEntry.ticket ++ [entry.ticket]) := by
  have hall : (q.rows.map SpoolEntry.ticket ++ [entry.ticket]) = (q.rows ++ [entry]).map SpoolEntry.ticket := by
    rw [List.map_append]
    rfl
  rw [hall]
  unfold SqliteDeque.appendImpl at h
  dsimp only at h
  split at h
  · split at h
    · cases h
      exact (List.drop_sublist _ _).map _
    · cases h
      exact List.Sublist.refl _
  · cases h
    exact List.Sublist.refl _

/-- The message is the newest in the spool, or it is nowhere. -/
theorem spoolCloudMessageLocked_spooled (hE : E.FaultFree) (h : c.spool.Counted) (m : CloudQueuedPublish)
    (ticket : Nat) : Spooled c (c.spoolCloudMessageLocked E m ticket).1 [ticket] := by
  have hweak : ∀ {u : Cloud}, Spooled c u [] → Spooled c u [ticket] := by
    intro u hu
    exact ⟨hu.frame, hu.sends, hu.spool.trans ((List.Sublist.refl _).append (List.nil_sublist _)), hu.counted⟩
  have htrim := trimSpool_spooled hE h
  unfold spoolCloudMessageLocked
  split
  · exact hweak (.refl h)
  · dsimp only
    split
    · exact hweak htrim
    case h_2 encoded _ =>
      rw [execute_ok hE]
      obtain ⟨q, hq⟩ : ∃ q, SqliteDeque.appendImpl ⟨encoded, ticket⟩ (c.trimSpool E).spool = some ((), q) := by
        unfold SqliteDeque.appendImpl
        dsimp only
        split
        · split <;> exact ⟨_, rfl⟩
        · exact ⟨_, rfl⟩
      rw [hq]
      refine ⟨⟨htrim.frame.1, htrim.frame.2, htrim.frame.3, htrim.frame.4, htrim.frame.5⟩, htrim.sends, ?_,
        SqliteDeque.appendImpl_counted htrim.counted hq⟩
      have hsub : (c.trimSpool E).spoolTickets.Sublist c.spoolTickets := by
        have hspool := htrim.spool
        rwa [List.append_nil] at hspool
      exact (appendImpl_sublist hq).trans (hsub.append (List.Sublist.refl _))

theorem Ordered.spooled {new hand hand' : List Nat} (h : c.Ordered hand) (hs : Spooled c t new)
    (hhand : (new ++ hand').Sublist hand) (hrows : t.hasSpool = false → t.spool.rows = []) : t.Ordered hand' := by
  refine h.part hs.frame ?_ (by rw [hs.sends]; exact h.direct) hs.counted hrows
  have hsent : t.sentTickets = c.sentTickets := congrArg (List.map CloudSend.ticket) hs.sends
  unfold Cloud.line
  rw [hs.frame.waitingTickets, hsent]
  simp only [List.append_assoc]
  refine (List.Sublist.refl _).append ?_
  have hspool := hs.spool.append_right (hand' ++ c.waitingTickets)
  have hmove := (List.Sublist.refl c.spoolTickets).append (hhand.append_right c.waitingTickets)
  simp only [List.append_assoc] at hspool hmove
  exact hspool.trans hmove

/-! ### The calls under the lock -/

theorem Ordered.congr {hand : List Nat} (h : c.Ordered hand) (hframe : Frame c t) (hsends : t.sends = c.sends)
    (hspool : t.spool = c.spool) : t.Ordered hand := by
  refine h.part hframe ?_ (by rw [hsends]; exact h.direct) (by rw [hspool]; exact h.counted) ?_
  · unfold Cloud.line Cloud.sentTickets Cloud.spoolTickets
    rw [hframe.waitingTickets, hsends, hspool]
  · rw [hframe.hasSpool, hspool]
    exact h.noSpool

/-- The running call ends without the message having got anywhere. -/
theorem Ordered.release {hand : List Nat} (h : c.Ordered hand) : c.Ordered [] := by
  refine h.part (.refl c) ?_ h.direct h.counted h.noSpool
  unfold Cloud.line
  rw [List.append_nil]
  exact (List.sublist_append_left _ _).append_right _

theorem spoolCloudMessageLocked_ordered (hE : E.FaultFree) {ticket : Nat} (h : c.Ordered [ticket])
    (m : CloudQueuedPublish) : ((c.spoolCloudMessageLocked E m ticket).1).Ordered [] := by
  refine h.spooled (spoolCloudMessageLocked_spooled hE h.counted m ticket) (List.Sublist.refl _) fun hno => ?_
  have hframe := (spoolCloudMessageLocked_spooled hE h.counted m ticket).frame
  have hspool : c.hasSpool = false := hframe.hasSpool.symm.trans hno
  have hsame : c.spoolCloudMessageLocked E m ticket = (c, false) := by
    unfold spoolCloudMessageLocked
    rw [hspool]
    rfl
  rw [hsame]
  exact h.noSpool hspool

/-- A direct publish with an empty spool puts the message behind all others. -/
theorem Ordered.sentDirectly {ticket : Nat} (h : c.Ordered [ticket]) (hrows : c.spool.rows = []) (e : CloudEnvelope)
    (n : Nat) : Cloud.Ordered { c with
      publishes := n, sends := c.sends ++ [⟨e, ticket, true, c.spool.rows.map SpoolEntry.ticket⟩] } [] := by
  refine h.part ⟨rfl, rfl, rfl, rfl, rfl⟩ ?_ ?_ h.counted h.noSpool
  · unfold Cloud.line Cloud.sentTickets Cloud.spoolTickets
    dsimp only
    rw [hrows, List.map_append, List.map_nil, List.append_nil, List.append_nil, List.append_nil]
    exact List.Sublist.refl _
  · intro s hs hd x hx
    rcases List.mem_append.1 hs with hs | hs
    · exact h.direct s hs hd x hx
    · obtain rfl := List.mem_singleton.1 hs
      rw [hrows] at hx
      cases hx

theorem publishOrSpool_ordered (hE : E.FaultFree) {hasStream : Bool} {ticket : Nat} (h : c.Ordered [ticket])
    (hempty : hasStream = true → E.stream c.publishes = .sent → c.spool.rows = []) (m : CloudQueuedPublish) :
    ((c.publishOrSpool E hasStream m ticket).1).Ordered [] := by
  have hspool : ∀ {u v : Cloud} {b : Bool}, u.Ordered [ticket] → u.spoolCloudMessageLocked E m ticket = (v, b) →
      v.Ordered [] ∧ (v.recordCloudDrop m.topicName ticket).Ordered [] := by
    intro u v b hu hv
    have hordered := spoolCloudMessageLocked_ordered hE hu m
    rw [hv] at hordered
    exact ⟨hordered, hordered.congr ⟨rfl, rfl, rfl, rfl, rfl⟩ rfl rfl⟩
  unfold publishOrSpool
  cases hasStream with
  | false =>
    have hno : c.publishCloudMessage E false true m ticket = (c, .failed) := rfl
    rw [hno]
    dsimp only
    split
    case h_1 v hv => exact (hspool h hv).1
    case h_2 v hv => exact (hspool h hv).2
  | true =>
    by_cases hsent : E.stream c.publishes = .sent
    · rw [publishCloudMessage_sent hsent]
      exact h.sentDirectly (hempty rfl hsent) _ _
    · have hnext : Cloud.Ordered { c with publishes := c.publishes + 1 } [ticket] :=
        h.congr ⟨rfl, rfl, rfl, rfl, rfl⟩ rfl rfl
      rw [publishCloudMessage_not_sent hsent]
      by_cases hraised : E.stream c.publishes = .raised
      · rw [if_pos hraised]
        exact hnext.release
      · rw [if_neg hraised]
        dsimp only
        split
        case h_1 v hv => exact (hspool hnext hv).1
        case h_2 v hv => exact (hspool hnext hv).2

theorem flushCloudSpoolLocked_skipped {hasStream : Bool} (h : (hasStream && c.hasSpool) = false) :
    c.flushCloudSpoolLocked E hasStream = (c, false) := by
  unfold flushCloudSpoolLocked
  rw [if_pos]
  rw [← Bool.not_and, h]
  rfl

theorem flushCloudSpoolLocked_ordered (hE : E.FaultFree) {hand : List Nat} (h : c.Ordered hand) (hasStream : Bool) :
    ((c.flushCloudSpoolLocked E hasStream).1).Ordered hand := by
  cases hboth : hasStream && c.hasSpool with
  | false =>
    rw [flushCloudSpoolLocked_skipped hboth]
    exact h
  | true =>
    rw [Bool.and_eq_true] at hboth
    obtain ⟨rfl, hspool⟩ := hboth
    obtain ⟨t, b, consumed, rest, hflush, hcons, -⟩ := flushCloudSpoolLocked_consumed hE hspool h.counted
    rw [hflush]
    exact h.consumed hcons

/-- The direct publish of `enqueue_cloud` finds an empty spool, or it does not succeed. -/
theorem enqueueLocked_ordered (hE : E.FaultFree) {hasStream : Bool} {ticket : Nat} (h : c.Ordered [ticket])
    (hC : hasStream = true → c.hasSpool = true → ∀ k ∈ E.failedPublish c.publishes c.spool.rows,
      E.stream k ≠ .raised → E.stream (k + 1) ≠ .sent) (m : CloudQueuedPublish) :
    ((c.enqueueLocked E hasStream m ticket).1).Ordered [] := by
  have hflushed := flushCloudSpoolLocked_ordered hE h hasStream
  unfold enqueueLocked
  cases hboth : hasStream && c.hasSpool with
  | false =>
    rw [flushCloudSpoolLocked_skipped hboth]
    refine publishOrSpool_ordered hE h (fun hs _ => ?_) m
    rw [hs, Bool.true_and] at hboth
    exact h.noSpool hboth
  | true =>
    rw [Bool.and_eq_true] at hboth
    obtain ⟨rfl, hspool⟩ := hboth
    obtain ⟨t, b, consumed, rest, hflush, hcons, hstop, -⟩ := flushCloudSpoolLocked_consumed hE hspool h.counted
    rw [hflush] at hflushed ⊢
    cases b with
    | true => exact hflushed.release
    | false =>
      refine publishOrSpool_ordered hE hflushed (fun _ hsent => ?_) m
      rcases hstop.failedPublish hcons with ⟨rfl, -⟩ | ⟨-, k, hk, hp, -, hraised⟩
      · rw [hcons.spool]
      · rw [hp] at hsent
        exact absurd hsent (hC rfl hspool k hk fun hr => by simp [hr] at hraised)

/-- Otherwise the message overtakes the entry at which the flush stopped. -/
theorem enqueueLocked_overtakes (hE : E.FaultFree) {ticket k : Nat} (h : c.Ordered [ticket]) (hspool : c.hasSpool = true)
    (hk : E.failedPublish c.publishes c.spool.rows = some k) (hraised : E.stream k ≠ .raised)
    (hsent : E.stream (k + 1) = .sent) (m : CloudQueuedPublish) :
    ∃ s ∈ ((c.enqueueLocked E true m ticket).1).sends, s.direct = true ∧ ∃ t ∈ s.behind, t < s.ticket := by
  obtain ⟨t, b, consumed, rest, hflush, hcons, hstop, -⟩ := flushCloudSpoolLocked_consumed hE hspool h.counted
  rcases hstop.failedPublish hcons with ⟨-, hnone⟩ | ⟨hrest, k', hk', hp, -, hb⟩
  · cases hnone.symm.trans hk
  · obtain rfl : k' = k := Option.some.inj (hk'.symm.trans hk)
    have hbf : b = false := hb.trans (beq_eq_false_iff_ne.2 hraised)
    have hordered := h.consumed hcons
    unfold enqueueLocked
    rw [hflush, hbf]
    dsimp only
    unfold publishOrSpool
    rw [publishCloudMessage_sent (by rw [hp]; exact hsent)]
    refine ⟨_, List.mem_append_right _ (List.mem_singleton_self _), rfl, ?_⟩
    cases hr : rest with
    | nil => exact absurd hr hrest
    | cons entry tail =>
      have hrows : t.spool.rows = entry :: tail := by rw [hcons.spool, hr]
      refine ⟨entry.ticket, by rw [hrows]; exact List.mem_cons_self .., ?_⟩
      have hpair : (t.spoolTickets ++ [ticket]).Pairwise (· < ·) := by
        refine hordered.line.sublist ?_
        unfold Cloud.line
        simp only [List.append_assoc]
        exact (List.Sublist.refl _).append (List.sublist_append_left _ _) |>.trans (List.sublist_append_right _ _)
      have hentry : entry.ticket ∈ t.spoolTickets := by
        unfold Cloud.spoolTickets
        rw [hrows]
        exact List.mem_cons_self ..
      exact (List.pairwise_append.1 hpair).2.2 _ hentry _ (List.mem_singleton_self _)

/-! ### Whole runs -/

theorem runCall_ordered {hasStream : Bool} {call : CloudCall}
    (hcall : ∀ m ticket, call = .enqueue m ticket → ((c.enqueueLocked E hasStream m ticket).1).Ordered [])
    (hflush : call = .flush → ((c.flushCloudSpoolLocked E hasStream).1).Ordered []) :
    (c.runCall E hasStream call).Ordered [] := by
  have hmark : ∀ {r : Cloud × Bool}, r.1.Ordered [] →
      Cloud.Ordered (if r.2 then { r.1 with failures := r.1.failures ++ [.stream call] } else r.1) [] := by
    intro r hr
    split
    · exact hr.congr ⟨rfl, rfl, rfl, rfl, rfl⟩ rfl rfl
    · exact hr
  cases call with
  | enqueue m ticket => exact (hmark (hcall m ticket rfl)).congr ⟨rfl, rfl, rfl, rfl, rfl⟩ rfl rfl
  | flush => exact hmark (hflush rfl)

theorem waitingTickets_cons {call : CloudCall} {rest : List CloudCall} (hw : c.waiting = call :: rest) :
    c.waitingTickets = call.ticket?.toList ++ ({ c with waiting := rest } : Cloud).waitingTickets := by
  unfold waitingTickets
  rw [hw]
  cases call <;> rfl

/-- The call at the head of the queue has its message in hand. -/
theorem Ordered.take {m : CloudQueuedPublish} {ticket : Nat} {rest : List CloudCall} (h : c.Ordered [])
    (hw : c.waiting = .enqueue m ticket :: rest) : Cloud.Ordered { c with waiting := rest } [ticket] := by
  have hline : Cloud.line { c with waiting := rest } [ticket] = c.line [] := by
    unfold Cloud.line
    rw [waitingTickets_cons hw, List.append_nil, ← List.append_assoc]
    rfl
  exact ⟨by rw [hline]; exact h.line, by rw [hline]; exact h.fresh, h.direct, h.counted, h.noSpool⟩

theorem Ordered.skipFlush {rest : List CloudCall} (h : c.Ordered []) (hw : c.waiting = .flush :: rest) :
    Cloud.Ordered { c with waiting := rest } [] := by
  have hline : Cloud.line { c with waiting := rest } [] = c.line [] := by
    unfold Cloud.line Cloud.waitingTickets
    rw [hw]
    rfl
  exact ⟨by rw [hline]; exact h.line, by rw [hline]; exact h.fresh, h.direct, h.counted, h.noSpool⟩

theorem enqueueCloud_ordered (h : c.Ordered []) (m : CloudQueuedPublish) : (c.enqueueCloud m).Ordered [] := by
  unfold enqueueCloud
  dsimp only
  split
  · exact ⟨h.line, fun t ht => Nat.lt_succ_of_lt (h.fresh t ht), h.direct, h.counted, h.noSpool⟩
  · have hline : Cloud.line { c with
        tickets := c.tickets + 1, cloudPublishQueue := c.cloudPublishQueue ++ [m]
        waiting := c.waiting ++ [.enqueue m c.tickets] } [] = c.line [] ++ [c.tickets] := by
      unfold Cloud.line Cloud.waitingTickets
      rw [List.filterMap_append, ← List.append_assoc]
      rfl
    refine ⟨?_, ?_, h.direct, h.counted, h.noSpool⟩
    · rw [hline, List.pairwise_append]
      refine ⟨h.line, List.pairwise_singleton .., fun x hx y hy => ?_⟩
      rw [List.mem_singleton.1 hy]
      exact h.fresh x hx
    · intro x hx
      rw [hline] at hx
      rcases List.mem_append.1 hx with hx | hx
      · exact Nat.lt_succ_of_lt (h.fresh x hx)
      · rw [List.mem_singleton.1 hx]
        exact Nat.lt_succ_self _

theorem step_ordered (hE : E.FaultFree) {ev : CloudEvent} (h : c.Ordered []) (hC : StopsTogether E c ev) :
    (step E ev c).Ordered [] := by
  cases ev with
  | enqueue m => exact enqueueCloud_ordered h m
  | flush =>
    have hline : (step E .flush c).line [] = c.line [] := by
      unfold step Cloud.line Cloud.waitingTickets
      rw [List.filterMap_append]
      exact congrArg _ (List.append_nil _)
    exact ⟨by rw [hline]; exact h.line, by rw [hline]; exact h.fresh, h.direct, h.counted, h.noSpool⟩
  | proceed hasStream =>
    unfold step
    dsimp only
    split
    · exact h
    case h_2 call rest hw =>
      refine runCall_ordered (fun m ticket hcall => ?_) fun hcall => ?_
      · subst hcall
        refine enqueueLocked_ordered hE (h.take hw) (fun hs hspool => ?_) m
        subst hs
        exact hC hspool (by rw [hw]; rfl)
      · subst hcall
        exact flushCloudSpoolLocked_ordered hE (h.skipFlush hw) hasStream

/-- The sends of a step that breaks the condition are out of order. -/
theorem step_overtakes (hE : E.FaultFree) {ev : CloudEvent} (h : c.Ordered []) (hC : ¬ StopsTogether E c ev) :
    ¬ (step E ev c).InOrder := by
  intro hin
  refine hC ?_
  cases ev with
  | enqueue | flush => trivial
  | proceed hasStream =>
    cases hasStream with
    | false => trivial
    | true =>
      intro hspool hhead k hk hraised hsent
      unfold step at hin
      dsimp only at hin
      split at hin
      case h_1 hw =>
        rw [hw] at hhead
        cases hhead
      case h_2 call rest hw =>
        cases call with
        | flush =>
          rw [hw] at hhead
          cases hhead
        | enqueue m ticket =>
          obtain ⟨s, hs, hd, t, ht, hlt⟩ := enqueueLocked_overtakes hE (h.take hw) hspool hk hraised hsent m
          refine absurd (hin.direct s ?_ hd t ht) (Nat.not_le.2 hlt)
          unfold runCall
          dsimp only
          split <;> exact hs

/-- The rows an earlier process left get the first tickets. -/
theorem start_spoolTickets (deviceId : List Char) (limit : Nat) (readable : Bool) (items : Option (List Bytes)) :
    (start deviceId limit readable items).spoolTickets = List.range (items.getD []).length := by
  unfold spoolTickets start SqliteDeque.load
  simp [List.zipIdx_map_snd, Function.comp_def, List.range_eq_range']

theorem start_ordered (deviceId : List Char) (limit : Nat) (items : Option (List Bytes)) :
    (start deviceId limit true items).Ordered [] := by
  have hline : (start deviceId limit true items).line [] = List.range (items.getD []).length := by
    unfold Cloud.line
    rw [start_spoolTickets]
    simp [start, sentTickets, waitingTickets]
  refine ⟨?_, ?_, nofun, SqliteDeque.load_counted _ _, ?_⟩
  · rw [hline]
    exact List.pairwise_lt_range
  · rw [hline]
    exact fun t ht => List.mem_range.1 ht
  · cases items with
    | none => exact fun _ => rfl
    | some items => exact nofun

/-- With a database that raises no errors, in every run: all messages are written in the order in which they were
enqueued, and none directly past an older one in the spool, exactly when no direct publish succeeds right after the
flush of its call has stopped at a failed one. -/
theorem publish_order_iff (E : CloudIo) (hE : E.FaultFree) (deviceId : List Char) (limit : Nat)
    (items : Option (List Bytes)) (evs : List CloudEvent) :
    (∀ pre, pre <+: evs → (run (step E) (start deviceId limit true items) pre).InOrder) ↔
      Along (step E) (StopsTogether E) (start deviceId limit true items) evs := by
  refine reached_iff_along_of (J := fun c => c.Ordered []) (fun c ev h => ⟨fun hin => ?_, fun hC => ?_⟩)
    (fun c ev h hC => step_ordered hE h hC) (start_ordered ..).inOrder (start_ordered ..) evs
  · by_contra hC
    exact step_overtakes hE h hC hin
  · exact (step_ordered hE h hC).inOrder

instance (c : Cloud) : DecidablePred (StopsTogether E c)
  | .proceed true => inferInstanceAs (Decidable (_ → _ → ∀ k ∈ E.failedPublish _ _, _ → _))
  | .proceed false | .enqueue _ | .flush => inferInstanceAs (Decidable True)

def sampleMessage (p : UInt8) : CloudQueuedPublish := ⟨['A'], [p], none⟩

/-- The first message is enqueued without a stream, the second one with a stream. -/
def sampleOutage : List CloudEvent :=
  [.enqueue (sampleMessage 1), .proceed false, .enqueue (sampleMessage 2), .proceed true]

/-- Both publishes succeed: the spooled message goes first. -/
theorem publish_order_iff_recovered :
    (run (step (.sample (fun _ => .sent) fun _ => .ok)) (start [] 10 true (some [])) sampleOutage).sentTickets = [0, 1] ∧
      ∀ pre, pre <+: sampleOutage →
        (run (step (.sample (fun _ => .sent) fun _ => .ok)) (start [] 10 true (some [])) pre).InOrder :=
  ⟨by decide +kernel, (publish_order_iff (.sample (fun _ => .sent) fun _ => .ok) (fun _ => rfl) [] 10 (some [])
    sampleOutage).2 (by decide +kernel)⟩

/-- The publish of the spooled message fails, that of the new one succeeds. -/
theorem new_message_overtakes :
    ¬ ∀ (E : CloudIo), E.FaultFree → ∀ (deviceId : List Char) (limit : Nat) (items : Option (List Bytes))
      (evs : List CloudEvent), ∀ pre, pre <+: evs →
        (run (step E) (start deviceId limit true items) pre).InOrder := by
  intro h
  have hall := h (.sample (fun i => if i = 0 then .caught else .sent) fun _ => .ok) (fun _ => rfl) [] 10 (some [])
    sampleOutage
  have hsome : (run (step (.sample (fun i => if i = 0 then .caught else .sent) fun _ => .ok)) (start [] 10 true (some []))
      sampleOutage).sends = [⟨⟨2, [], 0, .systemStatusBlob [2]⟩, 1, true, [0]⟩] := by decide +kernel
  have hlast := (hall sampleOutage List.prefix_rfl).direct
  rw [hsome] at hlast
  exact absurd (hlast _ (List.mem_singleton_self _) rfl 0 (List.mem_singleton_self _)) (by decide)

end Cloud
end Daemon
end McuBridge
