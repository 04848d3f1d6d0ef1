import McuBridge.Daemon.SqliteDeque
import McuBridge.Lib.Run
import McuBridge.Mcu.Step

/-! # Mailbox messages for the MCU

Two ways lead from `mailbox_queue` to the `Mailbox` of the firmware: `_handle_mailbox` puts a message into the queue
and pushes it, `_on_mcu_mailbox_read` takes the oldest one out and answers with it. Neither looks at what the other
has sent. The methods are cut at their awaits, and what they send is in order on its way to the MCU. -/

namespace McuBridge
open Daemon (SqliteDeque DbCall)

/-- A message, with its place among all that were written. -/
structure MailboxMessage where
  number : Nat
  data : Bytes
  deriving DecidableEq

/-- CMD_MAILBOX_PUSH and CMD_MAILBOX_READ_RESP; the response to a read of the empty queue has no message. -/
inductive MailboxFrame where
  | push (m : MailboxMessage)
  | readResp (m : Option MailboxMessage)
  deriving DecidableEq

namespace MailboxFrame

def data : MailboxFrame → Bytes
  | .push m => m.data
  | .readResp m => (m.map MailboxMessage.data).getD []

def asPush : MailboxFrame → Option MailboxMessage
  | .push m => some m
  | .readResp _ => none

def asRead : MailboxFrame → Option MailboxMessage
  | .push _ => none
  | .readResp m => m

end MailboxFrame

/-- `waiting` are the writes between the append and `serial.send`, `pushing` is the one whose call of it holds the
lock, `answering` is the content of a read whose response has not been sent. `written`, `pushed`, `taken`, `delivered`
and `cleared` are records: all messages, those that `serial.send` was called for, those that reads took out of the
queue, the frames the firmware put into its own queue, and what `Mailbox.onLost` threw away of that. -/
structure MailboxLink where
  mcu : Mcu
  queue : SqliteDeque MailboxMessage
  waiting : List MailboxMessage := []
  pushing : Option MailboxMessage := none
  answering : Option (Option MailboxMessage) := none
  toMcu : List MailboxFrame := []
  written : List MailboxMessage
  pushed : List MailboxMessage := []
  taken : List MailboxMessage := []
  delivered : List MailboxFrame := []
  cleared : List Bytes := []

inductive MailboxEvent where
  /-- A write of the cloud, up to the append. -/
  | write (data : Bytes)
  /-- A write goes on to `serial.send`. -/
  | push (i : Nat)
  /-- An attempt of that call; it may fail. -/
  | attempt (writes : Bool)
  | returns
  /-- A read request of the MCU, up to `popleft`. -/
  | read
  | answer (writes : Bool)
  | deliver
  | lose
  /-- The sketch calls `Mailbox.process`. -/
  | process
  /-- The firmware enters its safe state, after a reset of the link for example. -/
  | safeState

namespace MailboxLink

/-- A call of `_execute` on a database that works. -/
def works : DbCall := ⟨.ok, true, .ok⟩

def step : MailboxEvent → MailboxLink → MailboxLink
  | .write data, s =>
    let m : MailboxMessage := ⟨s.written.length, data⟩
    { s with
      queue := (s.queue.execute works (SqliteDeque.appendImpl m)).1
      written := s.written ++ [m]
      waiting := s.waiting ++ [m] }
  | .push i, s =>
    match s.pushing, s.waiting[i]? with
    | none, some m => { s with waiting := s.waiting.eraseIdx i, pushing := some m, pushed := s.pushed ++ [m] }
    | _, _ => s
  | .attempt writes, s =>
    match s.pushing with
    | some m => if writes then { s with toMcu := s.toMcu ++ [.push m] } else s
    | none => s
  | .returns, s => { s with pushing := none }
  | .read, s =>
    if s.answering.isSome then s
    else
      match s.queue.execute works SqliteDeque.popleftImpl with
      | (q, .ok m) => { s with queue := q, answering := some (some m), taken := s.taken ++ [m] }
      | (q, .error _) => { s with queue := q, answering := some none }
  | .answer writes, s =>
    match s.answering with
    | some m =>
      { s with answering := none, toMcu := if writes then s.toMcu ++ [.readResp m] else s.toMcu }
    | none => s
  | .deliver, s =>
    match s.toMcu with
    | f :: rest =>
      { s with
        mcu := s.mcu.mailboxQueuePush f.data
        toMcu := rest
        delivered := if mailboxCapacity ≤ s.mcu.services.mailboxQueue.length then s.delivered else s.delivered ++ [f] }
    | [] => s
  | .lose, s => { s with toMcu := s.toMcu.tail }
  | .process, s => { s with mcu := s.mcu.mailboxProcess }
  | .safeState, s =>
    { s with mcu := s.mcu.enterSafeState, cleared := s.cleared ++ s.mcu.services.mailboxQueue }

/-- The queue as an earlier run has left it. -/
def start (mcu : Mcu) (maxlen : Option Nat) (rows : List Bytes) : MailboxLink :=
  let messages := rows.zipIdx.map fun (data, number) => (⟨number, data⟩ : MailboxMessage)
  { mcu := mcu, queue := .load messages maxlen true, written := messages }

/-! ### Statement -/

/-- What the sketch's callback was called with. -/
def callbacks (m : Mcu) : List Bytes :=
  m.acts.filterMap fun
    | .messageCallback data => some data
    | _ => none

/-- `queue`: the messages written last. `gone`: a message is in the queue until a read takes it, or as many newer ones
are written as the queue can hold. `reads`: the responses of reads deliver every message at most once, in the order
written. `calls`, `pushes`: `serial.send` is called at most once for the push of a message, and the pushes are delivered
in the order of these calls. `callback`, `missing`: what is delivered goes to the sketch in this order, except what a
safe state has cleared. -/
structure Delivers (mcu : Mcu) (s : MailboxLink) : Prop where
  queue : s.queue.rows <:+ s.written
  gone : ∀ m ∈ s.written, m ∈ s.queue.rows ∨ m ∈ s.taken ∨
    ∃ n, s.queue.maxlen = some n ∧ m.number + n < s.written.length
  reads : (s.delivered.filterMap MailboxFrame.asRead).Sublist s.written
  calls : s.pushed.Nodup
  pushes : (s.delivered.filterMap MailboxFrame.asPush).Pairwise fun m m' => s.pushed.idxOf m ≤ s.pushed.idxOf m'
  callback : (callbacks s.mcu ++ s.mcu.services.mailboxQueue).Sublist
    (callbacks mcu ++ mcu.services.mailboxQueue ++ s.delivered.map fun f => f.data.take 64)
  missing : (callbacks s.mcu ++ s.mcu.services.mailboxQueue ++ s.cleared).Perm
    (callbacks mcu ++ mcu.services.mailboxQueue ++ s.delivered.map fun f => f.data.take 64)

/-! ### The queue -/

variable {s : MailboxLink}

/-- What has left the queue is `front`; reads took some of it, the rest was displaced. -/
structure Kept (front : List MailboxMessage) (s : MailboxLink) : Prop where
  written : s.written = front ++ s.queue.rows
  taken : s.taken.Sublist front
  gone : ∀ m ∈ front, m ∈ s.taken ∨ ∃ n, s.queue.maxlen = some n ∧ m.number + n < s.written.length
  counted : s.queue.Counted

/-- The state of the queue and the records of it. -/
structure SameQueue (s t : MailboxLink) : Prop where
  queue : t.queue = s.queue
  written : t.written = s.written
  taken : t.taken = s.taken

theorem Kept.of_same {front : List MailboxMessage} {t : MailboxLink} (h : Kept front s) (hs : SameQueue s t) :
    Kept front t := by
  refine ⟨?_, ?_, ?_, ?_⟩
  · rw [hs.written, hs.queue]
    exact h.written
  · rw [hs.taken]
    exact h.taken
  · rw [hs.taken, hs.queue, hs.written]
    exact h.gone
  · rw [hs.queue]
    exact h.counted

/-- An append displaces the oldest messages beyond the limit. -/
theorem append_cases (m : MailboxMessage) {q : SqliteDeque MailboxMessage} (hq : q.Counted) :
    ∃ k, (q.execute works (SqliteDeque.appendImpl m)).1.rows = (q.rows ++ [m]).drop k ∧
      (q.execute works (SqliteDeque.appendImpl m)).1.maxlen = q.maxlen ∧
      (q.execute works (SqliteDeque.appendImpl m)).1.Counted ∧
      (k = 0 ∨ ∃ n, q.maxlen = some n ∧ k + n = q.rows.length + 1) := by
  have hlen : q.length = q.rows.length := hq
  cases happ : SqliteDeque.appendImpl m q with
  | none =>
    unfold SqliteDeque.appendImpl at happ
    dsimp only at happ
    split at happ
    · split at happ <;> cases happ
    · cases happ
  | some r =>
    have hcounted : r.2.Counted := SqliteDeque.appendImpl_counted hq happ
    rw [SqliteDeque.execute_ok rfl, happ]
    dsimp only
    unfold SqliteDeque.appendImpl at happ
    dsimp only at happ
    split at happ
    case h_1 n hmax =>
      split at happ
      case isTrue hover =>
        cases happ
        refine ⟨q.length + 1 - n, rfl, hmax.symm ▸ rfl, hcounted, .inr ⟨n, hmax, ?_⟩⟩
        omega
      case isFalse =>
        cases happ
        exact ⟨0, rfl, rfl, hcounted, .inl rfl⟩
    case h_2 =>
      cases happ
      exact ⟨0, rfl, rfl, hcounted, .inl rfl⟩

/-- The messages are numbered in the order written. -/
def Numbered (l : List MailboxMessage) : Prop := l.map MailboxMessage.number = List.range l.length

theorem Numbered.append {l : List MailboxMessage} (h : Numbered l) (data : Bytes) :
    Numbered (l ++ [⟨l.length, data⟩]) := by
  unfold Numbered at h ⊢
  rw [List.map_append, h, List.length_append, List.length_singleton, List.range_succ]
  rfl

theorem Numbered.getElem {l : List MailboxMessage} (h : Numbered l) {i : Nat} {m : MailboxMessage}
    (hm : l[i]? = some m) :
    m.number = i := by
  have hmap : (l.map MailboxMessage.number)[i]? = some m.number := by rw [List.getElem?_map, hm, Option.map_some]
  unfold Numbered at h
  rw [h] at hmap
  obtain ⟨hi, heq⟩ := List.getElem?_eq_some_iff.1 hmap
  rw [List.getElem_range] at heq
  exact heq.symm

theorem Kept.write {front : List MailboxMessage} (h : Kept front s) (hnum : Numbered s.written) (data : Bytes) :
    ∃ front', Kept front' (step (.write data) s) := by
  obtain ⟨k, hrows, hmax, hcounted, hk⟩ := append_cases (⟨s.written.length, data⟩ : MailboxMessage) h.counted
  have hwritten : (step (.write data) s).written = s.written ++ [⟨s.written.length, data⟩] := rfl
  have hqueue : (step (.write data) s).queue =
      (s.queue.execute works (SqliteDeque.appendImpl ⟨s.written.length, data⟩)).1 := rfl
  have hnum' := hnum.append data
  rw [← hqueue] at hrows hmax hcounted
  rw [← hwritten] at hnum'
  generalize (⟨s.written.length, data⟩ : MailboxMessage) = new at hrows hwritten
  have hlen : (step (.write data) s).written.length = front.length + s.queue.rows.length + 1 := by
    rw [hwritten, List.length_append, h.written, List.length_append, List.length_singleton]
  refine ⟨front ++ (s.queue.rows ++ [new]).take k, ?_, ?_, ?_, hcounted⟩
  · rw [hwritten, hrows, List.append_assoc, List.take_append_drop, h.written, List.append_assoc]
  · exact h.taken.trans (List.sublist_append_left ..)
  · intro m hm
    rw [List.mem_append] at hm
    obtain hm | hm := hm
    · obtain htaken | ⟨n, hn, hlt⟩ := h.gone m hm
      · exact .inl htaken
      · refine .inr ⟨n, hmax.trans hn, ?_⟩
        rw [hwritten, List.length_append]
        omega
    · -- displaced now
      obtain ⟨j, hj⟩ := List.mem_iff_getElem?.1 hm
      rw [List.getElem?_take] at hj
      split at hj
      case isFalse => cases hj
      case isTrue hjk =>
        obtain rfl | ⟨n, hn, hkn⟩ := hk
        · omega
        · have hget : (step (.write data) s).written[front.length + j]? = some m := by
            rw [hwritten, h.written, List.append_assoc, List.getElem?_append_right (Nat.le_add_right ..),
              Nat.add_sub_cancel_left]
            exact hj
          refine .inr ⟨n, hmax.trans hn, ?_⟩
          rw [hnum'.getElem hget, hlen]
          omega

theorem Kept.read {front : List MailboxMessage} (h : Kept front s) (hidle : s.answering = none) :
    ∃ front', Kept front' (step .read s) := by
  simp only [step]
  rw [hidle, if_neg (by simp), SqliteDeque.execute_ok rfl]
  cases hpop : SqliteDeque.popleftImpl s.queue with
  | none => exact ⟨front, h.of_same ⟨rfl, rfl, rfl⟩⟩
  | some r =>
    obtain ⟨m, q⟩ := r
    have hcounted : q.Counted := SqliteDeque.popleftImpl_counted h.counted hpop
    unfold SqliteDeque.popleftImpl at hpop
    split at hpop
    · cases hpop
    case h_2 rest hrows =>
      cases hpop
      refine ⟨front ++ [m], ?_, ?_, ?_, hcounted⟩
      · show s.written = front ++ [m] ++ rest
        rw [h.written, hrows, List.append_assoc]
        rfl
      · exact h.taken.append_right [m]
      · intro m' hm'
        rw [List.mem_append] at hm'
        obtain hm' | hm' := hm'
        · obtain htaken | hgone := h.gone m' hm'
          · exact .inl (List.mem_append_left _ htaken)
          · exact .inr hgone
        · exact .inl (List.mem_append_right _ hm')

theorem Kept.step {front : List MailboxMessage} (h : Kept front s) (hnum : Numbered s.written) (e : MailboxEvent) :
    ∃ front', Kept front' (step e s) := by
  have hsame : ∀ {t}, SameQueue s t → ∃ front', Kept front' t := fun ht => ⟨front, h.of_same ht⟩
  cases e with
  | write data => exact h.write hnum data
  | read =>
    cases hidle : s.answering with
    | none => exact h.read hidle
    | some m =>
      simp only [MailboxLink.step]
      rw [if_pos (by rw [hidle]; rfl)]
      exact ⟨front, h⟩
  | push i =>
    simp only [MailboxLink.step]
    split
    · exact hsame ⟨rfl, rfl, rfl⟩
    · exact ⟨front, h⟩
  | attempt writes =>
    simp only [MailboxLink.step]
    split
    · split
      · exact hsame ⟨rfl, rfl, rfl⟩
      · exact ⟨front, h⟩
    · exact ⟨front, h⟩
  | answer writes =>
    simp only [MailboxLink.step]
    split
    · exact hsame ⟨rfl, rfl, rfl⟩
    · exact ⟨front, h⟩
  | deliver =>
    simp only [MailboxLink.step]
    split
    · exact hsame ⟨rfl, rfl, rfl⟩
    · exact ⟨front, h⟩
  | returns => exact hsame ⟨rfl, rfl, rfl⟩
  | lose => exact hsame ⟨rfl, rfl, rfl⟩
  | process => exact hsame ⟨rfl, rfl, rfl⟩
  | safeState =>
    simp only [MailboxLink.step]
    exact hsame ⟨rfl, rfl, rfl⟩

theorem Numbered.step (h : Numbered s.written) (e : MailboxEvent) : Numbered (step e s).written := by
  cases e with
  | write data => exact h.append data
  | returns | lose | process | safeState => exact h
  | push i | attempt writes | read | answer writes | deliver =>
    simp only [MailboxLink.step]
    repeat' split
    all_goals exact h

/-! ### The responses of reads -/

/-- Delivered, on their way, or about to be sent: in the order in which reads took them. -/
def Reads (s : MailboxLink) : Prop :=
  ((s.delivered ++ s.toMcu).filterMap MailboxFrame.asRead ++ s.answering.join.toList).Sublist s.taken

theorem Reads.step (h : Reads s) (e : MailboxEvent) : Reads (step e s) := by
  unfold Reads at h ⊢
  rw [List.filterMap_append] at h ⊢
  cases e with
  | write data | returns | process | safeState => exact h
  | push i =>
    simp only [MailboxLink.step]
    split <;> exact h
  | attempt writes =>
    simp only [MailboxLink.step]
    split
    · split
      · rw [List.filterMap_append, List.filterMap_cons_none rfl, List.filterMap_nil, List.append_nil]
        exact h
      · exact h
    · exact h
  | read =>
    simp only [MailboxLink.step]
    split
    · exact h
    case isFalse hidle =>
      have hnone : s.answering = none := by simpa using hidle
      rw [hnone, Option.join_none, Option.toList_none, List.append_nil] at h
      split
      · exact h.append_right [_]
      · simpa using h
  | answer writes =>
    simp only [MailboxLink.step]
    split
    case h_2 => exact h
    case h_1 m hm =>
      rw [hm] at h
      cases writes with
      | true =>
        rw [if_pos rfl, List.filterMap_append, ← List.append_assoc, Option.join_none, Option.toList_none,
          List.append_nil]
        cases m with
        | none => exact h
        | some m => exact h
      | false =>
        rw [if_neg (by simp), Option.join_none, Option.toList_none, List.append_nil]
        exact (List.sublist_append_left ..).trans h
  | deliver =>
    simp only [MailboxLink.step]
    split
    case h_2 => exact h
    case h_1 f rest hf =>
      rw [hf] at h
      split
      · refine List.Sublist.trans ?_ h
        refine List.Sublist.append_right (List.Sublist.append_left ?_ _) _
        exact (List.sublist_cons_self f rest).filterMap _
      · rw [← List.filterMap_append, List.append_assoc, List.singleton_append, List.filterMap_append]
        exact h
  | lose =>
    refine List.Sublist.trans ?_ h
    refine List.Sublist.append_right (List.Sublist.append_left ?_ _) _
    exact (List.tail_sublist s.toMcu).filterMap _

/-! ### The pushes -/

/-- `fresh`: no message is waiting twice or waiting and pushed. `order`: the pushes that are delivered or on their way
are in the order of the calls, the last of which may be running. -/
structure Calls (s : MailboxLink) : Prop where
  fresh : (s.pushed ++ s.waiting).Nodup
  known : ∀ m ∈ s.pushed ++ s.waiting, m ∈ s.written
  last : ∀ m, s.pushing = some m → ∃ l, s.pushed = l ++ [m]
  called : ∀ m ∈ (s.delivered ++ s.toMcu).filterMap MailboxFrame.asPush, m ∈ s.pushed
  order : ((s.delivered ++ s.toMcu).filterMap MailboxFrame.asPush).Pairwise fun m m' =>
    s.pushed.idxOf m ≤ s.pushed.idxOf m'

theorem Calls.of_sublist (h : Calls s) {t : MailboxLink} (hw : t.waiting = s.waiting) (hp : t.pushed = s.pushed)
    (hwr : t.written = s.written) (hl : ∀ m, t.pushing = some m → s.pushing = some m)
    (hf : ((t.delivered ++ t.toMcu).filterMap MailboxFrame.asPush).Sublist
      ((s.delivered ++ s.toMcu).filterMap MailboxFrame.asPush)) : Calls t := by
  refine ⟨?_, ?_, fun m hm => ?_, fun m hm => ?_, ?_⟩
  · rw [hp, hw]
    exact h.fresh
  · rw [hp, hw, hwr]
    exact h.known
  · rw [hp]
    exact h.last m (hl m hm)
  · rw [hp]
    exact h.called m (hf.subset hm)
  · rw [hp]
    exact h.order.sublist hf

theorem Calls.write (h : Calls s) (hnum : Numbered s.written) (data : Bytes) : Calls (step (.write data) s) := by
  have hnew : (⟨s.written.length, data⟩ : MailboxMessage) ∉ s.written := by
    intro hmem
    obtain ⟨i, hi⟩ := List.mem_iff_getElem?.1 hmem
    have hlt := (List.getElem?_eq_some_iff.1 hi).1
    have heq : s.written.length = i := hnum.getElem hi
    omega
  refine ⟨?_, ?_, h.last, h.called, h.order⟩
  · show (s.pushed ++ (s.waiting ++ [_])).Nodup
    rw [← List.append_assoc, List.nodup_append]
    refine ⟨h.fresh, List.nodup_singleton _, fun m hm m' hm' heq => ?_⟩
    rw [List.mem_singleton] at hm'
    rw [heq, hm'] at hm
    exact hnew (h.known _ hm)
  · intro m hm
    have hm : m ∈ s.pushed ++ (s.waiting ++ [⟨s.written.length, data⟩]) := hm
    show m ∈ s.written ++ [_]
    rw [← List.append_assoc, List.mem_append] at hm
    obtain hm | hm := hm
    · exact List.mem_append_left _ (h.known m hm)
    · exact List.mem_append_right _ hm

theorem Calls.push (h : Calls s) (i : Nat) : Calls (step (.push i) s) := by
  simp only [step]
  split
  case h_2 => exact h
  case h_1 m hidle hm =>
    obtain ⟨hi, hget⟩ := List.getElem?_eq_some_iff.1 hm
    have hperm : (s.pushed ++ [m] ++ s.waiting.eraseIdx i).Perm (s.pushed ++ s.waiting) := by
      rw [List.append_assoc, List.singleton_append, ← hget]
      exact List.Perm.append_left _ (List.getElem_cons_eraseIdx_perm hi)
    refine ⟨hperm.nodup_iff.2 h.fresh, fun m' hm' => h.known m' (hperm.mem_iff.1 hm'), ?_, ?_, ?_⟩
    · intro m' hm'
      cases hm'
      exact ⟨s.pushed, rfl⟩
    · exact fun m' hm' => List.mem_append_left _ (h.called m' hm')
    · refine h.order.imp_of_mem fun {a b} ha hb hab => ?_
      rw [List.idxOf_append_of_mem (h.called a ha), List.idxOf_append_of_mem (h.called b hb)]
      exact hab

theorem Calls.attempt (h : Calls s) (writes : Bool) : Calls (step (.attempt writes) s) := by
  simp only [step]
  split
  case h_2 => exact h
  case h_1 m hm =>
    split
    case isFalse => exact h
    case isTrue =>
      obtain ⟨l, hl⟩ := h.last m hm
      have hmem : m ∈ s.pushed := by
        rw [hl]
        exact List.mem_append_right _ (List.mem_singleton_self m)
      have hfresh : m ∉ l := by
        intro hml
        have hnodup := (List.nodup_append.1 h.fresh).1
        rw [hl, List.nodup_append] at hnodup
        exact hnodup.2.2 m hml m (List.mem_singleton_self m) rfl
      have hidx : s.pushed.idxOf m = l.length := by
        rw [hl, List.idxOf_append_of_notMem hfresh, List.idxOf_cons_self, Nat.add_zero]
      have hfilter : (s.delivered ++ (s.toMcu ++ [MailboxFrame.push m])).filterMap MailboxFrame.asPush =
          (s.delivered ++ s.toMcu).filterMap MailboxFrame.asPush ++ [m] := by
        rw [← List.append_assoc, List.filterMap_append]
        rfl
      refine ⟨h.fresh, h.known, h.last, fun m' hm' => ?_, ?_⟩
      · have hm' : m' ∈ (s.delivered ++ (s.toMcu ++ [MailboxFrame.push m])).filterMap MailboxFrame.asPush := hm'
        rw [hfilter, List.mem_append, List.mem_singleton] at hm'
        obtain hm' | rfl := hm'
        · exact h.called m' hm'
        · exact hmem
      · show ((s.delivered ++ (s.toMcu ++ [MailboxFrame.push m])).filterMap MailboxFrame.asPush).Pairwise _
        rw [hfilter, List.pairwise_append]
        refine ⟨h.order, List.pairwise_singleton .., fun a ha b hb => ?_⟩
        rw [List.mem_singleton] at hb
        have hlt := List.idxOf_lt_length_of_mem (h.called a ha)
        rw [hl, List.length_append, List.length_singleton] at hlt
        rw [hb, hidx, hl]
        omega

theorem Calls.step (h : Calls s) (hnum : Numbered s.written) (e : MailboxEvent) : Calls (step e s) := by
  cases e with
  | write data => exact h.write hnum data
  | push i => exact h.push i
  | attempt writes => exact h.attempt writes
  | returns => exact h.of_sublist rfl rfl rfl nofun (List.Sublist.refl _)
  | read =>
    simp only [MailboxLink.step]
    repeat' split
    all_goals exact h.of_sublist rfl rfl rfl (fun _ => id) (List.Sublist.refl _)
  | answer writes =>
    simp only [MailboxLink.step]
    split
    case h_2 => exact h
    case h_1 m hm =>
      refine h.of_sublist rfl rfl rfl (fun _ => id) ?_
      cases writes with
      | true =>
        rw [if_pos rfl, ← List.append_assoc, List.filterMap_append, List.filterMap_cons_none rfl, List.filterMap_nil,
          List.append_nil]
      | false => exact List.Sublist.refl _
  | deliver =>
    simp only [MailboxLink.step]
    split
    case h_2 => exact h
    case h_1 f rest hf =>
      refine h.of_sublist rfl rfl rfl (fun _ => id) ?_
      rw [hf]
      split
      · exact ((List.sublist_cons_self f rest).append_left _).filterMap _
      · rw [List.append_assoc]
        exact List.Sublist.refl _
  | lose => exact h.of_sublist rfl rfl rfl (fun _ => id) (((List.tail_sublist s.toMcu).append_left _).filterMap _)
  | process => exact h.of_sublist rfl rfl rfl (fun _ => id) (List.Sublist.refl _)
  | safeState =>
    simp only [MailboxLink.step]
    exact h.of_sublist rfl rfl rfl (fun _ => id) (List.Sublist.refl _)

/-! ### The sketch -/

/-- Every message before the sketch's queue has been handed to it, waits there, or was cleared. -/
structure Handed (before : List Bytes) (s : MailboxLink) : Prop where
  order : (callbacks s.mcu ++ s.mcu.services.mailboxQueue).Sublist (before ++ s.delivered.map fun f => f.data.take 64)
  missing : (callbacks s.mcu ++ s.mcu.services.mailboxQueue ++ s.cleared).Perm
    (before ++ s.delivered.map fun f => f.data.take 64)

theorem Handed.of_same {before : List Bytes} {t : MailboxLink} (h : Handed before s)
    (hcalls : callbacks t.mcu ++ t.mcu.services.mailboxQueue = callbacks s.mcu ++ s.mcu.services.mailboxQueue)
    (hdelivered : t.delivered = s.delivered) (hcleared : t.cleared = s.cleared) : Handed before t := by
  refine ⟨?_, ?_⟩
  · rw [hcalls, hdelivered]
    exact h.order
  · rw [hcalls, hdelivered, hcleared]
    exact h.missing

theorem callbacks_process (m : Mcu) :
    callbacks m.mailboxProcess ++ m.mailboxProcess.services.mailboxQueue =
      callbacks m ++ m.services.mailboxQueue := by
  unfold Mcu.mailboxProcess
  split
  · rfl
  case h_2 data rest hqueue =>
    split
    · have hcalls : callbacks (m.act (.messageCallback data)) = callbacks m ++ [data] := by
        unfold callbacks Mcu.act
        rw [List.filterMap_append]
        rfl
      show callbacks (m.act (.messageCallback data)) ++ rest = _
      rw [hcalls, hqueue, List.append_assoc, List.singleton_append]
    · rfl

theorem callbacks_enterSafeState (m : Mcu) : callbacks m.enterSafeState = callbacks m := by
  have hacts : m.enterSafeState.acts = (if m.fsm.onEvent .reset = .fault ∧ m.fsm ≠ .fault
      then m.acts ++ [.forceSafeState] ++ [.forceSafeState] else m.acts ++ [.forceSafeState]) ++ [.spiEnd] := rfl
  unfold callbacks
  rw [hacts]
  split <;> simp

theorem Handed.deliver {before : List Bytes} (h : Handed before s) : Handed before (step .deliver s) := by
  simp only [step]
  split
  case h_2 => exact h
  case h_1 f rest hf =>
    unfold Mcu.mailboxQueuePush
    split
    · exact h.of_same rfl rfl rfl
    · have hqueue (tail : List Bytes) : callbacks s.mcu ++ (s.mcu.services.mailboxQueue ++ [f.data.take 64]) ++ tail =
          callbacks s.mcu ++ s.mcu.services.mailboxQueue ++ (f.data.take 64 :: tail) := by simp
      have hdelivered : before ++ (s.delivered ++ [f]).map (fun f => f.data.take 64) =
          before ++ s.delivered.map (fun f => f.data.take 64) ++ [f.data.take 64] := by simp
      refine ⟨?_, ?_⟩
      · show (callbacks s.mcu ++ (s.mcu.services.mailboxQueue ++ [f.data.take 64])).Sublist _
        rw [hdelivered, ← List.append_assoc]
        exact h.order.append_right _
      · show (callbacks s.mcu ++ (s.mcu.services.mailboxQueue ++ [f.data.take 64]) ++ s.cleared).Perm _
        rw [hdelivered, hqueue]
        exact List.perm_middle.trans ((h.missing.cons _).trans (List.perm_append_singleton ..).symm)

theorem Handed.step {before : List Bytes} (h : Handed before s) (e : MailboxEvent) : Handed before (step e s) := by
  cases e with
  | write data | returns | lose => exact h.of_same rfl rfl rfl
  | push i | attempt writes | read | answer writes =>
    simp only [MailboxLink.step]
    repeat' split
    all_goals exact h.of_same rfl rfl rfl
  | deliver => exact h.deliver
  | process => exact h.of_same (callbacks_process _) rfl rfl
  | safeState =>
    have hqueue : s.mcu.enterSafeState.services.mailboxQueue = [] := rfl
    have hcalls := callbacks_enterSafeState s.mcu
    simp only [MailboxLink.step]
    refine ⟨?_, ?_⟩
    · dsimp only
      rw [hqueue, hcalls, List.append_nil]
      exact (List.sublist_append_left ..).trans h.order
    · dsimp only
      rw [hqueue, hcalls, List.append_nil]
      -- what waited is now among the cleared
      refine List.Perm.trans ?_ h.missing
      rw [List.append_assoc]
      exact List.perm_append_comm.append_left _

/-! ### Runs -/

theorem numbered_zipIdx (rows : List Bytes) :
    Numbered (rows.zipIdx.map fun (data, number) => (⟨number, data⟩ : MailboxMessage)) := by
  unfold Numbered
  rw [List.map_map, List.length_map, List.length_zipIdx, List.range_eq_range']
  exact List.zipIdx_map_snd ..

structure Inv (mcu : Mcu) (s : MailboxLink) : Prop where
  numbered : Numbered s.written
  kept : ∃ front, Kept front s
  reads : Reads s
  calls : Calls s
  handed : Handed (callbacks mcu ++ mcu.services.mailboxQueue) s

theorem Inv.step {mcu : Mcu} (h : Inv mcu s) (e : MailboxEvent) : Inv mcu (step e s) := by
  obtain ⟨front, hkept⟩ := h.kept
  exact ⟨h.numbered.step e, hkept.step h.numbered e, h.reads.step e, h.calls.step h.numbered e,
    h.handed.step e⟩

theorem Inv.delivers {mcu : Mcu} (h : Inv mcu s) : Delivers mcu s := by
  obtain ⟨front, hkept⟩ := h.kept
  refine ⟨⟨front, hkept.written.symm⟩, fun m hm => ?_, ?_, (List.nodup_append.1 h.calls.fresh).1, ?_, h.handed.order,
    h.handed.missing⟩
  · rw [hkept.written, List.mem_append] at hm
    obtain hm | hm := hm
    · exact .inr (hkept.gone m hm)
    · exact .inl hm
  · have hdelivered : (s.delivered.filterMap MailboxFrame.asRead).Sublist s.taken := by
      refine List.Sublist.trans ?_ h.reads
      rw [List.filterMap_append, List.append_assoc]
      exact List.sublist_append_left ..
    refine (hdelivered.trans hkept.taken).trans ?_
    rw [hkept.written]
    exact List.sublist_append_left ..
  · refine h.calls.order.sublist ?_
    rw [List.filterMap_append]
    exact List.sublist_append_left ..

end MailboxLink
end McuBridge
