import McuBridge.Daemon.CloudOrder

/-! # Where every message is

A ledger over the whole run: each message handed to `enqueue_cloud` is waiting, in the spool, counted by a drop counter
or sent. `_execute` breaks it when it deletes a database with rows, when it forgets how many there are, or when it
cannot remove what was published; the stream and the bounded queue break it with exceptions that leave
`enqueue_cloud`. Failures that do nothing of the kind are harmless. -/

namespace McuBridge
namespace Daemon
open Run

/-- The failure costs no message. An uncaught exception of the stream ends a mere flush early; a failed SQLite call
finds no rows and does not count one that it does not commit, or it cannot delete the database, and then neither
leaves a published message behind nor meets an undecodable one. -/
def CloudFailure.Harmless (E : CloudIo) : CloudFailure → Prop
  | .queueFull _ => False
  | .stream call => call = .flush
  | .database use rows call =>
    match rows with
    | [] => use = .append → call.second ≠ .raises true
    | entry :: _ => call.unlinks = false ∧ (use = .popPublished → call.second = .ok) ∧
        (use = .peek → call.second = .ok → (E.decode entry.bytes).isSome = true)

/-- Rows are deleted with the database. -/
def CloudFailure.Loses : CloudFailure → Prop
  | .database _ rows call => rows ≠ [] ∧ call.unlinks = true
  | _ => False

namespace Cloud

def countedTickets (c : Cloud) : List Nat := c.counted.map Prod.fst

/-- The message is published, or in the spool, or counted once, and only one of these. -/
def AccountedFor (c : Cloud) (x : Nat) : Prop :=
  (x ∈ c.sentTickets ∧ x ∉ c.spoolTickets ∧ x ∉ c.countedTickets) ∨
  (x ∉ c.sentTickets ∧ x ∈ c.spoolTickets ∧ x ∉ c.countedTickets) ∨
  (x ∉ c.sentTickets ∧ x ∉ c.spoolTickets ∧ c.countedTickets.count x = 1)

/-- Every message that is not in the hands of a waiting call is accounted for, and the counters say what was
counted. -/
structure Conserved (c : Cloud) : Prop where
  messages : ∀ x < c.tickets, x ∉ c.waitingTickets → c.AccountedFor x
  counters : ∀ k, c.counter k = c.counted.countP fun y => y.2 == k

variable (E : CloudIo)

/-- The books are right after the step, and the spool counts as degraded if the step lost rows. -/
structure BooksRight (c : Cloud) (ev : CloudEvent) : Prop where
  conserved : (step E ev c).Conserved
  degraded : ∀ f ∈ (step E ev c).failures.drop c.failures.length, f.Loses → (step E ev c).cloudSpoolDegraded = true

/-- The failures of the step are harmless. -/
def HarmlessStep (c : Cloud) (ev : CloudEvent) : Prop :=
  ∀ f ∈ (step E ev c).failures.drop c.failures.length, f.Harmless E

/-- The ledger, with the messages in the hand of the running call. -/
structure Sound (c : Cloud) (hand : List Nat) : Prop where
  ledger : ∀ x, hand.count x + c.waitingTickets.count x + c.spoolTickets.count x + c.countedTickets.count x +
    (if x ∈ c.sentTickets then 1 else 0) = if x < c.tickets then 1 else 0
  counters : ∀ k, c.counter k = c.counted.countP fun y => y.2 == k
  length : c.spool.length ≤ c.spool.rows.length
  maxlen : c.spool.maxlen = some c.cloudQueueLimit
  limit : 0 < c.cloudQueueLimit

variable {E} {c t : Cloud}

theorem Sound.conserved (h : c.Sound []) : c.Conserved where
  counters := h.counters
  messages x hx hwaiting := by
    have htotal := h.ledger x
    rw [if_pos hx, List.count_nil, List.count_eq_zero_of_not_mem hwaiting] at htotal
    unfold AccountedFor
    by_cases hsent : x ∈ c.sentTickets
    · rw [if_pos hsent] at htotal
      exact .inl ⟨hsent, List.count_eq_zero.1 (by omega), List.count_eq_zero.1 (by omega)⟩
    · rw [if_neg hsent] at htotal
      by_cases hspool : x ∈ c.spoolTickets
      · have hpos := List.count_pos_iff.2 hspool
        exact .inr (.inl ⟨hsent, hspool, List.count_eq_zero.1 (by omega)⟩)
      · rw [List.count_eq_zero_of_not_mem hspool] at htotal
        exact .inr (.inr ⟨hsent, hspool, by omega⟩)

/-! ### Moves in the ledger -/

/-- All but the spool. -/
structure SameBooks (c t : Cloud) : Prop where
  waiting : t.waiting = c.waiting
  sends : t.sends = c.sends
  counted : t.counted = c.counted
  counters : ∀ k, t.counter k = c.counter k
  tickets : t.tickets = c.tickets
  limit : t.cloudQueueLimit = c.cloudQueueLimit

/-- Messages go from the spool to the hand or back. -/
theorem Sound.move {hand hand' : List Nat} (h : c.Sound hand) (hbooks : SameBooks c t)
    (hcount : ∀ x, hand'.count x + t.spoolTickets.count x = hand.count x + c.spoolTickets.count x)
    (hlength : t.spool.length ≤ t.spool.rows.length) (hmaxlen : t.spool.maxlen = c.spool.maxlen) : t.Sound hand' where
  ledger x := by
    have hx := h.ledger x
    have hc := hcount x
    unfold Cloud.waitingTickets Cloud.countedTickets Cloud.sentTickets at hx ⊢
    rw [hbooks.waiting, hbooks.counted, hbooks.sends, hbooks.tickets]
    omega
  counters k := by
    rw [hbooks.counters, hbooks.counted]
    exact h.counters k
  length := hlength
  maxlen := by
    rw [hmaxlen, h.maxlen, hbooks.limit]
  limit := by
    rw [hbooks.limit]
    exact h.limit

theorem Sound.congr {hand : List Nat} (h : c.Sound hand) (hbooks : SameBooks c t) (hspool : t.spool = c.spool) :
    t.Sound hand := by
  refine h.move hbooks (fun x => ?_) (by rw [hspool]; exact h.length) (by rw [hspool])
  unfold Cloud.spoolTickets
  rw [hspool]

/-- The rows are as before, the number is another one. -/
theorem Sound.setLength {hand : List Nat} {q : SqliteDeque SpoolEntry} {n : Nat} (h : c.Sound hand) (hbooks : SameBooks c t)
    (hrows : q.rows = c.spool.rows) (hmax : q.maxlen = c.spool.maxlen) (heq : t.spool = { q with length := n })
    (hn : n ≤ c.spool.rows.length) : t.Sound hand := by
  refine h.move hbooks (fun x => ?_) ?_ (by rw [heq]; exact hmax)
  · unfold Cloud.spoolTickets
    rw [heq, hrows]
  · rw [heq]
    show n ≤ q.rows.length
    rw [hrows]
    exact hn

theorem Sound.count {hand : List Nat} {x : Nat} (h : c.Sound (x :: hand)) (k : DropCounter) :
    (c.count k x).Sound hand where
  ledger y := by
    have hy := h.ledger y
    have hcounted : (c.count k x).countedTickets = c.countedTickets ++ [x] := by
      cases k <;> exact List.map_append
    have hrest : (c.count k x).waitingTickets = c.waitingTickets ∧ (c.count k x).spoolTickets = c.spoolTickets ∧
        (c.count k x).sentTickets = c.sentTickets ∧ (c.count k x).tickets = c.tickets := by
      cases k <;> exact ⟨rfl, rfl, rfl, rfl⟩
    obtain ⟨hw, hs, hsent, ht⟩ := hrest
    rw [hcounted, hw, hs, hsent, ht, List.count_append]
    rw [List.count_cons] at hy
    simp only [List.count_cons, List.count_nil]
    omega
  counters k' := by
    have hk := h.counters k'
    cases k <;> cases k' <;> simp_all [Cloud.count, Cloud.counter, List.countP_append]
  length := by
    rw [count_spool]
    exact h.length
  maxlen := by
    rw [count_spool, h.maxlen]
    cases k <;> rfl
  limit := by
    cases k <;> exact h.limit

theorem Sound.sent {hand : List Nat} {x : Nat} (h : c.Sound (x :: hand)) {s : CloudSend} (hs : s.ticket = x)
    (htickets : t.sends = c.sends ++ [s]) (hbooks : SameBooks c { t with sends := c.sends }) (hspool : t.spool = c.spool) :
    t.Sound hand where
  ledger y := by
    have hy := h.ledger y
    have hsent : t.sentTickets = c.sentTickets ++ [x] := by
      unfold Cloud.sentTickets
      rw [htickets, List.map_append, ← hs]
      rfl
    have hw : t.waitingTickets = c.waitingTickets := congrArg (List.filterMap CloudCall.ticket?) hbooks.waiting
    have hc : t.countedTickets = c.countedTickets := congrArg (List.map Prod.fst) hbooks.counted
    have hsp : t.spoolTickets = c.spoolTickets := congrArg (fun q => q.rows.map SpoolEntry.ticket) hspool
    have ht : t.tickets = c.tickets := hbooks.tickets
    rw [hsent, hw, hc, hsp, ht]
    rw [List.count_cons] at hy
    by_cases hxy : y = x
    · -- one place only, so it was not sent before
      subst hxy
      rw [if_pos (by simp)]
      simp only [beq_self_eq_true, if_true] at hy
      by_cases hbefore : y ∈ c.sentTickets
      · rw [if_pos hbefore] at hy
        split at hy <;> omega
      · rw [if_neg hbefore] at hy
        omega
    · have hmem : (y ∈ c.sentTickets ++ [x]) = (y ∈ c.sentTickets) := by simp [hxy]
      have hbeq : (x == y) = false := beq_eq_false_iff_ne.2 (Ne.symm hxy)
      rw [hbeq] at hy
      simp only [hmem]
      simpa using hy
  counters k := by
    have hk : t.counter k = c.counter k := by
      have hcounter := hbooks.counters k
      cases k <;> exact hcounter
    have hcounted : t.counted = c.counted := hbooks.counted
    rw [hk, hcounted]
    exact h.counters k
  length := by
    rw [hspool]
    exact h.length
  maxlen := by
    have hlimit : t.cloudQueueLimit = c.cloudQueueLimit := hbooks.limit
    rw [hspool, h.maxlen, hlimit]
  limit := by
    have hlimit : t.cloudQueueLimit = c.cloudQueueLimit := hbooks.limit
    rw [hlimit]
    exact h.limit

/-! ### The database under harmless failures -/

/-- All failures so far are harmless. -/
def Unharmed (E : CloudIo) (c : Cloud) : Prop := ∀ f ∈ c.failures, f.Harmless E

theorem Unharmed.of_prefix (h : t.Unharmed E) (hp : c.failures <+: t.failures) : c.Unharmed E :=
  fun f hf => h f (hp.subset hf)

variable {β : Type} {use : SpoolUse} {func : SqliteDeque SpoolEntry → Option (β × SqliteDeque SpoolEntry)}
  {r : Except DbError β}

theorem execute_failures (h : c.execute E use func = (t, r)) : c.failures <+: t.failures := by
  cases h
  dsimp only
  split
  · exact List.prefix_rfl
  · exact List.prefix_append _ _

theorem execute_books (h : c.execute E use func = (t, r)) : SameBooks c t ∧ t.hasSpool = c.hasSpool := by
  cases h
  exact ⟨⟨rfl, rfl, rfl, fun k => by cases k <;> rfl, rfl, rfl⟩, rfl⟩

/-- The call acts on the rows as they are, with the number in memory or, after a failure, with zero. -/
theorem execute_pass (h : c.execute E use func = (t, r)) (hF : t.Unharmed E) :
    ∃ q p, q.rows = c.spool.rows ∧ q.maxlen = c.spool.maxlen ∧ q.pass p func = (t.spool, r) ∧
      ((p = .ok ∧ q = c.spool) ∨
        (q.length = 0 ∧ CloudFailure.Harmless E (.database use c.spool.rows (E.database c.databaseCalls)) ∧
          p = (E.database c.databaseCalls).second)) := by
  have hspool := execute_spool E h
  rcases SqliteDeque.execute_cases hspool with ⟨b, rfl, hf, -⟩ | ⟨rfl, hn, heq⟩ | ⟨hne, hpass⟩
  · exact ⟨c.spool, .ok, rfl, rfl, by simp [SqliteDeque.pass, hf], .inl ⟨rfl, rfl⟩⟩
  · exact ⟨c.spool, .ok, rfl, rfl, by simp [SqliteDeque.pass, hn, heq], .inl ⟨rfl, rfl⟩⟩
  · have hharm : CloudFailure.Harmless E (.database use c.spool.rows (E.database c.databaseCalls)) := by
      refine hF _ ?_
      cases h
      dsimp only
      rw [if_neg hne]
      exact List.mem_append_right _ (List.mem_singleton_self _)
    have hkept : (c.spool.recreateDb (E.database c.databaseCalls).unlinks).rows = c.spool.rows := by
      unfold SqliteDeque.recreateDb
      cases hrows : c.spool.rows with
      | nil => split <;> rfl
      | cons entry rest =>
        rw [hrows] at hharm
        rw [hharm.1]
        rfl
    exact ⟨_, _, hkept, rfl, hpass, .inr ⟨rfl, hharm, rfl⟩⟩

theorem execute_pass_length {q : SqliteDeque SpoolEntry} {p : DbPass} {P : Prop}
    (hlen : c.spool.length ≤ c.spool.rows.length) (hrows : q.rows = c.spool.rows)
    (h : (p = .ok ∧ q = c.spool) ∨ (q.length = 0 ∧ P)) : q.length ≤ c.spool.rows.length := by
  rcases h with ⟨-, rfl⟩ | ⟨hzero, -⟩
  · exact hlen
  · omega

/-- `popleft` moves the oldest entry into the hand, or raises and leaves the rows alone. A database error leaves the
number at zero, and comes from the second pass. -/
theorem popleft_sound {hand : List Nat} {r : Except DbError SpoolEntry}
    (h : c.execute E use SqliteDeque.popleftImpl = (t, r)) (hF : t.Unharmed E) (hc : c.Sound hand) :
    (∃ entry rest, r = .ok entry ∧ c.spool.rows = entry :: rest ∧ t.Sound (entry.ticket :: hand)) ∨
      (r = .error .index ∧ c.spool.rows = [] ∧ t.Sound hand) ∨
      (r = .error .database ∧ t.Sound hand ∧ t.spool.length = 0 ∧
        CloudFailure.Harmless E (.database use c.spool.rows (E.database c.databaseCalls)) ∧
        (E.database c.databaseCalls).second ≠ .ok) := by
  obtain ⟨q, p, hrows, hmax, hpass, hq⟩ := execute_pass h hF
  obtain ⟨hbooks, -⟩ := execute_books h
  have hlen := execute_pass_length hc.length hrows hq
  rcases SqliteDeque.pass_cases hpass with ⟨entry, rfl, -, hpop⟩ | ⟨rfl, hnone, heq⟩ | ⟨rfl, n, heq, hn⟩
  · unfold SqliteDeque.popleftImpl at hpop
    split at hpop
    · cases hpop
    case h_2 item rest hq' =>
      obtain ⟨hitem, hspool⟩ := Prod.mk.inj (Option.some.inj hpop)
      obtain rfl : entry = item := hitem.symm
      have hcr : c.spool.rows = entry :: rest := hrows.symm.trans hq'
      refine .inl ⟨entry, rest, rfl, hcr, hc.move hbooks (fun x => ?_) ?_ (by rw [← hspool]; exact hmax)⟩
      · unfold Cloud.spoolTickets
        rw [← hspool, hcr, List.map_cons, List.count_cons, List.count_cons]
        dsimp only
        omega
      · rw [← hspool]
        rw [hcr, List.length_cons] at hlen
        dsimp only
        omega
  · have hnil : c.spool.rows = [] := by
      unfold SqliteDeque.popleftImpl at hnone
      split at hnone
      case h_1 hq' => exact hrows.symm.trans hq'
      case h_2 => cases hnone
    exact .inr (.inl ⟨rfl, hnil, hc.setLength hbooks hrows hmax (n := q.length) heq hlen⟩)
  · -- a pass that raises is the second one
    have hsecond : p ≠ .ok := by
      rintro rfl
      unfold SqliteDeque.pass at hpass
      split at hpass <;> simp_all
    rcases hq with ⟨rfl, -⟩ | ⟨hzero, hharm, rfl⟩
    · exact absurd rfl hsecond
    have hn0 : n = 0 := by
      rcases hn with rfl | ⟨-, b, u, hf, rfl⟩
      · exact hzero
      · unfold SqliteDeque.popleftImpl at hf
        split at hf
        · cases hf
        · cases hf
          show q.length - 1 = 0
          omega
    exact .inr (.inr ⟨rfl, hc.setLength hbooks hrows hmax heq (by omega), by rw [heq]; exact hn0, hharm, hsecond⟩)

/-- `peek` changes nothing but the number. -/
theorem peek_sound {hand : List Nat} {r : Except DbError SpoolEntry} (h : c.execute E .peek SqliteDeque.peekImpl = (t, r))
    (hF : t.Unharmed E) (hc : c.Sound hand) :
    t.Sound hand ∧ t.spool.rows = c.spool.rows ∧
      ∀ entry, r = .ok entry → (∃ rest, c.spool.rows = entry :: rest) ∧
        (t.spool.length = 0 → c.spool.length ≠ 0 → (E.decode entry.bytes).isSome = true) := by
  obtain ⟨q, p, hrows, hmax, hpass, hq⟩ := execute_pass h hF
  obtain ⟨hbooks, -⟩ := execute_books h
  have hlen := execute_pass_length hc.length hrows hq
  have hpeek : ∀ {b u}, SqliteDeque.peekImpl q = some (b, u) → u = q ∧ q.rows.head? = some b := by
    intro b u hu
    obtain ⟨x, hx, heq⟩ := Option.map_eq_some_iff.1 hu
    cases heq
    exact ⟨rfl, hx⟩
  have hsound : ∀ {n}, t.spool = { q with length := n } → n ≤ q.length → t.Sound hand ∧ t.spool.rows = c.spool.rows := by
    intro n heq hn
    exact ⟨hc.setLength hbooks hrows hmax heq (Nat.le_trans hn hlen), by rw [heq]; exact hrows⟩
  rcases SqliteDeque.pass_cases hpass with ⟨entry, rfl, hok, hf⟩ | ⟨rfl, -, heq⟩ | ⟨rfl, n, heq, hn⟩
  · obtain ⟨heq, hhead⟩ := hpeek hf
    obtain ⟨hs, hr⟩ := hsound (n := q.length) heq (Nat.le_refl _)
    refine ⟨hs, hr, ?_⟩
    rintro entry' ⟨⟩
    obtain ⟨rest, hcr⟩ : ∃ rest, c.spool.rows = entry :: rest := by
      rw [hrows] at hhead
      cases hcr : c.spool.rows with
      | nil => rw [hcr] at hhead; cases hhead
      | cons x rest =>
        rw [hcr] at hhead
        cases hhead
        exact ⟨rest, rfl⟩
    refine ⟨⟨rest, hcr⟩, fun hzero hne => ?_⟩
    rcases hq with ⟨-, hsame⟩ | ⟨-, hharm, hsecond⟩
    · rw [heq, hsame] at hzero
      exact absurd hzero hne
    · rw [hcr] at hharm
      exact hharm.2.2 rfl (hsecond.symm.trans hok)
  · obtain ⟨hs, hr⟩ := hsound (n := q.length) heq (Nat.le_refl _)
    exact ⟨hs, hr, nofun⟩
  · have hle : n ≤ q.length := by
      rcases hn with rfl | ⟨-, b, u, hf, rfl⟩
      · exact Nat.le_refl _
      · exact Nat.le_of_eq (congrArg SqliteDeque.length (hpeek hf).1)
    obtain ⟨hs, hr⟩ := hsound heq hle
    exact ⟨hs, hr, nofun⟩

theorem vacuum_sound {hand : List Nat} {r : Except DbError Unit} (h : c.execute E .vacuum SqliteDeque.vacuumImpl = (t, r))
    (hF : t.Unharmed E) (hc : c.Sound hand) : t.Sound hand := by
  obtain ⟨q, p, hrows, hmax, hpass, hq⟩ := execute_pass h hF
  obtain ⟨hbooks, -⟩ := execute_books h
  have hlen := execute_pass_length hc.length hrows hq
  have hvacuum : ∀ {b u}, SqliteDeque.vacuumImpl q = some (b, u) → u = q := by
    intro b u hu
    cases hu
    rfl
  rcases SqliteDeque.pass_cases hpass with ⟨b, rfl, -, hf⟩ | ⟨rfl, -, heq⟩ | ⟨rfl, n, heq, hn⟩
  · exact hc.setLength hbooks hrows hmax (n := q.length) (hvacuum hf) hlen
  · exact hc.setLength hbooks hrows hmax (n := q.length) heq hlen
  · refine hc.setLength hbooks hrows hmax heq ?_
    rcases hn with rfl | ⟨-, b, u, hf, rfl⟩
    · exact hlen
    · rw [hvacuum hf]
      exact hlen

/-- With room in the spool, the message in hand is appended and nothing evicted, or the database raises. -/
theorem append_sound {encoded : Bytes} {ticket : Nat} {r : Except DbError Unit}
    (h : c.execute E .append (SqliteDeque.appendImpl ⟨encoded, ticket⟩) = (t, r)) (hF : t.Unharmed E)
    (hc : c.Sound [ticket]) (hroom : c.spool.length < c.cloudQueueLimit) :
    (r = .ok () ∧ t.Sound []) ∨ (r = .error .database ∧ t.Sound [ticket]) := by
  obtain ⟨q, p, hrows, hmax, hpass, hq⟩ := execute_pass h hF
  obtain ⟨hbooks, -⟩ := execute_books h
  have hlen := execute_pass_length hc.length hrows hq
  have happend : SqliteDeque.appendImpl ⟨encoded, ticket⟩ q =
      some ((), { q with rows := q.rows ++ [⟨encoded, ticket⟩], length := q.length + 1 }) := by
    have hlimit := hc.limit
    have hfits : q.length < c.cloudQueueLimit := by
      rcases hq with ⟨-, rfl⟩ | ⟨hzero, -⟩
      · exact hroom
      · omega
    unfold SqliteDeque.appendImpl
    dsimp only
    rw [hmax, hc.maxlen]
    exact if_neg (by show ¬ c.cloudQueueLimit < q.length + 1; omega)
  rcases SqliteDeque.pass_cases hpass with ⟨b, rfl, -, hf⟩ | ⟨-, hnone, -⟩ | ⟨rfl, n, heq, hn⟩
  · refine .inl ⟨rfl, ?_⟩
    obtain ⟨-, hspool⟩ := Prod.mk.inj (Option.some.inj (happend.symm.trans hf))
    refine hc.move hbooks (fun x => ?_) ?_ (by rw [← hspool]; exact hmax)
    · unfold Cloud.spoolTickets
      rw [← hspool]
      show List.count x [] + List.count x (List.map _ (q.rows ++ _)) = _
      rw [hrows, List.map_append, List.count_append, List.count_nil]
      exact (Nat.zero_add _).trans (Nat.add_comm _ _)
    · rw [← hspool]
      show q.length + 1 ≤ (q.rows ++ _).length
      rw [hrows, List.length_append]
      exact Nat.succ_le_succ hlen
  · cases happend.symm.trans hnone
  · refine .inr ⟨rfl, hc.setLength hbooks hrows hmax heq ?_⟩
    rcases hn with rfl | ⟨hcommit, b, u, hf, rfl⟩
    · exact hlen
    · -- a number that was raised and not committed: there are rows
      obtain ⟨-, rfl⟩ := Prod.mk.inj (Option.some.inj (happend.symm.trans hf))
      rcases hq with ⟨rfl, -⟩ | ⟨hzero, hharm, rfl⟩
      · cases hcommit
      · show q.length + 1 ≤ _
        cases hcr : c.spool.rows with
        | nil =>
          rw [hcr] at hharm
          exact absurd hcommit (hharm rfl)
        | cons entry rest =>
          rw [hzero, List.length_cons]
          omega

/-! ### The calls under the lock -/

/-- From `c` to `t` failures are only added; if they are harmless, the ledger stays right. -/
structure Keeps (E : CloudIo) (hand hand' : List Nat) (c t : Cloud) : Prop where
  failures : c.failures <+: t.failures
  sound : t.Unharmed E → c.Sound hand → t.Sound hand'

theorem Keeps.refl (hand : List Nat) (c : Cloud) : Keeps E hand hand c c := ⟨List.prefix_rfl, fun _ h => h⟩

theorem Keeps.trans {hand hand' hand'' : List Nat} {u : Cloud} (h : Keeps E hand hand' c t)
    (h' : Keeps E hand' hand'' t u) : Keeps E hand hand'' c u :=
  ⟨h.failures.trans h'.failures, fun hF hc => h'.sound hF (h.sound (hF.of_prefix h'.failures) hc)⟩

theorem Keeps.congr {hand : List Nat} (hbooks : SameBooks c t) (hspool : t.spool = c.spool)
    (hfail : t.failures = c.failures) : Keeps E hand hand c t :=
  ⟨⟨[], by rw [List.append_nil, hfail]⟩, fun _ hc => hc.congr hbooks hspool⟩

theorem publishCloudMessage_cases {hasStream direct : Bool} {m : CloudQueuedPublish} {ticket : Nat} {r : PublishResult}
    (h : c.publishCloudMessage E hasStream direct m ticket = (t, r)) :
    (r = .published ∧ ∃ s n, s.ticket = ticket ∧ t = { c with publishes := n, sends := c.sends ++ [s] }) ∨
      (r ≠ .published ∧ ∃ n, t = { c with publishes := n }) := by
  unfold publishCloudMessage at h
  split at h
  · cases h
    exact .inr ⟨nofun, c.publishes, rfl⟩
  · dsimp only at h
    split at h
    · cases h
      exact .inr ⟨nofun, _, rfl⟩
    · cases h
      exact .inr ⟨nofun, _, rfl⟩
    · cases h
      exact .inr ⟨nofun, _, rfl⟩
    · cases h
      exact .inl ⟨rfl, _, _, rfl, rfl⟩

theorem failures_count (k : DropCounter) (x : Nat) (c : Cloud) : c.failures <+: (c.count k x).failures :=
  ⟨[], by cases k <;> exact List.append_nil _⟩

theorem dropCorrupt_failures {entry : SpoolEntry} {e : LoopEnd} (h : c.dropCorrupt E entry = (t, e)) :
    c.failures <+: t.failures := by
  unfold dropCorrupt at h
  split at h
  · split at h
    case h_1 hpop =>
      cases h
      exact execute_failures hpop
    case h_2 hpop =>
      cases h
      exact (execute_failures hpop).trans (failures_count ..)
  · cases h
    exact failures_count ..

/-- The undecodable entry goes from the spool to its counter. -/
theorem dropCorrupt_sound {entry : SpoolEntry} {rest : List SpoolEntry} {hand : List Nat} {e : LoopEnd}
    (hrows : c.spool.rows = entry :: rest) (hlen : c.spool.length ≠ 0) (h : c.dropCorrupt E entry = (t, e))
    (hF : t.Unharmed E) (hc : c.Sound hand) : t.Sound hand := by
  unfold dropCorrupt at h
  rw [if_pos (Nat.pos_of_ne_zero hlen)] at h
  split at h
  case h_1 u err hpop =>
    cases h
    rcases popleft_sound hpop hF hc with ⟨_, _, herr, -⟩ | ⟨-, -, hs⟩ | ⟨-, hs, -⟩
    · cases herr
    · exact hs
    · exact hs
  case h_2 u item hpop =>
    cases h
    have hF' : u.Unharmed E := hF.of_prefix (failures_count ..)
    rcases popleft_sound hpop hF' hc with ⟨entry', rest', -, hrows', hs⟩ | ⟨herr, -⟩ | ⟨herr, -⟩
    · obtain ⟨rfl, -⟩ := List.cons.inj (hrows.symm.trans hrows')
      exact hs.count .spoolCorruptDropped
    · cases herr
    · cases herr

/-- A published entry is removed: for the ledger it goes from the spool to the sent messages at once. -/
theorem popPublished_sound {entry : SpoolEntry} {rest : List SpoolEntry} {hand : List Nat} {n : Nat} {s : CloudSend}
    {r : Except DbError SpoolEntry} (hrows : c.spool.rows = entry :: rest) (hticket : s.ticket = entry.ticket)
    (h : ({ c with publishes := n, sends := c.sends ++ [s] } : Cloud).execute E .popPublished SqliteDeque.popleftImpl =
      (t, r)) (hF : t.Unharmed E) (hc : c.Sound hand) : r ≠ .error .database ∧ t.Sound hand := by
  have hpop : c.execute E .popPublished SqliteDeque.popleftImpl =
      ({ t with publishes := c.publishes, sends := c.sends }, r) := by
    cases h
    rfl
  have hsends : t.sends = c.sends ++ [s] := by
    cases h
    rfl
  rcases popleft_sound hpop hF hc with ⟨entry', rest', rfl, hrows', hs⟩ | ⟨-, hnil, -⟩ | ⟨-, -, -, hharm, hfail⟩
  · obtain ⟨rfl, -⟩ := List.cons.inj (hrows.symm.trans hrows')
    exact ⟨nofun, hs.sent hticket hsends ⟨rfl, rfl, rfl, fun k => by cases k <;> rfl, rfl, rfl⟩ rfl⟩
  · cases hrows.symm.trans hnil
  · rw [hrows] at hharm
    exact absurd (hharm.2.1 rfl) hfail

theorem publishEntry_keeps {entry : SpoolEntry} {queued : CloudQueuedPublish} {e : LoopEnd}
    (h : c.publishEntry E entry queued = (t, e)) :
    c.failures <+: t.failures ∧ ∀ {rest : List SpoolEntry} {hand : List Nat}, c.spool.rows = entry :: rest →
      t.Unharmed E → c.Sound hand → t.Sound hand := by
  unfold publishEntry at h
  split at h
  case h_1 hpub =>
    rcases publishCloudMessage_cases hpub with ⟨hp, -⟩ | ⟨-, n, rfl⟩
    · cases hp
    · cases h
      exact ⟨List.prefix_rfl, fun _ _ hc => hc.congr ⟨rfl, rfl, rfl, fun k => by cases k <;> rfl, rfl, rfl⟩ rfl⟩
  case h_2 hpub =>
    rcases publishCloudMessage_cases hpub with ⟨hp, -⟩ | ⟨-, n, rfl⟩
    · cases hp
    · cases h
      exact ⟨List.prefix_rfl, fun _ _ hc => hc.congr ⟨rfl, rfl, rfl, fun k => by cases k <;> rfl, rfl, rfl⟩ rfl⟩
  case h_3 u hpub =>
    rcases publishCloudMessage_cases hpub with ⟨-, s, n, hticket, rfl⟩ | ⟨hne, -⟩
    · split at h
      case h_1 hpop =>
        have hfail := execute_failures hpop
        cases h
        exact ⟨hfail, fun hrows hF hc => (popPublished_sound hrows hticket hpop hF hc).2⟩
      case h_2 hpop =>
        have hfail := execute_failures hpop
        cases h
        exact ⟨hfail, fun hrows hF hc => (popPublished_sound hrows hticket hpop hF hc).2⟩
      case h_3 hpop =>
        have hfail := execute_failures hpop
        cases h
        exact ⟨hfail, fun hrows hF hc => absurd rfl (popPublished_sound hrows hticket hpop hF hc).1⟩
    · exact absurd rfl hne

theorem flushStep_keeps {hand : List Nat} {e : LoopEnd} (hlen : c.spool.length ≠ 0) (h : c.flushStep E = (t, e)) :
    Keeps E hand hand c t := by
  unfold flushStep at h
  split at h
  case h_1 u hpeek =>
    cases h
    exact ⟨execute_failures hpeek, fun hF hc => (peek_sound hpeek hF hc).1⟩
  case h_2 u hpeek =>
    have hfail := execute_failures hpeek
    cases h
    refine ⟨hfail, fun hF hc => ?_⟩
    exact (peek_sound hpeek hF hc).1.congr ⟨rfl, rfl, rfl, fun k => by cases k <;> rfl, rfl, rfl⟩ rfl
  case h_3 u entry hpeek =>
    have hfail := execute_failures hpeek
    split at h
    case h_1 hdecode =>
      have hdrop := dropCorrupt_failures h
      refine ⟨hfail.trans hdrop, fun hF hc => ?_⟩
      obtain ⟨hs, hrows, hentry⟩ := peek_sound hpeek (hF.of_prefix hdrop) hc
      obtain ⟨⟨rest, hcr⟩, hdec⟩ := hentry entry rfl
      refine dropCorrupt_sound (hrows.trans hcr) (fun hzero => ?_) h hF hs
      have hsome := hdec hzero hlen
      rw [hdecode] at hsome
      cases hsome
    case h_2 queued hdecode =>
      obtain ⟨hpub, hsound⟩ := publishEntry_keeps h
      refine ⟨hfail.trans hpub, fun hF hc => ?_⟩
      obtain ⟨hs, hrows, hentry⟩ := peek_sound hpeek (hF.of_prefix hpub) hc
      obtain ⟨⟨rest, hcr⟩, -⟩ := hentry entry rfl
      exact hsound (hrows.trans hcr) hF hs

theorem flushLoop_keeps (hand : List Nat) (c : Cloud) : Keeps E hand hand c (c.flushLoop E).1 := by
  induction c using flushLoop.induct E with
  | case1 c hzero =>
    rw [flushLoop_zero hzero]
    exact .refl hand c
  | case2 c hlen t hstep ih =>
    rw [flushLoop_again hlen hstep]
    exact (flushStep_keeps hlen hstep).trans ih
  | case3 c hlen t hstep =>
    rw [flushLoop_leaves hlen hstep]
    exact flushStep_keeps hlen hstep
  | case4 c hlen t hstep =>
    rw [flushLoop_raises hlen hstep]
    exact flushStep_keeps hlen hstep

theorem finishFlush_keeps (hand : List Nat) (c : Cloud) : Keeps E hand hand c (c.finishFlush E) := by
  have hpending : Keeps E hand hand c { c with cloudSpoolPendingMessages := c.spool.length } :=
    .congr ⟨rfl, rfl, rfl, fun k => by cases k <;> rfl, rfl, rfl⟩ rfl rfl
  unfold finishFlush
  dsimp only
  split
  · refine hpending.trans ?_
    split
    case h_1 hvacuum => exact ⟨execute_failures hvacuum, fun hF hc => vacuum_sound hvacuum hF hc⟩
    case h_2 hvacuum =>
      have hfail := execute_failures hvacuum
      refine ⟨hfail, fun hF hc => ?_⟩
      exact (vacuum_sound hvacuum hF hc).congr ⟨rfl, rfl, rfl, fun k => by cases k <;> rfl, rfl, rfl⟩ rfl
  · exact hpending

theorem flushCloudSpoolLocked_keeps (hand : List Nat) (hasStream : Bool) (c : Cloud) :
    Keeps E hand hand c (c.flushCloudSpoolLocked E hasStream).1 := by
  unfold flushCloudSpoolLocked
  split
  · exact .refl hand c
  · dsimp only
    split
    · exact flushLoop_keeps hand c
    · exact (flushLoop_keeps hand c).trans (finishFlush_keeps hand _)

/-! ### Spooling and dropping -/

/-- Trimming counts what it takes out and ends with room for one more. Where it ends at an error, the rows are gone or
`_recreate_db` has set the number to zero. -/
theorem trimLoop_keeps (hand : List Nat) (c : Cloud) :
    Keeps E hand hand c (c.trimLoop E) ∧
      ((c.trimLoop E).Unharmed E → c.Sound hand → (c.trimLoop E).spool.length < (c.trimLoop E).cloudQueueLimit) := by
  induction c using trimLoop.induct E with
  | case1 c hfull t entry hpop ih =>
    rw [trimLoop_popped hfull hpop]
    have hkeeps : Keeps E hand hand c (t.count .spoolDroppedLimit entry.ticket) := by
      refine ⟨(execute_failures hpop).trans (failures_count ..), fun hF hc => ?_⟩
      have hF' : t.Unharmed E := hF.of_prefix (failures_count ..)
      rcases popleft_sound hpop hF' hc with ⟨entry', rest, hok, -, hs⟩ | ⟨herr, -⟩ | ⟨herr, -⟩
      · cases hok
        exact hs.count .spoolDroppedLimit
      · cases herr
      · cases herr
    exact ⟨hkeeps.trans ih.1, fun hF hc => ih.2 hF (hkeeps.sound (hF.of_prefix ih.1.failures) hc)⟩
  | case2 c hfull t e hpop =>
    rw [trimLoop_error hfull hpop]
    have hlast : t.Unharmed E → c.Sound hand → t.Sound hand ∧ t.spool.length = 0 := by
      intro hF hc
      rcases popleft_sound hpop hF hc with ⟨_, _, hok, -⟩ | ⟨-, hnil, hs⟩ | ⟨-, hs, hzero, -⟩
      · cases hok
      · -- there were no rows, so the number of them was zero and the loop was not entered
        have hlen := hc.length
        have hlimit := hc.limit
        rw [hnil, List.length_nil] at hlen
        omega
      · exact ⟨hs, hzero⟩
    refine ⟨⟨execute_failures hpop, fun hF hc => (hlast hF hc).1⟩, fun hF hc => ?_⟩
    obtain ⟨hs, hzero⟩ := hlast hF hc
    rw [hzero]
    exact hs.limit
  | case3 c hroom =>
    rw [trimLoop_below hroom]
    exact ⟨.refl hand c, fun _ _ => Nat.lt_of_not_le hroom⟩

theorem trimSpool_keeps (hand : List Nat) (c : Cloud) :
    Keeps E hand hand c (c.trimSpool E) ∧
      ((c.trimSpool E).Unharmed E → c.Sound hand → (c.trimSpool E).spool.length < (c.trimSpool E).cloudQueueLimit) := by
  obtain ⟨hkeeps, hroom⟩ := trimLoop_keeps (E := E) hand c
  unfold trimSpool
  split
  · dsimp only
    split
    · exact ⟨hkeeps.trans (.congr ⟨rfl, rfl, rfl, fun k => by cases k <;> rfl, rfl, rfl⟩ rfl rfl), hroom⟩
    · exact ⟨hkeeps, hroom⟩
  case isFalse hlimit => exact ⟨.refl hand c, fun _ hc => absurd hc.limit hlimit⟩

/-- A spooled message leaves the hand; otherwise it is still there. -/
theorem spoolCloudMessageLocked_keeps {message : CloudQueuedPublish} {ticket : Nat} {spooled : Bool}
    (h : c.spoolCloudMessageLocked E message ticket = (t, spooled)) :
    Keeps E [ticket] (if spooled then [] else [ticket]) c t := by
  unfold spoolCloudMessageLocked at h
  split at h
  · cases h
    exact .refl [ticket] c
  · dsimp only at h
    obtain ⟨htrim, hroom⟩ := trimSpool_keeps (E := E) [ticket] c
    split at h
    case h_1 =>
      cases h
      exact htrim
    case h_2 encoded hencode =>
      have happend : ∀ {u r}, (c.trimSpool E).execute E .append (SqliteDeque.appendImpl ⟨encoded, ticket⟩) = (u, r) →
          u.Unharmed E → c.Sound [ticket] →
          (r = .ok () ∧ u.Sound []) ∨ (r = .error .database ∧ u.Sound [ticket]) := by
        intro u r hu hF hc
        have hF' := hF.of_prefix (execute_failures hu)
        exact append_sound hu hF (htrim.sound hF' hc) (hroom hF' hc)
      split at h
      case h_1 hok =>
        have hfail := execute_failures hok
        cases h
        refine ⟨htrim.failures.trans hfail, fun hF hc => ?_⟩
        rcases happend hok hF hc with ⟨-, hs⟩ | ⟨herr, -⟩
        · exact hs.congr ⟨rfl, rfl, rfl, fun k => by cases k <;> rfl, rfl, rfl⟩ rfl
        · cases herr
      case h_2 herr =>
        have hfail := execute_failures herr
        cases h
        refine ⟨htrim.failures.trans hfail, fun hF hc => ?_⟩
        rcases happend herr hF hc with ⟨hok, -⟩ | ⟨-, hs⟩
        · cases hok
        · exact hs.congr ⟨rfl, rfl, rfl, fun k => by cases k <;> rfl, rfl, rfl⟩ rfl

/-- Unless an exception leaves the call, its message is sent, spooled or counted. -/
theorem publishOrSpool_keeps {hasStream raised : Bool} {message : CloudQueuedPublish} {ticket : Nat}
    (h : c.publishOrSpool E hasStream message ticket = (t, raised)) :
    c.failures <+: t.failures ∧ (raised = false → Keeps E [ticket] [] c t) := by
  unfold publishOrSpool at h
  split at h
  case h_1 hpub =>
    rcases publishCloudMessage_cases hpub with ⟨hp, -⟩ | ⟨-, n, rfl⟩
    · cases hp
    · cases h
      exact ⟨List.prefix_rfl, nofun⟩
  case h_2 hpub =>
    rcases publishCloudMessage_cases hpub with ⟨-, s, n, hticket, rfl⟩ | ⟨hne, -⟩
    · cases h
      refine ⟨List.prefix_rfl, fun _ => ⟨List.prefix_rfl, fun _ hc => ?_⟩⟩
      exact hc.sent hticket rfl ⟨rfl, rfl, rfl, fun k => by cases k <;> rfl, rfl, rfl⟩ rfl
    · exact absurd rfl hne
  case h_3 u hpub =>
    have hsame : Keeps E [ticket] [ticket] c u := by
      rcases publishCloudMessage_cases hpub with ⟨hp, -⟩ | ⟨-, n, rfl⟩
      · cases hp
      · exact .congr ⟨rfl, rfl, rfl, fun k => by cases k <;> rfl, rfl, rfl⟩ rfl rfl
    split at h
    case h_1 v hspool =>
      have hkeeps := hsame.trans (spoolCloudMessageLocked_keeps hspool)
      cases h
      exact ⟨hkeeps.failures, fun _ => hkeeps⟩
    case h_2 v hspool =>
      have hkeeps := hsame.trans (spoolCloudMessageLocked_keeps hspool)
      have hdrop : Keeps E [ticket] [] v (v.recordCloudDrop message.topicName ticket) :=
        ⟨List.prefix_rfl, fun _ hc => (hc.count .droppedMessages).congr
          ⟨rfl, rfl, rfl, fun k => by cases k <;> rfl, rfl, rfl⟩ rfl⟩
      cases h
      exact ⟨(hkeeps.trans hdrop).failures, fun _ => hkeeps.trans hdrop⟩

theorem enqueueLocked_keeps (hasStream : Bool) (message : CloudQueuedPublish) (ticket : Nat) {raised : Bool}
    (h : c.enqueueLocked E hasStream message ticket = (t, raised)) :
    c.failures <+: t.failures ∧ (raised = false → Keeps E [ticket] [] c t) := by
  unfold enqueueLocked at h
  have hflush := flushCloudSpoolLocked_keeps (E := E) [ticket] hasStream c
  split at h
  case h_1 u heq =>
    rw [heq] at hflush
    cases h
    exact ⟨hflush.failures, nofun⟩
  case h_2 u heq =>
    rw [heq] at hflush
    obtain ⟨hfail, hkeeps⟩ := publishOrSpool_keeps h
    exact ⟨hflush.failures.trans hfail, fun hr => hflush.trans (hkeeps hr)⟩

/-! ### Whole runs -/

theorem runCall_keeps (hasStream : Bool) (call : CloudCall) (c : Cloud) :
    Keeps E call.ticket?.toList [] c (c.runCall E hasStream call) := by
  unfold runCall
  cases call with
  | flush =>
    have hflush := flushCloudSpoolLocked_keeps (E := E) [] hasStream c
    dsimp only
    split
    · refine hflush.trans ⟨List.prefix_append _ _, fun _ hc => ?_⟩
      exact hc.congr ⟨rfl, rfl, rfl, fun k => by cases k <;> rfl, rfl, rfl⟩ rfl
    · exact hflush
  | enqueue message ticket =>
    obtain ⟨hfail, hkeeps⟩ := enqueueLocked_keeps (E := E) (c := c) hasStream message ticket rfl
    dsimp only
    split
    · -- the exception is recorded, and it is not harmless
      refine ⟨hfail.trans (List.prefix_append _ _), fun hF _ => ?_⟩
      exact absurd (hF _ (List.mem_append_right _ (List.mem_singleton_self _))) nofun
    case isFalse hraised =>
      exact (hkeeps (eq_false_of_ne_true hraised)).trans
        (.congr ⟨rfl, rfl, rfl, fun k => by cases k <;> rfl, rfl, rfl⟩ rfl rfl)

/-- The call at the head of the queue takes its message into the hand. -/
theorem Sound.take {call : CloudCall} {rest : List CloudCall} (h : c.Sound []) (hw : c.waiting = call :: rest) :
    Cloud.Sound { c with waiting := rest } call.ticket?.toList where
  ledger x := by
    have hx := h.ledger x
    rw [waitingTickets_cons hw, List.count_append, List.count_nil, Nat.zero_add] at hx
    exact hx
  counters k := by
    have hk := h.counters k
    cases k <;> exact hk
  length := h.length
  maxlen := h.maxlen
  limit := h.limit

theorem enqueueCloud_keeps (m : CloudQueuedPublish) (c : Cloud) : Keeps E [] [] c (c.enqueueCloud m) := by
  unfold enqueueCloud
  dsimp only
  split
  · -- `QueueFull` is not harmless
    refine ⟨List.prefix_append _ _, fun hF _ => ?_⟩
    exact absurd (hF _ (List.mem_append_right _ (List.mem_singleton_self _))) id
  · refine ⟨List.prefix_rfl, fun _ hc => ⟨fun x => ?_, ?_, hc.length, hc.maxlen, hc.limit⟩⟩
    · have hx := hc.ledger x
      unfold Cloud.waitingTickets at hx ⊢
      dsimp only
      rw [List.filterMap_append, List.count_append]
      show _ + (_ + List.count x [c.tickets]) + List.count x c.spoolTickets + List.count x c.countedTickets +
        (if x ∈ c.sentTickets then 1 else 0) = if x < c.tickets + 1 then 1 else 0
      rw [List.count_singleton]
      by_cases hnew : c.tickets = x
      · subst hnew
        rw [if_neg (Nat.lt_irrefl _)] at hx
        rw [if_pos (beq_self_eq_true _), if_pos (Nat.lt_succ_self _)]
        omega
      · rw [if_neg (by simpa using hnew)]
        simp only [show x < c.tickets + 1 ↔ x < c.tickets by omega]
        omega
    · intro k
      have hk := hc.counters k
      cases k <;> exact hk

theorem step_keeps (ev : CloudEvent) (c : Cloud) : Keeps E [] [] c (step E ev c) := by
  cases ev with
  | enqueue m => exact enqueueCloud_keeps m c
  | flush =>
    refine ⟨List.prefix_rfl, fun _ hc => ⟨fun x => ?_, ?_, hc.length, hc.maxlen, hc.limit⟩⟩
    · have hx := hc.ledger x
      unfold step Cloud.waitingTickets
      dsimp only
      rw [List.filterMap_append, List.count_append]
      exact hx
    · intro k
      have hk := hc.counters k
      cases k <;> exact hk
  | proceed hasStream =>
    unfold step
    dsimp only
    split
    · exact .refl [] c
    case h_2 call rest hw =>
      have hrun := runCall_keeps (E := E) hasStream call { c with waiting := rest }
      exact ⟨hrun.failures, fun hF hc => hrun.sound hF (hc.take hw)⟩

theorem HarmlessStep.unharmed {ev : CloudEvent} (h : HarmlessStep E c ev) (hc : c.Unharmed E) :
    (step E ev c).Unharmed E := by
  obtain ⟨new, hnew⟩ := (step_keeps (E := E) ev c).failures
  unfold HarmlessStep at h
  rw [← hnew, List.drop_left] at h
  intro f hf
  rw [← hnew] at hf
  exact (List.mem_append.1 hf).elim (hc f) (h f)

theorem not_loses_of_harmless {f : CloudFailure} (h : f.Harmless E) : ¬ f.Loses := by
  cases f with
  | queueFull | stream => exact id
  | database use rows call =>
    rintro ⟨hrows, hunlinks⟩
    cases rows with
    | nil => exact hrows rfl
    | cons => exact absurd (h.1.symm.trans hunlinks) nofun

theorem start_sound {limit : Nat} (hlimit : 0 < limit) (deviceId : List Char) (readable : Bool)
    (items : Option (List Bytes)) : (start deviceId limit readable items).Sound [] := by
  refine ⟨fun x => ?_, fun k => by cases k <;> rfl, ?_, rfl, hlimit⟩
  · rw [start_spoolTickets]
    show 0 + 0 + List.count x (List.range (items.getD []).length) + 0 + 0 = if x < (items.getD []).length then 1 else 0
    rw [List.nodup_range.count]
    simp
  · unfold start SqliteDeque.load
    dsimp only
    split
    · exact Nat.le_refl _
    · exact Nat.zero_le _

/-- With a limit, and as long as all failures are harmless, every message is after every step waiting, published, in
the spool or counted once, and no error has cost the spool any of its rows. -/
theorem books_right (E : CloudIo) (deviceId : List Char) (limit : Nat) (hlimit : 0 < limit) (readable : Bool)
    (items : Option (List Bytes)) (evs : List CloudEvent)
    (h : Along (step E) (HarmlessStep E) (start deviceId limit readable items) evs) :
    Along (step E) (BooksRight E) (start deviceId limit readable items) evs := by
  have hstep : ∀ c ev, c.Unharmed E ∧ c.Sound [] → HarmlessStep E c ev →
      (step E ev c).Unharmed E ∧ (step E ev c).Sound [] := by
    rintro c ev ⟨hF, hc⟩ hharm
    have hF' := hharm.unharmed hF
    exact ⟨hF', (step_keeps ev c).sound hF' hc⟩
  refine h.of_invariant (I := fun c => c.Unharmed E ∧ c.Sound []) hstep (fun c ev hI hharm => ?_)
    ⟨nofun, start_sound hlimit deviceId readable items⟩
  exact ⟨(hstep c ev hI hharm).2.conserved, fun f hf hloses => absurd hloses (not_loses_of_harmless (hharm f hf))⟩

instance : DecidablePred (CloudFailure.Harmless E)
  | .queueFull _ => inferInstanceAs (Decidable False)
  | .stream call => inferInstanceAs (Decidable (call = .flush))
  | .database use [] call => inferInstanceAs (Decidable (use = .append → call.second ≠ .raises true))
  | .database use (entry :: _) call => inferInstanceAs (Decidable (call.unlinks = false ∧
      (use = .popPublished → call.second = .ok) ∧
      (use = .peek → call.second = .ok → (E.decode entry.bytes).isSome = true)))

instance (c : Cloud) (ev : CloudEvent) : Decidable (HarmlessStep E c ev) :=
  inferInstanceAs (Decidable (∀ f ∈ (step E ev c).failures.drop c.failures.length, f.Harmless E))

/-- The first use of the spool fails; the database is created anew, and the second pass succeeds. -/
def sampleRecreated : CloudIo := .sample (fun _ => .sent) fun i => if i = 0 then ⟨.raises false, true, .ok⟩ else .ok

/-- The database is created anew before the first message is appended, so nothing is lost. -/
theorem books_right_recreated :
    (run (step sampleRecreated) (start [] 10 true (some [])) sampleOutage).sentTickets = [0, 1] ∧
      Along (step sampleRecreated) (BooksRight sampleRecreated) (start [] 10 true (some [])) sampleOutage :=
  ⟨by decide +kernel, books_right sampleRecreated [] 10 (by decide) true (some []) sampleOutage (by decide +kernel)⟩

/-- The stream raises an exception that `_publish_cloud_message` does not catch, and the message is nowhere. -/
theorem message_lost_on_raise :
    ¬ ∀ (E : CloudIo) (deviceId : List Char) (limit : Nat), 0 < limit → ∀ (readable : Bool)
      (items : Option (List Bytes)) (evs : List CloudEvent),
        Along (step E) (BooksRight E) (start deviceId limit readable items) evs := by
  intro h
  have hrun := h (.sample (fun _ => .raised) fun _ => .ok) [] 10 (by decide) true (some [])
    [.enqueue (sampleMessage 1), .proceed true]
  have hmessage := hrun.2.1.conserved.messages 0 (by decide +kernel) (by decide +kernel)
  revert hmessage
  unfold AccountedFor
  decide +kernel

end Cloud
end Daemon
end McuBridge
