import McuBridge.Daemon.SendQueue

/-! # Pin reads (`services/runtime.py`)

A read is appended to the deque of its kind before its call of `send`, and a response of that kind goes to the first
entry. Nothing removes the entry of a read that fails. The calls of `send` keep the order of the deque, so the first entry
is the right one as long as every read gets one response while its call is in flight. -/

namespace McuBridge
namespace Daemon

inductive PinKind where
  | digital | analog
  deriving DecidableEq

namespace PinKind

def command : PinKind → Command
  | .digital => .digitalRead
  | .analog => .analogRead

def response : PinKind → Command
  | .digital => .digitalReadResp
  | .analog => .analogReadResp

/-- The value of a response that reaches its handler; `none` where `ParseFromString` raises. -/
def value (h : McuHost) (payload : Payload) (k : PinKind) : Option UInt32 :=
  match k, Link.decodePayload h k.response.toUnderlying payload with
  | .digital, some (.message (.digitalReadResponse v)) => some v
  | .analog, some (.message (.analogReadResponse v)) => some v
  | _, _ => none

end PinKind

/-- `replyContext` stands for the request: the ticket of its call of `send`. -/
structure PendingPinRequest where
  pin : Int
  replyContext : Nat
  deriving DecidableEq

/-- A publication of `_on_pin_resp`: below the topic of the request's pin and to its reply context, below `unknown`
without one. `read` is a record: the call whose frame the response answers. -/
structure PinValue where
  kind : PinKind
  request : Option PendingPinRequest
  value : UInt32
  read : Nat
  deriving DecidableEq

/-- `pending` is `pending_digital_reads` and `pending_analog_reads`. -/
structure PinReads where
  sends : SendCalls
  isOpen : Bool := true
  pendingPinRequestLimit : Nat
  pending : PinKind → List PendingPinRequest := fun _ => []
  published : List PinValue := []

inductive PinEvent where
  /-- `_handle_pin` for a read. -/
  | read (k : PinKind) (pin : Int)
  /-- A response to the call `read` is correlated and reaches its handler. -/
  | response (k : PinKind) (h : McuHost) (payload : Payload) (read : Nat)
  /-- Any other event of the calls of `send`. -/
  | sends (e : SendEvent)
  /-- `on_serial_disconnected` -/
  | disconnect
  | port (isOpen : Bool)

/-- A call for a pin read; only `_handle_pin` makes one. -/
def isPinRead (cmd : UInt16) : Bool :=
  cmd == Command.digitalRead.toUnderlying || cmd == Command.analogRead.toUnderlying

def SendEvent.isPinRead : SendEvent → Bool
  | .send cmd => Daemon.isPinRead cmd
  | _ => false

namespace PinReads

def init (maxAttempts limit : Nat) : PinReads := { sends := .init maxAttempts, pendingPinRequestLimit := limit }

/-- A full deque turns the read away with a report. A pin that does not fit the message raises, and a closed port makes
`send` return at once. -/
def read (k : PinKind) (pin : Int) (s : PinReads) : PinReads :=
  if (s.pending k).length < s.pendingPinRequestLimit then
    let pending := Function.update s.pending k (s.pending k ++ [⟨pin, s.sends.tickets⟩])
    if s.isOpen && (Service.pbUint32 pin).isSome then
      { s with pending := pending, sends := SendCalls.step (.send k.command.toUnderlying) s.sends }
    else { s with pending := pending, sends := { s.sends with tickets := s.sends.tickets + 1 } }
  else s

/-- `_correlate_frame`, then `_on_pin_resp`. -/
def response (k : PinKind) (h : McuHost) (payload : Payload) (read : Nat) (s : PinReads) : PinReads :=
  let s := { s with sends := SendCalls.step (.frame h k.response.toUnderlying.toUInt32 payload) s.sends }
  match k.value h payload with
  | some v =>
    { s with
      pending := Function.update s.pending k (s.pending k).tail
      published := s.published ++ [⟨k, (s.pending k).head?, v, read⟩] }
  | none => s

def step : PinEvent → PinReads → PinReads
  | .read k pin, s => s.read k pin
  | .response k h payload read, s => s.response k h payload read
  | .sends e, s => if e.isPinRead then s else { s with sends := SendCalls.step e s.sends }
  | .disconnect, s => { s with pending := fun _ => [], sends := SendCalls.step .reset s.sends }
  | .port isOpen, s => { s with isOpen := isOpen }

/-! ### Which entry a response finds -/

/-- The reads that have got a value. -/
def answered (s : PinReads) : List Nat := s.published.map PinValue.read

/-- Every read gets through to `send`; a response comes while the call it answers is in flight, and once; no read returns
before its response has come; the connection is not lost while a read is pending. -/
def orderly (s : PinReads) : PinEvent → Bool
  | .read k pin => s.pendingPinRequestLimit ≤ (s.pending k).length || (s.isOpen && (Service.pbUint32 pin).isSome)
  | .response k h payload read => (k.value h payload).isNone ||
    (s.sends.current.any (fun c => c.call == (read, k.command.toUnderlying)) && !s.answered.contains read)
  | .sends e => (s.sends.ends e).all fun o => !isPinRead o.commandId || s.answered.contains o.ticket
  | .disconnect => (s.pending .digital).isEmpty && (s.pending .analog).isEmpty
  | .port _ => true

/-- The reads of a kind that have not returned and not got a value, in the order of their calls. -/
def waiting (s : PinReads) (k : PinKind) : List Nat :=
  (s.sends.calls.filter fun c => c.2 == k.command.toUnderlying && !s.answered.contains c.1).map Prod.fst

/-- The invariant: the deque of a kind holds the reads of this kind that wait for a value, and every value has gone to the
read it answers. -/
structure Attributed (s : PinReads) : Prop where
  numbered : s.sends.Numbered
  queue : ∀ k, (s.pending k).map PendingPinRequest.replyContext = s.waiting k
  bound : ∀ n ∈ s.answered, n < s.sends.tickets
  once : s.answered.Nodup
  published : ∀ p ∈ s.published, ∃ r, p.request = some r ∧ r.replyContext = p.read

variable {s : PinReads}

theorem command_ne {k k' : PinKind} (h : k' ≠ k) : k.command.toUnderlying ≠ k'.command.toUnderlying := by
  cases k <;> cases k' <;> first | exact absurd rfl h | decide

theorem init_attributed (maxAttempts limit : Nat) : (init maxAttempts limit).Attributed := by
  refine ⟨SendCalls.init_numbered maxAttempts, fun k => rfl, fun n hn => ?_, .nil, fun p hp => ?_⟩
  · cases hn
  · cases hp

/-- Other fields do not matter, nor do tickets that are not given to a call. -/
theorem Attributed.congr {t : PinReads} (h : s.Attributed) (hnum : t.sends.Numbered)
    (hcalls : ∀ k, t.waiting k = s.waiting k) (htickets : s.sends.tickets ≤ t.sends.tickets)
    (hpending : t.pending = s.pending) (hpub : t.published = s.published) : t.Attributed := by
  have hans : t.answered = s.answered := by rw [answered, hpub, answered]
  refine ⟨hnum, fun k => ?_, fun n hn => ?_, hans ▸ h.once, hpub ▸ h.published⟩
  · rw [hpending, h.queue, hcalls]
  · rw [hans] at hn
    exact (h.bound n hn).trans_le htickets

theorem waiting_congr {t : PinReads} (hcalls : t.sends.calls = s.sends.calls) (hpub : t.published = s.published)
    (k : PinKind) : t.waiting k = s.waiting k := by
  unfold waiting answered
  rw [hcalls, hpub]

/-- A call that joins the queue waits for a value of its kind. -/
theorem waiting_append {t : PinReads} (h : s.Attributed) (cmd : UInt16)
    (hcalls : t.sends.calls = s.sends.calls ++ [(s.sends.tickets, cmd)]) (hpub : t.published = s.published) (k : PinKind) :
    t.waiting k = s.waiting k ++ if cmd = k.command.toUnderlying then [s.sends.tickets] else [] := by
  have hnew : s.answered.contains s.sends.tickets = false := by
    rw [Bool.eq_false_iff]
    intro hmem
    exact absurd (h.bound _ (List.contains_iff_mem.1 hmem)) (Nat.lt_irrefl _)
  have hans : t.answered = s.answered := by rw [answered, hpub, answered]
  unfold waiting
  rw [hcalls, hans, List.filter_append, List.map_append]
  congr 1
  rw [List.filter_cons, hnew]
  split
  case isTrue h =>
    rw [if_pos (by simpa using h)]
    rfl
  case isFalse h =>
    rw [if_neg (by simpa using h)]
    rfl

theorem read_attributed (h : s.Attributed) {k : PinKind} {pin : Int} (horderly : s.orderly (.read k pin) = true) :
    (s.read k pin).Attributed := by
  unfold read
  split
  case isFalse => exact h
  case isTrue hroom =>
    have hthrough : (s.isOpen && (Service.pbUint32 pin).isSome) = true := by
      rw [orderly, Bool.or_eq_true, decide_eq_true_eq] at horderly
      exact horderly.resolve_left (Nat.not_le.2 hroom)
    obtain ⟨hcalls, htickets, -⟩ := SendCalls.send_calls h.numbered.locked k.command.toUnderlying
    have hnum := SendCalls.step_numbered h.numbered (.send k.command.toUnderlying)
    dsimp only
    rw [if_pos hthrough]
    refine ⟨hnum, fun k' => ?_, fun n hn => ?_, h.once, h.published⟩
    · refine Eq.trans ?_ (waiting_append h k.command.toUnderlying ?_ ?_ k').symm
      rotate_left
      · exact hcalls
      · rfl
      dsimp only
      by_cases hk : k' = k
      · subst hk
        rw [Function.update_self, List.map_append, h.queue, if_pos rfl]
        rfl
      · rw [Function.update_of_ne hk, h.queue, if_neg (command_ne hk), List.append_nil]
    · rw [htickets]
      exact (h.bound n hn).trans (Nat.lt_succ_self _)

/-- A value for the first call takes it from the reads that wait. -/
theorem waiting_answered {t : PinReads} (h : s.Attributed) {c : Nat × UInt16} {rest : List (Nat × UInt16)} {k : PinKind}
    (hcalls : s.sends.calls = c :: rest) (hkind : c.2 = k.command.toUnderlying) (hnew : c.1 ∉ s.answered)
    (ht : t.sends.calls = s.sends.calls) (hans : t.answered = s.answered ++ [c.1]) (k' : PinKind) :
    s.waiting k' = (if k' = k then [c.1] else []) ++ t.waiting k' := by
  have hnodup : c.1 ∉ rest.map Prod.fst := by
    have hall := (List.nodup_append.1 h.numbered.nodup).2.1
    rw [hcalls, List.map_cons] at hall
    exact (List.nodup_cons.1 hall).1
  have hrest : ∀ x ∈ rest, t.answered.contains x.1 = s.answered.contains x.1 := by
    intro x hx
    have hne : x.1 ≠ c.1 := fun heq => hnodup (heq ▸ List.mem_map_of_mem hx)
    rw [hans, Bool.eq_iff_iff, List.contains_iff_mem, List.contains_iff_mem, List.mem_append, List.mem_singleton]
    exact or_iff_left hne
  have hfilter : rest.filter (fun c => c.2 == k'.command.toUnderlying && !s.answered.contains c.1) =
      rest.filter (fun c => c.2 == k'.command.toUnderlying && !t.answered.contains c.1) :=
    List.filter_congr fun x hx => by rw [hrest x hx]
  have hnow : t.answered.contains c.1 = true := by
    rw [List.contains_iff_mem, hans]
    exact List.mem_append_right _ (List.mem_singleton.2 rfl)
  have hbefore : s.answered.contains c.1 = false := by
    rw [Bool.eq_false_iff]
    exact fun hmem => hnew (List.contains_iff_mem.1 hmem)
  unfold waiting
  rw [ht, hcalls, List.filter_cons, List.filter_cons, hnow, hbefore, hkind, hfilter]
  by_cases hk : k' = k
  · subst hk
    simp
  · have hne : (k.command.toUnderlying == k'.command.toUnderlying) = false := beq_eq_false_iff_ne.2 (command_ne hk)
    simp [hk, hne]

/-- The first call finds its entry at the head of the deque, and takes it away. -/
theorem queue_answered {t : PinReads} (h : s.Attributed) {c : Nat × UInt16} {rest : List (Nat × UInt16)} {k : PinKind}
    (hcalls : s.sends.calls = c :: rest) (hkind : c.2 = k.command.toUnderlying) (hnew : c.1 ∉ s.answered)
    (ht : t.sends.calls = s.sends.calls) (hans : t.answered = s.answered ++ [c.1])
    (hpending : t.pending = Function.update s.pending k (s.pending k).tail) :
    (∃ r, (s.pending k).head? = some r ∧ r.replyContext = c.1) ∧
      ∀ k', (t.pending k').map PendingPinRequest.replyContext = t.waiting k' := by
  have hwait := waiting_answered h hcalls hkind hnew ht hans
  have hqueue := h.queue k
  rw [hwait k, if_pos rfl] at hqueue
  cases hq : s.pending k with
  | nil =>
    rw [hq] at hqueue
    cases hqueue
  | cons r q =>
    rw [hq, List.map_cons, List.singleton_append] at hqueue
    obtain ⟨hr, hrest⟩ := List.cons.inj hqueue
    refine ⟨⟨r, rfl, hr⟩, fun k' => ?_⟩
    rw [hpending]
    by_cases hk : k' = k
    · subst hk
      rw [Function.update_self, hq, List.tail_cons, hrest]
    · have hother := hwait k'
      rw [if_neg hk, List.nil_append] at hother
      rw [Function.update_of_ne hk, h.queue, hother]

/-- The response of the call in flight finds that call's entry. -/
theorem response_attributed (h : s.Attributed) {k : PinKind} {host : McuHost} {payload : Payload} {read : Nat}
    (horderly : s.orderly (.response k host payload read) = true) : (s.response k host payload read).Attributed := by
  have hnum := SendCalls.step_numbered h.numbered (.frame host k.response.toUnderlying.toUInt32 payload)
  obtain ⟨hcalls, htickets, -⟩ :=
    SendCalls.frame_calls h.numbered.locked host k.response.toUnderlying.toUInt32 payload
  unfold response
  dsimp only
  cases hv : k.value host payload with
  | none => exact h.congr hnum (waiting_congr hcalls rfl) htickets rfl rfl
  | some v =>
    rw [orderly, hv, Option.isNone_some, Bool.false_or, Bool.and_eq_true, Option.any_eq_true] at horderly
    obtain ⟨⟨c, hcur, hcall⟩, hnew⟩ := horderly
    have hcall : c.call = (read, k.command.toUnderlying) := beq_iff_eq.1 hcall
    have hnew : read ∉ s.answered := fun hmem => by
      rw [List.contains_iff_mem.2 hmem] at hnew
      cases hnew
    have hfirst : s.sends.calls = (read, k.command.toUnderlying) :: s.sends.lock.waiters.filterMap SendTask.call :=
      hcall ▸ SendCalls.calls_of_current hcur
    have hbound : read < s.sends.tickets := by
      refine h.numbered.bound read (List.mem_append_right _ ?_)
      rw [hfirst, List.map_cons]
      exact List.mem_cons_self
    dsimp only
    generalize ht : PinReads.mk _ _ _ _ _ = t
    have hans : t.answered = s.answered ++ [read] := by
      rw [← ht]
      simp [answered]
    obtain ⟨⟨r, hhead, hr⟩, hqueue⟩ := queue_answered h (t := t) hfirst rfl hnew (by rw [← ht]; exact hcalls) hans
      (by rw [← ht])
    refine ⟨by rw [← ht]; exact hnum, hqueue, fun n hn => ?_, ?_, fun p hp => ?_⟩
    · have hn : n < s.sends.tickets := by
        rw [hans] at hn
        rcases List.mem_append.1 hn with hn | hn
        · exact h.bound n hn
        · rwa [List.mem_singleton.1 hn]
      rw [← ht]
      exact hn.trans_le htickets
    · rw [hans]
      exact List.nodup_append.2 ⟨h.once, List.nodup_singleton _, fun n hn m hm heq =>
        hnew (List.mem_singleton.1 hm ▸ heq ▸ hn)⟩
    · rw [← ht] at hp
      rcases List.mem_append.1 hp with hp | hp
      · exact h.published p hp
      · rw [List.mem_singleton.1 hp]
        exact ⟨r, hhead, hr⟩

theorem isPinRead_eq_false {cmd : UInt16} (h : isPinRead cmd = false) (k : PinKind) : cmd ≠ k.command.toUnderlying := by
  rintro rfl
  cases k <;> cases h

/-- A call that leaves the queue was no read, or had its value. -/
theorem sends_attributed (h : s.Attributed) {e : SendEvent} (he : e.isPinRead = false)
    (horderly : s.orderly (.sends e) = true) : Attributed { s with sends := SendCalls.step e s.sends } := by
  have hnum := SendCalls.step_numbered h.numbered e
  cases SendCalls.step_queue h.numbered.locked e with
  | joins cmd hcmd hcalls htickets houtcomes =>
    subst hcmd
    refine h.congr hnum (fun k => ?_) (htickets ▸ Nat.le_succ _) rfl rfl
    have hwait := waiting_append h (t := { s with sends := SendCalls.step (.send cmd) s.sends }) cmd hcalls rfl k
    rwa [if_neg (isPinRead_eq_false he k), List.append_nil] at hwait
  | leaves c o hcur hnext hcalls htickets houtcomes hends =>
    refine h.congr hnum (fun k => ?_) htickets.ge rfl rfl
    have hdone : isPinRead o.commandId = false ∨ s.answered.contains o.ticket = true := by
      rwa [orderly, hends, Option.all_some, Bool.or_eq_true, Bool.not_eq_true'] at horderly
    have hdrop : (o.call.2 == k.command.toUnderlying && !s.answered.contains o.call.1) = false := by
      rcases hdone with hother | hans
      · rw [show (o.call.2 == k.command.toUnderlying) = false from beq_eq_false_iff_ne.2 (isPinRead_eq_false hother k)]
        rfl
      · rw [show s.answered.contains o.call.1 = true from hans, Bool.not_true, Bool.and_false]
    symm
    unfold waiting
    rw [hcalls, List.filter_cons_of_neg (by rw [hdrop]; exact Bool.false_ne_true)]
    rfl
  | stays _ hcalls htickets houtcomes => exact h.congr hnum (waiting_congr hcalls rfl) htickets rfl rfl

theorem disconnect_attributed (h : s.Attributed) (horderly : s.orderly .disconnect = true) :
    (step .disconnect s).Attributed := by
  obtain ⟨hcalls, htickets, -⟩ := SendCalls.step_calls h.numbered.locked (e := .reset) (fun cmd he => by cases he)
    fun c o hn => by cases hn
  rw [orderly, Bool.and_eq_true, List.isEmpty_iff, List.isEmpty_iff] at horderly
  have hempty : (fun _ => []) = s.pending := by
    funext k
    cases k with
    | digital => exact horderly.1.symm
    | analog => exact horderly.2.symm
  exact h.congr (SendCalls.step_numbered h.numbered .reset) (waiting_congr hcalls rfl) htickets hempty rfl

theorem step_attributed (h : s.Attributed) {e : PinEvent} (horderly : s.orderly e = true) : (step e s).Attributed := by
  cases e with
  | read k pin => exact read_attributed h horderly
  | response k host payload read => exact response_attributed h horderly
  | sends e =>
    simp only [step]
    split
    case isTrue => exact h
    case isFalse he => exact sends_attributed h (Bool.eq_false_iff.2 he) horderly
  | disconnect => exact disconnect_attributed h horderly
  | port isOpen => exact h.congr h.numbered (fun _ => rfl) (Nat.le_refl _) rfl rfl

/-- Where every read is answered once, while its call is in flight, and no connection is lost meanwhile: every value goes
to the read it answers, no request gets two, and a call that has returned has left no entry. -/
theorem reads_attributed (maxAttempts limit : Nat) (es : List PinEvent)
    (h : Run.Along step (fun s e => s.orderly e = true) (init maxAttempts limit) es) :
    let s := Run.run step (init maxAttempts limit) es
    (∀ p ∈ s.published, ∃ r, p.request = some r ∧ r.replyContext = p.read) ∧
    (s.published.map fun p => p.request.map PendingPinRequest.replyContext).Nodup ∧
    ∀ o ∈ s.sends.outcomes, ∀ k, ∀ r ∈ s.pending k, r.replyContext ≠ o.ticket := by
  have hinv : (Run.run step (init maxAttempts limit) es).Attributed :=
    h.invariant (I := Attributed) (fun _ _ hs horderly => step_attributed hs horderly) (init_attributed maxAttempts limit)
  refine ⟨hinv.published, ?_, fun o ho k r hr heq => ?_⟩
  · generalize Run.run step (init maxAttempts limit) es = s at hinv
    have hmap : (s.published.map fun p => p.request.map PendingPinRequest.replyContext) = s.answered.map some := by
      rw [answered, List.map_map]
      refine List.map_congr_left fun p hp => ?_
      obtain ⟨r, hr, hread⟩ := hinv.published p hp
      rw [hr, Option.map_some, hread]
      rfl
    rw [hmap]
    exact hinv.once.map (Option.some_injective _)
  · -- the entries are calls that have not returned
    generalize Run.run step (init maxAttempts limit) es = s at hinv ho hr
    have hmem : r.replyContext ∈ s.waiting k := hinv.queue k ▸ List.mem_map_of_mem hr
    obtain ⟨c, hc, hcall⟩ := List.mem_map.1 hmem
    have hwaits : r.replyContext ∈ s.sends.calls.map Prod.fst :=
      hcall ▸ List.mem_map_of_mem (List.mem_filter.1 hc).1
    have hended : r.replyContext ∈ s.sends.outcomes.map SendOutcome.ticket := heq ▸ List.mem_map_of_mem ho
    exact (List.nodup_append.1 hinv.numbered.nodup).2.2 _ hended _ hwaits rfl

/-- Two reads that get their values one after the other. -/
def sampleReads : List PinEvent :=
  [.read .digital 5, .read .digital 7, .sends .transmit, .sends (.raw .sent),
    .response .digital .sample (.message (.digitalReadResponse 1)) 0, .sends .completion, .sends .grant,
    .sends (.raw .sent), .response .digital .sample (.message (.digitalReadResponse 0)) 1, .sends .completion]

theorem reads_attributed_sample :
    let s := Run.run step (init 2 4) sampleReads
    (∀ p ∈ s.published, ∃ r, p.request = some r ∧ r.replyContext = p.read) ∧
    (s.published.map fun p => p.request.map PendingPinRequest.replyContext).Nodup ∧
    ∀ o ∈ s.sends.outcomes, ∀ k, ∀ r ∈ s.pending k, r.replyContext ≠ o.ticket :=
  reads_attributed 2 4 sampleReads (by decide)

/-- A read of pin 5 that times out leaves its entry, and the value of pin 7 is published for pin 5. -/
theorem lost_read_shifts :
    let s := Run.run step (init 1 4) [.read .digital 5, .sends (.raw .sent), .sends .timeout, .read .digital 7,
      .sends (.raw .sent), .response .digital .sample (.message (.digitalReadResponse 1)) 1, .sends .completion]
    s.published = [⟨.digital, some ⟨5, 0⟩, 1, 1⟩] ∧ s.pending .digital = [⟨7, 1⟩] ∧
      s.sends.outcomes.map SendOutcome.ticket = [0, 1] := by
  decide

end PinReads
end Daemon
end McuBridge
