import McuBridge.Daemon.SendQueue

/-! # The console stream to the MCU (`services/runtime.py`)

`_flush_console_queue` takes a buffer off the queue and sends it in chunks; where a chunk fails it puts the whole buffer
back and returns. Several tasks may flush at once, each with a buffer in hand. The chunks stay in order as long as no
buffer is taken while another one has more than its last chunk to send. -/

namespace McuBridge
namespace Daemon

/-- The bytes of a payload are falsy when they are empty; a message is truthy. -/
def Payload.truthy : Payload → Bool
  | .bytes b => !b.isEmpty
  | .message _ => true

/-- A task that waits for its chunk. `sent` are the chunks of its buffer before it, `rest` those after it. -/
structure Flush where
  buf : Bytes
  sent : Bytes
  chunk : Bytes
  rest : List Bytes
  ticket : Nat
  deriving DecidableEq

namespace Flush

/-- What a task still has to send. -/
def unsent (f : Flush) : Bytes := f.chunk ++ f.rest.flatten

end Flush

/-- `queued` and `delivered` are records: the payloads that were queued, and the chunks whose `send` returned a success. -/
structure ConsoleFlush where
  sends : SendCalls
  isOpen : Bool := true
  mcuIsPaused : Bool := false
  consoleToMcuQueue : List Bytes := []
  flushes : List Flush := []
  queued : List Bytes := []
  delivered : Bytes := []

inductive ConsoleEvent where
  /-- `_handle_console` -/
  | write (payload : Bytes)
  /-- `_flush_console_queue` of a new connection. -/
  | flush
  | xon
  | xoff
  /-- `on_serial_disconnected` -/
  | disconnect
  /-- An event of the calls of `send`. -/
  | sends (e : SendEvent)
  | port (isOpen : Bool)

namespace ConsoleFlush

def init (maxAttempts : Nat) : ConsoleFlush := { sends := .init maxAttempts }

/-- The call of `send` for a chunk; on a closed port it fails at once. -/
def sendChunk (buf sent chunk : Bytes) (rest : List Bytes) (s : ConsoleFlush) : ConsoleFlush :=
  if s.isOpen then
    { s with
      flushes := s.flushes ++ [⟨buf, sent, chunk, rest, s.sends.tickets⟩]
      sends := SendCalls.step (.send Command.consoleWrite.toUnderlying) s.sends }
  else { s with consoleToMcuQueue := buf :: s.consoleToMcuQueue }

/-- The loop of `_flush_console_queue` on the queue it finds, up to its first chunk. -/
def flushLoop : List Bytes → ConsoleFlush → ConsoleFlush
  | [], s => { s with consoleToMcuQueue := [] }
  | buf :: queue, s =>
    if s.mcuIsPaused then { s with consoleToMcuQueue := buf :: queue }
    else
      match Service.iterChunks buf maxPayloadSize with
      | [] => flushLoop queue s
      | chunk :: rest => { s with consoleToMcuQueue := queue }.sendChunk buf [] chunk rest

/-- `_flush_console_queue` -/
def flush (s : ConsoleFlush) : ConsoleFlush := flushLoop s.consoleToMcuQueue s

/-- The task goes on with the result of its chunk. -/
def resume (f : Flush) (r : CallResult) (s : ConsoleFlush) : ConsoleFlush :=
  match r with
  | .returned v =>
    let s := { s with delivered := s.delivered ++ f.chunk }
    if v.all Payload.truthy then
      match f.rest with
      | chunk :: rest => s.sendChunk f.buf (f.sent ++ f.chunk) chunk rest
      | [] => s.flush
    else { s with consoleToMcuQueue := f.buf :: s.consoleToMcuQueue }
  | .false => { s with consoleToMcuQueue := f.buf :: s.consoleToMcuQueue }
  | .raised => s

/-- A call of `send` returns to the task that made it. -/
def onOutcome (o : SendOutcome) (s : ConsoleFlush) : ConsoleFlush :=
  match s.flushes.find? fun f => f.ticket == o.ticket with
  | some f => { s with flushes := s.flushes.erase f }.resume f o.result
  | none => s

def onSends (e : SendEvent) (s : ConsoleFlush) : ConsoleFlush :=
  let t := { s with sends := SendCalls.step e s.sends }
  match s.sends.ends e with
  | some o => t.onOutcome o
  | none => t

def step : ConsoleEvent → ConsoleFlush → ConsoleFlush
  | .write payload, s =>
    if payload.isEmpty then s
    else
      { s with consoleToMcuQueue := s.consoleToMcuQueue ++ [payload], queued := s.queued ++ [payload] }.flush
  | .flush, s => s.flush
  | .xon, s => { s with mcuIsPaused := false }.flush
  | .xoff, s => { s with mcuIsPaused := true }
  | .disconnect, s => { s with mcuIsPaused := false, sends := SendCalls.step .reset s.sends }
  | .sends e, s => s.onSends e
  | .port isOpen, s => { s with isOpen := isOpen }

/-! ### The stream -/

/-- A flush of this queue takes a buffer. -/
def takes (queue : List Bytes) (paused : Bool) (s : ConsoleFlush) : Bool :=
  s.isOpen && !paused && queue.any fun b => !b.isEmpty

/-- No task has more than its last chunk to send. -/
def lastChunks (fs : List Flush) : Bool := fs.all fun f => f.rest.isEmpty

/-- The task, no longer among the others, goes on with its buffer in order. A chunk fails only as the first one of the only
buffer in hand; its call of `send` does not raise, nor return an empty payload. -/
def resumes (f : Flush) (r : CallResult) (s : ConsoleFlush) : Bool :=
  match r with
  | .returned v => v.all Payload.truthy &&
    if f.rest.isEmpty then !s.takes s.consoleToMcuQueue s.mcuIsPaused || lastChunks s.flushes else s.isOpen
  | .false => f.sent.isEmpty && s.flushes.isEmpty
  | .raised => false

/-- A buffer is taken only when every buffer in hand is at its last chunk, and a task goes on with its buffer in order. -/
def orderly (s : ConsoleFlush) : ConsoleEvent → Bool
  | .write payload => payload.isEmpty || !s.takes (s.consoleToMcuQueue ++ [payload]) s.mcuIsPaused || lastChunks s.flushes
  | .flush => !s.takes s.consoleToMcuQueue s.mcuIsPaused || lastChunks s.flushes
  | .xon => !s.takes s.consoleToMcuQueue false || lastChunks s.flushes
  | .sends e => (s.sends.ends e).all fun o =>
    (s.flushes.find? fun f => f.ticket == o.ticket).all fun f =>
      { s with flushes := s.flushes.erase f }.resumes f o.result
  | _ => true

/-- The invariant, with the bytes `hand` taken off the queue and not given to a call yet: the tasks are in the order of the
lock, only the last one has more than its last chunk to send, and what was delivered, what is in hand and what is queued
are the payloads in their order. -/
structure InOrder (hand : Bytes) (s : ConsoleFlush) : Prop where
  numbered : s.sends.Numbered
  lock : (s.flushes.map Flush.ticket).Sublist (s.sends.calls.map Prod.fst)
  last : lastChunks s.flushes.dropLast = true
  buf : ∀ f ∈ s.flushes, f.buf = f.sent ++ f.unsent
  stream : s.delivered ++ (s.flushes.flatMap Flush.unsent ++ (hand ++ s.consoleToMcuQueue.flatten)) = s.queued.flatten

theorem init_inOrder (maxAttempts : Nat) : (init maxAttempts).InOrder [] := by
  refine ⟨SendCalls.init_numbered maxAttempts, List.Sublist.refl _, rfl, fun f hf => ?_, rfl⟩
  cases hf

theorem iterChunks_flatten (buf : Bytes) : (Service.iterChunks buf maxPayloadSize).flatten = buf := by
  have htake : ∀ n, ((List.range n).map fun i => (buf.drop (i * maxPayloadSize)).take maxPayloadSize).flatten =
      buf.take (n * maxPayloadSize) := by
    intro n
    induction n with
    | zero => simp
    | succ n ih =>
      rw [List.range_succ, List.map_append, List.flatten_append, ih, Nat.succ_mul, List.take_add]
      simp
  unfold Service.iterChunks
  rw [htake]
  refine List.take_of_length_le ?_
  unfold maxPayloadSize
  omega

variable {s : ConsoleFlush} {hand : Bytes}

/-- The chunk in hand goes to a call, or its buffer back to the queue. -/
theorem sendChunk_inOrder {buf sent chunk : Bytes} {rest : List Bytes} (h : s.InOrder (chunk ++ rest.flatten))
    (hbuf : buf = sent ++ (chunk ++ rest.flatten)) (hlast : s.isOpen = true → lastChunks s.flushes = true)
    (hclosed : s.isOpen = false → sent = []) : (s.sendChunk buf sent chunk rest).InOrder [] := by
  unfold sendChunk
  split
  case isTrue hopen =>
    obtain ⟨hcalls, htickets, -⟩ := SendCalls.send_calls h.numbered.locked Command.consoleWrite.toUnderlying
    have hnum := SendCalls.step_numbered h.numbered (.send Command.consoleWrite.toUnderlying)
    refine ⟨hnum, ?_, ?_, fun f hf => ?_, ?_⟩
    · dsimp only
      rw [hcalls, List.map_append, List.map_append]
      exact h.lock.append (List.Sublist.refl _)
    · dsimp only
      rw [List.dropLast_concat]
      exact hlast hopen
    · rcases List.mem_append.1 hf with hf | hf
      · exact h.buf f hf
      · rw [List.mem_singleton.1 hf]
        exact hbuf
    · have hstream := h.stream
      dsimp only
      rw [List.flatMap_append, List.nil_append, List.append_assoc]
      rw [show [(⟨buf, sent, chunk, rest, s.sends.tickets⟩ : Flush)].flatMap Flush.unsent = chunk ++ rest.flatten from
        List.append_nil _]
      exact hstream
  case isFalse hopen =>
    refine ⟨h.numbered, h.lock, h.last, h.buf, ?_⟩
    have hsent := hclosed (Bool.eq_false_iff.2 hopen)
    rw [hsent, List.nil_append] at hbuf
    dsimp only
    rw [List.flatten_cons, List.nil_append, hbuf]
    exact h.stream

/-- The loop takes the first buffer that is not empty. -/
theorem flushLoop_inOrder {queue : List Bytes} (h : InOrder [] { s with consoleToMcuQueue := queue })
    (hlast : s.takes queue s.mcuIsPaused = true → lastChunks s.flushes = true) : (flushLoop queue s).InOrder [] := by
  induction queue with
  | nil => exact h
  | cons buf queue ih =>
    unfold flushLoop
    split
    case isTrue => exact h
    case isFalse hpaused =>
      have hchunks := iterChunks_flatten buf
      split
      case h_1 hnil =>
        have hbuf : buf = [] := by rw [← hchunks, hnil]; rfl
        subst hbuf
        exact ih ⟨h.numbered, h.lock, h.last, h.buf, h.stream⟩ hlast
      case h_2 chunk rest hcons =>
        have hbuf : buf = chunk ++ rest.flatten := by rw [← hchunks, hcons]; rfl
        have hne : buf ≠ [] := by
          rintro rfl
          cases hcons
        refine sendChunk_inOrder ⟨h.numbered, h.lock, h.last, h.buf, ?_⟩ hbuf (fun hopen => hlast ?_) fun _ => rfl
        · have hstream := h.stream
          dsimp only at hstream ⊢
          rw [List.nil_append, List.flatten_cons, hbuf] at hstream
          exact hstream
        · simp [takes, show s.isOpen = true from hopen, hpaused, hne]

theorem flush_inOrder (h : s.InOrder [])
    (hlast : s.takes s.consoleToMcuQueue s.mcuIsPaused = true → lastChunks s.flushes = true) : s.flush.InOrder [] :=
  flushLoop_inOrder h hlast

/-- The task whose call returns is the first one: the tasks are in the order of the lock. -/
theorem find_first {fs : List Flush} {ticket : Nat} {rest : List Nat}
    (hlock : (fs.map Flush.ticket).Sublist (ticket :: rest)) (hnew : ticket ∉ rest) :
    (fs.find? (fun f => f.ticket == ticket) = none ∧ (fs.map Flush.ticket).Sublist rest) ∨
      ∃ f gs, fs = f :: gs ∧ fs.find? (fun f => f.ticket == ticket) = some f ∧ (gs.map Flush.ticket).Sublist rest := by
  rcases List.sublist_cons_iff.1 hlock with hrest | ⟨tickets, hfs, hrest⟩
  · refine .inl ⟨List.find?_eq_none.2 fun f hf heq => hnew ?_, hrest⟩
    exact beq_iff_eq.1 heq ▸ hrest.subset (List.mem_map_of_mem hf)
  · cases fs with
    | nil => cases hfs
    | cons f gs =>
      obtain ⟨hticket, hgs⟩ := List.cons.inj hfs
      refine .inr ⟨f, gs, rfl, ?_, hgs ▸ hrest⟩
      simp [hticket]

theorem lastChunks_cons {f : Flush} {gs : List Flush} (h : lastChunks (f :: gs).dropLast = true) :
    lastChunks gs.dropLast = true ∧ (f.rest = [] ∨ gs = []) := by
  cases gs with
  | nil => exact ⟨rfl, .inr rfl⟩
  | cons g gs =>
    rw [List.dropLast_cons_cons, lastChunks, List.all_cons, Bool.and_eq_true, List.isEmpty_iff] at h
    exact ⟨h.2, .inl h.1⟩

/-- The call of the first task has returned, and `s` is the state without that task. -/
structure Released (f : Flush) (s : ConsoleFlush) : Prop where
  numbered : s.sends.Numbered
  lock : (s.flushes.map Flush.ticket).Sublist (s.sends.calls.map Prod.fst)
  last : lastChunks s.flushes.dropLast = true
  buf : ∀ g ∈ s.flushes, g.buf = g.sent ++ g.unsent
  own : f.buf = f.sent ++ f.unsent
  more : f.rest = [] ∨ s.flushes = []
  stream : s.delivered ++ (f.unsent ++ (s.flushes.flatMap Flush.unsent ++ s.consoleToMcuQueue.flatten)) = s.queued.flatten

/-- After its last chunk the task looks for the next buffer. -/
theorem Released.flush {f : Flush} (h : s.Released f) (hrest : f.rest = [])
    (htake : s.takes s.consoleToMcuQueue s.mcuIsPaused = true → lastChunks s.flushes = true) :
    InOrder [] { s with delivered := s.delivered ++ f.chunk }.flush := by
  have hunsent : f.unsent = f.chunk := by rw [Flush.unsent, hrest]; exact List.append_nil _
  have hstream := h.stream
  rw [hunsent] at hstream
  refine flush_inOrder ⟨h.numbered, h.lock, h.last, h.buf, ?_⟩ htake
  dsimp only
  rw [List.append_assoc, List.nil_append]
  exact hstream

/-- Before its last chunk the task is the only one, and sends the next chunk. -/
theorem Released.next {f : Flush} (h : s.Released f) {chunk : Bytes} {rest : List Bytes} (hrest : f.rest = chunk :: rest)
    (hopen : s.isOpen = true) :
    InOrder [] ({ s with delivered := s.delivered ++ f.chunk }.sendChunk f.buf (f.sent ++ f.chunk) chunk rest) := by
  have hnone : s.flushes = [] := by
    refine h.more.resolve_left fun hnil => ?_
    rw [hnil] at hrest
    cases hrest
  have hunsent : f.unsent = f.chunk ++ (chunk ++ rest.flatten) := by rw [Flush.unsent, hrest, List.flatten_cons]
  have hstream := h.stream
  rw [hunsent, hnone] at hstream
  refine sendChunk_inOrder ⟨h.numbered, h.lock, h.last, h.buf, ?_⟩ ?_ (fun _ => ?_) fun hclosed => ?_
  · dsimp only
    rw [hnone]
    simpa using hstream
  · rw [h.own, hunsent]
    simp
  · dsimp only
    rw [hnone]
    rfl
  · exact absurd (hclosed.symm.trans hopen) Bool.false_ne_true

/-- A buffer of which nothing was sent goes back to the queue where no other one is in hand. -/
theorem Released.back {f : Flush} (h : s.Released f) (hsent : f.sent = []) (hnone : s.flushes = []) :
    InOrder [] { s with consoleToMcuQueue := f.buf :: s.consoleToMcuQueue } := by
  have hown := h.own
  have hstream := h.stream
  rw [hsent, List.nil_append] at hown
  rw [hnone] at hstream
  refine ⟨h.numbered, h.lock, h.last, h.buf, ?_⟩
  dsimp only
  rw [hnone, List.flatten_cons, hown]
  exact hstream

theorem resume_inOrder {f : Flush} {r : CallResult} (h : s.Released f) (hresumes : s.resumes f r = true) :
    (s.resume f r).InOrder [] := by
  cases r with
  | returned v =>
    obtain ⟨htruthy, hnext⟩ := Bool.and_eq_true_iff.1 hresumes
    unfold resume
    dsimp only
    rw [if_pos htruthy]
    cases hrest : f.rest with
    | nil =>
      rw [hrest, if_pos List.isEmpty_nil, Bool.or_eq_true, Bool.not_eq_true'] at hnext
      exact h.flush hrest fun htakes => hnext.resolve_left fun hno => Bool.false_ne_true (hno.symm.trans htakes)
    | cons chunk rest =>
      rw [hrest, List.isEmpty_cons, if_neg Bool.false_ne_true] at hnext
      exact h.next hrest hnext
  | false =>
    obtain ⟨hsent, hnone⟩ := Bool.and_eq_true_iff.1 hresumes
    exact h.back (List.isEmpty_iff.1 hsent) (List.isEmpty_iff.1 hnone)
  | raised => cases hresumes

/-- A step of the calls that ends none keeps the tasks in their order. -/
theorem sends_inOrder (h : s.InOrder hand) {t : SendCalls} (hnum : t.Numbered)
    (hcalls : (s.sends.calls.map Prod.fst).Sublist (t.calls.map Prod.fst)) :
    InOrder hand { s with sends := t } :=
  ⟨hnum, h.lock.trans hcalls, h.last, h.buf, h.stream⟩

theorem onSends_inOrder (h : s.InOrder []) {e : SendEvent} (horderly : s.orderly (.sends e) = true) :
    (s.onSends e).InOrder [] := by
  have hnum := SendCalls.step_numbered h.numbered e
  unfold onSends
  dsimp only
  cases SendCalls.step_queue h.numbered.locked e with
  | joins cmd he hcalls htickets houtcomes hends =>
    rw [hends]
    refine sends_inOrder h hnum ?_
    rw [hcalls, List.map_append]
    exact List.sublist_append_left _ _
  | stays he hcalls htickets houtcomes hends =>
    rw [hends]
    exact sends_inOrder h hnum (hcalls ▸ List.Sublist.refl _)
  | leaves c o hcur hnext hcalls htickets houtcomes hends =>
    rw [hends]
    rw [orderly, hends, Option.all_some] at horderly
    have hlock := h.lock
    rw [hcalls, List.map_cons] at hlock
    have hnew : o.call.1 ∉ (SendCalls.step e s.sends).calls.map Prod.fst := by
      have hall := (List.nodup_append.1 h.numbered.nodup).2.1
      rw [hcalls, List.map_cons] at hall
      exact (List.nodup_cons.1 hall).1
    unfold onOutcome
    dsimp only
    rcases find_first hlock hnew with ⟨hnone, hlock⟩ | ⟨f, gs, hfs, hfind, hlock⟩
    · rw [show s.flushes.find? (fun f => f.ticket == o.ticket) = none from hnone]
      exact ⟨hnum, hlock, h.last, h.buf, h.stream⟩
    · rw [show s.flushes.find? (fun f => f.ticket == o.ticket) = some f from hfind] at horderly ⊢
      have herase : s.flushes.erase f = gs := by rw [hfs, List.erase_cons_head]
      have hlast := h.last
      have hstream := h.stream
      have hbuf := h.buf
      rw [hfs] at hlast hstream hbuf
      rw [Option.all_some, herase] at horderly
      dsimp only
      rw [herase]
      obtain ⟨hlast, hmore⟩ := lastChunks_cons hlast
      rw [List.flatMap_cons, List.nil_append, List.append_assoc] at hstream
      exact resume_inOrder ⟨hnum, hlock, hlast, fun g hg => hbuf g (List.mem_cons_of_mem f hg), hbuf f List.mem_cons_self,
        hmore, hstream⟩ horderly

theorem step_inOrder (h : s.InOrder []) {e : ConsoleEvent} (horderly : s.orderly e = true) : (step e s).InOrder [] := by
  have hlast : ∀ {queue : List Bytes} {paused : Bool},
      (!s.takes queue paused || lastChunks s.flushes) = true → s.takes queue paused = true →
        lastChunks s.flushes = true := fun hcond htakes => by
    rwa [htakes, Bool.not_true, Bool.false_or] at hcond
  cases e with
  | write payload =>
    simp only [step]
    split
    case isTrue => exact h
    case isFalse hne =>
      rw [orderly, Bool.eq_false_iff.2 hne, Bool.false_or] at horderly
      refine flush_inOrder ⟨h.numbered, h.lock, h.last, h.buf, ?_⟩ (hlast horderly)
      have hstream := h.stream
      dsimp only
      rw [List.flatten_append, List.flatten_append, ← hstream]
      simp
  | flush => exact flush_inOrder h (hlast horderly)
  | xon => exact flush_inOrder ⟨h.numbered, h.lock, h.last, h.buf, h.stream⟩ (hlast horderly)
  | xoff => exact ⟨h.numbered, h.lock, h.last, h.buf, h.stream⟩
  | disconnect =>
    obtain ⟨hcalls, -⟩ := SendCalls.step_calls h.numbered.locked (e := .reset) (fun cmd he => by cases he)
      fun c o hn => by cases hn
    have ht := sends_inOrder h (SendCalls.step_numbered h.numbered .reset) (hcalls ▸ List.Sublist.refl _)
    exact ⟨ht.numbered, ht.lock, ht.last, ht.buf, ht.stream⟩
  | sends e => exact onSends_inOrder h horderly
  | port isOpen => exact ⟨h.numbered, h.lock, h.last, h.buf, h.stream⟩

/-- Where no buffer is taken while another one has more than its last chunk to send, and chunks fail only before anything
of their buffer is sent and with no other buffer in hand, the chunks sent are a prefix of the payloads queued. -/
theorem delivered_prefix (maxAttempts : Nat) (es : List ConsoleEvent)
    (h : Run.Along step (fun s e => s.orderly e = true) (init maxAttempts) es) :
    let s := Run.run step (init maxAttempts) es
    s.delivered <+: s.queued.flatten := by
  have hinv : (Run.run step (init maxAttempts) es).InOrder [] :=
    h.invariant (I := InOrder []) (fun _ _ hs horderly => step_inOrder hs horderly) (init_inOrder maxAttempts)
  exact ⟨_, hinv.stream⟩

/-- The chunk that has the lock is written and acknowledged. -/
def sampleChunk : List ConsoleEvent :=
  [.sends (.raw .sent), .sends (.frame .sample Status.ack.toUnderlying.toUInt32
    (.message (.ackPacket ⟨Command.consoleWrite.toUnderlying.toUInt32⟩))), .sends .completion]

/-- A payload of two chunks. -/
def samplePayload : Bytes := List.replicate maxPayloadSize 1 ++ [2]

/-- A second payload comes while the first one is at its last chunk. -/
theorem delivered_prefix_sample :
    let s := Run.run step (init 1)
      (.write samplePayload :: sampleChunk ++ .write [3] :: sampleChunk ++ .sends .grant :: sampleChunk)
    s.delivered <+: s.queued.flatten :=
  delivered_prefix 1 _ (by decide)

/-- The second chunk of a payload times out and the next flush starts with the first chunk again; and a payload that comes
during the first chunk of another one is sent before the second chunk of that. -/
theorem chunks_repeated_or_reordered :
    (let s := Run.run step (init 1)
      (.write samplePayload :: sampleChunk ++ [.sends (.raw .sent), .sends .timeout, .flush] ++ sampleChunk);
      s.queued = [samplePayload] ∧ s.delivered = List.replicate maxPayloadSize 1 ++ List.replicate maxPayloadSize 1 ∧
      ¬ s.delivered <+: s.queued.flatten) ∧
    (let s := Run.run step (init 1)
      ([.write samplePayload, .write [3]] ++ sampleChunk ++ .sends .grant :: sampleChunk ++ .sends .grant :: sampleChunk);
      s.queued = [samplePayload, [3]] ∧ s.delivered = List.replicate maxPayloadSize 1 ++ [3, 2] ∧
      ¬ s.delivered <+: s.queued.flatten) := by
  decide

end ConsoleFlush
end Daemon
end McuBridge
