import McuBridge.Mcu.FlowControl

/-! # The firmware and its timer service

`Board` runs the firmware on any timer service: the calls a method makes on `_timers` are performed on the service, and
the callbacks run in `_timerTask` only, when the service says that their timer has expired. -/

namespace McuBridge

/-- `fired` records the callbacks that have run. -/
structure Board (T : Type) where
  mcu : Mcu
  service : T
  timerLastTickMs : UInt32 := 0
  fired : List TimerId := []

/-- The events that are no timer callbacks. -/
def McuEvent.isCallback : McuEvent → Bool
  | .onAckTimeout | .onRxDedupe | .onBaudrateChange | .onBootloaderDelay | .onHandshakeTimeout => true
  | _ => false

inductive BoardEvent where
  | begin (secret : Bytes) (postOk : Bool)
  | mcu (ev : McuEvent)
  /-- `_timerTask`, with what `millis` returns. -/
  | timerTask (now : UInt32)

/-- The callback a timer is registered with. -/
def TimerId.callback (P : Platform) : TimerId → Mcu → Mcu
  | .ackTimeout, s => s.onAckTimeout P
  | .rxDedupe, s => s.onRxDedupe
  | .baudrateChange, s => s.onBaudrateChange
  | .bootloaderDelay, s => s.onBootloaderDelay
  | .handshakeTimeout, s => s.onHandshakeTimeout

namespace Board
variable (P : Platform) {T : Type} (S : TimerService TimerId T)

/-- A method of the firmware, with its calls on the service. -/
def act (f : Mcu → Mcu) (b : Board T) : Board T :=
  let m := f b.mcu
  { b with mcu := m, service := S.performAll (m.timerCalls.drop b.mcu.timerCalls.length) b.service }

/-- The callback of an expired timer. -/
def fire (i : TimerId) (b : Board T) : Board T :=
  { b.act S (i.callback P) with fired := b.fired ++ [i] }

/-- `_timer_last_tick_ms` after the first statement of `_timerTask` that may set it. -/
def lastTick (now : UInt32) (b : Board T) : UInt32 := if b.timerLastTickMs = 0 then now else b.timerLastTickMs

def elapsed (now : UInt32) (b : Board T) : UInt32 := now - b.lastTick now

def timerTask (now : UInt32) (b : Board T) : Board T :=
  if 0 < b.elapsed now then
    let r := S.tick (b.elapsed now) b.service
    { r.2.foldl (fun b i => b.fire P S i) { b with service := r.1 } with timerLastTickMs := now }
  else { b with timerLastTickMs := b.lastTick now }

/-- `begin`; it starts with `_initializeRuntime`. -/
def begin (secret : Bytes) (postOk : Bool) (b : Board T) : Board T :=
  { b.act S (Mcu.begin secret postOk) with timerLastTickMs := 0 }

def step : BoardEvent → Board T → Board T
  | .begin secret postOk, b => b.begin S secret postOk
  | .mcu ev, b => if ev.isCallback then b else b.act S (Mcu.step P ev)
  | .timerTask now, b => b.timerTask P S now

/-- The board after `begin`, on a service in any state. -/
def boot (secret : Bytes) (postOk : Bool) (service : T) : Board T :=
  ({ mcu := {}, service := service } : Board T).begin S secret postOk

/-- Nothing but `_timerTask`. -/
def ticks (nows : List UInt32) (b : Board T) : Board T := Run.run (timerTask P S) b nows

/-- The milliseconds that these calls of `_timerTask` deliver. -/
def delivered : List UInt32 → Board T → Nat
  | [], _ => 0
  | now :: nows, b => (b.elapsed now).toNat + delivered nows (b.timerTask P S now)

/-! ### Statement -/

/-- Ticks that total `ms` make the callback run. -/
def Expires (i : TimerId) (ms : Nat) (b : Board T) : Prop :=
  ∀ nows, ms ≤ delivered P S nows b → i ∈ (b.ticks P S nows).fired.drop b.fired.length

/-- Both time-outs are armed: the one of an unacknowledged frame, and the one of a handshake that has been started and
not completed. -/
structure Armed (b : Board T) : Prop where
  ack : b.mcu.isAwaitingAck = true → b.Expires P S .ackTimeout b.mcu.ackTimeoutMs.toNat
  handshake : .handshakeTimeout ∈ b.mcu.timers → b.Expires P S .handshakeTimeout b.mcu.responseTimeoutMs.toNat

/-! ### A service that is never enabled -/

variable {P S} {b : Board T}

theorem act_disabled (hS : S.Lawful) (f : Mcu → Mcu) (h : S.isEnabled b.service = false) :
    S.isEnabled (b.act S f).service = false := hS.performAll_disabled _ h

/-- `begin` clears the service before anything else. -/
theorem begin_timerCalls (secret : Bytes) (postOk : Bool) (m : Mcu) :
    ∃ calls, (Mcu.begin secret postOk m).timerCalls = m.timerCalls ++ .clear :: calls := by
  have hreset : ∀ s : Mcu, (s.receive .reset).timerCalls = s.timerCalls := fun _ => rfl
  have hsafe : ∀ s : Mcu, s.enterSafeState.timerCalls = s.timerCalls := fun _ => rfl
  unfold Mcu.begin
  dsimp only
  cases postOk with
  | true => exact ⟨_, congrArg (· ++ _) (hreset _)⟩
  | false => exact ⟨_, congrArg (· ++ _) ((hsafe _).trans (hreset _))⟩

theorem begin_disabled (hS : S.Lawful) (secret : Bytes) (postOk : Bool) (b : Board T) :
    S.isEnabled (b.begin S secret postOk).service = false := by
  obtain ⟨calls, hcalls⟩ := begin_timerCalls secret postOk b.mcu
  unfold begin act
  dsimp only
  rw [hcalls, List.drop_left]
  exact hS.clear_performAll_disabled calls b.service

theorem timerTask_disabled (hS : S.Lawful) (now : UInt32) (h : S.isEnabled b.service = false) :
    (b.timerTask P S now).service = b.service ∧ (b.timerTask P S now).fired = b.fired := by
  unfold timerTask
  split
  · rw [hS.tick_disabled _ _ h]
    exact ⟨rfl, rfl⟩
  · exact ⟨rfl, rfl⟩

theorem ticks_disabled (hS : S.Lawful) (nows : List UInt32) (h : S.isEnabled b.service = false) :
    (b.ticks P S nows).fired = b.fired := by
  have hinv : S.isEnabled (b.ticks P S nows).service = false ∧ (b.ticks P S nows).fired = b.fired := by
    refine Run.run_invariant (I := fun t : Board T => S.isEnabled t.service = false ∧ t.fired = b.fired)
      (fun t now ht => ?_) ⟨h, rfl⟩ nows
    obtain ⟨hservice, hfired⟩ := timerTask_disabled hS now ht.1
    exact ⟨(congrArg S.isEnabled hservice).trans ht.1, hfired.trans ht.2⟩
  exact hinv.2

/-- The service of a firmware that has begun stays disabled, so no callback runs. -/
theorem step_disabled (hS : S.Lawful) (e : BoardEvent) (h : S.isEnabled b.service = false) :
    S.isEnabled (b.step P S e).service = false ∧ (b.step P S e).fired = b.fired := by
  cases e with
  | begin secret postOk => exact ⟨begin_disabled hS secret postOk b, rfl⟩
  | mcu ev =>
    simp only [step]
    split
    · exact ⟨h, rfl⟩
    · exact ⟨act_disabled hS _ h, rfl⟩
  | timerTask now =>
    obtain ⟨hservice, hfired⟩ := timerTask_disabled (P := P) hS now h
    exact ⟨(congrArg S.isEnabled hservice).trans h, hfired⟩

/-! ### Time that passes -/

/-- The clock can advance by any time. -/
theorem exists_delivered (P : Platform) (S : TimerService TimerId T) (ms : UInt32) (b : Board T) :
    ∃ nows, delivered P S nows b = ms.toNat := by
  have hset : ∀ t : Board T, t.timerLastTickMs ≠ 0 → ∃ nows, delivered P S nows t = ms.toNat := by
    intro t ht
    refine ⟨[t.timerLastTickMs + ms], ?_⟩
    have helapsed : t.elapsed (t.timerLastTickMs + ms) = ms := by
      unfold elapsed lastTick
      rw [if_neg ht, UInt32.add_comm, UInt32.add_sub_cancel]
    rw [delivered, delivered, helapsed, Nat.add_zero]
  by_cases hfirst : b.timerLastTickMs = 0
  · -- the first call only notes the time
    have hzero : b.elapsed 1 = 0 := by
      unfold elapsed lastTick
      rw [if_pos hfirst]
      rfl
    have hlast : (b.timerTask P S 1).timerLastTickMs = 1 := by
      unfold timerTask
      rw [hzero, if_neg (by decide)]
      show b.lastTick 1 = 1
      unfold lastTick
      rw [if_pos hfirst]
    obtain ⟨nows, hnows⟩ := hset (b.timerTask P S 1) (by rw [hlast]; decide)
    refine ⟨1 :: nows, ?_⟩
    rw [delivered, hzero, hnows]
    exact Nat.zero_add _
  · exact hset b hfirst

theorem expires_disabled (hS : S.Lawful) (h : S.isEnabled b.service = false) (i : TimerId) (ms : UInt32) :
    ¬ b.Expires P S i ms.toNat := by
  intro hexp
  obtain ⟨nows, hnows⟩ := exists_delivered P S ms b
  have hmem := hexp nows (Nat.le_of_eq hnows.symm)
  rw [ticks_disabled hS nows h, List.drop_length] at hmem
  cases hmem

/-- In no run after `begin` does a callback ever run. The time-outs are armed exactly where there is nothing to arm,
which is not the case after `begin`. -/
theorem timeouts_never_armed (P : Platform) (S : TimerService TimerId T) (hS : S.Lawful) (secret : Bytes)
    (postOk : Bool) (service : T) (es : List BoardEvent) :
    (Run.run (step P S) (boot S secret postOk service) es).fired = [] ∧
    ((Run.run (step P S) (boot S secret postOk service) es).Armed P S ↔
      (Run.run (step P S) (boot S secret postOk service) es).mcu.isAwaitingAck = false ∧
      .handshakeTimeout ∉ (Run.run (step P S) (boot S secret postOk service) es).mcu.timers) ∧
    ¬ (boot S secret postOk service).Armed P S := by
  have hboot : S.isEnabled (boot S secret postOk service).service = false := begin_disabled hS secret postOk _
  have hstep : ∀ (b : Board T) (e : BoardEvent), S.isEnabled b.service = false ∧ b.fired = [] →
      S.isEnabled (b.step P S e).service = false ∧ (b.step P S e).fired = [] := by
    intro b e h
    obtain ⟨hservice, hfired⟩ := step_disabled (P := P) hS e h.1
    exact ⟨hservice, hfired.trans h.2⟩
  have hrun := Run.run_invariant hstep ⟨hboot, rfl⟩ es
  generalize Run.run (step P S) (boot S secret postOk service) es = b at hrun ⊢
  refine ⟨hrun.2, ⟨fun h => ⟨?_, ?_⟩, fun h => ⟨?_, ?_⟩⟩, fun h => ?_⟩
  · rw [← Bool.not_eq_true]
    intro hack
    have hms : b.mcu.ackTimeoutMs.toNat = b.mcu.ackTimeoutMs.toUInt32.toNat := (UInt16.toNat_toUInt32 _).symm
    have hexp := h.ack hack
    rw [hms] at hexp
    exact expires_disabled hS hrun.1 _ _ hexp
  · exact fun hmem => expires_disabled hS hrun.1 _ _ (h.handshake hmem)
  · intro hack
    rw [h.1] at hack
    cases hack
  · exact fun hmem => absurd hmem h.2
  · refine expires_disabled hS hboot _ _ (h.handshake ?_)
    cases postOk with
    | true => exact List.mem_singleton_self _
    | false => exact List.mem_singleton_self _

/-- A service as ETL's, just constructed, with a firmware that has begun on it. -/
def sampleBoard : Board (CallbackTimer TimerId) := boot CallbackTimer.service [7] true ⟨false, []⟩

/-- A handshake, and a reliable frame of the sketch. -/
def sampleSend : List BoardEvent :=
  [.mcu (.recv .sample (some (Mcu.validSync 1))), .mcu (.send .consoleWrite 0 (.consoleWrite [65]))]

theorem timeouts_never_armed_sample :
    (Run.run (step .sample CallbackTimer.service) sampleBoard sampleSend).mcu.isAwaitingAck = true ∧
    ¬ (Run.run (step .sample CallbackTimer.service) sampleBoard sampleSend).Armed .sample CallbackTimer.service := by
  have hack : (Run.run (step .sample CallbackTimer.service) sampleBoard sampleSend).mcu.isAwaitingAck = true := by
    decide +kernel
  refine ⟨hack, fun h => ?_⟩
  have hnever := timeouts_never_armed .sample CallbackTimer.service CallbackTimer.service_lawful [7] true ⟨false, []⟩
    sampleSend
  have hidle := (hnever.2.1.1 h).1
  rw [show boot CallbackTimer.service [7] true ⟨false, []⟩ = sampleBoard from rfl, hack] at hidle
  cases hidle

/-- After `begin`, 180000 ms pass without a handshake; after a frame that asks for an ACK, 200 ms without one. -/
theorem timeouts_do_not_expire :
    delivered .sample CallbackTimer.service [1, 180001] sampleBoard = sampleBoard.mcu.responseTimeoutMs.toNat ∧
    (sampleBoard.ticks .sample CallbackTimer.service [1, 180001]).fired = [] ∧
    ¬ sampleBoard.Armed .sample CallbackTimer.service ∧
    (Run.run (step .sample CallbackTimer.service) sampleBoard sampleSend).mcu.isAwaitingAck = true ∧
    delivered .sample CallbackTimer.service [1, 201]
      (Run.run (step .sample CallbackTimer.service) sampleBoard sampleSend) = 200 ∧
    ((Run.run (step .sample CallbackTimer.service) sampleBoard sampleSend).ticks .sample CallbackTimer.service
      [1, 201]).fired = [] := by
  have hfired : (sampleBoard.ticks .sample CallbackTimer.service [1, 180001]).fired = [] := by decide +kernel
  have hdelivered : delivered .sample CallbackTimer.service [1, 180001] sampleBoard =
      sampleBoard.mcu.responseTimeoutMs.toNat := by decide +kernel
  refine ⟨hdelivered, hfired, fun h => ?_, by decide +kernel, by decide +kernel, by decide +kernel⟩
  have hmem := h.handshake (by decide +kernel) [1, 180001] (Nat.le_of_eq hdelivered.symm)
  rw [hfired, List.drop_nil] at hmem
  cases hmem

end Board
end McuBridge
