import McuBridge.Lib.WrappingClock
import McuBridge.Mcu.Timers

/-! # The ticks of the timer service

`_timerTask` passes the time since its last call on to `_timers.tick`. The value 0 of `_timer_last_tick_ms` stands for
"no call yet", so a call at which `millis` returns 0 is forgotten, and the time from it to the next call is lost. -/

namespace McuBridge
open WrappingClock

def BoardEvent.isBegin : BoardEvent → Bool
  | .begin .. => true
  | _ => false

/-- What `millis` returns, if the event is a call of `_timerTask`. -/
def BoardEvent.millis : BoardEvent → Option UInt32
  | .timerTask now => some now
  | _ => none

/-- The time from each call at which `millis` returns 0 to the next one. -/
def lostTime : List Nat → Nat
  | t :: t' :: ts => (if reading t = 0 then t' - t else 0) + lostTime (t' :: ts)
  | _ => 0

/-- No call at which `millis` returns 0 is followed by a call at another time. -/
def SentinelUnused (ts : List Nat) : Prop := ts.IsChain fun t t' => reading t = 0 → t' = t

instance (ts : List Nat) : Decidable (SentinelUnused ts) := inferInstanceAs (Decidable (ts.IsChain _))

namespace Board
variable (P : Platform) {T : Type} (S : TimerService TimerId T)

/-- The arguments of `_timers.tick` in one event. -/
def passed (b : Board T) : BoardEvent → List UInt32
  | .timerTask now => if 0 < b.elapsed now then [b.elapsed now] else []
  | _ => []

def ticksPassed : List BoardEvent → Board T → List UInt32
  | [], _ => []
  | e :: es, b => b.passed e ++ ticksPassed es (b.step P S e)

/-! ### The service gets them -/

/-- A service that keeps the ticks it is passed. -/
def recorder : TimerService TimerId (List UInt32) where
  clear t := t
  register _ _ _ t := t
  start _ t := t
  stop _ t := t
  setPeriod _ _ t := t
  enable _ t := t
  tick n t := (t ++ [n], [])
  isEnabled _ := true
  period _ _ := none

theorem recorder_performAll (calls : List (TimerService.Call TimerId)) (t : List UInt32) :
    recorder.performAll calls t = t := by
  induction calls with
  | nil => rfl
  | cons c calls ih => cases c <;> exact ih

theorem recorder_step (e : BoardEvent) (b : Board (List UInt32)) :
    (b.step P recorder e).service = b.service ++ b.passed e := by
  cases e with
  | begin secret postOk => exact (recorder_performAll _ _).trans (List.append_nil _).symm
  | mcu ev =>
    simp only [step, passed, List.append_nil]
    split
    · rfl
    · exact recorder_performAll _ _
  | timerTask now =>
    simp only [step, timerTask, passed]
    split
    · rfl
    · exact (List.append_nil _).symm

theorem recorder_ticks (es : List BoardEvent) (b : Board (List UInt32)) :
    (Run.run (step P recorder) b es).service = b.service ++ ticksPassed P recorder es b := by
  induction es generalizing b with
  | nil => exact (List.append_nil _).symm
  | cons e es ih =>
    rw [Run.run, ih, recorder_step, ticksPassed, List.append_assoc]

/-! ### One call -/

variable {P S} {b : Board T}

theorem act_lastTick (f : Mcu → Mcu) (b : Board T) : (b.act S f).timerLastTickMs = b.timerLastTickMs := rfl

theorem mcu_lastTick (ev : McuEvent) : (b.step P S (.mcu ev)).timerLastTickMs = b.timerLastTickMs := by
  simp only [step]
  split
  · rfl
  · exact act_lastTick ..

theorem elapsed_first (h : b.timerLastTickMs = 0) (now : UInt32) : b.elapsed now = 0 := by
  unfold elapsed lastTick
  rw [if_pos h, UInt32.sub_self]

theorem elapsed_next (h : b.timerLastTickMs ≠ 0) (now : UInt32) : b.elapsed now = now - b.timerLastTickMs := by
  unfold elapsed lastTick
  rw [if_neg h]

theorem elapsed_eq_zero {now : UInt32} (h : ¬ 0 < b.elapsed now) : b.elapsed now = 0 := by
  by_contra hne
  exact h (UInt32.pos_iff_ne_zero.2 hne)

/-- After a call its reading is the last one. -/
theorem timerTask_lastTick (now : UInt32) : (b.timerTask P S now).timerLastTickMs = now := by
  unfold timerTask
  split
  case isTrue => rfl
  case isFalse h =>
    have hnow := UInt32.sub_eq_iff_eq_add.1 (elapsed_eq_zero h)
    rw [UInt32.zero_add] at hnow
    exact hnow.symm

def total (ticks : List UInt32) : Nat := (ticks.map UInt32.toNat).sum

theorem total_append (l l' : List UInt32) : total (l ++ l') = total l + total l' := by
  simp [total]

theorem total_passed (b : Board T) (now : UInt32) : total (b.passed (.timerTask now)) = (b.elapsed now).toNat := by
  simp only [passed]
  split
  case isTrue => simp [total]
  case isFalse h =>
    rw [elapsed_eq_zero h]
    rfl

/-- The call passes the time since the last one on, if that was not at a reading of 0. -/
theorem passed_add_lost {t t' : Nat} (hlast : b.timerLastTickMs = reading t) (h : Advances t t') :
    total (b.passed (.timerTask (reading t'))) + (if reading t = 0 then t' - t else 0) = t' - t := by
  rw [total_passed]
  by_cases hzero : reading t = 0
  · rw [if_pos hzero, elapsed_first (hlast.trans hzero)]
    exact Nat.zero_add _
  · rw [if_neg hzero, elapsed_next (fun h0 => hzero (hlast.symm.trans h0)), hlast, reading_sub h, Nat.add_zero]

/-! ### A run -/

variable {es : List BoardEvent} {ts : List Nat}

theorem ticks_add_lost {t : Nat} (hes : ∀ e ∈ es, e.isBegin = false) (hlast : b.timerLastTickMs = reading t)
    (hread : es.filterMap BoardEvent.millis = ts.map reading) (hclock : (t :: ts).IsChain Advances) :
    total (ticksPassed P S es b) + lostTime (t :: ts) = span (t :: ts) := by
  induction es generalizing b t ts with
  | nil =>
    obtain rfl : ts = [] := List.map_eq_nil_iff.1 hread.symm
    exact (Nat.sub_self t).symm
  | cons e es ih =>
    have hrest : ∀ e ∈ es, e.isBegin = false := fun e he => hes e (List.mem_cons_of_mem _ he)
    cases e with
    | begin secret postOk => exact absurd (hes _ List.mem_cons_self) Bool.noConfusion
    | mcu ev => exact ih hrest ((mcu_lastTick ev).trans hlast) hread hclock
    | timerTask now =>
      cases ts with
      | nil => cases hread
      | cons t' ts =>
        obtain ⟨rfl, hreads⟩ := List.cons.inj hread
        obtain ⟨hadv, hchain⟩ := List.isChain_cons_cons.1 hclock
        have hstep := passed_add_lost hlast hadv
        have hnext := ih (b := b.timerTask P S (reading t')) hrest (timerTask_lastTick _) hreads hchain
        rw [ticksPassed, total_append, span_cons_cons hclock, lostTime]
        simp only [step]
        omega

/-- From `begin` on: the first call only notes the time. -/
theorem ticks_add_lost_begin (hes : ∀ e ∈ es, e.isBegin = false) (hlast : b.timerLastTickMs = 0)
    (hread : es.filterMap BoardEvent.millis = ts.map reading) (hclock : ts.IsChain Advances) :
    total (ticksPassed P S es b) + lostTime ts = span ts := by
  induction es generalizing b with
  | nil =>
    obtain rfl : ts = [] := List.map_eq_nil_iff.1 hread.symm
    rfl
  | cons e es ih =>
    have hrest : ∀ e ∈ es, e.isBegin = false := fun e he => hes e (List.mem_cons_of_mem _ he)
    cases e with
    | begin secret postOk => exact absurd (hes _ List.mem_cons_self) Bool.noConfusion
    | mcu ev => exact ih hrest ((mcu_lastTick ev).trans hlast) hread
    | timerTask now =>
      cases ts with
      | nil => cases hread
      | cons t ts =>
        obtain ⟨rfl, hreads⟩ := List.cons.inj hread
        have hnext := ticks_add_lost (P := P) (S := S) (b := b.timerTask P S (reading t)) hrest
          (timerTask_lastTick _) hreads hclock
        rw [ticksPassed, total_append, total_passed, elapsed_first hlast, UInt32.toNat_zero, Nat.zero_add]
        exact hnext

end Board

theorem lostTime_eq_zero_iff {ts : List Nat} (hclock : ts.IsChain Advances) : lostTime ts = 0 ↔ SentinelUnused ts := by
  induction ts with
  | nil => exact iff_of_true rfl List.IsChain.nil
  | cons t ts ih =>
    cases ts with
    | nil => exact iff_of_true rfl (List.IsChain.singleton t)
    | cons t' ts =>
      obtain ⟨hadv, hchain⟩ := List.isChain_cons_cons.1 hclock
      have hle : t ≤ t' := hadv.1
      have hgap : (if reading t = 0 then t' - t else 0) = 0 ↔ (reading t = 0 → t' = t) := by
        split
        case isTrue h => exact ⟨fun hz _ => by omega, fun hz => by rw [hz h, Nat.sub_self]⟩
        case isFalse h => exact iff_of_true rfl fun hz => absurd hz h
      rw [lostTime, Nat.add_eq_zero_iff, hgap, ih hchain, SentinelUnused, SentinelUnused, List.isChain_cons_cons]

namespace Board
variable {T : Type}

/-- In every run after `begin`, whatever happens between the calls of `_timerTask`: the ticks add up to the time between
the first and the last call exactly if the sentinel was never taken for a reading. -/
theorem ticks_exact_iff (P : Platform) (S : TimerService TimerId T) (secret : Bytes) (postOk : Bool) (b : Board T)
    (es : List BoardEvent) (hes : ∀ e ∈ es, e.isBegin = false) (ts : List Nat)
    (hread : es.filterMap BoardEvent.millis = ts.map reading) (hclock : ts.IsChain Advances) :
    total (ticksPassed P S es (b.begin S secret postOk)) = span ts ↔ SentinelUnused ts := by
  have hsum := ticks_add_lost_begin (P := P) (S := S) (b := b.begin S secret postOk) hes rfl hread hclock
  rw [← lostTime_eq_zero_iff hclock]
  omega

/-- The clock wraps between the two calls, and no call reads 0. -/
theorem ticks_exact_sample :
    total (ticksPassed .sample CallbackTimer.service [.timerTask 4294967295, .mcu .consoleProcess, .timerTask 5]
      (sampleBoard.begin CallbackTimer.service [7] true)) = 6 := by
  have hiff := ticks_exact_iff .sample CallbackTimer.service [7] true sampleBoard
    [.timerTask 4294967295, .mcu .consoleProcess, .timerTask 5] (by decide) [4294967295, 4294967301] (by decide) (by decide)
  exact hiff.2 (by decide)

/-- Calls at 4294967295 ms, at 4294967296 ms, where `millis` returns 0, and at 4294967301 ms. -/
theorem ticks_lost_at_zero :
    [4294967295, 4294967296, 4294967301].IsChain Advances ∧
      total (ticksPassed .sample CallbackTimer.service
        ([4294967295, 4294967296, 4294967301].map fun t => .timerTask (reading t))
        (sampleBoard.begin CallbackTimer.service [7] true)) = 1 ∧
      span [4294967295, 4294967296, 4294967301] = 6 := by
  refine ⟨by decide, by decide +kernel, by decide⟩

end Board
end McuBridge
