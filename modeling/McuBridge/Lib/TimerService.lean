import Mathlib.Logic.Basic

/-! # Timer services

A service keeps timers by an id. A timer is registered with a period and waits until it is started; the service counts
time in `tick`, which returns the timers that expired, and only while it is enabled. Nothing is said about when a
started timer expires in an enabled service. -/

/-- The operations of a service with timers `Id` on the states `T`. -/
structure TimerService (Id T : Type) where
  clear : T → T
  register : Id → (period : UInt32) → (repeating : Bool) → T → T
  start : Id → T → T
  stop : Id → T → T
  setPeriod : Id → (period : UInt32) → T → T
  enable : Bool → T → T
  tick : (elapsed : UInt32) → T → T × List Id
  isEnabled : T → Bool
  /-- `none` for a timer that is not registered. -/
  period : Id → T → Option UInt32

namespace TimerService
variable {Id T : Type}

/-- A call of a method, other than `enable` and `tick`. -/
inductive Call (Id : Type) where
  | clear
  | register (i : Id) (period : UInt32) (repeating : Bool)
  | start (i : Id)
  | stop (i : Id)
  | setPeriod (i : Id) (period : UInt32)
  deriving DecidableEq

variable (S : TimerService Id T)

/-- The documented behaviour: only `enable` enables, a disabled service does not count, and only `setPeriod` changes the
period of a registered timer. -/
structure Lawful : Prop where
  clear_disabled : ∀ t, S.isEnabled (S.clear t) = false
  register_enabled : ∀ i p r t, S.isEnabled (S.register i p r t) = S.isEnabled t
  start_enabled : ∀ i t, S.isEnabled (S.start i t) = S.isEnabled t
  stop_enabled : ∀ i t, S.isEnabled (S.stop i t) = S.isEnabled t
  setPeriod_enabled : ∀ i p t, S.isEnabled (S.setPeriod i p t) = S.isEnabled t
  tick_disabled : ∀ n t, S.isEnabled t = false → S.tick n t = (t, [])
  start_period : ∀ i j t, S.period j (S.start i t) = S.period j t
  stop_period : ∀ i j t, S.period j (S.stop i t) = S.period j t
  setPeriod_period : ∀ i p t, (S.period i t).isSome → S.period i (S.setPeriod i p t) = some p
  setPeriod_unregistered : ∀ i p t, S.period i t = none → S.period i (S.setPeriod i p t) = none
  setPeriod_other : ∀ i j p t, j ≠ i → S.period j (S.setPeriod i p t) = S.period j t

def perform : Call Id → T → T
  | .clear => S.clear
  | .register i p r => S.register i p r
  | .start i => S.start i
  | .stop i => S.stop i
  | .setPeriod i p => S.setPeriod i p

def performAll (calls : List (Call Id)) (t : T) : T := calls.foldl (fun t c => S.perform c t) t

variable {S}

theorem Lawful.perform_disabled (hS : S.Lawful) (c : Call Id) {t : T} (h : S.isEnabled t = false) :
    S.isEnabled (S.perform c t) = false := by
  cases c with
  | clear => exact hS.clear_disabled t
  | register i p r => exact (hS.register_enabled i p r t).trans h
  | start i => exact (hS.start_enabled i t).trans h
  | stop i => exact (hS.stop_enabled i t).trans h
  | setPeriod i p => exact (hS.setPeriod_enabled i p t).trans h

/-- No sequence of these calls enables a service. -/
theorem Lawful.performAll_disabled (hS : S.Lawful) (calls : List (Call Id)) {t : T} (h : S.isEnabled t = false) :
    S.isEnabled (S.performAll calls t) = false := by
  induction calls generalizing t with
  | nil => exact h
  | cons c calls ih => exact ih (hS.perform_disabled c h)

theorem Lawful.clear_performAll_disabled (hS : S.Lawful) (calls : List (Call Id)) (t : T) :
    S.isEnabled (S.performAll (.clear :: calls) t) = false :=
  hS.performAll_disabled calls (hS.clear_disabled t)

/-- The period of a timer changes with its own `setPeriod`. -/
theorem Lawful.restart_period (hS : S.Lawful) (i j : Id) (p : UInt32) (t : T) :
    S.period j (S.performAll [.stop i, .setPeriod i p, .start i] t) = S.period j (S.setPeriod i p (S.stop i t)) :=
  hS.start_period ..

end TimerService

/-! ### A service that works -/

/-- A registered timer; `remaining` is `none` while it is stopped. -/
structure TimerEntry (Id : Type) where
  id : Id
  period : UInt32
  repeating : Bool
  remaining : Option UInt32

structure CallbackTimer (Id : Type) where
  enabled : Bool
  entries : List (TimerEntry Id)

namespace TimerEntry
variable {Id : Type}

def isDue (elapsed : UInt32) (e : TimerEntry Id) : Bool := e.remaining.any fun r => r ≤ elapsed

def advance (elapsed : UInt32) (e : TimerEntry Id) : TimerEntry Id :=
  if e.isDue elapsed then { e with remaining := if e.repeating then some e.period else none }
  else { e with remaining := e.remaining.map fun r => r - elapsed }

end TimerEntry

namespace CallbackTimer
variable {Id : Type} [DecidableEq Id]

def update (i : Id) (f : TimerEntry Id → TimerEntry Id) (t : CallbackTimer Id) : CallbackTimer Id :=
  { t with entries := t.entries.map fun e => if e.id = i then f e else e }

def periodOf (i : Id) (t : CallbackTimer Id) : Option UInt32 :=
  (t.entries.find? fun e => e.id = i).map TimerEntry.period

def service : TimerService Id (CallbackTimer Id) where
  clear _ := ⟨false, []⟩
  register i period repeating t := { t with entries := t.entries ++ [⟨i, period, repeating, none⟩] }
  start i t := t.update i fun e => { e with remaining := some e.period }
  stop i t := t.update i fun e => { e with remaining := none }
  setPeriod i period t := t.update i fun e => { e with period := period, remaining := none }
  enable b t := { t with enabled := b }
  tick n t :=
    if t.enabled then
      ({ t with entries := t.entries.map fun e => e.advance n },
        (t.entries.filter fun e => e.isDue n).map TimerEntry.id)
    else (t, [])
  isEnabled t := t.enabled
  period := periodOf

theorem periodOf_update (i j : Id) (f : TimerEntry Id → TimerEntry Id) (hid : ∀ e, (f e).id = e.id)
    (t : CallbackTimer Id) :
    periodOf j (t.update i f) =
      (t.entries.find? fun e => e.id = j).map fun e => if e.id = i then (f e).period else e.period := by
  have hsame : (fun e : TimerEntry Id => decide (e.id = j)) ∘ (fun e => if e.id = i then f e else e) =
      fun e => decide (e.id = j) := by
    funext e
    show decide ((if e.id = i then f e else e).id = j) = _
    split
    · rw [hid]
    · rfl
  unfold periodOf update
  rw [List.find?_map, hsame, Option.map_map]
  congr 1
  funext e
  exact apply_ite TimerEntry.period ..

theorem service_lawful : (service : TimerService Id (CallbackTimer Id)).Lawful where
  clear_disabled _ := rfl
  register_enabled _ _ _ _ := rfl
  start_enabled _ _ := rfl
  stop_enabled _ _ := rfl
  setPeriod_enabled _ _ _ := rfl
  tick_disabled n t h := by
    show (if t.enabled then _ else (t, [])) = _
    rw [if_neg (by rw [show t.enabled = false from h]; decide)]
  start_period i j t := by
    refine (periodOf_update i j (fun e => { e with remaining := some e.period }) (fun _ => rfl) t).trans ?_
    simp only [ite_self]
    rfl
  stop_period i j t := by
    refine (periodOf_update i j (fun e => { e with remaining := none }) (fun _ => rfl) t).trans ?_
    simp only [ite_self]
    rfl
  setPeriod_period i p t h := by
    refine (periodOf_update i i (fun e => { e with period := p, remaining := none }) (fun _ => rfl) t).trans ?_
    have h : ((t.entries.find? fun e => e.id = i).map TimerEntry.period).isSome := h
    rw [Option.isSome_map] at h
    obtain ⟨e, he⟩ := Option.isSome_iff_exists.1 h
    have hid : e.id = i := by simpa using List.find?_some he
    rw [he, Option.map_some, if_pos hid]
  setPeriod_unregistered i p t h := by
    refine (periodOf_update i i (fun e => { e with period := p, remaining := none }) (fun _ => rfl) t).trans ?_
    have h : (t.entries.find? fun e => e.id = i).map TimerEntry.period = none := h
    rw [Option.map_eq_none_iff.1 h, Option.map_none]
  setPeriod_other i j p t hne := by
    refine (periodOf_update i j (fun e => { e with period := p, remaining := none }) (fun _ => rfl) t).trans ?_
    show _ = (t.entries.find? fun e => e.id = j).map TimerEntry.period
    refine Option.map_congr fun e he => ?_
    have hid : e.id = j := by simpa using List.find?_some he
    rw [if_neg (by rw [hid]; exact hne)]

end CallbackTimer
