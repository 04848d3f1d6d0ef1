import McuBridge.Daemon.ReadLoop
import McuBridge.Lib.Run

/-! # Negotiating the baud rate (`transport/serial.py`)

`_negotiate_baudrate` at both of its call sites, with an arbitrary target, among the steps of the event loop:
`_connect_and_run` calls it beside the reader, `_check_baudrate_fallback` inside the reader, which takes no packet
until the call has ended. The two share `_negotiating` and `_negotiation_future`. The reader switches the port when
it takes a CMD_SET_BAUDRATE_RESP, to the rate of the configuration. -/

namespace McuBridge
namespace Daemon

/-- A future of `_negotiate_baudrate`. -/
inductive FutureState where
  | pending | done | cancelled
  deriving DecidableEq

/-- The two callers: `_connect_and_run`, and the reader. -/
inductive Negotiator where
  | startup | fallback
  deriving DecidableEq

/-- A call of `_negotiate_baudrate`. It still sends while it `awaits` no future. `before` is the rate of the port when
it was called, and `answered` says whether the reader has taken a response since. -/
structure Negotiation where
  target : UInt32
  before : UInt32
  awaits : Option Nat := none
  answered : Bool := false

/-- A call that has ended, with the rate of the port then. `result` is `none` where an exception left it. -/
structure Negotiated where
  target : UInt32
  before : UInt32
  after : UInt32
  result : Option Bool
  deriving DecidableEq

structure Uart where
  baudrate : UInt32
  reading : Bool := false
  negotiating : Bool := false
  negotiationFuture : Option Nat := none
  futures : Nat → FutureState := fun _ => .pending
  nextFuture : Nat := 0
  calls : Negotiator → Option Negotiation := fun _ => none
  ended : List Negotiated := []

/-- `sent` is the end of `send_raw`, `resume` the wake-up of a task whose future is resolved, `timeout` the expiry of
`asyncio.timeout`, and `cancel` the cancellation of the task. -/
inductive UartEvent where
  | connect
  | call (who : Negotiator) (target : UInt32)
  | sent (who : Negotiator) (ok : Bool)
  | response (switches : Bool)
  | resume (who : Negotiator)
  | timeout (who : Negotiator)
  | cancel (who : Negotiator)

def defaultSafeBaudrate : UInt32 := 115200

namespace Uart
variable (cfg : ReaderConfig)

/-- The rate `_connect_and_run` opens the port with. -/
def connectBaud : UInt32 := if cfg.serialSafeBaud = 0 then defaultSafeBaudrate else cfg.serialSafeBaud

def setCall (who : Negotiator) (c : Option Negotiation) (u : Uart) : Uart :=
  { u with calls := Function.update u.calls who c }

def setFuture (f : Nat) (a : FutureState) (u : Uart) : Uart := { u with futures := Function.update u.futures f a }

/-- `_connect_and_run` opens the port and starts the reader, once the tasks of the last connection are done. -/
def connect (u : Uart) : Uart :=
  if (u.calls .startup).isSome || (u.calls .fallback).isSome then u
  else { u with baudrate := connectBaud cfg, reading := true }

/-- `_negotiate_baudrate` up to its first suspension, in `send_raw`. -/
def call (who : Negotiator) (target : UInt32) (u : Uart) : Uart :=
  if (u.calls who).isSome || (who == .fallback && !u.reading) then u
  else
    { u with
      negotiating := true
      negotiationFuture := some u.nextFuture
      futures := Function.update u.futures u.nextFuture .pending
      nextFuture := u.nextFuture + 1
      calls := Function.update u.calls who (some { target, before := u.baudrate }) }

/-- The end of a call, with its `finally`. -/
def finish (who : Negotiator) (c : Negotiation) (result : Option Bool) (u : Uart) : Uart :=
  { u.setCall who none with
    negotiating := false
    ended := u.ended ++ [⟨c.target, c.before, u.baudrate, result⟩] }

/-- What the `await` of a resolved future leads to: `True`, or a `CancelledError`, which nothing catches. -/
def awaited : FutureState → Option (Option Bool)
  | .pending => none
  | .done => some (some true)
  | .cancelled => some none

/-- Cancelling a task cancels the future it waits for, unless that is resolved. -/
def cancelFuture (f : Nat) (u : Uart) : Uart := if u.futures f = .pending then u.setFuture f .cancelled else u

/-- After `send_raw` the attribute is read again: it may be the future of the other caller by now. -/
def sent (who : Negotiator) (c : Negotiation) (ok : Bool) (u : Uart) : Uart :=
  if c.awaits.isSome then u
  else if !ok then u.finish who c (some false)
  else
    match u.negotiationFuture with
    | none => u.finish who c (some true)
    | some f =>
      match awaited (u.futures f) with
      | none => u.setCall who (some { c with awaits := some f })
      | some r => u.finish who c r

/-- `_process_packet` on CMD_SET_BAUDRATE_RESP. A port that cannot be switched raises, and the read loop ends. -/
def response (switches : Bool) (u : Uart) : Uart :=
  if !u.reading || (u.calls .fallback).isSome || !u.negotiating then u
  else
    match u.negotiationFuture with
    | none => u
    | some f =>
      if u.futures f ≠ .pending then u
      else if !switches then { u with reading := false }
      else
        { u.setFuture f .done with
          baudrate := cfg.serialBaud
          calls := fun who => (u.calls who).map fun c => { c with answered := true } }

def resume (who : Negotiator) (c : Negotiation) (u : Uart) : Uart :=
  match c.awaits.bind fun f => awaited (u.futures f) with
  | none => u
  | some r => u.finish who c r

/-- The timeout may come between the response and the wake-up of the task, and turns into `False` there too. -/
def timeout (who : Negotiator) (c : Negotiation) (u : Uart) : Uart :=
  match c.awaits with
  | none => u
  | some f => (u.cancelFuture f).finish who c (some false)

def cancel (who : Negotiator) (c : Negotiation) (u : Uart) : Uart :=
  match c.awaits with
  | none => u.finish who c none
  | some f => (u.cancelFuture f).finish who c none

def step : UartEvent → Uart → Uart
  | .connect, u => u.connect cfg
  | .call who target, u => u.call who target
  | .sent who ok, u => (u.calls who).elim u fun c => u.sent who c ok
  | .response switches, u => u.response cfg switches
  | .resume who, u => (u.calls who).elim u fun c => u.resume who c
  | .timeout who, u => (u.calls who).elim u fun c => u.timeout who c
  | .cancel who, u => (u.calls who).elim u fun c => u.cancel who c

/-! ### What the callers are told -/

/-- The call that an event ends, with what it returns. -/
def ending : UartEvent → Uart → Option (Negotiation × Option Bool)
  | .sent who ok, u => (u.calls who).bind fun c =>
    if c.awaits.isSome then none
    else if !ok then some (c, some false)
    else
      match u.negotiationFuture with
      | none => some (c, some true)
      | some f => (awaited (u.futures f)).map fun r => (c, r)
  | .resume who, u => (u.calls who).bind fun c => (c.awaits.bind fun f => awaited (u.futures f)).map fun r => (c, r)
  | .timeout who, u => (u.calls who).bind fun c => c.awaits.map fun _ => (c, some false)
  | .cancel who, u => (u.calls who).map fun c => (c, none)
  | _, _ => none

/-- A call that the event ends with `True` was for the rate of the configuration, and during one that it ends with
`False` no response was taken, unless the port ran at that rate before. -/
def EndsRight (u : Uart) (ev : UartEvent) : Prop :=
  ∀ c result, u.ending ev = some (c, result) →
    (result = some true → c.target = cfg.serialBaud) ∧
      (result = some false → c.answered = true → c.before = cfg.serialBaud)

end Uart

/-- `True` means that the port runs at the target, `False` that it runs at the rate it had. -/
structure Negotiated.Sound (n : Negotiated) : Prop where
  switched : n.result = some true → n.after = n.target
  kept : n.result = some false → n.after = n.before

def Uart.Sound (u : Uart) : Prop := ∀ n ∈ u.ended, n.Sound

namespace Uart
variable {cfg : ReaderConfig} {u : Uart} {who : Negotiator} {c : Negotiation} {result : Option Bool}

/-! ### The invariant -/

/-- While a call is in progress only a response changes the rate, and the future that it waits for or is about to wait
for is resolved only after the switch. -/
structure Inv (cfg : ReaderConfig) (u : Uart) : Prop where
  rate : ∀ who c, u.calls who = some c → u.baudrate = if c.answered then cfg.serialBaud else c.before
  resolved : ∀ who c, u.calls who = some c → ∀ f, c.awaits = some f ∨ u.negotiationFuture = some f →
    u.futures f = .done → u.baudrate = cfg.serialBaud
  future : ∀ who c, u.calls who = some c → u.negotiationFuture ≠ none

/-- What changes no future to done, no rate, and makes no new calls. -/
structure Quiet (u v : Uart) : Prop where
  baudrate : v.baudrate = u.baudrate
  negotiationFuture : v.negotiationFuture = u.negotiationFuture
  futures : ∀ f, v.futures f = .done → u.futures f = .done
  calls : ∀ who c, v.calls who = some c → ∃ c', u.calls who = some c' ∧ c'.answered = c.answered ∧
    c'.before = c.before ∧ ∀ f, c.awaits = some f → c'.awaits = some f ∨ u.negotiationFuture = some f

theorem Quiet.refl (u : Uart) : Quiet u u :=
  ⟨rfl, rfl, fun _ h => h, fun _ c hc => ⟨c, hc, rfl, rfl, fun _ hf => .inl hf⟩⟩

theorem Inv.quiet {v : Uart} (h : u.Inv cfg) (hq : Quiet u v) : v.Inv cfg := by
  refine ⟨fun who c hc => ?_, fun who c hc f hf hdone => ?_, fun who c hc => ?_⟩
  · obtain ⟨c', hc', hanswered, hbefore, -⟩ := hq.calls who c hc
    rw [hq.baudrate, h.rate who c' hc', hanswered, hbefore]
  · obtain ⟨c', hc', -, -, hawaits⟩ := hq.calls who c hc
    rw [hq.negotiationFuture] at hf
    rw [hq.baudrate]
    rcases hf with hf | hf
    · exact h.resolved who c' hc' f (hawaits f hf) (hq.futures f hdone)
    · exact h.resolved who c' hc' f (.inr hf) (hq.futures f hdone)
  · obtain ⟨c', hc', -⟩ := hq.calls who c hc
    rw [hq.negotiationFuture]
    exact h.future who c' hc'

theorem finish_quiet (who : Negotiator) (c : Negotiation) (result : Option Bool) (u : Uart) :
    Quiet u (u.finish who c result) := by
  refine ⟨rfl, rfl, fun _ h => h, fun w d hd => ⟨d, ?_, rfl, rfl, fun _ hf => .inl hf⟩⟩
  change Function.update u.calls who none w = some d at hd
  by_cases hw : w = who
  · rw [hw, Function.update_self] at hd
    cases hd
  · rwa [Function.update_of_ne hw] at hd

theorem cancelFuture_quiet (f : Nat) (u : Uart) : Quiet u (u.cancelFuture f) := by
  unfold cancelFuture
  split
  · refine ⟨rfl, rfl, fun g hg => ?_, fun w d hd => ⟨d, hd, rfl, rfl, fun _ hf => .inl hf⟩⟩
    change Function.update u.futures f .cancelled g = .done at hg
    by_cases hgf : g = f
    · rw [hgf, Function.update_self] at hg
      cases hg
    · rwa [Function.update_of_ne hgf] at hg
  · exact .refl u

theorem Inv.connect (h : u.Inv cfg) : (u.connect cfg).Inv cfg := by
  unfold Uart.connect
  split
  case isTrue => exact h
  case isFalse hidle =>
    have hnone : ∀ who, u.calls who = none := by
      intro who
      cases who <;> simp_all
    refine ⟨fun who c hc => ?_, fun who c hc => ?_, fun who c hc => ?_⟩ <;>
    · change u.calls who = some c at hc
      rw [hnone who] at hc
      cases hc

theorem Inv.call (h : u.Inv cfg) (who : Negotiator) (target : UInt32) : (u.call who target).Inv cfg := by
  unfold Uart.call
  split
  case isTrue => exact h
  case isFalse =>
    have hcases : ∀ w c, Function.update u.calls who (some { target, before := u.baudrate }) w = some c →
        u.calls w = some c ∨ c = { target, before := u.baudrate } := by
      intro w c hc
      by_cases hw : w = who
      · rw [hw, Function.update_self] at hc
        exact .inr (Option.some.inj hc).symm
      · rw [Function.update_of_ne hw] at hc
        exact .inl hc
    refine ⟨fun w c hc => ?_, fun w c hc f hf hdone => ?_, fun _ _ _ => nofun⟩
    · rcases hcases w c hc with hc | rfl
      · exact h.rate w c hc
      · rfl
    · change Function.update u.futures u.nextFuture .pending f = .done at hdone
      have hne : f ≠ u.nextFuture := by
        rintro rfl
        rw [Function.update_self] at hdone
        cases hdone
      rw [Function.update_of_ne hne] at hdone
      rcases hf with hf | hf
      · rcases hcases w c hc with hc | rfl
        · exact h.resolved w c hc f (.inl hf) hdone
        · cases hf
      · exact absurd (Option.some.inj hf).symm hne

theorem Inv.sent (h : u.Inv cfg) (hc : u.calls who = some c) (ok : Bool) : (u.sent who c ok).Inv cfg := by
  unfold Uart.sent
  split
  · exact h
  split
  · exact h.quiet (finish_quiet who c _ u)
  split
  case h_1 => exact h.quiet (finish_quiet who c _ u)
  case h_2 f hf =>
    split
    case h_2 => exact h.quiet (finish_quiet who c _ u)
    case h_1 =>
      refine h.quiet ⟨rfl, rfl, fun _ hd => hd, fun w d hd => ?_⟩
      change Function.update u.calls who (some { c with awaits := some f }) w = some d at hd
      by_cases hw : w = who
      · rw [hw, Function.update_self] at hd
        obtain rfl := Option.some.inj hd
        exact ⟨c, hw ▸ hc, rfl, rfl, fun g hg => .inr (Option.some.inj hg ▸ hf)⟩
      · rw [Function.update_of_ne hw] at hd
        exact ⟨d, hd, rfl, rfl, fun _ hg => .inl hg⟩

theorem Inv.response (h : u.Inv cfg) (switches : Bool) : (u.response cfg switches).Inv cfg := by
  unfold Uart.response
  split
  · exact h
  split
  · exact h
  split
  · exact h
  split
  · exact ⟨h.rate, h.resolved, h.future⟩
  · refine ⟨fun w c hc => ?_, fun w c hc _ _ _ => rfl, fun w c hc => ?_⟩
    · obtain ⟨c', -, rfl⟩ := Option.map_eq_some_iff.1 hc
      rfl
    · obtain ⟨c', hc', -⟩ := Option.map_eq_some_iff.1 hc
      exact h.future w c' hc'

theorem Inv.step (h : u.Inv cfg) (ev : UartEvent) : (step cfg ev u).Inv cfg := by
  cases ev with
  | connect => exact h.connect
  | call who target => exact h.call who target
  | response switches => exact h.response switches
  | sent who ok =>
    cases hc : u.calls who with
    | none => simpa [Uart.step, hc] using h
    | some c => simpa [Uart.step, hc] using h.sent hc ok
  | resume who =>
    cases hc : u.calls who with
    | none => simpa [Uart.step, hc] using h
    | some c =>
      simp only [Uart.step, hc, Option.elim_some, resume]
      split
      · exact h
      · exact h.quiet (finish_quiet who c _ u)
  | timeout who =>
    cases hc : u.calls who with
    | none => simpa [Uart.step, hc] using h
    | some c =>
      simp only [Uart.step, hc, Option.elim_some, timeout]
      split
      · exact h
      · exact (h.quiet (cancelFuture_quiet _ u)).quiet (finish_quiet who c _ _)
  | cancel who =>
    cases hc : u.calls who with
    | none => simpa [Uart.step, hc] using h
    | some c =>
      simp only [Uart.step, hc, Option.elim_some, cancel]
      split
      · exact h.quiet (finish_quiet who c _ u)
      · exact (h.quiet (cancelFuture_quiet _ u)).quiet (finish_quiet who c _ _)

/-- What an event adds to the calls that have ended. -/
theorem step_ended (cfg : ReaderConfig) (ev : UartEvent) (u : Uart) :
    (step cfg ev u).ended = u.ended ++
      ((u.ending ev).map fun x => ⟨x.1.target, x.1.before, u.baudrate, x.2⟩).toList := by
  have hcancel (f : Nat) (who : Negotiator) (c : Negotiation) (result : Option Bool) :
      ((u.cancelFuture f).finish who c result).ended = u.ended ++ [⟨c.target, c.before, u.baudrate, result⟩] := by
    unfold cancelFuture
    split <;> rfl
  cases ev with
  | connect =>
    simp only [step, connect, ending]
    split <;> simp
  | call who target =>
    simp only [step, call, ending]
    split <;> simp
  | response switches =>
    have hended : (u.response cfg switches).ended = u.ended := by
      unfold response
      split
      · rfl
      split
      · rfl
      split
      · rfl
      split <;> rfl
    simpa [step, ending] using hended
  | sent who ok =>
    cases hc : u.calls who with
    | none => simp [step, ending, hc]
    | some c =>
      simp only [step, ending, hc, Option.elim_some, Option.bind_some, sent]
      by_cases hwaits : c.awaits.isSome = true
      · simp [hwaits]
      rw [if_neg hwaits, if_neg hwaits]
      cases ok with
      | false => simp [finish, setCall]
      | true =>
        cases u.negotiationFuture with
        | none => simp [finish, setCall]
        | some f => cases hf : awaited (u.futures f) <;> simp [hf, finish, setCall]
  | resume who =>
    cases hc : u.calls who with
    | none => simp [step, ending, hc]
    | some c =>
      simp only [step, ending, hc, Option.elim_some, Option.bind_some, resume]
      cases c.awaits.bind fun f => awaited (u.futures f) with
      | none => simp
      | some result => rfl
  | timeout who =>
    cases hc : u.calls who with
    | none => simp [step, ending, hc]
    | some c =>
      simp only [step, ending, hc, Option.elim_some, Option.bind_some, timeout]
      cases hf : c.awaits with
      | none => simp
      | some f => exact hcancel f who c (some false)
  | cancel who =>
    cases hc : u.calls who with
    | none => simp [step, ending, hc]
    | some c =>
      simp only [step, ending, hc, Option.elim_some, Option.map_some, cancel]
      split
      · rfl
      · exact hcancel _ who c none

theorem awaited_true {a : FutureState} (h : awaited a = some (some true)) : a = .done := by
  cases a with
  | done => rfl
  | pending | cancelled => cases h

/-- The call that ends was in progress; it returns `True` only where its future is done, or there never was one. -/
theorem ending_call {ev : UartEvent} (hend : u.ending ev = some (c, result)) :
    ∃ who, u.calls who = some c ∧ (result = some true →
      u.negotiationFuture = none ∨
        ∃ f, (c.awaits = some f ∨ u.negotiationFuture = some f) ∧ u.futures f = .done) := by
  cases ev with
  | connect | call _ _ | response _ => cases hend
  | sent who ok =>
    obtain ⟨d, hd, hends⟩ := Option.bind_eq_some_iff.1 hend
    split at hends
    · cases hends
    split at hends
    · obtain ⟨rfl, rfl⟩ := Prod.mk.inj (Option.some.inj hends)
      exact ⟨who, hd, fun h => by cases h⟩
    split at hends
    case h_1 hnone =>
      obtain ⟨rfl, rfl⟩ := Prod.mk.inj (Option.some.inj hends)
      exact ⟨who, hd, fun _ => .inl hnone⟩
    case h_2 f hf =>
      obtain ⟨r, hr, heq⟩ := Option.map_eq_some_iff.1 hends
      obtain ⟨rfl, rfl⟩ := Prod.mk.inj heq
      exact ⟨who, hd, fun h => .inr ⟨f, .inr hf, awaited_true (h ▸ hr)⟩⟩
  | resume who =>
    obtain ⟨d, hd, hends⟩ := Option.bind_eq_some_iff.1 hend
    obtain ⟨r, hr, heq⟩ := Option.map_eq_some_iff.1 hends
    obtain ⟨rfl, rfl⟩ := Prod.mk.inj heq
    obtain ⟨f, hf, hstate⟩ := Option.bind_eq_some_iff.1 hr
    exact ⟨who, hd, fun h => .inr ⟨f, .inl hf, awaited_true (h ▸ hstate)⟩⟩
  | timeout who =>
    obtain ⟨d, hd, hends⟩ := Option.bind_eq_some_iff.1 hend
    obtain ⟨f, -, heq⟩ := Option.map_eq_some_iff.1 hends
    obtain ⟨rfl, rfl⟩ := Prod.mk.inj heq
    exact ⟨who, hd, fun h => by cases h⟩
  | cancel who =>
    obtain ⟨d, hd, heq⟩ := Option.map_eq_some_iff.1 hend
    obtain ⟨rfl, rfl⟩ := Prod.mk.inj heq
    exact ⟨who, hd, fun h => by cases h⟩

/-- A call that returns `True` does so after the switch. -/
theorem Inv.returns_true (h : u.Inv cfg) {ev : UartEvent} (hend : u.ending ev = some (c, some true)) :
    u.baudrate = cfg.serialBaud := by
  obtain ⟨who, hc, htrue⟩ := ending_call hend
  rcases htrue rfl with hnone | ⟨f, hf, hdone⟩
  · exact absurd hnone (h.future who c hc)
  · exact h.resolved who c hc f hf hdone

/-- The end of a call is told rightly exactly if it meets the condition. -/
theorem Inv.end_sound (h : u.Inv cfg) {ev : UartEvent} (hend : u.ending ev = some (c, result)) :
    (⟨c.target, c.before, u.baudrate, result⟩ : Negotiated).Sound ↔
      (result = some true → c.target = cfg.serialBaud) ∧
        (result = some false → c.answered = true → c.before = cfg.serialBaud) := by
  obtain ⟨who, hc, -⟩ := ending_call hend
  have hrate := h.rate who c hc
  constructor
  · rintro ⟨hswitched, hkept⟩
    refine ⟨fun hr => ?_, fun hr hanswered => ?_⟩
    · subst hr
      exact (hswitched rfl).symm.trans (h.returns_true hend)
    · rw [if_pos hanswered] at hrate
      exact (hkept hr).symm.trans hrate
  · rintro ⟨htrue, hfalse⟩
    refine ⟨fun hr => ?_, fun hr => ?_⟩
    · obtain rfl : result = some true := hr
      exact (h.returns_true hend).trans (htrue rfl).symm
    · show u.baudrate = c.before
      by_cases hanswered : c.answered = true
      · rw [hrate, if_pos hanswered, hfalse hr hanswered]
      · rw [hrate, if_neg hanswered]

theorem Inv.step_sound (h : u.Inv cfg) (hu : u.Sound) (ev : UartEvent) :
    (Uart.step cfg ev u).Sound ↔ EndsRight cfg u ev := by
  unfold Sound EndsRight
  rw [step_ended]
  cases hend : u.ending ev with
  | none =>
    rw [Option.map_none, Option.toList_none, List.append_nil]
    exact iff_of_true hu fun c result heq => by cases heq
  | some x =>
    obtain ⟨c, result⟩ := x
    rw [Option.map_some, Option.toList_some, List.forall_mem_append, List.forall_mem_singleton]
    refine (and_iff_right hu).trans ((h.end_sound hend).trans ?_)
    constructor
    · intro hcond c' result' heq
      obtain ⟨rfl, rfl⟩ := Prod.mk.inj (Option.some.inj heq)
      exact hcond
    · exact fun hall => hall c result rfl

/-- The transport before its first connection. -/
def start (baudrate : UInt32) : Uart := { baudrate }

theorem start_inv (cfg : ReaderConfig) (baudrate : UInt32) : (start baudrate).Inv cfg :=
  ⟨fun _ _ hc => (by cases hc), fun _ _ hc => (by cases hc), fun _ _ hc => (by cases hc)⟩

/-- All calls that have ended in a run told the truth exactly if each of them met the condition when it ended. -/
theorem run_sound_iff (cfg : ReaderConfig) (baudrate : UInt32) (es : List UartEvent) :
    (∀ pre, pre <+: es → (Run.run (step cfg) (start baudrate) pre).Sound) ↔
      Run.Along (step cfg) (EndsRight cfg) (start baudrate) es := by
  have hempty : (start baudrate).Sound := fun _ hn => (by cases hn)
  refine Run.reached_iff_along_of (I := Sound) (J := fun u => u.Inv cfg ∧ u.Sound) (fun u ev hu => ?_)
    (fun u ev hu hright => ?_) hempty ⟨start_inv cfg baudrate, hempty⟩ es
  · exact hu.1.step_sound hu.2 ev
  · exact ⟨hu.1.step ev, (hu.1.step_sound hu.2 ev).2 hright⟩

end Uart

end Daemon
end McuBridge
