import McuBridge.Daemon.Freshness
import McuBridge.Daemon.ReaderErrors

/-! # The back-off after a failed handshake (`services/handshake.py`)

`handle_handshake_failure` with the counters it keeps, and the places where it can raise: the power of the back-off, the
snapshot, and the callback that publishes it. Times that only go into the snapshot are left out. -/

namespace McuBridge
namespace Daemon

/-- `HandshakeSnapshot` -/
structure HandshakeSnapshot where
  synchronised : Bool
  attempts : UInt32
  successes : UInt32
  failures : UInt32
  failureStreak : UInt32
  lastError : Text
  fatalCount : UInt32
  fatalReason : Text
  fatalDetail : Text
  pendingNonce : Bool
  nonceLength : UInt32
  reason : Text
  detail : Text
  fsmState : HandshakeState
  event : Text

/-- `SerialHandshakeManager`, the state it shares with the link, and the handshake fields of `RuntimeState`. A back-off
is the reading of the clock and the delay that is added to it. -/
structure HandshakeManager (T : Type*) where
  link : Link
  serialHandshakeFatalFailures : Nat
  handshakeAttempts : Int := 0
  handshakeSuccesses : Int := 0
  linkNonceLength : Int := 0
  lastHandshakeError : Option Text := none
  handshakeFatalCount : Int := 0
  handshakeFatalReason : Option Text := none
  handshakeFatalDetail : Option Text := none
  handshakeBackoffUntil : Option (T × Nat) := none
  events : List HandshakeSnapshot := []

/-- `_IMMEDIATE_FATAL_HANDSHAKE_REASONS` -/
def immediateFatalHandshakeReasons : List Text := ["sync_auth_mismatch".toList, "sync_length_mismatch".toList]

/-- `SERIAL_HANDSHAKE_BACKOFF_BASE` and `SERIAL_HANDSHAKE_BACKOFF_MAX`, in seconds -/
def serialHandshakeBackoffBase : Nat := 1
def serialHandshakeBackoffMax : Nat := 60

/-- `a or b` of an optional string. -/
def pyOr (a : Option Text) (b : Text) : Text :=
  match a with
  | none | some [] => b
  | some t => t

/-- `2 ** exponent` as a double: from `2 ** 1024` on, `OverflowError`. -/
def powerToDouble (exponent : Nat) : Option Nat := if 1024 ≤ exponent then none else some (2 ^ exponent)

namespace HandshakeManager
variable {T : Type*}

/-- `_fatal_threshold` -/
def fatalThreshold (s : HandshakeManager T) : Nat := max 1 s.serialHandshakeFatalFailures

/-- `_should_mark_failure_fatal` -/
def shouldMarkFailureFatal (reason : Text) (s : HandshakeManager T) : Bool :=
  immediateFatalHandshakeReasons.contains reason || s.fatalThreshold ≤ s.link.handshakeFailureStreak

/-- The streak from which a reason schedules a back-off. -/
def backoffThreshold (reason : Text) : Nat := if immediateFatalHandshakeReasons.contains reason then 1 else 3

/-- `_maybe_schedule_handshake_backoff`, and the delay it returns. -/
def maybeScheduleHandshakeBackoff (now : T) (reason : Text) (s : HandshakeManager T) :
    Except PyExc (HandshakeManager T × Option Nat) :=
  let streak := max 1 s.link.handshakeFailureStreak
  if streak < backoffThreshold reason then .ok (s, none)
  else
    match powerToDouble (streak - backoffThreshold reason) with
    | none => .error .overflowError
    | some power =>
      let delay := min (serialHandshakeBackoffBase * power) serialHandshakeBackoffMax
      .ok ({ s with handshakeBackoffUntil := some (now, delay) }, some delay)

/-- `build_handshake_snapshot` and the fields that `_publish_handshake_event` sets; `none` where `ValueError` is
raised. -/
def buildHandshakeSnapshot (event reason detail : Text) (s : HandshakeManager T) : Option HandshakeSnapshot := do
  let attempts ← Service.pbUint32 s.handshakeAttempts
  let successes ← Service.pbUint32 s.handshakeSuccesses
  let failures ← Service.pbUint32 (s.handshakeAttempts - s.handshakeSuccesses)
  let failureStreak ← Service.pbUint32 s.link.handshakeFailureStreak
  let fatalCount ← Service.pbUint32 s.handshakeFatalCount
  let nonceLength ← Service.pbUint32 s.linkNonceLength
  some {
    synchronised := s.link.isSynchronized
    attempts, successes, failures, failureStreak, fatalCount, nonceLength
    lastError := pyOr s.lastHandshakeError []
    fatalReason := pyOr s.handshakeFatalReason []
    fatalDetail := pyOr s.handshakeFatalDetail []
    pendingNonce := s.link.linkHandshakeNonce.any fun n => !n.isEmpty
    reason, detail
    fsmState := s.link.fsmState
    event }

/-- `_publish_handshake_event`, with what `_enqueue_cloud` raises. -/
def publishHandshakeEvent (event reason detail : Text) (enqueue : Option PyExc) (s : HandshakeManager T) :
    HandshakeManager T × Option PyExc :=
  match s.buildHandshakeSnapshot event reason detail with
  | none => (s, some .valueError)
  | some snapshot =>
    match enqueue with
    | some e => (s, some e)
    | none => ({ s with link := s.link.publishHandshakeEvent, events := s.events ++ [snapshot] }, none)

/-- `handle_handshake_failure` up to the back-off: the streak, and the fields of a fatal failure. -/
def recordFailure (reason : Text) (detail : Option Text) (s : HandshakeManager T) :
    HandshakeManager T × Bool × Option Text :=
  let s := { s with
    link := { s.link.setFsmState .fault with
      state := .connected
      handshakeFailureStreak := s.link.handshakeFailureStreak + 1 }
    lastHandshakeError := some reason }
  let isFatal := s.shouldMarkFailureFatal reason
  let fatalDetail :=
    if isFatal && !immediateFatalHandshakeReasons.contains reason then
      some (pyOr detail ("failure_streak_exceeded_".toList ++ s.fatalThreshold.repr.toList))
    else detail
  let s :=
    bif isFatal then
      { s with
        handshakeFatalCount := s.handshakeFatalCount + 1
        handshakeFatalReason := some reason
        handshakeFatalDetail := fatalDetail }
    else s
  (s, isFatal, fatalDetail)

/-- `handle_handshake_failure` at a reading of the clock, and what it raises. -/
def handleHandshakeFailure (now : T) (enqueue : Option PyExc) (reason : Text) (detail : Option Text)
    (s : HandshakeManager T) : HandshakeManager T × Option PyExc :=
  let (s, isFatal, fatalDetail) := s.recordFailure reason detail
  match s.maybeScheduleHandshakeBackoff now reason with
  | .error e => (s, some e)
  | .ok (s, _) =>
    s.publishHandshakeEvent "failure".toList reason (pyOr (if isFatal then fatalDetail else detail) []) enqueue

/-! ### What it does -/

/-- The back-off a streak asks for. -/
def backoffDelay (threshold streak : Nat) : Option Nat :=
  if streak < threshold then none
  else some (min (serialHandshakeBackoffBase * 2 ^ (streak - threshold)) serialHandshakeBackoffMax)

/-- The count of fatal failures after one more failure. -/
def fatalCountAfter (reason : Text) (s : HandshakeManager T) : Int :=
  s.handshakeFatalCount + if immediateFatalHandshakeReasons.contains reason ||
    s.fatalThreshold ≤ s.link.handshakeFailureStreak + 1 then 1 else 0

/-- The counters still fit the snapshot after one more failure. -/
structure CountersFit (reason : Text) (s : HandshakeManager T) : Prop where
  attempts : s.handshakeAttempts < 2 ^ 32
  successes : 0 ≤ s.handshakeSuccesses ∧ s.handshakeSuccesses ≤ s.handshakeAttempts
  fatal : 0 ≤ s.fatalCountAfter reason ∧ s.fatalCountAfter reason < 2 ^ 32
  nonce : 0 ≤ s.linkNonceLength ∧ s.linkNonceLength < 2 ^ 32

/-- The failure is handled without an exception, and its back-off is the one the new streak asks for. -/
structure BacksOff (now : T) (reason : Text) (s : HandshakeManager T) (r : HandshakeManager T × Option PyExc) : Prop where
  completes : r.2 = none
  streak : r.1.link.handshakeFailureStreak = s.link.handshakeFailureStreak + 1
  delay : r.1.handshakeBackoffUntil =
    match backoffDelay (backoffThreshold reason) (s.link.handshakeFailureStreak + 1) with
    | none => s.handshakeBackoffUntil
    | some d => some (now, d)

variable {s t : HandshakeManager T} {now : T} {reason : Text} {detail : Option Text} {enqueue : Option PyExc}

theorem backoffDelay_mono {threshold a b d e : Nat} (hab : a ≤ b) (ha : backoffDelay threshold a = some d)
    (hb : backoffDelay threshold b = some e) : d ≤ e ∧ e ≤ serialHandshakeBackoffMax := by
  unfold backoffDelay at ha hb
  split at ha
  · cases ha
  split at hb
  · cases hb
  cases ha
  cases hb
  refine ⟨?_, Nat.min_le_right ..⟩
  have hpow : 2 ^ (a - threshold) ≤ 2 ^ (b - threshold) := Nat.pow_le_pow_right (by decide) (by omega)
  exact min_le_min_right _ (Nat.mul_le_mul_left _ hpow)

theorem backoffThreshold_pos (reason : Text) : 1 ≤ backoffThreshold reason ∧ backoffThreshold reason ≤ 3 := by
  unfold backoffThreshold
  split <;> decide

/-- The scheduler against the delay that is asked for. -/
theorem maybeScheduleHandshakeBackoff_eq (now : T) (reason : Text) (s : HandshakeManager T) :
    s.maybeScheduleHandshakeBackoff now reason =
      if 1024 ≤ max 1 s.link.handshakeFailureStreak - backoffThreshold reason then .error .overflowError
      else .ok ({ s with handshakeBackoffUntil :=
          match backoffDelay (backoffThreshold reason) (max 1 s.link.handshakeFailureStreak) with
          | none => s.handshakeBackoffUntil
          | some d => some (now, d) },
        backoffDelay (backoffThreshold reason) (max 1 s.link.handshakeFailureStreak)) := by
  unfold maybeScheduleHandshakeBackoff backoffDelay
  dsimp only
  generalize max 1 s.link.handshakeFailureStreak = streak
  by_cases hbelow : streak < backoffThreshold reason
  · rw [if_pos hbelow, if_neg (by omega), if_pos hbelow]
  · rw [if_neg hbelow, if_neg hbelow]
    unfold powerToDouble
    by_cases hlarge : 1024 ≤ streak - backoffThreshold reason
    · rw [if_pos hlarge, if_pos hlarge]
    · rw [if_neg hlarge, if_neg hlarge]

theorem maybeScheduleHandshakeBackoff_delay {r : HandshakeManager T} {d : Nat}
    (h : s.maybeScheduleHandshakeBackoff now reason = .ok (r, some d)) :
    backoffDelay (backoffThreshold reason) (max 1 s.link.handshakeFailureStreak) = some d := by
  rw [maybeScheduleHandshakeBackoff_eq] at h
  split at h
  · cases h
  · exact congrArg Prod.snd (Except.ok.inj h)

/-- What `recordFailure` leaves for the rest of the method. -/
theorem recordFailure_eq (reason : Text) (detail : Option Text) (s : HandshakeManager T) :
    let t := (s.recordFailure reason detail).1
    t.link = { s.link.setFsmState .fault with
      state := .connected
      handshakeFailureStreak := s.link.handshakeFailureStreak + 1 } ∧
      t.handshakeFatalCount = s.fatalCountAfter reason ∧
      t.handshakeAttempts = s.handshakeAttempts ∧ t.handshakeSuccesses = s.handshakeSuccesses ∧
      t.linkNonceLength = s.linkNonceLength ∧ t.handshakeBackoffUntil = s.handshakeBackoffUntil := by
  unfold recordFailure fatalCountAfter
  simp only [Bool.cond_eq_ite]
  split
  case isTrue hfatal =>
    have hfatal : (immediateFatalHandshakeReasons.contains reason ||
        s.fatalThreshold ≤ s.link.handshakeFailureStreak + 1) = true := hfatal
    rw [if_pos hfatal]
    exact ⟨rfl, rfl, rfl, rfl, rfl, rfl⟩
  case isFalse hfatal =>
    have hfatal : ¬(immediateFatalHandshakeReasons.contains reason ||
        s.fatalThreshold ≤ s.link.handshakeFailureStreak + 1) = true := hfatal
    rw [if_neg hfatal]
    exact ⟨rfl, (Int.add_zero _).symm, rfl, rfl, rfl, rfl⟩

theorem pbUint32_isSome {i : Int} : (Service.pbUint32 i).isSome = true ↔ 0 ≤ i ∧ i < 2 ^ 32 := by
  unfold Service.pbUint32
  split <;> simp_all

theorem buildHandshakeSnapshot_isSome {event detail : Text} :
    (s.buildHandshakeSnapshot event reason detail).isSome = true ↔
      s.handshakeAttempts < 2 ^ 32 ∧ (0 ≤ s.handshakeSuccesses ∧ s.handshakeSuccesses ≤ s.handshakeAttempts) ∧
        s.link.handshakeFailureStreak < 2 ^ 32 ∧ (0 ≤ s.handshakeFatalCount ∧ s.handshakeFatalCount < 2 ^ 32) ∧
        0 ≤ s.linkNonceLength ∧ s.linkNonceLength < 2 ^ 32 := by
  have hbind : ∀ {α β : Type} (a : Option α) (f : α → Option β), (a >>= f).isSome = true ↔
      ∃ x, a = some x ∧ (f x).isSome = true := by
    intro α β a f
    cases a <;> simp
  have hsome : ∀ {i : Int} {p : Prop}, (∃ x, Service.pbUint32 i = some x ∧ p) ↔ (0 ≤ i ∧ i < 2 ^ 32) ∧ p := by
    intro i p
    rw [← pbUint32_isSome, Option.isSome_iff_exists, ← exists_and_right]
  unfold buildHandshakeSnapshot
  simp only [hbind, hsome, Option.isSome_some]
  rw [and_true]
  omega

theorem publishHandshakeEvent_cases (event reason detail : Text) (enqueue : Option PyExc) (s : HandshakeManager T) :
    let r := s.publishHandshakeEvent event reason detail enqueue
    (r.2 = none ↔ (s.buildHandshakeSnapshot event reason detail).isSome = true ∧ enqueue = none) ∧
      r.1.link.handshakeFailureStreak = s.link.handshakeFailureStreak ∧
      r.1.handshakeBackoffUntil = s.handshakeBackoffUntil ∧
      (r.2 = none → r.1.link = s.link.publishHandshakeEvent) := by
  unfold publishHandshakeEvent
  cases s.buildHandshakeSnapshot event reason detail with
  | none => simp
  | some snapshot =>
    cases enqueue with
    | none => exact ⟨by simp, rfl, rfl, fun _ => rfl⟩
    | some e => simp

/-- The state before the event is published. -/
structure Recorded (now : T) (reason : Text) (s u : HandshakeManager T) : Prop where
  link : u.link = { s.link.setFsmState .fault with
    state := .connected
    handshakeFailureStreak := s.link.handshakeFailureStreak + 1 }
  attempts : u.handshakeAttempts = s.handshakeAttempts
  successes : u.handshakeSuccesses = s.handshakeSuccesses
  fatal : u.handshakeFatalCount = s.fatalCountAfter reason
  nonce : u.linkNonceLength = s.linkNonceLength
  delay : u.handshakeBackoffUntil =
    match backoffDelay (backoffThreshold reason) (s.link.handshakeFailureStreak + 1) with
    | none => s.handshakeBackoffUntil
    | some d => some (now, d)

/-- The method ends in the scheduler, or in the publication. -/
theorem handleHandshakeFailure_cases (now : T) (enqueue : Option PyExc) (reason : Text) (detail : Option Text)
    (s : HandshakeManager T) :
    if 1024 ≤ s.link.handshakeFailureStreak + 1 - backoffThreshold reason then
      (s.handleHandshakeFailure now enqueue reason detail).2 = some .overflowError ∧
        (s.handleHandshakeFailure now enqueue reason detail).1.link.handshakeFailureStreak =
          s.link.handshakeFailureStreak + 1
    else
      ∃ u text, Recorded now reason s u ∧ s.handleHandshakeFailure now enqueue reason detail =
        u.publishHandshakeEvent "failure".toList reason text enqueue := by
  obtain ⟨hlink, hfatal, hattempts, hsuccesses, hnonce, huntil⟩ := recordFailure_eq reason detail s
  unfold handleHandshakeFailure
  generalize s.recordFailure reason detail = p at hlink hfatal hattempts hsuccesses hnonce huntil ⊢
  obtain ⟨t, isFatal, fatalDetail⟩ := p
  have hstreak : t.link.handshakeFailureStreak = s.link.handshakeFailureStreak + 1 := congrArg _ hlink
  dsimp only at hlink hfatal hattempts hsuccesses hnonce huntil ⊢
  rw [maybeScheduleHandshakeBackoff_eq, hstreak, Nat.max_eq_right (Nat.le_add_left ..)]
  by_cases hlarge : 1024 ≤ s.link.handshakeFailureStreak + 1 - backoffThreshold reason
  · rw [if_pos hlarge, if_pos hlarge]
    exact ⟨rfl, hstreak⟩
  · rw [if_neg hlarge, if_neg hlarge]
    refine ⟨{ t with handshakeBackoffUntil :=
      match backoffDelay (backoffThreshold reason) (s.link.handshakeFailureStreak + 1) with
      | none => t.handshakeBackoffUntil
      | some d => some (now, d) }, _, ⟨hlink, hattempts, hsuccesses, hfatal, hnonce, ?_⟩, rfl⟩
    rw [← huntil]

/-- While the counters fit, it raises what the link's model says it raises. -/
theorem handleHandshakeFailure_raises (f : Faults) (hfit : CountersFit reason s) :
    (s.handleHandshakeFailure now (f.raises .enqueueCloud) reason detail).2 =
      s.link.failureRaises f (backoffThreshold reason) := by
  have hcases := handleHandshakeFailure_cases now (f.raises .enqueueCloud) reason detail s
  unfold Link.failureRaises
  split at hcases
  case isTrue hlarge => rw [if_pos hlarge, hcases.1]
  case isFalse hsmall =>
    obtain ⟨u, text, hu, heq⟩ := hcases
    have hstreak : u.link.handshakeFailureStreak = s.link.handshakeFailureStreak + 1 := congrArg _ hu.link
    have hbuilds : (u.buildHandshakeSnapshot "failure".toList reason text).isSome = true := by
      have hhigh := (backoffThreshold_pos reason).2
      rw [buildHandshakeSnapshot_isSome, hu.attempts, hu.successes, hu.fatal, hu.nonce, hstreak]
      exact ⟨hfit.attempts, hfit.successes, by omega, hfit.fatal, hfit.nonce⟩
    obtain ⟨snapshot, hsnapshot⟩ := Option.isSome_iff_exists.1 hbuilds
    rw [if_neg hsmall, heq]
    unfold publishHandshakeEvent
    rw [hsnapshot]
    cases f.raises .enqueueCloud <;> rfl

/-- A failure that is handled is the failure of the link's model. -/
theorem handleHandshakeFailure_link (h : (s.handleHandshakeFailure now enqueue reason detail).2 = none) :
    (s.handleHandshakeFailure now enqueue reason detail).1.link = s.link.handleHandshakeFailure := by
  have hcases := handleHandshakeFailure_cases now enqueue reason detail s
  split at hcases
  case isTrue =>
    rw [hcases.1] at h
    cases h
  case isFalse =>
    obtain ⟨u, text, hu, heq⟩ := hcases
    rw [heq] at h ⊢
    rw [(publishHandshakeEvent_cases ..).2.2.2 h, hu.link]
    rfl

theorem handleHandshakeFailure_streak :
    (s.handleHandshakeFailure now enqueue reason detail).1.link.handshakeFailureStreak =
      s.link.handshakeFailureStreak + 1 := by
  have hcases := handleHandshakeFailure_cases now enqueue reason detail s
  split at hcases
  case isTrue => exact hcases.2
  case isFalse =>
    obtain ⟨u, text, hu, heq⟩ := hcases
    rw [heq, (publishHandshakeEvent_cases ..).2.1, hu.link]

theorem handleHandshakeFailure_overflows
    (hlarge : 1024 ≤ s.link.handshakeFailureStreak + 1 - backoffThreshold reason) :
    (s.handleHandshakeFailure now enqueue reason detail).2 = some .overflowError ∧
      ¬BacksOff now reason s (s.handleHandshakeFailure now enqueue reason detail) := by
  have hcases := handleHandshakeFailure_cases now enqueue reason detail s
  rw [if_pos hlarge] at hcases
  refine ⟨hcases.1, fun h => ?_⟩
  have hnone := h.completes
  rw [hcases.1] at hnone
  cases hnone

/-- For every failure, from every state: it is handled without an exception and backs off by the delay that its streak
asks for exactly if the new streak is within 1023 of the threshold, the counters fit the snapshot and the publication
does not raise. The delays that are scheduled never decrease with the streak and never exceed the maximum. -/
theorem handshake_backoff_iff (now : T) (enqueue : Option PyExc) (reason : Text) (detail : Option Text)
    (s : HandshakeManager T) :
    (BacksOff now reason s (s.handleHandshakeFailure now enqueue reason detail) ↔
      s.link.handshakeFailureStreak + 1 < backoffThreshold reason + 1024 ∧ CountersFit reason s ∧ enqueue = none) ∧
      ∀ t t' : HandshakeManager T, t.link.handshakeFailureStreak ≤ t'.link.handshakeFailureStreak →
        ∀ r r' d d', t.maybeScheduleHandshakeBackoff now reason = .ok (r, some d) →
          t'.maybeScheduleHandshakeBackoff now reason = .ok (r', some d') → d ≤ d' ∧ d' ≤ serialHandshakeBackoffMax := by
  obtain ⟨hlow, hhigh⟩ := backoffThreshold_pos reason
  refine ⟨?_, fun t t' hle r r' d d' h h' => ?_⟩
  · have hcases := handleHandshakeFailure_cases now enqueue reason detail s
    split at hcases
    case isTrue hlarge => exact iff_of_false (handleHandshakeFailure_overflows hlarge).2 fun h => by omega
    case isFalse hsmall =>
      obtain ⟨u, text, hu, heq⟩ := hcases
      have hstreak : u.link.handshakeFailureStreak = s.link.handshakeFailureStreak + 1 := congrArg _ hu.link
      obtain ⟨hnone, hkeep, hdelay, -⟩ := publishHandshakeEvent_cases "failure".toList reason text enqueue u
      rw [buildHandshakeSnapshot_isSome, hu.attempts, hu.successes, hu.fatal, hu.nonce, hstreak, ← heq] at hnone
      rw [← heq] at hkeep hdelay
      constructor
      · intro h
        obtain ⟨⟨h1, h2, -, h3, h4⟩, h5⟩ := hnone.1 h.completes
        exact ⟨by omega, ⟨h1, h2, h3, h4⟩, h5⟩
      · rintro ⟨hlt, hfit, henq⟩
        exact ⟨hnone.2 ⟨⟨hfit.attempts, hfit.successes, by omega, hfit.fatal, hfit.nonce⟩, henq⟩,
          hkeep.trans hstreak, hdelay.trans hu.delay⟩
  · have hmono : max 1 t.link.handshakeFailureStreak ≤ max 1 t'.link.handshakeFailureStreak := max_le_max_left 1 hle
    exact backoffDelay_mono hmono (maybeScheduleHandshakeBackoff_delay h) (maybeScheduleHandshakeBackoff_delay h')

/-- A link on which no handshake has been tried yet. -/
def sampleManager : HandshakeManager Nat where
  link := .start [7] ⟨200, 5, 5000⟩ 3 (.sample [])
  serialHandshakeFatalFailures := 3

/-- The manager after `n` answers to no LINK_SYNC. -/
def afterUnexpected (n : Nat) : HandshakeManager Nat :=
  (fun s => (s.handleHandshakeFailure 0 none "unexpected_sync_resp".toList none).1)^[n] sampleManager

theorem afterUnexpected_streak (n : Nat) : (afterUnexpected n).link.handshakeFailureStreak = n := by
  induction n with
  | zero => rfl
  | succ n ih =>
    unfold afterUnexpected at ih ⊢
    rw [Function.iterate_succ_apply', handleHandshakeFailure_streak, ih]

/-- After 1026 of them, the next one ends in the error path with `OverflowError`. -/
theorem failure_streak_overflows :
    ((afterUnexpected 1026).handleHandshakeFailure 1 none "unexpected_sync_resp".toList none).2 =
        some .overflowError ∧
      ¬BacksOff 1 "unexpected_sync_resp".toList (afterUnexpected 1026)
        ((afterUnexpected 1026).handleHandshakeFailure 1 none "unexpected_sync_resp".toList none) := by
  apply handleHandshakeFailure_overflows
  have hthreshold : backoffThreshold "unexpected_sync_resp".toList = 3 := by decide
  rw [afterUnexpected_streak, hthreshold]

end HandshakeManager
end Daemon
end McuBridge
