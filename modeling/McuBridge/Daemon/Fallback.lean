import McuBridge.Daemon.ReaderWaits

/-! # When the daemon falls back to the safe baud rate (`transport/serial.py`)

`_check_baudrate_fallback` counts the packets that `_process_packet` cannot decode, and a fallback sets the counter
back. Nothing else does, so the packets it counts need not be consecutive. -/

namespace McuBridge
namespace Daemon

/-- A packet, with the link as it is when the reader takes it from the port: what the tasks, the timers and the MCU
have done since the packet before is in the link. -/
structure Arrival where
  io : Io
  link : Link
  packet : Packet

/-- `cobsr.decode` and `parse_frame` return. -/
def Arrival.decodable (P : Platform) (a : Arrival) : Bool :=
  match a.packet with
  | .undecodable => false
  | .frame env => (parseFrame P env a.link.sessionKey).isSome

namespace Reader
variable (P : Platform) (random : Nat → UInt32) (cfg : ReaderConfig)

def take (a : Arrival) (r : Reader) : Reader :=
  ({ r with link := a.link, wait := none } : Reader).processPacket P random cfg a.io a.packet

/-- The packet was counted, and the counter is back at 0. -/
def fallsBack (a : Arrival) (r : Reader) : Bool :=
  !a.decodable P && (r.take P random cfg a).consecutiveCrcErrors == 0

/-- Which of the packets trigger the fallback. -/
def fallbacks (r : Reader) (as : List Arrival) : List Bool :=
  Run.answers (fun a r => (r.take P random cfg a, r.fallsBack P random cfg a)) r as

end Reader

/-! ### The specification, on which packets are decodable -/

/-- Which packets complete a run of `k` consecutive undecodable ones, of which `n` have come before. A run ends with a
decodable packet, or with its `k`-th. -/
def completedRuns (k : Nat) : Nat → List Bool → List Bool
  | _, [] => []
  | _, true :: l => false :: completedRuns k 0 l
  | n, false :: l => if n + 1 = k then true :: completedRuns k 0 l else false :: completedRuns k (n + 1) l

/-- No decodable packet comes between undecodable ones that are counted together, `k` at a time from the start on;
`n` have been counted, and `broken` says that a decodable one has come after the first of them. Fewer than `k` at the
end of the sequence do not matter. -/
def Unbroken (k : Nat) : Nat → Bool → List Bool → Prop
  | _, _, [] => True
  | n, broken, true :: l => Unbroken k n (broken || decide (0 < n)) l
  | n, broken, false :: l => if n + 1 < k then Unbroken k (n + 1) broken l else broken = false ∧ Unbroken k 0 false l

instance decidableUnbroken (k : Nat) : ∀ (n : Nat) (broken : Bool) (l : List Bool), Decidable (Unbroken k n broken l)
  | _, _, [] => inferInstanceAs (Decidable True)
  | n, broken, true :: l => decidableUnbroken k n (broken || decide (0 < n)) l
  | n, broken, false :: l =>
    have := decidableUnbroken k (n + 1) broken l
    have := decidableUnbroken k 0 false l
    inferInstanceAs (Decidable (if n + 1 < k then Unbroken k (n + 1) broken l
      else broken = false ∧ Unbroken k 0 false l))

namespace Reader
variable {P : Platform} {random : Nat → UInt32} {cfg : ReaderConfig} {r : Reader} {a : Arrival}

/-! ### What a packet does to the counter -/

theorem checkBaudrateFallback_counter (writes : Bool) (r : Reader) :
    (r.checkBaudrateFallback P random cfg writes).consecutiveCrcErrors =
      if r.consecutiveCrcErrors + 1 < cfg.serialFallbackThreshold then r.consecutiveCrcErrors + 1 else 0 := by
  unfold checkBaudrateFallback
  by_cases h : r.consecutiveCrcErrors + 1 < cfg.serialFallbackThreshold
  · rw [if_pos h, if_pos h]
  · rw [if_neg h, if_neg h]
    dsimp only
    split <;> rfl

theorem processFrame_counter (io : Io) {env : RpcEnvelope} (h : (parseFrame P env r.link.sessionKey).isSome = true) :
    (r.processFrame P random cfg io env).consecutiveCrcErrors = r.consecutiveCrcErrors := by
  unfold processFrame
  split
  case h_1 hnone => simp [hnone] at h
  case h_2 =>
    split
    · rfl
    split <;> rfl

/-- A decodable packet leaves the counter as it is. -/
theorem take_decodable (h : a.decodable P = true) :
    (r.take P random cfg a).consecutiveCrcErrors = r.consecutiveCrcErrors := by
  unfold Arrival.decodable at h
  unfold take
  cases hp : a.packet with
  | undecodable => simp [hp] at h
  | frame env =>
    rw [hp] at h
    exact processFrame_counter (r := { r with link := a.link, wait := none }) a.io h

theorem take_undecodable (h : a.decodable P = false) :
    r.take P random cfg a =
      ({ r with link := a.link, wait := none } : Reader).checkBaudrateFallback P random cfg a.io.writes := by
  unfold Arrival.decodable at h
  unfold take
  cases hp : a.packet with
  | undecodable => rfl
  | frame env =>
    simp only [hp, Option.isSome_eq_false_iff, Option.isNone_iff_eq_none] at h
    simp only [processPacket, processFrame, h]

theorem take_counter (h : a.decodable P = false) :
    (r.take P random cfg a).consecutiveCrcErrors =
      if r.consecutiveCrcErrors + 1 < cfg.serialFallbackThreshold then r.consecutiveCrcErrors + 1 else 0 := by
  rw [take_undecodable h, checkBaudrateFallback_counter]

theorem fallsBack_decodable (h : a.decodable P = true) : r.fallsBack P random cfg a = false := by
  simp [fallsBack, h]

theorem fallsBack_undecodable (h : a.decodable P = false) :
    r.fallsBack P random cfg a = !decide (r.consecutiveCrcErrors + 1 < cfg.serialFallbackThreshold) := by
  unfold fallsBack
  rw [take_counter h, h]
  by_cases hlt : r.consecutiveCrcErrors + 1 < cfg.serialFallbackThreshold <;> simp [hlt]

/-- The fallback negotiates the safe rate, unless the link is configured to run at it anyway. -/
theorem take_fallback (h : r.fallsBack P random cfg a = true) :
    r.take P random cfg a =
      if cfg.serialBaud = cfg.serialSafeBaud then { r with link := a.link, consecutiveCrcErrors := 0, wait := none }
      else advance (a.link.awaitNegotiation P random a.io.writes cfg.serialSafeBaud)
        { r with link := a.link, consecutiveCrcErrors := 0, wait := none } := by
  cases hd : a.decodable P with
  | true =>
    rw [fallsBack_decodable hd] at h
    cases h
  | false =>
    rw [fallsBack_undecodable hd] at h
    rw [take_undecodable hd]
    unfold checkBaudrateFallback
    rw [if_neg (by simpa using h)]

/-! ### Sequences of packets -/

theorem fallbacks_eq_iff_from {k n : Nat} {broken : Bool} (hk : cfg.serialFallbackThreshold = k)
    (hcount : r.consecutiveCrcErrors < k) (hn : n ≤ r.consecutiveCrcErrors)
    (hbroken : broken = true ↔ n < r.consecutiveCrcErrors) (as : List Arrival) :
    r.fallbacks P random cfg as = completedRuns k n (as.map (·.decodable P)) ↔
      Unbroken k r.consecutiveCrcErrors broken (as.map (·.decodable P)) := by
  induction as generalizing r n broken with
  | nil => exact iff_of_true rfl trivial
  | cons a as ih =>
    unfold fallbacks at ih ⊢
    simp only [Run.answers, List.map_cons]
    cases hd : a.decodable P with
    | true =>
      have hcounter := @take_decodable P random cfg r a hd
      rw [fallsBack_decodable hd]
      simp only [completedRuns, Unbroken, List.cons.injEq, true_and]
      rw [← hcounter]
      refine ih (by omega) (Nat.zero_le _) ?_
      rw [hcounter]
      simp only [Bool.or_eq_true, decide_eq_true_eq, hbroken]
      omega
    | false =>
      have hcounter := @take_counter P random cfg r a hd
      rw [fallsBack_undecodable hd, hk]
      rw [hk] at hcounter
      simp only [completedRuns, Unbroken]
      by_cases hlt : r.consecutiveCrcErrors + 1 < k
      · rw [if_pos hlt] at hcounter
        rw [if_pos hlt, if_neg (by omega), decide_eq_true hlt]
        simp only [Bool.not_true, List.cons.injEq, true_and]
        rw [← hcounter]
        exact ih (by omega) (by omega) (by rw [hbroken]; omega)
      · rw [if_neg hlt] at hcounter
        rw [if_neg hlt, decide_eq_false hlt]
        have hrest : (Run.answers (fun a r => (r.take P random cfg a, r.fallsBack P random cfg a))
            (r.take P random cfg a) as = completedRuns k 0 (as.map (·.decodable P))) ↔
            Unbroken k 0 false (as.map (·.decodable P)) := by
          rw [← hcounter]
          exact ih (by omega) (by omega) (by simp)
        by_cases hrun : n + 1 = k
        · have hb : broken = false := by
            rw [← Bool.not_eq_true, hbroken]
            omega
          rw [if_pos hrun, and_iff_right hb, ← hrest]
          simp
        · have hb : broken = true := hbroken.2 (by omega)
          rw [if_neg hrun, hb]
          simp

/-- The fallback comes exactly at the packets that complete a run of consecutive undecodable ones if and only if no
decodable packet comes between undecodable ones that the counter puts together. -/
theorem fallbacks_eq_iff (P : Platform) (random : Nat → UInt32) (cfg : ReaderConfig) (d : Link)
    (hk : 1 ≤ cfg.serialFallbackThreshold) (as : List Arrival) :
    ({ link := d } : Reader).fallbacks P random cfg as =
        completedRuns cfg.serialFallbackThreshold 0 (as.map (·.decodable P)) ↔
      Unbroken cfg.serialFallbackThreshold 0 false (as.map (·.decodable P)) :=
  fallbacks_eq_iff_from (r := { link := d }) rfl hk (Nat.le_refl 0) (by simp) as

def garbledArrival : Arrival := ⟨.sample, sampleLink, .undecodable⟩

def readableArrival : Arrival :=
  ⟨.sample, sampleLink, .frame ⟨protocolVersion, Command.xoff.toUnderlying.toUInt32, 3, [], .notSet⟩⟩

theorem fallbacks_two_errors :
    1 ≤ 2 ∧ (({ link := sampleLink } : Reader).fallbacks .sample (fun _ => 0) ⟨115200, 115200, 2⟩
        [readableArrival, garbledArrival, garbledArrival] =
        completedRuns 2 0 ([readableArrival, garbledArrival, garbledArrival].map (·.decodable .sample)) ↔
      Unbroken 2 0 false ([readableArrival, garbledArrival, garbledArrival].map (·.decodable .sample))) :=
  ⟨by decide, fallbacks_eq_iff .sample (fun _ => 0) ⟨115200, 115200, 2⟩ sampleLink (by decide) _⟩

/-- Two errors with a good packet between them add up to a fallback. -/
theorem isolated_errors_fall_back :
    ¬∀ (P : Platform) (random : Nat → UInt32) (cfg : ReaderConfig) (d : Link) (as : List Arrival),
      1 ≤ cfg.serialFallbackThreshold →
      ({ link := d } : Reader).fallbacks P random cfg as =
        completedRuns cfg.serialFallbackThreshold 0 (as.map (·.decodable P)) := by
  intro h
  have hruns := h .sample (fun _ => 0) ⟨115200, 115200, 2⟩ sampleLink
    [garbledArrival, readableArrival, garbledArrival] (by decide)
  exact absurd hruns (by decide +kernel)

end Reader
end Daemon
end McuBridge
