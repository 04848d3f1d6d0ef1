import McuBridge.Lib.SlotPool
import McuBridge.Mcu.TxQueue

/-! # The buffers of the reliable queue

`_tx_payload_pool` and `_pending_tx_queue` are updated in the same places: both grow by one entry when a reliable frame
is accepted, both are emptied by `_clearPendingTxQueue`. The FSM enters `AWAITING_ACK` only in `_flushPendingTxQueue`,
which has set `_last_command_id` to the front of the queue by then, and every clearing of the queue leaves the state. -/

namespace McuBridge
namespace Mcu
open Run
variable (P : Platform)

/-- The buffers the queue refers to. -/
def buffers (s : Mcu) : List Nat := s.pendingTxQueue.map PendingTxFrame.buffer

/-- The invariant of the transmit side. -/
structure TxConsistent (s : Mcu) : Prop where
  allocated : ∀ b, b ∈ s.txPayloadPool ↔ ∃ f ∈ s.pendingTxQueue, f.buffer = b
  once : s.buffers.Nodup
  bounded : s.pendingTxQueue.length ≤ P.maxPendingTxFrames
  lengths : ∀ f ∈ s.pendingTxQueue, f.data.length ≤ maxPayloadSize
  inFlight : s.isAwaitingAck = true → ∃ f rest, s.pendingTxQueue = f :: rest ∧ f.commandId = s.lastCommandId

variable {P} {l : Label} {s t : Mcu}

theorem TxConsistent.exact (h : TxConsistent P s) : SlotPool.Exact s.txPayloadPool s.buffers :=
  ⟨fun b => by rw [h.allocated, buffers, List.mem_map], h.once⟩

theorem TxConsistent.frontInFlight (h : TxConsistent P s) : FrontInFlight s := by
  intro hf
  obtain ⟨f, rest, hq, hlast⟩ := h.inFlight (by rw [isAwaitingAck, hf]; rfl)
  exact ⟨f, rest, hq, hlast.symm⟩

theorem TxConsistent.of_exact (hpool : SlotPool.Exact s.txPayloadPool s.buffers)
    (hbounded : s.pendingTxQueue.length ≤ P.maxPendingTxFrames)
    (hlengths : ∀ f ∈ s.pendingTxQueue, f.data.length ≤ maxPayloadSize) (hfront : FrontInFlight s) :
    TxConsistent P s := by
  refine ⟨fun b => ?_, hpool.once, hbounded, hlengths, fun ha => ?_⟩
  · rw [hpool.mem_iff, buffers, List.mem_map]
  · obtain ⟨f, rest, hq, hlast⟩ := hfront (by simpa [isAwaitingAck, StateId.isAwaitingAck] using ha)
    exact ⟨f, rest, hq, hlast.symm⟩

/-- Where pool and queue stay, so does their part of the invariant. -/
theorem TxConsistent.congr (h : TxConsistent P s) (hpool : t.txPayloadPool = s.txPayloadPool)
    (hqueue : t.pendingTxQueue = s.pendingTxQueue) (hfront : FrontInFlight t) : TxConsistent P t := by
  refine .of_exact ?_ ?_ ?_ hfront
  · rw [hpool, buffers, hqueue]
    exact h.exact
  · rw [hqueue]
    exact h.bounded
  · rw [hqueue]
    exact h.lengths

/-- `_clearPendingTxQueue` gives every buffer back. -/
theorem TxConsistent.clear (h : TxConsistent P s) : SlotPool.Exact s.clearPendingTxQueue.txPayloadPool [] := by
  refine h.exact.releaseAll fun b hb => ?_
  obtain ⟨f, hf, rfl⟩ := List.mem_map.1 hb
  rw [Bool.not_eq_false', List.any_eq_true]
  exact ⟨f, hf, beq_self_eq_true _⟩

theorem Micro.txConsistent (hm : Micro P l s t) (h : TxConsistent P s) : TxConsistent P t := by
  have hfront := Micro.frontInFlight hm h.frontInFlight
  cases hm with
  | quiet hq => exact h.congr hq.txPayloadPool hq.pendingTxQueue hfront
  | enqueue f hack hroom hbuf hlen =>
    refine .of_exact ?_ ?_ ?_ hfront
    · have hbuffers : s.buffers ++ [f.buffer] = (s.pendingTxQueue ++ [f]).map PendingTxFrame.buffer := by
        rw [List.map_append]
        rfl
      rw [buffers, ← hbuffers]
      exact h.exact.alloc (SlotPool.firstFree_spec hbuf).2
    · rw [List.length_append]
      exact hroom
    · intro g hg
      rcases List.mem_append.1 hg with hg | hg
      · exact h.lengths g hg
      · rw [List.mem_singleton.1 hg]
        exact hlen
  | clear w => exact .of_exact h.clear (Nat.zero_le _) nofun hfront
  | _ => exact h.congr rfl rfl hfront

theorem step_txConsistent (ev : McuEvent) (h : TxConsistent P s) : TxConsistent P (step P ev s) :=
  (step_steps P s ev).invariant (fun _ _ _ _ hm => Micro.txConsistent hm) h

theorem boot_txConsistent (P : Platform) (secret : Bytes) (postOk : Bool) : TxConsistent P (boot secret postOk) := by
  have hpool : (boot secret postOk).txPayloadPool = [] := by cases postOk <;> rfl
  have hqueue : (boot secret postOk).pendingTxQueue = [] := by cases postOk <;> rfl
  refine .of_exact ?_ ?_ ?_ (frontInFlight_boot secret postOk)
  · rw [hpool, buffers, hqueue]
    exact .nil
  · rw [hqueue]
    exact Nat.zero_le _
  · rw [hqueue]
    exact nofun

/-- In every state between two entry points the transmit side is consistent. -/
theorem tx_consistent (P : Platform) (secret : Bytes) (postOk : Bool) (evs : List McuEvent) :
    TxConsistent P (runFrom P secret postOk evs) :=
  run_invariant (fun _ ev h => step_txConsistent ev h) (boot_txConsistent P secret postOk) evs

/-- So the second check of `sendFrame` never fails: a queue that is not full finds a buffer. -/
theorem TxConsistent.allocate_isSome (h : TxConsistent P s) (hroom : s.pendingTxQueue.length < P.maxPendingTxFrames) :
    (s.allocate P).isSome = true :=
  h.exact.firstFree_isSome (by rwa [buffers, List.length_map])

/-- A reliable frame is refused for want of room only when the queue is full. -/
theorem enqueueWith_accepts (h : TxConsistent P s) (cmd seq : UInt16) (data : Bytes) :
    (s.enqueueWith P cmd seq data).2 = true ↔ s.pendingTxQueue.length < P.maxPendingTxFrames := by
  unfold enqueueWith
  split
  case isTrue hfull => simp [hfull]
  case isFalse hroom =>
    have hroom := Nat.lt_of_not_le hroom
    obtain ⟨b, hb⟩ := Option.isSome_iff_exists.1 (h.allocate_isSome hroom)
    simp [hb, hroom]

end Mcu
end McuBridge
