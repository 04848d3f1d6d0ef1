import Mathlib.Data.List.Basic

/-! # Subscribers of a broadcast

A hub appends each message to the queue of every subscriber there is at that moment. A subscriber takes the messages out
of its own queue, one at a time, and passes each on before it takes the next. `Follows log s` is the invariant that ties
the two together: what `s` passed on, what it holds and what waits for it are the messages since it came. -/

namespace Broadcast
variable {α : Type*}

/-- A subscriber that came after `joined` messages. -/
structure Subscriber (α : Type*) where
  joined : Nat
  sent : List α
  held : Option α
  queue : List α
  deriving DecidableEq

/-- All that has been handed to the subscriber, in order. -/
def Subscriber.handed (s : Subscriber α) : List α := s.sent ++ s.held.toList ++ s.queue

structure Follows (log : List α) (s : Subscriber α) : Prop where
  joined_le : s.joined ≤ log.length
  handed_eq : s.handed = log.drop s.joined

namespace Follows
variable {log : List α} {s : Subscriber α}

theorem join (log : List α) : Follows log ⟨log.length, [], none, []⟩ := by
  refine ⟨Nat.le_refl _, ?_⟩
  rw [List.drop_length]
  rfl

/-- The hub appends messages to the queue. -/
theorem publish (h : Follows log s) (ms : List α) : Follows (log ++ ms) { s with queue := s.queue ++ ms } := by
  refine ⟨by simpa only [List.length_append] using Nat.le_add_right_of_le h.joined_le, ?_⟩
  calc s.sent ++ s.held.toList ++ (s.queue ++ ms)
      = s.handed ++ ms := (List.append_assoc ..).symm
    _ = log.drop s.joined ++ ms := by rw [h.handed_eq]
    _ = (log ++ ms).drop s.joined := (List.drop_append_of_le_length h.joined_le).symm

/-- Moving messages between the subscriber's own places keeps their order. -/
theorem of_handed_eq (h : Follows log s) {t : Subscriber α} (hjoined : t.joined = s.joined)
    (hhanded : t.handed = s.handed) : Follows log t :=
  ⟨hjoined ▸ h.joined_le, by rw [hhanded, hjoined, h.handed_eq]⟩

theorem take (h : Follows log s) {m : α} {q : List α} (hheld : s.held = none) (hqueue : s.queue = m :: q) :
    Follows log { s with held := some m, queue := q } := by
  refine h.of_handed_eq rfl ?_
  simp only [Subscriber.handed, hheld, hqueue, Option.toList, List.append_nil, List.append_assoc, List.singleton_append]

theorem send (h : Follows log s) {m : α} (hheld : s.held = some m) :
    Follows log { s with sent := s.sent ++ [m], held := none } := by
  refine h.of_handed_eq rfl ?_
  simp only [Subscriber.handed, hheld, Option.toList, List.append_nil]

theorem sent_isPrefix (h : Follows log s) : s.sent <+: log.drop s.joined := by
  rw [← h.handed_eq, Subscriber.handed, List.append_assoc]
  exact List.prefix_append ..

end Follows

/-- What a subscriber that is gone had passed on. -/
theorem sent_prefix_append {log sent : List α} {joined : Nat} (hle : joined ≤ log.length)
    (h : sent <+: log.drop joined) (ms : List α) : sent <+: (log ++ ms).drop joined := by
  rw [List.drop_append_of_le_length hle]
  exact h.trans (List.prefix_append ..)

end Broadcast
