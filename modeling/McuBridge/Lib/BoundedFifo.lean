import Mathlib.Data.List.Basic

/-! # A bounded queue

What a queue with an optional bound is for: `push` adds at the back and then removes from the front until the bound
is met, `pop` takes the front. -/

structure BoundedFifo (α : Type*) where
  items : List α
  maxlen : Option Nat

namespace BoundedFifo
variable {α : Type*}

/-- Removes the oldest items until at most `m` remain. -/
def evict (m : Nat) : List α → List α
  | [] => []
  | x :: xs => if m < (x :: xs).length then evict m xs else x :: xs

def push (x : α) (q : BoundedFifo α) : BoundedFifo α :=
  { q with items := match q.maxlen with | some m => evict m (q.items ++ [x]) | none => q.items ++ [x] }

/-- The front and the queue without it. -/
def pop (q : BoundedFifo α) : Option (α × BoundedFifo α) :=
  match q.items with
  | [] => none
  | x :: xs => some (x, { q with items := xs })

theorem evict_eq_drop (m : Nat) (l : List α) : evict m l = l.drop (l.length - m) := by
  induction l with
  | nil => rw [List.drop_nil, evict]
  | cons x xs ih =>
    unfold evict
    split
    case isTrue h =>
      rw [List.length_cons] at h ⊢
      rw [ih, Nat.succ_sub (Nat.le_of_lt_succ h), List.drop_succ_cons]
    case isFalse h => rw [Nat.sub_eq_zero_of_le (Nat.le_of_not_lt h), List.drop_zero]

theorem evict_eq_self {m : Nat} {l : List α} (h : l.length ≤ m) : evict m l = l := by
  rw [evict_eq_drop, Nat.sub_eq_zero_of_le h, List.drop_zero]

theorem evict_length (m : Nat) (l : List α) : (evict m l).length = min m l.length := by
  rw [evict_eq_drop, List.length_drop]
  omega

end BoundedFifo
