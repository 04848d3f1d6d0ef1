import Mathlib.Data.List.Basic

/-! # A fair lock

`asyncio.Lock`: a task that finds the lock taken, or others waiting for it, waits at the end of the queue. A release
leaves the lock free; the first task of the queue takes it when it runs again. -/

structure FifoLock (T : Type*) where
  holder : Option T := none
  waiters : List T := []

namespace FifoLock
variable {T : Type*}

/-- A task may take the lock at once. -/
def isFree (l : FifoLock T) : Bool := l.holder.isNone && l.waiters.isEmpty

def acquire (t : T) (l : FifoLock T) : FifoLock T :=
  if l.isFree then { l with holder := some t } else { l with waiters := l.waiters ++ [t] }

def release (l : FifoLock T) : FifoLock T := { l with holder := none }

/-- The first task of the queue takes a lock that has been released. -/
def grant (l : FifoLock T) : FifoLock T :=
  match l.holder, l.waiters with
  | none, t :: rest => ⟨some t, rest⟩
  | _, _ => l

variable {l : FifoLock T} {t u : T}

theorem acquire_of_free (h : l.isFree = true) : l.acquire t = { l with holder := some t } := if_pos h

theorem acquire_of_not_free (h : l.isFree = false) : l.acquire t = { l with waiters := l.waiters ++ [t] } :=
  if_neg (by rw [h]; exact Bool.false_ne_true)

theorem not_free_of_held (h : l.holder = some u) : l.isFree = false := by
  rw [isFree, h]
  rfl

theorem of_mem_acquire (h : u ∈ (l.acquire t).waiters) : u ∈ l.waiters ∨ u = t := by
  unfold acquire at h
  split at h
  · exact .inl h
  · exact (List.mem_append.1 h).imp_right List.mem_singleton.1

theorem of_mem_grant (h : u ∈ l.grant.waiters) : u ∈ l.waiters := by
  unfold grant at h
  split at h
  next t rest hholder hwaiters =>
    rw [hwaiters]
    exact List.mem_cons_of_mem t h
  · exact h

/-- Behind a holder every task waits. -/
theorem acquire_held (h : l.holder = some u) : t ∈ (l.acquire t).waiters := by
  rw [acquire_of_not_free (not_free_of_held h)]
  exact List.mem_append_right _ (List.mem_singleton.2 rfl)

@[simp] theorem release_waiters : l.release.waiters = l.waiters := rfl

end FifoLock
