import Mathlib.Logic.Function.Basic

/-! # Interrupted writes

A write to a map may be interrupted: its caller learns that it failed, and the write may have happened or not. After a
write that returned a reader can find its value only; after one that was interrupted, its value or one of those before. -/

/-- `returned` says that the caller was told so. -/
structure Write (K V : Type*) where
  key : K
  value : V
  returned : Bool
  deriving DecidableEq

namespace Write
variable {K V : Type*} [DecidableEq K]

/-- The values a key may have after one more write. -/
def next (c : K → List V) (w : Write K V) : K → List V :=
  Function.update c w.key (if w.returned then [w.value] else w.value :: c w.key)

/-- The values a key may have after the writes. -/
def mayRead (c : K → List V) (log : List (Write K V)) : K → List V := log.foldl next c

variable {c : K → List V} {log : List (Write K V)} {w : Write K V} {k : K} {v : V}

theorem mayRead_append (c : K → List V) (log : List (Write K V)) (w : Write K V) :
    mayRead c (log ++ [w]) = next (mayRead c log) w := List.foldl_append ..

theorem mem_next_self : w.value ∈ next c w w.key := by
  rw [next, Function.update_self]
  split
  · exact List.mem_singleton_self _
  · exact List.mem_cons_self

theorem mem_next_of_ne (h : k ≠ w.key) (hv : v ∈ c k) : v ∈ next c w k := by
  rwa [next, Function.update_of_ne h]

/-- An interrupted write leaves what could be read before. -/
theorem mem_next_of_interrupted (h : w.returned = false) (hv : v ∈ c k) : v ∈ next c w k := by
  by_cases hk : k = w.key
  · subst hk
    rw [next, Function.update_self, if_neg (by rw [h]; decide)]
    exact List.mem_cons_of_mem _ hv
  · exact mem_next_of_ne hk hv

end Write
