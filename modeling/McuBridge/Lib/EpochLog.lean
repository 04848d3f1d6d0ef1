import Mathlib.Data.Set.Insert
import Mathlib.Data.List.Nodup
import Mathlib.Logic.Relation

/-! # Keys, counters and the log of their use

An abstract machine holds a key and a counter. It can use the pair, with a counter value above the last
one, and it can change to a key it never held before, with any counter. Then no pair of key and counter
value is ever used twice (`Ok.nodup`), in whatever order the two are mixed. -/

structure EpochLog (K : Type*) where
  key : K
  ctr : Nat
  seen : Set K
  log : List (K × Nat)

namespace EpochLog
variable {K : Type*} {e e' : EpochLog K}

/-- Use the key with counter value `c`. -/
def use (e : EpochLog K) (c : Nat) : EpochLog K := { e with ctr := c, log := e.log ++ [(e.key, c)] }

/-- Change to the key `k`. -/
def rekey (e : EpochLog K) (k : K) : EpochLog K := { e with key := k, ctr := 0, seen := insert k e.seen }

inductive Step : EpochLog K → EpochLog K → Prop where
  | use {e : EpochLog K} {c : Nat} (hkey : e.key ∈ e.seen) (hc : e.ctr < c) : Step e (e.use c)
  | rekey {e : EpochLog K} {k : K} (hk : k ∉ e.seen) : Step e (e.rekey k)

/-- The invariant: nothing is used twice, the current key only up to the counter, and only keys that were
held are in the log. -/
structure Ok (e : EpochLog K) : Prop where
  nodup : e.log.Nodup
  le_ctr : ∀ c, (e.key, c) ∈ e.log → c ≤ e.ctr
  seen : ∀ k c, (k, c) ∈ e.log → k ∈ e.seen

theorem Step.ok (h : Step e e') (he : e.Ok) : e'.Ok := by
  cases h with
  | @use c hkey hc =>
    refine ⟨?_, ?_, ?_⟩
    · refine List.nodup_append.2 ⟨he.nodup, List.nodup_singleton _, ?_⟩
      rintro p hp q hq rfl
      obtain rfl := List.mem_singleton.1 hq
      exact absurd (he.le_ctr c hp) (by omega)
    · intro c' hc'
      rcases List.mem_append.1 hc' with h | h
      · have := he.le_ctr c' h
        show c' ≤ c
        omega
      · obtain ⟨-, rfl⟩ := Prod.mk.inj (List.mem_singleton.1 h)
        exact le_rfl
    · intro k c' hc'
      rcases List.mem_append.1 hc' with h | h
      · exact he.seen k c' h
      · obtain ⟨rfl, -⟩ := Prod.mk.inj (List.mem_singleton.1 h)
        exact hkey
  | @rekey k hk =>
    refine ⟨he.nodup, ?_, fun k' c h => Set.mem_insert_of_mem _ (he.seen k' c h)⟩
    exact fun c h => absurd (he.seen k c h) hk

theorem Ok.of_steps (h : Relation.ReflTransGen Step e e') (he : e.Ok) : e'.Ok := by
  induction h with
  | refl => exact he
  | tail _ hstep ih => exact hstep.ok ih

theorem rekey_rekey (e : EpochLog K) (k : K) : (e.rekey k).rekey k = e.rekey k := by
  simp [rekey]

end EpochLog
