import Mathlib.Data.List.Nodup
import Mathlib.Data.List.Range
import Mathlib.Data.List.Perm.Subperm

/-! # A pool of slots

A pool hands out numbered slots, and some structure keeps a list of references to those it has got. The pool is exact
if it has handed out the slots referred to and no others, each for one reference: nothing has leaked, and nothing is
released twice. -/

namespace SlotPool
variable {α : Type*} {allocated refs : List α}

structure Exact (allocated refs : List α) : Prop where
  mem_iff : ∀ b, b ∈ allocated ↔ b ∈ refs
  once : refs.Nodup

namespace Exact

theorem nil : Exact ([] : List α) [] := ⟨fun _ => Iff.rfl, List.nodup_nil⟩

/-- A slot that was free is handed out and referred to. -/
theorem alloc {b : α} (h : Exact allocated refs) (hb : b ∉ allocated) : Exact (b :: allocated) (refs ++ [b]) := by
  refine ⟨fun c => ?_, ?_⟩
  · rw [List.mem_cons, List.mem_append, List.mem_singleton, h.mem_iff, or_comm]
  · refine List.nodup_append.2 ⟨h.once, List.nodup_singleton b, ?_⟩
    intro c hc d hd hcd
    rw [List.mem_singleton] at hd
    subst hd hcd
    exact hb ((h.mem_iff c).2 hc)

/-- All references are dropped, and what they refer to is released. -/
theorem releaseAll {p : α → Bool} (h : Exact allocated refs) (hp : ∀ b ∈ refs, p b = false) :
    Exact (allocated.filter p) [] := by
  refine ⟨fun b => ⟨fun hb => ?_, fun hb => absurd hb List.not_mem_nil⟩, List.nodup_nil⟩
  obtain ⟨hmem, hpb⟩ := List.mem_filter.1 hb
  rw [hp b ((h.mem_iff b).1 hmem)] at hpb
  cases hpb

end Exact

/-- The first of `n` slots that is free. -/
def firstFree (n : Nat) (allocated : List Nat) : Option Nat := (List.range n).find? fun b => !allocated.contains b

theorem firstFree_spec {n b : Nat} {allocated : List Nat} (h : firstFree n allocated = some b) :
    b < n ∧ b ∉ allocated := by
  have hfree := List.find?_some h
  exact ⟨List.mem_range.1 (List.mem_of_find?_eq_some h), by simpa using hfree⟩

/-- With fewer references than slots there is a free one. -/
theorem Exact.firstFree_isSome {n : Nat} {allocated refs : List Nat} (h : Exact allocated refs)
    (hlen : refs.length < n) : (firstFree n allocated).isSome = true := by
  by_contra hno
  have hall : ∀ b ∈ List.range n, b ∈ refs := by
    intro b hb
    have hnone : firstFree n allocated = none := by simpa using hno
    have hb := List.find?_eq_none.1 hnone b hb
    exact (h.mem_iff b).1 (by simpa using hb)
  have hle := (List.nodup_range.subperm hall).length_le
  rw [List.length_range] at hle
  omega

end SlotPool
