import Mathlib.Data.List.Basic

/-! # Numbered packets on a channel

`Ordered` says that the numbered packets of a queue carry increasing numbers. Losing packets keeps it, and
so does appending packets that were numbered later. -/

/-- The packets of `q` that have a number carry them in increasing order. -/
def Ordered {α : Type*} (no : α → Option Nat) (q : List α) : Prop := (q.filterMap no).Pairwise (· < ·)

namespace Ordered
variable {α : Type*} {no : α → Option Nat} {q r : List α}

theorem nil : Ordered no [] := List.Pairwise.nil

theorem of_none (h : ∀ a ∈ q, no a = none) : Ordered no q := by
  unfold Ordered
  rw [List.filterMap_eq_nil_iff.2 h]
  exact List.Pairwise.nil

theorem sublist (h : Ordered no q) (hr : r.Sublist q) : Ordered no r :=
  List.Pairwise.sublist (hr.filterMap no) h

theorem append (hq : Ordered no q) (hr : Ordered no r)
    (hlt : ∀ a ∈ q, ∀ b ∈ r, ∀ i j, no a = some i → no b = some j → i < j) : Ordered no (q ++ r) := by
  unfold Ordered
  rw [List.filterMap_append, List.pairwise_append]
  refine ⟨hq, hr, ?_⟩
  intro i hi j hj
  obtain ⟨a, ha, hia⟩ := List.mem_filterMap.1 hi
  obtain ⟨b, hb, hjb⟩ := List.mem_filterMap.1 hj
  exact hlt a ha b hb i j hia hjb

/-- A number at the head is below every number behind it. -/
theorem head_lt {a b : α} {i j : Nat} (h : Ordered no (a :: q)) (hb : b ∈ q) (hi : no a = some i)
    (hj : no b = some j) : i < j := by
  unfold Ordered at h
  rw [List.filterMap_cons_some hi, List.pairwise_cons] at h
  exact h.1 j (List.mem_filterMap.2 ⟨b, hb, hj⟩)

end Ordered
