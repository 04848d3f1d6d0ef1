import Mathlib.Logic.Function.Iterate
import Mathlib.Order.Defs.Unbundled

/-! # Binary search with signed bounds

A loop over a table of keyed entries that keeps the first and the last index of the part still to be searched; the last
one is -1 when nothing is left. A read outside the table ends the loop in a state of its own. `Sound` is what the loop
keeps in a sorted table, with the number of its iterations. -/

namespace BinarySearch
variable {K V : Type*}

inductive Search (V : Type*) where
  | searching (left right : Int)
  | done (value : Option V)
  | outside

def Search.result : Search V → Option V
  | .done value => value
  | _ => none

abbrev Sorted [LT K] (table : List (K × V)) : Prop := table.Pairwise fun a b => a.1 < b.1

section
variable [LT K] [DecidableEq K] [DecidableLT K] (table : List (K × V)) (key : K)

def step : Search V → Search V
  | .searching left right =>
    if left ≤ right then
      let mid := left + (right - left) / 2
      if mid < 0 then .outside
      else
        match table[mid.toNat]? with
        | none => .outside
        | some (k, v) =>
          if k = key then .done (some v) else if k < key then .searching (mid + 1) right else .searching left (mid - 1)
    else .done none
  | s => s

def start : Search V := .searching 0 (table.length - 1)

/-- The state after `n` iterations. -/
def after (n : Nat) : Search V := (step table key)^[n] (start table)

/-- The bounds lie in the table, and all keys outside them are known to be other ones. -/
structure Bracket (left right : Int) : Prop where
  left_nonneg : 0 ≤ left
  left_le : left ≤ right + 1
  right_lt : right < table.length
  below : ∀ (i : Nat) e, table[i]? = some e → i < left → e.1 < key
  above : ∀ (i : Nat) e, table[i]? = some e → right < i → key < e.1

/-- Each iteration makes the bracket smaller, and the loop ends with what a scan of the table finds. -/
def Sound (n : Nat) : Search V → Prop
  | .searching left right => Bracket table key left right ∧ right - left + 1 + n ≤ table.length
  | .done value => value = table.lookup key
  | .outside => False

end

variable [LT K] {table : List (K × V)} {key : K} {v : V}

theorem Sorted.getElem?_lt (hs : Sorted table) {i j : Nat} {a b : K × V} (hi : table[i]? = some a)
    (hj : table[j]? = some b) (hij : i < j) : a.1 < b.1 := by
  obtain ⟨hi', rfl⟩ := List.getElem?_eq_some_iff.1 hi
  obtain ⟨hj', rfl⟩ := List.getElem?_eq_some_iff.1 hj
  exact List.pairwise_iff_getElem.1 hs i j hi' hj' hij

/-! ### One iteration -/

theorem sound_start [DecidableEq K] : Sound table key 0 (start table) := by
  refine ⟨⟨Int.le_refl 0, by omega, by omega, fun i e _ hi => by omega, fun i e hget hi => ?_⟩, by omega⟩
  have hlen := (List.getElem?_eq_some_iff.1 hget).1
  omega

namespace Bracket
variable {left right : Int} {mid : Nat} {e : K × V}

/-- The middle is read inside the table. -/
theorem step_eq [DecidableEq K] [DecidableLT K] (h : Bracket table key left right) (hopen : left ≤ right) :
    ∃ (mid : Nat) (k : K) (w : V), left ≤ mid ∧ (mid : Int) ≤ right ∧ table[mid]? = some (k, w) ∧
      step table key (.searching left right) =
        if k = key then .done (some w) else if k < key then .searching (mid + 1) right else .searching left (mid - 1) := by
  obtain ⟨h0, -, hlt, -, -⟩ := h
  obtain ⟨mid, hmid⟩ : ∃ mid : Nat, left + (right - left) / 2 = mid := Int.eq_ofNat_of_zero_le (by omega)
  have hmid_lt : mid < table.length := by omega
  obtain ⟨⟨k, w⟩, hget⟩ : ∃ e, table[mid]? = some e := ⟨_, List.getElem?_eq_getElem hmid_lt⟩
  refine ⟨mid, k, w, by omega, by omega, hget, ?_⟩
  simp only [step, if_pos hopen, hmid, Int.toNat_natCast, hget]
  exact if_neg (by omega)

variable [IsStrictTotalOrder K (· < ·)]

theorem upper (h : Bracket table key left right) (hs : Sorted table) (hget : table[mid]? = some e)
    (hle : left ≤ mid) (hlt : (mid : Int) ≤ right) (hless : e.1 < key) : Bracket table key (mid + 1) right := by
  refine ⟨by omega, by omega, h.right_lt, fun i f hi hlow => ?_, h.above⟩
  rcases Nat.lt_or_eq_of_le (show i ≤ mid by omega) with hi' | rfl
  · exact trans_of (· < ·) (hs.getElem?_lt hi hget hi') hless
  · rw [hget] at hi
    cases hi
    exact hless

theorem lower (h : Bracket table key left right) (hs : Sorted table) (hget : table[mid]? = some e)
    (hle : left ≤ mid) (hlt : (mid : Int) ≤ right) (hless : key < e.1) : Bracket table key left (mid - 1) := by
  have hright := h.right_lt
  refine ⟨h.left_nonneg, by omega, by omega, h.below, fun i f hi hhigh => ?_⟩
  rcases Nat.lt_or_eq_of_le (show mid ≤ i by omega) with hi' | rfl
  · exact trans_of (· < ·) hless (hs.getElem?_lt hget hi hi')
  · rw [hget] at hi
    cases hi
    exact hless

end Bracket

variable [DecidableEq K] [IsStrictTotalOrder K (· < ·)]

theorem lookup_of_mem (hs : Sorted table) (h : (key, v) ∈ table) : table.lookup key = some v := by
  induction table with
  | nil => cases h
  | cons e table ih =>
    obtain ⟨hhead, htail⟩ := List.pairwise_cons.1 hs
    rcases List.mem_cons.1 h with rfl | hmem
    · exact List.lookup_cons_self
    · have hne : key ≠ e.1 := (ne_of_irrefl (hhead _ hmem)).symm
      have hkey : (key == e.1) = false := by simpa using hne
      rw [List.lookup_cons, hkey]
      exact ih htail hmem

namespace Bracket
variable {left right : Int}

theorem lookup_none (h : Bracket table key left right) (hempty : ¬ left ≤ right) :
    table.lookup key = none := by
  refine List.lookup_eq_none_iff.2 fun e he => ?_
  obtain ⟨i, hi⟩ := List.mem_iff_getElem?.1 he
  have hne : e.1 ≠ key := by
    rcases Int.lt_or_le (i : Int) left with hlt | hle
    · exact ne_of_irrefl (h.below i e hi hlt)
    · exact (ne_of_irrefl (h.above i e hi (by omega))).symm
  simpa using hne.symm

theorem sound_step [DecidableLT K] (hs : Sorted table) {n : Nat} (h : Bracket table key left right)
    (hn : right - left + 1 + n ≤ table.length) : Sound table key (n + 1) (step table key (.searching left right)) := by
  by_cases hopen : left ≤ right
  · obtain ⟨mid, k, w, hle, hlt, hget, hstep⟩ := h.step_eq hopen
    rw [hstep]
    split
    case isTrue hk => exact (lookup_of_mem hs (hk ▸ List.mem_of_getElem? hget)).symm
    case isFalse hk =>
      split
      case isTrue hless => exact ⟨h.upper hs hget hle hlt hless, by omega⟩
      case isFalse hless =>
        have hgreater : key < k := ((trichotomous_of (· < ·) k key).resolve_left hless).resolve_left hk
        exact ⟨h.lower hs hget hle hlt hgreater, by omega⟩
  · have hend : step table key (.searching left right) = .done none := if_neg hopen
    rw [hend]
    exact (h.lookup_none hopen).symm

end Bracket

/-! ### The loop -/

variable [DecidableLT K]

theorem Sound.step (hs : Sorted table) {n : Nat} {s : Search V} (h : Sound table key n s) :
    Sound table key (n + 1) (step table key s) := by
  cases s with
  | searching left right => exact h.1.sound_step hs h.2
  | done value => exact h
  | outside => exact h

theorem sound_after (hs : Sorted table) (key : K) (n : Nat) : Sound table key n (after table key n) := by
  induction n with
  | zero => exact sound_start
  | succ n ih =>
    unfold after
    rw [Function.iterate_succ_apply']
    exact ih.step hs

/-- The loop ends, with what the scan finds. -/
theorem after_done (hs : Sorted table) : after table key (table.length + 1) = .done (table.lookup key) := by
  have h := sound_after hs key (table.length + 1)
  cases hstate : after table key (table.length + 1) with
  | searching left right =>
    rw [hstate] at h
    have hle := h.1.left_le
    have hn := h.2
    omega
  | done value =>
    rw [hstate] at h
    exact congrArg Search.done h
  | outside =>
    rw [hstate] at h
    exact absurd h id

theorem after_ne_outside (hs : Sorted table) (n : Nat) : after table key n ≠ .outside := by
  intro hstate
  have h := sound_after hs key n
  rw [hstate] at h
  exact h

end BinarySearch
