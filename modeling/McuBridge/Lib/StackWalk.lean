import Mathlib.Data.List.Induction

/-! # Walks up and down from a root

A walk is a list of steps: `some a` goes down to `a`, `none` goes up and stays at the root if it is there. `walk` is the
place where it ends, as the list of names from the root. `prefix_walk_iff` says which walks end at or below a place,
by the depths they go through and not by the place they end at. -/

namespace StackWalk
variable {α : Type*}

/-- One step from a place. -/
def move (st : List α) : Option α → List α
  | some a => st ++ [a]
  | none => st.dropLast

def walk (st : List α) (l : List (Option α)) : List α := l.foldl move st

/-- The depth at which a walk from the root ends. -/
def depth (l : List (Option α)) : Nat :=
  l.foldl (fun d s => if s.isSome then d + 1 else d - 1) 0

/-- The walk never goes above the place where it starts. -/
def Stays (l : List (Option α)) : Prop :=
  ∀ pre, pre <+: l → pre.countP Option.isNone ≤ pre.countP Option.isSome

/-- Each name is entered from the depth of the one before it, and the walk then never goes above it. -/
inductive Descends : List α → List (Option α) → Prop
  | nil (l : List (Option α)) : Descends [] l
  | cons {x : α} {xs : List α} {before after : List (Option α)} (hbefore : depth before = 0) (hafter : Stays after)
      (hrest : Descends xs after) : Descends (x :: xs) (before ++ some x :: after)

variable {l m : List (Option α)} {st base v : List α} {x : α} {s : Option α}

theorem walk_append (st : List α) (l m : List (Option α)) : walk st (l ++ m) = walk (walk st l) m := List.foldl_append ..

theorem walk_concat (st : List α) (l : List (Option α)) (s : Option α) : walk st (l ++ [s]) = move (walk st l) s := by
  rw [walk_append]
  rfl

theorem depth_concat (l : List (Option α)) (s : Option α) :
    depth (l ++ [s]) = if s.isSome then depth l + 1 else depth l - 1 := by
  unfold depth
  rw [List.foldl_append]
  rfl

theorem length_walk (l : List (Option α)) : (walk [] l).length = depth l := by
  induction l using List.reverseRecOn with
  | nil => rfl
  | append_singleton l s ih =>
    rw [walk_concat, depth_concat, ← ih]
    cases s with
    | none => exact List.length_dropLast
    | some a => exact List.length_append

theorem walk_eq_nil_iff : walk [] l = [] ↔ depth l = 0 := by
  rw [← length_walk, List.length_eq_zero_iff]

/-! ### Walks that stay below their start -/

theorem Stays.of_prefix (h : Stays m) (hl : l <+: m) : Stays l := fun pre hpre => h pre (hpre.trans hl)

theorem stays_concat : Stays (l ++ [s]) ↔
    Stays l ∧ (l ++ [s]).countP Option.isNone ≤ (l ++ [s]).countP Option.isSome := by
  constructor
  · exact fun h => ⟨h.of_prefix (List.prefix_append ..), h _ List.prefix_rfl⟩
  · rintro ⟨h, hall⟩ pre hpre
    rcases List.prefix_concat_iff.1 hpre with rfl | hpre
    · exact hall
    · exact h pre hpre

theorem stays_concat_some {a : α} : Stays (l ++ [some a]) ↔ Stays l := by
  rw [stays_concat, and_iff_left_of_imp]
  intro h
  have hall := h l List.prefix_rfl
  rw [List.countP_append, List.countP_append]
  exact Nat.le_trans hall (Nat.le_add_right _ _)

theorem stays_concat_none : Stays (l ++ [none]) ↔ Stays l ∧ l.countP Option.isNone < l.countP Option.isSome := by
  rw [stays_concat, List.countP_append, List.countP_append]
  rfl

/-- Its depth is the names minus the ups. -/
theorem Stays.depth_add (h : Stays l) : depth l + l.countP Option.isNone = l.countP Option.isSome := by
  induction l using List.reverseRecOn with
  | nil => rfl
  | append_singleton l s ih =>
    rw [depth_concat, List.countP_append, List.countP_append]
    cases s with
    | none =>
      obtain ⟨hl, hlt⟩ := stays_concat_none.1 h
      have hdepth := ih hl
      show depth l - 1 + (l.countP Option.isNone + 1) = l.countP Option.isSome
      omega
    | some a =>
      have hdepth := ih (stays_concat_some.1 h)
      show depth l + 1 + l.countP Option.isNone = l.countP Option.isSome + 1
      omega

theorem Stays.walk_eq (h : Stays l) (base : List α) : walk base l = base ++ walk [] l := by
  induction l using List.reverseRecOn with
  | nil => exact (List.append_nil base).symm
  | append_singleton l s ih =>
    rw [walk_concat, walk_concat]
    cases s with
    | some a =>
      rw [ih (stays_concat_some.1 h)]
      exact List.append_assoc ..
    | none =>
      obtain ⟨hl, hlt⟩ := stays_concat_none.1 h
      -- the walk is below its start before it goes up
      have hbelow : walk [] l ≠ [] := by
        intro h0
        have hdepth := hl.depth_add
        rw [walk_eq_nil_iff.1 h0] at hdepth
        omega
      rw [ih hl]
      exact List.dropLast_append_of_ne_nil hbelow

/-! ### Where a walk ends -/

/-- The first name of the end is entered from the root, for good. -/
theorem walk_cons_iff : walk [] l = x :: v ↔
    ∃ before after, l = before ++ some x :: after ∧ depth before = 0 ∧ Stays after ∧ walk [] after = v := by
  constructor
  · intro h
    induction l using List.reverseRecOn generalizing v with
    | nil => cases h
    | append_singleton l s ih =>
      rw [walk_concat] at h
      cases s with
      | some a =>
        cases hl : walk [] l with
        | nil =>
          rw [hl] at h
          cases h
          exact ⟨l, [], rfl, walk_eq_nil_iff.1 hl, by simp [Stays], rfl⟩
        | cons y w =>
          rw [hl] at h
          obtain ⟨rfl, rfl⟩ := List.cons.inj h
          obtain ⟨before, after, rfl, hbefore, hafter, rfl⟩ := ih hl
          exact ⟨before, after ++ [some a], by simp, hbefore, stays_concat_some.2 hafter, walk_concat ..⟩
      | none =>
        cases hl : walk [] l with
        | nil =>
          rw [hl] at h
          cases h
        | cons y w =>
          rw [hl] at h
          cases w with
          | nil => cases h
          | cons z w =>
            obtain ⟨rfl, rfl⟩ := List.cons.inj h
            obtain ⟨before, after, rfl, hbefore, hafter, hw⟩ := ih hl
            refine ⟨before, after ++ [none], by simp, hbefore, stays_concat_none.2 ⟨hafter, ?_⟩, ?_⟩
            · have hdepth := hafter.depth_add
              have hlen := length_walk after
              rw [hw, List.length_cons] at hlen
              omega
            · rw [walk_concat, hw]
              rfl
  · rintro ⟨before, after, rfl, hbefore, hafter, rfl⟩
    rw [walk_append, walk_eq_nil_iff.2 hbefore]
    exact hafter.walk_eq [x]

/-- A walk ends at or below the place `v` exactly if it descends along the names of `v`. -/
theorem prefix_walk_iff : v <+: walk [] l ↔ Descends v l := by
  induction v generalizing l with
  | nil => exact iff_of_true List.nil_prefix (.nil l)
  | cons x v ih =>
    constructor
    · rintro ⟨w, hw⟩
      obtain ⟨before, after, rfl, hbefore, hafter, heq⟩ := walk_cons_iff.1 hw.symm
      exact .cons hbefore hafter (ih.1 ⟨w, heq.symm⟩)
    · intro h
      cases h with
      | cons hbefore hafter hrest =>
        obtain ⟨w, hw⟩ := ih.2 hrest
        exact ⟨w, (walk_cons_iff.2 ⟨_, _, rfl, hbefore, hafter, hw.symm⟩).symm⟩

/-- Without an up a walk descends along its first names. -/
theorem descends_map_some {w : List α} : Descends v (w.map some) ↔ v <+: w := by
  have hwalk : walk [] (w.map some) = w := by
    induction w using List.reverseRecOn with
    | nil => rfl
    | append_singleton w a ih =>
      rw [List.map_append, List.map_singleton, walk_concat, ih]
      rfl
  rw [← prefix_walk_iff, hwalk]

end StackWalk
