import McuBridge.Lib.Delivery
import McuBridge.Lib.Run

/-! # A receiver that lets increasing numbers pass

The sender numbers its packets upwards, and the channel may lose them, hold them back, repeat them and change their
order. A receiver that takes a packet only if its number is above that of the last one it took gets a subsequence of
what was sent. -/

section
variable {α : Type*} {no : α → Option Nat} {number : α → Nat}

/-- Packets of the channel with increasing numbers are in the order of the channel. -/
theorem Ordered.sublist_of_mem {sent got : List α} (hsent : Ordered no sent)
    (hgot : got.Pairwise fun a b => number a < number b) (hmem : ∀ a ∈ got, a ∈ sent)
    (hno : ∀ a ∈ got, no a = some (number a)) : got.Sublist sent := by
  induction sent generalizing got with
  | nil =>
    rw [List.eq_nil_iff_forall_not_mem.2 fun a ha => List.not_mem_nil (hmem a ha)]
  | cons b sent ih =>
    have hrest : Ordered no sent := hsent.sublist (List.sublist_cons_self ..)
    cases got with
    | nil => exact List.nil_sublist _
    | cons a got =>
      have hpairs := List.pairwise_cons.1 hgot
      have htail : ∀ c ∈ got, c ∈ b :: sent ∧ no c = some (number c) := fun c hc =>
        ⟨hmem c (List.mem_cons_of_mem _ hc), hno c (List.mem_cons_of_mem _ hc)⟩
      by_cases hab : a = b
      · subst hab
        refine (ih hrest hpairs.2 (fun c hc => ?_) fun c hc => (htail c hc).2).cons_cons a
        -- a later packet has a larger number, so it is not the first one again
        rcases List.mem_cons.1 (htail c hc).1 with rfl | hmem
        · exact absurd (hpairs.1 c hc) (Nat.lt_irrefl _)
        · exact hmem
      · have ha : a ∈ sent := (List.mem_cons.1 (hmem a (List.mem_cons_self ..))).resolve_left hab
        refine (ih hrest hgot (fun c hc => ?_) hno).cons b
        rcases List.mem_cons.1 hc with rfl | hc
        · exact ha
        · refine (List.mem_cons.1 (htail c hc).1).resolve_left ?_
          rintro rfl
          -- `c` stands before `a` on the channel and has the larger number
          have hlt := hsent.head_lt ha (htail c hc).2 (hno a (List.mem_cons_self ..))
          exact absurd (hpairs.1 c hc) (Nat.lt_asymm hlt)

end

namespace Run
variable {S E O : Type*} {step : E → S → S} {out : E → S → Option O} {clock : S → Nat} {number : O → Nat}
  {C : S → E → Prop}

/-- The numbering rule: if every step that meets `C` moves the clock past the number of what it puts out, and never back, the
outputs of a run whose steps meet `C` are numbered upwards. -/
theorem Along.outputs_numbered (hmono : ∀ s e, C s e → clock s ≤ clock (step e s))
    (hout : ∀ s e, C s e → ∀ o ∈ out e s, clock s < number o ∧ number o ≤ clock (step e s)) {s : S} {es : List E}
    (h : Along step C s es) :
    (∀ o ∈ outputs step out s es, clock s < number o) ∧
      (outputs step out s es).Pairwise fun a b => number a < number b := by
  induction es generalizing s with
  | nil => exact ⟨nofun, .nil⟩
  | cons e es ih =>
    obtain ⟨hC, hrest⟩ := h
    obtain ⟨hbounds, hpairs⟩ := ih hrest
    constructor
    · intro o ho
      rcases List.mem_append.1 ho with ho | ho
      · exact (hout s e hC o (Option.mem_toList.1 ho)).1
      · exact Nat.lt_of_le_of_lt (hmono s e hC) (hbounds o ho)
    · refine List.pairwise_append.2 ⟨?_, hpairs, fun a ha b hb => ?_⟩
      · cases out e s with
        | none => exact .nil
        | some o => exact List.pairwise_singleton _ o
      · exact Nat.lt_of_le_of_lt (hout s e hC a (Option.mem_toList.1 ha)).2 (hbounds b hb)

/-- What the outputs of a run whose steps meet `C` have in common. -/
theorem Along.forall_outputs {Q : O → Prop} (hout : ∀ s e, C s e → ∀ o ∈ out e s, Q o) {s : S} {es : List E}
    (h : Along step C s es) : ∀ o ∈ outputs step out s es, Q o := by
  induction es generalizing s with
  | nil => exact nofun
  | cons e es ih =>
    intro o ho
    rcases List.mem_append.1 ho with ho | ho
    · exact hout s e h.1 o (Option.mem_toList.1 ho)
    · exact ih h.2 o ho

end Run
