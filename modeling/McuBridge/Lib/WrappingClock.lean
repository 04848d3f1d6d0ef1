import Mathlib.Data.List.Chain
import Mathlib.Data.UInt

/-! # A clock that wraps

A 32-bit clock shows the time modulo 2^32. Two readings less than 2^32 apart tell the time between them
(`reading_sub`), also where the clock has wrapped, and the gaps between successive times add up to the time from the
first to the last (`span_cons_cons`). -/

namespace WrappingClock
variable {t t' : Nat} {ts : List Nat}

/-- What the clock shows at time `t`. -/
def reading (t : Nat) : UInt32 := UInt32.ofNat t

/-- `t'` is not before `t`, and comes before the clock has gone round. -/
def Advances (t t' : Nat) : Prop := t ≤ t' ∧ t' - t < 2 ^ 32

instance (t t' : Nat) : Decidable (Advances t t') := inferInstanceAs (Decidable (_ ∧ _))

theorem reading_sub (h : Advances t t') : (reading t' - reading t).toNat = t' - t := by
  obtain ⟨hle, hlt⟩ := h
  have ht : (reading t).toNat = t % 2 ^ 32 := UInt32.toNat_ofNat'
  have ht' : (reading t').toNat = t' % 2 ^ 32 := UInt32.toNat_ofNat'
  rw [UInt32.toNat_sub, ht, ht']
  omega

/-- The time from the first to the last. -/
def span (ts : List Nat) : Nat := ts.getLastD 0 - ts.headD 0

theorem le_getLastD (h : (t :: ts).IsChain Advances) : t ≤ (t :: ts).getLastD 0 := by
  induction ts generalizing t with
  | nil => exact Nat.le_refl t
  | cons t' ts ih =>
    obtain ⟨hadv, hrest⟩ := List.isChain_cons_cons.1 h
    exact Nat.le_trans hadv.1 (ih hrest)

theorem span_cons_cons (h : (t :: t' :: ts).IsChain Advances) :
    span (t :: t' :: ts) = t' - t + span (t' :: ts) := by
  obtain ⟨hadv, hrest⟩ := List.isChain_cons_cons.1 h
  have hle : t ≤ t' := hadv.1
  have hlast : t' ≤ (t' :: ts).getLastD 0 := le_getLastD hrest
  show (t' :: ts).getLastD 0 - t = t' - t + ((t' :: ts).getLastD 0 - t')
  omega

end WrappingClock
