import Mathlib.Data.List.Perm.Basic
import Mathlib.Data.List.AList

/-! # A counting semaphore with a ledger

Permits are anonymous to the code. The ledger says for whom each one was taken and given back, so that an account of
the holders can be kept beside the count. -/

/-- `value` is what is left to take; the two lists are the ledger, newest first. -/
structure Semaphore (α : Type*) where
  value : Nat
  acquired : List α
  released : List α

namespace Semaphore
variable {α : Type*}

def init (capacity : Nat) : Semaphore α := ⟨capacity, [], []⟩

def acquire (a : α) (s : Semaphore α) : Semaphore α :=
  { s with value := s.value - 1, acquired := a :: s.acquired }

def release (a : α) (s : Semaphore α) : Semaphore α :=
  { s with value := s.value + 1, released := a :: s.released }

/-- Each permit taken is with one of the holders or was given back, and nobody took two. -/
structure Balanced (capacity : Nat) (held : List α) (s : Semaphore α) : Prop where
  value : s.value + s.acquired.length = capacity + s.released.length
  nodup : s.acquired.Nodup
  perm : s.acquired.Perm (held ++ s.released)

namespace Balanced
variable {s : Semaphore α} {capacity : Nat} {held held' : List α} {a : α}

theorem init (capacity : Nat) : (Semaphore.init (α := α) capacity).Balanced capacity [] :=
  ⟨rfl, List.nodup_nil, List.Perm.refl _⟩

theorem congr (h : s.Balanced capacity held) (hheld : held.Perm held') : s.Balanced capacity held' :=
  ⟨h.value, h.nodup, h.perm.trans (hheld.append_right _)⟩

theorem acquire (h : s.Balanced capacity held) (hfree : 0 < s.value) (ha : a ∉ s.acquired) :
    (s.acquire a).Balanced capacity (a :: held) := by
  refine ⟨?_, List.nodup_cons.2 ⟨ha, h.nodup⟩, h.perm.cons a⟩
  have hvalue := h.value
  simp only [Semaphore.acquire, List.length_cons]
  omega

theorem release (h : s.Balanced capacity (a :: held)) : (s.release a).Balanced capacity held := by
  refine ⟨?_, h.nodup, h.perm.trans List.perm_middle.symm⟩
  have hvalue := h.value
  simp only [Semaphore.release, List.length_cons]
  omega

/-- The permits out are those of the holders. -/
theorem value_add_length (h : s.Balanced capacity held) : s.value + held.length = capacity := by
  have hvalue := h.value
  have hlen := h.perm.length_eq
  rw [List.length_append] at hlen
  omega

end Balanced
end Semaphore

/-- An association list is, up to order, the entry of a key and what is left without it. -/
theorem AList.entries_perm_erase {α : Type*} {β : α → Type*} [DecidableEq α] {s : AList β} {a : α} {b : β a}
    (h : s.lookup a = some b) : s.entries.Perm (⟨a, b⟩ :: (s.erase a).entries) := by
  have hkey : a ∈ s.entries.keys := AList.lookup_isSome.1 (h ▸ rfl)
  obtain ⟨b', l₁, l₂, -, hentries, herase⟩ := List.exists_of_kerase hkey
  have hmem : (⟨a, b'⟩ : Sigma β) ∈ s.entries := hentries ▸ List.mem_append_right _ (List.mem_cons_self ..)
  have hb : b' = b := Option.some.inj ((AList.mem_lookup_iff.2 hmem).symm.trans h)
  subst hb
  show s.entries.Perm (⟨a, b'⟩ :: s.entries.kerase a)
  rw [herase]
  exact hentries ▸ List.perm_middle
