import Mathlib.Data.List.DropRight

/-! # The pieces of a list between separators

`pieces p l` are the non-empty lists between the elements of `l` that satisfy `p`. A separator in the middle cuts the
pieces in two (`pieces_append_sep`); from there on, what is done to a list at its separators does not change them. -/

namespace Pieces
variable {α : Type*} {p : α → Bool} {c : α} {l w : List α}

def pieces (p : α → Bool) (l : List α) : List (List α) := (l.splitOnP p).filter fun w => !w.isEmpty

@[simp] theorem pieces_nil : pieces p [] = [] := by
  rw [pieces, List.splitOnP_nil]
  rfl

theorem pieces_append_sep (hc : p c = true) (x y : List α) : pieces p (x ++ c :: y) = pieces p x ++ pieces p y := by
  rw [pieces, List.splitOnP_append_cons x y hc, List.filter_append]
  rfl

theorem pieces_cons_sep (hc : p c = true) (l : List α) : pieces p (c :: l) = pieces p l := by
  have h := pieces_append_sep hc [] l
  rwa [List.nil_append, pieces_nil, List.nil_append] at h

theorem pieces_concat_sep (hc : p c = true) (l : List α) : pieces p (l ++ [c]) = pieces p l := by
  rw [pieces_append_sep hc, pieces_nil, List.append_nil]

/-! ### Separators at the ends -/

theorem pieces_append_seps (hw : ∀ c ∈ w, p c = true) (l : List α) : pieces p (l ++ w) = pieces p l := by
  induction w using List.reverseRecOn with
  | nil => rw [List.append_nil]
  | append_singleton w c ih =>
    rw [← List.append_assoc, pieces_concat_sep (hw c (by simp)), ih fun d hd => hw d (List.mem_append_left _ hd)]

variable {q : α → Bool}

theorem pieces_dropWhile (hq : ∀ c, q c = true → p c = true) (l : List α) :
    pieces p (l.dropWhile q) = pieces p l := by
  induction l with
  | nil => rfl
  | cons c l ih =>
    by_cases hc : q c = true
    · rw [List.dropWhile_cons_of_pos hc, pieces_cons_sep (hq c hc), ih]
    · rw [List.dropWhile_cons_of_neg hc]

theorem pieces_rdropWhile (hq : ∀ c, q c = true → p c = true) (l : List α) :
    pieces p (l.rdropWhile q) = pieces p l := by
  induction l using List.reverseRecOn with
  | nil => rfl
  | append_singleton l c ih =>
    by_cases hc : q c = true
    · rw [List.rdropWhile_concat_pos _ _ _ hc, pieces_concat_sep (hq c hc), ih]
    · rw [List.rdropWhile_concat_neg _ _ _ hc]

/-! ### What a piece is -/

/-- A list without a separator, or one cut at its first separator. -/
theorem cut_induction {motive : List α → Prop} (whole : ∀ w, (∀ c ∈ w, p c = false) → motive w)
    (cut : ∀ w c l, (∀ d ∈ w, p d = false) → p c = true → motive l → motive (w ++ c :: l)) (l : List α) : motive l := by
  induction hn : l.length using Nat.strong_induction_on generalizing l with
  | h n ih =>
    have hcut : (l.takeWhile fun c => !p c) ++ (l.dropWhile fun c => !p c) = l := List.takeWhile_append_dropWhile
    have hfirst : ∀ c ∈ l.takeWhile fun c => !p c, p c = false := fun c hc => by
      simpa using List.mem_takeWhile_imp hc
    cases hrest : l.dropWhile fun c => !p c with
    | nil =>
      rw [hrest, List.append_nil] at hcut
      rw [hcut] at hfirst
      exact whole l hfirst
    | cons sep rest =>
      have hsep : p sep = true := by
        have hhead := List.head?_dropWhile_not (fun c => !p c) l
        rw [hrest] at hhead
        simpa using hhead
      have hlen : rest.length < n := by
        rw [← hn, ← hcut, hrest, List.length_append, List.length_cons]
        omega
      rw [← hcut, hrest]
      exact cut _ sep rest hfirst hsep (ih _ hlen rest rfl)

theorem sep_of_mem_splitOnP (hw : w ∈ l.splitOnP p) : ∀ c ∈ w, p c = false := by
  induction l using cut_induction (p := p) with
  | whole l hl =>
    rw [List.splitOnP_eq_singleton hl, List.mem_singleton] at hw
    exact hw ▸ hl
  | cut v c l hv hc ih =>
    rw [List.splitOnP_append_cons_of_forall_mem hv c hc] at hw
    rcases List.mem_cons.1 hw with rfl | hw
    · exact hv
    · exact ih hw

theorem mem_pieces (hw : w ∈ pieces p l) : w ≠ [] ∧ ∀ c ∈ w, p c = false := by
  obtain ⟨hmem, hne⟩ := List.mem_filter.1 hw
  exact ⟨by simpa using hne, sep_of_mem_splitOnP hmem⟩

theorem pieces_of_forall (hne : w ≠ []) (h : ∀ c ∈ w, p c = false) : pieces p w = [w] := by
  rw [pieces, List.splitOnP_eq_singleton h]
  simp [hne]

/-- Lists that are pieces already are the pieces of their own. -/
theorem flatMap_pieces (ls : List (List α)) (h : ∀ w ∈ ls, w ≠ [] ∧ ∀ c ∈ w, p c = false) :
    ls.flatMap (pieces p) = ls := by
  induction ls with
  | nil => rfl
  | cons w ls ih =>
    obtain ⟨hne, hsep⟩ := h w (List.mem_cons_self ..)
    rw [List.flatMap_cons, pieces_of_forall hne hsep, ih fun v hv => h v (List.mem_cons_of_mem _ hv)]
    rfl

theorem flatMap_filter_pieces (p : α → Bool) (ls : List (List α)) :
    (ls.filter fun w => !w.isEmpty).flatMap (pieces p) = ls.flatMap (pieces p) := by
  induction ls with
  | nil => rfl
  | cons w ls ih =>
    cases w with
    | nil => simp [ih]
    | cons c w => simp [ih]

/-! ### Joining -/

theorem pieces_intercalate (hc : p c = true) (ls : List (List α)) :
    pieces p ([c].intercalate ls) = ls.flatMap (pieces p) := by
  induction ls with
  | nil => rfl
  | cons w ls ih =>
    cases ls with
    | nil => simp
    | cons v ls =>
      rw [List.intercalate_cons_cons, List.append_assoc, List.singleton_append, pieces_append_sep hc, ih]
      rfl

variable [BEq α] [LawfulBEq α]

/-- The pieces join to the list itself if nothing between two separators, before the first or after the last one is
empty, and only then. -/
theorem join_eq_iff (a : α) (l : List α) (hl : l ≠ []) :
    [a].intercalate (pieces (· == a) l) = l ↔ [] ∉ l.splitOn a := by
  constructor
  · intro h hmem
    have hne : pieces (· == a) l ≠ [] := by
      intro h0
      rw [h0] at h
      exact hl h.symm
    have hcut : ([a].intercalate (pieces (· == a) l)).splitOn a = pieces (· == a) l :=
      List.splitOn_intercalate a (fun w hw ha => by simpa using (mem_pieces hw).2 a ha) hne
    rw [h] at hcut
    rw [hcut] at hmem
    exact (mem_pieces hmem).1 rfl
  · intro h
    have hall : pieces (· == a) l = l.splitOn a := by
      refine List.filter_eq_self.2 fun w hw => ?_
      cases w with
      | nil => exact absurd hw h
      | cons _ _ => rfl
    rw [hall, List.intercalate_splitOn]

end Pieces
