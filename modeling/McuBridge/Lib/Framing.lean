import Mathlib.Data.List.Infix
import Mathlib.Data.List.TakeWhile

/-! # Frames between delimiters

A stream carries frames that end with a delimiter and do not contain it. `pieces` are the frames of a stretch of the
stream that are complete there; nothing between two delimiters is no frame. -/

namespace Framing
variable {α : Type*}

/-! ### Stretches without a delimiter -/

section
variable {d : α} {limit : Nat} {xs ys : List α}

/-- No stretch without a delimiter is longer than `limit`. -/
def Fits (d : α) (limit : Nat) (xs : List α) : Prop := ∀ ys, ys <:+: xs → d ∉ ys → ys.length ≤ limit

theorem Fits.of_isInfix (h : Fits d limit ys) (hxs : xs <:+: ys) : Fits d limit xs :=
  fun zs hzs hd => h zs (hzs.trans hxs) hd

theorem fits_of_length_le (h : xs.length ≤ limit) : Fits d limit xs := fun _ hys _ => hys.length_le.trans h

theorem infix_append_delimiter {zs : List α} (h : zs <:+: xs ++ d :: ys) (hd : d ∉ zs) : zs <:+: xs ∨ zs <:+: ys := by
  obtain ⟨pre, post, heq⟩ := h
  rw [List.append_assoc] at heq
  rcases List.append_eq_append_iff.1 heq with ⟨as, hxs, hrest⟩ | ⟨bs, rfl, hrest⟩
  · -- `zs` starts in `xs`; it cannot go on past the delimiter
    rcases List.append_eq_append_iff.1 hrest with ⟨cs, has, -⟩ | ⟨cs, hzs, htail⟩
    · exact .inl ⟨pre, cs, by rw [hxs, has, List.append_assoc]⟩
    · cases cs with
      | nil => exact .inl ⟨pre, [], by rw [hxs, hzs]; simp⟩
      | cons c cs =>
        obtain rfl := (List.cons.inj htail).1
        exact absurd (hzs ▸ List.mem_append_right _ (List.mem_cons_self ..)) hd
  · cases bs with
    | nil =>
      cases zs with
      | nil => exact .inl List.nil_infix
      | cons z zs =>
        obtain rfl := (List.cons.inj hrest).1
        exact absurd (List.mem_cons_self ..) hd
    | cons b bs => exact .inr ⟨bs, post, by rw [List.append_assoc]; exact ((List.cons.inj hrest).2).symm⟩

theorem Fits.append_delimiter (hxs : Fits d limit xs) (hys : Fits d limit ys) : Fits d limit (xs ++ d :: ys) :=
  fun zs hzs hd => (infix_append_delimiter hzs hd).elim (hxs zs · hd) (hys zs · hd)

theorem fits_frames {fs : List (List α)} (h : ∀ f ∈ fs, f.length ≤ limit) : Fits d limit (fs.flatMap (· ++ [d])) := by
  induction fs with
  | nil => exact fits_of_length_le (Nat.zero_le _)
  | cons f fs ih =>
    rw [List.flatMap_cons, List.append_assoc, List.singleton_append]
    exact (fits_of_length_le (h f (List.mem_cons_self ..))).append_delimiter
      (ih fun g hg => h g (List.mem_cons_of_mem _ hg))

end

/-! ### Pieces -/

section
variable [DecidableEq α] (d : α)

/-- The complete pieces after `cur`. -/
def scan : List α → List α → List (List α)
  | _, [] => []
  | cur, x :: xs =>
    if x = d then if cur = [] then scan [] xs else cur :: scan [] xs
    else scan (cur ++ [x]) xs

def pieces (xs : List α) : List (List α) := scan d [] xs

variable {d} {xs ys f : List α}

theorem scan_of_notMem (h : d ∉ xs) (cur : List α) : scan d cur xs = [] := by
  induction xs generalizing cur with
  | nil => rfl
  | cons x xs ih =>
    obtain ⟨hx, hxs⟩ := List.ne_and_not_mem_of_not_mem_cons h
    rw [scan, if_neg hx.symm]
    exact ih hxs _

theorem pieces_of_notMem (h : d ∉ xs) : pieces d xs = [] := scan_of_notMem h []

/-- What comes after a delimiter does not depend on what came before. -/
theorem scan_append_delimiter (cur xs ys : List α) :
    scan d cur (xs ++ d :: ys) = scan d cur (xs ++ [d]) ++ pieces d ys := by
  induction xs generalizing cur with
  | nil =>
    simp only [List.nil_append, scan, if_pos, pieces]
    split <;> rfl
  | cons x xs ih =>
    simp only [List.cons_append, scan]
    split
    · split
      · exact ih []
      · exact congrArg (cur :: ·) (ih [])
    · exact ih _

theorem pieces_append_delimiter (xs ys : List α) :
    pieces d (xs ++ d :: ys) = pieces d (xs ++ [d]) ++ pieces d ys := scan_append_delimiter [] xs ys

theorem scan_frame (h : d ∉ f) (cur : List α) : scan d cur (f ++ [d]) = if cur ++ f = [] then [] else [cur ++ f] := by
  induction f generalizing cur with
  | nil => simp [scan]
  | cons x f ih =>
    obtain ⟨hx, hf⟩ := List.ne_and_not_mem_of_not_mem_cons h
    rw [List.cons_append, scan, if_neg hx.symm, ih hf, List.append_assoc, List.singleton_append]

/-- One frame. -/
theorem pieces_frame (h : d ∉ f) : pieces d (f ++ [d]) = if f = [] then [] else [f] := scan_frame h []

theorem notMem_takeWhile (xs : List α) : d ∉ xs.takeWhile (· ≠ d) := by
  intro h
  simpa using List.mem_takeWhile_imp h

/-- A stretch up to its first delimiter. -/
theorem eq_takeWhile_append (h : (xs.takeWhile (· ≠ d)).length < xs.length) :
    ∃ ys, xs = xs.takeWhile (· ≠ d) ++ d :: ys := by
  induction xs with
  | nil => exact absurd h (Nat.lt_irrefl _)
  | cons x xs ih =>
    by_cases hx : x = d
    · exact ⟨xs, by simp [hx]⟩
    · rw [List.takeWhile_cons_of_pos (by simpa using hx)] at h ⊢
      obtain ⟨ys, hys⟩ := ih (Nat.lt_of_succ_lt_succ h)
      exact ⟨ys, congrArg (x :: ·) hys⟩

theorem pieces_frames {fs : List (List α)} (h : ∀ f ∈ fs, f ≠ [] ∧ d ∉ f) :
    pieces d (fs.flatMap (· ++ [d])) = fs := by
  induction fs with
  | nil => rfl
  | cons f fs ih =>
    obtain ⟨hne, hd⟩ := h f (List.mem_cons_self ..)
    rw [List.flatMap_cons, List.append_assoc, List.singleton_append, pieces_append_delimiter, pieces_frame hd,
      if_neg hne, ih fun g hg => h g (List.mem_cons_of_mem _ hg), List.singleton_append]

theorem scan_isPrefix (cur : List α) (h : xs <+: ys) : scan d cur xs <+: scan d cur ys := by
  induction xs generalizing cur ys with
  | nil => exact List.nil_prefix
  | cons x xs ih =>
    cases ys with
    | nil => cases List.prefix_nil.1 h
    | cons y ys =>
      obtain ⟨rfl, hrest⟩ := List.cons_prefix_cons.1 h
      simp only [scan]
      split
      · split
        · exact ih [] hrest
        · exact List.cons_prefix_cons.2 ⟨rfl, ih [] hrest⟩
      · exact ih _ hrest

/-- A longer stretch has the same pieces, and more. -/
theorem pieces_isPrefix (h : xs <+: ys) : pieces d xs <+: pieces d ys := scan_isPrefix [] h

end

end Framing
