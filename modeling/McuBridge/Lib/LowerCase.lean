import Mathlib
import McuBridge.Lib.Pieces

/-! # Lower case

Lower-casing a text by the tables of a character database. Every character is replaced on its own but for the Greek
capital sigma, which becomes a final sigma where a cased character stands before it and none after it; characters that
the database ignores are passed over. A character of no case ends the context (`lowerText_append_sep`). -/

/-- The tables: the lower-case form of a character, and the properties `Cased` and `Case_Ignorable`. -/
structure CaseTable where
  lower : Char → List Char
  cased : Char → Bool
  ignorable : Char → Bool

namespace CaseTable

def capitalSigma : Char := Char.ofNat 0x3A3
def smallSigma : Char := Char.ofNat 0x3C3
def finalSigma : Char := Char.ofNat 0x3C2

variable (U : CaseTable)

/-- The first character that is not passed over is cased. -/
def near (l : List Char) : Bool := (l.dropWhile U.ignorable).head?.any U.cased

/-- Of the text before the sigma the last character comes first. -/
def isFinal (before after : List Char) : Bool := U.near before && !U.near after

def lowerFrom (before : List Char) : List Char → List Char
  | [] => []
  | c :: after =>
    (if c = capitalSigma then [if U.isFinal before after then finalSigma else smallSigma] else U.lower c) ++
      lowerFrom (c :: before) after

def lowerText (s : List Char) : List Char := U.lowerFrom [] s

/-- What the database says of every character, and of the ASCII letters. -/
structure Documented : Prop where
  lower_lower : ∀ c, ∀ d ∈ U.lower c, U.lower d = [d]
  lower_ne_sigma : ∀ c, c ≠ capitalSigma → capitalSigma ∉ U.lower c
  lower_ne_nil : ∀ c, U.lower c ≠ []
  small : U.lower smallSigma = [smallSigma]
  final : U.lower finalSigma = [finalSigma]
  ascii : ∀ c, c.toNat < 128 → U.lower c = [c.toLower]
  letter : ∀ c, c.isAlpha = true → U.cased c = true ∧ U.ignorable c = false

/-- A character of no case that is not passed over. -/
structure Neutral (c : Char) : Prop where
  ne_sigma : c ≠ capitalSigma
  lower_eq : U.lower c = [c]
  cased : U.cased c = false
  ignorable : U.ignorable c = false

/-- Characters of no case, which are no other character's lower-case form. -/
structure Separators (sep : Char → Bool) : Prop where
  neutral : ∀ c, sep c = true → U.Neutral c
  of_lower : ∀ c, ∀ d ∈ U.lower c, sep d = true → sep c = true
  small : sep smallSigma = false
  final : sep finalSigma = false

variable {U} {s x y before : List Char} {c d : Char}

/-! ### Lower case is stable -/

theorem mem_lowerFrom (h : d ∈ U.lowerFrom before s) :
    (∃ c ∈ s, c ≠ capitalSigma ∧ d ∈ U.lower c) ∨ d = smallSigma ∨ d = finalSigma := by
  induction s generalizing before with
  | nil => cases h
  | cons c after ih =>
    rcases List.mem_append.1 h with hd | hd
    · split at hd
      case isTrue =>
        rw [List.mem_singleton] at hd
        rw [hd]
        split
        · exact .inr (.inr rfl)
        · exact .inr (.inl rfl)
      case isFalse hc => exact .inl ⟨c, List.mem_cons_self, hc, hd⟩
    · exact (ih hd).imp_left fun ⟨e, he, hmem⟩ => ⟨e, List.mem_cons_of_mem _ he, hmem⟩

theorem Documented.lower_fixed (hU : U.Documented) (h : d ∈ U.lowerFrom before s) :
    d ≠ capitalSigma ∧ U.lower d = [d] := by
  rcases mem_lowerFrom h with ⟨c, -, hc, hd⟩ | rfl | rfl
  · exact ⟨fun hsigma => hU.lower_ne_sigma c hc (hsigma ▸ hd), hU.lower_lower c d hd⟩
  · exact ⟨by decide, hU.small⟩
  · exact ⟨by decide, hU.final⟩

theorem lowerFrom_of_fixed (h : ∀ d ∈ s, d ≠ capitalSigma ∧ U.lower d = [d]) : U.lowerFrom before s = s := by
  induction s generalizing before with
  | nil => rfl
  | cons c after ih =>
    obtain ⟨hne, hfixed⟩ := h c List.mem_cons_self
    rw [lowerFrom, if_neg hne, hfixed, ih fun d hd => h d (List.mem_cons_of_mem _ hd)]
    rfl

theorem Documented.lowerText_lowerText (hU : U.Documented) (s : List Char) :
    U.lowerText (U.lowerText s) = U.lowerText s :=
  lowerFrom_of_fixed fun _ hd => hU.lower_fixed hd

theorem Documented.lowerText_eq_nil (hU : U.Documented) : U.lowerText s = [] ↔ s = [] := by
  cases s with
  | nil => exact iff_of_true rfl rfl
  | cons c s =>
    refine iff_of_false (fun h => ?_) (List.cons_ne_nil _ _)
    obtain ⟨hc, -⟩ := List.append_eq_nil_iff.1 h
    split at hc
    · cases hc
    · exact hU.lower_ne_nil c hc

/-! ### Separators -/

theorem near_append (hc : U.Neutral c) (x y : List Char) : U.near (x ++ c :: y) = U.near x := by
  unfold near
  induction x with
  | nil =>
    rw [List.nil_append, List.dropWhile_cons_of_neg (by simp [hc.ignorable])]
    simp [hc.cased]
  | cons d x ih =>
    by_cases hd : U.ignorable d = true
    · rw [List.cons_append, List.dropWhile_cons_of_pos hd, List.dropWhile_cons_of_pos hd]
      exact ih
    · rw [List.cons_append, List.dropWhile_cons_of_neg hd, List.dropWhile_cons_of_neg hd]
      rfl

/-- What stands before a separator does not matter after it. -/
theorem lowerFrom_before (hc : U.Neutral c) (x before : List Char) :
    U.lowerFrom (x ++ c :: before) s = U.lowerFrom x s := by
  induction s generalizing x with
  | nil => rfl
  | cons d s ih =>
    rw [lowerFrom, lowerFrom, isFinal, isFinal, near_append hc, ← List.cons_append, ih]

theorem lowerFrom_append (hc : U.Neutral c) (before x y : List Char) :
    U.lowerFrom before (x ++ c :: y) = U.lowerFrom before x ++ c :: U.lowerFrom [] y := by
  induction x generalizing before with
  | nil =>
    show (if c = capitalSigma then _ else U.lower c) ++ U.lowerFrom (c :: before) y = c :: U.lowerFrom [] y
    rw [if_neg hc.ne_sigma, hc.lower_eq]
    exact congrArg (c :: ·) (lowerFrom_before hc [] before)
  | cons d x ih =>
    rw [List.cons_append, lowerFrom, lowerFrom, isFinal, isFinal, near_append hc, ih, List.append_assoc]

theorem lowerText_append_sep (hc : U.Neutral c) (x y : List Char) :
    U.lowerText (x ++ c :: y) = U.lowerText x ++ c :: U.lowerText y :=
  lowerFrom_append hc [] x y

theorem Separators.lowerText {sep : Char → Bool} (hsep : U.Separators sep) (h : ∀ c ∈ s, sep c = false) :
    ∀ d ∈ U.lowerText s, sep d = false := by
  intro d hd
  rcases mem_lowerFrom hd with ⟨c, hc, -, hlower⟩ | rfl | rfl
  · by_contra hsepd
    have hsepc := hsep.of_lower c d hlower (by simpa using hsepd)
    rw [h c hc] at hsepc
    cases hsepc
  · exact hsep.small
  · exact hsep.final

theorem Separators.pieces_word {sep : Char → Bool} (hsep : U.Separators sep) (hU : U.Documented)
    (hw : ∀ c ∈ x, sep c = false) : Pieces.pieces sep (U.lowerText x) = (Pieces.pieces sep x).map U.lowerText := by
  by_cases hne : x = []
  · rw [hne]
    rfl
  · have hlower : U.lowerText x ≠ [] := fun h => hne (hU.lowerText_eq_nil.1 h)
    rw [Pieces.pieces_of_forall hne hw, Pieces.pieces_of_forall hlower (hsep.lowerText hw)]
    rfl

/-- The pieces of the lower-case text are the pieces in lower case. -/
theorem Separators.pieces_lowerText {sep : Char → Bool} (hsep : U.Separators sep) (hU : U.Documented) (s : List Char) :
    Pieces.pieces sep (U.lowerText s) = (Pieces.pieces sep s).map U.lowerText := by
  induction s using Pieces.cut_induction (p := sep) with
  | whole w hw => exact hsep.pieces_word hU hw
  | cut w c l hw hc ih =>
    rw [lowerText_append_sep (hsep.neutral c hc), Pieces.pieces_append_sep hc, Pieces.pieces_append_sep hc,
      List.map_append, hsep.pieces_word hU hw, ih]

/-! ### ASCII letters -/

structure Alike (U : CaseTable) (c d : Char) : Prop where
  sigma : c = capitalSigma ↔ d = capitalSigma
  lower : U.lower c = U.lower d
  cased : U.cased c = U.cased d
  ignorable : U.ignorable c = U.ignorable d

theorem near_alike (h : List.Forall₂ U.Alike x y) : U.near x = U.near y := by
  unfold near
  induction h with
  | nil => rfl
  | @cons c d x y hcd _ ih =>
    by_cases hd : U.ignorable d = true
    · rw [List.dropWhile_cons_of_pos (hcd.ignorable.trans hd), List.dropWhile_cons_of_pos hd]
      exact ih
    · rw [List.dropWhile_cons_of_neg (hcd.ignorable ▸ hd), List.dropWhile_cons_of_neg hd]
      exact hcd.cased

theorem lowerFrom_alike {before' : List Char} (hbefore : List.Forall₂ U.Alike before before')
    (h : List.Forall₂ U.Alike x y) : U.lowerFrom before x = U.lowerFrom before' y := by
  induction h generalizing before before' with
  | nil => rfl
  | @cons c d x y hcd hrest ih =>
    rw [lowerFrom, lowerFrom, isFinal, isFinal, near_alike hbefore, near_alike hrest, hcd.lower,
      ih (.cons hcd hbefore), if_congr hcd.sigma rfl rfl]

theorem exists_of_isUpper (h : c.isUpper = true) : ∃ i < 26, c = Char.ofNat (65 + i) := by
  obtain ⟨hA, hZ⟩ : 65 ≤ c.toNat ∧ c.toNat ≤ 90 := by
    simpa [Char.isUpper, UInt32.le_iff_toNat_le] using h
  refine ⟨c.toNat - 65, by omega, ?_⟩
  rw [show 65 + (c.toNat - 65) = c.toNat by omega, Char.ofNat_toNat]

theorem isAlpha_iff : c.isAlpha = true ↔ 65 ≤ c.toNat ∧ c.toNat ≤ 90 ∨ 97 ≤ c.toNat ∧ c.toNat ≤ 122 := by
  simp [Char.isAlpha, Char.isUpper, Char.isLower, UInt32.le_iff_toNat_le]

theorem isAlpha_of_isUpper (h : c.isUpper = true) : c.isAlpha = true := by
  simp [Char.isAlpha, h]

/-- What does not tell the capital letters from the small ones does not tell a character from its lower-case form. -/
theorem apply_toLower {β : Type*} (f : Char → β)
    (h : ∀ i < 26, f (Char.ofNat (65 + i)).toLower = f (Char.ofNat (65 + i))) (c : Char) : f c.toLower = f c := by
  by_cases hc : c.isUpper = true
  · obtain ⟨i, hi, rfl⟩ := exists_of_isUpper hc
    exact h i hi
  · rw [Char.toLower_eq_of_not_isUpper hc]

theorem Documented.alike_toLower (hU : U.Documented) (c : Char) : U.Alike c c.toLower := by
  by_cases h : c.isUpper = true
  · have hascii : ∀ d : Char, d.isAlpha = true → d.toNat < 128 ∧ d ≠ capitalSigma := by
      intro d hd
      rw [isAlpha_iff] at hd
      refine ⟨by omega, ?_⟩
      rintro rfl
      revert hd
      decide
    have halpha := isAlpha_of_isUpper h
    have halpha' : c.toLower.isAlpha = true := by rw [Char.isAlpha_toLower_eq_isAlpha, halpha]
    obtain ⟨hlt, hne⟩ := hascii c halpha
    obtain ⟨hlt', hne'⟩ := hascii c.toLower halpha'
    refine ⟨iff_of_false hne hne', ?_, ?_, ?_⟩
    · rw [hU.ascii _ hlt, hU.ascii _ hlt', Char.toLower_toLower_eq_toLower]
    · rw [(hU.letter _ halpha).1, (hU.letter _ halpha').1]
    · rw [(hU.letter _ halpha).2, (hU.letter _ halpha').2]
  · rw [Char.toLower_eq_of_not_isUpper h]
    exact ⟨Iff.rfl, rfl, rfl, rfl⟩

/-- Texts that differ in the case of ASCII letters only. -/
theorem Documented.lowerText_eq (hU : U.Documented) (h : x.map Char.toLower = y.map Char.toLower) :
    U.lowerText x = U.lowerText y := by
  have htoLower (x : List Char) : U.lowerText x = U.lowerText (x.map Char.toLower) := by
    refine lowerFrom_alike .nil ?_
    rw [List.forall₂_map_right_iff, List.forall₂_same]
    exact fun c _ => hU.alike_toLower c
  rw [htoLower x, h, ← htoLower y]

/-! ### The tables of ASCII -/

def ascii : CaseTable where
  lower c := [c.toLower]
  cased := Char.isAlpha
  ignorable c := [0x27, 0x2E, 0x3A, 0x5E, 0x60].contains c.toNat

example : ascii.lowerText ['A', capitalSigma, ' ', 'A', capitalSigma, 'B'] =
    ['a', finalSigma, ' ', 'a', smallSigma, 'b'] := by decide

theorem ascii_documented : ascii.Documented where
  lower_lower c d hd := by
    obtain rfl : d = c.toLower := List.mem_singleton.1 hd
    exact apply_toLower (fun c => [c.toLower]) (by decide) c
  lower_ne_sigma c hc hd := by
    have hlower : capitalSigma = c.toLower := List.mem_singleton.1 hd
    have hsame := apply_toLower (fun c => decide (c = capitalSigma)) (by decide) c
    simp [← hlower, hc] at hsame
  lower_ne_nil c := List.cons_ne_nil _ _
  small := by decide
  final := by decide
  ascii c _ := rfl
  letter c h := by
    refine ⟨h, ?_⟩
    have hnum := isAlpha_iff.1 h
    simp only [ascii, List.contains_cons, List.contains_nil, Bool.or_false, Bool.or_eq_false_iff, beq_eq_false_iff_ne]
    omega

end CaseTable
