import McuBridge.Daemon.Commands
import McuBridge.Daemon.Config

/-! # Which program a command names (`protocol/structures.py`, `services/runtime.py`)

The allow-list is held against the first piece of `str.split`, `_run_process` executes the first word of
`shlex.split`. The two agree exactly on the commands that `plainHead` describes. -/

namespace McuBridge
namespace Daemon

/-! ### The policy -/

/-- The policy that `create_allowed_policy` makes of the entries. -/
def CommandPolicy.create (py : PyText) (fnmatch : Text → Text → Bool) (entries : List Text) : CommandPolicy where
  lower := py.lower
  fnmatch := fnmatch
  entries := createAllowedPolicy py isPySpace entries

/-- The name matches an entry. -/
def CommandPolicy.Lists (p : CommandPolicy) (program : Text) : Prop :=
  p.entries.contains allowedCommandWildcard = true ∨ ∃ entry ∈ p.entries, p.fnmatch (p.lower program) entry = true

/-- The program that is executed is on the list, and is the one that was checked. -/
structure CommandPolicy.Executes (p : CommandPolicy) (command : Text) (args : List Text) : Prop where
  listed : ∃ program, args.head? = some program ∧ p.Lists program
  checked : args.head? = (commandPieces command).head?

/-! ### The first word -/

/-- A character that the lexer takes as it is. -/
def isPlainChar (c : Char) : Bool := !Lexer.isQuote c && c != '\\'

/-- The white space before the first word is white space to the lexer, the word has no quote and no backslash, and the
command ends with it or goes on with white space of the lexer: a space, a tab or a line break. -/
def plainHead (command : Text) : Bool :=
  let body := command.dropWhile isPySpace
  (command.takeWhile isPySpace).all Lexer.isSpace && (body.takeWhile fun c => !isPySpace c).all isPlainChar &&
    (body.dropWhile fun c => !isPySpace c).head?.all Lexer.isSpace

/-- A command cut after its leading white space and after its first word. -/
structure Cut (command before word after : Text) : Prop where
  parts : command = before ++ (word ++ after)
  nothing : word = [] → after = []
  before : ∀ c ∈ before, isPySpace c = true
  word : ∀ c ∈ word, isPySpace c = false
  after : ∀ c, after.head? = some c → isPySpace c = true

theorem cut_command (command : Text) :
    Cut command (command.takeWhile isPySpace) ((command.dropWhile isPySpace).takeWhile fun c => !isPySpace c)
      ((command.dropWhile isPySpace).dropWhile fun c => !isPySpace c) := by
  refine ⟨?_, fun hnil => ?_, fun c hc => List.mem_takeWhile_imp hc, fun c hc => ?_, fun c hc => ?_⟩
  · rw [List.takeWhile_append_dropWhile, List.takeWhile_append_dropWhile]
  · have hhead := List.head?_dropWhile_not isPySpace command
    generalize command.dropWhile isPySpace = body at hnil hhead ⊢
    cases body with
    | nil => rfl
    | cons c body =>
      have hc : isPySpace c = false := by simpa using hhead
      rw [List.takeWhile_cons, if_pos (by simp [hc])] at hnil
      cases hnil
  · simpa using List.mem_takeWhile_imp hc
  · have hhead := List.head?_dropWhile_not (fun c => !isPySpace c) (command.dropWhile isPySpace)
    rw [hc] at hhead
    simpa using hhead

variable {command before word after : Text}

theorem splitOnP_word (hword : ∀ c ∈ word, isPySpace c = false)
    (hafter : ∀ c, after.head? = some c → isPySpace c = true) :
    ∃ rest, (word ++ after).splitOnP isPySpace = word :: rest := by
  induction word with
  | nil =>
    cases after with
    | nil => exact ⟨[], rfl⟩
    | cons c after =>
      refine ⟨after.splitOnP isPySpace, ?_⟩
      rw [List.nil_append, List.splitOnP_cons_eq_if_modifyHead, if_pos (hafter c rfl)]
  | cons c word ih =>
    obtain ⟨rest, hrest⟩ := ih fun d hd => hword d (List.mem_cons_of_mem _ hd)
    refine ⟨rest, ?_⟩
    have hc := hword c List.mem_cons_self
    rw [List.cons_append, List.splitOnP_cons_eq_if_modifyHead, if_neg (by simp [hc]), hrest]
    rfl

theorem commandPieces_append (hbefore : ∀ c ∈ before, isPySpace c = true) (l : Text) :
    commandPieces (before ++ l) = commandPieces l := by
  induction before with
  | nil => rfl
  | cons c before ih =>
    have hrest := ih fun d hd => hbefore d (List.mem_cons_of_mem _ hd)
    unfold commandPieces at hrest ⊢
    rw [List.cons_append, List.splitOnP_cons_eq_if_modifyHead, if_pos (hbefore c List.mem_cons_self),
      List.filter_cons_of_neg (by simp)]
    exact hrest

theorem Cut.pieces (h : Cut command before word after) (hne : word ≠ []) :
    (commandPieces command).head? = some word := by
  obtain ⟨rest, hrest⟩ := splitOnP_word h.word h.after
  rw [h.parts, commandPieces_append h.before]
  unfold commandPieces
  rw [hrest, List.filter_cons_of_pos (by simpa using hne)]
  rfl

theorem Cut.pieces_eq_nil (h : Cut command before [] after) : commandPieces command = [] := by
  rw [h.parts, h.nothing rfl]
  exact commandPieces_eq_nil fun c hc => h.before c (by simpa using hc)

namespace Lexer
variable {s : Lexer} {c : Char}

theorem isSpace_eq_false (hc : isPySpace c = false) : isSpace c = false := by
  by_contra hspace
  rw [isPySpace_of_isSpace (by simpa using hspace)] at hc
  cases hc

theorem plain_of_isPySpace (hc : isPySpace c = true) : isQuote c = false ∧ c ≠ '\\' := by
  constructor
  · by_contra hquote
    simp only [Bool.not_eq_false, isQuote, Bool.or_eq_true, beq_iff_eq] at hquote
    rcases hquote with rfl | rfl <;> exact absurd hc (by decide)
  · rintro rfl
    exact absurd hc (by decide)

/-! ### Words stay -/

theorem emit_words_eq (s : Lexer) : s.emit.words = s.words ∨ s.emit.words = s.words ++ [s.token] := by
  unfold emit
  split
  · exact .inr rfl
  · exact .inl rfl

theorem step_words (s : Lexer) (c : Char) : (s.step c).words = s.words ∨ (s.step c).words = s.words ++ [s.token] := by
  unfold step
  cases s.state with
  | space => dsimp only; split_ifs <;> exact .inl rfl
  | quotation q => dsimp only; split_ifs <;> exact .inl rfl
  | escaped within => cases within <;> exact .inl rfl
  | word =>
    dsimp only
    split_ifs
    · exact s.emit_words_eq
    · exact .inl rfl
    · exact .inl rfl
    · exact .inl rfl

theorem head_of_words {words words' : List Text} {token t : Text} (ht : words.head? = some t)
    (h : words' = words ∨ words' = words ++ [token]) : words'.head? = some t := by
  rcases h with rfl | rfl
  · exact ht
  · rw [List.head?_append, ht]
    rfl

theorem foldl_head {t : Text} (ht : s.words.head? = some t) (l : Text) : (l.foldl step s).words.head? = some t := by
  induction l generalizing s with
  | nil => exact ht
  | cons c l ih => exact ih (head_of_words ht (s.step_words c))

theorem finish_head {t : Text} (ht : s.words.head? = some t) {args : List Text} (hargs : s.finish = some args) :
    args.head? = some t := by
  unfold finish at hargs
  split at hargs <;> cases hargs
  · exact ht
  · exact head_of_words ht s.emit_words_eq

/-! ### A first word that is not the one that was checked -/

/-- The first word is another one than `w`, or has white space in it. -/
def Stray (w : Text) (s : Lexer) : Prop :=
  (∃ t, s.words.head? = some t ∧ t ≠ w) ∨ s.words = [] ∧ s.state ≠ .space ∧ ∃ x ∈ s.token, isPySpace x = true

theorem ne_of_space {w t : Text} (hw : ∀ x ∈ w, isPySpace x = false) (ht : ∃ x ∈ t, isPySpace x = true) : t ≠ w := by
  rintro rfl
  obtain ⟨x, hx, hspace⟩ := ht
  rw [hw x hx] at hspace
  cases hspace

/-- At the end of a word the token becomes the first word. -/
theorem emit_first (hwords : s.words = []) (htoken : s.token ≠ [] ∨ s.quoted = true) :
    s.emit.words.head? = some s.token := by
  unfold emit
  rw [if_pos (by rcases htoken with h | h <;> simp [h]), hwords]
  rfl

theorem Stray.step {w : Text} (hw : ∀ x ∈ w, isPySpace x = false) (h : s.Stray w) (c : Char) :
    (s.step c).Stray w := by
  rcases h with ⟨t, ht, hne⟩ | ⟨hwords, hstate, htoken⟩
  · exact .inl ⟨t, head_of_words ht (s.step_words c), hne⟩
  · have hmore (tail : Text) : ∃ x ∈ s.token ++ tail, isPySpace x = true :=
      htoken.imp fun x hx => ⟨List.mem_append_left _ hx.1, hx.2⟩
    have hne : s.token ≠ [] := by
      rintro hnil
      simp [hnil] at htoken
    unfold Lexer.step
    cases hs : s.state with
    | space => exact absurd hs hstate
    | quotation q =>
      dsimp only
      split_ifs
      · exact .inr ⟨hwords, by simp, htoken⟩
      · exact .inr ⟨hwords, by simp, htoken⟩
      · exact .inr ⟨hwords, by simp, hmore _⟩
    | escaped within =>
      cases within with
      | none => exact .inr ⟨hwords, by simp, hmore _⟩
      | some q =>
        dsimp only
        split_ifs
        · exact .inr ⟨hwords, by simp, hmore _⟩
        · exact .inr ⟨hwords, by simp, hmore _⟩
    | word =>
      dsimp only
      split_ifs
      · exact .inl ⟨s.token, emit_first hwords (.inl hne), ne_of_space hw htoken⟩
      · exact .inr ⟨hwords, by simp, htoken⟩
      · exact .inr ⟨hwords, by simp, htoken⟩
      · exact .inr ⟨hwords, by simp, hmore _⟩

theorem Stray.foldl {w : Text} (hw : ∀ x ∈ w, isPySpace x = false) (h : s.Stray w) (l : Text) :
    (l.foldl Lexer.step s).Stray w := by
  induction l generalizing s with
  | nil => exact h
  | cons c l ih => exact ih (h.step hw c)

theorem Stray.finish {w : Text} (hw : ∀ x ∈ w, isPySpace x = false) (h : s.Stray w) {args : List Text}
    (hargs : s.finish = some args) : args.head? ≠ some w := by
  rcases h with ⟨t, ht, hne⟩ | ⟨hwords, hstate, htoken⟩
  · rw [finish_head ht hargs]
    simpa using hne
  · have hne : s.token ≠ [] := by
      rintro hnil
      simp [hnil] at htoken
    unfold Lexer.finish at hargs
    split at hargs
    case h_1 hspace => exact absurd hspace hstate
    case h_2 =>
      cases hargs
      rw [emit_first hwords (.inl hne)]
      simpa using ne_of_space hw htoken
    all_goals cases hargs

/-! ### White space that only `str.split` knows -/

/-- A quotation is one of the two quotes. -/
def Quoting (s : Lexer) : Prop := ∀ q, s.state = .quotation q ∨ s.state = .escaped (some q) → isQuote q = true

theorem step_quoting (h : s.Quoting) (c : Char) : (s.step c).Quoting := by
  have hother {t : Lexer} (h₁ : ∀ q, t.state ≠ .quotation q) (h₂ : ∀ q, t.state ≠ .escaped (some q)) : t.Quoting :=
    fun q hq => hq.elim (fun heq => absurd heq (h₁ q)) fun heq => absurd heq (h₂ q)
  unfold step
  cases hs : s.state with
  | space =>
    dsimp only
    split_ifs with _ _ hquote
    · exact h
    · exact hother (by simp) (by simp)
    · rintro q (⟨⟨⟩⟩ | ⟨⟨⟩⟩)
      exact hquote
    · exact hother (by simp) (by simp)
  | quotation q =>
    have hq := h q (.inl hs)
    dsimp only
    split_ifs
    · exact hother (by simp) (by simp)
    · rintro q' (⟨⟨⟩⟩ | ⟨⟨⟩⟩)
      exact hq
    · rintro q' (⟨⟨⟩⟩ | ⟨⟨⟩⟩)
      exact hq
  | escaped within =>
    cases within with
    | none => exact hother (by simp) (by simp)
    | some q =>
      rintro q' (⟨⟨⟩⟩ | ⟨⟨⟩⟩)
      exact h q (.inr hs)
  | word =>
    dsimp only
    split_ifs with _ hquote
    · exact hother (by simp [emit_state]) (by simp [emit_state])
    · rintro q (⟨⟨⟩⟩ | ⟨⟨⟩⟩)
      exact hquote
    · exact hother (by simp) (by simp)
    · exact hother (by simp) (by simp)

theorem foldl_quoting (h : s.Quoting) (l : Text) : (l.foldl step s).Quoting := by
  induction l generalizing s with
  | nil => exact h
  | cons c l ih => exact ih (step_quoting h c)

/-- White space that does not end the word goes into it. -/
theorem step_stray {w : Text} (hquoting : s.Quoting) (hwords : s.words = []) (hc : isPySpace c = true)
    (hin : isSpace c = true → s.state ≠ .space ∧ s.state ≠ .word) : (s.step c).Stray w := by
  obtain ⟨hquote, hback⟩ := plain_of_isPySpace hc
  have hlast (head : Text) : ∃ x ∈ head ++ [c], isPySpace x = true := ⟨c, by simp, hc⟩
  unfold step
  cases hs : s.state with
  | space =>
    dsimp only
    rw [if_neg fun h => (hin h).1 hs, if_neg hback, if_neg (by simp [hquote])]
    exact .inr ⟨hwords, by simp, hlast []⟩
  | quotation q =>
    have hq : c ≠ q := by
      rintro rfl
      rw [hquoting c (.inl hs)] at hquote
      cases hquote
    dsimp only
    rw [if_neg hq, if_neg fun h => hback h.1]
    exact .inr ⟨hwords, by simp, hlast _⟩
  | escaped within =>
    cases within with
    | none => exact .inr ⟨hwords, by simp, hlast _⟩
    | some q =>
      dsimp only
      split_ifs
      · exact .inr ⟨hwords, by simp, c, by simp, hc⟩
      · exact .inr ⟨hwords, by simp, hlast _⟩
  | word =>
    dsimp only
    rw [if_neg fun h => (hin h).2 hs, if_neg (by simp [hquote]), if_neg hback]
    exact .inr ⟨hwords, by simp, hlast _⟩

/-- White space before the word: the lexer skips its own, and takes any other for the start of a word. -/
theorem foldl_before {w : Text} (hw : ∀ x ∈ w, isPySpace x = false) (hbefore : ∀ c ∈ before, isPySpace c = true) :
    before.foldl step init = init ∧ before.all isSpace = true ∨
      (before.foldl step init).Stray w ∧ before.all isSpace = false := by
  induction before with
  | nil => exact .inl ⟨rfl, rfl⟩
  | cons c before ih =>
    have hc := hbefore c List.mem_cons_self
    by_cases hspace : isSpace c = true
    · have hskip : step init c = init := if_pos hspace
      rw [List.foldl_cons, hskip, List.all_cons, hspace, Bool.true_and]
      exact ih fun d hd => hbefore d (List.mem_cons_of_mem _ hd)
    · refine .inr ⟨?_, by simp [hspace]⟩
      have hquoting : init.Quoting := by rintro q (⟨⟨⟩⟩ | ⟨⟨⟩⟩)
      exact (step_stray hquoting rfl hc fun h => absurd h hspace).foldl hw before

/-! ### Quotes and backslashes in the word -/

/-- The length of the token, with the backslash that may yet go into it. -/
def size (s : Lexer) : Nat :=
  s.token.length + match s.state with
    | .escaped (some _) => 1
    | _ => 0

/-- A character of the word adds at most itself to the token. -/
theorem step_size (hc : isSpace c = false) :
    (s.step c).words = s.words ∧ (s.step c).state ≠ .space ∧ (s.step c).size ≤ s.size + 1 := by
  unfold step
  cases hs : s.state with
  | space =>
    dsimp only
    rw [if_neg (by simp [hc])]
    split_ifs <;> simp [size, hs]
  | quotation q =>
    dsimp only
    split_ifs <;> simp [size, hs]
  | escaped within =>
    cases within with
    | none => simp [size, hs]
    | some q =>
      dsimp only
      split_ifs <;> simp [size, hs]
  | word =>
    dsimp only
    rw [if_neg (by simp [hc])]
    split_ifs <;> simp [size, hs]

/-- Outside quotations a quote or a backslash adds nothing. -/
theorem step_special (hs : s.state = .space ∨ s.state = .word) (hc : isSpace c = false)
    (hspecial : isPlainChar c = false) :
    (s.step c).size ≤ s.size := by
  have hor : c = '\\' ∨ isQuote c = true := by
    by_contra hno
    push Not at hno
    simp [isPlainChar, hno.1, hno.2] at hspecial
  unfold step
  rcases hs with hs | hs
  · rw [hs]
    dsimp only
    rw [if_neg (by simp [hc])]
    split_ifs with hback hquote
    · simp [size, hs]
    · simp [size, hs]
    · exact absurd (hor.resolve_left hback) hquote
  · rw [hs]
    dsimp only
    rw [if_neg (by simp [hc])]
    split_ifs with hquote hback
    · simp [size, hs]
    · simp [size, hs]
    · exact absurd (hor.resolve_right hquote) hback

theorem foldl_size {l : Text} (hl : ∀ x ∈ l, isSpace x = false) :
    (l.foldl step s).words = s.words ∧ (s.state ≠ .space ∨ l ≠ [] → (l.foldl step s).state ≠ .space) ∧
      (l.foldl step s).size ≤ s.size + l.length := by
  induction l generalizing s with
  | nil => exact ⟨rfl, fun h => h.resolve_right (by simp), Nat.le_refl _⟩
  | cons c l ih =>
    obtain ⟨hwords, hstate, hsize⟩ := step_size (s := s) (hl c List.mem_cons_self)
    obtain ⟨hwords', hstate', hsize'⟩ := ih (s := s.step c) fun x hx => hl x (List.mem_cons_of_mem _ hx)
    refine ⟨hwords'.trans hwords, fun _ => hstate' (.inl hstate), ?_⟩
    simp only [List.foldl_cons, List.length_cons]
    omega

theorem step_plain (hs : s.state = .space ∧ s.token = [] ∨ s.state = .word) (hc : isSpace c = false)
    (hplain : isPlainChar c = true) : s.step c = { s with state := .word, token := s.token ++ [c] } := by
  obtain ⟨hquote, hback⟩ : isQuote c = false ∧ c ≠ '\\' := by simpa [isPlainChar] using hplain
  unfold step
  rcases hs with ⟨hs, htoken⟩ | hs
  · rw [hs]
    dsimp only
    rw [if_neg (by simp [hc]), if_neg hback, if_neg (by simp [hquote]), htoken]
    rfl
  · rw [hs]
    dsimp only
    rw [if_neg (by simp [hc]), if_neg (by simp [hquote]), if_neg hback]

theorem foldl_word (hs : s.state = .word) {l : Text} (hl : ∀ x ∈ l, isSpace x = false)
    (hplain : l.all isPlainChar = true) : l.foldl step s = { s with token := s.token ++ l } := by
  induction l generalizing s with
  | nil => simp
  | cons c l ih =>
    obtain ⟨hc, hrest⟩ : isPlainChar c = true ∧ l.all isPlainChar = true := by simpa using hplain
    rw [List.foldl_cons, step_plain (.inr hs) (hl c List.mem_cons_self) hc,
      ih rfl (fun x hx => hl x (List.mem_cons_of_mem _ hx)) hrest]
    simp [hs]

/-- A word without quotes and backslashes is the token. -/
theorem foldl_plainWord {w : Text} (hne : w ≠ []) (hw : ∀ x ∈ w, isSpace x = false)
    (hplain : w.all isPlainChar = true) :
    w.foldl step init = ⟨.word, w, false, []⟩ := by
  cases w with
  | nil => exact absurd rfl hne
  | cons c w =>
    obtain ⟨hc, hrest⟩ : isPlainChar c = true ∧ w.all isPlainChar = true := by simpa using hplain
    rw [List.foldl_cons, step_plain (.inl ⟨rfl, rfl⟩) (hw c List.mem_cons_self) hc,
      foldl_word rfl (fun x hx => hw x (List.mem_cons_of_mem _ hx)) hrest]
    rfl

/-- A word with a quote or a backslash is longer than the token. -/
theorem foldl_special {w : Text} (hs : s.state = .space ∧ s.token = [] ∨ s.state = .word)
    (hw : ∀ x ∈ w, isSpace x = false) (hspecial : w.all isPlainChar = false) :
    (w.foldl step s).size < s.size + w.length := by
  induction w generalizing s with
  | nil => cases hspecial
  | cons c w ih =>
    have hc := hw c List.mem_cons_self
    have hw' : ∀ x ∈ w, isSpace x = false := fun x hx => hw x (List.mem_cons_of_mem _ hx)
    simp only [List.foldl_cons, List.length_cons]
    by_cases hplain : isPlainChar c = true
    · rw [List.all_cons, hplain, Bool.true_and] at hspecial
      have hstate : (s.step c).state = .word := by rw [step_plain hs hc hplain]
      have hless := ih (.inr hstate) hw' hspecial
      have hsize := (step_size (s := s) hc).2.2
      omega
    · have hsize := step_special (hs.imp And.left id) hc (by simpa using hplain)
      have hrest := (foldl_size (s := s.step c) hw').2.2
      omega

end Lexer

/-! ### The two first words -/

theorem Cut.spaces (h : Cut command before word after) : ∀ x ∈ word, Lexer.isSpace x = false :=
  fun x hx => Lexer.isSpace_eq_false (h.word x hx)

/-- The command is the word alone, or goes on with white space. -/
theorem Cut.after_cases (h : Cut command before word after) :
    after = [] ∨ ∃ c rest, after = c :: rest ∧ isPySpace c = true := by
  cases after with
  | nil => exact .inl rfl
  | cons c rest => exact .inr ⟨c, rest, rfl, h.after c rfl⟩

/-- A plain word between white space of the lexer is its first word. -/
theorem Cut.head_plain (h : Cut command before word after) (hne : word ≠ [])
    (hbefore : before.foldl Lexer.step .init = .init) (hplain : word.all isPlainChar = true)
    (hafter : after.head?.all Lexer.isSpace = true) {args : List Text} (hargs : shlexSplit command = some args) :
    args.head? = some word := by
  unfold shlexSplit at hargs
  rw [h.parts, List.foldl_append, List.foldl_append, hbefore, Lexer.foldl_plainWord hne h.spaces hplain] at hargs
  have hemit : (⟨.word, word, false, []⟩ : Lexer).emit = ⟨.space, [], false, [word]⟩ := by
    unfold Lexer.emit
    rw [if_pos (by simpa using hne)]
    rfl
  cases after with
  | nil =>
    rw [List.foldl_nil] at hargs
    cases hargs
    rw [hemit]
    rfl
  | cons c rest =>
    have hstep : Lexer.step ⟨.word, word, false, []⟩ c = ⟨.space, [], false, [word]⟩ := by
      rw [← hemit]
      exact if_pos hafter
    rw [List.foldl_cons, hstep] at hargs
    exact Lexer.finish_head (Lexer.foldl_head rfl rest) hargs

/-- A word that goes on, for the lexer, or in which quotes or backslashes are lost, is not its first word. -/
theorem Cut.head_special (h : Cut command before word after) (hne : word ≠ [])
    (hbefore : before.foldl Lexer.step .init = .init)
    (hspecial : word.all isPlainChar = false ∨ after.head?.all Lexer.isSpace = false) {args : List Text}
    (hargs : shlexSplit command = some args) : args.head? ≠ some word := by
  unfold shlexSplit at hargs
  rw [h.parts, List.foldl_append, List.foldl_append, hbefore] at hargs
  have hquoting : (word.foldl Lexer.step .init).Quoting := Lexer.foldl_quoting (by rintro q (⟨⟨⟩⟩ | ⟨⟨⟩⟩)) word
  obtain ⟨hwords, hstate, -⟩ := Lexer.foldl_size (s := .init) h.spaces
  have hinWord : (word.foldl Lexer.step .init).InWord := (Lexer.foldl_started (s := .init) nofun
    (.inr ((List.exists_mem_of_ne_nil word hne).imp fun x hx => ⟨hx, h.spaces x hx⟩))).1
  replace hstate := hstate (.inr hne)
  have hshort : word.all isPlainChar = false → (word.foldl Lexer.step .init).token ≠ word := by
    intro hw heq
    have hless := Lexer.foldl_special (s := .init) (.inl ⟨rfl, rfl⟩) h.spaces hw
    rw [Lexer.size, heq, show Lexer.init.size = 0 from rfl] at hless
    omega
  generalize word.foldl Lexer.step .init = s at hargs hquoting hwords hstate hinWord hshort
  have hfirst (hword : s.state = .word) : s.emit.words.head? = some s.token :=
    Lexer.emit_first hwords ((hinWord hword).imp (by simp) id)
  rcases h.after_cases with rfl | ⟨c, rest, rfl, hc⟩
  · rw [List.foldl_nil] at hargs
    have hw : word.all isPlainChar = false := hspecial.resolve_right (by simp)
    unfold Lexer.finish at hargs
    split at hargs
    case h_1 hspace => exact absurd hspace hstate
    case h_2 hword =>
      cases hargs
      rw [hfirst hword]
      simpa using hshort hw
    all_goals cases hargs
  · rw [List.foldl_cons] at hargs
    by_cases hends : Lexer.isSpace c = true ∧ s.state = .word
    · have hw : word.all isPlainChar = false := hspecial.resolve_right (by simp [hends.1])
      have hstep : s.step c = s.emit := by
        unfold Lexer.step
        rw [hends.2]
        exact if_pos hends.1
      rw [hstep] at hargs
      exact Lexer.Stray.finish h.word
        (Lexer.Stray.foldl h.word (.inl ⟨s.token, hfirst hends.2, hshort hw⟩) rest) hargs
    · have hstray : (s.step c).Stray word :=
        Lexer.step_stray hquoting hwords hc fun hspace => ⟨hstate, fun hword => hends ⟨hspace, hword⟩⟩
      exact Lexer.Stray.finish h.word (Lexer.Stray.foldl h.word hstray rest) hargs

/-- The first word of `shlex.split` is the first piece of `str.split` exactly if the head of the command is plain. -/
theorem head_eq_iff {args : List Text} (hpieces : commandPieces command ≠ [])
    (hargs : shlexSplit command = some args) :
    args.head? = (commandPieces command).head? ↔ plainHead command = true := by
  have hcut := cut_command command
  have hdef : plainHead command = ((command.takeWhile isPySpace).all Lexer.isSpace &&
    ((command.dropWhile isPySpace).takeWhile fun c => !isPySpace c).all isPlainChar &&
    ((command.dropWhile isPySpace).dropWhile fun c => !isPySpace c).head?.all Lexer.isSpace) := rfl
  rw [hdef]
  generalize command.takeWhile isPySpace = before at *
  generalize ((command.dropWhile isPySpace).takeWhile fun c => !isPySpace c) = word at *
  generalize ((command.dropWhile isPySpace).dropWhile fun c => !isPySpace c) = after at *
  have hne : word ≠ [] := by
    rintro rfl
    exact hpieces hcut.pieces_eq_nil
  rw [hcut.pieces hne]
  rcases Lexer.foldl_before hcut.word hcut.before with ⟨hbefore, hall⟩ | ⟨hstray, hall⟩
  · rw [hall, Bool.true_and]
    by_cases hplain : (word.all isPlainChar && after.head?.all Lexer.isSpace) = true
    · obtain ⟨hw, ha⟩ := Bool.and_eq_true_iff.1 hplain
      exact iff_of_true (hcut.head_plain hne hbefore hw ha hargs) hplain
    · refine iff_of_false (hcut.head_special hne hbefore ?_ hargs) hplain
      simpa only [Bool.not_eq_true, Bool.and_eq_false_iff] using hplain
  · rw [hall, Bool.false_and, Bool.false_and]
    refine iff_of_false ?_ Bool.false_ne_true
    unfold shlexSplit at hargs
    rw [hcut.parts, List.foldl_append] at hargs
    exact Lexer.Stray.finish hcut.word (Lexer.Stray.foldl hcut.word hstray _) hargs

/-! ### What is executed -/

theorem CommandPolicy.allowed_pieces {p : CommandPolicy} (h : p.isCommandAllowed command = true) :
    ∃ piece, (commandPieces command).head? = some piece ∧ p.Lists piece := by
  unfold isCommandAllowed at h
  split at h
  case h_1 => cases h
  case h_2 piece pieces hpieces =>
    refine ⟨piece, by rw [hpieces]; rfl, ?_⟩
    rw [Bool.or_eq_true, List.any_eq_true] at h
    exact h

/-- Of a command that is admitted and executed, the program on the list is the one that is executed exactly if the
command's head is plain. -/
theorem executes_allowed_iff (py : PyText) (fnmatch : Text → Text → Bool) (entries : List Text) (command : Text)
    (args : List Text) (hallowed : (CommandPolicy.create py fnmatch entries).isCommandAllowed command = true)
    (hargs : shlexSplit command = some args) :
    (CommandPolicy.create py fnmatch entries).Executes command args ↔ plainHead command = true := by
  obtain ⟨piece, hpiece, hlists⟩ := CommandPolicy.allowed_pieces hallowed
  have hpieces : commandPieces command ≠ [] := by
    intro hnil
    rw [hnil] at hpiece
    cases hpiece
  rw [← head_eq_iff hpieces hargs]
  exact ⟨fun h => h.checked, fun h => ⟨⟨piece, h.trans hpiece, hlists⟩, h⟩⟩

theorem executes_ls :
    (CommandPolicy.create .ascii (· == ·) ["LS, cat".toList]).isCommandAllowed "Ls -la".toList = true ∧
      ((CommandPolicy.create .ascii (· == ·) ["LS, cat".toList]).Executes "Ls -la".toList
        ["Ls".toList, "-la".toList] ↔ plainHead "Ls -la".toList = true) := by
  have hallowed : (CommandPolicy.create .ascii (· == ·) ["LS, cat".toList]).isCommandAllowed "Ls -la".toList = true := by
    decide +kernel
  exact ⟨hallowed, executes_allowed_iff .ascii (· == ·) ["LS, cat".toList] "Ls -la".toList
    ["Ls".toList, "-la".toList] hallowed (by decide +kernel)⟩

/-- A vertical tab ends the piece that is checked, and is a part of the name that is executed. -/
theorem vertical_tab_executes_other :
    ¬∀ (py : PyText) (fnmatch : Text → Text → Bool) (entries : List Text) (command : Text) (args : List Text),
      (CommandPolicy.create py fnmatch entries).isCommandAllowed command = true → shlexSplit command = some args →
      (CommandPolicy.create py fnmatch entries).Executes command args := by
  intro h
  have hruns := h .ascii (· == ·) ["ls".toList] ['l', 's', Char.ofNat 11, 'x'] [['l', 's', Char.ofNat 11, 'x']]
    (by decide +kernel) (by decide +kernel)
  exact absurd hruns.checked (by decide +kernel)

end Daemon
end McuBridge
