import McuBridge.Daemon.Topics

/-! # Command lines (`protocol/structures.py` `is_command_allowed`, `shlex.split`)

The policy looks at the first word of a command, the lexer of `shlex` at all of it. What the policy admits the lexer
may still refuse: a quotation that does not end, or a backslash at the end, raises `ValueError`. -/

namespace McuBridge
namespace Daemon

/-! ### Policy -/

/-- The white space of `str.split` and `str.strip`. -/
def isPySpace (c : Char) : Bool :=
  let n := c.toNat
  (9 ≤ n && n ≤ 13) || (28 ≤ n && n ≤ 32) || n == 0x85 || n == 0xA0 || n == 0x1680 || (0x2000 ≤ n && n ≤ 0x200A) ||
    n == 0x2028 || n == 0x2029 || n == 0x202F || n == 0x205F || n == 0x3000

/-- `command.strip().split()` -/
def commandPieces (command : Text) : List Text := (command.splitOnP isPySpace).filter fun w => !w.isEmpty

/-- The entries of an `AllowedCommandPolicy`, with the functions of Python's library that match a name against
them. -/
structure CommandPolicy where
  lower : Text → Text
  fnmatch : Text → Text → Bool
  entries : List Text

def allowedCommandWildcard : Text := "*".toList

/-- `is_command_allowed` -/
def CommandPolicy.isCommandAllowed (p : CommandPolicy) (command : Text) : Bool :=
  match commandPieces command with
  | [] => false
  | piece :: _ => p.entries.contains allowedCommandWildcard || p.entries.any (p.fnmatch (p.lower piece))

/-- The policy that admits every command. -/
def CommandPolicy.wildcard : CommandPolicy :=
  ⟨List.map Char.toLower, fun name pat => name == pat, [allowedCommandWildcard]⟩

/-! ### Words -/

/-- Where the lexer stands: `escaped` keeps the quotation the backslash was found in. -/
inductive LexState where
  | space
  | word
  | quotation (quote : Char)
  | escaped (within : Option Char)
  deriving DecidableEq

/-- `quoted` tells an empty word that was written as a quotation from no word. -/
structure Lexer where
  state : LexState
  token : Text
  quoted : Bool
  words : List Text
  deriving DecidableEq

namespace Lexer

def init : Lexer := ⟨.space, [], false, []⟩

def isSpace (c : Char) : Bool := c == ' ' || c == '\t' || c == '\r' || c == '\n'

def isQuote (c : Char) : Bool := c == '\'' || c == '"'

/-- The end of a word, at white space or at the end of the command. -/
def emit (s : Lexer) : Lexer :=
  if !s.token.isEmpty || s.quoted then ⟨.space, [], false, s.words ++ [s.token]⟩ else { s with state := .space }

/-- One character of `read_token`, in POSIX mode with `whitespace_split` and without comments. -/
def step (s : Lexer) (c : Char) : Lexer :=
  match s.state with
  | .space =>
    if isSpace c then s
    else if c = '\\' then { s with state := .escaped none }
    else if isQuote c then { s with state := .quotation c }
    else { s with state := .word, token := [c] }
  | .quotation q =>
    if c = q then { s with state := .word, quoted := true }
    else if c = '\\' ∧ q = '"' then { s with state := .escaped (some q), quoted := true }
    else { s with token := s.token ++ [c], quoted := true }
  | .escaped none => { s with state := .word, token := s.token ++ [c] }
  | .escaped (some q) =>
    let token := if c ≠ '\\' ∧ c ≠ q then s.token ++ ['\\', c] else s.token ++ [c]
    { s with state := .quotation q, token := token }
  | .word =>
    if isSpace c then s.emit
    else if isQuote c then { s with state := .quotation c }
    else if c = '\\' then { s with state := .escaped none }
    else { s with token := s.token ++ [c] }

/-- The end of the command: "No closing quotation" and "No escaped character" are `ValueError`. -/
def finish (s : Lexer) : Option (List Text) :=
  match s.state with
  | .space => some s.words
  | .word => some s.emit.words
  | .quotation _ | .escaped _ => none

end Lexer

/-- `shlex.split`, `none` where it raises `ValueError`. -/
def shlexSplit (command : Text) : Option (List Text) := (command.foldl Lexer.step .init).finish

example : shlexSplit "cp 'a b' \"c\\\"d\" e\\ f ''".toList =
    some ["cp".toList, "a b".toList, "c\"d".toList, "e f".toList, []] := by decide +kernel

namespace Lexer
variable {s : Lexer} {c : Char}

/-- In a word there is something to emit. -/
def InWord (s : Lexer) : Prop := s.state = .word → s.token.isEmpty = false ∨ s.quoted = true

/-- A word was emitted or begun. -/
def Started (s : Lexer) : Prop := s.words ≠ [] ∨ s.state ≠ .space

theorem emit_state (s : Lexer) : s.emit.state = .space := by
  unfold emit
  split <;> rfl

theorem emit_words (h : s.token.isEmpty = false ∨ s.quoted = true) : s.emit.words ≠ [] := by
  have hsome : (!s.token.isEmpty || s.quoted) = true := by
    rcases h with h | h <;> simp [h]
  unfold emit
  rw [if_pos hsome]
  simp

theorem inWord_of_state (h : s.state ≠ .word) : s.InWord := fun hword => absurd hword h

theorem step_inWord (s : Lexer) (c : Char) : (s.step c).InWord := by
  unfold step
  cases hstate : s.state with
  | space =>
    dsimp only
    split
    · exact inWord_of_state (by simp [hstate])
    split
    · exact inWord_of_state (by simp)
    split
    · exact inWord_of_state (by simp)
    · exact fun _ => .inl rfl
  | quotation q =>
    dsimp only
    split
    · exact fun _ => .inr rfl
    split
    · exact inWord_of_state (by simp)
    · exact inWord_of_state (by simp)
  | escaped within =>
    cases within with
    | none => exact fun _ => .inl (by simp)
    | some q => exact inWord_of_state (by simp)
  | word =>
    dsimp only
    split
    · exact inWord_of_state (by simp [emit_state])
    split
    · exact inWord_of_state (by simp)
    split
    · exact inWord_of_state (by simp)
    · exact fun _ => .inl (by simp)

theorem step_started (h : s.InWord) (hs : s.Started) : (s.step c).Started := by
  unfold step
  cases hstate : s.state with
  | space =>
    have hwords : s.words ≠ [] := hs.resolve_right (by simp [hstate])
    dsimp only
    split
    · exact hs
    split
    · exact .inl hwords
    split
    · exact .inl hwords
    · exact .inl hwords
  | quotation q =>
    dsimp only
    split
    · exact .inr (by simp)
    split
    · exact .inr (by simp)
    · exact .inr (by simp)
  | escaped within =>
    cases within with
    | none => exact .inr (by simp)
    | some q => exact .inr (by simp)
  | word =>
    dsimp only
    split
    · exact .inl (emit_words (h hstate))
    split
    · exact .inr (by simp)
    split
    · exact .inr (by simp)
    · exact .inr (by simp)

/-- A character that is not white space begins a word. -/
theorem step_starts (h : s.InWord) (hc : isSpace c = false) : (s.step c).Started := by
  by_cases hstate : s.state = .space
  · unfold step
    rw [hstate]
    dsimp only
    rw [if_neg (by simp [hc])]
    split
    · exact .inr (by simp)
    split
    · exact .inr (by simp)
    · exact .inr (by simp)
  · exact step_started h (.inr hstate)

theorem foldl_started {command : Text} (h : s.InWord) (hs : s.Started ∨ ∃ c ∈ command, isSpace c = false) :
    (command.foldl step s).InWord ∧ (command.foldl step s).Started := by
  induction command generalizing s with
  | nil => exact ⟨h, hs.resolve_right (by simp)⟩
  | cons c command ih =>
    refine ih (step_inWord s c) ?_
    rcases hs with hs | ⟨d, hd, hspace⟩
    · exact .inl (step_started h hs)
    · rcases List.mem_cons.1 hd with rfl | hd
      · exact .inl (step_starts h hspace)
      · exact .inr ⟨d, hd, hspace⟩

theorem finish_ne_nil (h : s.InWord) (hs : s.Started) {args : List Text} (hargs : s.finish = some args) :
    args ≠ [] := by
  unfold finish at hargs
  cases hstate : s.state with
  | space =>
    rw [hstate] at hargs
    cases hargs
    exact hs.resolve_right (by simp [hstate])
  | word =>
    rw [hstate] at hargs
    cases hargs
    exact emit_words (h hstate)
  | quotation q =>
    rw [hstate] at hargs
    cases hargs
  | escaped within =>
    rw [hstate] at hargs
    cases hargs

/-- Without quotes and backslashes the lexer stays outside quotations. -/
theorem foldl_plain {command : Text} (hs : s.state = .space ∨ s.state = .word)
    (hplain : ∀ c ∈ command, isQuote c = false ∧ c ≠ '\\') :
    (command.foldl step s).state = .space ∨ (command.foldl step s).state = .word := by
  induction command generalizing s with
  | nil => exact hs
  | cons c command ih =>
    obtain ⟨hquote, hback⟩ := hplain c (List.mem_cons_self ..)
    refine ih ?_ fun d hd => hplain d (List.mem_cons_of_mem _ hd)
    unfold step
    rcases hs with hstate | hstate
    · rw [hstate]
      dsimp only
      split
      · exact .inl hstate
      · rw [if_neg (by simp [hquote])]
        exact .inr rfl
    · rw [hstate]
      dsimp only
      split
      · exact .inl (emit_state s)
      · rw [if_neg (by simp [hquote])]
        exact .inr rfl

end Lexer

/-- A command without quotes and backslashes is split. -/
theorem shlexSplit_plain {command : Text} (hplain : ∀ c ∈ command, Lexer.isQuote c = false ∧ c ≠ '\\') :
    (shlexSplit command).isSome = true := by
  unfold shlexSplit Lexer.finish
  rcases Lexer.foldl_plain (s := .init) (.inl rfl) hplain with h | h
  · rw [h]
    rfl
  · rw [h]
    rfl

theorem isPySpace_of_isSpace {c : Char} (h : Lexer.isSpace c = true) : isPySpace c = true := by
  simp only [Lexer.isSpace, Bool.or_eq_true, beq_iff_eq] at h
  rcases h with ((rfl | rfl) | rfl) | rfl <;> decide

/-- What is all white space has no pieces. -/
theorem commandPieces_eq_nil {command : Text} (h : ∀ c ∈ command, isPySpace c = true) : commandPieces command = [] := by
  induction command with
  | nil => rfl
  | cons c command ih =>
    have hc := h c (List.mem_cons_self ..)
    have hrest := ih fun d hd => h d (List.mem_cons_of_mem _ hd)
    unfold commandPieces at hrest ⊢
    rw [List.splitOnP_cons_eq_if_modifyHead, if_pos hc, List.filter_cons_of_neg (by simp)]
    exact hrest

/-- An admitted command has a program to start. -/
theorem CommandPolicy.isCommandAllowed_split {p : CommandPolicy} {command : Text} {args : List Text}
    (hallowed : p.isCommandAllowed command = true) (hsplit : shlexSplit command = some args) : args ≠ [] := by
  have hword : ∃ c ∈ command, Lexer.isSpace c = false := by
    by_contra hnone
    push Not at hnone
    have hpieces := commandPieces_eq_nil fun c hc => isPySpace_of_isSpace (by simpa using hnone c hc)
    unfold isCommandAllowed at hallowed
    rw [hpieces] at hallowed
    cases hallowed
  have hstart := Lexer.foldl_started (s := .init) (fun h => by cases h) (.inr hword)
  exact Lexer.finish_ne_nil hstart.1 hstart.2 hsplit

end Daemon
end McuBridge
