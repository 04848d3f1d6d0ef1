import Mathlib.Data.List.Basic

/-! # Buffered streams

One side feeds a stream and at some point ends it, the other takes elements from the front of what is buffered. The
records `received` and `taken` are all that came in and all that was taken out; between the two lies the buffer. -/

/-- `eof` says that the stream has ended; elements may still be buffered then. -/
structure BufferedStream (α : Type*) where
  received : List α
  taken : List α
  buffer : List α
  eof : Bool
  conserved : taken ++ buffer = received

namespace BufferedStream
variable {α : Type*}

def empty : BufferedStream α := ⟨[], [], [], false, rfl⟩

/-- The stream has ended and all of it has been taken. -/
def atEof (b : BufferedStream α) : Bool := b.eof && b.buffer.isEmpty

/-- Nothing is fed to a stream that has ended. -/
def feed (xs : List α) (b : BufferedStream α) : BufferedStream α :=
  if b.eof then b
  else ⟨b.received ++ xs, b.taken, b.buffer ++ xs, false, by rw [← List.append_assoc, b.conserved]⟩

def feedEof (b : BufferedStream α) : BufferedStream α := { b with eof := true }

/-- What a read of at most `n` elements gets. -/
def front (n : Nat) (b : BufferedStream α) : List α := b.buffer.take n

def read (n : Nat) (b : BufferedStream α) : BufferedStream α where
  received := b.received
  taken := b.taken ++ b.front n
  buffer := b.buffer.drop n
  eof := b.eof
  conserved := by rw [List.append_assoc, front, List.take_append_drop, b.conserved]

variable {b : BufferedStream α}

@[simp] theorem taken_feed (xs : List α) : (b.feed xs).taken = b.taken := by
  unfold feed
  split <;> rfl

@[simp] theorem taken_feedEof : b.feedEof.taken = b.taken := rfl

@[simp] theorem taken_read (n : Nat) : (b.read n).taken = b.taken ++ b.front n := rfl

theorem length_front_le (n : Nat) : (b.front n).length ≤ n := List.length_take_le ..

theorem taken_isPrefix (b : BufferedStream α) : b.taken <+: b.received := ⟨b.buffer, b.conserved⟩

theorem buffer_of_atEof (h : b.atEof = true) : b.buffer = [] :=
  List.isEmpty_iff.1 (Bool.and_eq_true_iff.1 h).2

theorem taken_of_atEof (h : b.atEof = true) : b.taken = b.received := by
  rw [← b.conserved, buffer_of_atEof h, List.append_nil]

theorem front_of_atEof (h : b.atEof = true) (n : Nat) : b.front n = [] := by
  rw [front, buffer_of_atEof h, List.take_nil]

/-! The end of a stream is final. -/

theorem atEof_feed (h : b.atEof = true) (xs : List α) : (b.feed xs).atEof = true := by
  rw [feed, if_pos (Bool.and_eq_true_iff.1 h).1]
  exact h

theorem atEof_feedEof (h : b.atEof = true) : b.feedEof.atEof = true := by
  simp [atEof, feedEof, buffer_of_atEof h]

theorem atEof_read (h : b.atEof = true) (n : Nat) : (b.read n).atEof = true := by
  simp [atEof, read, buffer_of_atEof h, (Bool.and_eq_true_iff.1 h).1]

end BufferedStream
