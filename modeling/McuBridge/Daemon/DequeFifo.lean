import McuBridge.Daemon.DequeCalls
import McuBridge.Lib.BoundedFifo
import McuBridge.Lib.Run

/-! # The persistent queue is a bounded FIFO

Over a database without faults a `SqliteDeque` answers like a `BoundedFifo`: its coroutines do on the rows of the file
what `SqliteDeque.appendImpl` and the others do on a list of rows, and the number in memory stays that of the rows. -/

namespace McuBridge
namespace Daemon

/-- What is done with a queue: a coroutine, `length`, or opening the same path again, with any bound. -/
inductive DequeEvent (α : Type) where
  | op (op : DequeOp α)
  | length
  | reopen (maxlen : Option Nat)

inductive DequeReply (α : Type) where
  | result (r : Except DequeError (Option α))
  | length (n : Nat)
  | opened

namespace DequeOp
variable {α : Type}
open DequeFile

theorem rowsImpl_counted {op : DequeOp α} {v w : SqliteDeque α} {r : Option α} (hv : v.Counted)
    (himpl : op.rowsImpl v = some (r, w)) : w.Counted := by
  cases op with
  | append item =>
    obtain ⟨_, happ, h⟩ := Option.map_eq_some_iff.1 himpl
    cases h
    exact SqliteDeque.appendImpl_counted hv happ
  | popleft =>
    obtain ⟨_, hpop, h⟩ := Option.map_eq_some_iff.1 himpl
    cases h
    exact SqliteDeque.popleftImpl_counted hv hpop
  | peek =>
    have hkeeps : (peek : DequeOp α).keeps v = true := rfl
    rw [keeps_impl hkeeps himpl]
    exact hv

theorem firstFault_none (calls : List DequeCall) : firstFault (fun _ => none) calls = none :=
  List.findSome?_eq_none_iff.2 fun _ _ => rfl

/-- Without faults a coroutine does on the file what it does on the rows. -/
theorem perform_none (op : DequeOp α) (q : DequeFile α) :
    (∃ r t, op.perform .none q = (t, .ok r) ∧ op.rowsImpl q.view = some (r, t.view)) ∨
      (∃ t, op.perform .none q = (t, .error .index) ∧ op.rowsImpl q.view = none ∧ t.view = q.view) := by
  have hpass := op.attempt_end DequeFaults.none.first { q with isOpen := false }
  have htries := tries_apply .none op.impl { q with isOpen := false }
  have hexec := execute_cases .none op.impl q
  have hnone : op.passFault DequeFaults.none.first q.view = none := passFault_none (firstFault_none _) (firstFault_none _)
  unfold perform
  generalize attempt DequeFaults.none.first op.impl { q with isOpen := false } = r at hpass htries
  rw [htries] at hexec
  cases hpass with
  | fault hsome _ _ _ => cases hnone.symm.trans hsome
  | @empty t _ hview himpl =>
    rcases hexec with ⟨r, u, h, -⟩ | ⟨e, u, h, e', hexec, he⟩
    · cases h
    · cases h
      exact .inr ⟨t, by rw [hexec, he rfl], himpl, hview⟩
  | @ok r t _ himpl =>
    rcases hexec with ⟨r', u, h, hexec | ⟨hne, -⟩⟩ | ⟨e, u, h, -⟩
    · cases h
      exact .inl ⟨r, t, by rw [hexec], himpl⟩
    · exact absurd rfl hne
    · cases h

end DequeOp

namespace DequeEvent
variable {α : Type}

def onFile : DequeEvent α → DequeFile α → DequeFile α × DequeReply α
  | op o, q => ((o.perform .none q).1, .result (o.perform .none q).2)
  | length, q => (q, .length q.length)
  | reopen maxlen, q => (.load q.file maxlen, .opened)

/-- What is expected of it. -/
def onFifo : DequeEvent α → BoundedFifo α → BoundedFifo α × DequeReply α
  | op (.append item), q => (q.push item, .result (.ok none))
  | op .popleft, q =>
    match q.pop with
    | some (item, t) => (t, .result (.ok (some item)))
    | none => (q, .result (.error .index))
  | op .peek, q =>
    match q.items.head? with
    | some item => (q, .result (.ok (some item)))
    | none => (q, .result (.error .index))
  | length, q => (q, .length q.items.length)
  | reopen maxlen, q => ({ q with maxlen := maxlen }, .opened)

/-- A bounded queue as rows with their number. -/
def counted (t : BoundedFifo α) : SqliteDeque α := ⟨t.items, t.items.length, t.maxlen⟩

/-- The file holds the items of the queue, and the number in memory is theirs. -/
def Refines (q : DequeFile α) (t : BoundedFifo α) : Prop := q.view = counted t

theorem Refines.count {q : DequeFile α} {t : BoundedFifo α} (h : Refines q t) : q.length = q.file.count := by
  have hlen : q.length = t.items.length := congrArg SqliteDeque.length h
  have hitems : q.file.items = t.items := congrArg SqliteDeque.rows h
  rw [← SqlTable.items_length, hitems, hlen]

theorem refines_load (file : SqlTable α) (maxlen : Option Nat) : Refines (.load file maxlen) ⟨file.items, maxlen⟩ := by
  rw [Refines, DequeFile.view, counted, SqlTable.items_length]
  rfl

/-- `append` is `push`: both leave the newest `maxlen` items. -/
theorem appendImpl_push (item : α) (t : BoundedFifo α) :
    SqliteDeque.appendImpl item (counted t) = some ((), counted (t.push item)) := by
  unfold SqliteDeque.appendImpl counted BoundedFifo.push
  dsimp only
  cases t.maxlen with
  | none => simp
  | some m =>
    dsimp only
    split
    case isTrue hlt =>
      rw [BoundedFifo.evict_length, BoundedFifo.evict_eq_drop, List.length_append, List.length_singleton,
        Nat.min_eq_left (Nat.le_of_lt hlt)]
    case isFalse hlt =>
      rw [BoundedFifo.evict_eq_self (by simpa using hlt), List.length_append, List.length_singleton]

theorem rowsImpl_onFifo (o : DequeOp α) (t : BoundedFifo α) :
    (∃ r u, (op o).onFifo t = (u, .result (.ok r)) ∧ o.rowsImpl (counted t) = some (r, counted u)) ∨
      ((op o).onFifo t = (t, .result (.error .index)) ∧ o.rowsImpl (counted t) = none) := by
  cases o with
  | append item =>
    refine .inl ⟨none, t.push item, rfl, ?_⟩
    rw [DequeOp.rowsImpl, appendImpl_push]
    rfl
  | popleft =>
    simp only [onFifo, BoundedFifo.pop, DequeOp.rowsImpl, SqliteDeque.popleftImpl, counted]
    cases t.items with
    | nil => exact .inr ⟨rfl, rfl⟩
    | cons item rest => exact .inl ⟨some item, _, rfl, rfl⟩
  | peek =>
    simp only [onFifo, DequeOp.rowsImpl, SqliteDeque.peekImpl, counted]
    cases hitems : t.items with
    | nil => exact .inr ⟨rfl, rfl⟩
    | cons item rest => exact .inl ⟨some item, t, rfl, by simp [hitems]⟩

theorem step_refines (e : DequeEvent α) {q : DequeFile α} {t : BoundedFifo α} (h : Refines q t) :
    (e.onFile q).2 = (e.onFifo t).2 ∧ Refines (e.onFile q).1 (e.onFifo t).1 := by
  have hview : q.view = counted t := h
  cases e with
  | op o =>
    rcases rowsImpl_onFifo o t with ⟨r, u, hfifo, hrows⟩ | ⟨hfifo, hrows⟩
    · rcases o.perform_none q with ⟨r', q', hperf, hrows'⟩ | ⟨q', -, hrows', -⟩
      · rw [hview, hrows] at hrows'
        obtain ⟨rfl, hu⟩ := Prod.mk.inj (Option.some.inj hrows')
        rw [onFile, hperf, hfifo]
        exact ⟨rfl, hu.symm⟩
      · rw [hview, hrows] at hrows'
        cases hrows'
    · rcases o.perform_none q with ⟨r', q', -, hrows'⟩ | ⟨q', hperf, -, hq'⟩
      · rw [hview, hrows] at hrows'
        cases hrows'
      · rw [onFile, hperf, hfifo]
        exact ⟨rfl, hq'.trans hview⟩
  | length => exact ⟨congrArg DequeReply.length (congrArg SqliteDeque.length hview), h⟩
  | reopen maxlen =>
    have hitems : q.file.items = t.items := congrArg SqliteDeque.rows hview
    refine ⟨rfl, ?_⟩
    show Refines (.load q.file maxlen) { t with maxlen := maxlen }
    have hload := refines_load q.file maxlen
    rwa [hitems] at hload

/-- Every run over a database without faults answers like the bounded queue on the rows that were there, and in the
state it reaches the number in memory is that of the rows. -/
theorem refines_fifo (file : SqlTable α) (maxlen : Option Nat) (es : List (DequeEvent α)) :
    Run.answers onFile (.load file maxlen) es = Run.answers onFifo ⟨file.items, maxlen⟩ es ∧
      (Run.run (fun e q => (onFile e q).1) (.load file maxlen) es).length =
        (Run.run (fun e q => (onFile e q).1) (.load file maxlen) es).file.count := by
  refine ⟨Run.answers_eq (fun q t e h => step_refines e h) (refines_load file maxlen) es, ?_⟩
  have hinv : ∃ t, Refines (Run.run (fun e q => (onFile e q).1) (.load file maxlen) es) t := by
    refine Run.run_invariant (I := fun q => ∃ t, Refines q t) ?_ ⟨_, refines_load file maxlen⟩ es
    rintro q e ⟨t, h⟩
    exact ⟨_, (step_refines e h).2⟩
  obtain ⟨t, h⟩ := hinv
  exact h.count

end DequeEvent
end Daemon
end McuBridge
