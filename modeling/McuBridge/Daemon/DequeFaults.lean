import McuBridge.Daemon.DequeFifo

/-! # The persistent queue under faults

`_length` is assigned before the commit. A fault after the assignment that does not lead to a second pass leaves it
off: the rows are rolled back, the number is not. `Harmless` is the condition on the faults of a call under which the
number stays that of the rows and a call that raises has changed nothing or left the queue empty. -/

namespace McuBridge
namespace Daemon

namespace DequeOp
variable {α : Type}
open DequeFile

/-- The faults of the last pass, and of closing its connection, that do no harm on the rows `v`: the coroutine changes
nothing, or a fault stops it before the number changes, or there is none from there on. -/
def Clean (op : DequeOp α) (v : SqliteDeque α) (f : PassFaults) (close : Option Fault) : Prop :=
  op.keeps v ∨ firstFault f (setupCalls ++ op.early) ≠ none ∨ (firstFault f (op.late v) = none ∧ close = none)

/-- If an SQLite error ends the first pass, the files can be unlinked or hold no rows, and the second pass is clean;
otherwise the first one is. -/
def Harmless (f : DequeFaults) (op : DequeOp α) (v : SqliteDeque α) : Prop :=
  if op.passFault f.first v = some .error then
    (f.unlinks ∨ v.rows.isEmpty) ∧ op.Clean ⟨[], 0, v.maxlen⟩ f.second f.close
  else op.Clean v f.first f.close

instance (op : DequeOp α) (v : SqliteDeque α) (f : PassFaults) (close : Option Fault) :
    Decidable (op.Clean v f close) :=
  inferInstanceAs (Decidable (op.keeps v ∨ firstFault f (setupCalls ++ op.early) ≠ none ∨
    (firstFault f (op.late v) = none ∧ close = none)))

instance (f : DequeFaults) (op : DequeOp α) (v : SqliteDeque α) : Decidable (op.Harmless f v) :=
  inferInstanceAs (Decidable (if op.passFault f.first v = some .error then
    (f.unlinks ∨ v.rows.isEmpty) ∧ op.Clean ⟨[], 0, v.maxlen⟩ f.second f.close else op.Clean v f.first f.close))

/-- What a call may leave behind. -/
structure Sound (v : SqliteDeque α) (t : DequeFile α) (raised : Prop) : Prop where
  counted : t.view.Counted
  kept : raised → t.view.rows = v.rows ∨ t.view.rows = []

theorem pass_sound {op : DequeOp α} {f : PassFaults} {q : DequeFile α} {close : Option Fault}
    {r : EStateM.Result DequeError (DequeFile α) (Option α)} (h : PassEnd f op q r) (hq : q.view.Counted)
    (hclean : op.Clean q.view f close) : Sound q.view (stateOf r) ((∃ e t, r = .error e t) ∨ close ≠ none) := by
  cases h with
  | @fault fault t hsome hmax hrows hview =>
    have hsame : t.view = q.view := by
      rcases hclean with hkeeps | hearly | ⟨hlate, -⟩
      · exact hview (.inl hkeeps)
      · exact hview (.inr hearly)
      · refine hview (.inr fun hearly => ?_)
        rw [passFault_none hearly hlate] at hsome
        cases hsome
    exact ⟨by rw [stateOf, hsame]; exact hq, fun _ => .inl (by rw [stateOf, hsame])⟩
  | @empty t _ hview _ => exact ⟨by rw [stateOf, hview]; exact hq, fun _ => .inl (by rw [stateOf, hview])⟩
  | @ok r t hnone himpl =>
    refine ⟨rowsImpl_counted hq himpl, ?_⟩
    rintro (⟨e, u, h⟩ | hclose)
    · cases h
    · rcases hclean with hkeeps | hearly | ⟨-, hnoclose⟩
      · exact .inl (congrArg SqliteDeque.rows (keeps_impl hkeeps himpl))
      · rw [passFault, Option.or_eq_none_iff, Option.or_eq_none_iff] at hnone
        obtain ⟨hsetup, himplFault, -⟩ := hnone
        rw [firstFault_append, hsetup, Option.none_or] at hearly
        exact absurd (early_none himplFault (by rw [himpl]; rfl)) hearly
      · exact absurd hnoclose hclose

theorem recreated_view {unlinks : Bool} {t : DequeFile α} (h : unlinks ∨ t.view.rows = []) :
    (recreated unlinks t).view = ⟨[], 0, t.maxlen⟩ := by
  have hitems : (recreated unlinks t).file.items = [] := by
    unfold recreated
    split
    · rfl
    case isFalse hkept =>
      rcases h with h | h
      · exact absurd h hkept
      · exact h
  rw [view, hitems]
  rfl

/-- The second pass starts from an empty queue. -/
theorem retry_sound {op : DequeOp α} {f : DequeFaults} {t : DequeFile α} (hrows : f.unlinks ∨ t.view.rows = [])
    (hclean : op.Clean ⟨[], 0, t.maxlen⟩ f.second f.close) :
    Sound ⟨[], 0, t.maxlen⟩ (stateOf (retry f op.impl t)) ((∃ e u, retry f op.impl t = .error e u) ∨ f.close ≠ none) := by
  have hview := recreated_view hrows
  simp only [retry, recreateDb, bind_apply, modify_apply]
  rcases closeConn_cases f.closeFirst (recreated f.unlinks t) with h | ⟨-, e, h⟩
  · have hview' : ({ recreated f.unlinks t with isOpen := false } : DequeFile α).view = ⟨[], 0, t.maxlen⟩ := hview
    have hpass := op.attempt_end f.second { recreated f.unlinks t with isOpen := false }
    rw [h]
    dsimp only
    rw [← hview'] at hclean ⊢
    exact pass_sound hpass (by rw [hview']; rfl) hclean
  · rw [h]
    exact ⟨by rw [stateOf, hview]; rfl, fun _ => .inr (congrArg SqliteDeque.rows hview)⟩

theorem tries_sound {op : DequeOp α} {f : DequeFaults} {q : DequeFile α} (hq : q.view.Counted)
    (h : op.Harmless f q.view) :
    Sound q.view (stateOf (tries f op.impl q)) ((∃ e t, tries f op.impl q = .error e t) ∨ f.close ≠ none) := by
  have hpass := op.attempt_end f.first q
  rw [tries_apply]
  unfold Harmless at h
  split at h
  case isTrue herror =>
    obtain ⟨hrows, hclean⟩ := h
    generalize attempt f.first op.impl q = r at hpass ⊢
    cases hpass with
    | @fault fault t hsome hmax hkept _ =>
      obtain rfl := Option.some.inj (hsome.symm.trans herror)
      have hkept := hkept rfl
      have hretry := retry_sound (t := t) (by rwa [hkept, ← List.isEmpty_iff]) (by rwa [hmax])
      exact ⟨hretry.counted, fun hraised => .inr ((hretry.kept hraised).elim id id)⟩
    | empty hnone _ _ => cases hnone.symm.trans herror
    | ok hnone _ => cases hnone.symm.trans herror
  case isFalse hne =>
    have hsound := pass_sound hpass hq h
    generalize attempt f.first op.impl q = r at hpass hsound ⊢
    cases hpass with
    | @fault fault t hsome _ _ _ =>
      cases fault with
      | error => exact absurd hsome hne
      | cancelled took => exact hsound
    | empty _ _ _ => exact hsound
    | ok _ _ => exact hsound

/-- The step: under harmless faults the number stays that of the rows, and a call that raises has left them alone or
the queue empty. -/
theorem perform_sound {op : DequeOp α} {f : DequeFaults} {q : DequeFile α} (hq : q.view.Counted)
    (h : op.Harmless f q.view) : Sound q.view (op.perform f q).1 (∃ e, (op.perform f q).2 = .error e) := by
  have htries : Sound q.view _ _ := tries_sound (q := { q with isOpen := false }) hq h
  unfold perform
  rcases execute_cases f op.impl q with ⟨r, t, hmain, hexec | ⟨hne, e, hexec⟩⟩ | ⟨e, t, hmain, e', hexec, -⟩
  · rw [hmain] at htries
    rw [hexec]
    refine ⟨htries.counted, ?_⟩
    rintro ⟨e, he⟩
    cases he
  · rw [hmain] at htries
    rw [hexec]
    exact ⟨htries.counted, fun _ => htries.kept (.inr hne)⟩
  · rw [hmain] at htries
    rw [hexec]
    exact ⟨htries.counted, fun _ => htries.kept (.inl ⟨e, t, rfl⟩)⟩

/-! ### Runs -/

def step (e : DequeFaults × DequeOp α) (q : DequeFile α) : DequeFile α := (e.2.perform e.1 q).1

/-- In a run all of whose faults are harmless the number in memory is that of the committed rows after every call, and
every call that raised had left the items as they were or the queue empty. -/
theorem counted_along (file : SqlTable α) (maxlen : Option Nat) (es : List (DequeFaults × DequeOp α))
    (h : Run.Along step (fun q e => e.2.Harmless e.1 q.view) (.load file maxlen) es) :
    (∀ pre, pre <+: es →
      (Run.run step (.load file maxlen) pre).length = (Run.run step (.load file maxlen) pre).file.count) ∧
    Run.Along step (fun q e => (∃ err, (e.2.perform e.1 q).2 = .error err) →
      (e.2.perform e.1 q).1.file.items = q.file.items ∨ (e.2.perform e.1 q).1.file.items = []) (.load file maxlen) es := by
  have hstart : (DequeFile.load file maxlen).view.Counted := (SqlTable.items_length file).symm
  have hstep : ∀ (q : DequeFile α) e, q.view.Counted → e.2.Harmless e.1 q.view → (step e q).view.Counted :=
    fun q e hq he => (perform_sound hq he).counted
  have hcount : ∀ q : DequeFile α, q.view.Counted ↔ q.length = q.file.count := by
    intro q
    rw [SqliteDeque.Counted, view, SqlTable.items_length]
  constructor
  · have hreached := (Run.reached_iff (I := fun q : DequeFile α => q.view.Counted)
      (.load file maxlen) es).2 ⟨hstart, h.of_invariant hstep hstep hstart⟩
    exact fun pre hpre => (hcount _).1 (hreached pre hpre)
  · exact h.of_invariant hstep (fun q e hq he => (perform_sound hq he).kept) hstart

/-- A pass with one fault. -/
def faultAt (c : DequeCall) (fault : Fault) : PassFaults := fun d => if d = c then some fault else none

/-- A run with harmless faults: an `append` whose task is cancelled at its `INSERT`, one whose first commit fails, and a
`popleft` that cannot connect at first. -/
theorem counted_along_faults : (Run.run step (.load .empty (some 8))
    [(⟨faultAt .insert (.cancelled true), true, none, fun _ => none, none⟩, .append (1 : Nat)),
      (⟨faultAt .commit .error, true, none, fun _ => none, none⟩, .append 2),
      (⟨faultAt .connect .error, true, none, fun _ => none, none⟩, .popleft)]).length = 0 :=
  (counted_along .empty (some 8) _ (by decide)).1 _ (List.prefix_refl _)

/-- A commit that fails in both passes leaves a row counted that is not there, and so does a task cancelled at a commit
that is not carried out; one that is carried out leaves the item in a queue whose `append` has raised. -/
theorem append_miscounts :
    (let t := step (⟨faultAt .commit .error, true, none, faultAt .commit .error, none⟩, append (7 : Nat)) (.load .empty none);
      t.length = 1 ∧ t.file.count = 0) ∧
    (let t := step (⟨faultAt .commit (.cancelled false), true, none, fun _ => none, none⟩, append (7 : Nat))
        (.load .empty none);
      t.length = 1 ∧ t.file.count = 0) ∧
    (let r := (append (7 : Nat)).perform ⟨faultAt .commit (.cancelled true), true, none, fun _ => none, none⟩
        (.load .empty none);
      (∃ e, r.2 = .error e) ∧ r.1.file.items = [7]) :=
  ⟨by decide, by decide, ⟨.cancelled, rfl⟩, by decide⟩

end DequeOp
end Daemon
end McuBridge
