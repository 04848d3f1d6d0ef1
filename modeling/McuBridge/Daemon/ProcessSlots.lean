import McuBridge.Daemon.Processes

/-! # Permits and entries of the process table

A permit is held by a call of `_run_process` from its `acquire` to its entry in `running_processes`, then by the
entry. `Accounted` keeps the ledger of the permits beside the holders, `Owned` says that whoever may still remove the
entry of a pid was set on the process that has it. Both fail only where a start leaves with an exception it does not
expect, or takes a pid somebody still acts on. -/

namespace McuBridge
namespace Daemon
namespace Processes

/-! ### Statement -/

/-- Nothing is left of an earlier process with this pid: no entry, no monitor and no kill of it. -/
def PidUnused (pid : Int) (s : Processes) : Prop :=
  s.running.lookup pid = none ∧ (∀ m ∈ s.monitors, m.pid ≠ pid) ∧ ∀ k ∈ s.kills, k.ctx ≠ none → k.pid ≠ pid

/-- A start with a permit raises nothing but an `OSError`, and the pid of a new process is unused. -/
def Regular (s : Processes) : ProcessEvent → Prop
  | .acquired st => (shlexSplit st.command).isSome = true
  | .raised st => st.phase = .acquiring
  | .registered st =>
    match st.phase with
    | .registering ospid => s.PidUnused (ProcessContext.pid ⟨st.call, ospid⟩)
    | _ => True
  | _ => True

instance (s : Processes) (e : ProcessEvent) : Decidable (s.Regular e) :=
  match e with
  | .acquired st => inferInstanceAs (Decidable ((shlexSplit st.command).isSome = true))
  | .raised st => inferInstanceAs (Decidable (st.phase = .acquiring))
  | .registered ⟨call, _, .registering ospid⟩ =>
    inferInstanceAs (Decidable (s.running.lookup (ProcessContext.pid ⟨call, ospid⟩) = none ∧
      (∀ m ∈ s.monitors, m.pid ≠ ProcessContext.pid ⟨call, ospid⟩) ∧
      ∀ k ∈ s.kills, k.ctx ≠ none → k.pid ≠ ProcessContext.pid ⟨call, ospid⟩))
  | .registered ⟨_, _, .acquiring⟩ | .registered ⟨_, _, .spawning⟩ => inferInstanceAs (Decidable True)
  | .run _ | .spawned _ _ | .monitorLooks _ | .monitorWakes _ | .monitorEnds _ | .poll _ | .pollLooks _ | .pollEnds _
  | .kill _ | .killLooks _ | .killEnds _ | .killCancelled _ | .exits _ => inferInstanceAs (Decidable True)

/-- The call whose process a step is about. -/
def subject (s : Processes) : ProcessEvent → Option Nat
  | .acquired st | .spawned st _ | .registered st | .raised st => some st.call
  | .monitorLooks m | .monitorWakes m | .monitorEnds m => some m.call
  | .pollEnds _ => s.processLock.map fun r => r.ctx.call
  | .killEnds k => k.ctx.map fun ctx => ctx.call
  | _ => none

/-- The step takes no entry away but that of its own process. -/
def SparesOthers (policy : CommandPolicy) (s : Processes) (e : ProcessEvent) : Prop :=
  ∀ pid ctx, s.running.lookup pid = some ctx → (step policy e s).running.lookup pid ≠ some ctx →
    s.subject e = some ctx.call

/-- While no call of `_run_process` is in progress the permits out are the entries; a permit is taken once and given
back at most once, and one that is out is with a call in progress or with an entry whose monitor will give it back. -/
structure Conserved (capacity : Nat) (s : Processes) : Prop where
  permits : s.starts = [] → s.slots.value + s.running.entries.length = capacity
  once : ∀ call, s.slots.released.count call ≤ s.slots.acquired.count call ∧ s.slots.acquired.count call ≤ 1
  returned : ∀ call ∈ s.slots.acquired, call ∈ s.slots.released ∨ (∃ st ∈ s.starts, st.call = call) ∨
    ∃ pid ctx, s.running.lookup pid = some ctx ∧ ctx.call = call ∧ ∃ m ∈ s.monitors, m.call = call ∧ m.pid = pid

/-! ### Holders -/

/-- The calls in progress that have a permit. -/
def holding (starts : List ProcessStart) : List Nat := (starts.filter fun st => st.phase ≠ .acquiring).map (·.call)

def entryCalls (running : AList fun _ : Int => ProcessContext) : List Nat := running.entries.map fun e => e.2.call

def held (s : Processes) : List Nat := holding s.starts ++ entryCalls s.running

theorem holding_cons_acquiring {st : ProcessStart} (h : st.phase = .acquiring) (starts : List ProcessStart) :
    holding (st :: starts) = holding starts := by
  simp [holding, h]

theorem holding_cons_of_ne {st : ProcessStart} (h : st.phase ≠ .acquiring) (starts : List ProcessStart) :
    holding (st :: starts) = st.call :: holding starts := by
  simp [holding, h]

theorem holding_perm {starts starts' : List ProcessStart} (h : starts.Perm starts') :
    (holding starts).Perm (holding starts') := (h.filter _).map _

theorem mem_holding {starts : List ProcessStart} {call : Nat} (h : call ∈ holding starts) :
    ∃ st ∈ starts, st.call = call := by
  obtain ⟨st, hst, hcall⟩ := List.mem_map.1 h
  exact ⟨st, (List.mem_filter.1 hst).1, hcall⟩

theorem mem_entryCalls {running : AList fun _ : Int => ProcessContext} {call : Nat} (h : call ∈ entryCalls running) :
    ∃ pid ctx, running.lookup pid = some ctx ∧ ctx.call = call := by
  obtain ⟨⟨pid, ctx⟩, he, hcall⟩ := List.mem_map.1 h
  exact ⟨pid, ctx, AList.mem_lookup_iff.2 he, hcall⟩

theorem entryCalls_erase {running : AList fun _ : Int => ProcessContext} {pid : Int} {ctx : ProcessContext}
    (h : running.lookup pid = some ctx) :
    (entryCalls running).Perm (ctx.call :: entryCalls (running.erase pid)) :=
  (AList.entries_perm_erase h).map fun e : (_ : Int) × ProcessContext => e.2.call

theorem entryCalls_insert {running : AList fun _ : Int => ProcessContext} {pid : Int} (ctx : ProcessContext)
    (h : running.lookup pid = none) : entryCalls (running.insert pid ctx) = ctx.call :: entryCalls running := by
  unfold entryCalls
  rw [AList.entries_insert_of_notMem (AList.lookup_eq_none.1 h)]
  rfl

theorem popRelease_cases (pid : Int) (s : Processes) :
    (s.running.lookup pid = none ∧ s.popRelease pid = s) ∨
    ∃ ctx, s.running.lookup pid = some ctx ∧
      s.popRelease pid = { s with running := s.running.erase pid, slots := s.slots.release ctx.call } := by
  unfold popRelease
  cases hlook : s.running.lookup pid with
  | none => exact .inl ⟨rfl, rfl⟩
  | some ctx => exact .inr ⟨ctx, rfl, rfl⟩

/-! ### Permits -/

/-- The ledger agrees with the holders. The last three facts say that a call in progress is counted once, and one at
`acquire` not yet. -/
structure Accounted (capacity : Nat) (s : Processes) : Prop where
  balanced : s.slots.Balanced capacity s.held
  taken : ∀ call ∈ s.slots.acquired, call < s.calls
  fresh : ∀ st ∈ s.starts, st.call < s.calls
  nodup : (s.starts.map (·.call)).Nodup
  waiting : ∀ st ∈ s.starts, st.phase = .acquiring → st.call ∉ s.slots.acquired

namespace Accounted
variable {capacity : Nat} {s s' : Processes} {st : ProcessStart}

/-- Monitors, polls and kills hold no permits. -/
theorem congr (h : s.Accounted capacity) (hslots : s'.slots = s.slots) (hrun : s'.running = s.running)
    (hcalls : s'.calls = s.calls) (hstarts : s'.starts = s.starts) : s'.Accounted capacity := by
  refine ⟨?_, ?_, ?_, ?_, ?_⟩ <;> simp only [held, hslots, hrun, hcalls, hstarts]
  exacts [h.balanced, h.taken, h.fresh, h.nodup, h.waiting]

theorem init (capacity : Nat) : (init capacity).Accounted capacity where
  balanced := Semaphore.Balanced.init capacity
  taken := by simp [Processes.init, Semaphore.init]
  fresh := by simp [Processes.init]
  nodup := List.nodup_nil
  waiting := by simp [Processes.init]

theorem runProcess (h : s.Accounted capacity) (policy : CommandPolicy) (command : Text) :
    (s.runProcess policy command).Accounted capacity := by
  unfold Processes.runProcess
  split
  · refine ⟨?_, fun call hcall => ?_, fun st hst => ?_, ?_, fun st hst hph => ?_⟩
    · show s.slots.Balanced capacity (holding (_ :: s.starts) ++ entryCalls s.running)
      rw [holding_cons_acquiring rfl]
      exact h.balanced
    · exact Nat.lt_succ_of_lt (h.taken call hcall)
    · rcases List.mem_cons.1 hst with rfl | hst
      · exact Nat.lt_succ_self _
      · exact Nat.lt_succ_of_lt (h.fresh st hst)
    · rw [List.map_cons, List.nodup_cons]
      refine ⟨fun hmem => ?_, h.nodup⟩
      obtain ⟨st, hst, hcall⟩ := List.mem_map.1 hmem
      exact Nat.lt_irrefl _ (hcall ▸ h.fresh st hst)
    · rcases List.mem_cons.1 hst with rfl | hst
      · exact fun hcall => Nat.lt_irrefl _ (h.taken _ hcall)
      · exact h.waiting st hst hph
  · exact h

theorem balanced_cons (h : s.Accounted capacity) (hst : st ∈ s.starts) :
    s.slots.Balanced capacity (holding (st :: s.starts.erase st) ++ entryCalls s.running) :=
  h.balanced.congr ((holding_perm (List.perm_cons_erase hst)).append_right _)

theorem nodup_cons (h : s.Accounted capacity) (hst : st ∈ s.starts) :
    st.call ∉ (s.starts.erase st).map (·.call) ∧ ((s.starts.erase st).map (·.call)).Nodup :=
  List.nodup_cons.1 (((List.perm_cons_erase hst).map fun st : ProcessStart => st.call).nodup h.nodup)

theorem ended (h : s.Accounted capacity) (hst : st ∈ s.starts) (hstarts : s'.starts = s.starts.erase st)
    (hcalls : s'.calls = s.calls) (htaken : s'.slots.acquired = s.slots.acquired)
    (hbal : s'.slots.Balanced capacity s'.held) : s'.Accounted capacity := by
  refine ⟨hbal, ?_, ?_, ?_, ?_⟩ <;> simp only [htaken, hcalls, hstarts]
  · exact h.taken
  · exact fun st' hst' => h.fresh st' (List.mem_of_mem_erase hst')
  · exact (h.nodup_cons hst).2
  · exact fun st' hst' => h.waiting st' (List.mem_of_mem_erase hst')

theorem advance (h : s.Accounted capacity) (hst : st ∈ s.starts) {phase : StartPhase} (hphase : phase ≠ .acquiring)
    {slots : Semaphore Nat} (hbal : slots.Balanced capacity (st.call :: (s.endStart st).held))
    (htaken : ∀ call ∈ slots.acquired, call ∈ s.slots.acquired ∨ call = st.call) :
    ({ s.advance st phase with slots := slots }).Accounted capacity where
  balanced := by
    show slots.Balanced capacity (holding (_ :: s.starts.erase st) ++ entryCalls s.running)
    rw [holding_cons_of_ne hphase]
    exact hbal
  taken := by
    intro call hcall
    rcases htaken call hcall with hold | rfl
    · exact h.taken call hold
    · exact h.fresh st hst
  fresh := by
    intro st' hst'
    rcases List.mem_cons.1 hst' with rfl | hst'
    · exact h.fresh st hst
    · exact h.fresh st' (List.mem_of_mem_erase hst')
  nodup := List.nodup_cons.2 (h.nodup_cons hst)
  waiting := by
    intro st' hst' hph hcall
    rcases List.mem_cons.1 hst' with rfl | hst'
    · exact hphase hph
    rcases htaken _ hcall with hold | heq
    · exact h.waiting st' (List.mem_of_mem_erase hst') hph hold
    · exact (h.nodup_cons hst).1 (heq ▸ List.mem_map_of_mem hst')

theorem acquired (h : s.Accounted capacity) (hsplit : (shlexSplit st.command).isSome = true) :
    (s.acquired st).Accounted capacity := by
  unfold Processes.acquired
  split
  case isTrue hen =>
    obtain ⟨hst, hphase, hfree⟩ := hen
    have hbal := h.balanced_cons hst
    rw [holding_cons_acquiring hphase] at hbal
    show ({ s.advance st .spawning with slots := s.slots.acquire st.call }).Accounted capacity
    refine h.advance hst (by simp) (hbal.acquire hfree (h.waiting st hst hphase)) fun call hcall => ?_
    exact (List.mem_cons.1 hcall).symm
  case isFalse => exact h

theorem spawned (h : s.Accounted capacity) (outcome : SpawnOutcome) : (s.spawned st outcome).Accounted capacity := by
  unfold Processes.spawned
  split
  case isTrue hen =>
    obtain ⟨hst, hphase⟩ := hen
    have hbal := h.balanced_cons hst
    rw [holding_cons_of_ne (by simp [hphase])] at hbal
    cases outcome with
    | spawned ospid => exact h.advance hst (by simp) hbal fun call hcall => .inl hcall
    | osError => exact h.ended hst rfl rfl rfl hbal.release
  case isFalse => exact h

theorem registered (h : s.Accounted capacity) (hreg : s.Regular (.registered st)) :
    (s.registered st).Accounted capacity := by
  unfold Processes.registered
  split
  case h_1 ospid hphase =>
    split
    case isTrue hen =>
      have hunused : s.PidUnused (ProcessContext.pid ⟨st.call, ospid⟩) := by
        simpa only [Regular, hphase] using hreg
      have hbal := h.balanced_cons hen.1
      rw [holding_cons_of_ne (by simp [hphase])] at hbal
      refine h.ended hen.1 rfl rfl rfl (hbal.congr ?_)
      show List.Perm _ (holding (s.starts.erase st) ++ entryCalls (s.running.insert _ _))
      rw [entryCalls_insert _ hunused.1]
      exact List.perm_middle.symm
    case isFalse => exact h
  case h_2 => exact h

theorem popRelease (h : s.Accounted capacity) (pid : Int) : (s.popRelease pid).Accounted capacity := by
  rcases popRelease_cases pid s with ⟨-, heq⟩ | ⟨ctx, hlook, heq⟩
  · rw [heq]
    exact h
  · rw [heq]
    have hperm : s.held.Perm (ctx.call :: (holding s.starts ++ entryCalls (s.running.erase pid))) :=
      ((entryCalls_erase hlook).append_left _).trans List.perm_middle
    exact ⟨(h.balanced.congr hperm).release, h.taken, h.fresh, h.nodup, h.waiting⟩

theorem monitorEnds (h : s.Accounted capacity) (m : Monitor) : (s.monitorEnds m).Accounted capacity := by
  unfold Processes.monitorEnds
  split
  · have hdone : ({ s with monitors := s.monitors.erase m }).Accounted capacity := h.congr rfl rfl rfl rfl
    exact hdone.popRelease _
  · exact h

theorem monitorLooks (h : s.Accounted capacity) (m : Monitor) : (s.monitorLooks m).Accounted capacity := by
  unfold Processes.monitorLooks
  split
  · split
    · exact h.congr rfl rfl rfl rfl
    · exact h.monitorEnds m
  · exact h

theorem step (h : s.Accounted capacity) (policy : CommandPolicy) {e : ProcessEvent} (hreg : s.Regular e) :
    (step policy e s).Accounted capacity := by
  cases e with
  | run command => exact h.runProcess policy command
  | acquired st => exact h.acquired hreg
  | spawned st outcome => exact h.spawned outcome
  | registered st => exact h.registered hreg
  | raised st =>
    show (s.raised st).Accounted capacity
    unfold Processes.raised
    split
    case isTrue hst =>
      have hbal := h.balanced_cons hst
      rw [holding_cons_acquiring hreg] at hbal
      exact h.ended hst rfl rfl rfl hbal
    case isFalse => exact h
  | monitorLooks m => exact h.monitorLooks m
  | monitorWakes m =>
    show (s.monitorWakes m).Accounted capacity
    unfold Processes.monitorWakes
    split
    · split
      · exact h.congr rfl rfl rfl rfl
      · exact h
    · exact h
  | monitorEnds m => exact h.monitorEnds m
  | poll pid => exact h.congr rfl rfl rfl rfl
  | pollLooks pid =>
    show (s.pollLooks pid).Accounted capacity
    unfold Processes.pollLooks
    split
    · exact h.congr rfl rfl rfl rfl
    · exact h
  | pollEnds drained =>
    show (s.pollEnds drained).Accounted capacity
    unfold Processes.pollEnds
    split
    · have hunlock : ({ s with processLock := none }).Accounted capacity := h.congr rfl rfl rfl rfl
      dsimp only
      split
      · exact hunlock.popRelease _
      · exact hunlock
    · exact h
  | kill pid => exact h.congr rfl rfl rfl rfl
  | killLooks k =>
    show (s.killLooks k).Accounted capacity
    unfold Processes.killLooks
    split
    · split
      · exact h.congr rfl rfl rfl rfl
      · exact h.congr rfl rfl rfl rfl
    · exact h
  | killEnds k =>
    show (s.killEnds k).Accounted capacity
    unfold Processes.killEnds
    split
    · have hdone : ({ s with kills := s.kills.erase k }).Accounted capacity := h.congr rfl rfl rfl rfl
      exact hdone.popRelease _
    · exact h
  | killCancelled k => exact h.congr rfl rfl rfl rfl
  | exits call => exact h.congr rfl rfl rfl rfl

end Accounted

/-! ### Entries -/

section PopRelease
variable (pid : Int) (s : Processes)

@[simp] theorem popRelease_monitors : (s.popRelease pid).monitors = s.monitors := by
  rcases popRelease_cases pid s with ⟨-, heq⟩ | ⟨ctx, -, heq⟩ <;> rw [heq]

@[simp] theorem popRelease_kills : (s.popRelease pid).kills = s.kills := by
  rcases popRelease_cases pid s with ⟨-, heq⟩ | ⟨ctx, -, heq⟩ <;> rw [heq]

@[simp] theorem popRelease_processLock : (s.popRelease pid).processLock = s.processLock := by
  rcases popRelease_cases pid s with ⟨-, heq⟩ | ⟨ctx, -, heq⟩ <;> rw [heq]

theorem popRelease_lookup_self : (s.popRelease pid).running.lookup pid = none := by
  rcases popRelease_cases pid s with ⟨hlook, heq⟩ | ⟨ctx, -, heq⟩
  · rw [heq]
    exact hlook
  · rw [heq]
    exact AList.lookup_erase pid s.running

theorem popRelease_lookup_ne {pid' : Int} (h : pid' ≠ pid) :
    (s.popRelease pid).running.lookup pid' = s.running.lookup pid' := by
  rcases popRelease_cases pid s with ⟨-, heq⟩ | ⟨ctx, -, heq⟩
  · rw [heq]
  · rw [heq]
    exact AList.lookup_erase_ne h

end PopRelease

/-- Whoever may remove the entry of a pid was set on the process the entry is for, and each entry has a monitor that
will. -/
structure Owned (s : Processes) : Prop where
  monitored : ∀ {pid ctx}, s.running.lookup pid = some ctx → ∃ m ∈ s.monitors, m.call = ctx.call ∧ m.pid = pid
  monitors : ∀ m ∈ s.monitors, ∀ {ctx}, s.running.lookup m.pid = some ctx → m.call = ctx.call
  kills : ∀ k ∈ s.kills, ∀ {c}, k.ctx = some c → ∀ {ctx}, s.running.lookup k.pid = some ctx → c = ctx
  lock : ∀ {r}, s.processLock = some r → ∀ {ctx}, s.running.lookup r.pid = some ctx → r.ctx = ctx

/-- No entry is new and no monitor either; the monitor of an entry is still there, and a kill or poll with a context
has found it in the table. -/
structure Narrows (s s' : Processes) : Prop where
  running : ∀ {pid ctx}, s'.running.lookup pid = some ctx → s.running.lookup pid = some ctx
  monitor : ∀ m' ∈ s'.monitors, ∃ m ∈ s.monitors, m.call = m'.call ∧ m.pid = m'.pid
  kept : ∀ m ∈ s.monitors, (∃ m' ∈ s'.monitors, m'.call = m.call ∧ m'.pid = m.pid) ∨ s'.running.lookup m.pid = none
  kill : ∀ k ∈ s'.kills, ∀ {c}, k.ctx = some c → k ∈ s.kills ∨ s.running.lookup k.pid = some c
  lock : ∀ {r}, s'.processLock = some r → s.processLock = some r ∨ s.running.lookup r.pid = some r.ctx

theorem Owned.narrow {s s' : Processes} (h : s.Owned) (hn : s.Narrows s') : s'.Owned where
  monitored := by
    intro pid ctx hlook
    obtain ⟨m, hm, hcall, rfl⟩ := h.monitored (hn.running hlook)
    rcases hn.kept m hm with ⟨m', hm', hcall', hpid⟩ | hnone
    · exact ⟨m', hm', hcall'.trans hcall, hpid⟩
    · cases hnone.symm.trans hlook
  monitors := by
    intro m' hm' ctx hlook
    obtain ⟨m, hm, hcall, hpid⟩ := hn.monitor m' hm'
    exact hcall ▸ h.monitors m hm (hpid ▸ hn.running hlook)
  kills := by
    intro k hk c hctx ctx hlook
    rcases hn.kill k hk hctx with hold | hfound
    · exact h.kills k hold hctx (hn.running hlook)
    · exact Option.some.inj (hfound.symm.trans (hn.running hlook))
  lock := by
    intro r hr ctx hlook
    rcases hn.lock hr with hold | hfound
    · exact h.lock hold (hn.running hlook)
    · exact Option.some.inj (hfound.symm.trans (hn.running hlook))

namespace Narrows
variable {s t : Processes} {m m' : Monitor}

theorem of_eq (hrun : t.running = s.running) (hmon : t.monitors = s.monitors) (hkill : t.kills = s.kills)
    (hlock : t.processLock = s.processLock) : s.Narrows t := by
  refine ⟨?_, ?_, ?_, ?_, ?_⟩ <;> simp only [hrun, hmon, hkill, hlock]
  · exact fun h => h
  · exact fun m hm => ⟨m, hm, rfl, rfl⟩
  · exact fun m hm => .inl ⟨m, hm, rfl, rfl⟩
  · exact fun k hk _ _ => .inl hk
  · exact fun h => .inl h

theorem monitor_phase (hm : m ∈ s.monitors) (hcall : m'.call = m.call) (hpid : m'.pid = m.pid) :
    s.Narrows { s with monitors := m' :: s.monitors.erase m } where
  running := fun h => h
  monitor := by
    intro m₁ hm₁
    rcases List.mem_cons.1 hm₁ with rfl | hm₁
    · exact ⟨m, hm, hcall.symm, hpid.symm⟩
    · exact ⟨m₁, List.mem_of_mem_erase hm₁, rfl, rfl⟩
  kept := by
    intro m₁ hm₁
    by_cases heq : m₁ = m
    · subst heq
      exact .inl ⟨m', List.mem_cons_self .., hcall, hpid⟩
    · exact .inl ⟨m₁, List.mem_cons_of_mem _ ((List.mem_erase_of_ne heq).2 hm₁), rfl, rfl⟩
  kill := fun _ hk _ _ => .inl hk
  lock := fun h => .inl h

/-- A user of the table is done with a pid, which it removes. -/
theorem popRelease {pid : Int} (hrun : t.running = s.running) (hmon : ∀ m ∈ t.monitors, m ∈ s.monitors)
    (hkept : ∀ m ∈ s.monitors, m ∈ t.monitors ∨ m.pid = pid) (hkill : ∀ k ∈ t.kills, k ∈ s.kills)
    (hlock : ∀ {r}, t.processLock = some r → s.processLock = some r) : s.Narrows (t.popRelease pid) where
  running := by
    intro pid' ctx hlook
    by_cases heq : pid' = pid
    · subst heq
      cases (popRelease_lookup_self pid' t).symm.trans hlook
    · rw [popRelease_lookup_ne pid t heq, hrun] at hlook
      exact hlook
  monitor := by
    intro m hm
    rw [popRelease_monitors] at hm
    exact ⟨m, hmon m hm, rfl, rfl⟩
  kept := by
    intro m hm
    rw [popRelease_monitors]
    rcases hkept m hm with hmem | rfl
    · exact .inl ⟨m, hmem, rfl, rfl⟩
    · exact .inr (popRelease_lookup_self m.pid t)
  kill := by
    intro k hk c _
    rw [popRelease_kills] at hk
    exact .inl (hkill k hk)
  lock := by
    intro r hr
    rw [popRelease_processLock] at hr
    exact .inl (hlock hr)

/-- The monitor of a pid without an entry may end. -/
theorem monitorEnds (m : Monitor) : s.Narrows (s.monitorEnds m) := by
  unfold Processes.monitorEnds
  split
  · refine popRelease rfl (fun m' hm' => List.mem_of_mem_erase hm') (fun m' hm' => ?_) (fun k hk => hk) fun h => h
    by_cases heq : m' = m
    · exact .inr (heq ▸ rfl)
    · exact .inl ((List.mem_erase_of_ne heq).2 hm')
  · exact of_eq rfl rfl rfl rfl

theorem pollEnds (drained : Bool) : s.Narrows (s.pollEnds drained) := by
  unfold Processes.pollEnds
  split
  · dsimp only
    split
    · refine popRelease rfl (fun m hm => hm) (fun m hm => .inl hm) (fun k hk => hk) fun h => ?_
      cases h
    · refine ⟨fun h => h, fun m hm => ⟨m, hm, rfl, rfl⟩, fun m hm => .inl ⟨m, hm, rfl, rfl⟩,
        fun k hk _ _ => .inl hk, ?_⟩
      intro r hr
      cases hr
  · exact of_eq rfl rfl rfl rfl

theorem pollLooks (pid : Int) : s.Narrows (s.pollLooks pid) := by
  unfold Processes.pollLooks
  split
  · refine ⟨fun h => h, fun m hm => ⟨m, hm, rfl, rfl⟩, fun m hm => .inl ⟨m, hm, rfl, rfl⟩, fun k hk _ _ => .inl hk, ?_⟩
    intro r hr
    obtain ⟨ctx, hlook, rfl⟩ := Option.map_eq_some_iff.1 hr
    exact .inr hlook
  · exact of_eq rfl rfl rfl rfl

theorem kills {ks : List ProcessKill}
    (hks : ∀ k ∈ ks, ∀ {c}, k.ctx = some c → k ∈ s.kills ∨ s.running.lookup k.pid = some c) :
    s.Narrows { s with kills := ks } :=
  ⟨fun h => h, fun m hm => ⟨m, hm, rfl, rfl⟩, fun m hm => .inl ⟨m, hm, rfl, rfl⟩, hks, fun h => .inl h⟩

theorem killLooks (k : ProcessKill) : s.Narrows (s.killLooks k) := by
  unfold Processes.killLooks
  split
  · split
    case h_1 ctx hlook =>
      refine kills fun k' hk' c hc => ?_
      rcases List.mem_cons.1 hk' with rfl | hk'
      · cases hc
        exact .inr hlook
      · exact .inl (List.mem_of_mem_erase hk')
    case h_2 => exact kills fun k' hk' _ _ => .inl (List.mem_of_mem_erase hk')
  · exact of_eq rfl rfl rfl rfl

theorem killEnds (k : ProcessKill) : s.Narrows (s.killEnds k) := by
  unfold Processes.killEnds
  split
  · exact popRelease rfl (fun m hm => hm) (fun m hm => .inl hm) (fun k' hk' => List.mem_of_mem_erase hk') fun h => h
  · exact of_eq rfl rfl rfl rfl

end Narrows

/-- Every step narrows the table but the one that registers. -/
theorem step_narrows (policy : CommandPolicy) (s : Processes) {e : ProcessEvent} (he : ∀ st, e ≠ .registered st) :
    s.Narrows (step policy e s) := by
  cases e with
  | run command =>
    show s.Narrows (s.runProcess policy command)
    unfold runProcess
    split <;> exact .of_eq rfl rfl rfl rfl
  | acquired st =>
    show s.Narrows (s.acquired st)
    unfold acquired
    split
    · dsimp only
      split <;> exact .of_eq rfl rfl rfl rfl
    · exact .of_eq rfl rfl rfl rfl
  | spawned st outcome =>
    show s.Narrows (s.spawned st outcome)
    unfold spawned
    split
    · cases outcome <;> exact .of_eq rfl rfl rfl rfl
    · exact .of_eq rfl rfl rfl rfl
  | registered st => exact absurd rfl (he st)
  | raised st =>
    show s.Narrows (s.raised st)
    unfold raised
    split <;> exact .of_eq rfl rfl rfl rfl
  | monitorLooks m =>
    show s.Narrows (s.monitorLooks m)
    unfold monitorLooks
    split
    case isTrue hen =>
      split
      · exact .monitor_phase hen.1 rfl rfl
      · exact .monitorEnds m
    case isFalse => exact .of_eq rfl rfl rfl rfl
  | monitorWakes m =>
    show s.Narrows (s.monitorWakes m)
    unfold monitorWakes
    split
    · split
      case isTrue hm => exact .monitor_phase hm rfl rfl
      case isFalse => exact .of_eq rfl rfl rfl rfl
    · exact .of_eq rfl rfl rfl rfl
  | monitorEnds m => exact .monitorEnds m
  | poll pid => exact .of_eq rfl rfl rfl rfl
  | pollLooks pid => exact .pollLooks pid
  | pollEnds drained => exact .pollEnds drained
  | kill pid =>
    refine .kills fun k hk c hc => ?_
    rcases List.mem_cons.1 hk with rfl | hk
    · cases hc
    · exact .inl hk
  | killLooks k => exact .killLooks k
  | killEnds k => exact .killEnds k
  | killCancelled k => exact .kills fun k' hk' _ _ => .inl (List.mem_of_mem_erase hk')
  | exits call => exact .of_eq rfl rfl rfl rfl

namespace Owned
variable {s : Processes}

theorem init (processMaxConcurrent : Nat) : (init processMaxConcurrent).Owned where
  monitored := by
    intro pid ctx h
    cases h
  monitors := by simp [Processes.init]
  kills := by simp [Processes.init]
  lock := by
    intro r h
    cases h

/-- A new entry for an unused pid has its monitor, and no other user. -/
theorem insert (h : s.Owned) {pid : Int} {ctx : ProcessContext} {m : Monitor} (hunused : s.PidUnused pid)
    (hlock : s.processLock = none) (hcall : m.call = ctx.call) (hpid : m.pid = pid) {slots : Semaphore Nat}
    {starts : List ProcessStart} :
    ({ s with
      slots := slots
      starts := starts
      running := s.running.insert pid ctx
      monitors := m :: s.monitors }).Owned := by
  obtain ⟨-, hmon, hkill⟩ := hunused
  refine ⟨fun {pid' ctx'} hlook => ?_, fun m' hm' ctx' hlook => ?_, fun k hk c hc ctx' hlook => ?_, fun {r} hr => ?_⟩
  · by_cases heq : pid' = pid
    · subst heq
      cases (AList.lookup_insert s.running).symm.trans hlook
      exact ⟨m, List.mem_cons_self .., hcall, hpid⟩
    · obtain ⟨m', hm', hown⟩ := h.monitored ((AList.lookup_insert_ne heq).symm.trans hlook)
      exact ⟨m', List.mem_cons_of_mem _ hm', hown⟩
  · rcases List.mem_cons.1 hm' with rfl | hm'
    · subst hpid
      cases (AList.lookup_insert s.running).symm.trans hlook
      exact hcall
    · exact h.monitors m' hm' ((AList.lookup_insert_ne (hmon m' hm')).symm.trans hlook)
  · have hne : k.pid ≠ pid := hkill k hk (by simp [hc])
    exact h.kills k hk hc ((AList.lookup_insert_ne hne).symm.trans hlook)
  · cases hlock.symm.trans hr

theorem step (h : s.Owned) (policy : CommandPolicy) {e : ProcessEvent} (hreg : s.Regular e) :
    (step policy e s).Owned := by
  by_cases he : ∃ st, e = .registered st
  · obtain ⟨st, rfl⟩ := he
    show (s.registered st).Owned
    unfold registered
    split
    case h_1 ospid hphase =>
      have hunused : s.PidUnused (ProcessContext.pid ⟨st.call, ospid⟩) := by
        simpa only [Regular, hphase] using hreg
      split
      case isTrue hen => exact h.insert hunused hen.2 rfl rfl
      case isFalse => exact h
    case h_2 => exact h
  · exact h.narrow (step_narrows policy s fun st heq => he ⟨st, heq⟩)

end Owned

/-- The steps that may change the table. -/
def touches : ProcessEvent → Bool
  | .registered _ | .monitorLooks _ | .monitorEnds _ | .pollEnds _ | .killEnds _ => true
  | _ => false

theorem step_running (policy : CommandPolicy) (s : Processes) {e : ProcessEvent} (he : touches e = false) :
    (step policy e s).running = s.running := by
  cases e with
  | run command =>
    show (s.runProcess policy command).running = _
    unfold runProcess
    split <;> rfl
  | acquired st =>
    show (s.acquired st).running = _
    unfold acquired
    dsimp only
    split
    · split <;> rfl
    · rfl
  | spawned st outcome =>
    show (s.spawned st outcome).running = _
    unfold spawned
    split
    · cases outcome <;> rfl
    · rfl
  | raised st =>
    show (s.raised st).running = _
    unfold raised
    split <;> rfl
  | monitorWakes m =>
    show (s.monitorWakes m).running = _
    unfold monitorWakes
    split
    · split <;> rfl
    · rfl
  | pollLooks pid =>
    show (s.pollLooks pid).running = _
    unfold pollLooks
    split <;> rfl
  | killLooks k =>
    show (s.killLooks k).running = _
    unfold killLooks
    split
    · split <;> rfl
    · rfl
  | poll _ | kill _ | killCancelled _ | exits _ => rfl
  | registered _ | monitorLooks _ | monitorEnds _ | pollEnds _ | killEnds _ => cases he

/-- What is gone after a removal had the pid of it. -/
theorem pid_of_popRelease {s : Processes} {pid pid' : Int} {ctx : ProcessContext}
    (hgone : (s.popRelease pid).running.lookup pid' ≠ some ctx) (hlook : s.running.lookup pid' = some ctx) :
    pid' = pid := by
  by_contra hne
  rw [popRelease_lookup_ne pid s hne] at hgone
  exact hgone hlook

/-- Under ownership a regular step removes its own entry at most. -/
theorem Owned.spares {s : Processes} (h : s.Owned) (policy : CommandPolicy) {e : ProcessEvent} (hreg : s.Regular e) :
    s.SparesOthers policy e := by
  intro pid ctx hlook hgone
  have hend : ∀ m : Monitor, (s.monitorEnds m).running.lookup pid ≠ some ctx → some m.call = some ctx.call := by
    intro m hgone
    unfold monitorEnds at hgone
    split at hgone
    case isTrue hm =>
      obtain rfl := pid_of_popRelease hgone hlook
      rw [h.monitors m hm hlook]
    case isFalse => exact absurd hlook hgone
  cases e with
  | registered st =>
    change (s.registered st).running.lookup pid ≠ some ctx at hgone
    unfold registered at hgone
    split at hgone
    case h_1 ospid hphase =>
      have hunused : s.PidUnused (ProcessContext.pid ⟨st.call, ospid⟩) := by
        simpa only [Regular, hphase] using hreg
      split at hgone
      · have hne : pid ≠ ProcessContext.pid ⟨st.call, ospid⟩ := by
          rintro rfl
          cases hunused.1.symm.trans hlook
        exact absurd ((AList.lookup_insert_ne hne).trans hlook) hgone
      · exact absurd hlook hgone
    case h_2 => exact absurd hlook hgone
  | monitorEnds m => exact hend m hgone
  | monitorLooks m =>
    change (s.monitorLooks m).running.lookup pid ≠ some ctx at hgone
    unfold monitorLooks at hgone
    split at hgone
    · split at hgone
      · exact absurd hlook hgone
      · exact hend m hgone
    · exact absurd hlook hgone
  | pollEnds drained =>
    change (s.pollEnds drained).running.lookup pid ≠ some ctx at hgone
    unfold pollEnds at hgone
    split at hgone
    case h_1 r hr =>
      dsimp only at hgone
      split at hgone
      · obtain rfl := pid_of_popRelease hgone hlook
        show Option.map _ s.processLock = _
        rw [hr, ← h.lock hr hlook]
        rfl
      · exact absurd hlook hgone
    case h_2 => exact absurd hlook hgone
  | killEnds k =>
    change (s.killEnds k).running.lookup pid ≠ some ctx at hgone
    unfold killEnds at hgone
    split at hgone
    case isTrue hen =>
      obtain rfl := pid_of_popRelease hgone hlook
      obtain ⟨c, hc⟩ := Option.ne_none_iff_exists'.1 hen.2
      show Option.map _ k.ctx = _
      rw [hc, h.kills k hen.1 hc hlook]
      rfl
    case isFalse => exact absurd hlook hgone
  | run _ | acquired _ | spawned _ _ | raised _ | monitorWakes _ | poll _ | pollLooks _ | kill _ | killLooks _
  | killCancelled _ | exits _ =>
    rw [step_running policy s rfl] at hgone
    exact absurd hlook hgone

/-! ### Runs -/

theorem Accounted.conserved {capacity : Nat} {s : Processes} (h : s.Accounted capacity) (hown : s.Owned) :
    s.Conserved capacity where
  permits := by
    intro hnone
    have hvalue := h.balanced.value_add_length
    rw [held, hnone] at hvalue
    simpa [holding, entryCalls] using hvalue
  once := by
    intro call
    have hone := List.nodup_iff_count_le_one.1 h.balanced.nodup call
    refine ⟨?_, hone⟩
    rw [h.balanced.perm.count_eq, List.count_append]
    exact Nat.le_add_left ..
  returned := by
    intro call hcall
    rcases List.mem_append.1 (h.balanced.perm.mem_iff.1 hcall) with hheld | hret
    · rcases List.mem_append.1 hheld with hstart | hentry
      · exact .inr (.inl (mem_holding hstart))
      · obtain ⟨pid, ctx, hlook, rfl⟩ := mem_entryCalls hentry
        exact .inr (.inr ⟨pid, ctx, hlook, rfl, hown.monitored hlook⟩)
    · exact .inl hret

/-- In a run whose starts raise nothing unexpected and find their pids unused, the permits are conserved and nobody
removes the entry of another process. -/
theorem process_slots_conserved (policy : CommandPolicy) (capacity : Nat) {es : List ProcessEvent}
    (h : Run.Along (step policy) Regular (init capacity) es) :
    (Run.run (step policy) (init capacity) es).Conserved capacity ∧
    Run.Along (step policy) (SparesOthers policy) (init capacity) es := by
  have hstep : ∀ s e, s.Accounted capacity ∧ s.Owned → s.Regular e →
      (step policy e s).Accounted capacity ∧ (step policy e s).Owned :=
    fun s e hs hreg => ⟨hs.1.step policy hreg, hs.2.step policy hreg⟩
  have hinit : (init capacity).Accounted capacity ∧ (init capacity).Owned := ⟨.init capacity, .init capacity⟩
  have hrun := h.invariant (I := fun s => s.Accounted capacity ∧ s.Owned) hstep hinit
  exact ⟨hrun.1.conserved hrun.2, h.of_invariant hstep (fun s e hs hreg => hs.2.spares policy hreg) hinit⟩

/-- A call of `_run_process` that goes well. -/
def started (command : Text) (call ospid : Nat) : List ProcessEvent :=
  [.run command, .acquired ⟨call, command, .acquiring⟩, .spawned ⟨call, command, .spawning⟩ (.spawned ospid),
    .registered ⟨call, command, .registering ospid⟩]

/-- Two processes, one of them polled to its end, the other killed. -/
theorem process_slots_conserved_two :
    let es := started "ls -l".toList 0 70000 ++ started "top".toList 1 4465 ++
      [.exits 0, .poll 4464, .pollLooks 4464, .pollEnds true, .kill 4465, .killLooks ⟨4465, none⟩,
        .killEnds ⟨4465, some ⟨1, 4465⟩⟩]
    Run.Along (step .wildcard) Regular (init 2) es ∧ (Run.run (step .wildcard) (init 2) es).Conserved 2 ∧
    Run.Along (step .wildcard) (SparesOthers .wildcard) (init 2) es := by
  have h : Run.Along (step .wildcard) Regular (init 2) (started "ls -l".toList 0 70000 ++
      started "top".toList 1 4465 ++ [.exits 0, .poll 4464, .pollLooks 4464, .pollEnds true, .kill 4465,
        .killLooks ⟨4465, none⟩, .killEnds ⟨4465, some ⟨1, 4465⟩⟩]) := by
    decide +kernel
  exact ⟨h, process_slots_conserved .wildcard 2 h⟩

/-- A quotation that does not end costs a permit for good, and a process whose pid is that of a live one modulo 2^16
takes the place of its entry. -/
theorem process_slots_fail :
    (let s := Run.run (step .wildcard) (init 1) [.run "ls '".toList, .acquired ⟨0, "ls '".toList, .acquiring⟩]
     s.starts = [] ∧ s.slots.value = 0 ∧ s.running.entries = [] ∧ ¬ s.Conserved 1) ∧
    (let s := Run.run (step .wildcard) (init 2) (started "top".toList 0 4464 ++ [.run "top".toList,
        .acquired ⟨1, "top".toList, .acquiring⟩, .spawned ⟨1, "top".toList, .spawning⟩ (.spawned 70000)])
     let e := ProcessEvent.registered ⟨1, "top".toList, .registering 70000⟩
     s.running.lookup 4464 = some ⟨0, 4464⟩ ∧ 0 ∉ s.exited ∧
     (step .wildcard e s).running.lookup 4464 = some ⟨1, 70000⟩ ∧ ¬ s.SparesOthers .wildcard e) := by
  refine ⟨?_, ?_⟩
  · refine ⟨by decide +kernel, by decide +kernel, by decide +kernel, fun h => ?_⟩
    have hpermits := h.permits (by decide +kernel)
    revert hpermits
    decide +kernel
  · refine ⟨by decide +kernel, by decide +kernel, by decide +kernel, fun h => ?_⟩
    have hown := h 4464 ⟨0, 4464⟩ (by decide +kernel) (by decide +kernel)
    revert hown
    decide +kernel

end Processes
end Daemon
end McuBridge
