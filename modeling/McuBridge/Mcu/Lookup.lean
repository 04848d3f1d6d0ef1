import McuBridge.Lib.BinarySearch
import McuBridge.Mcu.Dispatch

/-! # Looking a command up in the dispatch table

The binary search returns only entries filed under the command it was asked for (`findHandler_mem`), and
in a table sorted by command id it returns what a scan returns (`findHandler_eq_lookup`). `k_dispatch_table` is
sorted, whichever of its blocks are compiled. -/

namespace McuBridge
namespace Mcu
open BinarySearch

/-- The binary search returns entries of the table, filed under the command searched for. -/
theorem searchLoop_mem {α : Type} {table : List (UInt16 × α)} {cmd : UInt16} {fn : α} (fuel : Nat)
    (left right : Int) (h : searchLoop table cmd fuel left right = some fn) : (cmd, fn) ∈ table := by
  induction fuel generalizing left right with
  | zero => cases h
  | succ fuel ih =>
    unfold searchLoop at h
    dsimp only at h
    split at h
    · split at h
      · cases h
      case h_2 midCmd fn' heq =>
        split at h
        · obtain rfl : fn' = fn := Option.some.inj h
          obtain rfl : midCmd = cmd := ‹_›
          exact List.mem_of_getElem? heq
        split at h
        · exact ih _ _ h
        · exact ih _ _ h
    · cases h

theorem findHandler_mem {α : Type} {table : List (UInt16 × α)} {cmd : UInt16} {fn : α}
    (h : findHandler table cmd = some fn) : (cmd, fn) ∈ table :=
  searchLoop_mem _ _ _ h

instance : IsStrictTotalOrder UInt16 (· < ·) where
  trichotomous _ _ h h' := UInt16.le_antisymm (UInt16.not_lt.1 h') (UInt16.not_lt.1 h)
  irrefl _ := UInt16.lt_irrefl _
  trans _ _ _ := UInt16.lt_trans

/-- The loop with fuel is the library's loop, run for as many iterations. -/
theorem searchLoop_eq {α : Type} (table : List (UInt16 × α)) (cmd : UInt16) (fuel : Nat) {left right : Int}
    (h0 : 0 ≤ left) :
    searchLoop table cmd fuel left right = ((BinarySearch.step table cmd)^[fuel] (.searching left right)).result := by
  induction fuel generalizing left right with
  | zero => rfl
  | succ fuel ih =>
    have hstay : ∀ s : Search α, BinarySearch.step table cmd s = s → (BinarySearch.step table cmd)^[fuel] s = s :=
      fun s h => Function.iterate_fixed h fuel
    rw [Function.iterate_succ_apply]
    by_cases hopen : left ≤ right
    · have hmid : ¬ left + (right - left) / 2 < 0 := by omega
      simp only [searchLoop, BinarySearch.step, if_pos hopen, if_neg hmid]
      cases hget : table[(left + (right - left) / 2).toNat]? with
      | none =>
        dsimp only
        rw [hstay _ rfl]
        rfl
      | some e =>
        dsimp only
        split
        case isTrue =>
          rw [hstay _ rfl]
          rfl
        case isFalse =>
          split
          case isTrue => exact ih (by omega)
          case isFalse => exact ih h0
    · simp only [searchLoop, BinarySearch.step, if_neg hopen]
      rw [hstay _ rfl]
      rfl

theorem findHandler_eq_lookup {α : Type} {table : List (UInt16 × α)} (hs : Sorted table) (cmd : UInt16) :
    findHandler table cmd = table.lookup cmd := by
  unfold findHandler
  rw [searchLoop_eq table cmd _ (Int.le_refl 0)]
  exact congrArg Search.result (after_done hs)

theorem findHandler_eq {α : Type} {table : List (UInt16 × α)} {cmd : UInt16} {fn : α}
    (hs : table.Pairwise fun a b => a.1 < b.1) (h : (cmd, fn) ∈ table) : findHandler table cmd = some fn :=
  (findHandler_eq_lookup hs cmd).trans (lookup_of_mem hs h)

theorem kDispatchTable_sorted (P : Platform) : (kDispatchTable P).Pairwise fun a b => a.1 < b.1 := by
  have h : ((kDispatchTable P).map Prod.fst).Pairwise (· < ·) := by
    simp only [kDispatchTable, List.map_cons, List.map_nil]
    decide
  exact List.pairwise_map.1 h

/-! ### The feature flags -/

/-- The `BRIDGE_ENABLE_*` flags of `bridge_config.h` that `k_dispatch_table` depends on. -/
structure FeatureFlags where
  datastore : Bool
  mailbox : Bool
  filesystem : Bool
  process : Bool
  spi : Bool

namespace FeatureFlags

def default : FeatureFlags := ⟨true, true, true, true, true⟩

/-- The commands whose entries stand between `#if` and `#endif`, with the flag of the `#if`. -/
def blocks (F : FeatureFlags) : List (Bool × List Command) :=
  [(F.datastore, [.datastoreGetResp]),
    (F.mailbox, [.mailboxPush, .mailboxReadResp, .mailboxAvailableResp]),
    (F.filesystem, [.fileWrite, .fileRead, .fileRemove, .fileReadResp]),
    (F.process, [.processKill, .processRunAsyncResp, .processPollResp]),
    (F.spi, [.spiBegin, .spiTransfer, .spiEnd, .spiSetConfig])]

def compiles (F : FeatureFlags) (cmd : UInt16) : Bool :=
  F.blocks.all fun (enabled, cmds) => enabled || cmds.all fun c => c.toUnderlying != cmd

end FeatureFlags

/-- `k_dispatch_table` as it is compiled. -/
def kDispatchTableWith (P : Platform) (F : FeatureFlags) : List (UInt16 × Handler) :=
  (kDispatchTable P).filter fun e => F.compiles e.1

example : ((kDispatchTableWith .sample ⟨false, false, false, false, true⟩).map Prod.fst).drop 15 =
    [Command.consoleWrite, .spiBegin, .spiTransfer, .spiEnd, .spiSetConfig].map Command.toUnderlying := by
  decide +kernel

/-- `_dispatchCommand` after the duplicate bookkeeping, with the table as it is compiled. -/
def dispatchContextWith (P : Platform) (F : FeatureFlags) (hal : Hal) (ctx : CommandContext) (s : Mcu) : Mcu :=
  if !s.isSecurityCheckPassed ctx.rawCommand then
    (s.sendFrame P Status.error.toUnderlying ctx.sequenceId []).1
  else if ctx.rawCommand = Status.ok.toUnderlying then s.processAck P ctx.rawCommand ctx.sequenceId
  else if ctx.rawCommand = Status.malformed.toUnderlying then s.enterSafeState
  else
    match findHandler (kDispatchTableWith P F) ctx.rawCommand with
    | some handler => handler hal ctx s
    | none => s.onUnknownCommand P ctx

variable (P : Platform)

theorem kDispatchTableWith_default : kDispatchTableWith P .default = kDispatchTable P :=
  List.filter_eq_self.2 fun _ _ => rfl

theorem dispatchContextWith_default (hal : Hal) (ctx : CommandContext) (s : Mcu) :
    dispatchContextWith P .default hal ctx s = dispatchContext P hal ctx s := by
  unfold dispatchContextWith
  rw [kDispatchTableWith_default]
  rfl

theorem kDispatchTableWith_sorted (F : FeatureFlags) : Sorted (kDispatchTableWith P F) :=
  (kDispatchTable_sorted P).filter _

/-- The commands that `_dispatchCommand` handles before it looks are not in the table. -/
theorem kDispatchTable_ne : ∀ e ∈ kDispatchTable P, e.1 ≠ Status.ok.toUnderlying ∧ e.1 ≠ Status.malformed.toUnderlying := by
  have h : Status.ok.toUnderlying ∉ (kDispatchTable P).map Prod.fst ∧
      Status.malformed.toUnderlying ∉ (kDispatchTable P).map Prod.fst := by
    simp only [kDispatchTable, List.map_cons, List.map_nil]
    decide
  intro e he
  have hmem : e.1 ∈ (kDispatchTable P).map Prod.fst := List.mem_map_of_mem he
  exact ⟨fun hok => h.1 (hok ▸ hmem), fun hmalformed => h.2 (hmalformed ▸ hmem)⟩

variable {P} in
theorem dispatchContextWith_listed {F : FeatureFlags} {e : UInt16 × Handler} (he : e ∈ kDispatchTableWith P F)
    (hal : Hal) {ctx : CommandContext} {s : Mcu} (hctx : ctx.rawCommand = e.1)
    (hpass : s.isSecurityCheckPassed e.1 = true) : dispatchContextWith P F hal ctx s = e.2 hal ctx s := by
  obtain ⟨hok, hmalformed⟩ := kDispatchTable_ne P e (List.mem_of_mem_filter he)
  unfold dispatchContextWith
  rw [hctx, hpass, if_neg (by decide), if_neg hok, if_neg hmalformed, findHandler_eq (kDispatchTableWith_sorted P F) he]

/-- The loop ends and finds what a scan from the first entry on finds; it reads inside the table only, and its `int`
variables stay between -1 and the length of the table. -/
structure FindsHandler {α : Type} (table : List (UInt16 × α)) (cmd : UInt16) : Prop where
  ends : ∃ n, BinarySearch.after table cmd n = .done (table.lookup cmd)
  inside : ∀ n, BinarySearch.after table cmd n ≠ .outside
  bounds : ∀ n left right, BinarySearch.after table cmd n = .searching left right →
    0 ≤ left ∧ left ≤ right + 1 ∧ right < table.length
  found : findHandler table cmd = table.lookup cmd

theorem dispatch_lookup {α : Type} (table : List (UInt16 × α)) (hs : table.Pairwise fun a b => a.1 < b.1)
    (cmd : UInt16) (F : FeatureFlags) :
    FindsHandler table cmd ∧ ((kDispatchTableWith P F).Pairwise fun a b => a.1 < b.1) ∧
      ∀ e ∈ kDispatchTableWith P F, ∀ (hal : Hal) (ctx : CommandContext) (s : Mcu), ctx.rawCommand = e.1 →
        s.isSecurityCheckPassed e.1 = true → dispatchContextWith P F hal ctx s = e.2 hal ctx s := by
  refine ⟨⟨⟨_, after_done hs⟩, after_ne_outside hs, fun n left right hstate => ?_, findHandler_eq_lookup hs cmd⟩,
    kDispatchTableWith_sorted P F, fun e he hal ctx s hctx hpass => dispatchContextWith_listed he hal hctx hpass⟩
  have h := sound_after hs cmd n
  rw [hstate] at h
  exact ⟨h.1.left_nonneg, h.1.left_le, h.1.right_lt⟩

theorem dispatch_lookup_sample :
    findHandler [((64 : UInt16), 'v'), (68, 's'), (70, 'r')] 68 = some 's' ∧
      (kDispatchTableWith .sample ⟨false, true, false, true, false⟩).Pairwise fun a b => a.1 < b.1 := by
  obtain ⟨hfinds, hsorted, -⟩ := dispatch_lookup .sample [((64 : UInt16), 'v'), (68, 's'), (70, 'r')] (by decide) 68
    ⟨false, true, false, true, false⟩
  exact ⟨hfinds.found, hsorted⟩

end Mcu
end McuBridge
