import Mathlib.Algebra.Order.BigOperators.Group.List
import Mathlib.Algebra.Order.Ring.Nat
import Mathlib.Data.List.AList
import McuBridge.Daemon.Sandbox

/-! # Quotas of the file sandbox (`services/runtime.py`)

The cloud and the MCU write files through `_write_with_quota`. It holds a write against the free space of the disk;
neither `file_write_max_bytes` nor `file_storage_quota_bytes` is read anywhere but in `validate_config`. -/

namespace McuBridge
namespace Daemon

/-! ### The files below the root -/

abbrev Files := AList fun _ : Text => Bytes

namespace Files
variable (files : Files)

def total : Nat := (files.entries.map fun e => e.2.length).sum

def disk : Disk := fun path => files.lookup path

theorem total_insert (path : Text) (data : Bytes) :
    total (files.insert path data) = data.length + total (files.erase path) := by
  unfold total
  rw [AList.entries_insert, List.map_cons, List.sum_cons]
  rfl

theorem total_erase_le (path : Text) : total (files.erase path) ≤ total files :=
  ((List.kerase_sublist path files.entries).map _).sum_le_sum fun _ _ => Nat.zero_le _

theorem disk_insert (path : Text) (data : Bytes) :
    disk (files.insert path data) = Function.update files.disk path (some data) := by
  funext p
  by_cases hp : p = path
  · subst hp
    rw [Function.update_self]
    exact AList.lookup_insert files
  · rw [Function.update_of_ne hp]
    exact AList.lookup_insert_ne hp

end Files

/-! ### Calls -/

/-- What a command does with a file of the host. -/
inductive FileCall where
  | write (path : Text) (data : Bytes)
  | remove (path : Text)

/-- The call that `_handle_file`, `_on_mcu_file_write` or `_on_mcu_file_remove` makes of a command, on an open port. -/
def FileCommand.call (h : McuHost) : FileCommand → Option FileCall
  | cloud route req =>
    let target := joinSlash route.remainder
    match route.action with
    | none => none
    | some act =>
      if act.isEmpty || target.isEmpty then none
      else if Service.mcuFsPrefix.isPrefixOf target then none
      else
        match h.safePath target with
        | none => none
        | some path =>
          if act = "write".toList then some (.write path req.payload)
          else if act = "remove".toList then some (.remove path)
          else none
  | mcuWrite path data => (h.safePath (h.text path)).map fun p => .write p data
  | mcuRemove path => (h.safePath (h.text path)).map .remove

structure DiskUsage where
  used : Nat
  free : Nat

/-- What the operating system answers to a write: `usage` is `none` where `disk_usage` raises, `mkdir` says whether the
parents can be made, and `fault` is there where `write_bytes` raises: before the file is open, or after some bytes. -/
structure WriteIo where
  usage : Option DiskUsage
  mkdir : Bool := true
  fault : Option (Option Nat) := none

namespace WriteIo
variable (io : WriteIo)

/-- `usage.free < len(data)` -/
def refuses (data : Bytes) : Bool := io.usage.any fun u => u.free < data.length

def succeeds : Bool := io.mkdir && io.fault.isNone

/-- What is in the file afterwards; `none` if it was not opened. -/
def content (data : Bytes) : Option Bytes :=
  if io.mkdir then
    match io.fault with
    | none => some data
    | some none => none
    | some (some n) => some (data.take n)
  else none

end WriteIo

inductive WriteResult where
  | written | refused | raised
  deriving DecidableEq

structure FileState where
  files : Files
  fileStorageBytesUsed : Nat := 0
  fileStorageLimitRejections : Nat := 0

namespace FileState
variable (s : FileState)

/-- `_write_with_quota`; a check of the disk that fails is logged, and the write goes on. -/
def writeWithQuota (io : WriteIo) (path : Text) (data : Bytes) : FileState × WriteResult :=
  let s := match io.usage with
    | some u => { s with fileStorageBytesUsed := u.used }
    | none => s
  if io.refuses data then ({ s with fileStorageLimitRejections := s.fileStorageLimitRejections + 1 }, .refused)
  else
    let s := match io.content data with
      | some b => { s with files := s.files.insert path b }
      | none => s
    (s, if io.succeeds then .written else .raised)

end FileState

/-- A command, with what the operating system answers to it. -/
structure FileEvent where
  command : FileCommand
  io : WriteIo
  unlinks : Bool := true

namespace FileState
variable (h : McuHost)

/-- The state and, for a write, its result. -/
def exec (e : FileEvent) (s : FileState) : FileState × Option WriteResult :=
  match e.command.call h with
  | none => (s, none)
  | some (.write path data) =>
    let r := s.writeWithQuota e.io path data
    (r.1, some r.2)
  | some (.remove path) => (if e.unlinks then { s with files := s.files.erase path } else s, none)

def step (e : FileEvent) (s : FileState) : FileState := (exec h e s).1

/-- What the configured limits ask of a step. -/
structure Respects (cfg : RuntimeConfig) (s : FileState) (e : FileEvent) : Prop where
  accepted : ∀ path data, e.command.call h = some (.write path data) → (exec h e s).2 = some .written →
    data.length ≤ cfg.fileWriteMaxBytes.toNat
  quota : (step h e s).files.total ≤ cfg.fileStorageQuotaBytes.toNat
  refused : (exec h e s).2 = some .refused →
    (step h e s).files = s.files ∧ (step h e s).fileStorageLimitRejections = s.fileStorageLimitRejections + 1

/-- A write that there is room for on the disk is within the limits: all of it in `file_write_max_bytes`, if it
succeeds, and what comes into its file in the quota together with the other files. -/
def CallWithinLimits (cfg : RuntimeConfig) (s : FileState) (io : WriteIo) : FileCall → Prop
  | .write path data => io.refuses data = false →
    (io.succeeds = true → data.length ≤ cfg.fileWriteMaxBytes.toNat) ∧
      ∀ b ∈ io.content data, b.length + Files.total (s.files.erase path) ≤ cfg.fileStorageQuotaBytes.toNat
  | .remove _ => True

instance decidableCallWithinLimits (cfg : RuntimeConfig) (s : FileState) (io : WriteIo) :
    ∀ call : FileCall, Decidable (CallWithinLimits cfg s io call)
  | .write path data => inferInstanceAs (Decidable (io.refuses data = false →
    (io.succeeds = true → data.length ≤ cfg.fileWriteMaxBytes.toNat) ∧
      ∀ b ∈ io.content data, b.length + Files.total (s.files.erase path) ≤ cfg.fileStorageQuotaBytes.toNat))
  | .remove _ => inferInstanceAs (Decidable True)

def WithinLimits (cfg : RuntimeConfig) (s : FileState) (e : FileEvent) : Prop :=
  ∀ call ∈ e.command.call h, CallWithinLimits cfg s e.io call

instance decidableWithinLimits (cfg : RuntimeConfig) (s : FileState) (e : FileEvent) :
    Decidable (WithinLimits h cfg s e) :=
  inferInstanceAs (Decidable (∀ call ∈ e.command.call h, CallWithinLimits cfg s e.io call))

variable {h} {s : FileState} {e : FileEvent} {data : Bytes}

/-! ### One write -/

theorem writeWithQuota_refused (s : FileState) (path : Text) {io : WriteIo} (hr : io.refuses data = true) :
    (s.writeWithQuota io path data).2 = .refused ∧ (s.writeWithQuota io path data).1.files = s.files ∧
      (s.writeWithQuota io path data).1.fileStorageLimitRejections = s.fileStorageLimitRejections + 1 := by
  unfold writeWithQuota
  dsimp only
  rw [if_pos hr]
  cases io.usage <;> exact ⟨rfl, rfl, rfl⟩

theorem writeWithQuota_admitted (s : FileState) (path : Text) {io : WriteIo} (hr : io.refuses data = false) :
    (s.writeWithQuota io path data).2 = (if io.succeeds then .written else .raised) ∧
      (s.writeWithQuota io path data).1.files =
        match io.content data with
        | some b => s.files.insert path b
        | none => s.files := by
  unfold writeWithQuota
  dsimp only
  rw [if_neg (by simp [hr])]
  cases io.usage <;> cases io.content data <;> exact ⟨rfl, rfl⟩

/-! ### One step -/

theorem exec_write {path : Text} (hcall : e.command.call h = some (.write path data)) :
    exec h e s = ((s.writeWithQuota e.io path data).1, some (s.writeWithQuota e.io path data).2) := by
  unfold exec
  rw [hcall]

/-- What writes nothing keeps to the limits. -/
theorem respects_quiet {cfg : RuntimeConfig} (hs : s.files.total ≤ cfg.fileStorageQuotaBytes.toNat)
    (hcall : ∀ path data, e.command.call h ≠ some (.write path data)) : Respects h cfg s e := by
  have hexec : (exec h e s).2 = none ∧ (exec h e s).1.files.total ≤ s.files.total := by
    unfold exec
    split
    · exact ⟨rfl, Nat.le_refl _⟩
    case h_2 hwrite => exact absurd hwrite (hcall _ _)
    case h_3 path hremove =>
      refine ⟨rfl, ?_⟩
      dsimp only
      split
      · exact Files.total_erase_le s.files path
      · exact Nat.le_refl _
  refine ⟨fun path data hwrite => absurd hwrite (hcall path data), Nat.le_trans hexec.2 hs, fun hrefused => ?_⟩
  rw [hexec.1] at hrefused
  cases hrefused

theorem respects_refused {cfg : RuntimeConfig} (hs : s.files.total ≤ cfg.fileStorageQuotaBytes.toNat) {path : Text}
    (hcall : e.command.call h = some (.write path data)) (hr : e.io.refuses data = true) : Respects h cfg s e := by
  obtain ⟨hresult, hfiles, hcount⟩ := writeWithQuota_refused s path hr
  refine ⟨fun _ _ _ hwritten => ?_, ?_, fun _ => ?_⟩
  · rw [exec_write hcall, hresult] at hwritten
    cases hwritten
  · rw [step, exec_write hcall, hfiles]
    exact hs
  · rw [step, exec_write hcall]
    exact ⟨hfiles, hcount⟩

theorem respects_admitted_iff {cfg : RuntimeConfig} (hs : s.files.total ≤ cfg.fileStorageQuotaBytes.toNat) {path : Text}
    (hcall : e.command.call h = some (.write path data)) (hr : e.io.refuses data = false) :
    Respects h cfg s e ↔ (e.io.succeeds = true → data.length ≤ cfg.fileWriteMaxBytes.toNat) ∧
      ∀ b ∈ e.io.content data, b.length + Files.total (s.files.erase path) ≤ cfg.fileStorageQuotaBytes.toNat := by
  obtain ⟨hresult, hfiles⟩ := writeWithQuota_admitted s path hr
  constructor
  · rintro ⟨haccepted, hquota, -⟩
    refine ⟨fun hsucc => haccepted path data hcall ?_, fun b hb => ?_⟩
    · rw [exec_write hcall, hresult, if_pos hsucc]
    · rw [step, exec_write hcall, hfiles, Option.mem_def.1 hb] at hquota
      rwa [Files.total_insert] at hquota
  · rintro ⟨hmax, hquota⟩
    refine ⟨fun _ _ hwrite hwritten => ?_, ?_, fun hrefused => ?_⟩
    · rw [hcall] at hwrite
      cases hwrite
      refine hmax ?_
      by_contra hfails
      rw [exec_write hcall, hresult, if_neg hfails] at hwritten
      cases hwritten
    · rw [step, exec_write hcall, hfiles]
      cases hcontent : e.io.content data with
      | none => exact hs
      | some b =>
        dsimp only
        rw [Files.total_insert]
        exact hquota b hcontent
    · rw [exec_write hcall, hresult] at hrefused
      split at hrefused <;> cases hrefused

/-- A step keeps to the limits exactly if its write is within them: the check of the disk is no help. -/
theorem respects_iff (cfg : RuntimeConfig) (hs : s.files.total ≤ cfg.fileStorageQuotaBytes.toNat) :
    Respects h cfg s e ↔ WithinLimits h cfg s e := by
  unfold WithinLimits
  cases hcall : e.command.call h with
  | none => exact iff_of_true (respects_quiet hs (by simp [hcall])) nofun
  | some call =>
    simp only [Option.mem_some_iff, forall_eq']
    cases call with
    | remove path => exact iff_of_true (respects_quiet hs (by simp [hcall])) trivial
    | write path data =>
      cases hr : e.io.refuses data with
      | true =>
        refine iff_of_true (respects_refused hs hcall hr) fun hadmits => ?_
        rw [hr] at hadmits
        cases hadmits
      | false =>
        rw [respects_admitted_iff hs hcall hr]
        exact ⟨fun hlimits _ => hlimits, fun hlimits => hlimits hr⟩

end FileState

/-! ### The entry points -/

theorem Service.disk_perform (e : Effect) (s : Service) (d : Disk) : (s.perform e).disk d = e.onDisk (s.disk d) := by
  simp [Service.disk, Service.perform]

/-- `_handle_file` and `_on_mcu_file_write` write what `call` says, exactly where `_write_with_quota` lets them. -/
theorem FileCommand.run_disk {h : McuHost} {cmd : FileCommand} {path : Text} {data : Bytes}
    (hcall : cmd.call h = some (.write path data)) (sent : Bool) {s : Service} (hserial : s.serial = true) (d : Disk) :
    (cmd.run h sent s).disk d =
      if h.writeWithQuota path data then Function.update (s.disk d) path (some data) else s.disk d := by
  cases cmd with
  | cloud route req =>
    unfold call at hcall
    dsimp only at hcall
    cases hact : route.action with
    | none =>
      rw [hact] at hcall
      cases hcall
    | some act =>
      rw [hact] at hcall
      dsimp only at hcall
      split at hcall
      · cases hcall
      case isFalse hempty =>
        split at hcall
        · cases hcall
        case isFalse hmcu =>
          split at hcall
          · cases hcall
          case h_2 p hsafe =>
            split at hcall
            case isTrue hwrite =>
              cases hcall
              show (s.handleFile h.toHost route req).disk d = _
              unfold Service.handleFile
              dsimp only
              rw [if_neg (by simp [hserial]), hact]
              dsimp only
              rw [if_neg hempty, if_neg hmcu, hsafe]
              dsimp only
              rw [if_pos hwrite]
              split
              · unfold Service.publish
                rw [Service.disk_perform, Service.disk_perform]
                rfl
              · rfl
            case isFalse =>
              split at hcall <;> cases hcall
  | mcuWrite path' data' =>
    obtain ⟨p, hsafe, heq⟩ := Option.map_eq_some_iff.1 hcall
    cases heq
    unfold run Service.onMcuFileWrite
    dsimp only
    rw [hsafe]
    dsimp only
    cases h.writeWithQuota path data with
    | true => exact Service.disk_perform _ s d
    | false => rfl
  | mcuRemove path' =>
    obtain ⟨p, -, heq⟩ := Option.map_eq_some_iff.1 hcall
    cases heq

namespace FileState
variable {h : McuHost} {s : FileState} {e : FileEvent}

/-- A service whose host answers as `_write_with_quota` does leaves the disk that the step leaves, where no write is
cut short. -/
theorem step_follows {path : Text} {data : Bytes} (hcall : e.command.call h = some (.write path data))
    (hfault : e.io.fault = none)
    (hanswer : h.writeWithQuota path data = decide ((s.writeWithQuota e.io path data).2 = .written)) (sent : Bool)
    {service : Service} (hserial : service.serial = true) {d : Disk} (hd : service.disk d = s.files.disk) :
    (e.command.run h sent service).disk d = (step h e s).files.disk := by
  have hstep : step h e s = (s.writeWithQuota e.io path data).1 := by rw [step, exec_write hcall]
  rw [FileCommand.run_disk hcall sent hserial, hd, hanswer, hstep]
  cases hr : e.io.refuses data with
  | true =>
    obtain ⟨hresult, hfiles, -⟩ := writeWithQuota_refused s path hr
    rw [hresult, hfiles]
    exact if_neg (by simp)
  | false =>
    obtain ⟨hresult, hfiles⟩ := writeWithQuota_admitted s path hr
    rw [hresult, hfiles]
    unfold WriteIo.succeeds WriteIo.content
    rw [hfault]
    cases e.io.mkdir with
    | true => exact (Files.disk_insert s.files path data).symm
    | false => rfl

/-! ### Runs -/

/-- From files within the quota, every step of a run keeps to the limits exactly if every write that there is room for
on the disk is within them. -/
theorem file_limits_iff (h : McuHost) (cfg : RuntimeConfig) (s : FileState)
    (hs : s.files.total ≤ cfg.fileStorageQuotaBytes.toNat) (es : List FileEvent) :
    Run.Along (step h) (Respects h cfg) s es ↔ Run.Along (step h) (WithinLimits h cfg) s es :=
  Run.along_iff_along (J := fun s => s.files.total ≤ cfg.fileStorageQuotaBytes.toNat)
    (fun _ _ hs => respects_iff cfg hs) (fun _ _ hs he => ((respects_iff cfg hs).2 he).quota) hs es

/-- At most 4 bytes a write, and 8 in all. -/
def smallQuota : RuntimeConfig :=
  { RuntimeConfig.sample defaultFileSystemRoot with fileWriteMaxBytes := 4, fileStorageQuotaBytes := 8 }

def quotaHost : McuHost := .behind .plain defaultFileSystemRoot PyText.ascii.decode

def mcuWrites (name : String) (size : Nat) : FileEvent where
  command := .mcuWrite (name.toList.map fun c => c.toNat.toUInt8) (List.replicate size 7)
  io := { usage := some ⟨1000, 1000⟩ }

theorem limits_kept_sample :
    Run.Along (step quotaHost) (Respects quotaHost smallQuota) { files := ∅ }
      [mcuWrites "a" 4, mcuWrites "a" 3, mcuWrites "b" 4] :=
  (file_limits_iff quotaHost smallQuota { files := ∅ } (Nat.zero_le _)
    [mcuWrites "a" 4, mcuWrites "a" 3, mcuWrites "b" 4]).2 (by decide +kernel)

/-- A write over both limits is accepted where the disk has room. -/
theorem limits_not_applied :
    smallQuota.complaint = none ∧ (exec quotaHost (mcuWrites "a" 9) { files := ∅ }).2 = some .written ∧
      (step quotaHost (mcuWrites "a" 9) { files := ∅ }).files.total = 9 ∧
      ¬Run.Along (step quotaHost) (Respects quotaHost smallQuota) { files := ∅ } [mcuWrites "a" 9] := by
  have htotal : (step quotaHost (mcuWrites "a" 9) { files := ∅ }).files.total = 9 := by decide +kernel
  refine ⟨by decide +kernel, by decide +kernel, htotal, fun h => ?_⟩
  have hquota := h.1.quota
  rw [htotal] at hquota
  exact absurd hquota (by decide)

end FileState

end Daemon
end McuBridge
