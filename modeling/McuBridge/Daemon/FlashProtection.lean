import McuBridge.Daemon.Sandbox
import McuBridge.Lib.StackWalk

/-! # Flash protection (`protocol/structures.py`)

`validate_config` compares the start of a string; what it protects is a directory. The two differ where a name goes on
behind a volatile path, and where `..` leads out of it. -/

namespace McuBridge
namespace Daemon

namespace PyPath

/-- The parts as steps: `..` goes up. -/
def steps (p : PyPath) : List (Option Text) := p.parts.map fun part => if part = ['.', '.'] then none else some part

/-- An absolute path with its dots taken out. -/
def normalize (p : PyPath) : PyPath := { p with parts := StackWalk.walk [] p.steps }

/-- It is what `resolve` makes of the path where there are no symbolic links. -/
theorem plain_resolve {p : PyPath} (h : p.anchor.isEmpty = false) : PathHost.plain.resolve p = some p.normalize := by
  have hwalk : p.parts.foldl (fun acc part => if part = ['.', '.'] then acc.dropLast else acc ++ [part]) [] =
      StackWalk.walk [] p.steps := by
    unfold StackWalk.walk steps
    rw [List.foldl_map]
    congr 1
    funext acc part
    split <;> rfl
  unfold PathHost.resolve
  rw [h, if_neg Bool.false_ne_true]
  unfold PathHost.plain normalize
  rw [← hwalk]

end PyPath

/-- The path, without its dots, is one of the volatile paths or lies below one. -/
def InVolatileStorage (path : Text) : Prop :=
  (PyPath.ofText path).anchor = ['/'] ∧
    ∃ v ∈ volatileStoragePaths, (PyPath.ofText v).parts <+: (PyPath.ofText path).normalize.parts

instance (path : Text) : Decidable (InVolatileStorage path) := inferInstanceAs (Decidable (_ ∧ _))

/-- The parts go down along the names of a volatile path, each from the depth of the one before it, and no later `..`
goes above one of them. -/
def DescendsIntoVolatile (path : Text) : Prop :=
  ∃ v ∈ volatileStoragePaths, StackWalk.Descends (PyPath.ofText v).parts (PyPath.ofText path).steps

/-- Without `..`, the parts begin with those of a volatile path. -/
theorem descendsIntoVolatile_iff {path : Text} (h : ['.', '.'] ∉ (PyPath.ofText path).parts) :
    DescendsIntoVolatile path ↔ ∃ v ∈ volatileStoragePaths, (PyPath.ofText v).parts <+: (PyPath.ofText path).parts := by
  have hsteps : (PyPath.ofText path).steps = (PyPath.ofText path).parts.map some := by
    refine List.map_congr_left fun part hpart => if_neg ?_
    rintro rfl
    exact h hpart
  unfold DescendsIntoVolatile
  simp only [hsteps, StackWalk.descends_map_some]

/-- What `startswith` lets through is absolute. -/
theorem anchor_of_isVolatile {path : Text} (h : RuntimeConfig.isVolatile path = true) :
    (PyPath.ofText path).anchor = ['/'] := by
  have hhead : ∃ c rest, c ≠ '/' ∧ path = '/' :: c :: rest := by
    obtain ⟨v, hv, hpre⟩ := List.any_eq_true.1 h
    obtain ⟨rest, rfl⟩ := List.isPrefixOf_iff_prefix.1 hpre
    simp only [volatileStoragePaths, List.mem_cons, List.not_mem_nil, or_false] at hv
    rcases hv with rfl | rfl | rfl | rfl
    · exact ⟨'t', _, by decide, rfl⟩
    · exact ⟨'v', _, by decide, rfl⟩
    · exact ⟨'r', _, by decide, rfl⟩
    · exact ⟨'d', _, by decide, rfl⟩
  obtain ⟨c, rest, hc, rfl⟩ := hhead
  have hdouble : "//".toList.isPrefixOf ('/' :: c :: rest) = false := by
    simp [List.isPrefixOf, Ne.symm hc]
  unfold PyPath.ofText
  dsimp only
  rw [hdouble, Bool.false_and, if_neg Bool.false_ne_true, if_pos (by simp [List.isPrefixOf])]
  rfl

theorem inVolatileStorage_iff {path : Text} (h : RuntimeConfig.isVolatile path = true) :
    InVolatileStorage path ↔ DescendsIntoVolatile path := by
  unfold InVolatileStorage DescendsIntoVolatile
  rw [and_iff_right (anchor_of_isVolatile h)]
  exact exists_congr fun v => and_congr_right fun _ => StackWalk.prefix_walk_iff

namespace RuntimeConfig
variable {py : PyText} {isSpace : Char → Bool} {cfg c : RuntimeConfig}

/-- A check that has passed leaves the checks after it. -/
theorem of_check {p : Prop} [Decidable p] {message : Text} {rest : Option Text}
    (h : (if p then some message else rest) = none) : ¬p ∧ rest = none := by
  by_cases hp : p
  · rw [if_pos hp] at h
    cases h
  · rw [if_neg hp] at h
    exact ⟨hp, h⟩

/-- The last two checks, of a configuration that is accepted. -/
theorem isVolatile_of_validate (hflag : cfg.allowNonTmpPaths = false) (h : cfg.validate py isSpace = .ok c) :
    isVolatile cfg.cloudSpoolDir = true ∧ isVolatile cfg.fileSystemRoot = true := by
  have hcomplaint : (cfg.normalize py isSpace).complaint = none := by
    unfold validate at h
    split at h
    · cases h
    · assumption
  have hflag' : ¬(cfg.normalize py isSpace).allowNonTmpPaths = true := by
    show ¬cfg.allowNonTmpPaths = true
    rw [hflag]
    exact Bool.false_ne_true
  unfold complaint at hcomplaint
  obtain ⟨-, hcomplaint⟩ := of_check hcomplaint
  obtain ⟨-, hcomplaint⟩ := of_check hcomplaint
  obtain ⟨-, hcomplaint⟩ := of_check hcomplaint
  obtain ⟨-, hcomplaint⟩ := of_check hcomplaint
  obtain ⟨-, hcomplaint⟩ := of_check hcomplaint
  obtain ⟨-, hcomplaint⟩ := of_check hcomplaint
  obtain ⟨-, hcomplaint⟩ := of_check hcomplaint
  obtain ⟨-, hcomplaint⟩ := of_check hcomplaint
  rw [if_neg hflag'] at hcomplaint
  obtain ⟨hspool, hcomplaint⟩ := of_check hcomplaint
  obtain ⟨hroot, -⟩ := of_check hcomplaint
  have hspool : ¬(!isVolatile cfg.cloudSpoolDir) = true := hspool
  have hroot : ¬(!isVolatile cfg.fileSystemRoot) = true := hroot
  exact ⟨by simpa using hspool, by simpa using hroot⟩

/-- For every configuration with the flag off that `validate_config` accepts: its two directories lie in volatile
storage exactly if their parts descend into it. -/
theorem flash_protection_iff (hflag : cfg.allowNonTmpPaths = false) (h : cfg.validate py isSpace = .ok c) :
    (InVolatileStorage c.cloudSpoolDir ∧ InVolatileStorage c.fileSystemRoot) ↔
      DescendsIntoVolatile cfg.cloudSpoolDir ∧ DescendsIntoVolatile cfg.fileSystemRoot := by
  obtain ⟨hspool, hroot⟩ := isVolatile_of_validate hflag h
  rw [validate_eq h]
  exact and_congr (inVolatileStorage_iff hspool) (inVolatileStorage_iff hroot)

theorem flash_protection_sample :
    InVolatileStorage (sample defaultFileSystemRoot).cloudSpoolDir ∧
      InVolatileStorage (sample defaultFileSystemRoot).fileSystemRoot :=
  (flash_protection_iff rfl (validate_of_complaint (by decide +kernel))).2
    ⟨⟨"/tmp".toList, by decide, StackWalk.prefix_walk_iff.1 (by decide +kernel)⟩,
      ⟨"/tmp".toList, by decide, StackWalk.prefix_walk_iff.1 (by decide +kernel)⟩⟩

/-- `/tmpfoo` only shares a prefix with `/tmp`, and `/tmp/../etc` climbs out of it; both are accepted. -/
theorem flash_protection_misses :
    let foo := sample "/tmpfoo".toList
    let etc := sample "/tmp/../etc".toList
    foo.validate .ascii Char.isWhitespace = .ok foo ∧ ¬InVolatileStorage foo.fileSystemRoot ∧
      etc.validate .ascii Char.isWhitespace = .ok etc ∧ ¬InVolatileStorage etc.fileSystemRoot :=
  ⟨validate_of_complaint (by decide +kernel), by decide +kernel, validate_of_complaint (by decide +kernel),
    by decide +kernel⟩

end RuntimeConfig
end Daemon
end McuBridge
