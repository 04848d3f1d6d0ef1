import McuBridge.Daemon.Storage
import McuBridge.Daemon.Authorization
import McuBridge.Daemon.Link

/-! # File commands and the daemon's own files (`services/runtime.py`)

`_get_safe_path` keeps file commands below the file system root. The databases of `configure` lie there too, so a
command can name one of them. -/

namespace McuBridge
namespace Daemon

/-- What `Path.resolve` depends on. `realpath` takes dots and symbolic links out of an absolute path; it is `none`
where it raises. -/
structure PathHost where
  cwd : PyPath
  realpath : PyPath → Option PyPath

namespace PathHost
variable (ph : PathHost)

/-- `p.resolve()` -/
def resolve (p : PyPath) : Option PyPath :=
  ph.realpath (if p.anchor.isEmpty then ⟨ph.cwd.anchor, ph.cwd.parts ++ p.parts⟩ else p)

/-- `_get_safe_path` -/
def getSafePath (fileSystemRoot path : Text) : Option PyPath := do
  let root ← ph.resolve (.ofText fileSystemRoot)
  let p ← ph.resolve (root.joinpath (path.dropWhile fun c => c == '/'))
  if root.anchor = p.anchor ∧ root.parts <+: p.parts then some p else none

/-- A host without symbolic links, in the directory `/`. -/
def plain : PathHost where
  cwd := ⟨['/'], []⟩
  realpath := fun p => some { p with
    parts := p.parts.foldl (fun acc part => if part = ['.', '.'] then acc.dropLast else acc ++ [part]) [] }

end PathHost

namespace Stores

def databases (st : Stores) : List PyPath :=
  [st.mailboxQueue, st.mailboxIncomingQueue].filterMap (fun path => match path with
    | .file p => some p
    | .memory => none) ++ st.datastore.toList

/-- The files SQLite keeps a database in. -/
def files (ph : PathHost) (st : Stores) : List Text :=
  (st.databases.filterMap ph.resolve).flatMap fun p =>
    ["", "-wal", "-shm", "-journal"].map fun suffix => p.str ++ suffix.toList

end Stores

/-! ### The disk -/

abbrev Disk := Text → Option Bytes

/-- The file an effect writes or removes. A write that fails half way also leaves every other file alone. -/
def Effect.touches : Effect → Option Text
  | .fileWrite path _ => some path
  | .fileRemove path => some path
  | _ => none

def Effect.onDisk : Effect → Disk → Disk
  | .fileWrite path data, d => Function.update d path (some data)
  | .fileRemove path, d => Function.update d path none
  | _, d => d

/-- The disk after the effects of a service. -/
def Service.disk (d : Disk) (s : Service) : Disk := s.effects.foldl (fun d e => e.onDisk d) d

theorem Effect.onDisk_of_ne {e : Effect} {f : Text} (h : e.touches ≠ some f) (d : Disk) : e.onDisk d f = d f := by
  cases e with
  | fileWrite path data => exact Function.update_of_ne (fun hf => h (congrArg some hf.symm)) _ _
  | fileRemove path => exact Function.update_of_ne (fun hf => h (congrArg some hf.symm)) _ _
  | _ => rfl

namespace Service

/-- What does not touch a file leaves it alone. -/
theorem disk_of_only {s t : Service} {f : Text} (h : Only (fun e => e.touches ≠ some f) s t) (d : Disk) :
    t.disk d f = s.disk d f := by
  obtain ⟨new, heq, hnew⟩ := h
  rw [disk, heq, List.foldl_append]
  show new.foldl (fun d e => e.onDisk d) (s.disk d) f = _
  generalize s.disk d = d'
  clear heq
  induction new generalizing d' with
  | nil => rfl
  | cons e new ih =>
    rw [List.foldl_cons, ih fun e he => hnew e (List.mem_cons_of_mem _ he)]
    exact Effect.onDisk_of_ne (hnew e (List.mem_cons_self ..)) d'

theorem handleFileMcuRead_touches (h : Host) (target f : Text) (s : Service) :
    Only (fun e => e.touches ≠ some f) s (s.handleFileMcuRead h target) := by
  have hsend : ∀ p, Only (fun e => e.touches ≠ some f) s (s.send .fileRead p).1 :=
    fun p => send_only (by simp [Effect.touches]) s
  have hpub : ∀ (t : Service) segments body, Only (fun e => e.touches ≠ some f) t (t.publish .file segments body) :=
    fun t segments body => only_of_perform (by simp [Effect.touches]) rfl
  unfold handleFileMcuRead
  dsimp only
  split
  · split
    · exact (hsend _).trans (hpub _ _ _)
    · exact (hsend _).trans (hpub _ _ _)
  · exact (hsend _).trans (hpub _ _ _)

/-- A file request touches at most the path that the sandbox makes of its target. -/
theorem handleFile_touches (h : Host) (route : TopicRoute) (req : BridgeRequest) {f : Text}
    (hf : h.safePath (joinSlash route.remainder) ≠ some f) (s : Service) :
    Only (fun e => e.touches ≠ some f) s (s.handleFile h route req) := by
  have hpub : ∀ (t : Service) segments body, Only (fun e => e.touches ≠ some f) t (t.publish .file segments body) :=
    fun t segments body => only_of_perform (by simp [Effect.touches]) rfl
  have hsend : ∀ cmd p, Only (fun e => e.touches ≠ some f) s (s.send cmd p).1 :=
    fun cmd p => send_only (by simp [Effect.touches]) s
  unfold handleFile
  dsimp only
  split
  · exact .refl s
  split
  · exact .refl s
  split
  · exact .refl s
  split
  · -- a file of the MCU
    split
    · exact handleFileMcuRead_touches h _ f s
    split
    · split
      · exact (hsend _ _).trans (hpub _ _ _)
      · exact hsend _ _
    split
    · exact hsend _ _
    · exact .refl s
  · -- a file below the file system root
    split
    · exact .refl s
    case h_2 path hpath =>
      have hne : (some path : Option Text) ≠ some f := hpath ▸ hf
      split
      · split
        · exact Only.trans (only_of_perform (e := .fileWrite path req.payload) hne rfl) (hpub _ _ _)
        · exact .refl s
      split
      · split
        · exact Only.trans (only_of_perform (e := .fileRead path) (by simp [Effect.touches]) rfl) (hpub _ _ _)
        · exact .refl s
      split
      · split
        · exact only_of_perform (e := .fileRemove path) hne rfl
        · exact .refl s
      · exact .refl s

end Service

/-! ### The commands -/

/-- The commands that read, write or remove a file of the host. -/
inductive FileCommand where
  | cloud (route : TopicRoute) (req : BridgeRequest)
  | mcuWrite (path data : Bytes)
  | mcuRemove (path : Bytes)

namespace FileCommand

/-- The path handed to `_get_safe_path`. -/
def path (h : McuHost) : FileCommand → Text
  | cloud route _ => joinSlash route.remainder
  | mcuWrite path _ | mcuRemove path => h.text path

/-- The service after it; it is as before where the handler raises. -/
def run (h : McuHost) (sent : Bool) (s : Service) : FileCommand → Service
  | cloud route req => s.handleFile h.toHost route req
  | mcuWrite path data =>
    match Service.onMcuFileWrite h sent (.message (.fileWrite path data)) s with
    | some r => r.service
    | none => s
  | mcuRemove path =>
    match Service.onMcuFileRemove h sent (.message (.fileRemove path)) s with
    | some r => r.service
    | none => s

theorem run_touches {h : McuHost} {cmd : FileCommand} {f : Text} (hf : h.safePath (cmd.path h) ≠ some f) (sent : Bool)
    (s : Service) : Service.Only (fun e => e.touches ≠ some f) s (cmd.run h sent s) := by
  cases cmd with
  | cloud route req => exact Service.handleFile_touches h.toHost route req hf s
  | mcuWrite path data =>
    unfold run Service.onMcuFileWrite
    dsimp only
    cases hsafe : h.safePath (h.text path) with
    | none => exact .refl s
    | some p =>
      have hne : (some p : Option Text) ≠ some f := hsafe ▸ hf
      dsimp only
      cases h.writeWithQuota p data with
      | false => exact .refl s
      | true => exact Service.only_of_perform (e := .fileWrite p data) hne rfl
  | mcuRemove path =>
    unfold run Service.onMcuFileRemove
    dsimp only
    cases hsafe : h.safePath (h.text path) with
    | none => exact .refl s
    | some p =>
      have hne : (some p : Option Text) ≠ some f := hsafe ▸ hf
      dsimp only
      cases h.pathExists p with
      | false => exact .refl s
      | true =>
        cases h.pathUnlink p with
        | false => exact .refl s
        | true => exact Service.only_of_perform (e := .fileRemove p) hne rfl

/-- A write that the sandbox and the quota let through. -/
theorem mcuWrite_disk {h : McuHost} {path data : Bytes} {p : Text} (hsafe : h.safePath (h.text path) = some p)
    (hquota : h.writeWithQuota p data = true) (sent : Bool) (s : Service) (d : Disk) :
    ((mcuWrite path data).run h sent s).disk d p = some data := by
  have heffects : ((mcuWrite path data).run h sent s).effects = s.effects ++ [.fileWrite p data] := by
    unfold run Service.onMcuFileWrite
    dsimp only
    rw [hsafe]
    dsimp only
    rw [hquota]
    rfl
  rw [Service.disk, heffects, List.foldl_append]
  exact Function.update_self ..

end FileCommand

/-- No command with this path changes a file of a database, whatever the host, the request and the service. What SQLite
reads of the databases are these files. -/
def Isolated (ph : PathHost) (mkdir : PyPath → Bool) (cfg : RuntimeConfig) (path : Text) : Prop :=
  ∀ (h : McuHost) (sent : Bool) (cmd : FileCommand) (s : Service) (d : Disk),
    h.safePath = (fun p => (ph.getSafePath cfg.fileSystemRoot p).map PyPath.str) → cmd.path h = path →
      ((cfg.stores mkdir).files ph).map ((cmd.run h sent s).disk d) = ((cfg.stores mkdir).files ph).map (s.disk d)

/-- A host whose disk takes every file the sandbox lets through. -/
def McuHost.behind (ph : PathHost) (fileSystemRoot : Text) (decode : Bytes → Option Text) : McuHost :=
  { McuHost.sample with
    safePath := fun p => (ph.getSafePath fileSystemRoot p).map PyPath.str
    writeWithQuota := fun _ _ => true
    pathExists := fun _ => true
    py := { PyText.ascii with decode := decode } }

/-- The databases are out of reach of exactly the paths that the sandbox refuses or that do not resolve to one of
their files. -/
theorem isolated_iff (ph : PathHost) (mkdir : PyPath → Bool) (cfg : RuntimeConfig) (path : Text) :
    Isolated ph mkdir cfg path ↔
      ∀ p, ph.getSafePath cfg.fileSystemRoot path = some p → p.str ∉ (cfg.stores mkdir).files ph := by
  constructor
  · intro h p hp hmem
    have hsafe : (McuHost.behind ph cfg.fileSystemRoot fun _ => some path).safePath path = some p.str := by
      show (ph.getSafePath cfg.fileSystemRoot path).map PyPath.str = some p.str
      rw [hp]
      rfl
    have hsame := List.map_inj_left.1 (h (.behind ph cfg.fileSystemRoot fun _ => some path) true (.mcuWrite [] [])
      (.sample []) (fun _ => none) rfl rfl) p.str hmem
    rw [FileCommand.mcuWrite_disk hsafe rfl] at hsame
    cases hsame
  · intro h host sent cmd s d hsafe hpath
    refine List.map_congr_left fun f hf => Service.disk_of_only (FileCommand.run_touches ?_ sent s) d
    rw [hsafe, hpath]
    intro hsome
    obtain ⟨p, hp, rfl⟩ := Option.map_eq_some_iff.1 hsome
    exact h p hp hf

/-- Under the default root the MCU and the cloud can overwrite and remove the spool of the outgoing mailbox. -/
theorem spool_reachable :
    let cfg := RuntimeConfig.sample defaultFileSystemRoot
    let h := McuHost.behind .plain cfg.fileSystemRoot PyText.ascii.decode
    cfg.validate .ascii Char.isWhitespace = .ok cfg ∧
      "/tmp/yun_files/mailbox_out/spool.db".toList ∈ (cfg.stores fun _ => true).files .plain ∧
      ((FileCommand.mcuWrite ("x/../mailbox_out//spool.db".toList.map fun c => c.toNat.toUInt8) [0]).run h true
          (.sample [])).effects = [.fileWrite "/tmp/yun_files/mailbox_out/spool.db".toList [0]] ∧
      ((FileCommand.cloud ⟨[], [], .file, ["remove".toList, "mailbox_out".toList, "spool.db".toList]⟩ ⟨[], []⟩).run h true
          (.sample [])).effects = [.fileRemove "/tmp/yun_files/mailbox_out/spool.db".toList] :=
  ⟨RuntimeConfig.validate_of_complaint (by decide +kernel), by decide +kernel, by decide +kernel, by decide +kernel⟩

end Daemon
end McuBridge
