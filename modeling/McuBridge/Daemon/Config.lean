import Mathlib.Data.Char
import Mathlib.Data.Rat.Init
import Mathlib.Data.List.Lex
import Mathlib.Data.List.Sort
import Mathlib.Order.Defs.LinearOrder
import McuBridge.Daemon.Policy

/-! # The configuration and the places of the daemon's files (`protocol/structures.py`, `state/context.py`)

The fields of `RuntimeConfig` that `validate_config` reads, the part of the state that `create_runtime_state` makes of
them, and where `configure` puts the mailbox queues and the datastore. -/

namespace McuBridge
namespace Daemon

/-! ### Paths -/

/-- A `PurePosixPath`: what it starts with (nothing, one slash or two) and its parts. -/
structure PyPath where
  anchor : Text
  parts : List Text
  deriving DecidableEq

namespace PyPath

/-- `Path(s)` -/
def ofText (s : Text) : PyPath where
  anchor := if "//".toList.isPrefixOf s && !"///".toList.isPrefixOf s then "//".toList
    else if "/".toList.isPrefixOf s then "/".toList else []
  parts := (segmentsOf s).filter fun part => part ≠ ['.']

/-- `p / s` -/
def joinpath (p : PyPath) (s : Text) : PyPath :=
  if (ofText s).anchor.isEmpty then { p with parts := p.parts ++ (ofText s).parts } else ofText s

/-- `str(p)` -/
def str (p : PyPath) : Text :=
  if p.anchor.isEmpty && p.parts.isEmpty then ['.'] else p.anchor ++ joinSlash p.parts

end PyPath

/-! ### The configuration -/

/-- A Python float. -/
inductive PyFloat where
  | nan
  | infinite (negative : Bool)
  | finite (q : ℚ)
  deriving DecidableEq

namespace PyFloat

/-- `x < y` -/
def lt : PyFloat → PyFloat → Bool
  | nan, _ | _, nan => false
  | infinite true, y => y ≠ infinite true
  | infinite false, _ => false
  | finite _, infinite negative => !negative
  | finite p, finite q => p < q

/-- `x * 2`, which loses nothing on a value of a `float` field. -/
def twice : PyFloat → PyFloat
  | finite q => finite (2 * q)
  | x => x

end PyFloat

structure RuntimeConfig where
  topicPrefix : Text
  allowedCommands : List Text
  allowedPolicy : List Text
  topicAuthorization : TopicAuthorization
  serialResponseTimeout : PyFloat
  serialRetryTimeout : PyFloat
  watchdogEnabled : Bool
  watchdogInterval : PyFloat
  serialSharedSecret : Bytes
  fileStorageQuotaBytes : UInt32
  fileWriteMaxBytes : UInt32
  mailboxQueueLimit : UInt32
  mailboxQueueBytesLimit : UInt32
  cloudSpoolDir : Text
  fileSystemRoot : Text
  allowNonTmpPaths : Bool

def volatileStoragePaths : List Text := ["/tmp".toList, "/var/run".toList, "/run".toList, "/dev/shm".toList]

def defaultSerialSharedSecret : Bytes := "failsafe_secret_mode".toList.map fun c => c.toNat.toUInt8

def defaultFileSystemRoot : Text := "/tmp/yun_files".toList

def defaultMailboxQueueLimit : UInt32 := 64

/-- `create_allowed_policy`; `isSpace` is the white space of `strip` and of the separators. -/
def createAllowedPolicy (py : PyText) (isSpace : Char → Bool) (entries : List Text) : List Text :=
  let tokens := entries.flatMap fun c =>
    ((py.lower (py.strip c)).splitOnP fun ch => ch == ',' || isSpace ch).filter fun token => !token.isEmpty
  if ['*'] ∈ tokens then [['*']] else tokens.dedup.insertionSort fun a b => a ≤ b

namespace RuntimeConfig

/-- The two assignments at the start of `validate_config`. -/
def normalize (py : PyText) (isSpace : Char → Bool) (cfg : RuntimeConfig) : RuntimeConfig :=
  let policy := createAllowedPolicy py isSpace cfg.allowedCommands
  { cfg with
    allowedPolicy := policy
    allowedCommands := policy
    topicAuthorization :=
      if Flag.fields.any fun f => cfg.topicAuthorization f.1 then cfg.topicAuthorization else fun _ => true }

def isVolatile (path : Text) : Bool := volatileStoragePaths.any fun p => p.isPrefixOf path

/-- The checks of `validate_config`, in their order: the message of the first that fails. -/
def complaint (cfg : RuntimeConfig) : Option Text :=
  if !(cfg.topicPrefix.splitOn '/').any fun seg => !seg.isEmpty then
    some "topic_prefix must contain at least one segment".toList
  else if cfg.serialResponseTimeout.lt cfg.serialRetryTimeout.twice then
    some "serial_response_timeout must be at least 2x serial_retry_timeout".toList
  else if cfg.watchdogEnabled && cfg.watchdogInterval.lt (.finite (1 / 2)) then
    some "watchdog_interval must be >= 0.5s when enabled".toList
  else if cfg.serialSharedSecret.isEmpty then some "serial_shared_secret must be configured".toList
  else if cfg.serialSharedSecret = "changeme123".toList.map fun c => c.toNat.toUInt8 then
    some "serial_shared_secret placeholder is insecure".toList
  else if cfg.serialSharedSecret.dedup.length < 4 ∧ cfg.serialSharedSecret ≠ defaultSerialSharedSecret then
    some "serial_shared_secret must contain at least four distinct bytes".toList
  else if cfg.fileStorageQuotaBytes < cfg.fileWriteMaxBytes then
    some "file_storage_quota_bytes must be greater than or equal to file_write_max_bytes".toList
  else if cfg.mailboxQueueBytesLimit < cfg.mailboxQueueLimit then
    some "mailbox_queue_bytes_limit must be greater than or equal to mailbox_queue_limit".toList
  else if cfg.allowNonTmpPaths then none
  else if !isVolatile cfg.cloudSpoolDir then
    some ("FLASH PROTECTION: cloud_spool_dir (".toList ++ cfg.cloudSpoolDir ++ ") must be in volatile storage".toList)
  else if !isVolatile cfg.fileSystemRoot then
    some ("FLASH PROTECTION: file_system_root (".toList ++ cfg.fileSystemRoot ++ ") must be in volatile storage".toList)
  else none

/-- `validate_config` -/
def validate (py : PyText) (isSpace : Char → Bool) (cfg : RuntimeConfig) : Except Text RuntimeConfig :=
  match (cfg.normalize py isSpace).complaint with
  | some message => .error message
  | none => .ok (cfg.normalize py isSpace)

end RuntimeConfig

/-! ### The state -/

/-- The fields of `RuntimeState` that `configure` reads. -/
structure RuntimeState where
  fileSystemRoot : Text
  allowNonTmpPaths : Bool
  mailboxQueueLimit : UInt32

/-- `create_runtime_state`, up to `configure`. `MessageToDict` leaves out a field with the value zero or empty, and
`RuntimeState` then takes its own default. -/
def createRuntimeState (cfg : RuntimeConfig) : RuntimeState where
  fileSystemRoot := if cfg.fileSystemRoot.isEmpty then defaultFileSystemRoot else cfg.fileSystemRoot
  allowNonTmpPaths := cfg.allowNonTmpPaths
  mailboxQueueLimit := if cfg.mailboxQueueLimit = 0 then defaultMailboxQueueLimit else cfg.mailboxQueueLimit

/-- What a connection is opened on. -/
inductive DbPath where
  | memory
  | file (path : PyPath)
  deriving DecidableEq

/-- The databases of a configured state; without a datastore nothing is stored. -/
structure Stores where
  mailboxQueue : DbPath
  mailboxIncomingQueue : DbPath
  datastore : Option PyPath
  maxlen : Nat

namespace RuntimeState

/-- The test of `configure`. -/
def persistent (st : RuntimeState) : Bool := st.allowNonTmpPaths || "/tmp/".toList.isPrefixOf st.fileSystemRoot

def directory (st : RuntimeState) (subdir : Text) : PyPath := (PyPath.ofText st.fileSystemRoot).joinpath subdir

/-- `_create_spool`; `mkdir` says whether a directory can be made. -/
def createSpool (mkdir : PyPath → Bool) (subdir : Text) (st : RuntimeState) : DbPath :=
  if st.persistent && !st.fileSystemRoot.isEmpty && mkdir (st.directory subdir) then
    .file ((st.directory subdir).joinpath "spool.db".toList)
  else .memory

def configure (mkdir : PyPath → Bool) (st : RuntimeState) : Stores where
  mailboxQueue := st.createSpool mkdir "mailbox_out".toList
  mailboxIncomingQueue := st.createSpool mkdir "mailbox_in".toList
  datastore :=
    if st.persistent && !st.fileSystemRoot.isEmpty && mkdir (st.directory "datastore".toList) then
      some ((st.directory "datastore".toList).joinpath "data.db".toList)
    else none
  maxlen := st.mailboxQueueLimit.toNat

end RuntimeState

/-- `create_runtime_state` -/
def RuntimeConfig.stores (mkdir : PyPath → Bool) (cfg : RuntimeConfig) : Stores :=
  (createRuntimeState cfg).configure mkdir

end Daemon
end McuBridge
