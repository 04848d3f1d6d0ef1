import McuBridge.Daemon.Config
import McuBridge.Daemon.Request

/-! # Loading the configuration (`config/settings.py`, `config/common.py`)

The message `RuntimeConfig` with all its fields, the coercion of raw values into them, and the dictionary that
`MessageToDict` makes of it. What the code takes from Python and from protobuf is collected in `PyConv`. -/

namespace McuBridge
namespace Daemon

/-- The values of a raw configuration. Of a nested message nothing is read. -/
inductive PyValue where
  | none
  | bool (b : Bool)
  | int (i : Int)
  | float (x : PyFloat)
  | str (t : Text)
  | bytes (b : Bytes)
  | list (xs : List PyValue)
  | dict

/-- `repr` is `str` of a value that is no text. `float` is `none` where it raises `ValueError`, `floatOfInt` where it
raises `OverflowError`, and `resolvePath`, which is `str(Path(t).expanduser().resolve())`, where that raises. `narrow`
is what a `float` field makes of a double, `shortest` the double that `MessageToDict` makes of a value of the field. -/
structure PyConv extends PyText where
  isSpace : Char → Bool
  repr : PyValue → Text
  float : Text → Option PyFloat
  floatOfInt : Int → Option PyFloat
  resolvePath : Text → Option Text
  narrow : PyFloat → PyFloat
  shortest : PyFloat → PyFloat
  narrow_narrow : ∀ x, narrow (narrow x) = narrow x
  narrow_zero : narrow (.finite 0) = .finite 0

/-! ### The message -/

inductive ConfigType where
  | string | optionalString | uint32 | float | bool | bytes | repeatedString
  deriving DecidableEq

namespace ConfigType
variable (py : PyConv)

def Value : ConfigType → Type
  | string => Text
  | optionalString => Option Text
  | uint32 => UInt32
  | float => { x : PyFloat // py.narrow x = x }
  | bool => Bool
  | bytes => Bytes
  | repeatedString => List Text

/-- The value of a field that is not set. -/
def unset : (t : ConfigType) → t.Value py
  | string => ([] : Text)
  | optionalString => (Option.none : Option Text)
  | uint32 => (0 : UInt32)
  | float => (⟨.finite 0, py.narrow_zero⟩ : { x : PyFloat // py.narrow x = x })
  | bool => false
  | bytes => ([] : Bytes)
  | repeatedString => ([] : List Text)

end ConfigType

/-- The fields of `RuntimeConfig` but for the two messages in it. -/
inductive ConfigField where
  | serialPort | serialBaud | serialSafeBaud | cloudHost | cloudPort | cloudUser | cloudPass | cloudTls | cloudCafile
  | cloudCertfile | cloudKeyfile | topicPrefix | allowedCommands | fileSystemRoot | processTimeout | cloudTlsInsecure
  | fileWriteMaxBytes | fileStorageQuotaBytes | cloudQueueLimit | reconnectDelay | statusInterval | debug
  | consoleQueueLimitBytes | mailboxQueueLimit | mailboxQueueBytesLimit | pendingPinRequestLimit | serialRetryTimeout
  | serialResponseTimeout | serialRetryAttempts | serialFallbackThreshold | serialHandshakeMinInterval
  | serialHandshakeFatalFailures | cloudEnabled | watchdogEnabled | watchdogInterval | serialSharedSecret
  | cloudSpoolDir | processMaxOutputBytes | processMaxConcurrent | metricsEnabled | metricsHost | metricsPort
  | bridgeSummaryInterval | bridgeHandshakeInterval | allowNonTmpPaths | cloudHttp3Enabled | cloudHttp3Port
  | cloudHttp3CongestionControl
  deriving DecidableEq

namespace ConfigField

def descriptor : ConfigField → Text × ConfigType
  | .serialPort => ("serial_port".toList, .string)
  | .serialBaud => ("serial_baud".toList, .uint32)
  | .serialSafeBaud => ("serial_safe_baud".toList, .uint32)
  | .cloudHost => ("cloud_host".toList, .string)
  | .cloudPort => ("cloud_port".toList, .uint32)
  | .cloudUser => ("cloud_user".toList, .optionalString)
  | .cloudPass => ("cloud_pass".toList, .optionalString)
  | .cloudTls => ("cloud_tls".toList, .bool)
  | .cloudCafile => ("cloud_cafile".toList, .optionalString)
  | .cloudCertfile => ("cloud_certfile".toList, .optionalString)
  | .cloudKeyfile => ("cloud_keyfile".toList, .optionalString)
  | .topicPrefix => ("topic_prefix".toList, .string)
  | .allowedCommands => ("allowed_commands".toList, .repeatedString)
  | .fileSystemRoot => ("file_system_root".toList, .string)
  | .processTimeout => ("process_timeout".toList, .uint32)
  | .cloudTlsInsecure => ("cloud_tls_insecure".toList, .bool)
  | .fileWriteMaxBytes => ("file_write_max_bytes".toList, .uint32)
  | .fileStorageQuotaBytes => ("file_storage_quota_bytes".toList, .uint32)
  | .cloudQueueLimit => ("cloud_queue_limit".toList, .uint32)
  | .reconnectDelay => ("reconnect_delay".toList, .uint32)
  | .statusInterval => ("status_interval".toList, .uint32)
  | .debug => ("debug".toList, .bool)
  | .consoleQueueLimitBytes => ("console_queue_limit_bytes".toList, .uint32)
  | .mailboxQueueLimit => ("mailbox_queue_limit".toList, .uint32)
  | .mailboxQueueBytesLimit => ("mailbox_queue_bytes_limit".toList, .uint32)
  | .pendingPinRequestLimit => ("pending_pin_request_limit".toList, .uint32)
  | .serialRetryTimeout => ("serial_retry_timeout".toList, .float)
  | .serialResponseTimeout => ("serial_response_timeout".toList, .float)
  | .serialRetryAttempts => ("serial_retry_attempts".toList, .uint32)
  | .serialFallbackThreshold => ("serial_fallback_threshold".toList, .uint32)
  | .serialHandshakeMinInterval => ("serial_handshake_min_interval".toList, .float)
  | .serialHandshakeFatalFailures => ("serial_handshake_fatal_failures".toList, .uint32)
  | .cloudEnabled => ("cloud_enabled".toList, .bool)
  | .watchdogEnabled => ("watchdog_enabled".toList, .bool)
  | .watchdogInterval => ("watchdog_interval".toList, .float)
  | .serialSharedSecret => ("serial_shared_secret".toList, .bytes)
  | .cloudSpoolDir => ("cloud_spool_dir".toList, .string)
  | .processMaxOutputBytes => ("process_max_output_bytes".toList, .uint32)
  | .processMaxConcurrent => ("process_max_concurrent".toList, .uint32)
  | .metricsEnabled => ("metrics_enabled".toList, .bool)
  | .metricsHost => ("metrics_host".toList, .string)
  | .metricsPort => ("metrics_port".toList, .uint32)
  | .bridgeSummaryInterval => ("bridge_summary_interval".toList, .float)
  | .bridgeHandshakeInterval => ("bridge_handshake_interval".toList, .float)
  | .allowNonTmpPaths => ("allow_non_tmp_paths".toList, .bool)
  | .cloudHttp3Enabled => ("cloud_http3_enabled".toList, .bool)
  | .cloudHttp3Port => ("cloud_http3_port".toList, .uint32)
  | .cloudHttp3CongestionControl => ("cloud_http3_congestion_control".toList, .string)

def name (f : ConfigField) : Text := f.descriptor.1

def type (f : ConfigField) : ConfigType := f.descriptor.2

def all : List ConfigField :=
  [.serialPort, .serialBaud, .serialSafeBaud, .cloudHost, .cloudPort, .cloudUser, .cloudPass, .cloudTls,
    .cloudCafile, .cloudCertfile, .cloudKeyfile, .topicPrefix, .allowedCommands, .fileSystemRoot, .processTimeout,
    .cloudTlsInsecure, .fileWriteMaxBytes, .fileStorageQuotaBytes, .cloudQueueLimit, .reconnectDelay,
    .statusInterval, .debug, .consoleQueueLimitBytes, .mailboxQueueLimit, .mailboxQueueBytesLimit,
    .pendingPinRequestLimit, .serialRetryTimeout, .serialResponseTimeout, .serialRetryAttempts,
    .serialFallbackThreshold, .serialHandshakeMinInterval, .serialHandshakeFatalFailures, .cloudEnabled,
    .watchdogEnabled, .watchdogInterval, .serialSharedSecret, .cloudSpoolDir, .processMaxOutputBytes,
    .processMaxConcurrent, .metricsEnabled, .metricsHost, .metricsPort, .bridgeSummaryInterval,
    .bridgeHandshakeInterval, .allowNonTmpPaths, .cloudHttp3Enabled, .cloudHttp3Port, .cloudHttp3CongestionControl]

theorem mem_all (f : ConfigField) : f ∈ all := by
  cases f <;> simp [all]

theorem find?_name (f : ConfigField) : (all.find? fun g => g.name == f.name) = some f := by
  have hall : ∀ f ∈ all, (all.find? fun g => g.name == f.name) = some f := by decide +kernel
  exact hall f f.mem_all

end ConfigField

structure ConfigMessage (py : PyConv) where
  value : (f : ConfigField) → f.type.Value py
  allowedPolicy : Option (List Text)
  topicAuthorization : Option TopicAuthorization

namespace ConfigMessage
variable {py : PyConv}

/-- `pb.RuntimeConfig()` -/
def empty : ConfigMessage py := ⟨fun f => f.type.unset py, none, none⟩

/-- `setattr`, and `extend` on a field without items. -/
def set (f : ConfigField) (v : f.type.Value py) (msg : ConfigMessage py) : ConfigMessage py :=
  { msg with value := Function.update msg.value f v }

/-- What `validate_config` reads. -/
def view (msg : ConfigMessage py) : RuntimeConfig where
  topicPrefix := msg.value .topicPrefix
  allowedCommands := msg.value .allowedCommands
  allowedPolicy := msg.allowedPolicy.getD []
  topicAuthorization := msg.topicAuthorization.getD fun _ => false
  serialResponseTimeout := (msg.value .serialResponseTimeout).1
  serialRetryTimeout := (msg.value .serialRetryTimeout).1
  watchdogEnabled := msg.value .watchdogEnabled
  watchdogInterval := (msg.value .watchdogInterval).1
  serialSharedSecret := msg.value .serialSharedSecret
  fileStorageQuotaBytes := msg.value .fileStorageQuotaBytes
  fileWriteMaxBytes := msg.value .fileWriteMaxBytes
  mailboxQueueLimit := msg.value .mailboxQueueLimit
  mailboxQueueBytesLimit := msg.value .mailboxQueueBytesLimit
  cloudSpoolDir := msg.value .cloudSpoolDir
  fileSystemRoot := msg.value .fileSystemRoot
  allowNonTmpPaths := msg.value .allowNonTmpPaths

/-- `validate_config` -/
def validate (msg : ConfigMessage py) : Except Text (ConfigMessage py) :=
  (msg.view.validate py.toPyText py.isSpace).map fun cfg =>
    { msg.set .allowedCommands cfg.allowedCommands with
      allowedPolicy := some cfg.allowedPolicy
      topicAuthorization := some cfg.topicAuthorization }

theorem validate_eq_ok {msg cfg : ConfigMessage py} : msg.validate = .ok cfg ↔
    (msg.view.normalize py.toPyText py.isSpace).complaint = none ∧
      { msg.set .allowedCommands (msg.view.normalize py.toPyText py.isSpace).allowedCommands with
        allowedPolicy := some (msg.view.normalize py.toPyText py.isSpace).allowedPolicy
        topicAuthorization := some (msg.view.normalize py.toPyText py.isSpace).topicAuthorization } = cfg := by
  unfold validate RuntimeConfig.validate
  cases (msg.view.normalize py.toPyText py.isSpace).complaint with
  | none => exact ⟨fun h => ⟨rfl, Except.ok.inj h⟩, fun h => congrArg Except.ok h.2⟩
  | some message => exact ⟨fun h => (nomatch h), fun h => (nomatch h.1)⟩

/-- The checks leave every field but the list of commands as it is. -/
theorem validate_value {msg cfg : ConfigMessage py} (h : msg.validate = .ok cfg) {f : ConfigField}
    (hf : f ≠ .allowedCommands) : cfg.value f = msg.value f := by
  obtain ⟨-, rfl⟩ := validate_eq_ok.1 h
  exact Function.update_of_ne hf ..

end ConfigMessage

/-! ### Coercion -/

inductive ConfigError where
  | typeError
  | valueError
  | overflowError
  /-- `resolve` of a path raises. -/
  | path
  | invalid (message : Text)
  | system (message : Text)
  deriving DecidableEq

namespace PyConv
variable (py : PyConv)

def str : PyValue → Text
  | .str t => t
  | v => py.repr v

def pathMarkers : List Text :=
  ["_dir".toList, "_file".toList, "_root".toList, "serial_port".toList, "cloud_ca".toList, "cloud_cert".toList,
    "cloud_key".toList]

def isPathField (name : Text) : Bool := pathMarkers.any fun x => x <:+: name

/-- The text is taken for a path. -/
def looksLikePath (t : Text) : Bool := (t.contains '~' || t.contains '/') && !t.contains '\n'

/-- `_coerce_value` to a string; `none` is `None`. -/
def coerceString (name : Text) (v : PyValue) : Except ConfigError (Option Text) :=
  let s := py.strip (py.str v)
  if isPathField name && looksLikePath s then
    match py.resolvePath s with
    | some p => .ok (some p)
    | none => .error .path
  else .ok (if s.isEmpty then none else some s)

/-- `int(val)`, or 0 where it raises `ValueError` or `TypeError`. -/
def coerceInt : PyValue → Except ConfigError Int
  | .bool b => .ok (if b then 1 else 0)
  | .int i => .ok i
  | .float (.finite q) => .ok (q.num.tdiv q.den)
  | .float .nan => .ok 0
  | .float (.infinite _) => .error .overflowError
  | .str t => .ok ((py.int t).getD 0)
  | .bytes b => .ok (((py.decode b).bind py.int).getD 0)
  | _ => .ok 0

/-- `float(val)`, or 0.0 where it raises `ValueError` or `TypeError`. -/
def coerceFloat : PyValue → Except ConfigError PyFloat
  | .bool b => .ok (.finite (if b then 1 else 0))
  | .int i =>
    match py.floatOfInt i with
    | some x => .ok x
    | none => .error .overflowError
  | .float x => .ok x
  | .str t => .ok ((py.float t).getD (.finite 0))
  | .bytes b => .ok (((py.decode b).bind py.float).getD (.finite 0))
  | _ => .ok (.finite 0)

def coerceBool : PyValue → Bool
  | .bool b => b
  | v => ["1".toList, "true".toList, "yes".toList, "on".toList].contains (py.lower (py.str v))

def coerceBytes : PyValue → Bytes
  | .bytes b => b
  | v => py.encode (py.strip (py.str v))

/-- `extend` on the coerced items: `None` is no text. -/
def coerceItems (name : Text) : List PyValue → Except ConfigError (List Text)
  | [] => .ok []
  | v :: vs =>
    match (match v with | .none => Except.ok none | v => py.coerceString name v) with
    | .error e => .error e
    | .ok item =>
      match coerceItems name vs with
      | .error e => .error e
      | .ok items =>
        match item with
        | some t => .ok (t :: items)
        | none => .error .typeError

/-- `_coerce_value` of a value that is not `None`, and the assignment to a field of the type: what the field gets, or
`none` where it is not touched. -/
def coerceValue (name : Text) : (t : ConfigType) → PyValue → Except ConfigError (Option (t.Value py))
  | .string, v => py.coerceString name v
  | .optionalString, v => (py.coerceString name v).map fun o => o.map some
  | .uint32, v => (py.coerceInt v).bind fun i =>
    match Service.pbUint32 i with
    | some n => .ok (some n)
    | none => .error .valueError
  | .float, v => (py.coerceFloat v).map fun x => some ⟨py.narrow x, py.narrow_narrow x⟩
  | .bool, v => .ok (some (py.coerceBool v))
  | .bytes, v => .ok (some (py.coerceBytes v))
  | .repeatedString, .list xs => (py.coerceItems name xs).map some
  | .repeatedString, _ => .ok none

end PyConv

/-! ### Loading -/

/-- A dictionary. -/
abbrev Raw := Text → Option PyValue

/-- `a.update(b)` -/
def Raw.update (a b : Raw) : Raw := fun k => (b k).or (a k)

/-- The three lines of `load_runtime_config` on `allowed_commands`. -/
def Raw.splitCommands (isSpace : Char → Bool) (raw : Raw) : Raw :=
  Function.update raw "allowed_commands".toList
    (match raw "allowed_commands".toList with
    | some (.str t) => some (.list (((t.splitOnP isSpace).filter fun w => !w.isEmpty).map .str))
    | none | some .none => some (.list [])
    | some v => some v)

namespace ConfigMessage
variable {py : PyConv}

/-- What the loop over the fields finds for one of them. -/
def fieldValue (raw : Raw) (f : ConfigField) : Except ConfigError (Option (f.type.Value py)) :=
  match raw f.name with
  | none | some .none => .ok none
  | some v => py.coerceValue f.name f.type v

def loadFields (raw : Raw) : List ConfigField → ConfigMessage py → Except ConfigError (ConfigMessage py)
  | [], msg => .ok msg
  | f :: fs, msg =>
    match fieldValue raw f with
    | .error e => .error e
    | .ok none => loadFields raw fs msg
    | .ok (some v) => loadFields raw fs (msg.set f v)

end ConfigMessage

def Flag.name (f : Flag) : Text := (Flag.fields.lookup f).getD []

/-- The keys of a flag, the first that is present counts. -/
def Flag.keys (f : Flag) : List Text := ["cloud_allow_".toList ++ f.name, "allow_".toList ++ f.name]

/-- The value under a key, as a flag; `None` sets nothing. -/
def PyConv.coerceFlag (py : PyConv) : PyValue → Option Bool
  | .none => none
  | v => some (py.coerceBool v)

/-- What the loop over the flags sets. -/
def flagValue (py : PyConv) (raw : Raw) (f : Flag) : Option Bool :=
  match f.keys.findSome? raw with
  | some v => py.coerceFlag v
  | none => none

def loadAuthorization (py : PyConv) (raw : Raw) : Option TopicAuthorization :=
  if Flag.fields.any fun f => (flagValue py raw f.1).isSome then some fun f => (flagValue py raw f).getD false else none

namespace ConfigMessage
variable {py : PyConv}

/-- The message before validation. -/
def build (raw : Raw) : Except ConfigError (ConfigMessage py) :=
  (loadFields (raw.splitCommands py.isSpace) ConfigField.all empty).map fun msg =>
    { msg with topicAuthorization := loadAuthorization py raw }

theorem build_eq_ok {raw : Raw} {msg : ConfigMessage py} : build raw = .ok msg ↔
    ∃ fields, loadFields (raw.splitCommands py.isSpace) ConfigField.all empty = .ok fields ∧
      { fields with topicAuthorization := loadAuthorization py raw } = msg := by
  unfold build
  cases loadFields (raw.splitCommands py.isSpace) ConfigField.all (empty : ConfigMessage py) with
  | error e =>
    refine iff_of_false (fun h => nomatch h) ?_
    rintro ⟨fields, h, -⟩
    cases h
  | ok fields =>
    constructor
    · exact fun h => ⟨fields, rfl, Except.ok.inj h⟩
    · rintro ⟨fields', h, rfl⟩
      cases h
      rfl

end ConfigMessage

inductive ConfigSource where
  | defaults | uci | cli
  deriving DecidableEq

/-- `_load_raw_config`, and the first lines of `load_runtime_config`; `uci` is `none` where reading it raises, and an
empty section counts as none. -/
def rawValues (defaults : Raw) (uci overrides : Option Raw) : Raw × ConfigSource :=
  let r := match uci with
    | some u => (defaults.update u, .uci)
    | none => (defaults, .defaults)
  match overrides with
  | some o => (r.1.update o, .cli)
  | none => r

/-- `load_runtime_config` on its raw values. -/
def loadRuntimeConfig (py : PyConv) (source : ConfigSource) (raw : Raw) : Except ConfigError (ConfigMessage py) :=
  match ConfigMessage.build raw with
  | .error e => .error e
  | .ok msg =>
    match msg.validate with
    | .ok cfg => .ok cfg
    | .error message =>
      if source = .uci then .error (.system ("Invalid system configuration: ".toList ++ message))
      else .error (.invalid message)

theorem loadRuntimeConfig_eq_ok {py : PyConv} {source : ConfigSource} {raw : Raw} {cfg : ConfigMessage py} :
    loadRuntimeConfig py source raw = .ok cfg ↔ ∃ msg, ConfigMessage.build raw = .ok msg ∧ msg.validate = .ok cfg := by
  unfold loadRuntimeConfig
  constructor
  · intro h
    split at h
    · cases h
    · rename_i msg hbuild
      split at h
      · rename_i hvalid
        cases h
        exact ⟨msg, hbuild, hvalid⟩
      · split at h <;> cases h
  · rintro ⟨msg, hbuild, hvalid⟩
    rw [hbuild]
    dsimp only
    rw [hvalid]

/-! ### `MessageToDict` -/

def base64Alphabet : Text := "ABCDEFGHIJKLMNOPQRSTUVWXYZabcdefghijklmnopqrstuvwxyz0123456789+/".toList

def base64Char (n : Nat) : Char := base64Alphabet.getD n 'A'

/-- `base64.b64encode` -/
def base64 : Bytes → Text
  | [] => []
  | [a] => [base64Char (a.toNat / 4), base64Char (a.toNat % 4 * 16), '=', '=']
  | [a, b] =>
    [base64Char (a.toNat / 4), base64Char (a.toNat % 4 * 16 + b.toNat / 16), base64Char (b.toNat % 16 * 4), '=']
  | a :: b :: c :: rest =>
    base64Char (a.toNat / 4) :: base64Char (a.toNat % 4 * 16 + b.toNat / 16) ::
      base64Char (b.toNat % 16 * 4 + c.toNat / 64) :: base64Char (c.toNat % 64) :: base64 rest

/-- A float in the JSON mapping. -/
def PyConv.jsonFloat (py : PyConv) : PyFloat → PyValue
  | .nan => .str "NaN".toList
  | .infinite negative => .str (if negative then "-Infinity".toList else "Infinity".toList)
  | .finite q => .float (py.shortest (.finite q))

/-- A value in the JSON mapping; `none` where it is left out. -/
def PyConv.toJson (py : PyConv) : (t : ConfigType) → t.Value py → Option PyValue
  | .string, (s : Text) => if s.isEmpty then none else some (.str s)
  | .optionalString, (o : Option Text) => o.map .str
  | .uint32, (n : UInt32) => if n = 0 then none else some (.int n.toNat)
  | .float, (x : { x : PyFloat // py.narrow x = x }) => if x.1 = .finite 0 then none else some (py.jsonFloat x.1)
  | .bool, (b : Bool) => if b then some (.bool true) else none
  | .bytes, (b : Bytes) => if b.isEmpty then none else some (.str (base64 b))
  | .repeatedString, (xs : List Text) => if xs.isEmpty then none else some (.list (xs.map .str))

namespace ConfigMessage
variable {py : PyConv}

/-- `MessageToDict(msg, preserving_proto_field_name=True)` -/
def toDict (msg : ConfigMessage py) : Raw := fun k =>
  match ConfigField.all.find? fun f => f.name == k with
  | some f => py.toJson f.type (msg.value f)
  | none =>
    if k = "allowed_policy".toList then msg.allowedPolicy.map fun _ => .dict
    else if k = "topic_authorization".toList then msg.topicAuthorization.map fun _ => .dict
    else none

theorem toDict_name (msg : ConfigMessage py) (f : ConfigField) : msg.toDict f.name = py.toJson f.type (msg.value f) := by
  unfold toDict
  rw [f.find?_name]

theorem toDict_of_ne (msg : ConfigMessage py) {k : Text} (hk : ∀ f : ConfigField, f.name ≠ k)
    (hpolicy : k ≠ "allowed_policy".toList) (hauth : k ≠ "topic_authorization".toList) : msg.toDict k = none := by
  have hfind : (ConfigField.all.find? fun f => f.name == k) = none :=
    List.find?_eq_none.2 fun f _ hf => hk f (eq_of_beq hf)
  unfold toDict
  rw [hfind]
  dsimp only
  rw [if_neg hpolicy, if_neg hauth]

end ConfigMessage

/-! ### The default configuration -/

/-- A value as a `float` field holds it. -/
def PyConv.ofRat (py : PyConv) (q : ℚ) : { x : PyFloat // py.narrow x = x } := ⟨py.narrow (.finite q), py.narrow_narrow _⟩

/-- The message of `get_default_config`. -/
def defaultMessage (py : PyConv) : ConfigMessage py where
  value
    | .serialPort => "/dev/ttyATH0".toList
    | .serialBaud => (115200 : UInt32)
    | .serialSafeBaud => (115200 : UInt32)
    | .cloudHost => "127.0.0.1".toList
    | .cloudPort => (8443 : UInt32)
    | .cloudTls => true
    | .cloudCafile => some "/etc/ssl/certs/ca-certificates.crt".toList
    | .topicPrefix => "br".toList
    | .fileSystemRoot => defaultFileSystemRoot
    | .processTimeout => (10 : UInt32)
    | .fileWriteMaxBytes => (262144 : UInt32)
    | .fileStorageQuotaBytes => (8388608 : UInt32)
    | .cloudQueueLimit => (256 : UInt32)
    | .reconnectDelay => (5 : UInt32)
    | .statusInterval => (5 : UInt32)
    | .consoleQueueLimitBytes => (16384 : UInt32)
    | .mailboxQueueLimit => defaultMailboxQueueLimit
    | .mailboxQueueBytesLimit => (65536 : UInt32)
    | .pendingPinRequestLimit => (32 : UInt32)
    | .serialRetryTimeout => py.ofRat 10
    | .serialResponseTimeout => py.ofRat 20
    | .serialRetryAttempts => (5 : UInt32)
    | .serialFallbackThreshold => (5 : UInt32)
    | .serialHandshakeMinInterval => py.ofRat 0
    | .serialHandshakeFatalFailures => (15 : UInt32)
    | .cloudEnabled => true
    | .watchdogEnabled => true
    | .watchdogInterval => py.ofRat 10
    | .serialSharedSecret => defaultSerialSharedSecret
    | .cloudSpoolDir => "/tmp/mcubridge/spool".toList
    | .processMaxOutputBytes => (65536 : UInt32)
    | .processMaxConcurrent => (4 : UInt32)
    | .metricsHost => "127.0.0.1".toList
    | .metricsPort => (9130 : UInt32)
    | .bridgeSummaryInterval => py.ofRat 60
    | .bridgeHandshakeInterval => py.ofRat 300
    | .cloudHttp3Port => (8443 : UInt32)
    | .cloudHttp3CongestionControl => "bbr".toList
    | f => f.type.unset py
  allowedPolicy := none
  topicAuthorization := none

/-- `get_default_config` -/
def getDefaultConfig (py : PyConv) : Raw := (defaultMessage py).toDict

/-- The functions on ASCII and on floats without rounding, to evaluate the loading on. -/
def PyConv.ascii : PyConv where
  toPyText := .ascii
  isSpace := Char.isWhitespace
  repr
    | .none => "None".toList
    | .bool b => if b then "True".toList else "False".toList
    | .int i => (toString i).toList
    | _ => []
  float := fun t =>
    if t = "NaN".toList then some .nan
    else if t = "Infinity".toList then some (.infinite false)
    else if t = "-Infinity".toList then some (.infinite true)
    else (PyText.ascii.int t).map fun i => .finite i
  floatOfInt := fun i => some (.finite i)
  resolvePath := some
  narrow := id
  shortest := id
  narrow_narrow := fun _ => rfl
  narrow_zero := rfl

end Daemon
end McuBridge
