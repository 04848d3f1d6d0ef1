import McuBridge.Daemon.Settings

/-! # From the configuration to the state (`state/context.py`)

`create_runtime_state` hands the configuration over as keyword arguments made by `MessageToDict`: a field that is zero
or empty is no argument, and an argument that has another name than the parameter counts for nothing. -/

namespace McuBridge
namespace Daemon

/-- The fields of `RuntimeState` that hold a limit, a time-out, an interval or a path. -/
inductive StateField where
  | cloudQueueLimit | consoleQueueLimitBytes | processTimeout | fileSystemRoot | fileWriteMaxBytes
  | fileStorageQuotaBytes | cloudTopicPrefix | watchdogInterval | mailboxQueueLimit | mailboxQueueBytesLimit
  | pendingPinRequestLimit | processOutputLimit | processMaxConcurrent | serialAckTimeoutMs | serialResponseTimeoutMs
  | serialRetryLimit
  deriving DecidableEq

/-- Its keyword argument and its default. -/
def StateField.parameter : StateField → Text × PyValue
  | .cloudQueueLimit => ("cloud_queue_limit".toList, .int 256)
  | .consoleQueueLimitBytes => ("console_queue_limit_bytes".toList, .int 16384)
  | .processTimeout => ("process_timeout".toList, .int 10)
  | .fileSystemRoot => ("file_system_root".toList, .str defaultFileSystemRoot)
  | .fileWriteMaxBytes => ("file_write_max_bytes".toList, .int 262144)
  | .fileStorageQuotaBytes => ("file_storage_quota_bytes".toList, .int 8388608)
  | .cloudTopicPrefix => ("cloud_topic_prefix".toList, .str "br".toList)
  | .watchdogInterval => ("watchdog_interval".toList, .float (.finite 10))
  | .mailboxQueueLimit => ("mailbox_queue_limit".toList, .int 64)
  | .mailboxQueueBytesLimit => ("mailbox_queue_bytes_limit".toList, .int 65536)
  | .pendingPinRequestLimit => ("pending_pin_request_limit".toList, .int 32)
  | .processOutputLimit => ("process_output_limit".toList, .int 65536)
  | .processMaxConcurrent => ("process_max_concurrent".toList, .int 4)
  | .serialAckTimeoutMs => ("serial_ack_timeout_ms".toList, .int 10000)
  | .serialResponseTimeoutMs => ("serial_response_timeout_ms".toList, .int 20000)
  | .serialRetryLimit => ("serial_retry_limit".toList, .int 5)

/-- `d[new] = d.pop(old)`, if `old` is in `d`. -/
def Raw.rename (old new : Text) (raw : Raw) : Raw :=
  match raw old with
  | some v => Function.update (Function.update raw old none) new (some v)
  | none => raw

namespace ConfigMessage
variable {py : PyConv}

/-- The keyword arguments. The two messages among them set no limit. -/
def stateArguments (cfg : ConfigMessage py) : Raw :=
  ((cfg.toDict.rename "topic_prefix".toList "cloud_topic_prefix".toList).rename
    "cloud_queue_limit".toList "cloud_queue_limit".toList).rename
      "process_max_output_bytes".toList "process_output_limit".toList

/-- `create_runtime_state` -/
def runtimeState (cfg : ConfigMessage py) (x : StateField) : PyValue :=
  (cfg.stateArguments x.parameter.1).getD x.parameter.2

end ConfigMessage

/-! ### What the fields stand for -/

/-- `round`, to the even number on a tie. -/
def pyRound (q : ℚ) : Int :=
  if q - q.floor < 1 / 2 then q.floor
  else if 1 / 2 < q - q.floor then q.floor + 1
  else if q.floor % 2 = 0 then q.floor
  else q.floor + 1

/-- `round(x * 1000.0)`; `none` where it raises. -/
def PyFloat.milliseconds : PyFloat → Option Int
  | finite q => some (pyRound (q * 1000))
  | _ => none

namespace StateField

/-- The field of the configuration. -/
def source : StateField → ConfigField
  | cloudQueueLimit => .cloudQueueLimit
  | consoleQueueLimitBytes => .consoleQueueLimitBytes
  | processTimeout => .processTimeout
  | fileSystemRoot => .fileSystemRoot
  | fileWriteMaxBytes => .fileWriteMaxBytes
  | fileStorageQuotaBytes => .fileStorageQuotaBytes
  | cloudTopicPrefix => .topicPrefix
  | watchdogInterval => .watchdogInterval
  | mailboxQueueLimit => .mailboxQueueLimit
  | mailboxQueueBytesLimit => .mailboxQueueBytesLimit
  | pendingPinRequestLimit => .pendingPinRequestLimit
  | processOutputLimit => .processMaxOutputBytes
  | processMaxConcurrent => .processMaxConcurrent
  | serialAckTimeoutMs => .serialRetryTimeout
  | serialResponseTimeoutMs => .serialResponseTimeout
  | serialRetryLimit => .serialRetryAttempts

def all : List StateField :=
  [cloudQueueLimit, consoleQueueLimitBytes, processTimeout, fileSystemRoot, fileWriteMaxBytes, fileStorageQuotaBytes,
    cloudTopicPrefix, watchdogInterval, mailboxQueueLimit, mailboxQueueBytesLimit, pendingPinRequestLimit,
    processOutputLimit, processMaxConcurrent, serialAckTimeoutMs, serialResponseTimeoutMs, serialRetryLimit]

theorem mem_all (x : StateField) : x ∈ all := by
  cases x <;> simp [all]

/-- Some argument has the name of the parameter. -/
def named : StateField → Bool
  | serialAckTimeoutMs | serialResponseTimeoutMs | serialRetryLimit => false
  | _ => true

end StateField

/-- `getattr` -/
def PyConv.get (py : PyConv) : (t : ConfigType) → t.Value py → PyValue
  | .string, (s : Text) => .str s
  | .optionalString, (o : Option Text) => .str (o.getD [])
  | .uint32, (n : UInt32) => .int n.toNat
  | .float, (x : { x : PyFloat // py.narrow x = x }) => .float x.1
  | .bool, (b : Bool) => .bool b
  | .bytes, (b : Bytes) => .bytes b
  | .repeatedString, (xs : List Text) => .list (xs.map .str)

namespace ConfigMessage
variable {py : PyConv}

/-- The value of the configuration, as the field of the state holds it; there is none for an infinite time-out. -/
def configured (cfg : ConfigMessage py) : StateField → Option PyValue
  | .serialAckTimeoutMs => (cfg.value .serialRetryTimeout).1.milliseconds.map .int
  | .serialResponseTimeoutMs => (cfg.value .serialResponseTimeout).1.milliseconds.map .int
  | x => some (py.get x.source.type (cfg.value x.source))

/-- When that value arrives: it is not zero or empty, and not changed on the way; or, for the three parameters that no
argument has the name of, it is the default. -/
def Reaches (cfg : ConfigMessage py) : StateField → Prop
  | .fileSystemRoot => cfg.value .fileSystemRoot ≠ ([] : Text)
  | .cloudTopicPrefix => True
  | .watchdogInterval =>
    ∃ q : ℚ, q ≠ 0 ∧ (cfg.value .watchdogInterval).1 = .finite q ∧ py.shortest (.finite q) = .finite q
  | .serialAckTimeoutMs => (cfg.value .serialRetryTimeout).1.milliseconds = some 10000
  | .serialResponseTimeoutMs => (cfg.value .serialResponseTimeout).1.milliseconds = some 20000
  | .serialRetryLimit => cfg.value .serialRetryAttempts = (5 : UInt32)
  | x => py.get x.source.type (cfg.value x.source) ≠ .int 0

end ConfigMessage

/-! ### Renamed arguments -/

namespace Raw
variable {raw : Raw} {old new k : Text}

theorem rename_self : raw.rename k k = raw := by
  unfold rename
  cases hv : raw k with
  | none => rfl
  | some v =>
    dsimp only
    rw [Function.update_idem, ← hv, Function.update_eq_self]

theorem rename_new : raw.rename old new new = (raw old).or (raw new) := by
  unfold rename
  cases raw old with
  | none => exact Option.none_or.symm
  | some v => exact Function.update_self ..

theorem rename_of_ne (hold : k ≠ old) (hnew : k ≠ new) : raw.rename old new k = raw k := by
  unfold rename
  cases raw old with
  | none => rfl
  | some v =>
    dsimp only
    rw [Function.update_of_ne hnew, Function.update_of_ne hold]

end Raw

def renamedNames : List Text :=
  ["topic_prefix".toList, "cloud_topic_prefix".toList, "process_max_output_bytes".toList, "process_output_limit".toList]

/-- The parameters that have no name of a field. -/
def foreignNames : List Text :=
  ["cloud_topic_prefix".toList, "process_output_limit".toList, "serial_ack_timeout_ms".toList,
    "serial_response_timeout_ms".toList, "serial_retry_limit".toList]

namespace ConfigMessage
variable {py : PyConv} {msg cfg : ConfigMessage py}

theorem toDict_parameter {k : Text} (hk : k ∈ foreignNames) : cfg.toDict k = none := by
  have hall : ∀ k ∈ foreignNames, (∀ f ∈ ConfigField.all, f.name ≠ k) ∧ k ≠ "allowed_policy".toList ∧
      k ≠ "topic_authorization".toList := by decide +kernel
  obtain ⟨hname, hpolicy, hauth⟩ := hall k hk
  exact cfg.toDict_of_ne (fun f => hname f f.mem_all) hpolicy hauth

theorem stateArguments_of_ne {k : Text} (hk : k ∉ renamedNames) : cfg.stateArguments k = cfg.toDict k := by
  simp only [renamedNames, List.mem_cons, List.not_mem_nil, or_false, not_or] at hk
  obtain ⟨htopic, hcloud, hmax, hlimit⟩ := hk
  unfold stateArguments
  rw [Raw.rename_of_ne hmax hlimit, Raw.rename_self, Raw.rename_of_ne htopic hcloud]

theorem stateArguments_cloudTopicPrefix :
    cfg.stateArguments "cloud_topic_prefix".toList = cfg.toDict "topic_prefix".toList := by
  unfold stateArguments
  rw [Raw.rename_of_ne (by decide +kernel) (by decide +kernel), Raw.rename_self, Raw.rename_new,
    toDict_parameter (show "cloud_topic_prefix".toList ∈ foreignNames by decide +kernel), Option.or_none]

theorem stateArguments_processOutputLimit :
    cfg.stateArguments "process_output_limit".toList = cfg.toDict "process_max_output_bytes".toList := by
  unfold stateArguments
  rw [Raw.rename_new, Raw.rename_self, Raw.rename_of_ne (by decide +kernel) (by decide +kernel),
    Raw.rename_of_ne (by decide +kernel) (by decide +kernel),
    toDict_parameter (show "process_output_limit".toList ∈ foreignNames by decide +kernel), Option.or_none]

/-- A parameter has the name of a field, or gets it by a renaming, or is not named. -/
theorem parameter_cases (x : StateField) :
    x = .cloudTopicPrefix ∨ x = .processOutputLimit ∨ x.parameter.1 ∉ renamedNames ∧
      (x.named = true ∧ x.parameter.1 = x.source.name ∨ x.named = false ∧ x.parameter.1 ∈ foreignNames) := by
  have hall : ∀ x ∈ StateField.all, x = .cloudTopicPrefix ∨ x = .processOutputLimit ∨
      x.parameter.1 ∉ renamedNames ∧
        (x.named = true ∧ x.parameter.1 = x.source.name ∨ x.named = false ∧ x.parameter.1 ∈ foreignNames) := by
    decide +kernel
  exact hall x x.mem_all

theorem stateArguments_parameter (x : StateField) :
    cfg.stateArguments x.parameter.1 = if x.named then py.toJson x.source.type (cfg.value x.source) else none := by
  rcases parameter_cases x with rfl | rfl | ⟨hplain, ⟨hnamed, hname⟩ | ⟨hnamed, hforeign⟩⟩
  · exact stateArguments_cloudTopicPrefix.trans (cfg.toDict_name .topicPrefix)
  · exact stateArguments_processOutputLimit.trans (cfg.toDict_name .processMaxOutputBytes)
  · rw [stateArguments_of_ne hplain, hname, cfg.toDict_name, if_pos hnamed]
  · rw [stateArguments_of_ne hplain, toDict_parameter hforeign, hnamed]
    rfl

theorem runtimeState_eq (x : StateField) : cfg.runtimeState x =
    (if x.named then py.toJson x.source.type (cfg.value x.source) else none).getD x.parameter.2 := by
  unfold runtimeState
  rw [stateArguments_parameter]

/-! ### What arrives -/

theorem topicPrefix_ne_nil (h : msg.validate = .ok cfg) : cfg.value .topicPrefix ≠ ([] : Text) := by
  rw [validate_value h (by decide)]
  intro hnil
  have htopic : (msg.view.normalize py.toPyText py.isSpace).topicPrefix = [] := hnil
  have hcomplaint := (validate_eq_ok.1 h).1
  unfold RuntimeConfig.complaint at hcomplaint
  rw [htopic, if_pos (by decide)] at hcomplaint
  cases hcomplaint

theorem uint32_reaches (n : UInt32) {d : Int} (hd : d ≠ 0) :
    some ((py.toJson .uint32 n).getD (.int d)) = some (py.get .uint32 n) ↔ py.get .uint32 n ≠ .int 0 := by
  unfold PyConv.toJson PyConv.get
  dsimp only
  by_cases hn : n = 0
  · rw [if_pos hn, hn]
    simpa using hd
  · have hne : n.toNat ≠ 0 := fun h => hn (UInt32.toNat_inj.1 h)
    rw [if_neg hn]
    simpa using hne

theorem text_reaches (s : Text) {d : Text} (hd : d ≠ []) :
    some ((py.toJson .string s).getD (.str d)) = some (py.get .string s) ↔ s ≠ [] := by
  unfold PyConv.toJson PyConv.get
  dsimp only
  cases s with
  | nil => simpa using hd
  | cons c cs => simp

theorem float_reaches (x : { x : PyFloat // py.narrow x = x }) {d : ℚ} (hd : d ≠ 0) :
    some ((py.toJson .float x).getD (.float (.finite d))) = some (py.get .float x) ↔
      ∃ q : ℚ, q ≠ 0 ∧ x.1 = .finite q ∧ py.shortest (.finite q) = .finite q := by
  unfold PyConv.toJson PyConv.get PyConv.jsonFloat
  dsimp only
  obtain ⟨x, hx⟩ := x
  cases x with
  | nan =>
    rw [if_neg PyFloat.noConfusion, Option.getD_some, Option.some_inj]
    refine iff_of_false PyValue.noConfusion ?_
    rintro ⟨q, -, heq, -⟩
    cases heq
  | infinite negative =>
    rw [if_neg PyFloat.noConfusion, Option.getD_some, Option.some_inj]
    refine iff_of_false PyValue.noConfusion ?_
    rintro ⟨q, -, heq, -⟩
    cases heq
  | finite q =>
    by_cases hq : q = 0
    · subst hq
      rw [if_pos rfl]
      refine iff_of_false (fun h => hd ?_) ?_
      · simpa using h
      · rintro ⟨q, hq, heq, -⟩
        exact hq (PyFloat.finite.inj heq).symm
    · have hne : PyFloat.finite q ≠ .finite 0 := fun h => hq (PyFloat.finite.inj h)
      rw [if_neg hne, Option.getD_some, Option.some_inj, PyValue.float.injEq]
      refine ⟨fun h => ⟨q, hq, rfl, h⟩, ?_⟩
      rintro ⟨r, -, heq, hr⟩
      obtain rfl := PyFloat.finite.inj heq
      exact hr

theorem retries_reach (n : UInt32) : some (PyValue.int 5) = some (py.get .uint32 n) ↔ n = 5 := by
  unfold PyConv.get
  rw [Option.some_inj, PyValue.int.injEq, ← UInt32.toNat_inj]
  exact ⟨fun h => (Int.ofNat.inj h).symm, fun h => (congrArg Int.ofNat h).symm⟩

theorem milliseconds_reaches (o : Option Int) (d : Int) :
    some (PyValue.int d) = o.map PyValue.int ↔ o = some d := by
  cases o with
  | none => simp
  | some i => simp [eq_comm]

/-- For every configuration that is accepted: a field of the state holds its value exactly if that value reaches it. -/
theorem state_config_iff (h : msg.validate = .ok cfg) (x : StateField) :
    some (cfg.runtimeState x) = cfg.configured x ↔ cfg.Reaches x := by
  rw [runtimeState_eq]
  cases x
  case fileSystemRoot => exact text_reaches _ (by decide)
  case cloudTopicPrefix => exact (text_reaches _ (by decide)).trans (iff_true_intro (topicPrefix_ne_nil h))
  case watchdogInterval => exact float_reaches _ (by decide)
  case serialAckTimeoutMs => exact milliseconds_reaches _ _
  case serialResponseTimeoutMs => exact milliseconds_reaches _ _
  case serialRetryLimit => exact retries_reach _
  all_goals exact uint32_reaches _ (by decide)

/-- What `createRuntimeState` says of the two of these fields that `configure` reads. -/
theorem createRuntimeState_fields :
    cfg.runtimeState .fileSystemRoot = .str (createRuntimeState cfg.view).fileSystemRoot ∧
      cfg.runtimeState .mailboxQueueLimit = .int (createRuntimeState cfg.view).mailboxQueueLimit.toNat := by
  have htext (s : Text) : (py.toJson .string s).getD (.str defaultFileSystemRoot) =
      .str (if s.isEmpty then defaultFileSystemRoot else s) := by
    unfold PyConv.toJson
    cases s <;> rfl
  have hlimit (n : UInt32) : (py.toJson .uint32 n).getD (.int 64) =
      .int (if n = 0 then defaultMailboxQueueLimit else n).toNat := by
    unfold PyConv.toJson
    dsimp only
    split <;> rfl
  rw [runtimeState_eq, runtimeState_eq]
  exact ⟨htext _, hlimit _⟩

theorem get_ne_zero (h : msg.validate = .ok cfg) {f : ConfigField} (hf : f ≠ .allowedCommands) {i : Int}
    (hi : py.get f.type (msg.value f) = .int i) (hne : i ≠ 0) : py.get f.type (cfg.value f) ≠ .int 0 := by
  rw [validate_value h hf, hi]
  exact fun hzero => hne (PyValue.int.inj hzero)

theorem state_config_sample :
    ∃ cfg, (defaultMessage .ascii).validate = .ok cfg ∧ ∀ x, some (cfg.runtimeState x) = cfg.configured x := by
  have hcomplaint : ((defaultMessage .ascii).view.normalize .ascii Char.isWhitespace).complaint = none := by
    decide +kernel
  obtain ⟨cfg, h⟩ : ∃ cfg, (defaultMessage .ascii).validate = .ok cfg := ⟨_, validate_eq_ok.2 ⟨hcomplaint, rfl⟩⟩
  have hretry : cfg.value .serialRetryTimeout = PyConv.ascii.ofRat 10 := validate_value h (by decide)
  have hresponse : cfg.value .serialResponseTimeout = PyConv.ascii.ofRat 20 := validate_value h (by decide)
  have hinterval : cfg.value .watchdogInterval = PyConv.ascii.ofRat 10 := validate_value h (by decide)
  refine ⟨cfg, h, fun x => (state_config_iff h x).2 ?_⟩
  cases x
  case fileSystemRoot => exact (validate_value h (by decide)).trans_ne (List.cons_ne_nil _ _)
  case cloudTopicPrefix => exact trivial
  case watchdogInterval =>
    unfold Reaches
    rw [hinterval]
    exact ⟨10, by decide, rfl, rfl⟩
  case serialAckTimeoutMs =>
    show (cfg.value .serialRetryTimeout).1.milliseconds = some 10000
    rw [hretry]
    decide +kernel
  case serialResponseTimeoutMs =>
    show (cfg.value .serialResponseTimeout).1.milliseconds = some 20000
    rw [hresponse]
    decide +kernel
  case serialRetryLimit => exact validate_value h (by decide)
  all_goals exact get_ne_zero h (by decide) rfl (by decide)

/-- A queue limit of zero and a time-out of a minute are accepted, and the state gets 256 and 20 seconds. -/
theorem state_config_defaults :
    let msg := ((defaultMessage .ascii).set .cloudQueueLimit (0 : UInt32)).set .serialResponseTimeout
      (PyConv.ascii.ofRat 60)
    ∃ cfg, msg.validate = .ok cfg ∧
      cfg.configured .cloudQueueLimit = some (.int 0) ∧ cfg.runtimeState .cloudQueueLimit = .int 256 ∧
      cfg.configured .serialResponseTimeoutMs = some (.int 60000) ∧
      cfg.runtimeState .serialResponseTimeoutMs = .int 20000 := by
  intro msg
  have hcomplaint : (msg.view.normalize .ascii Char.isWhitespace).complaint = none := by decide +kernel
  obtain ⟨cfg, h⟩ : ∃ cfg, msg.validate = .ok cfg := ⟨_, validate_eq_ok.2 ⟨hcomplaint, rfl⟩⟩
  have hlimit : cfg.value .cloudQueueLimit = (0 : UInt32) := validate_value h (by decide)
  have hresponse : cfg.value .serialResponseTimeout = PyConv.ascii.ofRat 60 := validate_value h (by decide)
  have hms : (cfg.value .serialResponseTimeout).1.milliseconds = some 60000 := by
    rw [hresponse]
    decide +kernel
  refine ⟨cfg, h, ?_, ?_, ?_, runtimeState_eq _⟩
  · exact congrArg (fun n : UInt32 => some (PyConv.ascii.get .uint32 n)) hlimit
  · exact (runtimeState_eq _).trans (congrArg (fun n : UInt32 => (PyConv.ascii.toJson .uint32 n).getD (.int 256)) hlimit)
  · exact congrArg (Option.map PyValue.int) hms

end ConfigMessage
end Daemon
end McuBridge
