import McuBridge.Daemon.Topics

/-! # Topic authorisation (`protocol/structures.py`, `TopicAuthorization`)

The daemon does not write the table from topic and action to policy flag down: it computes it from the
names of the flags, of the topics and of the members of the action enums. `topicAuthTable` is what comes
out. -/

namespace McuBridge
namespace Daemon

/-- The fields of `TopicAuthorization`. -/
inductive Flag where
  | fileRead | fileWrite | fileRemove
  | datastoreGet | datastorePut
  | mailboxRead | mailboxWrite
  | shellRunAsync | shellPoll | shellKill
  | consoleInput
  | digitalWrite | digitalRead | digitalMode
  | analogWrite | analogRead
  | systemVersion | systemFreeMemory | systemBootloader
  | spiBegin | spiEnd | spiTransfer | spiConfig
  deriving DecidableEq

namespace Flag

/-- The fields with their names, in field order. -/
def fields : List (Flag × Text) :=
  [(.fileRead, "file_read".toList), (.fileWrite, "file_write".toList), (.fileRemove, "file_remove".toList),
    (.datastoreGet, "datastore_get".toList), (.datastorePut, "datastore_put".toList),
    (.mailboxRead, "mailbox_read".toList), (.mailboxWrite, "mailbox_write".toList),
    (.shellRunAsync, "shell_run_async".toList), (.shellPoll, "shell_poll".toList),
    (.shellKill, "shell_kill".toList), (.consoleInput, "console_input".toList),
    (.digitalWrite, "digital_write".toList), (.digitalRead, "digital_read".toList),
    (.digitalMode, "digital_mode".toList), (.analogWrite, "analog_write".toList),
    (.analogRead, "analog_read".toList), (.systemVersion, "system_version".toList),
    (.systemFreeMemory, "system_free_memory".toList), (.systemBootloader, "system_bootloader".toList),
    (.spiBegin, "spi_begin".toList), (.spiEnd, "spi_end".toList), (.spiTransfer, "spi_transfer".toList),
    (.spiConfig, "spi_config".toList)]

end Flag

abbrev TopicAuthorization := Flag → Bool

/-- The values of the topic's action enum; there is none for `STATUS`. -/
def Topic.actions : Topic → List Text
  | .file => ["read".toList, "write".toList, "remove".toList]
  | .spi => ["begin".toList, "end".toList, "transfer".toList, "config".toList]
  | .shell => ["run_async".toList, "poll".toList, "kill".toList]
  | .mailbox => ["write".toList, "read".toList, "incoming".toList, "processed".toList, "errors".toList]
  | .datastore => ["get".toList, "put".toList]
  | .console => ["in".toList, "out".toList]
  | .system =>
    ["free_memory".toList, "version".toList, "bootloader".toList, "get".toList, "value".toList,
      "metrics".toList, "bridge".toList, "handshake".toList, "summary".toList, "state".toList]
  | .digital => ["write".toList, "read".toList, "mode".toList]
  | .analog => ["write".toList, "read".toList]
  | .status => []

/-- `_get_topic_auth_mapping_v3` -/
def topicAuthMapping : List ((Text × Text) × Flag) :=
  Flag.fields.flatMap fun (f, name) => Topic.all.filterMap fun t =>
    let pre := t.lowerName ++ ['_']
    if pre.isPrefixOf name then
      let suffix := name.drop pre.length
      (t.actions.find? fun act => act == suffix || (suffix == "input".toList && act == "in".toList)).map
        fun act => ((t.value, act), f)
    else none

/-- `mapping.get((topic, action))`: a later entry would replace an earlier one. -/
def lookupFlag (topic action : Text) : Option Flag := topicAuthMapping.reverse.lookup (topic, action)

def allowsTopic (py : PyText) (auth : TopicAuthorization) (topic action : Text) : Bool :=
  match lookupFlag (py.lower topic) (py.lower action) with
  | some f => auth f
  | none => false

/-- The table `topicAuthMapping` comes out as. -/
def topicAuthTable : List ((Text × Text) × Flag) :=
  [(("file".toList, "read".toList), .fileRead), (("file".toList, "write".toList), .fileWrite),
    (("file".toList, "remove".toList), .fileRemove), (("datastore".toList, "get".toList), .datastoreGet),
    (("datastore".toList, "put".toList), .datastorePut), (("mailbox".toList, "read".toList), .mailboxRead),
    (("mailbox".toList, "write".toList), .mailboxWrite), (("sh".toList, "run_async".toList), .shellRunAsync),
    (("sh".toList, "poll".toList), .shellPoll), (("sh".toList, "kill".toList), .shellKill),
    (("console".toList, "in".toList), .consoleInput), (("d".toList, "write".toList), .digitalWrite),
    (("d".toList, "read".toList), .digitalRead), (("d".toList, "mode".toList), .digitalMode),
    (("a".toList, "write".toList), .analogWrite), (("a".toList, "read".toList), .analogRead),
    (("system".toList, "version".toList), .systemVersion),
    (("system".toList, "free_memory".toList), .systemFreeMemory),
    (("system".toList, "bootloader".toList), .systemBootloader), (("spi".toList, "begin".toList), .spiBegin),
    (("spi".toList, "end".toList), .spiEnd), (("spi".toList, "transfer".toList), .spiTransfer),
    (("spi".toList, "config".toList), .spiConfig)]

theorem topicAuthMapping_eq : topicAuthMapping = topicAuthTable := by
  decide +kernel

theorem Topic.lower_value (py : PyText) (t : Topic) : py.lower t.value = t.value :=
  py.lower_word (by cases t <;> decide +kernel)

/-- On an action word the check reads the flag the table gives for it. -/
theorem allowsTopic_word (py : PyText) (auth : TopicAuthorization) (t : Topic) {act : Text}
    (hact : act.all isWordChar = true) {f : Flag} (hf : lookupFlag t.value act = some f) :
    allowsTopic py auth t.value act = auth f := by
  unfold allowsTopic
  rw [t.lower_value py, py.lower_word hact, hf]

end Daemon
end McuBridge
