import McuBridge.Daemon.Request
import Mathlib.Data.List.Nodup

/-! # Authorisation of requests

`Effect.flag` is the policy flag that names an effect. The action `_deduce_action` reads off the topic is
the one the handler takes (`NamedBy`), with three exceptions: system topics are not checked at all, a
console topic without a segment is not checked, and a pin topic with three or more segments is checked for
its second segment and then written. -/

namespace McuBridge
namespace Daemon

/-- The flag that names a serial command of the request handlers. -/
def commandFlag : Command → Option Flag
  | .setPinMode => some .digitalMode
  | .digitalWrite => some .digitalWrite
  | .analogWrite => some .analogWrite
  | .digitalRead => some .digitalRead
  | .analogRead => some .analogRead
  | .consoleWrite => some .consoleInput
  | .mailboxPush => some .mailboxWrite
  | .fileRead => some .fileRead
  | .fileWrite => some .fileWrite
  | .fileRemove => some .fileRemove
  | .spiBegin => some .spiBegin
  | .spiEnd => some .spiEnd
  | .spiTransfer => some .spiTransfer
  | .spiSetConfig => some .spiConfig
  | .enterBootloader => some .systemBootloader
  | .getFreeMemory => some .systemFreeMemory
  | .getVersion => some .systemVersion
  | _ => none

/-- A publication needs no flag. -/
def Effect.flag : Effect → Option Flag
  | .send cmd _ => commandFlag cmd
  | .consoleInput _ => some .consoleInput
  | .datastoreSet _ _ => some .datastorePut
  | .datastoreGet _ => some .datastoreGet
  | .mailboxAppend _ => some .mailboxWrite
  | .mailboxPopleft => some .mailboxRead
  | .fileWrite _ _ => some .fileWrite
  | .fileRead _ => some .fileRead
  | .fileRemove _ => some .fileRemove
  | .processRun _ => some .shellRunAsync
  | .processPoll _ => some .shellPoll
  | .processKill _ => some .shellKill
  | .publish _ _ => none

namespace Service

/-- The policy in force grants `f`. -/
def grants (f : Flag) (s : Service) : Bool := s.topicAuthorization.any fun auth => auth f

/-- What one request does. -/
def requestEffects (h : Host) (req : BridgeRequest) (s : Service) : List Effect :=
  (handleRequest h req { s with effects := [] }).effects

/-- The request does nothing the policy does not grant by name. -/
def Authorized (h : Host) (req : BridgeRequest) (s : Service) : Prop :=
  ∀ e ∈ s.requestEffects h req, ∀ f, e.flag = some f → s.grants f = true

/-! ### The branches no check covers -/

/-- The message a pin write sends. -/
def pinWrite (h : Host) (route : TopicRoute) (req : BridgeRequest) : Option PayloadType :=
  route.segments.head?.bind fun pinText => (parsePin h.py pinText).bind fun pin =>
    if pin < 0 then none
    else (h.py.decode req.payload).bind fun pl =>
      (if h.py.isDigit pl then h.py.int pl else some 0).bind fun value => pinWriteMessage pin value

/-- The flag of the effect that the request reaches without a check of that flag. -/
def uncheckedFlag (h : Host) (route : TopicRoute) (req : BridgeRequest) (s : Service) : Option Flag :=
  match route.topic with
  | .system =>
    if !s.serial then none
    else if route.identifier = "bootloader".toList then some .systemBootloader
    else if route.identifier = "free_memory".toList ∧ "get".toList ∈ route.segments then some .systemFreeMemory
    else if route.identifier = "version".toList ∧ "get".toList ∈ route.segments then some .systemVersion
    else none
  | .console => if route.identifier = [] ∧ req.payload ≠ [] then some .consoleInput else none
  | .digital | .analog =>
    if s.serial ∧ 2 < route.segments.length ∧ s.checkPasses h.py route ∧ (pinWrite h route req).isSome then
      some (if route.topic = .digital then .digitalWrite else .analogWrite)
    else none
  | _ => none

/-- What the unchecked branches do is granted. -/
def UncheckedGranted (h : Host) (req : BridgeRequest) (s : Service) : Prop :=
  ∀ route, parseTopic s.cloudTopicPrefix req.topic = some route →
    ∀ f, uncheckedFlag h route req s = some f → s.grants f = true

/-! ### Traces -/

/-- Everything done between `s` and `t` satisfies `Q`. -/
def Only (Q : Effect → Prop) (s t : Service) : Prop := ∃ new, t.effects = s.effects ++ new ∧ ∀ e ∈ new, Q e

variable {Q Q' : Effect → Prop} {s t u : Service}

theorem Only.refl (s : Service) : Only Q s s := ⟨[], by simp, by simp⟩

theorem Only.of_eq (h : t.effects = s.effects) : Only Q s t := ⟨[], by simp [h], by simp⟩

theorem Only.trans (h : Only Q s t) (h' : Only Q t u) : Only Q s u := by
  obtain ⟨new, ht, hnew⟩ := h
  obtain ⟨new', hu, hnew'⟩ := h'
  refine ⟨new ++ new', by rw [hu, ht, List.append_assoc], fun e he => ?_⟩
  rcases List.mem_append.1 he with he | he
  · exact hnew e he
  · exact hnew' e he

theorem Only.mono (h : Only Q s t) (hQ : ∀ e, Q e → Q' e) : Only Q' s t := by
  obtain ⟨new, ht, hnew⟩ := h
  exact ⟨new, ht, fun e he => hQ e (hnew e he)⟩

theorem Only.mem {e : Effect} (h : Only Q s t) (he : e ∈ s.effects) : e ∈ t.effects := by
  obtain ⟨new, ht, -⟩ := h
  rw [ht]
  exact List.mem_append_left _ he

theorem only_of_perform {e : Effect} (he : Q e) (ht : t.effects = s.effects ++ [e]) : Only Q s t :=
  ⟨[e], ht, by simpa using he⟩

theorem send_only {cmd : Command} {p : Payload} (h : Q (.send cmd p)) (s : Service) : Only Q s (s.send cmd p).1 :=
  only_of_perform h rfl

theorem send_mem (cmd : Command) (p : Payload) (s : Service) : Effect.send cmd p ∈ (s.send cmd p).1.effects :=
  List.mem_append_right _ (List.mem_singleton.2 rfl)

/-! ### The flag the check reads -/

/-- `act` is an action word of `t` and `f` is its flag. -/
def Names (t : Topic) (act : Text) (f : Flag) : Prop :=
  act.all isWordChar = true ∧ lookupFlag t.value act = some f

instance (t : Topic) (act : Text) (f : Flag) : Decidable (Names t act f) :=
  decidable_of_iff (act.all isWordChar = true ∧ topicAuthTable.reverse.lookup (t.value, act) = some f)
    (by rw [Names, lookupFlag, topicAuthMapping_eq])

theorem mem_of_lookupFlag {topic act : Text} {f : Flag} (h : lookupFlag topic act = some f) :
    ((topic, act), f) ∈ topicAuthTable := by
  rw [lookupFlag, topicAuthMapping_eq] at h
  obtain ⟨l₁, l₂, hl, -⟩ := List.lookup_eq_some_iff.1 h
  rw [← List.mem_reverse, hl]
  simp

/-- The `i`-th entry of the table names its flag: the entries are for different actions, which are words. -/
theorem names_entry {t : Topic} {act : Text} {f : Flag} (i : Nat)
    (h : topicAuthTable[i]? = some ((t.value, act), f)) : Names t act f := by
  have hmem := List.mem_of_getElem? h
  have hwords : ∀ p ∈ topicAuthTable, p.1.2.all isWordChar = true := by decide +kernel
  have hkeys : (topicAuthTable.map Prod.fst).Nodup := by decide +kernel
  refine ⟨hwords _ hmem, ?_⟩
  have hfound : (lookupFlag t.value act).isSome = true := by
    rw [lookupFlag, topicAuthMapping_eq, List.lookup_isSome_iff]
    exact ⟨_, List.mem_reverse.2 hmem, beq_self_eq_true _⟩
  obtain ⟨g, hg⟩ := Option.isSome_iff_exists.1 hfound
  have hentry := List.inj_on_of_nodup_map hkeys (mem_of_lookupFlag hg) hmem rfl
  rw [hg, (Prod.mk.inj hentry).2]

/-- The flag of `e`, if it needs one, is the one named by topic and action. -/
def NamedBy (t : Topic) (act : Text) (e : Effect) : Prop := ∀ f, e.flag = some f → Names t act f

theorem namedBy {t' : Topic} {act : Text} {e : Effect} (f : Flag) (he : e.flag = some f)
    (h : Names t' act f) : NamedBy t' act e := by
  intro g hg
  obtain rfl : f = g := Option.some.inj (he.symm.trans hg)
  exact h

theorem publish_only {t' : Topic} {act : Text} (p : Topic) (segments : List Text) (body : CloudBody) (s : Service) :
    Only (NamedBy t' act) s (s.publish p segments body) :=
  only_of_perform (fun _ h => by cases h) rfl

/-! ### The handlers -/

theorem sendChunks_only (chunks : List Bytes) (s : Service)
    (hQ : ∀ d, Q (.send .consoleWrite (.message (.consoleWrite d)))) : Only Q s (sendChunks chunks s).1 := by
  induction chunks generalizing s with
  | nil => exact .refl s
  | cons chunk chunks ih =>
    unfold sendChunks
    dsimp only
    have hsend := send_only (hQ chunk) s
    split
    · exact hsend.trans (ih _)
    · exact hsend

theorem flushConsoleLoop_only (queue : List Bytes) (s : Service)
    (hQ : ∀ d, Q (.send .consoleWrite (.message (.consoleWrite d)))) : Only Q s (flushConsoleLoop queue s) := by
  induction queue generalizing s with
  | nil => exact .of_eq rfl
  | cons buf rest ih =>
    unfold flushConsoleLoop
    dsimp only
    have hchunks := sendChunks_only (iterChunks buf maxPayloadSize) s hQ
    split
    · exact .of_eq rfl
    split
    · exact hchunks.trans (ih _)
    · exact hchunks.trans (.of_eq rfl)

theorem flushConsoleQueue_only (s : Service) (hQ : ∀ d, Q (.send .consoleWrite (.message (.consoleWrite d)))) :
    Only Q s s.flushConsoleQueue := by
  unfold flushConsoleQueue
  split
  · exact .refl s
  · exact flushConsoleLoop_only _ s hQ

theorem names_consoleInput : Names .console "in".toList .consoleInput := names_entry 10 rfl

theorem handleConsole_only (req : BridgeRequest) (s : Service) :
    Only (NamedBy .console "in".toList) s (s.handleConsole req) := by
  unfold handleConsole
  split
  · exact .refl s
  · have hqueue : Only (NamedBy .console "in".toList) s { s.perform (.consoleInput req.payload) with
        consoleToMcuQueue := s.consoleToMcuQueue ++ [req.payload] } :=
      only_of_perform (namedBy .consoleInput rfl names_consoleInput) rfl
    exact hqueue.trans (flushConsoleQueue_only _ fun d => namedBy .consoleInput rfl names_consoleInput)

theorem handleDatastore_does (h : Host) {route : TopicRoute} (hpub : ∀ t b, Q (.publish t b))
    (hput : route.identifier = "put".toList → ∀ key value, Q (.datastoreSet key value))
    (hget : route.identifier = "get".toList → ∀ key, Q (.datastoreGet key)) (req : BridgeRequest) (s : Service) :
    Only Q s (s.handleDatastore h route req) := by
  have hpublish : ∀ (u : Service) (key : Text) (value : Bytes), Only Q u (u.publishDatastoreValue key value) :=
    fun u key value => only_of_perform (hpub _ _) rfl
  unfold handleDatastore
  dsimp only
  split
  · exact .refl s
  split
  case isTrue hid =>
    split
    · refine Only.trans ?_ (hpublish _ _ _)
      split
      · exact only_of_perform (hput hid _ _) rfl
      · exact .refl s
    · exact .refl s
  split
  case isTrue hid =>
    have hread : Only Q s
        (if s.datastoreCache.isSome then s.perform (.datastoreGet (joinSlash route.remainder)) else s) := by
      split
      · exact only_of_perform (hget hid _) rfl
      · exact .refl s
    split
    · exact hread.trans (hpublish _ _ _)
    split
    · exact hread.trans (hpublish _ _ _)
    · exact hread
  case isFalse => exact .refl s

theorem handleDatastore_only (h : Host) (route : TopicRoute) (req : BridgeRequest) (s : Service) :
    Only (NamedBy .datastore route.identifier) s (s.handleDatastore h route req) := by
  refine handleDatastore_does h (fun _ _ _ hf => by cases hf) (fun hid _ _ => ?_) (fun hid _ => ?_) req s
  · rw [hid]
    exact namedBy .datastorePut rfl (names_entry 4 rfl)
  · rw [hid]
    exact namedBy .datastoreGet rfl (names_entry 3 rfl)

theorem handleMailbox_only (route : TopicRoute) (req : BridgeRequest) (s : Service) :
    Only (NamedBy .mailbox route.identifier) s (s.handleMailbox route req) := by
  unfold handleMailbox
  dsimp only
  split
  · exact .refl s
  split
  case isTrue hwrite =>
    have hw : Names .mailbox "write".toList .mailboxWrite := names_entry 6 rfl
    rw [hwrite]
    exact Only.trans (only_of_perform (e := .mailboxAppend req.payload) (namedBy _ rfl hw) rfl)
      (send_only (namedBy .mailboxWrite rfl hw) _)
  split
  case isTrue hread =>
    rw [hread]
    exact Only.trans (only_of_perform (e := .mailboxPopleft) (namedBy .mailboxRead rfl (names_entry 5 rfl)) rfl)
      (publish_only _ _ _ _)
  case isFalse => exact .refl s

theorem handleFileMcuRead_only (h : Host) (target : Text) (s : Service) :
    Only (NamedBy .file "read".toList) s (s.handleFileMcuRead h target) := by
  have hsend : ∀ p, Only (NamedBy .file "read".toList) s (s.send .fileRead p).1 :=
    fun p => send_only (namedBy .fileRead rfl (names_entry 0 rfl)) s
  unfold handleFileMcuRead
  dsimp only
  split
  · split <;> exact (hsend _).trans (publish_only _ _ _ _)
  · exact (hsend _).trans (publish_only _ _ _ _)

theorem action_eq_identifier {route : TopicRoute} {act : Text} (h : route.action = some act) :
    act = route.identifier := by
  unfold TopicRoute.action at h
  split at h
  · cases h
  · exact (Option.some.inj h).symm

theorem handleFile_only (h : Host) (route : TopicRoute) (req : BridgeRequest) (s : Service) :
    Only (NamedBy .file route.identifier) s (s.handleFile h route req) := by
  have hread : Names .file "read".toList .fileRead := names_entry 0 rfl
  have hwrite : Names .file "write".toList .fileWrite := names_entry 1 rfl
  have hremove : Names .file "remove".toList .fileRemove := names_entry 2 rfl
  unfold handleFile
  dsimp only
  split
  · exact .refl s
  split
  · exact .refl s
  case h_2 act hact =>
    rw [← action_eq_identifier hact]
    split
    · exact .refl s
    split
    · -- a file of the MCU
      split
      case isTrue heq => rw [heq]; exact handleFileMcuRead_only h _ s
      split
      case isTrue heq =>
        have hsend : ∀ p, Only (NamedBy .file act) s (s.send .fileWrite p).1 :=
          fun p => send_only (namedBy .fileWrite rfl (heq ▸ hwrite)) s
        split
        · exact (hsend _).trans (publish_only _ _ _ _)
        · exact hsend _
      split
      case isTrue heq => exact send_only (namedBy .fileRemove rfl (heq ▸ hremove)) s
      case isFalse => exact .refl s
    · -- a file below the file system root
      split
      · exact .refl s
      split
      case isTrue heq =>
        split
        · exact Only.trans (only_of_perform (namedBy .fileWrite rfl (heq ▸ hwrite)) rfl) (publish_only _ _ _ _)
        · exact .refl s
      split
      case isTrue heq =>
        split
        · exact Only.trans (only_of_perform (namedBy .fileRead rfl (heq ▸ hread)) rfl) (publish_only _ _ _ _)
        · exact .refl s
      split
      case isTrue heq =>
        split
        · exact only_of_perform (namedBy .fileRemove rfl (heq ▸ hremove)) rfl
        · exact .refl s
      case isFalse => exact .refl s

theorem runProcess_does (h : Host) (hrun : ∀ command, Q (.processRun command)) (command : Text) (s : Service) :
    Only Q s (s.runProcess h command).1 := by
  unfold runProcess
  split
  · exact .refl s
  split
  · exact only_of_perform (hrun command) rfl
  · exact .refl s

theorem handleShell_does (h : Host) {route : TopicRoute} (hpub : ∀ t b, Q (.publish t b))
    (hrun : route.identifier = "run_async".toList → ∀ command, Q (.processRun command))
    (hpoll : route.identifier = "poll".toList → ∀ pid, Q (.processPoll pid))
    (hkill : route.identifier = "kill".toList → ∀ pid, Q (.processKill pid)) (req : BridgeRequest) (s : Service) :
    Only Q s (s.handleShell h route req) := by
  unfold handleShell
  split
  · exact .refl s
  case h_2 act rest hseg =>
    have hid : route.identifier = act := by
      unfold TopicRoute.identifier
      rw [hseg]
      rfl
    rw [hid] at hrun hpoll hkill
    split
    case isTrue hact =>
      refine Only.trans ?_ (only_of_perform (hpub _ _) rfl)
      split
      · exact runProcess_does h (hrun hact) _ s
      · exact .refl s
    split
    case isFalse => exact .refl s
    case isTrue hact =>
      split
      case h_2 => exact .refl s
      split
      · exact .of_eq rfl
      split
      case isTrue hisPoll => exact Only.trans (only_of_perform (hpoll hisPoll _) rfl) (only_of_perform (hpub _ _) rfl)
      case isFalse hisPoll =>
        split
        · exact only_of_perform (hkill (hact.resolve_left hisPoll) _) rfl
        · exact .refl s

theorem handleShell_only (h : Host) (route : TopicRoute) (req : BridgeRequest) (s : Service) :
    Only (NamedBy .shell route.identifier) s (s.handleShell h route req) := by
  refine handleShell_does h (fun _ _ _ hf => by cases hf) (fun hid _ => ?_) (fun hid _ => ?_) (fun hid _ => ?_) req s
  · rw [hid]
    exact namedBy .shellRunAsync rfl (names_entry 7 rfl)
  · rw [hid]
    exact namedBy .shellPoll rfl (names_entry 8 rfl)
  · rw [hid]
    exact namedBy .shellKill rfl (names_entry 9 rfl)

theorem handleSpi_only (h : Host) (route : TopicRoute) (req : BridgeRequest) (s : Service) :
    Only (NamedBy .spi route.identifier) s (s.handleSpi h route req) := by
  unfold handleSpi
  split
  · exact .refl s
  split
  case isTrue heq => exact send_only (namedBy .spiBegin rfl (heq ▸ names_entry 19 rfl)) s
  split
  case isTrue heq => exact send_only (namedBy .spiEnd rfl (heq ▸ names_entry 20 rfl)) s
  split
  case isTrue heq =>
    split
    · exact send_only (namedBy .spiConfig rfl (heq ▸ names_entry 22 rfl)) s
    · exact .refl s
  split
  case isFalse => exact .refl s
  case isTrue heq =>
    split
    · exact .refl s
    have hsend : ∀ p, Only (NamedBy .spi route.identifier) s (s.send .spiTransfer p).1 :=
      fun p => send_only (namedBy .spiTransfer rfl (heq ▸ names_entry 21 rfl)) s
    split <;> rename_i hres
    · have hs := hsend (.message (.spiTransfer req.payload))
      rw [hres] at hs
      split
      · exact hs.trans (publish_only _ _ _ _)
      · exact hs.trans (.of_eq rfl)
    · have hs := hsend (.message (.spiTransfer req.payload))
      rw [hres] at hs
      exact hs

/-! ### Pins -/

theorem sendOrRaise_effects (cmd : Command) (m : Option PayloadType) (s : Service) :
    (s.sendOrRaise cmd m).effects = s.effects ++ m.toList.map fun m => .send cmd (.message m) := by
  cases m with
  | none => simp [sendOrRaise, raises]
  | some m => rfl

theorem sendOrRaise_only {cmd : Command} (hQ : ∀ m, Q (.send cmd (.message m))) (m : Option PayloadType)
    (s : Service) : Only Q s (s.sendOrRaise cmd m) := by
  refine ⟨_, sendOrRaise_effects cmd m s, fun e he => ?_⟩
  obtain ⟨m', -, rfl⟩ := List.mem_map.1 he
  exact hQ m'

theorem handlePinRead_only {route : TopicRoute} (hpin : route.topic = .digital ∨ route.topic = .analog) (pin : Int)
    (s : Service) : Only (NamedBy route.topic "read".toList) s (s.handlePinRead route pin) := by
  unfold handlePinRead
  rcases hpin with ht | ht
  · simp only [ht, if_true]
    split
    · exact Only.trans (.of_eq rfl) (sendOrRaise_only (fun m => namedBy .digitalRead rfl (names_entry 12 rfl)) _ _)
    · exact publish_only _ _ _ _
  · simp only [ht, reduceCtorEq, if_false]
    split
    · exact Only.trans (.of_eq rfl) (sendOrRaise_only (fun m => namedBy .analogRead rfl (names_entry 15 rfl)) _ _)
    · exact publish_only _ _ _ _

/-- With two segments a pin request does what its second segment says. -/
theorem handlePin_two (h : Host) {route : TopicRoute} (req : BridgeRequest) (s : Service) {pinText act : Text}
    (hpin : route.topic = .digital ∨ route.topic = .analog) (hseg : route.segments = [pinText, act])
    (hmode : act = "mode".toList → route.topic = .digital) :
    Only (NamedBy route.topic act) s (s.handlePin h route req) := by
  unfold handlePin
  rw [hseg]
  split
  · exact .refl s
  dsimp only
  split
  · exact .of_eq rfl
  split
  · exact .refl s
  split
  · exact .of_eq rfl
  unfold handlePinAction
  rw [hseg]
  dsimp only
  split
  case isTrue heq =>
    rw [hmode heq, heq]
    split
    · exact .of_eq rfl
    · exact sendOrRaise_only (fun m => namedBy .digitalMode rfl (names_entry 13 rfl)) _ _
  split
  case isTrue heq =>
    rw [heq]
    exact handlePinRead_only hpin _ _
  case isFalse => exact .refl s

def writeCommand (t : Topic) : Command := if t = .digital then .digitalWrite else .analogWrite

/-- With any other number of segments it writes the pin. -/
theorem handlePin_write (h : Host) {route : TopicRoute} (req : BridgeRequest) (s : Service) (hs : s.serial = true)
    (hseg : route.segments.length ≠ 2) : (s.handlePin h route req).effects =
      s.effects ++ (pinWrite h route req).toList.map fun m => .send (writeCommand route.topic) (.message m) := by
  unfold handlePin pinWrite
  rw [hs, if_neg (by decide)]
  rcases hsegs : route.segments with _ | ⟨pinText, rest⟩
  · simp [raises]
  dsimp only [List.head?_cons, Option.bind_some]
  cases hpin : parsePin h.py pinText with
  | none => simp [raises]
  | some pin =>
    dsimp only [Option.bind_some]
    split
    · simp
    cases hdec : h.py.decode req.payload with
    | none => simp [raises]
    | some pl =>
      have haction : s.handlePinAction h route pin pl = s.handlePinWrite h route pin pl := by
        unfold handlePinAction
        split
        case h_1 heq =>
          rw [heq] at hseg
          exact absurd rfl hseg
        case h_2 => rfl
      dsimp only [Option.bind_some]
      rw [haction]
      unfold handlePinWrite
      dsimp only
      generalize (if h.py.isDigit pl then h.py.int pl else some 0) = value
      cases value with
      | none => simp [raises]
      | some value => exact sendOrRaise_effects _ _ s

/-! ### What the check establishes -/

theorem names_ne_nil {t' : Topic} {act : Text} {f : Flag} (h : Names t' act f) : act ≠ [] := by
  have hall : ∀ p ∈ topicAuthTable, p.1.2 ≠ [] := by decide +kernel
  exact hall _ (mem_of_lookupFlag h.2)

/-- A check that passes grants the flag its action names. -/
theorem checkPasses_grants {py : PyText} {route : TopicRoute} {act : Text} {f : Flag}
    (hact : deduceAction py route = some act) (hf : Names route.topic act f) (hcheck : s.checkPasses py route = true) :
    s.grants f = true := by
  unfold checkPasses at hcheck
  rw [hact] at hcheck
  have hne : act.isEmpty = false := by simpa using names_ne_nil hf
  dsimp only at hcheck
  rw [hne, Bool.false_or] at hcheck
  obtain ⟨auth, hauth, hallow⟩ := (Option.any_eq_true _ _).1 hcheck
  rw [allowsTopic_word py auth route.topic hf.1 hf.2] at hallow
  exact (Option.any_eq_true _ _).2 ⟨auth, hauth, hallow⟩

/-- The services checked by their first segment. -/
theorem granted_of_identifier {py : PyText} {route : TopicRoute} (hsys : route.topic ≠ .system)
    (hdig : route.topic ≠ .digital) (hana : route.topic ≠ .analog) (hcheck : s.checkPasses py route = true)
    {e : Effect} (he : NamedBy route.topic route.identifier e) : ∀ f, e.flag = some f → s.grants f = true := by
  intro f hf
  have hnames := he f hf
  have hact : deduceAction py route = some route.identifier := by
    have hne : route.identifier.isEmpty = false := by simpa using names_ne_nil hnames
    unfold deduceAction
    split <;> simp_all
  exact checkPasses_grants hact hnames hcheck

/-- The flag a passed console check has read is `console_input`, however the segment is spelled. -/
theorem console_granted {py : PyText} {route : TopicRoute} (ht : route.topic = .console) (hid : route.identifier ≠ [])
    (hcheck : s.checkPasses py route = true) : s.grants .consoleInput = true := by
  have hact : deduceAction py route = some route.identifier := by
    unfold deduceAction
    rw [ht]
    simp [hid]
  unfold checkPasses at hcheck
  rw [hact, ht] at hcheck
  have hne : route.identifier.isEmpty = false := by simpa using hid
  dsimp only at hcheck
  rw [hne, Bool.false_or] at hcheck
  obtain ⟨auth, hauth, hallow⟩ := (Option.any_eq_true _ _).1 hcheck
  unfold allowsTopic at hallow
  rw [Topic.lower_value] at hallow
  split at hallow
  case h_1 f hf =>
    -- every entry of the table for this topic is the same flag
    have honly : ∀ p ∈ topicAuthTable, p.1.1 = Topic.console.value → p.2 = .consoleInput := by
      decide +kernel
    obtain rfl : f = .consoleInput := honly _ (mem_of_lookupFlag hf) rfl
    exact (Option.any_eq_true _ _).2 ⟨auth, hauth, hallow⟩
  case h_2 => cases hallow

/-- Every flag of `e` is granted in `s`. -/
def Granted (s : Service) (e : Effect) : Prop := ∀ f, e.flag = some f → s.grants f = true

theorem handleConsole_granted (req : BridgeRequest) (s : Service) (hgrant : s.grants .consoleInput = true) :
    Only s.Granted s (s.handleConsole req) := by
  refine (handleConsole_only req s).mono fun e he f hf => ?_
  obtain rfl : f = .consoleInput := Option.some.inj ((he f hf).2.symm.trans names_consoleInput.2)
  exact hgrant

theorem write_names {t' : Topic} (hpin : t' = .digital ∨ t' = .analog) {f : Flag}
    (hf : commandFlag (writeCommand t') = some f) : Names t' "write".toList f := by
  rcases hpin with rfl | rfl
  · cases hf
    exact names_entry 11 rfl
  · cases hf
    exact names_entry 14 rfl

/-- SET_PIN_MODE is not reached on an analog topic: no flag names it. -/
theorem analog_mode_refused {py : PyText} {route : TopicRoute} {pinText : Text} (ht : route.topic = .analog)
    (hseg : route.segments = [pinText, "mode".toList]) : s.checkPasses py route = false := by
  have hlower : py.lower "mode".toList = "mode".toList := py.lower_word (by decide +kernel)
  have hnone : lookupFlag Topic.analog.value "mode".toList = none := by
    rw [lookupFlag, topicAuthMapping_eq]
    decide +kernel
  unfold checkPasses deduceAction
  rw [ht, hseg]
  dsimp only
  rw [hlower]
  have hallow : ∀ auth, allowsTopic py auth Topic.analog.value "mode".toList = false := by
    intro auth
    unfold allowsTopic
    rw [Topic.lower_value, hlower, hnone]
  rw [show "mode".toList.isEmpty = false by decide +kernel, Bool.false_or]
  cases s.topicAuthorization with
  | none => rfl
  | some auth =>
    rw [Option.any_some]
    exact hallow auth

theorem handlePin_granted (h : Host) {route : TopicRoute} (req : BridgeRequest) (s : Service)
    (hpin : route.topic = .digital ∨ route.topic = .analog) (hcheck : s.checkPasses h.py route = true)
    (hun : ∀ f, uncheckedFlag h route req s = some f → s.grants f = true) :
    Only s.Granted s (s.handlePin h route req) := by
  by_cases hs : s.serial = true
  case neg =>
    unfold handlePin
    rw [if_pos (by simpa using hs)]
    exact .refl s
  have hwrite : route.segments.length ≠ 2 → (∀ m, pinWrite h route req = some m → ∀ f,
      commandFlag (writeCommand route.topic) = some f → s.grants f = true) →
      Only s.Granted s (s.handlePin h route req) := by
    intro hlen hgrant
    refine ⟨_, handlePin_write h req s hs hlen, fun e he f hf => ?_⟩
    obtain ⟨m, hm, rfl⟩ := List.mem_map.1 he
    exact hgrant m (by simpa using hm) f hf
  rcases hseg : route.segments with _ | ⟨pinText, _ | ⟨act, _ | ⟨third, rest⟩⟩⟩
  · -- no segment: `segments[0]` raises
    refine hwrite (by simp [hseg]) fun m hm => ?_
    simp [pinWrite, hseg] at hm
  · refine hwrite (by simp [hseg]) fun m _ f hf => checkPasses_grants ?_ (write_names hpin hf) hcheck
    unfold deduceAction
    rcases hpin with ht | ht <;> simp [ht, hseg]
  · have hmode : act = "mode".toList → route.topic = .digital := by
      rintro rfl
      refine hpin.resolve_right fun ht => ?_
      rw [analog_mode_refused ht hseg] at hcheck
      cases hcheck
    refine (handlePin_two h req s hpin hseg hmode).mono fun e he f hf => ?_
    have hnames := he f hf
    refine checkPasses_grants ?_ hnames hcheck
    have hlower : h.py.lower act = act := h.py.lower_word hnames.1
    unfold deduceAction
    rcases hpin with ht | ht <;> simp [ht, hseg, hlower]
  · -- three segments or more: written, whatever the second one says
    refine hwrite (by simp [hseg]) fun m hm f hf => hun f ?_
    have hcond : s.serial = true ∧ 2 < route.segments.length ∧ s.checkPasses h.py route = true ∧
        (pinWrite h route req).isSome = true := ⟨hs, by simp [hseg], hcheck, by simp [hm]⟩
    unfold uncheckedFlag
    rcases hpin with ht | ht <;> rw [ht] at hf <;> cases hf <;> simp [ht, hcond]

theorem uncheckedFlag_system (h : Host) {route : TopicRoute} (req : BridgeRequest) (s : Service)
    (ht : route.topic = .system) : uncheckedFlag h route req s =
      if !s.serial then none
      else if route.identifier = "bootloader".toList then some .systemBootloader
      else if route.identifier = "free_memory".toList ∧ "get".toList ∈ route.segments then some .systemFreeMemory
      else if route.identifier = "version".toList ∧ "get".toList ∈ route.segments then some .systemVersion
      else none := by
  unfold uncheckedFlag
  rw [ht]

/-- A system topic sends one command, the one that `uncheckedFlag` names, or publishes. -/
theorem handleSystem_does (h : Host) {route : TopicRoute} (req : BridgeRequest) (s : Service)
    (ht : route.topic = .system) (hpub : ∀ t b, Q (.publish t b))
    (hcmd : ∀ cmd ∈ [Command.enterBootloader, .getFreeMemory, .getVersion],
      uncheckedFlag h route req s = commandFlag cmd → ∀ p, Q (.send cmd p)) :
    Only Q s (s.handleSystem h route) := by
  have hpublish : ∀ (u : Service) (p : Topic) (segs : List Text) (b : CloudBody), Only Q u (u.publish p segs b) :=
    fun u p segs b => only_of_perform (hpub _ _) rfl
  unfold handleSystem
  split
  · exact .refl s
  case isFalse hs =>
    have hflag := uncheckedFlag_system h req s ht
    rw [if_neg hs] at hflag
    split
    case isTrue hboot => exact send_only (hcmd .enterBootloader (by simp) (by rw [hflag, if_pos hboot]; rfl) _) s
    case isFalse hboot =>
    split
    case isTrue hmem =>
      have hget : Only Q s (s.send .getFreeMemory (.bytes [])).1 :=
        send_only (hcmd .getFreeMemory (by simp) (by rw [hflag, if_neg hboot, if_pos hmem]; rfl) _) s
      split <;> rename_i hres <;> rw [hres] at hget
      · split
        · exact hget.trans (hpublish _ _ _ _)
        · exact hget.trans (.of_eq rfl)
      · exact hget
    case isFalse hmem =>
    split
    case isTrue hver =>
      have hget : Only Q s (s.send .getVersion (.bytes [])).1 :=
        send_only (hcmd .getVersion (by simp) (by rw [hflag, if_neg hboot, if_neg hmem, if_pos hver]; rfl) _) s
      unfold requestMcuVersion
      split <;> rename_i hres <;> rw [hres] at hget
      · split
        · exact (hget.trans (.of_eq rfl)).trans (hpublish _ _ _ _)
        · exact hget.trans (.of_eq rfl)
      · exact hget
    split
    · split <;> exact hpublish _ _ _ _
    · exact .refl s

theorem handleSystem_granted (h : Host) {route : TopicRoute} (req : BridgeRequest) (s : Service)
    (ht : route.topic = .system) (hun : ∀ f, uncheckedFlag h route req s = some f → s.grants f = true) :
    Only s.Granted s (s.handleSystem h route) :=
  handleSystem_does h req s ht nofun fun _ _ hflag _ f hf => hun f (hflag.trans hf)

/-- A request that passes the check does only what is granted, if its unchecked branches do. -/
theorem dispatchRequest_granted (h : Host) (route : TopicRoute) (req : BridgeRequest) (s : Service)
    (hcheck : s.checkPasses h.py route = true)
    (hun : ∀ f, uncheckedFlag h route req s = some f → s.grants f = true) :
    Only s.Granted s (s.dispatchRequest h route req) := by
  have hid : ∀ {u : Service}, route.topic ≠ .system → route.topic ≠ .digital → route.topic ≠ .analog →
      Only (NamedBy route.topic route.identifier) s u → Only s.Granted s u :=
    fun hsys hdig hana honly => honly.mono fun e he => granted_of_identifier hsys hdig hana hcheck he
  unfold dispatchRequest
  split
  case h_1 ht =>
    by_cases hseg : route.identifier = []
    · -- no action is deduced and nothing is checked
      by_cases hpl : req.payload = []
      · unfold handleConsole
        rw [if_pos (by simp [hpl])]
        exact .refl s
      · exact handleConsole_granted req s (hun _ (by simp [uncheckedFlag, ht, hseg, hpl]))
    · exact handleConsole_granted req s (console_granted ht hseg hcheck)
  case h_2 ht =>
    exact hid (by simp [ht]) (by simp [ht]) (by simp [ht]) (ht ▸ handleDatastore_only h route req s)
  case h_3 ht =>
    exact hid (by simp [ht]) (by simp [ht]) (by simp [ht]) (ht ▸ handleMailbox_only route req s)
  case h_4 ht => exact hid (by simp [ht]) (by simp [ht]) (by simp [ht]) (ht ▸ handleFile_only h route req s)
  case h_5 ht => exact hid (by simp [ht]) (by simp [ht]) (by simp [ht]) (ht ▸ handleShell_only h route req s)
  case h_6 ht => exact hid (by simp [ht]) (by simp [ht]) (by simp [ht]) (ht ▸ handleSpi_only h route req s)
  case h_7 ht => exact handlePin_granted h req s (.inl ht) hcheck hun
  case h_8 ht => exact handlePin_granted h req s (.inr ht) hcheck hun
  case h_9 ht => exact handleSystem_granted h req s ht hun
  case h_10 => exact .refl s

/-! ### What the unchecked branches do -/

theorem handleSystem_performs (h : Host) {route : TopicRoute} (req : BridgeRequest) (s : Service)
    (ht : route.topic = .system) {f : Flag} (hf : uncheckedFlag h route req s = some f) :
    ∃ e ∈ (s.handleSystem h route).effects, e.flag = some f := by
  rw [uncheckedFlag_system h req s ht] at hf
  unfold handleSystem
  split at hf
  · cases hf
  case isFalse hs =>
    rw [if_neg hs]
    split at hf
    case isTrue hboot =>
      cases hf
      rw [if_pos hboot]
      exact ⟨_, send_mem _ _ s, rfl⟩
    case isFalse hboot =>
    rw [if_neg hboot]
    split at hf
    case isTrue hmem =>
      cases hf
      rw [if_pos hmem]
      refine ⟨.send .getFreeMemory (.bytes []), ?_, rfl⟩
      have hsent := send_mem .getFreeMemory (.bytes []) s
      split <;> rename_i hres <;> rw [hres] at hsent
      · split
        · exact List.mem_append_left _ hsent
        · exact hsent
      · exact hsent
    case isFalse hmem =>
    rw [if_neg hmem]
    split at hf
    case isFalse => cases hf
    case isTrue hver =>
      cases hf
      rw [if_pos hver]
      refine ⟨.send .getVersion (.bytes []), ?_, rfl⟩
      have hsent := send_mem .getVersion (.bytes []) s
      unfold requestMcuVersion
      split <;> rename_i hres <;> rw [hres] at hsent
      · split
        · exact List.mem_append_left _ hsent
        · exact hsent
      · exact hsent

/-- The effect an unchecked branch is reached for is performed. -/
theorem dispatchRequest_performs (h : Host) (route : TopicRoute) (req : BridgeRequest) (s : Service) {f : Flag}
    (hf : uncheckedFlag h route req s = some f) :
    s.checkPasses h.py route = true ∧ ∃ e ∈ (s.dispatchRequest h route req).effects, e.flag = some f := by
  have hpin : route.topic = .digital ∨ route.topic = .analog → s.checkPasses h.py route = true ∧
      ∃ e ∈ (s.handlePin h route req).effects, e.flag = some f := by
    intro ht
    obtain ⟨⟨hs, hlen, hcheck, hsome⟩, hflag⟩ : (s.serial = true ∧ 2 < route.segments.length ∧
        s.checkPasses h.py route = true ∧ (pinWrite h route req).isSome = true) ∧
        commandFlag (writeCommand route.topic) = some f := by
      unfold uncheckedFlag at hf
      rcases ht with ht | ht <;> simpa [ht, writeCommand, commandFlag] using hf
    obtain ⟨m, hm⟩ := Option.isSome_iff_exists.1 hsome
    refine ⟨hcheck, .send (writeCommand route.topic) (.message m), ?_, hflag⟩
    rw [handlePin_write h req s hs (by omega), hm]
    simp
  cases ht : route.topic with
  | digital => simpa [dispatchRequest, ht] using hpin (.inl ht)
  | analog => simpa [dispatchRequest, ht] using hpin (.inr ht)
  | system =>
    have hcheck : s.checkPasses h.py route = true := by
      unfold checkPasses deduceAction
      rw [ht]
    simpa [dispatchRequest, ht] using ⟨hcheck, handleSystem_performs h req s ht hf⟩
  | console =>
    simp only [uncheckedFlag, ht, Option.ite_none_right_eq_some, Option.some.injEq] at hf
    obtain ⟨⟨hid, hpl⟩, rfl⟩ := hf
    have hcheck : s.checkPasses h.py route = true := by
      unfold checkPasses deduceAction
      rw [ht]
      simp [hid]
    refine ⟨hcheck, .consoleInput req.payload, ?_, rfl⟩
    unfold dispatchRequest
    rw [ht]
    unfold handleConsole
    rw [if_neg (by simpa using hpl)]
    exact (flushConsoleQueue_only (Q := fun _ => True) _ fun _ => trivial).mem
      (List.mem_append_right _ (List.mem_singleton.2 rfl))
  | _ => simp [uncheckedFlag, ht] at hf

/-- A request does only what the policy grants by name exactly when the effects it reaches without a check
are granted. -/
theorem request_authorized_iff (h : Host) (req : BridgeRequest) (s : Service) :
    s.Authorized h req ↔ s.UncheckedGranted h req := by
  constructor
  · intro hauth route hroute f hf
    have hperf := dispatchRequest_performs h route req { s with effects := [] } (f := f) hf
    obtain ⟨hcheck, e, he, hflag⟩ := hperf
    refine hauth e ?_ f hflag
    unfold requestEffects handleRequest
    dsimp only
    rw [hroute]
    dsimp only
    rw [if_pos hcheck]
    exact he
  · intro hun e he f hf
    unfold requestEffects handleRequest at he
    dsimp only at he
    split at he
    · cases he
    case h_2 route hroute =>
      split at he
      case isTrue hcheck =>
        obtain ⟨new, heq, hnew⟩ := dispatchRequest_granted h route req { s with effects := [] } hcheck
          (fun f hf => hun route hroute f hf)
        rw [heq] at he
        exact hnew e (by simpa using he) f hf
      case isFalse =>
        obtain rfl := List.mem_singleton.1 he
        cases hf

end Service

namespace Service

/-- The topic is checked as a read and executed as a write. -/
theorem read_topic_writes_pin : ¬ ∀ (h : Host) (req : BridgeRequest) (s : Service), s.Authorized h req := by
  intro hall
  have heffects : requestEffects .sample ⟨"br/d/13/read/x".toList, [49]⟩ (.sample [.digitalRead]) =
      [.send .digitalWrite (.message (.digitalWrite 13 1))] := by decide +kernel
  have hgrant := hall .sample ⟨"br/d/13/read/x".toList, [49]⟩ (.sample [.digitalRead])
    (.send .digitalWrite (.message (.digitalWrite 13 1))) (by rw [heffects]; exact List.mem_singleton.2 rfl)
    .digitalWrite rfl
  exact absurd hgrant (by decide)

end Service
end Daemon
end McuBridge
