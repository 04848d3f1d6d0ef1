import McuBridge.Daemon.RequestTasks
import McuBridge.Daemon.LinkGate
import McuBridge.Daemon.Authorization

/-! # The gate before hardware requests

Requests for the hardware wait for `link_sync_event` once, before their handler runs. Whether the link is still there
when a command is sent is not asked again, so it has to stay until the request is done. -/

namespace McuBridge
namespace Daemon
open Run

/-! ### Handlers of topics that do not wait -/

namespace Service

/-- The effect is no application command. -/
def InClear (e : Effect) : Prop := ∀ cmd payload, e = .send cmd payload → isSystemCommand cmd.toUnderlying = true

/-- The topics whose handlers send application commands without waiting for the link. -/
def sendsUngated (t : Topic) : Bool := t == .mailbox || t == .file

theorem handleRequest_inClear (h : Host) {req : BridgeRequest} {s : Service} {route : TopicRoute}
    (hroute : parseTopic s.cloudTopicPrefix req.topic = some route) (hwait : route.topic.awaitsLink = false)
    (hsends : sendsUngated route.topic = false) : Only InClear s (s.handleRequest h req) := by
  have hpub : ∀ t b, InClear (.publish t b) := by rintro _ _ _ _ ⟨⟩
  unfold handleRequest
  rw [hroute]
  dsimp only
  split
  · unfold dispatchRequest
    split
    case h_2 =>
      refine handleDatastore_does h hpub (fun _ _ _ => ?_) (fun _ _ => ?_) req s
      all_goals rintro _ _ ⟨⟩
    case h_5 =>
      refine handleShell_does h hpub (fun _ _ => ?_) (fun _ _ => ?_) (fun _ _ => ?_) req s
      all_goals rintro _ _ ⟨⟩
    case h_9 ht =>
      refine handleSystem_does h req s ht hpub fun cmd hcmd _ p => ?_
      rintro _ _ ⟨⟩
      have hall : ∀ cmd ∈ [Command.enterBootloader, .getFreeMemory, .getVersion],
          isSystemCommand cmd.toUnderlying = true := by decide
      exact hall cmd hcmd
    case h_10 => exact .refl s
    case h_3 ht =>
      rw [ht] at hsends
      exact absurd hsends (by decide)
    case h_4 ht =>
      rw [ht] at hsends
      exact absurd hsends (by decide)
    all_goals
      rename_i ht
      rw [ht] at hwait
      exact absurd hwait (by decide)
  · exact only_of_perform (hpub _ _) rfl

end Service
/-! ### Whole runs -/

/-- Nothing is left to send that needs a session. -/
def RequestTask.settled (t : RequestTask) : Bool :=
  match t.phase with
  | .waiting _ => true
  | .woken _ => false
  | .sending commands =>
    commands.isEmpty || (!t.topic.awaitsLink && commands.all fun c => isSystemCommand c.1.toUnderlying)

namespace Bridge

/-- `link_sync_event` tells whether the link is synchronised, hardware requests send while it is, and no application
command was written in plaintext. -/
structure Gated (b : Bridge) : Prop where
  event : b.link.linkSyncEvent = b.link.isSynchronized
  issued : ∀ x ∈ b.issued, x.topic.awaitsLink = true → x.synchronized = true
  wire : ∀ f ∈ b.link.wire, ¬ Link.Exposed f

/-- No request is past its wait with something left to send, and no application command is pending, so none will be
sent again. -/
def idle (b : Bridge) : Bool :=
  b.tasks.all RequestTask.settled && b.link.current.all fun c => isSystemCommand c.pending.commandId

/-- A session ends only where the event is cleared, and only when the requests are done; no wait runs out before the
link is synchronised; what does not wait for the link sends in a session. -/
def undisturbed (P : Platform) (b : Bridge) : BridgeEvent → Bool
  | .link ev =>
    (!b.link.isSynchronized || (!b.link.dropsSession P ev && (!b.link.endsSession ev || b.idle))) &&
      (Link.sentBy ev).all fun cmd => isSystemCommand cmd || b.link.isSynchronized
  | .request _ req =>
    (parseTopic b.link.service.cloudTopicPrefix req.topic).all fun route =>
      !Service.sendsUngated route.topic || b.link.isSynchronized
  | .expire i _ =>
    match b.tasks[i]? with
    | some ⟨_, .waiting _⟩ => b.link.isSynchronized
    | _ => true
  | .resume _ _ | .issue _ _ => true

structure Inv (b : Bridge) : Prop where
  link : b.link.Guarded False
  tasks : b.link.isSynchronized = false → ∀ t ∈ b.tasks, t.settled = true
  issued : ∀ x ∈ b.issued, x.topic.awaitsLink = true → x.synchronized = true

theorem Inv.gated {b : Bridge} (h : b.Inv) : b.Gated := ⟨h.link.event, h.issued, h.link.wire⟩

variable {P : Platform} {random : Nat → UInt32} {b : Bridge}

theorem Inv.linkStep (hkey : ∀ secret nonce, P.deriveSessionKey secret nonce ≠ []) (h : b.Inv) {ev : LinkEvent}
    (hC : b.undisturbed P (.link ev) = true) : (step P random (.link ev) b).Inv := by
  unfold undisturbed at hC
  obtain ⟨hsession, hsent⟩ := Bool.and_eq_true_iff.1 hC
  cases hends : b.link.endsSession ev with
  | true =>
    -- in or out of a session, the requests are done
    have hidle : (∀ t ∈ b.tasks, t.settled = true) ∧ ∀ c ∈ b.link.current, isSystemCommand c.pending.commandId = true := by
      cases hs : b.link.isSynchronized with
      | false => exact ⟨h.tasks hs, h.link.current hs⟩
      | true =>
        rw [hs, hends] at hsession
        simpa [idle, Option.all_eq_true] using (Bool.and_eq_true_iff.1 hsession).2
    have hdown : (b.link.step P random ev).Down False := h.link.step_ends hends hidle.2
    refine ⟨hdown.guarded, fun _ t ht => ?_, h.issued⟩
    unfold step at ht
    dsimp only at ht
    rw [hdown.event, if_neg (by decide)] at ht
    exact hidle.1 t ht
  | false =>
    have hup : b.link.Guarded (b.link.isSynchronized = true) := { h.link with up := id }
    have hg : (b.link.step P random ev).Guarded (b.link.isSynchronized = true) := by
      refine hup.step_within hkey hends (fun hs => ?_) fun cmd hcmd => ?_
      · rw [hs] at hsession
        simpa using (Bool.and_eq_true_iff.1 hsession).1
      · rw [hcmd] at hsent
        simpa using hsent
    refine ⟨{ hg with up := False.elim }, fun hs t ht => ?_, h.issued⟩
    have hs' : (b.link.step P random ev).isSynchronized = false := hs
    unfold step at ht
    dsimp only at ht
    rw [hg.event, hs', if_neg (by decide)] at ht
    refine h.tasks (eq_false_of_ne_true fun hb => ?_) t ht
    exact absurd ((hg.up hb).symm.trans hs') nofun

theorem Inv.handle (h : b.Inv) (answers : Answers) (req : BridgeRequest) : (b.handle answers req).1.Inv :=
  ⟨h.link.congr rfl rfl rfl rfl rfl fun c hc => ⟨c, hc, rfl⟩, h.tasks, h.issued⟩

/-- The commands of a request that needs no session. -/
theorem handle_commands {answers : Answers} {req : BridgeRequest} {route : TopicRoute}
    (hroute : parseTopic b.link.service.cloudTopicPrefix req.topic = some route)
    (hwait : route.topic.awaitsLink = false) (hsends : Service.sendsUngated route.topic = false) :
    ∀ c ∈ (b.handle answers req).2, isSystemCommand c.1.toUnderlying = true := by
  obtain ⟨new, hnew, hall⟩ := Service.handleRequest_inClear answers.host
    (s := { b.link.service with sendResults := answers.sendResults }) hroute hwait hsends
  intro c hc
  unfold Bridge.handle sentCommands at hc
  dsimp only at hc hnew
  rw [hnew, List.drop_left] at hc
  obtain ⟨e, he, hsend⟩ := List.mem_filterMap.1 hc
  cases e with
  | send cmd payload =>
    cases hsend
    exact hall _ he cmd payload rfl
  | _ => cases hsend

/-- A request that is dispatched where its commands may be sent. -/
theorem Inv.dispatch (h : b.Inv) {answers : Answers} {req : BridgeRequest} {tasks : List RequestTask} {topic : Topic}
    (hmem : ∀ t ∈ tasks, t ∈ b.tasks ∨ t = ⟨topic, .sending (b.handle answers req).2⟩)
    (hcmd : b.link.isSynchronized = true ∨ (topic.awaitsLink = false ∧
      ∀ c ∈ (b.handle answers req).2, isSystemCommand c.1.toUnderlying = true)) :
    Inv { (b.handle answers req).1 with tasks := tasks } := by
  have hh := h.handle answers req
  refine ⟨hh.link, fun hs t ht => ?_, hh.issued⟩
  rcases hmem t ht with ht | rfl
  · exact h.tasks hs t ht
  · obtain ⟨hwait, hsys⟩ := hcmd.resolve_left fun hs' => absurd (hs'.symm.trans hs) nofun
    unfold RequestTask.settled
    dsimp only
    rw [hwait, List.all_eq_true.2 hsys]
    simp

theorem Inv.request (h : b.Inv) {answers : Answers} {req : BridgeRequest}
    (hC : b.undisturbed P (.request answers req) = true) : (step P random (.request answers req) b).Inv := by
  unfold undisturbed at hC
  unfold step handleRequest
  dsimp only at hC ⊢
  split
  · exact h
  case h_2 route hroute =>
    rw [hroute] at hC
    split
    · refine ⟨h.link, fun hs t ht => ?_, h.issued⟩
      rcases List.mem_append.1 ht with ht | ht
      · exact h.tasks hs t ht
      · rw [List.mem_singleton.1 ht]
        rfl
    case isFalse hgo =>
      refine h.dispatch (fun t ht => (List.mem_append.1 ht).imp_right List.mem_singleton.1) ?_
      cases hs : b.link.isSynchronized with
      | true => exact .inl rfl
      | false =>
        have hwait : route.topic.awaitsLink = false := by
          rw [h.link.event, hs] at hgo
          simpa using hgo
        have hsends : Service.sendsUngated route.topic = false := by
          rw [hs] at hC
          simpa using hC
        exact .inr ⟨hwait, handle_commands hroute hwait hsends⟩

theorem Inv.proceed (h : b.Inv) (hs : b.link.isSynchronized = true) (i : Nat) (answers : Answers) (topic : Topic)
    (req : BridgeRequest) : (b.proceed i answers topic req).Inv :=
  h.dispatch (fun _ ht => List.mem_or_eq_of_mem_set ht) (.inl hs)

/-- A woken task is met in a session only. -/
theorem Inv.woken (h : b.Inv) {i : Nat} {topic : Topic} {req : BridgeRequest}
    (hi : b.tasks[i]? = some ⟨topic, .woken req⟩) : b.link.isSynchronized = true := by
  by_contra hs
  have hsettled := h.tasks (eq_false_of_ne_true hs) _ (List.mem_of_getElem? hi)
  cases hsettled

theorem Inv.issue (h : b.Inv) (i : Nat) (writes : Bool) : (b.issue P random i writes).Inv := by
  unfold Bridge.issue
  split
  case h_2 => exact h
  case h_1 topic cmd payload rest hi =>
    split
    · exact h
    have hmem := List.mem_of_getElem? hi
    -- without a session only system commands of other topics are left
    have hsettled : b.link.isSynchronized = false → topic.awaitsLink = false ∧
        ∀ c ∈ (cmd, payload) :: rest, isSystemCommand c.1.toUnderlying = true := by
      intro hs
      simpa [RequestTask.settled] using h.tasks hs _ hmem
    have hcmd : isSystemCommand cmd.toUnderlying = true ∨ b.link.isSynchronized = true := by
      cases hs : b.link.isSynchronized with
      | true => exact .inr rfl
      | false => exact .inl ((hsettled hs).2 (cmd, payload) (List.mem_cons_self ..))
    have hup : b.link.Guarded (b.link.isSynchronized = true) := { h.link with up := id }
    have hg := hup.send P random hcmd writes payload
    refine ⟨{ hg with up := False.elim }, fun hs t ht => ?_, fun x hx hwait => ?_⟩
    · have hs' : b.link.isSynchronized = false :=
        eq_false_of_ne_true fun hb => absurd ((hg.up hb).symm.trans hs) nofun
      obtain ⟨hwait, hsys⟩ := hsettled hs'
      rcases List.mem_or_eq_of_mem_set ht with ht | rfl
      · exact h.tasks hs' t ht
      · unfold RequestTask.settled
        dsimp only
        rw [hwait, List.all_eq_true.2 fun c hc => hsys c (List.mem_cons_of_mem _ hc)]
        simp
    · rcases List.mem_append.1 hx with hx | hx
      · exact h.issued x hx hwait
      · rw [List.mem_singleton.1 hx] at hwait ⊢
        by_contra hs
        exact absurd (hwait.symm.trans (hsettled (eq_false_of_ne_true hs)).1) nofun

theorem Inv.step (hkey : ∀ secret nonce, P.deriveSessionKey secret nonce ≠ []) (h : b.Inv) {ev : BridgeEvent}
    (hC : b.undisturbed P ev = true) : (step P random ev b).Inv := by
  cases ev with
  | link ev => exact h.linkStep hkey hC
  | request answers req => exact h.request hC
  | resume i answers =>
    unfold Bridge.step
    dsimp only
    split
    case h_1 topic req hi => exact h.proceed (h.woken hi) i answers topic req
    case h_2 => exact h
  | expire i answers =>
    unfold Bridge.step
    dsimp only
    split
    case h_1 topic req hi =>
      unfold undisturbed at hC
      dsimp only at hC
      rw [hi] at hC
      exact h.proceed hC i answers topic req
    case h_2 topic req hi => exact h.proceed (h.woken hi) i answers topic req
    case h_3 => exact h
  | issue i writes => exact h.issue i writes

/-- The daemon before its first connection. -/
def start (secret : Bytes) (timing : HandshakeConfig) (maxAttempts : Nat) (service : Service) : Bridge :=
  { link := .start secret timing maxAttempts service }

theorem start_inv (secret : Bytes) (timing : HandshakeConfig) (maxAttempts : Nat) (service : Service) :
    (start secret timing maxAttempts service).Inv := by
  refine ⟨⟨rfl, ?_, ?_, ?_, ?_, False.elim⟩, ?_, ?_⟩
  · rintro ⟨⟩
  · rintro ⟨⟩
  · rintro f ⟨⟩
  · rintro - c ⟨⟩
  · rintro - t ⟨⟩
  · rintro x ⟨⟩

/-- Along every undisturbed run `link_sync_event` is set exactly while the link is synchronised, hardware requests
send while it is, and application commands are encrypted. -/
theorem hardware_requests_gated (P : Platform) (hkey : ∀ secret nonce, P.deriveSessionKey secret nonce ≠ [])
    (random : Nat → UInt32) (secret : Bytes) (timing : HandshakeConfig) (maxAttempts : Nat) (service : Service)
    (evs : List BridgeEvent)
    (h : Along (step P random) (fun b ev => b.undisturbed P ev = true) (start secret timing maxAttempts service) evs) :
    ∀ pre, pre <+: evs → (run (step P random) (start secret timing maxAttempts service) pre).Gated := by
  have hstart := start_inv secret timing maxAttempts service
  refine (reached_iff _ _).2 ⟨hstart.gated, ?_⟩
  exact h.of_invariant (I := Inv) (fun b ev hI hC => hI.step hkey hC) (fun b ev hI hC => (hI.step hkey hC).gated) hstart

theorem sample_key_ne_nil (secret nonce : Bytes) : Platform.sample.deriveSessionKey secret nonce ≠ [] := by
  simp [Crypto.deriveSessionKey, Platform.sample, Sample.hkdf]

/-- The MCU's answer in the handshake. -/
def sampleResp : BridgeEvent :=
  .link (.packet .sample ⟨protocolVersion, Command.linkSyncResp.toUnderlying.toUInt32, 2, [],
    .linkSync ⟨Link.sampleNonce, Platform.sample.handshakeTag [7] Link.sampleNonce⟩⟩)

def sampleHandshake : List BridgeEvent :=
  [.link .connect, .link (.beginAttempt true Link.sampleNonce), .link (.sendLinkSync true), sampleResp, .link .endAttempt]

/-- A request to set pin 13. -/
def sampleWrite : BridgeEvent := .request ⟨.sample, []⟩ ⟨"br/d/13".toList, [49]⟩

def sampleStart : Bridge := start [7] ⟨200, 5, 5000⟩ 3 (.sample [.digitalWrite])

/-- The request comes before the link and waits for it. -/
def sampleEarly : List BridgeEvent :=
  [sampleWrite] ++ sampleHandshake ++ [.resume 0 ⟨.sample, []⟩, .issue 0 true]

theorem hardware_requests_gated_early :
    (run (step .sample fun _ => 0) sampleStart sampleEarly).issued = [⟨.digital, .digitalWrite, true⟩] ∧
      ∀ pre, pre <+: sampleEarly → (run (step .sample fun _ => 0) sampleStart pre).Gated :=
  ⟨by decide +kernel, hardware_requests_gated .sample sample_key_ne_nil (fun _ => 0) [7] ⟨200, 5, 5000⟩ 3
    (.sample [.digitalWrite]) _ (by decide +kernel)⟩

instance (f : Sent) : Decidable (Link.Exposed f) := inferInstanceAs (Decidable (_ ∧ _))

/-- The MCU's answer comes twice, and then a request. -/
def sampleRepeated : List BridgeEvent := sampleHandshake ++ [sampleResp, sampleWrite, .issue 0 true]

/-- The second answer fails the handshake and ends the session; the event stays set, and the request does not wait. -/
theorem pin_written_in_plaintext :
    ¬ ∀ (P : Platform), (∀ secret nonce, P.deriveSessionKey secret nonce ≠ []) → ∀ (random : Nat → UInt32)
      (secret : Bytes) (timing : HandshakeConfig) (maxAttempts : Nat) (service : Service) (evs pre : List BridgeEvent),
      pre <+: evs → (run (step P random) (start secret timing maxAttempts service) pre).Gated := by
  intro h
  have hlast : (run (step .sample fun _ => 0) sampleStart sampleRepeated).Gated :=
    h .sample sample_key_ne_nil (fun _ => 0) [7] ⟨200, 5, 5000⟩ 3 (.sample [.digitalWrite]) sampleRepeated _ List.prefix_rfl
  have hexposed : ∃ f ∈ (run (step .sample fun _ => 0) sampleStart sampleRepeated).link.wire, Link.Exposed f := by
    decide +kernel
  obtain ⟨f, hf, hexp⟩ := hexposed
  exact hlast.wire f hf hexp

end Bridge
end Daemon
end McuBridge
