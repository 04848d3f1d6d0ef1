import McuBridge.Daemon.FrameCodec
import McuBridge.Daemon.LinkSteps

/-! # What the daemon executes was authenticated and is fresh

Three checks stand before a handler: `parse_frame` decrypts application frames with the session key, `_process_packet`
compares their counter with the last one, `handle_mcu_frame` turns them away outside a session. `_process_packet`
takes all 32 bits of the command id for its exclusion, `parse_frame` the low 16; for the ids that have a handler
both come to the same. -/

namespace McuBridge
namespace Daemon
open Run

/-- The event is not the reception of a packet. -/
def LinkEvent.isPacket : LinkEvent → Bool
  | .packet _ _ => true
  | _ => false

/-- What reaches the link: a packet as `cobsr.decode` returned it, or any other event. -/
inductive LinkInput where
  | packet (io : Io) (raw : Bytes)
  | event (ev : LinkEvent) (h : ev.isPacket = false)

namespace Link
variable (P : Platform) (random : Nat → UInt32) (C : PyCodec)

def input : LinkInput → Link → Link
  | .packet io raw, d =>
    match decodeFrame C raw with
    | none => d
    | some env => d.processPacket P random io env
  | .event ev _, d => d.step P random ev

/-- The link of a daemon that was just started. -/
def start (secret : Bytes) (timing : HandshakeConfig) (maxAttempts : Nat) (service : Service) : Link :=
  { sharedSecret := secret, timing := timing, maxAttempts := maxAttempts, service := service }

/-- The counter in the nonce of `env`. -/
def frameCounter (env : RpcEnvelope) : Nat := (readBe64 (env.nonce.drop 4)).toNat

/-- `_process_packet` accepts an application frame: the counter it stores. -/
def acceptedCounter (d : Link) : LinkInput → Option Nat
  | .packet _ raw =>
    (decodeFrame C raw).bind fun env =>
      if (parseFrame P env d.sessionKey).isSome && d.isSynchronized && !isExcluded env.commandId then
        validateNonceCounter env.nonce d.linkLastNonceCounter
      else none
  | .event _ _ => none

/-- The counters of the application frames accepted in a run. -/
def acceptedCounters (d : Link) : List LinkInput → List Nat
  | [] => []
  | i :: is => (acceptedCounter P C d i).toList ++ acceptedCounters (input P random C i d) is

/-- The packet is turned away: its bytes do not decode, `parse_frame` raises, the anti-replay check fails, or
`handle_mcu_frame` does not admit the command outside a session. -/
inductive Rejected (d : Link) (raw : Bytes) : Prop where
  | decode (h : decodeFrame C raw = none)
  | parse {env : RpcEnvelope} (h : decodeFrame C raw = some env) (hp : parseFrame P env d.sessionKey = none)
  | replay {env : RpcEnvelope} (h : decodeFrame C raw = some env) (hs : d.isSynchronized = true)
      (happ : isExcluded env.commandId = false) (hc : validateNonceCounter env.nonce d.linkLastNonceCounter = none)
  | gate {env : RpcEnvelope} (h : decodeFrame C raw = some env)
      (hg : (d.isSynchronized || isStatusValue env.commandId || preSyncAllowed env.commandId) = false)

/-- The handler of the application command `cmd` ran on the input `i` for an authentic and fresh frame: in a session,
decrypted under its key, with a counter above all those accepted in the run before. -/
def ExecutedFresh (d₀ : Link) (is : List LinkInput) (i : LinkInput) (cmd : UInt32) : Prop :=
  (run (input P random C) d₀ is).isSynchronized = true ∧
  ∃ io raw env key plain, i = .packet io raw ∧ decodeFrame C raw = some env ∧ env.commandId = cmd ∧
    (run (input P random C) d₀ is).linkSessionKey = some key ∧ encrypts env.rawCommand (some key) = true ∧
    parseFrame P env (some key) = some (.bytes plain) ∧
    ∀ c ∈ acceptedCounters P random C d₀ is, c < frameCounter env

structure InputFresh (d₀ : Link) (is : List LinkInput) (i : LinkInput) : Prop where
  executed : ∀ x ∈ (run (input P random C) d₀ (is ++ [i])).executed.drop
      (run (input P random C) d₀ is).executed.length, isExcluded x.1 = false →
    ExecutedFresh P random C d₀ is i x.1
  rejected : ∀ io raw, i = .packet io raw → Rejected P C (run (input P random C) d₀ is) raw →
    (run (input P random C) d₀ (is ++ [i])).linkLastNonceCounter =
      (run (input P random C) d₀ is).linkLastNonceCounter ∧
    (run (input P random C) d₀ (is ++ [i])).service = (run (input P random C) d₀ is).service

variable {P random C} {d t : Link}

/-! ### The last counter -/

theorem LinkMicro.lastCounter {l : LinkLabel} (h : LinkMicro P random l d t) (hc : ∀ c, l ≠ .counter c) :
    t.linkLastNonceCounter = d.linkLastNonceCounter := by
  cases h with
  | quiet h => exact h.linkLastNonceCounter
  | counter => exact absurd rfl (hc _)
  | _ => rfl

theorem lastCounter_eq {Q : LinkLabel → Prop} (hQ : ∀ c, ¬ Q (.counter c)) (h : Steps (LinkMicro P random) Q d t) :
    t.linkLastNonceCounter = d.linkLastNonceCounter := by
  refine h.invariant (I := fun u => u.linkLastNonceCounter = d.linkLastNonceCounter) ?_ rfl
  intro l u v hl hm hu
  refine (LinkMicro.lastCounter hm ?_).trans hu
  rintro c rfl
  exact hQ c hl

theorem handleMcuFrame_lastCounter (io : Io) (cmd seq : UInt32) (payload : Payload) :
    (d.handleMcuFrame P random io cmd seq payload).linkLastNonceCounter = d.linkLastNonceCounter :=
  lastCounter_eq (Q := fun l => ∀ c, l ≠ .counter c) (fun c h => h c rfl)
    (handleMcuFrame_steps P random d (by rintro l hl c rfl; exact hl) (by rintro l hl c rfl; exact hl) io cmd seq payload
      fun _ _ _ => nofun)

theorem validateNonceCounter_eq {nonce : Bytes} {last c : Nat} (h : validateNonceCounter nonce last = some c) :
    c = (readBe64 (nonce.drop 4)).toNat := by
  unfold validateNonceCounter at h
  split at h
  · cases h
  · dsimp only at h
    split at h
    · cases h
    · exact (Option.some.inj h).symm

/-- SET_BAUDRATE_RESP, which the negotiation takes out of the stream, is a system command. -/
theorem negotiated_excluded {env : RpcEnvelope}
    (h : (d.negotiating && env.commandId == Command.setBaudrateResp.toUnderlying.toUInt32) = true) :
    isExcluded env.commandId = true := by
  rw [Bool.and_eq_true, beq_iff_eq] at h
  rw [h.2]
  decide

theorem processPacket_lastCounter (io : Io) (env : RpcEnvelope) :
    (d.processPacket P random io env).linkLastNonceCounter =
      (if (parseFrame P env d.sessionKey).isSome && d.isSynchronized && !isExcluded env.commandId then
        validateNonceCounter env.nonce d.linkLastNonceCounter else none).getD d.linkLastNonceCounter := by
  unfold processPacket
  cases hparse : parseFrame P env d.sessionKey with
  | none => rfl
  | some payload =>
    dsimp only
    split
    case isTrue hneg =>
      rw [negotiated_excluded hneg]
      simp
    · unfold checkCounter
      simp only [Option.isSome_some, Bool.true_and]
      cases happ : d.isSynchronized && !isExcluded env.commandId with
      | false =>
        simp only [Bool.false_eq_true, if_false]
        exact handleMcuFrame_lastCounter io _ _ _
      | true =>
        simp only [if_true]
        cases validateNonceCounter env.nonce d.linkLastNonceCounter with
        | none => rfl
        | some c => exact handleMcuFrame_lastCounter io _ _ _

theorem input_lastCounter (i : LinkInput) :
    (input P random C i d).linkLastNonceCounter = (acceptedCounter P C d i).getD d.linkLastNonceCounter := by
  cases i with
  | packet io raw =>
    unfold input acceptedCounter
    dsimp only
    cases decodeFrame C raw with
    | none => rfl
    | some env => exact processPacket_lastCounter io env
  | event ev hev =>
    refine lastCounter_eq (Q := HandshakeLabel) (fun _ => id) (step_steps P random d ?_)
    rintro io env rfl
    cases hev

theorem acceptedCounter_lt {i : LinkInput} {c : Nat} (h : acceptedCounter P C d i = some c) :
    d.linkLastNonceCounter < c := by
  cases i with
  | event => cases h
  | packet io raw =>
    obtain ⟨env, -, henv⟩ := Option.bind_eq_some_iff.1 h
    split at henv
    · exact validateNonceCounter_lt henv
    · cases henv

/-- The last counter only grows, and it bounds every counter accepted. -/
theorem acceptedCounters_le (is : List LinkInput) (d : Link) :
    d.linkLastNonceCounter ≤ (run (input P random C) d is).linkLastNonceCounter ∧
      ∀ c ∈ acceptedCounters P random C d is, c ≤ (run (input P random C) d is).linkLastNonceCounter := by
  induction is generalizing d with
  | nil => exact ⟨le_rfl, fun _ hc => by cases hc⟩
  | cons i is ih =>
    obtain ⟨hle, hall⟩ := ih (input P random C i d)
    rw [input_lastCounter] at hle
    rw [run, acceptedCounters]
    cases hi : acceptedCounter P C d i with
    | none =>
      rw [hi] at hle
      exact ⟨hle, hall⟩
    | some c =>
      have hlt := acceptedCounter_lt hi
      rw [hi, Option.getD_some] at hle
      refine ⟨by omega, fun c' hc' => ?_⟩
      rcases List.mem_append.1 hc' with hc' | hc'
      · obtain rfl := List.mem_singleton.1 hc'
        exact hle
      · exact hall c' hc'

/-! ### The two classifications -/

/-- On the ids that have a handler the exclusion of `_process_packet` is the one of `parse_frame`. -/
theorem isExcluded_eq {cmd : UInt32} (h : cmd < 65536) : isExcluded cmd = isSystemCommand cmd.toUInt16 := by
  have hmod : cmd.toUInt16.toNat = cmd.toNat := by
    rw [UInt32.toNat_toUInt16]
    exact Nat.mod_eq_of_lt (UInt32.lt_iff_toNat_lt.1 h)
  unfold isExcluded isSystemCommand
  simp only [UInt32.le_iff_toNat_le, UInt16.le_iff_toNat_le, hmod]
  rfl

/-- Outside the excluded ranges a session is needed. -/
theorem not_admitted {cmd : UInt32} (h : isExcluded cmd = false) :
    isStatusValue cmd = false ∧ preSyncAllowed cmd = false := by
  unfold isExcluded at h
  unfold isStatusValue preSyncAllowed
  have hresp : ∀ c : Command, c = .linkSyncResp ∨ c = .linkResetResp →
      48 ≤ c.toUnderlying.toUInt32 ∧ 64 ≤ c.toUnderlying.toUInt32 ∧ c.toUnderlying.toUInt32 ≤ 79 := by
    rintro c (rfl | rfl) <;> decide
  simp only [Bool.or_eq_false_iff, Bool.and_eq_false_iff, decide_eq_false_iff_not, beq_eq_false_iff_ne] at h ⊢
  obtain ⟨h1, h2⟩ := h
  refine ⟨?_, ?_, ?_⟩
  · refine h1.imp_right fun hle hle' => hle (UInt32.le_trans hle' (by decide))
  · rintro rfl
    obtain ⟨-, h64, h79⟩ := hresp .linkSyncResp (.inl rfl)
    exact h2.elim (fun h => h h64) fun h => h h79
  · rintro rfl
    obtain ⟨-, h64, h79⟩ := hresp .linkResetResp (.inr rfl)
    exact h2.elim (fun h => h h64) fun h => h h79

/-! ### What runs a handler -/

/-- `handle_mcu_frame` runs a handler for an application command in a session only, and only for an id of 16 bits. -/
theorem handleMcuFrame_application (io : Io) {cmd : UInt32} (seq : UInt32) (payload : Payload)
    (happ : isExcluded cmd = false)
    (hne : (d.handleMcuFrame P random io cmd seq payload).executed ≠ d.executed) :
    d.isSynchronized = true ∧ cmd < 65536 := by
  obtain ⟨hstatus, hpre⟩ := not_admitted happ
  unfold handleMcuFrame at hne
  split at hne
  · exact absurd rfl hne
  split at hne
  · exact absurd rfl hne
  case isFalse hgate =>
    rw [hstatus, hpre, Bool.or_false, Bool.or_false] at hgate
    refine ⟨by simpa using hgate, ?_⟩
    split at hne
    case isTrue hcmd =>
      rw [hcmd] at happ
      exact absurd happ (by decide)
    by_contra hwide
    rw [if_neg hwide] at hne
    split at hne
    case h_1 heq => cases heq
    split at hne
    · exact hne (executed_eq P random d (Q := WriteLabel) id (sendRaw_steps P random d _ _ _ _ _))
    · exact hne rfl

theorem processPacket_application (io : Io) {env : RpcEnvelope} (happ : isExcluded env.commandId = false)
    (hne : (d.processPacket P random io env).executed ≠ d.executed) :
    d.isSynchronized = true ∧ env.commandId < 65536 ∧ (∃ payload, parseFrame P env d.sessionKey = some payload) ∧
      validateNonceCounter env.nonce d.linkLastNonceCounter = some (frameCounter env) := by
  unfold processPacket at hne
  split at hne
  · exact absurd rfl hne
  case h_2 payload hparse =>
    split at hne
    · exact absurd rfl hne
    split at hne
    · exact absurd rfl hne
    case h_2 u hu =>
      obtain ⟨-, -, hex, -⟩ := checkCounter_handshake d hu
      rw [← hex] at hne
      obtain ⟨hsync, hcmd⟩ := handleMcuFrame_application io env.sequenceId payload happ hne
      have hstate : u.isSynchronized = d.isSynchronized := by
        unfold checkCounter at hu
        split at hu
        · obtain ⟨c, -, rfl⟩ := Option.map_eq_some_iff.1 hu
          rfl
        · cases hu
          rfl
      have hsync : d.isSynchronized = true := hstate.symm.trans hsync
      refine ⟨hsync, hcmd, ⟨payload, hparse⟩, ?_⟩
      rw [checkCounter, hsync, happ, if_pos (by decide)] at hu
      obtain ⟨c, hc, -⟩ := Option.map_eq_some_iff.1 hu
      rw [hc, validateNonceCounter_eq hc]
      rfl

/-- With a key an application frame is parsed by decryption. -/
theorem parseFrame_bytes {env : RpcEnvelope} {key : Bytes} {payload : Payload}
    (henc : encrypts env.rawCommand (some key) = true) (h : parseFrame P env (some key) = some payload) :
    ∃ plain, payload = .bytes plain := by
  rw [encrypts_some] at henc
  unfold parseFrame at h
  split at h
  · cases h
  dsimp only at h
  rw [if_pos henc] at h
  -- the ciphertext is the active member, or empty
  split at h
  all_goals
    split at h
    · cases h
    · obtain ⟨plain, -, rfl⟩ := Option.map_eq_some_iff.1 h
      exact ⟨plain, rfl⟩

/-! ### What a rejected packet changes -/

theorem input_none {io : Io} {raw : Bytes} (h : decodeFrame C raw = none) :
    input P random C (.packet io raw) d = d := by
  simp only [input, h]

theorem input_some {io : Io} {raw : Bytes} {env : RpcEnvelope} (h : decodeFrame C raw = some env) :
    input P random C (.packet io raw) d = d.processPacket P random io env := by
  simp only [input, h]

theorem input_rejected {io : Io} {raw : Bytes} (h : Rejected P C d raw) :
    (input P random C (.packet io raw) d).linkLastNonceCounter = d.linkLastNonceCounter ∧
      (input P random C (.packet io raw) d).service = d.service := by
  cases h with
  | decode h =>
    rw [input_none h]
    exact ⟨rfl, rfl⟩
  | parse h hp =>
    rw [input_some h]
    unfold processPacket
    rw [hp]
    exact ⟨rfl, rfl⟩
  | replay h hs happ hc =>
    rw [input_some h]
    unfold processPacket
    split
    · exact ⟨rfl, rfl⟩
    split
    · exact ⟨rfl, rfl⟩
    · rw [checkCounter, hs, happ, if_pos (by decide), hc]
      exact ⟨rfl, rfl⟩
  | @gate env h hg =>
    have hsync : d.isSynchronized = false := by
      simp only [Bool.or_eq_false_iff] at hg
      exact hg.1.1
    rw [input_some h]
    unfold processPacket
    split
    · exact ⟨rfl, rfl⟩
    case h_2 payload _ =>
      split
      · exact ⟨rfl, rfl⟩
      · rw [checkCounter, hsync, if_neg (by simp)]
        dsimp only
        unfold handleMcuFrame
        split
        · exact ⟨rfl, rfl⟩
        · have hgate : (!(isSynchronized (d.correlateFrame io.host env.commandId payload) ||
              isStatusValue env.commandId || preSyncAllowed env.commandId)) = true := congrArg (!·) hg
          rw [if_pos hgate]
          exact ⟨rfl, rfl⟩

/-! ### Whole runs -/

theorem input_keyed (i : LinkInput) (hd : Keyed P d) : Keyed P (input P random C i d) := by
  cases i with
  | packet io raw =>
    cases h : decodeFrame C raw with
    | none =>
      rw [input_none h]
      exact hd
    | some env =>
      rw [input_some h]
      exact step_keyed P random d (.packet io env) hd
  | event ev _ => exact step_keyed P random d ev hd

theorem input_executed {i : LinkInput} {x : UInt32 × UInt32}
    (hx : x ∈ (input P random C i d).executed.drop d.executed.length) :
    ∃ io raw env, i = .packet io raw ∧ decodeFrame C raw = some env ∧ x.1 = env.commandId ∧
      (d.processPacket P random io env).executed ≠ d.executed := by
  have hdrop : ∀ {l : List (UInt32 × UInt32)}, l = d.executed → x ∉ l.drop d.executed.length := by
    rintro l rfl hmem
    rw [List.drop_length] at hmem
    cases hmem
  cases i with
  | event ev hev =>
    refine absurd hx (hdrop (executed_eq P random d (Q := HandshakeLabel) id (step_steps P random d ?_)))
    rintro io env rfl
    cases hev
  | packet io raw =>
    cases henv : decodeFrame C raw with
    | none =>
      rw [input_none henv] at hx
      exact absurd hx (hdrop rfl)
    | some env =>
      rw [input_some henv] at hx
      refine ⟨io, raw, env, rfl, henv, ?_, fun heq => hdrop heq hx⟩
      rcases processPacket_executed P random d io env with ⟨heq, -⟩ | heq
      · exact absurd hx (hdrop heq)
      · rw [heq, List.drop_left, List.mem_singleton] at hx
        rw [hx]

/-- In every run from a fresh daemon and for every next input: an application handler runs only for a frame decrypted
under the session key in a session, with a counter above all accepted before, and a rejected packet changes neither
the last counter nor the service. -/
theorem executed_only_fresh (P : Platform) (hkey : ∀ secret nonce, P.deriveSessionKey secret nonce ≠ [])
    (random : Nat → UInt32) (C : PyCodec) (secret : Bytes) (timing : HandshakeConfig) (maxAttempts : Nat)
    (service : Service) (is : List LinkInput) (i : LinkInput) :
    InputFresh P random C (start secret timing maxAttempts service) is i := by
  have hkeyed : Keyed P (run (input P random C) (start secret timing maxAttempts service) is) :=
    run_invariant (fun u j hu => input_keyed j hu) (fun h => by cases h) is
  have hrun : run (input P random C) (start secret timing maxAttempts service) (is ++ [i]) =
      input P random C i (run (input P random C) (start secret timing maxAttempts service) is) := by
    rw [run_append]
    rfl
  constructor
  · intro x hx happ
    rw [hrun] at hx
    obtain ⟨io, raw, env, rfl, henv, hcmd, hne⟩ := input_executed hx
    rw [hcmd] at happ
    obtain ⟨hsync, hwide, ⟨payload, hparse⟩, hcounter⟩ := processPacket_application io happ hne
    obtain ⟨n, hn⟩ := hkeyed hsync
    have hsession : sessionKey (run (input P random C) (start secret timing maxAttempts service) is) =
        some (P.deriveSessionKey (run (input P random C) (start secret timing maxAttempts service) is).sharedSecret n) := by
      rw [sessionKey, if_pos hsync, hn]
    rw [hsession] at hparse
    have henc : encrypts env.rawCommand (some (P.deriveSessionKey
        (run (input P random C) (start secret timing maxAttempts service) is).sharedSecret n)) = true := by
      have hsys : isSystemCommand env.rawCommand = false := (isExcluded_eq hwide).symm.trans happ
      simpa [encrypts_some, hsys] using hkey _ n
    obtain ⟨plain, rfl⟩ := parseFrame_bytes henc hparse
    refine ⟨hsync, io, raw, env, _, plain, rfl, henv, hcmd.symm, hn, henc, hparse, fun c hc => ?_⟩
    exact lt_of_le_of_lt ((acceptedCounters_le is _).2 c hc) (validateNonceCounter_lt hcounter)
  · rintro io raw rfl hrej
    rw [hrun]
    exact input_rejected hrej

/-! ### A session -/

/-- `LinkSync` has two byte fields; the other messages are those of the sample platform. -/
def encodeTyped : PayloadType → Bytes
  | .linkSync m => Proto.encode (Proto.octetsField 1 m.nonce ++ Proto.octetsField 2 m.tag)
  | p => Platform.keyed.pbEncode p

def readTyped (number : Nat) (b : Bytes) : Option PayloadType :=
  if number = 37 then (Proto.decode b).map fun fs => .linkSync ⟨Proto.lastOctets 1 fs, Proto.lastOctets 2 fs⟩
  else Platform.keyed.pbDecode number b

def sampleLinkCodec : PyCodec := .canonical Sample.crc32 encodeTyped readTyped

def sampleNonce : Bytes := (List.range 16).map UInt8.ofNat

/-- A frame as the firmware writes it: sealed if it has a counter. -/
def sampleRaw (cmd : Command) (p : PayloadType) (counter : Option UInt64) : Bytes :=
  let key := counter.map fun _ => Platform.keyed.deriveSessionKey [7] sampleNonce
  let nonce := [0, 0, 0, 0] ++ be64 (counter.getD 0)
  (buildFrameBytes .keyed sampleLinkCodec cmd.toUnderlying 1 (.message p) nonce key).getD []

/-- The handshake, one mailbox message, the same one again, and the next one. -/
def sampleInputs : List LinkInput :=
  let push := sampleRaw .mailboxPush (.mailboxPush [65])
  [.event .connect rfl, .event (.beginAttempt true sampleNonce) rfl, .event (.sendLinkSync true) rfl,
    .packet .sample (sampleRaw .linkSyncResp (.linkSync ⟨sampleNonce, Platform.keyed.handshakeTag [7] sampleNonce⟩) none),
    .packet .sample (push (some 1)), .packet .sample (push (some 1)), .packet .sample (push (some 2))]

/-- The copy is turned away; the messages are handled, and the inputs satisfy the theorem. -/
theorem executed_only_fresh_sample :
    acceptedCounters .keyed (fun _ => 0) sampleLinkCodec (start [7] ⟨200, 5, 5000⟩ 3 (.sample [])) sampleInputs = [1, 2] ∧
    (run (input .keyed (fun _ => 0) sampleLinkCodec) (start [7] ⟨200, 5, 5000⟩ 3 (.sample [])) sampleInputs).executed =
      [(69, 1), (131, 1), (131, 1)] ∧
    InputFresh .keyed (fun _ => 0) sampleLinkCodec (start [7] ⟨200, 5, 5000⟩ 3 (.sample [])) sampleInputs
      (.packet .sample (sampleRaw .mailboxPush (.mailboxPush [66]) (some 3))) :=
  ⟨by decide +kernel, by decide +kernel, executed_only_fresh .keyed (by
      intro secret nonce h
      have hlen := congrArg List.length h
      simp [Platform.keyed, Platform.sample, Crypto.deriveSessionKey, Sample.hkdf, padTo] at hlen)
    (fun _ => 0) sampleLinkCodec [7] ⟨200, 5, 5000⟩ 3 (.sample []) sampleInputs _⟩

end Link
end Daemon
end McuBridge
