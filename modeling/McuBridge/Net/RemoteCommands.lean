import McuBridge.Net.InSession

/-! # The command lines of `Process.runAsync` (`services/Process.cpp`)

`runAsync` assembles the line in a buffer of 64 bytes and copies it to the `command` of the message, which has room for
59 and a zero. The daemon runs what it reads there. -/

namespace McuBridge
namespace Mcu

/-- The command, and each argument behind a space. -/
def commandLine (cmd : Bytes) (args : List Bytes) : Bytes := cmd ++ args.flatMap fun arg => 32 :: arg

/-- What nanopb reads in a zero-terminated array. -/
def cString (b : Bytes) : Bytes := b.takeWhile fun c => c ≠ 0

theorem processCommandLine_eq (cmd : Bytes) (args : List Bytes) :
    processCommandLine cmd args =
      if 64 < (commandLine cmd args).length then none else some (commandLine cmd args) := by
  -- what the loop makes of a buffer, once it has failed and before
  have hfailed : ∀ args : List Bytes, args.foldl (fun acc arg => acc.bind fun b : Bytes =>
      if 64 - b.length < 1 + arg.length then none else some (b ++ [32] ++ arg)) none = none := by
    intro args
    induction args with
    | nil => rfl
    | cons arg args ih => exact ih
  have hloop : ∀ (args : List Bytes) (b : Bytes), b.length ≤ 64 →
      args.foldl (fun acc arg => acc.bind fun b : Bytes =>
        if 64 - b.length < 1 + arg.length then none else some (b ++ [32] ++ arg)) (some b) =
      if 64 < (commandLine b args).length then none else some (commandLine b args) := by
    intro args
    induction args with
    | nil =>
      intro b hb
      rw [commandLine, List.flatMap_nil, List.append_nil, if_neg (by omega)]
      rfl
    | cons arg args ih =>
      intro b hb
      have hline : commandLine b (arg :: args) = commandLine (b ++ [32] ++ arg) args := by
        simp [commandLine, List.append_assoc]
      rw [List.foldl_cons, Option.bind_some, hline]
      by_cases hroom : 64 - b.length < 1 + arg.length
      · have hlong : 64 < (commandLine (b ++ [32] ++ arg) args).length := by
          simp only [commandLine, List.length_append, List.length_singleton]
          omega
        rw [if_pos hroom, hfailed, if_pos hlong]
      · rw [if_neg hroom, ih _ (by simp only [List.length_append, List.length_singleton]; omega)]
  unfold processCommandLine
  split
  case isTrue hlong =>
    rw [if_pos]
    rw [commandLine, List.length_append]
    omega
  case isFalse hshort => exact hloop args cmd (by omega)

theorem cString_take_iff {n : Nat} {line : Bytes} : cString (line.take n) = line ↔ line.length ≤ n ∧ 0 ∉ line := by
  constructor
  · intro h
    have hpre : cString (line.take n) <+: line.take n := List.takeWhile_prefix _
    have hlen : line.length ≤ n := by
      have hle := hpre.length_le
      rw [h, List.length_take] at hle
      omega
    rw [List.take_of_length_le hlen] at h
    refine ⟨hlen, fun h0 => ?_⟩
    rw [← h] at h0
    simpa using List.mem_takeWhile_imp h0
  · rintro ⟨hlen, h0⟩
    rw [List.take_of_length_le hlen, cString, List.takeWhile_eq_self_iff]
    intro c hc
    simpa using fun h : c = 0 => h0 (h ▸ hc)

end Mcu

/-- What is assumed of nanopb: a string field ends at the first zero, and the frames that `runAsync` sends in the clear
fit the transmit buffer. -/
structure Platform.FramesCommands (P : Platform) : Prop where
  seals : P.SealsFrames
  encode : ∀ c, P.pbEncode (.processRunAsync c) = Proto.encode (Proto.octetsField 1 (Mcu.cString c))
  command : ∀ c : Bytes, c.length ≤ 59 → P.serializes
    ⟨protocolVersion, Command.processRunAsync.toUnderlying.toUInt32, 0, [], .processRunAsync c⟩ = true
  status : ∀ text : Bytes, text.length ≤ 47 → P.serializes
    ⟨protocolVersion, Status.error.toUnderlying.toUInt32, 0, [], .genericResponse [] text⟩ = true

namespace Mcu
variable (P : Platform)

/-- The key a daemon on this link reads application frames with. -/
def linkKey (s : Mcu) : Option Bytes := if s.isSynchronized && !s.sharedSecret.isEmpty then some s.sessionKey else none

/-- The command in a frame: its message is read in the wire format, field 1. -/
def commandOf (key : Option Bytes) (f : Sent) : Option Bytes :=
  (Daemon.parseFrame P f.env key).bind fun p => (Proto.decode (p.serialize P)).map (Proto.lastOctets 1)

/-- The call is refused: an error status, and the handler gets the invalid pid. -/
def Refuses (valid : Bool) (s t : Mcu) : Prop :=
  ∃ f, t.wire = s.wire ++ [f] ∧ f.env.rawCommand = Status.error.toUnderlying ∧
    t.acts = s.acts ++ if valid then [.runAsyncCallback processInvalidPid] else []

/-- One CMD_PROCESS_RUN_ASYNC goes out, with this command. -/
def SendsCommand (line : Bytes) (s t : Mcu) : Prop :=
  ∃ f, t.wire = s.wire ++ [f] ∧ f.env.rawCommand = Command.processRunAsync.toUnderlying ∧
    commandOf P s.linkKey f = some line ∧ t.acts = s.acts

/-- `Bridge.send` refuses the message without looking at it. -/
def sendsNothing (s : Mcu) : Bool := !s.doEncrypt Command.processRunAsync.toUnderlying && !s.txEnabled

variable {P} {s : Mcu}

/-- A status of the error path leaves in the clear, in any state. -/
theorem emitStatus_text (hP : P.FramesCommands) (text : Bytes) (s : Mcu) :
    s.emitStatus P .error (some text) = { s with wire := s.wire ++
      [⟨⟨protocolVersion, Status.error.toUnderlying.toUInt32, 0, [], .genericResponse [] (text.take 47)⟩,
        none, none⟩] } := by
  have htext : (text.take 47).length ≤ 47 := by
    rw [List.length_take]
    omega
  have hgate : (!s.txEnabled && !isSystemCommand Status.error.toUnderlying) = false := by
    rw [isSystemCommand_status .error, Bool.not_true, Bool.and_false]
  have hsend : s.sendStatus P .error 0 (.genericResponse [] (text.take 47)) =
      ({ s with wire := s.wire ++ [⟨⟨protocolVersion, Status.error.toUnderlying.toUInt32, 0, [],
        .genericResponse [] (text.take 47)⟩, none, none⟩] }, true) := by
    unfold sendStatus sendSinglePass sendFrameRaw
    rw [hgate, if_neg Bool.false_ne_true]
    exact congrArg (·, true) (serializeAndSend_wire (hP.status _ htext))
  unfold emitStatus
  dsimp only
  rw [hsend, if_pos rfl]

theorem processFail_refuses (hP : P.FramesCommands) (why : ProcessFailure) (valid : Bool) (s : Mcu) :
    Refuses valid s (s.processFail P why valid) := by
  unfold processFail
  rw [emitStatus_text hP]
  cases valid with
  | true => exact ⟨_, rfl, by simp [RpcEnvelope.rawCommand], rfl⟩
  | false => exact ⟨_, rfl, by simp [RpcEnvelope.rawCommand], (List.append_nil _).symm⟩

theorem commandOf_frame (hP : P.FramesCommands) {key : Option Bytes} {f : Sent} {p : Payload} {c : Bytes}
    (hparse : Daemon.parseFrame P f.env key = some p) (hp : p.serialize P = P.pbEncode (.processRunAsync c)) :
    commandOf P key f = some (cString c) := by
  unfold commandOf
  rw [hparse, Option.bind_some, hp, hP.encode, Proto.decode_encode, Option.map_some]
  by_cases hempty : cString c = [] <;> simp [hempty, Proto.lastOctets, Proto.octetsField, Proto.octetsStep]

theorem encode_command_length (hP : P.FramesCommands) {c : Bytes} (hc : c.length ≤ 59) :
    (P.pbEncode (.processRunAsync c)).length ≤ maxPayloadSize := by
  have hshort : (cString c).length ≤ 59 := Nat.le_trans (List.takeWhile_prefix _).length_le hc
  rw [hP.encode]
  unfold Proto.octetsField
  split
  · decide
  · rw [Proto.encode_octets_length (by omega) (by omega)]
    show _ ≤ 64
    omega

/-- A command of at most 59 bytes that is not refused at once is one frame on the wire, sealed or in the clear. -/
theorem send_command (hP : P.FramesCommands) {s : Mcu} (hkey : s.sessionKey.length = 32)
    (hs : s.sendsNothing = false) {c : Bytes} (hc : c.length ≤ 59) :
    (s.send P .processRunAsync 0 (.processRunAsync c)).2 = true ∧
      SendsCommand P (cString c) s (s.send P .processRunAsync 0 (.processRunAsync c)).1 := by
  have happ : isSystemCommand Command.processRunAsync.toUnderlying = false := by decide
  have hfits := encode_command_length hP hc
  by_cases hd : s.doEncrypt Command.processRunAsync.toUnderlying = true
  · obtain ⟨hsync, hsecret, -⟩ := (doEncrypt_iff s).1 hd
    have hin : s.InSession := ⟨hsync, hsecret, hkey⟩
    obtain ⟨f, hf, heq⟩ := hin.send_sealed hP.seals 0 happ (by decide) hfits
    have hlink : s.linkKey = some s.sessionKey := by
      unfold linkKey
      rw [hsync, List.isEmpty_eq_false_iff.2 hsecret, Bool.not_false, Bool.and_self, if_pos rfl]
    refine ⟨?_, f, ?_, ?_, ?_, ?_⟩
    · unfold send sendEncryptedHelper
      rw [if_pos hd]
      dsimp only
      rw [if_neg (Nat.not_lt.2 hfits), if_neg (by decide)]
    · rw [heq]
    · unfold RpcEnvelope.rawCommand
      rw [hf.command]
      rfl
    · rw [hlink]
      exact commandOf_frame hP hf.opens rfl
    · rw [heq]
  · -- outside a session the message itself is in the envelope
    rw [Bool.not_eq_true] at hd
    have htx : s.txEnabled = true := by simpa [sendsNothing, hd] using hs
    have hgate : (!s.txEnabled && !isSystemCommand Command.processRunAsync.toUnderlying) = false := by
      rw [htx, Bool.not_true, Bool.false_and]
    have hlink : s.linkKey = none := by
      have hsession : (s.isSynchronized && !s.sharedSecret.isEmpty) = false := by simpa [doEncrypt, happ] using hd
      unfold linkKey
      rw [hsession, if_neg Bool.false_ne_true]
    have hsend : s.send P .processRunAsync 0 (.processRunAsync c) = ({ s with wire := s.wire ++
        [⟨⟨protocolVersion, Command.processRunAsync.toUnderlying.toUInt32, 0, [], .processRunAsync c⟩, none, none⟩] },
          true) := by
      unfold send sendUnqueued sendSinglePass sendFrameRaw
      rw [hd, if_neg Bool.false_ne_true, hgate, if_neg Bool.false_ne_true]
      exact congrArg (·, true) (serializeAndSend_wire (hP.command c hc))
    rw [hsend]
    refine ⟨rfl, _, rfl, by simp [RpcEnvelope.rawCommand], ?_, rfl⟩
    rw [hlink]
    exact commandOf_frame hP rfl rfl

/-- A message that `Bridge.send` does not look at leaves the state alone. -/
theorem send_nothing (hs : s.sendsNothing = true) (packet : PayloadType) :
    s.send P .processRunAsync 0 packet = (s, false) := by
  have hboth : s.doEncrypt Command.processRunAsync.toUnderlying = false ∧ s.txEnabled = false := by
    simpa [sendsNothing] using hs
  have hgate : (!s.txEnabled && !isSystemCommand Command.processRunAsync.toUnderlying) = true := by
    rw [hboth.2]
    decide
  unfold send sendUnqueued sendSinglePass sendFrameRaw
  rw [hboth.1, if_neg Bool.false_ne_true, hgate, if_pos rfl]
  rfl

theorem Refuses.not_sends {valid : Bool} {t : Mcu} {line : Bytes} (h : Refuses valid s t) : ¬SendsCommand P line s t := by
  rintro ⟨g, hg, hcmd, -, -⟩
  obtain ⟨f, hf, hst, -⟩ := h
  have hlast : some f = some g := by
    have hwires := congrArg List.getLast? (hf.symm.trans hg)
    rwa [List.getLast?_concat, List.getLast?_concat] at hwires
  cases hlast
  rw [hst] at hcmd
  exact absurd hcmd (by decide)

theorem SendsCommand.line_eq {t : Mcu} {line line' : Bytes} (h : SendsCommand P line s t)
    (h' : SendsCommand P line' s t) : line = line' := by
  obtain ⟨f, hf, -, hline, -⟩ := h
  obtain ⟨g, hg, -, hline', -⟩ := h'
  have hlast : some f = some g := by
    have hwires := congrArg List.getLast? (hf.symm.trans hg)
    rwa [List.getLast?_concat, List.getLast?_concat] at hwires
  cases hlast
  exact Option.some.inj (hline.symm.trans hline')

/-- What `runAsync` does in each of its cases: it refuses the call, or sends the first 59 bytes of the line up to a
zero. -/
theorem processRunAsync_cases (hP : P.FramesCommands) {s : Mcu} (hkey : s.sessionKey.length = 32) (cmd : Bytes)
    (args : List Bytes) (valid : Bool) :
    if (valid = true ∧ maxPendingProcessPolls ≤ s.services.pendingRunAsync) ∨ s.sendsNothing = true ∨
        64 < (commandLine cmd args).length then
      Refuses valid s (s.processRunAsync P cmd args valid)
    else
      SendsCommand P (cString ((commandLine cmd args).take 59)) s (s.processRunAsync P cmd args valid) := by
  unfold processRunAsync
  rw [processCommandLine_eq]
  by_cases hfull : (valid && decide (maxPendingProcessPolls ≤ s.services.pendingRunAsync)) = true
  · rw [if_pos hfull, if_pos (.inl (by simpa using hfull))]
    exact processFail_refuses hP ..
  · have hroom : ¬(valid = true ∧ maxPendingProcessPolls ≤ s.services.pendingRunAsync) := by simpa using hfull
    rw [if_neg hfull]
    by_cases hlong : 64 < (commandLine cmd args).length
    · rw [if_pos hlong, if_pos (.inr (.inr hlong))]
      exact processFail_refuses hP ..
    · rw [if_neg hlong]
      dsimp only
      cases hnothing : s.sendsNothing with
      | true =>
        rw [send_nothing hnothing, if_pos (.inr (.inl rfl)), Bool.not_false, if_pos rfl]
        exact processFail_refuses hP ..
      | false =>
        have htake : ((commandLine cmd args).take 59).length ≤ 59 := by
          rw [List.length_take]
          omega
        obtain ⟨hok, f, hwire, hcmd, hline, hacts⟩ := send_command hP hkey hnothing htake
        rw [hok, Bool.not_true, if_neg Bool.false_ne_true, if_neg (by simp [hroom, hlong])]
        cases valid <;> exact ⟨f, hwire, hcmd, hline, hacts⟩

/-- For every command and every list of arguments, in any state, `runAsync` refuses the call or sends the whole line
exactly if the call is refused for another reason than the line, or the line does not fit the buffer of 64 bytes, or
it fits the message and has no zero in it. -/
theorem runAsync_sends_whole_line_iff (P : Platform) (hP : P.FramesCommands) (s : Mcu) (hkey : s.sessionKey.length = 32)
    (cmd : Bytes) (args : List Bytes) (valid : Bool) :
    (Refuses valid s (s.processRunAsync P cmd args valid) ∨
        SendsCommand P (commandLine cmd args) s (s.processRunAsync P cmd args valid)) ↔
      (valid = true ∧ maxPendingProcessPolls ≤ s.services.pendingRunAsync) ∨ s.sendsNothing = true ∨
        64 < (commandLine cmd args).length ∨ ((commandLine cmd args).length ≤ 59 ∧ 0 ∉ commandLine cmd args) := by
  have hcases := processRunAsync_cases hP hkey cmd args valid
  split at hcases
  case isTrue hrefused =>
    refine iff_of_true (.inl hcases) ?_
    rcases hrefused with h | h | h
    · exact .inl h
    · exact .inr (.inl h)
    · exact .inr (.inr (.inl h))
  case isFalse hsent =>
    have hiff : SendsCommand P (commandLine cmd args) s (s.processRunAsync P cmd args valid) ↔
        (commandLine cmd args).length ≤ 59 ∧ 0 ∉ commandLine cmd args := by
      rw [← cString_take_iff]
      refine ⟨fun h => hcases.line_eq h, fun h => ?_⟩
      rwa [h] at hcases
    rw [or_iff_right (fun h => h.not_sends hcases), hiff]
    tauto

/-! ### A link to send commands on -/

/-- A platform that encodes the command. -/
def commandsPlatform : Platform :=
  { Platform.keyed with
    pbEncode := fun
      | .processRunAsync c => Proto.encode (Proto.octetsField 1 (cString c))
      | p => Platform.keyed.pbEncode p }

theorem commands_format : commandsPlatform.FramesCommands where
  seals := ⟨⟨Platform.keyed_opens.seals, Platform.keyed_opens.opens⟩, fun _ _ _ _ _ _ => rfl⟩
  encode _ := rfl
  command _ _ := rfl
  status _ _ := rfl

/-- The firmware after a handshake. -/
def commandsStart : Mcu := runFrom commandsPlatform [7] true [.recv .sample (some (validSync 1))]

theorem commandsStart_key : commandsStart.sessionKey.length = 32 := by decide +kernel

theorem runAsync_sends_whole_line_sample :
    Refuses true commandsStart (commandsStart.processRunAsync commandsPlatform [108, 115] [[45, 108]] true) ∨
      SendsCommand commandsPlatform (commandLine [108, 115] [[45, 108]]) commandsStart
        (commandsStart.processRunAsync commandsPlatform [108, 115] [[45, 108]] true) :=
  (runAsync_sends_whole_line_iff commandsPlatform commands_format commandsStart commandsStart_key [108, 115] [[45, 108]]
    true).2 (.inr (.inr (.inr (by decide))))

/-- `rm -r` and a path of 55 bytes: 61 bytes fit the buffer and not the message, and 59 of them are sent. -/
theorem runAsync_shortens_line :
    commandsStart.isSynchronized = true ∧
      SendsCommand commandsPlatform ((commandLine [114, 109] [[45, 114], List.replicate 55 97]).take 59) commandsStart
        (commandsStart.processRunAsync commandsPlatform [114, 109] [[45, 114], List.replicate 55 97] true) ∧
      ¬(Refuses true commandsStart
          (commandsStart.processRunAsync commandsPlatform [114, 109] [[45, 114], List.replicate 55 97] true) ∨
        SendsCommand commandsPlatform (commandLine [114, 109] [[45, 114], List.replicate 55 97]) commandsStart
          (commandsStart.processRunAsync commandsPlatform [114, 109] [[45, 114], List.replicate 55 97] true)) := by
  have hcases := processRunAsync_cases commands_format commandsStart_key [114, 109]
    [[45, 114], List.replicate 55 97] true
  rw [if_neg (by decide +kernel), show cString ((commandLine [114, 109] [[45, 114], List.replicate 55 97]).take 59) =
    (commandLine [114, 109] [[45, 114], List.replicate 55 97]).take 59 by decide] at hcases
  refine ⟨by decide +kernel, hcases, ?_⟩
  rintro (h | h)
  · exact h.not_sends hcases
  · exact absurd (hcases.line_eq h) (by decide)

end Mcu
end McuBridge
