import McuBridge.Daemon.McuFileRead
import McuBridge.Net.InSession
import McuBridge.Net.System

/-! # Reading a file of the MCU, from both ends

The requests of the daemon, `FileSystem._onRead` of a firmware in the same session, and the frames of both directions
in order. A frame is delivered by `_process_packet`; what its handler gets goes to the pending read. -/

namespace McuBridge
open Daemon (Link McuHost Io McuFileReader ReadOutcome PendingMcuRead)

/-- The files of the MCU, by path. -/
abbrev McuFiles := Bytes → Option Bytes

/-- `hal::readFileChunk` with a buffer of 64 bytes, and the time-outs of `_onRead`. -/
def McuFiles.hal (files : McuFiles) (timedOut : Nat → Bool) : Hal :=
  { Hal.sample with
    readFileChunk := fun path offset =>
      (files path).map fun f => ((f.drop offset).take 64, decide (offset + 64 < f.length))
    readTimedOut := timedOut }

/-- `toMcu` has the paths of the FILE_READ frames that are on their way. -/
structure FileReads where
  mcu : Mcu
  link : Link
  reader : McuFileReader := {}
  toMcu : List Bytes := []
  toDaemon : List Sent := []

inductive FileReadEvent where
  | request (path : Bytes)
  | begin (writes : Bool)
  | mcuReads (timedOut : Nat → Bool)
  | deliver (writes throttled : Bool)
  | completes
  | timeout

namespace FileReads
variable (P : Platform) (random : Nat → UInt32) (host : McuHost) (files : McuFiles)

/-- The content `_on_mcu_file_read_resp` is called with, if a packet has made a handler run and it was this one. -/
def handed (env : RpcEnvelope) (before after : Link) : Option Bytes :=
  if after.executed.length = before.executed.length ∨ env.commandId ≠ Command.fileReadResp.toUnderlying.toUInt32 then none
  else
    match (Daemon.parseFrame P env before.sessionKey).bind
      (Link.decodePayload host Command.fileReadResp.toUnderlying) with
    | some (.message (.fileReadResponse c)) => some c
    | _ => none

/-- The host as the handler sees it. -/
def io (s : FileReads) (writes throttled : Bool) : Io :=
  ⟨{ host with mcuReadPending := s.reader.pending.isSome }, writes, throttled⟩

def step : FileReadEvent → FileReads → FileReads
  | .request path, s => { s with reader := s.reader.request path }
  | .begin writes, s =>
    match s.reader.next with
    | some path =>
      let r := s.link.sendRaw P random writes Command.fileRead.toUnderlying (.message (.fileRead path)) none none
      { s with
        link := r.1
        reader := s.reader.begin path r.2
        toMcu := if r.2 = .sent then s.toMcu ++ [path] else s.toMcu }
    | none => s
  | .mcuReads timedOut, s =>
    match s.toMcu with
    | path :: rest =>
      let m := s.mcu.fileSystemOnRead P (files.hal timedOut) path
      { s with mcu := m, toMcu := rest, toDaemon := s.toDaemon ++ Net.written s.mcu.wire m.wire }
    | [] => s
  | .deliver writes throttled, s =>
    match s.toDaemon with
    | f :: rest =>
      let link := s.link.processPacket P random (s.io host writes throttled) f.env
      let reader := match handed P host f.env s.link link with
        | some content => s.reader.onResponse content
        | none => s.reader
      { s with link := link, reader := reader, toDaemon := rest }
    | [] => s
  | .completes, s => { s with reader := s.reader.completes }
  | .timeout, s => { s with reader := s.reader.timeout }

/-! ### Statement -/

/-- A request has published an error, or the whole file. -/
def Faithful (s : FileReads) : Prop :=
  ∀ x ∈ s.reader.ended, x.2 = .dispatchFailed ∨ x.2 = .timedOut ∨ ∃ file, files x.1 = some file ∧ x.2 = .content file

/-- The file is read in one chunk that fits the payload limit as a message, or has no chunk that ends it. -/
def Readable (file : Bytes) : Prop := file.length ≤ 62 ∨ 64 * fileMaxReadChunks < file.length

instance (file : Bytes) : Decidable (Readable file) := inferInstanceAs (Decidable (_ ∨ _))

/-- A request begins when nothing of an earlier one is on its way, and its FILE_READ can be built; the file that is
read is readable. The nonce counters have room. -/
def Regular (s : FileReads) : FileReadEvent → Prop
  | .begin _ => ∀ path ∈ s.reader.next, s.toMcu = [] ∧ s.toDaemon = [] ∧
      (P.pbEncode (.fileRead path)).length ≤ maxPayloadSize ∧ s.link.linkNonceCounter < Daemon.nonceCounterMask
  | .mcuReads _ => s.mcu.txNonceCounter.toNat + 2 < 2 ^ 64 ∧
      ∀ path ∈ s.toMcu.head?, ∀ file ∈ files path, Readable file
  | _ => True

instance (s : FileReads) (e : FileReadEvent) : Decidable (Regular P files s e) := by
  cases e <;> unfold Regular <;> infer_instance

/-- The messages as proto3 writes and reads them. -/
structure Format (P : Platform) (host : McuHost) : Prop where
  encode : ∀ c, P.pbEncode (.fileReadResponse c) = Proto.encode (Proto.octetsField 1 c)
  parse : ∀ c, host.parse 27 (P.pbEncode (.fileReadResponse c)) = some (.fileReadResponse c)

/-! ### What is on the line -/

variable {P random host files} {key path : Bytes}

/-- Frames to the daemon with their chunks; the counters of the chunks ascend from `l` to `u`. -/
inductive Pipe (P : Platform) (key : Bytes) : Nat → List Bytes → List Sent → Nat → Prop
  | nil {l u} : l ≤ u → Pipe P key l [] [] u
  | content {l u c cs f fs seq counter} :
      SessionFrame P key Command.fileReadResp.toUnderlying seq (P.pbEncode (.fileReadResponse c)) counter f →
      l < counter.toNat → Pipe P key counter.toNat cs fs u → Pipe P key l (c :: cs) (f :: fs) u
  | error {l u cs f fs} :
      f.env = Mcu.rawEnvelope Status.error.toUnderlying 0 (List.replicate aeadNonceSize 0) [] →
      Pipe P key l cs fs u → Pipe P key l cs (f :: fs) u

theorem Pipe.of_le {l l' u : Nat} {cs : List Bytes} {fs : List Sent} (h : Pipe P key l cs fs u) (hl : l' ≤ l) :
    Pipe P key l' cs fs u := by
  induction h with
  | nil hu => exact .nil (Nat.le_trans hl hu)
  | content hf hlt hrest _ => exact .content hf (Nat.lt_of_le_of_lt hl hlt) hrest
  | error hf _ ih => exact .error hf (ih hl)

/-- The chunks that answer a request. -/
def Answer (files : McuFiles) (path : Bytes) (cs : List Bytes) : Prop :=
  cs = [] ∨ ∃ file, files path = some file ∧ cs = [file, []]

/-! ### On the MCU -/

theorem Format.encode_length (hF : Format P host) (c : Bytes) (hc : c.length < 128) :
    (P.pbEncode (.fileReadResponse c)).length = if c = [] then 0 else c.length + 2 := by
  rw [hF.encode]
  unfold Proto.octetsField
  split
  · rfl
  · exact Proto.encode_octets_length (by decide) hc

/-- No chunk of a longer file fits, and none ends it. -/
theorem readLoop_long (hF : Format P host) {file : Bytes} (hfile : files path = some file) (timedOut : Nat → Bool)
    (chunks : List Nat) (offset : Nat) {m : Mcu} (hm : m.InSession)
    (hlong : offset + 64 * chunks.length < file.length) :
    m.fileSystemReadLoop P (files.hal timedOut) path chunks offset = m := by
  induction chunks generalizing offset with
  | nil => rfl
  | cons chunk chunks ih =>
    rw [List.length_cons] at hlong
    have hchunk : ((file.drop offset).take 64).length = 64 := by
      rw [List.length_take, List.length_drop]
      omega
    have hread : (files.hal timedOut).readFileChunk path offset = some ((file.drop offset).take 64, true) := by
      show (files path).map _ = _
      rw [hfile, Option.map_some, decide_eq_true (by omega)]
    have hsend : m.send P .fileReadResp 0 (.fileReadResponse (((file.drop offset).take 64).take 64)) = (m, false) := by
      refine hm.send_oversized (by decide) ?_
      rw [List.take_take, Nat.min_self, hF.encode_length _ (by omega),
        if_neg (by rw [← List.length_eq_zero_iff]; omega),
        hchunk]
      decide
    unfold Mcu.fileSystemReadLoop
    split
    · rfl
    · rw [hread]
      dsimp only
      rw [hsend, Bool.not_true, if_neg (by simp), hchunk]
      exact ih (offset + 64) (by omega)

/-- `t` is `m` after it has written an answer. -/
def Answered (P : Platform) (files : McuFiles) (path : Bytes) (m t : Mcu) : Prop :=
  ∃ cs fs, Answer files path cs ∧ t.InSession ∧ t.sessionKey = m.sessionKey ∧ t.wire = m.wire ++ fs ∧
    Pipe P m.sessionKey m.txNonceCounter.toNat cs fs t.txNonceCounter.toNat

theorem Answered.quiet {m : Mcu} (hm : m.InSession) : Answered P files path m m :=
  ⟨[], [], .inl rfl, hm, rfl, (List.append_nil _).symm, .nil (Nat.le_refl _)⟩

/-- The status of an error goes out unsealed. -/
theorem error_answered (hP : P.SealsFrames) {m : Mcu} (hm : m.InSession) :
    Answered P files path m (m.sendFrame P Status.error.toUnderlying 0 []).1 := by
  have hd : m.doEncrypt Status.error.toUnderlying = false := by
    rw [hm.doEncrypt]
    decide
  have hsend : (m.sendFrame P Status.error.toUnderlying 0 []).1 =
      m.transmit P Status.error.toUnderlying 0 [] none := by
    unfold Mcu.sendFrame
    rw [show isSystemCommand Status.error.toUnderlying = true by decide, Bool.not_true, Bool.and_false,
      if_neg (by simp), if_neg (by decide)]
  rw [hsend, Mcu.transmit_plain hP hd (by decide) none]
  exact ⟨[], _, .inl rfl, ⟨hm.synchronized, hm.secret, hm.key⟩, rfl, rfl, .error rfl (.nil (Nat.le_refl _))⟩

/-- A file that fits a frame goes out sealed, and the empty chunk behind it. -/
theorem content_answered (hP : P.SealsFrames) (hF : Format P host) {m : Mcu} (hm : m.InSession)
    (hroom : m.txNonceCounter.toNat + 2 < 2 ^ 64) {file : Bytes} (hfile : files path = some file)
    (hshort : file.length ≤ 62) :
    Answered P files path m ((m.send P .fileReadResp 0 (.fileReadResponse file)).1.send P .fileReadResp 0
      (.fileReadResponse [])).1 := by
  have hfits : ∀ c : Bytes, c.length ≤ 62 → (P.pbEncode (.fileReadResponse c)).length ≤ maxPayloadSize := by
    intro c hc
    rw [hF.encode_length c (by omega)]
    unfold maxPayloadSize
    split <;> omega
  obtain ⟨f, hf, hsent⟩ := hm.send_sealed hP 0 (c := .fileReadResp) (by decide) (by decide) (hfits file hshort)
  have hm₁ : (m.send P .fileReadResp 0 (.fileReadResponse file)).1.InSession := by
    rw [hsent]
    exact ⟨hm.synchronized, hm.secret, hm.key⟩
  obtain ⟨g, hg, hsent'⟩ := hm₁.send_sealed hP 0 (c := .fileReadResp) (by decide) (by decide)
    (hfits [] (by decide))
  rw [hsent', hsent]
  rw [hsent] at hg
  have hone : (m.txNonceCounter + 1).toNat = m.txNonceCounter.toNat + 1 := by
    rw [UInt64.toNat_add]
    exact Nat.mod_eq_of_lt (by change m.txNonceCounter.toNat + 1 < 2 ^ 64; omega)
  have htwo : (m.txNonceCounter + 1 + 1).toNat = m.txNonceCounter.toNat + 2 := by
    rw [UInt64.toNat_add, hone]
    exact Nat.mod_eq_of_lt (by change m.txNonceCounter.toNat + 1 + 1 < 2 ^ 64; omega)
  refine ⟨[file, []], [f, g], .inr ⟨file, hfile, rfl⟩, ⟨hm.synchronized, hm.secret, hm.key⟩, rfl, ?_, ?_⟩
  · exact List.append_assoc ..
  · refine .content hf (by omega) (.content hg ?_ (.nil (Nat.le_refl _)))
    show (m.txNonceCounter + 1).toNat < (m.txNonceCounter + 1 + 1).toNat
    omega

theorem fileSystemOnRead_answer (hP : P.SealsFrames) (hF : Format P host) (timedOut : Nat → Bool) {m : Mcu}
    (hm : m.InSession) (hroom : m.txNonceCounter.toNat + 2 < 2 ^ 64) (hread : ∀ file ∈ files path, Readable file) :
    Answered P files path m (m.fileSystemOnRead P (files.hal timedOut) path) := by
  by_cases hlong : ∃ file, files path = some file ∧ 64 * fileMaxReadChunks < file.length
  · obtain ⟨file, hfile, hlen⟩ := hlong
    have hquiet : m.fileSystemOnRead P (files.hal timedOut) path = m := by
      refine readLoop_long hF hfile timedOut _ 0 hm ?_
      rw [List.length_range]
      omega
    rw [hquiet]
    exact .quiet hm
  unfold Mcu.fileSystemOnRead
  rw [show List.range fileMaxReadChunks = 0 :: (List.range 255).map (· + 1) from List.range_succ_eq_map]
  unfold Mcu.fileSystemReadLoop
  split
  · exact .quiet hm
  cases hfile : files path with
  | none =>
    have hnone : (files.hal timedOut).readFileChunk path 0 = none := by
      show (files path).map _ = _
      rw [hfile, Option.map_none]
    rw [hnone]
    exact error_answered hP hm
  | some file =>
    have hshort : file.length ≤ 62 := by
      obtain h | h := hread file hfile
      · exact h
      · exact absurd ⟨file, hfile, h⟩ hlong
    have hchunk : (file.drop 0).take 64 = file := by
      rw [List.drop_zero]
      exact List.take_of_length_le (by omega)
    have hsome : (files.hal timedOut).readFileChunk path 0 = some (file, false) := by
      show (files path).map _ = _
      rw [hfile, Option.map_some, hchunk, decide_eq_false (by omega)]
    rw [hsome]
    dsimp only
    rw [List.take_of_length_le (by omega : file.length ≤ 64), Bool.not_false, if_pos rfl]
    exact content_answered hP hF hm hroom hfile hshort

/-! ### On the daemon -/

theorem deliver_content (random : Nat → UInt32) (hF : Format P host) {d : Link} (hd : d.Synced key) {io : Io}
    {pending : Bool}
    (hio : io.host = { host with mcuReadPending := pending }) {c : Bytes} {seq : UInt16} {counter : UInt64} {f : Sent}
    (hf : SessionFrame P key Command.fileReadResp.toUnderlying seq (P.pbEncode (.fileReadResponse c)) counter f)
    (hlast : d.linkLastNonceCounter < counter.toNat) :
    (d.processPacket P random io f.env).Synced key ∧
      (d.processPacket P random io f.env).linkLastNonceCounter = counter.toNat ∧
      handed P host f.env d (d.processPacket P random io f.env) = some c := by
  have hdec : ∀ h : McuHost, h.parse = host.parse → Link.decodePayload h Command.fileReadResp.toUnderlying
      (.bytes (P.pbEncode (.fileReadResponse c))) = some (.message (.fileReadResponse c)) := by
    intro h hparse
    show (h.parse 27 _).map Payload.message = _
    rw [hparse, hF.parse, Option.map_some]
  have hreg : Daemon.Service.mcuRegistry.lookup Command.fileReadResp.toUnderlying =
      some Daemon.Service.onMcuFileReadResp := rfl
  have hrun := hd.processPacket random hf (by decide) hlast io hreg (hdec io.host (by rw [hio]))
  have ht : (({ d with linkLastNonceCounter := counter.toNat } : Link).correlateFrame io.host
      Command.fileReadResp.toUnderlying.toUInt32 (.bytes (P.pbEncode (.fileReadResponse c)))).Synced key :=
    ⟨hd.synchronized, hd.key, hd.serial⟩
  have hr : Daemon.Service.onMcuFileReadResp io.host (d.serial && io.writes) (.message (.fileReadResponse c))
      d.service =
      some ⟨d.service, [], !io.host.mcuReadPending⟩ := rfl
  obtain ⟨hsync, hcount, hexec⟩ := ht.runHandler (P := P) random hr hd.serial
    Command.fileReadResp.toUnderlying.toUInt32 seq.toUInt32
  rw [← hrun] at hsync hcount hexec
  refine ⟨hsync, hcount, ?_⟩
  unfold handed
  rw [if_neg, hd.sessionKey, hf.opens, Option.bind_some, hdec host rfl]
  rw [not_or, hexec, hf.command, not_not]
  exact ⟨Nat.succ_ne_self _, rfl⟩

theorem deliver_error (random : Nat → UInt32) (host : McuHost) {d : Link} (hd : d.Synced key) (io : Io) {f : Sent}
    (hf : f.env = Mcu.rawEnvelope Status.error.toUnderlying 0 (List.replicate aeadNonceSize 0) []) :
    (d.processPacket P random io f.env).Synced key ∧
      (d.processPacket P random io f.env).linkLastNonceCounter = d.linkLastNonceCounter ∧
      handed P host f.env d (d.processPacket P random io f.env) = none := by
  have hid : f.env.commandId = Status.error.toUnderlying.toUInt32 := by rw [hf]; rfl
  have hplain : f.env.payloadType = .encryptedPayloadWithTag [] := by rw [hf]; rfl
  have hreg : Daemon.Service.mcuRegistry.lookup Status.error.toUnderlying =
      some (Daemon.Service.handleMcuStatus .error) := rfl
  have hdec : Link.decodePayload io.host Status.error.toUnderlying (Daemon.parseFrame.plain f.env.payloadType) =
      some (.bytes []) := by
    rw [hplain]
    rfl
  have hrun := hd.processPacket_system (P := P) random (by rw [hf]; rfl) hid (by decide) (by decide) (by decide) io hreg
    hdec
  have ht : (d.correlateFrame io.host Status.error.toUnderlying.toUInt32
      (Daemon.parseFrame.plain f.env.payloadType)).Synced key := ⟨hd.synchronized, hd.key, hd.serial⟩
  have hr : Daemon.Service.handleMcuStatus .error io.host (d.serial && io.writes) (.bytes []) d.service =
      some ⟨_, [], false⟩ := rfl
  obtain ⟨hsync, hcount, -⟩ := ht.runHandler (P := P) random hr hd.serial Status.error.toUnderlying.toUInt32
    f.env.sequenceId
  rw [← hrun] at hsync hcount
  refine ⟨hsync, hcount, ?_⟩
  unfold handed
  rw [if_pos]
  rw [hid]
  exact .inr (by decide)

/-! ### The invariant -/

/-- Where the answers to the running request are: not asked for yet, or `cs` on the line and the rest handled. -/
def Progress (files : McuFiles) (s : FileReads) (cs : List Bytes) : Prop :=
  (∃ path, s.toMcu = [path] ∧ s.toDaemon = [] ∧
    (s.reader.current = none ∨ s.reader.current = some path ∧ s.reader.pending = some {})) ∨
  (s.toMcu = [] ∧ (s.reader.current = none ∨ ∃ path before, s.reader.current = some path ∧
    s.reader.pending = some (before.foldl PendingMcuRead.onContent {}) ∧ Answer files path (before ++ cs)))

structure Inv (P : Platform) (files : McuFiles) (key : Bytes) (s : FileReads) : Prop where
  mcu : s.mcu.InSession
  sessionKey : s.mcu.sessionKey = key
  link : s.link.Synced key
  idle : s.reader.current = none → s.reader.pending = none
  progress : ∃ cs, Pipe P key s.link.linkLastNonceCounter cs s.toDaemon s.mcu.txNonceCounter.toNat ∧ Progress files s cs
  faithful : Faithful files s

variable {s : FileReads}

theorem Faithful.ended_append (h : Faithful files s) {t : FileReads} {o : ReadOutcome}
    (ht : t.reader.ended = s.reader.ended ++ [(path, o)])
    (ho : o = .dispatchFailed ∨ o = .timedOut ∨ ∃ file, files path = some file ∧ o = .content file) :
    Faithful files t := by
  intro x hx
  rw [ht, List.mem_append, List.mem_singleton] at hx
  obtain hx | rfl := hx
  · exact h x hx
  · exact ho

/-- With nothing on its way to the MCU and no request running, it does not matter what is still to be delivered. -/
theorem Progress.idle {cs : List Bytes} (h : Progress files s cs) {t : FileReads} (hm : t.toMcu = s.toMcu)
    (hd : t.toDaemon = s.toDaemon) (hcur : t.reader.current = none) : Progress files t cs := by
  obtain ⟨path, htoMcu, htoDaemon, -⟩ | ⟨htoMcu, -⟩ := h
  · exact .inl ⟨path, hm.trans htoMcu, hd.trans htoDaemon, .inl hcur⟩
  · exact .inr ⟨hm.trans htoMcu, .inl hcur⟩

theorem Inv.begin (hP : P.SealsFrames) (h : Inv P files key s) (writes : Bool)
    (hC : Regular P files s (.begin writes)) : Inv P files key (step P random host files (.begin writes) s) := by
  simp only [FileReads.step]
  split
  case h_2 => exact h
  case h_1 path hnext =>
    obtain ⟨htoMcu, htoDaemon, hlen, hcount⟩ := hC path hnext
    have hkey : key.length = 32 := by
      rw [← h.sessionKey]
      exact h.mcu.key
    have hcur : s.reader.current = none := by
      unfold McuFileReader.next at hnext
      split at hnext
      case isTrue hidle => simpa using hidle
      case isFalse => cases hnext
    have hsame : Link.SameSession s.link (s.link.sendRaw P random writes Command.fileRead.toUnderlying
        (.message (.fileRead path)) none none).1 := Link.sendRaw_same ..
    have hne := h.link.sendRaw_ne_raised random hP hkey
      (show isSystemCommand Command.fileRead.toUnderlying = false by decide) hlen hcount writes none none
    have hlink := h.link.of_same hsame
    obtain ⟨cs, hpipe, -⟩ := h.progress
    rw [htoDaemon] at hpipe
    have hempty : cs = [] := by
      cases hpipe
      rfl
    rw [hempty] at hpipe
    generalize s.link.sendRaw P random writes Command.fileRead.toUnderlying (.message (.fileRead path)) none none = r
      at hsame hne hlink ⊢
    have hpipe' : Pipe P key r.1.linkLastNonceCounter [] [] s.mcu.txNonceCounter.toNat := by
      rw [hsame.last]
      exact hpipe
    cases hr : r.2 with
    | sent =>
      refine ⟨h.mcu, h.sessionKey, hlink, nofun,
        ⟨[], by rw [htoDaemon]; exact hpipe', .inl ⟨path, ?_, htoDaemon, .inr ⟨rfl, rfl⟩⟩⟩,
        h.faithful⟩
      rw [if_pos rfl, htoMcu]
      rfl
    | failed =>
      refine ⟨h.mcu, h.sessionKey, hlink, fun _ => rfl, ⟨[], by rw [htoDaemon]; exact hpipe', .inr ⟨htoMcu, .inl rfl⟩⟩,
        h.faithful.ended_append (t := ⟨_, _, _, _, _⟩) rfl (.inl rfl)⟩
    | raised => exact absurd hr hne

theorem Inv.mcuReads (hP : P.SealsFrames) (hF : Format P host) (h : Inv P files key s) (timedOut : Nat → Bool)
    (hC : Regular P files s (.mcuReads timedOut)) :
    Inv P files key (step P random host files (.mcuReads timedOut) s) := by
  simp only [FileReads.step]
  split
  case h_2 => exact h
  case h_1 path rest htoMcu =>
    obtain ⟨hroom, hread⟩ := hC
    rw [htoMcu] at hread
    obtain ⟨cs, fs, hanswer, hm, hkey, hwire, hpipe⟩ :=
      fileSystemOnRead_answer hP hF timedOut h.mcu hroom (hread path rfl)
    obtain ⟨cs', hpipe', hprogress⟩ := h.progress
    obtain ⟨path', htoMcu', htoDaemon, hreader⟩ | ⟨hnone, -⟩ := hprogress
    case inr => cases htoMcu.symm.trans hnone
    obtain ⟨rfl, rfl⟩ := List.cons.inj (htoMcu.symm.trans htoMcu')
    rw [htoDaemon] at hpipe'
    have hle : s.link.linkLastNonceCounter ≤ s.mcu.txNonceCounter.toNat := by
      cases hpipe' with
      | nil hu => exact hu
    have hwritten : s.toDaemon ++ Net.written s.mcu.wire
        (s.mcu.fileSystemOnRead P (files.hal timedOut) path).wire = fs := by
      rw [htoDaemon, hwire, Net.written, List.drop_left, List.nil_append]
    rw [h.sessionKey] at hpipe
    refine ⟨hm, hkey.trans h.sessionKey, h.link, h.idle, ⟨cs, ?_, .inr ⟨rfl, ?_⟩⟩, h.faithful⟩
    · dsimp only
      rw [hwritten]
      exact hpipe.of_le hle
    · obtain hcur | ⟨hcur, hpending⟩ := hreader
      · exact .inl hcur
      · exact .inr ⟨path, [], hcur, hpending, hanswer⟩

theorem Inv.deliver (hF : Format P host) (h : Inv P files key s) (writes throttled : Bool) :
    Inv P files key (step P random host files (.deliver writes throttled) s) := by
  simp only [FileReads.step]
  split
  case h_2 => exact h
  case h_1 f rest htoDaemon =>
    obtain ⟨cs, hpipe, hprogress⟩ := h.progress
    rw [htoDaemon] at hpipe
    obtain ⟨path, -, hnone, -⟩ | ⟨htoMcu, hreader⟩ := hprogress
    case inl => cases htoDaemon.symm.trans hnone
    cases hpipe with
    | @content _ _ c cs _ _ seq counter hf hlt hrest =>
      obtain ⟨hlink, hlast, hhanded⟩ := deliver_content random hF h.link
        (show (s.io host writes throttled).host = _ from rfl) hf hlt
      rw [hhanded]
      dsimp only
      refine ⟨h.mcu, h.sessionKey, hlink, fun hcur => ?_, ⟨cs, ?_, .inr ⟨htoMcu, ?_⟩⟩, h.faithful⟩
      · show s.reader.pending.map _ = none
        rw [h.idle hcur, Option.map_none]
      · dsimp only
        rw [hlast]
        exact hrest
      · obtain hcur | ⟨path, before, hcur, hpending, hanswer⟩ := hreader
        · exact .inl hcur
        · refine .inr ⟨path, before ++ [c], hcur, ?_, ?_⟩
          · show s.reader.pending.map _ = _
            rw [hpending, Option.map_some, List.foldl_append]
            rfl
          · rw [List.append_assoc]
            exact hanswer
    | error hf hrest =>
      obtain ⟨hlink, hlast, hhanded⟩ := deliver_error random host h.link
        (s.io host writes throttled) hf
      rw [hhanded]
      dsimp only
      refine ⟨h.mcu, h.sessionKey, hlink, h.idle, ⟨cs, ?_, .inr ⟨htoMcu, hreader⟩⟩, h.faithful⟩
      dsimp only
      rw [hlast]
      exact hrest

theorem Inv.completes (h : Inv P files key s) : Inv P files key (step P random host files .completes s) := by
  simp only [FileReads.step, McuFileReader.completes]
  split
  case h_2 => exact h
  case h_1 path b hcur hfuture =>
    obtain ⟨cs, hpipe, hprogress⟩ := h.progress
    refine ⟨h.mcu, h.sessionKey, h.link, fun _ => rfl, ⟨cs, hpipe, hprogress.idle rfl rfl rfl⟩,
      h.faithful.ended_append (t := ⟨_, _, _, _, _⟩) rfl (.inr (.inr ?_))⟩
    obtain ⟨path', -, -, hreader⟩ | ⟨-, hreader⟩ := hprogress
    · -- nothing has been handled yet
      obtain hnone | ⟨-, hpending⟩ := hreader
      · cases hcur.symm.trans hnone
      · rw [hpending] at hfuture
        cases hfuture
    · obtain hnone | ⟨path', before, hcur', hpending, hanswer⟩ := hreader
      · cases hcur.symm.trans hnone
      cases hcur.symm.trans hcur'
      rw [hpending, Option.bind_some] at hfuture
      obtain hnil | ⟨file, hfile, heq⟩ := hanswer
      · rw [(List.append_eq_nil_iff.1 hnil).1] at hfuture
        cases hfuture
      · exact ⟨file, hfile, congrArg _ (PendingMcuRead.future_of_prefix ⟨cs, heq⟩ hfuture)⟩

theorem Inv.timeout (h : Inv P files key s) : Inv P files key (step P random host files .timeout s) := by
  simp only [FileReads.step, McuFileReader.timeout]
  split
  case h_2 => exact h
  case h_1 path hcur =>
    obtain ⟨cs, hpipe, hprogress⟩ := h.progress
    exact ⟨h.mcu, h.sessionKey, h.link, fun _ => rfl, ⟨cs, hpipe, hprogress.idle rfl rfl rfl⟩,
      h.faithful.ended_append (t := ⟨_, _, _, _, _⟩) rfl (.inr (.inl rfl))⟩

theorem Inv.step (hP : P.SealsFrames) (hF : Format P host) (s : FileReads) (e : FileReadEvent) (h : Inv P files key s)
    (hC : Regular P files s e) : Inv P files key (step P random host files e s) := by
  cases e with
  | request path => exact ⟨h.mcu, h.sessionKey, h.link, h.idle, h.progress, h.faithful⟩
  | begin writes => exact h.begin hP writes hC
  | mcuReads timedOut => exact h.mcuReads hP hF timedOut hC
  | deliver writes throttled => exact h.deliver hF writes throttled
  | completes => exact h.completes
  | timeout => exact h.timeout

/-- On a session with nothing under way: the requests publish errors or whole files, when all files that are read are
readable. -/
theorem reads_faithful (P : Platform) (random : Nat → UInt32) (host : McuHost) (files : McuFiles) (hP : P.SealsFrames)
    (hF : Format P host) (s : FileReads) (hmcu : s.mcu.InSession) (hlink : s.link.Synced s.mcu.sessionKey)
    (hlast : s.link.linkLastNonceCounter ≤ s.mcu.txNonceCounter.toNat) (hreader : s.reader = {}) (htoMcu : s.toMcu = [])
    (htoDaemon : s.toDaemon = []) (es : List FileReadEvent)
    (hrun : Run.Along (step P random host files) (Regular P files) s es) :
    Faithful files (Run.run (step P random host files) s es) := by
  have hinit : Inv P files s.mcu.sessionKey s := by
    refine ⟨hmcu, rfl, hlink, fun _ => by rw [hreader], ⟨[], ?_, .inr ⟨htoMcu, .inl (by rw [hreader])⟩⟩, ?_⟩
    · rw [htoDaemon]
      exact .nil hlast
    · intro x hx
      rw [hreader] at hx
      cases hx
  exact (hrun.invariant (fun t e h hC => Inv.step hP hF t e h hC) hinit).faithful

/-! ### A session to evaluate runs on -/

def samplePlatform : Platform :=
  { Platform.keyed with
    pbEncode := fun
      | .fileRead path => Proto.encode (Proto.octetsField 1 path)
      | .fileReadResponse content => Proto.encode (Proto.octetsField 1 content)
      | p => Platform.keyed.pbEncode p }

def sampleHost : McuHost :=
  { McuHost.sample with
    parse := fun number b =>
      if number = 27 then (Proto.decode b).map fun fs => .fileReadResponse (Proto.lastOctets 1 fs) else none }

theorem sample_seals : samplePlatform.SealsFrames where
  opens := ⟨Platform.keyed_opens.seals, Platform.keyed_opens.opens⟩
  serializes _ _ _ _ _ _ := rfl

theorem sample_format : Format samplePlatform sampleHost where
  encode _ := rfl
  parse c := by
    show (Proto.decode (Proto.encode (Proto.octetsField 1 c))).map _ = _
    rw [Proto.decode_encode, Option.map_some]
    by_cases hc : c = []
    · subst hc
      rfl
    · simp [Proto.octetsField, Proto.lastOctets, Proto.octetsStep, hc]

/-- A file of 62 bytes, an empty one, and one of 64 bytes. -/
def sampleFiles : McuFiles
  | [1] => some (List.replicate 62 9)
  | [2] => some []
  | [3] => some (List.replicate 64 9)
  | _ => none

def sampleStart : FileReads where
  mcu := Mcu.runFrom samplePlatform [7] true [.recv .sample (some (Mcu.validSync 1))]
  link := { Link.start [7] ⟨200, 5, 5000⟩ 3 (.sample []) with
    serial := true
    state := .synchronized
    linkSessionKey := some (Mcu.runFrom samplePlatform [7] true [.recv .sample (some (Mcu.validSync 1))]).sessionKey }

/-- A request that is answered. -/
def sampleRead (path : Bytes) (answers : Nat) : List FileReadEvent :=
  [.request path, .begin true, .mcuReads fun _ => false] ++ List.replicate answers (.deliver true false) ++ [.completes]

/-- Files of 62 bytes and of none, and a path without a file, whose request times out. -/
theorem reads_faithful_sample :
    (Run.run (step samplePlatform (fun _ => 0) sampleHost sampleFiles) sampleStart
      (sampleRead [1] 2 ++ sampleRead [2] 2 ++ sampleRead [4] 1 ++ [.timeout])).reader.ended =
      [([1], .content (List.replicate 62 9)), ([2], .content []), ([4], .timedOut)] ∧
    Faithful sampleFiles (Run.run (step samplePlatform (fun _ => 0) sampleHost sampleFiles) sampleStart
      (sampleRead [1] 2 ++ sampleRead [2] 2 ++ sampleRead [4] 1 ++ [.timeout])) := by
  refine ⟨by decide +kernel, ?_⟩
  refine reads_faithful samplePlatform (fun _ => 0) sampleHost sampleFiles sample_seals sample_format sampleStart
    ⟨by decide +kernel, by decide +kernel, by decide +kernel⟩ ⟨by decide +kernel, rfl, rfl⟩ (Nat.zero_le _) rfl rfl rfl _
    (by decide +kernel)

/-- Of a file of 64 bytes the request publishes nothing as the content: its chunk does not fit the payload limit as a
message, and `_onRead` sends the empty one behind it. -/
theorem reads_truncated :
    (Run.run (step samplePlatform (fun _ => 0) sampleHost sampleFiles) sampleStart (sampleRead [3] 1)).reader.ended =
      [([3], .content [])] ∧
    sampleFiles [3] = some (List.replicate 64 9) ∧
    ¬ Faithful sampleFiles
      (Run.run (step samplePlatform (fun _ => 0) sampleHost sampleFiles) sampleStart (sampleRead [3] 1)) := by
  have hended : (Run.run (step samplePlatform (fun _ => 0) sampleHost sampleFiles) sampleStart
      (sampleRead [3] 1)).reader.ended = [([3], .content [])] := by decide +kernel
  refine ⟨hended, rfl, fun h => ?_⟩
  obtain h | h | ⟨file, hfile, h⟩ := h ([3], .content []) (by rw [hended]; exact List.mem_singleton_self _)
  · cases h
  · cases h
  · cases h
    cases hfile

end FileReads
end McuBridge
