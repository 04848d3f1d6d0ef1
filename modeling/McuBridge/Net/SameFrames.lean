import McuBridge.Net.OneFormat

/-! # Frames that only one program reads as meant

The firmware narrows command and sequence id to 16 bits, fills a short nonce up with zeros and decrypts the encrypted
member without a look at the tag of the union; the daemon takes the ids as they are, asks for 12 bytes of nonce and
follows the oneof, of which `daemon_metrics` is one more member for it. So the wire has aliases of one firmware frame,
and the daemon reads something else or nothing. `same_frames_iff` names the frames on which both agree. -/

namespace McuBridge
open Daemon (PyCodec encrypts)

/-- What is left of the bytes for nanopb, which skips `daemon_metrics` (`FT_IGNORE`). -/
def withoutMetrics (b : Bytes) : Bytes := Proto.withoutField 42 b

/-- The two decoders of one schema: where both read the bytes, they read the same header and nonce, and nanopb finds
the member that Python finds without the `daemon_metrics` fields, with C strings. A bytes member is not put together
from several fields, as a message member is, so Python reads the same one without `daemon_metrics`. -/
structure SameSchema (C : PyCodec) (N : FrameCodec) : Prop where
  crc : N.crc32 = C.crc32
  header : ∀ {b e e'}, N.decodeEnvelope b = some e → C.decode b = some e' → e'.header = e.header ∧ e'.nonce = e.nonce
  member : ∀ {b e e'}, N.decodeEnvelope b = some e → C.decode b = some e' →
    ∃ e₀, C.decode (withoutMetrics b) = some e₀ ∧ e.payloadType = e₀.payloadType.cStrings
  sealed : ∀ {b c e' e₀}, C.decode b = some e' → e'.payloadType = .encryptedPayloadWithTag c →
    C.decode (withoutMetrics b) = some e₀ → e₀.payloadType = .encryptedPayloadWithTag c

/-- The bytes before the CRC. -/
def frameBody (b : Bytes) : Bytes := b.take (b.length - crcTrailerSize)

namespace Mcu

/-- What `_handleReceivedFrame` dispatches: command, sequence id and payload. -/
def readFrame (P : Platform) (N : FrameCodec) (b : Bytes) (s : Mcu) : Option (UInt16 × UInt16 × Payload) :=
  match parseFrame N b with
  | .error _ => none
  | .ok env =>
    if s.doEncrypt env.rawCommand then
      (s.decryptFrame P env).map fun r => (env.rawCommand, env.sequenceId.toUInt16, .bytes r.2)
    else some (env.rawCommand, env.sequenceId.toUInt16, Daemon.parseFrame.plain env.payloadType)

/-- A session is running. -/
structure InSession (s : Mcu) : Prop where
  synchronized : s.isSynchronized = true
  secret : s.sharedSecret ≠ []
  key : s.sessionKey.length = 32

end Mcu

/-- The daemon reads the frame as the firmware does. -/
def SameFrame (P : Platform) (C : PyCodec) (N : FrameCodec) (s : Mcu) (b : Bytes) : Prop :=
  ∀ cmd seq payload, s.readFrame P N b = some (cmd, seq, payload) →
    ∃ f, Daemon.parseFrameBytes P C b (some s.sessionKey) = some f ∧ f.envelope.commandId = cmd.toUInt32 ∧
      f.envelope.sequenceId = seq.toUInt32 ∧ f.payload = payload

/-- The Python runtime reads the bytes too and finds ids of 16 bits; for an application command a whole nonce and the
encrypted member, and for a system command the same payload with and without the `daemon_metrics` fields, up to the
first zero of its strings. -/
def Unambiguous (C : PyCodec) (b : Bytes) : Prop :=
  ∃ e, C.decode (frameBody b) = some e ∧ e.commandId < 65536 ∧ e.sequenceId < 65536 ∧
    if isSystemCommand e.rawCommand then
      (C.decode (withoutMetrics (frameBody b))).map (fun e₀ => Daemon.parseFrame.plain e₀.payloadType.cStrings) =
        some (Daemon.parseFrame.plain e.payloadType)
    else e.nonce.length = aeadNonceSize ∧ e.payloadType.isEncrypted = true

variable {P : Platform} {C : PyCodec} {N : FrameCodec} {s : Mcu} {b : Bytes}

/-! ### Inversions -/

theorem Mcu.InSession.doEncrypt (hs : s.InSession) (cmd : UInt16) : s.doEncrypt cmd = !isSystemCommand cmd := by
  have hsecret : s.sharedSecret.isEmpty = false := by simpa using hs.secret
  simp [Mcu.doEncrypt, hs.synchronized, hsecret]

theorem Mcu.InSession.encrypts (hs : s.InSession) (cmd : UInt16) :
    encrypts cmd (some s.sessionKey) = !isSystemCommand cmd := by
  have hkey : s.sessionKey.isEmpty = false := by
    rw [← Bool.not_eq_true, List.isEmpty_iff]
    intro h
    have hlen := hs.key
    rw [h] at hlen
    cases hlen
  simp [Daemon.encrypts_some, hkey]

theorem Mcu.readFrame_some {cmd seq : UInt16} {payload : Payload} (h : s.readFrame P N b = some (cmd, seq, payload)) :
    ∃ env, parseFrame N b = .ok env ∧ env.rawCommand = cmd ∧ env.sequenceId.toUInt16 = seq ∧
      ((s.doEncrypt cmd = true ∧ ∃ plain, aeadDecryptFrame P s.sessionKey env = some plain ∧ payload = .bytes plain) ∨
        (s.doEncrypt cmd = false ∧ payload = Daemon.parseFrame.plain env.payloadType)) := by
  unfold Mcu.readFrame at h
  split at h
  · cases h
  case h_2 env henv =>
    refine ⟨env, henv, ?_⟩
    split at h
    case isTrue hd =>
      obtain ⟨⟨c, plain⟩, hdec, heq⟩ := Option.map_eq_some_iff.1 h
      cases heq
      rw [Mcu.decryptFrame_eq] at hdec
      obtain ⟨plain', hplain, hc⟩ := Option.bind_eq_some_iff.1 hdec
      obtain ⟨c', -, heq⟩ := Option.map_eq_some_iff.1 hc
      cases heq
      exact ⟨rfl, rfl, .inl ⟨hd, plain, hplain, rfl⟩⟩
    case isFalse hd =>
      cases h
      exact ⟨rfl, rfl, .inr ⟨by simpa using hd, rfl⟩⟩

/-- Behind an accepted CRC both programs decode the same bytes. -/
theorem decodeFrame_of_parseFrame {env : RpcEnvelope} (hcrc : N.crc32 = C.crc32) (h : parseFrame N b = .ok env) :
    Daemon.decodeFrame C b = C.decode (frameBody b) := by
  obtain ⟨hlen, htrailer, -, -⟩ := parseFrame_ok h
  have hdrop : (b.drop (b.length - crcTrailerSize)).length ≤ 4 := by
    rw [List.length_drop]
    unfold crcTrailerSize
    omega
  unfold crcTrailerSize at hlen
  unfold Daemon.decodeFrame
  rw [if_neg (by unfold Daemon.crcSize; omega)]
  dsimp only
  rw [if_neg]
  · rfl
  · rw [not_not, ← hcrc]
    exact htrailer.symm.trans (readLe32_eq hdrop)

/-- The daemon decrypts nothing but a whole nonce and the encrypted member. -/
theorem parseFrame_sealed {e : RpcEnvelope} {key : Bytes} {payload : Payload} (henc : encrypts e.rawCommand (some key) = true)
    (h : Daemon.parseFrame P e (some key) = some payload) :
    e.nonce.length = aeadNonceSize ∧ e.payloadType.isEncrypted = true := by
  rw [Daemon.encrypts_some] at henc
  unfold Daemon.parseFrame at h
  split at h
  · cases h
  dsimp only at h
  rw [if_pos henc] at h
  cases hpay : e.payloadType with
  | encryptedPayloadWithTag c =>
    rw [hpay] at h
    dsimp only at h
    split at h
    · cases h
    case isFalse hfits => exact ⟨by omega, rfl⟩
  | _ =>
    rw [hpay, if_pos (by simp [aeadTagSize])] at h
    cases h

theorem PayloadType.eq_of_isEncrypted {p : PayloadType} (h : p.isEncrypted = true) :
    ∃ c, p = .encryptedPayloadWithTag c := by
  cases p with
  | encryptedPayloadWithTag c => exact ⟨c, rfl⟩
  | _ => cases h

/-- A whole nonce and the encrypted member decrypt alike on both sides. -/
theorem parseFrame_of_aeadDecryptFrame {env e : RpcEnvelope} {key c plain : Bytes} (hever : e.version = protocolVersion)
    (henc : encrypts e.rawCommand (some key) = true) (hid : e.commandId = env.rawCommand.toUInt32)
    (hsid : e.sequenceId = env.sequenceId.toUInt16.toUInt32) (hnonce : e.nonce = env.nonce)
    (hlen : e.nonce.length = aeadNonceSize) (hc : e.payloadType = .encryptedPayloadWithTag c)
    (hmember : env.payloadType = .encryptedPayloadWithTag c) (hplain : aeadDecryptFrame P key env = some plain) :
    Daemon.parseFrame P e (some key) = some (.bytes plain) := by
  unfold aeadDecryptFrame at hplain
  rw [hmember] at hplain
  dsimp only [Platform.encryptedView] at hplain
  split at hplain
  · cases hplain
  case isFalse htag =>
    have hpad : padTo 12 env.nonce = e.nonce := by
      rw [← hnonce]
      exact List.take_left' hlen
    have htaglen : (c.drop (c.length - aeadTagSize)).length = aeadTagSize := by
      rw [List.length_drop]
      omega
    rw [hpad, ← hid, ← hsid] at hplain
    rw [Daemon.parseFrame_encrypted hever henc hlen (by rw [hc, List.take_append_drop]) htaglen, hplain]
    rfl

theorem toUInt32_toUInt16 {n : UInt32} (h : n < 65536) : n.toUInt16.toUInt32 = n := by
  apply UInt32.toNat_inj.1
  rw [UInt16.toNat_toUInt32, UInt32.toNat_toUInt16]
  exact Nat.mod_eq_of_lt (UInt32.lt_iff_toNat_lt.1 h)

theorem toUInt32_lt (n : UInt16) : n.toUInt32 < 65536 := by
  rw [UInt32.lt_iff_toNat_lt, UInt16.toNat_toUInt32]
  exact n.toNat_lt

/-! ### Both directions -/

theorem SameFrame.unambiguous (hC : SameSchema C N) (hs : s.InSession) (h : SameFrame P C N s b) {cmd seq : UInt16}
    {payload : Payload} (hread : s.readFrame P N b = some (cmd, seq, payload)) : Unambiguous C b := by
  obtain ⟨env, henv, hcmd, hseq, hpay⟩ := Mcu.readFrame_some hread
  obtain ⟨f, hf, hfcmd, hfseq, hfpay⟩ := h _ _ _ hread
  obtain ⟨e, he, hparsed⟩ := Option.bind_eq_some_iff.1 hf
  obtain ⟨p, hp, rfl⟩ := Option.map_eq_some_iff.1 hparsed
  rw [decodeFrame_of_parseFrame hC.crc henv] at he
  dsimp only at hfcmd hfseq hfpay
  have hraw : e.rawCommand = cmd := by simp [RpcEnvelope.rawCommand, hfcmd]
  have henc := hs.encrypts e.rawCommand
  refine ⟨e, he, by rw [hfcmd]; exact toUInt32_lt _, by rw [hfseq]; exact toUInt32_lt _, ?_⟩
  cases hsys : isSystemCommand e.rawCommand with
  | true =>
    rw [hsys] at henc
    have hver : e.version = protocolVersion := by
      by_contra hver
      unfold Daemon.parseFrame at hp
      rw [if_pos hver] at hp
      cases hp
    rw [Daemon.parseFrame_plain hver henc] at hp
    obtain ⟨e₀, he₀, hmember⟩ := hC.member (parseFrame_ok henv).2.2.1 he
    rcases hpay with ⟨hd, -⟩ | ⟨-, rfl⟩
    · rw [hs.doEncrypt, ← hraw, hsys] at hd
      cases hd
    · rw [if_pos rfl]
      show (C.decode (withoutMetrics (frameBody b))).map _ = _
      rw [frameBody, he₀, Option.map_some, ← hmember, ← hfpay, ← hp]
  | false =>
    rw [hsys] at henc
    rw [if_neg (by simp)]
    exact parseFrame_sealed henc hp

theorem Unambiguous.sameFrame (hC : SameSchema C N) (hs : s.InSession)
    (h : ∀ r, s.readFrame P N b = some r → Unambiguous C b) : SameFrame P C N s b := by
  intro cmd seq payload hread
  obtain ⟨e, he, hcmd16, hseq16, hsame⟩ := h _ hread
  obtain ⟨env, henv, rfl, rfl, hpay⟩ := Mcu.readFrame_some hread
  obtain ⟨-, -, hbody, hver⟩ := parseFrame_ok henv
  obtain ⟨hheader, hnonce⟩ := hC.header hbody he
  obtain ⟨e₀, he₀, hmember⟩ := hC.member hbody he
  simp only [RpcEnvelope.header, RpcEnvelope.mk.injEq] at hheader
  obtain ⟨hversion, hcmd, hseq, -⟩ := hheader
  have hraw : e.rawCommand = env.rawCommand := congrArg UInt32.toUInt16 hcmd
  have hever : e.version = protocolVersion := hversion.trans hver
  have hid : e.commandId = env.rawCommand.toUInt32 := by
    rw [← hraw]
    exact (toUInt32_toUInt16 hcmd16).symm
  have hsid : e.sequenceId = env.sequenceId.toUInt16.toUInt32 := by
    rw [← hseq]
    exact (toUInt32_toUInt16 hseq16).symm
  refine ⟨⟨e, payload⟩, ?_, hid, hsid, rfl⟩
  rw [Daemon.parseFrameBytes, decodeFrame_of_parseFrame hC.crc henv, he, Option.bind_some]
  rw [hs.doEncrypt] at hpay
  rcases hpay with ⟨hd, plain, hplain, rfl⟩ | ⟨hd, rfl⟩
  · have hsys : isSystemCommand e.rawCommand = false := by simpa [hraw] using hd
    rw [hsys, if_neg (by simp)] at hsame
    obtain ⟨hlen, hactive⟩ := hsame
    obtain ⟨c, hc⟩ := PayloadType.eq_of_isEncrypted hactive
    rw [hC.sealed he hc he₀] at hmember
    have henc : encrypts e.rawCommand (some s.sessionKey) = true := by
      rw [hs.encrypts, hraw]
      exact hd
    rw [parseFrame_of_aeadDecryptFrame hever henc hid hsid hnonce hlen hc hmember hplain]
    rfl
  · have hsys : isSystemCommand e.rawCommand = true := by simpa [hraw] using hd
    rw [hsys, if_pos rfl] at hsame
    have hplain : Daemon.parseFrame.plain env.payloadType = Daemon.parseFrame.plain e.payloadType := by
      have hmap := congrArg (Option.map fun e₀ => Daemon.parseFrame.plain e₀.payloadType.cStrings) he₀
      rw [hmember]
      exact Option.some.inj (hmap.symm.trans hsame)
    rw [Daemon.parseFrame_plain hever (by rw [hs.encrypts, hsys]; rfl), hplain]
    rfl

/-- In every session and for all bytes: the daemon reads the frame the firmware accepts alike exactly when it is
unambiguous. -/
theorem same_frames_iff (P : Platform) (C : PyCodec) (N : FrameCodec) (hC : SameSchema C N) (s : Mcu)
    (hs : s.InSession) (b : Bytes) :
    SameFrame P C N s b ↔ ∀ r, s.readFrame P N b = some r → Unambiguous C b :=
  ⟨fun h _ hr => h.unambiguous hC hs hr, Unambiguous.sameFrame hC hs⟩

/-! ### Frames to evaluate -/

/-- Whatever Python reads, nanopb's decoder of the messages reads too. -/
theorem foldlM_readPython {fs : List Proto.Field} {a p : PayloadType}
    (h : fs.foldlM (readMember Sample.readPython) a = some p) : fs.foldlM (readMember decodeMessage) a = some p := by
  induction fs generalizing a with
  | nil => exact h
  | cons f fs ih =>
    rw [List.foldlM_cons] at h ⊢
    obtain ⟨q, hq, hrest⟩ := Option.bind_eq_some_iff.1 h
    have hstep : readMember decodeMessage a f = some q := by
      unfold readMember at hq ⊢
      split at hq
      · exact hq
      · split_ifs at hq ⊢
        · exact hq
        · exact (Option.filter_eq_some_iff.1 hq).1
        · exact hq
    exact Option.bind_eq_some_iff.2 ⟨q, hstep, ih hrest⟩

/-- Without `daemon_metrics` the same member stays last, unless it was `daemon_metrics`. -/
theorem foldlM_withoutMetrics {fs : List Proto.Field} {a a' p : PayloadType}
    (h : fs.foldlM (readMember Sample.readPython) a = some p) (ha : a' = a ∨ ∃ m, a = .daemonMetrics m) :
    ∃ p', (fs.filter fun f => f.number ≠ 42).foldlM (readMember Sample.readPython) a' = some p' ∧
      (p' = p ∨ ∃ m, p = .daemonMetrics m) := by
  induction fs generalizing a a' with
  | nil =>
    cases h
    exact ⟨a', rfl, ha⟩
  | cons f fs ih =>
    rw [List.foldlM_cons] at h
    obtain ⟨q, hq, hrest⟩ := Option.bind_eq_some_iff.1 h
    by_cases hn : f.number = 42
    · rw [List.filter_cons_of_neg (by simpa using hn)]
      refine ih hrest ?_
      unfold readMember at hq
      split at hq
      · cases hq
        exact ha
      · rw [hn] at hq
        cases hq
        exact .inr ⟨_, rfl⟩
    · rw [List.filter_cons_of_pos (by simpa using hn), List.foldlM_cons]
      have hstep : ∃ q', readMember Sample.readPython a' f = some q' ∧ (q' = q ∨ ∃ m, q = .daemonMetrics m) := by
        unfold readMember at hq ⊢
        split at hq
        · cases hq
          exact ⟨a', rfl, ha⟩
        · split_ifs at hq ⊢
          · exact ⟨q, hq, .inl rfl⟩
          · exact ⟨q, hq, .inl rfl⟩
          · cases hq
            exact ⟨a', rfl, ha⟩
      obtain ⟨q', hq', hqq⟩ := hstep
      obtain ⟨p', hp', hpp⟩ := ih hrest hqq
      exact ⟨p', Option.bind_eq_some_iff.2 ⟨q', hq', hp'⟩, hpp⟩

/-- The fields of a body Python reads, and what it reads without `daemon_metrics`. -/
theorem python_withoutMetrics {b : Bytes} {e : RpcEnvelope} (h : Sample.python.decode b = some e) :
    ∃ e₀, Sample.python.decode (withoutMetrics b) = some e₀ ∧
      decodeEnvelope decodeMessage (withoutMetrics b) = some e₀ ∧ e₀.header = e.header ∧ e₀.nonce = e.nonce ∧
      (e₀.payloadType = e.payloadType ∨ ∃ m, e.payloadType = .daemonMetrics m) := by
  obtain ⟨fs, hfs, hmap⟩ := Option.bind_eq_some_iff.1 h
  obtain ⟨p, hp, rfl⟩ := Option.map_eq_some_iff.1 hmap
  obtain ⟨p', hp', hpp⟩ := foldlM_withoutMetrics hp (.inl rfl)
  have hdec := Proto.decode_withoutField 42 hfs
  have hdecode : ∀ {read}, (fs.filter fun f => f.number ≠ 42).foldlM (readMember read) .notSet = some p' →
      decodeEnvelope read (withoutMetrics b) = some ⟨UInt32.ofNat (Proto.lastUint 1 fs),
        UInt32.ofNat (Proto.lastUint 2 fs), UInt32.ofNat (Proto.lastUint 3 fs), Proto.lastOctets 4 fs, p'⟩ := by
    intro read hread
    unfold decodeEnvelope
    rw [withoutMetrics, hdec, Option.bind_some, hread, Option.map_some, Proto.lastUint_filter (by decide),
      Proto.lastUint_filter (by decide), Proto.lastUint_filter (by decide), Proto.lastOctets_filter (by decide)]
  exact ⟨_, hdecode hp', hdecode (foldlM_readPython hp'), rfl, rfl, hpp⟩

theorem sample_sameSchema : SameSchema Sample.python Sample.firmware.toFrameCodec := by
  have hread : ∀ {b e}, Sample.firmware.decodeEnvelope b = some e →
      ∃ e₁, decodeEnvelope decodeMessage (withoutMetrics b) = some e₁ ∧
        e = { e₁ with payloadType := e₁.payloadType.cStrings } := by
    intro b e h
    obtain ⟨e₁, he₁, rfl⟩ := Option.map_eq_some_iff.1 (Option.filter_eq_some_iff.1 h).1
    exact ⟨e₁, he₁, rfl⟩
  refine ⟨rfl, fun h h' => ?_, fun h h' => ?_, fun h hc h₀ => ?_⟩
  · obtain ⟨e₀, -, he₀, hheader, hnonce, -⟩ := python_withoutMetrics h'
    obtain ⟨e₁, he₁, rfl⟩ := hread h
    obtain rfl := Option.some.inj (he₀.symm.trans he₁)
    exact ⟨hheader.symm, hnonce.symm⟩
  · obtain ⟨e₀, hpy, he₀, -⟩ := python_withoutMetrics h'
    obtain ⟨e₁, he₁, rfl⟩ := hread h
    obtain rfl := Option.some.inj (he₀.symm.trans he₁)
    exact ⟨e₀, hpy, rfl⟩
  · obtain ⟨e₁, hpy, -, -, -, hsame | ⟨m, hm⟩⟩ := python_withoutMetrics h
    · obtain rfl := Option.some.inj (hpy.symm.trans h₀)
      rw [hsame, hc]
    · rw [hm] at hc
      cases hc

theorem framedSession_inSession : framedSession.InSession := ⟨by decide +kernel, by decide +kernel, by decide +kernel⟩

def sampleWrite (cmd seq : UInt32) (p : PayloadType) : Bytes :=
  let body := encodeEnvelope encodeMessage ⟨protocolVersion, cmd, seq, mcuNonce 1, p⟩
  body ++ le32 (Sample.crc32 body)

/-- CONSOLE_WRITE with the sequence id 2, sealed. -/
def unambiguousFrame : Bytes :=
  sampleWrite 96 2 (.encryptedPayloadWithTag (((Platform.framed.aeadEncrypt framedSession.sessionKey (mcuNonce 1)
    (Platform.framed.aad 96 2) [10, 1, 65]).map fun r => r.1 ++ r.2).getD []))

theorem same_frames_iff_sealed :
    framedSession.readFrame .framed Sample.firmware.toFrameCodec unambiguousFrame = some (96, 2, .bytes [10, 1, 65]) ∧
      SameFrame .framed Sample.python Sample.firmware.toFrameCodec framedSession unambiguousFrame := by
  refine ⟨by decide +kernel, (same_frames_iff .framed Sample.python Sample.firmware.toFrameCodec sample_sameSchema framedSession
    framedSession_inSession unambiguousFrame).2 fun _ _ => ?_⟩
  have hdec : (Sample.python.decode (frameBody unambiguousFrame)).any (fun e =>
      decide (e.commandId < 65536 ∧ e.sequenceId < 65536 ∧ isSystemCommand e.rawCommand = false ∧
        e.nonce.length = aeadNonceSize ∧ e.payloadType.isEncrypted = true)) = true := by decide +kernel
  obtain ⟨e, he, hall⟩ := (Option.any_eq_true _ _).1 hdec
  obtain ⟨hcmd, hseq, hsys, hnonce, henc⟩ := of_decide_eq_true hall
  refine ⟨e, he, hcmd, hseq, ?_⟩
  rw [hsys]
  exact ⟨hnonce, henc⟩

/-- XOFF with 65536 added to its id: the firmware takes it for XOFF, the daemon for the command 65614. -/
theorem wide_command_aliased :
    ¬ ∀ (P : Platform) (C : PyCodec) (N : FrameCodec), SameSchema C N → ∀ s : Mcu, s.InSession →
      ∀ b : Bytes, SameFrame P C N s b := by
  intro h
  obtain ⟨f, hf, hcmd, -⟩ := h .framed Sample.python Sample.firmware.toFrameCodec sample_sameSchema framedSession
    framedSession_inSession (sampleWrite 65614 2 .notSet) 78 2 (.bytes []) (by decide +kernel)
  have hid : (Daemon.parseFrameBytes .framed Sample.python (sampleWrite 65614 2 .notSet)
      (some framedSession.sessionKey)).map (fun f => f.envelope.commandId) = some 65614 := by decide +kernel
  rw [hf, Option.map_some, hcmd] at hid
  exact absurd hid (by decide)

end McuBridge
