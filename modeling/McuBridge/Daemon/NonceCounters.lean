import McuBridge.Daemon.Freshness
import McuBridge.Daemon.RawSends

/-! # Nonces of the daemon's encryptions

`link_nonce_counter` is never set back, neither by a handshake nor by a new connection, and between taking a nonce and
`build_frame` there is no await. So every encryption has a counter above all those before it, whatever becomes of its
frame, until the counter has reached `NONCE_COUNTER_MASK` and `generate_nonce_with_counter` raises. -/

namespace McuBridge
namespace Daemon

/-- The frame that is encrypted with the key and the nonce on record, and with nothing where there is no record. -/
def BuildArgs.frame (P : Platform) (a : BuildArgs) : Option RpcEnvelope :=
  let envelope (nonce : Bytes) (p : PayloadType) : RpcEnvelope :=
    ⟨protocolVersion, a.commandId.toUInt32, a.sequenceId, nonce, p⟩
  match a.encryption with
  | some (key, nonce) =>
    if maxPayloadSize < (a.payload.serialize P).length then none
    else (P.aeadEncrypt key nonce (P.aad a.commandId.toUInt32 a.sequenceId) (a.payload.serialize P)).map
      fun (ct, tag) => envelope nonce (.encryptedPayloadWithTag (ct ++ tag))
  | none => buildFrame.plain a.payload (envelope (if a.nonce.isEmpty then List.replicate aeadNonceSize 0 else a.nonce))

theorem BuildArgs.buildFrame_eq (P : Platform) (a : BuildArgs) :
    buildFrame P a.commandId a.sequenceId a.payload a.nonce a.sessionKey = a.frame P := by
  obtain ⟨cmd, seq, payload, nonce, key⟩ := a
  unfold BuildArgs.frame BuildArgs.encryption buildFrame
  cases key with
  | none => rfl
  | some key =>
    dsimp only
    rw [encrypts_some]
    cases (!key.isEmpty && !isSystemCommand cmd) <;> rfl

/-- The counters of the encryptions on record rise, up to the counter of the link, which stays within its bound. -/
structure RisingNonces (encryptions : List (Bytes × Bytes)) (counter : Nat) : Prop where
  rising : encryptions.Pairwise fun a b => RawSends.nonceCounter a.2 < RawSends.nonceCounter b.2
  latest : ∀ x ∈ encryptions, RawSends.nonceCounter x.2 ≤ counter
  bounded : counter ≤ nonceCounterMask

namespace RisingNonces
variable {encryptions : List (Bytes × Bytes)} {c c' : Nat}

theorem mono (h : RisingNonces encryptions c) (hle : c ≤ c') (hbound : c' ≤ nonceCounterMask) :
    RisingNonces encryptions c' :=
  ⟨h.rising, fun x hx => (h.latest x hx).trans hle, hbound⟩

theorem append (h : RisingNonces encryptions c) {x : Bytes × Bytes} (hlt : c < RawSends.nonceCounter x.2)
    (heq : RawSends.nonceCounter x.2 = c') (hbound : c' ≤ nonceCounterMask) :
    RisingNonces (encryptions ++ [x]) c' := by
  refine ⟨List.pairwise_append.2 ⟨h.rising, List.pairwise_singleton _ _, fun y hy z hz => ?_⟩, fun y hy => ?_, hbound⟩
  · rw [List.mem_singleton.1 hz]
    exact (h.latest y hy).trans_lt hlt
  · rcases List.mem_append.1 hy with hy | hy
    · exact (h.latest y hy).trans (hlt.trans_eq heq).le
    · rw [List.mem_singleton.1 hy]
      exact heq.le

/-- The eight bytes of the counter are different in any two of the nonces. -/
theorem nodup (h : RisingNonces encryptions c) : (encryptions.map fun x => x.2.drop 4).Nodup := by
  refine List.pairwise_map.2 (h.rising.imp ?_)
  intro a b hlt heq
  unfold RawSends.nonceCounter at hlt
  rw [heq] at hlt
  exact absurd hlt (Nat.lt_irrefl _)

end RisingNonces

namespace RawSends
variable (P : Platform) (C : PyCodec) (cobsEncode : Bytes → Bytes) (random : Nat → UInt32)

/-- `recorded`: a call writes the frame with the encryption on record, and no other. `unique`: the eight bytes of the
counter differ between any two encryptions. `overflow`: at the limit a call takes no nonce and builds no frame, so it has
nothing to write. -/
structure NonceSafe (link : Link) (es : List RawEvent) : Prop where
  recorded : ∀ a : BuildArgs, (buildRaw P C cobsEncode a).map RawFrame.encoded =
    (a.frame P).map fun e => cobsEncode (C.encode e ++ le32 (C.crc32 (C.encode e)))
  unique : ((Run.run (step P C cobsEncode random) (init link) es).encryptions.map fun x => x.2.drop 4).Nodup
  bounded : (Run.run (step P C cobsEncode random) (init link) es).link.linkNonceCounter ≤ nonceCounterMask
  overflow : ∀ s, s = Run.run (step P C cobsEncode random) (init link) es →
    s.link.linkNonceCounter = nonceCounterMask → s.link.isSynchronized = true →
    ∀ i r, s.waiting[i]? = some r → isSystemCommand r.cmd = false →
      step P C cobsEncode random (.build i) s =
        { s with link := (s.link.nextSequenceId r.seq).1, waiting := s.waiting.eraseIdx i }

variable {P C cobsEncode random} {d t : Link} {r : RawRequest} {s : RawSends}

/-! ### One call -/

theorem buildRaw_encoded (P : Platform) (C : PyCodec) (cobsEncode : Bytes → Bytes) (a : BuildArgs) :
    (buildRaw P C cobsEncode a).map RawFrame.encoded =
      (a.frame P).map fun e => cobsEncode (C.encode e ++ le32 (C.crc32 (C.encode e))) := by
  unfold buildRaw buildFrameBytes
  rw [a.buildFrame_eq, Option.map_map, Option.map_map]
  rfl

theorem nextSequenceId_counter (seq : Option UInt32) (d : Link) :
    (d.nextSequenceId seq).1.linkNonceCounter = d.linkNonceCounter ∧
      (d.nextSequenceId seq).1.isSynchronized = d.isSynchronized := by
  have hq := Link.nextSequenceId_quiet d seq
  exact ⟨hq.linkNonceCounter, hq.isSynchronized⟩

theorem frameArgs_bounded (h : d.linkNonceCounter ≤ nonceCounterMask) :
    (frameArgs random r d).1.linkNonceCounter ≤ nonceCounterMask := by
  have hseq := (nextSequenceId_counter r.seq d).1
  unfold frameArgs
  generalize d.nextSequenceId r.seq = q at hseq ⊢
  obtain ⟨d', seq⟩ := q
  dsimp only at hseq ⊢
  rw [← hseq] at h
  cases hnext : d'.nextNonce random r.cmd with
  | none => exact h
  | some tn =>
    obtain ⟨t, nonce⟩ := tn
    unfold Link.nextNonce at hnext
    split at hnext
    · obtain ⟨⟨b, c⟩, hgen, heq⟩ := Option.map_eq_some_iff.1 hnext
      obtain ⟨hlt, -, rfl⟩ := Link.generateNonce_eq random d' hgen
      cases heq
      exact hlt
    · cases hnext
      exact h

/-- At the limit `generate_nonce_with_counter` raises. -/
theorem frameArgs_overflow (hs : d.isSynchronized = true) (hcmd : isSystemCommand r.cmd = false)
    (hfull : nonceCounterMask ≤ d.linkNonceCounter) :
    frameArgs random r d = ((d.nextSequenceId r.seq).1, none) := by
  obtain ⟨hcount, hsync⟩ := nextSequenceId_counter r.seq d
  unfold frameArgs
  generalize d.nextSequenceId r.seq = q at hcount hsync ⊢
  obtain ⟨d', seq⟩ := q
  dsimp only at hcount hsync ⊢
  have hnone : d'.nextNonce random r.cmd = none := by
    unfold Link.nextNonce generateNonceWithCounter
    rw [hsync, hs, hcmd, hcount, if_pos hfull]
    rfl
  rw [hnone]

/-! ### Runs -/

theorem build_rising (h : RisingNonces s.encryptions s.link.linkNonceCounter) (i : Nat) :
    RisingNonces (s.build P C cobsEncode random i).encryptions
      (s.build P C cobsEncode random i).link.linkNonceCounter := by
  unfold build
  split
  case h_2 => exact h
  case h_1 r hr =>
    obtain ⟨-, hle, hnew⟩ := frameArgs_counter random r s.link
    have hbound : (frameArgs random r s.link).1.linkNonceCounter ≤ nonceCounterMask := frameArgs_bounded h.bounded
    generalize frameArgs random r s.link = b at hle hnew hbound ⊢
    obtain ⟨d, args⟩ := b
    dsimp only at hle hnew hbound ⊢
    cases hmade : args.bind BuildArgs.encryption with
    | none =>
      rw [Option.toList_none, List.append_nil]
      exact h.mono hle hbound
    | some x =>
      obtain ⟨a, ha, hx⟩ := Option.bind_eq_some_iff.1 hmade
      obtain ⟨-, hlt, heq⟩ := hnew a ha x hx
      exact h.append hlt heq hbound

/-- Only `build` takes a nonce. -/
theorem step_rising (s : RawSends) (e : RawEvent) (h : RisingNonces s.encryptions s.link.linkNonceCounter) :
    RisingNonces (step P C cobsEncode random e s).encryptions
      (step P C cobsEncode random e s).link.linkNonceCounter := by
  cases e with
  | build i => exact build_rising h i
  | sendRaw r =>
    simp only [step]
    split <;> exact h
  | writeFrame i =>
    simp only [step, writeFrame]
    split
    · split <;> exact h
    · exact h
  | writeDelimiter i =>
    simp only [step, writeDelimiter]
    split
    · split <;> exact h
    · exact h
  | connect =>
    simp only [step, connect]
    split <;> exact h
  | _ => exact h

/-- On a daemon that was just started, with any calls of `send_raw` at their awaits, any sessions and any ports. -/
theorem nonces_safe (P : Platform) (C : PyCodec) (cobsEncode : Bytes → Bytes) (random : Nat → UInt32) (secret : Bytes)
    (timing : HandshakeConfig) (maxAttempts : Nat) (service : Service) (es : List RawEvent) :
    NonceSafe P C cobsEncode random (Link.start secret timing maxAttempts service) es := by
  have hstart : RisingNonces (init (Link.start secret timing maxAttempts service)).encryptions
      (init (Link.start secret timing maxAttempts service)).link.linkNonceCounter :=
    ⟨.nil, List.forall_mem_nil _, Nat.zero_le _⟩
  have hrising : RisingNonces
      (Run.run (step P C cobsEncode random) (init (Link.start secret timing maxAttempts service)) es).encryptions
      (Run.run (step P C cobsEncode random) (init (Link.start secret timing maxAttempts service)) es).link.linkNonceCounter :=
    Run.run_invariant (I := fun s : RawSends => RisingNonces s.encryptions s.link.linkNonceCounter) step_rising hstart es
  refine ⟨fun a => buildRaw_encoded P C cobsEncode a, hrising.nodup, hrising.bounded, ?_⟩
  rintro s - hfull hs i r hr hcmd
  simp only [step, build]
  rw [hr]
  dsimp only
  rw [frameArgs_overflow hs hcmd hfull.ge]
  simp

/-- Of four console writes the second is too long and the third is not written; a new session comes before
the fourth. -/
example :
    let write (b : Bytes) : RawEvent := .sendRaw ⟨Command.consoleWrite.toUnderlying, .message (.consoleWrite b), none⟩
    let es := [write [65], write (List.replicate 65 66), write [67], .build 2, .build 1, .dropFrame 0,
      .session .connected none, .session .synchronized (some (List.replicate 32 6)), write [68], .build 1, .build 0]
    (Run.run (step .keyed sampleCodec (cobsr []) fun _ => 7) (init sampleSession) es).encryptions.map
      (fun x => (x.1.head?, nonceCounter x.2)) = [(some 5, 1), (some 5, 2), (some 6, 3), (some 6, 4)] := by
  decide +kernel

end RawSends

/-! ### Whole events of the link -/

namespace Link
variable {P : Platform} {random : Nat → UInt32} {l : LinkLabel} {d t : Link}

theorem nonceCounter_nonce (random : Nat → UInt32) (hc : d.linkNonceCounter < nonceCounterMask) :
    RawSends.nonceCounter (d.nonce random) = d.linkNonceCounter + 1 := by
  have hread : readBe64 ((d.nonce random).drop 4) = UInt64.ofNat (d.linkNonceCounter + 1) := readBe64_be64 _
  unfold nonceCounterMask at hc
  rw [RawSends.nonceCounter, hread, UInt64.toNat_ofNat_of_lt']
  simp only [UInt64.size]
  omega

theorem LinkMicro.rising (hm : LinkMicro P random l d t) (h : RisingNonces d.seals d.linkNonceCounter) :
    RisingNonces t.seals t.linkNonceCounter := by
  cases hm with
  | quiet hq =>
    rw [hq.seals, hq.linkNonceCounter]
    exact h
  | bump hc => exact h.mono (Nat.le_succ _) hc
  | encrypt _ _ hc =>
    have hnew := nonceCounter_nonce random hc
    exact h.append (hnew.symm ▸ Nat.lt_succ_self _) hnew hc
  | _ => exact h

theorem step_rising (d : Link) (ev : LinkEvent) (h : RisingNonces d.seals d.linkNonceCounter) :
    RisingNonces (d.step P random ev).seals (d.step P random ev).linkNonceCounter := by
  by_cases hev : ∃ io env, ev = .packet io env
  · obtain ⟨io, env, rfl⟩ := hev
    exact (processPacket_steps P random d io env).invariant
      (I := fun u => RisingNonces u.seals u.linkNonceCounter) (fun _ _ _ _ => LinkMicro.rising) h
  · exact (step_steps P random d fun io env h => hev ⟨io, env, h⟩).invariant
      (I := fun u => RisingNonces u.seals u.linkNonceCounter) (fun _ _ _ _ => LinkMicro.rising) h

/-- With the handshake as it runs on the link: no two encryptions have the same counter, in the same session or not. -/
theorem seals_rising (P : Platform) (random : Nat → UInt32) (secret : Bytes) (timing : HandshakeConfig)
    (maxAttempts : Nat) (service : Service) (es : List LinkEvent) :
    RisingNonces (Run.run (step P random) (start secret timing maxAttempts service) es).seals
      (Run.run (step P random) (start secret timing maxAttempts service) es).linkNonceCounter :=
  Run.run_invariant (I := fun d : Link => RisingNonces d.seals d.linkNonceCounter) (fun d ev h => step_rising d ev h)
    ⟨.nil, List.forall_mem_nil _, Nat.zero_le _⟩ es

end Link
end Daemon
end McuBridge
