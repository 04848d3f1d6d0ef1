import McuBridge.Daemon.LinkSteps
import McuBridge.Lib.Delivery
import McuBridge.Mcu.EventSteps
import McuBridge.Net.System

/-! # What travels on the line

Every frame of either peer leaves in the clear, with an empty or a zero nonce, or it came out of one
numbered encryption of its sender. `Grows` says so of the frames one event writes; a channel that only
loses frames and delivers them in order keeps the numbers increasing. -/

namespace McuBridge

/-- `env` carries a ciphertext and the tag made for it under key `k` and nonce `n`. The firmware cuts a long
ciphertext off, so `ct` need not be all of it. -/
def RpcEnvelope.SealedUnder (P : Crypto) (k n : Bytes) (env : RpcEnvelope) : Prop :=
  isSystemCommand env.rawCommand = false ∧ env.nonce = n ∧
    ∃ a p c ct tag, P.aeadEncrypt k n a p = some (c, tag) ∧ env.payloadType = .encryptedPayloadWithTag (ct ++ tag)

/-- `f` is in the clear, or one of the sender's encryptions. -/
def Sent.Fits (P : Crypto) (seals : List (Bytes × Bytes)) (f : Sent) : Prop :=
  f.Clear ∨ ∃ i k n, f.sealNo = some i ∧ seals[i]? = some (k, n) ∧ f.env.SealedUnder P k n

/-- The frames `fs` were written while the record of encryptions grew from `seals` to `seals'`. -/
structure Grows (P : Crypto) (seals seals' : List (Bytes × Bytes)) (fs : List Sent) : Prop where
  record : ∃ ks, seals' = seals ++ ks
  fits : ∀ f ∈ fs, f.Fits P seals'
  later : ∀ f ∈ fs, ∀ i ∈ f.sealNo, seals.length ≤ i
  ordered : Ordered Sent.sealNo fs

section Growth
variable {P : Crypto} {seals seals' seals'' : List (Bytes × Bytes)} {fs gs : List Sent} {f : Sent}

theorem getElem?_of_record {i : Nat} {x : Bytes × Bytes} (h : ∃ ks, seals' = seals ++ ks) (hi : seals[i]? = some x) :
    seals'[i]? = some x := by
  obtain ⟨ks, rfl⟩ := h
  rw [List.getElem?_append_left (List.getElem?_eq_some_iff.1 hi).1]
  exact hi

theorem Sent.Fits.mono (hf : f.Fits P seals) (h : ∃ ks, seals' = seals ++ ks) : f.Fits P seals' := by
  rcases hf with hc | ⟨i, k, n, hno, hi, henv⟩
  · exact .inl hc
  · exact .inr ⟨i, k, n, hno, getElem?_of_record h hi, henv⟩

theorem Sent.Fits.lt_length (hf : f.Fits P seals) {i : Nat} (hi : i ∈ f.sealNo) : i < seals.length := by
  rcases hf with hc | ⟨j, k, n, hno, hj, -⟩
  · rw [hc.1] at hi
    cases hi
  · rw [hno] at hi
    cases hi
    exact (List.getElem?_eq_some_iff.1 hj).1

namespace Grows

theorem clear (h : ∀ f ∈ fs, f.Clear) : Grows P seals seals fs where
  record := ⟨[], by simp⟩
  fits f hf := .inl (h f hf)
  later f hf i hi := by
    rw [(h f hf).1] at hi
    cases hi
  ordered := .of_none fun f hf => (h f hf).1

theorem nil : Grows P seals seals [] := clear (by simp)

/-- One encryption, with its frame on the wire or not. -/
theorem encryption {k n : Bytes} {out : Option Sent}
    (h : ∀ f ∈ out, f.sealNo = some seals.length ∧ f.env.SealedUnder P k n) :
    Grows P seals (seals ++ [(k, n)]) out.toList where
  record := ⟨_, rfl⟩
  fits f hf := by
    obtain ⟨hno, henv⟩ := h f (by simpa using hf)
    exact .inr ⟨_, k, n, hno, by simp, henv⟩
  later f hf i hi := by
    rw [(h f (by simpa using hf)).1] at hi
    cases hi
    exact le_refl _
  ordered := by
    cases out with
    | none => exact .nil
    | some f =>
      unfold Ordered
      simp [(h f rfl).1]

theorem trans (h : Grows P seals seals' fs) (h' : Grows P seals' seals'' gs) : Grows P seals seals'' (fs ++ gs) where
  record := by
    obtain ⟨ks, hks⟩ := h.record
    obtain ⟨ks', hks'⟩ := h'.record
    exact ⟨ks ++ ks', by rw [hks', hks, List.append_assoc]⟩
  fits f hf := by
    rcases List.mem_append.1 hf with hf | hf
    · exact (h.fits f hf).mono h'.record
    · exact h'.fits f hf
  later f hf i hi := by
    rcases List.mem_append.1 hf with hf | hf
    · exact h.later f hf i hi
    · have hlater := h'.later f hf i hi
      obtain ⟨ks, hks⟩ := h.record
      rw [hks, List.length_append] at hlater
      omega
  ordered := by
    refine h.ordered.append h'.ordered ?_
    intro a ha b hb i j hi hj
    exact lt_of_lt_of_le ((h.fits a ha).lt_length hi) (h'.later b hb j hj)

end Grows

/-- A peer went from one record of encryptions and frames to another. -/
def Wrote (P : Crypto) (seals : List (Bytes × Bytes)) (wire : List Sent) (seals' : List (Bytes × Bytes))
    (wire' : List Sent) : Prop :=
  ∃ fs, wire' = wire ++ fs ∧ Grows P seals seals' fs

theorem Wrote.refl (wire : List Sent) : Wrote P seals wire seals wire := ⟨[], by simp, .nil⟩

theorem Wrote.trans {wire wire' wire'' : List Sent} (h : Wrote P seals wire seals' wire')
    (h' : Wrote P seals' wire' seals'' wire'') : Wrote P seals wire seals'' wire'' := by
  obtain ⟨fs, hfs, hg⟩ := h
  obtain ⟨gs, hgs, hg'⟩ := h'
  exact ⟨fs ++ gs, by rw [hgs, hfs, List.append_assoc], hg.trans hg'⟩

/-! ### A channel -/

/-- The frames in flight fit the sender's record, in the order of their encryption. -/
structure Channel (P : Crypto) (seals : List (Bytes × Bytes)) (q : List Sent) : Prop where
  fits : ∀ f ∈ q, f.Fits P seals
  ordered : Ordered Sent.sealNo q

/-- A frame sealed under `k` has left the channel, and all that are still in flight were sealed after it. -/
def Passed (seals : List (Bytes × Bytes)) (q : List Sent) (k : Bytes) : Prop :=
  ∃ i n, seals[i]? = some (k, n) ∧ ∀ f ∈ q, ∀ j ∈ f.sealNo, i < j

variable {q r : List Sent} {k : Bytes}

theorem Channel.sublist (h : Channel P seals q) (hr : r.Sublist q) : Channel P seals r :=
  ⟨fun f hf => h.fits f (hr.subset hf), h.ordered.sublist hr⟩

theorem Channel.grow (h : Channel P seals q) (hg : Grows P seals seals' fs) : Channel P seals' (q ++ fs) where
  fits f hf := by
    rcases List.mem_append.1 hf with hf | hf
    · exact (h.fits f hf).mono hg.record
    · exact hg.fits f hf
  ordered := by
    refine h.ordered.append hg.ordered ?_
    intro a ha b hb i j hi hj
    exact lt_of_lt_of_le ((h.fits a ha).lt_length hi) (hg.later b hb j hj)

theorem Passed.sublist (h : Passed seals q k) (hr : r.Sublist q) : Passed seals r k := by
  obtain ⟨i, n, hi, hlt⟩ := h
  exact ⟨i, n, hi, fun f hf => hlt f (hr.subset hf)⟩

theorem Passed.grow (h : Passed seals q k) (hg : Grows P seals seals' fs) : Passed seals' (q ++ fs) k := by
  obtain ⟨i, n, hi, hlt⟩ := h
  refine ⟨i, n, getElem?_of_record hg.record hi, ?_⟩
  intro f hf j hj
  rcases List.mem_append.1 hf with hf | hf
  · exact hlt f hf j hj
  · exact lt_of_lt_of_le (List.getElem?_eq_some_iff.1 hi).1 (hg.later f hf j hj)

/-- The frame at the head was sealed under `k`, and leaves. -/
theorem Channel.passed {i : Nat} {n : Bytes} (h : Channel P seals (f :: q)) (hno : f.sealNo = some i)
    (hi : seals[i]? = some (k, n)) : Passed seals q k :=
  ⟨i, n, hi, fun _ hg _ hj => h.ordered.head_lt hg hno hj⟩

end Growth

/-! ### The firmware -/

namespace Mcu
variable {P : Platform} {l : Label} {s t : Mcu}

theorem SealedFrame.sealedUnder {f : Sent} (h : SealedFrame P s f) :
    f.sealNo = some s.seals.length ∧
      f.env.SealedUnder P.toCrypto s.sessionKey (mcuNonce (s.txNonceCounter + 1)) := by
  obtain ⟨hno, cmd, seq, p, ct, tag, hsys, henc, henv⟩ := h
  rw [henv]
  exact ⟨hno, by rw [rawEnvelope_rawCommand]; exact hsys, rfl, _, _, _, _, tag, henc, rfl⟩

theorem Micro.wrote (h : Micro P l s t) : Wrote P.toCrypto s.seals s.wire t.seals t.wire := by
  have hclear : ∀ f : Sent, f.Clear → Wrote P.toCrypto s.seals s.wire s.seals (s.wire ++ [f]) :=
    fun f hf => ⟨[f], rfl, .clear (by simpa using hf)⟩
  cases h with
  | quiet h =>
    obtain ⟨fs, hfs, hplain⟩ := h.wire
    refine ⟨fs, hfs, ?_⟩
    rw [h.seals]
    exact .clear fun f hf => (hplain f hf).1.1
  | emit h => exact hclear _ h
  | copy h => exact hclear _ h
  | answer h => exact hclear _ h
  | encrypt _ _ hout => exact ⟨_, rfl, .encryption fun f hf => SealedFrame.sealedUnder (hout f hf)⟩
  | _ => exact .refl s.wire

theorem step_wrote (ev : McuEvent) (s : Mcu) :
    Wrote P.toCrypto s.seals s.wire (step P ev s).seals (step P ev s).wire :=
  (step_steps P s ev).invariant (I := fun u => Wrote P.toCrypto s.seals s.wire u.seals u.wire)
    (fun _ _ _ _ hm hu => hu.trans (Micro.wrote hm)) (.refl s.wire)

end Mcu

/-! ### The daemon -/

namespace Daemon
namespace Link
variable {P : Platform} {random : Nat → UInt32} {l : LinkLabel} {d t : Link}

theorem Keyed.not_keyless (hP : P.toCrypto.KeyLength) (h : Keyed P d) : ¬ d.Keyless := by
  rintro ⟨hs, hk⟩
  obtain ⟨n, hn⟩ := h hs
  have hlen := hP d.sharedSecret n hkdfInfoSession
  rw [show P.hkdf d.sharedSecret n hkdfInfoSession = [] from hk _ hn] at hlen
  cases hlen

theorem LinkSealed.sealedUnder {k : Bytes} {f : Sent} (h : LinkSealed P random d k f) :
    f.sealNo = some d.seals.length ∧ f.env.SealedUnder P.toCrypto k (d.nonce random) := by
  obtain ⟨hno, cmd, seq, p, ct, tag, hsys, henc, henv⟩ := h
  rw [henv]
  exact ⟨hno, by rw [RpcEnvelope.rawCommand, toUInt16_toUInt32]; exact hsys, rfl, _, _, _, _, tag, henc, rfl⟩

theorem LinkMicro.wrote (hP : P.toCrypto.KeyLength) (h : LinkMicro P random l d t) (hd : Keyed P d) :
    Wrote P.toCrypto d.seals d.wire t.seals t.wire := by
  cases h with
  | quiet h =>
    refine ⟨[], by simp [h.wire], ?_⟩
    rw [h.seals]
    exact .nil
  | clear hf hn =>
    refine ⟨[_], rfl, .clear ?_⟩
    simpa using ⟨hf, .inr (hn.resolve_right (hd.not_keyless hP))⟩
  | encrypt _ _ _ hout => exact ⟨_, rfl, .encryption fun f hf => LinkSealed.sealedUnder (hout f hf)⟩
  | _ => exact .refl d.wire

theorem steps_wrote {Q : LinkLabel → Prop} (hP : P.toCrypto.KeyLength) (h : Steps (LinkMicro P random) Q d t)
    (hd : Keyed P d) : Keyed P t ∧ Wrote P.toCrypto d.seals d.wire t.seals t.wire :=
  h.invariant (I := fun u => Keyed P u ∧ Wrote P.toCrypto d.seals d.wire u.seals u.wire)
    (fun _ _ _ _ hm hu => ⟨LinkMicro.keyed hm hu.1, hu.2.trans (LinkMicro.wrote hP hm hu.1)⟩) ⟨hd, .refl d.wire⟩

theorem step_wrote (hP : P.toCrypto.KeyLength) (random : Nat → UInt32) (ev : LinkEvent) (hd : Keyed P d) :
    Keyed P (d.step P random ev) ∧
      Wrote P.toCrypto d.seals d.wire (d.step P random ev).seals (d.step P random ev).wire := by
  by_cases hev : ∃ io env, ev = .packet io env
  · obtain ⟨io, env, rfl⟩ := hev
    exact steps_wrote hP (processPacket_steps P random d io env) hd
  · exact steps_wrote hP (step_steps P random d fun io env h => hev ⟨io, env, h⟩) hd

end Link
end Daemon
end McuBridge
