import McuBridge.Daemon.FrameCodec
import McuBridge.Daemon.LinkSteps

/-! # Concurrent calls of `send_raw` (`transport/serial.py`)

A call of `send_raw` may be suspended at the wait for flow control and at each of its two writes, the encoded frame and
its delimiter; between the first wait and the first write it takes its nonce and builds the frame. No lock is held over
these awaits, so the calls of tracked and untracked sends and of acknowledgements overlap in any order. The wire is intact
as long as no frame overtakes another one there. -/

namespace McuBridge
namespace Daemon

/-- A call of `send_raw` that waits for flow control. -/
structure RawRequest where
  cmd : UInt16
  payload : Payload
  seq : Option UInt32

/-- What `send_raw` calls `build_frame` with. -/
structure BuildArgs where
  commandId : UInt16
  sequenceId : UInt32
  payload : Payload
  nonce : Bytes
  sessionKey : Option Bytes

/-- The key and the nonce `build_frame` encrypts with. A payload that is too long is refused before the encryption; its
nonce counts as used. -/
def BuildArgs.encryption (a : BuildArgs) : Option (Bytes × Bytes) :=
  if encrypts a.commandId a.sessionKey then
    a.sessionKey.map fun key => (key, if a.nonce.isEmpty then List.replicate aeadNonceSize 0 else a.nonce)
  else none

/-- A frame `send_raw` has built. -/
structure RawFrame where
  encoded : Bytes
  nonce : Bytes
  encrypted : Bool
  deriving DecidableEq

def frameDelimiter : Bytes := [0]

namespace RawFrame

/-- A complete frame and its delimiter. -/
def onWire (f : RawFrame) : Bytes := f.encoded ++ frameDelimiter

/-- The nonce counter of an encrypted frame. -/
def counter (f : RawFrame) : Option Nat := if f.encrypted then some (readBe64 (f.nonce.drop 4)).toNat else none

end RawFrame

/-- The calls of `send_raw` by how far they are: waiting for flow control, with a frame to write, with a delimiter to
write. `wire` is what the open port was given; `sent` and `encryptions` are records: the frames whose delimiter it was
given, in that order, and what `build_frame` was called on to encrypt with. -/
structure RawSends where
  link : Link
  waiting : List RawRequest := []
  built : List RawFrame := []
  unterminated : List RawFrame := []
  wire : Bytes := []
  sent : List RawFrame := []
  encryptions : List (Bytes × Bytes) := []

inductive RawEvent where
  | sendRaw (r : RawRequest)
  /-- A call goes on: the port may send, or the wait has timed out. -/
  | build (i : Nat)
  | writeFrame (i : Nat)
  /-- The write of a frame raises, or its call is cancelled. -/
  | dropFrame (i : Nat)
  | writeDelimiter (i : Nat)
  /-- The write of a delimiter raises, or its call is cancelled. -/
  | dropDelimiter (i : Nat)
  /-- The handshake or a disconnect changes the session. -/
  | session (state : LinkState) (key : Option Bytes)
  /-- A new port is opened. -/
  | connect
  | close

namespace RawSends
variable (P : Platform) (C : PyCodec) (cobsEncode : Bytes → Bytes) (random : Nat → UInt32)

def init (link : Link) : RawSends := { link := link }

/-- Sequence id and nonce of a call; it does not get to `build_frame` where `generate_nonce_with_counter` raises. -/
def frameArgs (r : RawRequest) (d : Link) : Link × Option BuildArgs :=
  let (d, seq) := d.nextSequenceId r.seq
  match d.nextNonce random r.cmd with
  | none => (d, none)
  | some (d, nonce) => (d, some ⟨r.cmd, seq, r.payload, nonce, d.sessionKey⟩)

/-- `cobsr.encode(build_frame(..))`; no frame where `build_frame` raises. -/
def buildRaw (a : BuildArgs) : Option RawFrame :=
  (buildFrameBytes P C a.commandId a.sequenceId a.payload a.nonce a.sessionKey).map fun raw =>
    ⟨cobsEncode raw, a.nonce, a.encryption.isSome⟩

def build (i : Nat) (s : RawSends) : RawSends :=
  match s.waiting[i]? with
  | some r =>
    let (d, args) := frameArgs random r s.link
    { s with
      link := d
      waiting := s.waiting.eraseIdx i
      built := s.built ++ (args.bind (buildRaw P C cobsEncode)).toList
      encryptions := s.encryptions ++ (args.bind BuildArgs.encryption).toList }
  | none => s

/-- `serial.write(encoded)`; without a port it raises. -/
def writeFrame (i : Nat) (s : RawSends) : RawSends :=
  match s.built[i]? with
  | some f =>
    let s := { s with built := s.built.eraseIdx i }
    if s.link.serial then { s with unterminated := s.unterminated ++ [f], wire := s.wire ++ f.encoded } else s
  | none => s

/-- `serial.write(FRAME_DELIMITER)`; without a port it raises. -/
def writeDelimiter (i : Nat) (s : RawSends) : RawSends :=
  match s.unterminated[i]? with
  | some f =>
    let s := { s with unterminated := s.unterminated.eraseIdx i }
    if s.link.serial then { s with sent := s.sent ++ [f], wire := s.wire ++ frameDelimiter } else s
  | none => s

def connect (s : RawSends) : RawSends :=
  if s.link.serial then s else { s with link := s.link.connect, wire := [], sent := [] }

def step : RawEvent → RawSends → RawSends
  | .sendRaw r, s => if s.link.serial then { s with waiting := s.waiting ++ [r] } else s
  | .build i, s => s.build P C cobsEncode random i
  | .writeFrame i, s => s.writeFrame i
  | .dropFrame i, s => { s with built := s.built.eraseIdx i }
  | .writeDelimiter i, s => s.writeDelimiter i
  | .dropDelimiter i, s => { s with unterminated := s.unterminated.eraseIdx i }
  | .session state key, s => { s with link := { s.link with state := state, linkSessionKey := key } }
  | .connect, s => s.connect
  | .close, s => { s with link := { s.link with serial := false } }

/-! ### Counters of the frames -/

/-- The counter in a nonce. -/
def nonceCounter (nonce : Bytes) : Nat := (readBe64 (nonce.drop 4)).toNat

variable {P C cobsEncode random}

theorem readBe64_nonce {random : UInt32} {counter new : Nat} {nonce : Bytes}
    (h : generateNonceWithCounter random counter = some (nonce, new)) :
    nonceCounter nonce = new ∧ new = counter + 1 := by
  unfold generateNonceWithCounter at h
  split at h
  · cases h
  case isFalse hlt =>
    cases h
    refine ⟨?_, rfl⟩
    have hfit : counter + 1 < 2 ^ 64 := by
      unfold nonceCounterMask at hlt
      omega
    unfold nonceCounter
    simp only [List.drop_append, List.drop_succ_cons, List.drop_zero, List.drop_nil, List.nil_append, List.length_cons,
      List.length_nil, Nat.zero_add, Nat.sub_self]
    rw [readBe64_be64, UInt64.toNat_ofNat_of_lt' hfit]

theorem nextSequenceId_serial (seq : Option UInt32) (d : Link) : (d.nextSequenceId seq).1.serial = d.serial := by
  cases seq with
  | none => rfl
  | some q => rfl

/-- Only the nonce of an application frame in a session moves the counter. -/
theorem nextNonce_counter {d t : Link} {cmd : UInt16} {nonce : Bytes} (h : d.nextNonce random cmd = some (t, nonce)) :
    t.serial = d.serial ∧ d.linkNonceCounter ≤ t.linkNonceCounter ∧
      (encrypts cmd t.sessionKey = true →
        d.linkNonceCounter < t.linkNonceCounter ∧ nonceCounter nonce = t.linkNonceCounter) := by
  unfold Link.nextNonce at h
  split at h
  case isTrue =>
    obtain ⟨⟨b, c⟩, hgen, heq⟩ := Option.map_eq_some_iff.1 h
    cases heq
    obtain ⟨hread, rfl⟩ := readBe64_nonce hgen
    exact ⟨rfl, Nat.le_succ _, fun _ => ⟨Nat.lt_succ_self _, hread⟩⟩
  case isFalse hplain =>
    cases h
    refine ⟨rfl, Nat.le_refl _, fun henc => absurd ?_ hplain⟩
    unfold encrypts Link.sessionKey at henc
    rw [Bool.and_eq_true] at henc ⊢
    refine ⟨?_, henc.2⟩
    by_contra hsync
    rw [if_neg hsync] at henc
    exact Bool.false_ne_true henc.1

theorem nextNonce_ne_nil {d t : Link} {cmd : UInt16} {nonce : Bytes} (h : d.nextNonce random cmd = some (t, nonce)) :
    nonce.isEmpty = false := by
  unfold Link.nextNonce generateNonceWithCounter at h
  split at h
  · split at h <;> cases h
    rfl
  · cases h
    rfl

/-- A call that gets to `build_frame` to encrypt moves the counter on to the one of its nonce. -/
theorem frameArgs_counter (random : Nat → UInt32) (r : RawRequest) (d : Link) :
    (frameArgs random r d).1.serial = d.serial ∧
    d.linkNonceCounter ≤ (frameArgs random r d).1.linkNonceCounter ∧
    ∀ a ∈ (frameArgs random r d).2, ∀ x ∈ a.encryption, x.2 = a.nonce ∧
      d.linkNonceCounter < nonceCounter x.2 ∧ nonceCounter x.2 = (frameArgs random r d).1.linkNonceCounter := by
  have hserial := nextSequenceId_serial r.seq d
  have hcount := (Link.nextSequenceId_quiet d r.seq).linkNonceCounter
  unfold frameArgs
  generalize d.nextSequenceId r.seq = q at hserial hcount ⊢
  obtain ⟨d', seq⟩ := q
  dsimp only at hserial hcount ⊢
  cases hnonce : d'.nextNonce random r.cmd with
  | none => exact ⟨hserial, hcount.ge, nofun⟩
  | some tn =>
    obtain ⟨t, nonce⟩ := tn
    obtain ⟨hserial', hle, hnew⟩ := nextNonce_counter hnonce
    rw [hcount] at hle hnew
    refine ⟨hserial'.trans hserial, hle, ?_⟩
    rintro a ⟨⟩ x hx
    unfold BuildArgs.encryption at hx
    dsimp only at hx ⊢
    split at hx
    case isTrue henc =>
      obtain ⟨key, -, rfl⟩ := Option.map_eq_some_iff.1 hx
      rw [nextNonce_ne_nil hnonce]
      obtain ⟨hlt, hread⟩ := hnew henc
      exact ⟨rfl, hread.symm ▸ hlt, hread⟩
    case isFalse => cases hx

/-- The counter of a built frame is the one it was encrypted with. -/
theorem buildRaw_counter {a : BuildArgs} {f : RawFrame} (hf : f ∈ buildRaw P C cobsEncode a) {n : Nat}
    (hn : n ∈ f.counter) : ∃ x ∈ a.encryption, nonceCounter a.nonce = n := by
  obtain ⟨raw, -, rfl⟩ := Option.map_eq_some_iff.1 hf
  unfold RawFrame.counter at hn
  dsimp only at hn
  split at hn
  case isTrue henc =>
    obtain ⟨x, hx⟩ := Option.isSome_iff_exists.1 henc
    exact ⟨x, hx, Option.some.inj hn⟩
  case isFalse => cases hn

/-! ### The order on the wire -/

/-- The frames that are on the wire or may still come there. -/
def frames (s : RawSends) : List RawFrame := s.sent ++ (s.unterminated ++ s.built)

/-- No frame overtakes another one: a frame is written only when no other one waits for its delimiter, and an encrypted
one when none that took its nonce before is still to be written; every delimiter is written to the port of its frame. -/
def ordered (s : RawSends) : RawEvent → Bool
  | .writeFrame i => !s.link.serial || (s.unterminated.isEmpty &&
    ((s.built[i]?.bind RawFrame.counter).isNone || (s.built.take i).all fun f => f.counter.isNone))
  | .dropDelimiter _ => !s.link.serial
  | .connect => s.link.serial || s.unterminated.isEmpty
  | _ => true

/-- The invariant of a run in which no frame overtakes another one. -/
structure Intact (s : RawSends) : Prop where
  single : s.unterminated.length ≤ 1
  wire : s.link.serial = true →
    s.wire = s.sent.flatMap RawFrame.onWire ++ s.unterminated.flatMap RawFrame.encoded
  order : (s.frames.filterMap RawFrame.counter).Pairwise (· < ·)
  bound : ∀ n ∈ s.frames.filterMap RawFrame.counter, n ≤ s.link.linkNonceCounter

theorem init_intact (link : Link) : (init link).Intact := by
  refine ⟨Nat.zero_le 1, fun _ => rfl, .nil, fun n hn => ?_⟩
  cases hn

/-- The counters in order on the wire, and none above the link's. -/
theorem Intact.order_of_sublist {s t : RawSends} (h : s.Intact)
    (hsub : (t.frames.filterMap RawFrame.counter).Sublist (s.frames.filterMap RawFrame.counter))
    (hlink : s.link.linkNonceCounter ≤ t.link.linkNonceCounter) :
    (t.frames.filterMap RawFrame.counter).Pairwise (· < ·) ∧
      ∀ n ∈ t.frames.filterMap RawFrame.counter, n ≤ t.link.linkNonceCounter :=
  ⟨h.order.sublist hsub, fun n hn => (h.bound n (hsub.subset hn)).trans hlink⟩

/-- An entry may move to the front without a counter of its own, or where the entries before it have none. -/
theorem filterMap_move {l : List RawFrame} {i : Nat} {f : RawFrame} (hf : l[i]? = some f)
    (h : f.counter = none ∨ ∀ x ∈ l.take i, x.counter = none) :
    ((f :: l.eraseIdx i).filterMap RawFrame.counter).Sublist (l.filterMap RawFrame.counter) := by
  rcases h with h | h
  · rw [List.filterMap_cons_none h]
    exact (List.eraseIdx_sublist l i).filterMap _
  · obtain ⟨hlt, hget⟩ := List.getElem?_eq_some_iff.1 hf
    have hsplit : l = l.take i ++ f :: l.drop (i + 1) := by
      rw [← hget, List.getElem_cons_drop, List.take_append_drop]
    have hnone : (l.take i).filterMap RawFrame.counter = [] := List.filterMap_eq_nil_iff.2 h
    have heq : (f :: l.eraseIdx i).filterMap RawFrame.counter = l.filterMap RawFrame.counter := by
      conv_rhs => rw [hsplit]
      rw [List.eraseIdx_eq_take_drop_succ, ← List.singleton_append, List.filterMap_append, List.filterMap_append, hnone,
        List.nil_append, ← List.filterMap_append, List.singleton_append, List.filterMap_append, hnone, List.nil_append]
    exact heq ▸ List.Sublist.refl _

/-- A frame that has just been built has the highest counter so far. -/
theorem Intact.order_of_append {s t : RawSends} (h : s.Intact) (made : Option RawFrame)
    (hframes : t.frames = s.frames ++ made.toList) (hlink : s.link.linkNonceCounter ≤ t.link.linkNonceCounter)
    (hnew : ∀ f ∈ made, ∀ n ∈ f.counter, s.link.linkNonceCounter < n ∧ n ≤ t.link.linkNonceCounter) :
    (t.frames.filterMap RawFrame.counter).Pairwise (· < ·) ∧
      ∀ n ∈ t.frames.filterMap RawFrame.counter, n ≤ t.link.linkNonceCounter := by
  have hmade : ∀ n ∈ made.toList.filterMap RawFrame.counter,
      s.link.linkNonceCounter < n ∧ n ≤ t.link.linkNonceCounter := by
    intro n hn
    obtain ⟨f, hf, hn⟩ := List.mem_filterMap.1 hn
    exact hnew f (Option.mem_toList.1 hf) n hn
  have hone : (made.toList.filterMap RawFrame.counter).Pairwise (· < ·) := by
    cases made with
    | none => exact .nil
    | some f =>
      rw [Option.toList_some, List.filterMap_cons, List.filterMap_nil]
      cases f.counter with
      | none => exact .nil
      | some n => exact List.pairwise_singleton _ n
  rw [hframes, List.filterMap_append]
  constructor
  · refine List.pairwise_append.2 ⟨h.order, hone, fun m hm n hn => ?_⟩
    exact (h.bound m hm).trans_lt (hmade n hn).1
  · intro n hn
    rcases List.mem_append.1 hn with hn | hn
    · exact (h.bound n hn).trans hlink
    · exact (hmade n hn).2

theorem build_intact {s : RawSends} (h : s.Intact) (i : Nat) : (s.build P C cobsEncode random i).Intact := by
  unfold build
  split
  case h_1 r hr =>
    obtain ⟨hserial, hle, hnew⟩ := frameArgs_counter random r s.link
    generalize frameArgs random r s.link = b at hserial hle hnew ⊢
    obtain ⟨d, args⟩ := b
    dsimp only at hserial hle hnew ⊢
    have horder := h.order_of_append (args.bind (buildRaw P C cobsEncode))
      (t := { s with link := d, waiting := s.waiting.eraseIdx i,
                     built := s.built ++ (args.bind (buildRaw P C cobsEncode)).toList })
      (by simp only [frames, List.append_assoc]) hle (by
        intro f hf n hn
        obtain ⟨a, ha, hf⟩ := Option.bind_eq_some_iff.1 hf
        obtain ⟨x, hx, hcount⟩ := buildRaw_counter hf hn
        obtain ⟨hnonce, hlt, heq⟩ := hnew a ha x hx
        rw [hnonce, hcount] at hlt heq
        exact ⟨hlt, heq.le⟩)
    exact ⟨h.single, fun hopen => h.wire (hserial.symm.trans hopen), horder.1, horder.2⟩
  case h_2 => exact h

theorem writeFrame_intact {s : RawSends} (h : s.Intact) {i : Nat} (hordered : s.ordered (.writeFrame i) = true) :
    (s.writeFrame i).Intact := by
  unfold writeFrame
  split
  case h_1 f hf =>
    dsimp only
    split
    case isTrue hopen =>
      simp only [ordered, hopen, hf, Bool.not_true, Bool.false_or, Bool.and_eq_true, Option.bind_some, Bool.or_eq_true,
        List.isEmpty_iff, Option.isNone_iff_eq_none, List.all_eq_true] at hordered
      obtain ⟨hempty, hfirst⟩ := hordered
      have horder := h.order_of_sublist
        (t := ⟨s.link, s.waiting, s.built.eraseIdx i, [f], s.wire ++ f.encoded, s.sent, s.encryptions⟩)
        (by
          simp only [frames, hempty, List.nil_append, List.singleton_append]
          rw [List.filterMap_append, List.filterMap_append]
          exact (filterMap_move hf hfirst).append_left _)
        (Nat.le_refl _)
      rw [hempty, List.nil_append]
      refine ⟨Nat.le_refl 1, fun _ => ?_, horder.1, horder.2⟩
      rw [h.wire hopen, hempty]
      simp
    case isFalse hclosed =>
      have horder := h.order_of_sublist (t := { s with built := s.built.eraseIdx i })
        ((((List.eraseIdx_sublist s.built i).append_left _).append_left _).filterMap _) (Nat.le_refl _)
      exact ⟨h.single, fun hopen => absurd hopen hclosed, horder.1, horder.2⟩
  case h_2 => exact h

theorem writeDelimiter_intact {s : RawSends} (h : s.Intact) (i : Nat) : (s.writeDelimiter i).Intact := by
  unfold writeDelimiter
  split
  case h_1 f hf =>
    -- there is only one frame without its delimiter
    have hone : s.unterminated = [f] ∧ i = 0 := by
      obtain ⟨g, hg⟩ : ∃ g, s.unterminated = [g] := by
        refine List.length_eq_one_iff.1 (Nat.le_antisymm h.single ?_)
        exact (Nat.zero_le i).trans_lt (List.getElem?_eq_some_iff.1 hf).1
      rw [hg] at hf ⊢
      cases i with
      | zero => exact ⟨by rw [Option.some.inj hf], rfl⟩
      | succ i => cases hf
    obtain ⟨hone, rfl⟩ := hone
    dsimp only
    rw [hone, List.eraseIdx_cons_zero]
    split
    case isTrue hopen =>
      have horder := h.order_of_sublist
        (t := ⟨s.link, s.waiting, s.built, [], s.wire ++ frameDelimiter, s.sent ++ [f], s.encryptions⟩)
        (by simp only [frames, hone, List.nil_append, List.append_assoc]; exact List.Sublist.refl _) (Nat.le_refl _)
      refine ⟨Nat.zero_le 1, fun _ => ?_, horder.1, horder.2⟩
      rw [h.wire hopen, hone]
      simp [RawFrame.onWire]
    case isFalse hclosed =>
      have horder := h.order_of_sublist (t := { s with unterminated := [] })
        (by
          simp only [frames, hone]
          exact (((List.sublist_append_right [f] s.built).append_left s.sent).filterMap _)) (Nat.le_refl _)
      exact ⟨Nat.zero_le 1, fun hopen => absurd hopen hclosed, horder.1, horder.2⟩
  case h_2 => exact h

theorem step_intact {s : RawSends} (h : s.Intact) {e : RawEvent} (hordered : s.ordered e = true) :
    (step P C cobsEncode random e s).Intact := by
  cases e with
  | sendRaw r =>
    simp only [step]
    split
    · exact ⟨h.single, h.wire, h.order, h.bound⟩
    · exact h
  | build i => exact build_intact h i
  | writeFrame i => exact writeFrame_intact h hordered
  | dropFrame i =>
    have horder := h.order_of_sublist (t := { s with built := s.built.eraseIdx i })
      ((((List.eraseIdx_sublist s.built i).append_left _).append_left _).filterMap _) (Nat.le_refl _)
    exact ⟨h.single, h.wire, horder.1, horder.2⟩
  | writeDelimiter i => exact writeDelimiter_intact h i
  | dropDelimiter i =>
    have hclosed : s.link.serial = false := by rwa [ordered, Bool.not_eq_true'] at hordered
    have horder := h.order_of_sublist (t := { s with unterminated := s.unterminated.eraseIdx i })
      ((((List.eraseIdx_sublist s.unterminated i).append_right _).append_left _).filterMap _) (Nat.le_refl _)
    refine ⟨((List.eraseIdx_sublist _ i).length_le).trans h.single, fun hopen => ?_, horder.1, horder.2⟩
    exact absurd (hclosed.symm.trans hopen) Bool.false_ne_true
  | session state key => exact ⟨h.single, h.wire, h.order, h.bound⟩
  | connect =>
    simp only [step, connect]
    split
    case isTrue => exact h
    case isFalse hclosed =>
      rw [ordered, Bool.or_eq_true, List.isEmpty_iff] at hordered
      have hempty := hordered.resolve_left hclosed
      have horder := h.order_of_sublist (t := { s with link := s.link.connect, wire := [], sent := [] })
        ((List.sublist_append_right s.sent _).filterMap _) (Nat.le_refl _)
      refine ⟨h.single, fun _ => ?_, horder.1, horder.2⟩
      simp [hempty]
  | close =>
    refine ⟨h.single, fun hopen => ?_, h.order, h.bound⟩
    cases hopen

/-- Where no frame overtakes another one, what the port has been given is a sequence of complete frames, each with its
delimiter and the encrypted ones in the order of their counters, but for the delimiter that one call has still to write. -/
theorem wire_intact (P : Platform) (C : PyCodec) (cobsEncode : Bytes → Bytes) (random : Nat → UInt32) (link : Link)
    (es : List RawEvent)
    (h : Run.Along (step P C cobsEncode random) (fun s e => s.ordered e = true) (init link) es) :
    let s := Run.run (step P C cobsEncode random) (init link) es
    (s.link.serial = true →
      s.wire = s.sent.flatMap RawFrame.onWire ++ s.unterminated.flatMap RawFrame.encoded ∧ s.unterminated.length ≤ 1) ∧
    (s.sent.filterMap RawFrame.counter).Pairwise (· < ·) := by
  have hinv : (Run.run (step P C cobsEncode random) (init link) es).Intact :=
    h.invariant (I := Intact) (fun _ _ hs hordered => step_intact hs hordered) (init_intact link)
  refine ⟨fun hopen => ⟨hinv.wire hopen, hinv.single⟩, ?_⟩
  exact hinv.order.sublist ((List.sublist_append_left _ _).filterMap _)

/-- `cobsr.encode`, with the bytes of the current block: a block ends at a zero or with 254 bytes, and the last one gives
its length byte away if its last byte can stand for it. -/
def cobsr (block : Bytes) : Bytes → Bytes
  | [] =>
    let last := block.getLast?.getD 0
    if last < UInt8.ofNat (block.length + 1) then UInt8.ofNat (block.length + 1) :: block else last :: block.dropLast
  | b :: rest =>
    if block.length = 254 then
      255 :: block ++ (if b = 0 then 1 :: cobsr [] rest else cobsr [b] rest)
    else if b = 0 then UInt8.ofNat (block.length + 1) :: block ++ cobsr [] rest
    else cobsr (block ++ [b]) rest

def sampleSession : Link :=
  { sharedSecret := [7], timing := ⟨200, 5, 5000⟩, maxAttempts := 3, service := .sample [], serial := true,
    state := .synchronized, linkSessionKey := some (List.replicate 32 5) }

/-- An acknowledgement of the reader and a console write. -/
def sampleCalls : List RawEvent :=
  [.sendRaw ⟨Status.ack.toUnderlying, .message (.ackPacket ⟨84⟩), some 9⟩,
    .sendRaw ⟨Command.consoleWrite.toUnderlying, .message (.consoleWrite [65]), none⟩]

abbrev sampleStep : RawEvent → RawSends → RawSends := step .keyed sampleCodec (cobsr []) fun _ => 7

/-- Two calls that take turns at their awaits, with all bytes of a frame before those of the next one. -/
theorem wire_intact_sample :
    let s := Run.run sampleStep (init sampleSession)
      (sampleCalls ++ [.build 1, .build 0, .writeFrame 0, .writeDelimiter 0, .writeFrame 0, .writeDelimiter 0])
    (s.link.serial = true →
      s.wire = s.sent.flatMap RawFrame.onWire ++ s.unterminated.flatMap RawFrame.encoded ∧ s.unterminated.length ≤ 1) ∧
    (s.sent.filterMap RawFrame.counter).Pairwise (· < ·) :=
  wire_intact .keyed sampleCodec (cobsr []) (fun _ => 7) sampleSession _ (by decide +kernel)

/-- The acknowledgement's frame comes between the console write and its delimiter: in no order are the bytes two complete
frames. And the second of two console writes overtakes the first: its counter is the higher one. -/
theorem overlapping_writes :
    (let s := Run.run sampleStep (init sampleSession)
      (sampleCalls ++ [.build 1, .build 0, .writeFrame 0, .writeFrame 0, .writeDelimiter 0, .writeDelimiter 0]);
      s.waiting.isEmpty ∧ s.built = [] ∧ s.unterminated = [] ∧ s.sent.length = 2 ∧
      ∀ f ∈ s.sent, ∀ g ∈ s.sent, s.wire ≠ f.onWire ++ g.onWire) ∧
    (let write (b : UInt8) := RawEvent.sendRaw ⟨Command.consoleWrite.toUnderlying, .message (.consoleWrite [b]), none⟩
      let s := Run.run sampleStep (init sampleSession)
        [write 65, write 66, .build 0, .build 0, .writeFrame 1, .writeDelimiter 0, .writeFrame 0, .writeDelimiter 0];
      s.wire = s.sent.flatMap RawFrame.onWire ∧ s.sent.map RawFrame.counter = [some 2, some 1]) := by
  decide +kernel

end RawSends
end Daemon
end McuBridge
