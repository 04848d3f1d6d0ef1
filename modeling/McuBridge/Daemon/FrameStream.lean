import McuBridge.Daemon.RawSends
import McuBridge.Lib.BufferedStream
import McuBridge.Lib.Framing

/-! # Packets of the serial stream (`transport/serial.py`)

`_read_loop` down to the bytes: `readuntil` looks for the delimiter in what has come so far, however the port cut it
into pieces. A stretch of more than `limit` bytes without a delimiter makes it raise `LimitOverrunError`, and the loop
throws away a block of bytes and starts afresh from there. -/

namespace McuBridge
namespace Daemon
open Framing

/-- `stopEvent` is `_stop_event`, `stopped` says that the loop has ended. `packets` and `kept` are records: what went to
`_process_packet`, and the bytes `readuntil` returned. `serialDecodeErrors` counts those of the loop itself. -/
structure PacketReader where
  stream : BufferedStream UInt8
  packets : List Bytes := []
  kept : Bytes := []
  serialDecodeErrors : Nat := 0
  stopEvent : Bool := false
  stopped : Bool := false

inductive PacketEvent where
  | arrives (data : Bytes)
  | eof
  /-- The loop goes on, if there is something to go on with; `raises` says that `_process_packet` raises an error the
  loop catches. -/
  | turn (raises : Bool)
  | stop

namespace PacketReader

def init : PacketReader := { stream := .empty }

def maxSerialFrameBytes : Nat := 1024

/-- `LimitOverrunError` -/
def overrun (r : PacketReader) : PacketReader :=
  { r with
    stream := r.stream.read maxSerialFrameBytes
    serialDecodeErrors := r.serialDecodeErrors + 1
    stopped := r.stopEvent }

/-- `readuntil` has returned a packet and its delimiter. An empty packet is passed over. -/
def packet (p : Bytes) (raises : Bool) (r : PacketReader) : PacketReader :=
  { r with
    stream := r.stream.read (p.length + 1)
    packets := if p = [] then r.packets else r.packets ++ [p]
    kept := r.kept ++ (p ++ frameDelimiter)
    stopped := r.stopEvent || (raises && p ≠ []) }

/-- `IncompleteReadError` -/
def incomplete (r : PacketReader) : PacketReader :=
  { r with stream := r.stream.read r.stream.buffer.length, stopped := true }

variable (limit : Nat)

/-- One turn of the loop: `readuntil`, with what it finds in the buffer. -/
def turn (raises : Bool) (r : PacketReader) : PacketReader :=
  let p := r.stream.buffer.takeWhile (· ≠ 0)
  if r.stopped then r
  else if limit < p.length then r.overrun
  else if p.length < r.stream.buffer.length then r.packet p raises
  else if r.stream.eof then r.incomplete
  else r

def step : PacketEvent → PacketReader → PacketReader
  | .arrives data, r => { r with stream := r.stream.feed data }
  | .eof, r => { r with stream := r.stream.feedEof }
  | .turn raises, r => r.turn limit raises
  | .stop, r => { r with stopEvent := true }

/-- The loop waits for more bytes. -/
def Waits (r : PacketReader) : Prop := r.stopped = false ∧ 0 ∉ r.stream.buffer

/-! ### What is kept -/

/-- The packets are the pieces of what was kept. An error of the loop costs at most one block of bytes; without one,
nothing that came is missing. -/
structure Framed (r : PacketReader) : Prop where
  packets : r.packets = pieces 0 r.kept
  aligned : r.kept = [] ∨ ∃ xs, r.kept = xs ++ frameDelimiter
  ordered : r.kept.Sublist r.stream.taken
  lost : r.stopped = false → r.stream.taken.length ≤ r.kept.length + maxSerialFrameBytes * r.serialDecodeErrors
  exact : r.serialDecodeErrors = 0 → r.kept <+: r.stream.taken ∧ (r.stopped = false → r.kept = r.stream.taken)

variable {limit} {r : PacketReader} {raises : Bool}

theorem framed_init : init.Framed := ⟨rfl, .inl rfl, List.nil_sublist _, fun _ => Nat.zero_le _,
  fun _ => ⟨List.nil_prefix, fun _ => rfl⟩⟩

/-- Pieces after what was kept are new packets. -/
theorem Framed.pieces_append (h : r.Framed) (ys : Bytes) : pieces 0 (r.kept ++ ys) = r.packets ++ pieces 0 ys := by
  rw [h.packets]
  rcases h.aligned with hnil | ⟨xs, hxs⟩
  · rw [hnil]
    rfl
  · rw [hxs, frameDelimiter, List.append_assoc, List.singleton_append, pieces_append_delimiter]

theorem Framed.overrun (h : r.Framed) (hrun : r.stopped = false) : r.overrun.Framed := by
  refine ⟨h.packets, h.aligned, h.ordered.trans (List.sublist_append_left ..), fun _ => ?_,
    fun hzero => by cases hzero⟩
  have hlost := h.lost hrun
  have hfront := BufferedStream.length_front_le (b := r.stream) maxSerialFrameBytes
  show (r.stream.taken ++ r.stream.front maxSerialFrameBytes).length ≤
    r.kept.length + maxSerialFrameBytes * (r.serialDecodeErrors + 1)
  rw [List.length_append, Nat.mul_succ]
  omega

/-- A packet and its delimiter are the front of the buffer. -/
theorem front_packet (h : (r.stream.buffer.takeWhile (· ≠ 0)).length < r.stream.buffer.length) :
    r.stream.front ((r.stream.buffer.takeWhile (· ≠ 0)).length + 1) =
      r.stream.buffer.takeWhile (· ≠ 0) ++ frameDelimiter := by
  obtain ⟨xs, hxs⟩ := eq_takeWhile_append h
  have htake : ∀ t : Bytes, (t ++ 0 :: xs).take (t.length + 1) = t ++ frameDelimiter := by
    intro t
    simp [List.take_append, frameDelimiter]
  exact (congrArg (List.take _) hxs).trans (htake _)

theorem Framed.packet (h : r.Framed) (hrun : r.stopped = false)
    (hfound : (r.stream.buffer.takeWhile (· ≠ 0)).length < r.stream.buffer.length) :
    (r.packet (r.stream.buffer.takeWhile (· ≠ 0)) raises).Framed := by
  have hpiece := pieces_frame (notMem_takeWhile (d := (0 : UInt8)) r.stream.buffer)
  have hfront := front_packet hfound
  have htaken : (r.packet (r.stream.buffer.takeWhile (· ≠ 0)) raises).stream.taken =
      r.stream.taken ++ (r.stream.buffer.takeWhile (· ≠ 0) ++ frameDelimiter) :=
    congrArg (r.stream.taken ++ ·) hfront
  generalize r.stream.buffer.takeWhile (· ≠ 0) = p at hpiece htaken ⊢
  refine ⟨?_, .inr ⟨r.kept ++ p, (List.append_assoc ..).symm⟩, ?_, fun _ => ?_, fun hzero => ?_⟩
  · show (if p = [] then r.packets else r.packets ++ [p]) = pieces 0 (r.kept ++ (p ++ frameDelimiter))
    rw [h.pieces_append, frameDelimiter, hpiece]
    split
    · rw [List.append_nil]
    · rfl
  · rw [htaken]
    exact h.ordered.append (List.Sublist.refl _)
  · have hlost := h.lost hrun
    rw [htaken]
    show (r.stream.taken ++ _).length ≤ (r.kept ++ _).length + maxSerialFrameBytes * r.serialDecodeErrors
    simp only [List.length_append]
    omega
  · have heq := (h.exact hzero).2 hrun
    rw [htaken]
    show r.kept ++ _ <+: r.stream.taken ++ _ ∧ (_ → r.kept ++ _ = r.stream.taken ++ _)
    rw [heq]
    exact ⟨List.prefix_refl _, fun _ => rfl⟩

theorem Framed.incomplete (h : r.Framed) : r.incomplete.Framed :=
  ⟨h.packets, h.aligned, h.ordered.trans (List.sublist_append_left ..), nofun,
    fun hzero => ⟨(h.exact hzero).1.trans (List.prefix_append ..), nofun⟩⟩

theorem Framed.step (h : r.Framed) (limit : Nat) (e : PacketEvent) : (r.step limit e).Framed := by
  have harrives : ∀ b : BufferedStream UInt8, b.taken = r.stream.taken → ({ r with stream := b } : PacketReader).Framed :=
    fun b hb => ⟨h.packets, h.aligned, hb ▸ h.ordered, hb ▸ h.lost, hb ▸ h.exact⟩
  cases e with
  | arrives data => exact harrives _ (BufferedStream.taken_feed _)
  | eof => exact harrives _ BufferedStream.taken_feedEof
  | stop => exact ⟨h.packets, h.aligned, h.ordered, h.lost, h.exact⟩
  | turn raises =>
    simp only [PacketReader.step, PacketReader.turn]
    split
    · exact h
    case isFalse hrun =>
      rw [Bool.not_eq_true] at hrun
      split
      · exact h.overrun hrun
      · split
        case isTrue hfound => exact h.packet hrun hfound
        case isFalse =>
          split
          · exact h.incomplete
          · exact h

/-- Whatever comes: the packets are the pieces of what `readuntil` returned, in order, and an overrun costs one block at
most. -/
theorem packets_framed (limit : Nat) (es : List PacketEvent) : (Run.run (step limit) init es).Framed :=
  Run.run_invariant (fun _ e h => h.step limit e) framed_init es

/-- A stream without long stretches between delimiters never makes `readuntil` raise. -/
theorem step_errors (hzero : r.serialDecodeErrors = 0) (hfits : Fits 0 limit r.stream.received)
    (e : PacketEvent) : (r.step limit e).serialDecodeErrors = 0 := by
  cases e with
  | turn raises =>
    simp only [PacketReader.step, PacketReader.turn]
    split
    · exact hzero
    · split
      case isTrue hlong =>
        -- the buffer is a stretch of what was received
        have hin : r.stream.buffer.takeWhile (· ≠ 0) <:+: r.stream.received := by
          rw [← r.stream.conserved]
          exact (List.takeWhile_prefix _).isInfix.trans (List.suffix_append ..).isInfix
        exact absurd (hfits _ hin (notMem_takeWhile _)) (Nat.not_le.2 hlong)
      · split
        · exact hzero
        · split
          · exact hzero
          · exact hzero
  | _ => exact hzero

/-- The packets of a stretch that was received are those that went to `_process_packet`, and those still to go. -/
theorem Framed.packets_received (h : r.Framed) (hzero : r.serialDecodeErrors = 0) :
    r.packets <+: pieces 0 r.stream.received ∧ (r.Waits → r.packets = pieces 0 r.stream.received) := by
  obtain ⟨hpre, hexact⟩ := h.exact hzero
  constructor
  · rw [h.packets]
    exact pieces_isPrefix (hpre.trans r.stream.taken_isPrefix)
  · rintro ⟨hrun, hwait⟩
    have hall := h.pieces_append r.stream.buffer
    rw [hexact hrun, r.stream.conserved, pieces_of_notMem hwait, List.append_nil] at hall
    exact hall.symm

theorem received_step (limit : Nat) (e : PacketEvent) (r : PacketReader) :
    r.stream.received <+: (r.step limit e).stream.received := by
  cases e with
  | arrives data =>
    simp only [PacketReader.step, BufferedStream.feed]
    split
    · exact List.prefix_refl _
    · exact List.prefix_append ..
  | eof => exact List.prefix_refl _
  | stop => exact List.prefix_refl _
  | turn raises =>
    simp only [PacketReader.step, PacketReader.turn]
    split
    · exact List.prefix_refl _
    · split
      · exact List.prefix_refl _
      · split
        · exact List.prefix_refl _
        · split <;> exact List.prefix_refl _

theorem run_fits (h : r.Framed) (hzero : r.serialDecodeErrors = 0) {es : List PacketEvent}
    (hfits : Fits 0 limit (Run.run (step limit) r es).stream.received) :
    (Run.run (step limit) r es).Framed ∧ (Run.run (step limit) r es).serialDecodeErrors = 0 := by
  induction es generalizing r with
  | nil => exact ⟨h, hzero⟩
  | cons e es ih =>
    have hgrow : r.stream.received <+: (Run.run (step limit) r (e :: es)).stream.received :=
      Run.run_invariant (I := fun t => r.stream.received <+: t.stream.received)
        (fun t e ht => ht.trans (received_step limit e t)) (List.prefix_refl _) (e :: es)
    exact ih (h.step limit e) (step_errors hzero (hfits.of_isInfix hgrow.isInfix) e) hfits

end PacketReader

open PacketReader

/-- The frames of a peer that starts in the middle of `noise`, however they are cut into pieces on the way: `_read_loop`
hands over what `noise` leaves before its end, then the frames in order, one at a time, and all that have come when it
waits. -/
theorem frames_recovered (limit : Nat) (cobsEncode : Bytes → Bytes)
    (hcobs : ∀ raw, cobsEncode raw ≠ [] ∧ 0 ∉ cobsEncode raw) (noise : Bytes) (hnoise : Fits 0 limit noise)
    (raws : List Bytes) (hraws : ∀ raw ∈ raws, (cobsEncode raw).length ≤ limit) (es : List PacketEvent)
    (hstream : (Run.run (step limit) init es).stream.received <+:
      noise ++ frameDelimiter ++ raws.flatMap fun raw => cobsEncode raw ++ frameDelimiter) :
    (Run.run (step limit) init es).serialDecodeErrors = 0 ∧
    (Run.run (step limit) init es).packets <+: pieces 0 (noise ++ frameDelimiter) ++ raws.map cobsEncode ∧
    ∀ n, (noise ++ frameDelimiter ++ (raws.take n).flatMap fun raw => cobsEncode raw ++ frameDelimiter) <+:
        (Run.run (step limit) init es).stream.received →
      (Run.run (step limit) init es).Waits →
      pieces 0 (noise ++ frameDelimiter) ++ (raws.take n).map cobsEncode <+: (Run.run (step limit) init es).packets := by
  have hpieces : ∀ raws : List Bytes,
      pieces 0 (noise ++ frameDelimiter ++ raws.flatMap fun raw => cobsEncode raw ++ frameDelimiter) =
        pieces 0 (noise ++ frameDelimiter) ++ raws.map cobsEncode := by
    intro raws
    have hframes : pieces 0 ((raws.map cobsEncode).flatMap (· ++ [0])) = raws.map cobsEncode :=
      pieces_frames fun f hf => by
        obtain ⟨raw, -, rfl⟩ := List.mem_map.1 hf
        exact hcobs raw
    rw [List.flatMap_map] at hframes
    rw [frameDelimiter, List.append_assoc, List.singleton_append, pieces_append_delimiter, hframes]
  have hfits : Fits 0 limit (Run.run (step limit) init es).stream.received := by
    refine Fits.of_isInfix ?_ hstream.isInfix
    have hframes : Fits 0 limit ((raws.map cobsEncode).flatMap (· ++ [0])) := fits_frames fun f hf => by
      obtain ⟨raw, hraw, rfl⟩ := List.mem_map.1 hf
      exact hraws raw hraw
    rw [List.flatMap_map] at hframes
    rw [frameDelimiter, List.append_assoc, List.singleton_append]
    exact hnoise.append_delimiter hframes
  obtain ⟨hframed, hzero⟩ := run_fits framed_init rfl hfits
  obtain ⟨hpre, hwaits⟩ := hframed.packets_received hzero
  refine ⟨hzero, ?_, fun n hn hwait => ?_⟩
  · rw [← hpieces]
    exact hpre.trans (pieces_isPrefix hstream)
  · rw [← hpieces, hwaits hwait]
    exact pieces_isPrefix hn

theorem ofNat_length_ne_zero {block : Bytes} (h : block.length ≤ 254) : UInt8.ofNat (block.length + 1) ≠ 0 := by
  intro heq
  have := congrArg UInt8.toNat heq
  rw [UInt8.toNat_ofNat_of_lt' (show block.length + 1 < 2 ^ 8 by omega)] at this
  cases this

theorem zeroFree_append {code : UInt8} {block rest : Bytes} (hcode : code ≠ 0) (hblock : 0 ∉ block) (hrest : 0 ∉ rest) :
    code :: block ++ rest ≠ [] ∧ 0 ∉ code :: block ++ rest := by
  refine ⟨List.cons_ne_nil _ _, fun h => ?_⟩
  rcases List.mem_append.1 h with h | h
  · exact (List.mem_cons.1 h).elim (fun heq => hcode heq.symm) hblock
  · exact hrest h

/-- COBS/R makes non-empty frames without the delimiter. -/
theorem cobsr_zeroFree {block : Bytes} (hlen : block.length ≤ 254) (hblock : 0 ∉ block) (raw : Bytes) :
    RawSends.cobsr block raw ≠ [] ∧ 0 ∉ RawSends.cobsr block raw := by
  induction raw generalizing block with
  | nil =>
    have hcode := ofNat_length_ne_zero hlen
    simp only [RawSends.cobsr]
    split
    · simpa using zeroFree_append hcode hblock List.not_mem_nil
    case isFalse hlast =>
      have hpos : block.getLast?.getD 0 ≠ 0 := by
        intro hzero
        rw [hzero] at hlast
        exact hlast (UInt8.pos_iff_ne_zero.2 hcode)
      simpa using zeroFree_append hpos (fun h => hblock (List.mem_of_mem_dropLast h)) List.not_mem_nil
  | cons b rest ih =>
    have hstart := (ih (show ([] : Bytes).length ≤ 254 from Nat.zero_le _) List.not_mem_nil).2
    simp only [RawSends.cobsr]
    split
    · split
      · exact zeroFree_append (by decide) hblock (zeroFree_append (by decide) List.not_mem_nil hstart).2
      case isFalse hb =>
        exact zeroFree_append (by decide) hblock (ih (show [b].length ≤ 254 by simp) (by simpa using Ne.symm hb)).2
    case isFalse hfull =>
      split
      · exact zeroFree_append (ofNat_length_ne_zero hlen) hblock hstart
      case isFalse hb =>
        refine ih (by rw [List.length_append, List.length_singleton]; omega) ?_
        simpa [hblock] using Ne.symm hb

/-- Two frames after the end of a lost one, in pieces that keep to no boundary. -/
def sampleArrivals : List PacketEvent :=
  [.arrives [9, 9], .turn false, .arrives [0, 7], .turn false, .turn false, .arrives [0, 3, 1], .turn false, .turn false,
    .arrives [1, 0], .turn false]

theorem frames_recovered_sample :
    (Run.run (step 1024) init sampleArrivals).serialDecodeErrors = 0 ∧
    [[9, 9], [7], [3, 1, 1]] <+: (Run.run (step 1024) init sampleArrivals).packets := by
  have h := frames_recovered 1024 (RawSends.cobsr []) (cobsr_zeroFree (Nat.zero_le _) List.not_mem_nil) [9, 9]
    (fits_of_length_le (by decide)) [[7], [1, 1]] (by decide) sampleArrivals (by decide)
  exact ⟨h.1, h.2.2 2 (by decide) ⟨by decide, by decide⟩⟩

end Daemon
end McuBridge
