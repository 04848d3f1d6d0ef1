import Mathlib.Data.List.Basic
import Mathlib.Algebra.Order.Ring.Nat

/-! # The protocol-buffers wire format

A message is a list of fields, a field a number with a varint or a byte string. `encode` writes the fields one
after the other and `decode` reads them back (`decode_encode`). A proto3 encoder leaves a scalar out when it is zero
(`uintField`, `octetsField`), and a reader takes the last field of a number, or zero (`lastUint`, `lastOctets`). A
reader whose schema lacks a number reads the message as if its fields were not there (`withoutField`). -/

namespace Proto

abbrev Octets := List UInt8

/-! ### Varints -/

def varint (n : Nat) : Octets :=
  if n < 128 then [UInt8.ofNat n] else UInt8.ofNat (n % 128 + 128) :: varint (n / 128)

def readVarint : Octets → Option (Nat × Octets)
  | [] => none
  | b :: rest =>
    if b.toNat < 128 then some (b.toNat, rest)
    else (readVarint rest).map fun r => (b.toNat - 128 + 128 * r.1, r.2)

theorem readVarint_varint (n : Nat) (rest : Octets) : readVarint (varint n ++ rest) = some (n, rest) := by
  induction n using varint.induct with
  | case1 n h =>
    rw [varint, if_pos h, List.singleton_append, readVarint]
    have hb : (UInt8.ofNat n).toNat = n := UInt8.toNat_ofNat_of_lt' (by show n < 256; omega)
    rw [hb, if_pos h]
  | case2 n h ih =>
    rw [varint, if_neg h, List.cons_append, readVarint, ih]
    have hb : (UInt8.ofNat (n % 128 + 128)).toNat = n % 128 + 128 := UInt8.toNat_ofNat_of_lt' (by show _ < 256; omega)
    have hn : n % 128 + 128 - 128 + 128 * (n / 128) = n := by omega
    rw [hb, if_neg (by omega), Option.map_some, hn]

theorem varint_length_pos (n : Nat) : 0 < (varint n).length := by
  rw [varint]
  split <;> simp

/-- Seven bits a byte. -/
theorem varint_length_le {n k : Nat} (h : n < 128 ^ (k + 1)) : (varint n).length ≤ k + 1 := by
  induction k generalizing n with
  | zero =>
    rw [varint, if_pos (by omega)]
    exact le_rfl
  | succ k ih =>
    rw [varint]
    split
    · exact Nat.succ_le_succ (Nat.zero_le _)
    · have hdiv : n / 128 < 128 ^ (k + 1) := by
        rw [Nat.div_lt_iff_lt_mul (by omega), ← pow_succ]
        exact h
      exact Nat.succ_le_succ (ih hdiv)

/-! ### Fields -/

inductive Value where
  | varint (n : Nat)
  | octets (b : Octets)
  deriving DecidableEq

structure Field where
  number : Nat
  value : Value
  deriving DecidableEq

def Value.wireType : Value → Nat
  | .varint _ => 0
  | .octets _ => 2

def Value.encode : Value → Octets
  | .varint n => Proto.varint n
  | .octets b => Proto.varint b.length ++ b

def Field.encode (f : Field) : Octets := varint (8 * f.number + f.value.wireType) ++ f.value.encode

/-- The value of a field after its key. -/
def readValue (wireType : Nat) (b : Octets) : Option (Value × Octets) :=
  if wireType = 0 then (readVarint b).map fun r => (.varint r.1, r.2)
  else if wireType = 2 then
    (readVarint b).bind fun r => if r.1 ≤ r.2.length then some (.octets (r.2.take r.1), r.2.drop r.1) else none
  else none

def readField (b : Octets) : Option (Field × Octets) :=
  (readVarint b).bind fun r => (readValue (r.1 % 8) r.2).map fun v => (⟨r.1 / 8, v.1⟩, v.2)

theorem readValue_encode (v : Value) (rest : Octets) :
    readValue v.wireType (v.encode ++ rest) = some (v, rest) := by
  cases v with
  | varint n => simp [readValue, Value.wireType, Value.encode, readVarint_varint]
  | octets b => simp [readValue, Value.wireType, Value.encode, List.append_assoc, readVarint_varint]

theorem readField_encode (f : Field) (rest : Octets) : readField (f.encode ++ rest) = some (f, rest) := by
  have hwire : f.value.wireType < 8 := by
    cases f.value <;> simp [Value.wireType]
  have hmod : (8 * f.number + f.value.wireType) % 8 = f.value.wireType := by omega
  have hdiv : (8 * f.number + f.value.wireType) / 8 = f.number := by omega
  rw [readField, Field.encode, List.append_assoc, readVarint_varint, Option.bind_some]
  dsimp only
  rw [hmod, hdiv, readValue_encode]
  rfl

/-! ### Messages -/

def encode (fs : List Field) : Octets := fs.flatMap Field.encode

/-- `fuel` bounds the number of fields. -/
def readFields : Nat → Octets → Option (List Field)
  | _, [] => some []
  | 0, _ :: _ => none
  | fuel + 1, b => (readField b).bind fun r => (readFields fuel r.2).map (r.1 :: ·)

def decode (b : Octets) : Option (List Field) := readFields b.length b

theorem Field.encode_length_pos (f : Field) : 0 < f.encode.length := by
  have hkey := varint_length_pos (8 * f.number + f.value.wireType)
  unfold Field.encode
  rw [List.length_append]
  omega

theorem readFields_encode (fs : List Field) {fuel : Nat} (h : (encode fs).length ≤ fuel) :
    readFields fuel (encode fs) = some fs := by
  induction fs generalizing fuel with
  | nil => cases fuel <;> rfl
  | cons f fs ih =>
    have hpos := f.encode_length_pos
    have hlen : (encode (f :: fs)).length = f.encode.length + (encode fs).length := by
      simp [encode]
    obtain ⟨fuel, rfl⟩ : ∃ k, fuel = k + 1 := ⟨fuel - 1, by omega⟩
    have hcons : encode (f :: fs) = f.encode ++ encode fs := rfl
    cases hb : encode (f :: fs) with
    | nil =>
      rw [hb] at hlen
      simp only [List.length_nil] at hlen
      omega
    | cons b bs =>
      rw [readFields, ← hb, hcons, readField_encode, Option.bind_some]
      dsimp only
      rw [ih (by omega)]
      · rfl
      · rintro ⟨⟩

theorem decode_encode (fs : List Field) : decode (encode fs) = some fs := readFields_encode fs le_rfl

/-! ### Proto3 scalars -/

/-- A scalar of a proto3 message is left out when it is zero. -/
def uintField (number n : Nat) : List Field := if n = 0 then [] else [⟨number, .varint n⟩]

def octetsField (number : Nat) (b : Octets) : List Field := if b = [] then [] else [⟨number, .octets b⟩]

def uintStep (number n : Nat) (f : Field) : Nat :=
  match f.value with
  | .varint v => if f.number = number then v else n
  | .octets _ => n

def octetsStep (number : Nat) (b : Octets) (f : Field) : Octets :=
  match f.value with
  | .octets v => if f.number = number then v else b
  | .varint _ => b

/-- The last varint of the number; a missing one counts as zero. -/
def lastUint (number : Nat) (fs : List Field) : Nat := fs.foldl (uintStep number) 0

def lastOctets (number : Nat) (fs : List Field) : Octets := fs.foldl (octetsStep number) []

@[simp] theorem foldl_uintStep_uintField (number k n a : Nat) :
    (uintField k n).foldl (uintStep number) a = if k = number ∧ n ≠ 0 then n else a := by
  unfold uintField
  by_cases hn : n = 0
  · simp [hn]
  · simp [hn, uintStep]

@[simp] theorem foldl_uintStep_octetsField (number k a : Nat) (b : Octets) :
    (octetsField k b).foldl (uintStep number) a = a := by
  unfold octetsField
  split <;> rfl

@[simp] theorem foldl_octetsStep_uintField (number k n : Nat) (a : Octets) :
    (uintField k n).foldl (octetsStep number) a = a := by
  unfold uintField
  split <;> rfl

@[simp] theorem foldl_octetsStep_octetsField (number k : Nat) (b a : Octets) :
    (octetsField k b).foldl (octetsStep number) a = if k = number ∧ b ≠ [] then b else a := by
  unfold octetsField
  by_cases hb : b = []
  · simp [hb]
  · simp [hb, octetsStep]

theorem varint_key_length {number w : Nat} (h : 8 * number + w < 128) : (varint (8 * number + w)).length = 1 := by
  rw [varint, if_pos h]
  rfl

theorem encode_uintField_length {number n k : Nat} (hkey : number < 16) (hn : n < 128 ^ (k + 1)) :
    (encode (uintField number n)).length ≤ k + 2 := by
  unfold uintField
  split
  · exact Nat.zero_le _
  · have hv := varint_length_le hn
    have hk : (varint (8 * number + 0)).length = 1 := varint_key_length (by omega)
    simp only [encode, List.flatMap_cons, List.flatMap_nil, List.append_nil, Field.encode, Value.wireType,
      Value.encode, List.length_append, hk]
    omega

theorem encode_octets_length {number : Nat} {b : Octets} (hkey : number < 15) (hb : b.length < 128) :
    (encode [⟨number, .octets b⟩]).length = b.length + 2 := by
  have hk : (varint (8 * number + 2)).length = 1 := varint_key_length (by omega)
  have hl : (varint b.length).length = 1 := by
    rw [varint, if_pos hb]
    rfl
  simp only [encode, List.flatMap_cons, List.flatMap_nil, List.append_nil, Field.encode, Value.wireType,
    Value.encode, List.length_append, hk, hl]
  omega

theorem encode_append (fs gs : List Field) : encode (fs ++ gs) = encode fs ++ encode gs := by
  simp [encode]

/-! ### A message without the fields of one number -/

/-- What follows a value. Groups are not supported. -/
def skipValue (wireType : Nat) (b : Octets) : Option Octets :=
  if wireType = 0 then (readVarint b).map Prod.snd
  else if wireType = 1 then if 8 ≤ b.length then some (b.drop 8) else none
  else if wireType = 2 then (readVarint b).bind fun r => if r.1 ≤ r.2.length then some (r.2.drop r.1) else none
  else if wireType = 5 then if 4 ≤ b.length then some (b.drop 4) else none
  else none

/-- The number of the first field, and what follows it. -/
def skipField (b : Octets) : Option (Nat × Octets) :=
  (readVarint b).bind fun r => (skipValue (r.1 % 8) r.2).map fun rest => (r.1 / 8, rest)

/-- `fuel` bounds the number of fields; bytes that are no fields stay as they are. -/
def dropFields (number : Nat) : Nat → Octets → Octets
  | 0, b => b
  | fuel + 1, b =>
    match skipField b with
    | none => b
    | some (k, rest) =>
      if k = number then dropFields number fuel rest
      else b.take (b.length - rest.length) ++ dropFields number fuel rest

def withoutField (number : Nat) (b : Octets) : Octets := dropFields number b.length b

/-- A varint is read the same before any bytes. -/
theorem readVarint_split {b rest : Octets} {n : Nat} (h : readVarint b = some (n, rest)) :
    ∃ p, b = p ++ rest ∧ 0 < p.length ∧ ∀ r, readVarint (p ++ r) = some (n, r) := by
  induction b generalizing n with
  | nil => cases h
  | cons x b ih =>
    rw [readVarint] at h
    split at h
    case isTrue hx =>
      cases h
      exact ⟨[x], rfl, by simp, fun r => by rw [List.singleton_append, readVarint, if_pos hx]⟩
    case isFalse hx =>
      obtain ⟨⟨m, rest'⟩, hm, heq⟩ := Option.map_eq_some_iff.1 h
      cases heq
      obtain ⟨p, rfl, -, hp⟩ := ih hm
      exact ⟨x :: p, rfl, by simp, fun r => by rw [List.cons_append, readVarint, if_neg hx, hp, Option.map_some]⟩

theorem readValue_split {w : Nat} {b rest : Octets} {v : Value} (h : readValue w b = some (v, rest)) :
    skipValue w b = some rest ∧ ∃ p, b = p ++ rest ∧ ∀ r, readValue w (p ++ r) = some (v, r) := by
  unfold readValue at h
  split at h
  case isTrue hw =>
    obtain ⟨⟨n, rest'⟩, hn, heq⟩ := Option.map_eq_some_iff.1 h
    cases heq
    obtain ⟨p, hb, -, hp⟩ := readVarint_split hn
    exact ⟨by simp [skipValue, hw, hn], p, hb, fun r => by simp [readValue, hw, hp]⟩
  case isFalse hw =>
    split at h
    case isFalse => cases h
    case isTrue hw2 =>
      obtain ⟨⟨n, tail⟩, hn, hlen⟩ := Option.bind_eq_some_iff.1 h
      dsimp only at hlen
      split at hlen
      case isFalse => cases hlen
      case isTrue hle =>
        cases hlen
        obtain ⟨p, rfl, -, hp⟩ := readVarint_split hn
        refine ⟨by simp [skipValue, hw2, hn, hle], p ++ tail.take n, by simp, fun r => ?_⟩
        have htake : (tail.take n).length = n := List.length_take_of_le hle
        simp [readValue, hw2, hp, List.take_left' htake, List.drop_left' htake, htake]

/-- A field is skipped as far as it is read, and is read the same before any bytes. -/
theorem readField_split {b rest : Octets} {f : Field} (h : readField b = some (f, rest)) :
    skipField b = some (f.number, rest) ∧
      ∃ p, b = p ++ rest ∧ 0 < p.length ∧ ∀ r, readField (p ++ r) = some (f, r) := by
  obtain ⟨⟨key, tail⟩, hkey, hmap⟩ := Option.bind_eq_some_iff.1 h
  obtain ⟨⟨v, rest'⟩, hv, heq⟩ := Option.map_eq_some_iff.1 hmap
  cases heq
  obtain ⟨p, rfl, hpos, hp⟩ := readVarint_split hkey
  obtain ⟨hskip, q, rfl, hq⟩ := readValue_split hv
  refine ⟨by simp [skipField, hkey, hskip], p ++ q, by simp, by simp; omega, fun r => ?_⟩
  simp [readField, List.append_assoc, hp, hq]

theorem readFields_cons {b rest : Octets} {f : Field} {fuel : Nat} (h : readField b = some (f, rest)) :
    readFields (fuel + 1) b = (readFields fuel rest).map (f :: ·) := by
  cases b with
  | nil => cases h
  | cons x b =>
    rw [readFields, h, Option.bind_some]
    rintro ⟨⟩

theorem readFields_some {fuel : Nat} {b : Octets} {fs : List Field} (h : readFields fuel b = some fs) :
    b = [] ∧ fs = [] ∨
      ∃ k f rest gs, fuel = k + 1 ∧ readField b = some (f, rest) ∧ readFields k rest = some gs ∧ fs = f :: gs := by
  unfold readFields at h
  split at h
  · exact .inl ⟨rfl, by cases h; rfl⟩
  · cases h
  · obtain ⟨⟨f, rest⟩, hf, hmap⟩ := Option.bind_eq_some_iff.1 h
    obtain ⟨gs, hgs, rfl⟩ := Option.map_eq_some_iff.1 hmap
    exact .inr ⟨_, f, rest, gs, rfl, hf, hgs, rfl⟩

/-- Any fuel will do that is no less than the bytes. -/
theorem readFields_of_le {fuel fuel' : Nat} {b : Octets} {fs : List Field} (h : readFields fuel b = some fs)
    (hle : b.length ≤ fuel') : readFields fuel' b = some fs := by
  induction fs generalizing fuel fuel' b with
  | nil =>
    rcases readFields_some h with ⟨rfl, -⟩ | ⟨_, _, _, _, -, -, -, heq⟩
    · cases fuel' <;> rfl
    · cases heq
  | cons f gs ih =>
    rcases readFields_some h with ⟨-, heq⟩ | ⟨k, f', rest, gs', rfl, hf, hgs, heq⟩
    · cases heq
    · cases heq
      obtain ⟨-, p, rfl, hpos, -⟩ := readField_split hf
      rw [List.length_append] at hle
      obtain ⟨k', rfl⟩ : ∃ k', fuel' = k' + 1 := ⟨fuel' - 1, by omega⟩
      rw [readFields_cons hf, ih hgs (by omega)]
      rfl

/-- The fields of another number are read as before. -/
theorem decode_withoutField (number : Nat) {b : Octets} {fs : List Field} (h : decode b = some fs) :
    decode (withoutField number b) = some (fs.filter fun f => f.number ≠ number) := by
  have hall : ∀ fuel fuel' b fs, readFields fuel b = some fs → b.length ≤ fuel' →
      decode (dropFields number fuel' b) = some (fs.filter fun f => f.number ≠ number) := by
    intro fuel fuel' b fs
    induction fs generalizing fuel fuel' b with
    | nil =>
      intro h hle
      rcases readFields_some h with ⟨rfl, -⟩ | ⟨_, _, _, _, -, -, -, heq⟩
      · cases fuel' <;> rfl
      · cases heq
    | cons f gs ih =>
      intro h hle
      rcases readFields_some h with ⟨-, heq⟩ | ⟨k, f', rest, gs', rfl, hf, hgs, heq⟩
      · cases heq
      · cases heq
        obtain ⟨hskip, p, rfl, hpos, hp⟩ := readField_split hf
        rw [List.length_append] at hle
        obtain ⟨k', rfl⟩ : ∃ k', fuel' = k' + 1 := ⟨fuel' - 1, by omega⟩
        have hrest := ih _ k' _ hgs (by omega)
        have htake : (p ++ rest).take ((p ++ rest).length - rest.length) = p := by
          rw [List.length_append, Nat.add_sub_cancel, List.take_left]
        rw [dropFields, hskip]
        dsimp only
        by_cases hn : f.number = number
        · rw [if_pos hn, hrest, List.filter_cons_of_neg (by simpa using hn)]
        · rw [if_neg hn, htake, List.filter_cons_of_pos (by simpa using hn)]
          -- the field is kept: read it before the rest
          have hkept : readFields ((dropFields number k' rest).length + 1) (p ++ dropFields number k' rest) =
              some (f :: gs.filter fun f => f.number ≠ number) := by
            rw [readFields_cons (hp _)]
            exact congrArg (Option.map (f :: ·)) hrest
          exact readFields_of_le hkept le_rfl
  exact hall _ _ _ _ h le_rfl

theorem lastUint_filter {number k : Nat} (h : k ≠ number) (fs : List Field) :
    lastUint k (fs.filter fun f => f.number ≠ number) = lastUint k fs := by
  have hstep : (fun a f => if decide (f.number ≠ number) = true then uintStep k a f else a) = uintStep k := by
    funext a f
    split
    · rfl
    case isFalse hn =>
      unfold uintStep
      split
      · exact (if_neg (by simp at hn; omega)).symm
      · rfl
  rw [lastUint, List.foldl_filter, hstep, lastUint]

theorem lastOctets_filter {number k : Nat} (h : k ≠ number) (fs : List Field) :
    lastOctets k (fs.filter fun f => f.number ≠ number) = lastOctets k fs := by
  have hstep : (fun a f => if decide (f.number ≠ number) = true then octetsStep k a f else a) = octetsStep k := by
    funext a f
    split
    · rfl
    case isFalse hn =>
      unfold octetsStep
      split
      · exact (if_neg (by simp at hn; omega)).symm
      · rfl
  rw [lastOctets, List.foldl_filter, hstep, lastOctets]

end Proto
