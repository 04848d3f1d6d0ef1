import Mathlib.Data.List.GetD
import McuBridge.Daemon.FlagDenials

/-! # The default table (`config/settings.py`, `config/common.py`, `daemon.py`)

The defaults pass through `MessageToDict` and back through the coercion meant for the texts of a configuration file.
The two are unrelated, and the bytes of the shared secret come back as the text of their encoding. -/

namespace McuBridge
namespace Daemon

/-- What Python and protobuf document of the functions that a default goes through. -/
structure PyConv.Documented (py : PyConv) : Prop where
  strip_base64 : ∀ {t : Text}, (∀ c ∈ t, c ∈ '=' :: base64Alphabet) → py.strip t = t
  encode_base64 : ∀ {t : Text}, (∀ c ∈ t, c ∈ '=' :: base64Alphabet) → py.encode t = t.map fun c => c.toNat.toUInt8
  float_nan : py.float "NaN".toList = some .nan
  float_infinity : ∀ negative,
    py.float (if negative then "-Infinity".toList else "Infinity".toList) = some (.infinite negative)
  narrow_shortest : ∀ {x}, py.narrow x = x → py.narrow (py.shortest x) = x

/-! ### The gate -/

namespace ConfigMessage
variable {py : PyConv}

/-- The test of the strict mode. -/
def strictMode (cfg : ConfigMessage py) : Bool := cfg.view.serialSharedSecret == defaultSerialSharedSecret

/-- What `app` does before it opens a transport. -/
def strictModeGate (cfg : ConfigMessage py) : ConfigMessage py :=
  if cfg.strictMode then cfg.set .cloudEnabled false else cfg

end ConfigMessage

/-! ### Values that come back -/

namespace PyConv
variable (py : PyConv)

def TextKept (name s : Text) : Prop :=
  if isPathField name && looksLikePath (py.strip s) then py.resolvePath (py.strip s) = some s
  else py.strip s = s ∧ s ≠ []

instance (name s : Text) : Decidable (py.TextKept name s) := inferInstanceAs (Decidable (ite ..))

end PyConv

/-- A default that comes back: no text that `strip` or `resolve` changes, no empty text that is set, and no bytes. -/
def ConfigType.Kept (py : PyConv) (name : Text) : (t : ConfigType) → t.Value py → Prop
  | .string, (s : Text) => s = [] ∨ py.TextKept name s
  | .optionalString, (o : Option Text) => ∀ s, o = some s → py.TextKept name s
  | .uint32, _ => True
  | .float, _ => True
  | .bool, _ => True
  | .bytes, (b : Bytes) => b = []
  | .repeatedString, (xs : List Text) => ∀ s ∈ xs, py.TextKept name s

/-- Every field is, and the two messages, which are not loaded from the table, are not set. -/
def ConfigMessage.Survives {py : PyConv} (m : ConfigMessage py) : Prop :=
  (∀ f : ConfigField, f.type.Kept py f.name (m.value f)) ∧ m.allowedPolicy = none ∧ m.topicAuthorization = none

/-! ### Base64 -/

theorem base64Alphabet_eq : base64Alphabet =
    ['A', 'B', 'C', 'D', 'E', 'F', 'G', 'H', 'I', 'J', 'K', 'L', 'M', 'N', 'O', 'P', 'Q', 'R', 'S', 'T', 'U', 'V',
      'W', 'X', 'Y', 'Z', 'a', 'b', 'c', 'd', 'e', 'f', 'g', 'h', 'i', 'j', 'k', 'l', 'm', 'n', 'o', 'p', 'q', 'r',
      's', 't', 'u', 'v', 'w', 'x', 'y', 'z', '0', '1', '2', '3', '4', '5', '6', '7', '8', '9', '+', '/'] :=
  String.toList_ofList

theorem base64Char_mem (n : Nat) : base64Char n ∈ base64Alphabet := by
  unfold base64Char
  by_cases hn : n < base64Alphabet.length
  · rw [List.getD_eq_getElem _ _ hn]
    exact List.getElem_mem hn
  · rw [List.getD_eq_default _ _ (Nat.le_of_not_lt hn), base64Alphabet_eq]
    exact List.mem_cons_self ..

theorem mem_base64 {b : Bytes} : ∀ c ∈ base64 b, c ∈ '=' :: base64Alphabet := by
  have hchar (n : Nat) : base64Char n ∈ '=' :: base64Alphabet := List.mem_cons_of_mem _ (base64Char_mem n)
  induction b using base64.induct with
  | case1 => simp [base64]
  | case2 a => simp [base64, base64Char_mem]
  | case3 a b => simp [base64, base64Char_mem]
  | case4 a b c rest ih =>
    intro x hx
    simp only [base64, List.mem_cons] at hx
    rcases hx with rfl | rfl | rfl | rfl | hx
    · exact hchar _
    · exact hchar _
    · exact hchar _
    · exact hchar _
    · exact ih x hx

theorem length_base64 {b : Bytes} (hb : b ≠ []) : b.length < (base64 b).length := by
  induction b using base64.induct with
  | case1 => exact absurd rfl hb
  | case2 a => simp [base64]
  | case3 a b => simp [base64]
  | case4 a b c rest ih =>
    simp only [base64, List.length_cons]
    by_cases hrest : rest = []
    · subst hrest
      simp [base64]
    · have := ih hrest
      omega

/-! ### One field -/

namespace PyConv
variable {py : PyConv} {name : Text}

theorem coerceString_eq_iff {s : Text} : py.coerceString name (.str s) = .ok (some s) ↔ py.TextKept name s := by
  unfold coerceString TextKept str
  dsimp only
  split
  · cases py.resolvePath (py.strip s) <;> simp
  · split
    · rename_i hempty
      rw [List.isEmpty_iff.1 hempty]
      refine iff_of_false (fun h => ?_) fun h => h.2 h.1.symm
      cases h
    · rename_i hempty
      rw [List.isEmpty_iff] at hempty
      simp only [Except.ok.injEq, Option.some.injEq]
      exact ⟨fun h => ⟨h, fun hs => hempty (h.trans hs)⟩, And.left⟩

theorem coerceItems_eq_iff {xs : List Text} :
    py.coerceItems name (xs.map .str) = .ok xs ↔ ∀ s ∈ xs, py.TextKept name s := by
  induction xs with
  | nil => simp [coerceItems]
  | cons s xs ih =>
    rw [List.map_cons, coerceItems.eq_def, List.forall_mem_cons, ← ih, ← coerceString_eq_iff]
    dsimp only
    cases py.coerceString name (.str s) with
    | error e => simp
    | ok item =>
      cases py.coerceItems name (xs.map .str) with
      | error e => simp
      | ok items => cases item <;> simp

/-- What is put into a field that the dictionary holds the JSON value of. -/
def reload (py : PyConv) (name : Text) (t : ConfigType) (v : t.Value py) : Except ConfigError (Option (t.Value py)) :=
  match py.toJson t v with
  | none => .ok none
  | some j => py.coerceValue name t j

theorem reload_of_toJson {t : ConfigType} {v : t.Value py} {j : PyValue} (h : py.toJson t v = some j) :
    reload py name t v = py.coerceValue name t j := by
  unfold reload
  rw [h]

theorem reload_string {s : Text} :
    (∃ o, reload py name .string s = .ok o ∧ s = o.getD []) ↔ s = [] ∨ py.TextKept name s := by
  cases s with
  | nil => exact iff_of_true ⟨none, rfl, rfl⟩ (.inl rfl)
  | cons c cs =>
    rw [or_iff_right (List.cons_ne_nil c cs), ← coerceString_eq_iff]
    constructor
    · rintro ⟨o, ho, hs⟩
      cases o with
      | none => cases hs
      | some t =>
        obtain rfl : c :: cs = t := hs
        exact ho
    · intro h
      exact ⟨_, h, rfl⟩

theorem reload_optionalString {o : Option Text} :
    (∃ r, reload py name .optionalString o = .ok r ∧ o = r.getD none) ↔ ∀ s, o = some s → py.TextKept name s := by
  cases o with
  | none => exact iff_of_true ⟨none, rfl, rfl⟩ (fun _ h => nomatch h)
  | some s =>
    have hreload : reload py name .optionalString (some s : Option Text) =
        (py.coerceString name (.str s)).map fun o => o.map some := rfl
    rw [hreload]
    constructor
    · rintro ⟨r, hr, hs⟩ t ht
      obtain rfl := Option.some.inj ht
      refine coerceString_eq_iff.1 ?_
      cases hc : py.coerceString name (.str s) with
      | error e =>
        rw [hc] at hr
        cases hr
      | ok t =>
        rw [hc] at hr
        cases hr
        cases t with
        | none => cases hs
        | some t => rw [Option.some.inj hs]
    · intro h
      refine ⟨some (some s), ?_, rfl⟩
      rw [coerceString_eq_iff.2 (h s rfl)]
      rfl

theorem pbUint32_toNat (n : UInt32) : Service.pbUint32 n.toNat = some n := by
  have hlt : (n.toNat : Int) < 2 ^ 32 := by exact_mod_cast n.toNat_lt
  unfold Service.pbUint32
  rw [if_pos ⟨Int.natCast_nonneg _, hlt⟩, Int.toNat_natCast, UInt32.ofNat_toNat]

theorem coerceValue_uint32 {v : PyValue} {i : Int} {n : UInt32} (hi : py.coerceInt v = .ok i)
    (hn : Service.pbUint32 i = some n) : py.coerceValue name .uint32 v = .ok (some n : Option UInt32) := by
  unfold coerceValue
  dsimp only
  rw [hi]
  dsimp only [Except.bind]
  rw [hn]
  rfl

theorem reload_uint32 (n : UInt32) : ∃ o : Option UInt32, reload py name .uint32 n = .ok o ∧ n = o.getD 0 := by
  by_cases hn : n = 0
  · subst hn
    exact ⟨none, rfl, rfl⟩
  · have hjson : py.toJson .uint32 n = some (.int n.toNat) := if_neg hn
    refine ⟨some n, ?_, rfl⟩
    rw [reload_of_toJson hjson]
    exact coerceValue_uint32 rfl (pbUint32_toNat n)

theorem reload_bool (b : Bool) : ∃ o : Option Bool, reload py name .bool b = .ok o ∧ b = o.getD false := by
  cases b with
  | false => exact ⟨none, rfl, rfl⟩
  | true => exact ⟨some true, rfl, rfl⟩

theorem coerceFloat_jsonFloat (hpy : py.Documented) (x : { x : PyFloat // py.narrow x = x }) :
    ∃ y, py.coerceFloat (py.jsonFloat x.1) = .ok y ∧ py.narrow y = x.1 := by
  obtain ⟨x, hx⟩ := x
  cases x with
  | nan => exact ⟨.nan, congrArg (fun o : Option PyFloat => Except.ok (o.getD (.finite 0))) hpy.float_nan, hx⟩
  | infinite negative =>
    refine ⟨.infinite negative, ?_, hx⟩
    exact congrArg (fun o : Option PyFloat => Except.ok (o.getD (.finite 0))) (hpy.float_infinity negative)
  | finite q => exact ⟨py.shortest (.finite q), rfl, hpy.narrow_shortest hx⟩

theorem reload_float (hpy : py.Documented) (x : { x : PyFloat // py.narrow x = x }) :
    ∃ o, reload py name .float x = .ok o ∧ x = o.getD ⟨.finite 0, py.narrow_zero⟩ := by
  by_cases hx : x.1 = .finite 0
  · have hjson : py.toJson .float x = none := if_pos hx
    refine ⟨none, ?_, Subtype.ext hx⟩
    unfold reload
    rw [hjson]
  · have hjson : py.toJson .float x = some (py.jsonFloat x.1) := if_neg hx
    obtain ⟨y, hy, hnarrow⟩ := coerceFloat_jsonFloat hpy x
    refine ⟨some ⟨py.narrow y, py.narrow_narrow y⟩, ?_, Subtype.ext hnarrow.symm⟩
    rw [reload_of_toJson hjson]
    show (py.coerceFloat (py.jsonFloat x.1)).map _ = _
    rw [hy]
    rfl

/-- The text of the encoding is what the bytes become. -/
theorem reload_bytes_ne (hpy : py.Documented) {b : Bytes} (hb : b ≠ []) :
    reload py name .bytes b = .ok (some ((base64 b).map fun c => c.toNat.toUInt8)) := by
  have hjson : py.toJson .bytes b = some (.str (base64 b)) := if_neg (mt List.isEmpty_iff.1 hb)
  rw [reload_of_toJson hjson]
  show Except.ok (some (py.encode (py.strip (base64 b)))) = _
  rw [hpy.strip_base64 mem_base64, hpy.encode_base64 mem_base64]
  rfl

theorem reload_bytes (hpy : py.Documented) {b : Bytes} :
    (∃ o : Option Bytes, reload py name .bytes b = .ok o ∧ b = o.getD []) ↔ b = [] := by
  constructor
  · rintro ⟨o, ho, heq⟩
    by_contra hb
    rw [reload_bytes_ne hpy hb] at ho
    cases ho
    have hlen : b.length = (base64 b).length := (congrArg List.length heq).trans (List.length_map _)
    exact Nat.ne_of_lt (length_base64 hb) hlen
  · rintro rfl
    exact ⟨none, rfl, rfl⟩

theorem coerceItems_map_iff {xs : List Text} :
    (∃ o : Option (List Text), (py.coerceItems name (xs.map .str)).map some = .ok o ∧ xs = o.getD []) ↔
      ∀ s ∈ xs, py.TextKept name s := by
  rw [← coerceItems_eq_iff]
  cases py.coerceItems name (xs.map .str) with
  | error e =>
    refine iff_of_false ?_ (fun h => nomatch h)
    rintro ⟨o, ho, -⟩
    cases ho
  | ok items =>
    constructor
    · rintro ⟨o, ho, hxs⟩
      cases ho
      exact congrArg Except.ok hxs.symm
    · intro h
      exact ⟨some items, rfl, (Except.ok.inj h).symm⟩

theorem reload_iff (hpy : py.Documented) {t : ConfigType} (ht : t ≠ .repeatedString) (v : t.Value py) :
    (∃ o, reload py name t v = .ok o ∧ v = o.getD (t.unset py)) ↔ t.Kept py name v := by
  cases t
  case string => exact reload_string
  case optionalString => exact reload_optionalString
  case uint32 => exact iff_true_intro (reload_uint32 v)
  case float => exact iff_true_intro (reload_float hpy v)
  case bool => exact iff_true_intro (reload_bool v)
  case bytes => exact reload_bytes hpy
  case repeatedString => exact absurd rfl ht

theorem jsonFloat_ne_none (x : PyFloat) : py.jsonFloat x ≠ .none := by
  cases x <;> exact PyValue.noConfusion

theorem toJson_ne_none {t : ConfigType} {v : t.Value py} : py.toJson t v ≠ some .none := by
  intro h
  unfold toJson at h
  split at h
  case h_1 s => cases hs : s.isEmpty <;> simp [hs] at h
  case h_2 o => cases o <;> cases h
  case h_3 n =>
    split at h <;> cases h
  case h_4 x =>
    split at h
    · cases h
    · exact jsonFloat_ne_none x.1 (Option.some.inj h)
  case h_5 b => cases b <;> cases h
  case h_6 b => cases hb : b.isEmpty <;> simp [hb] at h
  case h_7 xs => cases hxs : xs.isEmpty <;> simp [hxs] at h

end PyConv

/-! ### The loop over the fields -/

theorem ConfigField.name_injective {f g : ConfigField} (h : f.name = g.name) : f = g := by
  have hf := f.find?_name
  rw [h, g.find?_name] at hf
  exact (Option.some.inj hf).symm

namespace ConfigMessage
variable {py : PyConv} {raw : Raw} {m msg msg' : ConfigMessage py}

/-- One turn of the loop. -/
def assign (msg : ConfigMessage py) (f : ConfigField) : Option (f.type.Value py) → ConfigMessage py
  | none => msg
  | some v => msg.set f v

theorem loadFields_cons {f : ConfigField} {fs : List ConfigField} :
    loadFields raw (f :: fs) msg = .ok msg' ↔ ∃ o, fieldValue raw f = .ok o ∧ loadFields raw fs (msg.assign f o) = .ok msg' := by
  conv_lhs => rw [loadFields]
  cases fieldValue raw f with
  | error e => simp
  | ok o => cases o <;> simp [assign]

theorem assign_value_self {f : ConfigField} (o : Option (f.type.Value py)) :
    (msg.assign f o).value f = o.getD (msg.value f) := by
  cases o with
  | none => rfl
  | some v => exact Function.update_self ..

theorem assign_value_of_ne {f g : ConfigField} (h : g ≠ f) (o : Option (f.type.Value py)) :
    (msg.assign f o).value g = msg.value g := by
  cases o with
  | none => rfl
  | some v => exact Function.update_of_ne h ..

theorem assign_messages (msg : ConfigMessage py) {f : ConfigField} (o : Option (f.type.Value py)) :
    (msg.assign f o).allowedPolicy = msg.allowedPolicy ∧
      (msg.assign f o).topicAuthorization = msg.topicAuthorization := by
  cases o <;> exact ⟨rfl, rfl⟩

/-- The loop gives every field it passes what it finds for it, and leaves the rest. -/
theorem loadFields_eq_iff {fs : List ConfigField} (hfs : fs.Nodup) :
    loadFields raw fs msg = .ok msg' ↔
      (∀ f ∈ fs, ∃ o, fieldValue raw f = .ok o ∧ msg'.value f = o.getD (msg.value f)) ∧
        (∀ f, f ∉ fs → msg'.value f = msg.value f) ∧
          msg'.allowedPolicy = msg.allowedPolicy ∧ msg'.topicAuthorization = msg.topicAuthorization := by
  induction fs generalizing msg with
  | nil =>
    constructor
    · rintro ⟨⟩
      exact ⟨fun _ h => absurd h List.not_mem_nil, fun _ _ => rfl, rfl, rfl⟩
    · rintro ⟨-, hrest, hpolicy, hauth⟩
      obtain ⟨value', policy', auth'⟩ := msg'
      obtain ⟨value, policy, auth⟩ := msg
      obtain rfl : value' = value := funext fun f => hrest f List.not_mem_nil
      obtain rfl : policy' = policy := hpolicy
      obtain rfl : auth' = auth := hauth
      rfl
  | cons x fs ih =>
    obtain ⟨hx, hfs⟩ := List.nodup_cons.1 hfs
    rw [loadFields_cons, List.forall_mem_cons]
    constructor
    · rintro ⟨o, ho, hload⟩
      obtain ⟨hmem, hrest, hpolicy, hauth⟩ := (ih hfs).1 hload
      obtain ⟨hpolicy', hauth'⟩ := msg.assign_messages o
      refine ⟨⟨⟨o, ho, (hrest x hx).trans (assign_value_self o)⟩, fun f hf => ?_⟩, fun f hf => ?_,
        hpolicy.trans hpolicy', hauth.trans hauth'⟩
      · have hne : f ≠ x := fun h => hx (h ▸ hf)
        obtain ⟨r, hr, hvalue⟩ := hmem f hf
        exact ⟨r, hr, hvalue.trans (by rw [assign_value_of_ne hne])⟩
      · exact (hrest f (List.not_mem_of_not_mem_cons hf)).trans (assign_value_of_ne (List.ne_of_not_mem_cons hf) o)
    · rintro ⟨⟨⟨o, ho, hvalue⟩, hmem⟩, hrest, hpolicy, hauth⟩
      obtain ⟨hpolicy', hauth'⟩ := msg.assign_messages o
      refine ⟨o, ho, (ih hfs).2 ⟨fun f hf => ?_, fun f hf => ?_, hpolicy.trans hpolicy'.symm, hauth.trans hauth'.symm⟩⟩
      · have hne : f ≠ x := fun h => hx (h ▸ hf)
        obtain ⟨r, hr, hvalue'⟩ := hmem f hf
        exact ⟨r, hr, hvalue'.trans (by rw [assign_value_of_ne hne])⟩
      · by_cases hne : f = x
        · subst hne
          exact hvalue.trans (assign_value_self o).symm
        · exact (hrest f (List.not_mem_cons_of_ne_of_not_mem hne hf)).trans (assign_value_of_ne hne o).symm

theorem build_eq_iff : build raw = .ok m ↔
    (∀ f, ∃ o, fieldValue (raw.splitCommands py.isSpace) f = .ok o ∧ m.value f = o.getD (f.type.unset py)) ∧
      m.allowedPolicy = none ∧ m.topicAuthorization = loadAuthorization py raw := by
  have hall : ConfigField.all.Nodup := by decide
  rw [build_eq_ok]
  constructor
  · rintro ⟨fields, hload, rfl⟩
    obtain ⟨hmem, -, hpolicy, -⟩ := (loadFields_eq_iff hall).1 hload
    exact ⟨fun f => hmem f f.mem_all, hpolicy, rfl⟩
  · rintro ⟨hvalue, hpolicy, hauth⟩
    refine ⟨{ m with topicAuthorization := none }, (loadFields_eq_iff hall).2 ?_, ?_⟩
    · exact ⟨fun f _ => hvalue f, fun f hf => absurd f.mem_all hf, hpolicy, rfl⟩
    · rw [← hauth]

/-! ### The dictionary of a message, loaded -/

/-- The split of the commands does not look at another field. -/
theorem fieldValue_of_ne {f : ConfigField} (hf : f ≠ .allowedCommands) (h : raw f.name = m.toDict f.name) :
    fieldValue (raw.splitCommands py.isSpace) f = py.reload f.name f.type (m.value f) := by
  have hname : f.name ≠ "allowed_commands".toList := fun h => hf (ConfigField.name_injective h)
  have hraw : raw.splitCommands py.isSpace f.name = py.toJson f.type (m.value f) := by
    unfold Raw.splitCommands
    rw [Function.update_of_ne hname, h, toDict_name]
  unfold fieldValue PyConv.reload
  rw [hraw]
  split
  case h_1 hj => rw [hj]
  case h_2 hj => exact absurd hj PyConv.toJson_ne_none
  case h_3 j hne hj => rw [hj]

theorem splitCommands_list {xs : List PyValue} (h : raw "allowed_commands".toList = some (.list xs)) :
    raw.splitCommands py.isSpace "allowed_commands".toList = some (.list xs) := by
  unfold Raw.splitCommands
  rw [Function.update_self, h]

theorem splitCommands_none (h : raw "allowed_commands".toList = none) :
    raw.splitCommands py.isSpace "allowed_commands".toList = some (.list []) := by
  unfold Raw.splitCommands
  rw [Function.update_self, h]

/-- A list of texts arrives as it is, and no list as an empty one. -/
theorem splitCommands_toDict : m.toDict.splitCommands py.isSpace "allowed_commands".toList =
    some (.list ((m.value .allowedCommands : List Text).map .str)) := by
  have hjson (xs : List Text) (h : m.toDict "allowed_commands".toList = py.toJson .repeatedString xs) :
      m.toDict.splitCommands py.isSpace "allowed_commands".toList = some (.list (xs.map .str)) := by
    cases xs with
    | nil => exact splitCommands_none h
    | cons x xs => exact splitCommands_list h
  exact hjson _ (m.toDict_name .allowedCommands)

theorem fieldValue_allowedCommands :
    (∃ o, fieldValue (m.toDict.splitCommands py.isSpace) .allowedCommands = .ok o ∧
      m.value .allowedCommands = o.getD (ConfigType.repeatedString.unset py)) ↔
        ConfigType.repeatedString.Kept py ConfigField.allowedCommands.name (m.value .allowedCommands) := by
  have hfield : @fieldValue py (m.toDict.splitCommands py.isSpace) .allowedCommands =
      (py.coerceItems ConfigField.allowedCommands.name ((m.value .allowedCommands : List Text).map .str)).map some := by
    unfold fieldValue
    rw [show m.toDict.splitCommands py.isSpace ConfigField.allowedCommands.name = _ from splitCommands_toDict]
    rfl
  rw [hfield]
  exact PyConv.coerceItems_map_iff

theorem fieldValue_iff (hpy : py.Documented) (f : ConfigField) :
    (∃ o, fieldValue (m.toDict.splitCommands py.isSpace) f = .ok o ∧ m.value f = o.getD (f.type.unset py)) ↔
      f.type.Kept py f.name (m.value f) := by
  by_cases hf : f = .allowedCommands
  · subst hf
    exact fieldValue_allowedCommands
  · have htype : f.type ≠ .repeatedString := by
      cases f
      case allowedCommands => exact absurd rfl hf
      all_goals decide
    rw [fieldValue_of_ne hf rfl]
    exact PyConv.reload_iff hpy htype _

theorem loadAuthorization_toDict : loadAuthorization py m.toDict = none := by
  have hany : (Flag.fields.any fun f => (flagValue py m.toDict f.1).isSome) = false := by
    refine List.any_eq_false.2 fun p _ => ?_
    rw [flagValue_eq_none (m.toDict_keys p.1)]
    exact Bool.false_ne_true
  unfold loadAuthorization
  rw [hany, if_neg Bool.false_ne_true]

theorem build_toDict_iff (hpy : py.Documented) : build m.toDict = .ok m ↔ m.Survives := by
  rw [build_eq_iff, loadAuthorization_toDict]
  exact and_congr_left' (forall_congr' (fieldValue_iff hpy))

/-! ### The secret -/

/-- A secret of the default table arrives as the text of its encoding. -/
theorem load_secret (hpy : py.Documented) {source : ConfigSource} {cfg : ConfigMessage py}
    (hraw : raw ConfigField.serialSharedSecret.name = m.toDict ConfigField.serialSharedSecret.name)
    (hm : m.view.serialSharedSecret ≠ []) (h : loadRuntimeConfig py source raw = .ok cfg) :
    cfg.view.serialSharedSecret = (base64 m.view.serialSharedSecret).map fun c => c.toNat.toUInt8 := by
  obtain ⟨msg, hbuild, hvalid⟩ := loadRuntimeConfig_eq_ok.1 h
  obtain ⟨o, ho, hvalue⟩ := (build_eq_iff.1 hbuild).1 .serialSharedSecret
  rw [fieldValue_of_ne (by decide) hraw] at ho
  obtain rfl := Except.ok.inj ((PyConv.reload_bytes_ne hpy hm).symm.trans ho)
  exact (validate_value hvalid (by decide)).trans hvalue

/-- For every message as the default table: what is built from it is the message exactly if the message survives; and if
its secret is the factory default and nothing sets another, the strict mode is off in every configuration loaded. -/
theorem default_table_iff (hpy : py.Documented) (m : ConfigMessage py) :
    (build m.toDict = .ok m ↔ m.Survives) ∧
      (m.view.serialSharedSecret = defaultSerialSharedSecret → ∀ source raw cfg,
        raw ConfigField.serialSharedSecret.name = m.toDict ConfigField.serialSharedSecret.name →
        loadRuntimeConfig py source raw = .ok cfg → cfg.strictMode = false) := by
  refine ⟨build_toDict_iff hpy, fun hm source raw cfg hraw h => ?_⟩
  have hne : defaultSerialSharedSecret ≠ [] := by decide
  have hsecret := load_secret hpy hraw (hm ▸ hne) h
  rw [hm] at hsecret
  unfold strictMode
  rw [hsecret, beq_eq_false_iff_ne]
  intro heq
  have hlen := congrArg List.length heq
  rw [List.length_map] at hlen
  exact Nat.ne_of_gt (length_base64 hne) hlen

end ConfigMessage

theorem PyConv.ascii_documented : PyConv.ascii.Documented where
  strip_base64 := by
    intro t ht
    have hall : ('=' :: base64Alphabet).all (fun c => !c.isWhitespace) = true := by
      rw [base64Alphabet_eq]
      decide
    have hspace : ∀ c ∈ t, ¬c.isWhitespace = true := by
      intro c hc
      simpa using List.all_eq_true.1 hall c (ht c hc)
    show (t.dropWhile Char.isWhitespace).rdropWhile Char.isWhitespace = t
    rw [List.dropWhile_eq_self_iff.2 fun hlen => hspace _ (List.getElem_mem hlen), List.rdropWhile_eq_self_iff]
    exact fun hne => hspace _ (List.getLast_mem hne)
  encode_base64 := fun _ => rfl
  float_nan := by decide +kernel
  float_infinity := by decide +kernel
  narrow_shortest := fun h => h

namespace ConfigMessage

theorem default_table_sample :
    let m := (defaultMessage .ascii).set .serialSharedSecret ([] : Bytes)
    build m.toDict = .ok m := by
  intro m
  have hkept (name s : Text) (h : decide (PyConv.ascii.TextKept name s) = true) : PyConv.ascii.TextKept name s :=
    of_decide_eq_true h
  refine (default_table_iff PyConv.ascii_documented m).1.2 ⟨fun f => ?_, rfl, rfl⟩
  cases f
  case cloudCafile =>
    intro s hs
    obtain rfl := Option.some.inj hs
    decide +kernel
  case allowedCommands => exact fun s hs => absurd hs List.not_mem_nil
  case serialSharedSecret => rfl
  case cloudUser | cloudPass | cloudCertfile | cloudKeyfile => exact fun s hs => nomatch hs
  case serialPort | cloudHost | topicPrefix | fileSystemRoot | cloudSpoolDir | metricsHost |
      cloudHttp3CongestionControl => exact .inr (hkept _ _ (by decide +kernel))
  all_goals exact trivial

/-- The default table: the secret arrives in base64, and the gate leaves the cloud on. -/
theorem default_secret_encoded :
    build (getDefaultConfig .ascii) ≠ .ok (defaultMessage .ascii) ∧
      ∃ cfg, loadRuntimeConfig .ascii .defaults (getDefaultConfig .ascii) = .ok cfg ∧
        cfg.view.serialSharedSecret = "ZmFpbHNhZmVfc2VjcmV0X21vZGU=".toList.map (fun c => c.toNat.toUInt8) ∧
        cfg.strictModeGate.value .cloudEnabled = true := by
  refine ⟨fun h => ?_, ?_⟩
  · have hsecret : defaultSerialSharedSecret = [] :=
      ((build_toDict_iff PyConv.ascii_documented).1 h).1 .serialSharedSecret
    exact absurd hsecret (by decide)
  · have hloads : (match loadRuntimeConfig .ascii .defaults (getDefaultConfig .ascii) with
        | .ok cfg => decide (cfg.view.serialSharedSecret =
            "ZmFpbHNhZmVfc2VjcmV0X21vZGU=".toList.map fun c => c.toNat.toUInt8) &&
              (cfg.strictModeGate.value .cloudEnabled : Bool)
        | .error _ => false) = true := by decide +kernel
    split at hloads
    · rename_i cfg h
      obtain ⟨hsecret, hcloud⟩ := Bool.and_eq_true_iff.1 hloads
      exact ⟨cfg, h, of_decide_eq_true hsecret, hcloud⟩
    · cases hloads

end ConfigMessage
end Daemon
end McuBridge
