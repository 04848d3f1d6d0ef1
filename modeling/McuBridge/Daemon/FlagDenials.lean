import McuBridge.Daemon.Settings

/-! # Denials of topic actions in the configuration (`config/settings.py`, `protocol/structures.py`)

A message in which no flag is set is what `validate_config` takes for one in which nothing was configured. -/

namespace McuBridge
namespace Daemon

theorem Flag.mem_fields (f : Flag) : (f, f.name) ∈ Flag.fields := by
  cases f <;> decide

theorem Flag.name_injective {f g : Flag} (h : f.name = g.name) : f = g := by
  have hnames : (Flag.fields.map Prod.snd).Nodup := by decide +kernel
  exact congrArg Prod.fst (List.inj_on_of_nodup_map hnames f.mem_fields g.mem_fields h)

theorem Flag.prefixes_differ (x y : Text) : "cloud_allow_".toList ++ x ≠ "allow_".toList ++ y := by
  intro h
  exact absurd (congrArg List.head? h) (by simp)

theorem Flag.keys_disjoint {f g : Flag} (h : f ≠ g) : ∀ k ∈ g.keys, k ∉ f.keys := by
  intro k hg hf
  simp only [Flag.keys, List.mem_cons, List.not_mem_nil, or_false] at hg hf
  rcases hg with rfl | rfl
  · rcases hf with heq | heq
    · exact h (Flag.name_injective (List.append_cancel_left heq)).symm
    · exact Flag.prefixes_differ _ _ heq
  · rcases hf with heq | heq
    · exact Flag.prefixes_differ _ _ heq.symm
    · exact h (Flag.name_injective (List.append_cancel_left heq)).symm

theorem ConfigField.name_notMem_keys (x : ConfigField) (f : Flag) : x.name ∉ f.keys := by
  have hall : ∀ x ∈ ConfigField.all, ∀ p ∈ Flag.fields, x.name ∉ p.1.keys := by decide +kernel
  exact hall x x.mem_all _ f.mem_fields

theorem flagValue_eq_none {py : PyConv} {raw : Raw} {f : Flag} (h : ∀ k ∈ f.keys, raw k = none) :
    flagValue py raw f = none := by
  unfold flagValue
  rw [List.findSome?_eq_none_iff.2 h]

namespace Raw
variable (py : PyConv)

/-- The mapping sets the flag to a false value, under one of its keys; `None` is no value. -/
def Denies (raw : Raw) (f : Flag) : Prop := ∃ k ∈ f.keys, ∃ v, raw k = some v ∧ py.coerceFlag v = some false

/-- The key of the flag that counts has a true value. -/
def Grants (raw : Raw) (f : Flag) : Prop := flagValue py raw f = some true

instance (raw : Raw) (f : Flag) : Decidable (raw.Grants py f) := inferInstanceAs (Decidable (_ = _))

variable {py}

theorem Denies.of_flagValue {raw : Raw} {f : Flag} (h : flagValue py raw f = some false) : raw.Denies py f := by
  unfold flagValue at h
  split at h
  case h_1 v hv =>
    obtain ⟨k, hk, hkv⟩ := List.exists_of_findSome?_eq_some hv
    exact ⟨k, hk, v, hkv, h⟩
  case h_2 => cases h

end Raw

/-! ### What the loaded flags are -/

namespace ConfigMessage
variable {py : PyConv} {raw raw' : Raw} {msg cfg : ConfigMessage py}

theorem toDict_keys (msg : ConfigMessage py) (f : Flag) : ∀ k ∈ f.keys, msg.toDict k = none := by
  intro k hk
  have hrest : ∀ p ∈ Flag.fields, ∀ k ∈ p.1.keys,
      k ≠ "allowed_policy".toList ∧ k ≠ "topic_authorization".toList := by decide +kernel
  obtain ⟨hpolicy, hauth⟩ := hrest _ f.mem_fields k hk
  refine msg.toDict_of_ne (fun x hx => x.name_notMem_keys f ?_) hpolicy hauth
  rw [hx]
  exact hk

theorem loadAuthorization_getD (f : Flag) :
    (loadAuthorization py raw).getD (fun _ => false) f = (flagValue py raw f).getD false := by
  unfold loadAuthorization
  split
  · rfl
  · rename_i h
    have hnone : (flagValue py raw f).isSome ≠ true := fun hsome => h (List.any_eq_true.2 ⟨_, f.mem_fields, hsome⟩)
    rw [Option.not_isSome_iff_eq_none.1 hnone]
    rfl

theorem build_authorization (h : build raw = .ok msg) (f : Flag) :
    msg.view.topicAuthorization f = true ↔ raw.Grants py f := by
  obtain ⟨fields, -, rfl⟩ := build_eq_ok.1 h
  show (loadAuthorization py raw).getD (fun _ => false) f = true ↔ _
  rw [loadAuthorization_getD, Raw.Grants]
  cases flagValue py raw f <;> simp

/-- A message that is accepted has the flags it had, or all of them. -/
theorem validate_authorization (h : msg.validate = .ok cfg) :
    cfg.view.topicAuthorization =
      if Flag.fields.any fun f => msg.view.topicAuthorization f.1 then msg.view.topicAuthorization else fun _ => true := by
  obtain ⟨-, rfl⟩ := validate_eq_ok.1 h
  rfl

theorem validate_withAuthorization (auth : Option TopicAuthorization) (h : msg.validate = .ok cfg) :
    ∃ cfg', { msg with topicAuthorization := auth }.validate = .ok cfg' :=
  ⟨_, validate_eq_ok.2 ⟨(validate_eq_ok.1 h).1, rfl⟩⟩

end ConfigMessage

namespace Raw
variable {py : PyConv} {source : ConfigSource} {raw raw' : Raw} {cfg cfg' : ConfigMessage py}

/-- With a flag granted, exactly the granted flags are set; with none, all are. -/
theorem authorization_iff (h : loadRuntimeConfig py source raw = .ok cfg) (f : Flag) :
    cfg.view.topicAuthorization f = true ↔ raw.Grants py f ∨ ∀ g, ¬raw.Grants py g := by
  obtain ⟨msg, hbuild, hvalid⟩ := loadRuntimeConfig_eq_ok.1 h
  rw [ConfigMessage.validate_authorization hvalid]
  split
  · rename_i hany
    obtain ⟨p, -, hp⟩ := List.any_eq_true.1 hany
    have hgrants : raw.Grants py p.1 := (ConfigMessage.build_authorization hbuild p.1).1 hp
    rw [ConfigMessage.build_authorization hbuild, or_iff_left fun hnone => hnone p.1 hgrants]
  · rename_i hany
    refine iff_of_true rfl (.inr fun g hg => hany (List.any_eq_true.2 ⟨_, g.mem_fields, ?_⟩))
    exact (ConfigMessage.build_authorization hbuild g).2 hg

/-- Denials are honoured exactly if there is none, or a flag is granted and no denied one is. -/
theorem denials_honoured_iff (h : loadRuntimeConfig py source raw = .ok cfg) :
    (∀ f, raw.Denies py f → cfg.view.topicAuthorization f = false) ↔
      ∀ f, raw.Denies py f → ¬raw.Grants py f ∧ ∃ g, raw.Grants py g := by
  refine forall₂_congr fun f _ => ?_
  rw [← Bool.not_eq_true, authorization_iff h, not_or, not_forall_not]

/-! ### Two runs -/

def AgreeOffFlags (raw raw' : Raw) : Prop := ∀ k, (∀ f : Flag, k ∉ f.keys) → raw' k = raw k

/-- The mappings differ at most under the keys of the flag. -/
def AgreeOff (f : Flag) (raw raw' : Raw) : Prop := ∀ k, k ∉ f.keys → raw' k = raw k

theorem AgreeOff.flags {f : Flag} (h : AgreeOff f raw raw') : AgreeOffFlags raw raw' := fun k hk => h k (hk f)

theorem AgreeOff.flagValue_eq {f g : Flag} (h : AgreeOff f raw raw') (hfg : f ≠ g) :
    flagValue py raw' g = flagValue py raw g := by
  have hkey : ∀ k ∈ g.keys, raw' k = raw k := fun k hk => h k (Flag.keys_disjoint hfg k hk)
  have hfind : g.keys.findSome? raw' = g.keys.findSome? raw := by
    unfold Flag.keys at hkey ⊢
    simp only [List.findSome?_cons, List.findSome?_nil]
    rw [hkey _ (List.mem_cons_self ..), hkey _ (List.mem_cons_of_mem _ (List.mem_singleton_self _))]
  unfold flagValue
  rw [hfind]

theorem AgreeOffFlags.fieldValue_eq (h : AgreeOffFlags raw raw') (x : ConfigField) :
    (ConfigMessage.fieldValue (raw'.splitCommands py.isSpace) x : Except _ (Option (x.type.Value py))) =
      ConfigMessage.fieldValue (raw.splitCommands py.isSpace) x := by
  have hcommands : raw' "allowed_commands".toList = raw "allowed_commands".toList :=
    h _ (ConfigField.name_notMem_keys .allowedCommands)
  have hname : raw'.splitCommands py.isSpace x.name = raw.splitCommands py.isSpace x.name := by
    unfold splitCommands Function.update
    rw [hcommands, h _ x.name_notMem_keys]
  unfold ConfigMessage.fieldValue
  rw [hname]

theorem AgreeOffFlags.loadFields_eq (h : AgreeOffFlags raw raw') (fs : List ConfigField) (msg : ConfigMessage py) :
    ConfigMessage.loadFields (raw'.splitCommands py.isSpace) fs msg =
      ConfigMessage.loadFields (raw.splitCommands py.isSpace) fs msg := by
  induction fs generalizing msg with
  | nil => rfl
  | cons x fs ih =>
    unfold ConfigMessage.loadFields
    rw [h.fieldValue_eq]
    split
    · rfl
    · exact ih _
    · exact ih _

theorem AgreeOffFlags.load (hoff : AgreeOffFlags raw raw') (h : loadRuntimeConfig py source raw = .ok cfg) :
    ∃ cfg', loadRuntimeConfig py source raw' = .ok (cfg' : ConfigMessage py) := by
  obtain ⟨msg, hbuild, hvalid⟩ := loadRuntimeConfig_eq_ok.1 h
  obtain ⟨fields, hfields, rfl⟩ := ConfigMessage.build_eq_ok.1 hbuild
  obtain ⟨cfg', hvalid'⟩ := ConfigMessage.validate_withAuthorization (loadAuthorization py raw') hvalid
  refine ⟨cfg', loadRuntimeConfig_eq_ok.2 ⟨_, ConfigMessage.build_eq_ok.2 ⟨fields, ?_, rfl⟩, hvalid'⟩⟩
  rw [hoff.loadFields_eq]
  exact hfields

/-- Turning a granted flag off adds no flag to the result exactly if another one is still granted. -/
theorem turned_off_iff {f : Flag} (h : loadRuntimeConfig py source raw = .ok cfg)
    (h' : loadRuntimeConfig py source raw' = .ok cfg') (hoff : AgreeOff f raw raw') (hf : raw.Grants py f)
    (hf' : flagValue py raw' f = some false) :
    (∀ g, cfg'.view.topicAuthorization g = true → cfg.view.topicAuthorization g = true) ↔ ∃ g, raw'.Grants py g := by
  constructor
  · intro hmono
    by_contra hnone
    have hall : ∀ g, g ≠ f → ¬raw.Grants py g := by
      intro g hgf hg
      refine hnone ⟨g, ?_⟩
      rw [Grants, hoff.flagValue_eq hgf.symm]
      exact hg
    have hother : ∃ g, g ≠ f := by
      by_cases hfile : f = .fileRead
      · exact ⟨.fileWrite, by rw [hfile]; decide⟩
      · exact ⟨.fileRead, Ne.symm hfile⟩
    obtain ⟨g, hgf⟩ := hother
    have hset := hmono g ((authorization_iff h' g).2 (.inr (not_exists.1 hnone)))
    rcases (authorization_iff h g).1 hset with hg | hg
    · exact hall g hgf hg
    · exact hg f hf
  · rintro ⟨w, hw⟩ g hg
    rcases (authorization_iff h' g).1 hg with hg' | hnone
    · have hgf : f ≠ g := by
        rintro rfl
        rw [Grants, hf'] at hg'
        cases hg'
      rw [Grants, hoff.flagValue_eq hgf] at hg'
      exact (authorization_iff h g).2 (.inl hg')
    · exact absurd hw (hnone w)

/-- For every mapping that is loaded. Denied flags come out false exactly if, unless there is none, a flag is granted
and no denied one is; a mapping with one more granted flag turned off is loaded too, and adds no flag exactly if one is
still granted; and with every flag denied some flag is set. -/
theorem load_denials_iff (h : loadRuntimeConfig py source raw = .ok cfg) :
    ((∀ f, raw.Denies py f → cfg.view.topicAuthorization f = false) ↔
        ∀ f, raw.Denies py f → ¬raw.Grants py f ∧ ∃ g, raw.Grants py g) ∧
      (∀ f raw', raw.Grants py f → flagValue py raw' f = some false → AgreeOff f raw raw' →
        ∃ cfg', loadRuntimeConfig py source raw' = .ok (cfg' : ConfigMessage py) ∧
          ((∀ g, cfg'.view.topicAuthorization g = true → cfg.view.topicAuthorization g = true) ↔
            ∃ g, raw'.Grants py g)) ∧
      ((∀ f, raw.Denies py f) → ∃ f, cfg.view.topicAuthorization f = true) := by
  refine ⟨denials_honoured_iff h, fun f raw' hf hf' hoff => ?_, fun _ => ?_⟩
  · obtain ⟨cfg', h'⟩ := hoff.flags.load h
    exact ⟨cfg', h', turned_off_iff h h' hoff hf hf'⟩
  · by_cases hsome : ∃ g, raw.Grants py g
    · obtain ⟨g, hg⟩ := hsome
      exact ⟨g, (authorization_iff h g).2 (.inl hg)⟩
    · exact ⟨.fileRead, (authorization_iff h _).2 (.inr (not_exists.1 hsome))⟩

/-! ### Mappings that set flags -/

/-- A section that sets flags, under the first of their keys. -/
def flagSection (v : Flag → Option Text) : Raw := fun k =>
  match Flag.fields.find? fun p => "cloud_allow_".toList ++ p.2 == k with
  | some p => (v p.1).map .str
  | none => none

def secretKey : Text := "serial_shared_secret".toList

/-- The raw values of the daemon when the section sets a secret and flags. -/
def withFlags (v : Flag → Option Text) : Raw :=
  (rawValues (getDefaultConfig .ascii) (some (Function.update (flagSection v) secretKey (some (.str "s3cr3t-key".toList))))
    none).1

theorem withFlags_keys (v : Flag → Option Text) (f : Flag) : ∀ k ∈ f.keys, withFlags v k = flagSection v k := by
  intro k hk
  have hsecret : k ≠ secretKey := by
    rintro rfl
    exact ConfigField.name_notMem_keys .serialSharedSecret f hk
  show (Function.update (flagSection v) secretKey _ k).or (getDefaultConfig .ascii k) = _
  rw [Function.update_of_ne hsecret, getDefaultConfig, ConfigMessage.toDict_keys _ f k hk, Option.or_none]

theorem flagSection_first (v : Flag → Option Text) (f : Flag) :
    flagSection v ("cloud_allow_".toList ++ f.name) = (v f).map .str := by
  have hall : ∀ p ∈ Flag.fields,
      (Flag.fields.find? fun q => "cloud_allow_".toList ++ q.2 == "cloud_allow_".toList ++ p.2) = some p := by
    decide +kernel
  unfold flagSection
  rw [hall _ f.mem_fields]

theorem flagSection_second (v : Flag → Option Text) (f : Flag) : flagSection v ("allow_".toList ++ f.name) = none := by
  have hnone : (Flag.fields.find? fun q => "cloud_allow_".toList ++ q.2 == "allow_".toList ++ f.name) = none := by
    refine List.find?_eq_none.2 fun q _ hq => ?_
    have hhead : some 'c' = some 'a' := congrArg List.head? (eq_of_beq hq)
    exact absurd hhead (by decide)
  unfold flagSection
  rw [hnone]

theorem withFlags_flagValue (v : Flag → Option Text) (f : Flag) :
    flagValue .ascii (withFlags v) f = (v f).map fun t => PyConv.ascii.coerceBool (.str t) := by
  have hfirst := withFlags_keys v f ("cloud_allow_".toList ++ f.name) (List.mem_cons_self ..)
  have hsecond := withFlags_keys v f ("allow_".toList ++ f.name) (List.mem_cons_of_mem _ (List.mem_singleton_self _))
  unfold flagValue Flag.keys
  rw [List.findSome?_cons, List.findSome?_cons, hfirst, hsecond, flagSection_first, flagSection_second]
  cases v f <;> rfl

/-- Such a mapping denies no flag that it grants. -/
theorem withFlags_denies {v : Flag → Option Text} {f : Flag} :
    (withFlags v).Denies .ascii f ↔ flagValue .ascii (withFlags v) f = some false := by
  refine ⟨?_, Denies.of_flagValue⟩
  rintro ⟨k, hk, x, hx, hfalse⟩
  rw [withFlags_keys v f k hk] at hx
  rw [withFlags_flagValue]
  rcases List.mem_cons.1 hk with rfl | hk
  · rw [flagSection_first] at hx
    obtain ⟨t, ht, rfl⟩ := Option.map_eq_some_iff.1 hx
    rw [ht]
    exact hfalse
  · rw [List.mem_singleton.1 hk, flagSection_second] at hx
    cases hx

theorem withFlags_agree (v w : Flag → Option Text) : AgreeOffFlags (withFlags v) (withFlags w) := by
  intro k hk
  have hnone : (Flag.fields.find? fun p => "cloud_allow_".toList ++ p.2 == k) = none := by
    refine List.find?_eq_none.2 fun p hp hkey => hk p.1 ?_
    have hname : p.2 = p.1.name := by
      have hall : ∀ p ∈ Flag.fields, p.2 = p.1.name := by decide +kernel
      exact hall p hp
    rw [← eq_of_beq hkey, hname]
    exact List.mem_cons_self ..
  have hsection : flagSection v k = flagSection w k := by
    unfold flagSection
    rw [hnone]
  show (Function.update (flagSection w) secretKey _ k).or _ = (Function.update (flagSection v) secretKey _ k).or _
  unfold Function.update
  rw [hsection]

theorem withFlags_load (v : Flag → Option Text) :
    ∃ cfg, loadRuntimeConfig .ascii .uci (withFlags v) = .ok cfg := by
  have hloads : (match loadRuntimeConfig .ascii .uci (withFlags fun _ => none) with
      | .ok _ => true
      | .error _ => false) = true := by decide +kernel
  split at hloads
  · rename_i cfg h
    exact (withFlags_agree _ v).load h
  · cases hloads

theorem load_denials_sample :
    let raw := withFlags fun f => some (if f = .fileRead then "0".toList else "1".toList)
    ∃ cfg, loadRuntimeConfig .ascii .uci raw = .ok cfg ∧ raw.Denies .ascii .fileRead ∧
      ∀ f, raw.Denies .ascii f → cfg.view.topicAuthorization f = false := by
  intro raw
  obtain ⟨cfg, h⟩ := withFlags_load fun f => some (if f = .fileRead then "0".toList else "1".toList)
  refine ⟨cfg, h, Denies.of_flagValue ?_, (load_denials_iff h).1.2 fun f hf => ⟨?_, .fileWrite, ?_⟩⟩
  · rw [withFlags_flagValue]
    decide +kernel
  · rw [Grants, withFlags_denies.1 hf]
    decide
  · rw [Grants, withFlags_flagValue]
    decide +kernel

/-- With every flag denied all come out granted; before the last granted one was turned off, the others did not. -/
theorem denials_dropped :
    let one := withFlags fun f => some (if f = .fileRead then "1".toList else "0".toList)
    let denied := withFlags fun _ => some "0".toList
    ∃ cfg cfg', loadRuntimeConfig .ascii .uci one = .ok cfg ∧ loadRuntimeConfig .ascii .uci denied = .ok cfg' ∧
      (∀ f, denied.Denies .ascii f) ∧ (∀ f, cfg'.view.topicAuthorization f = true) ∧
      cfg.view.topicAuthorization .fileWrite = false := by
  intro one denied
  obtain ⟨cfg, h⟩ := withFlags_load fun f => some (if f = .fileRead then "1".toList else "0".toList)
  obtain ⟨cfg', h'⟩ := withFlags_load fun _ => some "0".toList
  have hoff : ∀ f, flagValue .ascii denied f = some false := fun f => (withFlags_flagValue _ f).trans (by decide +kernel)
  have hread : one.Grants .ascii .fileRead := (withFlags_flagValue _ _).trans (by decide +kernel)
  have hwrite : ¬one.Grants .ascii .fileWrite := by
    rw [Grants, withFlags_flagValue]
    decide +kernel
  refine ⟨cfg, cfg', h, h', fun f => .of_flagValue (hoff f), fun f => ?_, ?_⟩
  · refine (authorization_iff h' f).2 (.inr fun g hg => ?_)
    rw [Grants, hoff] at hg
    cases hg
  · rw [← Bool.not_eq_true, authorization_iff h]
    exact not_or.2 ⟨hwrite, fun hnone => hnone _ hread⟩

end Raw
end Daemon
end McuBridge
