import McuBridge.Daemon.CommandNames
import McuBridge.Lib.LowerCase

/-! # The laws of `create_allowed_policy` (`protocol/structures.py`)

The entries of a policy are a function of the set of tokens in the configured texts (`createAllowedPolicy_eq`). The
white space of `str.strip`, of `str.split` and of `\s` is the same, and lower-casing leaves separators where they are, so
it does not matter that a text is lower-cased before it is cut. -/

namespace McuBridge
namespace Daemon
open Pieces

/-- What `_TOKEN_SEP` matches. -/
def isTokenSep (c : Char) : Bool := c == ',' || isPySpace c

/-- `str.strip` -/
def pyStrip (s : Text) : Text := (s.dropWhile isPySpace).rdropWhile isPySpace

theorem isWordChar_ascii {c : Char} (h : isWordChar c = true) : c.toNat < 128 := by
  have hchar : c.isLower = true ∨ c = '_' := by simpa [isWordChar] using h
  rcases hchar with hl | rfl
  · have hle : c.toNat ≤ 122 := by
      simpa [UInt32.le_iff_toNat_le] using (Bool.and_eq_true_iff.1 hl).2
    omega
  · decide

/-- Python's text functions, with `lower` by the tables `U`. -/
def PyText.withCase (py : PyText) (U : CaseTable) (hU : U.Documented) : PyText :=
  { py with
    lower := U.lowerText
    strip := pyStrip
    lower_word := fun {w} hw => CaseTable.lowerFrom_of_fixed fun c hc => by
      have hchar := List.all_eq_true.1 hw c hc
      have hascii : c.toNat < 128 := isWordChar_ascii hchar
      refine ⟨?_, ?_⟩
      · rintro rfl
        cases hchar
      · rw [hU.ascii c hascii, toLower_word hchar] }

/-- The tokens between commas and white space, in lower case. -/
def policyTokens (U : CaseTable) (entries : List Text) : List Text :=
  entries.flatMap fun c => (pieces isTokenSep c).map U.lowerText

def collapseTokens (tokens : List Text) : List Text :=
  if ['*'] ∈ tokens then [['*']] else tokens.dedup.insertionSort fun a b => a ≤ b

/-! ### Entries -/

theorem mem_collapseTokens {tokens : List Text} {t : Text} (h : t ∈ collapseTokens tokens) : t ∈ tokens := by
  unfold collapseTokens at h
  split at h
  case isTrue hwild => exact List.mem_singleton.1 h ▸ hwild
  case isFalse => exact List.mem_dedup.1 ((List.mem_insertionSort _).1 h)

theorem mem_collapseTokens_iff {tokens : List Text} (hwild : ['*'] ∉ tokens) (t : Text) :
    t ∈ collapseTokens tokens ↔ t ∈ tokens := by
  rw [collapseTokens, if_neg hwild, List.mem_insertionSort, List.mem_dedup]

/-- The entries depend on the set of tokens only. -/
theorem collapseTokens_congr {l l' : List Text} (h : ∀ t, t ∈ l ↔ t ∈ l') : collapseTokens l = collapseTokens l' := by
  unfold collapseTokens
  rw [if_congr (h _) rfl rfl]
  congr 1
  have hperm : l.dedup.Perm l'.dedup := by
    refine (List.perm_ext_iff_of_nodup l.nodup_dedup l'.nodup_dedup).2 fun t => ?_
    rw [List.mem_dedup, List.mem_dedup, h]
  refine List.Perm.eq_of_pairwise' (List.pairwise_insertionSort _ _) (List.pairwise_insertionSort _ _) ?_
  exact (List.perm_insertionSort _ _).trans (hperm.trans (List.perm_insertionSort _ _).symm)

theorem collapseTokens_collapseTokens (l : List Text) : collapseTokens (collapseTokens l) = collapseTokens l := by
  by_cases hwild : ['*'] ∈ l
  · have hentries : collapseTokens l = [['*']] := if_pos hwild
    rw [hentries]
    rfl
  · exact collapseTokens_congr (mem_collapseTokens_iff hwild)

variable {U : CaseTable} {hU : U.Documented}

theorem createAllowedPolicy_eq (py : PyText) (hsep : U.Separators isTokenSep) (entries : List Text) :
    createAllowedPolicy (py.withCase U hU) isPySpace entries = collapseTokens (policyTokens U entries) := by
  have hspace : ∀ c, isPySpace c = true → isTokenSep c = true := fun c h => by simp [isTokenSep, h]
  have htokens : (entries.flatMap fun c => pieces isTokenSep (U.lowerText (pyStrip c))) = policyTokens U entries := by
    refine List.flatMap_congr fun c _ => ?_
    rw [hsep.pieces_lowerText hU, pyStrip, pieces_rdropWhile hspace, pieces_dropWhile hspace]
  show collapseTokens (entries.flatMap fun c => pieces isTokenSep (U.lowerText (pyStrip c))) = _
  rw [htokens]

theorem policyTokens_of_tokens (hU : U.Documented) (hsep : U.Separators isTokenSep) {entries l : List Text}
    (h : ∀ t ∈ l, t ∈ policyTokens U entries) : policyTokens U l = l := by
  induction l with
  | nil => rfl
  | cons t l ih =>
    obtain ⟨c, -, hmem⟩ := List.mem_flatMap.1 (h t List.mem_cons_self)
    obtain ⟨w, hw, rfl⟩ := List.mem_map.1 hmem
    obtain ⟨hne, hplain⟩ := mem_pieces hw
    have hpieces : pieces isTokenSep (U.lowerText w) = [U.lowerText w] :=
      pieces_of_forall (fun hnil => hne (hU.lowerText_eq_nil.1 hnil)) (hsep.lowerText hplain)
    have hrest := ih fun t ht => h t (List.mem_cons_of_mem _ ht)
    unfold policyTokens at hrest ⊢
    rw [List.flatMap_cons, hpieces, List.map_singleton, hU.lowerText_lowerText, hrest]
    rfl

theorem createAllowedPolicy_idem (py : PyText) (hsep : U.Separators isTokenSep) (entries : List Text) :
    createAllowedPolicy (py.withCase U hU) isPySpace (createAllowedPolicy (py.withCase U hU) isPySpace entries) =
      createAllowedPolicy (py.withCase U hU) isPySpace entries := by
  rw [createAllowedPolicy_eq py hsep entries, createAllowedPolicy_eq py hsep]
  rw [policyTokens_of_tokens hU hsep fun t ht => mem_collapseTokens ht]
  exact collapseTokens_collapseTokens _

/-- Normalising a configuration twice changes nothing. -/
theorem RuntimeConfig.normalize_normalize (py : PyText) (hsep : U.Separators isTokenSep) (cfg : RuntimeConfig) :
    (cfg.normalize (py.withCase U hU) isPySpace).normalize (py.withCase U hU) isPySpace =
      cfg.normalize (py.withCase U hU) isPySpace := by
  have hflags : ∀ auth : TopicAuthorization,
      (if Flag.fields.any fun f => (if Flag.fields.any fun f => auth f.1 then auth else fun _ => true) f.1 then
        (if Flag.fields.any fun f => auth f.1 then auth else fun _ => true) else fun _ => true) =
        if Flag.fields.any fun f => auth f.1 then auth else fun _ => true := by
    intro auth
    by_cases hany : (Flag.fields.any fun f => auth f.1) = true
    · simp only [if_pos hany]
    · simp only [if_neg hany, ite_self]
  unfold normalize
  dsimp only
  rw [createAllowedPolicy_idem py hsep, hflags]

/-! ### Commands -/

theorem isPySpace_toLower (c : Char) : isPySpace c.toLower = isPySpace c :=
  CaseTable.apply_toLower isPySpace (by decide) c

theorem Cut.recase {command before word word' after : Text} (h : Cut command before word after)
    (hcase : word'.map Char.toLower = word.map Char.toLower) :
    Cut (before ++ (word' ++ after)) before word' after := by
  refine ⟨rfl, fun hnil => h.nothing ?_, h.before, fun c hc => ?_, h.after⟩
  · rw [hnil, List.map_nil] at hcase
    exact List.map_eq_nil_iff.1 hcase.symm
  · obtain ⟨d, hd, hlower⟩ := List.mem_map.1 (hcase ▸ List.mem_map_of_mem hc : c.toLower ∈ word.map Char.toLower)
    rw [← isPySpace_toLower, ← hlower, isPySpace_toLower]
    exact h.word d hd

namespace CommandPolicy
variable {p p' : CommandPolicy} {command before word word' after : Text}

theorem isCommandAllowed_iff :
    p.isCommandAllowed command = true ↔ ∃ piece, (commandPieces command).head? = some piece ∧ p.Lists piece := by
  refine ⟨allowed_pieces, ?_⟩
  rintro ⟨piece, hpiece, hlists⟩
  obtain ⟨rest, hrest⟩ := List.head?_eq_some_iff.1 hpiece
  unfold isCommandAllowed
  rw [hrest]
  dsimp only
  rw [Bool.or_eq_true, List.any_eq_true]
  exact hlists

theorem isCommandAllowed_recase (h : Cut command before word after)
    (hcase : word'.map Char.toLower = word.map Char.toLower) (hlower : p.lower word' = p.lower word) :
    p.isCommandAllowed (before ++ (word' ++ after)) = p.isCommandAllowed command := by
  have h' := h.recase hcase
  by_cases hne : word = []
  · obtain rfl : word' = [] := by
      rw [hne, List.map_nil] at hcase
      exact List.map_eq_nil_iff.1 hcase
    rw [h.parts, hne]
  · have hne' : word' ≠ [] := by
      rintro rfl
      exact hne (List.map_eq_nil_iff.1 hcase.symm)
    have hlists : p.Lists word' ↔ p.Lists word := by
      unfold Lists
      rw [hlower]
    rw [Bool.eq_iff_iff, isCommandAllowed_iff, isCommandAllowed_iff, h.pieces hne, h'.pieces hne']
    simp [hlists]

theorem isCommandAllowed_space (hbefore : ∀ c ∈ before, isPySpace c = true) (hafter : ∀ c ∈ after, isPySpace c = true) :
    p.isCommandAllowed (before ++ (command ++ after)) = p.isCommandAllowed command := by
  have hpieces : commandPieces (before ++ (command ++ after)) = commandPieces command :=
    (commandPieces_append hbefore _).trans (pieces_append_seps hafter command)
  unfold isCommandAllowed
  rw [hpieces]

/-- What a policy lists, it still lists with more entries configured. -/
theorem Lists.append {py : PyText} {fnmatch : Text → Text → Bool} (hsep : U.Separators isTokenSep) {A : List Text}
    (B : List Text) {program : Text} (h : (create (py.withCase U hU) fnmatch A).Lists program) :
    (create (py.withCase U hU) fnmatch (A ++ B)).Lists program := by
  have hA : (create (py.withCase U hU) fnmatch A).entries = collapseTokens (policyTokens U A) :=
    createAllowedPolicy_eq py hsep A
  have hAB : (create (py.withCase U hU) fnmatch (A ++ B)).entries = collapseTokens (policyTokens U (A ++ B)) :=
    createAllowedPolicy_eq py hsep (A ++ B)
  have hmem : ∀ t ∈ (create (py.withCase U hU) fnmatch A).entries, t ∈ policyTokens U (A ++ B) := by
    intro t ht
    rw [hA] at ht
    rw [policyTokens, List.flatMap_append]
    exact List.mem_append_left _ (mem_collapseTokens ht)
  by_cases hwild : ['*'] ∈ policyTokens U (A ++ B)
  · refine .inl ?_
    rw [hAB, collapseTokens, if_pos hwild]
    rfl
  · rcases h with hstar | ⟨entry, hentry, hmatch⟩
    · exact absurd (hmem _ (List.contains_iff_mem.1 hstar)) hwild
    · exact .inr ⟨entry, by rw [hAB]; exact (mem_collapseTokens_iff hwild entry).2 (hmem entry hentry), hmatch⟩

end CommandPolicy

/-! ### Statement -/

/-- The laws of `create` for the texts `A` and `B`: it is idempotent, it depends on the set of tokens only, more texts
admit more commands, and neither the case of ASCII letters in the first word nor white space at the ends of a command
matters. -/
structure PolicyLaws (U : CaseTable) (create : List Text → CommandPolicy) (A B : List Text) : Prop where
  idempotent : create (create A).entries = create A
  tokens : (∀ t, t ∈ policyTokens U A ↔ t ∈ policyTokens U B) → create A = create B
  monotone : ∀ command, (create A).isCommandAllowed command = true → (create (A ++ B)).isCommandAllowed command = true
  letterCase : ∀ command before word after word', Cut command before word after →
    word'.map Char.toLower = word.map Char.toLower →
    (create A).isCommandAllowed (before ++ (word' ++ after)) = (create A).isCommandAllowed command
  whiteSpace : ∀ command before after, (∀ c ∈ before, isPySpace c = true) → (∀ c ∈ after, isPySpace c = true) →
    (create A).isCommandAllowed (before ++ (command ++ after)) = (create A).isCommandAllowed command

theorem policy_laws (U : CaseTable) (hU : U.Documented) (hsep : U.Separators isTokenSep) (py : PyText)
    (fnmatch : Text → Text → Bool) (A B : List Text) :
    PolicyLaws U (CommandPolicy.create (py.withCase U hU) fnmatch) A B where
  idempotent := by
    unfold CommandPolicy.create
    rw [createAllowedPolicy_idem py hsep]
  tokens h := by
    unfold CommandPolicy.create
    rw [createAllowedPolicy_eq py hsep, createAllowedPolicy_eq py hsep, collapseTokens_congr h]
  monotone command h := by
    obtain ⟨piece, hpiece, hlists⟩ := CommandPolicy.isCommandAllowed_iff.1 h
    exact CommandPolicy.isCommandAllowed_iff.2 ⟨piece, hpiece, hlists.append hsep B⟩
  letterCase command before word after word' hcut hcase :=
    CommandPolicy.isCommandAllowed_recase hcut hcase (hU.lowerText_eq hcase)
  whiteSpace command before after hbefore hafter := CommandPolicy.isCommandAllowed_space hbefore hafter

theorem ascii_separators : CaseTable.ascii.Separators isTokenSep where
  neutral c h := by
    have hnum : c.toNat ≠ 0x3A3 ∧ ¬ (65 ≤ c.toNat ∧ c.toNat ≤ 90) ∧ ¬ (97 ≤ c.toNat ∧ c.toNat ≤ 122) ∧
        c.toNat ∉ [0x27, 0x2E, 0x3A, 0x5E, 0x60] := by
      have hsep : c = ',' ∨ isPySpace c = true := by simpa [isTokenSep] using h
      rcases hsep with rfl | hspace
      · decide
      · simp only [isPySpace, Bool.or_eq_true, Bool.and_eq_true, decide_eq_true_eq, beq_iff_eq] at hspace
        simp only [List.mem_cons, List.not_mem_nil, or_false]
        omega
    obtain ⟨hsigma, hupper, hlower, hignorable⟩ := hnum
    have halpha : c.isAlpha ≠ true := by
      rw [Ne, CaseTable.isAlpha_iff]
      exact not_or.2 ⟨hupper, hlower⟩
    refine ⟨fun heq => hsigma (heq ▸ rfl), ?_, ?_, ?_⟩
    · exact congrArg (fun d => [d]) (Char.toLower_eq_of_not_isUpper fun h => halpha (CaseTable.isAlpha_of_isUpper h))
    · exact Bool.eq_false_iff.2 halpha
    · simpa [CaseTable.ascii] using hignorable
  of_lower c d hd h := by
    obtain rfl : d = c.toLower := List.mem_singleton.1 hd
    rwa [CaseTable.apply_toLower isTokenSep (by decide)] at h
  small := by decide
  final := by decide

theorem policy_laws_sample :
    (CommandPolicy.create (PyText.ascii.withCase .ascii CaseTable.ascii_documented) (· == ·)
      (["LS, cat".toList] ++ ["df".toList])).isCommandAllowed " Ls -l".toList = true := by
  have hlaws := policy_laws .ascii CaseTable.ascii_documented ascii_separators .ascii (· == ·) ["LS, cat".toList]
    ["df".toList]
  exact hlaws.monotone _ (by decide +kernel)

end Daemon
end McuBridge
