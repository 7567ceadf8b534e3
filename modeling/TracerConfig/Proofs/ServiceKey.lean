import TracerConfig.Proofs.Text
import TracerConfig.ServiceKey

/-!
# Normalized and well-formed service keys

Main statements:
* `isValid_iff`: the agent accepts exactly the well-formed keys.
* `normalize_normalize`: a normalized key stays as it is.
* `WellFormed.exists_name`: the name of a key that is well-formed and normalized holds name
  characters only.
-/

namespace TracerConfig.ServiceKey

/-- 64 hexadecimal digits, a colon, and a name of 1 to 255 characters. -/
def WellFormed (key : String) : Prop :=
  ∃ token name : List Char,
    key.toList = token ++ ':' :: name ∧ token.length = 64 ∧
      (∀ c ∈ token, isHexDigit c = true) ∧ name ≠ [] ∧ name.length ≤ 255

/-- The first colon of a key ends its token; the name follows. -/
structure Parts (key : String) (token name : List Char) : Prop where
  toList_eq : key.toList = token ++ ':' :: name
  colon_notMem : ':' ∉ token

/-- A key has one token and one name. -/
theorem Parts.unique {key : String} {token name token' name' : List Char}
    (h : Parts key token name) (h' : Parts key token' name') : token = token' ∧ name = name' := by
  have hsplit := Text.splitOnce_append h.colon_notMem name
  rw [← h.toList_eq, h'.toList_eq, Text.splitOnce_append h'.colon_notMem] at hsplit
  cases hsplit
  exact ⟨rfl, rfl⟩

theorem notMem_of_forall {p : Char → Bool} {c : Char} {cs : List Char} (hc : p c = false)
    (h : ∀ d ∈ cs, p d = true) : c ∉ cs := by
  intro hmem
  rw [h c hmem] at hc
  cases hc

theorem colon_notMem_of_hex {token : List Char} (h : ∀ c ∈ token, isHexDigit c = true) :
    ':' ∉ token := notMem_of_forall (by decide) h

/-- The agent accepts exactly the well-formed keys. -/
theorem isValid_iff {key : String} : isValid key = true ↔ WellFormed key := by
  unfold isValid isValidList WellFormed
  constructor
  · intro h
    split at h
    · cases h
    · next token name hsplit =>
      obtain ⟨hkey, _⟩ := Text.splitOnce_eq_some_iff.mp hsplit
      simp only [Bool.and_eq_true, beq_iff_eq, List.all_eq_true, Bool.not_eq_true',
        List.isEmpty_eq_false_iff, decide_eq_true_eq] at h
      obtain ⟨⟨⟨hlen, hhex⟩, hname⟩, hmax⟩ := h
      exact ⟨token, name, hkey, hlen, hhex, hname, hmax⟩
  · rintro ⟨token, name, hkey, hlen, hhex, hname, hmax⟩
    rw [hkey, Text.splitOnce_append (colon_notMem_of_hex hhex)]
    simp only [Bool.and_eq_true, beq_iff_eq, List.all_eq_true, Bool.not_eq_true',
      List.isEmpty_eq_false_iff, decide_eq_true_eq]
    exact ⟨⟨⟨hlen, hhex⟩, hname⟩, hmax⟩

theorem WellFormed.ne_empty {key : String} (h : WellFormed key) : key ≠ "" := by
  obtain ⟨token, name, hkey, _⟩ := h
  rintro rfl
  exact absurd hkey.symm (by simp)

/-! ## Normalization -/

theorem isBlank_of_isNameChar {c : Char} (h : isNameChar c = true) : Text.isBlank c = false := by
  simp only [isNameChar, Bool.or_eq_true, Bool.and_eq_true, decide_eq_true_eq, beq_iff_eq] at h
  rcases h with ((((⟨hlow, hhigh⟩ | ⟨hlow, hhigh⟩) | rfl) | rfl) | rfl) | rfl
  · exact Text.isBlank_of_visible (Char.le_trans (by decide) hlow) (Char.le_trans hhigh (by decide))
  · exact Text.isBlank_of_visible (Char.le_trans (by decide) hlow) (Char.le_trans hhigh (by decide))
  all_goals decide

theorem foldName_eq_self {name : List Char} (h : ∀ c ∈ name, isNameChar c = true) :
    foldName name = name := by
  unfold foldName
  induction name with
  | nil => rfl
  | cons c cs ih =>
    have hc := h c (List.mem_cons_self ..)
    have hfold : foldNameChar c = some c := by simp [foldNameChar, hc]
    rw [List.filterMap_cons_some hfold, ih fun d hd => h d (List.mem_cons_of_mem _ hd)]

/-- A key without a name part is only trimmed; of any other one the name is folded. -/
theorem normalizeList_cases (key : List Char) :
    (':' ∉ Text.trim key ∧ normalizeList key = Text.trim key) ∨
      ∃ token name, Text.trim key = token ++ ':' :: name ∧ ':' ∉ token ∧
        normalizeList key = token ++ ':' :: foldName name := by
  cases hsplit : Text.splitOnce ':' (Text.trim key) with
  | none =>
    refine .inl ⟨Text.splitOnce_eq_none_iff.mp hsplit, ?_⟩
    simp only [normalizeList, hsplit]
  | some parts =>
    obtain ⟨token, name⟩ := parts
    obtain ⟨htrim, htoken⟩ := Text.splitOnce_eq_some_iff.mp hsplit
    refine .inr ⟨token, name, htrim, htoken, ?_⟩
    simp only [normalizeList, hsplit]

theorem trimmed_normalizeList (key : List Char) : Text.Trimmed (normalizeList key) := by
  rcases normalizeList_cases key with ⟨_, h⟩ | ⟨token, name, htrim, _, h⟩
  · rw [h]
    exact Text.trimmed_trim key
  · rw [h]
    have ht := Text.trimmed_trim key
    rw [htrim] at ht
    constructor
    · -- the first character is that of the trimmed key
      intro c hc
      apply ht.1 c
      cases token with
      | nil => exact hc
      | cons d ds => exact hc
    · -- the last one is the colon or a name character
      intro c hc
      have hmem : c ∈ ':' :: foldName name := by
        rw [List.getLast?_append_of_ne_nil _ (by simp)] at hc
        exact List.mem_of_getLast? hc
      rcases List.mem_cons.mp hmem with rfl | hname
      · decide
      · exact isBlank_of_isNameChar (List.all_eq_true.mp (all_isNameChar_foldName name) c hname)

/-- What is normalized stays as it is. -/
theorem normalizeList_normalizeList (key : List Char) :
    normalizeList (normalizeList key) = normalizeList key := by
  have htrim := Text.trim_eq_self (trimmed_normalizeList key)
  rcases normalizeList_cases key with ⟨hcolon, h⟩ | ⟨token, name, _, htoken, h⟩
  · rw [h] at htrim ⊢
    rw [normalizeList, htrim, Text.splitOnce_eq_none hcolon]
  · rw [h] at htrim ⊢
    rw [normalizeList, htrim, Text.splitOnce_append htoken]
    simp only [foldName_eq_self (List.all_eq_true.mp (all_isNameChar_foldName name))]

/-- A normalized key stays as it is. -/
theorem normalize_normalize (key : String) : normalize (normalize key) = normalize key := by
  simp only [normalize, String.toList_ofList, normalizeList_normalizeList]

/-- Only a blank key is normalized to nothing. -/
theorem normalize_eq_empty_iff {key : String} :
    normalize key = "" ↔ ∀ c ∈ key.toList, Text.isBlank c = true := by
  rw [← Text.trim_eq_nil_iff, normalize, ← String.toList_inj, String.toList_ofList,
    String.toList_empty]
  rcases normalizeList_cases key.toList with ⟨_, h⟩ | ⟨token, name, htrim, _, h⟩
  · rw [h]
  · -- the separator stays, and it stood in the trimmed key
    rw [h, htrim]
    simp

theorem normalize_empty : normalize "" = "" := by decide +kernel

/-- The parts of a key that is well-formed and normalized. -/
theorem WellFormed.exists_name {key : String} (h : WellFormed key) (hn : normalize key = key) :
    ∃ token name : List Char,
      key.toList = token ++ ':' :: name ∧ token.length = 64 ∧
        (∀ c ∈ token, isHexDigit c = true) ∧ name ≠ [] ∧ name.length ≤ 255 ∧
        ∀ c ∈ name, isNameChar c = true := by
  obtain ⟨token, name, hkey, hlen, hhex, hne, hmax⟩ := h
  refine ⟨token, name, hkey, hlen, hhex, hne, hmax, ?_⟩
  have htoken := colon_notMem_of_hex hhex
  -- normalization splits the key at the same colon, so the name is a folded one
  have hnl : normalizeList key.toList = token ++ ':' :: name := by
    rw [← hkey, ← String.toList_ofList (l := normalizeList key.toList)]
    exact congrArg String.toList hn
  rcases normalizeList_cases key.toList with ⟨hcolon, heq⟩ | ⟨token', name', _, htoken', heq⟩
  · rw [← heq, hnl] at hcolon
    simp at hcolon
  · rw [hnl] at heq
    have hs := Text.splitOnce_append htoken name
    rw [heq, Text.splitOnce_append htoken'] at hs
    cases hs
    exact List.all_eq_true.mp (all_isNameChar_foldName name')

end TracerConfig.ServiceKey
