import TracerConfig.Proofs.ServiceKey
import TracerConfig.Unicode.LowerCase

/-!
# What normalization does to a key

Normalization takes the blanks off a key and leaves its token alone. The name it puts in lower
case, by the rules of Unicode; it turns spaces into dashes, and removes whatever is no name
character then. Lower case forms can be longer than what they stand for, and characters beyond
ASCII can have forms in ASCII: the dotted capital I has two characters as its form, of which one is
a letter of ASCII, and the form of the Kelvin sign is the letter k. There are no other such
characters, so a name never becomes longer.

Main statements:
* `foldName_eq_lowerCase`: folding a name is lower case, dashes for spaces, and removal.
* `isValid_normalize_iff`: the normalized keys that the agent accepts.
* `normalize_outcome`: the outcome for every key.
-/

namespace TracerConfig

/-! ## Lower case forms beyond ASCII -/

namespace Unicode

/-- The forms of a run are characters beyond ASCII. -/
def LowerCaseRun.StaysForeign (r : LowerCaseRun) : Prop :=
  128 ≤ r.first + r.distance ∧
    (r.last + r.distance < 0xD800 ∨
      0xDFFF < r.first + r.distance ∧ r.last + r.distance < 0x110000)

instance (r : LowerCaseRun) : Decidable r.StaysForeign :=
  inferInstanceAs (Decidable (_ ∧ _))

/-- Only the Kelvin sign is beyond ASCII and has a form that is not. -/
theorem staysForeign_of_mem : ∀ r ∈ lowerCaseRuns,
    r.last < 128 ∨ (r.first = 0x212A ∧ r.last = 0x212A) ∨ r.StaysForeign := by
  decide +kernel

theorem LowerCaseRun.form?_eq_some {r : LowerCaseRun} {n m : Nat} (h : r.form? n = some m) :
    r.first ≤ n ∧ n ≤ r.last ∧ (n + r.distance).toNat = m := by
  rw [LowerCaseRun.form?] at h
  split at h
  · next hn =>
    simp only [Bool.and_eq_true, decide_eq_true_eq] at hn
    exact ⟨hn.1.1, hn.1.2, Option.some.inj h⟩
  · cases h

theorem LowerCaseRun.StaysForeign.form {r : LowerCaseRun} (hr : r.StaysForeign) {n m : Nat}
    (h : r.form? n = some m) : 128 ≤ m ∧ m.isValidChar := by
  obtain ⟨hfirst, hlast, rfl⟩ := LowerCaseRun.form?_eq_some h
  obtain ⟨hlow, hrange⟩ := hr
  refine ⟨by omega, ?_⟩
  rcases hrange with hrange | ⟨hafter, hbefore⟩
  · exact .inl (by omega)
  · exact .inr ⟨by omega, by omega⟩

/-- A character beyond ASCII has a form beyond ASCII. -/
theorem foreign_lowerCaseOf {c d : Char} (hc : 128 ≤ c.toNat) (hi : c ≠ '\u0130')
    (hk : c ≠ '\u212A') (hd : d ∈ lowerCaseOf c) : 128 ≤ d.toNat := by
  rw [lowerCaseOf, if_neg hi] at hd
  cases hform : lowerCaseRuns.findSome? (·.form? c.toNat) with
  | none =>
    rw [hform, List.mem_singleton] at hd
    rwa [hd]
  | some m =>
    rw [hform, List.mem_singleton] at hd
    obtain ⟨r, hr, hm⟩ := List.exists_of_findSome?_eq_some hform
    obtain ⟨hfirst, hlast, -⟩ := LowerCaseRun.form?_eq_some hm
    rcases staysForeign_of_mem r hr with hascii | ⟨hkelvin, hkelvin'⟩ | hforeign
    · omega
    · have hn : c.toNat = 0x212A := by omega
      exact absurd (Char.toNat_inj.mp hn) hk
    · obtain ⟨hm, hvalid⟩ := hforeign.form hm
      rw [hd, Char.ofNat, dif_pos hvalid]
      exact hm

end Unicode

namespace ServiceKey

/-! ## Names -/

/-- A dash for a space. -/
def dashed (c : Char) : Char := if c = ' ' then '-' else c

theorem toNat_lt_of_isNameChar {c : Char} (h : isNameChar c = true) : c.toNat < 128 := by
  simp only [isNameChar, Bool.or_eq_true, Bool.and_eq_true, decide_eq_true_eq, beq_iff_eq] at h
  rcases h with ((((⟨-, h⟩ | ⟨-, h⟩) | rfl) | rfl) | rfl) | rfl
  · exact Nat.lt_of_le_of_lt (UInt32.le_iff_toNat_le.mp h) (by decide)
  · exact Nat.lt_of_le_of_lt (UInt32.le_iff_toNat_le.mp h) (by decide)
  all_goals decide

/-- Nothing is left of characters beyond ASCII. -/
theorem filter_dashed_of_foreign {cs : List Char} (h : ∀ c ∈ cs, 128 ≤ c.toNat) :
    (cs.map dashed).filter isNameChar = [] := by
  rw [List.filter_eq_nil_iff]
  intro d hd hname
  obtain ⟨c, hc, rfl⟩ := List.mem_map.mp hd
  have hforeign := h c hc
  have hself : dashed c = c := by
    refine if_neg ?_
    rintro rfl
    exact absurd hforeign (by decide)
  rw [hself] at hname
  exact absurd (toNat_lt_of_isNameChar hname) (Nat.not_lt.mpr hforeign)

theorem foldNameChar_of_foreign {c : Char} (hc : 128 ≤ c.toNat) (hi : c ≠ '\u0130')
    (hk : c ≠ '\u212A') : foldNameChar c = none := by
  have hname : isNameChar c = false := by
    by_contra h
    exact absurd (toNat_lt_of_isNameChar (Bool.not_eq_false _ ▸ h)) (Nat.not_lt.mpr hc)
  have hupper : ('A' ≤ c && c ≤ 'Z') = false := by
    rw [Bool.and_eq_false_iff, decide_eq_false_iff_not, decide_eq_false_iff_not]
    refine .inr fun hz => ?_
    have hle : c.toNat ≤ 90 := UInt32.le_iff_toNat_le.mp hz
    omega
  have hspace : c ≠ ' ' := by
    rintro rfl
    exact absurd hc (by decide)
  rw [foldNameChar, hname, hupper, if_neg Bool.false_ne_true, if_neg Bool.false_ne_true,
    if_neg hspace, if_neg hi, if_neg hk]

/-- Folding a character is lower case, a dash for a space, and removal of what is no name
character. -/
theorem toList_foldNameChar (c : Char) :
    (foldNameChar c).toList = ((Unicode.lowerCaseOf c).map dashed).filter isNameChar := by
  have hascii : ∀ n : Fin 128, (foldNameChar (Char.ofNat n)).toList =
      ((Unicode.lowerCaseOf (Char.ofNat n)).map dashed).filter isNameChar := by
    decide +kernel
  by_cases hc : c.toNat < 128
  · have h := hascii ⟨c.toNat, hc⟩
    rwa [Char.ofNat_toNat] at h
  by_cases hi : c = '\u0130'
  · subst hi
    decide +kernel
  by_cases hk : c = '\u212A'
  · subst hk
    decide +kernel
  have hforeign := Nat.not_lt.mp hc
  rw [foldNameChar_of_foreign hforeign hi hk,
    filter_dashed_of_foreign fun d hd => Unicode.foreign_lowerCaseOf hforeign hi hk hd]
  rfl

/-- Folding a name is lower case, dashes for spaces, and removal of what is no name character. -/
theorem foldName_eq_lowerCase (name : List Char) :
    foldName name = ((Unicode.lowerCase name).map dashed).filter isNameChar := by
  suffices h : ∀ before, foldName name =
      ((Unicode.lowerCaseFrom before name).map dashed).filter isNameChar from h []
  induction name with
  | nil => exact fun _ => rfl
  | cons c cs ih =>
    intro before
    have hcons : foldName (c :: cs) = (foldNameChar c).toList ++ foldName cs := by
      rw [foldName, List.filterMap_cons]
      cases foldNameChar c <;> rfl
    rw [hcons, Unicode.lowerCaseFrom, List.map_append, List.filter_append, ← ih (c :: before)]
    congr 1
    split
    · -- neither form of a sigma is a name character
      next hsigma =>
      subst hsigma
      split <;> decide
    · exact toList_foldNameChar c

/-! ## Keys -/

theorem isBlank_of_isHexDigit {c : Char} (h : isHexDigit c = true) : Text.isBlank c = false := by
  simp only [isHexDigit, Bool.or_eq_true, Bool.and_eq_true, decide_eq_true_eq] at h
  rcases h with (⟨hlow, hhigh⟩ | ⟨hlow, hhigh⟩) | ⟨hlow, hhigh⟩ <;>
    exact Text.isBlank_of_visible (Char.le_trans (by decide) hlow) (Char.le_trans hhigh (by decide))

/-- Of a key that begins with a token, only the name can have blanks to take off. -/
theorem exists_trim_eq {token : List Char} (hne : token ≠ [])
    (hhex : ∀ c ∈ token, isHexDigit c = true) (name : List Char) :
    ∃ name', name'.length ≤ name.length ∧
      Text.trim (token ++ ':' :: name) = token ++ ':' :: name' := by
  refine ⟨Text.trimEnd name, (List.rdropWhile_prefix _ _).length_le, Text.trim_eq_iff.mpr
    ⟨⟨?_, ?_⟩, [], name.rtakeWhile Text.isBlank, ?_, nofun, ?_⟩⟩
  · intro c hc
    cases token with
    | nil => exact absurd rfl hne
    | cons d ds =>
      cases hc
      exact isBlank_of_isHexDigit (hhex _ (List.mem_cons_self ..))
  · -- the last character is the colon, or one of the name that trimming keeps
    intro c hc
    rw [List.getLast?_append_of_ne_nil _ (List.cons_ne_nil _ _), List.getLast?_cons] at hc
    cases hname : (Text.trimEnd name).getLast? with
    | none =>
      rw [hname] at hc
      cases hc
      decide
    | some d =>
      rw [hname] at hc
      cases hc
      exact Text.isBlank_of_getLast?_trimEnd hname
  · rw [Text.trimEnd_eq_rdropWhile, List.nil_append, List.append_assoc, List.cons_append,
      List.rdropWhile_append_rtakeWhile]
  · intro c hc
    rw [List.rtakeWhile, List.mem_reverse] at hc
    exact List.mem_takeWhile_imp hc

/-- Of a key with a name the token stays, and the name is folded. -/
theorem Parts.normalize {key : String} {token name : List Char}
    (h : Parts (Text.trimmed key) token name) :
    Parts (ServiceKey.normalize key) token (foldName name) where
  toList_eq := by
    have htrim := h.toList_eq
    rw [Text.trimmed, String.toList_ofList] at htrim
    rw [ServiceKey.normalize, String.toList_ofList, normalizeList, htrim,
      Text.splitOnce_append h.colon_notMem]
  colon_notMem := h.colon_notMem

/-- A key without a name is trimmed. -/
theorem normalize_of_colon_notMem {key : String} (h : ':' ∉ (Text.trimmed key).toList) :
    normalize key = Text.trimmed key := by
  rw [Text.trimmed, String.toList_ofList] at h
  rw [normalize, normalizeList, Text.splitOnce_eq_none h, Text.trimmed]

/-- The normalized keys that the agent accepts. -/
theorem isValid_normalize_iff {key : String} :
    isValid (normalize key) = true ↔
      ∃ token name : List Char, (normalize key).toList = token ++ ':' :: name ∧
        token.length = 64 ∧ (∀ c ∈ token, isHexDigit c = true) ∧
        1 ≤ name.length ∧ name.length ≤ 255 ∧ ∀ c ∈ name, isNameChar c = true := by
  rw [isValid_iff]
  constructor
  · intro h
    obtain ⟨token, name, hkey, hlen, hhex, hne, hmax, hname⟩ :=
      h.exists_name (normalize_normalize key)
    exact ⟨token, name, hkey, hlen, hhex, List.length_pos_iff.mpr hne, hmax, hname⟩
  · rintro ⟨token, name, hkey, hlen, hhex, hpos, hmax, -⟩
    exact ⟨token, name, hkey, hlen, hhex, List.length_pos_iff.mp hpos, hmax⟩

/-- A key that the agent accepts is accepted when it is normalized, unless nothing is left of its
name. -/
theorem isValid_normalize_of_isValid {key : String} (h : isValid key = true) :
    isValid (normalize key) = true ↔ ∀ token, ¬ Parts (normalize key) token [] := by
  obtain ⟨token, name, hkey, hlen, hhex, -, hmax⟩ := isValid_iff.mp h
  have hne : token ≠ [] := List.ne_nil_of_length_eq_add_one hlen
  obtain ⟨name', hle, htrim⟩ := exists_trim_eq hne hhex name
  have hparts : Parts (Text.trimmed key) token name' := by
    refine ⟨?_, colon_notMem_of_hex hhex⟩
    rw [Text.trimmed, String.toList_ofList, hkey, htrim]
  have hnormal := hparts.normalize
  rw [isValid_iff]
  constructor
  · rintro ⟨token', name'', hkey', -, hhex', hname'', -⟩ token'' hempty
    -- a key has one name only
    have hparts' : Parts (normalize key) token' name'' := ⟨hkey', colon_notMem_of_hex hhex'⟩
    exact hname'' (hparts'.unique hempty).2
  · intro hleft
    refine ⟨token, foldName name', hnormal.toList_eq, hlen, hhex, ?_, ?_⟩
    · intro hnil
      rw [hnil] at hnormal
      exact hleft token hnormal
    · have hfold := length_foldName_le name'
      omega

/-- A normalized key stays as it is. The token of a trimmed key stays, and what its name becomes
is the name in lower case, with dashes for spaces and without anything but name characters, of
which there are no more than the name had; a trimmed key without a name is its own normal form. A
normalized key is accepted if, and only if, it is a token of 64 hexadecimal digits with a name of 1
to 255 name characters. A key that is accepted stays so, unless nothing is left of its name. -/
theorem normalize_outcome (key : String) :
    normalize (normalize key) = normalize key ∧
    (∀ token name, Parts (Text.trimmed key) token name →
      ∃ folded, Parts (normalize key) token folded ∧
        folded = ((Unicode.lowerCase name).map dashed).filter isNameChar ∧
        (∀ c ∈ folded, isNameChar c = true) ∧ folded.length ≤ name.length) ∧
    (':' ∉ (Text.trimmed key).toList → normalize key = Text.trimmed key) ∧
    (isValid (normalize key) = true ↔
      ∃ token name : List Char, (normalize key).toList = token ++ ':' :: name ∧
        token.length = 64 ∧ (∀ c ∈ token, isHexDigit c = true) ∧
        1 ≤ name.length ∧ name.length ≤ 255 ∧ ∀ c ∈ name, isNameChar c = true) ∧
    (isValid key = true →
      (isValid (normalize key) = true ↔ ∀ token, ¬ Parts (normalize key) token [])) := by
  refine ⟨normalize_normalize key, ?_, normalize_of_colon_notMem, isValid_normalize_iff,
    isValid_normalize_of_isValid⟩
  intro token name hparts
  exact ⟨foldName name, hparts.normalize, foldName_eq_lowerCase name,
    List.all_eq_true.mp (all_isNameChar_foldName name), length_foldName_le name⟩

/-- A key with characters in its name that have letters of ASCII as their forms, or parts of them,
and a blank behind it. -/
def kelvinKey : String := String.ofList (List.replicate 64 'F') ++ ":\u212A \u0130ß\u3000"

theorem normalize_outcome_kelvin :
    Parts (Text.trimmed kelvinKey) (List.replicate 64 'F') "\u212A \u0130ß".toList ∧
    (∃ folded, Parts (normalize kelvinKey) (List.replicate 64 'F') folded ∧
      folded = ((Unicode.lowerCase "\u212A \u0130ß".toList).map dashed).filter isNameChar ∧
      (∀ c ∈ folded, isNameChar c = true) ∧ folded.length ≤ "\u212A \u0130ß".toList.length) ∧
    isValid kelvinKey = true ∧ isValid (normalize kelvinKey) = true := by
  have h : Parts (Text.trimmed kelvinKey) (List.replicate 64 'F') "\u212A \u0130ß".toList :=
    ⟨by decide +kernel, by decide⟩
  have hnormal : Parts (normalize kelvinKey) (List.replicate 64 'F') "k-i".toList :=
    ⟨by decide +kernel, by decide⟩
  have hvalid : isValid kelvinKey = true := by decide +kernel
  obtain ⟨-, hname, -, -, hkept⟩ := normalize_outcome kelvinKey
  refine ⟨h, hname _ _ h, hvalid, (hkept hvalid).mpr fun token hempty => ?_⟩
  exact absurd (hnormal.unique hempty).2 (by decide)

end ServiceKey

end TracerConfig
