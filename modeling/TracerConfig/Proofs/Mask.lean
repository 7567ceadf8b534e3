import TracerConfig.Proofs.ServiceKey

/-!
# What a mask shows

The mask of a key shows its name, how long its token is, and four characters at each end of the
token. It shows no more: what else the token holds can be replaced without a change to the mask.

Main definition:
* `SameEnds`: two tokens that look alike behind a mask.

Main statements:
* `getElem?_maskToken`: a masked token, character by character.
* `maskToken_eq_iff`: the tokens that look alike.
* `mask_shows`: what a mask shows of a key.
-/

namespace TracerConfig.ServiceKey

/-- Two tokens have the same length and the same four characters at each end. -/
structure SameEnds (token token' : List Char) : Prop where
  length_eq : token.length = token'.length
  first : token.take 4 = token'.take 4
  last : token.drop (token.length - 4) = token'.drop (token'.length - 4)

/-! ## Tokens -/

theorem colon_notMem_maskToken {token : List Char} (hcolon : ':' ∉ token) :
    ':' ∉ maskToken token := by
  intro hmem
  rcases List.mem_append.mp hmem with hmem | hlast
  · rcases List.mem_append.mp hmem with hfirst | hstars
    · exact hcolon (List.mem_of_mem_take hfirst)
    · cases List.eq_of_mem_replicate hstars
  · exact hcolon (List.mem_of_mem_drop hlast)

section

variable {token token' : List Char} (h : 8 ≤ token.length)
include h

theorem length_maskToken : (maskToken token).length = token.length := by
  simp only [maskToken, shownLength, List.length_append, List.length_take, List.length_drop,
    List.length_replicate]
  omega

/-- A masked token has its first and last four characters, and stars between them. -/
theorem getElem?_maskToken {i : Nat} (hi : i < token.length) :
    (maskToken token)[i]? = if i < 4 ∨ token.length - 4 ≤ i then token[i]? else some '*' := by
  have htake : (token.take 4).length = 4 := by
    rw [List.length_take]
    omega
  have hmiddle : (token.take 4 ++ List.replicate (token.length - 2 * 4) '*').length =
      token.length - 4 := by
    rw [List.length_append, htake, List.length_replicate]
    omega
  rw [maskToken, shownLength]
  by_cases hlast : token.length - 4 ≤ i
  · rw [if_pos (.inr hlast), List.getElem?_append_right (by omega), List.getElem?_drop, hmiddle]
    congr 1
    omega
  rw [List.getElem?_append_left (by omega)]
  by_cases hfirst : i < 4
  · rw [if_pos (.inl hfirst), List.getElem?_append_left (by omega), List.getElem?_take_of_lt hfirst]
  · rw [if_neg (by omega), List.getElem?_append_right (by omega),
      List.getElem?_replicate_of_lt (by omega)]

/-- Two masked tokens are the same if the tokens have the same ends. -/
theorem maskToken_eq_iff (h' : 8 ≤ token'.length) :
    maskToken token = maskToken token' ↔ SameEnds token token' := by
  constructor
  · intro heq
    have hlen : token.length = token'.length := by
      rw [← length_maskToken h, heq, length_maskToken h']
    -- the stars are as many on both sides, so the ends can be told apart from them
    obtain ⟨hfront, hlast⟩ := List.append_inj heq (by
      simp only [shownLength, List.length_append, List.length_take, List.length_replicate]
      omega)
    obtain ⟨hfirst, -⟩ := List.append_inj hfront (by
      simp only [shownLength, List.length_take]
      omega)
    exact ⟨hlen, hfirst, hlast⟩
  · intro hends
    have hfirst : token.take shownLength = token'.take shownLength := hends.first
    have hlast : token.drop (token.length - shownLength) =
        token'.drop (token'.length - shownLength) := hends.last
    rw [maskToken, maskToken, hfirst, hlast, hends.length_eq]

/-- A masked token looks like the token itself. -/
theorem sameEnds_maskToken : SameEnds (maskToken token) token := by
  have hlen := length_maskToken h
  refine ⟨hlen, List.ext_getElem? fun i => ?_, List.ext_getElem? fun i => ?_⟩
  · rw [List.getElem?_take, List.getElem?_take]
    split
    · next hi => rw [getElem?_maskToken h (by omega), if_pos (.inl hi)]
    · rfl
  · rw [List.getElem?_drop, List.getElem?_drop, hlen]
    by_cases hi : token.length - 4 + i < token.length
    · rw [getElem?_maskToken h hi, if_pos (.inr (by omega))]
    · rw [List.getElem?_eq_none (by omega), List.getElem?_eq_none (by omega)]

end

/-! ## Keys -/

theorem maskList_of_long {token : List Char} (hcolon : ':' ∉ token) (h : 8 ≤ token.length)
    (name : List Char) : maskList (token ++ ':' :: name) = maskToken token ++ ':' :: name := by
  have hlong : ¬ token.length < 2 * shownLength := Nat.not_lt.mpr h
  rw [maskList, Text.splitOnce_append hcolon]
  simp only [if_neg hlong]

/-- A mask stays as it is: it has the ends of the token, which is all that another mask shows. -/
theorem maskList_maskList (key : List Char) : maskList (maskList key) = maskList key := by
  by_cases hkey : ∃ token name, key = token ++ ':' :: name ∧ ':' ∉ token ∧ 8 ≤ token.length
  · obtain ⟨token, name, rfl, hcolon, h⟩ := hkey
    have hlen := length_maskToken h
    rw [maskList_of_long hcolon h, maskList_of_long (colon_notMem_maskToken hcolon) (by omega),
      (maskToken_eq_iff (by omega) h).mpr (sameEnds_maskToken h)]
  · -- a key with nothing to hide is its own mask
    have hself : maskList key = key := by
      rw [maskList]
      split
      · rfl
      · next token name hsplit =>
        obtain ⟨rfl, hcolon⟩ := Text.splitOnce_eq_some_iff.mp hsplit
        refine if_pos (Nat.lt_of_not_le fun h => ?_)
        exact hkey ⟨token, name, rfl, hcolon, h⟩
    rw [hself, hself]

theorem Parts.mask {key : String} {token name : List Char} (hparts : Parts key token name)
    (h : 8 ≤ token.length) : Parts (mask key) (maskToken token) name where
  toList_eq := by
    rw [ServiceKey.mask, String.toList_ofList, hparts.toList_eq,
      maskList_of_long hparts.colon_notMem h]
  colon_notMem := colon_notMem_maskToken hparts.colon_notMem

theorem Parts.mask_eq_iff {key key' : String} {token name token' name' : List Char}
    (hparts : Parts key token name) (hparts' : Parts key' token' name')
    (h : 8 ≤ token.length) (h' : 8 ≤ token'.length) :
    ServiceKey.mask key = ServiceKey.mask key' ↔ SameEnds token token' ∧ name = name' := by
  rw [← maskToken_eq_iff h h']
  constructor
  · intro heq
    have hmask := hparts.mask h
    rw [heq] at hmask
    exact hmask.unique (hparts'.mask h')
  · rintro ⟨htoken, rfl⟩
    rw [← String.toList_inj, (hparts.mask h).toList_eq, (hparts'.mask h').toList_eq, htoken]

/-- The mask of a key with a token of eight or more characters has as many characters as the key,
the same name, and the token with stars for all but its four characters at each end. It stays as
it is when it is masked again, as every mask does. Two such keys have the same mask if, and only
if, they have the same name and tokens with the same ends. -/
theorem mask_shows :
    (∀ key token name, Parts key token name → 8 ≤ token.length →
      (mask key).length = key.length ∧
      ∃ shown, Parts (mask key) shown name ∧ shown.length = token.length ∧
        ∀ i < token.length,
          shown[i]? = if i < 4 ∨ token.length - 4 ≤ i then token[i]? else some '*') ∧
    (∀ key, mask (mask key) = mask key) ∧
    ∀ key token name key' token' name', Parts key token name → Parts key' token' name' →
      8 ≤ token.length → 8 ≤ token'.length →
      (mask key = mask key' ↔ SameEnds token token' ∧ name = name') := by
  refine ⟨?_, ?_, fun _ _ _ _ _ _ hparts hparts' h h' => hparts.mask_eq_iff hparts' h h'⟩
  · intro key token name hparts h
    have hmask := hparts.mask h
    refine ⟨?_, maskToken token, hmask, length_maskToken h, fun i hi => getElem?_maskToken h hi⟩
    rw [← String.length_toList, ← String.length_toList, hmask.toList_eq, hparts.toList_eq,
      List.length_append, List.length_append, length_maskToken h]
  · intro key
    rw [mask, mask, String.toList_ofList, maskList_maskList]

theorem mask_shows_accented :
    Parts "ééaabbbzzéé:a:b" "ééaabbbzzéé".toList "a:b".toList ∧
    Parts "ééaa***zzéé:a:b" "ééaa***zzéé".toList "a:b".toList ∧
    8 ≤ "ééaabbbzzéé".toList.length ∧ 8 ≤ "ééaa***zzéé".toList.length ∧
    mask "ééaabbbzzéé:a:b" = mask "ééaa***zzéé:a:b" ∧
    mask "ééaabbbzzéé:a:b" = "ééaa***zzéé:a:b" := by
  have h : Parts "ééaabbbzzéé:a:b" "ééaabbbzzéé".toList "a:b".toList :=
    ⟨by decide +kernel, by decide +kernel⟩
  have h' : Parts "ééaa***zzéé:a:b" "ééaa***zzéé".toList "a:b".toList :=
    ⟨by decide +kernel, by decide +kernel⟩
  have hlong : 8 ≤ "ééaabbbzzéé".toList.length := by decide +kernel
  have hlong' : 8 ≤ "ééaa***zzéé".toList.length := by decide +kernel
  have hends : SameEnds "ééaabbbzzéé".toList "ééaa***zzéé".toList :=
    ⟨by decide +kernel, by decide +kernel, by decide +kernel⟩
  refine ⟨h, h', hlong, hlong', ?_, by decide +kernel⟩
  exact (mask_shows.2.2 _ _ _ _ _ _ h h' hlong hlong').mpr ⟨hends, rfl⟩

end TracerConfig.ServiceKey
