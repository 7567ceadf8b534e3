import TracerConfig.Delta
import TracerConfig.Proofs.Replace
import TracerConfig.Proofs.ServiceKey

/-!
# What masked keys leave readable

Masking a key cuts a text into stretches, with nothing but stars between them. What can be
read in the masked text is what can be read in one of the stretches.

Main statements:
* `Stretches.maskIn_eq`: a masked text is its stretches, joined by stars.
* `infix_hideList_iff`: what can be read when several keys are masked, one after the other.
* `Readable.overlaps`: a key that can still be read had overlapping copies in the text.
* `WellFormed.forall_hidden_iff`: the keys that one mask hides in every text.
-/

namespace TracerConfig.ServiceKey

/-! ## Masks -/

/-- What a mask shows of the token's front. -/
def lead (key : List Char) : List Char := key.take shownLength

/-- What a mask shows behind its stars. -/
def rest (key : List Char) : List Char := key.drop (tokenLength - shownLength)

/-- The stars of a mask. -/
def stars : List Char := List.replicate (tokenLength - 2 * shownLength) '*'

/-- A key whose mask has stars where the key has none. -/
structure Maskable (key : List Char) : Prop where
  star_notMem : '*' ∉ key
  tokenLength_lt : tokenLength < key.length
  maskList_eq : maskList key = lead key ++ (stars ++ rest key)

namespace Maskable

variable {key : List Char} (h : Maskable key)
include h

theorem ne_nil : key ≠ [] := by
  intro hnil
  have hlen := h.tokenLength_lt
  rw [hnil] at hlen
  cases hlen

theorem lead_isPrefix : lead key <+: key.dropLast := by
  have hlen := h.tokenLength_lt
  have hlead : lead key = key.dropLast.take shownLength := by
    rw [lead, List.dropLast_eq_take, List.take_take]
    congr 1
    simp only [tokenLength, shownLength] at hlen ⊢
    omega
  rw [hlead]
  exact List.take_prefix _ _

omit h in
theorem take_append_rest (key : List Char) :
    key.take (tokenLength - shownLength) ++ rest key = key := List.take_append_drop _ _

theorem take_ne_nil : key.take (tokenLength - shownLength) ≠ [] := by
  intro hnil
  rcases List.take_eq_nil_iff.mp hnil with hzero | hkey
  · cases hzero
  · exact h.ne_nil hkey

end Maskable

/-- A key that is well-formed and normalized can be masked. -/
theorem WellFormed.maskable {key : String} (h : WellFormed key) (hn : normalize key = key) :
    Maskable key.toList := by
  obtain ⟨token, name, hkey, hlen, hhex, _, _, hname⟩ := h.exists_name hn
  rw [hkey]
  refine ⟨?_, ?_, ?_⟩
  · intro hc
    rcases List.mem_append.mp hc with htoken | hrest
    · exact notMem_of_forall (by decide) hhex htoken
    · rcases List.mem_cons.mp hrest with hcolon | hc
      · cases hcolon
      · exact notMem_of_forall (by decide) hname hc
  · simp only [List.length_append, List.length_cons, hlen, tokenLength]
    omega
  · have hlong : ¬ 64 < 2 * shownLength := by decide
    rw [maskList, Text.splitOnce_append (colon_notMem_of_hex hhex)]
    simp only [maskToken, hlen, if_neg hlong, lead, rest, stars, tokenLength]
    rw [List.take_append_of_le_length (by rw [hlen]; decide),
      List.drop_append_of_le_length (by rw [hlen]; decide)]
    simp only [List.append_assoc]

/-- A copy can begin only in the name of another one: elsewhere there is no token in front of a
colon. -/
theorem WellFormed.lt_of_drop_isPrefix {key : String} (h : WellFormed key) {n : Nat} (hpos : 0 < n)
    (hpre : key.toList.drop n <+: key.toList) : tokenLength < n := by
  obtain ⟨token, name, hkey, hlen, hhex, _, _⟩ := h
  rw [hkey] at hpre
  rcases Nat.lt_or_ge tokenLength n with hn | hn
  · exact hn
  · -- the colon of the outer copy is in the token of the inner one
    have hdrop : (token ++ ':' :: name).drop n = token.drop n ++ ':' :: name :=
      List.drop_append_of_le_length (by rw [hlen]; exact hn)
    obtain ⟨z, hz⟩ := hpre
    rw [hdrop, List.append_assoc, List.cons_append] at hz
    have hcolon : ':' ∈ token := by
      rcases List.append_eq_append_iff.mp hz with ⟨a, htoken, ha⟩ | ⟨a, htoken, _⟩
      · cases a with
        | nil =>
          have hsum := congrArg List.length htoken
          rw [List.append_nil, List.length_drop] at hsum
          omega
        | cons c cs =>
          obtain ⟨rfl, _⟩ := List.cons.inj ha
          rw [htoken]
          simp
      · have hsum := congrArg List.length htoken
        rw [List.length_append, List.length_drop] at hsum
        omega
    exact absurd hcolon (colon_notMem_of_hex hhex)

/-! ## Stretches -/

/-- A text with the copies of a key masked. -/
def maskIn (key text : List Char) : List Char := Text.replaceFrom key (maskList key) 0 text

/-- The stretches of a text that masking a key leaves readable. Every masked copy ends a
stretch with the front of the key's token, and begins the next one with what its mask shows
behind the stars. -/
inductive Stretches (key : List Char) : List Char → List (List Char) → Prop
  | last {text : List Char} : ¬ key <:+: text → Stretches key text [text]
  | copy {p q s : List Char} {ss : List (List Char)} :
      ¬ key <:+: p ++ key.dropLast → Stretches key q (s :: ss) →
      Stretches key (p ++ key ++ q) ((p ++ lead key) :: (rest key ++ s) :: ss)

namespace Stretches

variable {key text : List Char} {ss : List (List Char)}

theorem exists_cons (h : Stretches key text ss) : ∃ s ss', ss = s :: ss' := by
  cases h with
  | last _ => exact ⟨_, _, rfl⟩
  | copy _ _ => exact ⟨_, _, rfl⟩

/-- Every text has its stretches. -/
theorem exists_stretches (hkey : key ≠ []) (text : List Char) : ∃ ss, Stretches key text ss := by
  induction text using Text.copies_induction hkey with
  | last text h => exact ⟨[text], .last h⟩
  | copy p q hp ih =>
    obtain ⟨ss, hss⟩ := ih
    obtain ⟨s, ss', rfl⟩ := hss.exists_cons
    exact ⟨_, .copy hp hss⟩

/-- A masked text is its stretches, joined by stars. -/
theorem maskIn_eq (hkey : Maskable key) (h : Stretches key text ss) :
    maskIn key text = stars.intercalate ss := by
  unfold maskIn
  induction h with
  | last htext => rw [Text.replaceFrom_of_no_copy htext, List.intercalate_singleton]
  | @copy p q s ss hp _ ih =>
    have hrest : stars.intercalate ((rest key ++ s) :: ss) =
        rest key ++ stars.intercalate (s :: ss) := by
      cases ss with
      | nil => simp only [List.intercalate_singleton]
      | cons s' ss' => simp only [List.intercalate_cons_cons, List.append_assoc]
    rw [Text.replaceFrom_first hkey.ne_nil hp, ih, hkey.maskList_eq, List.intercalate_cons_cons,
      hrest]
    simp only [List.append_assoc]

/-- The first stretch begins the text, and has no copy. -/
theorem first_stretch (hkey : Maskable key) {s : List Char} (h : Stretches key text (s :: ss)) :
    s <+: text ∧ ¬ key <:+: s := by
  cases h with
  | last htext => exact ⟨List.prefix_refl _, htext⟩
  | @copy p q s' ss' hp hq =>
    have hlead : p ++ lead key <+: p ++ key.dropLast :=
      (List.prefix_append_right_inj p).mpr hkey.lead_isPrefix
    exact ⟨hlead.trans (Text.prefix_first key p q), fun hin => hp (hin.trans hlead.isInfix)⟩

/-- Masking makes no new stretch: each one stood in the text. -/
theorem infix_of_mem (hkey : Maskable key) (h : Stretches key text ss) :
    ∀ s ∈ ss, s <:+: text := by
  induction h with
  | last _ =>
    intro s hs
    cases List.mem_singleton.mp hs
    exact List.infix_refl _
  | @copy p q s ss hp hq ih =>
    intro r hr
    rcases List.mem_cons.mp hr with rfl | hr
    · exact ((first_stretch hkey (.copy hp hq)).1).isInfix
    rcases List.mem_cons.mp hr with rfl | hr
    · -- the end of the copy, and what follows it
      obtain ⟨x, hx⟩ := (first_stretch hkey hq).1
      refine ⟨p ++ key.take (tokenLength - shownLength), x, ?_⟩
      calc
        p ++ key.take (tokenLength - shownLength) ++ (rest key ++ s) ++ x
            = p ++ (key.take (tokenLength - shownLength) ++ rest key) ++ (s ++ x) := by
          simp only [List.append_assoc]
        _ = p ++ key ++ q := by rw [Maskable.take_append_rest, hx]
    · exact (ih r (List.mem_cons_of_mem _ hr)).trans (List.suffix_append _ q).isInfix

end Stretches

/-! ## Overlapping copies -/

/-- The text has a copy of the key that begins inside another one, `n` characters behind it. -/
def Overlaps (key text : List Char) : Prop :=
  ∃ n, n < key.length ∧ 0 < n ∧ key.drop n <+: key ∧ key.take n ++ key <:+: text

instance (key text : List Char) : Decidable (Overlaps key text) :=
  inferInstanceAs (Decidable (∃ n, n < key.length ∧ _))

theorem Overlaps.mono {key s text : List Char} (h : Overlaps key s) (hs : s <:+: text) :
    Overlaps key text := by
  obtain ⟨n, hlt, hpos, hpre, hin⟩ := h
  exact ⟨n, hlt, hpos, hpre, hin.trans hs⟩

theorem overlaps_of_append {key u v w text : List Char} (huv : key = u ++ v)
    (hvw : key = v ++ w) (hu : u ≠ []) (hv : v ≠ []) (hin : u ++ key <:+: text) :
    Overlaps key text := by
  have hdrop : key.drop u.length = v := by rw [huv, List.drop_left]
  have htake : key.take u.length = u := by rw [huv, List.take_left]
  refine ⟨u.length, ?_, List.length_pos_of_ne_nil hu, ?_, ?_⟩
  · have hpos := List.length_pos_of_ne_nil hv
    have hsum := congrArg List.length huv
    rw [List.length_append] at hsum
    omega
  · rw [hdrop]
    exact ⟨w, hvw.symm⟩
  · rw [htake]
    exact hin

/-- A key that can be read in what a masked copy shows at its end, and the text behind it, has a
copy that begins inside the masked one. -/
theorem overlaps_of_rest {key s q : List Char} (hkey : Maskable key) (hs : ¬ key <:+: s)
    (hpre : s <+: q) (h : key <:+: rest key ++ s) : Overlaps key (key ++ q) := by
  obtain ⟨x, y, hxy⟩ := h
  rw [List.append_assoc] at hxy
  rcases List.append_eq_append_iff.mp hxy with ⟨v, hrest, hv⟩ | ⟨x', _, hx'⟩
  · -- the end of the key is `x ++ v`, and the copy begins with `v`
    have hv' : v ≠ [] := by
      rintro rfl
      exact hs ⟨[], y, hv⟩
    have huv : key = key.take (tokenLength - shownLength) ++ x ++ v := by
      rw [List.append_assoc, ← hrest, Maskable.take_append_rest]
    have hu : key.take (tokenLength - shownLength) ++ x ≠ [] := by
      intro hnil
      exact hkey.take_ne_nil (List.append_eq_nil_iff.mp hnil).1
    have hlen : v.length < key.length := by
      have hpos := List.length_pos_of_ne_nil hu
      have hsum := congrArg List.length huv
      rw [List.length_append] at hsum
      omega
    obtain ⟨w, hvw, hw⟩ : ∃ w, key = v ++ w ∧ s = w ++ y := by
      rcases List.append_eq_append_iff.mp hv with ⟨w, hvw, _⟩ | ⟨w, hvw, hw⟩
      · rw [hvw, List.length_append] at hlen
        omega
      · exact ⟨w, hvw, hw⟩
    refine overlaps_of_append huv hvw hu hv' ?_
    have hcopies : key.take (tokenLength - shownLength) ++ x ++ key = key ++ w := by
      calc
        _ = key.take (tokenLength - shownLength) ++ x ++ (v ++ w) := by rw [← hvw]
        _ = key ++ w := by rw [← List.append_assoc, ← huv]
    rw [hcopies]
    have hwq : w <+: q := by
      rw [hw] at hpre
      exact (List.prefix_append w y).trans hpre
    exact ((List.prefix_append_right_inj key).mpr hwq).isInfix
  · exact absurd ⟨x', y, by rw [hx', List.append_assoc]⟩ hs

/-- A key with a copy in a stretch had overlapping copies in the text. -/
theorem Stretches.overlaps {key text s : List Char} {ss : List (List Char)}
    (hkey : Maskable key) (h : Stretches key text ss) (hs : s ∈ ss) (hin : key <:+: s) :
    Overlaps key text := by
  induction h with
  | last htext =>
    cases List.mem_singleton.mp hs
    exact absurd hin htext
  | @copy p q s' ss' hp hq ih =>
    rcases List.mem_cons.mp hs with rfl | hs
    · exact absurd hin (first_stretch hkey (.copy hp hq)).2
    rcases List.mem_cons.mp hs with rfl | hs
    · obtain ⟨hpre, hnot⟩ := first_stretch hkey hq
      refine (overlaps_of_rest hkey hnot hpre hin).mono ?_
      rw [List.append_assoc]
      exact (List.suffix_append p _).isInfix
    · exact (ih (List.mem_cons_of_mem _ hs)).mono (List.suffix_append _ q).isInfix

/-- In the text of two copies that overlap by less than a name the second one stays. -/
theorem exists_stretches_of_overlap {key : List Char} {n : Nat} (hn : tokenLength < n)
    (hlt : n < key.length) (hpre : key.drop n <+: key) :
    ∃ s, Stretches key (key.take n ++ key) [lead key, s] ∧ key <:+: s := by
  obtain ⟨w, hw⟩ := hpre
  have hcopies : key.take n ++ key = key ++ w := by
    calc
      key.take n ++ key = key.take n ++ (key.drop n ++ w) := by rw [hw]
      _ = key ++ w := by rw [← List.append_assoc, List.take_append_drop]
  have hwlen : w.length = n := by
    have hsum := congrArg List.length hw
    rw [List.length_append, List.length_drop] at hsum
    omega
  have hfirst : ¬ key <:+: [] ++ key.dropLast := by
    intro hin
    have hle := hin.length_le
    rw [List.nil_append, List.length_dropLast] at hle
    omega
  have hlast : ¬ key <:+: w := by
    intro hin
    have hle := hin.length_le
    omega
  refine ⟨rest key ++ w, ?_, ?_⟩
  · rw [hcopies]
    exact .copy hfirst (.last hlast)
  · -- the second copy is `key.drop n ++ w`, and `key.drop n` is behind the stars
    have hsuffix : key.drop n <:+ rest key := by
      have hdrop : (rest key).drop (n - (tokenLength - shownLength)) = key.drop n := by
        rw [rest, List.drop_drop]
        congr 1
        omega
      rw [← hdrop]
      exact List.drop_suffix _ _
    obtain ⟨x, hx⟩ := hsuffix
    refine ⟨x, [], ?_⟩
    calc
      x ++ key ++ [] = x ++ (key.drop n ++ w) := by rw [hw, List.append_nil]
      _ = rest key ++ w := by rw [← List.append_assoc, hx]

/-! ## Several keys -/

/-- A text with several keys masked, one after the other. -/
def hideList (keys : List (List Char)) (text : List Char) : List Char :=
  keys.foldl (fun t key => maskIn key t) text

/-- The stretches of a text that stay readable when several keys are masked, one after the
other. -/
inductive Readable : List (List Char) → List Char → List Char → Prop
  | text {text : List Char} : Readable [] text text
  | stretch {key text s r : List Char} {keys ss : List (List Char)} :
      Stretches key text ss → s ∈ ss → Readable keys s r → Readable (key :: keys) text r

theorem hideList_stars {keys : List (List Char)} (hkeys : ∀ key ∈ keys, Maskable key)
    (texts : List (List Char)) :
    hideList keys (stars.intercalate texts) = stars.intercalate (texts.map (hideList keys)) := by
  induction keys generalizing texts with
  | nil =>
    show stars.intercalate texts = stars.intercalate (texts.map id)
    rw [List.map_id]
  | cons key keys ih =>
    obtain ⟨hkey, hkeys'⟩ := List.forall_mem_cons.mp hkeys
    have hmask : maskIn key (stars.intercalate texts) =
        stars.intercalate (texts.map (maskIn key)) :=
      Text.replaceFrom_intercalate hkey.ne_nil hkey.star_notMem _ 55 texts
    show hideList keys (maskIn key (stars.intercalate texts)) = _
    rw [hmask, ih hkeys', List.map_map]
    rfl

/-- A text with a key masked, and then others: each stretch is masked on its own. -/
theorem hideList_cons {key text : List Char} {keys ss : List (List Char)} (hkey : Maskable key)
    (hkeys : ∀ k ∈ keys, Maskable k) (h : Stretches key text ss) :
    hideList (key :: keys) text = stars.intercalate (ss.map (hideList keys)) := by
  rw [← hideList_stars hkeys, ← h.maskIn_eq hkey]
  rfl

/-- What can be read in a text with several keys masked is what its readable stretches hold. -/
theorem infix_hideList_iff {w text : List Char} {keys : List (List Char)} (hw : w ≠ [])
    (hstar : '*' ∉ w) (hkeys : ∀ key ∈ keys, Maskable key) :
    w <:+: hideList keys text ↔ ∃ r, Readable keys text r ∧ w <:+: r := by
  induction keys generalizing text with
  | nil =>
    constructor
    · intro h
      exact ⟨text, .text, h⟩
    · rintro ⟨r, ⟨⟩, hin⟩
      exact hin
  | cons key keys ih =>
    obtain ⟨hkey, hkeys'⟩ := List.forall_mem_cons.mp hkeys
    -- for any stretches of the text, by the induction hypothesis on each of them
    have hcut : ∀ ss, Stretches key text ss → (w <:+: hideList (key :: keys) text ↔
        ∃ s ∈ ss, ∃ r, Readable keys s r ∧ w <:+: r) := by
      intro ss hss
      rw [hideList_cons hkey hkeys' hss]
      refine (Text.infix_intercalate_iff hw hstar 55 _).trans ?_
      constructor
      · rintro ⟨_, hmem, hin⟩
        obtain ⟨s, hs, rfl⟩ := List.mem_map.mp hmem
        exact ⟨s, hs, (ih hkeys').mp hin⟩
      · rintro ⟨s, hs, hr⟩
        exact ⟨_, List.mem_map_of_mem hs, (ih hkeys').mpr hr⟩
    constructor
    · intro h
      obtain ⟨ss, hss⟩ := Stretches.exists_stretches hkey.ne_nil text
      obtain ⟨s, hs, r, hr, hin⟩ := (hcut ss hss).mp h
      exact ⟨r, .stretch hss hs hr, hin⟩
    · rintro ⟨r, hr, hin⟩
      cases hr with
      | stretch hss hs hr => exact (hcut _ hss).mpr ⟨_, hs, r, hr, hin⟩

theorem Readable.isInfix {text r : List Char} {keys : List (List Char)}
    (hkeys : ∀ k ∈ keys, Maskable k) (h : Readable keys text r) : r <:+: text := by
  induction h with
  | text => exact List.infix_refl _
  | @stretch key text s r keys ss hss hs _ ih =>
    obtain ⟨hkey, hkeys'⟩ := List.forall_mem_cons.mp hkeys
    exact (ih hkeys').trans (hss.infix_of_mem hkey s hs)

/-- A key that can still be read had overlapping copies in the text. -/
theorem Readable.overlaps {key text r : List Char} {keys : List (List Char)}
    (hkeys : ∀ k ∈ keys, Maskable k) (h : Readable keys text r) (hmem : key ∈ keys)
    (hin : key <:+: r) : Overlaps key text := by
  induction h with
  | text => cases hmem
  | @stretch key' text s r keys ss hss hs hr ih =>
    -- the key is masked now, or later on in the stretch `s` of the text
    obtain ⟨hkey', hkeys'⟩ := List.forall_mem_cons.mp hkeys
    rcases List.mem_cons.mp hmem with rfl | hmem
    · exact hss.overlaps hkey' hs (hin.trans (hr.isInfix hkeys'))
    · exact (ih hkeys' hmem hin).mono (hss.infix_of_mem hkey' s hs)

section

variable {key : String} (h : WellFormed key) (hn : normalize key = key)
include h hn

theorem WellFormed.forall_maskable : ∀ k ∈ [key.toList], Maskable k := by
  intro k hk
  rw [List.mem_singleton.mp hk]
  exact h.maskable hn

/-- A key can be read where a copy of it begins inside another one. -/
theorem WellFormed.infix_hideList_of_overlap {n : Nat} (hpos : 0 < n)
    (hlt : n < key.toList.length) (hpre : key.toList.drop n <+: key.toList) :
    key.toList <:+: hideList [key.toList] (key.toList.take n ++ key.toList) := by
  have hkey := h.maskable hn
  obtain ⟨s, hss, hin⟩ := exists_stretches_of_overlap (h.lt_of_drop_isPrefix hpos hpre) hlt hpre
  have hs : Readable [key.toList] (key.toList.take n ++ key.toList) s :=
    .stretch hss (by simp) .text
  exact (infix_hideList_iff hkey.ne_nil hkey.star_notMem (h.forall_maskable hn)).mpr ⟨s, hs, hin⟩

/-- A mask hides a key in every text exactly if no copy of it can begin inside another one. -/
theorem WellFormed.forall_hidden_iff :
    (∀ text, ¬ key.toList <:+: hideList [key.toList] text) ↔
      ∀ n, 0 < n → n < key.toList.length → ¬ key.toList.drop n <+: key.toList := by
  have hkey := h.maskable hn
  have hkeys := h.forall_maskable hn
  constructor
  · intro hhidden n hpos hlt hpre
    exact hhidden _ (h.infix_hideList_of_overlap hn hpos hlt hpre)
  · intro hno text hin
    obtain ⟨r, hr, hr'⟩ := (infix_hideList_iff hkey.ne_nil hkey.star_notMem hkeys).mp hin
    obtain ⟨n, hlt, hpos, hpre, _⟩ := hr.overlaps hkeys (List.mem_singleton_self _) hr'
    exact hno n hpos hlt hpre

end

end TracerConfig.ServiceKey
