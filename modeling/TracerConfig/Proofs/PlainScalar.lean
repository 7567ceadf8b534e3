import Mathlib.Data.List.Basic
import TracerConfig.Proofs.RoundTrip
import TracerConfig.Yaml.Scalar

/-!
# Plain scalars and the text of their values

A plain scalar is a string only if it is nothing else, and then it is the string of its own text.
Blanks make up no word and no number, neither in a text that is read nor in one that is written.

Main statements:
* `ofPlain_eq`: the order in which the kinds of values are tried.
* `ofPlain_string`: a string has the text of its scalar.
* `ofPlain_of_blank`: a blank text is a string.
* `exists_notBlank_text`: the text of any other value is not blank.
-/

namespace TracerConfig.Yaml.Scalar

/-- Null comes first, then truth values, integers and floating point numbers. A text that is
nothing of these is a string. -/
theorem ofPlain_eq (text : String) :
    ofPlain text =
      if text.isEmpty || isNullWord text then .ok .null
      else match bool? text with
        | some b => .ok (.bool b)
        | none =>
          match integer text.toList with
          | .error e => .error e
          | .ok (some n) => .ok (.int n)
          | .ok none =>
            match if isZeroPadded text.toList then none else float? text with
            | some x => .ok (.float x)
            | none => .ok (.string text) := by
  rw [ofPlain]
  by_cases hnull : (text.isEmpty || isNullWord text) = true
  · simp only [if_pos hnull]
    rfl
  · simp only [if_neg hnull]
    cases bool? text with
    | some b => rfl
    | none =>
      cases integer text.toList with
      | error e => rfl
      | ok n? =>
        cases n? with
        | some n => rfl
        | none =>
          cases isZeroPadded text.toList with
          | true => rfl
          | false => cases float? text <;> rfl

/-- A string has the text of its scalar. -/
theorem ofPlain_string {text s : String} (h : ofPlain text = .ok (.string s)) : s = text := by
  rw [ofPlain_eq] at h
  repeat' split at h
  all_goals cases h
  rfl

/-! ## Blank texts -/

section

variable {c : Char} (hc : Text.isBlank c = true)
include hc

theorem not_le_of_blank {low high : Char} (hlow : '!' ≤ low) (hhigh : high ≤ '~') :
    (decide (low ≤ c) && decide (c ≤ high)) = false := by
  rw [Bool.and_eq_false_iff, decide_eq_false_iff_not, decide_eq_false_iff_not, ← not_and_or]
  rintro ⟨hl, hh⟩
  rw [Text.isBlank_of_visible (Char.le_trans hlow hl) (Char.le_trans hh hhigh)] at hc
  cases hc

theorem ne_of_blank {d : Char} (hd : Text.isBlank d = false) : c ≠ d := by
  rintro rfl
  rw [hd] at hc
  cases hc

theorem isDigit_of_blank : c.isDigit = false :=
  have hlow : '!' ≤ '0' := by decide
  have hhigh : '9' ≤ '~' := by decide
  not_le_of_blank hc hlow hhigh

theorem hexValue?_of_blank : Text.hexValue? c = none := by
  rw [Text.hexValue?, not_le_of_blank hc (by decide) (by decide),
    not_le_of_blank hc (by decide) (by decide), not_le_of_blank hc (by decide) (by decide)]
  rfl

end

/-- A text that starts with a blank is none of a list of words that do not. -/
theorem contains_of_blank {text : String} {c : Char} {cs : List Char}
    (htext : text.toList = c :: cs) (hc : Text.isBlank c = true) {words : List String}
    (hwords : words.all (fun w => w.toList.head?.any fun d => !Text.isBlank d) = true) :
    words.contains text = false := by
  rw [List.contains_eq_mem, decide_eq_false_iff_not]
  intro hmem
  have hword := List.all_eq_true.mp hwords text hmem
  rw [htext] at hword
  simp [hc] at hword

section

variable {c : Char} (hc : Text.isBlank c = true) (cs : List Char)
include hc

theorem isZeroPadded_of_blank : isZeroPadded (c :: cs) = false := by
  have hplus := ne_of_blank hc (d := '+') (by decide)
  have hminus := ne_of_blank hc (d := '-') (by decide)
  have hzero := ne_of_blank hc (d := '0') (by decide)
  unfold isZeroPadded
  split <;> simp_all

theorem int?_of_blank : int? (c :: cs) = none := by
  have hplus := ne_of_blank hc (d := '+') (by decide)
  have hminus := ne_of_blank hc (d := '-') (by decide)
  have hzero := ne_of_blank hc (d := '0') (by decide)
  have hmagnitude : magnitude? (c :: cs) = none := by
    have hdigits : magnitude? (c :: cs) = digits? 10 (c :: cs) := by
      unfold magnitude?
      split <;> simp_all
    rw [hdigits, digits?, if_neg (by simp), List.foldlM_cons, hexValue?_of_blank hc]
    rfl
  have hsign : int? (c :: cs) = (magnitude? (c :: cs)).map Int.ofNat := by
    unfold int?
    rw [isZeroPadded_of_blank hc, if_neg Bool.false_ne_true]
    split <;> simp_all
  rw [hsign, hmagnitude, Option.map_none]

theorem read?_of_blank : Decimal.read? (c :: cs) = none := by
  have hpoint := ne_of_blank hc (d := '.') (by decide)
  simp [Decimal.read?, isDigit_of_blank hc, hpoint]

end

/-- A blank text that is not empty is a string. -/
theorem ofPlain_of_blank {text : String} {c : Char} {cs : List Char}
    (htext : text.toList = c :: cs) (hc : Text.isBlank c = true) :
    ofPlain text = .ok (.string text) := by
  have hplus := ne_of_blank hc (d := '+') (by decide)
  have hminus := ne_of_blank hc (d := '-') (by decide)
  have hempty : text.isEmpty = false := by
    rw [← Bool.not_eq_true, String.isEmpty_iff]
    rintro rfl
    cases htext
  have hnull : isNullWord text = false := contains_of_blank htext hc (by decide)
  have hbool : bool? text = none := by
    rw [bool?, contains_of_blank htext hc (by decide), contains_of_blank htext hc (by decide)]
    rfl
  have hint : integer text.toList = .ok none := by
    rw [htext, integer, int?_of_blank hc]
  have hfloat : float? text = none := by
    rw [float?, contains_of_blank htext hc (by decide), contains_of_blank htext hc (by decide),
      contains_of_blank htext hc (by decide), if_neg Bool.false_ne_true,
      if_neg Bool.false_ne_true, if_neg Bool.false_ne_true, htext]
    split
    · simp_all
    · simp_all
    · rw [read?_of_blank hc, Option.bind_none]
  simp only [ofPlain_eq, hempty, hnull, hbool, hint, hfloat, Bool.or_self, Bool.false_eq_true,
    if_false, ite_self]

/-! ## Texts of values -/

theorem point_mem_positional (d : Decimal) : '.' ∈ d.positional := by
  unfold Decimal.positional
  dsimp only
  split
  · simp
  split <;> simp

/-- Every decimal number has a point or an exponent in its text. -/
theorem exists_notBlank_render (d : Decimal) : ∃ c ∈ d.render, Text.isBlank c = false := by
  have hpoint : Text.isBlank '.' = false := by decide
  have hexponent : Text.isBlank 'e' = false := by decide
  unfold Decimal.render
  dsimp only
  split
  · exact ⟨'.', point_mem_positional d, hpoint⟩
  · split
    · exact ⟨'e', by simp, hexponent⟩
    · exact ⟨'e', by simp, hexponent⟩
    · exact ⟨'e', by simp, hexponent⟩

theorem exists_notBlank_repr (n : Int) : ∃ c ∈ (toString n).toList, Text.isBlank c = false := by
  cases n with
  | negSucc n => exact ⟨'-', by simp [toString, Int.repr], by decide⟩
  | ofNat n =>
    cases h : n.repr.toList with
    | nil => simp at h
    | cons c cs =>
      refine ⟨c, by simp [toString, Int.repr, h], ?_⟩
      have hmem : c ∈ n.repr.toList := by simp [h]
      rw [← Bool.not_eq_true]
      intro hc
      have hdigit := Integer.isDigit_of_mem_repr hmem
      rw [isDigit_of_blank hc] at hdigit
      cases hdigit

/-- The text of a value that is not a string is not blank. -/
theorem exists_notBlank_text {s : Scalar} (h : ∀ t, s ≠ .string t) :
    ∃ c ∈ s.text.toList, Text.isBlank c = false := by
  cases s with
  | null => exact ⟨'n', by decide, by decide⟩
  | bool b => cases b with
    | true => exact ⟨'t', by decide, by decide⟩
    | false => exact ⟨'f', by decide, by decide⟩
  | int n => exact exists_notBlank_repr n
  | float x =>
    cases x with
    | finite negative mantissa exponent =>
      obtain ⟨c, hmem, hc⟩ := exists_notBlank_render (Binary64.shortest mantissa exponent)
      refine ⟨c, ?_, hc⟩
      cases negative <;> simp [text, Binary64.render, hmem]
    | infinite negative => cases negative with
      | true => exact ⟨'.', by decide, by decide⟩
      | false => exact ⟨'.', by decide, by decide⟩
    | nan => exact ⟨'.', by decide, by decide⟩
  | string t => exact absurd rfl (h t)

/-- Only null stands for nothing. -/
theorem ofPlain_empty : ofPlain "" = .ok .null := rfl

/-- A text that is no string is not blank. -/
theorem exists_notBlank_of_ne_string {text : String} (hnull : ofPlain text ≠ .ok .null)
    (h : ofPlain text ≠ .ok (.string text)) : ∃ c ∈ text.toList, Text.isBlank c = false := by
  cases htext : text.toList with
  | nil => exact absurd (String.toList_eq_nil_iff.mp htext ▸ ofPlain_empty) hnull
  | cons c cs =>
    refine ⟨c, List.mem_cons_self .., ?_⟩
    rw [← Bool.not_eq_true]
    exact fun hc => h (ofPlain_of_blank htext hc)

theorem text_ne_empty {text : String} {s : Scalar} (h : ofPlain text = .ok s) (hnull : s ≠ .null) :
    s.text ≠ "" := by
  intro hempty
  by_cases hs : ∃ t, s = .string t
  · obtain ⟨t, rfl⟩ := hs
    have ht : t = "" := hempty
    rw [← ofPlain_string h, ht, ofPlain_empty] at h
    cases h
  · obtain ⟨c, hc, _⟩ := exists_notBlank_text fun t ht => hs ⟨t, ht⟩
    rw [hempty] at hc
    cases hc

end TracerConfig.Yaml.Scalar
