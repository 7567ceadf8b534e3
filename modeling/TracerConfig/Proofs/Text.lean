import Mathlib.Data.List.DropRight
import TracerConfig.Text.Blank
import TracerConfig.Text.Replace

/-!
# Trimmed and split texts

Main statements:
* `splitOnce_eq_some_iff`: the first separator splits a text, so no other one stands in front
  of it.
* `trimmed_trim`, `trim_eq_self`: the trimmed texts are those that trimming leaves alone.
* `trim_eq_iff`: trimming takes off what a trimmed text is padded with.
* `trim_eq_nil_iff`: trimming leaves nothing of a blank text, and of no other one.
* `allBlank_eq_false_iff`: a text is not blank if it has a character that is not.
-/

namespace TracerConfig.Text

/-! ## Splitting -/

theorem splitOnce_append {separator : Char} {before : List Char} (h : separator ∉ before)
    (after : List Char) :
    splitOnce separator (before ++ separator :: after) = some (before, after) := by
  induction before with
  | nil => simp [splitOnce]
  | cons c cs ih =>
    obtain ⟨hc, hcs⟩ : separator ≠ c ∧ separator ∉ cs := by simpa using h
    rw [List.cons_append, splitOnce, if_neg (Ne.symm hc), ih hcs]
    rfl

theorem splitOnce_eq_none {separator : Char} {text : List Char} (h : separator ∉ text) :
    splitOnce separator text = none := by
  induction text with
  | nil => rfl
  | cons c cs ih =>
    obtain ⟨hc, hcs⟩ : separator ≠ c ∧ separator ∉ cs := by simpa using h
    rw [splitOnce, if_neg (Ne.symm hc), ih hcs]
    rfl

/-- The first separator splits a text. -/
theorem splitOnce_eq_some_iff {separator : Char} {text before after : List Char} :
    splitOnce separator text = some (before, after) ↔
      text = before ++ separator :: after ∧ separator ∉ before := by
  constructor
  · intro h
    by_cases hs : separator ∈ text
    · obtain ⟨x, y, rfl, hx⟩ := List.eq_append_cons_of_mem hs
      rw [splitOnce_append hx] at h
      cases h
      exact ⟨rfl, hx⟩
    · rw [splitOnce_eq_none hs] at h
      cases h
  · rintro ⟨rfl, h⟩
    exact splitOnce_append h after

/-- Only a text without the separator is not split. -/
theorem splitOnce_eq_none_iff {separator : Char} {text : List Char} :
    splitOnce separator text = none ↔ separator ∉ text := by
  constructor
  · intro h hs
    obtain ⟨x, y, rfl, hx⟩ := List.eq_append_cons_of_mem hs
    rw [splitOnce_append hx] at h
    cases h
  · exact splitOnce_eq_none

/-! ## Trimming -/

/-- No blank stands at either end. -/
def Trimmed (text : List Char) : Prop :=
  (∀ c ∈ text.head?, isBlank c = false) ∧ ∀ c ∈ text.getLast?, isBlank c = false

instance (text : List Char) : Decidable (Trimmed text) :=
  decidable_of_iff
    (text.head?.all (!isBlank ·) = true ∧ text.getLast?.all (!isBlank ·) = true)
    (by simp [Trimmed, Option.all_eq_true])

theorem trimEnd_eq_rdropWhile (text : List Char) : trimEnd text = text.rdropWhile isBlank := rfl

/-- No blank is left at the end. -/
theorem isBlank_of_getLast?_trimEnd {text : List Char} {c : Char}
    (hc : c ∈ (trimEnd text).getLast?) : isBlank c = false := by
  rw [trimEnd_eq_rdropWhile] at hc
  have hne := List.ne_nil_of_mem (List.mem_of_getLast? hc)
  have hl := List.rdropWhile_last_not isBlank _ hne
  rw [List.getLast?_eq_some_getLast hne] at hc
  cases hc
  simpa using hl

/-- Trimming removes the blanks at both ends. -/
theorem trimmed_trim (text : List Char) : Trimmed (trim text) := by
  rw [trim]
  constructor
  · -- the first character that stays is no blank, and stays first
    intro c hc
    have hd := List.head?_dropWhile_not isBlank text
    obtain ⟨rest, hrest⟩ := List.rdropWhile_prefix isBlank (text.dropWhile isBlank)
    rw [← hrest, List.head?_append, ← trimEnd_eq_rdropWhile, Option.mem_def.mp hc] at hd
    simpa using hd
  · intro c hc
    exact isBlank_of_getLast?_trimEnd hc

/-- A trimmed text stays as it is. -/
theorem trim_eq_self {text : List Char} (h : Trimmed text) : trim text = text := by
  have hfront : text.dropWhile isBlank = text := by
    cases text with
    | nil => rfl
    | cons c cs => exact List.dropWhile_cons_of_neg (by simp [h.1 c rfl])
  rw [trim, hfront, trimEnd_eq_rdropWhile, List.rdropWhile_eq_self_iff]
  intro hne
  simp [h.2 _ (List.getLast?_eq_some_getLast hne)]

/-- The text is the word, with nothing but blanks in front of it and behind it. -/
def Padded (text word : List Char) : Prop :=
  ∃ front back, text = front ++ word ++ back ∧
    (∀ c ∈ front, isBlank c = true) ∧ ∀ c ∈ back, isBlank c = true

/-- Blanks at the end do not count. -/
theorem trim_append_blank {back : List Char} (h : ∀ c ∈ back, isBlank c = true)
    (text : List Char) : trim (text ++ back) = trim text := by
  have hend : ∀ cs, trimEnd (cs ++ back) = trimEnd cs := by
    intro cs
    rw [trimEnd, trimEnd, List.reverse_append,
      List.dropWhile_append_of_pos fun c hc => h c (List.mem_reverse.mp hc)]
  rw [trim, trim, List.dropWhile_append]
  split
  · next hnil =>
    rw [List.isEmpty_iff.mp hnil, List.dropWhile_eq_nil_iff.mpr h]
  · exact hend _

/-- Trimming takes off what a trimmed text is padded with, and nothing else. -/
theorem trim_eq_iff {text word : List Char} :
    trim text = word ↔ Trimmed word ∧ Padded text word := by
  constructor
  · rintro rfl
    refine ⟨trimmed_trim text, text.takeWhile isBlank, (text.dropWhile isBlank).rtakeWhile isBlank,
      ?_, fun c hc => List.mem_takeWhile_imp hc, ?_⟩
    · rw [trim, trimEnd_eq_rdropWhile, List.append_assoc, List.rdropWhile_append_rtakeWhile,
        List.takeWhile_append_dropWhile]
    · intro c hc
      rw [List.rtakeWhile, List.mem_reverse] at hc
      exact List.mem_takeWhile_imp hc
  · rintro ⟨hword, front, back, rfl, hfront, hback⟩
    rw [trim_append_blank hback, trim, List.dropWhile_append_of_pos hfront]
    exact trim_eq_self hword

/-- Nothing is left of a text that is blank, and of no other one. -/
theorem trim_eq_nil_iff {text : List Char} : trim text = [] ↔ ∀ c ∈ text, isBlank c = true := by
  constructor
  · intro h
    have hall : ∀ c ∈ text.dropWhile isBlank, isBlank c = true := by
      rw [← List.rdropWhile_eq_nil_iff, ← trimEnd_eq_rdropWhile]
      exact h
    -- what is dropped at the front is blank as well
    intro c hc
    rw [← List.takeWhile_append_dropWhile (p := isBlank) (l := text)] at hc
    rcases List.mem_append.mp hc with hfront | hrest
    · exact List.mem_takeWhile_imp hfront
    · exact hall c hrest
  · intro h
    rw [trim, List.dropWhile_eq_nil_iff.mpr h]
    rfl

/-- A text is not blank if it has a character that is not. -/
theorem allBlank_eq_false_iff {s : String} :
    allBlank s = false ↔ ∃ c ∈ s.toList, isBlank c = false := by
  simp [allBlank]

/-- No visible character of ASCII is blank. -/
theorem isBlank_of_visible {c : Char} (hlow : '!' ≤ c) (hhigh : c ≤ '~') : isBlank c = false := by
  have hl : 33 ≤ c.toNat := UInt32.le_iff_toNat_le.mp hlow
  have hh : c.toNat ≤ 126 := UInt32.le_iff_toNat_le.mp hhigh
  simp only [isBlank, Bool.or_eq_false_iff, Bool.and_eq_false_iff, beq_eq_false_iff_ne,
    decide_eq_false_iff_not]
  omega

/-! ## Letter case -/

/-- A blank is one in either case. -/
theorem isBlank_toLower (c : Char) : isBlank c.toLower = isBlank c := by
  have hupper : ∀ n : Fin 26, isBlank (Char.ofNat (65 + n.val)) = false ∧
      isBlank (Char.ofNat (65 + n.val)).toLower = false := by
    decide +kernel
  by_cases h : 65 ≤ c.toNat ∧ c.toNat ≤ 90
  · obtain ⟨hc, hlow⟩ := hupper ⟨c.toNat - 65, by omega⟩
    have hsum : 65 + (c.toNat - 65) = c.toNat := by omega
    rw [hsum, Char.ofNat_toNat] at hc hlow
    rw [hc, hlow]
  · have hlow : c.toLower = c := dif_neg h
    rw [hlow]

theorem trimmed_asciiLower_iff {text : List Char} : Trimmed (asciiLower text) ↔ Trimmed text := by
  simp [Trimmed, asciiLower, isBlank_toLower]

end TracerConfig.Text
