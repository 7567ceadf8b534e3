import TracerConfig.Number.Integer

/-!
# Which texts are integers

Main definition:
* `Numeral`: the decimal numerals, with a sign or without one.

Main statements:
* `readDigits_eq_ok_iff`: digits are read as their value, up to the limit.
* `readSigned_eq_ok_iff`: the numerals of the numbers in range are read, and no other text is.
* `readNatural_repr`, `readSigned_repr_of_nonneg`: decimal digits are read back within the limit.
-/

namespace TracerConfig.Integer

/-! ## Digits -/

theorem digit?_of_isDigit {c : Char} (h : c.isDigit = true) :
    digit? c = some (c.toNat - '0'.toNat) := by
  rw [digit?, if_pos]
  simpa [Char.isDigit, Char.le_def] using h

theorem digit?_of_not_isDigit {c : Char} (h : ¬ c.isDigit = true) : digit? c = none := by
  rw [digit?, if_neg]
  simpa [Char.isDigit, Char.le_def] using h

theorem le_ofDigitChars (cs : List Char) (n : Nat) : n ≤ Nat.ofDigitChars 10 cs n := by
  rw [Nat.ofDigitChars_eq_ofDigitChars_zero]
  have hpow : 0 < 10 ^ cs.length := Nat.pow_pos (by decide)
  have hmul : n ≤ 10 ^ cs.length * n := Nat.le_mul_of_pos_left n hpow
  omega

/-- Digits are read as their value, if that is within the limit, and nothing else is read. -/
theorem readDigits_eq_ok_iff {limit : Nat} {overflow : IntegerError} {cs : List Char} {n m : Nat}
    (hn : n ≤ limit) :
    readDigits limit overflow n cs = .ok m ↔
      (∀ c ∈ cs, c.isDigit = true) ∧ Nat.ofDigitChars 10 cs n = m ∧ m ≤ limit := by
  induction cs generalizing n with
  | nil =>
    rw [readDigits, Nat.ofDigitChars_nil, Except.ok.injEq]
    constructor
    · rintro rfl
      exact ⟨nofun, rfl, hn⟩
    · exact fun h => h.2.1
  | cons c cs ih =>
    rw [readDigits, List.forall_mem_cons]
    by_cases hc : c.isDigit = true
    · rw [digit?_of_isDigit hc, Nat.ofDigitChars_cons]
      simp only [hc, true_and]
      split
      · next hstep => exact ih hstep
      · -- the number only grows, so what is too large now is too large in the end
        next hstep =>
        refine iff_of_false nofun ?_
        rintro ⟨-, rfl, hlimit⟩
        exact hstep (Nat.le_trans (le_ofDigitChars cs _) hlimit)
    · rw [digit?_of_not_isDigit hc]
      exact iff_of_false nofun fun h => hc h.1.1

/-- A number made of what the digits come to is read where the digits are. -/
theorem map_readDigits_eq_ok_iff {limit : Nat} {overflow : IntegerError} {ds : List Char}
    {f : Nat → Int} {n : Int} :
    (readDigits limit overflow 0 ds).map f = .ok n ↔
      (∀ c ∈ ds, c.isDigit = true) ∧ f (Nat.ofDigitChars 10 ds 0) = n ∧
        Nat.ofDigitChars 10 ds 0 ≤ limit := by
  have hiff (m : Nat) : readDigits limit overflow 0 ds = .ok m ↔
      (∀ c ∈ ds, c.isDigit = true) ∧ Nat.ofDigitChars 10 ds 0 = m ∧ m ≤ limit :=
    readDigits_eq_ok_iff (Nat.zero_le limit)
  constructor
  · intro h
    cases hread : readDigits limit overflow 0 ds with
    | error e =>
      rw [hread] at h
      cases h
    | ok m =>
      rw [hread] at h
      cases h
      obtain ⟨hdigit, rfl, hlimit⟩ := (hiff m).mp hread
      exact ⟨hdigit, rfl, hlimit⟩
  · rintro ⟨hdigit, rfl, hlimit⟩
    rw [(hiff _).mpr ⟨hdigit, rfl, hlimit⟩]
    rfl

/-! ## Numerals -/

/-- A text is a decimal numeral of a number: one or more digits, after a sign or without one. -/
inductive Numeral : List Char → Int → Prop
  | unsigned {ds : List Char} : ds ≠ [] → (∀ c ∈ ds, c.isDigit = true) →
      Numeral ds (Nat.ofDigitChars 10 ds 0 : Nat)
  | plus {ds : List Char} : ds ≠ [] → (∀ c ∈ ds, c.isDigit = true) →
      Numeral ('+' :: ds) (Nat.ofDigitChars 10 ds 0 : Nat)
  | minus {ds : List Char} : ds ≠ [] → (∀ c ∈ ds, c.isDigit = true) →
      Numeral ('-' :: ds) (-(Nat.ofDigitChars 10 ds 0 : Nat))

/-- Digits start with no sign. -/
theorem exists_cons_of_digits {ds : List Char} (hne : ds ≠ []) (h : ∀ c ∈ ds, c.isDigit = true) :
    ∃ c cs, ds = c :: cs ∧ c ≠ '+' ∧ c ≠ '-' := by
  obtain ⟨c, cs, rfl⟩ := List.exists_cons_of_ne_nil hne
  have hc := h c (List.mem_cons_self ..)
  refine ⟨c, cs, rfl, ?_, ?_⟩
  · rintro rfl
    cases hc
  · rintro rfl
    cases hc

section

variable (limit : Nat)

theorem readSigned_minus {ds : List Char} (hne : ds ≠ []) :
    readSigned limit ('-' :: ds) =
      (readDigits (limit + 1) .tooSmall 0 ds).map fun m => -Int.ofNat m := by
  obtain ⟨c, cs, rfl⟩ := List.exists_cons_of_ne_nil hne
  rw [readSigned]
  · cases readDigits (limit + 1) .tooSmall 0 (c :: cs) <;> rfl
  · simp

theorem readSigned_plus {ds : List Char} (hne : ds ≠ []) :
    readSigned limit ('+' :: ds) = (readDigits limit .tooLarge 0 ds).map Int.ofNat := by
  obtain ⟨c, cs, rfl⟩ := List.exists_cons_of_ne_nil hne
  rfl

theorem readSigned_cons {c : Char} (hplus : c ≠ '+') (hminus : c ≠ '-') (cs : List Char) :
    readSigned limit (c :: cs) = (readDigits limit .tooLarge 0 (c :: cs)).map Int.ofNat := by
  unfold readSigned
  split <;> simp_all

end

/-- The numerals of the numbers in range are read as these numbers, and nothing else is read. -/
theorem readSigned_eq_ok_iff {limit : Nat} {text : List Char} {n : Int} :
    readSigned limit text = .ok n ↔ Numeral text n ∧ -(limit + 1) ≤ n ∧ n ≤ limit := by
  constructor
  · intro h
    cases text with
    | nil => cases h
    | cons c cs =>
      by_cases hminus : c = '-'
      · subst hminus
        have hne : cs ≠ [] := by
          rintro rfl
          cases h
        rw [readSigned_minus limit hne, map_readDigits_eq_ok_iff] at h
        obtain ⟨hdigit, rfl, hlimit⟩ := h
        exact ⟨.minus hne hdigit, by simp only [Int.ofNat_eq_natCast]; omega,
          by simp only [Int.ofNat_eq_natCast]; omega⟩
      by_cases hplus : c = '+'
      · subst hplus
        have hne : cs ≠ [] := by
          rintro rfl
          cases h
        rw [readSigned_plus limit hne, map_readDigits_eq_ok_iff] at h
        obtain ⟨hdigit, rfl, hlimit⟩ := h
        exact ⟨.plus hne hdigit, by simp only [Int.ofNat_eq_natCast]; omega,
          Int.ofNat_le.mpr hlimit⟩
      · rw [readSigned_cons limit hplus hminus, map_readDigits_eq_ok_iff] at h
        obtain ⟨hdigit, rfl, hlimit⟩ := h
        exact ⟨.unsigned (List.cons_ne_nil c cs) hdigit,
          by simp only [Int.ofNat_eq_natCast]; omega, Int.ofNat_le.mpr hlimit⟩
  · rintro ⟨hnumeral, hlow, hhigh⟩
    cases hnumeral with
    | unsigned hne hdigit =>
      obtain ⟨c, cs, rfl, hplus, hminus⟩ := exists_cons_of_digits hne hdigit
      rw [readSigned_cons limit hplus hminus, map_readDigits_eq_ok_iff]
      exact ⟨hdigit, rfl, Int.ofNat_le.mp hhigh⟩
    | plus hne hdigit =>
      rw [readSigned_plus limit hne, map_readDigits_eq_ok_iff]
      exact ⟨hdigit, rfl, Int.ofNat_le.mp hhigh⟩
    | minus hne hdigit =>
      rw [readSigned_minus limit hne, map_readDigits_eq_ok_iff]
      exact ⟨hdigit, rfl, by omega⟩

/-! ## Digits of a number -/

theorem isDigit_of_mem_repr {n : Nat} {c : Char} (h : c ∈ n.repr.toList) : c.isDigit = true := by
  rw [Nat.toList_repr] at h
  exact Nat.isDigit_of_mem_toDigits (by decide) (by decide) h

theorem ofDigitChars_repr (n : Nat) : Nat.ofDigitChars 10 n.repr.toList 0 = n := by
  rw [Nat.toList_repr, Nat.ofDigitChars_ten_toDigits]

theorem numeral_repr (n : Nat) : Numeral n.repr.toList n := by
  have hnumeral : Numeral n.repr.toList (Nat.ofDigitChars 10 n.repr.toList 0 : Nat) :=
    .unsigned (by simp) fun _ hc => isDigit_of_mem_repr hc
  rw [ofDigitChars_repr] at hnumeral
  exact hnumeral

theorem readNatural_repr {limit n : Nat} (h : n ≤ limit) :
    readNatural limit n.repr.toList = .ok n := by
  have hdigit : ∀ c ∈ n.repr.toList, c.isDigit = true := fun _ hc => isDigit_of_mem_repr hc
  obtain ⟨c, cs, hcs, hplus, _⟩ := exists_cons_of_digits (by simp) hdigit
  -- the first character is a digit, so there is no sign to read
  have hread : readNatural limit (c :: cs) = readDigits limit .tooLarge 0 (c :: cs) := by
    unfold readNatural
    split <;> simp_all
  rw [hcs, hread, ← hcs, readDigits_eq_ok_iff (Nat.zero_le limit)]
  exact ⟨hdigit, ofDigitChars_repr n, h⟩

theorem readSigned_repr_of_nonneg {limit : Nat} {n : Int} (h : 0 ≤ n) (hn : n ≤ limit) :
    readSigned limit n.repr.toList = .ok n := by
  obtain ⟨m, rfl⟩ := Int.eq_ofNat_of_zero_le h
  exact readSigned_eq_ok_iff.mpr ⟨numeral_repr m, by omega, hn⟩

end TracerConfig.Integer
