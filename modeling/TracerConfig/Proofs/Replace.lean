import Mathlib.Data.List.Infix
import TracerConfig.Text.Replace

/-!
# Copies of a text and their replacement

Main statements:
* `copies_induction`: a text has no copy of another one, or goes on behind the first copy.
* `replaceFrom_of_no_copy`, `replaceFrom_first`: what replacement does in these two cases.
* `replaceFrom_append_cons`: a character that the copies do not have keeps both sides apart.
-/

namespace TracerConfig.Text

/-! ## Infixes on both sides of a character -/

theorem prefix_append_cons_iff {w x y : List Char} {c : Char} (h : c ∉ w) :
    w <+: x ++ c :: y ↔ w <+: x := by
  constructor
  · rintro ⟨z, hz⟩
    rcases List.append_eq_append_iff.mp hz with ⟨a, hx, _⟩ | ⟨a, hw, ha⟩
    · exact ⟨a, hx.symm⟩
    · cases a with
      | nil => exact ⟨[], by simpa using hw⟩
      | cons d ds =>
        obtain ⟨rfl, _⟩ := List.cons.inj ha
        exact absurd (hw ▸ by simp) h
  · intro hw
    exact hw.trans (List.prefix_append x _)

/-- A word without the character stands on one side of it. -/
theorem infix_append_cons_iff {w x y : List Char} {c : Char} (h : c ∉ w) :
    w <:+: x ++ c :: y ↔ w <:+: x ∨ w <:+: y := by
  induction x with
  | nil =>
    rw [List.nil_append, List.infix_cons_iff]
    constructor
    · rintro (hpre | hin)
      · exact .inl ((prefix_append_cons_iff (x := []) h).mp hpre).isInfix
      · exact .inr hin
    · rintro (hin | hin)
      · rw [List.infix_nil.mp hin]
        exact .inl List.nil_prefix
      · exact .inr hin
  | cons d ds ih =>
    rw [List.cons_append, List.infix_cons_iff, List.infix_cons_iff, ih, ← List.cons_append,
      prefix_append_cons_iff h, or_assoc]

theorem infix_replicate_append_iff {w y : List Char} {c : Char} (hw : w ≠ []) (h : c ∉ w)
    (n : Nat) : w <:+: List.replicate n c ++ y ↔ w <:+: y := by
  induction n with
  | zero => rfl
  | succ n ih =>
    rw [List.replicate_succ, List.cons_append, ← List.nil_append (c :: _),
      infix_append_cons_iff h, ih, List.infix_nil]
    simp [hw]

/-- A word without the separating character stands in one of the joined texts. -/
theorem infix_intercalate_iff {w : List Char} {c : Char} (hw : w ≠ []) (h : c ∉ w) (n : Nat)
    (texts : List (List Char)) :
    w <:+: (List.replicate (n + 1) c).intercalate texts ↔ ∃ s ∈ texts, w <:+: s := by
  induction texts with
  | nil => simp [hw]
  | cons s ss ih =>
    cases ss with
    | nil => simp
    | cons s' ss' =>
      have hjoin : (List.replicate (n + 1) c).intercalate (s :: s' :: ss') =
          s ++ c :: (List.replicate n c ++ (List.replicate (n + 1) c).intercalate (s' :: ss')) := by
        rw [List.intercalate_cons_cons, List.replicate_succ, List.append_assoc]
        rfl
      rw [hjoin, infix_append_cons_iff h, infix_replicate_append_iff hw h, ih]
      simp

/-! ## The first copy -/

theorem prefix_first (old p q : List Char) : p ++ old.dropLast <+: p ++ old ++ q :=
  ((List.prefix_append_right_inj p).mpr (List.dropLast_prefix old)).trans
    (List.prefix_append (p ++ old) q)

/-- No copy begins in front of the first one. -/
theorem not_prefix_of_first {old p q : List Char} {c : Char}
    (h : ¬ old <:+: c :: p ++ old.dropLast) : ¬ old <+: c :: (p ++ old ++ q) := by
  intro hpre
  have hdrop := prefix_first old (c :: p) q
  have hlen : old.length ≤ (c :: p ++ old.dropLast).length := by
    simp
    omega
  exact h (List.prefix_of_prefix_length_le hpre hdrop hlen).isInfix

theorem exists_first {old text : List Char} (hold : old ≠ []) (h : old <:+: text) :
    ∃ p q, text = p ++ old ++ q ∧ ¬ old <:+: p ++ old.dropLast := by
  induction text with
  | nil => exact absurd (List.infix_nil.mp h) hold
  | cons c cs ih =>
    by_cases hpre : old <+: c :: cs
    · obtain ⟨q, hq⟩ := hpre
      refine ⟨[], q, hq.symm, ?_⟩
      intro hin
      have hlen := hin.length_le
      have hpos := List.length_pos_of_ne_nil hold
      rw [List.nil_append, List.length_dropLast] at hlen
      omega
    · -- no copy begins here, so the first one is that of the rest
      obtain ⟨p, q, rfl, hp⟩ := ih ((List.infix_cons_iff.mp h).resolve_left hpre)
      refine ⟨c :: p, q, rfl, ?_⟩
      intro hin
      rcases List.infix_cons_iff.mp hin with hfront | hrest
      · exact hpre (List.IsPrefix.trans hfront (prefix_first old (c :: p) q))
      · exact hp hrest

/-- A text has no copy of another one, or goes on behind the first copy. -/
@[elab_as_elim]
theorem copies_induction {old : List Char} (hold : old ≠ []) {motive : List Char → Prop}
    (last : ∀ text, ¬ old <:+: text → motive text)
    (copy : ∀ p q, ¬ old <:+: p ++ old.dropLast → motive q → motive (p ++ old ++ q))
    (text : List Char) : motive text := by
  -- on the length: what follows a copy is shorter than the text
  induction hn : text.length using Nat.strong_induction_on generalizing text with
  | h n ih =>
    by_cases h : old <:+: text
    · obtain ⟨p, q, rfl, hp⟩ := exists_first hold h
      have hpos := List.length_pos_of_ne_nil hold
      have hlt : q.length < n := by
        simp only [List.length_append] at hn
        omega
      exact copy p q hp (ih q.length hlt q rfl)
    · exact last text h

/-! ## Replacing copies -/

theorem replaceFrom_skip (old new x y : List Char) :
    replaceFrom old new x.length (x ++ y) = replaceFrom old new 0 y := by
  induction x with
  | nil => rfl
  | cons c cs ih => exact ih

theorem replaceFrom_copy {old : List Char} (hold : old ≠ []) (new y : List Char) :
    replaceFrom old new 0 (old ++ y) = new ++ replaceFrom old new 0 y := by
  cases old with
  | nil => exact absurd rfl hold
  | cons c cs =>
    have hpre : (c :: cs).isPrefixOf (c :: (cs ++ y)) = true :=
      List.isPrefixOf_iff_prefix.mpr (List.prefix_append (c :: cs) y)
    rw [List.cons_append, replaceFrom, if_pos hpre]
    exact congrArg (new ++ ·) (replaceFrom_skip (c :: cs) new cs y)

/-- A text is a copy of itself. -/
theorem replaceFrom_self {old : List Char} (hold : old ≠ []) (new : List Char) :
    replaceFrom old new 0 old = new := by
  have hcopy := replaceFrom_copy hold new []
  rw [List.append_nil, replaceFrom, List.append_nil] at hcopy
  exact hcopy

theorem replaceFrom_cons {old : List Char} {c : Char} {cs : List Char}
    (h : ¬ old <+: c :: cs) (new : List Char) :
    replaceFrom old new 0 (c :: cs) = c :: replaceFrom old new 0 cs := by
  rw [replaceFrom, if_neg]
  intro hpre
  exact h (List.isPrefixOf_iff_prefix.mp hpre)

/-- A text without a copy stays as it is. -/
theorem replaceFrom_of_no_copy {old text : List Char} (h : ¬ old <:+: text)
    (new : List Char) : replaceFrom old new 0 text = text := by
  induction text with
  | nil => rfl
  | cons c cs ih =>
    have hpre : ¬ old <+: c :: cs := fun hp => h hp.isInfix
    have hcs : ¬ old <:+: cs := fun hi => h (List.infix_cons hi)
    rw [replaceFrom_cons hpre, ih hcs]

/-- The first copy is replaced, and replacement goes on behind it. -/
theorem replaceFrom_first {old p : List Char} (hold : old ≠ [])
    (hp : ¬ old <:+: p ++ old.dropLast) (new q : List Char) :
    replaceFrom old new 0 (p ++ old ++ q) = p ++ (new ++ replaceFrom old new 0 q) := by
  induction p with
  | nil => exact replaceFrom_copy hold new q
  | cons c cs ih =>
    have hcs : ¬ old <:+: cs ++ old.dropLast := fun hi => hp (List.infix_cons hi)
    rw [List.cons_append, List.cons_append, replaceFrom_cons, ih hcs]
    · rfl
    · exact not_prefix_of_first hp

/-- A character that the copies do not have keeps both sides apart. -/
theorem replaceFrom_append_cons {old : List Char} {c : Char} (hold : old ≠ []) (h : c ∉ old)
    (new x y : List Char) :
    replaceFrom old new 0 (x ++ c :: y) =
      replaceFrom old new 0 x ++ c :: replaceFrom old new 0 y := by
  induction x using copies_induction hold with
  | last x hx =>
    -- no copy begins in `x` and reaches over the character
    rw [replaceFrom_of_no_copy hx]
    induction x with
    | nil =>
      apply replaceFrom_cons
      intro hpre
      exact hold (List.prefix_nil.mp ((prefix_append_cons_iff (x := []) h).mp hpre))
    | cons d ds ih =>
      have hds : ¬ old <:+: ds := fun hi => hx (List.infix_cons hi)
      rw [List.cons_append, replaceFrom_cons, ih hds]
      · rfl
      · intro hpre
        exact hx ((prefix_append_cons_iff (x := d :: ds) h).mp hpre).isInfix
  | copy p q hp ih =>
    rw [List.append_assoc (p ++ old), replaceFrom_first hold hp, replaceFrom_first hold hp, ih]
    simp only [List.append_assoc]

/-- Copies are replaced in each of the joined texts on its own. -/
theorem replaceFrom_intercalate {old : List Char} {c : Char} (hold : old ≠ []) (h : c ∉ old)
    (new : List Char) (n : Nat) (texts : List (List Char)) :
    replaceFrom old new 0 ((List.replicate (n + 1) c).intercalate texts) =
      (List.replicate (n + 1) c).intercalate (texts.map (replaceFrom old new 0)) := by
  have hsep : ∀ (m : Nat) (y : List Char), replaceFrom old new 0 (List.replicate m c ++ y) =
      List.replicate m c ++ replaceFrom old new 0 y := by
    intro m y
    induction m with
    | zero => rfl
    | succ m ih =>
      have hstep := replaceFrom_append_cons hold h new [] (List.replicate m c ++ y)
      rw [ih] at hstep
      exact hstep
  induction texts with
  | nil => rfl
  | cons s ss ih =>
    cases ss with
    | nil => simp
    | cons s' ss' =>
      rw [List.intercalate_cons_cons, List.map_cons, List.map_cons, List.intercalate_cons_cons,
        ← List.map_cons, ← ih, List.replicate_succ, List.append_assoc, List.cons_append,
        replaceFrom_append_cons hold h, hsep]
      simp only [List.append_assoc, List.cons_append]

end TracerConfig.Text
