import Mathlib.Data.List.Forall2
import TracerConfig.Filter.Compiled
import TracerConfig.Proofs.Text

/-!
# Compiled filters

There are four rules for a specification, and a list of specifications compiles if each one keeps
them all. Otherwise the list is refused as a whole. The error is about the first specification
that breaks a rule, and of the rules that this one breaks it is about the first.

Main definitions:
* `Spec.Valid`: the four rules, and `Spec.Yields`, what a specification asks for.
* `Spec.Breaks`: the first rule that a specification breaks.

Main statements:
* `compile_eq_ok_iff`, `compile_eq_error_iff`: the outcome for one specification.
* `mode_of_compile`: a filter forces the mode that its specification names.
* `compileAll_eq_ok_iff`: a list compiles if and to what each of its specifications does.
* `compileAll_eq_error_iff`: the first bad specification decides.
* `compileAll_outcome`: the outcome for every list of specifications.
-/

namespace TracerConfig

/-! ## Canonical words -/

theorem TracingMode.trimmed_spelling (m : TracingMode) : Text.Trimmed m.spelling.toList := by
  cases m <;> decide +kernel

/-- A word is canonical if it is a spelling with nothing but blanks around it. -/
theorem TracingMode.readCanonical?_eq_some_iff {word : String} {m : TracingMode} :
    readCanonical? word = some m ↔ Text.Padded word.toList m.spelling.toList := by
  rw [← and_iff_right (b := Text.Padded _ _) m.trimmed_spelling, ← Text.trim_eq_iff]
  constructor
  · intro h
    simp only [readCanonical?] at h
    split at h
    · next henabled =>
      cases h
      exact henabled
    split at h
    · next hdisabled =>
      cases h
      exact hdisabled
    · cases h
  · intro h
    cases m with
    | enabled => exact if_pos h
    | disabled =>
      have hne : Text.trim word.toList ≠ "enabled".toList := by
        rw [h]
        decide
      exact (if_neg hne).trans (if_pos h)

namespace Filter

/-! ## Rules -/

namespace Spec

/-- There is a pattern, and it is not empty. -/
def HasPattern (s : Spec) (p : String) : Prop := s.regex = some p ∧ p ≠ ""

/-- A tracing mode is named by its canonical word, which may stand between blanks. -/
def HasMode (s : Spec) (m : TracingMode) : Prop :=
  Text.Padded s.tracing.toList m.spelling.toList

/-- There are no extensions beside a pattern. Empty extensions count. -/
def Exclusive (s : Spec) : Prop := ∀ p, s.HasPattern p → s.extensions = []

/-- The rules that a specification has to keep. -/
structure Valid (s : Spec) : Prop where
  exclusive : s.Exclusive
  kind : s.kind = "url"
  tracing : ∃ m, s.HasMode m
  pattern : ∀ p, s.HasPattern p → ∃ e, Pattern.Expression.parse p = .ok e

/-- The filter has the mode and the matcher of the specification. Without a pattern the
extensions count, even if there are none. -/
structure Yields (s : Spec) (f : Filter) : Prop where
  mode : s.HasMode f.mode
  matcher :
    (∃ p e, s.HasPattern p ∧ Pattern.Expression.parse p = .ok e ∧ f.matcher = .pattern e) ∨
      ((∀ p, ¬ s.HasPattern p) ∧ f.matcher = .extensions s.extensions)

/-- The first rule that a specification breaks, told with what the specification says there. -/
inductive Breaks (s : Spec) : Error → Prop
  | exclusive : ¬ s.Exclusive → Breaks s .regexAndExtensions
  | kind : s.Exclusive → s.kind ≠ "url" → Breaks s (.unknownKind s.kind)
  | tracing : s.Exclusive → s.kind = "url" → (∀ m, ¬ s.HasMode m) →
      Breaks s (.unknownTracing s.tracing)
  | pattern {m : TracingMode} {p : String} {cause : Pattern.Error} : s.Exclusive →
      s.kind = "url" → s.HasMode m → s.HasPattern p →
      Pattern.Expression.parse p = .error cause → Breaks s (.badPattern p cause)

theorem pattern?_eq_some_iff {s : Spec} {p : String} : s.pattern? = some p ↔ s.HasPattern p := by
  simp [pattern?, HasPattern, Option.filter_eq_some_iff]

theorem pattern?_eq_none_iff {s : Spec} : s.pattern? = none ↔ ∀ p, ¬ s.HasPattern p := by
  simp only [← pattern?_eq_some_iff, Option.eq_none_iff_forall_ne_some, ne_eq]

theorem exclusive_iff {s : Spec} :
    s.Exclusive ↔ ¬ (s.pattern?.isSome && !s.extensions.isEmpty) = true := by
  cases hp : s.pattern? with
  | none =>
    have hnone := pattern?_eq_none_iff.mp hp
    exact iff_of_true (fun p h => absurd h (hnone p)) (by simp)
  | some p =>
    have hpattern := pattern?_eq_some_iff.mp hp
    constructor
    · intro h
      simp [h p hpattern]
    · intro h q _
      simpa using h

/-- A specification that keeps the rules asks for some filter. -/
theorem Valid.exists_yields {s : Spec} (h : s.Valid) : ∃ f, s.Yields f := by
  obtain ⟨m, hm⟩ := h.tracing
  by_cases hp : ∃ p, s.HasPattern p
  · obtain ⟨p, hp⟩ := hp
    obtain ⟨e, he⟩ := h.pattern p hp
    exact ⟨⟨.pattern e, m⟩, hm, .inl ⟨p, e, hp, he, rfl⟩⟩
  · exact ⟨⟨.extensions s.extensions, m⟩, hm, .inr ⟨not_exists.mp hp, rfl⟩⟩

/-- A specification that does not keep the rules breaks one of them first. -/
theorem exists_breaks_of_not_valid {s : Spec} (h : ¬ s.Valid) : ∃ e, s.Breaks e := by
  by_cases hexclusive : s.Exclusive
  case neg => exact ⟨_, .exclusive hexclusive⟩
  by_cases hkind : s.kind = "url"
  case neg => exact ⟨_, .kind hexclusive hkind⟩
  by_cases htracing : ∃ m, s.HasMode m
  case neg => exact ⟨_, .tracing hexclusive hkind (not_exists.mp htracing)⟩
  obtain ⟨m, hm⟩ := htracing
  -- the pattern is what is left to be wrong
  have hbad : ∃ p, s.HasPattern p ∧ ∀ e, Pattern.Expression.parse p ≠ .ok e := by
    by_contra hgood
    refine h ⟨hexclusive, hkind, ⟨m, hm⟩, fun p hp => ?_⟩
    by_contra hnone
    exact hgood ⟨p, hp, not_exists.mp hnone⟩
  obtain ⟨p, hp, hnone⟩ := hbad
  cases hparse : Pattern.Expression.parse p with
  | ok e => exact absurd hparse (hnone e)
  | error cause => exact ⟨_, .pattern hexclusive hkind hm hp hparse⟩

end Spec

/-! ## One specification -/

theorem compile_of_valid {s : Spec} {f : Filter} (hs : s.Valid) (hf : s.Yields f) :
    compile s = .ok f := by
  obtain ⟨matcher, mode⟩ := f
  have hmode : TracingMode.readCanonical? s.tracing = some mode :=
    TracingMode.readCanonical?_eq_some_iff.mpr hf.mode
  rw [compile, Spec.urlKind, if_neg (Spec.exclusive_iff.mp hs.exclusive),
    if_neg (not_not.mpr hs.kind), hmode]
  rcases hf.matcher with ⟨p, e, hp, he, rfl⟩ | ⟨hnone, rfl⟩
  · simp only [Spec.pattern?_eq_some_iff.mpr hp, he]
  · simp only [Spec.pattern?_eq_none_iff.mpr hnone]

theorem compile_of_breaks {s : Spec} {e : Error} (h : s.Breaks e) : compile s = .error e := by
  cases h with
  | exclusive hboth => exact if_pos (not_not.mp (mt Spec.exclusive_iff.mpr hboth))
  | kind hexclusive hkind =>
    rw [compile, Spec.urlKind, if_neg (Spec.exclusive_iff.mp hexclusive), if_pos hkind]
  | tracing hexclusive hkind hnone =>
    have hmode : TracingMode.readCanonical? s.tracing = none :=
      Option.eq_none_iff_forall_ne_some.mpr fun m hm =>
        hnone m (TracingMode.readCanonical?_eq_some_iff.mp hm)
    rw [compile, Spec.urlKind, if_neg (Spec.exclusive_iff.mp hexclusive),
      if_neg (not_not.mpr hkind), hmode]
  | pattern hexclusive hkind hm hp hparse =>
    rw [compile, Spec.urlKind, if_neg (Spec.exclusive_iff.mp hexclusive),
      if_neg (not_not.mpr hkind),
      TracingMode.readCanonical?_eq_some_iff.mpr hm]
    simp only [Spec.pattern?_eq_some_iff.mpr hp, hparse]

/-- A specification compiles if it keeps the rules, to the filter that it asks for. -/
theorem compile_eq_ok_iff {s : Spec} {f : Filter} :
    compile s = .ok f ↔ s.Valid ∧ s.Yields f := by
  refine ⟨fun h => ?_, fun ⟨hs, hf⟩ => compile_of_valid hs hf⟩
  by_cases hs : s.Valid
  · obtain ⟨g, hg⟩ := hs.exists_yields
    rw [compile_of_valid hs hg] at h
    cases h
    exact ⟨hs, hg⟩
  · obtain ⟨e, he⟩ := Spec.exists_breaks_of_not_valid hs
    rw [compile_of_breaks he] at h
    cases h

/-- If it does not, the error is about the first rule that it breaks. -/
theorem compile_eq_error_iff {s : Spec} {e : Error} : compile s = .error e ↔ s.Breaks e := by
  refine ⟨fun h => ?_, compile_of_breaks⟩
  have hs : ¬ s.Valid := by
    intro hs
    obtain ⟨f, hf⟩ := hs.exists_yields
    rw [compile_of_valid hs hf] at h
    cases h
  obtain ⟨e', he⟩ := Spec.exists_breaks_of_not_valid hs
  rw [compile_of_breaks he] at h
  cases h
  exact he

theorem exists_compile_iff {s : Spec} : (∃ f, compile s = .ok f) ↔ s.Valid := by
  constructor
  · rintro ⟨f, hf⟩
    exact (compile_eq_ok_iff.mp hf).1
  · intro hs
    obtain ⟨f, hf⟩ := hs.exists_yields
    exact ⟨f, compile_of_valid hs hf⟩

/-- A filter forces the mode that its specification names. -/
theorem mode_of_compile {s : Spec} {f : Filter} (h : compile s = .ok f) :
    TracingMode.readCanonical? s.tracing = some f.mode :=
  TracingMode.readCanonical?_eq_some_iff.mpr (compile_eq_ok_iff.mp h).2.mode

/-! ## Lists of specifications -/

/-- A list compiles if and to what each of its specifications does. -/
theorem compileAll_eq_ok_iff {specs : List Spec} {filters : List Filter} :
    compileAll specs = .ok filters ↔
      List.Forall₂ (fun s f => compile s = .ok f) specs filters := by
  induction specs generalizing filters with
  | nil =>
    rw [List.forall₂_nil_left_iff, compileAll]
    exact ⟨fun h => (Except.ok.inj h).symm, fun h => congrArg Except.ok h.symm⟩
  | cons s rest ih =>
    rw [List.forall₂_cons_left_iff, compileAll]
    constructor
    · intro h
      cases hs : compile s with
      | error e =>
        rw [hs] at h
        cases h
      | ok f =>
        rw [hs] at h
        cases hrest : compileAll rest with
        | error e =>
          rw [hrest] at h
          cases h
        | ok fs =>
          rw [hrest] at h
          cases h
          exact ⟨f, fs, rfl, ih.mp hrest, rfl⟩
    · rintro ⟨f, fs, hs, hrest, rfl⟩
      rw [hs, ih.mpr hrest]
      rfl

/-- The first one of a list is its head, or the first one of the rest. -/
theorem exists_first_cons_iff {α : Type} {P Q : α → Prop} {x : α} {xs : List α} :
    (∃ front y back, x :: xs = front ++ y :: back ∧ (∀ z ∈ front, P z) ∧ Q y) ↔
      Q x ∨ P x ∧ ∃ front y back, xs = front ++ y :: back ∧ (∀ z ∈ front, P z) ∧ Q y := by
  constructor
  · rintro ⟨front, y, back, hxs, hfront, hy⟩
    cases front with
    | nil =>
      obtain ⟨rfl, -⟩ := List.cons.inj hxs
      exact .inl hy
    | cons z zs =>
      obtain ⟨rfl, rfl⟩ := List.cons.inj hxs
      obtain ⟨hx, hzs⟩ := List.forall_mem_cons.mp hfront
      exact .inr ⟨hx, zs, y, back, rfl, hzs, hy⟩
  · rintro (hx | ⟨hx, front, y, back, rfl, hfront, hy⟩)
    · exact ⟨[], x, xs, rfl, List.forall_mem_nil _, hx⟩
    · exact ⟨x :: front, y, back, rfl, List.forall_mem_cons.mpr ⟨hx, hfront⟩, hy⟩

/-- The first specification that breaks a rule decides what is wrong with a list. -/
theorem compileAll_eq_error_iff {specs : List Spec} {e : Error} :
    compileAll specs = .error e ↔
      ∃ front s back, specs = front ++ s :: back ∧ (∀ t ∈ front, t.Valid) ∧ s.Breaks e := by
  induction specs with
  | nil =>
    refine iff_of_false nofun ?_
    rintro ⟨front, s, back, hspecs, -⟩
    simp at hspecs
  | cons s rest ih =>
    rw [exists_first_cons_iff, ← ih, ← compile_eq_error_iff, ← exists_compile_iff, compileAll]
    cases compile s with
    | error e' => simp
    | ok f => cases compileAll rest <;> simp [Except.map]

/-- A list of specifications compiles if, and only if, each one keeps the rules; then there is one
filter for each, in order, with the mode and the matcher that it asks for. If one does not, the
error is about the first rule that the first such one breaks. -/
theorem compileAll_outcome (specs : List Spec) :
    ((∃ filters, compileAll specs = .ok filters) ↔ ∀ s ∈ specs, s.Valid) ∧
    (∀ filters, compileAll specs = .ok filters ↔
      (∀ s ∈ specs, s.Valid) ∧ List.Forall₂ Spec.Yields specs filters) ∧
    ∀ e, compileAll specs = .error e ↔
      ∃ front s back, specs = front ++ s :: back ∧ (∀ t ∈ front, t.Valid) ∧ s.Breaks e := by
  have hok : ∀ filters, compileAll specs = .ok filters ↔
      (∀ s ∈ specs, s.Valid) ∧ List.Forall₂ Spec.Yields specs filters := by
    intro filters
    simp only [compileAll_eq_ok_iff, compile_eq_ok_iff]
    exact List.forall₂_and_left ..
  refine ⟨⟨fun ⟨filters, h⟩ => ((hok filters).mp h).1, fun hall => ?_⟩, hok,
    fun e => compileAll_eq_error_iff⟩
  -- nothing is wrong with a list in which every specification keeps the rules
  cases h : compileAll specs with
  | ok filters => exact ⟨filters, rfl⟩
  | error e =>
    obtain ⟨front, s, back, rfl, -, hs⟩ := compileAll_eq_error_iff.mp h
    obtain ⟨f, hf⟩ := exists_compile_iff.mpr (hall s (by simp))
    rw [compile_of_breaks hs] at hf
    cases hf

example : compileAll [.urlExtensions [""] .enabled, ⟨"host", some "(", [""], "never"⟩, default] =
    .error .regexAndExtensions := by
  cbv

end Filter

end TracerConfig
