import TracerConfig.Proofs.Guarantees
import TracerConfig.Proofs.PatternSearch

/-!
# The mode that filters force

Of the specifications of a configuration the first one that matches a url decides its mode. A
pattern may match anywhere in the url; an extension has to end its path, which is what stands in
front of the first question mark or hash.

Main definitions:
* `Filter.Cut`: a url cut into its path and what follows it.
* `Filter.Spec.Matches`: the urls that a specification matches, one rule for each kind of it.

Main statements:
* `Filter.matchesUrl_iff`: a filter matches what its specification does.
* `Filter.modeFor_eq_some_iff`, `Filter.modeFor_eq_none_iff`: the first match decides.
* `modeFor_resolve`: the modes that a resolution forces.
-/

namespace TracerConfig

namespace Filter

/-! ## Paths -/

/-- A url is cut into a path, which has no question mark and no hash in it, and the rest, which
is empty or begins with one of them. -/
structure Cut (path rest : String) : Prop where
  path : ∀ c ∈ path.toList, c ≠ '?' ∧ c ≠ '#'
  rest : ∀ c ∈ rest.toList.head?, c = '?' ∨ c = '#'

theorem pathOf_append {path rest : String} (h : Cut path rest) :
    pathOf (path ++ rest).toList = path.toList := by
  have hpath : ∀ c ∈ path.toList, (decide (c ≠ '?') && decide (c ≠ '#')) = true := by
    intro c hc
    simpa using h.path c hc
  rw [pathOf, String.toList_append, List.takeWhile_append_of_pos hpath]
  cases hrest : rest.toList with
  | nil => simp
  | cons c cs =>
    have hc := h.rest c (by rw [hrest]; rfl)
    rw [List.takeWhile_cons_of_neg (by simpa [or_iff_not_imp_left] using hc), List.append_nil]

/-- Every url can be cut. -/
theorem exists_cut (url : String) : ∃ path rest, url = path ++ rest ∧ Cut path rest := by
  refine ⟨String.ofList (pathOf url.toList),
    String.ofList (url.toList.dropWhile fun c => c ≠ '?' && c ≠ '#'), ?_, ?_, ?_⟩
  · rw [pathOf, ← String.ofList_append, List.takeWhile_append_dropWhile, String.ofList_toList]
  · intro c hc
    rw [String.toList_ofList] at hc
    simpa using List.mem_takeWhile_imp hc
  · intro c hc
    have hnot := List.head?_dropWhile_not (fun c => c ≠ '?' && c ≠ '#') url.toList
    rw [String.toList_ofList] at hc
    rw [Option.mem_def.mp hc] at hnot
    simpa [or_iff_not_imp_left] using hnot

/-! ## Matches -/

/-- The urls that a specification matches.

* `pattern`: the pattern matches what stands between some two places of the url.
* `extension`: without a pattern, one of the extensions ends the path. An empty one does not
  count. -/
inductive Spec.Matches (s : Spec) (url : String) : Prop
  | pattern {p : String} {e : Pattern.Expression} {i j : Nat} : s.HasPattern p →
      Pattern.Expression.parse p = .ok e → i ≤ url.length → e.Spans url.toList i j → Matches s url
  | extension {path rest ext : String} : (∀ p, ¬ s.HasPattern p) → url = path ++ rest →
      Cut path rest → ext ∈ s.extensions → ext ≠ "" → ext.toList <:+ path.toList → Matches s url

theorem endsWith_iff {tail text : List Char} : Text.endsWith tail text = true ↔ tail <:+ text := by
  rw [Text.endsWith, List.isPrefixOf_iff_prefix, List.reverse_prefix]

/-- A filter matches the urls that its specification does. -/
theorem matchesUrl_iff {s : Spec} {f : Filter} (h : s.Yields f) (url : String) :
    f.matchesUrl url = true ↔ s.Matches url := by
  rcases h.matcher with ⟨p, e, hp, he, hmatcher⟩ | ⟨hnone, hmatcher⟩
  · rw [matchesUrl, hmatcher]
    constructor
    · intro hfound
      obtain ⟨i, j, hi, hspans⟩ := (Pattern.Expression.found_iff_of_parse he _).mp hfound
      exact .pattern hp he (by rwa [String.length_toList] at hi) hspans
    · intro hmatches
      cases hmatches with
      | extension hnone => exact absurd hp (hnone p)
      | @pattern p' e' i j hp' he' hi hspans =>
        obtain rfl : p' = p := Option.some.inj (hp'.1.symm.trans hp.1)
        obtain rfl : e' = e := Except.ok.inj (he'.symm.trans he)
        exact (Pattern.Expression.found_iff_of_parse he _).mpr
          ⟨i, j, by rwa [String.length_toList], hspans⟩
  · rw [matchesUrl, hmatcher]
    simp only [List.any_eq_true, Bool.and_eq_true, decide_eq_true_iff, endsWith_iff]
    constructor
    · rintro ⟨ext, hext, hne, hends⟩
      obtain ⟨path, rest, rfl, hcut⟩ := exists_cut url
      rw [pathOf_append hcut] at hends
      exact .extension hnone rfl hcut hext hne hends
    · intro hmatches
      cases hmatches with
      | pattern hp => exact absurd hp (hnone _)
      | @extension path rest ext _ hurl hcut hext hne hends =>
        refine ⟨ext, hext, hne, ?_⟩
        rwa [hurl, pathOf_append hcut]

/-! ## Decisions -/

theorem modeFor_cons (f : Filter) (fs : List Filter) (url : String) :
    modeFor (f :: fs) url = if f.matchesUrl url then some f.mode else modeFor fs url := by
  rw [modeFor, List.find?_cons]
  cases f.matchesUrl url <;> rfl

theorem Spec.HasMode.unique {s : Spec} {m n : TracingMode} (hm : s.HasMode m) (hn : s.HasMode n) :
    m = n := by
  rw [HasMode, ← TracingMode.readCanonical?_eq_some_iff] at hm hn
  exact Option.some.inj (hm.symm.trans hn)

variable {specs : List Spec} {filters : List Filter}

/-- The first specification that matches decides. -/
theorem modeFor_eq_some_iff (h : List.Forall₂ Spec.Yields specs filters) {url : String}
    {m : TracingMode} :
    modeFor filters url = some m ↔
      ∃ front s back, specs = front ++ s :: back ∧ (∀ t ∈ front, ¬ t.Matches url) ∧
        s.Matches url ∧ s.HasMode m := by
  induction h with
  | nil =>
    refine iff_of_false nofun ?_
    rintro ⟨front, s, back, hspecs, -⟩
    simp at hspecs
  | @cons s f specs filters hs _ ih =>
    rw [modeFor_cons, exists_first_cons_iff, ← ih]
    by_cases hmatches : s.Matches url
    · rw [if_pos ((matchesUrl_iff hs url).mpr hmatches), Option.some.injEq]
      constructor
      · rintro rfl
        exact .inl ⟨hmatches, hs.mode⟩
      · rintro (⟨-, hm⟩ | ⟨hnot, -⟩)
        · exact hs.mode.unique hm
        · exact absurd hmatches hnot
    · rw [if_neg (mt (matchesUrl_iff hs url).mp hmatches)]
      constructor
      · exact fun h => .inr ⟨hmatches, h⟩
      · rintro (⟨h, -⟩ | ⟨-, h⟩)
        · exact absurd h hmatches
        · exact h

/-- No mode is forced on what no specification matches. -/
theorem modeFor_eq_none_iff (h : List.Forall₂ Spec.Yields specs filters) {url : String} :
    modeFor filters url = none ↔ ∀ s ∈ specs, ¬ s.Matches url := by
  induction h with
  | nil => exact iff_of_true rfl (List.forall_mem_nil _)
  | @cons s f specs filters hs _ ih =>
    rw [modeFor_cons, List.forall_mem_cons, ← ih]
    by_cases hmatches : s.Matches url
    · rw [if_pos ((matchesUrl_iff hs url).mpr hmatches)]
      exact iff_of_false nofun fun h => h.1 hmatches
    · rw [if_neg (mt (matchesUrl_iff hs url).mp hmatches)]
      exact (and_iff_right hmatches).symm

/-- Without patterns, what follows the path does not count. -/
theorem modeFor_rest (h : List.Forall₂ Spec.Yields specs filters)
    (hnone : ∀ s ∈ specs, ∀ p, ¬ s.HasPattern p) {path rest rest' : String} (hcut : Cut path rest)
    (hcut' : Cut path rest') :
    modeFor filters (path ++ rest') = modeFor filters (path ++ rest) := by
  induction h with
  | nil => rfl
  | @cons s f specs filters hs _ ih =>
    obtain ⟨hs', hspecs⟩ := List.forall_mem_cons.mp hnone
    have hsame : f.matchesUrl (path ++ rest') = f.matchesUrl (path ++ rest) := by
      rcases hs.matcher with ⟨p, _, hp, -⟩ | ⟨-, hmatcher⟩
      · exact absurd hp (hs' p)
      · simp only [matchesUrl, hmatcher, pathOf_append hcut, pathOf_append hcut']
    rw [modeFor_cons, modeFor_cons, hsame, ih hspecs]

end Filter

open TracerConfig.Filter
open TracerConfig.Filter.Spec (configOf)

/-! ## Configurations -/

/-- The specifications in force. -/
def Config.specs (c : Config) : List Spec := c.settings.value .transactionSettings

/-- The specifications that a resolution is asked for, just in front of validation. -/
def askedSpecs (s : Surroundings) (os : List Override) : List Spec :=
  (resolving s os).settings.value .transactionSettings

theorem specs_resolve {s : Surroundings} {os : List Override}
    (h : ∀ t ∈ askedSpecs s os, t.Valid) :
    (resolve s os).specs = askedSpecs s os := by
  have hvalid : Field.transactionSettings.IsValid (askedSpecs s os) :=
    (compileAll_outcome _).1.mpr h
  rw [Config.specs, value_resolve]
  exact if_pos hvalid

theorem specs_resolve_of_not_valid {s : Surroundings} {os : List Override}
    (h : ¬ ∀ t ∈ askedSpecs s os, t.Valid) :
    (resolve s os).specs = [] := by
  have hvalid : ¬ Field.transactionSettings.IsValid (askedSpecs s os) :=
    mt (compileAll_outcome _).1.mp h
  rw [Config.specs, value_resolve]
  exact if_neg hvalid

/-- Specifications that do not compile are discarded, and it is told which rule is broken. -/
theorem exists_discarded_of_not_valid {s : Surroundings} {os : List Override}
    (h : ¬ ∀ t ∈ askedSpecs s os, t.Valid) :
    ∃ e, compileAll (askedSpecs s os) = .error e ∧
      ⟨.transactionSettings, e.message⟩ ∈ (resolve s os).discarded := by
  cases hcompile : compileAll (askedSpecs s os) with
  | ok filters => exact absurd ((compileAll_outcome _).1.mp ⟨filters, hcompile⟩) h
  | error e =>
    refine ⟨e, rfl, Config.mem_discarded_validate_iff.mpr ?_⟩
    change Field.filtersComplaint? (askedSpecs s os) = some e.message
    rw [Field.filtersComplaint?, hcompile]

/-- The filters of a resolution are those of its specifications. -/
theorem forall₂_yields_resolve (s : Surroundings) (os : List Override) :
    List.Forall₂ Spec.Yields (resolve s os).specs (resolve s os).filters := by
  have hpublished : (resolve s os).Published := .build ((Builder.Reachable.start s).apply os)
  exact (((compileAll_outcome _).2.1 _).mp hpublished.compiled).2

/-- The first specification in force that matches a url decides its mode, and without one there
is none. If there are no patterns, the query and the fragment of the url do not count. With more
specifications behind those asked for a mode stays as it is, unless one of them breaks a rule:
then the list is discarded for the first rule that is broken, and no mode is forced at all. -/
theorem modeFor_resolve (s : Surroundings) (os : List Override) :
    (∀ url m, (resolve s os).modeFor url = some m ↔
      ∃ front t back,
        (resolve s os).specs = front ++ t :: back ∧
          (∀ u ∈ front, ¬ u.Matches url) ∧ t.Matches url ∧ t.HasMode m) ∧
    (∀ url, (resolve s os).modeFor url = none ↔
      ∀ t ∈ (resolve s os).specs, ¬ t.Matches url) ∧
    ((∀ t ∈ (resolve s os).specs, ∀ p, ¬ t.HasPattern p) →
      ∀ path rest rest', Cut path rest → Cut path rest' →
        (resolve s os).modeFor (path ++ rest') = (resolve s os).modeFor (path ++ rest)) ∧
    ∀ s' os' extra, askedSpecs s' os' = askedSpecs s os ++ extra →
      ((∀ t ∈ extra, t.Valid) → ∀ url m, (resolve s os).modeFor url = some m →
        (resolve s' os').modeFor url = some m) ∧
      ((∃ t ∈ extra, ¬ t.Valid) →
        (∃ e, compileAll (askedSpecs s' os') = .error e ∧
          ⟨.transactionSettings, e.message⟩ ∈ (resolve s' os').discarded) ∧
        ∀ url, (resolve s' os').modeFor url = none) := by
  have hyields := forall₂_yields_resolve s os
  refine ⟨fun url m => modeFor_eq_some_iff hyields, fun url => modeFor_eq_none_iff hyields,
    fun hnone path rest rest' hcut hcut' => modeFor_rest hyields hnone hcut hcut', ?_⟩
  intro s' os' extra hasked
  have hyields' := forall₂_yields_resolve s' os'
  constructor
  · intro hextra url m hm
    obtain ⟨front, t, back, hheld, hdecides⟩ := (modeFor_eq_some_iff hyields).mp hm
    -- there is a mode, so the first specifications are in force
    have hvalid : ∀ t ∈ askedSpecs s os, t.Valid := by
      by_contra hbad
      rw [specs_resolve_of_not_valid hbad] at hheld
      simp at hheld
    have hvalid' : ∀ t ∈ askedSpecs s' os', t.Valid := by
      rw [hasked]
      exact List.forall_mem_append.mpr ⟨hvalid, hextra⟩
    rw [specs_resolve hvalid] at hheld
    refine (modeFor_eq_some_iff hyields').mpr ⟨front, t, back ++ extra, ?_, hdecides⟩
    rw [specs_resolve hvalid', hasked, hheld, List.append_assoc, List.cons_append]
  · rintro ⟨t, ht, hbad⟩
    have hrefused : ¬ ∀ t ∈ askedSpecs s' os', t.Valid := by
      rw [hasked]
      exact fun hall => hbad (hall t (List.mem_append_right _ ht))
    refine ⟨exists_discarded_of_not_valid hrefused, fun url => ?_⟩
    refine (modeFor_eq_none_iff hyields').mpr ?_
    rw [specs_resolve_of_not_valid hrefused]
    exact List.forall_mem_nil _

/-- No spans for stylesheets, but for what else ends in an `s`. -/
def stylesheets : List Spec :=
  [.urlExtensions ["", ".css", "?v=1"] .disabled, .urlExtensions ["s"] .enabled]

/-- A specification of a type that there is not. -/
def hosts : Spec := ⟨"host", none, ["localhost"], "enabled"⟩

theorem modeFor_resolve_stylesheets :
    (configOf stylesheets).modeFor "/a.css?v=1" = some .disabled ∧
    (configOf stylesheets).modeFor "/a.css" = (configOf stylesheets).modeFor "/a.css?v=1" ∧
    (configOf (stylesheets ++ [.urlRegex "v=[0-9]" .enabled])).modeFor "/a.css?v=1" =
      some .disabled ∧
    (∃ e, compileAll (stylesheets ++ [hosts]) = .error e ∧
      ⟨.transactionSettings, e.message⟩ ∈ (configOf (stylesheets ++ [hosts])).discarded) ∧
    (configOf (stylesheets ++ [hosts])).modeFor "/a.css?v=1" = none := by
  obtain ⟨-, -, hrest, happend⟩ := modeFor_resolve .bare [⟨.transactionSettings, stylesheets⟩]
  have hmode : (configOf stylesheets).modeFor "/a.css?v=1" = some .disabled := by decide +kernel
  have hspecs : (configOf stylesheets).specs = stylesheets := by decide +kernel
  have hnone : ∀ t ∈ (configOf stylesheets).specs, ∀ p, ¬ t.HasPattern p := by
    simp only [hspecs, ← Spec.pattern?_eq_none_iff]
    decide
  have hregex : Field.transactionSettings.IsValid [.urlRegex "v=[0-9]" .enabled] :=
    Field.complaint?_eq_none_iff.mp (by decide +kernel)
  refine ⟨hmode, ?_, ?_, ?_⟩
  · exact hrest hnone "/a.css" "?v=1" "" ⟨by simp, by simp⟩ ⟨by simp, by simp⟩
  · exact (happend .bare _ _ rfl).1 ((compileAll_outcome _).1.mp hregex) _ _ hmode
  · have hbad : ¬ hosts.Valid := fun h => absurd h.kind (by decide)
    obtain ⟨hdiscarded, hmodes⟩ :=
      (happend .bare [⟨.transactionSettings, stylesheets ++ [hosts]⟩] [hosts] rfl).2
        ⟨hosts, List.mem_singleton_self _, hbad⟩
    exact ⟨hdiscarded, hmodes _⟩

/-- It is not so that more specifications never change a mode: a bad one drops them all. -/
theorem appended_spec_drops_modes :
    ¬ ∀ (s s' : Surroundings) (os os' : List Override) (extra : List Spec) (url : String)
        (m : TracingMode), (∀ t ∈ askedSpecs s os, t.Valid) →
        askedSpecs s' os' = askedSpecs s os ++ extra → (resolve s os).modeFor url = some m →
        (resolve s' os').modeFor url = some m := by
  intro halways
  have hvalid : Field.transactionSettings.IsValid stylesheets :=
    Field.complaint?_eq_none_iff.mp (by decide +kernel)
  have hmode : (configOf stylesheets).modeFor "/a.css" = some .disabled := by decide +kernel
  have hsame := halways .bare .bare [⟨.transactionSettings, stylesheets⟩]
    [⟨.transactionSettings, stylesheets ++ [hosts]⟩] [hosts] "/a.css" .disabled
    ((compileAll_outcome _).1.mp hvalid) rfl hmode
  exact absurd hsame (by decide +kernel)

end TracerConfig
