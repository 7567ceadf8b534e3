import TracerConfig.Proofs.Validation
import TracerConfig.Resolution

/-!
# Precedence

What a resolution comes to, field by field: the last choice of the application, or else the
first text of the source and the configuration file that can be read; the default if there is
neither, or if that value is invalid.

Main statements:
* `get_resolving`, `get_resolve`: the layers of a field in front of validation and behind it.
* `value_origin_resolving`: the value and the origin in force just in front of validation.
* `entries_resolve`: the report of a resolution.
-/

namespace TracerConfig

namespace Surroundings

/-- The layer of the configuration file, if the source names one that can be used. -/
def layer? (s : Surroundings) : Option File.Layer := s.file?.bind Except.toOption

/-- The texts for a field, with their origins: that of the source, then that of the
configuration file. -/
def texts (s : Surroundings) (f : Field) : List (String × Origin) :=
  ((s.source.lookup (.setting f)).map (·, .environment)).toList ++
    ((s.layer?.bind (·.lookup (.setting f))).map (·, .file)).toList

/-- The value that the first readable one of these texts gives, with its origin. -/
def given? (s : Surroundings) (f : Field) : Option (f.Value × Origin) :=
  (s.texts f).findSome? fun (text, o) => (f.read text).toOption.map fun v => (v, o)

theorem sources_eq (s : Surroundings) :
    s.sources = s.source :: (s.layer?.map Source.ofFile).toList := by
  rw [sources, layer?]
  cases s.file? with
  | none => rfl
  | some r => cases r <;> rfl

/-- The texts in front of the one that gives the value cannot be read. -/
theorem given?_eq_some_iff {s : Surroundings} {f : Field} {v : f.Value} {o : Origin} :
    s.given? f = some (v, o) ↔
      ∃ passed t rest, s.texts f = passed ++ t :: rest ∧ f.read t.1 = .ok v ∧ t.2 = o ∧
        ∀ p ∈ passed, ∀ w, f.read p.1 ≠ .ok w := by
  have haccept : s.given? f = (s.texts f).findSome? (Reading.accept? f.read) := rfl
  rw [haccept, List.findSome?_eq_some_iff]
  simp only [Reading.accept?_eq_some_iff, Reading.accept?_eq_none_iff, and_assoc]

/-- A text of the source that can be read comes before that of the configuration file. -/
theorem given?_of_read {s : Surroundings} {f : Field} {text : String}
    (hlookup : s.source.lookup (.setting f) = some text) {v : f.Value}
    (hread : f.read text = .ok v) : s.given? f = some (v, .environment) := by
  rw [given?, texts, hlookup]
  simp [hread, Except.toOption]

/-- The layer of a configuration file that can be read. -/
theorem layer?_of_read {s : Surroundings} {path doc : String}
    (hnamed : s.source.lookup .configFile = some path) (hread : s.files.read path = .ok doc) :
    s.layer? = if File.Path.isSupported path then (File.Layer.parse doc).toOption else none := by
  rw [layer?, file?, hnamed, Option.map_some, Option.bind_some, File.Layer.load, hread]
  cases File.Path.isSupported path with
  | false => rfl
  | true => cases hparse : File.Layer.parse doc <;> simp [hparse, Except.toOption]

/-- The source gives at most one text for a key, and so does the configuration file. -/
theorem texts_sources (s : Surroundings) (k : Key) :
    Source.texts s.sources k =
      ((s.source.lookup k).map (·, s.source.origin)).toList ++
        ((s.layer?.bind (·.lookup k)).map (·, Origin.file)).toList := by
  have hfile : Source.texts (s.layer?.map Source.ofFile).toList k =
      ((s.layer?.bind (·.lookup k)).map (·, Origin.file)).toList := by
    cases s.layer? with
    | none => rfl
    | some layer => cases h : layer.lookup k <;> simp [Source.texts, Source.ofFile, h]
  rw [sources_eq, ← hfile, Source.texts, Source.texts, List.filterMap_cons]
  cases s.source.lookup k <;> rfl

end Surroundings

/-! ## The reference -/

/-- The value that counts for a field, before it is checked. -/
def supplied? (s : Surroundings) (os : List Override) (f : Field) : Option (f.Value × Origin) :=
  match lastChoice? os f with
  | some c => some (f.ofChoice c, .code)
  | none => s.given? f

/-- A value is supplied by the application, or else by the first text that can be read. -/
theorem exists_supplied_iff {s : Surroundings} {os : List Override} {f : Field} {v : f.Value} :
    (∃ o, supplied? s os f = some (v, o)) ↔
      (∃ c, lastChoice? os f = some c ∧ f.ofChoice c = v) ∨
      (lastChoice? os f = none ∧ ∃ passed t rest, s.texts f = passed ++ t :: rest ∧
        f.read t.1 = .ok v ∧ ∀ p ∈ passed, ∀ w, f.read p.1 ≠ .ok w) := by
  unfold supplied?
  cases lastChoice? os f with
  | some c => simp
  | none =>
    simp only [Surroundings.given?_eq_some_iff]
    constructor
    · rintro ⟨o, passed, t, rest, htexts, hread, -, hpassed⟩
      exact .inr ⟨trivial, passed, t, rest, htexts, hread, hpassed⟩
    · rintro (⟨c, hc, -⟩ | ⟨-, passed, t, rest, htexts, hread, hpassed⟩)
      · cases hc
      · exact ⟨t.2, passed, t, rest, htexts, hread, rfl, hpassed⟩

/-- The entry of a field that its supplied value calls for. -/
def resolvedEntry (s : Surroundings) (os : List Override) (f : Field) : Config.Entry :=
  match supplied? s os f with
  | some (v, o) =>
    if f.IsValid v then ⟨f, f.render v, o⟩ else ⟨f, f.render f.default, .default⟩
  | none => ⟨f, f.render f.default, .default⟩

/-- The fields of which every text is a value: those of free text, and words. -/
def Field.takesAnyText : Field → Bool
  | collector | serviceKey | trustedPath | collectorUdp | hostAlias => true
  | reporterType | tracingMode | debugLevel => true
  | sampleRate | precision | reporter _ | prependDomain | skipVerify | disabled => false
  | transactionSettings => false

theorem Field.exists_read_eq_ok {f : Field} (h : f.takesAnyText = true) (text : String) :
    ∃ v, f.read text = .ok v := by
  cases f with
  | sampleRate | precision | prependDomain | skipVerify | disabled | transactionSettings =>
    cases h
  | reporter s => cases h
  | _ => exact ⟨_, rfl⟩

/-! ## Resolution -/

/-- A choice of the application is on top of what merging reads. -/
theorem get_resolving (s : Surroundings) (os : List Override) (f : Field) :
    (resolving s os).settings.get f =
      match lastChoice? os f with
      | some c =>
        (Settings.ofReading f (Settings.reading s.sources f)).put .code (f.ofChoice c)
      | none => Settings.ofReading f (Settings.reading s.sources f) := by
  have hmerge : (Settings.merge s.sources).get f =
      Settings.ofReading f (Settings.reading s.sources f) := Field.Table.get_ofFn ..
  rw [← hmerge]
  exact Settings.get_overrideAll (Settings.merge s.sources) os f

theorem resolve_eq (s : Surroundings) (os : List Override) :
    resolve s os = Config.validate ⟨(resolving s os).settings, [], []⟩ := rfl

/-- A reading of the sources is a reading of their texts. -/
theorem value_reading {s : Surroundings} (h : s.source.origin = .environment) (f : Field) :
    (Settings.reading s.sources f).value = s.given? f := by
  rw [Settings.reading, Reading.value_first, s.texts_sources, h]
  rfl

/-- No text has the origin of a default. -/
theorem origin_ne_default_of_given {s : Surroundings} {f : Field} {v : f.Value} {o : Origin}
    (h : s.given? f = some (v, o)) : o ≠ .default := by
  obtain ⟨⟨text, o'⟩, hmem, hread⟩ := List.exists_of_findSome?_eq_some h
  -- the text is that of the source or that of the file
  obtain ⟨_, _, heq⟩ := Option.map_eq_some_iff.mp hread
  cases heq
  rcases List.mem_append.mp hmem with hsource | hfile
  · obtain ⟨_, _, heq⟩ := Option.map_eq_some_iff.mp (Option.mem_toList.mp hsource)
    cases heq
    decide
  · obtain ⟨_, _, heq⟩ := Option.map_eq_some_iff.mp (Option.mem_toList.mp hfile)
    cases heq
    decide

/-- What is supplied for a field does not have the origin of a default. -/
theorem origin_ne_default_of_supplied {s : Surroundings} {os : List Override} {f : Field}
    {v : f.Value} {o : Origin} (hs : supplied? s os f = some (v, o)) : o ≠ .default := by
  rw [supplied?] at hs
  cases hc : lastChoice? os f with
  | some c =>
    rw [hc] at hs
    cases hs
    decide
  | none =>
    rw [hc] at hs
    exact origin_ne_default_of_given hs

/-- No value of a source is refused. -/
theorem refusals_eq_nil {s : Surroundings} (h : s.source.origin = .environment) (f : Field) :
    Settings.refusals s.sources f = [] := by
  rw [Settings.refusals, value_reading h]
  split
  · next v hgiven => exact absurd rfl (origin_ne_default_of_given hgiven)
  · rfl

/-- The value and the origin in force just in front of validation. -/
theorem value_origin_resolving {s : Surroundings} (h : s.source.origin = .environment)
    (os : List Override) (f : Field) :
    ((resolving s os).settings.value f, (resolving s os).settings.origin f) =
      (supplied? s os f).getD (f.default, .default) := by
  rw [Settings.value, Settings.origin, get_resolving, supplied?]
  cases lastChoice? os f with
  | some c => rfl
  | none =>
    -- without a choice the sources decide, and no origin of theirs is refused
    simp only [Settings.ofReading, value_reading h]
    cases hgiven : s.given? f with
    | none => rfl
    | some found =>
      obtain ⟨v, o⟩ := found
      simp only [Layered.value_put, Layered.origin_put,
        if_neg (origin_ne_default_of_given hgiven), Option.getD_some]

theorem value_resolving_of_supplied {s : Surroundings} (h : s.source.origin = .environment)
    {os : List Override} {f : Field} {v : f.Value} {o : Origin}
    (hsupplied : supplied? s os f = some (v, o)) : (resolving s os).settings.value f = v := by
  have hforce := value_origin_resolving h os f
  rw [hsupplied] at hforce
  exact (Prod.mk.inj hforce).1

theorem value_resolving_of_none {s : Surroundings} (h : s.source.origin = .environment)
    {os : List Override} {f : Field} (hsupplied : supplied? s os f = none) :
    (resolving s os).settings.value f = f.default := by
  have hforce := value_origin_resolving h os f
  rw [hsupplied] at hforce
  exact (Prod.mk.inj hforce).1

theorem hasDefaults_resolving (s : Surroundings) (os : List Override) :
    (resolving s os).settings.HasDefaults :=
  (Settings.hasDefaults_merge s.sources).overrideAll os

/-- A resolution keeps what is valid, and falls back to the default where it is not. -/
theorem get_resolve (s : Surroundings) (os : List Override) (f : Field) :
    (resolve s os).settings.get f =
      if f.IsValid ((resolving s os).settings.value f) then (resolving s os).settings.get f
      else ((resolving s os).settings.get f).reset := by
  rw [resolve_eq, Config.get_validate]

theorem value_resolve (s : Surroundings) (os : List Override) (f : Field) :
    (resolve s os).settings.value f =
      if f.IsValid ((resolving s os).settings.value f) then (resolving s os).settings.value f
      else f.default := by
  rw [Settings.value, get_resolve]
  split
  · rfl
  · rw [Layered.value_reset, hasDefaults_resolving]

/-- What is supplied is in force, if it is valid. -/
theorem value_resolve_of_supplied {s : Surroundings} (h : s.source.origin = .environment)
    {os : List Override} {f : Field} {v : f.Value} {o : Origin}
    (hsupplied : supplied? s os f = some (v, o)) (hv : f.IsValid v) :
    (resolve s os).settings.value f = v := by
  rw [value_resolve, value_resolving_of_supplied h hsupplied, if_pos hv]

/-- A field has an explicit value if one is supplied that is valid. -/
theorem isExplicit_resolve_iff {s : Surroundings} (h : s.source.origin = .environment)
    {os : List Override} {f : Field} :
    (resolve s os).settings.isExplicit f = true ↔
      ∃ v o, supplied? s os f = some (v, o) ∧ f.IsValid v := by
  have hforce := value_origin_resolving h os f
  rw [Settings.isExplicit, Layered.isExplicit, get_resolve, decide_eq_true_iff]
  cases hs : supplied? s os f with
  | none =>
    rw [hs] at hforce
    obtain ⟨hv, ho⟩ := Prod.mk.inj hforce
    rw [hv, if_pos f.isValid_default]
    refine iff_of_false (not_not.mpr ho) ?_
    rintro ⟨_, _, hnone, _⟩
    cases hnone
  | some found =>
    obtain ⟨v, o⟩ := found
    rw [hs] at hforce
    obtain ⟨hv, ho⟩ := Prod.mk.inj hforce
    rw [hv]
    by_cases hvalid : f.IsValid v
    · rw [if_pos hvalid]
      exact iff_of_true (ho.trans_ne (origin_ne_default_of_supplied hs)) ⟨v, o, rfl, hvalid⟩
    · rw [if_neg hvalid]
      refine iff_of_false (not_not.mpr (Layered.origin_reset _)) ?_
      rintro ⟨_, _, heq, hv'⟩
      cases heq
      exact hvalid hv'

/-- A field without an explicit value is at its default. -/
theorem value_resolve_of_not_explicit {s : Surroundings} {os : List Override} {f : Field}
    (h : ¬ (resolve s os).settings.isExplicit f = true) :
    (resolve s os).settings.value f = f.default :=
  (Layered.value_of_not_explicit h).trans
    (Config.hasDefaults_validate (hasDefaults_resolving s os) f)

/-- Every field is reported with the value of the highest layer that can be read, and its origin,
if that value is valid, and with the default if it is not. Free text and words can always be
read. -/
theorem entries_resolve {s : Surroundings} (h : s.source.origin = .environment)
    (os : List Override) :
    (resolve s os).entries = Field.all.map (resolvedEntry s os) ∧
    ∀ f : Field, f.takesAnyText = true → ∀ text, ∃ v, f.read text = .ok v := by
  refine ⟨List.map_congr_left fun f _ => ?_, fun f hf text => Field.exists_read_eq_ok hf text⟩
  have hforce := value_origin_resolving h os f
  rw [Config.rendered, Settings.value, Settings.origin, get_resolve, resolvedEntry]
  cases hs : supplied? s os f with
  | none =>
    rw [hs] at hforce
    obtain ⟨hv, ho⟩ := Prod.mk.inj hforce
    rw [hv, if_pos f.isValid_default]
    exact congrArg₂ (Config.Entry.mk f) (congrArg f.render hv) ho
  | some found =>
    obtain ⟨v, o⟩ := found
    rw [hs] at hforce
    obtain ⟨hv, ho⟩ := Prod.mk.inj hforce
    rw [hv]
    -- only here the default may come back instead of what is supplied
    by_cases hvalid : f.IsValid v
    · rw [if_pos hvalid]
      simp only [if_pos hvalid]
      exact congrArg₂ (Config.Entry.mk f) (congrArg f.render hv) ho
    · rw [if_neg hvalid, Layered.value_reset, Layered.origin_reset, hasDefaults_resolving]
      simp only [if_neg hvalid]

/-- An environment with an unreadable number and an unknown word, both of which the configuration
file has better texts for. -/
def contested : Surroundings where
  source := .ofEnvironment .environment fun name =>
    if name = "APPOPTICS_CONFIG_FILE" then some "agent.yaml"
    else if name = "APPOPTICS_SAMPLE_RATE" then some "fast"
    else if name = "APPOPTICS_REPORTER" then some "tcp"
    else none
  files := File.Tree.empty.put "agent.yaml"
    (.file "ReporterType: udp\nSampling: \x7bSampleRate: 5\x7d".toUTF8)

theorem entries_resolve_contested :
    contested.source.origin = .environment ∧
    (resolve contested [⟨.hostAlias, "a"⟩, ⟨.hostAlias, "b"⟩]).entries =
      Field.all.map (resolvedEntry contested [⟨.hostAlias, "a"⟩, ⟨.hostAlias, "b"⟩]) ∧
    [Field.reporterType, .sampleRate, .hostAlias].map
        (resolvedEntry contested [⟨.hostAlias, "a"⟩, ⟨.hostAlias, "b"⟩]) =
      [⟨.reporterType, "ssl", .default⟩, ⟨.sampleRate, "5", .file⟩, ⟨.hostAlias, "b", .code⟩] :=
  ⟨rfl, (entries_resolve rfl _).1, by decide +kernel⟩

end TracerConfig
