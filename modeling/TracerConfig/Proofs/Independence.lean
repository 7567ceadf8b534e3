import TracerConfig.Proofs.Precedence

/-!
# Fields do not interfere

What becomes of a field depends on nothing but what is given for it: the origin of the source,
the text of the source, the text of the configuration file, and the overrides of this field.
Two resolutions that are given the same for a field agree on it, whatever they are given for all
others.

Main statements:
* `GivenAlike.reading_eq`: merging reads the same.
* `GivenAlike.get_resolving`: the same layers stand in front of validation.
* `GivenAlike.resolve_alike`: the field is reported alike and dropped alike.
-/

namespace TracerConfig

/-- Two resolutions are given the same for a field. -/
structure GivenAlike (f : Field) (s s' : Surroundings) (os os' : List Override) : Prop where
  origin : s.source.origin = s'.source.origin
  source : s.source.lookup (.setting f) = s'.source.lookup (.setting f)
  file : s.layer?.bind (·.lookup (.setting f)) = s'.layer?.bind (·.lookup (.setting f))
  overrides : (os.filter fun o => o.field = f) = os'.filter fun o => o.field = f

/-- The overrides of the other fields do not count. -/
theorem lastChoice?_filter (os : List Override) (f : Field) :
    lastChoice? (os.filter fun o => o.field = f) f = lastChoice? os f := by
  have hskip : ∀ o : Override,
      (if decide (o.field = f) = true then o.choice? f else none) = o.choice? f := by
    intro o
    by_cases h : o.field = f
    · simp [h]
    · simp [h, o.choice?_of_ne h]
  rw [lastChoice?, List.filterMap_filter, funext hskip, lastChoice?]

namespace GivenAlike

variable {f : Field} {s s' : Surroundings} {os os' : List Override}
  (h : GivenAlike f s s' os os')
include h

theorem texts_eq :
    Source.texts s.sources (.setting f) = Source.texts s'.sources (.setting f) := by
  rw [s.texts_sources, s'.texts_sources, h.origin, h.source, h.file]

/-- Merging reads the same, and passes over the same. -/
theorem reading_eq : Settings.reading s.sources f = Settings.reading s'.sources f :=
  Reading.first_congr f.read h.texts_eq

theorem lastChoice?_eq : lastChoice? os f = lastChoice? os' f := by
  rw [← lastChoice?_filter os, h.overrides, lastChoice?_filter os']

/-- The same layers stand in front of validation. -/
theorem get_resolving :
    (resolving s os).settings.get f = (resolving s' os').settings.get f := by
  rw [TracerConfig.get_resolving, TracerConfig.get_resolving, h.lastChoice?_eq, h.reading_eq]

/-- Validation keeps both, or drops both. -/
theorem get_resolve : (resolve s os).settings.get f = (resolve s' os').settings.get f := by
  rw [TracerConfig.get_resolve, TracerConfig.get_resolve, Settings.value, Settings.value,
    h.get_resolving]

/-- It has the same to complain about. -/
theorem complaint?_resolving :
    (resolving s os).settings.complaint? f = (resolving s' os').settings.complaint? f := by
  rw [Settings.complaint?, Settings.complaint?, Settings.value, Settings.value, h.get_resolving]

/-- Two resolutions that are given the same for a field have the same single entry for it, with
the same value and origin, and drop it for the same reason or both keep it. -/
theorem resolve_alike :
    (∃ e, ((resolve s os).entries.filter fun e => e.field = f) = [e] ∧
      ((resolve s' os').entries.filter fun e => e.field = f) = [e]) ∧
    ((resolve s os).discarded.filter fun d => d.field = f) =
      (resolve s' os').discarded.filter fun d => d.field = f := by
  constructor
  · refine ⟨_, Config.filter_entries _ f, ?_⟩
    rw [Config.filter_entries, Config.rendered, Config.rendered, Settings.value, Settings.value,
      Settings.origin, Settings.origin, h.get_resolve]
  · rw [resolve_eq, resolve_eq, Config.filter_discarded_validate,
      Config.filter_discarded_validate]
    exact congrArg (fun c => (c.map (Discarded.mk f)).toList) h.complaint?_resolving

end GivenAlike

/-- Surroundings that have an unreadable rate, and one out of range for it in the file. -/
def sparse : Surroundings where
  source := .ofEnvironment .environment fun name =>
    if name = "APPOPTICS_CONFIG_FILE" then some "rate.yml"
    else if name = "APPOPTICS_SAMPLE_RATE" then some "fast"
    else none
  files := File.Tree.empty.put "rate.yml" (.file "Sampling.SampleRate: -1".toUTF8)

/-- Others that give the same rates, but much else besides. -/
def crowded : Surroundings where
  source := .ofPaths .environment fun path =>
    if path = "ConfigFile" then some "agent.yaml"
    else if path = "Sampling.SampleRate" then some "fast"
    else if path = "Sampling.TracingMode" then some "sometimes"
    else some "7"
  files := File.Tree.empty.put "agent.yaml"
    (.file "Sampling: \x7bSampleRate: -1, TracingMode: never\x7d\nDisabled: [x]".toUTF8)

theorem givenAlike_sparse_crowded :
    GivenAlike .sampleRate sparse crowded [] [⟨.precision, (11 : UInt32)⟩, ⟨.hostAlias, "b"⟩] where
  origin := rfl
  source := by decide +kernel
  file := by decide +kernel
  overrides := rfl

theorem resolve_alike_sparse_crowded :
    GivenAlike .sampleRate sparse crowded [] [⟨.precision, (11 : UInt32)⟩, ⟨.hostAlias, "b"⟩] ∧
    ((resolve sparse []).discarded.filter fun d => d.field = .sampleRate) =
      ((resolve crowded [⟨.precision, (11 : UInt32)⟩, ⟨.hostAlias, "b"⟩]).discarded.filter
        fun d => d.field = .sampleRate) ∧
    (resolve sparse []).discarded = [⟨.sampleRate, "-1 is out of range [0, 1000000]"⟩] ∧
    (resolve crowded [⟨.precision, (11 : UInt32)⟩, ⟨.hostAlias, "b"⟩]).discarded.map (·.field) =
      [.serviceKey, .reporterType, .tracingMode, .sampleRate, .precision, .debugLevel] :=
  ⟨givenAlike_sparse_crowded, givenAlike_sparse_crowded.resolve_alike.2, by decide +kernel,
    by decide +kernel⟩

end TracerConfig
