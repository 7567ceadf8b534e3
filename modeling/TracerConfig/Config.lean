import TracerConfig.Settings

/-!
# Configurations

A configuration is what settings come to once every invalid value has been replaced by its
default. It keeps the list of what was replaced, and its transaction filters compiled.

Main definitions:
* `Config.validate`: every field is checked in turn. `Settings.validate`: the configuration of
  settings.
* `Config.entries`: the report of all fields.
* The typed views of the settings in force, from `Config.collector` to `Config.modeFor`.
-/

namespace TracerConfig

/-- A value that was replaced by its default, and what was wrong with it. -/
structure Discarded where
  field : Field
  reason : String
deriving DecidableEq, Repr

/-- The wording of a replacement. -/
def Discarded.message (d : Discarded) : String :=
  "invalid env, discarded - " ++ d.field.path ++ ": " ++ d.reason

/-- Valid settings. -/
@[ext]
structure Config where
  settings : Settings
  filters : List Filter
  discarded : List Discarded

/-! ## Validation -/

namespace Settings

/-- What is wrong with the value of a field that is in force. -/
def complaint? (s : Settings) (f : Field) : Option String := f.complaint? (s.value f)

/-- Clears every layer of a field. -/
def reset (s : Settings) (f : Field) : Settings := s.set f (s.get f).reset

end Settings

namespace Config

/-- Drops the value of a field for a reason. -/
def discard (c : Config) (f : Field) (reason : String) : Config :=
  { c with
    settings := c.settings.reset f
    discarded := c.discarded ++ [⟨f, reason⟩] }

/-- Compiles the transaction filters of the specifications in force. One bad specification drops
them all. -/
def compileFilters (c : Config) : Config :=
  match Filter.compileAll (c.settings.value .transactionSettings) with
  | .ok filters => { c with filters := filters }
  | .error e => { c.discard .transactionSettings e.message with filters := [] }

/-- Drops the value of a field if it is not valid. -/
def check (c : Config) (f : Field) : Config :=
  if f = .transactionSettings then c.compileFilters
  else
    match c.settings.complaint? f with
    | some reason => c.discard f reason
    | none => c

/-- The fields that have a rule of validity, in the order in which they are checked. -/
def checkedFields : List Field :=
  [.collector, .serviceKey, .reporterType, .tracingMode, .sampleRate, .precision,
    .transactionSettings, .debugLevel]

/-- Checks every field that has a rule. What was dropped before is forgotten. -/
def validate (c : Config) : Config := checkedFields.foldl check { c with discarded := [] }

theorem validate_eq (c : Config) :
    c.validate = checkedFields.foldl check { c with discarded := [] } := rfl

-- A run of eight checks is nothing to unfold by accident.
attribute [irreducible] validate

end Config

namespace Settings

/-- The configuration of settings. -/
def validate (s : Settings) : Config := Config.validate ⟨s, [], []⟩

/-- What validation logs: a warning for each dropped value. -/
def validateLog (s : Settings) : List Log.Record :=
  s.validate.discarded.map fun d => .warn d.message

end Settings

namespace Config

/-- Nothing but defaults. -/
def default : Config := ⟨.default, [], []⟩

/-! ## Reports -/

/-- The state of a field, as it is reported. -/
structure Entry where
  field : Field
  value : String
  origin : Origin
deriving DecidableEq, Repr

/-- The value of a field as text. -/
def rendered (c : Config) (f : Field) : String := f.render (c.settings.value f)

/-- The state of every field, in report order. -/
def entries (c : Config) : List Entry :=
  Field.all.map fun f => ⟨f, c.rendered f, c.settings.origin f⟩

theorem filter_entries (c : Config) (f : Field) :
    (c.entries.filter fun e => e.field = f) = [⟨f, c.rendered f, c.settings.origin f⟩] := by
  have hfield : ((fun e : Entry => decide (e.field = f)) ∘
      fun g => (⟨g, c.rendered g, c.settings.origin g⟩ : Entry)) = fun g => decide (g = f) := rfl
  rw [entries, List.filter_map, hfield, Field.filter_all]
  rfl

/-! ## Settings in force -/

/-- A recognized word, or the default one. -/
def known {α : Type} [Inhabited α] (t : Token α) : α := t.value?.getD Inhabited.default

/-- The address of the collector. -/
def collector (c : Config) : String := c.settings.value .collector

/-- The service key, normalized. -/
def serviceKey (c : Config) : String := c.settings.value .serviceKey

/-- The path of the certificate that the collector is verified with. -/
def trustedPath (c : Config) : String := c.settings.value .trustedPath

/-- The address of the collector for the udp reporter. -/
def collectorUdp (c : Config) : String := c.settings.value .collectorUdp

/-- The transport of events. -/
def reporterType (c : Config) : Reporter :=
  known (α := Reporter) (c.settings.value .reporterType)

/-- The address that the udp reporter falls back to. -/
def defaultUdpEndpoint : String := "127.0.0.1:7831"

/-- The address that events are sent to. -/
def reporterEndpoint (c : Config) : String :=
  match c.reporterType with
  | .ssl => c.collector
  | .udp => if c.collectorUdp.isEmpty then defaultUdpEndpoint else c.collectorUdp

/-- Whether spans are recorded. -/
def tracingMode (c : Config) : TracingMode :=
  known (α := TracingMode) (c.settings.value .tracingMode)

/-- The sample rate in parts per million. -/
def sampleRate (c : Config) : Nat :=
  let rate : Int := c.settings.value .sampleRate
  if 0 ≤ rate ∧ rate < Int.pow 2 32 then rate.toNat else Field.maxSampleRate.toNat

/-- Whether a tracing mode was given. -/
def tracingModeConfigured (c : Config) : Bool := c.settings.isExplicit .tracingMode

/-- Whether a sample rate was given. -/
def sampleRateConfigured (c : Config) : Bool := c.settings.isExplicit .sampleRate

/-- Whether the local sampling settings go before those of the collector. -/
def samplingConfigured (c : Config) : Bool := c.tracingModeConfigured || c.sampleRateConfigured

/-- Whether transaction names begin with the domain. -/
def prependDomain (c : Config) : Bool := c.settings.value .prependDomain

/-- Another name for the host. -/
def hostAlias (c : Config) : String := c.settings.value .hostAlias

/-- Whether the collector's certificate goes unverified. -/
def skipVerify (c : Config) : Bool := c.settings.value .skipVerify

/-- The number of significant digits in histograms. -/
def precision (c : Config) : UInt32 := c.settings.value .precision

/-- A tuning setting of the reporter. -/
def reporter (c : Config) (s : ReporterSetting) : UInt64 := c.settings.value (.reporter s)

/-- Whether the agent is off. -/
def disabled (c : Config) : Bool := c.settings.value .disabled

/-- The highest level that is shown. -/
def debugLevel (c : Config) : Log.Threshold :=
  known (α := Log.Threshold) (c.settings.value .debugLevel)

/-- The mode that the transaction filters force on a url. -/
def modeFor (c : Config) (url : String) : Option TracingMode := Filter.modeFor c.filters url

end Config

end TracerConfig
