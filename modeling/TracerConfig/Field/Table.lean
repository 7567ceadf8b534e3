import TracerConfig.Field

/-!
# Tables with a place for every field

A table holds one thing for each field, of a type that depends on the field. It is a function on
the fields, stored as a record so that each entry is computed once.

Main definitions and statements:
* `Field.Table`, `Table.get`, `Table.ofFn`, `Table.set`.
* `get_ofFn`, `get_set`, `get_set_ne`: the entries of a table.
* `ext_get`: a table is determined by them.
-/

namespace TracerConfig

/-- One entry for each reporter setting. -/
structure ReporterSetting.Table (β : ReporterSetting → Type) where
  eventFlushInterval : β .eventFlushInterval
  eventFlushBatchSize : β .eventFlushBatchSize
  metricFlushInterval : β .metricFlushInterval
  getSettingsInterval : β .getSettingsInterval
  settingsTimeoutInterval : β .settingsTimeoutInterval
  pingInterval : β .pingInterval
  retryDelayInitial : β .retryDelayInitial
  retryDelayMax : β .retryDelayMax
  redirectMax : β .redirectMax
  retryLogThreshold : β .retryLogThreshold
  maxRetries : β .maxRetries

namespace ReporterSetting.Table

variable {β : ReporterSetting → Type}

/-- The entry of a setting. -/
def get (t : Table β) : (s : ReporterSetting) → β s
  | .eventFlushInterval => t.eventFlushInterval
  | .eventFlushBatchSize => t.eventFlushBatchSize
  | .metricFlushInterval => t.metricFlushInterval
  | .getSettingsInterval => t.getSettingsInterval
  | .settingsTimeoutInterval => t.settingsTimeoutInterval
  | .pingInterval => t.pingInterval
  | .retryDelayInitial => t.retryDelayInitial
  | .retryDelayMax => t.retryDelayMax
  | .redirectMax => t.redirectMax
  | .retryLogThreshold => t.retryLogThreshold
  | .maxRetries => t.maxRetries

/-- The table of a function. -/
def ofFn (g : (s : ReporterSetting) → β s) : Table β where
  eventFlushInterval := g .eventFlushInterval
  eventFlushBatchSize := g .eventFlushBatchSize
  metricFlushInterval := g .metricFlushInterval
  getSettingsInterval := g .getSettingsInterval
  settingsTimeoutInterval := g .settingsTimeoutInterval
  pingInterval := g .pingInterval
  retryDelayInitial := g .retryDelayInitial
  retryDelayMax := g .retryDelayMax
  redirectMax := g .redirectMax
  retryLogThreshold := g .retryLogThreshold
  maxRetries := g .maxRetries

@[simp]
theorem get_ofFn (g : (s : ReporterSetting) → β s) (s : ReporterSetting) :
    (ofFn g).get s = g s := by
  cases s <;> rfl

end ReporterSetting.Table

/-- One entry for each field. -/
structure Field.Table (β : Field → Type) where
  collector : β .collector
  serviceKey : β .serviceKey
  trustedPath : β .trustedPath
  collectorUdp : β .collectorUdp
  reporterType : β .reporterType
  tracingMode : β .tracingMode
  sampleRate : β .sampleRate
  prependDomain : β .prependDomain
  hostAlias : β .hostAlias
  skipVerify : β .skipVerify
  precision : β .precision
  reporter : ReporterSetting.Table fun s => β (.reporter s)
  transactionSettings : β .transactionSettings
  disabled : β .disabled
  debugLevel : β .debugLevel

namespace Field.Table

variable {β : Field → Type}

/-- The entry of a field. -/
def get (t : Table β) : (f : Field) → β f
  | .collector => t.collector
  | .serviceKey => t.serviceKey
  | .trustedPath => t.trustedPath
  | .collectorUdp => t.collectorUdp
  | .reporterType => t.reporterType
  | .tracingMode => t.tracingMode
  | .sampleRate => t.sampleRate
  | .prependDomain => t.prependDomain
  | .hostAlias => t.hostAlias
  | .skipVerify => t.skipVerify
  | .precision => t.precision
  | .reporter s => t.reporter.get s
  | .transactionSettings => t.transactionSettings
  | .disabled => t.disabled
  | .debugLevel => t.debugLevel

/-- The table of a function. -/
def ofFn (g : (f : Field) → β f) : Table β where
  collector := g .collector
  serviceKey := g .serviceKey
  trustedPath := g .trustedPath
  collectorUdp := g .collectorUdp
  reporterType := g .reporterType
  tracingMode := g .tracingMode
  sampleRate := g .sampleRate
  prependDomain := g .prependDomain
  hostAlias := g .hostAlias
  skipVerify := g .skipVerify
  precision := g .precision
  reporter := .ofFn fun s => g (.reporter s)
  transactionSettings := g .transactionSettings
  disabled := g .disabled
  debugLevel := g .debugLevel

/-- Replaces the entry of one field. -/
def set (t : Table β) (f : Field) (b : β f) : Table β :=
  ofFn fun g => if h : f = g then h ▸ b else t.get g

@[simp]
theorem get_ofFn (g : (f : Field) → β f) (f : Field) : (ofFn g).get f = g f := by
  cases f <;> simp [ofFn, get]

@[simp]
theorem get_set (t : Table β) (f : Field) (b : β f) : (t.set f b).get f = b := by
  simp [set]

theorem get_set_ne (t : Table β) {f g : Field} (h : f ≠ g) (b : β f) :
    (t.set f b).get g = t.get g := by
  simp [set, h]

/-- A table is the table of its entries. -/
theorem ofFn_get (t : Table β) : ofFn t.get = t := rfl

/-- Tables with the same entries are the same. -/
theorem ext_get {t u : Table β} (h : ∀ f, t.get f = u.get f) : t = u := by
  rw [← ofFn_get t, ← ofFn_get u, funext h]

end Field.Table

end TracerConfig
