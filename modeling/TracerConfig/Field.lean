/-!
# Fields

The registry of settings. A field has a dotted path, under which it stands in the configuration
file and is reported, and the environment variables it is read from. The registry's order is
the order of every report.
-/

namespace TracerConfig

/-- The tuning settings of the reporter, all of them natural numbers. -/
inductive ReporterSetting where
  | eventFlushInterval
  | eventFlushBatchSize
  | metricFlushInterval
  | getSettingsInterval
  | settingsTimeoutInterval
  | pingInterval
  | retryDelayInitial
  | retryDelayMax
  | redirectMax
  | retryLogThreshold
  | maxRetries
deriving DecidableEq, Repr

/-- A reported setting. -/
inductive Field where
  | collector
  | serviceKey
  | trustedPath
  | collectorUdp
  | reporterType
  | tracingMode
  | sampleRate
  | prependDomain
  | hostAlias
  | skipVerify
  | precision
  | reporter (setting : ReporterSetting)
  | transactionSettings
  | disabled
  | debugLevel
deriving DecidableEq, Repr

namespace ReporterSetting

/-- The reporter settings, in report order. -/
def all : List ReporterSetting :=
  [eventFlushInterval, eventFlushBatchSize, metricFlushInterval, getSettingsInterval,
    settingsTimeoutInterval, pingInterval, retryDelayInitial, retryDelayMax, redirectMax,
    retryLogThreshold, maxRetries]

theorem mem_all (s : ReporterSetting) : s ∈ all := by cases s <;> decide

/-- The last part of the path. -/
def name : ReporterSetting → String
  | eventFlushInterval => "EventFlushInterval"
  | eventFlushBatchSize => "EventFlushBatchSize"
  | metricFlushInterval => "MetricFlushInterval"
  | getSettingsInterval => "GetSettingsInterval"
  | settingsTimeoutInterval => "SettingsTimeoutInterval"
  | pingInterval => "PingInterval"
  | retryDelayInitial => "RetryDelayInitial"
  | retryDelayMax => "RetryDelayMax"
  | redirectMax => "RedirectMax"
  | retryLogThreshold => "RetryLogThreshold"
  | maxRetries => "MaxRetries"

/-- The environment variable. -/
def variableName : ReporterSetting → String
  | eventFlushInterval => "APPOPTICS_EVENTS_FLUSH_INTERVAL"
  | eventFlushBatchSize => "APPOPTICS_EVENTS_BATCHSIZE"
  | metricFlushInterval => "APPOPTICS_METRIC_FLUSH_INTERVAL"
  | getSettingsInterval => "APPOPTICS_GET_SETTINGS_INTERVAL"
  | settingsTimeoutInterval => "APPOPTICS_SETTINGS_TIMEOUT_INTERVAL"
  | pingInterval => "APPOPTICS_PING_INTERVAL"
  | retryDelayInitial => "APPOPTICS_RETRY_DELAY_INITIAL"
  | retryDelayMax => "APPOPTICS_RETRY_DELAY_MAX"
  | redirectMax => "APPOPTICS_REDIRECT_MAX"
  | retryLogThreshold => "APPOPTICS_RETRY_LOG_THRESHOLD"
  | maxRetries => "APPOPTICS_MAX_RETRIES"

/-- The value without any source: intervals in seconds, the first retry delay in
milliseconds. -/
def default : ReporterSetting → UInt64
  | eventFlushInterval => 2
  | eventFlushBatchSize => 2000
  | metricFlushInterval => 30
  | getSettingsInterval => 30
  | settingsTimeoutInterval => 10
  | pingInterval => 20
  | retryDelayInitial => 500
  | retryDelayMax => 60
  | redirectMax => 20
  | retryLogThreshold => 10
  | maxRetries => 20

end ReporterSetting

namespace Field

/-- The fields, in report order. -/
def all : List Field :=
  [collector, serviceKey, trustedPath, collectorUdp, reporterType, tracingMode, sampleRate,
    prependDomain, hostAlias, skipVerify, precision] ++
  ReporterSetting.all.map reporter ++
  [transactionSettings, disabled, debugLevel]

theorem mem_all (f : Field) : f ∈ all := by
  cases f with
  | reporter s => cases s <;> decide
  | _ => decide

theorem nodup_all : all.Nodup := by decide

/-- A field stands in a report once. -/
theorem filter_all (f : Field) : all.filter (· = f) = [f] := by
  cases f with
  | reporter s => cases s <;> decide
  | _ => decide

/-- The dotted path. -/
def path : Field → String
  | collector => "Collector"
  | serviceKey => "ServiceKey"
  | trustedPath => "TrustedPath"
  | collectorUdp => "CollectorUDP"
  | reporterType => "ReporterType"
  | tracingMode => "Sampling.TracingMode"
  | sampleRate => "Sampling.SampleRate"
  | prependDomain => "PrependDomain"
  | hostAlias => "HostAlias"
  | skipVerify => "SkipVerify"
  | precision => "Precision"
  | reporter s => "ReporterProperties." ++ s.name
  | transactionSettings => "TransactionSettings"
  | disabled => "Disabled"
  | debugLevel => "DebugLevel"

/-- The environment variables, the canonical one first. -/
def variableNames : Field → List String
  | collector => ["APPOPTICS_COLLECTOR"]
  | serviceKey => ["APPOPTICS_SERVICE_KEY"]
  | trustedPath => ["APPOPTICS_TRUSTEDPATH", "APPOPTICS_TRUSTED_PATH"]
  | collectorUdp => ["APPOPTICS_COLLECTOR_UDP"]
  | reporterType => ["APPOPTICS_REPORTER"]
  | tracingMode => ["APPOPTICS_TRACING_MODE"]
  | sampleRate => ["APPOPTICS_SAMPLE_RATE"]
  | prependDomain => ["APPOPTICS_PREPEND_DOMAIN"]
  | hostAlias => ["APPOPTICS_HOSTNAME_ALIAS"]
  | skipVerify => ["APPOPTICS_INSECURE_SKIP_VERIFY"]
  | precision => ["APPOPTICS_HISTOGRAM_PRECISION"]
  | reporter s => [s.variableName]
  | transactionSettings => []
  | disabled => ["APPOPTICS_DISABLED"]
  | debugLevel => ["APPOPTICS_DEBUG_LEVEL"]

/-- The canonical environment variable. -/
def primaryVariable (f : Field) : Option String := f.variableNames.head?

end Field

/-- What a source can be asked for: a setting, or the location of the configuration file. -/
inductive Key where
  | setting (field : Field)
  | configFile
deriving DecidableEq, Repr

namespace Key

/-- The dotted path. -/
def path : Key → String
  | setting f => f.path
  | configFile => "ConfigFile"

/-- The environment variables, the canonical one first. -/
def variableNames : Key → List String
  | setting f => f.variableNames
  | configFile => ["APPOPTICS_CONFIG_FILE"]

/-- Whether the configuration file can give a value: it does not say where it is itself. -/
def inFile : Key → Bool
  | setting _ => true
  | configFile => false

/-- No two keys share a path. -/
theorem path_injective : ∀ k l : Key, k.path = l.path → k = l := by
  have h : ∀ k ∈ .configFile :: Field.all.map setting,
      ∀ l ∈ .configFile :: Field.all.map setting, k.path = l.path → k = l := by decide +kernel
  have mem : ∀ k : Key, k ∈ .configFile :: Field.all.map setting := by
    intro k
    cases k with
    | setting f => exact List.mem_cons_of_mem _ (List.mem_map_of_mem (Field.mem_all f))
    | configFile => exact List.mem_cons_self ..
  exact fun k l => h k (mem k) l (mem l)

end Key

end TracerConfig
