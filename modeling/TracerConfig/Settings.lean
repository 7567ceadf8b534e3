import TracerConfig.Field.Table
import TracerConfig.Field.Value
import TracerConfig.Layered

/-!
# Settings

The layered values of all fields. Merging sources fills the layers of each field from what the
sources give for it; overrides by the application go on top.

Main definitions:
* `Settings.merge`: the settings of a list of sources, and `Settings.mergeLog`, what is logged
  on the way.
* `Override`, `Settings.override`: one field set by the application.
-/

namespace TracerConfig

/-- The layered value of each field. -/
abbrev Settings := Field.Table fun f => Layered f.Value

namespace Settings

/-- Nothing but defaults. -/
def default : Settings := .ofFn fun f => { default := f.default }

/-- The value of a field that is in force. -/
def value (s : Settings) (f : Field) : f.Value := (s.get f).value

/-- The origin of the value of a field that is in force. -/
def origin (s : Settings) (f : Field) : Origin := (s.get f).origin

/-- Whether any source gave a value for a field. -/
def isExplicit (s : Settings) (f : Field) : Bool := (s.get f).isExplicit

/-! ## Merging -/

/-- What sources give for a field. -/
def reading (sources : List Source) (f : Field) : Reading f.Value :=
  Reading.first f.read (.setting f) sources

/-- The layered value of a field for which sources give a reading. -/
def ofReading (f : Field) (r : Reading f.Value) : Layered f.Value :=
  match r.value with
  | some (v, o) => Layered.put { default := f.default } o v
  | none => { default := f.default }

/-- The settings that sources give. -/
def merge (sources : List Source) : Settings :=
  .ofFn fun f => ofReading f (reading sources f)

/-- The warning about a text that was passed over. -/
def rejection (f : Field) (r : Rejected) : Log.Record :=
  .warn ("Configuration: " ++ f.path ++ " - ignoring " ++ r.origin.name ++ " value " ++
    Text.quoted r.text ++ ", expected " ++ f.expected ++ ": " ++ r.cause)

/-- The warnings about the texts of a field that were passed over. -/
def rejections (sources : List Source) (f : Field) : List Log.Record :=
  (reading sources f).rejected.map (rejection f)

/-- The warning about a value that would take the place of a default. -/
def refusals (sources : List Source) (f : Field) : List Log.Record :=
  match (reading sources f).value with
  | some (_, .default) => [.warn "Cannot set default value after initialization"]
  | _ => []

/-- What merging sources logs. The two sampling settings are read in front of all others, and
read both before either is recorded. -/
def mergeLog (sources : List Source) : List Log.Record :=
  [Field.tracingMode, .sampleRate].flatMap (rejections sources) ++
  [Field.tracingMode, .sampleRate].flatMap (refusals sources) ++
  (Field.all.filter fun f => f ≠ .tracingMode && f ≠ .sampleRate).flatMap fun f =>
    rejections sources f ++ refusals sources f

end Settings

/-! ## Overrides -/

/-- A field set by the application. -/
structure Override where
  field : Field
  choice : field.Choice

namespace Settings

/-- Sets a field on top of every source. -/
def override (s : Settings) (o : Override) : Settings :=
  s.set o.field ((s.get o.field).put .code (o.field.ofChoice o.choice))

/-- Sets fields in order, so that the last override of a field counts. -/
def overrideAll (s : Settings) (os : List Override) : Settings := os.foldl override s

end Settings

end TracerConfig
