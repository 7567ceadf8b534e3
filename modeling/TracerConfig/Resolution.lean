import TracerConfig.Delta

/-!
# Resolution

The whole way from surroundings to a configuration: the sources are merged, the application's
overrides are put on top, and the result is validated. A builder stops in between, so that the
application can set fields one by one.

Main definitions:
* `Builder.start`, `Builder.apply`, `Builder.build`.
* `resolve`, and `resolveLog`, what is logged on the way.
-/

namespace TracerConfig

/-- Merged settings that the application may still override. -/
structure Builder where
  settings : Settings

namespace Builder

/-- A builder for what the surroundings give. -/
def start (s : Surroundings) : Builder := ⟨.merge s.sources⟩

/-- What is logged when a builder starts. -/
def startLog (s : Surroundings) : List Log.Record := s.fileLog ++ Settings.mergeLog s.sources

/-- Sets one field. -/
def set (b : Builder) (o : Override) : Builder := ⟨b.settings.override o⟩

/-- Sets fields in order. -/
def apply (b : Builder) (os : List Override) : Builder := ⟨b.settings.overrideAll os⟩

/-- The configuration of a builder, which stays as it is. -/
def build (b : Builder) : Config := b.settings.validate

/-- What is logged by building. -/
def buildLog (b : Builder) : List Log.Record := b.settings.validateLog

end Builder

/-- The builder of a resolution, just in front of validation. -/
def resolving (s : Surroundings) (os : List Override) : Builder := (Builder.start s).apply os

/-- The configuration for surroundings and overrides. -/
def resolve (s : Surroundings) (os : List Override) : Config := (resolving s os).build

/-- The difference of a configuration from the defaults, as it is reported. -/
def Config.changes (c : Config) : Delta := (Delta.between .default c).sanitize

/-- The notice of the values that are no defaults, if there are any. -/
def Config.changeLog (c : Config) : List Log.Record :=
  if c.changes.isEmpty then []
  else [.info ("Configuration: non-default values\n" ++ c.changes.render)]

/-- What a resolution logs: what merging logs, the replaced values, and a notice of the values
that are no defaults. -/
def resolveLog (s : Surroundings) (os : List Override) : List Log.Record :=
  Builder.startLog s ++ (resolving s os).buildLog ++ (resolve s os).changeLog

end TracerConfig
