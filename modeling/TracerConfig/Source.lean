import TracerConfig.File.Layer
import TracerConfig.Log.Record

/-!
# Sources of values

A source answers, for a key, with a text or with nothing. Sources are asked in order, the one of
highest precedence first: the first text that can be read as a value of the wanted type decides,
and the texts in front of it that cannot be read are reported.

Main definitions:
* `Source`, and its three kinds: an environment, a table of paths, a configuration file.
* `Reading.first`: the value that a list of sources gives for a key.
* `Surroundings.sources`: a source, and the configuration file that it names.
-/

namespace TracerConfig

/-- Where a value comes from, in ascending order of precedence. -/
inductive Origin where
  | default
  | file
  | environment
  | code
deriving DecidableEq, Repr

/-- The name of an origin in reports. -/
def Origin.name : Origin → String
  | default => "Default"
  | file => "File"
  | environment => "EnvVar"
  | code => "Code"

/-- A source of texts, with the origin that its values are recorded under. -/
structure Source where
  origin : Origin
  lookup : Key → Option String

/-! ## Environments -/

/-- The variables that are set to a text. -/
abbrev Environment := String → Option String

namespace Environment

/-- No variable is set. -/
def empty : Environment := fun _ => none

/-- Sets a variable. -/
def set (e : Environment) (name text : String) : Environment :=
  fun n => if n = name then some text else e n

/-- Clears a variable. -/
def unset (e : Environment) (name : String) : Environment :=
  fun n => if n = name then none else e n

/-- Sets a variable to bytes; bytes that are no text leave it cleared. -/
def setBytes (e : Environment) (name : String) (bytes : ByteArray) : Environment :=
  match String.fromUTF8? bytes with
  | some text => e.set name text
  | none => e.unset name

end Environment

namespace Source

/-- The variables of an environment: for a key the first of its variables that is not empty. -/
def ofEnvironment (origin : Origin) (e : Environment) : Source where
  origin := origin
  lookup k := (k.variableNames.filterMap e).find? (· ≠ "")

/-- A table of texts by path, in which an empty text is one. -/
def ofPaths (origin : Origin) (table : String → Option String) : Source where
  origin := origin
  lookup k := table k.path

/-- A configuration file. -/
def ofFile (layer : File.Layer) : Source where
  origin := .file
  lookup := layer.lookup

end Source

/-! ## Asking sources -/

/-- A text that could not be read as a value. -/
structure Rejected where
  origin : Origin
  text : String
  cause : String
deriving DecidableEq, Repr

/-- What sources give for a key: a value with its origin, if any, and the texts that were passed
over. -/
structure Reading (α : Type) where
  value : Option (α × Origin) := none
  rejected : List Rejected := []

/-- The first text that can be read. -/
def Reading.first {α : Type} (read : String → Except String α) (k : Key) :
    List Source → Reading α
  | [] => {}
  | s :: rest =>
    match s.lookup k with
    | none => first read k rest
    | some text =>
      match read text with
      | .ok a => { value := some (a, s.origin) }
      | .error cause =>
        let r := first read k rest
        { r with rejected := ⟨s.origin, text, cause⟩ :: r.rejected }

/-! ## Surroundings -/

/-- What a resolution reads: a source, and the files it may name. -/
structure Surroundings where
  source : Source
  files : File.Tree

namespace Surroundings

/-- The configuration file that the source names, if it names one. -/
def file? (s : Surroundings) : Option (Except File.LoadError File.Layer) :=
  (s.source.lookup .configFile).map (File.Layer.load s.files)

/-- The sources in order of precedence. A configuration file that cannot be used is none. -/
def sources (s : Surroundings) : List Source :=
  match s.file? with
  | some (.ok layer) => [s.source, .ofFile layer]
  | _ => [s.source]

/-- A warning if there is a configuration file that cannot be used. -/
def fileLog (s : Surroundings) : List Log.Record :=
  match s.file? with
  | some (.error e) => [.warn ("Configuration: ignoring config file - " ++ e.message)]
  | _ => []

end Surroundings

end TracerConfig
