import TracerConfig.Field
import TracerConfig.File.Tree
import TracerConfig.Yaml.Writer

/-!
# The configuration file

A configuration file is a document with a mapping at its root. Its values are laid out flat,
each under the dotted path of the keys that lead to it; of several values of one path the last
one counts. A sequence is handed on as a document of its own, for the setting it belongs to.

Main definitions:
* `leaves`: the values of a document with their paths.
* `Layer.parse`, `Layer.load`: the layer of a text, and of a file.
* `Layer.lookup`: the value for a key.
-/

namespace TracerConfig.File

/-! ## Flat values -/

/-- The text of a key that is a string, whatever its tag. -/
def keyText? : Yaml.Value → Option String
  | .scalar (.string s) => some s
  | .tagged _ v => keyText? v
  | _ => none

/-- The path of what stands under a key. Empty keys at the front leave no trace. -/
def join (path key : String) : String := if path.isEmpty then key else path ++ "." ++ key

mutual

/-- The values in a document under `path`, in order. Null is no value, and what stands under a
key that is not a string is left out. If one sequence cannot be written there are no values at
all. -/
def leaves (path : String) : Yaml.Value → Except Yaml.Error (List (String × String))
  | .scalar .null => .ok []
  | .scalar s => .ok [(path, s.text)]
  | .sequence items => (Yaml.Value.renderSequence items).map fun text => [(path, text)]
  | .mapping pairs => pairLeaves path pairs
  | .tagged _ v => leaves path v

/-- The values in the pairs of a mapping. -/
def pairLeaves (path : String) :
    List (Yaml.Value × Yaml.Value) → Except Yaml.Error (List (String × String))
  | [] => .ok []
  | (k, v) :: rest => do
    let here ← match keyText? k with
      | some key => leaves (join path key) v
      | none => .ok []
    return here ++ (← pairLeaves path rest)

end

/-! ## Layers -/

/-- The values of a configuration file, in document order. -/
structure Layer where
  values : List (String × String) := []
deriving DecidableEq, Repr

namespace Layer

/-- The value for a key. The file does not say where it is itself. -/
def lookup (l : Layer) (k : Key) : Option String :=
  if k.inFile then l.values.reverse.lookup k.path else none

/-- Why a text is no configuration. -/
inductive ParseError where
  | malformed (cause : Yaml.Error)
  | badRoot (found : String)
deriving DecidableEq, Repr

/-- The wording of each cause. -/
def ParseError.message : ParseError → String
  | malformed e => e.message
  | badRoot found => "expected a mapping at the document root, found " ++ found

/-- The layer of a value. Null configures nothing. -/
def ofValue : Yaml.Value → Except ParseError Layer
  | .mapping pairs =>
    match pairLeaves "" pairs with
    | .ok values => .ok ⟨values⟩
    | .error e => .error (.malformed e)
  | .scalar .null => .ok {}
  | .scalar (.bool _) => .error (.badRoot "a boolean")
  | .scalar (.int _) | .scalar (.float _) => .error (.badRoot "a number")
  | .scalar (.string _) => .error (.badRoot "a string")
  | .sequence _ => .error (.badRoot "a sequence")
  | .tagged _ _ => .error (.badRoot "a tagged value")

/-- The layer of a text. -/
def parse (text : String) : Except ParseError Layer :=
  match Yaml.Value.parse text with
  | .ok v => ofValue v
  | .error e => .error (.malformed e)

end Layer

/-! ## Loading -/

/-- Why there is no layer for a path. -/
inductive LoadError where
  | unsupported (path : String)
  | unreadable (path : String) (cause : ReadError)
  | unusable (path : String) (cause : Layer.ParseError)
deriving DecidableEq, Repr

/-- The wording of each cause. -/
def LoadError.message : LoadError → String
  | unsupported path => "unsupported format: " ++ path
  | unreadable path e => "failed to read config file " ++ path ++ ": " ++ e.message
  | unusable path e => "failed to parse config file " ++ path ++ ": " ++ e.message

/-- The layer of the file at a path. Its extension is checked first, then that it can be read,
then what it holds. -/
def Layer.load (files : Tree) (path : String) : Except LoadError Layer :=
  if !Path.isSupported path then .error (.unsupported path)
  else
    match files.read path with
    | .error e => .error (.unreadable path e)
    | .ok text =>
      match parse text with
      | .error e => .error (.unusable path e)
      | .ok layer => .ok layer

end TracerConfig.File
