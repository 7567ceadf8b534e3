import TracerConfig.Filter.Spec
import TracerConfig.Yaml.Node
import TracerConfig.Yaml.Scalar

/-!
# Filter specifications in documents

A list of specifications is read from a document of its own. Every scalar counts as a string,
with the text it is written with; only the regular expression tells null from a string. A
specification is a mapping, of which unknown keys are passed over.

Main definition: `Spec.readAll`.
-/

namespace TracerConfig.Filter.Spec

open Yaml (Aliases Node Document Style Scalar)

/-- Reading a part of a document: it may fail, and counts the aliases that it follows. -/
abbrev Decoder := StateT Nat (Except Yaml.Error)

/-- Whether a node stands for nothing: an empty plain scalar. -/
def isVoid : Node → Bool
  | .scalar _ _ style text => style = .plain && text.isEmpty
  | _ => false

/-- Refuses a node of a kind that is not expected. -/
def refuse {α : Type} (expected : String) : Node → Decoder α
  | .scalar _ tag style text => do
    let s ← Scalar.resolve (tag.filter fun t => t.toList.head? ≠ some '!') style text
    throw (Scalar.wrongType s.name expected)
  | .sequence .. => throw (Scalar.wrongType "sequence" expected)
  | .mapping .. => throw (Scalar.wrongType "map" expected)
  | .alias _ => throw Node.unknownAnchor

/-- The text of a scalar. -/
def decodeText (expected : String) (aliases : Aliases) (n : Node) : Decoder String := do
  match ← aliases.follow n with
  | .scalar _ _ _ text => return text
  | n => refuse expected n

/-- The text of a scalar that is a value. -/
def decodeString (aliases : Aliases) (n : Node) : Decoder String :=
  decodeText "a string" aliases n

/-- The text of a scalar, or nothing if it is a plain null. A tag of null fixes the type, any
other tag that of a string. -/
def decodeOption (aliases : Aliases) (n : Node) : Decoder (Option String) := do
  match ← aliases.follow n with
  | .scalar _ tag style text =>
    if style ≠ .plain then return some text
    else if tag = some (Scalar.standardTag "null") then
      if Scalar.isNullWord text then return none else throw (Scalar.wrongValue text "null")
    else if tag.isNone && (text.isEmpty || Scalar.isNullWord text) then return none
    else return some text
  | n => refuse "a string" n

/-- The texts of a sequence of scalars; a node that stands for nothing has none. -/
def decodeStrings (aliases : Aliases) (n : Node) : Decoder (List String) := do
  match ← aliases.follow n with
  | .sequence _ _ items => items.mapM (decodeString aliases)
  | n => if isVoid n then return [] else refuse "a sequence" n

/-- Reads one pair of a mapping into a specification. `found` holds the known keys met so
far, none of which may come again. -/
def decodePair (aliases : Aliases) (found : List String × Spec) (pair : Node × Node) :
    Decoder (List String × Spec) := do
  let (keys, s) := found
  let key ← decodeText "field identifier" aliases pair.1
  if keys.contains key then throw ⟨"duplicate field `" ++ key ++ "`", none⟩
  match key with
  | "Type" => return (key :: keys, { s with kind := ← decodeString aliases pair.2 })
  | "RegEx" => return (key :: keys, { s with regex := ← decodeOption aliases pair.2 })
  | "Extensions" => return (key :: keys, { s with extensions := ← decodeStrings aliases pair.2 })
  | "Tracing" => return (key :: keys, { s with tracing := ← decodeString aliases pair.2 })
  | _ => return (keys, s)

/-- Reads a specification; a node that stands for nothing has no parts. -/
def decode (aliases : Aliases) (n : Node) : Decoder Spec := do
  match ← aliases.follow n with
  | .mapping _ _ pairs => (·.2) <$> pairs.foldlM (decodePair aliases) ([], {})
  | n => if isVoid n then return {} else refuse "struct TransactionFilterSpec" n

/-- Reads a list of specifications; nothing is the empty list. -/
def decodeAll (aliases : Aliases) : Option Node → Decoder (List Spec)
  | none => return []
  | some n => do
    match ← aliases.follow n with
    | .sequence _ _ items => items.mapM (decode aliases)
    | n => if isVoid n then return [] else refuse "a sequence" n

/-- The specifications of a document's text. -/
def readAll (text : String) : Except Yaml.Error (List Spec) := do
  let d ← Document.read text
  (·.1) <$> (decodeAll d.aliases d.root).run 0

end TracerConfig.Filter.Spec
