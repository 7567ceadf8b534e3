import TracerConfig.Json.Value
import TracerConfig.TracingMode

/-!
# Filter specifications

A transaction filter as it is written: a type, a regular expression or a list of extensions, and
the tracing mode it forces. As JSON a specification is an object, of which an absent regular
expression and an empty list of extensions are left out, or an array of its parts in order.

Main definitions:
* `Spec.toJson` and `Spec.ofJson?`: writing an object; reading an object or an array.
* `Spec.renderAll`: the text of a list of specifications.
-/

namespace TracerConfig.Filter

/-- A transaction filter as written, nothing of it checked. -/
structure Spec where
  kind : String := ""
  regex : Option String := none
  extensions : List String := []
  tracing : String := ""
deriving DecidableEq, Repr, Inhabited

namespace Spec

/-- The only type of filter there is. -/
def urlKind : String := "url"

/-- A filter for urls in which a regular expression matches. -/
def urlRegex (pattern : String) (mode : TracingMode) : Spec :=
  ⟨urlKind, some pattern, [], mode.spelling⟩

/-- A filter for urls whose path ends in an extension. -/
def urlExtensions (extensions : List String) (mode : TracingMode) : Spec :=
  ⟨urlKind, none, extensions, mode.spelling⟩

/-- The regular expression, if there is one; an empty one is none. -/
def pattern? (s : Spec) : Option String := s.regex.filter (· ≠ "")

/-! ## JSON -/

/-- A specification as an object. -/
def toJson (s : Spec) : Json.Value :=
  .object <|
    [("Type", .string s.kind)] ++
    (s.regex.map fun r => ("RegEx", Json.Value.string r)).toList ++
    (if s.extensions.isEmpty then []
      else [("Extensions", .array (s.extensions.map Json.Value.string))]) ++
    [("Tracing", .string s.tracing)]

/-- The text of a specification. -/
def render (s : Spec) : String := s.toJson.render

/-- The text of a list of specifications. -/
def renderAll (specs : List Spec) : String := (Json.Value.array (specs.map toJson)).render

/-- A string value. -/
def stringOf? : Json.Value → Option String
  | .string s => some s
  | _ => none

/-- A string value or null. -/
def optionOf? : Json.Value → Option (Option String)
  | .null => some none
  | v => (stringOf? v).map some

/-- An array of strings. -/
def stringsOf? : Json.Value → Option (List String)
  | .array items => items.mapM stringOf?
  | _ => none

/-- Reads one member of an object; unknown ones are ignored. -/
def withMember? (s : Spec) (member : String × Json.Value) : Option Spec :=
  match member.1 with
  | "Type" => (stringOf? member.2).map fun t => { s with kind := t }
  | "RegEx" => (optionOf? member.2).map fun r => { s with regex := r }
  | "Extensions" => (stringsOf? member.2).map fun es => { s with extensions := es }
  | "Tracing" => (stringOf? member.2).map fun t => { s with tracing := t }
  | _ => some s

/-- The specification of an object, in which any member may be missing, or of an array of the
four parts in order, of which the last ones may be missing. -/
def ofJson? : Json.Value → Option Spec
  | .object members => members.foldlM withMember? {}
  | .array [] => some {}
  | .array [t] => do return { kind := ← stringOf? t }
  | .array [t, r] => do return { kind := ← stringOf? t, regex := ← optionOf? r }
  | .array [t, r, es] => do
    return { kind := ← stringOf? t, regex := ← optionOf? r, extensions := ← stringsOf? es }
  | .array [t, r, es, m] => do
    return {
      kind := ← stringOf? t
      regex := ← optionOf? r
      extensions := ← stringsOf? es
      tracing := ← stringOf? m }
  | _ => none

end Spec

end TracerConfig.Filter
