import Mathlib.Data.List.Basic
import TracerConfig.Filter.Spec
import TracerConfig.Proofs.Json

/-!
# Specifications and their text

An absent pattern and an empty list of extensions are left out of the text of a specification.
Nothing else is written that way, so the text tells specifications apart.

A specification can also stand in an array of its four parts, where nothing is left out and null
takes the place of an absent pattern.

Main statements:
* `ofJson?_toJson`, `ofJson?_toArray`: a specification is read back from its object, and from the
  array of its parts.
* `renderAll_injective`: different lists of specifications have different texts.
* `read_written`: both texts of a specification are read back.
-/

namespace TracerConfig.Filter.Spec

/-! ## Members -/

theorem mapM_stringOf?_string (es : List String) :
    (es.map Json.Value.string).mapM stringOf? = some es := by
  induction es with
  | nil => rfl
  | cons e es ih =>
    rw [List.map_cons, List.mapM_cons, ih]
    rfl

theorem withMember?_type (s : Spec) (t : String) :
    s.withMember? ("Type", .string t) = some { s with kind := t } := rfl

theorem withMember?_regex (s : Spec) (r : String) :
    s.withMember? ("RegEx", .string r) = some { s with regex := some r } := rfl

theorem withMember?_extensions (s : Spec) (es : List String) :
    s.withMember? ("Extensions", .array (es.map .string)) = some { s with extensions := es } := by
  have hread : s.withMember? ("Extensions", .array (es.map .string)) =
      ((es.map Json.Value.string).mapM stringOf?).map fun es => { s with extensions := es } := rfl
  rw [hread, mapM_stringOf?_string, Option.map_some]

theorem withMember?_tracing (s : Spec) (t : String) :
    s.withMember? ("Tracing", .string t) = some { s with tracing := t } := rfl

/-! ## Objects -/

/-- A specification is read back from its object: what is left out has its default. -/
theorem ofJson?_toJson (s : Spec) : ofJson? s.toJson = some s := by
  obtain ⟨kind, regex, extensions, tracing⟩ := s
  cases regex with
  | none =>
    cases extensions with
    | nil => rfl
    | cons e es =>
      show [("Type", Json.Value.string kind), ("Extensions", .array ((e :: es).map .string)),
        ("Tracing", .string tracing)].foldlM withMember? {} = _
      simp only [List.foldlM_cons, List.foldlM_nil, withMember?_type, withMember?_extensions,
        withMember?_tracing, Option.bind_eq_bind, Option.bind_some, Option.pure_def]
  | some r =>
    cases extensions with
    | nil => rfl
    | cons e es =>
      show [("Type", Json.Value.string kind), ("RegEx", .string r),
        ("Extensions", .array ((e :: es).map .string)),
        ("Tracing", .string tracing)].foldlM withMember? {} = _
      simp only [List.foldlM_cons, List.foldlM_nil, withMember?_type, withMember?_regex,
        withMember?_extensions, withMember?_tracing, Option.bind_eq_bind, Option.bind_some,
        Option.pure_def]

theorem toJson_injective : Function.Injective toJson := by
  intro s t h
  have hread := congrArg ofJson? h
  rw [ofJson?_toJson, ofJson?_toJson] at hread
  exact Option.some.inj hread

/-! ## Arrays -/

/-- An absent pattern as null. -/
def patternJson : Option String → Json.Value
  | some r => .string r
  | none => .null

/-- The parts of a specification in order. -/
def toArray (s : Spec) : Json.Value :=
  .array [.string s.kind, patternJson s.regex, .array (s.extensions.map .string), .string s.tracing]

/-- Null is no pattern, and an empty string is one. -/
theorem optionOf?_patternJson (r : Option String) : optionOf? (patternJson r) = some r := by
  cases r <;> rfl

/-- A specification is read back from the array of its parts. -/
theorem ofJson?_toArray (s : Spec) : ofJson? s.toArray = some s := by
  have hextensions : stringsOf? (.array (s.extensions.map .string)) = some s.extensions :=
    mapM_stringOf?_string s.extensions
  simp only [toArray, ofJson?, stringOf?, optionOf?_patternJson, hextensions, Option.bind_eq_bind,
    Option.bind_some, Option.pure_def]

/-! ## Texts -/

theorem readsBack_toJson (s : Spec) : Json.ReadsBack s.toJson := by
  refine .object fun m hm => ?_
  simp only [List.mem_append, List.mem_singleton, Option.mem_toList, Option.map_eq_some_iff] at hm
  rcases hm with ((rfl | ⟨r, _, rfl⟩) | hm) | rfl
  · exact .string _
  · exact .string _
  · split at hm
    · cases hm
    · rw [List.mem_singleton.mp hm]
      refine .array fun v hv => ?_
      obtain ⟨e, _, rfl⟩ := List.mem_map.mp hv
      exact .string e
  · exact .string _

theorem readsBack_patternJson (r : Option String) : Json.ReadsBack (patternJson r) := by
  cases r with
  | none => exact .null
  | some r => exact .string r

theorem readsBack_toArray (s : Spec) : Json.ReadsBack s.toArray := by
  refine .array fun v hv => ?_
  simp only [List.mem_cons, List.not_mem_nil, or_false] at hv
  rcases hv with rfl | rfl | rfl | rfl
  · exact .string _
  · exact readsBack_patternJson _
  · refine .array fun v hv => ?_
    obtain ⟨e, _, rfl⟩ := List.mem_map.mp hv
    exact .string e
  · exact .string _

theorem parse_renderAll (specs : List Spec) :
    Json.Value.parse (renderAll specs) = some (.array (specs.map toJson)) := by
  refine (Json.ReadsBack.array fun v hv => ?_).parse_render
  obtain ⟨s, _, rfl⟩ := List.mem_map.mp hv
  exact s.readsBack_toJson

/-- Different lists of specifications have different texts. -/
theorem renderAll_injective : Function.Injective renderAll := by
  intro specs specs' h
  have hvalue := congrArg Json.Value.parse h
  rw [parse_renderAll, parse_renderAll] at hvalue
  exact List.map_injective_iff.mpr toJson_injective (Json.Value.array.inj (Option.some.inj hvalue))

/-- The text of a specification, and that of the array of its parts, are read back as the
specification, whatever its strings are and whichever parts it lacks. So specifications have
different texts, and so have lists of them. -/
theorem read_written :
    (∀ s : Spec, (Json.Value.parse s.render).bind ofJson? = some s) ∧
    (∀ s : Spec, (Json.Value.parse s.toArray.render).bind ofJson? = some s) ∧
    Function.Injective render ∧ Function.Injective renderAll := by
  have hobject : ∀ s : Spec, (Json.Value.parse s.render).bind ofJson? = some s := by
    intro s
    rw [render, s.readsBack_toJson.parse_render, Option.bind_some, ofJson?_toJson]
  have harray : ∀ s : Spec, (Json.Value.parse s.toArray.render).bind ofJson? = some s := by
    intro s
    rw [s.readsBack_toArray.parse_render, Option.bind_some, ofJson?_toArray]
  refine ⟨hobject, harray, fun s t h => ?_, renderAll_injective⟩
  have hread := congrArg (fun text => (Json.Value.parse text).bind ofJson?) h
  simp only [hobject] at hread
  exact Option.some.inj hread

end TracerConfig.Filter.Spec
