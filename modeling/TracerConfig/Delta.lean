import TracerConfig.Config

/-!
# Differences between configurations

The fields whose values differ as text, with both texts. A difference is reported with the
service keys that it is about masked in every text, from left to right.

Main definitions:
* `Delta.between`: the differing fields.
* `Delta.sanitize`: the same with service keys masked.
* `Delta.render`: the report.
-/

namespace TracerConfig

/-- A field with two different values. -/
structure Delta.Entry where
  field : Field
  value : String
  default : String
deriving DecidableEq, Repr

/-- The differing fields, in report order. -/
abbrev Delta := List Delta.Entry

namespace Delta

/-- The fields in which `resolved` differs from `base`. -/
def between (base resolved : Config) : Delta :=
  (Field.all.filter fun f => base.rendered f ≠ resolved.rendered f).map fun f =>
    ⟨f, resolved.rendered f, base.rendered f⟩

theorem filter_between (base resolved : Config) (f : Field) :
    ((between base resolved).filter fun e => e.field = f) =
      if base.rendered f = resolved.rendered f then []
      else [⟨f, resolved.rendered f, base.rendered f⟩] := by
  have hfield : ((fun e : Entry => decide (e.field = f)) ∘
      fun g => (⟨g, resolved.rendered g, base.rendered g⟩ : Entry)) =
        fun g => decide (g = f) := rfl
  have hcomm : ((fun g => decide (g = f) && decide (base.rendered g ≠ resolved.rendered g))) =
      fun g => decide (base.rendered g ≠ resolved.rendered g) && decide (g = f) :=
    funext fun g => Bool.and_comm ..
  rw [between, List.filter_map, hfield, List.filter_filter, hcomm, ← List.filter_filter,
    Field.filter_all]
  by_cases h : base.rendered f = resolved.rendered f <;> simp [h]

/-! ## Masking -/

/-- The service keys in a difference. -/
def secrets (d : Delta) : List String :=
  ((d.filter fun e => e.field = .serviceKey).flatMap fun e => [e.value, e.default]).filter
    (· ≠ "")

/-- A text with every one of the given service keys masked, one after the other. -/
def hide (secrets : List String) (text : String) : String :=
  secrets.foldl (fun t secret => Text.replaceAll secret (ServiceKey.mask secret) t) text

/-- A difference with its service keys masked. -/
def sanitize (d : Delta) : Delta :=
  d.map fun e => { e with value := hide d.secrets e.value, default := hide d.secrets e.default }

/-! ## The report -/

/-- The line of a field: its path, its environment variable if it has one, and both values. -/
def Entry.render (e : Entry) : String :=
  let variableNote := match e.field.primaryVariable with
    | some v => " (" ++ v ++ ")"
    | none => ""
  " - " ++ e.field.path ++ variableNote ++ " = " ++ e.value ++ " (default: " ++ e.default ++ ")"

/-- The report, a field a line. -/
def render (d : Delta) : String := "\n".intercalate (d.map Entry.render)

end Delta

end TracerConfig
