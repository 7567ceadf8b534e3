import TracerConfig.Field.Value
import TracerConfig.Proofs.ServiceKey

/-!
# Valid values

The rule of validity of each field, said without the complaint that a value draws.

Main statements:
* `complaint?_eq_none_iff`: exactly the valid values draw no complaint.
* `isValid_default`: every default is valid.
-/

namespace TracerConfig.Field

/-- The rule of validity. A collector has an address that is not blank, a service key is empty
or well-formed, a word is a recognized one, numbers are in range, and a list of filters can be
compiled. There is no rule for the other fields. -/
def IsValid : (f : Field) → f.Value → Prop
  | collector, s => ∃ c ∈ String.toList s, Text.isBlank c = false
  | serviceKey, s => s = "" ∨ ServiceKey.WellFormed s
  | reporterType, t => ∃ r : Reporter, t = Token.known r
  | tracingMode, t => ∃ m : TracingMode, t = Token.known m
  | debugLevel, t => ∃ l : Log.Threshold, t = Token.known l
  | sampleRate, (n : Int) => 0 ≤ n ∧ n ≤ 1000000
  | precision, n => UInt32.toNat n ≤ 10
  | transactionSettings, specs => ∃ filters, Filter.compileAll specs = .ok filters
  | trustedPath, _ | collectorUdp, _ | hostAlias, _ | reporter _, _ | prependDomain, _
  | skipVerify, _ | disabled, _ => True

theorem wordComplaint?_eq_none_iff {α : Type} [Spelled α] {t : Token α} :
    wordComplaint? t = none ↔ ∃ a, t = .known a := by
  cases t <;> simp [wordComplaint?]

theorem addressComplaint?_eq_none_iff {s : String} :
    addressComplaint? s = none ↔ ∃ c ∈ s.toList, Text.isBlank c = false := by
  rw [← Text.allBlank_eq_false_iff, addressComplaint?]
  cases Text.allBlank s <;> simp

theorem keyComplaint?_eq_none_iff {s : String} :
    keyComplaint? s = none ↔ s = "" ∨ ServiceKey.WellFormed s := by
  rw [← ServiceKey.isValid_iff, keyComplaint?]
  by_cases he : s = "" <;> cases ServiceKey.isValid s <;> simp [he]

theorem rateComplaint?_eq_none_iff {n : Int} :
    rateComplaint? n = none ↔ 0 ≤ n ∧ n ≤ 1000000 := by
  rw [rateComplaint?, maxSampleRate]
  split <;> simp_all

theorem precisionComplaint?_eq_none_iff {n : UInt32} :
    precisionComplaint? n = none ↔ n.toNat ≤ 10 := by
  have hle : n ≤ maxPrecision ↔ n.toNat ≤ 10 := UInt32.le_iff_toNat_le
  rw [precisionComplaint?, ← hle]
  split <;> simp_all

theorem filtersComplaint?_eq_none_iff {specs : List Filter.Spec} :
    filtersComplaint? specs = none ↔ ∃ filters, Filter.compileAll specs = .ok filters := by
  rw [filtersComplaint?]
  cases Filter.compileAll specs <;> simp

/-- Exactly the valid values draw no complaint. -/
theorem complaint?_eq_none_iff {f : Field} {v : f.Value} :
    f.complaint? v = none ↔ f.IsValid v := by
  cases f with
  | collector => exact addressComplaint?_eq_none_iff
  | serviceKey => exact keyComplaint?_eq_none_iff
  | reporterType => exact wordComplaint?_eq_none_iff
  | tracingMode => exact wordComplaint?_eq_none_iff
  | debugLevel => exact wordComplaint?_eq_none_iff
  | sampleRate => exact rateComplaint?_eq_none_iff
  | precision => exact precisionComplaint?_eq_none_iff
  | transactionSettings => exact filtersComplaint?_eq_none_iff
  | _ => exact iff_of_true rfl trivial

instance (f : Field) (v : f.Value) : Decidable (f.IsValid v) :=
  decidable_of_iff (f.complaint? v = none) complaint?_eq_none_iff

/-- Every default is valid. -/
theorem isValid_default (f : Field) : f.IsValid f.default := by
  rw [← complaint?_eq_none_iff]
  cases f with
  | collector => decide +kernel
  | _ => rfl

end TracerConfig.Field
