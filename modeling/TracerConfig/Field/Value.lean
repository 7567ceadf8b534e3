import TracerConfig.Field
import TracerConfig.Filter.Compiled
import TracerConfig.Filter.Document
import TracerConfig.Log.Level
import TracerConfig.Number.Integer
import TracerConfig.Reporter
import TracerConfig.ServiceKey

/-!
# Values of fields

Every field has a type of values, a default, a way to read a value from text and to write it,
and a rule that says which values are valid. A value that was read need not be valid.

Main definitions:
* `Field.Value`: the type of a field's values.
* `Field.read`, `Field.render`: from text and to text.
* `Field.complaint?`: what is wrong with a value.
* `Field.Choice`: what the application may set a field to.
-/

namespace TracerConfig.Field

/-! ## Types -/

/-- The type of a field's values. -/
def Value : Field → Type
  | collector | serviceKey | trustedPath | collectorUdp | hostAlias => String
  | reporterType => Token Reporter
  | tracingMode => Token TracingMode
  | debugLevel => Token Log.Threshold
  | sampleRate => Int
  | precision => UInt32
  | reporter _ => UInt64
  | prependDomain | skipVerify | disabled => Bool
  | transactionSettings => List Filter.Spec

instance (f : Field) : DecidableEq f.Value := by
  cases f <;> unfold Value <;> infer_instance

/-- The value without any source. -/
def default : (f : Field) → f.Value
  | collector => "collector.appoptics.com:443"
  | serviceKey | trustedPath | collectorUdp | hostAlias => ""
  | reporterType => Token.known Inhabited.default
  | tracingMode => Token.known Inhabited.default
  | debugLevel => Token.known Inhabited.default
  | sampleRate => (1000000 : Int)
  | precision => (2 : UInt32)
  | reporter s => s.default
  | prependDomain | skipVerify | disabled => false
  | transactionSettings => ([] : List Filter.Spec)

/-! ## Text -/

/-- A truth value, in any case and with blanks around it. -/
def readFlag (text : String) : Except String Bool :=
  let folded := foldWord text
  if folded = "true".toList then .ok true
  else if folded = "false".toList then .ok false
  else .error ("expected true or false, found " ++ Text.quoted text)

/-- Reads a value. Any text is a string or a word, so only numbers, truth values and filters can
be refused. -/
def read : (f : Field) → String → Except String f.Value
  | collector, text | trustedPath, text | collectorUdp, text | hostAlias, text => .ok text
  | serviceKey, text => .ok (ServiceKey.normalize text)
  | reporterType, text => .ok (Token.read text : Token Reporter)
  | tracingMode, text => .ok (Token.read text : Token TracingMode)
  | debugLevel, text => .ok (Token.read text : Token Log.Threshold)
  | sampleRate, text => (Integer.readSigned (Nat.pow 2 63 - 1) text.toList).mapError (·.message)
  | precision, text =>
    ((Integer.readNatural (Nat.pow 2 32 - 1) text.toList).map UInt32.ofNat).mapError (·.message)
  | reporter _, text =>
    ((Integer.readNatural (Nat.pow 2 64 - 1) text.toList).map UInt64.ofNat).mapError (·.message)
  | prependDomain, text | skipVerify, text | disabled, text => readFlag text
  | transactionSettings, text => (Filter.Spec.readAll text).mapError (·.message)

/-- What a text was expected to be. -/
def expected : Field → String
  | collector | serviceKey | trustedPath | collectorUdp | hostAlias => "a string"
  | reporterType | tracingMode | debugLevel => "a word"
  | sampleRate => "i64"
  | precision => "u32"
  | reporter _ => "u64"
  | prependDomain | skipVerify | disabled =>
    "appoptics_config::configuration::configuration::Flag"
  | transactionSettings =>
    "appoptics_config::configuration::transaction_filter::TransactionSettings"

/-- A truth value as text. -/
def renderFlag (b : Bool) : String := if b then "true" else "false"

/-- The text of a value. -/
def render : (f : Field) → f.Value → String
  | collector, s | serviceKey, s | trustedPath, s | collectorUdp, s | hostAlias, s => s
  | reporterType, t => Token.render (α := Reporter) t
  | tracingMode, t => Token.render (α := TracingMode) t
  | debugLevel, t => Token.render (α := Log.Threshold) t
  | sampleRate, n => Int.repr n
  | precision, n => Nat.repr (UInt32.toNat n)
  | reporter _, n => Nat.repr (UInt64.toNat n)
  | prependDomain, b | skipVerify, b | disabled, b => renderFlag b
  | transactionSettings, specs => Filter.Spec.renderAll specs

/-! ## Validity -/

/-- The highest sample rate, in parts per million. -/
def maxSampleRate : Int := 1000000

/-- The highest precision. -/
def maxPrecision : UInt32 := 10

/-- The complaint about a word that is not recognized. -/
def wordComplaint? {α : Type} [Spelled α] : Token α → Option String
  | .known _ => none
  | .unknown word => some (Spelled.complaint α word)

/-- The complaint about a collector address. -/
def addressComplaint? (s : String) : Option String :=
  if Text.allBlank s then some "collector address is empty" else none

/-- The complaint about a service key. An empty key is valid: it leaves the agent without
one. -/
def keyComplaint? (s : String) : Option String :=
  if s.isEmpty || ServiceKey.isValid s then none
  else some "expected a 64 hex digits token and a service name, as <token>:<name>"

/-- The complaint about a sample rate. -/
def rateComplaint? (n : Int) : Option String :=
  if 0 ≤ n ∧ n ≤ maxSampleRate then none
  else some (Int.repr n ++ " is out of range [0, " ++ Int.repr maxSampleRate ++ "]")

/-- The complaint about a precision. -/
def precisionComplaint? (n : UInt32) : Option String :=
  if n ≤ maxPrecision then none
  else
    some (Nat.repr n.toNat ++ " is out of range [0, " ++ Nat.repr maxPrecision.toNat ++ "]")

/-- The complaint about a list of filters. -/
def filtersComplaint? (specs : List Filter.Spec) : Option String :=
  match Filter.compileAll specs with
  | .ok _ => none
  | .error e => some e.message

/-- What is wrong with a value, if it is not valid. -/
def complaint? : (f : Field) → f.Value → Option String
  | collector, s => addressComplaint? s
  | serviceKey, s => keyComplaint? s
  | reporterType, t => wordComplaint? (α := Reporter) t
  | tracingMode, t => wordComplaint? (α := TracingMode) t
  | debugLevel, t => wordComplaint? (α := Log.Threshold) t
  | sampleRate, n => rateComplaint? n
  | precision, n => precisionComplaint? n
  | transactionSettings, specs => filtersComplaint? specs
  | trustedPath, _ | collectorUdp, _ | hostAlias, _ | reporter _, _ | prependDomain, _
  | skipVerify, _ | disabled, _ => none

/-! ## Choices of the application -/

/-- What the application may set a field to. Words are always recognized ones. -/
def Choice : Field → Type
  | reporterType => Reporter
  | tracingMode => TracingMode
  | debugLevel => Log.Threshold
  | f => f.Value

/-- The value that a choice stands for. -/
def ofChoice : (f : Field) → f.Choice → f.Value
  | reporterType, r => Token.known (α := Reporter) r
  | tracingMode, m => Token.known (α := TracingMode) m
  | debugLevel, t => Token.known (α := Log.Threshold) t
  | serviceKey, s => ServiceKey.normalize s
  | collector, s | trustedPath, s | collectorUdp, s | hostAlias, s => s
  | sampleRate, n => n
  | precision, n => n
  | reporter _, n => n
  | prependDomain, b | skipVerify, b | disabled, b => b
  | transactionSettings, specs => specs

end TracerConfig.Field
