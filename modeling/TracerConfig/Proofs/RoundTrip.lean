import TracerConfig.Proofs.Integer
import TracerConfig.Proofs.Validity

/-!
# Rendered values are read back

Main statements:
* `read_render`: the text of a valid value is read back as that value.
* `eq_default_of_render_eq_empty`: only a default is rendered as the empty text.
-/

namespace TracerConfig

/-! ## Words -/

theorem Reporter.spelling_ne_empty (r : Reporter) : r.spelling ≠ "" := by
  cases r <;> decide

theorem TracingMode.spelling_ne_empty (m : TracingMode) : m.spelling ≠ "" := by
  cases m <;> decide

theorem Log.Threshold.spelling_ne_empty (l : Log.Threshold) : l.spelling ≠ "" := by
  cases l <;> decide

/-! ## Values -/

namespace Field

/-- A service key has to be normalized; all other values may be any. -/
def IsNormal : (f : Field) → f.Value → Prop
  | serviceKey, s => ServiceKey.normalize s = s
  | _, _ => True

theorem readFlag_renderFlag (b : Bool) : readFlag (renderFlag b) = .ok b := by
  cases b <;> rfl

theorem renderFlag_ne_empty (b : Bool) : renderFlag b ≠ "" := by
  cases b <;> decide

/-- The text of a valid value is read back, but for lists of filters. -/
theorem read_render {f : Field} {v : f.Value} (hf : f ≠ transactionSettings)
    (hv : f.IsValid v) (hn : f.IsNormal v) : f.read (f.render v) = .ok v := by
  cases f with
  | collector | trustedPath | collectorUdp | hostAlias => rfl
  | serviceKey => exact congrArg Except.ok hn
  | reporterType =>
    obtain ⟨r, rfl⟩ := hv
    exact congrArg Except.ok (Token.read_render_known r)
  | tracingMode =>
    obtain ⟨m, rfl⟩ := hv
    exact congrArg Except.ok (Token.read_render_known m)
  | debugLevel =>
    obtain ⟨l, rfl⟩ := hv
    exact congrArg Except.ok (Token.read_render_known l)
  | sampleRate =>
    obtain ⟨hlow, hhigh⟩ := hv
    have hread : Integer.readSigned (Nat.pow 2 63 - 1) (Int.repr v).toList = .ok v :=
      Integer.readSigned_repr_of_nonneg hlow (Int.le_trans hhigh (by decide))
    exact congrArg (·.mapError (·.message)) hread
  | precision =>
    have hread : Integer.readNatural (Nat.pow 2 32 - 1) (Nat.repr (UInt32.toNat v)).toList =
        .ok (UInt32.toNat v) :=
      Integer.readNatural_repr (Nat.le_sub_one_of_lt (UInt32.toNat_lt v))
    have hvalue : UInt32.ofNat (UInt32.toNat v) = v := UInt32.ofNat_toNat
    simp only [read, render, hread, Except.map, Except.mapError, hvalue]
  | reporter s =>
    have hread : Integer.readNatural (Nat.pow 2 64 - 1) (Nat.repr (UInt64.toNat v)).toList =
        .ok (UInt64.toNat v) :=
      Integer.readNatural_repr (Nat.le_sub_one_of_lt (UInt64.toNat_lt v))
    have hvalue : UInt64.ofNat (UInt64.toNat v) = v := UInt64.ofNat_toNat
    simp only [read, render, hread, Except.map, Except.mapError, hvalue]
  | prependDomain | skipVerify | disabled => exact readFlag_renderFlag v
  | transactionSettings => exact absurd rfl hf

/-- Only a default is rendered as the empty text. -/
theorem eq_default_of_render_eq_empty {f : Field} {v : f.Value} (hf : f ≠ transactionSettings)
    (hv : f.IsValid v) (h : f.render v = "") : v = f.default := by
  cases f with
  | collector =>
    -- the empty text is no address
    obtain ⟨c, hc, _⟩ := hv
    rw [show v = "" from h] at hc
    cases hc
  | serviceKey | trustedPath | collectorUdp | hostAlias => exact h
  | reporterType =>
    obtain ⟨r, rfl⟩ := hv
    exact absurd h r.spelling_ne_empty
  | tracingMode =>
    obtain ⟨m, rfl⟩ := hv
    exact absurd h m.spelling_ne_empty
  | debugLevel =>
    obtain ⟨l, rfl⟩ := hv
    exact absurd h l.spelling_ne_empty
  | sampleRate =>
    obtain ⟨m, rfl⟩ := Int.eq_ofNat_of_zero_le hv.1
    exact absurd h Nat.repr_ne_empty
  | precision => exact absurd h Nat.repr_ne_empty
  | reporter s => exact absurd h Nat.repr_ne_empty
  | prependDomain | skipVerify | disabled => exact absurd h (renderFlag_ne_empty v)
  | transactionSettings => exact absurd rfl hf

end Field

end TracerConfig
