import TracerConfig.Proofs.Filter
import TracerConfig.Proofs.Published

/-!
# What every published configuration guarantees

Code that uses a configuration does not check it again. The values in force are valid, the typed
views of them never have to fall back to a default, and the filters are those of the
specifications.

Main statements:
* `Config.Sound`: the guarantees. `Config.Published.sound`: every published configuration gives
  them.
-/

namespace TracerConfig.Config

/-- The report has a single entry for a field, and this is its text. -/
def Reports (c : Config) (f : Field) (text : String) : Prop :=
  ((c.entries.filter fun e => e.field = f).map fun e => e.value) = [text]

/-- The guarantees of a configuration. -/
structure Sound (c : Config) : Prop where
  /-- There is an address to send to. -/
  collector : ∃ x ∈ c.collector.toList, Text.isBlank x = false
  /-- The key is missing, or it is complete and normalized. -/
  serviceKey : c.serviceKey = "" ∨
    ∃ token name : List Char,
      c.serviceKey.toList = token ++ ':' :: name ∧ token.length = 64 ∧
        (∀ x ∈ token, ServiceKey.isHexDigit x = true) ∧ 1 ≤ name.length ∧ name.length ≤ 255 ∧
        ∀ x ∈ name, ServiceKey.isNameChar x = true
  precision : c.precision.toNat ≤ 10
  sampleRate : c.sampleRate ≤ 1000000
  /-- The typed views show what is reported. -/
  reports_sampleRate : c.Reports .sampleRate (Nat.repr c.sampleRate)
  reports_reporterType : c.Reports .reporterType c.reporterType.spelling
  reports_tracingMode : c.Reports .tracingMode c.tracingMode.spelling
  reports_debugLevel : c.Reports .debugLevel c.debugLevel.spelling
  /-- There is one filter for each specification, in order, and of its mode. -/
  filters : List.Forall₂
    (fun s f => Filter.compile s = .ok f ∧ TracingMode.readCanonical? s.tracing = some f.mode)
    (c.settings.value .transactionSettings) c.filters

theorem reports_iff {c : Config} {f : Field} {text : String} :
    c.Reports f text ↔ c.rendered f = text := by
  rw [Reports, filter_entries, List.map_singleton, List.singleton_inj]

/-- A recognized word is reported as the typed view spells it. -/
theorem render_eq_spelling_known {α : Type} [Inhabited α] [Spelled α] {t : Token α}
    (h : ∃ a, t = .known a) : t.render = Spelled.spelling (known t) := by
  obtain ⟨a, rfl⟩ := h
  rfl

/-- A valid rate is one that the typed view can show. -/
theorem sampleRate_eq {c : Config} (h : Field.sampleRate.IsValid (c.settings.value .sampleRate)) :
    c.settings.value .sampleRate = (c.sampleRate : Int) ∧ c.sampleRate ≤ 1000000 := by
  obtain ⟨rate, hrate⟩ : ∃ rate : Int, c.settings.value .sampleRate = rate := ⟨_, rfl⟩
  rw [hrate] at h ⊢
  obtain ⟨hlow, hhigh⟩ : 0 ≤ rate ∧ rate ≤ 1000000 := h
  have hview : c.sampleRate = rate.toNat := by
    rw [Config.sampleRate, hrate]
    exact if_pos ⟨hlow, Int.lt_of_le_of_lt hhigh (by decide)⟩
  rw [hview]
  exact ⟨(Int.toNat_of_nonneg hlow).symm, by omega⟩

namespace Published

variable {c : Config} (h : c.Published)
include h

theorem compiled : c.Compiled := by
  obtain ⟨s, os, rfl⟩ := h.exists_resolve
  rw [resolve_eq]
  exact compiled_validate (hasDefaults_resolving s os)

theorem serviceKey_parts : c.serviceKey = "" ∨
    ∃ token name : List Char,
      c.serviceKey.toList = token ++ ':' :: name ∧ token.length = 64 ∧
        (∀ x ∈ token, ServiceKey.isHexDigit x = true) ∧ 1 ≤ name.length ∧ name.length ≤ 255 ∧
        ∀ x ∈ name, ServiceKey.isNameChar x = true := by
  have hvalid : c.serviceKey = "" ∨ ServiceKey.WellFormed c.serviceKey := h.isValid .serviceKey
  rcases hvalid with hempty | hwell
  · exact .inl hempty
  · obtain ⟨token, name, hkey, hlen, hhex, hne, hmax, hname⟩ :=
      hwell.exists_name (h.isNormal .serviceKey)
    exact .inr ⟨token, name, hkey, hlen, hhex, List.length_pos_iff.mpr hne, hmax, hname⟩

/-- Every configuration that an application can get hold of gives all guarantees. -/
theorem sound : c.Sound where
  collector := h.isValid .collector
  serviceKey := h.serviceKey_parts
  precision := h.isValid .precision
  sampleRate := (sampleRate_eq (h.isValid .sampleRate)).2
  reports_sampleRate := by
    rw [reports_iff, rendered]
    exact congrArg Int.repr (sampleRate_eq (h.isValid .sampleRate)).1
  reports_reporterType :=
    reports_iff.mpr (render_eq_spelling_known (α := Reporter) (h.isValid .reporterType))
  reports_tracingMode :=
    reports_iff.mpr (render_eq_spelling_known (α := TracingMode) (h.isValid .tracingMode))
  reports_debugLevel :=
    reports_iff.mpr (render_eq_spelling_known (α := Log.Threshold) (h.isValid .debugLevel))
  filters := (Filter.compileAll_eq_ok_iff.mp h.compiled).imp fun _ _ hs =>
    ⟨hs, Filter.mode_of_compile hs⟩

end Published

/-- A source of the highest origin with an empty text for every field but the filters. -/
def emptied : Surroundings where
  source := .ofPaths .code fun path =>
    if path = "TransactionSettings" then
      some "[\x7bType: url, RegEx: '', Extensions: [.css], Tracing: ' disabled '\x7d]"
    else some ""
  files := File.Tree.empty

theorem sound_emptied :
    ((Handle.create contested []).reload emptied).current.Published ∧
    ((Handle.create contested []).reload emptied).current.Sound ∧
    ((Handle.create contested []).reload emptied).current.discarded.map (·.field) =
      [.collector, .reporterType, .tracingMode, .debugLevel] ∧
    ((Handle.create contested []).reload emptied).current.filters.map (·.mode) = [.disabled] := by
  have h : ((Handle.create contested []).reload emptied).current.Published :=
    .current (.reload _ (.create _ _))
  exact ⟨h, h.sound, by decide +kernel, by decide +kernel⟩

end TracerConfig.Config
