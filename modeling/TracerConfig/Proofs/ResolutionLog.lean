import TracerConfig.Agent
import TracerConfig.Proofs.Precedence

/-!
# What a resolution logs

A resolution accounts for all that it does not use: a configuration file that cannot be used, the
texts that were passed over, the values that were dropped. So a field for which something was
given never falls back to its default in silence.

Main statements:
* `mergeLog_sources`, `resolveLog_eq_dueLog`: what is logged is what is due.
* `exists_warning`: a field that something was given for is not back at its default without a
  warning.
* `recorded_resolution`: this is what making a handle records, and what a reload records.
-/

namespace TracerConfig

/-! ## What is due -/

/-- What is wrong with the configuration file that the source names. -/
def Surroundings.fileError? (s : Surroundings) : Option File.LoadError :=
  (s.source.lookup .configFile).bind fun path =>
    match File.Layer.load s.files path with
    | .error e => some e
    | .ok _ => none

/-- The texts for a field that cannot be read, up to the first one that can. -/
def Surroundings.passedOver (s : Surroundings) (f : Field) : List Rejected :=
  ((s.texts f).takeWhile fun t => (Reading.reject? f.read t).isSome).filterMap
    (Reading.reject? f.read)

/-- The order in which the fields are merged. -/
def Field.mergeOrder : List Field :=
  [tracingMode, sampleRate] ++ all.filter fun f => f ≠ tracingMode ∧ f ≠ sampleRate

/-- The records that a resolution owes: a warning for the configuration file if it cannot be
used, one for every text that was passed over, and one for every value that was dropped, and a
notice if there is a difference from the defaults. -/
def dueLog (s : Surroundings) (os : List Override) : List Log.Record :=
  let c := resolve s os
  let changes := (Delta.between .default c).sanitize
  (s.fileError?.map fun e => .warn ("Configuration: ignoring config file - " ++ e.message)).toList ++
    (Field.mergeOrder.flatMap fun f => (s.passedOver f).map (Settings.rejection f)) ++
    (c.discarded.map fun d => .warn d.message) ++
    if changes = [] then []
    else [.info ("Configuration: non-default values\n" ++ changes.render)]

/-- A record warns about what was given for a field. -/
def Log.Record.WarnsAbout (r : Log.Record) (f : Field) : Prop :=
  r.level = .warn ∧ ∃ rest,
    r.text = "Configuration: " ++ f.path ++ " - ignoring " ++ rest ∨
      r.text = "invalid env, discarded - " ++ f.path ++ ": " ++ rest

/-! ## What is logged -/

theorem fileLog_eq (s : Surroundings) :
    s.fileLog = (s.fileError?.map fun e =>
      Log.Record.warn ("Configuration: ignoring config file - " ++ e.message)).toList := by
  rw [Surroundings.fileLog, Surroundings.file?, Surroundings.fileError?]
  cases s.source.lookup .configFile with
  | none => rfl
  | some path =>
    simp only [Option.map_some, Option.bind_some]
    cases File.Layer.load s.files path <;> rfl

section

variable {s : Surroundings} (h : s.source.origin = .environment)
include h

theorem rejections_sources (f : Field) :
    Settings.rejections s.sources f = (s.passedOver f).map (Settings.rejection f) := by
  rw [Settings.rejections, Settings.reading, Reading.rejected_first, s.texts_sources, h]
  rfl

/-- Merging warns about every text that was passed over, and about nothing else. -/
theorem mergeLog_sources :
    Settings.mergeLog s.sources =
      Field.mergeOrder.flatMap fun f => (s.passedOver f).map (Settings.rejection f) := by
  have hrefusals : Settings.refusals s.sources = fun _ => [] := funext (refusals_eq_nil h)
  have hrejections : Settings.rejections s.sources =
      fun f => (s.passedOver f).map (Settings.rejection f) := funext (rejections_sources h)
  simp [Settings.mergeLog, Field.mergeOrder, hrefusals, hrejections]

theorem resolveLog_eq_dueLog (os : List Override) : resolveLog s os = dueLog s os := by
  have hbuild : (resolving s os).buildLog =
      (resolve s os).discarded.map fun d => Log.Record.warn d.message := rfl
  have hnotice : (resolve s os).changeLog =
      if (Delta.between .default (resolve s os)).sanitize = [] then []
      else [Log.Record.info ("Configuration: non-default values\n" ++
        (Delta.between .default (resolve s os)).sanitize.render)] := by
    simp only [Config.changeLog, Config.changes, List.isEmpty_iff]
  rw [resolveLog, Builder.startLog, fileLog_eq, mergeLog_sources h, hbuild, hnotice, dueLog]

end

/-! ## Nothing is ignored in silence -/

theorem warnsAbout_rejection (f : Field) (r : Rejected) : (Settings.rejection f r).WarnsAbout f := by
  refine ⟨rfl, r.origin.name ++ (" value " ++ Text.quoted r.text ++ ", expected " ++ f.expected ++
    ": " ++ r.cause), .inl ?_⟩
  simp only [Settings.rejection, Log.Record.warn, String.append_assoc]

theorem warnsAbout_message (d : Discarded) : (Log.Record.warn d.message).WarnsAbout d.field :=
  ⟨rfl, d.reason, .inr rfl⟩

theorem Field.mem_mergeOrder (f : Field) : f ∈ mergeOrder := by
  have h : ∀ f ∈ all, f ∈ mergeOrder := by decide +kernel
  exact h f (mem_all f)

/-- If there are texts for a field and none can be read, some text is passed over. -/
theorem passedOver_ne_nil {s : Surroundings} {f : Field} (hnone : s.given? f = none)
    (htexts : s.texts f ≠ []) : s.passedOver f ≠ [] := by
  obtain ⟨t, rest, hcons⟩ := List.exists_cons_of_ne_nil htexts
  have hread : (f.read t.1).toOption = none := by
    have h := List.findSome?_eq_none_iff.mp hnone t (hcons ▸ List.mem_cons_self)
    exact Option.map_eq_none_iff.mp h
  rw [Surroundings.passedOver, hcons]
  cases hr : f.read t.1 with
  | ok v =>
    rw [hr] at hread
    cases hread
  | error cause => simp [Reading.reject?, hr]

theorem supplied?_eq_none_iff {s : Surroundings} {os : List Override} {f : Field} :
    supplied? s os f = none ↔ (∀ o ∈ os, o.field ≠ f) ∧ s.given? f = none := by
  rw [← lastChoice?_eq_none_iff, supplied?]
  cases lastChoice? os f <;> simp

section

variable {s : Surroundings} (h : s.source.origin = .environment) {os : List Override} {f : Field}
  (hdefault : (resolve s os).settings.origin f = .default)
include h hdefault

/-- Something that was supplied and is not in force was dropped. -/
theorem exists_discarded {v : f.Value} {o : Origin} (hs : supplied? s os f = some (v, o)) :
    ∃ reason, ⟨f, reason⟩ ∈ (resolve s os).discarded := by
  have hforce := value_origin_resolving h os f
  rw [hs] at hforce
  obtain ⟨-, ho⟩ := Prod.mk.inj hforce
  have hinvalid : ¬ f.IsValid ((resolving s os).settings.value f) := by
    intro hv
    rw [Settings.origin, get_resolve, if_pos hv] at hdefault
    exact origin_ne_default_of_supplied hs (ho.symm.trans hdefault)
  obtain ⟨reason, hreason⟩ := Option.isSome_iff_exists.mp
    (Settings.isSome_complaint?_iff.mpr hinvalid)
  exact ⟨reason, Config.mem_discarded_validate_iff.mpr hreason⟩

/-- A field that is back at its default has a warning, if anything was given for it. -/
theorem exists_warning (hgiven : s.texts f ≠ [] ∨ ∃ o ∈ os, o.field = f) :
    ∃ r ∈ dueLog s os, r.WarnsAbout f := by
  cases hs : supplied? s os f with
  | some found =>
    obtain ⟨reason, hmem⟩ := exists_discarded h hdefault hs
    refine ⟨.warn (Discarded.message ⟨f, reason⟩), ?_, warnsAbout_message ⟨f, reason⟩⟩
    exact List.mem_append_left _ (List.mem_append_right _ (List.mem_map_of_mem hmem))
  | none =>
    -- nothing was chosen, so there are texts, and none of them can be read
    obtain ⟨hos, hnone⟩ := supplied?_eq_none_iff.mp hs
    have htexts : s.texts f ≠ [] := by
      refine hgiven.resolve_right ?_
      rintro ⟨o, ho, hf⟩
      exact hos o ho hf
    obtain ⟨r, hr⟩ := List.exists_mem_of_ne_nil _ (passedOver_ne_nil hnone htexts)
    refine ⟨Settings.rejection f r, ?_, warnsAbout_rejection f r⟩
    have hmem : Settings.rejection f r ∈
        Field.mergeOrder.flatMap fun f => (s.passedOver f).map (Settings.rejection f) :=
      List.mem_flatMap.mpr ⟨f, f.mem_mergeOrder, List.mem_map_of_mem hr⟩
    exact List.mem_append_left _ (List.mem_append_left _ (List.mem_append_right _ hmem))

end

/-! ## Handles -/

/-- Making a handle records what is due, and so does a reload, for the overrides of the handle.
Every field that is back at its default has a warning among these records, if anything was given
for it. -/
theorem recorded_resolution {s : Surroundings} (h : s.source.origin = .environment)
    (os : List Override) :
    (∀ a : Agent, (a.create s os).2.recorder.active = a.recorder.active ++ dueLog s os) ∧
    (∀ (a : Agent) (handle : Handle), a.handle = some handle → handle.overrides = os →
      (a.reloadHandle s).2.recorder.active = a.recorder.active ++ dueLog s os) ∧
    ∀ e ∈ (resolve s os).entries, e.origin = .default →
      s.texts e.field ≠ [] ∨ (∃ o ∈ os, o.field = e.field) →
      ∃ r ∈ dueLog s os, r.WarnsAbout e.field := by
  refine ⟨fun a => ?_, fun a handle ha hos => ?_, fun e he hdefault hgiven => ?_⟩
  · rw [← resolveLog_eq_dueLog h]
    exact a.active_logAll _
  · rw [← resolveLog_eq_dueLog h, ← hos, Agent.reloadHandle, Agent.ensure, ha]
    exact a.active_logAll _
  · obtain ⟨f, -, rfl⟩ := List.mem_map.mp he
    exact exists_warning h hdefault hgiven

/-- Two rates that cannot be read, a precision that hides one that cannot be read either, and a
mode that is unknown. -/
def refused : Surroundings where
  source := .ofEnvironment .environment fun name =>
    if name = "APPOPTICS_CONFIG_FILE" then some "agent.yaml"
    else if name = "APPOPTICS_SAMPLE_RATE" then some "fast"
    else if name = "APPOPTICS_TRACING_MODE" then some "sometimes"
    else if name = "APPOPTICS_HISTOGRAM_PRECISION" then some "4"
    else none
  files := File.Tree.empty.put "agent.yaml"
    (.file "Sampling: \x7bSampleRate: slow\x7d\nPrecision: many\nHostAlias: web-1".toUTF8)

theorem recorded_resolution_refused :
    refused.source.origin = .environment ∧
    ((({} : Agent).create refused []).2.reloadHandle refused).2.recorder.active =
      dueLog refused [] ++ dueLog refused [] ∧
    (∃ r ∈ dueLog refused [], r.WarnsAbout .sampleRate) ∧
    (Field.mergeOrder.flatMap refused.passedOver).map (fun r => (r.origin, r.text)) =
      [(.environment, "fast"), (.file, "slow")] ∧
    (resolve refused []).discarded.map (·.field) = [.tracingMode] ∧
    (dueLog refused []).map (·.level) = [.warn, .warn, .warn, .info] := by
  obtain ⟨hcreate, hreload, hwarned⟩ := recorded_resolution (s := refused) rfl []
  refine ⟨rfl, ?_, ?_, by decide +kernel, by decide +kernel, by decide +kernel⟩
  · rw [hreload (({} : Agent).create refused []).2 (Handle.create refused []) rfl rfl, hcreate {}]
    exact congrArg (· ++ dueLog refused []) (List.nil_append _)
  · exact hwarned ⟨.sampleRate, "1000000", .default⟩ (by decide +kernel) rfl
      (.inl (by decide +kernel))

end TracerConfig
