import TracerConfig.Proofs.Precedence

/-!
# Configuration files that cannot be used

A configuration file is used as a whole or not at all. It may fail by its name, when it is read,
as a document, by its root, or at a value that cannot be handed on when others have been laid out
already. Whichever it is, a resolution comes to what it comes to without a configuration file, and
a warning is all that is left of the file.

Main definitions:
* `File.Unusable`: the ways in which a file fails.
* `Source.withoutFile`: a source that names no configuration file.

Main statements:
* `File.Unusable.exists_load_iff`: these are all ways in which loading fails.
* `Settings.merge_congr`, `Settings.mergeLog_congr`, `resolving_congr`: sources count for what is
  read from them.
* `resolve_of_unusable`: an unusable file leaves nothing but its warning.
-/

namespace TracerConfig

/-! ## Ways to fail -/

namespace File

/-- The file at a path gives no layer. -/
inductive Unusable (files : Tree) (path : String) : Prop
  /-- Its name does not have the extension of a configuration file. -/
  | name : Path.isSupported path = false → Unusable files path
  /-- It is missing, or a directory, or holds no text. -/
  | content {cause : ReadError} : files.read path = .error cause → Unusable files path
  /-- Its text is no document. -/
  | document {text : String} {cause : Yaml.Error} : files.read path = .ok text →
      Yaml.Value.parse text = .error cause → Unusable files path
  /-- Its document is neither a mapping nor null. -/
  | root {text : String} {v : Yaml.Value} : files.read path = .ok text →
      Yaml.Value.parse text = .ok v → (∀ pairs, v ≠ .mapping pairs) → v ≠ .scalar .null →
      Unusable files path
  /-- One of its values cannot be handed on. -/
  | value {text : String} {pairs : List (Yaml.Value × Yaml.Value)} {cause : Yaml.Error} :
      files.read path = .ok text → Yaml.Value.parse text = .ok (.mapping pairs) →
      pairLeaves "" pairs = .error cause → Unusable files path

namespace Layer

/-- Only null and a mapping whose values can all be handed on are the root of a configuration. -/
theorem exists_ofValue_iff (v : Yaml.Value) :
    (∃ e, ofValue v = .error e) ↔
      ((∀ pairs, v ≠ .mapping pairs) ∧ v ≠ .scalar .null) ∨
        ∃ pairs cause, v = .mapping pairs ∧ pairLeaves "" pairs = .error cause := by
  cases v with
  | mapping pairs => cases h : pairLeaves "" pairs <;> simp [ofValue, h]
  | scalar x => cases x <;> simp [ofValue]
  | sequence items => simp [ofValue]
  | tagged tag v => simp [ofValue]

theorem exists_parse_iff (text : String) :
    (∃ e, parse text = .error e) ↔
      (∃ cause, Yaml.Value.parse text = .error cause) ∨
        ∃ v, Yaml.Value.parse text = .ok v ∧ ∃ e, ofValue v = .error e := by
  cases h : Yaml.Value.parse text <;> simp [parse, h]

/-- The name of a file is looked at first, then its content, and its text last. -/
theorem exists_load_iff (files : Tree) (path : String) :
    (∃ e, load files path = .error e) ↔
      Path.isSupported path = false ∨ (∃ cause, files.read path = .error cause) ∨
        ∃ text, files.read path = .ok text ∧ ∃ e, parse text = .error e := by
  cases hname : Path.isSupported path with
  | false => simp [load, hname]
  | true =>
    cases hread : files.read path with
    | error cause => simp [load, hname, hread]
    | ok text => cases hparse : parse text <;> simp [load, hname, hread, hparse]

end Layer

/-- These are all ways in which loading fails. -/
theorem Unusable.exists_load_iff {files : Tree} {path : String} :
    (∃ e, Layer.load files path = .error e) ↔ Unusable files path := by
  rw [Layer.exists_load_iff]
  constructor
  · rintro (hname | ⟨cause, hread⟩ | ⟨text, hread, hparse⟩)
    · exact .name hname
    · exact .content hread
    · rcases (Layer.exists_parse_iff text).mp hparse with ⟨cause, hdocument⟩ | ⟨v, hv, hvalue⟩
      · exact .document hread hdocument
      · rcases (Layer.exists_ofValue_iff v).mp hvalue with ⟨hmapping, hnull⟩ | ⟨_, _, rfl, hleaf⟩
        · exact .root hread hv hmapping hnull
        · exact .value hread hv hleaf
  · intro h
    cases h with
    | name hname => exact .inl hname
    | content hread => exact .inr (.inl ⟨_, hread⟩)
    | document hread hdocument =>
      exact .inr (.inr ⟨_, hread, (Layer.exists_parse_iff _).mpr (.inl ⟨_, hdocument⟩)⟩)
    | root hread hv hmapping hnull =>
      have hvalue := (Layer.exists_ofValue_iff _).mpr (.inl ⟨hmapping, hnull⟩)
      exact .inr (.inr ⟨_, hread, (Layer.exists_parse_iff _).mpr (.inr ⟨_, hv, hvalue⟩)⟩)
    | value hread hv hleaf =>
      have hvalue := (Layer.exists_ofValue_iff _).mpr (.inr ⟨_, _, rfl, hleaf⟩)
      exact .inr (.inr ⟨_, hread, (Layer.exists_parse_iff _).mpr (.inr ⟨_, hv, hvalue⟩)⟩)

end File

/-! ## What is read from sources -/

namespace Settings

variable {sources sources' : List Source} (h : ∀ f, reading sources f = reading sources' f)
include h

theorem merge_congr : merge sources = merge sources' := by
  simp only [merge, h]

theorem mergeLog_congr : mergeLog sources = mergeLog sources' := by
  have hrejections : rejections sources = rejections sources' := by
    funext f
    rw [rejections, h, rejections]
  have hrefusals : refusals sources = refusals sources' := by
    funext f
    rw [refusals, h, refusals]
  rw [mergeLog, hrejections, hrefusals, mergeLog]

end Settings

/-- Resolutions differ by no more than what they read. -/
theorem resolving_congr {s s' : Surroundings}
    (h : ∀ f, Settings.reading s.sources f = Settings.reading s'.sources f) (os : List Override) :
    resolving s os = resolving s' os := by
  rw [resolving, resolving, Builder.start, Builder.start, Settings.merge_congr h]

/-! ## Without the file -/

/-- A source that names no configuration file. -/
def Source.withoutFile (s : Source) : Source where
  origin := s.origin
  lookup k := if k = .configFile then none else s.lookup k

namespace Surroundings

/-- Without a file, the source alone is asked. -/
theorem sources_withoutFile (s : Source) (files : File.Tree) :
    (Surroundings.mk s.withoutFile files).sources = [s.withoutFile] := rfl

theorem fileLog_withoutFile (s : Source) (files : File.Tree) :
    (Surroundings.mk s.withoutFile files).fileLog = [] := rfl

section

variable {s : Surroundings} {path : String} {e : File.LoadError}
  (hnamed : s.source.lookup .configFile = some path)
  (hload : File.Layer.load s.files path = .error e)
include hnamed hload

theorem file?_of_error : s.file? = some (.error e) := by
  rw [file?, hnamed, Option.map_some, hload]

theorem fileLog_of_error :
    s.fileLog = [.warn ("Configuration: ignoring config file - " ++ e.message)] := by
  rw [fileLog, file?_of_error hnamed hload]

/-- What is read is what is read without the file. -/
theorem reading_of_error (files : File.Tree) (f : Field) :
    Settings.reading s.sources f =
      Settings.reading (Surroundings.mk s.source.withoutFile files).sources f := by
  have hsources : s.sources = [s.source] := by
    rw [sources, file?_of_error hnamed hload]
  have htexts : Source.texts [s.source] (.setting f) =
      Source.texts [s.source.withoutFile] (.setting f) := rfl
  rw [hsources, sources_withoutFile]
  exact Reading.first_congr f.read htexts

end

end Surroundings

/-- A configuration file that cannot be used, in whatever way, leaves no trace but one warning in
front of all records: apart from that the resolution is the one of the same source without a
configuration file, whatever files there are. -/
theorem resolve_of_unusable {s : Surroundings} {path : String}
    (hnamed : s.source.lookup .configFile = some path) (hfile : File.Unusable s.files path)
    (os : List Override) (files : File.Tree) :
    resolve s os = resolve ⟨s.source.withoutFile, files⟩ os ∧
    ∃ e, File.Layer.load s.files path = .error e ∧
      resolveLog s os =
        .warn ("Configuration: ignoring config file - " ++ e.message) ::
          resolveLog ⟨s.source.withoutFile, files⟩ os := by
  obtain ⟨e, hload⟩ := File.Unusable.exists_load_iff.mpr hfile
  have hread := Surroundings.reading_of_error hnamed hload files
  have hresolving := resolving_congr hread os
  have hresolve : resolve s os = resolve ⟨s.source.withoutFile, files⟩ os := by
    rw [resolve, resolve, hresolving]
  refine ⟨hresolve, e, hload, ?_⟩
  rw [resolveLog, resolveLog, Builder.startLog, Builder.startLog, hresolve, hresolving,
    Settings.mergeLog_congr hread, Surroundings.fileLog_of_error hnamed hload,
    Surroundings.fileLog_withoutFile, List.nil_append, List.singleton_append, List.cons_append,
    List.cons_append]

/-- A configuration file that is fine down to its last line. -/
def torn : Surroundings where
  source := .ofEnvironment .environment fun name =>
    if name = "APPOPTICS_CONFIG_FILE" then some "agent.yaml"
    else if name = "APPOPTICS_SAMPLE_RATE" then some "fast"
    else if name = "APPOPTICS_HOSTNAME_ALIAS" then some "env"
    else none
  files := File.Tree.empty.put "agent.yaml"
    (.file "Collector: c:1\nDisabled: true\nSampling: \x7bSampleRate: 5\x7d\nPrecision: [".toUTF8)

theorem resolve_of_unusable_torn :
    torn.source.lookup .configFile = some "agent.yaml" ∧
    File.Unusable torn.files "agent.yaml" ∧
    resolve torn [⟨.precision, (11 : UInt32)⟩] =
      resolve ⟨torn.source.withoutFile, File.Tree.empty⟩ [⟨.precision, (11 : UInt32)⟩] ∧
    ((resolve torn [⟨.precision, (11 : UInt32)⟩]).entries.filter fun e => e.origin ≠ .default) =
      [⟨.hostAlias, "env", .environment⟩] ∧
    (resolveLog torn [⟨.precision, (11 : UInt32)⟩]).map (·.level) =
      [.warn, .warn, .warn, .info] ∧
    (resolveLog ⟨torn.source.withoutFile, File.Tree.empty⟩
        [⟨.precision, (11 : UInt32)⟩]).map (·.level) = [.warn, .warn, .info] := by
  have hnamed : torn.source.lookup .configFile = some "agent.yaml" := by decide +kernel
  have hload : File.Layer.load torn.files "agent.yaml" =
      .error (.unusable "agent.yaml" (.malformed (Yaml.Node.missingContent false))) := by decide +kernel
  have hfile : File.Unusable torn.files "agent.yaml" :=
    File.Unusable.exists_load_iff.mp ⟨_, hload⟩
  exact ⟨hnamed, hfile, (resolve_of_unusable hnamed hfile _ _).1, by decide +kernel,
    by decide +kernel, by decide +kernel⟩

end TracerConfig
