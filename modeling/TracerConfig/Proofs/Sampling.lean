import TracerConfig.Proofs.Guarantees
import TracerConfig.Proofs.Independence
import TracerConfig.Proofs.Integer

/-!
# Local sampling

The sampling settings of the collector are deferred to unless there are local ones, and whether
there are is read off the origins of the tracing mode and of the sample rate. The two have
different rules. Any text supplies a tracing mode, even if it turns out to be an unknown word; a
sample rate is supplied by the first text that is an integer, even if it turns out to be out of
range.

Main definitions:
* `SuppliesMode`, `SuppliesRate`: what surroundings and overrides supply, said of the layers.
* `LocalSampling`: a configuration has the supplied values, and says so.

Main statement:
* `localSampling_resolve`: every resolution does, and either setting is on its own.
-/

namespace TracerConfig

/-! ## Words and numbers -/

namespace TracingMode

/-- The words of the modes. -/
def words : List (String × TracingMode) :=
  [("enabled", enabled), ("always", enabled), ("disabled", disabled), ("never", disabled)]

/-- A text names a mode: it is a word of the mode in any case, with blanks around it. -/
def Names (text : String) (m : TracingMode) : Prop :=
  ∃ word core, (word, m) ∈ words ∧ Text.Padded text.toList core ∧
    Text.asciiLower core = word.toList

end TracingMode

/-- A text folds to a trimmed word if it is that word in some case, with blanks around it. -/
theorem foldWord_eq_iff {text : String} {word : List Char} (h : Text.Trimmed word) :
    foldWord text = word ↔ ∃ core, Text.Padded text.toList core ∧ Text.asciiLower core = word := by
  unfold foldWord
  constructor
  · intro hfold
    exact ⟨Text.trim text.toList, (Text.trim_eq_iff.mp rfl).2, hfold⟩
  · rintro ⟨core, hpadded, rfl⟩
    rw [Text.trim_eq_iff.mpr ⟨Text.trimmed_asciiLower_iff.mp h, hpadded⟩]

namespace TracingMode

theorem trimmed_words : ∀ p ∈ words, Text.Trimmed p.1.toList := by decide +kernel

theorem names_iff {text : String} {m : TracingMode} :
    Names text m ↔ ∃ word, (word, m) ∈ words ∧ foldWord text = word.toList := by
  constructor
  · rintro ⟨word, core, hword, hcore⟩
    exact ⟨word, hword, (foldWord_eq_iff (trimmed_words _ hword)).mpr ⟨core, hcore⟩⟩
  · rintro ⟨word, hword, hfold⟩
    obtain ⟨core, hcore⟩ := (foldWord_eq_iff (trimmed_words _ hword)).mp hfold
    exact ⟨word, core, hword, hcore⟩

/-- A text is read as the mode that it names. -/
theorem read?_eq_some_iff {text : String} {m : TracingMode} :
    read? text = some m ↔ Names text m := by
  rw [names_iff]
  constructor
  · intro h
    unfold read? at h
    simp only [Bool.or_eq_true, decide_eq_true_eq] at h
    split_ifs at h with hon hoff
    · cases h
      rcases hon with hfold | hfold
      · exact ⟨"enabled", by decide, hfold⟩
      · exact ⟨"always", by decide, hfold⟩
    · cases h
      rcases hoff with hfold | hfold
      · exact ⟨"disabled", by decide, hfold⟩
      · exact ⟨"never", by decide, hfold⟩
  · rintro ⟨word, hword, hfold⟩
    have hread : ∀ p ∈ words, ∀ t, foldWord t = p.1.toList → read? t = some p.2 := by
      simp +contextual [words, read?]
    exact hread _ hword text hfold

end TracingMode

/-- A text is a rate: an integer of 64 bits in decimal. -/
def IsRate (text : String) (n : Int) : Prop :=
  Integer.Numeral text.toList n ∧ -9223372036854775808 ≤ n ∧ n ≤ 9223372036854775807

theorem mapError_eq_ok_iff {ε ε' α : Type} {x : Except ε α} {f : ε → ε'} {a : α} :
    x.mapError f = .ok a ↔ x = .ok a := by
  cases x <;> simp [Except.mapError]

theorem read_sampleRate_eq_ok_iff {text : String} {n : Int} :
    Field.sampleRate.read text = .ok n ↔ IsRate text n := by
  unfold Field.read
  exact mapError_eq_ok_iff.trans Integer.readSigned_eq_ok_iff

theorem Token.read_eq_known_iff {α : Type} [Spelled α] {word : String} {a : α} :
    Token.read word = .known a ↔ Spelled.read? word = some a := by
  unfold Token.read
  cases Spelled.read? (α := α) word <;> simp

theorem read_tracingMode_eq_ok_iff {text : String} {m : TracingMode} :
    Field.tracingMode.read text = .ok (Token.known m) ↔ TracingMode.Names text m := by
  have hread : (Token.read text : Token TracingMode) = .known m ↔ TracingMode.Names text m :=
    Token.read_eq_known_iff.trans TracingMode.read?_eq_some_iff
  constructor
  · intro h
    exact hread.mp (Except.ok.inj h)
  · intro h
    exact congrArg Except.ok (hread.mpr h)

/-! ## What is supplied -/

section

variable (s : Surroundings) (os : List Override)

/-- A tracing mode is supplied: by the application, or else by the first text there is, if it is
a word of the mode. A text that is no such word hides the ones behind it. -/
inductive SuppliesMode : TracingMode → Prop
  | choice {m : TracingMode} : lastChoice? os .tracingMode = some m → SuppliesMode m
  | text {t : String × Origin} {rest : List (String × Origin)} {m : TracingMode} :
      lastChoice? os .tracingMode = none → s.texts .tracingMode = t :: rest →
      TracingMode.Names t.1 m → SuppliesMode m

/-- A sample rate is supplied: by the application, or else by the first text that is an integer,
in range or not. -/
inductive SuppliesRate : Int → Prop
  | choice {n : Int} : lastChoice? os .sampleRate = some n → SuppliesRate n
  | text {passed rest : List (String × Origin)} {t : String × Origin} {n : Int} :
      lastChoice? os .sampleRate = none → s.texts .sampleRate = passed ++ t :: rest →
      (∀ p ∈ passed, ∀ k, ¬ IsRate p.1 k) → IsRate t.1 n → SuppliesRate n

/-- A configuration samples as it was told locally, and knows whether it was told. -/
structure LocalSampling (c : Config) : Prop where
  /-- A mode counts if it is known. -/
  mode_iff : c.tracingModeConfigured = true ↔ ∃ m, SuppliesMode s os m
  /-- A rate counts if it is in range. -/
  rate_iff : c.sampleRateConfigured = true ↔ ∃ n, SuppliesRate s os n ∧ 0 ≤ n ∧ n ≤ 1000000
  /-- Either one puts the local settings before those of the collector. -/
  either_iff : c.samplingConfigured = true ↔
    c.tracingModeConfigured = true ∨ c.sampleRateConfigured = true
  /-- What counts is in force, be it a default or not. -/
  mode_eq : ∀ m, SuppliesMode s os m → c.tracingMode = m
  rate_eq : ∀ n, SuppliesRate s os n → 0 ≤ n → n ≤ 1000000 → (c.sampleRate : Int) = n
  /-- Without it the default is. -/
  mode_default : c.tracingModeConfigured = false → c.tracingMode = .enabled
  rate_default : c.sampleRateConfigured = false → c.sampleRate = 1000000

end

section

variable {s : Surroundings} {os : List Override}

/-- Any text can be read as a word, so the first one decides. -/
theorem exists_supplied_mode_iff {m : TracingMode} :
    (∃ o, supplied? s os .tracingMode = some (Token.known m, o)) ↔ SuppliesMode s os m := by
  refine exists_supplied_iff.trans ⟨?_, ?_⟩
  · rintro (⟨c, hc, hm⟩ | ⟨hc, passed, t, rest, htexts, hread, hpassed⟩)
    · cases hm
      exact .choice hc
    · cases passed with
      | nil => exact .text hc htexts (read_tracingMode_eq_ok_iff.mp hread)
      | cons p front =>
        obtain ⟨w, hw⟩ := Field.exists_read_eq_ok (f := .tracingMode) rfl p.1
        exact absurd hw (hpassed p (List.mem_cons_self ..) w)
  · rintro (hc | ⟨hc, htexts, hnames⟩)
    · exact .inl ⟨m, hc, rfl⟩
    · refine .inr ⟨hc, [], _, _, htexts, read_tracingMode_eq_ok_iff.mpr hnames, ?_⟩
      intro p hp
      cases hp

/-- Texts that are no integers are passed over. -/
theorem exists_supplied_rate_iff {n : Int} :
    (∃ o, supplied? s os .sampleRate = some (n, o)) ↔ SuppliesRate s os n := by
  refine exists_supplied_iff.trans ⟨?_, ?_⟩
  · rintro (⟨c, hc, hn⟩ | ⟨hc, passed, t, rest, htexts, hread, hpassed⟩)
    · cases hn
      exact .choice hc
    · refine .text hc htexts ?_ (read_sampleRate_eq_ok_iff.mp hread)
      intro p hp k hk
      exact hpassed p hp k (read_sampleRate_eq_ok_iff.mpr hk)
  · rintro (hc | ⟨hc, htexts, hpassed, hrate⟩)
    · exact .inl ⟨n, hc, rfl⟩
    · refine .inr ⟨hc, _, _, _, htexts, read_sampleRate_eq_ok_iff.mpr hrate, ?_⟩
      intro p hp k hk
      exact hpassed p hp k (read_sampleRate_eq_ok_iff.mp hk)

/-- A mode that is supplied is explicit, and so is a rate that is in range. -/
theorem isExplicit_mode_iff (h : s.source.origin = .environment) :
    (resolve s os).tracingModeConfigured = true ↔ ∃ m, SuppliesMode s os m := by
  unfold Config.tracingModeConfigured
  rw [isExplicit_resolve_iff h]
  constructor
  · rintro ⟨v, o, hs, m, rfl⟩
    exact ⟨m, exists_supplied_mode_iff.mp ⟨o, hs⟩⟩
  · rintro ⟨m, hm⟩
    obtain ⟨o, hs⟩ := exists_supplied_mode_iff.mpr hm
    exact ⟨Token.known m, o, hs, m, rfl⟩

theorem isExplicit_rate_iff (h : s.source.origin = .environment) :
    (resolve s os).sampleRateConfigured = true ↔
      ∃ n, SuppliesRate s os n ∧ 0 ≤ n ∧ n ≤ 1000000 := by
  unfold Config.sampleRateConfigured
  rw [isExplicit_resolve_iff h]
  constructor
  · rintro ⟨n, o, hs, hrange⟩
    exact ⟨n, exists_supplied_rate_iff.mp ⟨o, hs⟩, hrange⟩
  · rintro ⟨n, hn, hrange⟩
    obtain ⟨o, hs⟩ := exists_supplied_rate_iff.mpr hn
    exact ⟨n, o, hs, hrange⟩

theorem mode_resolve_of_supplied (h : s.source.origin = .environment) {m : TracingMode}
    (hm : SuppliesMode s os m) : (resolve s os).tracingMode = m := by
  obtain ⟨o, hs⟩ := exists_supplied_mode_iff.mpr hm
  unfold Config.tracingMode
  rw [value_resolve_of_supplied h hs ⟨m, rfl⟩]
  rfl

theorem mode_resolve_of_not_configured
    (h : (resolve s os).tracingModeConfigured = false) :
    (resolve s os).tracingMode = .enabled := by
  unfold Config.tracingMode
  rw [value_resolve_of_not_explicit (ne_true_of_eq_false h)]
  rfl

theorem rate_resolve_of_supplied (h : s.source.origin = .environment) {n : Int}
    (hn : SuppliesRate s os n) (hlow : 0 ≤ n) (hhigh : n ≤ 1000000) :
    ((resolve s os).sampleRate : Int) = n := by
  obtain ⟨o, hs⟩ := exists_supplied_rate_iff.mpr hn
  have hvalue := value_resolve_of_supplied h hs ⟨hlow, hhigh⟩
  have hview := Config.sampleRate_eq (c := resolve s os) (by rw [hvalue]; exact ⟨hlow, hhigh⟩)
  exact hview.1.symm.trans hvalue

theorem rate_resolve_of_not_configured
    (h : (resolve s os).sampleRateConfigured = false) :
    (resolve s os).sampleRate = 1000000 := by
  unfold Config.sampleRate
  rw [value_resolve_of_not_explicit (ne_true_of_eq_false h)]
  rfl

end

/-- In every resolution the tracing mode is the one that is supplied, if that is a known one, and
the sample rate is the one that is supplied, if that is in range. Each counts as configured just
then, and what is given for one of them is nothing to the other. -/
theorem localSampling_resolve {s : Surroundings} (h : s.source.origin = .environment)
    (os : List Override) :
    LocalSampling s os (resolve s os) ∧
    (∀ s' os', GivenAlike .tracingMode s s' os os' →
      (resolve s os).tracingModeConfigured = (resolve s' os').tracingModeConfigured ∧
        (resolve s os).tracingMode = (resolve s' os').tracingMode) ∧
    ∀ s' os', GivenAlike .sampleRate s s' os os' →
      (resolve s os).sampleRateConfigured = (resolve s' os').sampleRateConfigured ∧
        (resolve s os).sampleRate = (resolve s' os').sampleRate := by
  refine ⟨?_, ?_, ?_⟩
  · exact {
      mode_iff := isExplicit_mode_iff h
      rate_iff := isExplicit_rate_iff h
      either_iff := Bool.or_eq_true_iff
      mode_eq := fun m hm => mode_resolve_of_supplied h hm
      rate_eq := fun n hn hlow hhigh => rate_resolve_of_supplied h hn hlow hhigh
      mode_default := mode_resolve_of_not_configured
      rate_default := rate_resolve_of_not_configured }
  · intro s' os' halike
    unfold Config.tracingModeConfigured Config.tracingMode Settings.isExplicit Settings.value
    rw [halike.get_resolve]
    exact ⟨rfl, rfl⟩
  · intro s' os' halike
    unfold Config.sampleRateConfigured Config.sampleRate Settings.isExplicit Settings.value
    rw [halike.get_resolve]
    exact ⟨rfl, rfl⟩

/-- An environment with a word for the default mode, and a rate that only the configuration file
writes as an integer, out of range. -/
def told : Surroundings where
  source := .ofEnvironment .environment fun name =>
    if name = "APPOPTICS_CONFIG_FILE" then some "agent.yaml"
    else if name = "APPOPTICS_TRACING_MODE" then some "\u3000AlWays\n"
    else if name = "APPOPTICS_SAMPLE_RATE" then some "1e3"
    else none
  files := File.Tree.empty.put "agent.yaml"
    (.file "Sampling: \x7bTracingMode: never, SampleRate: 2000000\x7d".toUTF8)

theorem suppliesMode_told : SuppliesMode told [] .enabled := by
  have htexts : told.texts .tracingMode =
      [("\u3000AlWays\n", .environment), ("never", .file)] := by
    decide +kernel
  have hpadded : Text.Padded "\u3000AlWays\n".toList "AlWays".toList :=
    ⟨['\u3000'], ['\n'], by decide +kernel, List.forall_mem_singleton.mpr (by decide),
      List.forall_mem_singleton.mpr (by decide)⟩
  exact .text rfl htexts ⟨"always", "AlWays".toList, by decide, hpadded, by decide +kernel⟩

/-- The word counts, though it says no more than the default. The rate does not, until the
application sets one, and then even the default one does. -/
theorem localSampling_resolve_told :
    told.source.origin = .environment ∧ LocalSampling told [] (resolve told []) ∧
    SuppliesMode told [] .enabled ∧
    (resolve told []).tracingModeConfigured = true ∧
    (resolve told []).sampleRateConfigured = false ∧
    GivenAlike .tracingMode told told [] [⟨.sampleRate, (1000000 : Int)⟩] ∧
    (resolve told []).tracingMode =
      (resolve told [⟨.sampleRate, (1000000 : Int)⟩]).tracingMode ∧
    (resolve told [⟨.sampleRate, (1000000 : Int)⟩]).sampleRateConfigured = true := by
  obtain ⟨hlocal, hmode, -⟩ := localSampling_resolve (s := told) rfl []
  have halike : GivenAlike .tracingMode told told [] [⟨.sampleRate, (1000000 : Int)⟩] :=
    ⟨rfl, rfl, rfl, rfl⟩
  refine ⟨rfl, hlocal, suppliesMode_told, hlocal.mode_iff.mpr ⟨_, suppliesMode_told⟩,
    by decide +kernel, halike, (hmode _ _ halike).2, by decide +kernel⟩

end TracerConfig
