import TracerConfig.Proofs.Precedence

/-!
# What becomes of a service key

A service key that was supplied is in force, normalized, or it is reported as dropped. The one
exception are blank texts: they are normalized to the empty key, which is valid and leaves the
agent without a key.

Main definition:
* `keyText?`: the text that the highest layer supplies for the service key.

Main statements:
* `value_resolving_serviceKey`: in front of validation stands the text, normalized.
* `blank_key_unreported`: a blank text is dropped without a report.
* `key_kept_or_reported_iff`: a key is kept, or its loss is reported, if and only if its text is
  not blank.
-/

namespace TracerConfig

/-- The text that the highest layer supplies for the service key: the application's last choice,
or else the text of the source, or else that of the configuration file. -/
def keyText? (s : Surroundings) (os : List Override) : Option String :=
  (lastChoice? os .serviceKey).or ((s.texts .serviceKey).head?.map (·.1))

/-- A configuration has a complete key, or reports that it dropped one. -/
def Config.KeepsOrReportsKey (c : Config) : Prop :=
  (c.serviceKey ≠ "" ∧ ServiceKey.isValid c.serviceKey = true) ∨
    ∃ d ∈ c.discarded, d.field = .serviceKey

section

variable {s : Surroundings} (h : s.source.origin = .environment) {os : List Override}
  {text : String} (hsupplied : keyText? s os = some text)
include h hsupplied

/-- In front of validation stands the text, normalized. -/
theorem value_resolving_serviceKey :
    (resolving s os).settings.value .serviceKey = ServiceKey.normalize text := by
  rw [keyText?] at hsupplied
  have hvalue : ∃ o, supplied? s os .serviceKey = some (ServiceKey.normalize text, o) := by
    rw [supplied?]
    cases hos : lastChoice? os .serviceKey with
    | some c =>
      rw [hos] at hsupplied
      cases hsupplied
      exact ⟨.code, rfl⟩
    | none =>
      -- any text is a key, so the first one is taken
      rw [hos, Option.none_or] at hsupplied
      obtain ⟨t, ht, rfl⟩ := Option.map_eq_some_iff.mp hsupplied
      obtain ⟨rest, hrest⟩ := List.head?_eq_some_iff.mp ht
      exact ⟨t.2, by rw [Surroundings.given?, hrest]; rfl⟩
  obtain ⟨o, ho⟩ := hvalue
  exact value_resolving_of_supplied h ho

/-- The text is in force, normalized, if that is a valid key. -/
theorem serviceKey_resolve_of_valid (hv : Field.serviceKey.IsValid (ServiceKey.normalize text)) :
    (resolve s os).serviceKey = ServiceKey.normalize text := by
  have hvalue := value_resolving_serviceKey h hsupplied
  rw [Config.serviceKey, Settings.value, get_resolve, hvalue, if_pos hv]
  exact hvalue

/-- The key is reported as dropped if that is no valid key, and only then. -/
theorem exists_discarded_serviceKey_iff :
    (∃ d ∈ (resolve s os).discarded, d.field = .serviceKey) ↔
      ¬ Field.serviceKey.IsValid (ServiceKey.normalize text) := by
  rw [← value_resolving_serviceKey h hsupplied, resolve_eq]
  exact List.mem_map.symm.trans Config.mem_fields_discarded_validate_iff

/-- A key is kept, complete and normalized, or its loss is reported, if there is a character in its
text that is not blank, and only then: of a blank text nothing is left and nothing is said. -/
theorem key_kept_or_reported_iff :
    (resolve s os).KeepsOrReportsKey ↔ ∃ c ∈ text.toList, Text.isBlank c = false := by
  have hnotBlank : (∃ c ∈ text.toList, Text.isBlank c = false) ↔ ServiceKey.normalize text ≠ "" := by
    rw [Ne, ServiceKey.normalize_eq_empty_iff]
    simp
  rw [Config.KeepsOrReportsKey, exists_discarded_serviceKey_iff h hsupplied, hnotBlank]
  by_cases hv : Field.serviceKey.IsValid (ServiceKey.normalize text)
  · rw [serviceKey_resolve_of_valid h hsupplied hv]
    constructor
    · rintro (⟨hne, _⟩ | hinvalid)
      · exact hne
      · exact absurd hv hinvalid
    · -- a valid key is empty or complete
      intro hne
      exact .inl ⟨hne, ServiceKey.isValid_iff.mpr (Or.resolve_left hv hne)⟩
  · -- the empty key is valid
    refine iff_of_true (.inr hv) fun hempty => ?_
    rw [hempty] at hv
    exact hv (.inl rfl)

end

/-- A configuration file with a key whose name has no character that is kept. -/
def nameless : Surroundings where
  source := .ofEnvironment .environment fun name =>
    if name = "APPOPTICS_CONFIG_FILE" then some "agent.yml" else none
  files := File.Tree.empty.put "agent.yml"
    (.file ("ServiceKey: 'ae38315f6116585d64d82ec2455aa3ec61e02fee25d286f74ace9e4fea189217" ++
      ":\u00C9\u3000#'").toUTF8)

theorem key_kept_or_reported_iff_nameless :
    nameless.source.origin = .environment ∧
    keyText? nameless [] =
      some ("ae38315f6116585d64d82ec2455aa3ec61e02fee25d286f74ace9e4fea189217" ++
        ":\u00C9\u3000#") ∧
    (resolve nameless []).KeepsOrReportsKey ∧
    (resolve nameless []).serviceKey = "" ∧
    (resolve nameless []).discarded.map (·.field) = [.serviceKey] := by
  have hsupplied : keyText? nameless [] =
      some ("ae38315f6116585d64d82ec2455aa3ec61e02fee25d286f74ace9e4fea189217" ++
        ":\u00C9\u3000#") := by decide +kernel
  have houtcome : (resolve nameless []).serviceKey = "" ∧
      (resolve nameless []).discarded.map (·.field) = [.serviceKey] := by decide +kernel
  exact ⟨rfl, hsupplied, (key_kept_or_reported_iff rfl hsupplied).mpr ⟨':', by decide +kernel⟩,
    houtcome⟩

/-- An environment with a blank key. -/
def blankKeyed : Surroundings where
  source := .ofEnvironment .environment (Environment.empty.set "APPOPTICS_SERVICE_KEY" " \u3000")
  files := File.Tree.empty

/-- It is not so that every text that is not empty is kept or reported. -/
theorem blank_key_unreported :
    ¬ ∀ (s : Surroundings) (os : List Override) (text : String),
        s.source.origin = .environment → keyText? s os = some text → text ≠ "" →
        (resolve s os).KeepsOrReportsKey := by
  intro halways
  have hsupplied : keyText? blankKeyed [] = some " \u3000" := by decide +kernel
  have hempty : (resolve blankKeyed []).serviceKey = "" := by decide +kernel
  have hdiscarded : (resolve blankKeyed []).discarded = [] := by decide +kernel
  rcases halways blankKeyed [] " \u3000" rfl hsupplied (by decide) with ⟨hne, _⟩ | ⟨d, hd, _⟩
  · exact hne hempty
  · rw [hdiscarded] at hd
    cases hd

end TracerConfig
