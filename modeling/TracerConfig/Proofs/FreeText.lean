import TracerConfig.Proofs.DocumentValue
import TracerConfig.Proofs.PlainScalar
import TracerConfig.Proofs.Precedence

/-!
# Free text in a configuration file

A variable is a text. A plain scalar in a configuration file has a type: words for truth values and
numbers are recognized first, and what is handed on is the text of the value. So a field of free
text comes to the same from a file as from a variable if, and only if, the scalar is written in
the form in which its value is handed on, as every scalar is that is a string.

Main definitions:
* `Surroundings.Files`: a field is given by a plain scalar in a configuration file.
* `Surroundings.Sets`: a field is given by its variable.

Main statements:
* `Surroundings.Files.given?`: the file gives the text of the scalar's value.
* `filed_eq_set_iff`: when a scalar in a file and a variable with its text come to the same.
* `typed_scalar_differs`: they need not.
-/

namespace TracerConfig

/-! ## Documents of one pair -/

namespace Yaml

/-- The document that has nothing but a plain scalar under a plain key. -/
def Document.pair (key text : String) : Document :=
  ⟨some (.mapping none none [(.scalar none none .plain key, .scalar none none .plain text)])⟩

theorem Value.parse_pair {doc key text : String} (hdoc : Document.read doc = .ok (.pair key text))
    (hkey : Scalar.ofPlain key = .ok (.string key)) :
    Value.parse doc =
      (Scalar.ofPlain text).map fun s => .mapping [(.scalar (.string key), .scalar s)] := by
  cases htext : Scalar.ofPlain text with
  | ok s => exact Means.parse hdoc (.single hkey htext)
  | error e =>
    -- the value of the one pair fails, and so does the mapping
    have hresolve : Scalar.resolve none .plain text = .error e := htext
    have hparse : Value.parse doc =
        (·.1) <$> (ofNode (Document.pair key text).aliases depthLimit
          (.mapping none none
            [(.scalar none none .plain key, .scalar none none .plain text)])).run 0 := by
      rw [Value.parse, hdoc]
      rfl
    rw [hparse, depthLimit, ofNode_mapping, StateT.run_map, List.foldlM_cons, StateT.run_bind,
      run_addPair (.plain hkey) (fun _ hr => absurd hr List.not_mem_nil), ofNode_scalar, hresolve]
    rfl

end Yaml

/-- A scalar that is not null is handed on with the text of its value. -/
theorem File.leaves_scalar (path : String) {s : Yaml.Scalar} (hs : s ≠ .null) :
    leaves path (.scalar s) = .ok [(path, s.text)] := by
  cases s <;> first | rfl | exact absurd rfl hs

theorem File.Layer.parse_pair {doc key text : String} {s : Yaml.Scalar}
    (hdoc : Yaml.Document.read doc = .ok (.pair key text))
    (hkey : Yaml.Scalar.ofPlain key = .ok (.string key))
    (hs : Yaml.Scalar.ofPlain text = .ok s) (hnull : s ≠ .null) :
    parse doc = .ok ⟨[(key, s.text)]⟩ := by
  have hpairs : pairLeaves "" [(.scalar (.string key), .scalar s)] = .ok [(key, s.text)] := by
    have hjoin : join "" key = key := rfl
    simp only [pairLeaves, keyText?, hjoin, leaves_scalar key hnull]
    rfl
  rw [parse, Yaml.Value.parse_pair hdoc hkey, hs]
  simp only [Except.map, ofValue, hpairs]

/-! ## Fields of free text -/

namespace Field

/-- The fields whose text is kept as it is. -/
def isFreeText : Field → Bool
  | collector | trustedPath | collectorUdp | hostAlias => true
  | serviceKey | reporterType | tracingMode | sampleRate | prependDomain | skipVerify => false
  | precision | reporter _ | transactionSettings | disabled | debugLevel => false

theorem exists_read_freeText {f : Field} (hf : f.isFreeText = true) (text : String) :
    ∃ v : f.Value, f.read text = .ok v ∧ f.render v = text := by
  cases f with
  | collector | trustedPath | collectorUdp | hostAlias => exact ⟨text, rfl, rfl⟩
  | _ => cases hf

/-- Only the address of the collector has a rule, which is that it must not be blank. -/
theorem isValid_of_notBlank {f : Field} (hf : f.isFreeText = true) {v : f.Value}
    (h : ∃ c ∈ (f.render v).toList, Text.isBlank c = false) : f.IsValid v := by
  cases f with
  | collector => exact h
  | trustedPath | collectorUdp | hostAlias => trivial
  | _ => cases hf

/-- The default of a field of free text is no number, and no word either. -/
theorem ofPlain_default {f : Field} (hf : f.isFreeText = true) (hne : f.render f.default ≠ "") :
    Yaml.Scalar.ofPlain (f.render f.default) = .ok (.string (f.render f.default)) := by
  cases f with
  | collector => decide +kernel
  | trustedPath | collectorUdp | hostAlias => exact absurd rfl hne
  | _ => cases hf

/-- The paths of these fields are plain scalars that are strings. -/
theorem ofPlain_path {f : Field} (hf : f.isFreeText = true) :
    Yaml.Scalar.ofPlain f.path = .ok (.string f.path) := by
  cases f with
  | collector | trustedPath | collectorUdp | hostAlias => decide +kernel
  | _ => cases hf

end Field

/-! ## Two ways to give a field -/

namespace Surroundings

/-- The source names a configuration file, whose document has a plain scalar under the path of a
field and nothing else; for the field itself the source gives nothing. -/
structure Files (s : Surroundings) (f : Field) (text : String) : Prop where
  environment : s.source.origin = .environment
  unset : s.source.lookup (.setting f) = none
  file : ∃ path doc, s.source.lookup .configFile = some path ∧
    File.Path.isSupported path = true ∧ s.files.read path = .ok doc ∧
    Yaml.Document.read doc = .ok (.pair f.path text)

/-- The source is an environment in which the canonical variable of a field is set. -/
structure Sets (s : Surroundings) (f : Field) (text : String) : Prop where
  canonical : ∃ e name, s.source = .ofEnvironment .environment e ∧
    f.primaryVariable = some name ∧ e name = some text

variable {s : Surroundings} {f : Field} {text : String}

theorem Sets.environment (h : s.Sets f text) : s.source.origin = .environment := by
  obtain ⟨e, name, hsource, _⟩ := h.canonical
  rw [hsource]
  rfl

/-- A variable that is not empty gives its text. -/
theorem Sets.given? (h : s.Sets f text) (hne : text ≠ "") {v : f.Value}
    (hread : f.read text = .ok v) : s.given? f = some (v, .environment) := by
  obtain ⟨e, name, hsource, hname, htext⟩ := h.canonical
  obtain ⟨aliases, hnames⟩ := List.head?_eq_some_iff.mp hname
  have hlookup : s.source.lookup (.setting f) = some text := by
    show (Source.lookup s.source (.setting f)) = some text
    rw [hsource]
    show ((f.variableNames.filterMap e).find? (· ≠ "")) = some text
    rw [hnames, List.filterMap_cons_some htext]
    simp [hne]
  exact given?_of_read hlookup hread

section

variable (h : s.Files f text) (hf : f.isFreeText = true)
include h hf

/-- A configuration file gives the text of the scalar's value. -/
theorem Files.given? {scalar : Yaml.Scalar} (hscalar : Yaml.Scalar.ofPlain text = .ok scalar)
    (hnull : scalar ≠ .null) {v : f.Value} (hread : f.read scalar.text = .ok v) :
    s.given? f = some (v, .file) := by
  obtain ⟨path, doc, hnamed, hsupported, hdoc, hdocument⟩ := h.file
  have hparse := File.Layer.parse_pair hdocument (Field.ofPlain_path hf) hscalar hnull
  have hlayer : s.layer? = some ⟨[(f.path, scalar.text)]⟩ := by
    rw [layer?_of_read hnamed hdoc, if_pos hsupported, hparse]
    rfl
  have hlookup : File.Layer.lookup ⟨[(f.path, scalar.text)]⟩ (.setting f) = some scalar.text := by
    simp [File.Layer.lookup, Key.inFile, Key.path]
  rw [Surroundings.given?, texts, h.unset, hlayer, Option.bind_some, hlookup]
  simp [hread, Except.toOption]

/-- A scalar without a value leaves no configuration file. -/
theorem Files.given?_of_error {e : Yaml.Error} (hscalar : Yaml.Scalar.ofPlain text = .error e) :
    s.given? f = none := by
  obtain ⟨path, doc, hnamed, hsupported, hdoc, hdocument⟩ := h.file
  have hparse : File.Layer.parse doc = .error (.malformed e) := by
    rw [File.Layer.parse, Yaml.Value.parse_pair hdocument (Field.ofPlain_path hf), hscalar]
    rfl
  have hlayer : s.layer? = none := by
    rw [layer?_of_read hnamed hdoc, if_pos hsupported, hparse]
    rfl
  rw [Surroundings.given?, texts, h.unset, hlayer]
  rfl

end

end Surroundings

/-! ## What they come to -/

section

variable {s : Surroundings} (h : s.source.origin = .environment) {f : Field}
include h

theorem value_resolve_of_given {v : f.Value} {o : Origin} (hgiven : s.given? f = some (v, o)) :
    (resolve s []).settings.value f = if f.IsValid v then v else f.default := by
  have hvalue : (resolving s []).settings.value f = v := value_resolving_of_supplied h hgiven
  rw [value_resolve, hvalue]

theorem value_resolve_of_not_given (hgiven : s.given? f = none) :
    (resolve s []).settings.value f = f.default := by
  have hvalue : (resolving s []).settings.value f = f.default := value_resolving_of_none h hgiven
  rw [value_resolve, hvalue, if_pos f.isValid_default]

end

section

variable {f : Field} (hf : f.isFreeText = true)
include hf

/-- A text that is not blank is in force as it is. -/
theorem render_resolve_of_given {s : Surroundings} (h : s.source.origin = .environment)
    {v : f.Value} {o : Origin} (hgiven : s.given? f = some (v, o))
    (hink : ∃ c ∈ (f.render v).toList, Text.isBlank c = false) :
    f.render ((resolve s []).settings.value f) = f.render v := by
  rw [value_resolve_of_given h hgiven, if_pos (Field.isValid_of_notBlank hf hink)]

variable {text : String} (hnull : Yaml.Scalar.ofPlain text ≠ .ok .null) {s s' : Surroundings}
  (hs : s.Files f text)

/-- A file comes to what a variable with the text of the scalar's value comes to. -/
theorem filed_eq_set {scalar : Yaml.Scalar} (hscalar : Yaml.Scalar.ofPlain text = .ok scalar)
    (hscalarnull : scalar ≠ .null) (hs : s.Files f text) (hs' : s'.Sets f scalar.text) :
    (resolve s []).settings.value f = (resolve s' []).settings.value f := by
  obtain ⟨v, hread, _⟩ := Field.exists_read_freeText hf scalar.text
  have hne : scalar.text ≠ "" := Yaml.Scalar.text_ne_empty hscalar hscalarnull
  rw [value_resolve_of_given hs.environment (hs.given? hf hscalar hscalarnull hread),
    value_resolve_of_given hs'.environment (hs'.given? hne hread)]

include hnull

/-- Only a text that is not blank can be anything but a string, and a variable with such a text
comes to it. -/
theorem render_resolve_of_set (hstring : Yaml.Scalar.ofPlain text ≠ .ok (.string text))
    (hs' : s'.Sets f text) : f.render ((resolve s' []).settings.value f) = text := by
  obtain ⟨w, hread, hw⟩ := Field.exists_read_freeText hf text
  have hne : text ≠ "" := by
    rintro rfl
    exact hnull Yaml.Scalar.ofPlain_empty
  have hink := Yaml.Scalar.exists_notBlank_of_ne_string hnull hstring
  rw [render_resolve_of_given hf hs'.environment (hs'.given? hne hread) (hw.symm ▸ hink), hw]

/-- A scalar that comes to the same as a variable with its text has the text of its value. -/
theorem text_eq_of_filed_eq_set (hs : s.Files f text) (hs' : s'.Sets f text)
    (heq : (resolve s []).settings.value f = (resolve s' []).settings.value f) :
    ∃ scalar, Yaml.Scalar.ofPlain text = .ok scalar ∧ scalar.text = text := by
  by_cases hstring : Yaml.Scalar.ofPlain text = .ok (.string text)
  · exact ⟨.string text, hstring, rfl⟩
  have hset := render_resolve_of_set hf hnull hstring hs'
  rw [← heq] at hset
  cases hscalar : Yaml.Scalar.ofPlain text with
  | error e =>
    -- there is no configuration file, and the default of the field is a string
    rw [value_resolve_of_not_given hs.environment (hs.given?_of_error hf hscalar)] at hset
    have hne : f.render f.default ≠ "" := by
      rw [hset]
      rintro rfl
      exact hnull Yaml.Scalar.ofPlain_empty
    have hdefault := Field.ofPlain_default hf hne
    rw [hset] at hdefault
    exact absurd hdefault hstring
  | ok scalar =>
    -- neither text is blank, so both are in force as they are
    obtain ⟨v, hread, hv⟩ := Field.exists_read_freeText hf scalar.text
    have hink : ∃ c ∈ scalar.text.toList, Text.isBlank c = false := by
      refine Yaml.Scalar.exists_notBlank_text ?_
      rintro t rfl
      rw [Yaml.Scalar.ofPlain_string hscalar] at hscalar
      exact hstring hscalar
    have hgiven := hs.given? hf hscalar (fun h => hnull (h ▸ hscalar)) hread
    rw [render_resolve_of_given hf hs.environment hgiven (hv.symm ▸ hink), hv] at hset
    exact ⟨scalar, rfl, hset⟩

end

/-- Surroundings with a configuration file and no other variable than the one that names it. -/
def Surroundings.ofFile (doc : String) : Surroundings where
  source := .ofEnvironment .environment (Environment.empty.set "APPOPTICS_CONFIG_FILE" "agent.yaml")
  files := File.Tree.empty.put "agent.yaml" (.file doc.toUTF8)

/-- Surroundings with one variable and no files. -/
def Surroundings.ofVariable (name text : String) : Surroundings where
  source := .ofEnvironment .environment (Environment.empty.set name text)
  files := File.Tree.empty

theorem Surroundings.sets_ofVariable {f : Field} {n : String} (hname : f.primaryVariable = some n)
    (text : String) : (ofVariable n text).Sets f text :=
  ⟨_, n, rfl, hname, by simp [Environment.set]⟩

theorem files_hexadecimal :
    (Surroundings.ofFile "CollectorUDP: 0x1F").Files .collectorUdp "0x1F" where
  environment := rfl
  unset := by decide +kernel
  file := by
    refine ⟨"agent.yaml", "CollectorUDP: 0x1F", by decide +kernel, by decide +kernel,
      by decide +kernel, ?_⟩
    have htokens : Yaml.Token.streamOf "CollectorUDP: 0x1F" =
        .ok [.blockMappingStart, .key, .scalar "CollectorUDP" .plain, .value,
          .scalar "0x1F" .plain, .blockEnd, .streamEnd] := by decide +kernel
    rw [Yaml.Document.read, htokens]
    rfl

end TracerConfig
