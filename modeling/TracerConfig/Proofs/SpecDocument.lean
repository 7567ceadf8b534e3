import Mathlib.Data.List.Forall2
import TracerConfig.Filter.Document
import TracerConfig.Proofs.FlowNode
import TracerConfig.Proofs.Published
import TracerConfig.Proofs.Refusal

/-!
# Specifications as a document

A list of specifications is written as JSON, and its text is read as a document. The keys and the
shape are read back. A string is read as what folding makes of it, and the text is refused if one
of the strings has a character that JSON leaves as it is and no document may have.

Main definitions:
* `Spec.folded`: what a specification is read as.
* `Spec.isReadBack`, `Spec.AllReadBack`: whether a string, and all strings in a list of
  specifications, are read as they are.

Main statements:
* `readsAs_toJson`, `decode_toNode`: the text of a specification is read as a mapping, and that as
  a specification.
* `readAll_renderAll`: what the text of a list of specifications is read as.
* `isReadBack_of_ascii`: nothing is lost of a string of ASCII characters.
* `read_rendered_iff`: a list of specifications is read back if, and only if, all strings of it
  are.
-/

namespace TracerConfig.Filter.Spec

open Yaml (Aliases Node Document Token ReadsAs stringNode isAllowed)

/-! ## Nodes -/

/-- The strings of a specification. -/
def strings (s : Spec) : List String := s.kind :: s.regex.toList ++ s.extensions ++ [s.tracing]

/-- A sequence of strings. -/
def stringsNode (es : List String) : Node := .sequence none none (es.map stringNode)

/-- A specification as a mapping. -/
def toNode (s : Spec) : Node :=
  .mapping none none <|
    [(stringNode "Type", stringNode s.kind)] ++
    (s.regex.map fun r => (stringNode "RegEx", stringNode r)).toList ++
    (if s.extensions.isEmpty then [] else [(stringNode "Extensions", stringsNode s.extensions)]) ++
    [(stringNode "Tracing", stringNode s.tracing)]

section

variable (aliases : Aliases)

theorem decodeText_stringNode (expected t : String) :
    decodeText expected aliases (stringNode t) = pure t := rfl

theorem decodeString_stringNode (t : String) : decodeString aliases (stringNode t) = pure t := rfl

theorem decodeOption_stringNode (t : String) :
    decodeOption aliases (stringNode t) = pure (some t) := rfl

theorem mapM_pure_map {α β : Type} {f : β → Decoder α} {g : α → β} (h : ∀ x, f (g x) = pure x)
    (xs : List α) : (xs.map g).mapM f = pure xs := by
  induction xs with
  | nil => rfl
  | cons x xs ih => rw [List.map_cons, List.mapM_cons, h, ih, pure_bind, pure_bind]

theorem decodeStrings_stringsNode (es : List String) :
    decodeStrings aliases (stringsNode es) = pure es :=
  mapM_pure_map (decodeString_stringNode aliases) es

theorem decodePair_type (s : Spec) (t : String) :
    decodePair aliases ([], s) (stringNode "Type", stringNode t) =
      pure (["Type"], { s with kind := t }) := rfl

theorem decodePair_regex (keys : List String) (h : keys.contains "RegEx" = false) (s : Spec)
    (r : String) :
    decodePair aliases (keys, s) (stringNode "RegEx", stringNode r) =
      pure ("RegEx" :: keys, { s with regex := some r }) := by
  simp only [decodePair, decodeText_stringNode, decodeOption_stringNode, pure_bind, h]
  rfl

theorem decodePair_extensions (keys : List String) (h : keys.contains "Extensions" = false)
    (s : Spec) (es : List String) :
    decodePair aliases (keys, s) (stringNode "Extensions", stringsNode es) =
      pure ("Extensions" :: keys, { s with extensions := es }) := by
  simp only [decodePair, decodeText_stringNode, decodeStrings_stringsNode, pure_bind, h]
  rfl

theorem decodePair_tracing (keys : List String) (h : keys.contains "Tracing" = false) (s : Spec)
    (t : String) :
    decodePair aliases (keys, s) (stringNode "Tracing", stringNode t) =
      pure ("Tracing" :: keys, { s with tracing := t }) := by
  simp only [decodePair, decodeText_stringNode, decodeString_stringNode, pure_bind, h]
  rfl

/-- A specification is read from its mapping: what is left out has its default. -/
theorem decode_toNode (s : Spec) : decode aliases s.toNode = pure s := by
  obtain ⟨kind, regex, extensions, tracing⟩ := s
  cases regex with
  | none =>
    cases extensions with
    | nil => rfl
    | cons e es =>
      show (·.2) <$> [(stringNode "Type", stringNode kind),
        (stringNode "Extensions", stringsNode (e :: es)),
        (stringNode "Tracing", stringNode tracing)].foldlM (decodePair aliases) ([], {}) = _
      simp only [List.foldlM_cons, List.foldlM_nil, decodePair_type, pure_bind, map_pure,
        decodePair_extensions aliases ["Type"] rfl,
        decodePair_tracing aliases ["Extensions", "Type"] rfl]
  | some r =>
    cases extensions with
    | nil => rfl
    | cons e es =>
      show (·.2) <$> [(stringNode "Type", stringNode kind), (stringNode "RegEx", stringNode r),
        (stringNode "Extensions", stringsNode (e :: es)),
        (stringNode "Tracing", stringNode tracing)].foldlM (decodePair aliases) ([], {}) = _
      simp only [List.foldlM_cons, List.foldlM_nil, decodePair_type, pure_bind, map_pure,
        decodePair_regex aliases ["Type"] rfl,
        decodePair_extensions aliases ["RegEx", "Type"] rfl,
        decodePair_tracing aliases ["Extensions", "RegEx", "Type"] rfl]

theorem decodeAll_sequence (specs : List Spec) :
    decodeAll aliases (some (.sequence none none (specs.map toNode))) = pure specs :=
  mapM_pure_map (decode_toNode aliases) specs

end

/-! ## Strings -/

/-- What a string is read as. -/
def foldedString (t : String) : Except Yaml.Error String :=
  (Token.folded t.toList).map String.ofList

/-- What a specification is read as. -/
def folded (s : Spec) : Except Yaml.Error Spec := do
  return {
    kind := ← foldedString s.kind
    regex := ← s.regex.mapM foldedString
    extensions := ← s.extensions.mapM foldedString
    tracing := ← foldedString s.tracing }

theorem readsAs_string (t : String) :
    ReadsAs (.string t) ((foldedString t).map stringNode) := by
  have h := ReadsAs.string t
  rw [foldedString]
  cases hfolded : Token.folded t.toList <;> rw [hfolded] at h <;> exact h

theorem mapM_id_map {α β γ : Type} (f : α → Except Yaml.Error β) (g : β → γ) (xs : List α) :
    (xs.map fun x => (f x).map g).mapM id = (xs.mapM f).map (List.map g) := by
  induction xs with
  | nil => rfl
  | cons x xs ih =>
    rw [List.map_cons, List.mapM_cons, List.mapM_cons, ih]
    cases f x with
    | error e => rfl
    | ok y => cases xs.mapM f <;> rfl

/-- An array of values is read as a sequence of what each of them is read as. -/
theorem readsAs_array {α β : Type} {v : α → Json.Value} {f : α → Except Yaml.Error β}
    {n : β → Node} (h : ∀ x, ReadsAs (v x) ((f x).map n)) (xs : List α) :
    ReadsAs (.array (xs.map v)) ((xs.mapM f).map fun ys => .sequence none none (ys.map n)) := by
  have hitems : List.Forall₂ ReadsAs (xs.map v) (xs.map fun x => (f x).map n) := by
    rw [List.forall₂_map_left_iff, List.forall₂_map_right_iff, List.forall₂_same]
    exact fun x _ => h x
  have harray := ReadsAs.array hitems
  rw [mapM_id_map] at harray
  cases hxs : xs.mapM f <;> rw [hxs] at harray <;> exact harray

/-! ## Texts -/

/-- The names of the parts of a specification. -/
inductive IsName : String → Prop
  | type : IsName "Type"
  | regex : IsName "RegEx"
  | extensions : IsName "Extensions"
  | tracing : IsName "Tracing"

theorem IsName.isKey {name : String} (h : IsName name) : Yaml.Scan.IsKey name.toList := by
  have hword : (name.toList.all fun c => !Token.isGapChar c) = true := by cases h <;> decide
  refine ⟨fun c hc => ?_, by cases h <;> decide⟩
  simpa using List.all_eq_true.mp hword c hc

theorem members_string {key : String} (hkey : IsName key) (t : String) :
    ReadsAs.Members [(key, .string t)]
      ((foldedString t).map fun t => [(stringNode key, stringNode t)]) := by
  have h := ReadsAs.Members.single hkey.isKey (readsAs_string t)
  cases hfolded : foldedString t <;> rw [hfolded] at h <;> exact h

theorem members_regex (regex : Option String) :
    ReadsAs.Members (regex.map fun r => ("RegEx", Json.Value.string r)).toList
      ((regex.mapM foldedString).map fun regex =>
        (regex.map fun r => (stringNode "RegEx", stringNode r)).toList) := by
  cases regex with
  | none => exact .nil
  | some r =>
    have h := members_string .regex r
    rw [Option.mapM_some]
    cases hfolded : foldedString r <;> rw [hfolded] at h <;> exact h

theorem members_extensions (es : List String) :
    ReadsAs.Members
      (if es.isEmpty then [] else [("Extensions", .array (es.map Json.Value.string))])
      ((es.mapM foldedString).map fun es =>
        if es.isEmpty then [] else [(stringNode "Extensions", stringsNode es)]) := by
  cases es with
  | nil => exact .nil
  | cons e es =>
    have h := ReadsAs.Members.single (IsName.extensions.isKey)
      (readsAs_array readsAs_string (e :: es))
    rw [List.mapM_cons] at h ⊢
    cases hfirst : foldedString e with
    | error _ =>
      rw [hfirst] at h
      exact h
    | ok e' =>
      rw [hfirst] at h
      cases hothers : es.mapM foldedString <;> rw [hothers] at h <;> exact h

/-- A specification is read as the mapping of what its strings are read as. -/
theorem readsAs_toJson (s : Spec) : ReadsAs s.toJson (s.folded.map toNode) := by
  have h := ReadsAs.object <| (((members_string .type s.kind).append
    (members_regex s.regex)).append (members_extensions s.extensions)).append
      (members_string .tracing s.tracing)
  refine Eq.mpr (congrArg (ReadsAs s.toJson) ?_) h
  rw [folded]
  cases foldedString s.kind with
  | error _ => rfl
  | ok _ =>
    cases s.regex.mapM foldedString with
    | error _ => rfl
    | ok _ =>
      cases s.extensions.mapM foldedString with
      | error _ => rfl
      | ok _ => cases foldedString s.tracing <;> rfl

/-! ## Characters -/

/-- Whether a document may have a character in the form in which JSON writes it: control
characters are escaped, and others have to be allowed. -/
def isPortable (c : Char) : Bool := c.toNat < 0x20 || isAllowed c

theorem all_isAllowed_hexPadded :
    ∀ n < 0x20, (Text.hexPadded 4 n).all isAllowed = true := by decide

theorem all_isAllowed_char (c : Char) : (Json.Writer.char c).all isAllowed = isPortable c := by
  unfold Json.Writer.char
  -- the seven characters with an escape of one letter
  iterate 7
    split
    · subst_vars
      rfl
  split
  · next hcontrol =>
    have hslash : isAllowed '\\' = true := rfl
    have hletter : isAllowed 'u' = true := rfl
    simp [isPortable, hcontrol, hslash, hletter, all_isAllowed_hexPadded c.toNat hcontrol]
  · next hcontrol => simp [isPortable, hcontrol]

/-- In a written value it is the characters of strings that may not be allowed. -/
theorem passes_isAllowed : Json.Writer.Passes isAllowed isPortable where
  char := all_isAllowed_char
  punctuation := List.all_eq_true.mp (by decide)

section

variable {p q : Char → Bool} (h : Json.Writer.Passes p q)
  (hkeys : ∀ k ∈ ["Type", "RegEx", "Extensions", "Tracing"], k.toList.all q = true)
include h hkeys

/-- The characters of a written specification pass if those of its strings do. -/
theorem all_toJson (s : Spec) :
    (Json.Writer.value s.toJson).all p = s.strings.all fun t => t.toList.all q := by
  obtain ⟨kind, regex, extensions, tracing⟩ := s
  simp only [List.forall_mem_cons] at hkeys
  obtain ⟨htype, hpattern, hsuffixes, hmode, -⟩ := hkeys
  have hstring (t : String) : (Json.Writer.value (.string t)).all p = t.toList.all q :=
    h.all_string t
  have hstrings (e : String) (es : List String) :
      (Json.Writer.value (.array (.string e :: es.map .string))).all p =
        (e.toList.all q && es.all fun t => t.toList.all q) := by
    rw [h.all_array, List.all_cons, hstring, List.all_map]
    exact congrArg (fun test => _ && es.all test) (funext hstring)
  rw [toJson, h.all_object]
  -- a part that is left out has no strings
  cases regex <;> cases extensions <;>
    simp [strings, htype, hpattern, hsuffixes, hmode, hstring, hstrings, Bool.and_assoc,
      -String.reduceToList]

theorem all_renderAll (specs : List Spec) :
    (renderAll specs).toList.all p =
      specs.all fun s => s.strings.all fun t => t.toList.all q := by
  rw [renderAll, Json.Value.render, String.toList_ofList, h.all_array, List.all_map]
  exact congrArg specs.all (funext (all_toJson h hkeys))

end

/-! ## Reading -/

/-- The text of specifications is read as what their strings are read as, if a document may have
all characters of them. -/
theorem readAll_renderAll (specs : List Spec) :
    readAll (renderAll specs) =
      if specs.all fun s => s.strings.all fun t => t.toList.all isPortable then specs.mapM folded
      else .error .badCharacter := by
  have hmark : (Json.Writer.value (.array (specs.map toJson))).head? ≠ some '\uFEFF' := nofun
  have hread := (readsAs_array readsAs_toJson specs).read hmark
  have hallowed : (Json.Writer.value (.array (specs.map toJson))).all isAllowed =
      specs.all fun s => s.strings.all fun t => t.toList.all isPortable := by
    rw [← all_renderAll passes_isAllowed (by decide), renderAll, Json.Value.render,
      String.toList_ofList]
  rw [readAll, renderAll, hread, hallowed]
  cases specs.all fun s => s.strings.all fun t => t.toList.all isPortable with
  | false => rfl
  | true =>
    cases hfolded : specs.mapM folded with
    | error e => rfl
    | ok specs' =>
      show (·.1) <$> (decodeAll _ (some (.sequence none none (specs'.map toNode)))).run 0 = _
      rw [decodeAll_sequence]
      rfl

example : readAll (renderAll [urlRegex "a\u0085b" .disabled]) = .ok [urlRegex "a b" .disabled] := by
  decide +kernel

/-! ## What is read back -/

/-- Whether a string is read as it is. -/
def isReadBack (t : String) : Bool := t.toList.all isPortable && Token.isKept t.toList

/-- Nothing is lost of a string of ASCII characters without the delete character. -/
theorem isReadBack_of_ascii {t : String} (h : ∀ c ∈ t.toList, c.toNat < 0x7F) :
    isReadBack t = true := by
  have hportable : t.toList.all isPortable = true := by
    refine List.all_eq_true.mpr fun c hc => ?_
    have hascii := h c hc
    simp only [isPortable, isAllowed, Bool.or_eq_true, decide_eq_true_eq, Bool.and_eq_true,
      beq_iff_eq]
    omega
  have hkept : Token.isKept t.toList = true := by
    refine Token.isKept_of_forall fun c hc => ?_
    have hne {d : Char} (hd : 0x7F ≤ d.toNat) : c ≠ d := by
      rintro rfl
      exact Nat.not_lt.mpr hd (h c hc)
    exact ⟨hne (by decide), by simp [Token.isSeparator, hne (d := '\u2028') (by decide),
      hne (d := '\u2029') (by decide)]⟩
  rw [isReadBack, hportable, hkept]
  rfl

/-- Whether all strings in a list of specifications are read as they are. -/
def AllReadBack (specs : List Spec) : Prop :=
  ∀ spec ∈ specs, ∀ t ∈ spec.strings, isReadBack t = true

theorem mapM_eq_self_iff {α : Type} {f : α → Except Yaml.Error α} {xs : List α} :
    xs.mapM f = .ok xs ↔ ∀ x ∈ xs, f x = .ok x := by
  induction xs with
  | nil => exact iff_of_true rfl fun _ h => absurd h List.not_mem_nil
  | cons x xs ih =>
    rw [List.mapM_cons, List.forall_mem_cons, ← ih]
    cases f x with
    | error e => exact iff_of_false nofun fun h => nomatch h.1
    | ok y =>
      cases xs.mapM f with
      | error e => exact iff_of_false nofun fun h => nomatch h.2
      | ok ys =>
        show Except.ok (y :: ys) = _ ↔ _
        simp

theorem foldedString_eq_iff {t : String} :
    foldedString t = .ok t ↔ Token.isKept t.toList = true := by
  rw [foldedString, ← Token.folded_eq_iff]
  cases Token.folded t.toList with
  | error e => exact iff_of_false nofun nofun
  | ok cs =>
    show Except.ok (String.ofList cs) = _ ↔ _
    rw [Except.ok.injEq, Except.ok.injEq, ← String.toList_inj, String.toList_ofList]

theorem folded_eq_iff_parts {s : Spec} :
    s.folded = .ok s ↔
      foldedString s.kind = .ok s.kind ∧ s.regex.mapM foldedString = .ok s.regex ∧
        s.extensions.mapM foldedString = .ok s.extensions ∧
        foldedString s.tracing = .ok s.tracing := by
  rw [folded]
  cases foldedString s.kind with
  | error e => exact iff_of_false nofun fun h => nomatch h.1
  | ok kind =>
    cases s.regex.mapM foldedString with
    | error e => exact iff_of_false nofun fun h => nomatch h.2.1
    | ok regex =>
      cases s.extensions.mapM foldedString with
      | error e => exact iff_of_false nofun fun h => nomatch h.2.2.1
      | ok extensions =>
        cases foldedString s.tracing with
        | error e => exact iff_of_false nofun fun h => nomatch h.2.2.2
        | ok tracing =>
          obtain ⟨kind', regex', extensions', tracing'⟩ := s
          show Except.ok (Spec.mk kind regex extensions tracing) = .ok _ ↔ _
          simp only [Except.ok.injEq, Spec.mk.injEq]

theorem mapM_foldedString_eq_iff {regex : Option String} :
    regex.mapM foldedString = .ok regex ↔ ∀ r ∈ regex, foldedString r = .ok r := by
  cases regex with
  | none => exact iff_of_true rfl nofun
  | some r =>
    simp only [Option.mapM_some, Option.mem_def, Option.some.injEq, forall_eq']
    cases foldedString r with
    | error e => exact iff_of_false nofun nofun
    | ok r' =>
      show Except.ok (some r') = _ ↔ _
      simp

/-- A specification is read as it is if all its strings are. -/
theorem folded_eq_iff {s : Spec} :
    s.folded = .ok s ↔ ∀ t ∈ s.strings, Token.isKept t.toList = true := by
  simp only [folded_eq_iff_parts, mapM_foldedString_eq_iff, mapM_eq_self_iff, foldedString_eq_iff,
    strings, List.forall_mem_append, List.forall_mem_cons, Option.mem_toList]
  simp [and_assoc]

/-- A list of specifications is read back if, and only if, all strings of it are. -/
theorem readAll_renderAll_eq_iff (specs : List Spec) :
    readAll (renderAll specs) = .ok specs ↔ AllReadBack specs := by
  simp only [AllReadBack, isReadBack, Bool.and_eq_true]
  rw [readAll_renderAll]
  split
  · next hall =>
    rw [mapM_eq_self_iff]
    refine forall₂_congr fun s hs => ?_
    rw [folded_eq_iff]
    have hportable : ∀ t ∈ s.strings, t.toList.all isPortable = true :=
      List.all_eq_true.mp (List.all_eq_true.mp hall s hs)
    exact forall₂_congr fun t ht => ⟨fun hkept => ⟨hportable t ht, hkept⟩, And.right⟩
  · next hall =>
    refine iff_of_false nofun fun h => hall ?_
    exact List.all_eq_true.mpr fun s hs => List.all_eq_true.mpr fun t ht => (h s hs t ht).1

/-! ## Configurations -/

section

variable {specs : List Spec} {s : Surroundings}
  (hlookup : s.source.lookup (.setting .transactionSettings) = some (renderAll specs))
include hlookup

/-- A source with the text of a list of filters gives what that text is read as. -/
theorem own?_of_rendered : s.own? .transactionSettings = (readAll (renderAll specs)).toOption := by
  have hread : Field.transactionSettings.read (renderAll specs) =
      (readAll (renderAll specs)).mapError (·.message) := rfl
  rw [Surroundings.own?, hlookup, Option.bind_some, hread]
  cases readAll (renderAll specs) <;> rfl

variable (horigin : s.source.origin ≠ .default) {os : List Override}
  (hos : lastChoice? os .transactionSettings = none)
include horigin hos

/-- If the list is valid and its strings are read back, it is in force. -/
theorem value_resolve_of_allReadBack (hvalid : Field.transactionSettings.IsValid specs)
    (h : AllReadBack specs) : (resolve s os).settings.value .transactionSettings = specs := by
  have hown : s.own? .transactionSettings = some specs := by
    rw [own?_of_rendered hlookup, (readAll_renderAll_eq_iff specs).mpr h]
    rfl
  have hvalue : (resolving s os).settings.value .transactionSettings = specs :=
    (Surroundings.value_resolving_of_unchosen horigin hos
      fun hnone => nomatch hown.symm.trans hnone).trans (congrArg (·.getD []) hown)
  rw [value_resolve, hvalue]
  exact if_pos hvalid

/-- Without a configuration file the list is in force only if its strings are read back. -/
theorem allReadBack_of_value_resolve (hlayer : s.layer? = none)
    (hvalue : (resolve s os).settings.value .transactionSettings = specs) : AllReadBack specs := by
  -- the default is the empty list, which is read back
  have hdefault (hnil : specs = []) : AllReadBack specs := by
    rw [hnil]
    exact fun _ h => absurd h List.not_mem_nil
  have hread : (resolving s os).settings.value .transactionSettings =
      (readAll (renderAll specs)).toOption.getD [] :=
    (Surroundings.value_resolving_of_unchosen horigin hos fun _ => hlayer).trans
      (congrArg (·.getD []) (own?_of_rendered hlookup))
  rw [value_resolve, hread] at hvalue
  cases hspecs : readAll (renderAll specs) with
  | error e =>
    rw [hspecs] at hvalue
    exact hdefault (hvalue.symm.trans (if_pos (Field.isValid_default .transactionSettings)))
  | ok specs' =>
    rw [hspecs] at hvalue
    by_cases hvalid : Field.transactionSettings.IsValid specs'
    · have hsame : specs' = specs := (if_pos hvalid).symm.trans hvalue
      exact (readAll_renderAll_eq_iff specs).mp (hspecs.trans (congrArg Except.ok hsame))
    · exact hdefault (hvalue.symm.trans (if_neg hvalid))

end

/-- The text of a list of specifications is read back as the list if, and only if, each string in
it is. So the filters that a configuration reports are reproduced by a source with the reported
text if, and where there is no configuration file only if, each of their strings is read back. -/
theorem read_rendered_iff (specs : List Spec) :
    (readAll (renderAll specs) = .ok specs ↔ AllReadBack specs) ∧
    ∀ c : Config, c.Published → c.settings.value .transactionSettings = specs →
      ∀ (s : Surroundings) (os : List Override),
        s.source.origin ≠ .default → lastChoice? os .transactionSettings = none →
        s.source.lookup (.setting .transactionSettings) = some (c.rendered .transactionSettings) →
        (AllReadBack specs → (resolve s os).settings.value .transactionSettings = specs) ∧
        (s.layer? = none → (resolve s os).settings.value .transactionSettings = specs →
          AllReadBack specs) := by
  refine ⟨readAll_renderAll_eq_iff specs, ?_⟩
  rintro c hc rfl s os horigin hos hlookup
  have hvalid := hc.isValid .transactionSettings
  exact ⟨value_resolve_of_allReadBack hlookup horigin hos hvalid,
    allReadBack_of_value_resolve hlookup horigin hos⟩

/-- A source with a text for the filters and nothing else, and no files. -/
def surroundingsOf (text : String) : Surroundings where
  source := .ofPaths .environment fun path =>
    if path = "TransactionSettings" then some text else none
  files := File.Tree.empty

theorem value_configOf {specs : List Spec} (h : Field.transactionSettings.IsValid specs) :
    (configOf specs).settings.value .transactionSettings = specs :=
  value_resolve_of_supplied (o := .code) rfl rfl h

/-- A filter for urls with a delete character in them. -/
def deleting : List Spec := [urlRegex "\x7F" .disabled]

theorem read_rendered_iff_deleting :
    readAll (renderAll deleting) ≠ .ok deleting ∧
    (configOf deleting).Published ∧
    (configOf deleting).settings.value .transactionSettings = deleting ∧
    (resolve (surroundingsOf ((configOf deleting).rendered .transactionSettings)) []).settings.value
      .transactionSettings ≠ deleting := by
  have hlost : ¬ AllReadBack deleting := fun h =>
    absurd (h _ (List.mem_singleton_self _) "\x7F" (by decide)) (by decide +kernel)
  have hvalue : (configOf deleting).settings.value .transactionSettings = deleting :=
    value_configOf (Field.complaint?_eq_none_iff.mp (by decide +kernel))
  have hpublished : (configOf deleting).Published :=
    .build ((Builder.Reachable.start .bare).apply _)
  refine ⟨fun h => hlost ((read_rendered_iff deleting).1.mp h), hpublished, hvalue, fun h => ?_⟩
  exact hlost <| ((read_rendered_iff deleting).2 _ hpublished hvalue
    (surroundingsOf ((configOf deleting).rendered .transactionSettings)) [] nofun rfl rfl).2 rfl h

end TracerConfig.Filter.Spec
