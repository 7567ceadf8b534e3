import TracerConfig.Json.Reader

/-!
# Written values are read back

A reader that stands in front of a written value takes exactly that value, whatever follows it.
Null and strings have this property, and it passes from the parts of an array or an object to the
whole.

Main statements:
* `string_flatMap_char`: escaping is undone.
* `ReadsBack.array`, `ReadsBack.object`: the property passes from the parts to the whole.
* `ReadsBack.parse_render`: the text of such a value is parsed as that value.
* `Writer.Passes`: the characters of a written value pass a test if those of its strings do.
-/

namespace TracerConfig.Json

open Reader

/-! ## Strings -/

theorem hexValue?_hexDigit : ∀ {d : Nat}, d < 16 → Text.hexValue? (Text.hexDigit d) = some d := by
  decide

theorem string_unit_digit {d : Nat} (h : d < 16) (left value : Nat) (done rest : List Char) :
    string (.unit (left + 2) value none) done (Text.hexDigit d :: rest) =
      string (.unit (left + 1) (16 * value + d) none) done rest := by
  simp [string, hexValue?_hexDigit h]

theorem string_unit_last {d value : Nat} (h : d < 16) (hvalue : 16 * value + d < 0xD800)
    (done rest : List Char) :
    string (.unit 1 value none) done (Text.hexDigit d :: rest) =
      string .text (Char.ofNat (16 * value + d) :: done) rest := by
  have hhigh : ¬ 0xD800 ≤ 16 * value + d := by omega
  have hlow : ¬ 0xDC00 ≤ 16 * value + d := by omega
  simp [string, hexValue?_hexDigit h, hhigh, hlow]

/-- Four digits that are no surrogate are read as a code point. -/
theorem string_hexPadded {n : Nat} (h : n < 0xD800) (done rest : List Char) :
    string (.unit 4 0 none) done (Text.hexPadded 4 n ++ rest) =
      string .text (Char.ofNat n :: done) rest := by
  have hmod : ∀ m, m % 16 < 16 := fun m => Nat.mod_lt m (by decide)
  have hvalue : 16 * (16 * (16 * (16 * 0 + n / 16 / 16 / 16 % 16) + n / 16 / 16 % 16) +
      n / 16 % 16) + n % 16 = n := by omega
  have hdigits : Text.hexPadded 4 n ++ rest =
      Text.hexDigit (n / 16 / 16 / 16 % 16) :: Text.hexDigit (n / 16 / 16 % 16) ::
        Text.hexDigit (n / 16 % 16) :: Text.hexDigit (n % 16) :: rest := by
    simp [Text.hexPadded]
  rw [hdigits, string_unit_digit (hmod _), string_unit_digit (hmod _), string_unit_digit (hmod _),
    string_unit_last (hmod _) (by rw [hvalue]; exact h), hvalue]

/-- A written character is read back. -/
theorem string_char (c : Char) (done rest : List Char) :
    string .text done (Writer.char c ++ rest) = string .text (c :: done) rest := by
  unfold Writer.char
  -- the seven characters with an escape of one letter
  iterate 7
    split
    · subst_vars
      rfl
  split
  · next hcontrol =>
    have hread : string .text done ('\\' :: 'u' :: Text.hexPadded 4 c.toNat ++ rest) =
        string (.unit 4 0 none) done (Text.hexPadded 4 c.toNat ++ rest) := rfl
    rw [hread, string_hexPadded (by omega), Char.ofNat_toNat]
  · next hquote hslash _ _ _ _ _ hcontrol =>
    simp [string, hquote, hslash, hcontrol]

/-- Escaping is undone. -/
theorem string_flatMap_char (cs done rest : List Char) :
    string .text done (cs.flatMap Writer.char ++ '"' :: rest) =
      some (String.ofList (done.reverse ++ cs), rest) := by
  induction cs generalizing done with
  | nil => simp [string]
  | cons c cs ih =>
    rw [List.flatMap_cons, List.append_assoc, string_char, ih]
    simp

theorem string_string (s : String) (rest : List Char) :
    string .text [] (s.toList.flatMap Writer.char ++ '"' :: rest) = some (s, rest) := by
  rw [string_flatMap_char, List.reverse_nil, List.nil_append, String.ofList_toList]

/-! ## Values -/

theorem skip_cons {c : Char} (h : isBlank c = false) (cs : List Char) :
    skip (c :: cs) = c :: cs := by
  simp [skip, h]

theorem value_quote (fuel : Nat) (cs : List Char) :
    value (fuel + 1) ('"' :: cs) =
      (string .text [] cs).map fun (s, rest) => (.string s, rest) := by
  rw [value, skip_cons (by decide)]
  rfl

theorem value_openBracket {c : Char} (hblank : isBlank c = false) (hc : c ≠ ']') (fuel : Nat)
    (cs : List Char) :
    value (fuel + 1) ('[' :: c :: cs) =
      (items fuel (c :: cs)).map fun (vs, rest) => (.array vs, rest) := by
  rw [value, skip_cons (by decide)]
  simp only [skip_cons hblank]
  split
  · next heq => exact absurd (List.cons.inj heq).1 hc
  · rfl

theorem value_openBrace (fuel : Nat) (cs : List Char) :
    value (fuel + 1) ('\x7b' :: '"' :: cs) =
      (members fuel ('"' :: cs)).map fun (ms, rest) => (.object ms, rest) := by
  rw [value, skip_cons (by decide)]
  rfl

/-- A written value is taken by a reader in front of it, which leaves what follows. Its first
character is no blank, and none that would end an array. -/
structure ReadsBack (v : Value) : Prop where
  exists_head : ∃ c cs, Writer.value v = c :: cs ∧ isBlank c = false ∧ c ≠ ']'
  value_append : ∀ (fuel : Nat) (rest : List Char), (Writer.value v).length ≤ fuel →
    value (fuel + 1) (Writer.value v ++ rest) = some (v, rest)

/-- Items with commas between them are read up to the closing bracket. -/
theorem items_commaList {vs : List Value} (h : ∀ v ∈ vs, ReadsBack v) (hne : vs ≠ [])
    (fuel : Nat) (rest : List Char) (hfuel : (Writer.commaList (Writer.values vs)).length < fuel) :
    items (fuel + 1) (Writer.commaList (Writer.values vs) ++ ']' :: rest) = some (vs, rest) := by
  induction vs generalizing fuel with
  | nil => exact absurd rfl hne
  | cons v ws ih =>
    have hv := h v (List.mem_cons_self ..)
    obtain ⟨m, rfl⟩ : ∃ m, fuel = m + 1 := ⟨fuel - 1, by omega⟩
    cases ws with
    | nil =>
      simp only [Writer.values, Writer.commaList] at hfuel ⊢
      rw [items, hv.value_append m _ (by omega)]
      rfl
    | cons w ws =>
      have htext : Writer.commaList (Writer.values (v :: w :: ws)) =
          Writer.value v ++ ',' :: Writer.commaList (Writer.values (w :: ws)) := by
        simp only [Writer.values, Writer.commaList]
      rw [htext, List.length_append, List.length_cons] at hfuel
      have hrest := ih (fun u hu => h u (List.mem_cons_of_mem _ hu)) (by simp) m (by omega)
      rw [htext, List.append_assoc, List.cons_append, items, hv.value_append m _ (by omega)]
      simp [skip_cons, isBlank, hrest]

theorem string_append (k : String) (cs : List Char) :
    Writer.string k ++ cs = '"' :: (k.toList.flatMap Writer.char ++ '"' :: cs) := by
  simp [Writer.string]

/-- A name and its value are read as a member, and others follow a comma. -/
theorem members_comma (k : String) {v : Value} (hv : ReadsBack v) (fuel : Nat)
    (rest : List Char) (hfuel : (Writer.value v).length ≤ fuel) :
    members (fuel + 2) (Writer.string k ++ ':' :: (Writer.value v ++ ',' :: rest)) =
      (members (fuel + 1) rest).map fun (ms, rest) => ((k, v) :: ms, rest) := by
  rw [string_append, members, skip_cons (by decide)]
  simp [string_string, skip_cons, isBlank, hv.value_append fuel _ hfuel]

/-- A brace follows the last member. -/
theorem members_brace (k : String) {v : Value} (hv : ReadsBack v) (fuel : Nat)
    (rest : List Char) (hfuel : (Writer.value v).length ≤ fuel) :
    members (fuel + 2) (Writer.string k ++ ':' :: (Writer.value v ++ '\x7d' :: rest)) =
      some ([(k, v)], rest) := by
  rw [string_append, members, skip_cons (by decide)]
  simp [string_string, skip_cons, isBlank, hv.value_append fuel _ hfuel]

/-- Members with commas between them are read up to the closing brace. -/
theorem members_commaList {ms : List (String × Value)} (h : ∀ m ∈ ms, ReadsBack m.2)
    (hne : ms ≠ []) (fuel : Nat) (rest : List Char)
    (hfuel : (Writer.commaList (Writer.members ms)).length < fuel) :
    members (fuel + 1) (Writer.commaList (Writer.members ms) ++ '\x7d' :: rest) =
      some (ms, rest) := by
  induction ms generalizing fuel with
  | nil => exact absurd rfl hne
  | cons m ns ih =>
    obtain ⟨k, v⟩ := m
    have hv : ReadsBack v := h (k, v) (List.mem_cons_self ..)
    obtain ⟨fuel, rfl⟩ : ∃ n, fuel = n + 1 := ⟨fuel - 1, by omega⟩
    cases ns with
    | nil =>
      have htext : Writer.commaList (Writer.members [(k, v)]) =
          Writer.string k ++ ':' :: Writer.value v := by
        simp only [Writer.members, Writer.commaList]
      rw [htext, List.length_append, List.length_cons] at hfuel
      rw [htext, List.append_assoc, List.cons_append, members_brace k hv fuel rest (by omega)]
    | cons n ns =>
      have htext : Writer.commaList (Writer.members ((k, v) :: n :: ns)) =
          Writer.string k ++ ':' :: Writer.value v ++
            ',' :: Writer.commaList (Writer.members (n :: ns)) := by
        simp only [Writer.members, Writer.commaList]
      rw [htext, List.length_append, List.length_append, List.length_cons,
        List.length_cons] at hfuel
      have hrest := ih (fun m hm => h m (List.mem_cons_of_mem _ hm)) (by simp) fuel (by omega)
      rw [htext, List.append_assoc, List.append_assoc, List.cons_append, List.cons_append,
        members_comma k hv fuel _ (by omega), hrest, Option.map_some]

namespace ReadsBack

theorem null : ReadsBack .null where
  exists_head := ⟨'n', _, rfl, by decide, by decide⟩
  value_append := by
    intro fuel rest _
    show value (fuel + 1) ('n' :: ("ull".toList ++ rest)) = _
    rw [value, skip_cons (by decide)]
    rfl

theorem string (s : String) : ReadsBack (.string s) where
  exists_head := ⟨'"', _, by rw [Writer.value, Writer.string, List.cons_append], by decide,
    by decide⟩
  value_append := by
    intro fuel rest _
    rw [Writer.value, Writer.string, List.cons_append, List.cons_append, List.append_assoc,
      List.singleton_append, value_quote, string_string]
    rfl

/-- An array whose items are read back is read back. -/
theorem array {vs : List Value} (h : ∀ v ∈ vs, ReadsBack v) : ReadsBack (.array vs) where
  exists_head := ⟨'[', _, by rw [Writer.value, List.cons_append], by decide, by decide⟩
  value_append := by
    intro fuel rest hfuel
    rw [Writer.value, List.cons_append, List.length_cons, List.length_append,
      List.length_singleton] at hfuel
    obtain ⟨fuel, rfl⟩ : ∃ m, fuel = m + 1 := ⟨fuel - 1, by omega⟩
    rw [Writer.value, List.cons_append, List.cons_append, List.append_assoc,
      List.singleton_append]
    cases vs with
    | nil =>
      rw [value, skip_cons (by decide)]
      rfl
    | cons v ws =>
      -- the first item does not look like the end of the array
      have hread := items_commaList h (by simp) fuel rest (by omega)
      obtain ⟨c, cs, hhead, hblank, hc⟩ := (h v (List.mem_cons_self ..)).exists_head
      obtain ⟨ds, hds⟩ : ∃ ds, Writer.commaList (Writer.values (v :: ws)) ++ ']' :: rest =
          c :: ds := by
        cases ws <;> simp [Writer.values, Writer.commaList, hhead]
      rw [hds] at hread ⊢
      rw [value_openBracket hblank hc, hread]
      rfl

/-- An object whose members are read back is read back. -/
theorem object {ms : List (String × Value)} (h : ∀ m ∈ ms, ReadsBack m.2) :
    ReadsBack (.object ms) where
  exists_head := ⟨'\x7b', _, by rw [Writer.value, List.cons_append], by decide, by decide⟩
  value_append := by
    intro fuel rest hfuel
    rw [Writer.value, List.cons_append, List.length_cons, List.length_append,
      List.length_singleton] at hfuel
    obtain ⟨fuel, rfl⟩ : ∃ m, fuel = m + 1 := ⟨fuel - 1, by omega⟩
    rw [Writer.value, List.cons_append, List.cons_append, List.append_assoc,
      List.singleton_append]
    cases ms with
    | nil =>
      rw [value, skip_cons (by decide)]
      rfl
    | cons m ns =>
      have hread := members_commaList h (by simp) fuel rest (by omega)
      obtain ⟨cs, hcs⟩ : ∃ cs, Writer.commaList (Writer.members (m :: ns)) ++ '\x7d' :: rest =
          '"' :: cs := by
        cases ns <;> simp [Writer.members, Writer.commaList, Writer.string]
      rw [hcs] at hread ⊢
      rw [value_openBrace, hread]
      rfl

/-- The text of a value is parsed as that value. -/
theorem parse_render {v : Value} (h : ReadsBack v) : Value.parse v.render = some v := by
  have hread := h.value_append (2 * (Writer.value v).length + 1) [] (by omega)
  rw [List.append_nil] at hread
  rw [Value.parse, Value.render, String.toList_ofList]
  simp [hread, skip]

end ReadsBack

/-! ## Characters -/

/-- A test of written characters: punctuation passes it, and a character of a string does, in the
form in which it is written, if the character itself passes another test. -/
structure Writer.Passes (p q : Char → Bool) : Prop where
  char : ∀ c, (Writer.char c).all p = q c
  punctuation : ∀ c ∈ ['"', ',', ':', '[', ']', '\x7b', '\x7d'], p c = true

namespace Writer.Passes

variable {p q : Char → Bool} (h : Passes p q)
include h

theorem all_string (t : String) : (string t).all p = t.toList.all q := by
  have hquote := h.punctuation '"' (by decide)
  have hchars : (t.toList.flatMap Writer.char).all p = t.toList.all q := by
    rw [List.all_flatMap]
    simp only [h.char]
  simp [string, hquote, hchars]

theorem all_commaList (texts : List (List Char)) :
    (commaList texts).all p = texts.all (·.all p) := by
  have hcomma := h.punctuation ',' (by decide)
  induction texts with
  | nil => rfl
  | cons x texts ih =>
    cases texts with
    | nil => simp [commaList]
    | cons y texts =>
      rw [commaList, List.all_append, List.all_cons, hcomma, Bool.true_and, ih,
        List.all_cons (a := x)]

theorem all_array (vs : List Value) :
    (value (.array vs)).all p = vs.all fun v => (value v).all p := by
  have hopen := h.punctuation '[' (by decide)
  have hclose := h.punctuation ']' (by decide)
  have hvalues : (values vs).all (·.all p) = vs.all fun v => (value v).all p := by
    induction vs with
    | nil => rfl
    | cons v vs ih => rw [values, List.all_cons, List.all_cons, ih]
  simp [value, hopen, hclose, h.all_commaList, hvalues]

theorem all_object (ms : List (String × Value)) :
    (value (.object ms)).all p = ms.all fun m => m.1.toList.all q && (value m.2).all p := by
  have hopen := h.punctuation '\x7b' (by decide)
  have hclose := h.punctuation '\x7d' (by decide)
  have hcolon := h.punctuation ':' (by decide)
  have hmembers : (members ms).all (·.all p) =
      ms.all fun m => m.1.toList.all q && (value m.2).all p := by
    induction ms with
    | nil => rfl
    | cons m ms ih =>
      rw [members, List.all_cons, List.all_append, List.all_cons, hcolon, Bool.true_and,
        h.all_string, ih, List.all_cons]
  simp [value, hopen, hclose, h.all_commaList, hmembers]

end Writer.Passes

end TracerConfig.Json
