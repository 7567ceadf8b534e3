import TracerConfig.Json.Value
import TracerConfig.Proofs.Folding

/-!
# Strings of JSON between double quotes

Every escape that JSON makes use of is one of a document too, with the same meaning. So a string as
JSON writes it is read as what folding makes of its characters.

Main statements:
* `Token.quotedWord_char`: a written character is read back.
* `Token.quoted_written`: a written string is read as what folding makes of it.
* `Token.quoted_word`: where exactly reading stops behind a string without gaps.
-/

namespace TracerConfig.Yaml

theorem Cursor.skipMany_skipMany (c : Cursor) (m n : Nat) :
    (c.skipMany m).skipMany n = c.skipMany (m + n) := by
  simp [skipMany, Nat.add_assoc]

namespace Token

open Json (Writer.char)

/-! ## Characters -/

theorem writer_char_of_isGapChar {c : Char} (h : isGapChar c = true) : Writer.char c = [c] := by
  rcases isGapChar_iff.mp h with rfl | rfl | h
  · rfl
  · rfl
  · simp only [isSeparator, Bool.or_eq_true, decide_eq_true_eq] at h
    rcases h with rfl | rfl <;> rfl

theorem hexNumber?_hexPadded : ∀ n < 0x20, Text.hexNumber? (Text.hexPadded 4 n) = some n := by
  decide

/-- A character stands for itself, or its escape is read back. -/
theorem writer_char_cases (c : Char) :
    (Writer.char c = [c] ∧ c ≠ '"' ∧ c ≠ '\\' ∧ 0x20 ≤ c.toNat) ∨
    ∃ letter digits, Writer.char c = '\\' :: letter :: digits ∧ isBreak letter = false ∧
      ∀ (cur : Cursor) (tail : List Char), cur.rest = '\\' :: letter :: digits ++ tail →
        escape cur = .ok (c, cur.skipMany (digits.length + 2)) := by
  unfold Writer.char
  -- the seven characters with an escape of one letter
  iterate 7
    split
    · right
      subst_vars
      exact ⟨_, [], rfl, rfl, fun cur tail hcur => by rw [escape, hcur]; rfl⟩
  split
  · next hcontrol =>
    right
    have hlength : (Text.hexPadded 4 c.toNat).length = 4 := by simp [Text.hexPadded]
    have hvalid : c.toNat.isValidChar := c.valid
    refine ⟨'u', Text.hexPadded 4 c.toNat, rfl, rfl, fun cur tail hcur => ?_⟩
    have htake : (Text.hexPadded 4 c.toNat ++ tail).take (escapeDigits 'u') =
        Text.hexPadded 4 c.toNat := List.take_left' hlength
    rw [List.cons_append, List.cons_append] at hcur
    rw [escape, hcur]
    show (if escapeDigits 'u' = 0 then _
      else if ((Text.hexPadded 4 c.toNat ++ tail).take (escapeDigits 'u')).length <
        escapeDigits 'u' then _ else _) = _
    rw [htake, hlength, if_neg (by decide), if_neg (by decide), hexNumber?_hexPadded _ hcontrol]
    exact dif_pos hvalid
  · next hquote hslash _ _ _ _ _ hcontrol => exact .inl ⟨rfl, hquote, hslash, by omega⟩

/-- The text of a string between its quotes. -/
def written (cs : List Char) : List Char := cs.flatMap Writer.char

theorem written_cons (c : Char) (cs : List Char) :
    written (c :: cs) = Writer.char c ++ written cs := List.flatMap_cons

theorem written_append (cs ds : List Char) : written (cs ++ ds) = written cs ++ written ds :=
  List.flatMap_append

theorem isSpace_eq_isGapChar {c : Char} (h : 0x20 ≤ c.toNat) : isSpace c = isGapChar c := by
  have hne {d : Char} (hd : d.toNat < 0x20) : c ≠ d := by
    rintro rfl
    omega
  simp [isSpace, isBlank, isBreak, isGapChar, isSeparator, hne (d := '\t') (by decide),
    hne (d := '\r') (by decide), hne (d := '\n') (by decide), Bool.or_assoc]

/-- A written character is read back. -/
theorem quotedWord_char {c : Char} (hc : isGapChar c = false) {cur : Cursor} {tail : List Char}
    (hcur : cur.rest = Writer.char c ++ tail) (fuel : Nat) (done : List Char) :
    quotedWord false (fuel + 1) done cur =
      quotedWord false fuel (c :: done) (cur.skipMany (Writer.char c).length) := by
  rcases writer_char_cases c with
    ⟨hchar, hquote, hslash, hprint⟩ | ⟨letter, digits, hchar, hletter, hescape⟩
  · rw [hchar, List.singleton_append] at hcur
    have hspace : isSpace c = false := (isSpace_eq_isGapChar hprint).trans hc
    rw [quotedWord, hcur]
    simp [hspace, hquote, hslash, hchar]
    rfl
  · rw [hchar] at hcur
    have hspace : isSpace '\\' = false := rfl
    rw [quotedWord, hcur]
    simp [hspace, hletter, hescape cur tail hcur, hchar]
    rfl

/-- A word is read back, up to what follows it. -/
theorem quotedWord_written {word : List Char} (hword : ∀ c ∈ word, isGapChar c = false)
    {cur : Cursor} {tail : List Char} (hcur : cur.rest = written word ++ tail)
    (htail : tail.head?.any (fun d => isSpace d || d = '"') = true) {fuel : Nat}
    (hfuel : word.length < fuel) (done : List Char) :
    quotedWord false fuel done cur =
      .ok (done.reverse ++ word, false, cur.skipMany (written word).length) := by
  induction word generalizing cur fuel done with
  | nil =>
    obtain ⟨fuel, rfl⟩ := Nat.exists_eq_add_one_of_ne_zero (Nat.ne_zero_of_lt hfuel)
    have hstay : cur.skipMany (written []).length = cur := rfl
    have hcur : cur.rest = tail := hcur
    rw [hstay, List.append_nil, quotedWord, hcur]
    cases tail with
    | nil => cases htail
    | cons d tail =>
      cases hd : isSpace d with
      | true => simp [hd]
      | false =>
        have hquote : d = '"' := by simpa [hd] using htail
        simp [hquote]
  | cons c word ih =>
    obtain ⟨fuel, rfl⟩ := Nat.exists_eq_add_one_of_ne_zero (Nat.ne_zero_of_lt hfuel)
    rw [written_cons, List.append_assoc] at hcur
    have hrest : (cur.skipMany (Writer.char c).length).rest = written word ++ tail := by
      rw [Cursor.skipMany, hcur, List.drop_left]
    rw [quotedWord_char (hword c (List.mem_cons_self ..)) hcur,
      ih (fun d hd => hword d (List.mem_cons_of_mem _ hd)) hrest (Nat.lt_of_succ_lt_succ hfuel),
      Cursor.skipMany_skipMany, written_cons, List.length_append, List.reverse_cons,
      List.append_assoc, List.singleton_append]

/-! ## Gaps and marks -/

theorem isBreak_eq_of_isGapChar {c : Char} (h : isGapChar c = true) :
    isBlank c = !isBreak c ∧ c ≠ '\t' := by
  rcases isGapChar_iff.mp h with rfl | rfl | h
  · exact ⟨rfl, by decide⟩
  · exact ⟨rfl, by decide⟩
  · simp only [isSeparator, Bool.or_eq_true, decide_eq_true_eq] at h
    rcases h with rfl | rfl <;> exact ⟨rfl, by decide⟩

/-- One more character of a gap. -/
theorem gap_gapChar {c : Char} (hc : isGapChar c = true) {cur : Cursor} {tail : List Char}
    (hcur : cur.rest = c :: tail) (fuel : Nat) (g : Gap) :
    gap 0 (fuel + 1) g cur =
      gap 0 fuel (g.add c) (if isBreak c then cur.skipBreak else cur.skip) := by
  obtain ⟨hblank, htab⟩ := isBreak_eq_of_isGapChar hc
  have hbreak : isBreak c = true → cur.breakAt = [breakText c] := by
    intro h
    rw [Cursor.breakAt, hcur]
    simp [h]
  rw [gap, hcur]
  cases h : isBreak c <;> cases hg : g.broken <;> simp [hblank, h, htab, hg, Gap.add, hbreak]

/-- Only a line end leads to the start of a line. -/
theorem skip_gapChar {c : Char} (hc : isGapChar c = true) {cur : Cursor} {tail : List Char}
    (hcur : cur.rest = c :: tail) :
    (if isBreak c then cur.skipBreak else cur.skip).rest = tail ∧
      ((if isBreak c then cur.skipBreak else cur.skip).column == 0) = isBreak c := by
  cases hb : isBreak c with
  | false =>
    rw [if_neg Bool.false_ne_true, Cursor.skip, hcur]
    exact ⟨rfl, by simp⟩
  | true =>
    have hreturn : c ≠ '\r' := by
      rintro rfl
      cases hc
    rw [if_pos rfl, Cursor.skipBreak, hcur]
    split
    · next heq => exact absurd (List.cons.inj heq).1 hreturn
    · next heq => exact ⟨(List.cons.inj heq).2.symm, rfl⟩
    · next heq => cases heq

/-- A gap is read up to the word behind it. -/
theorem gap_append {ws : List Char} (hws : ∀ c ∈ ws, isGapChar c = true) {cur : Cursor}
    {tail : List Char} (hcur : cur.rest = ws ++ tail) (htail : separates tail = false)
    {fuel : Nat} (hfuel : ws.length < fuel) (g : Gap) :
    ∃ cur', gap 0 fuel g cur = .ok (ws.foldl Gap.add g, cur') ∧ cur'.rest = tail ∧
      (cur'.column == 0) = (ws.getLast?.map isBreak).getD (cur.column == 0) := by
  induction ws generalizing cur fuel g with
  | nil =>
    obtain ⟨fuel, rfl⟩ := Nat.exists_eq_add_one_of_ne_zero (Nat.ne_zero_of_lt hfuel)
    refine ⟨cur, ?_, hcur, rfl⟩
    have hcur : cur.rest = tail := hcur
    rw [gap, hcur]
    cases tail with
    | nil => cases htail
    | cons d tail =>
      have hd : isBlank d = false ∧ isBreak d = false := Bool.or_eq_false_iff.mp htail
      simp [hd]
  | cons c ws ih =>
    obtain ⟨fuel, rfl⟩ := Nat.exists_eq_add_one_of_ne_zero (Nat.ne_zero_of_lt hfuel)
    have hc := hws c (List.mem_cons_self ..)
    obtain ⟨hskip, hstart⟩ := skip_gapChar hc hcur
    obtain ⟨cur', hread, hrest, hcolumn⟩ := ih (fun d hd => hws d (List.mem_cons_of_mem _ hd))
      hskip (Nat.lt_of_succ_lt_succ hfuel) (g.add c)
    refine ⟨cur', by rw [gap_gapChar hc hcur, hread, List.foldl_cons], hrest, ?_⟩
    rw [hcolumn, hstart]
    cases ws with
    | nil => rfl
    | cons d ws => rw [List.getLast?_cons_cons, List.getLast?_cons, Option.map_some]; rfl

/-- A word of a string ends where the word of its text does. -/
theorem separates_written (cs rest : List Char) :
    separates (written cs ++ '"' :: rest) = cs.head?.any isGapChar := by
  cases cs with
  | nil => rfl
  | cons c cs =>
    rw [written_cons, List.head?_cons, Option.any_some]
    rcases writer_char_cases c with ⟨hchar, _, _, hprint⟩ | ⟨letter, digits, hchar, _, _⟩
    · rw [hchar]
      exact isSpace_eq_isGapChar hprint
    · have hgap : isGapChar c = false := by
        by_contra h
        rw [Bool.not_eq_false] at h
        rw [writer_char_of_isGapChar h] at hchar
        cases hchar
      rw [hchar, hgap]
      rfl

/-- Nothing else is written like the characters that marks are made of. -/
theorem isPrefixOf_written {word : List Char} (hword : ∀ c ∈ word, c = '-' ∨ c = '.')
    (cs rest : List Char) :
    (word.isPrefixOf (written cs ++ '"' :: rest) &&
        separates ((written cs ++ '"' :: rest).drop word.length)) =
      (word.isPrefixOf cs && (cs.drop word.length).head?.any isGapChar) := by
  induction word generalizing cs with
  | nil => exact separates_written cs rest
  | cons d word ih =>
    have hd := hword d (List.mem_cons_self ..)
    have ih := ih fun c hc => hword c (List.mem_cons_of_mem _ hc)
    cases cs with
    | nil => rcases hd with rfl | rfl <;> rfl
    | cons c cs =>
      rw [written_cons]
      rcases writer_char_cases c with ⟨hchar, _⟩ | ⟨letter, digits, hchar, _, _⟩
      · rw [hchar, List.append_assoc, List.singleton_append, List.isPrefixOf, List.isPrefixOf,
          List.length_cons, List.drop_succ_cons, List.drop_succ_cons, Bool.and_assoc, ih,
          Bool.and_assoc]
      · have hne : (d == c) = false ∧ (d == '\\') = false := by
          simp only [beq_eq_false_iff_ne]
          constructor
          · rintro rfl
            rcases hd with rfl | rfl <;> cases hchar
          · rintro rfl
            rcases hd with hd | hd <;> cases hd
        rw [hchar, List.append_assoc, List.cons_append, List.isPrefixOf, List.isPrefixOf, hne.1,
          hne.2]
        rfl

/-- A document seems to end where a line of the string begins with a mark. -/
theorem atDocumentMarker_written {cs rest : List Char} {cur : Cursor}
    (hcur : cur.rest = written cs ++ '"' :: rest) :
    cur.atDocumentMarker = ((cur.column == 0) && markerAhead cs) := by
  rw [Cursor.atDocumentMarker, Cursor.atMarker, Cursor.atMarker, hcur, Bool.and_assoc,
    Bool.and_assoc, isPrefixOf_written (by simp), isPrefixOf_written (by simp),
    ← Bool.and_or_distrib_left]
  simp [markerAhead]

/-! ## Strings -/

theorem length_le_written (cs : List Char) : cs.length ≤ (written cs).length := by
  induction cs with
  | nil => exact Nat.le_refl _
  | cons c cs ih =>
    have hchar : 0 < (Writer.char c).length := by
      rcases writer_char_cases c with ⟨hchar, _⟩ | ⟨_, _, hchar, _⟩ <;> rw [hchar] <;> simp
    rw [written_cons, List.length_append, List.length_cons]
    omega

/-- One word of a string: behind it the string ends, or there is a gap. -/
theorem quoted_word {word : List Char} (hword : ∀ c ∈ word, isGapChar c = false) {cur : Cursor}
    (hmarker : cur.atDocumentMarker = false) {tail : List Char}
    (hcur : cur.rest = written word ++ tail)
    (htail : tail.head?.any (fun d => isSpace d || d = '"') = true) (fuel : Nat)
    (text : List Char) :
    quoted false (fuel + 1) text cur =
      if tail.head? = some '"' then
        .ok (text ++ word, (cur.skipMany (written word).length).skip)
      else
        (gap 0 (tail.length + 1) {} (cur.skipMany (written word).length)).bind fun (g, c) =>
          quoted false fuel (text ++ word ++ g.text) c := by
  have hrest : (cur.skipMany (written word).length).rest = tail := by
    rw [Cursor.skipMany, hcur, List.drop_left]
  have hsome : cur.rest.isEmpty = false := by
    rw [hcur]
    cases tail with
    | nil => cases htail
    | cons d tail => simp
  have hfuel : word.length < cur.rest.length + 1 := by
    rw [hcur, List.length_append]
    exact Nat.lt_succ_of_le (Nat.le_trans (length_le_written word) (Nat.le_add_right _ _))
  rw [quoted, hmarker, hsome, quotedWord_written hword hcur htail hfuel]
  simp only [Bool.false_eq_true, if_false, bind, Except.bind, hrest, List.reverse_nil,
    List.nil_append]
  rfl

theorem written_of_isGapChar {ws : List Char} (h : ∀ c ∈ ws, isGapChar c = true) :
    written ws = ws := by
  induction ws with
  | nil => rfl
  | cons c ws ih =>
    rw [written_cons, writer_char_of_isGapChar (h c (List.mem_cons_self ..)),
      ih fun d hd => h d (List.mem_cons_of_mem _ hd), List.singleton_append]

/-- The front of a list that satisfies `p`, and what follows it. -/
theorem exists_span (p : Char → Bool) (cs : List Char) :
    ∃ front rest, cs = front ++ rest ∧ (∀ c ∈ front, p c = true) ∧ rest.head?.any p = false := by
  induction cs with
  | nil => exact ⟨[], [], rfl, fun _ hc => absurd hc List.not_mem_nil, rfl⟩
  | cons c cs ih =>
    cases hc : p c with
    | false => exact ⟨[], c :: cs, rfl, fun _ hc => absurd hc List.not_mem_nil, hc⟩
    | true =>
      obtain ⟨front, rest, rfl, hfront, hrest⟩ := ih
      exact ⟨c :: front, rest, rfl, List.forall_mem_cons.mpr ⟨hc, hfront⟩, hrest⟩

theorem isSpace_of_isGapChar {c : Char} (h : isGapChar c = true) : isSpace c = true := by
  rcases isGapChar_iff.mp h with rfl | rfl | h
  · rfl
  · rfl
  · rw [isSpace, isBreak_of_isSeparator h, Bool.or_true]

/-- A line that begins with a mark is an error on either side. -/
theorem quoted_of_marker {cs rest : List Char} {cur : Cursor}
    (hcur : cur.rest = written cs ++ '"' :: rest) (hmarker : cur.atDocumentMarker = true)
    (fuel : Nat) (text : List Char) :
    quoted false (fuel + 1) text cur = .error .unexpectedDocumentMarker ∧
      fold (cur.column == 0) {} cs = .error .unexpectedDocumentMarker := by
  refine ⟨by rw [quoted, hmarker]; rfl, ?_⟩
  rw [atDocumentMarker_written hcur] at hmarker
  cases cs with
  | nil => simp [markerAhead] at hmarker
  | cons c cs =>
    cases hc : isGapChar c with
    | true => simp [markerAhead_of_isGapChar hc] at hmarker
    | false => rw [fold_wordChar hc, if_pos hmarker]

/-- A word with a gap behind it, up to the next word. -/
theorem quoted_word_gap {word ws cs rest : List Char} (hword : ∀ c ∈ word, isGapChar c = false)
    (hws : ∀ c ∈ ws, isGapChar c = true) (hne : ws ≠ []) (hcs : cs.head?.any isGapChar = false)
    {cur : Cursor} (hmarker : cur.atDocumentMarker = false)
    (hcur : cur.rest = written (word ++ (ws ++ cs)) ++ '"' :: rest) (fuel : Nat)
    (text : List Char) :
    ∃ cur', cur'.rest = written cs ++ '"' :: rest ∧
      (cur'.column == 0) = (ws.getLast?.map isBreak).getD false ∧
      quoted false (fuel + 1) text cur =
        quoted false fuel (text ++ word ++ (gapOf ws).text) cur' := by
  obtain ⟨c, ws, rfl⟩ := List.exists_cons_of_ne_nil hne
  have hc := hws c (List.mem_cons_self ..)
  have hgap : written (word ++ (c :: ws ++ cs)) ++ '"' :: rest =
      written word ++ (c :: ws ++ (written cs ++ '"' :: rest)) := by
    rw [written_append, written_append, written_of_isGapChar hws, List.append_assoc,
      List.append_assoc]
  rw [hgap] at hcur
  have hrest : (cur.skipMany (written word).length).rest =
      c :: ws ++ (written cs ++ '"' :: rest) := by
    rw [Cursor.skipMany, hcur, List.drop_left]
  have hfuel : (c :: ws).length < (c :: ws ++ (written cs ++ '"' :: rest)).length + 1 := by
    rw [List.length_append]
    omega
  obtain ⟨cur', hread, hrest', hcolumn⟩ := gap_append hws hrest
    ((separates_written cs rest).trans hcs) hfuel {}
  refine ⟨cur', hrest', by rw [hcolumn, List.getLast?_cons]; rfl, ?_⟩
  have hquote : (c :: ws ++ (written cs ++ '"' :: rest)).head? ≠ some '"' := by
    intro h
    rw [Option.some.inj h] at hc
    cases hc
  rw [quoted_word hword hmarker hcur (by simp [isSpace_of_isGapChar hc]), if_neg hquote, hread]
  rfl

/-- A written string is read as what folding makes of it. -/
theorem quoted_written {cs rest : List Char} {cur : Cursor}
    (hcur : cur.rest = written cs ++ '"' :: rest) {fuel : Nat} (hfuel : cs.length < fuel)
    (text : List Char) :
    ∃ cur', cur'.rest = rest ∧
      quoted false fuel text cur =
        (fold (cur.column == 0) {} cs).map fun t => (text ++ t, cur') := by
  induction fuel generalizing cs cur text with
  | zero => exact absurd hfuel (Nat.not_lt_zero _)
  | succ fuel ih =>
    cases hmarker : cur.atDocumentMarker with
    | true =>
      obtain ⟨hread, hfold⟩ := quoted_of_marker hcur hmarker fuel text
      exact ⟨⟨rest, 0, 0, 0⟩, rfl, by rw [hread, hfold]; rfl⟩
    | false =>
      rw [fold_of_not_marker ((atDocumentMarker_written hcur).symm.trans hmarker)]
      -- the first word, the gap behind it, and what follows the gap
      obtain ⟨word, r, rfl, hword, hr⟩ := exists_span (fun c => !isGapChar c) cs
      obtain ⟨ws, cs, rfl, hws, hcs⟩ := exists_span isGapChar r
      simp only [Bool.not_eq_true'] at hword
      by_cases hne : ws = []
      · subst hne
        have hnil : cs = [] := by
          cases cs with
          | nil => rfl
          | cons c cs =>
            have hgap : isGapChar c = false := hcs
            simp [hgap] at hr
        subst hnil
        rw [List.append_nil, List.append_nil] at hcur
        have hrest : (cur.skipMany (written word).length).rest = '"' :: rest := by
          rw [Cursor.skipMany, hcur, List.drop_left]
        refine ⟨(cur.skipMany (written word).length).skip, by rw [Cursor.skip, hrest]; rfl, ?_⟩
        rw [quoted_word hword hmarker hcur (by simp), folded_word_append hword]
        simp [folded, fold, Gap.text, Except.map]
      · obtain ⟨cur', hrest, hcolumn, hread⟩ :=
          quoted_word_gap hword hws hne hcs hmarker hcur fuel text
        have hshorter : cs.length < fuel := by
          have hpos := List.length_pos_iff.mpr hne
          simp only [List.length_append] at hfuel
          omega
        obtain ⟨cur'', hrest', hquoted⟩ := ih hrest hshorter (text ++ word ++ (gapOf ws).text)
        refine ⟨cur'', hrest', ?_⟩
        rw [hread, hquoted, hcolumn, folded_word_append hword, folded_gap_append hws hcs]
        cases fold ((ws.getLast?.map isBreak).getD false) {} cs with
        | error e => rfl
        | ok t => simp [Except.map, List.append_assoc]

end Token

end TracerConfig.Yaml
