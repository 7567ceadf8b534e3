import TracerConfig.Proofs.Json
import TracerConfig.Proofs.QuotedText
import TracerConfig.Yaml.TokenStream

/-!
# Scanning bracketed collections

The text that JSON has for strings, arrays and objects is text of a document: in brackets neither
lines nor columns count, and a key between quotes is recognized by the colon right behind it. So
the tokens of such a text are put together from those of its parts, wherever it stands. It can
only fail at a string with a line that begins with the mark of a document.

Main definitions:
* `Scan.Loose`: a place where neither indentation nor a missing key can matter.
* `ScansValue`, `ScansEntry`: what a text adds to the tokens wherever it stands as a value, or as
  an entry of a collection.

Main statements:
* `ScansValue.string`, `ScansValue.array`, `ScansValue.object`: the tokens of strings, of arrays,
  and of objects.
* `ScansValue.streamOf`: the tokens of a text as a whole.
-/

namespace TracerConfig.Yaml

namespace Scan

/-! ## Steps -/

/-- No block collection is open, and no key is missing if none comes. -/
structure Loose (s : Scan) : Prop where
  indent : s.indent = none
  keys : ∀ k ∈ s.keys, ∀ place ∈ k, place.required = false

/-- A run goes on as one from another place. A character is left for every token to come, and there
are two steps more. -/
def Reaches (s s' : Scan) : Prop :=
  ∀ fuel, s.cursor.rest.length + 1 < fuel →
    ∃ fuel', s'.cursor.rest.length + 1 < fuel' ∧ run fuel s = run fuel' s'

/-- A run fails. -/
def Fails (s : Scan) (e : Error) : Prop :=
  ∀ fuel, s.cursor.rest.length + 1 < fuel → run fuel s = .error e

theorem Reaches.refl (s : Scan) : s.Reaches s := fun fuel h => ⟨fuel, h, rfl⟩

theorem Reaches.trans {s s' s'' : Scan} (h : s.Reaches s') (h' : s'.Reaches s'') :
    s.Reaches s'' := by
  intro fuel hfuel
  obtain ⟨fuel', hfuel', hrun⟩ := h fuel hfuel
  obtain ⟨fuel'', hfuel'', hrun'⟩ := h' fuel' hfuel'
  exact ⟨fuel'', hfuel'', hrun.trans hrun'⟩

theorem Reaches.fails {s s' : Scan} (h : s.Reaches s') {e : Error} (h' : s'.Fails e) :
    s.Fails e := by
  intro fuel hfuel
  obtain ⟨fuel', hfuel', hrun⟩ := h fuel hfuel
  exact hrun.trans (h' fuel' hfuel')

/-- A scan with other places of keys. -/
def withKeys (s : Scan) (keys : List (Option KeyPlace)) : Scan := { s with keys := keys }

/-- A scan without the places of keys that have become impossible. -/
def fresh (s : Scan) : Scan :=
  s.withKeys (s.keys.map fun k => if k.any (expired s.cursor) then none else k)

/-- The place of a key at the cursor. -/
def place (s : Scan) : KeyPlace :=
  ⟨false, s.tokenCount, s.cursor.index, s.cursor.line, s.cursor.column⟩

namespace Loose

variable {s : Scan} (h : s.Loose)
include h

theorem fresh : s.fresh.Loose where
  indent := h.indent
  keys k hk place hplace := by
    obtain ⟨k', hk', rfl⟩ := List.mem_map.mp hk
    split at hplace
    · cases hplace
    · exact h.keys k' hk' place hplace

theorem dropExpired : s.dropExpired = .ok s.fresh := by
  have hnone : (s.keys.any fun k => k.any (expired s.cursor) && k.any (·.required)) = false := by
    rw [List.any_eq_false]
    intro k hk
    cases k with
    | none => simp
    | some place => simp [h.keys _ hk place rfl]
  simp only [Scan.dropExpired, hnone, Bool.false_eq_true, if_false]
  rfl

theorem unindent (column : Option Nat) : s.unindent column = s := by
  rw [Scan.unindent]
  split
  · rfl
  · rw [closeBlocks.eq_def]
    simp only [h.indent]

theorem dropKey : ∃ keys, s.dropKey = .ok (s.withKeys keys) ∧ (s.withKeys keys).Loose := by
  rw [Scan.dropKey]
  split
  · next place rest hkeys =>
    have hplace : place.required = false :=
      h.keys (some place) (hkeys ▸ List.mem_cons_self ..) place rfl
    rw [hplace]
    refine ⟨none :: rest, rfl, h.indent, List.forall_mem_cons.mpr ⟨nofun, fun k hk => ?_⟩⟩
    exact h.keys k (hkeys ▸ List.mem_cons_of_mem _ hk)
  · exact ⟨s.keys, rfl, h⟩

theorem markKey_of_allowed (hallowed : s.keyAllowed = true) :
    ∃ keys, s.markKey = .ok (s.withKeys (some s.place :: keys)) ∧
      (s.withKeys (some s.place :: keys)).Loose := by
  obtain ⟨keys, hdrop, hloose⟩ := h.dropKey
  refine ⟨keys.drop 1, ?_, h.indent, ?_⟩
  · have hrequired : (!s.inFlow && none == some s.cursor.column) = false := by simp
    rw [Scan.markKey, if_pos hallowed, hdrop, h.indent, hrequired]
    rfl
  · refine List.forall_mem_cons.mpr ⟨fun _ hplace => by cases hplace; rfl, fun k hk => ?_⟩
    exact hloose.keys k (List.mem_of_mem_drop hk)

theorem markKey : ∃ keys, s.markKey = .ok (s.withKeys keys) ∧ (s.withKeys keys).Loose := by
  by_cases hallowed : s.keyAllowed = true
  · obtain ⟨keys, hmark, hloose⟩ := h.markKey_of_allowed hallowed
    exact ⟨_, hmark, hloose⟩
  · exact ⟨s.keys, by rw [Scan.markKey, if_neg hallowed]; rfl, h⟩

end Loose

/-! ## Tokens of one character -/

/-- The characters that a token of brackets and quotes begins with. -/
def isMark (c : Char) : Bool := ['[', ']', '\x7b', '\x7d', ',', ':', '"'].contains c

section

variable {s : Scan} {d : Char} {rest : List Char} (hd : isMark d = true)
  (hrest : s.cursor.rest = d :: rest)
include hd hrest

/-- There is nothing to skip in front of a mark. -/
theorem skipToToken_of_isMark (fuel : Nat) : s.skipToToken (fuel + 1) = s := by
  have hne : d ≠ '\uFEFF' ∧ d ≠ ' ' ∧ d ≠ '\t' ∧ d ≠ '#' ∧ isBreak d = false := by
    simp only [isMark, List.contains_iff_mem, List.mem_cons, List.not_mem_nil, or_false] at hd
    rcases hd with rfl | rfl | rfl | rfl | rfl | rfl | rfl <;> decide
  obtain ⟨hmark, hspace, htab, hcomment, hbreak⟩ := hne
  have hskip (tabs : Bool) :
      s.cursor.skipWhile (fun c => c = ' ' || (tabs && c = '\t')) = s.cursor := by
    simp [Cursor.skipWhile, Cursor.takeWhile, Cursor.skipMany, hrest, hspace, htab]
    rw [← hrest]
  have hcomment : s.cursor.skipComment = s.cursor := by
    rw [Cursor.skipComment, hrest]
    split
    · next heq => exact absurd (List.cons.inj heq).1 hcomment
    · rfl
  rw [skipToToken]
  simp [hrest, hmark, hskip, hcomment, hbreak]

theorem run_of_isMark (h : s.Loose) (fuel : Nat) :
    run (fuel + 1) s = s.fresh.scanToken.bind fun s' =>
      match s'.tokens with
      | .streamEnd :: _ => .ok s'.tokens.reverse
      | _ => run fuel s' := by
  rw [run, skipToToken_of_isMark hd hrest, h.dropExpired]
  simp only [bind, Except.bind]
  rw [h.fresh.unindent]
  rfl

/-- One token, read from what is left of the possible keys. -/
theorem reaches_of_isMark (h : s.Loose) {s' : Scan} (hscan : s.fresh.scanToken = .ok s')
    (hlength : s'.cursor.rest.length < s.cursor.rest.length)
    (htoken : s'.tokens.head? ≠ some .streamEnd) : s.Reaches s' := by
  intro fuel hfuel
  obtain ⟨fuel, rfl⟩ := Nat.exists_eq_add_one_of_ne_zero (Nat.ne_zero_of_lt hfuel)
  refine ⟨fuel, by omega, ?_⟩
  rw [run_of_isMark hd hrest h, hscan]
  simp only [Except.bind]
  split
  · next heq => exact absurd (congrArg List.head? heq) htoken
  · rfl

theorem fails_of_isMark (h : s.Loose) {e : Error} (hscan : s.fresh.scanToken = .error e) :
    s.Fails e := by
  intro fuel hfuel
  obtain ⟨fuel, rfl⟩ := Nat.exists_eq_add_one_of_ne_zero (Nat.ne_zero_of_lt hfuel)
  rw [run_of_isMark hd hrest h, hscan]
  rfl

end

/-! ### What the marks stand for -/

section

variable {s : Scan} {rest : List Char}

theorem not_atMarker_of_isMark {d : Char} (hd : isMark d = true)
    (hrest : s.cursor.rest = d :: rest) :
    s.cursor.atMarker ['-', '-', '-'] = false ∧ s.cursor.atMarker ['.', '.', '.'] = false := by
  have hne : ('-' == d) = false ∧ ('.' == d) = false := by
    simp only [isMark, List.contains_iff_mem, List.mem_cons, List.not_mem_nil, or_false] at hd
    rcases hd with rfl | rfl | rfl | rfl | rfl | rfl | rfl <;> decide
  simp [Cursor.atMarker, hrest, List.isPrefixOf, hne]

theorem scanToken_openBracket (hrest : s.cursor.rest = '[' :: rest) :
    s.scanToken = s.openFlow .flowSequenceStart := by
  simp [scanToken, hrest, not_atMarker_of_isMark rfl hrest]

theorem scanToken_openBrace (hrest : s.cursor.rest = '\x7b' :: rest) :
    s.scanToken = s.openFlow .flowMappingStart := by
  simp [scanToken, hrest, not_atMarker_of_isMark rfl hrest]

theorem scanToken_closeBracket (hrest : s.cursor.rest = ']' :: rest) :
    s.scanToken = s.closeFlow .flowSequenceEnd := by
  simp [scanToken, hrest, not_atMarker_of_isMark rfl hrest]

theorem scanToken_closeBrace (hrest : s.cursor.rest = '\x7d' :: rest) :
    s.scanToken = s.closeFlow .flowMappingEnd := by
  simp [scanToken, hrest, not_atMarker_of_isMark rfl hrest]

theorem scanToken_comma (hrest : s.cursor.rest = ',' :: rest) : s.scanToken = s.scanComma := by
  simp [scanToken, hrest, not_atMarker_of_isMark rfl hrest]

theorem scanToken_colon (hflow : s.inFlow = true) (hrest : s.cursor.rest = ':' :: rest) :
    s.scanToken = s.scanColon := by
  simp [scanToken, hrest, not_atMarker_of_isMark rfl hrest, hflow]

theorem scanToken_quote (hrest : s.cursor.rest = '"' :: rest) :
    s.scanToken = s.scanQuoted false := by
  simp [scanToken, hrest, not_atMarker_of_isMark rfl hrest]

end

/-! ### Brackets and commas -/

/-- A place behind the tokens `ts`, in front of `rest`. -/
structure Took (ts : List Token) (rest : List Char) (s s' : Scan) : Prop where
  rest : s'.cursor.rest = rest
  tokens : s'.tokens = ts.reverse ++ s.tokens
  loose : s'.Loose

section

variable {s : Scan} (h : s.Loose) {d : Char} {rest : List Char}
  (hrest : s.cursor.rest = d :: rest) {t : Token}
include h hrest

/-- A token takes a scan from one place to another. -/
theorem reaches_of_took (hd : isMark d = true) (ht : t ≠ .streamEnd) {s' : Scan}
    (hscan : s.fresh.scanToken = .ok s') {rest' : List Char} (hle : rest'.length ≤ rest.length)
    (htook : Took [t] rest' s.fresh s') : s.Reaches s' ∧ Took [t] rest' s s' := by
  refine ⟨reaches_of_isMark hd hrest h hscan ?_ ?_, htook.rest, htook.tokens, htook.loose⟩
  · rw [htook.rest, hrest]
    exact Nat.lt_succ_of_le hle
  · rw [htook.tokens]
    exact fun heq => ht (Option.some.inj heq)

omit h in
theorem rest_skipMany_one : (s.cursor.skipMany 1).rest = rest := by
  rw [Cursor.skipMany, hrest]
  rfl

/-- An opening bracket leads into a collection. -/
theorem took_openFlow (t : Token) :
    ∃ s', s.openFlow t = .ok s' ∧ Took [t] rest s s' ∧ s'.flowLevel = s.flowLevel + 1 ∧
      s'.keyAllowed = true := by
  obtain ⟨keys, hmark, hloose⟩ := h.markKey
  refine ⟨{ ((s.withKeys keys).skipMany 1).push t with
    keys := none :: keys, flowLevel := s.flowLevel + 1, keyAllowed := true }, ?_,
    ⟨rest_skipMany_one hrest, rfl, h.indent, ?_⟩, rfl, rfl⟩
  · rw [openFlow, hmark]
    rfl
  · exact List.forall_mem_cons.mpr ⟨nofun, hloose.keys⟩

/-- A closing bracket leads out of a collection. -/
theorem took_closeFlow (t : Token) :
    ∃ s', s.closeFlow t = .ok s' ∧ Took [t] rest s s' ∧ s'.flowLevel = s.flowLevel - 1 := by
  obtain ⟨keys, hdrop, hloose⟩ := h.dropKey
  refine ⟨{ ((s.withKeys keys).skipMany 1).push t with
    keys := if s.inFlow then keys.drop 1 else keys, flowLevel := s.flowLevel - 1,
    keyAllowed := false }, ?_, ⟨rest_skipMany_one hrest, rfl, h.indent, ?_⟩, rfl⟩
  · rw [closeFlow, hdrop]
    rfl
  · intro k hk
    have hmem : k ∈ keys := by
      simp only at hk
      split at hk
      · exact List.mem_of_mem_drop hk
      · exact hk
    exact hloose.keys k hmem

/-- A comma leads to the next entry. -/
theorem took_scanComma :
    ∃ s', s.scanComma = .ok s' ∧ Took [.flowEntry] rest s s' ∧ s'.flowLevel = s.flowLevel ∧
      s'.keyAllowed = true := by
  obtain ⟨keys, hdrop, hloose⟩ := h.dropKey
  refine ⟨{ ((s.withKeys keys).skipMany 1).push .flowEntry with keyAllowed := true }, ?_,
    ⟨rest_skipMany_one hrest, rfl, h.indent, hloose.keys⟩, rfl, rfl⟩
  rw [scanComma, hdrop]
  rfl

end

/-! ### Strings -/

/-- What comes of a text in front of `rest`: a place behind its tokens, on the same level, or an
error. -/
def Outcome (s : Scan) (rest : List Char) : Except Error (List Token) → Prop
  | .ok ts => ∃ s', s.Reaches s' ∧ Took ts rest s s' ∧ s'.flowLevel = s.flowLevel
  | .error e => s.Fails e

theorem scalar_ne_streamEnd (text : String) (style : Style) :
    Token.scalar text style ≠ .streamEnd := nofun

theorem length_le_written_append (cs rest : List Char) :
    rest.length ≤ (Token.written cs ++ '"' :: rest).length := by
  rw [List.length_append, List.length_cons]
  omega

/-- A string is read behind the place of a key, if there is one. -/
theorem scanToken_string {s : Scan} {keys : List (Option KeyPlace)} {rest : List Char}
    (hrest : s.cursor.rest = '"' :: rest) (hmark : s.markKey = .ok (s.withKeys keys)) :
    s.scanToken = (Token.quoted false (s.cursor.rest.length + 1) [] s.cursor.skip).map
      fun (text, c) => { (s.withKeys keys).push (.scalar (String.ofList text) .doubleQuoted) with
        cursor := c, keyAllowed := false } := by
  rw [scanToken_quote hrest, scanQuoted, hmark]
  simp only [bind, Except.bind]
  cases hquoted : Token.quoted false (s.cursor.rest.length + 1) [] s.cursor.skip <;>
    simp only [withKeys, hquoted] <;> rfl

section

variable {s : Scan} (h : s.Loose) {cs rest : List Char}
  (hrest : s.cursor.rest = '"' :: (Token.written cs ++ '"' :: rest))
include hrest

theorem rest_skip_quote : s.cursor.skip.rest = Token.written cs ++ '"' :: rest := by
  rw [Cursor.skip, hrest]
  rfl

include h

/-- A string is one token, with what folding makes of its characters. -/
theorem outcome_string :
    Outcome s rest
      ((Token.folded cs).map fun t => [.scalar (String.ofList t) .doubleQuoted]) := by
  obtain ⟨keys, hmark, hloose⟩ := h.fresh.markKey
  have hfuel : cs.length < s.cursor.rest.length + 1 := by
    have hle := Token.length_le_written cs
    rw [hrest, List.length_cons, List.length_append]
    omega
  obtain ⟨cur, hcur, hquoted⟩ := Token.quoted_written (rest_skip_quote hrest) hfuel []
  have hcolumn : (s.cursor.skip.column == 0) = false := by simp [Cursor.skip]
  rw [hcolumn, ← Token.folded] at hquoted
  have hcursor : s.fresh.cursor = s.cursor := rfl
  have hscan := scanToken_string (s := s.fresh) hrest hmark
  rw [hcursor, hquoted] at hscan
  cases hfolded : Token.folded cs with
  | error e =>
    rw [hfolded] at hscan
    exact fails_of_isMark rfl hrest h hscan
  | ok t =>
    rw [hfolded] at hscan
    have htook : Took [.scalar (String.ofList t) .doubleQuoted] rest s.fresh
        { (s.fresh.withKeys keys).push (.scalar (String.ofList t) .doubleQuoted) with
          cursor := cur, keyAllowed := false } := ⟨hcur, rfl, h.indent, hloose.keys⟩
    obtain ⟨hreaches, htook⟩ := reaches_of_took h hrest rfl (scalar_ne_streamEnd _ _) hscan
      (length_le_written_append cs rest) htook
    exact ⟨_, hreaches, htook, rfl⟩

end

/-! ### Keys -/

/-- The keys of a collection are short words. -/
def IsKey (key : List Char) : Prop :=
  (∀ c ∈ key, Token.isGapChar c = false) ∧ (Token.written key).length ≤ 1000

/-- A place behind a string that can still become a key, in front of a colon. -/
structure Named (key rest : List Char) (s s' : Scan) : Prop
    extends Took [.scalar (String.ofList key) .doubleQuoted] (':' :: rest) s s' where
  flowLevel : s'.flowLevel = s.flowLevel
  tokenCount : s'.tokenCount = s.tokenCount + 1
  keys : ∃ place keys, s'.keys = some place :: keys ∧ place.tokenCount = s.tokenCount ∧
    expired s'.cursor place = false

/-- A string where a key may start. -/
theorem reaches_named {s : Scan} (h : s.Loose) (hallowed : s.keyAllowed = true)
    {key rest : List Char} (hkey : IsKey key)
    (hrest : s.cursor.rest = '"' :: (Token.written key ++ '"' :: ':' :: rest)) :
    ∃ s', s.Reaches s' ∧ Named key rest s s' := by
  obtain ⟨keys, hmark, hloose⟩ := h.fresh.markKey_of_allowed hallowed
  have hmarker : s.cursor.skip.atDocumentMarker = false := by
    simp [Cursor.atDocumentMarker, Cursor.atMarker, Cursor.skip]
  let behind := (s.cursor.skip.skipMany (Token.written key).length).skip
  have hquoted : Token.quoted false (s.cursor.rest.length + 1) [] s.cursor.skip =
      .ok (key, behind) :=
    Token.quoted_word hkey.1 hmarker (rest_skip_quote hrest) rfl _ _
  have hcursor : s.fresh.cursor = s.cursor := rfl
  have hscan := scanToken_string (s := s.fresh) hrest hmark
  rw [hcursor, hquoted] at hscan
  have hbehind : behind.rest = ':' :: rest := by
    show ((s.cursor.skip.rest.drop (Token.written key).length).drop 1) = _
    rw [rest_skip_quote hrest, List.drop_left]
    rfl
  -- the colon comes soon enough for the place to be there still
  have hkept : expired behind s.fresh.place = false := by
    have hlength := hkey.2
    have hindex : behind.index = s.cursor.index + 1 + (Token.written key).length + 1 := rfl
    have hline : behind.line = s.cursor.line := rfl
    simp [expired, place, Scan.fresh, withKeys, hindex, hline]
    omega
  have htook : Took [.scalar (String.ofList key) .doubleQuoted] (':' :: rest) s.fresh
      { (s.fresh.withKeys (some s.fresh.place :: keys)).push
          (.scalar (String.ofList key) .doubleQuoted) with
        cursor := behind, keyAllowed := false } := ⟨hbehind, rfl, h.indent, hloose.keys⟩
  obtain ⟨hreaches, htook⟩ := reaches_of_took h hrest rfl (scalar_ne_streamEnd _ _) hscan
    (length_le_written_append key _) htook
  exact ⟨_, hreaches, htook, rfl, rfl, _, _, rfl, rfl, hkept⟩

theorem openBlock_of_inFlow {s : Scan} (h : s.inFlow = true) (column count : Nat) (t : Token) :
    s.openBlock column count t = s := by
  rw [openBlock, h]
  rfl

/-- The colon puts the mark of a key in front of the string, and that of a value behind it. -/
theorem Named.reaches {s s' : Scan} {key rest : List Char} (h : Named key rest s s')
    (hflow : s.inFlow = true) :
    ∃ s'', s'.Reaches s'' ∧
      Took [.key, .scalar (String.ofList key) .doubleQuoted, .value] rest s s'' ∧
      s''.flowLevel = s.flowLevel := by
  obtain ⟨place, keys, hkeys, hcount, hkept⟩ := h.keys
  let keys' := keys.map fun k => if k.any (expired s'.cursor) then none else k
  have hfresh : s'.fresh.keys = some place :: keys' := by
    show s'.keys.map _ = _
    rw [hkeys, List.map_cons, Option.any_some, hkept]
    rfl
  have hflow' : (s'.fresh.insert place.tokenCount .key).inFlow = true := by
    show (s'.flowLevel != 0) = true
    rw [h.flowLevel]
    exact hflow
  let valued : Scan := { ((s'.fresh.insert place.tokenCount .key).skipMany 1).push .value with
    keys := none :: keys', keyAllowed := false }
  have hcolon : s'.fresh.scanToken = .ok valued := by
    have hflow'' : s'.fresh.inFlow = true := hflow'
    rw [scanToken_colon hflow'' h.rest, scanColon, hfresh]
    simp only
    rw [openBlock_of_inFlow hflow']
    rfl
  have hrest : valued.cursor.rest = rest := rest_skipMany_one h.rest
  have htokens : valued.tokens = .value :: .scalar (String.ofList key) .doubleQuoted :: .key ::
      s.tokens := by
    have hone : s'.tokenCount - place.tokenCount = 1 := by
      rw [h.tokenCount, hcount, Nat.add_sub_cancel_left]
    show .value :: (s'.tokens.take (s'.tokenCount - place.tokenCount) ++
      .key :: s'.tokens.drop (s'.tokenCount - place.tokenCount)) = _
    rw [hone, h.tokens]
    rfl
  refine ⟨valued, reaches_of_isMark rfl h.rest h.loose hcolon ?_ nofun,
    ⟨hrest, htokens, h.loose.indent, ?_⟩, h.flowLevel⟩
  · rw [hrest, h.rest]
    exact Nat.lt_succ_self _
  · refine List.forall_mem_cons.mpr ⟨nofun, fun k hk => ?_⟩
    exact h.loose.fresh.keys k (hfresh ▸ List.mem_cons_of_mem _ hk)

/-- A string is a key if a colon stands right behind it. -/
theorem reaches_key {s : Scan} (h : s.Loose) (hflow : s.inFlow = true)
    (hallowed : s.keyAllowed = true) {key rest : List Char} (hkey : IsKey key)
    (hrest : s.cursor.rest = '"' :: (Token.written key ++ '"' :: ':' :: rest)) :
    ∃ s', s.Reaches s' ∧
      Took [.key, .scalar (String.ofList key) .doubleQuoted, .value] rest s s' ∧
      s'.flowLevel = s.flowLevel := by
  obtain ⟨s', hreaches, hnamed⟩ := reaches_named h hallowed hkey hrest
  obtain ⟨s'', hreaches', htook, hlevel⟩ := hnamed.reaches hflow
  exact ⟨s'', hreaches.trans hreaches', htook, hlevel⟩

/-! ### One after the other -/

/-- Tokens in front of what comes of the text behind them. -/
theorem Outcome.of_reaches {s s' : Scan} {mid rest : List Char} {ts : List Token}
    (hreaches : s.Reaches s') (htook : Took ts mid s s') (hlevel : s'.flowLevel = s.flowLevel)
    {r : Except Error (List Token)} (h : Outcome s' rest r) :
    Outcome s rest (r.map (ts ++ ·)) := by
  cases r with
  | error e => exact hreaches.fails h
  | ok us =>
    obtain ⟨s'', hreaches', htook', hlevel'⟩ := h
    refine ⟨s'', hreaches.trans hreaches', ⟨htook'.rest, ?_, htook'.loose⟩, hlevel'.trans hlevel⟩
    rw [htook'.tokens, htook.tokens, List.reverse_append, List.append_assoc]

/-- The outcome of two texts, the second one met behind the first one. -/
theorem Outcome.append {s : Scan} {mid rest : List Char} {r q : Except Error (List Token)}
    (h : Outcome s mid r)
    (hq : ∀ s' ts, Took ts mid s s' → s'.flowLevel = s.flowLevel → Outcome s' rest q) :
    Outcome s rest (r.bind fun ts => q.map (ts ++ ·)) := by
  cases r with
  | error e => exact h
  | ok ts =>
    obtain ⟨s', hreaches, htook, hlevel⟩ := h
    exact .of_reaches hreaches htook hlevel (hq s' ts htook hlevel)

end Scan

/-! ## Texts -/

open Scan

/-- Wherever a text stands as a value, it adds the tokens `r`, or fails with the error in `r`. -/
def ScansValue (cs : List Char) (r : Except Error (List Token)) : Prop :=
  ∀ (s : Scan) (rest : List Char), s.Loose → s.cursor.rest = cs ++ rest → Outcome s rest r

/-- Wherever a text stands as an entry of a collection, it adds the tokens `r`, or fails with the
error in `r`. -/
def ScansEntry (cs : List Char) (r : Except Error (List Token)) : Prop :=
  ∀ (s : Scan) (rest : List Char), s.Loose → s.inFlow = true → s.keyAllowed = true →
    s.cursor.rest = cs ++ rest → Outcome s rest r

theorem ScansValue.entry {cs : List Char} {r : Except Error (List Token)} (h : ScansValue cs r) :
    ScansEntry cs r := fun s rest hs _ _ hrest => h s rest hs hrest

/-- The token of a string. -/
def stringToken (cs : List Char) : Except Error (List Token) :=
  (Token.folded cs).map fun t => [.scalar (String.ofList t) .doubleQuoted]

/-- The tokens of entries with commas between them. -/
def commaTokens : List (Except Error (List Token)) → Except Error (List Token)
  | [] => .ok []
  | [r] => r
  | r :: q :: rest => r.bind fun ts => (commaTokens (q :: rest)).map fun us =>
      ts ++ .flowEntry :: us

theorem ScansValue.string (s : String) :
    ScansValue (Json.Writer.string s) (stringToken s.toList) :=
  fun _ rest h hrest => outcome_string h (hrest.trans (Json.string_append s rest))

/-- A member of an object: its key, and its value behind a colon. -/
theorem ScansValue.member {key : String} (hkey : IsKey key.toList) {cs : List Char}
    {r : Except Error (List Token)} (h : ScansValue cs r) :
    ScansEntry (Json.Writer.string key ++ ':' :: cs)
      (r.map ([.key, .scalar key .doubleQuoted, .value] ++ ·)) := by
  intro s rest hs hflow hallowed hrest
  rw [List.append_assoc, Json.string_append] at hrest
  obtain ⟨s', hreaches, htook, hlevel⟩ := reaches_key hs hflow hallowed hkey hrest
  rw [String.ofList_toList] at htook
  exact .of_reaches hreaches htook hlevel (h s' rest htook.loose htook.rest)

/-- Behind a comma the next entry can begin. -/
theorem outcome_comma {s : Scan} (h : s.Loose) {rest mid : List Char}
    (hmid : s.cursor.rest = ',' :: mid) {r : Except Error (List Token)}
    (hr : ∀ s' : Scan, s'.Loose → s'.flowLevel = s.flowLevel → s'.keyAllowed = true →
      s'.cursor.rest = mid → Outcome s' rest r) :
    Outcome s rest (r.map (.flowEntry :: ·)) := by
  obtain ⟨s', hscan, htook, hlevel, hallowed⟩ := took_scanComma h.fresh hmid
  have ht : Token.flowEntry ≠ .streamEnd := nofun
  obtain ⟨hreaches, htook⟩ := reaches_of_took h hmid rfl ht
    ((scanToken_comma (s := s.fresh) hmid).trans hscan) (Nat.le_refl _) htook
  exact .of_reaches hreaches htook hlevel (hr s' htook.loose hlevel hallowed htook.rest)

theorem inFlow_of_flowLevel {s s' : Scan} (hlevel : s'.flowLevel = s.flowLevel) :
    s'.inFlow = s.inFlow := by
  rw [inFlow, inFlow, hlevel]

/-- Entries with commas between them. -/
theorem ScansEntry.commaList {texts : List (List Char)} {rs : List (Except Error (List Token))}
    (h : List.Forall₂ ScansEntry texts rs) :
    ScansEntry (Json.Writer.commaList texts) (commaTokens rs) := by
  induction h with
  | nil => exact fun s rest hs _ _ hrest => ⟨s, .refl s, ⟨hrest, rfl, hs⟩, rfl⟩
  | @cons cs r texts rs hfirst hothers ih =>
    cases hothers with
    | nil => exact hfirst
    | @cons cs' r' texts rs hnext hothers =>
      intro s rest hs hflow hallowed hrest
      rw [Json.Writer.commaList, List.append_assoc, List.cons_append] at hrest
      have hbehind (s' : Scan) (ts : List Token)
          (htook : Took ts (',' :: (Json.Writer.commaList (cs' :: texts) ++ rest)) s s')
          (hlevel : s'.flowLevel = s.flowLevel) :
          Outcome s' rest ((commaTokens (r' :: rs)).map (.flowEntry :: ·)) := by
        refine outcome_comma htook.loose htook.rest fun s'' hs'' hlevel' hallowed' hrest' => ?_
        exact ih s'' rest hs'' (by rw [inFlow_of_flowLevel (hlevel'.trans hlevel), hflow])
          hallowed' hrest'
      have hall := (hfirst s _ hs hflow hallowed hrest).append hbehind
      rw [commaTokens]
      cases hts : commaTokens (r' :: rs) <;> rw [hts] at hall <;> exact hall

/-- Entries in brackets. -/
theorem ScansValue.bracketed {o c : Char} {t u : Token}
    (hopen : ∀ (s : Scan) rest, s.cursor.rest = o :: rest → s.scanToken = s.openFlow t)
    (hclose : ∀ (s : Scan) rest, s.cursor.rest = c :: rest → s.scanToken = s.closeFlow u)
    (ho : isMark o = true) (hc : isMark c = true) (ht : t ≠ .streamEnd) (hu : u ≠ .streamEnd)
    {texts : List (List Char)} {rs : List (Except Error (List Token))}
    (h : List.Forall₂ ScansEntry texts rs) :
    ScansValue (o :: Json.Writer.commaList texts ++ [c])
      ((commaTokens rs).map fun ts => t :: ts ++ [u]) := by
  intro s rest hs hrest
  rw [List.cons_append, List.cons_append, List.append_assoc, List.singleton_append] at hrest
  obtain ⟨s₁, hscan, htook, hlevel, hallowed⟩ := took_openFlow hs.fresh hrest t
  obtain ⟨hreaches, htook⟩ := reaches_of_took hs hrest ho ht
    ((hopen s.fresh _ hrest).trans hscan) (Nat.le_refl _) htook
  have hflow : s₁.inFlow = true := by
    rw [inFlow, hlevel]
    rfl
  have hentries := ScansEntry.commaList h s₁ (c :: rest) htook.loose hflow hallowed htook.rest
  cases hts : commaTokens rs with
  | error e =>
    rw [hts] at hentries
    exact hreaches.fails hentries
  | ok ts =>
    rw [hts] at hentries
    obtain ⟨s₂, hreaches₂, htook₂, hlevel₂⟩ := hentries
    obtain ⟨s₃, hscan₃, htook₃, hlevel₃⟩ := took_closeFlow htook₂.loose.fresh htook₂.rest u
    obtain ⟨hreaches₃, htook₃⟩ := reaches_of_took htook₂.loose htook₂.rest hc hu
      ((hclose s₂.fresh _ htook₂.rest).trans hscan₃) (Nat.le_refl _) htook₃
    refine ⟨s₃, hreaches.trans (hreaches₂.trans hreaches₃), ⟨htook₃.rest, ?_, htook₃.loose⟩, ?_⟩
    · rw [htook₃.tokens, htook₂.tokens, htook.tokens]
      simp
    · rw [hlevel₃]
      show s₂.flowLevel - 1 = _
      rw [hlevel₂, hlevel]
      rfl

/-- An array. -/
theorem ScansValue.array {texts : List (List Char)} {rs : List (Except Error (List Token))}
    (h : List.Forall₂ ScansEntry texts rs) :
    ScansValue ('[' :: Json.Writer.commaList texts ++ [']'])
      ((commaTokens rs).map fun ts => .flowSequenceStart :: ts ++ [.flowSequenceEnd]) :=
  .bracketed (fun _ _ => scanToken_openBracket) (fun _ _ => scanToken_closeBracket) rfl rfl nofun
    nofun h

/-- An object. -/
theorem ScansValue.object {texts : List (List Char)} {rs : List (Except Error (List Token))}
    (h : List.Forall₂ ScansEntry texts rs) :
    ScansValue ('\x7b' :: Json.Writer.commaList texts ++ ['\x7d'])
      ((commaTokens rs).map fun ts => .flowMappingStart :: ts ++ [.flowMappingEnd]) :=
  .bracketed (fun _ _ => scanToken_openBrace) (fun _ _ => scanToken_closeBrace) rfl rfl nofun
    nofun h

/-! ## The stream -/

/-- At the end of the text a run ends. -/
theorem run_of_rest_nil {s : Scan} (h : s.Loose) (hrest : s.cursor.rest = []) {fuel : Nat}
    (hfuel : 0 < fuel) : run fuel s = .ok (s.tokens.reverse ++ [.streamEnd]) := by
  obtain ⟨fuel, rfl⟩ := Nat.exists_eq_add_one_of_ne_zero (Nat.ne_of_gt hfuel)
  have hskip : s.skipToToken (s.cursor.rest.length + 1) = s := by
    have hwhile (tabs : Bool) :
        s.cursor.skipWhile (fun c => c = ' ' || (tabs && c = '\t')) = s.cursor := by
      simp [Cursor.skipWhile, Cursor.takeWhile, Cursor.skipMany, hrest]
      rw [← hrest]
    have hcomment : s.cursor.skipComment = s.cursor := by rw [Cursor.skipComment, hrest]
    rw [skipToToken]
    simp [hrest, hwhile, hcomment]
  obtain ⟨keys, hdrop, hloose⟩ := h.fresh.dropKey
  have hend : s.fresh.scanToken =
      .ok { (s.fresh.withKeys keys).push .streamEnd with keyAllowed := false } := by
    have hfresh : s.fresh.cursor.rest = [] := hrest
    rw [scanToken]
    simp only [hfresh]
    rw [endStream, h.fresh.unindent, hdrop]
    rfl
  rw [run, hskip, h.dropExpired]
  simp only [bind, Except.bind]
  rw [h.fresh.unindent, hend]
  simp only [push]
  rw [List.reverse_cons]
  rfl

/-- The tokens of a text as a whole. -/
theorem ScansValue.streamOf {cs : List Char} {r : Except Error (List Token)} (h : ScansValue cs r)
    (hmark : cs.head? ≠ some '\uFEFF') :
    Token.streamOf (String.ofList cs) =
      if cs.all isAllowed then r.map (· ++ [.streamEnd]) else .error .badCharacter := by
  have hstrip : Token.streamOf (String.ofList cs) =
      if cs.all isAllowed then Scan.run (cs.length + 2) { cursor := { rest := cs } }
      else .error .badCharacter := by
    rw [Token.streamOf, String.toList_ofList]
    split
    · next rest => exact absurd rfl hmark
    · rfl
  have hstart : Scan.Loose { cursor := { rest := cs } } :=
    ⟨rfl, List.forall_mem_singleton.mpr nofun⟩
  have houtcome := h { cursor := { rest := cs } } [] hstart (List.append_nil cs).symm
  rw [hstrip]
  cases cs.all isAllowed with
  | false => rfl
  | true =>
    cases r with
    | error e => exact houtcome _ (Nat.lt_succ_self _)
    | ok ts =>
      obtain ⟨s', hreaches, htook, _⟩ := houtcome
      obtain ⟨fuel, hfuel, hrun⟩ := hreaches _ (Nat.lt_succ_self _)
      refine hrun.trans ?_
      rw [run_of_rest_nil htook.loose htook.rest (Nat.zero_lt_of_lt hfuel), htook.tokens]
      simp [Except.map]

end TracerConfig.Yaml
