import Mathlib.Data.List.Forall2
import TracerConfig.Proofs.FreeText
import TracerConfig.Proofs.Guarantees
import TracerConfig.Proofs.Sanitize
import TracerConfig.Proofs.SpecDocument

/-!
# The lines of a report

A report is meant to have an entry a line. Texts are written as they are, so this holds as long as
none of them has a line feed. Keys, words, numbers and filters never have one, and masking neither
adds nor removes any; but free text may, and what stands behind a line feed in it begins a line
that can look like an entry.

Main definitions:
* `Text.lines`: the lines of a text.
* `Delta.OneLinePerEntry`: the lines of a report are its entries.

Main statements:
* `length_lines_render`, `oneLinePerEntry_iff`: a report has a line for each entry and for each
  line feed in its texts.
* `lineFeed_notMem_rendered`: only free text has line feeds.
* `oneLinePerEntry_sanitize_iff`: which reports have an entry a line.
* `entry_forged`: the text of a report does not tell its entries.
-/

namespace TracerConfig

/-! ## Lines -/

namespace Text

/-- The lines of a text, which are what line feeds cut it into. The empty text has none. -/
def lines (text : List Char) : List (List Char) :=
  if text = [] then [] else text.splitOn '\n'

theorem length_splitOn (c : Char) (text : List Char) :
    (text.splitOn c).length = text.count c + 1 := by
  induction text with
  | nil => rfl
  | cons d ds ih =>
    rw [List.splitOn_cons_eq_if_modifyHead, List.count_cons]
    split
    · rw [List.length_cons, ih]
    · rw [List.length_modifyHead, ih]

/-- Joined texts are cut where they were joined, and each one on its own. -/
theorem splitOn_intercalate (c : Char) {texts : List (List Char)} (h : texts ≠ []) :
    ([c].intercalate texts).splitOn c = texts.flatMap (·.splitOn c) := by
  induction texts with
  | nil => exact absurd rfl h
  | cons t ts ih =>
    cases ts with
    | nil => rw [List.intercalate_singleton, List.flatMap_singleton]
    | cons t' ts' =>
      rw [List.intercalate_cons_cons, List.append_assoc, List.singleton_append,
        List.splitOn_append_cons_self, ih (List.cons_ne_nil t' ts')]
      rfl

theorem lines_intercalate {texts : List (List Char)} (h : ∀ t ∈ texts, t ≠ []) :
    lines (['\n'].intercalate texts) = texts.flatMap (·.splitOn '\n') := by
  cases texts with
  | nil => rfl
  | cons t ts =>
    have hne : ['\n'].intercalate (t :: ts) ≠ [] := by
      intro hnil
      have ht := h t (List.mem_cons_self ..)
      cases ts <;> simp_all
    unfold lines
    rw [if_neg hne, splitOn_intercalate '\n' (List.cons_ne_nil t ts)]

/-- Replacing copies changes nothing about a character that neither text has. -/
theorem count_replaceFrom {old new : List Char} {c : Char} (hne : old ≠ []) (hold : c ∉ old)
    (hnew : c ∉ new) (text : List Char) : (replaceFrom old new 0 text).count c = text.count c := by
  induction text using copies_induction hne with
  | last text h => rw [replaceFrom_of_no_copy h]
  | copy p q hp ih =>
    rw [replaceFrom_first hne hp]
    simp only [List.count_append, ih, List.count_eq_zero_of_not_mem hold,
      List.count_eq_zero_of_not_mem hnew]
    omega

end Text

/-- A mask has the characters of the key, and stars. -/
theorem ServiceKey.mem_maskList {key : List Char} {c : Char} (h : c ∈ maskList key) :
    c ∈ key ∨ c = '*' := by
  unfold maskList at h
  split at h
  · exact .inl h
  · next token name hsplit =>
    obtain ⟨rfl, -⟩ := Text.splitOnce_eq_some_iff.mp hsplit
    split at h
    · exact .inl h
    · rcases List.mem_append.mp h with htoken | hname
      · unfold maskToken at htoken
        rcases List.mem_append.mp htoken with hfront | hback
        · rcases List.mem_append.mp hfront with hlead | hstar
          · exact .inl (List.mem_append_left _ (List.mem_of_mem_take hlead))
          · exact .inr (List.eq_of_mem_replicate hstar)
        · exact .inl (List.mem_append_left _ (List.mem_of_mem_drop hback))
      · exact .inl (List.mem_append_right _ hname)

namespace Delta

/-! ## Entries and lines -/

/-- The number of line feeds in the texts of a difference. -/
def lineFeeds (d : Delta) : Nat := (d.texts.flatMap String.toList).count '\n'

/-- The report has a line for each entry, in order, that begins with the path of its field. -/
def OneLinePerEntry (d : Delta) : Prop :=
  List.Forall₂ (fun e line => (" - " ++ e.field.path).toList <+: line) d
    (Text.lines d.render.toList)

/-- What stands in front of the texts of an entry. -/
def Entry.label (e : Entry) : String :=
  " - " ++ e.field.path ++
    match e.field.primaryVariable with
    | some v => " (" ++ v ++ ")"
    | none => ""

theorem Entry.render_eq (e : Entry) :
    e.render = e.label ++ " = " ++ e.value ++ " (default: " ++ e.default ++ ")" := rfl

theorem Entry.path_isPrefix (e : Entry) : (" - " ++ e.field.path).toList <+: e.render.toList := by
  rw [e.render_eq, label]
  simp only [String.toList_append, List.append_assoc]
  simp only [← List.append_assoc " - ".toList]
  exact List.prefix_append _ _

theorem lineFeed_notMem_path (f : Field) : '\n' ∉ f.path.toList := by
  have hpaths : ∀ g ∈ Field.all, '\n' ∉ g.path.toList := by decide +kernel
  exact hpaths f (Field.mem_all f)

theorem lineFeed_notMem_primaryVariable {f : Field} {name : String}
    (h : f.primaryVariable = some name) : '\n' ∉ name.toList := by
  have hnames : ∀ g ∈ Field.all, ∀ n ∈ g.primaryVariable, '\n' ∉ n.toList := by decide +kernel
  exact hnames f (Field.mem_all f) name h

theorem Entry.count_label (e : Entry) : e.label.toList.count '\n' = 0 := by
  have hpath := lineFeed_notMem_path e.field
  unfold label
  rw [List.count_eq_zero]
  split
  · next name hname =>
    have hvariable := lineFeed_notMem_primaryVariable hname
    simp [String.toList_append, hpath, hvariable]
  · simp [String.toList_append, hpath]

/-- Only the two texts of an entry can have line feeds. -/
theorem Entry.count_render (e : Entry) :
    e.render.toList.count '\n' = e.value.toList.count '\n' + e.default.toList.count '\n' := by
  have hequals : " = ".toList.count '\n' = 0 := rfl
  have hdefault : " (default: ".toList.count '\n' = 0 := rfl
  have hclose : ")".toList.count '\n' = 0 := rfl
  rw [e.render_eq]
  simp only [String.toList_append, List.count_append, e.count_label, hequals, hdefault, hclose]
  omega

theorem lineFeeds_cons (e : Entry) (d : Delta) :
    lineFeeds (e :: d) = e.render.toList.count '\n' + lineFeeds d := by
  have htexts : texts (e :: d) = e.value :: e.default :: texts d := rfl
  unfold lineFeeds
  rw [htexts, List.flatMap_cons, List.flatMap_cons, List.count_append, List.count_append,
    e.count_render]
  omega

theorem lineFeeds_eq_zero_iff {d : Delta} :
    d.lineFeeds = 0 ↔ ∀ text ∈ d.texts, '\n' ∉ text.toList := by
  unfold lineFeeds
  rw [List.count_eq_zero, List.mem_flatMap]
  constructor
  · intro h text htext hfeed
    exact h ⟨text, htext, hfeed⟩
  · rintro h ⟨text, htext, hfeed⟩
    exact h text htext hfeed

theorem lines_render (d : Delta) :
    Text.lines d.render.toList = d.flatMap fun e => e.render.toList.splitOn '\n' := by
  have hne : ∀ t ∈ (d.map Entry.render).map String.toList, t ≠ [] := by
    intro t ht hnil
    rw [List.map_map] at ht
    obtain ⟨e, -, rfl⟩ := List.mem_map.mp ht
    have hpre := e.path_isPrefix
    rw [show e.render.toList = [] from hnil, List.prefix_nil] at hpre
    simp at hpre
  unfold render
  rw [String.toList_intercalate]
  refine (Text.lines_intercalate hne).trans ?_
  rw [List.map_map, List.flatMap_map]
  rfl

/-- A report has a line for each entry and for each line feed in a text. -/
theorem length_lines_render (d : Delta) :
    (Text.lines d.render.toList).length = d.length + d.lineFeeds := by
  rw [lines_render]
  induction d with
  | nil => rfl
  | cons e d ih =>
    rw [List.flatMap_cons, List.length_append, ih, Text.length_splitOn, List.length_cons,
      lineFeeds_cons]
    omega

/-- A report without line feeds in its texts has its entries for lines. -/
theorem lines_render_of_no_lineFeed {d : Delta} (h : d.lineFeeds = 0) :
    Text.lines d.render.toList = d.map fun e => e.render.toList := by
  rw [lines_render]
  induction d with
  | nil => rfl
  | cons e d ih =>
    rw [lineFeeds_cons] at h
    obtain ⟨hentry, hrest⟩ := Nat.add_eq_zero_iff.mp h
    rw [List.flatMap_cons, List.map_cons, ih hrest,
      List.splitOn_eq_singleton (List.count_eq_zero.mp hentry), List.singleton_append]

/-- A report has an entry a line exactly if there is no line feed in its texts. -/
theorem oneLinePerEntry_iff {d : Delta} : d.OneLinePerEntry ↔ d.lineFeeds = 0 := by
  constructor
  · intro h
    have hlength := h.length_eq
    rw [length_lines_render] at hlength
    omega
  · intro h
    unfold OneLinePerEntry
    rw [lines_render_of_no_lineFeed h, List.forall₂_map_right_iff, List.forall₂_same]
    intro e _
    exact e.path_isPrefix

/-! ## Masking -/

theorem count_hide {keys : List String} (h : ∀ key ∈ keys, key ≠ "" ∧ '\n' ∉ key.toList)
    (text : String) : (hide keys text).toList.count '\n' = text.toList.count '\n' := by
  induction keys generalizing text with
  | nil => rfl
  | cons key keys ih =>
    obtain ⟨⟨hne, hkey⟩, hkeys⟩ := List.forall_mem_cons.mp h
    have hmask : '\n' ∉ ServiceKey.maskList key.toList := by
      intro hmem
      rcases ServiceKey.mem_maskList hmem with hold | hstar
      · exact hkey hold
      · cases hstar
    have hreplace : (Text.replaceAll key (ServiceKey.mask key) text).toList.count '\n' =
        text.toList.count '\n' := by
      unfold Text.replaceAll ServiceKey.mask
      rw [String.toList_ofList, String.toList_ofList]
      exact Text.count_replaceFrom (by simpa using hne) hkey hmask _
    exact (ih hkeys _).trans hreplace

end Delta

/-! ## Texts without line feeds -/

theorem Text.lineFeed_notMem_hexPadded (count n : Nat) : '\n' ∉ hexPadded count n := by
  have hdigit : ∀ d < 16, hexDigit d ≠ '\n' := by decide
  induction count generalizing n with
  | zero => exact List.not_mem_nil
  | succ count ih =>
    intro h
    rcases List.mem_append.mp h with hfront | hlast
    · exact ih _ hfront
    · exact hdigit (n % 16) (Nat.mod_lt n (by decide)) (List.mem_singleton.mp hlast).symm

theorem Integer.lineFeed_notMem_repr (n : Nat) : '\n' ∉ n.repr.toList := by
  intro h
  cases isDigit_of_mem_repr h

theorem Integer.lineFeed_notMem_int (n : Int) : '\n' ∉ n.repr.toList := by
  cases n with
  | ofNat n => exact lineFeed_notMem_repr n
  | negSucc n =>
    have hrepr : (Int.negSucc n).repr = "-" ++ (n + 1).repr := rfl
    rw [hrepr, String.toList_append, List.mem_append]
    rintro (hsign | hdigits)
    · exact absurd hsign (by decide)
    · exact lineFeed_notMem_repr (n + 1) hdigits

/-- A line feed is escaped, so that no written character has one. -/
theorem Json.Writer.lineFeed_notMem_char (c : Char) : '\n' ∉ char c := by
  unfold char
  -- the seven characters with an escape of one letter
  iterate 7
    split
    · decide
  split
  · simp [Text.lineFeed_notMem_hexPadded]
  · next hfeed _ _ _ =>
    intro h
    exact hfeed (List.mem_singleton.mp h).symm

theorem Json.Writer.passes_lineFeed : Passes (fun c => c ≠ '\n') fun _ => true where
  char := by
    intro c
    rw [List.all_eq_true]
    intro d hd
    exact decide_eq_true (ne_of_mem_of_not_mem hd (lineFeed_notMem_char c))
  punctuation := List.all_eq_true.mp (by decide)

theorem Filter.Spec.lineFeed_notMem_renderAll (specs : List Spec) :
    '\n' ∉ (renderAll specs).toList := by
  have hall : (renderAll specs).toList.all (fun c => c ≠ '\n') = true := by
    rw [all_renderAll Json.Writer.passes_lineFeed (by decide)]
    simp
  intro h
  exact absurd rfl (of_decide_eq_true (List.all_eq_true.mp hall _ h))

theorem Field.lineFeed_notMem_renderFlag (b : Bool) : '\n' ∉ (renderFlag b).toList := by
  cases b <;> decide

/-- Only free text has line feeds. -/
theorem lineFeed_notMem_rendered {c : Config} (h : c.Published) {f : Field}
    (hf : f.isFreeText = false) : '\n' ∉ (c.rendered f).toList := by
  have hvalid := h.isValid f
  unfold Config.rendered
  cases f with
  | collector | trustedPath | collectorUdp | hostAlias => cases hf
  | serviceKey =>
    show '\n' ∉ c.serviceKey.toList
    rcases h.serviceKey_parts with hnone | ⟨token, name, hkey, -, hhex, -, -, hname⟩
    · rw [hnone]
      exact List.not_mem_nil
    · rw [hkey, List.mem_append, List.mem_cons]
      rintro (htoken | hcolon | hrest)
      · cases hhex _ htoken
      · cases hcolon
      · cases hname _ hrest
  | reporterType =>
    obtain ⟨r, hr⟩ := hvalid
    rw [hr]
    cases r <;> decide
  | tracingMode =>
    obtain ⟨m, hm⟩ := hvalid
    rw [hm]
    cases m <;> decide
  | debugLevel =>
    obtain ⟨l, hl⟩ := hvalid
    rw [hl]
    cases l <;> decide
  | sampleRate => exact Integer.lineFeed_notMem_int _
  | precision => exact Integer.lineFeed_notMem_repr _
  | reporter s => exact Integer.lineFeed_notMem_repr _
  | prependDomain | skipVerify | disabled => exact Field.lineFeed_notMem_renderFlag _
  | transactionSettings => exact Filter.Spec.lineFeed_notMem_renderAll _

/-! ## Reports of published configurations -/

namespace Delta

section

variable {a b : Config} (ha : a.Published) (hb : b.Published)
include ha hb

/-- The keys to mask have no line feeds. -/
theorem lineFeed_notMem_secrets :
    ∀ key ∈ (between a b).secrets, key ≠ "" ∧ '\n' ∉ key.toList := by
  intro key hkey
  rw [secrets_between] at hkey
  split at hkey
  · cases hkey
  · obtain ⟨hmem, hne⟩ := List.mem_filter.mp hkey
    refine ⟨by simpa using hne, ?_⟩
    rcases List.mem_cons.mp hmem with rfl | hmem
    · exact lineFeed_notMem_rendered hb (f := .serviceKey) rfl
    · cases List.mem_singleton.mp hmem
      exact lineFeed_notMem_rendered ha (f := .serviceKey) rfl

/-- Masking leaves a difference with its line feeds. -/
theorem lineFeeds_sanitize : (between a b).sanitize.lineFeeds = (between a b).lineFeeds := by
  have hcount := count_hide (lineFeed_notMem_secrets ha hb)
  unfold lineFeeds
  rw [texts_sanitize, List.flatMap_map, List.count_flatMap, List.count_flatMap]
  simp only [Function.comp_def, hcount]

/-- There is no line feed in a difference if there is none in the free text of it. -/
theorem lineFeeds_between_eq_zero_iff :
    (between a b).lineFeeds = 0 ↔
      ∀ f : Field, f.isFreeText = true → a.rendered f ≠ b.rendered f →
        '\n' ∉ (a.rendered f).toList ∧ '\n' ∉ (b.rendered f).toList := by
  rw [lineFeeds_eq_zero_iff]
  constructor
  · intro h f _ hdiffer
    have hmem : ⟨f, b.rendered f, a.rendered f⟩ ∈ between a b :=
      List.mem_map_of_mem (List.mem_filter.mpr ⟨Field.mem_all f, by simpa using hdiffer⟩)
    exact ⟨h _ (List.mem_flatMap.mpr ⟨_, hmem, by simp⟩),
      h _ (List.mem_flatMap.mpr ⟨_, hmem, by simp⟩)⟩
  · intro h text htext
    obtain ⟨e, he, htext⟩ := List.mem_flatMap.mp htext
    obtain ⟨f, hf, rfl⟩ := List.mem_map.mp he
    have hdiffer : a.rendered f ≠ b.rendered f := by simpa using (List.mem_filter.mp hf).2
    have hnone : '\n' ∉ (a.rendered f).toList ∧ '\n' ∉ (b.rendered f).toList := by
      cases hfree : f.isFreeText with
      | true => exact h f hfree hdiffer
      | false => exact ⟨lineFeed_notMem_rendered ha hfree, lineFeed_notMem_rendered hb hfree⟩
    rcases List.mem_cons.mp htext with rfl | htext
    · exact hnone.2
    · cases List.mem_singleton.mp htext
      exact hnone.1

/-- The sanitized report of the difference of two published configurations has a line more than
entries for every line feed in a text of the difference. So it has an entry a line exactly if
there is no line feed in the free text that differs. -/
theorem oneLinePerEntry_sanitize_iff :
    (Text.lines (between a b).sanitize.render.toList).length =
      (between a b).length + (between a b).lineFeeds ∧
    ((between a b).sanitize.OneLinePerEntry ↔
      ∀ f : Field, f.isFreeText = true → a.rendered f ≠ b.rendered f →
        '\n' ∉ (a.rendered f).toList ∧ '\n' ∉ (b.rendered f).toList) := by
  have hfeeds := lineFeeds_sanitize ha hb
  constructor
  · have hlength : (between a b).sanitize.length = (between a b).length := List.length_map ..
    rw [length_lines_render, hfeeds, hlength]
  · rw [oneLinePerEntry_iff, hfeeds, lineFeeds_between_eq_zero_iff ha hb]

end

/-- A configuration with an address that goes on like the entry of another field, and one with
this entry. -/
def forged : Config :=
  resolve Surroundings.bare
    [⟨.collectorUdp, "h:1 (default: )\n - HostAlias (APPOPTICS_HOSTNAME_ALIAS) = web"⟩]
def genuine : Config :=
  resolve Surroundings.bare [⟨.collectorUdp, "h:1"⟩, ⟨.hostAlias, "web"⟩]

theorem oneLinePerEntry_sanitize_iff_forged :
    Config.default.Published ∧ forged.Published ∧
    (between .default forged).map (·.field) = [.collectorUdp] ∧
    (Text.lines (between .default forged).sanitize.render.toList).length = 2 ∧
    ¬ (between .default forged).sanitize.OneLinePerEntry := by
  have ha : Config.default.Published := .default
  have hb : forged.Published := .current (.create _ _)
  have hfeed : Config.default.rendered .collectorUdp ≠ forged.rendered .collectorUdp ∧
      '\n' ∈ (forged.rendered .collectorUdp).toList := by
    decide +kernel
  obtain ⟨hlength, hiff⟩ := oneLinePerEntry_sanitize_iff ha hb
  refine ⟨ha, hb, by decide +kernel, hlength.trans (by decide +kernel), ?_⟩
  intro hlines
  exact (hiff.mp hlines .collectorUdp rfl hfeed.1).2 hfeed.2

/-- The text of a report does not tell its entries. -/
theorem entry_forged : ∃ c c' : Config, c.Published ∧ c'.Published ∧
    c.changes.render = c'.changes.render ∧
    c.changes.map (·.field) = [.collectorUdp] ∧
    c'.changes.map (·.field) = [.collectorUdp, .hostAlias] := by
  refine ⟨forged, genuine, .current (.create _ _), .current (.create _ _), ?_⟩
  decide +kernel

end Delta

end TracerConfig
