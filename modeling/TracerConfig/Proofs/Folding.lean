import Mathlib.Data.List.Induction
import TracerConfig.Yaml.Token

/-!
# Folding

Between double quotes a document folds its lines: a line end is lost with the blanks around it, and
a line that begins like the mark of a document is an error. A string in which everything else is
escaped can still have spaces and three further line ends. What becomes of them is worked out here
on the characters of the string, apart from the form in which it is written.

Main definitions:
* `Token.isGapChar`: the characters between the words of such a string.
* `Token.fold`: what a string is read as.
* `Token.isKept`: whether nothing of a string is lost.

Main statements:
* `Token.text_gapOf_eq_iff`: a gap is kept if it has only spaces or only separators.
* `Token.folded_eq_iff`: a string is read as it is if, and only if, nothing of it is lost.
-/

namespace TracerConfig.Yaml.Token

/-! ## Gaps -/

/-- The two line ends that are kept in a value. -/
def isSeparator (c : Char) : Bool := c = '\u2028' || c = '\u2029'

/-- The characters between words. -/
def isGapChar (c : Char) : Bool := c = ' ' || c = '\u0085' || isSeparator c

theorem isGapChar_iff {c : Char} :
    isGapChar c = true ↔ c = ' ' ∨ c = '\u0085' ∨ isSeparator c = true := by
  simp [isGapChar, or_assoc]

/-- Adds a character to a gap. -/
def Gap.add (g : Gap) (c : Char) : Gap :=
  if isBreak c then
    if g.broken then { g with later := g.later ++ [breakText c] }
    else { g with blanks := [], first := [breakText c], broken := true }
  else if g.broken then g
  else { g with blanks := g.blanks ++ [c] }

/-- The gap of some characters. -/
def gapOf (ws : List Char) : Gap := ws.foldl Gap.add {}

theorem gapOf_snoc (ws : List Char) (c : Char) : gapOf (ws ++ [c]) = (gapOf ws).add c := by
  rw [gapOf, List.foldl_append]
  rfl

theorem breakText_cases (c : Char) : breakText c = '\n' ∨ isSeparator (breakText c) = true := by
  rw [breakText]
  split
  · next h => exact .inr (by simpa [isSeparator] using h)
  · exact .inl rfl

theorem isBreak_of_isSeparator {c : Char} (h : isSeparator c = true) : isBreak c = true := by
  simp only [isSeparator, Bool.or_eq_true, decide_eq_true_eq] at h
  rcases h with rfl | rfl <;> rfl

theorem isBreak_of_isGapChar {c : Char} (h : isGapChar c = true) (hspace : c ≠ ' ') :
    isBreak c = true := by
  rcases isGapChar_iff.mp h with rfl | rfl | h
  · exact absurd rfl hspace
  · rfl
  · exact isBreak_of_isSeparator h

namespace Gap

/-- What a gap keeps of the characters in it: all of them as long as they are spaces, and no more
than a character for each line end from the first one on. -/
inductive Covers : Gap → List Char → Prop
  | unbroken {ws : List Char} : (∀ c ∈ ws, c = ' ') → Covers { blanks := ws } ws
  | broken {ws later : List Char} {b : Char} : (b :: later).length ≤ ws.length →
      (∀ c ∈ b :: later, c = '\n' ∨ isSeparator c = true) →
      Covers { first := [b], later := later, broken := true } ws

theorem Covers.snoc {g : Gap} {ws : List Char} (h : g.Covers ws) {c : Char}
    (hc : isGapChar c = true) : (g.add c).Covers (ws ++ [c]) := by
  have hlength : (ws ++ [c]).length = ws.length + 1 := List.length_append
  by_cases hspace : c = ' '
  · subst hspace
    cases h with
    | unbroken hws =>
      refine .unbroken fun c hc => ?_
      rcases List.mem_append.mp hc with hc | hc
      · exact hws c hc
      · exact List.mem_singleton.mp hc
    | broken hle hmade => exact .broken (by omega) hmade
  · rw [add, if_pos (isBreak_of_isGapChar hc hspace)]
    cases h with
    | unbroken hws =>
      refine .broken (by rw [hlength]; exact Nat.le_add_left _ _) fun d hd => ?_
      rw [List.mem_singleton.mp hd]
      exact breakText_cases c
    | @broken _ later b hle hmade =>
      refine .broken ?_ fun d hd => ?_
      · simp only [List.length_cons, List.length_append, List.length_nil] at hle ⊢
        omega
      rw [← List.cons_append, List.mem_append, List.mem_singleton] at hd
      rcases hd with hd | rfl
      · exact hmade d hd
      · exact breakText_cases c

theorem Covers.gapOf {ws : List Char} (h : ∀ c ∈ ws, isGapChar c = true) :
    (gapOf ws).Covers ws := by
  induction ws using List.reverseRecOn with
  | nil => exact .unbroken fun _ hc => absurd hc List.not_mem_nil
  | append_singleton ws c ih =>
    rw [gapOf_snoc]
    exact (ih fun d hd => h d (List.mem_append_left _ hd)).snoc
      (h c (List.mem_append_right _ (List.mem_singleton_self _)))

theorem Covers.length_text_le {g : Gap} {ws : List Char} (h : g.Covers ws) :
    g.text.length ≤ ws.length := by
  cases h with
  | unbroken => exact Nat.le_refl _
  | @broken _ later b hle _ =>
    simp only [text, if_true]
    simp only [List.length_cons] at hle
    split
    · split
      · simp only [List.length_singleton]
        omega
      · omega
    · simp only [List.singleton_append, List.length_cons]
      omega

/-- Only spaces and separators are what they stand for. -/
theorem Covers.eq_of_text {g : Gap} {ws : List Char} (h : g.Covers ws) (htext : g.text = ws)
    (hws : ∀ c ∈ ws, isGapChar c = true) :
    (∀ c ∈ ws, c = ' ') ∨ ∀ c ∈ ws, isSeparator c = true := by
  cases h with
  | unbroken hspaces => exact .inl hspaces
  | @broken _ later b _ hmade =>
    by_cases hsingle : b = '\n' ∧ later = []
    · -- a single line end has become a space
      obtain ⟨rfl, rfl⟩ := hsingle
      left
      intro c hc
      rw [← htext] at hc
      exact List.mem_singleton.mp hc
    · right
      have hsub : ∀ c ∈ ws, c ∈ b :: later := by
        rw [← htext]
        simp only [text, if_true, List.cons.injEq, and_true]
        split
        · next hb =>
          rw [if_neg (by simpa [hb] using hsingle)]
          exact fun c hc => List.mem_cons_of_mem _ hc
        · exact fun c hc => hc
      intro c hc
      rcases hmade c (hsub c hc) with rfl | h
      · exact absurd (hws _ hc) (by decide)
      · exact h

theorem foldl_add_spaces {ws : List Char} (h : ∀ c ∈ ws, c = ' ') (blanks : List Char) :
    ws.foldl add { blanks := blanks } = { blanks := blanks ++ ws } := by
  induction ws generalizing blanks with
  | nil => rw [List.append_nil, List.foldl_nil]
  | cons c ws ih =>
    have hc : c = ' ' := h c (List.mem_cons_self ..)
    subst hc
    have hadd : add { blanks := blanks } ' ' = { blanks := blanks ++ [' '] } := rfl
    rw [List.foldl_cons, hadd, ih fun d hd => h d (List.mem_cons_of_mem _ hd), List.append_assoc,
      List.singleton_append]

theorem foldl_add_separators {ws : List Char} (h : ∀ c ∈ ws, isSeparator c = true)
    (first later : List Char) :
    ws.foldl add { first := first, later := later, broken := true } =
      { first := first, later := later ++ ws, broken := true } := by
  induction ws generalizing later with
  | nil => rw [List.append_nil, List.foldl_nil]
  | cons c ws ih =>
    have hadd : add { first := first, later := later, broken := true } c =
        { first := first, later := later ++ [c], broken := true } := by
      have hc := h c (List.mem_cons_self ..)
      simp only [isSeparator, Bool.or_eq_true, decide_eq_true_eq] at hc
      rcases hc with rfl | rfl <;> rfl
    rw [List.foldl_cons, hadd, ih fun d hd => h d (List.mem_cons_of_mem _ hd), List.append_assoc,
      List.singleton_append]

end Gap

/-- A gap is kept if it has only spaces or only separators. -/
theorem text_gapOf_eq_iff {ws : List Char} (hws : ∀ c ∈ ws, isGapChar c = true) :
    (gapOf ws).text = ws ↔ (∀ c ∈ ws, c = ' ') ∨ ∀ c ∈ ws, isSeparator c = true := by
  refine ⟨fun h => (Gap.Covers.gapOf hws).eq_of_text h hws, ?_⟩
  rintro (h | h)
  · rw [gapOf, Gap.foldl_add_spaces h []]
    rfl
  · cases ws with
    | nil => rfl
    | cons b ws =>
      have hb := h b (List.mem_cons_self ..)
      have hfirst : gapOf (b :: ws) =
          ws.foldl Gap.add { first := [b], later := [], broken := true } := by
        simp only [isSeparator, Bool.or_eq_true, decide_eq_true_eq] at hb
        rcases hb with rfl | rfl <;> rfl
      have hne : b ≠ '\n' := by
        rintro rfl
        cases hb
      rw [hfirst, Gap.foldl_add_separators fun c hc => h c (List.mem_cons_of_mem _ hc)]
      simp [Gap.text, hne]

/-- A gap that is kept ends a line with a separator. -/
theorem any_isBreak_of_text {ws : List Char} (hws : ∀ c ∈ ws, isGapChar c = true)
    (h : (gapOf ws).text = ws) : ws.getLast?.any isBreak = ws.getLast?.any isSeparator := by
  cases hlast : ws.getLast? with
  | none => rfl
  | some b =>
    have hb := List.mem_of_getLast? hlast
    rcases (text_gapOf_eq_iff hws).mp h with hspaces | hseparators
    · rw [hspaces b hb]
      rfl
    · simp [hseparators b hb, isBreak_of_isSeparator (hseparators b hb)]

/-! ## Strings -/

/-- Whether a line that begins like this would end the document. -/
def markerAhead (cs : List Char) : Bool :=
  [['-', '-', '-'], ['.', '.', '.']].any fun word =>
    word.isPrefixOf cs && (cs.drop word.length).head?.any isGapChar

/-- What a string is read as, with a gap before it. The flag tells whether it stands at the start
of a line. -/
def fold : Bool → Gap → List Char → Except Error (List Char)
  | _, g, [] => .ok g.text
  | atStart, g, c :: cs =>
    if isGapChar c then fold (isBreak c) (g.add c) cs
    else if atStart && markerAhead (c :: cs) then .error .unexpectedDocumentMarker
    else (fold false {} cs).map (g.text ++ c :: ·)

/-- What a string is read as. -/
def folded (cs : List Char) : Except Error (List Char) := fold false {} cs

/-- Whether nothing of a string is lost: a next-line character becomes a space or vanishes, spaces
vanish beside a separator, and a separator can make the mark of a document of what follows it. -/
def isKept : List Char → Bool
  | [] => true
  | c :: cs =>
    c ≠ '\u0085' && !(c = ' ' && cs.head?.any isSeparator) &&
      !(isSeparator c && (cs.head? = some ' ' || markerAhead cs)) && isKept cs

/-- A line that begins with a gap is none that ends the document. -/
theorem markerAhead_of_isGapChar {c : Char} (h : isGapChar c = true) (cs : List Char) :
    markerAhead (c :: cs) = false := by
  have hdash : ('-' == c) = false := by
    rw [beq_eq_false_iff_ne]
    rintro rfl
    cases h
  have hdot : ('.' == c) = false := by
    rw [beq_eq_false_iff_ne]
    rintro rfl
    cases h
  simp [markerAhead, List.isPrefixOf, hdash, hdot]

theorem isKept_cons_of_not_isGapChar {c : Char} (h : isGapChar c = false) (cs : List Char) :
    isKept (c :: cs) = isKept cs := by
  simp only [isGapChar, Bool.or_eq_false_iff, decide_eq_false_iff_not] at h
  simp [isKept, h]

theorem ne_of_isSeparator {c : Char} (h : isSeparator c = true) : c ≠ ' ' ∧ c ≠ '\u0085' := by
  constructor <;> rintro rfl <;> cases h

/-- Neighbours in a gap are kept if they are of one kind. -/
theorem neighbours_kept_iff {c d : Char} (hc : isGapChar c = true)
    (hd : d = ' ' ∨ isSeparator d = true) :
    (c ≠ '\u0085' ∧ ¬(c = ' ' ∧ isSeparator d = true) ∧ ¬(isSeparator c = true ∧ d = ' ')) ↔
      (c = ' ' ∧ d = ' ') ∨ (isSeparator c = true ∧ isSeparator d = true) := by
  have hspace : isSeparator ' ' = false := rfl
  have hnext : isSeparator '\u0085' = false := rfl
  rcases isGapChar_iff.mp hc with rfl | rfl | hc <;> rcases hd with rfl | hd
  · simp [hspace]
  · simp [hspace, hd, (ne_of_isSeparator hd).1]
  · simp [hnext]
  · simp [hnext]
  · simp [hspace, hc, (ne_of_isSeparator hc).1]
  · simp [hc, hd, ne_of_isSeparator]

/-- The last character of a gap is kept if it is none that becomes another, and no mark follows a
separator. -/
theorem isKept_cons_of_gap_end {c : Char} (hc : isGapChar c = true) {cs : List Char}
    (hcs : cs.head?.any isGapChar = false) :
    isKept (c :: cs) = true ↔
      (c = ' ' ∨ isSeparator c = true) ∧ (isSeparator c && markerAhead cs) = false ∧
        isKept cs = true := by
  have hnext : cs.head? ≠ some ' ' ∧ cs.head?.any isSeparator = false := by
    cases cs with
    | nil => exact ⟨nofun, rfl⟩
    | cons d cs =>
      have hd : isGapChar d = false := hcs
      simp only [isGapChar, Bool.or_eq_false_iff, decide_eq_false_iff_not] at hd
      exact ⟨fun h => hd.1.1 (Option.some.inj h), hd.2⟩
  have hone : c = ' ' ∨ isSeparator c = true ↔ c ≠ '\u0085' := by
    rcases isGapChar_iff.mp hc with rfl | rfl | hc
    · simp
    · simp [isSeparator]
    · simp [hc, ne_of_isSeparator]
  rw [hone, isKept, hnext.2]
  cases isSeparator c <;> simp [hnext.1, and_assoc]

/-- A character in front of a gap is kept if it does not get lost with the gap's first one. -/
theorem isKept_cons_cons_of_gap (c : Char) {d : Char} (hd : isGapChar d = true)
    (cs : List Char) :
    isKept (c :: d :: cs) = true ↔
      (c ≠ '\u0085' ∧ ¬(c = ' ' ∧ isSeparator d = true) ∧ ¬(isSeparator c = true ∧ d = ' ')) ∧
        isKept (d :: cs) = true := by
  rw [isKept, List.head?_cons, markerAhead_of_isGapChar hd]
  cases isSeparator c <;> simp [and_assoc, ← imp_iff_not_or]

/-- A gap is kept if its characters are all of one kind and no mark follows a separator. -/
theorem isKept_append {ws cs : List Char} (hws : ∀ c ∈ ws, isGapChar c = true)
    (hcs : cs.head?.any isGapChar = false) :
    isKept (ws ++ cs) = true ↔
      ((∀ c ∈ ws, c = ' ') ∨ ∀ c ∈ ws, isSeparator c = true) ∧
      (ws.getLast?.any isSeparator && markerAhead cs) = false ∧ isKept cs = true := by
  induction ws with
  | nil => simp
  | cons c ws ih =>
    have hc := hws c (List.mem_cons_self ..)
    have ih := ih fun d hd => hws d (List.mem_cons_of_mem _ hd)
    cases ws with
    | nil =>
      rw [List.singleton_append, isKept_cons_of_gap_end hc hcs, List.getLast?_singleton]
      simp
    | cons d ws =>
      have hd := hws d (List.mem_cons_of_mem _ (List.mem_cons_self ..))
      rw [List.cons_append, List.cons_append, isKept_cons_cons_of_gap c hd, ← List.cons_append, ih,
        List.getLast?_cons_cons, ← and_assoc]
      refine and_congr_left fun _ => ?_
      simp only [List.forall_mem_cons]
      constructor
      · rintro ⟨hneighbours, hkind⟩
        have hd : d = ' ' ∨ isSeparator d = true := hkind.imp And.left And.left
        rcases (neighbours_kept_iff hc hd).mp hneighbours with ⟨hc, rfl⟩ | ⟨hc, hd⟩
        · exact .inl ⟨hc, hkind.resolve_right fun h => Bool.false_ne_true h.1⟩
        · exact .inr ⟨hc, hkind.resolve_left fun h => (ne_of_isSeparator hd).1 h.1⟩
      · rintro (⟨hspace, hd, hrest⟩ | ⟨hseparator, hd, hrest⟩)
        · exact ⟨(neighbours_kept_iff hc (.inl hd)).mpr (.inl ⟨hspace, hd⟩), .inl ⟨hd, hrest⟩⟩
        · exact ⟨(neighbours_kept_iff hc (.inr hd)).mpr (.inr ⟨hseparator, hd⟩),
            .inr ⟨hd, hrest⟩⟩

/-! ## What a string is read as -/

theorem fold_gapChar {c : Char} (hc : isGapChar c = true) (atStart : Bool) (ws cs : List Char) :
    fold atStart (gapOf ws) (c :: cs) = fold (isBreak c) (gapOf (ws ++ [c])) cs := by
  rw [fold, if_pos hc, gapOf_snoc]

theorem fold_wordChar {c : Char} (hc : isGapChar c = false) (atStart : Bool) (g : Gap)
    (cs : List Char) :
    fold atStart g (c :: cs) =
      if atStart && markerAhead (c :: cs) then .error .unexpectedDocumentMarker
      else (folded cs).map (g.text ++ c :: ·) := by
  rw [fold, hc, folded]
  rfl

/-- The start of a line counts for a mark only. -/
theorem fold_of_not_marker {atStart : Bool} {cs : List Char}
    (h : (atStart && markerAhead cs) = false) : fold atStart {} cs = folded cs := by
  cases cs with
  | nil => rfl
  | cons c cs =>
    cases hc : isGapChar c with
    | true => rw [folded, fold, fold, if_pos hc, if_pos hc]
    | false => rw [folded, fold_wordChar hc, fold_wordChar hc, h, Bool.false_and]

/-- A word is kept. -/
theorem folded_word_append {word : List Char} (h : ∀ c ∈ word, isGapChar c = false)
    (cs : List Char) : folded (word ++ cs) = (folded cs).map (word ++ ·) := by
  induction word with
  | nil => cases hfolded : folded cs <;> simp [hfolded, Except.map]
  | cons c word ih =>
    rw [List.cons_append, folded, fold_wordChar (h c (List.mem_cons_self ..)), Bool.false_and,
      ih fun d hd => h d (List.mem_cons_of_mem _ hd)]
    cases folded cs <;> rfl

theorem fold_gap_append {ws : List Char} (h : ∀ c ∈ ws, isGapChar c = true) (atStart : Bool)
    (us cs : List Char) :
    fold atStart (gapOf us) (ws ++ cs) =
      fold ((ws.getLast?.map isBreak).getD atStart) (gapOf (us ++ ws)) cs := by
  induction ws generalizing atStart us with
  | nil => rw [List.append_nil]; rfl
  | cons c ws ih =>
    rw [List.cons_append, fold_gapChar (h c (List.mem_cons_self ..)),
      ih fun d hd => h d (List.mem_cons_of_mem _ hd), List.append_assoc, List.singleton_append]
    cases ws with
    | nil => rfl
    | cons d ws => rw [List.getLast?_cons_cons, List.getLast?_cons, Option.map_some]; rfl

/-- What a gap stands for is put in front of the word behind it. -/
theorem folded_gap_append {ws : List Char} (h : ∀ c ∈ ws, isGapChar c = true) {cs : List Char}
    (hcs : cs.head?.any isGapChar = false) :
    folded (ws ++ cs) =
      (fold ((ws.getLast?.map isBreak).getD false) {} cs).map ((gapOf ws).text ++ ·) := by
  rw [folded]
  refine (fold_gap_append h false [] cs).trans ?_
  rw [List.nil_append]
  cases cs with
  | nil => simp [fold, Except.map, Gap.text]
  | cons c cs =>
    have hc : isGapChar c = false := hcs
    rw [fold_wordChar hc, fold_wordChar hc]
    split
    · rfl
    · cases folded cs <;> rfl

/-- A string does not grow. -/
theorem length_le_of_fold {cs : List Char} {atStart : Bool} (ws : List Char)
    (hws : ∀ c ∈ ws, isGapChar c = true) {t : List Char}
    (h : fold atStart (gapOf ws) cs = .ok t) : t.length ≤ (ws ++ cs).length := by
  induction cs generalizing atStart ws t with
  | nil =>
    rw [fold] at h
    cases h
    rw [List.append_nil]
    exact (Gap.Covers.gapOf hws).length_text_le
  | cons c cs ih =>
    cases hc : isGapChar c with
    | true =>
      rw [fold_gapChar hc] at h
      have hle := ih _ (List.forall_mem_append.mpr ⟨hws, List.forall_mem_singleton.mpr hc⟩) h
      rwa [List.append_assoc] at hle
    | false =>
      rw [fold_wordChar hc] at h
      split at h
      · cases h
      · cases hrest : folded cs with
        | error e =>
          rw [hrest] at h
          cases h
        | ok t' =>
          rw [hrest] at h
          cases h
          have hgap := (Gap.Covers.gapOf hws).length_text_le
          have hle := ih [] (fun _ h => absurd h List.not_mem_nil) hrest
          simp only [List.length_append, List.length_cons, List.nil_append] at hle ⊢
          omega

/-- Nothing of a string with a gap before it is lost if, and only if, it is read as it is. -/
theorem fold_eq_iff {cs : List Char} (ws : List Char) (hws : ∀ c ∈ ws, isGapChar c = true) :
    fold (ws.getLast?.any isBreak) (gapOf ws) cs = .ok (ws ++ cs) ↔ isKept (ws ++ cs) = true := by
  induction cs generalizing ws with
  | nil =>
    rw [fold, isKept_append hws rfl, List.append_nil, Except.ok.injEq, text_gapOf_eq_iff hws]
    simp [markerAhead, isKept]
  | cons c cs ih =>
    cases hc : isGapChar c with
    | true =>
      have hsnoc := ih _ (List.forall_mem_append.mpr ⟨hws, List.forall_mem_singleton.mpr hc⟩)
      rw [List.getLast?_concat, Option.any_some, List.append_assoc] at hsnoc
      rw [fold_gapChar hc]
      exact hsnoc
    | false =>
      have hrest : folded cs = .ok cs ↔ isKept cs = true :=
        ih [] fun _ h => absurd h List.not_mem_nil
      rw [fold_wordChar hc, isKept_append hws (by simpa using hc), isKept_cons_of_not_isGapChar hc,
        ← hrest, ← text_gapOf_eq_iff hws]
      split
      · next herror =>
        refine ⟨nofun, fun ⟨htext, hnone, _⟩ => ?_⟩
        rw [any_isBreak_of_text hws htext, hnone] at herror
        cases herror
      · next hnone =>
        rw [Bool.not_eq_true] at hnone
        refine ⟨fun h => ?_, fun ⟨htext, _, hfolded⟩ => by rw [htext, hfolded]; rfl⟩
        cases hfolded : folded cs with
        | error e =>
          rw [hfolded] at h
          cases h
        | ok t =>
          -- neither part grows, so that neither can make up for the other
          rw [hfolded] at h
          have heq : (gapOf ws).text ++ c :: t = ws ++ c :: cs := Except.ok.inj h
          have hgap := (Gap.Covers.gapOf hws).length_text_le
          have hle := length_le_of_fold [] (fun _ h => absurd h List.not_mem_nil) hfolded
          have hlength := congrArg List.length heq
          simp only [List.length_append, List.length_cons, List.nil_append] at hlength hle
          obtain ⟨htext, hcons⟩ := List.append_inj heq (by omega)
          exact ⟨htext, any_isBreak_of_text hws htext ▸ hnone, by rw [(List.cons.inj hcons).2]⟩

/-- A string is read as it is if, and only if, nothing of it is lost. -/
theorem folded_eq_iff (cs : List Char) : folded cs = .ok cs ↔ isKept cs = true :=
  fold_eq_iff [] fun _ h => absurd h List.not_mem_nil

/-- A string without any of the further line ends is read as it is. -/
theorem isKept_of_forall {cs : List Char}
    (h : ∀ c ∈ cs, c ≠ '\u0085' ∧ isSeparator c = false) : isKept cs = true := by
  induction cs with
  | nil => rfl
  | cons c cs ih =>
    obtain ⟨⟨hnext, hseparator⟩, hcs⟩ := List.forall_mem_cons.mp h
    have hhead : cs.head?.any isSeparator = false := by
      cases cs with
      | nil => rfl
      | cons d cs => exact (hcs d (List.mem_cons_self ..)).2
    simp [isKept, hnext, hseparator, hhead, ih hcs]

end TracerConfig.Yaml.Token
