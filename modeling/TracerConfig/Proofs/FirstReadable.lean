import TracerConfig.Proofs.Settings

/-!
# Asking any number of sources

However many sources there are, the value is that of the first one whose text can be read, and the
reports are those of the sources in front of it. All that comes after it is not asked, and a
source without a text might as well not be there.

Main definitions:
* `Source.Reads`: a source has a text that can be read. `Source.report?`: the report about a text
  that cannot.

Main statements:
* `first_append_of_unread`: sources of which none can be read add their reports.
* `first_outcome`: the outcome for any list of sources.
-/

namespace TracerConfig

variable {α : Type} (read : String → Except String α) (k : Key)

namespace Source

/-- The text of a source reads as a value. -/
def Reads (s : Source) (a : α) : Prop := ∃ text, s.lookup k = some text ∧ read text = .ok a

/-- The report about the text of a source, if it has one that cannot be read: whose text it was,
the text itself, and why it cannot be read. -/
def report? (s : Source) : Option Rejected :=
  match s.lookup k with
  | none => none
  | some text =>
    match read text with
    | .ok _ => none
    | .error cause => some ⟨s.origin, text, cause⟩

/-- A source has no text, or one that can be read, or one that cannot. -/
theorem missing_or_reads_or_error (s : Source) :
    s.lookup k = none ∨ (∃ a, s.Reads read k a) ∨
      ∃ text cause, s.lookup k = some text ∧ read text = .error cause := by
  cases h : s.lookup k with
  | none => exact .inl rfl
  | some text =>
    cases hr : read text with
    | ok a => exact .inr (.inl ⟨a, text, h, hr⟩)
    | error cause => exact .inr (.inr ⟨text, cause, rfl, hr⟩)

variable {read k} {s : Source}

theorem report?_of_missing (h : s.lookup k = none) : s.report? read k = none := by
  rw [report?, h]

theorem report?_of_error {text cause : String} (h : s.lookup k = some text)
    (hr : read text = .error cause) : s.report? read k = some ⟨s.origin, text, cause⟩ := by
  rw [report?, h]
  simp only [hr]

end Source

namespace Reading

variable {read k} {s : Source} {passed rest : List Source}

theorem first_of_reads {a : α} (h : s.Reads read k a) :
    first read k (s :: rest) = ⟨some (a, s.origin), []⟩ := by
  obtain ⟨text, hlookup, hr⟩ := h
  exact first_of_ok hlookup hr

/-- Sources of which none can be read add their reports, and decide nothing. -/
theorem first_append_of_unread (h : ∀ p ∈ passed, ∀ a, ¬ p.Reads read k a) :
    first read k (passed ++ rest) =
      { first read k rest with
        rejected := passed.filterMap (Source.report? read k) ++ (first read k rest).rejected } := by
  induction passed with
  | nil => rfl
  | cons p passed ih =>
    obtain ⟨hp, hpassed⟩ := List.forall_mem_cons.mp h
    rw [List.cons_append]
    rcases p.missing_or_reads_or_error read k with hnone | ⟨a, ha⟩ | ⟨text, cause, hlookup, hr⟩
    · rw [first_of_missing hnone, ih hpassed,
        List.filterMap_cons_none (Source.report?_of_missing hnone)]
    · exact absurd ha (hp a)
    · rw [first_of_error hlookup hr, ih hpassed,
        List.filterMap_cons_some (Source.report?_of_error hlookup hr)]
      rfl

/-- Some source is the first that can be read, or none can. -/
theorem exists_first_reads (read : String → Except String α) (k : Key) (sources : List Source) :
    (∃ passed s rest a, sources = passed ++ s :: rest ∧ s.Reads read k a ∧
      ∀ p ∈ passed, ∀ b, ¬ p.Reads read k b) ∨
    ∀ p ∈ sources, ∀ b, ¬ p.Reads read k b := by
  induction sources with
  | nil => exact .inr nofun
  | cons s rest ih =>
    by_cases hs : ∃ a, s.Reads read k a
    · obtain ⟨a, ha⟩ := hs
      exact .inl ⟨[], s, rest, a, rfl, ha, nofun⟩
    · have hs' := not_exists.mp hs
      rcases ih with ⟨passed, p, rest', a, rfl, ha, hpassed⟩ | hnone
      · exact .inl ⟨s :: passed, p, rest', a, rfl, ha, List.forall_mem_cons.mpr ⟨hs', hpassed⟩⟩
      · exact .inr (List.forall_mem_cons.mpr ⟨hs', hnone⟩)

/-- Sources behind one that can be read are not asked. -/
theorem first_append_cons_of_reads {a : α} (h : s.Reads read k a) (rest' : List Source) :
    first read k (passed ++ s :: rest) = first read k (passed ++ s :: rest') := by
  induction passed with
  | nil => exact (first_of_reads h).trans (first_of_reads h).symm
  | cons p passed ih =>
    rw [List.cons_append, List.cons_append]
    rcases p.missing_or_reads_or_error read k with hnone | ⟨b, hb⟩ | ⟨text, cause, hlookup, hr⟩
    · rw [first_of_missing hnone, first_of_missing hnone, ih]
    · rw [first_of_reads hb, first_of_reads hb]
    · rw [first_of_error hlookup hr, first_of_error hlookup hr, ih]

/-- The first source whose text can be read gives the value, with its origin, and the sources in
front of it whose texts cannot be read are reported, each once and in order; without such a source
there is no value, and all texts are reported. Sources behind one that can be read change nothing,
and neither does a source without a text. -/
theorem first_outcome (read : String → Except String α) (k : Key) (sources : List Source) :
    ((∃ passed s rest a, sources = passed ++ s :: rest ∧ s.Reads read k a ∧
        (∀ p ∈ passed, ∀ b, ¬ p.Reads read k b) ∧
        first read k sources =
          ⟨some (a, s.origin), passed.filterMap (Source.report? read k)⟩) ∨
      ((∀ p ∈ sources, ∀ b, ¬ p.Reads read k b) ∧
        first read k sources = ⟨none, sources.filterMap (Source.report? read k)⟩)) ∧
    (∀ passed s rest rest', (∃ a, s.Reads read k a) → sources = passed ++ s :: rest →
      first read k sources = first read k (passed ++ s :: rest')) ∧
    ∀ before s after, s.lookup k = none → sources = before ++ s :: after →
      first read k sources = first read k (before ++ after) := by
  refine ⟨?_, ?_, ?_⟩
  · rcases exists_first_reads read k sources with
      ⟨passed, s, rest, a, rfl, ha, hpassed⟩ | hnone
    · refine .inl ⟨passed, s, rest, a, rfl, ha, hpassed, ?_⟩
      rw [first_append_of_unread hpassed, first_of_reads ha, List.append_nil]
    · refine .inr ⟨hnone, ?_⟩
      rw [← List.append_nil sources, first_append_of_unread hnone, first, List.append_nil,
        List.append_nil]
  · rintro passed s rest rest' ⟨a, ha⟩ rfl
    exact first_append_cons_of_reads ha rest'
  · rintro before s after hmissing rfl
    refine first_congr read ?_
    have happend : ∀ front back, Source.texts (front ++ back) k =
        Source.texts front k ++ Source.texts back k := fun _ _ => List.filterMap_append
    rw [happend, texts_of_missing hmissing, happend]

/-- A source without a precision, two with texts that are none, one with a precision, and another
one that is not asked. -/
def manySources : List Source :=
  [.ofPaths .code fun _ => none, .ofPaths .environment fun _ => some "foo",
    .ofPaths .default fun _ => some "-1", .ofPaths .file fun _ => some "3",
    .ofPaths .environment fun _ => some "7"]

theorem first_outcome_manySources :
    (first Field.precision.read (.setting .precision) manySources).value =
      some ((3 : UInt32), .file) ∧
    (first Field.precision.read (.setting .precision) manySources).rejected =
      [⟨.environment, "foo", "invalid digit found in string"⟩,
        ⟨.default, "-1", "invalid digit found in string"⟩] ∧
    first Field.precision.read (.setting .precision) manySources =
      first Field.precision.read (.setting .precision) (manySources.take 4) ∧
    first Field.precision.read (.setting .precision) manySources =
      first Field.precision.read (.setting .precision) (manySources.drop 1) := by
  obtain ⟨-, hbehind, hmissing⟩ :=
    first_outcome Field.precision.read (.setting .precision) manySources
  refine ⟨rfl, by decide +kernel, ?_, ?_⟩
  · exact hbehind (manySources.take 3) (.ofPaths .file fun _ => some "3") _ []
      ⟨(3 : UInt32), "3", rfl, rfl⟩ rfl
  · exact hmissing [] (.ofPaths .code fun _ => none) _ rfl rfl

end Reading

end TracerConfig
