import TracerConfig.Pattern.Search
import TracerConfig.Proofs.PatternCounts

/-!
# What a search finds

A search carries the set of all places that a match may have reached, as the bits of a number. It
finds an expression exactly where the expression matches what stands between two places of the
text. Two things could go wrong: a repetition is cut off once nothing new is reached, or after as
many rounds as the text has places; and what takes no character is gone through once only.

Main definitions:
* `Expression.Spans`: what stands between which places an expression matches, one rule for each
  constructor.
* `Moves`: a map of sets of places takes the members of a set to where a relation leads them.

Main statements:
* `Moves.closure`, `Moves.repeated`: repetitions.
* `Expression.moves_inText`: every expression.
* `Expression.found_iff_of_parse`: what a search finds.
-/

namespace TracerConfig.Pattern

open Unicode (CodeSet)

/-! ## What an expression matches -/

/-- A condition holds at a place of a text, between the characters around it. -/
def Condition.HoldsAt (c : Condition) (text : List Char) (i : Nat) : Prop :=
  i ≤ text.length ∧ c.holds (if i = 0 then none else text[i - 1]?) text[i]? = true

/-- One place leads to another in `n` steps. -/
def Steps (R : Nat → Nat → Prop) : Nat → Nat → Nat → Prop
  | 0, i, j => i = j
  | n + 1, i, j => ∃ k, R i k ∧ Steps R n k j

/-- One place leads to another in at least `least` and at most `most` steps. -/
def Rounds (R : Nat → Nat → Prop) (least : Nat) (most : Option Nat) (i j : Nat) : Prop :=
  ∃ n, least ≤ n ∧ (∀ m ∈ most, n ≤ m) ∧ Steps R n i j

/-- `e.Spans text i j`: the expression matches what stands between two places of a text. -/
def Expression.Spans (text : List Char) : Expression → Nat → Nat → Prop
  | empty, i, j => i = j
  | one set, i, j => j = i + 1 ∧ ∃ c, text[i]? = some c ∧ set.contains c.toNat = true
  | place c, i, j => i = j ∧ c.HoldsAt text i
  | seq a b, i, j => ∃ k, a.Spans text i k ∧ b.Spans text k j
  | either a b, i, j => a.Spans text i j ∨ b.Spans text i j
  | repeated least most body, i, j => Rounds (body.Spans text) least most i j
  | group _ body, i, j => body.Spans text i j

/-! ## Steps -/

section
variable {R S : Nat → Nat → Prop} {length least m n i j : Nat} {most : Option Nat}

theorem steps_add : Steps R (m + n) i j ↔ ∃ k, Steps R m i k ∧ Steps R n k j := by
  induction m generalizing i with
  | zero =>
    rw [Nat.zero_add]
    simp [Steps]
  | succ m ih =>
    rw [Nat.succ_add]
    simp only [Steps, ih]
    constructor
    · rintro ⟨k, hk, l, hl, hj⟩
      exact ⟨l, ⟨k, hk, hl⟩, hj⟩
    · rintro ⟨l, ⟨k, hk, hl⟩, hj⟩
      exact ⟨k, hk, l, hl, hj⟩

theorem rounds_none_iff :
    Rounds R least none i j ↔ ∃ k, Steps R least i k ∧ ∃ m, Steps R m k j := by
  constructor
  · rintro ⟨n, hn, -, hsteps⟩
    obtain ⟨m, rfl⟩ := Nat.exists_eq_add_of_le hn
    obtain ⟨k, hk, hm⟩ := steps_add.mp hsteps
    exact ⟨k, hk, m, hm⟩
  · rintro ⟨k, hk, m, hm⟩
    exact ⟨least + m, Nat.le_add_right .., nofun, steps_add.mpr ⟨k, hk, hm⟩⟩

theorem rounds_some_iff {most : Nat} (hle : least ≤ most) :
    Rounds R least (some most) i j ↔
      ∃ k, Steps R least i k ∧ ∃ m ≤ most - least, Steps R m k j := by
  constructor
  · rintro ⟨n, hn, hmost, hsteps⟩
    obtain ⟨m, rfl⟩ := Nat.exists_eq_add_of_le hn
    obtain ⟨k, hk, hm⟩ := steps_add.mp hsteps
    exact ⟨k, hk, m, Nat.le_sub_of_add_le' (hmost most rfl), hm⟩
  · rintro ⟨k, hk, m, hmost, hm⟩
    refine ⟨least + m, Nat.le_add_right .., ?_, steps_add.mpr ⟨k, hk, hm⟩⟩
    rintro _ ⟨⟩
    omega

/-! ### Turning on the spot -/

theorem steps_of_loops (hR : ∀ i j, R i j → i = j) :
    Steps R n i j ↔ i = j ∧ (n = 0 ∨ R i i) := by
  induction n generalizing i with
  | zero => simp [Steps]
  | succ n ih =>
    simp only [Steps, ih]
    constructor
    · rintro ⟨k, hk, rfl, -⟩
      obtain rfl := hR i k hk
      exact ⟨rfl, .inr hk⟩
    · rintro ⟨rfl, h⟩
      have hi := h.resolve_left (Nat.succ_ne_zero n)
      exact ⟨i, hi, rfl, .inr hi⟩

/-- To turn on the spot many times is to do it once. -/
theorem rounds_of_loops (hR : ∀ i j, R i j → i = j) (hordered : ∀ m ∈ most, least ≤ m) :
    Rounds R least most i j ↔ i = j ∧ (least = 0 ∨ R i i) := by
  simp only [Rounds, steps_of_loops hR]
  constructor
  · rintro ⟨n, hn, -, rfl, h⟩
    exact ⟨rfl, h.imp_left fun hzero => by omega⟩
  · rintro ⟨rfl, h⟩
    exact ⟨least, Nat.le_refl _, hordered, rfl, h⟩

/-! ### Advancing -/

/-- No place leads back, and no place leads out of a text. -/
def Advances (length : Nat) (R : Nat → Nat → Prop) : Prop :=
  ∀ i j, R i j → i ≤ j ∧ (i < j → j ≤ length)

namespace Advances

theorem of_loops (hR : ∀ i j, R i j → i = j) : Advances length R := by
  intro i j h
  obtain rfl := hR i j h
  exact ⟨Nat.le_refl i, fun hlt => absurd hlt (Nat.lt_irrefl i)⟩

theorem comp (hR : Advances length R) (hS : Advances length S) :
    Advances length fun i j => ∃ k, R i k ∧ S k j := by
  rintro i j ⟨k, hk, hj⟩
  obtain ⟨hik, hk⟩ := hR i k hk
  obtain ⟨hkj, hj⟩ := hS k j hj
  exact ⟨Nat.le_trans hik hkj, fun _ => by omega⟩

theorem steps (hR : Advances length R) : Advances length (Steps R n) := by
  induction n with
  | zero => exact of_loops fun _ _ h => h
  | succ n ih => exact hR.comp ih

/-- What is reached at all is reached without turning on the spot, so in no more steps than there
are places on the way. -/
theorem shorten (hR : Advances length R) (h : Steps R n i j) :
    ∃ m ≤ j - i, Steps R m i j := by
  induction n generalizing i with
  | zero => exact ⟨0, Nat.zero_le _, h⟩
  | succ n ih =>
    obtain ⟨k, hk, hsteps⟩ := h
    obtain ⟨m, hm, hsteps'⟩ := ih hsteps
    have hik := (hR i k hk).1
    have hkj := (hR.steps k j hsteps).1
    rcases Nat.eq_or_lt_of_le hik with rfl | hlt
    · exact ⟨m, hm, hsteps'⟩
    · exact ⟨m + 1, by omega, k, hk, hsteps'⟩

end Advances

end

/-! ## Sets of places -/

/-- The places reached from a set are those that its members lead to. -/
def Moves (f : Places → Places) (R : Nat → Nat → Prop) : Prop :=
  ∀ s j, (f s).testBit j = true ↔ ∃ i, s.testBit i = true ∧ R i j

namespace Moves

variable {f g : Places → Places} {R S : Nat → Nat → Prop}

theorem congr (h : Moves f R) (hRS : ∀ i j, R i j ↔ S i j) : Moves f S := by
  intro s j
  simp only [h s j, hRS]

theorem id : Moves (fun s => s) fun i j => i = j := by
  intro s j
  simp

theorem comp (h : Moves f R) (h' : Moves g S) :
    Moves (fun s => g (f s)) fun i j => ∃ k, R i k ∧ S k j := by
  intro s j
  simp only [h' (f s) j, h s]
  constructor
  · rintro ⟨k, ⟨i, hi, hk⟩, hj⟩
    exact ⟨i, hi, k, hk, hj⟩
  · rintro ⟨i, hi, k, hk, hj⟩
    exact ⟨k, ⟨i, hi, hk⟩, hj⟩

theorem union (h : Moves f R) (h' : Moves g S) :
    Moves (fun s => f s ||| g s) fun i j => R i j ∨ S i j := by
  intro s j
  rw [Nat.testBit_or, Bool.or_eq_true, h s j, h' s j]
  simp only [and_or_left, exists_or]

theorem times (h : Moves f R) (n : Nat) : Moves (Motion.times f n) (Steps R n) := by
  induction n with
  | zero => exact id
  | succ n ih =>
    intro s j
    rw [Motion.times]
    split
    · next hs => simp [hs]
    · exact h.comp ih s j

theorem atMost (h : Moves f R) (n : Nat) :
    Moves (Motion.atMost f n) fun i j => ∃ m ≤ n, Steps R m i j := by
  induction n with
  | zero => exact id.congr fun i j => by simp [Steps]
  | succ n ih =>
    intro s j
    simp only [Motion.atMost]
    split
    · next hclosed =>
      -- nothing new is reached in one step, hence in no number of steps
      have hstep (k : Nat) (hk : ∃ i, s.testBit i = true ∧ R i k) : s.testBit k = true := by
        rw [← hclosed, Nat.testBit_or, (h s k).mpr hk, Bool.or_true]
      constructor
      · intro hj
        exact ⟨j, hj, 0, Nat.zero_le _, rfl⟩
      · rintro ⟨i, hi, m, -, hsteps⟩
        induction m generalizing i with
        | zero => exact hsteps ▸ hi
        | succ m ihm =>
          obtain ⟨k, hk, hsteps⟩ := hsteps
          exact ihm k (hstep k ⟨i, hi, hk⟩) hsteps
    · refine ((id.union h).comp ih s j).trans ?_
      refine exists_congr fun i => and_congr_right fun _ => ?_
      constructor
      · rintro ⟨k, rfl | hk, m, hm, hsteps⟩
        · exact ⟨m, Nat.le_succ_of_le hm, hsteps⟩
        · exact ⟨m + 1, Nat.succ_le_succ hm, k, hk, hsteps⟩
      · rintro ⟨m, hm, hsteps⟩
        cases m with
        | zero => exact ⟨i, .inl rfl, 0, Nat.zero_le _, hsteps⟩
        | succ m =>
          obtain ⟨k, hk, hsteps⟩ := hsteps
          exact ⟨k, .inr hk, m, Nat.le_of_succ_le_succ hm, hsteps⟩

/-- As many rounds as a text has places reach what any number of rounds does. -/
theorem closure (h : Moves f R) {length : Nat} (hR : Advances length R) :
    Moves (Motion.closure f (length + 1)) fun i j => ∃ m, Steps R m i j := by
  have hsame : ∀ fuel, Motion.closure f fuel = Motion.atMost f fuel := by
    intro fuel
    funext s
    induction fuel generalizing s with
    | zero => rfl
    | succ fuel ih => simp only [Motion.closure, Motion.atMost, ih]
  rw [hsame]
  refine (h.atMost (length + 1)).congr fun i j => ⟨fun ⟨m, _, hm⟩ => ⟨m, hm⟩, ?_⟩
  rintro ⟨n, hn⟩
  obtain ⟨m, hm, hsteps⟩ := hR.shorten hn
  have hj := (hR.steps i j hn).2
  exact ⟨m, by omega, hsteps⟩

/-- A repetition first goes as many rounds as it has to. -/
theorem repeated {length least : Nat} {most : Option Nat} {body : Motion}
    (h : Moves (body.ends length) R) (hR : Advances length R)
    (hordered : ∀ m ∈ most, least ≤ m) :
    Moves ((Motion.repeated least most body).ends length) (Rounds R least most) := by
  cases most with
  | none => exact ((h.times least).comp (h.closure hR)).congr fun i j => rounds_none_iff.symm
  | some most =>
    have hle : least ≤ most := hordered most rfl
    exact ((h.times least).comp (h.atMost _)).congr fun i j => (rounds_some_iff hle).symm

end Moves

theorem testBit_placeIf {b : Bool} {place j : Nat} :
    (if b = true then 1 <<< place else 0 : Places).testBit j = true ↔ place = j ∧ b = true := by
  cases b with
  | false => simp
  | true => rw [if_pos rfl, Nat.one_shiftLeft, Nat.testBit_two_pow, decide_eq_true_iff,
      and_iff_left rfl]

theorem testBit_membersFrom {set : CodeSet} {place j : Nat} {cs : List Char} :
    (membersFrom set place cs).testBit j = true ↔
      ∃ d, place + d = j ∧ ∃ c, cs[d]? = some c ∧ set.contains c.toNat = true := by
  induction cs generalizing place with
  | nil => simp [membersFrom]
  | cons c rest ih =>
    rw [membersFrom, Nat.testBit_or, Bool.or_eq_true, ih, testBit_placeIf]
    constructor
    · rintro (⟨rfl, hc⟩ | ⟨d, rfl, hd⟩)
      · exact ⟨0, rfl, c, rfl, hc⟩
      · exact ⟨d + 1, by omega, hd⟩
    · rintro ⟨d, rfl, x, hx, hset⟩
      cases d with
      | zero =>
        cases hx
        exact .inl ⟨rfl, hset⟩
      | succ d => exact .inr ⟨d, by omega, x, hx, hset⟩

theorem testBit_holdsFrom {c : Condition} {place j : Nat} {before : Option Char}
    {cs : List Char} :
    (holdsFrom c place before cs).testBit j = true ↔
      ∃ d, place + d = j ∧ d ≤ cs.length ∧
        c.holds (if d = 0 then before else cs[d - 1]?) cs[d]? = true := by
  induction cs generalizing place before with
  | nil =>
    rw [holdsFrom, testBit_placeIf]
    constructor
    · rintro ⟨rfl, h⟩
      exact ⟨0, rfl, Nat.le_refl _, h⟩
    · rintro ⟨d, rfl, hd, h⟩
      obtain rfl := Nat.le_zero.mp hd
      exact ⟨rfl, h⟩
  | cons x rest ih =>
    rw [holdsFrom, Nat.testBit_or, Bool.or_eq_true, ih, testBit_placeIf]
    constructor
    · rintro (⟨rfl, h⟩ | ⟨d, rfl, hd, h⟩)
      · exact ⟨0, rfl, Nat.zero_le _, h⟩
      · refine ⟨d + 1, by omega, Nat.succ_le_succ hd, ?_⟩
        cases d <;> exact h
    · rintro ⟨d, rfl, hd, h⟩
      cases d with
      | zero => exact .inl ⟨rfl, h⟩
      | succ d =>
        refine .inr ⟨d, by omega, Nat.le_of_succ_le_succ hd, ?_⟩
        cases d <;> exact h

/-! ## Expressions -/

namespace Expression

theorem advances_spans (text : List Char) (e : Expression) :
    Advances text.length (e.Spans text) := by
  induction e with
  | empty => exact .of_loops fun _ _ h => h
  | one set =>
    rintro i j ⟨rfl, c, hc, -⟩
    obtain ⟨hi, -⟩ := List.getElem?_eq_some_iff.mp hc
    exact ⟨Nat.le_succ i, fun _ => hi⟩
  | place c => exact .of_loops fun _ _ h => h.1
  | seq a b iha ihb => exact iha.comp ihb
  | either a b iha ihb => exact fun i j h => h.elim (iha i j) (ihb i j)
  | repeated least most body ih =>
    rintro i j ⟨n, -, -, hn⟩
    exact ih.steps i j hn
  | group captures body ih => exact ih

/-- What never takes a character matches nothing but the empty text. -/
theorem eq_of_isEmptyOnly {text : List Char} {e : Expression} (he : e.Ordered)
    (hempty : e.isEmptyOnly = true) {i j : Nat} (h : e.Spans text i j) : i = j := by
  induction e generalizing i j with
  | empty => exact h
  | one => cases hempty
  | place => exact h.1
  | seq a b iha ihb =>
    obtain ⟨k, hk, hj⟩ := h
    rw [isEmptyOnly, Bool.and_eq_true] at hempty
    exact (iha he.1 hempty.1 hk).trans (ihb he.2 hempty.2 hj)
  | either a b iha ihb =>
    rw [isEmptyOnly, Bool.and_eq_true] at hempty
    exact h.elim (iha he.1 hempty.1) (ihb he.2 hempty.2)
  | repeated least most body ih =>
    obtain ⟨n, -, hmost, hsteps⟩ := h
    rw [isEmptyOnly, Bool.or_eq_true, beq_iff_eq] at hempty
    rcases hempty with rfl | hempty
    · obtain rfl := Nat.le_zero.mp (hmost 0 rfl)
      exact hsteps
    · exact (steps_of_loops fun i j => ih he.2 hempty).mp hsteps |>.1
  | group captures body ih => exact ih he hempty h

theorem ordered_counts {least : Nat} {most : Option Nat} {body : Expression}
    (he : (repeated least most body).Ordered) :
    ∀ m ∈ (counts least most body).2, (counts least most body).1 ≤ m := by
  rw [counts]
  split
  case isFalse => exact he.1
  case isTrue =>
    rintro _ ⟨⟩
    cases most with
    | none => exact Nat.min_le_right ..
    | some most =>
      have hle := he.1 most rfl
      simp only [Option.getD_some]
      omega

/-- The counts that matter lead to the same places as those that are written. -/
theorem rounds_counts {text : List Char} {least : Nat} {most : Option Nat} {body : Expression}
    (he : (repeated least most body).Ordered) {i j : Nat} :
    Rounds (body.Spans text) (counts least most body).1 (counts least most body).2 i j ↔
      Rounds (body.Spans text) least most i j := by
  cases hempty : body.isEmptyOnly with
  | false => rw [counts, if_neg (by simp [hempty])]
  | true =>
    have hloops : ∀ i j, body.Spans text i j → i = j := fun i j => eq_of_isEmptyOnly he.2 hempty
    rw [rounds_of_loops hloops (ordered_counts he), rounds_of_loops hloops he.1, counts,
      if_pos hempty]
    have hzero : min least 1 = 0 ↔ least = 0 := by omega
    rw [hzero]

/-- An expression leads from the places where a match begins to those where it ends. -/
theorem moves_inText (text : List Char) {e : Expression} (he : e.Ordered) :
    Moves ((e.inText text).ends text.length) (e.Spans text) := by
  induction e with
  | empty => exact .id
  | one set =>
    intro s j
    simp only [inText, Motion.ends, Nat.testBit_shiftLeft, Nat.testBit_and, Bool.and_eq_true,
      decide_eq_true_iff, testBit_membersFrom, Nat.zero_add, exists_eq_left]
    constructor
    · rintro ⟨hj, hs, hset⟩
      exact ⟨j - 1, hs, by omega, hset⟩
    · rintro ⟨i, hs, rfl, hset⟩
      exact ⟨by omega, hs, hset⟩
  | place c =>
    intro s j
    simp only [inText, Motion.ends, Nat.testBit_and, Bool.and_eq_true, testBit_holdsFrom,
      Nat.zero_add, exists_eq_left]
    constructor
    · rintro ⟨hs, h⟩
      exact ⟨j, hs, rfl, h⟩
    · rintro ⟨i, hs, rfl, h⟩
      exact ⟨hs, h⟩
  | seq a b iha ihb => exact (iha he.1).comp (ihb he.2)
  | either a b iha ihb => exact (iha he.1).union (ihb he.2)
  | repeated least most body ih =>
    have hbody := (ih he.2).repeated (advances_spans text body) (ordered_counts he)
    exact hbody.congr fun i j => rounds_counts he
  | group captures body ih => exact ih he

/-- The expression of a pattern is found in a text if it matches what stands between some two
places. -/
theorem found_iff_of_parse {p : String} {e : Expression} (h : Expression.parse p = .ok e)
    (text : List Char) : e.found text = true ↔ ∃ i j, i ≤ text.length ∧ e.Spans text i j := by
  have he := ordered_of_parse h
  have hall : ∀ i, (Nat.pow 2 (text.length + 1) - 1).testBit i = true ↔ i ≤ text.length := by
    intro i
    rw [Nat.pow_eq, Nat.testBit_two_pow_sub_one, decide_eq_true_iff, Nat.lt_succ_iff]
  have hmoves := moves_inText text he (Nat.pow 2 (text.length + 1) - 1)
  simp only [hall] at hmoves
  rw [found, bne_iff_ne, exists_comm]
  constructor
  · intro hne
    obtain ⟨j, hj⟩ := Nat.exists_testBit_of_ne_zero hne
    exact ⟨j, (hmoves j).mp hj⟩
  · rintro ⟨j, h⟩ hzero
    have hj := (hmoves j).mpr h
    rw [hzero, Nat.zero_testBit] at hj
    cases hj

end Expression

end TracerConfig.Pattern
