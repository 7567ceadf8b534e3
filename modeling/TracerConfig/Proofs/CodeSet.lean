import TracerConfig.Unicode.Folding

/-!
# Sets of code points

What a set made by an operation holds. The walk over two lists of cuts emits a cut where what the
operator tells changes; between two cuts it does not.

Main statements:
* `CodeSet.contains_combine`: membership in what an operator makes of two sets.
* `CodeSet.contains_union` and the statements after it: the operations.
* `CodeSet.contains_close`: closing a set under differences in case.
-/

namespace TracerConfig.Unicode

namespace CodeSet

variable {n least c x : Nat} {now before after a b : Bool} {s t : CodeSet} {cs : List Nat}

/-! ## Walking over cuts -/

/-- In front of all cuts nothing changes. -/
theorem memberFrom_of_lt (h : Ascends least cs) (hn : n < least) : memberFrom now n cs = now := by
  cases cs with
  | nil => rfl
  | cons c cs => rw [memberFrom, if_pos (Nat.lt_of_lt_of_le hn h.1)]

/-- A cut is left out only where nothing changes. -/
theorem memberFrom_cutIf (h : Ascends (c + 1) cs) :
    memberFrom before n (cutIf (before != after) c cs) =
      if n < c then before else memberFrom after n cs := by
  by_cases heq : before = after
  · subst heq
    rw [bne_self_eq_false, cutIf, if_neg Bool.false_ne_true]
    split
    · next hn => exact memberFrom_of_lt h (Nat.lt_succ_of_lt hn)
    · rfl
  · have hnot : (!before) = after := Bool.not_eq.mpr heq
    rw [bne_iff_ne.mpr heq, cutIf, if_pos rfl, memberFrom, hnot]

/-- An operator that tells members apart commutes with the walk. -/
theorem memberFrom_map {f : Bool → Bool} (h : f false ≠ f true) (b : Bool) (t : List Nat) :
    memberFrom (f b) n t = f (memberFrom b n t) := by
  induction t generalizing b with
  | nil => rfl
  | cons c t ih =>
    have hnot : (!f b) = f (!b) := by
      cases b with
      | false => exact Bool.not_eq.mpr h
      | true => exact Bool.not_eq.mpr (Ne.symm h)
    rw [memberFrom, memberFrom, hnot, ih]
    split <;> rfl

/-! ## Operations -/

/-- The walk up to the next cut of the first set, which goes on with the cuts beyond it. -/
theorem memberFrom_combineAt {op : Bool → Bool → Bool} {later : Bool → List Nat → List Nat}
    {s t : List Nat} (hx : least ≤ x) (ht : Ascends least t)
    (hlater : ∀ b t, Ascends (x + 1) t → Ascends (x + 1) (later b t) ∧
      memberFrom (op (!a) b) n (later b t) = op (memberFrom (!a) n s) (memberFrom b n t)) :
    memberFrom (op a b) n (combineAt op x later a b t) =
      op (memberFrom a n (x :: s)) (memberFrom b n t) := by
  induction t generalizing least b with
  | nil =>
    obtain ⟨hrest, hmember⟩ := hlater b [] trivial
    rw [combineAt, memberFrom_cutIf hrest, hmember, memberFrom, memberFrom]
    split <;> rfl
  | cons y t ih =>
    obtain ⟨hy, ht⟩ := ht
    rw [combineAt]
    rcases Nat.lt_trichotomy x y with hlt | rfl | hgt
    · obtain ⟨hrest, hmember⟩ := hlater b (y :: t) ⟨hlt, ht⟩
      rw [if_pos hlt, memberFrom_cutIf hrest, hmember, memberFrom.eq_2 a n x s]
      split
      · next hn => rw [memberFrom, if_pos (Nat.lt_trans hn hlt)]
      · rfl
    · obtain ⟨hrest, hmember⟩ := hlater (!b) t ht
      rw [if_neg (Nat.lt_irrefl x), if_neg (Nat.lt_irrefl x), memberFrom_cutIf hrest, hmember,
        memberFrom, memberFrom]
      split <;> rfl
    · have hrest : Ascends (y + 1) (combineAt op x later a (!b) t) :=
        ascends_combineAt (fun b t ht => (hlater b t ht).1) hgt ht
      rw [if_neg (Nat.lt_asymm hgt), if_pos hgt, memberFrom_cutIf hrest, ih hgt ht,
        memberFrom.eq_2 b n y t]
      split
      · next hn => rw [memberFrom, if_pos (Nat.lt_trans hn hgt)]
      · rfl

theorem memberFrom_combineFrom {op : Bool → Bool → Bool} {s t : List Nat}
    (hs : Ascends least s) (ht : Ascends least t) :
    memberFrom (op a b) n (combineFrom op a s b t) =
      op (memberFrom a n s) (memberFrom b n t) := by
  induction s generalizing least a b t with
  | nil =>
    rw [combineFrom, memberFrom]
    split
    · next hchange => exact memberFrom_map (bne_iff_ne.mp hchange) b t
    · next hsame =>
      have hconstant : op a false = op a true := by simpa using hsame
      rw [memberFrom]
      cases b <;> cases memberFrom _ n t <;> simp only [hconstant]
  | cons x s ih =>
    exact memberFrom_combineAt hs.1 ht fun b t ht => ⟨ascends_combineFrom hs.2 ht, ih hs.2 ht⟩

/-- Membership in what an operator makes of two sets; what lies in neither is to be left out. -/
theorem contains_combine {op : Bool → Bool → Bool} (hop : op false false = false)
    (s t : CodeSet) (n : Nat) :
    (combine op s t).contains n = op (s.contains n) (t.contains n) := by
  have hwalk : memberFrom (op false false) n (combineFrom op false s.cuts false t.cuts) =
      op (memberFrom false n s.cuts) (memberFrom false n t.cuts) :=
    memberFrom_combineFrom s.ascending t.ascending
  rw [hop] at hwalk
  exact hwalk

@[simp]
theorem contains_union (s t : CodeSet) (n : Nat) :
    (s.union t).contains n = (s.contains n || t.contains n) := contains_combine rfl s t n

@[simp]
theorem contains_inter (s t : CodeSet) (n : Nat) :
    (s.inter t).contains n = (s.contains n && t.contains n) := contains_combine rfl s t n

@[simp]
theorem contains_diff (s t : CodeSet) (n : Nat) :
    (s.diff t).contains n = (s.contains n && !t.contains n) := contains_combine rfl s t n

@[simp]
theorem contains_symmDiff (s t : CodeSet) (n : Nat) :
    (s.symmDiff t).contains n = (s.contains n != t.contains n) := contains_combine rfl s t n

theorem contains_complement (s : CodeSet) (n : Nat) :
    s.complement.contains n = (all.contains n && !s.contains n) := contains_diff all s n

@[simp]
theorem contains_empty (n : Nat) : empty.contains n = false := rfl

@[simp]
theorem contains_unions (sets : List CodeSet) (n : Nat) :
    (unions sets).contains n = sets.any (·.contains n) := by
  induction sets with
  | nil => rfl
  | cons s sets ih => rw [unions, List.foldr_cons, contains_union, List.any_cons, ← ih, unions]

/-! ## Ranges and groups -/

theorem contains_range (first last n : Nat) :
    (range first last).contains n = decide (first ≤ n ∧ n ≤ last) := by
  rw [range]
  split
  · simp only [contains, memberFrom]
    split
    · next hn => exact (decide_eq_false fun h => Nat.not_le_of_lt hn h.1).symm
    · next hn =>
      split
      · next hlast => exact (decide_eq_true ⟨Nat.le_of_not_lt hn, Nat.le_of_lt_succ hlast⟩).symm
      · next hlast =>
        exact (decide_eq_false fun h => hlast (Nat.lt_succ_of_le h.2)).symm
  · next hnone => exact (decide_eq_false fun h => hnone (Nat.le_trans h.1 h.2)).symm

theorem contains_single (m n : Nat) : (single m).contains n = decide (n = m) := by
  rw [single, contains_range]
  exact decide_eq_decide.mpr ⟨fun h => Nat.le_antisymm h.2 h.1, fun h => ⟨Nat.le_of_eq h.symm, Nat.le_of_eq h⟩⟩

/-- What the closure of a set holds: its members, and whoever shares a group with one. -/
theorem contains_close (groups : List (List Nat)) (s : CodeSet) (n : Nat) :
    (s.close groups).contains n = true ↔
      s.contains n = true ∨ ∃ group ∈ groups, n ∈ group ∧ ∃ m ∈ group, s.contains m = true := by
  simp only [close, contains_union, contains_unions, List.any_map, Function.comp_def,
    contains_single, Bool.or_eq_true, List.any_eq_true, List.mem_flatMap, decide_eq_true_eq,
    exists_eq_right']
  constructor
  · rintro (hn | ⟨group, hgroup, hn⟩)
    · exact .inl hn
    · rw [lacking] at hn
      split at hn
      · next hmeets =>
        exact .inr ⟨group, hgroup, (List.mem_filter.mp hn).1, List.any_eq_true.mp hmeets⟩
      · cases hn
  · rintro (hn | ⟨group, hgroup, hn, hmeets⟩)
    · exact .inl hn
    · by_cases hs : s.contains n = true
      · exact .inl hs
      · refine .inr ⟨group, hgroup, ?_⟩
        rw [lacking, if_pos (List.any_eq_true.mpr hmeets)]
        exact List.mem_filter.mpr ⟨hn, by simpa using hs⟩

end CodeSet

end TracerConfig.Unicode
