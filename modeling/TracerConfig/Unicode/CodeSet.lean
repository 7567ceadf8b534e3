/-!
# Sets of code points

A set of code points is kept as the places at which membership changes: its first cut is its first
member, the next one the first code point after it that is none, and so on. So a set has one list
of cuts only, its ranges can be read off, and an operation on two sets is one walk over both lists.

Main definitions:
* `CodeSet`: a set, as its cuts in ascending order.
* `CodeSet.contains`: membership.
* `CodeSet.combine`: the set of what an operator on memberships admits, of which union,
  intersection and differences are cases.
-/

namespace TracerConfig.Unicode

/-- Whether cuts ascend strictly, from `least` on. -/
def Ascends (least : Nat) : List Nat → Prop
  | [] => True
  | c :: cs => least ≤ c ∧ Ascends (c + 1) cs

theorem Ascends.mono {least least' : Nat} {cs : List Nat} (h : Ascends least cs)
    (hle : least' ≤ least) : Ascends least' cs := by
  cases cs with
  | nil => trivial
  | cons c cs => exact ⟨Nat.le_trans hle h.1, h.2⟩

/-- A set of code points, as the places at which membership changes. -/
structure CodeSet where
  cuts : List Nat
  ascending : Ascends 0 cuts
deriving DecidableEq

namespace CodeSet

/-- Whether `n` is a member, where `now` tells it of what comes before the first of the cuts. -/
def memberFrom (now : Bool) (n : Nat) : List Nat → Bool
  | [] => now
  | c :: cs => if n < c then now else memberFrom (!now) n cs

/-- Whether `n` is a member. -/
def contains (s : CodeSet) (n : Nat) : Bool := memberFrom false n s.cuts

/-! ## Building -/

/-- The cuts that are beyond the ones before them. -/
def ascendingFrom (least : Nat) : List Nat → List Nat
  | [] => []
  | c :: cs => if least ≤ c then c :: ascendingFrom (c + 1) cs else ascendingFrom least cs

theorem ascends_ascendingFrom (least : Nat) (cs : List Nat) :
    Ascends least (ascendingFrom least cs) := by
  induction cs generalizing least with
  | nil => trivial
  | cons c cs ih =>
    rw [ascendingFrom]
    split
    · exact ⟨‹_›, ih _⟩
    · exact ih _

/-- The set with the cuts of a list, those out of order left out. -/
def ofCuts (cs : List Nat) : CodeSet := ⟨ascendingFrom 0 cs, ascends_ascendingFrom 0 cs⟩

/-- No code point. -/
def empty : CodeSet := ⟨[], trivial⟩

/-- The code points from `first` to `last`. -/
def range (first last : Nat) : CodeSet :=
  if h : first ≤ last then
    ⟨[first, last + 1], Nat.zero_le _, Nat.succ_le_succ h, trivial⟩
  else empty

/-- The one code point `n`. -/
def single (n : Nat) : CodeSet := range n n

/-- Every code point that is a character: those of surrogates are none. -/
def all : CodeSet := ⟨[0, 0xD800, 0xE000, 0x110000], by simp only [Ascends]; decide⟩

/-! ## Operations -/

/-- A cut in front of others, if membership changes there. -/
def cutIf (changes : Bool) (c : Nat) (cs : List Nat) : List Nat := if changes then c :: cs else cs

/-- The cuts of `combineFrom` while `x` is the next cut of the first set; `later` tells the cuts
beyond it. -/
def combineAt (op : Bool → Bool → Bool) (x : Nat) (later : Bool → List Nat → List Nat) (a b : Bool) :
    List Nat → List Nat
  | [] => cutIf (op a b != op (!a) b) x (later b [])
  | y :: t =>
    if x < y then cutIf (op a b != op (!a) b) x (later b (y :: t))
    else if y < x then cutIf (op a b != op a (!b)) y (combineAt op x later a (!b) t)
    else cutIf (op a b != op (!a) (!b)) x (later (!b) t)

/-- The cuts of the set of what `op` admits, where `a` and `b` tell of both sets whether what comes
before the first cuts is a member. -/
def combineFrom (op : Bool → Bool → Bool) (a : Bool) : List Nat → Bool → List Nat → List Nat
  | [], _, t => if op a false != op a true then t else []
  | x :: s, b, t => combineAt op x (combineFrom op (!a) s) a b t

theorem ascends_cutIf {least c : Nat} {changes : Bool} {cs : List Nat} (hle : least ≤ c)
    (h : Ascends (c + 1) cs) : Ascends least (cutIf changes c cs) := by
  cases changes with
  | false => exact h.mono (Nat.le_succ_of_le hle)
  | true => exact ⟨hle, h⟩

theorem ascends_combineAt {op : Bool → Bool → Bool} {x : Nat}
    {later : Bool → List Nat → List Nat} {t : List Nat} {least : Nat} {a b : Bool}
    (hlater : ∀ b t, Ascends (x + 1) t → Ascends (x + 1) (later b t)) (hx : least ≤ x)
    (ht : Ascends least t) : Ascends least (combineAt op x later a b t) := by
  induction t generalizing least b with
  | nil => exact ascends_cutIf hx (hlater _ _ trivial)
  | cons y t ih =>
    obtain ⟨hy, ht⟩ := ht
    rw [combineAt]
    split
    · next hlt => exact ascends_cutIf hx (hlater _ _ ⟨hlt, ht⟩)
    · split
      · next hlt => exact ascends_cutIf hy (ih hlt ht)
      · next hge hle =>
        have heq : y = x := by omega
        exact ascends_cutIf hx (hlater _ _ (heq ▸ ht))

theorem ascends_combineFrom {op : Bool → Bool → Bool} {s t : List Nat} {least : Nat} {a b : Bool}
    (hs : Ascends least s) (ht : Ascends least t) : Ascends least (combineFrom op a s b t) := by
  induction s generalizing least a b t with
  | nil =>
    rw [combineFrom]
    split
    · exact ht
    · trivial
  | cons x s ih => exact ascends_combineAt (fun _ _ ht => ih hs.2 ht) hs.1 ht

/-- The code points of which `op` admits the memberships in both sets. -/
def combine (op : Bool → Bool → Bool) (s t : CodeSet) : CodeSet :=
  ⟨combineFrom op false s.cuts false t.cuts, ascends_combineFrom s.ascending t.ascending⟩

/-- The members of either set. -/
def union (s t : CodeSet) : CodeSet := combine (· || ·) s t

/-- The members of both sets. -/
def inter (s t : CodeSet) : CodeSet := combine (· && ·) s t

/-- The members of `s` that are none of `t`. -/
def diff (s t : CodeSet) : CodeSet := combine (fun a b => a && !b) s t

/-- The members of one set only. -/
def symmDiff (s t : CodeSet) : CodeSet := combine (· != ·) s t

/-- The other characters. -/
def complement (s : CodeSet) : CodeSet := diff all s

/-- The members of any set of a list. -/
def unions (sets : List CodeSet) : CodeSet := sets.foldr union empty

/-! ## Ranges -/

/-- The ranges between cuts, the first of which begins one. -/
def rangesOf : List Nat → List (Nat × Nat)
  | first :: next :: cs => (first, next - 1) :: rangesOf cs
  | [first] => [(first, 0x10FFFF)]
  | [] => []

/-- The ranges of a set, in ascending order. -/
def ranges (s : CodeSet) : List (Nat × Nat) := rangesOf s.cuts

/-- Whether no member lies beyond `n`. -/
def upTo (s : CodeSet) (n : Nat) : Bool := s.ranges.all (·.2 ≤ n)

end CodeSet

end TracerConfig.Unicode
