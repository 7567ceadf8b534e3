import TracerConfig.Pattern.Resolution

/-!
# The counts of repetitions

The counts of a repetition in braces are read in order, and all other repetitions have counts that
are. So wherever a repetition stands in the expression of a text, there is a number of rounds that
it allows.

Main definitions:
* `Expression.Ordered`: all repetitions have their counts in order.
* `Reader.Ensures`: all results of a step of reading have a property.

Main statement: `Expression.ordered_of_parse`.
-/

namespace TracerConfig.Pattern

/-- All repetitions have their counts in order. -/
def Expression.Ordered : Expression → Prop
  | empty | one _ | place _ => True
  | seq a b | either a b => a.Ordered ∧ b.Ordered
  | repeated least most body => (∀ m ∈ most, least ≤ m) ∧ body.Ordered
  | group _ body => body.Ordered

/-- A run of two steps comes to a result if both steps do. -/
theorem bind_eq_ok_iff {α β : Type} {x : Except Error α} {next : α → Except Error β} {b : β} :
    x >>= next = .ok b ↔ ∃ a, x = .ok a ∧ next a = .ok b := by
  cases x with
  | error e => exact ⟨nofun, fun ⟨_, h, _⟩ => nomatch h⟩
  | ok a => exact ⟨fun h => ⟨a, rfl, h⟩, fun ⟨_, rfl, h⟩ => h⟩

/-! ## Resolution -/

/-- Under all flags a pattern comes to an expression with its counts in order. -/
def Ast.Ordered (a : Ast) : Prop := ∀ f e g, resolve f a = .ok (e, g) → e.Ordered

/-- All patterns of a list do. -/
def Ast.AllOrdered (as : List Ast) : Prop := ∀ a ∈ as, a.Ordered

namespace Ast

theorem allOrdered_nil : AllOrdered [] := List.forall_mem_nil _

theorem allOrdered_cons {a : Ast} {as : List Ast} :
    AllOrdered (a :: as) ↔ a.Ordered ∧ AllOrdered as := List.forall_mem_cons

theorem AllOrdered.reverse {as : List Ast} (h : AllOrdered as) : AllOrdered as.reverse :=
  fun a ha => h a (List.mem_reverse.mp ha)

theorem ordered_of_map {α : Type} {x : Except Error α} {toExpression : α → Expression}
    {f g : Flags} {e : Expression} (h : x.map (fun a => (toExpression a, f)) = .ok (e, g))
    (hall : ∀ a, x = .ok a → (toExpression a).Ordered) : e.Ordered := by
  cases x with
  | error => cases h
  | ok a =>
    cases h
    exact hall a rfl

theorem ordered_literal (l : Literal) : (literal l).Ordered := by
  intro f e g h
  refine ordered_of_map h fun e' he' => ?_
  simp only [Pattern.literal] at he'
  split at he' <;> cases he'
  trivial

theorem ordered_dot (span : Span) : (dot span).Ordered := by
  intro f e g h
  refine ordered_of_map h fun e' he' => ?_
  simp only [Pattern.dot] at he'
  split at he'
  · cases he'
  split at he'
  · cases he'
    trivial
  split at he' <;> cases he' <;> trivial

/-- The parts of a pattern that take one character or none have no counts. -/
theorem ordered_ast (p : Reader.Primitive) : p.ast.Ordered := by
  cases p with
  | literal l => exact ordered_literal l
  | dot span => exact ordered_dot span
  | assertion span a =>
    rintro f _ _ ⟨⟩
    trivial
  | short span c negated =>
    intro f e g h
    exact ordered_of_map h fun _ _ => trivial
  | property span q negated =>
    intro f e g h
    exact ordered_of_map h fun _ _ => trivial

theorem ordered_bracketed (span : Span) (negated : Bool) (inner : ClassSet) :
    (bracketed span negated inner).Ordered := by
  intro f e g h
  exact ordered_of_map h fun _ _ => trivial

theorem ordered_flags (span : Span) (settings : List FlagSetting) :
    (flags span settings).Ordered := by
  rintro f _ _ ⟨⟩
  trivial

theorem ordered_repetition (span : Span) {least : Nat} {most : Option Nat} {body : Ast}
    (h : body.Ordered) (hcounts : ∀ m ∈ most, least ≤ m) :
    (repetition span least most body).Ordered := by
  intro f e g heq
  obtain ⟨⟨e, g⟩, hbody, ⟨⟩⟩ := bind_eq_ok_iff.mp heq
  exact ⟨hcounts, h f e g hbody⟩

theorem ordered_group (span : Span) (settings : List FlagSetting) (captures : Bool) {body : Ast}
    (h : body.Ordered) : (group span settings captures body).Ordered := by
  intro f e g heq
  obtain ⟨⟨e, g⟩, hbody, ⟨⟩⟩ := bind_eq_ok_iff.mp heq
  exact h _ e g hbody

/-- What is resolved in turn and put together pair by pair has its counts in order. -/
theorem ordered_inTurn {inTurn : Flags → List Ast → Except Error (Expression × Flags)}
    (join : Expression → Expression → Expression)
    (hjoin : ∀ a b, a.Ordered → b.Ordered → (join a b).Ordered)
    (hnil : ∀ f, inTurn f [] = .ok (.empty, f)) (hone : ∀ f a, inTurn f [a] = resolve f a)
    (hcons : ∀ f a next rest, inTurn f (a :: next :: rest) = do
      let (a, f) ← resolve f a
      let (b, f) ← inTurn f (next :: rest)
      return (join a b, f))
    {asts : List Ast} (h : AllOrdered asts) {f g : Flags} {e : Expression}
    (heq : inTurn f asts = .ok (e, g)) : e.Ordered := by
  induction asts generalizing f e g with
  | nil =>
    rw [hnil] at heq
    cases heq
    trivial
  | cons ast rest ih =>
    obtain ⟨hast, hrest⟩ := allOrdered_cons.mp h
    cases rest with
    | nil => exact hast f e g (hone f ast ▸ heq)
    | cons next rest =>
      rw [hcons, bind_eq_ok_iff] at heq
      obtain ⟨⟨a, f'⟩, ha, heq⟩ := heq
      obtain ⟨⟨b, g'⟩, hb, ⟨⟩⟩ := bind_eq_ok_iff.mp heq
      exact hjoin a b (hast f a f' ha) (ih hrest hb)

theorem ordered_concat (span : Span) {parts : List Ast} (h : AllOrdered parts) :
    (concat span parts).Ordered := by
  intro f e g heq
  exact ordered_inTurn .seq (fun _ _ => And.intro) (fun _ => rfl) (fun _ _ => rfl)
    (fun _ _ _ _ => rfl) h heq

theorem ordered_alternation (span : Span) {branches : List Ast} (h : AllOrdered branches) :
    (alternation span branches).Ordered := by
  intro f e g heq
  exact ordered_inTurn .either (fun _ _ => And.intro) (fun _ => rfl) (fun _ _ => rfl)
    (fun _ _ _ _ => rfl) h heq

theorem ordered_ofParts (span : Span) {parts : List Ast} (h : AllOrdered parts) :
    (ofParts span parts).Ordered := by
  match parts with
  | [] =>
    rintro f _ _ ⟨⟩
    trivial
  | [a] => exact h a (List.mem_singleton_self a)
  | a :: b :: rest => exact ordered_concat span h

end Ast

/-! ## Reading -/

namespace Reader

open Ast

/-- All results of a step of reading have a property. -/
def Ensures {α : Type} (x : Reader α) (P : α → Prop) : Prop :=
  ∀ r a r', x.run r = .ok (a, r') → P a

namespace Ensures

variable {α β : Type} {x : Reader α} {next : α → Reader β} {P : α → Prop} {Q : β → Prop}

theorem pure {a : α} (h : P a) : Ensures (Pure.pure a) P := by
  rintro r _ _ ⟨⟩
  exact h

theorem bind (hx : Ensures x P) (hnext : ∀ a, P a → Ensures (next a) Q) :
    Ensures (x >>= next) Q := by
  intro r b r'' h
  rw [StateT.run_bind, bind_eq_ok_iff] at h
  obtain ⟨⟨a, r'⟩, ha, hb⟩ := h
  exact hnext a (hx r a r' ha) r' b r'' hb

/-- Of some steps nothing needs to be known. -/
theorem after (hnext : ∀ a, Ensures (next a) Q) : Ensures (x >>= next) Q :=
  bind (P := fun _ => True) (fun _ _ _ _ => trivial) fun a _ => hnext a

theorem throw {e : Error} : Ensures (throw e) P := by
  rintro r a r' ⟨⟩

theorem failSince {cause : Cause} {start : Nat} : Ensures (failSince cause start) P :=
  after fun _ => throw

theorem failHere {cause : Cause} : Ensures (failHere cause) P := after fun _ => throw

/-- What has been checked in front of a step holds for it. -/
theorem check {c : Prop} [Decidable c] {fail : Reader PUnit} {next : PUnit → Reader β}
    (hfail : Ensures fail fun _ => False) (hnext : ¬ c → Ensures (next ⟨⟩) Q) :
    Ensures (if c then fail >>= next else next ⟨⟩) Q := by
  split
  · exact bind hfail nofun
  · exact hnext ‹_›

end Ensures

/-- What is taken to be repeated, and what stands in front of it. -/
theorem ensures_takeLast {parts : List Ast} (hparts : AllOrdered parts) :
    Ensures (takeLast parts) fun p => p.1.Ordered ∧ AllOrdered p.2 := by
  rw [takeLast.eq_def]
  split
  case h_4 => exact .pure (allOrdered_cons.mp hparts)
  all_goals exact .failHere

/-- A repetition written as one mark has no upper count, or zero as the lower one. -/
theorem ensures_markRepetition {least : Nat} {most : Option Nat} {parts : List Ast}
    (hcounts : ∀ m ∈ most, least ≤ m) (hparts : AllOrdered parts) :
    Ensures (markRepetition least most parts) AllOrdered :=
  .bind (ensures_takeLast hparts) fun _ h => .after fun _ => .after fun _ => .after fun _ =>
    .pure (allOrdered_cons.mpr ⟨ordered_repetition _ h.1 hcounts, h.2⟩)

/-- Counts in braces are refused if they are not in order. -/
theorem ensures_countedRepetition {parts : List Ast} (hparts : AllOrdered parts) :
    Ensures (countedRepetition parts) AllOrdered := by
  refine .bind (ensures_takeLast hparts) fun _ h => .after fun _ => .after fun counts => ?_
  refine .after fun c => .check .failSince fun _ => .after fun _ => .after fun _ => ?_
  refine .check .failSince fun hcounts => .after fun _ => .pure ?_
  have hordered : ∀ m ∈ counts.2, counts.1 ≤ m := by
    rintro m hm
    rw [Option.mem_def.mp hm] at hcounts
    simpa using hcounts
  exact allOrdered_cons.mpr ⟨ordered_repetition _ h.1 hordered, h.2⟩

/-- All parts and branches that have been read have their counts in order. -/
structure BodyReading.Ordered (r : BodyReading) : Prop where
  branches : AllOrdered r.branches
  parts : AllOrdered r.parts

namespace BodyReading.Ordered

variable {r : BodyReading} (h : r.Ordered)

include h

theorem add {part : Ast} (hpart : part.Ordered) : (r.add part).Ordered :=
  ⟨h.branches, allOrdered_cons.mpr ⟨hpart, h.parts⟩⟩

theorem branch (stop : Nat) : (r.branch stop).Ordered := ordered_ofParts _ h.parts.reverse

theorem finished (stop : Nat) : (r.finished stop).Ordered := by
  rw [BodyReading.finished]
  split
  · exact h.branch stop
  · exact ordered_alternation _
      (AllOrdered.reverse (allOrdered_cons.mpr ⟨h.branch stop, h.branches⟩))

end BodyReading.Ordered

/-- What is read keeps the counts of what was read before it in order. -/
theorem ensures_body (fuel : Nat) {r : BodyReading} (h : r.Ordered) :
    Ensures (body fuel r) Ast.Ordered := by
  induction fuel generalizing r with
  | zero => exact .failHere
  | succ fuel ih =>
    -- most marks add one part to the current branch, or repeat its last one
    have hpart {part : Ast} (hpart : part.Ordered) : Ensures (body fuel (r.add part)) Ast.Ordered :=
      ih (h.add hpart)
    have hrepeat {parts : Reader (List Ast)} (hparts : Ensures parts AllOrdered) :
        Ensures (do body fuel { r with parts := ← parts }) Ast.Ordered :=
      .bind hparts fun _ hparts => ih ⟨h.branches, hparts⟩
    -- the cases are the characters that can come next, in the reader's order: the end, `)`, `|`,
    -- `(`, `[`, `?`, `*`, `+`, an opening brace, and all else
    rw [body]
    refine .after fun _ => .after fun place => .after fun cs => ?_
    split
    case h_1 | h_2 => exact .pure (h.finished place)
    case h_3 =>
      exact .after fun _ => .after fun _ =>
        ih ⟨allOrdered_cons.mpr ⟨h.branch place, h.branches⟩, allOrdered_nil⟩
    case h_4 =>
      refine .after fun head => ?_
      split
      case h_1 settings =>
        exact .after fun _ => .after fun span => hpart (ordered_flags span settings)
      case h_2 settings captures =>
        refine .after fun _ => .after fun _ => .after fun _ => ?_
        refine .bind (ih ⟨allOrdered_nil, allOrdered_nil⟩) fun inner hinner => ?_
        exact .after fun _ => .after fun _ => .after fun _ => .after fun span =>
          hpart (ordered_group span settings captures hinner)
    case h_5 => exact .after fun c => hpart (ordered_bracketed c.1 c.2.1 c.2.2)
    case h_6 => exact hrepeat (ensures_markRepetition (fun _ _ => Nat.zero_le _) h.parts)
    case h_7 => exact hrepeat (ensures_markRepetition nofun h.parts)
    case h_8 => exact hrepeat (ensures_markRepetition nofun h.parts)
    case h_9 => exact hrepeat (ensures_countedRepetition h.parts)
    case h_10 =>
      dsimp only
      split
      · exact .after fun part => hpart (ordered_ast part)
      · exact .after fun _ => .after fun _ => .after fun part => hpart (ordered_ast part)

end Reader

theorem Ast.ordered_of_parse {text : String} {ast : Ast} (h : Ast.parse text = .ok ast) :
    ast.Ordered := by
  rw [Ast.parse, bind_eq_ok_iff] at h
  obtain ⟨⟨ast', r⟩, hbody, h⟩ := h
  have hordered := Reader.ensures_body _ ⟨allOrdered_nil, allOrdered_nil⟩ _ ast' r hbody
  dsimp only at h
  split at h
  · cases h
  split at h
  · cases h
  · cases h
    exact hordered

/-- The expression of a text has its counts in order. -/
theorem Expression.ordered_of_parse {text : String} {e : Expression}
    (h : Expression.parse text = .ok e) : e.Ordered := by
  rw [Expression.parse, bind_eq_ok_iff] at h
  obtain ⟨ast, hast, h⟩ := h
  obtain ⟨⟨e', f⟩, he, h⟩ := bind_eq_ok_iff.mp h
  have hordered := Ast.ordered_of_parse hast {} e' f he
  dsimp only at h
  split at h
  · cases h
  · cases h
    exact hordered

end TracerConfig.Pattern
