import Mathlib.Data.List.Forall2
import TracerConfig.Proofs.FlowScan
import TracerConfig.Yaml.Node

/-!
# JSON as a document

A JSON text of strings, arrays and objects is read as a document of the same shape, in which every
string is what folding makes of it.

Main definitions:
* `ReadsNode`: tokens that are read as a node wherever they stand.
* `Gives`: what becomes of a text that is scanned first and then read, either of which may fail.
* `ReadsAs`: the node that the text of a JSON value is read as.

Main statements:
* `ReadsAs.string`, `ReadsAs.array`, `ReadsAs.object`: nodes are put together from those of the
  parts.
* `ReadsAs.read`: the document of a text as a whole.
-/

namespace TracerConfig.Yaml

variable {handles : List (String × String)}

/-! ## Values -/

/-- Whether a token begins a value in brackets. -/
def Token.opens : Token → Bool
  | .scalar .. | .flowSequenceStart | .flowMappingStart => true
  | _ => false

/-- Tokens that are read as a node wherever they stand. -/
structure ReadsNode (ts : List Token) (n : Node) : Prop where
  opens : ts.head?.any Token.opens = true
  read : ∀ (handles : List (String × String)) (block bare : Bool) (fuel : Nat) (a : Node.Ahead)
    (rest : List Token), ts.length ≤ fuel → a.tokens = ts ++ rest →
      Node.read handles block bare fuel a = .ok (n, a.skipTo rest)

/-- The node of a string. -/
def stringNode (s : String) : Node := .scalar none none .doubleQuoted s

theorem ReadsNode.string (s : String) : ReadsNode [.scalar s .doubleQuoted] (stringNode s) where
  opens := rfl
  read handles block bare fuel a rest hfuel htokens := by
    obtain ⟨fuel, rfl⟩ := Nat.exists_eq_add_one_of_ne_zero (Nat.ne_zero_of_lt hfuel)
    obtain ⟨tokens, names⟩ := a
    subst htokens
    rw [Node.read]
    rfl

/-! ## Collections -/

/-- The tokens of parts with commas between them. -/
inductive Joins {α : Type} (R : List Token → α → Prop) : List Token → List α → Prop
  | nil : Joins R [] []
  | single {ts : List Token} {x : α} : R ts x → Joins R ts [x]
  | cons {ts us : List Token} {x y : α} {xs : List α} : R ts x → Joins R us (y :: xs) →
      Joins R (ts ++ .flowEntry :: us) (x :: y :: xs)

theorem joined_append (first : Bool) (ts us rest : List Token) :
    (if first then ts ++ .flowEntry :: us else .flowEntry :: (ts ++ .flowEntry :: us)) ++ rest =
      (if first then ts else .flowEntry :: ts) ++ (.flowEntry :: us ++ rest) := by
  cases first <;> simp

/-- Parts are read up to the end of their collection, if that is so for each part in front of the
others. -/
theorem Joins.read {α : Type} {R : List Token → α → Prop} {close : Token}
    {parts : Bool → Nat → Node.Ahead → Except Error (List α × Node.Ahead)}
    (hend : ∀ first fuel rest names,
      parts first (fuel + 1) ⟨close :: rest, names⟩ = .ok ([], ⟨rest, names⟩))
    (hpart : ∀ {ts x}, R ts x → ∀ first {fuel}, ts.length ≤ fuel → ∀ tail names,
      parts first (fuel + 1) ⟨(if first then ts else .flowEntry :: ts) ++ tail, names⟩ =
        (parts false fuel ⟨tail, names⟩).map fun (xs, a) => (x :: xs, a))
    (hpos : ∀ {ts x}, R ts x → 0 < ts.length) {ts : List Token} {xs : List α} (h : Joins R ts xs)
    (first : Bool) (hfirst : xs = [] → first = true) {fuel : Nat} (hfuel : ts.length < fuel)
    (rest : List Token) (names : List (String × Nat)) :
    parts first fuel ⟨(if first then ts else .flowEntry :: ts) ++ close :: rest, names⟩ =
      .ok (xs, ⟨rest, names⟩) := by
  obtain ⟨fuel, rfl⟩ := Nat.exists_eq_add_one_of_ne_zero (Nat.ne_zero_of_lt hfuel)
  induction h generalizing first fuel with
  | nil =>
    rw [hfirst rfl]
    exact hend true fuel rest names
  | @single ts x h =>
    have hpos := hpos h
    obtain ⟨fuel, rfl⟩ : ∃ f, fuel = f + 1 := ⟨fuel - 1, by omega⟩
    rw [hpart h first (Nat.le_of_lt_succ hfuel), hend]
    rfl
  | @cons ts us x y xs h _ ih =>
    simp only [List.length_append, List.length_cons] at hfuel
    obtain ⟨fuel, rfl⟩ : ∃ f, fuel = f + 1 := ⟨fuel - 1, by omega⟩
    have hrest := ih false nofun fuel (by omega)
    rw [if_neg Bool.false_ne_true] at hrest
    rw [joined_append, hpart h first (by omega), hrest]
    rfl

/-- Tokens that begin a value do so in front of others. -/
theorem exists_cons_of_opens {ts : List Token} (h : ts.head?.any Token.opens = true)
    (rest : List Token) : ∃ t us, ts ++ rest = t :: us ∧ t.opens = true := by
  cases ts with
  | nil => cases h
  | cons t us => exact ⟨t, us ++ rest, rfl, h⟩

/-- An item of a sequence, with a comma in front of it unless it is the first one. -/
theorem flowItems_opens {t : Token} (ht : t.opens = true) {us : List Token} (first : Bool)
    (fuel : Nat) (names : List (String × Nat)) :
    Node.flowItems handles first (fuel + 1)
        ⟨if first then t :: us else .flowEntry :: t :: us, names⟩ =
      (Node.read handles false false fuel ⟨t :: us, names⟩).bind fun (item, a) =>
        (Node.flowItems handles false fuel a).map fun (items, a) => (item :: items, a) := by
  cases first <;> cases t <;> first | (rw [Node.flowItems]; rfl) | cases ht

theorem flowItems_end (first : Bool) (fuel : Nat) (rest : List Token)
    (names : List (String × Nat)) :
    Node.flowItems handles first (fuel + 1) ⟨.flowSequenceEnd :: rest, names⟩ =
      .ok ([], ⟨rest, names⟩) := by
  rw [Node.flowItems]
  rfl

theorem length_pos_of_opens {ts : List Token} (h : ts.head?.any Token.opens = true) :
    0 < ts.length := by
  cases ts with
  | nil => cases h
  | cons t us => exact Nat.zero_lt_succ _

theorem flowItems_item {ts : List Token} {n : Node} (h : ReadsNode ts n) (first : Bool)
    {fuel : Nat} (hfuel : ts.length ≤ fuel) (tail : List Token) (names : List (String × Nat)) :
    Node.flowItems handles first (fuel + 1)
        ⟨(if first then ts else .flowEntry :: ts) ++ tail, names⟩ =
      (Node.flowItems handles false fuel ⟨tail, names⟩).map fun (items, a) => (n :: items, a) := by
  obtain ⟨t, us, hts, ht⟩ := exists_cons_of_opens h.opens tail
  have htokens : (if first then ts else .flowEntry :: ts) ++ tail =
      if first then t :: us else .flowEntry :: t :: us := by
    cases first
    · exact congrArg (.flowEntry :: ·) hts
    · exact hts
  have hread := h.read handles false false fuel ⟨t :: us, names⟩ tail hfuel hts.symm
  rw [htokens, flowItems_opens ht, hread]
  rfl

/-- The items of a sequence are read up to its closing bracket. -/
theorem flowItems_joins {ts : List Token} {items : List Node} (h : Joins ReadsNode ts items)
    {fuel : Nat} (hfuel : ts.length < fuel) (rest : List Token) (names : List (String × Nat)) :
    Node.flowItems handles true fuel ⟨ts ++ .flowSequenceEnd :: rest, names⟩ =
      .ok (items, ⟨rest, names⟩) :=
  h.read flowItems_end (fun hpart => flowItems_item hpart)
    (fun hpart => length_pos_of_opens hpart.opens) true (fun _ => rfl) hfuel rest names

theorem read_flowSequenceStart (block bare : Bool) (fuel : Nat) (us : List Token)
    (names : List (String × Nat)) :
    Node.read handles block bare (fuel + 1) ⟨.flowSequenceStart :: us, names⟩ =
      (Node.flowItems handles true fuel ⟨us, names⟩).map fun (items, a) =>
        (.sequence none none items, a) := by
  rw [Node.read]
  rfl

/-- A sequence in brackets. -/
theorem ReadsNode.sequence {ts : List Token} {items : List Node} (h : Joins ReadsNode ts items) :
    ReadsNode (.flowSequenceStart :: ts ++ [.flowSequenceEnd]) (.sequence none none items) where
  opens := rfl
  read handles block bare fuel a rest hfuel htokens := by
    simp only [List.length_append, List.length_cons, List.length_nil] at hfuel
    obtain ⟨fuel, rfl⟩ : ∃ f, fuel = f + 1 := ⟨fuel - 1, by omega⟩
    obtain ⟨tokens, names⟩ := a
    have hlength : ts.length < fuel := by omega
    rw [List.append_assoc, List.singleton_append, List.cons_append] at htokens
    subst htokens
    rw [read_flowSequenceStart, flowItems_joins h hlength]
    rfl

/-- The tokens of a pair: a key between quotes, and its value. -/
inductive ReadsPair : List Token → Node × Node → Prop
  | mk (key : String) {ts : List Token} {n : Node} : ReadsNode ts n →
      ReadsPair (.key :: .scalar key .doubleQuoted :: .value :: ts) (stringNode key, n)

theorem flowPairs_end (first : Bool) (fuel : Nat) (rest : List Token)
    (names : List (String × Nat)) :
    Node.flowPairs handles first (fuel + 1) ⟨.flowMappingEnd :: rest, names⟩ =
      .ok ([], ⟨rest, names⟩) := by
  rw [Node.flowPairs]
  rfl

/-- A pair of a mapping, with a comma in front of it unless it is the first one. -/
theorem flowPairs_opens {t : Token} (ht : t.opens = true) {us : List Token} (first : Bool)
    (fuel : Nat) (key : String) (names : List (String × Nat)) :
    Node.flowPairs handles first (fuel + 2)
        ⟨if first then .key :: .scalar key .doubleQuoted :: .value :: t :: us
          else .flowEntry :: .key :: .scalar key .doubleQuoted :: .value :: t :: us, names⟩ =
      (Node.read handles false false (fuel + 1) ⟨t :: us, names⟩).bind fun (n, a) =>
        (Node.flowPairs handles false (fuel + 1) a).map fun (pairs, a) =>
          ((stringNode key, n) :: pairs, a) := by
  have hkey : Node.read handles false false (fuel + 1)
      ⟨.scalar key .doubleQuoted :: .value :: t :: us, names⟩ =
      .ok (stringNode key, ⟨.value :: t :: us, names⟩) := by
    rw [Node.read]
    rfl
  cases first with
  | false =>
    rw [if_neg Bool.false_ne_true, Node.flowPairs]
    simp only [bind, Except.bind, Bool.false_eq_true, if_false, Node.Ahead.skipTo, hkey]
    cases t <;> first | rfl | cases ht
  | true =>
    rw [if_pos rfl, Node.flowPairs]
    simp only [bind, Except.bind, if_true, Node.Ahead.skipTo, hkey]
    cases t <;> first | rfl | cases ht

theorem flowPairs_pair {ts : List Token} {p : Node × Node} (h : ReadsPair ts p) (first : Bool)
    {fuel : Nat} (hfuel : ts.length ≤ fuel) (tail : List Token) (names : List (String × Nat)) :
    Node.flowPairs handles first (fuel + 1)
        ⟨(if first then ts else .flowEntry :: ts) ++ tail, names⟩ =
      (Node.flowPairs handles false fuel ⟨tail, names⟩).map fun (pairs, a) => (p :: pairs, a) := by
  obtain ⟨key, h⟩ := h
  rename_i ts n
  simp only [List.length_cons] at hfuel
  obtain ⟨fuel, rfl⟩ : ∃ f, fuel = f + 1 := ⟨fuel - 1, by omega⟩
  obtain ⟨t, us, hts, ht⟩ := exists_cons_of_opens h.opens tail
  have htokens : (if first then .key :: .scalar key .doubleQuoted :: .value :: ts
      else .flowEntry :: .key :: .scalar key .doubleQuoted :: .value :: ts) ++ tail =
      if first then .key :: .scalar key .doubleQuoted :: .value :: t :: us
        else .flowEntry :: .key :: .scalar key .doubleQuoted :: .value :: t :: us := by
    rw [← hts]
    cases first <;> rfl
  have hread := h.read handles false false (fuel + 1) ⟨t :: us, names⟩ tail (by omega) hts.symm
  rw [htokens, flowPairs_opens ht, hread]
  rfl

/-- The pairs of a mapping are read up to its closing brace. -/
theorem flowPairs_joins {ts : List Token} {pairs : List (Node × Node)}
    (h : Joins ReadsPair ts pairs) {fuel : Nat} (hfuel : ts.length < fuel) (rest : List Token)
    (names : List (String × Nat)) :
    Node.flowPairs handles true fuel ⟨ts ++ .flowMappingEnd :: rest, names⟩ =
      .ok (pairs, ⟨rest, names⟩) := by
  refine h.read flowPairs_end (fun hpart => flowPairs_pair hpart) (fun hpart => ?_) true
    (fun _ => rfl) hfuel rest names
  obtain ⟨key, _⟩ := hpart
  exact Nat.zero_lt_succ _

theorem read_flowMappingStart (block bare : Bool) (fuel : Nat) (us : List Token)
    (names : List (String × Nat)) :
    Node.read handles block bare (fuel + 1) ⟨.flowMappingStart :: us, names⟩ =
      (Node.flowPairs handles true fuel ⟨us, names⟩).map fun (pairs, a) =>
        (.mapping none none pairs, a) := by
  rw [Node.read]
  rfl

/-- A mapping in braces. -/
theorem ReadsNode.mapping {ts : List Token} {pairs : List (Node × Node)}
    (h : Joins ReadsPair ts pairs) :
    ReadsNode (.flowMappingStart :: ts ++ [.flowMappingEnd]) (.mapping none none pairs) where
  opens := rfl
  read handles block bare fuel a rest hfuel htokens := by
    simp only [List.length_append, List.length_cons, List.length_nil] at hfuel
    obtain ⟨fuel, rfl⟩ : ∃ f, fuel = f + 1 := ⟨fuel - 1, by omega⟩
    obtain ⟨tokens, names⟩ := a
    have hlength : ts.length < fuel := by omega
    rw [List.append_assoc, List.singleton_append, List.cons_append] at htokens
    subst htokens
    rw [read_flowMappingStart, flowPairs_joins h hlength]
    rfl

/-! ## Texts -/

/-- What a text is scanned as, and what that is read as. If there is an error, it is one of
scanning. -/
inductive Gives {α : Type} (R : List Token → α → Prop) :
    Except Error (List Token) → Except Error α → Prop
  | ok {ts : List Token} {x : α} : R ts x → Gives R (.ok ts) (.ok x)
  | error (e : Error) : Gives R (.error e) (.error e)

theorem Gives.map {α β : Type} {R : List Token → α → Prop} {S : List Token → β → Prop}
    {q : Except Error (List Token)} {r : Except Error α} (h : Gives R q r)
    {f : List Token → List Token} {g : α → β} (hfg : ∀ ts x, R ts x → S (f ts) (g x)) :
    Gives S (q.map f) (r.map g) := by
  cases h with
  | ok h => exact .ok (hfg _ _ h)
  | error e => exact .error e

theorem exists_cons_of_mapM_cons {α : Type} {r : Except Error α} {rs : List (Except Error α)}
    {xs : List α} (h : (r :: rs).mapM id = .ok xs) : ∃ y ys, xs = y :: ys := by
  rw [List.mapM_cons] at h
  cases r with
  | error e => cases h
  | ok y =>
    cases hrs : rs.mapM id with
    | error e =>
      rw [hrs] at h
      cases h
    | ok ys =>
      rw [hrs] at h
      cases h
      exact ⟨y, ys, rfl⟩

/-- The parts of a collection. -/
theorem Gives.joins {α : Type} {R : List Token → α → Prop} {qs : List (Except Error (List Token))}
    {rs : List (Except Error α)} (h : List.Forall₂ (Gives R) qs rs) :
    Gives (Joins R) (commaTokens qs) (rs.mapM id) := by
  induction h with
  | nil => exact .ok .nil
  | @cons q r qs rs hfirst hothers ih =>
    rw [List.mapM_cons]
    cases hothers with
    | nil =>
      cases hfirst with
      | ok h => exact .ok (.single h)
      | error e => exact .error e
    | @cons q' r' qs rs hnext hothers =>
      rw [commaTokens]
      cases hfirst with
      | error e => exact .error e
      | @ok ts x h =>
        generalize hus : commaTokens (q' :: qs) = us at ih
        generalize hxs : (r' :: rs).mapM id = xs at ih
        cases ih with
        | error e => exact .error e
        | ok hjoins =>
          obtain ⟨y, ys, rfl⟩ := exists_cons_of_mapM_cons hxs
          exact .ok (.cons h hjoins)

/-- The node that the text of a value is read as wherever it stands. -/
def ReadsAs (v : Json.Value) (r : Except Error Node) : Prop :=
  ∃ q, ScansValue (Json.Writer.value v) q ∧ Gives ReadsNode q r

namespace ReadsAs

theorem string (s : String) :
    ReadsAs (.string s) ((Token.folded s.toList).map fun t => stringNode (String.ofList t)) := by
  refine ⟨_, .string s, ?_⟩
  rw [stringToken]
  cases Token.folded s.toList with
  | error e => exact .error e
  | ok t => exact .ok (.string _)

theorem exists_scans {items : List Json.Value} {rs : List (Except Error Node)}
    (h : List.Forall₂ ReadsAs items rs) :
    ∃ qs, List.Forall₂ ScansEntry (Json.Writer.values items) qs ∧
      List.Forall₂ (Gives ReadsNode) qs rs := by
  induction h with
  | nil => exact ⟨[], .nil, .nil⟩
  | cons hfirst _ ih =>
    obtain ⟨q, hscan, hread⟩ := hfirst
    obtain ⟨qs, hscans, hreads⟩ := ih
    exact ⟨q :: qs, .cons hscan.entry hscans, .cons hread hreads⟩

/-- An array is read as a sequence. -/
theorem array {items : List Json.Value} {rs : List (Except Error Node)}
    (h : List.Forall₂ ReadsAs items rs) :
    ReadsAs (.array items) ((rs.mapM id).map (.sequence none none)) := by
  obtain ⟨qs, hscans, hreads⟩ := exists_scans h
  exact ⟨_, .array hscans, (Gives.joins hreads).map fun _ _ => .sequence⟩

/-- A member of an object and what it is read as: a key that is a short word, and a value. -/
inductive Member : String × Json.Value → Except Error (Node × Node) → Prop
  | mk {key : String} {v : Json.Value} {r : Except Error Node} : Scan.IsKey key.toList →
      ReadsAs v r → Member (key, v) (r.map (stringNode key, ·))

theorem exists_scans_members {members : List (String × Json.Value)}
    {rs : List (Except Error (Node × Node))} (h : List.Forall₂ Member members rs) :
    ∃ qs, List.Forall₂ ScansEntry (Json.Writer.members members) qs ∧
      List.Forall₂ (Gives ReadsPair) qs rs := by
  induction h with
  | nil => exact ⟨[], .nil, .nil⟩
  | cons hfirst _ ih =>
    obtain ⟨hkey, q, hscan, hread⟩ := hfirst
    obtain ⟨qs, hscans, hreads⟩ := ih
    exact ⟨_ :: qs, .cons (hscan.member hkey) hscans, .cons (hread.map fun _ _ => .mk _) hreads⟩

/-- What some members of an object are read as. -/
def Members (members : List (String × Json.Value)) (r : Except Error (List (Node × Node))) : Prop :=
  ∃ rs, List.Forall₂ Member members rs ∧ rs.mapM id = r

theorem Members.nil : Members [] (.ok []) := ⟨[], .nil, rfl⟩

theorem Members.single {key : String} (hkey : Scan.IsKey key.toList) {v : Json.Value}
    {r : Except Error Node} (h : ReadsAs v r) :
    Members [(key, v)] (r.map fun n => [(stringNode key, n)]) := by
  refine ⟨_, .cons (.mk hkey h) .nil, ?_⟩
  cases r <;> rfl

theorem Members.append {members members' : List (String × Json.Value)}
    {r r' : Except Error (List (Node × Node))} (h : Members members r) (h' : Members members' r') :
    Members (members ++ members') (r.bind fun pairs => r'.map (pairs ++ ·)) := by
  obtain ⟨rs, hreads, rfl⟩ := h
  obtain ⟨rs', hreads', rfl⟩ := h'
  refine ⟨rs ++ rs', List.rel_append hreads hreads', ?_⟩
  rw [List.mapM_append]
  rfl

/-- An object is read as a mapping. -/
theorem object {members : List (String × Json.Value)} {r : Except Error (List (Node × Node))}
    (h : Members members r) : ReadsAs (.object members) (r.map (.mapping none none)) := by
  obtain ⟨rs, h, rfl⟩ := h
  obtain ⟨qs, hscans, hreads⟩ := exists_scans_members h
  exact ⟨_, .object hscans, (Gives.joins hreads).map fun _ _ => .mapping⟩

/-- The document of a text as a whole. -/
theorem read {v : Json.Value} {r : Except Error Node} (h : ReadsAs v r)
    (hmark : (Json.Writer.value v).head? ≠ some '\uFEFF') :
    Document.read v.render =
      if (Json.Writer.value v).all isAllowed then r.map fun n => ⟨some n⟩
      else .error .badCharacter := by
  obtain ⟨q, hscan, hread⟩ := h
  rw [Document.read, Json.Value.render, hscan.streamOf hmark]
  cases (Json.Writer.value v).all isAllowed with
  | false => rfl
  | true =>
    cases hread with
    | error e => rfl
    | @ok ts n hnode =>
      obtain ⟨t, us, hts, ht⟩ := exists_cons_of_opens hnode.opens [Token.streamEnd]
      have hcontent : Document.ofTokens (ts ++ [Token.streamEnd]) =
          Document.content Document.defaultHandles (ts ++ [Token.streamEnd]) := by
        rw [hts]
        cases t <;> first | rfl | cases ht
      have hlength : ts.length ≤ 4 * (ts ++ [Token.streamEnd]).length + 4 := by
        rw [List.length_append]
        omega
      refine hcontent.trans ?_
      rw [Document.content, hnode.read _ _ _ _ _ [.streamEnd] hlength rfl]
      rfl

end ReadsAs

end TracerConfig.Yaml
