import TracerConfig.Proofs.Leaves

/-!
# The flat values of a configuration file

A leaf of a document stands at a place, which tells which pair to follow in each mapping on the
way to it, and has the keys of these pairs. One leaf is behind another one in the document if its
place is behind the other's place in lexicographic order. The path of a leaf is made of its keys,
joined by dots, without the empty ones at the front; since leaves at different places can have the
same path, the last one of them is the one that counts.

Main definitions:
* `LeafAt`: the leaves of a document with their places and keys, one rule for each kind of value.
* `dottedPath`: the path of keys.
* `LastLeaf`: the last leaf with a path.

Main statements:
* `leafAt_of_mem`, `mem_of_leafAt`, `pairwise_placedLeaves`: the list of all leaves, in document
  order.
* `leafNodes_eq_map`: the path under which a leaf is laid out.
* `lookup_flattened`: the answers of a configuration file.
-/

namespace TracerConfig.File

open Yaml (Value)

/-! ## Places -/

/-- A key that is a string names what stands under it, whatever tags it has. -/
inductive NamesKey : Value → String → Prop
  | string (s : String) : NamesKey (.scalar (.string s)) s
  | tagged {k : Value} {s : String} (tag : String) : NamesKey k s → NamesKey (.tagged tag k) s

/-- `LeafAt v place keys leaf`: the leaf stands in `v` at this place, under these keys.

* `scalar`: a truth value, a number or a string is a leaf. Null is none.
* `sequence`: a sequence is a leaf as a whole. There is no rule for what is inside.
* `tagged`: the leaves of a tagged value are those of the value.
* `under`: a mapping has the leaves of its values. There is no rule for a value whose key is no
  string. -/
inductive LeafAt : Value → List Nat → List String → Leaf → Prop
  | scalar {s : Yaml.Scalar} : s ≠ .null → LeafAt (.scalar s) [] [] (.scalar s)
  | sequence (items : List Value) : LeafAt (.sequence items) [] [] (.sequence items)
  | tagged {v : Value} {place : List Nat} {keys : List String} {leaf : Leaf} (tag : String) :
      LeafAt v place keys leaf → LeafAt (.tagged tag v) place keys leaf
  | under {pairs : List (Value × Value)} {i : Nat} {k v : Value} {key : String}
      {place : List Nat} {keys : List String} {leaf : Leaf} :
      pairs[i]? = some (k, v) → NamesKey k key → LeafAt v place keys leaf →
      LeafAt (.mapping pairs) (i :: place) (key :: keys) leaf

/-- The path of keys. Empty keys at the front leave no trace. -/
def dottedPath (keys : List String) : String := ".".intercalate (keys.dropWhile (· = ""))

/-- The last leaf with a path: no other one with this path stands behind it. -/
def LastLeaf (v : Value) (path : String) (leaf : Leaf) : Prop :=
  ∃ place keys, LeafAt v place keys leaf ∧ dottedPath keys = path ∧
    ∀ place' keys' leaf', LeafAt v place' keys' leaf' → dottedPath keys' = path →
      ¬ place < place'

theorem keyText?_eq_some_iff {k : Value} {s : String} : keyText? k = some s ↔ NamesKey k s := by
  constructor
  · intro h
    fun_induction keyText? k with
    | case1 s' =>
      cases h
      exact .string _
    | case2 tag k ih => exact .tagged tag (ih h)
    | case3 => cases h
  · intro h
    induction h with
    | string s => rfl
    | tagged tag _ ih => exact ih

/-! ## All leaves in document order -/

/-- A leaf with its place and its keys. -/
structure PlacedLeaf where
  place : List Nat
  keys : List String
  leaf : Leaf

/-- A leaf in the value of a pair, seen from the mapping. -/
def PlacedLeaf.under (i : Nat) (key : String) (n : PlacedLeaf) : PlacedLeaf :=
  ⟨i :: n.place, key :: n.keys, n.leaf⟩

mutual

/-- The leaves of a value, in document order. -/
def placedLeaves : Value → List PlacedLeaf
  | .scalar .null => []
  | .scalar s => [⟨[], [], .scalar s⟩]
  | .sequence items => [⟨[], [], .sequence items⟩]
  | .mapping pairs => placedPairs 0 pairs
  | .tagged _ v => placedLeaves v

/-- The leaves in the pairs of a mapping, the first of which is pair `i`. -/
def placedPairs (i : Nat) : List (Value × Value) → List PlacedLeaf
  | [] => []
  | (k, v) :: rest =>
    (match keyText? k with
      | some key => (placedLeaves v).map (.under i key)
      | none => []) ++ placedPairs (i + 1) rest

end

/-- Induction over the values that leaves are looked for in: what holds of the value of each pair
holds of a mapping. -/
theorem value_induction {motive : Value → Prop} (scalar : ∀ s, motive (.scalar s))
    (sequence : ∀ items, motive (.sequence items))
    (mapping : ∀ pairs, (∀ k v, (k, v) ∈ pairs → motive v) → motive (.mapping pairs))
    (tagged : ∀ tag v, motive v → motive (.tagged tag v)) : ∀ v, motive v
  | .scalar s => scalar s
  | .sequence items => sequence items
  | .mapping pairs => mapping pairs fun k v h =>
    have : sizeOf v < 1 + sizeOf pairs := by
      have := List.sizeOf_lt_of_mem h
      rw [Prod.mk.sizeOf_spec] at this
      omega
    value_induction scalar sequence mapping tagged v
  | .tagged tag v => tagged tag v (value_induction scalar sequence mapping tagged v)
termination_by v => sizeOf v

theorem placedLeaves_scalar {s : Yaml.Scalar} (hs : s ≠ .null) :
    placedLeaves (.scalar s) = [⟨[], [], .scalar s⟩] := by
  cases s <;> first | rfl | exact absurd rfl hs

theorem mem_placedPairs_iff {i : Nat} {pairs : List (Value × Value)} {n : PlacedLeaf} :
    n ∈ placedPairs i pairs ↔ ∃ j k v key m, pairs[j]? = some (k, v) ∧ NamesKey k key ∧
      m ∈ placedLeaves v ∧ n = PlacedLeaf.under (i + j) key m := by
  induction pairs generalizing i with
  | nil =>
    refine iff_of_false List.not_mem_nil ?_
    rintro ⟨j, k, v, key, m, hj, -⟩
    cases hj
  | cons p rest ih =>
    obtain ⟨k, v⟩ := p
    rw [placedPairs, List.mem_append, ih]
    constructor
    · rintro (h | ⟨j, k', v', key, m, hj, hkey, hm, rfl⟩)
      · cases hkey : keyText? k with
        | none =>
          rw [hkey] at h
          cases h
        | some key =>
          rw [hkey] at h
          obtain ⟨m, hm, rfl⟩ := List.mem_map.mp h
          exact ⟨0, k, v, key, m, rfl, keyText?_eq_some_iff.mp hkey, hm, rfl⟩
      · refine ⟨j + 1, k', v', key, m, hj, hkey, hm, ?_⟩
        rw [Nat.add_assoc, Nat.add_comm 1]
    · rintro ⟨j, k', v', key, m, hj, hkey, hm, rfl⟩
      cases j with
      | zero =>
        cases hj
        rw [keyText?_eq_some_iff.mpr hkey]
        exact .inl (List.mem_map_of_mem hm)
      | succ j =>
        refine .inr ⟨j, k', v', key, m, hj, hkey, hm, ?_⟩
        rw [Nat.add_assoc, Nat.add_comm 1]

theorem leafAt_of_mem {v : Value} {n : PlacedLeaf} (h : n ∈ placedLeaves v) :
    LeafAt v n.place n.keys n.leaf := by
  induction v using value_induction generalizing n with
  | scalar s =>
    have hs : s ≠ .null := by
      rintro rfl
      cases h
    rw [placedLeaves_scalar hs, List.mem_singleton] at h
    subst h
    exact .scalar hs
  | sequence items =>
    rw [placedLeaves, List.mem_singleton] at h
    subst h
    exact .sequence items
  | mapping pairs ih =>
    rw [placedLeaves, mem_placedPairs_iff] at h
    obtain ⟨j, k, v, key, m, hj, hkey, hm, rfl⟩ := h
    rw [Nat.zero_add]
    exact .under hj hkey (ih k v (List.mem_of_getElem? hj) hm)
  | tagged tag v ih => exact .tagged tag (ih h)

theorem mem_of_leafAt {v : Value} {place : List Nat} {keys : List String} {leaf : Leaf}
    (h : LeafAt v place keys leaf) : ⟨place, keys, leaf⟩ ∈ placedLeaves v := by
  induction h with
  | scalar hs =>
    rw [placedLeaves_scalar hs]
    exact List.mem_singleton_self _
  | sequence items => exact List.mem_singleton_self _
  | tagged tag _ ih => exact ih
  | @under pairs i k v key place keys leaf hi hkey _ ih =>
    rw [placedLeaves, mem_placedPairs_iff]
    refine ⟨i, k, v, key, ⟨place, keys, leaf⟩, hi, hkey, ih, ?_⟩
    rw [Nat.zero_add]
    rfl

theorem pairwise_placedPairs {pairs : List (Value × Value)}
    (h : ∀ k v, (k, v) ∈ pairs → (placedLeaves v).Pairwise fun m n => m.place < n.place) (i : Nat) :
    (placedPairs i pairs).Pairwise fun m n => m.place < n.place := by
  induction pairs generalizing i with
  | nil => exact .nil
  | cons p rest ih =>
    obtain ⟨k, v⟩ := p
    have hrest := ih (fun k' v' hp => h k' v' (List.mem_cons_of_mem _ hp)) (i + 1)
    rw [placedPairs]
    cases keyText? k with
    | none => exact hrest
    | some key =>
      refine List.pairwise_append.mpr ⟨?_, hrest, ?_⟩
      · refine List.pairwise_map.mpr ((h k v (List.mem_cons_self ..)).imp fun hlt => ?_)
        exact List.cons_lt_cons_self.mpr hlt
      · -- the pairs of the rest have greater numbers
        intro m hm n hn
        obtain ⟨m, -, rfl⟩ := List.mem_map.mp hm
        obtain ⟨j, _, _, _, n, -, -, -, rfl⟩ := mem_placedPairs_iff.mp hn
        exact List.cons_lt_cons_iff.mpr (.inl (by omega))

/-- The places of the list are in order. -/
theorem pairwise_placedLeaves (v : Value) :
    (placedLeaves v).Pairwise fun m n => m.place < n.place := by
  induction v using value_induction with
  | scalar s => cases s <;> first | exact .nil | exact List.pairwise_singleton _ _
  | sequence items => exact List.pairwise_singleton _ _
  | mapping pairs ih => exact pairwise_placedPairs ih 0
  | tagged tag v ih => exact ih

/-! ## Paths -/

theorem foldl_join {path : String} (hpath : path ≠ "") (keys : List String) :
    keys.foldl join path = ".".intercalate (path :: keys) := by
  induction keys generalizing path with
  | nil => exact String.intercalate_singleton.symm
  | cons key rest ih =>
    have hjoin : join path key = path ++ "." ++ key := if_neg (by simpa using hpath)
    have hne : path ++ "." ++ key ≠ "" := by simp
    rw [List.foldl_cons, hjoin, ih hne, String.intercalate_cons_append,
      String.intercalate_cons_cons]

/-- The keys that lead to a leaf are joined one after the other. -/
theorem foldl_join_empty (keys : List String) : keys.foldl join "" = dottedPath keys := by
  rw [dottedPath]
  induction keys with
  | nil => rfl
  | cons key rest ih =>
    have hjoin : join "" key = key := rfl
    rw [List.foldl_cons, hjoin, List.dropWhile_cons]
    by_cases hkey : key = ""
    · rw [if_pos (decide_eq_true hkey), hkey, ih]
    · rw [if_neg (by simpa using hkey), foldl_join hkey]

theorem pairLeafNodes_eq_map {pairs : List (Value × Value)}
    (h : ∀ k v, (k, v) ∈ pairs → ∀ path, leafNodes path v =
      (placedLeaves v).map fun n => (n.keys.foldl join path, n.leaf)) (i : Nat) (path : String) :
    pairLeafNodes path pairs =
      (placedPairs i pairs).map fun n => (n.keys.foldl join path, n.leaf) := by
  induction pairs generalizing i with
  | nil => rfl
  | cons p rest ih =>
    obtain ⟨k, v⟩ := p
    rw [pairLeafNodes, placedPairs, List.map_append,
      ← ih (fun k' v' hp => h k' v' (List.mem_cons_of_mem _ hp)) (i + 1)]
    cases keyText? k with
    | none => rfl
    | some key =>
      simp only [h k v (List.mem_cons_self ..), List.map_map]
      rfl

/-- A leaf is laid out under the path of its keys. -/
theorem leafNodes_eq_map (v : Value) (path : String) :
    leafNodes path v = (placedLeaves v).map fun n => (n.keys.foldl join path, n.leaf) := by
  induction v using value_induction generalizing path with
  | scalar s => cases s <;> rfl
  | sequence items => rfl
  | mapping pairs ih => exact pairLeafNodes_eq_map ih 0 path
  | tagged tag v ih => exact ih path

/-! ## Answers -/

/-- The last one of several entries is looked up. -/
theorem lookup_reverse_map_eq_some_iff {α : Type} {f : α → String × Leaf} {xs : List α}
    {path : String} {leaf : Leaf} :
    (xs.map f).reverse.lookup path = some leaf ↔
      ∃ front x back,
        xs = front ++ x :: back ∧ f x = (path, leaf) ∧ ∀ y ∈ back, (f y).1 ≠ path := by
  rw [List.lookup_eq_some_iff]
  constructor
  · rintro ⟨l₁, l₂, heq, hother⟩
    have hmap : xs.map f = l₂.reverse ++ (path, leaf) :: l₁.reverse := by
      rw [← List.reverse_reverse (xs.map f), heq]
      simp
    obtain ⟨front, rest, rfl, -, hrest⟩ := List.map_eq_append_iff.mp hmap
    obtain ⟨x, back, rfl, hx, hback⟩ := List.map_eq_cons_iff.mp hrest
    refine ⟨front, x, back, rfl, hx, fun y hy hpath => ?_⟩
    have hmem : f y ∈ l₁ := by
      rw [← List.mem_reverse, ← hback]
      exact List.mem_map_of_mem hy
    simpa [hpath] using hother _ hmem
  · rintro ⟨front, x, back, rfl, hx, hback⟩
    refine ⟨(back.map f).reverse, (front.map f).reverse, by simp [hx], fun q hq => ?_⟩
    obtain ⟨y, hy, rfl⟩ := List.mem_map.mp (List.mem_reverse.mp hq)
    simpa using Ne.symm (hback y hy)

theorem lastLeaf?_eq_some_iff {v : Value} {path : String} {leaf : Leaf} :
    lastLeaf? v path = some leaf ↔ LastLeaf v path leaf := by
  have hsorted := pairwise_placedLeaves v
  rw [lastLeaf?, leafNodes_eq_map, lookup_reverse_map_eq_some_iff]
  simp only [foldl_join_empty, Prod.mk.injEq]
  constructor
  · rintro ⟨front, n, back, heq, ⟨hpath, rfl⟩, hback⟩
    refine ⟨n.place, n.keys, leafAt_of_mem (heq ▸ by simp), hpath, ?_⟩
    intro place' keys' leaf' h' hpath' hlt
    have hmem := mem_of_leafAt h'
    rw [heq] at hmem hsorted
    rcases List.mem_append.mp hmem with hfront | hmem
    · have hbefore := (List.pairwise_append.mp hsorted).2.2 _ hfront n (List.mem_cons_self ..)
      exact List.lt_asymm hlt hbefore
    rcases List.mem_cons.mp hmem with rfl | hmem
    · exact List.lt_irrefl _ hlt
    · exact hback _ hmem hpath'
  · rintro ⟨place, keys, h, hpath, hlast⟩
    obtain ⟨front, back, heq⟩ := List.append_of_mem (mem_of_leafAt h)
    refine ⟨front, ⟨place, keys, leaf⟩, back, heq, ⟨hpath, rfl⟩, fun m hm hpath' => ?_⟩
    rw [heq] at hsorted
    have hlt := (List.pairwise_cons.mp (List.pairwise_append.mp hsorted).2.1).1 m hm
    exact hlast _ _ _ (leafAt_of_mem (heq ▸ by simp [hm])) hpath' hlt

theorem lastLeaf?_eq_none_iff {v : Value} {path : String} :
    lastLeaf? v path = none ↔
      ∀ place keys leaf, LeafAt v place keys leaf → dottedPath keys ≠ path := by
  rw [lastLeaf?, leafNodes_eq_map, List.lookup_eq_none_iff]
  simp only [foldl_join_empty, List.mem_reverse, List.mem_map, bne_iff_ne]
  constructor
  · intro h place keys leaf hleaf hpath
    exact h _ ⟨_, mem_of_leafAt hleaf, rfl⟩ hpath.symm
  · rintro h _ ⟨n, hn, rfl⟩ hpath
    exact h _ _ _ (leafAt_of_mem hn) hpath.symm

/-- What a configuration file with a mapping at its root answers. It does not say where it is
itself. For a setting it answers with the text of the last leaf whose path is that of the setting,
and with nothing only if there is no such leaf. -/
theorem lookup_flattened {pairs : List (Value × Value)} {layer : Layer}
    (h : Layer.ofValue (.mapping pairs) = .ok layer) :
    (∀ text, Value.parse text = .ok (.mapping pairs) → Layer.parse text = .ok layer) ∧
    layer.lookup .configFile = none ∧
    ∀ f : Field,
      (∀ text, layer.lookup (.setting f) = some text ↔
        ∃ leaf, LastLeaf (.mapping pairs) f.path leaf ∧ leaf.text = .ok text) ∧
      (layer.lookup (.setting f) = none ↔
        ∀ place keys leaf, LeafAt (.mapping pairs) place keys leaf → dottedPath keys ≠ f.path) := by
  refine ⟨fun text hparse => ?_, rfl, fun f => ?_⟩
  · rw [Layer.parse, hparse]
    exact h
  have hlookup : layer.lookup (.setting f) =
      (lastLeaf? (.mapping pairs) f.path).bind fun leaf => leaf.text.toOption :=
    Layer.lookup_ofValue h rfl
  have htexts := (Layer.exists_ofValue_eq_ok_iff.mp ⟨layer, h⟩).2
  rw [hlookup]
  constructor
  · intro text
    simp only [Option.bind_eq_some_iff, lastLeaf?_eq_some_iff]
    refine exists_congr fun leaf => and_congr_right fun _ => ?_
    cases leaf.text <;> simp [Except.toOption]
  · rw [← lastLeaf?_eq_none_iff]
    constructor
    · intro hnone
      by_contra hsome
      obtain ⟨leaf, hlast⟩ := Option.ne_none_iff_exists'.mp hsome
      obtain ⟨text, htext⟩ := htexts _ (mem_of_lastLeaf? hlast)
      rw [hlast, Option.bind_some, htext] at hnone
      cases hnone
    · intro hnone
      rw [hnone, Option.bind_none]

/-- A file that gives the sample rate four times: under a dotted key, under tagged keys below an
empty one, as null, and below a key that is a number. The collector it gives is a mapping. -/
def sampleRates : List (Value × Value) :=
  [ (.scalar (.string "Sampling.SampleRate"), .scalar (.int 5)),
    (.scalar (.string ""), .mapping
      [ (.tagged "Section" (.scalar (.string "Sampling")), .tagged "Rates" (.mapping
          [ (.scalar (.string "SampleRate"), .scalar (.int 6)) ])) ]),
    (.scalar (.string "Sampling"), .mapping [ (.scalar (.string "SampleRate"), .scalar .null) ]),
    (.scalar (.int 1), .mapping [ (.scalar (.string "Sampling.SampleRate"), .scalar (.int 7)) ]),
    (.scalar (.string "Collector"), .mapping
      [ (.scalar (.string "Host"), .scalar (.string "localhost")) ]) ]

theorem lookup_flattened_sampleRates :
    Layer.ofValue (.mapping sampleRates) = .ok ⟨[("Sampling.SampleRate", "5"),
      ("Sampling.SampleRate", "6"), ("Collector.Host", "localhost")]⟩ ∧
    (∃ leaf, LastLeaf (.mapping sampleRates) "Sampling.SampleRate" leaf ∧ leaf.text = .ok "6") ∧
    ∀ place keys leaf, LeafAt (.mapping sampleRates) place keys leaf →
      dottedPath keys ≠ "Collector" := by
  have hlayer : Layer.ofValue (.mapping sampleRates) = .ok ⟨[("Sampling.SampleRate", "5"),
      ("Sampling.SampleRate", "6"), ("Collector.Host", "localhost")]⟩ := by decide +kernel
  obtain ⟨-, -, hfield⟩ := lookup_flattened hlayer
  exact ⟨hlayer, ((hfield .sampleRate).1 "6").mp (by decide +kernel),
    (hfield .collector).2.mp (by decide +kernel)⟩

end TracerConfig.File
