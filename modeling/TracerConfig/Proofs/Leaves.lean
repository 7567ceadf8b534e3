import Mathlib.Data.List.Forall2
import TracerConfig.File.Layer

/-!
# The leaves of a configuration file

The values of a configuration file are the texts of its leaves. A leaf is a scalar other than
null, or a sequence as a whole; tags are looked through. Its path is made of the keys that lead to
it. A key of the file is answered with the text of the last leaf at its path.

Main definitions:
* `Leaf`, `Leaf.text`: leaves, and the texts they are handed on as.
* `leafNodes`: the leaves of a value with their paths, in document order.

Main statements:
* `leaves_eq`: the values of a document are the texts of its leaves, if all leaves have one.
* `Layer.exists_ofValue_iff_text`: a mapping is accepted if, and only if, all leaves have a text.
* `Layer.lookup_ofValue`: what a key is answered with.
-/

namespace TracerConfig.File

open Yaml (Value)

/-- What gives a value in a configuration file. -/
inductive Leaf where
  | scalar (s : Yaml.Scalar)
  | sequence (items : List Value)

namespace Leaf

/-- The text that a leaf is handed on as. -/
def text : Leaf → Except Yaml.Error String
  | scalar s => .ok s.text
  | sequence items => Value.renderSequence items

/-- A leaf as a value of its own. -/
def value : Leaf → Value
  | scalar s => .scalar s
  | sequence items => .sequence items

theorem value_injective {a b : Leaf} (h : a.value = b.value) : a = b := by
  cases a <;> cases b <;> cases h <;> rfl

/-- A leaf at a path, as a value of the file. -/
def place (n : String × Leaf) : Except Yaml.Error (String × String) := n.2.text.map (n.1, ·)

end Leaf

mutual

/-- The leaves of a value under `path`, in document order. -/
def leafNodes (path : String) : Value → List (String × Leaf)
  | .scalar .null => []
  | .scalar s => [(path, .scalar s)]
  | .sequence items => [(path, .sequence items)]
  | .mapping pairs => pairLeafNodes path pairs
  | .tagged _ v => leafNodes path v

/-- The leaves in the pairs of a mapping. -/
def pairLeafNodes (path : String) : List (Value × Value) → List (String × Leaf)
  | [] => []
  | (k, v) :: rest =>
    (match keyText? k with
      | some key => leafNodes (join path key) v
      | none => []) ++ pairLeafNodes path rest

end

/-- The leaves under one key. -/
def underKey (path : String) (p : Value × Value) : List (String × Leaf) :=
  match keyText? p.1 with
  | some key => leafNodes (join path key) p.2
  | none => []

theorem pairLeafNodes_eq (path : String) (pairs : List (Value × Value)) :
    pairLeafNodes path pairs = pairs.flatMap (underKey path) := by
  induction pairs with
  | nil => rfl
  | cons p rest ih => rw [pairLeafNodes, ih, List.flatMap_cons, underKey]

theorem leafNodes_scalar (path : String) {s : Yaml.Scalar} (hs : s ≠ .null) :
    leafNodes path (.scalar s) = [(path, .scalar s)] := by
  cases s <;> first | rfl | exact absurd rfl hs

mutual

/-- The values of a document are the texts of its leaves. -/
theorem leaves_eq (path : String) (v : Value) :
    leaves path v = (leafNodes path v).mapM Leaf.place := by
  cases v with
  | scalar s => cases s <;> rfl
  | sequence items =>
    rw [leaves, leafNodes, List.mapM_cons, Leaf.place, Leaf.text]
    cases Value.renderSequence items <;> rfl
  | mapping pairs => rw [leaves, leafNodes, pairLeaves_eq path pairs]
  | tagged tag v => rw [leaves, leafNodes, leaves_eq path v]

theorem pairLeaves_eq (path : String) (pairs : List (Value × Value)) :
    pairLeaves path pairs = (pairLeafNodes path pairs).mapM Leaf.place := by
  match pairs with
  | [] => rfl
  | (k, v) :: rest =>
    rw [pairLeaves, pairLeafNodes, List.mapM_append, pairLeaves_eq path rest]
    cases keyText? k with
    | none => rfl
    | some key => simp only [leaves_eq (join path key) v]

end

/-- Leaves are placed in order, each with its text. -/
theorem mapM_place_eq_ok_iff {ns : List (String × Leaf)} {values : List (String × String)} :
    ns.mapM Leaf.place = .ok values ↔
      List.Forall₂ (fun n q => n.1 = q.1 ∧ n.2.text = .ok q.2) ns values := by
  induction ns generalizing values with
  | nil =>
    rw [List.forall₂_nil_left_iff, List.mapM_nil]
    exact ⟨fun h => (Except.ok.inj h).symm, fun h => congrArg Except.ok h.symm⟩
  | cons n rest ih =>
    rw [List.forall₂_cons_left_iff, List.mapM_cons, Leaf.place]
    constructor
    · intro h
      cases htext : n.2.text with
      | error e =>
        rw [htext] at h
        cases h
      | ok text =>
        rw [htext] at h
        cases hrest : rest.mapM Leaf.place with
        | error e =>
          rw [hrest] at h
          cases h
        | ok others =>
          rw [hrest] at h
          cases h
          exact ⟨(n.1, text), others, ⟨rfl, rfl⟩, ih.mp hrest, rfl⟩
    · rintro ⟨⟨path, text⟩, others, ⟨rfl, htext⟩, hrest, rfl⟩
      rw [htext, ih.mpr hrest]
      rfl

/-- Leaves can be placed if each of them has a text. -/
theorem exists_mapM_place_iff {ns : List (String × Leaf)} :
    (∃ values, ns.mapM Leaf.place = .ok values) ↔ ∀ n ∈ ns, ∃ text, n.2.text = .ok text := by
  simp only [mapM_place_eq_ok_iff]
  induction ns with
  | nil => simp
  | cons n rest ih =>
    simp only [List.forall₂_cons_left_iff, List.forall_mem_cons]
    rw [← ih]
    constructor
    · rintro ⟨_, q, values, ⟨_, htext⟩, hrest, _⟩
      exact ⟨⟨q.2, htext⟩, values, hrest⟩
    · rintro ⟨⟨text, htext⟩, values, hrest⟩
      exact ⟨_, (n.1, text), values, ⟨rfl, htext⟩, hrest, rfl⟩

theorem lookup_of_forall₂ {ns : List (String × Leaf)} {values : List (String × String)}
    (h : List.Forall₂ (fun n q => n.1 = q.1 ∧ n.2.text = .ok q.2) ns values) (path : String) :
    values.lookup path = (ns.lookup path).bind fun leaf => leaf.text.toOption := by
  induction h with
  | nil => rfl
  | @cons n q ns values hnq _ ih =>
    obtain ⟨hpath, htext⟩ := hnq
    rw [List.lookup_cons, List.lookup_cons, hpath, ih]
    cases path == q.1 with
    | false => rfl
    | true => rw [Option.bind_some, htext]; rfl

/-! ## Layers -/

/-- The last leaf at a path. -/
def lastLeaf? (v : Value) (path : String) : Option Leaf := (leafNodes "" v).reverse.lookup path

theorem mem_of_lastLeaf? {v : Value} {path : String} {leaf : Leaf}
    (h : lastLeaf? v path = some leaf) : (path, leaf) ∈ leafNodes "" v := by
  obtain ⟨front, rest, hnodes, _⟩ := List.lookup_eq_some_iff.mp h
  rw [← List.mem_reverse, hnodes]
  exact List.mem_append_right _ (List.mem_cons_self ..)

/-- A value that a configuration file can have at its root. -/
def IsRoot (v : Value) : Prop := (∃ pairs, v = .mapping pairs) ∨ v = .scalar .null

namespace Layer

/-- The values of a layer are the texts of the leaves of a root. -/
theorem ofValue_eq_ok_iff {v : Value} {layer : Layer} :
    ofValue v = .ok layer ↔ IsRoot v ∧ (leafNodes "" v).mapM Leaf.place = .ok layer.values := by
  cases v with
  | mapping pairs =>
    rw [ofValue, leafNodes, ← pairLeaves_eq]
    cases pairLeaves "" pairs with
    | error e => simp
    | ok values =>
      simp only [Except.ok.injEq, IsRoot, Value.mapping.injEq, exists_eq', true_or, true_and]
      exact ⟨fun h => h ▸ rfl, fun h => h ▸ rfl⟩
  | scalar s =>
    cases s with
    | null =>
      simp only [ofValue, IsRoot, leafNodes, or_true, true_and, List.mapM_nil]
      exact ⟨fun h => Except.ok.inj h ▸ rfl,
        fun h => congrArg Except.ok (congrArg mk (Except.ok.inj h))⟩
    | _ => simp [ofValue, IsRoot]
  | sequence items => simp [ofValue, IsRoot]
  | tagged tag v => simp [ofValue, IsRoot]

/-- A value is accepted as a configuration if it can be a root and all its leaves have texts. -/
theorem exists_ofValue_eq_ok_iff {v : Value} :
    (∃ layer, ofValue v = .ok layer) ↔
      IsRoot v ∧ ∀ n ∈ leafNodes "" v, ∃ text, n.2.text = .ok text := by
  simp only [ofValue_eq_ok_iff, exists_and_left]
  rw [← exists_mapM_place_iff]
  exact and_congr_right fun _ =>
    ⟨fun ⟨layer, h⟩ => ⟨layer.values, h⟩, fun ⟨values, h⟩ => ⟨⟨values⟩, h⟩⟩

/-- A key is answered with the text of the last leaf at its path. -/
theorem lookup_ofValue {v : Value} {layer : Layer} (h : ofValue v = .ok layer) {k : Key}
    (hk : k.inFile = true) :
    layer.lookup k = (lastLeaf? v k.path).bind fun leaf => leaf.text.toOption := by
  rw [lookup, if_pos hk, lastLeaf?]
  have hvalues := mapM_place_eq_ok_iff.mp (ofValue_eq_ok_iff.mp h).2
  exact lookup_of_forall₂ (List.rel_reverse hvalues) k.path

end Layer

end TracerConfig.File
