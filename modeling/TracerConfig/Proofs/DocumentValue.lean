import Mathlib.Data.List.Basic
import TracerConfig.Yaml.Value

/-!
# The value of a document without aliases

Where a document has no aliases, every node has a value of its own, and the value of a mapping is
put together from those of its keys and values.

Main definitions and statements:
* `Value.Means`: the value that a node has wherever it stands.
* `Means.plain`, `Means.mapping`: the values of plain scalars and mappings.
* `Means.parse`: the value of a text.
-/

namespace TracerConfig.Yaml.Value

variable {aliases : Aliases} {depth : Nat}

/-- The value of a node for which no aliases are followed. -/
def Means (aliases : Aliases) (depth : Nat) (n : Node) (v : Value) : Prop :=
  ∀ followed, (ofNode aliases depth n).run followed = .ok (v, followed)

/-- Adds a pair of a mapping to those found in front of it. -/
def addPair (aliases : Aliases) (depth : Nat) (found : List (Value × Value))
    (pair : Node × Node) : StateT Nat (Except Error) (List (Value × Value)) := do
  let key ← ofNode aliases depth pair.1
  if found.any fun (p : Value × Value) => p.1.same key then throw (duplicate key)
  let value ← ofNode aliases depth pair.2
  return (key, value) :: found

theorem ofNode_scalar (style : Style) (text : String) :
    ofNode aliases depth (.scalar none none style text) =
      StateT.lift ((Scalar.resolve none style text).map .scalar) := by
  rw [ofNode]
  rfl

theorem ofNode_mapping (pairs : List (Node × Node)) :
    ofNode aliases (depth + 1) (.mapping none none pairs) =
      (fun found => .mapping found.reverse) <$> pairs.foldlM (addPair aliases depth) [] := by
  rw [ofNode]
  rfl

/-- A pair is added with its value, if its key was not found before. -/
theorem run_addPair {p : Node × Node} {key : Value} (hkey : Means aliases depth p.1 key)
    {found : List (Value × Value)} (hnew : ∀ r ∈ found, r.1.same key = false) (followed : Nat) :
    (addPair aliases depth found p).run followed =
      (fun (r : Value × Nat) => ((key, r.1) :: found, r.2)) <$>
        (ofNode aliases depth p.2).run followed := by
  have hany : (found.any fun r => r.1.same key) = false := by simpa using hnew
  have hrun : (addPair aliases depth found p).run followed =
      (do
        let (key, followed) ← (ofNode aliases depth p.1).run followed
        if found.any fun r => r.1.same key then throw (duplicate key)
        (fun (r : Value × Nat) => ((key, r.1) :: found, r.2)) <$>
          (ofNode aliases depth p.2).run followed) := by
    simp only [addPair, StateT.run_bind]
    congr 1
    funext r
    split <;> rfl
  rw [hrun, hkey followed]
  show (do
    if found.any fun r => r.1.same key then throw (duplicate key)
    (fun (r : Value × Nat) => ((key, r.1) :: found, r.2)) <$>
      (ofNode aliases depth p.2).run followed) = _
  rw [hany]
  rfl

theorem run_foldlM_addPair {ps : List (Node × Node)} {qs : List (Value × Value)}
    (h : List.Forall₂ (fun p q => Means aliases depth p.1 q.1 ∧ Means aliases depth p.2 q.2) ps qs)
    {found : List (Value × Value)} (hnew : ∀ q ∈ qs, ∀ r ∈ found, r.1.same q.1 = false)
    (hkeys : qs.Pairwise fun p q => p.1.same q.1 = false) (followed : Nat) :
    (ps.foldlM (addPair aliases depth) found).run followed =
      .ok (qs.reverse ++ found, followed) := by
  induction h generalizing found with
  | nil => rfl
  | @cons p q ps qs hpq _ ih =>
    obtain ⟨hfirst, hkeys⟩ := List.pairwise_cons.mp hkeys
    have hrest : (ps.foldlM (addPair aliases depth) (q :: found)).run followed =
        .ok (qs.reverse ++ q :: found, followed) := by
      refine ih (fun r hr s hs => ?_) hkeys
      rcases List.mem_cons.mp hs with rfl | hs
      · exact hfirst r hr
      · exact hnew r (List.mem_cons_of_mem _ hr) s hs
    rw [List.foldlM_cons, StateT.run_bind,
      run_addPair hpq.1 (hnew q (List.mem_cons_self ..)) followed, hpq.2 followed]
    show (ps.foldlM (addPair aliases depth) (q :: found)).run followed = _
    rw [hrest, List.reverse_cons, List.append_assoc, List.singleton_append]

namespace Means

/-- A plain scalar means what its text stands for. -/
theorem plain {text : String} {s : Scalar} (h : Scalar.ofPlain text = .ok s) :
    Means aliases depth (.scalar none none .plain text) (.scalar s) := by
  have hresolve : Scalar.resolve none .plain text = .ok s := h
  intro followed
  rw [ofNode_scalar, hresolve]
  rfl

/-- A mapping means the pairs of what its keys and values mean, if no two keys are the same. -/
theorem mapping {ps : List (Node × Node)} {qs : List (Value × Value)}
    (h : List.Forall₂ (fun p q => Means aliases depth p.1 q.1 ∧ Means aliases depth p.2 q.2) ps qs)
    (hkeys : qs.Pairwise fun p q => p.1.same q.1 = false) :
    Means aliases (depth + 1) (.mapping none none ps) (.mapping qs) := by
  intro followed
  rw [ofNode_mapping, StateT.run_map,
    run_foldlM_addPair h (fun _ _ _ hr => absurd hr List.not_mem_nil) hkeys]
  show Except.ok (Value.mapping (qs.reverse ++ []).reverse, followed) = _
  rw [List.append_nil, List.reverse_reverse]

/-- A mapping with a single pair of plain scalars. -/
theorem single {key text : String} {s : Scalar} (hkey : Scalar.ofPlain key = .ok (.string key))
    (htext : Scalar.ofPlain text = .ok s) :
    Means aliases (depth + 1)
      (.mapping none none [(.scalar none none .plain key, .scalar none none .plain text)])
      (.mapping [(.scalar (.string key), .scalar s)]) :=
  .mapping (.cons ⟨.plain hkey, .plain htext⟩ .nil) (List.pairwise_singleton _ _)

/-- A text means what the node of its document means. -/
theorem parse {text : String} {n : Node} {v : Value} (hread : Document.read text = .ok ⟨some n⟩)
    (h : Means (Document.aliases ⟨some n⟩) depthLimit n v) : Value.parse text = .ok v := by
  have hvalue : Value.parse text =
      (·.1) <$> (ofNode (Document.aliases ⟨some n⟩) depthLimit n).run 0 := by
    rw [Value.parse, hread]
    rfl
  rw [hvalue, h 0]
  rfl

end Means

end TracerConfig.Yaml.Value
