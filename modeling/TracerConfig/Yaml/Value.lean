import TracerConfig.Yaml.Node
import TracerConfig.Yaml.Scalar

/-!
# Values

What a document means: its scalars resolved, its aliases followed and its keys checked to be
different. Collections may be nested 128 deep, and the number of aliases followed is limited by
the document's size.

Main definitions:
* `Value`, `Value.same`: values and their equality, for which the order of pairs does not count.
* `Value.parse`: the value of a text.
-/

namespace TracerConfig.Yaml

/-- A value. Only tags that begin with an exclamation mark are kept. -/
inductive Value where
  | scalar (s : Scalar)
  | sequence (items : List Value)
  | mapping (pairs : List (Value × Value))
  | tagged (tag : String) (value : Value)
deriving Inhabited

namespace Value

/-! ## Equality -/

mutual

/-- Whether two values are equal. -/
def same : Value → Value → Bool
  | scalar a, scalar b => a.same b
  | sequence xs, sequence ys => sameItems xs ys
  | mapping ps, mapping qs => ps.length == qs.length && covered ps qs
  | tagged s v, tagged t w => s == t && same v w
  | _, _ => false

/-- Whether the items of two sequences are equal. -/
def sameItems : List Value → List Value → Bool
  | [], [] => true
  | x :: xs, y :: ys => same x y && sameItems xs ys
  | _, _ => false

/-- Whether every pair of one mapping is one of the other. -/
def covered : List (Value × Value) → List (Value × Value) → Bool
  | [], _ => true
  | (k, v) :: ps, qs => qs.any (fun q => same k q.1 && same v q.2) && covered ps qs

end

/-! ## Reading -/

/-- How deep collections may be nested. -/
def depthLimit : Nat := 128

/-- The tag that a value keeps, without its exclamation mark unless it has nothing else. -/
def keptTag? (tag : Option String) : Option String :=
  match tag.map String.toList with
  | some ['!'] => some "!"
  | some ('!' :: rest) => some (String.ofList rest)
  | _ => none

/-- A value with the tag of its node. -/
def withTag (tag : Option String) (v : Value) : Value :=
  match keptTag? tag with
  | some t => .tagged t v
  | none => v

/-- The value of a scalar. A tag that is kept leaves the text to be resolved as without it. -/
def ofScalar (tag : Option String) (style : Style) (text : String) : Except Error Value :=
  match keptTag? tag with
  | some t => (Scalar.resolve none style text).map fun s => .tagged t (.scalar s)
  | none => (Scalar.resolve tag style text).map .scalar

/-- Collections are nested too deep. -/
def tooDeep : Error := ⟨"recursion limit exceeded", none⟩

/-- A mapping has a key twice. -/
def duplicate : Value → Error
  | scalar .null => ⟨"duplicate entry with null key", none⟩
  | scalar (.bool b) => ⟨"duplicate entry with key `" ++ (Scalar.bool b).text ++ "`", none⟩
  | scalar (.string s) => ⟨"duplicate entry with key " ++ Text.quoted s, none⟩
  | scalar s => ⟨"duplicate entry with key " ++ s.text, none⟩
  | _ => ⟨"duplicate entry in YAML map", none⟩

/-- The value of a node inside which collections may be nested `depth` deep. -/
def ofNode (aliases : Aliases) : Nat → Node → StateT Nat (Except Error) Value
  | depth, n => do
    match ← aliases.follow n with
    | .scalar _ tag style text => ofScalar tag style text
    | .alias _ => throw Node.unknownAnchor
    | .sequence _ tag items =>
      match depth with
      | 0 => throw tooDeep
      | depth + 1 =>
        let values ← items.mapM (ofNode aliases depth)
        return withTag tag (.sequence values)
    | .mapping _ tag pairs =>
      match depth with
      | 0 => throw tooDeep
      | depth + 1 =>
        let found ← pairs.foldlM (fun found (pair : Node × Node) => do
          let key ← ofNode aliases depth pair.1
          if found.any fun (p : Value × Value) => p.1.same key then throw (duplicate key)
          let value ← ofNode aliases depth pair.2
          return (key, value) :: found) []
        return withTag tag (.mapping found.reverse)

/-- The value of a document; an absent one is null. -/
def ofDocument (d : Document) : Except Error Value :=
  match d.root with
  | none => .ok (.scalar .null)
  | some n => (·.1) <$> (ofNode d.aliases depthLimit n).run 0

/-- The value of a text. -/
def parse (text : String) : Except Error Value := do ofDocument (← Document.read text)

end Value

end TracerConfig.Yaml
