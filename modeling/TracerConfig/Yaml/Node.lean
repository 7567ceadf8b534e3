import TracerConfig.Yaml.TokenStream

/-!
# Nodes

A document as a tree of nodes, read from its tokens. A node may carry a tag and, where later
nodes refer to it, the number of its anchor.

Anchors are numbered by the count of different names in use before them. A name that is used
again gets a new number for the nodes that follow, which a new name may then share; the last
node with a number is the one meant by it.

Main definitions:
* `Node`, `Node.anchored`: the tree and its numbered nodes, in document order.
* `Document.read`: the one document of a text.
-/

namespace TracerConfig.Yaml

/-- A node of a document. -/
inductive Node where
  | scalar (anchor : Option Nat) (tag : Option String) (style : Style) (text : String)
  | sequence (anchor : Option Nat) (tag : Option String) (items : List Node)
  | mapping (anchor : Option Nat) (tag : Option String) (pairs : List (Node × Node))
  | alias (number : Nat)
deriving Inhabited

namespace Node

/-- The node that stands for a missing one: an empty plain scalar. -/
def empty : Node := .scalar none none .plain ""

/-! ## Measures and views -/

mutual

/-- How many marks a node takes: one for a scalar or an alias, for a collection one at each end
besides those inside. -/
def size : Node → Nat
  | scalar .. => 1
  | .alias _ => 1
  | sequence _ _ items => 2 + sizeItems items
  | mapping _ _ pairs => 2 + sizePairs pairs

/-- The marks of the items of a sequence. -/
def sizeItems : List Node → Nat
  | [] => 0
  | n :: rest => size n + sizeItems rest

/-- The marks of the pairs of a mapping. -/
def sizePairs : List (Node × Node) → Nat
  | [] => 0
  | (k, v) :: rest => size k + size v + sizePairs rest

end

mutual

/-- The nodes with an anchor, a collection in front of what it holds. -/
def anchored : Node → List (Nat × Node)
  | n@(scalar anchor ..) => (anchor.map (·, n)).toList
  | .alias _ => []
  | n@(sequence anchor _ items) => (anchor.map (·, n)).toList ++ anchoredItems items
  | n@(mapping anchor _ pairs) => (anchor.map (·, n)).toList ++ anchoredPairs pairs

/-- The nodes with an anchor among the items of a sequence. -/
def anchoredItems : List Node → List (Nat × Node)
  | [] => []
  | n :: rest => anchored n ++ anchoredItems rest

/-- The nodes with an anchor among the pairs of a mapping. -/
def anchoredPairs : List (Node × Node) → List (Nat × Node)
  | [] => []
  | (k, v) :: rest => anchored k ++ anchored v ++ anchoredPairs rest

end

/-! ## Reading -/

/-- The tokens ahead, and the anchor names in use with their numbers. -/
structure Ahead where
  tokens : List Token
  names : List (String × Nat) := []

namespace Ahead

/-- Moves on to the tokens `rest`. -/
def skipTo (a : Ahead) (rest : List Token) : Ahead := { a with tokens := rest }

/-- Brings an anchor's name into use. -/
def bind (a : Ahead) : Option String → Option Nat × Ahead
  | none => (none, a)
  | some name =>
    let number := a.names.length
    (some number, { a with names := (name, number) :: a.names.filter (·.1 != name) })

end Ahead

/-- The anchor and the tag in front of a node, in either order. -/
def properties : List Token → Option String × Option (String × String) × List Token
  | .anchor a :: .tag handle suffix :: rest => (some a, some (handle, suffix), rest)
  | .anchor a :: rest => (some a, none, rest)
  | .tag handle suffix :: .anchor a :: rest => (some a, some (handle, suffix), rest)
  | .tag handle suffix :: rest => (none, some (handle, suffix), rest)
  | rest => (none, none, rest)

/-- The full tag for a handle and a suffix. -/
def expandTag (handles : List (String × String)) :
    Option (String × String) → Except Error (Option String)
  | none => .ok none
  | some (handle, suffix) =>
    if handle.isEmpty then .ok (some suffix)
    else
      match handles.lookup handle with
      | some expansion => .ok (some (expansion ++ suffix))
      | none => .error (.parsing "a node" "found undefined tag handle")

/-- Whether no key or value of a block mapping can start at a token. -/
def endsBlockPart : Token → Bool
  | .key | .value | .blockEnd => true
  | _ => false

/-- Whether no item of a sequence in the place of a mapping's value can start at a token. -/
def endsBareItem : Token → Bool
  | .blockEntry | .key | .value | .blockEnd => true
  | _ => false

/-- A node is missing. -/
def missingContent (block : Bool) : Error :=
  .parsing (if block then "a block node" else "a flow node") "did not find expected node content"

/-- An item of an indented sequence is missing. -/
def missingDash : Error := .parsing "a block collection" "did not find expected '-' indicator"

/-- A pair of a block mapping is missing. -/
def missingKey : Error := .parsing "a block mapping" "did not find expected key"

/-- A comma between items in brackets is missing. -/
def missingComma : Error := .parsing "a flow sequence" "did not find expected ',' or ']'"

/-- A comma between pairs in braces is missing. -/
def missingBraceComma : Error := .parsing "a flow mapping" "did not find expected ',' or '\x7d'"

/-- An alias has no node in front of it that it could stand for. -/
def unknownAnchor : Error := ⟨"unknown anchor", none⟩

mutual

/-- Reads a node. Block collections are possible only outside of flow collections; a sequence
in the place of a mapping's key or value need not be indented. -/
def read (handles : List (String × String)) (block bare : Bool) :
    Nat → Ahead → Except Error (Node × Ahead)
  | 0, _ => .error (missingContent block)
  | fuel + 1, a =>
    match a.tokens with
    | .alias name :: rest =>
      match a.names.lookup name with
      | some number => .ok (.alias number, a.skipTo rest)
      | none => .error unknownAnchor
    | tokens => do
      let (name, written, rest) := properties tokens
      let tag ← expandTag handles written
      let (anchor, a) := (a.skipTo rest).bind name
      let missing : Except Error (Node × Ahead) :=
        if anchor.isSome || tag.isSome then .ok (.scalar anchor tag .plain "", a)
        else .error (missingContent block)
      match rest with
      | .scalar text style :: rest =>
        return (.scalar anchor (tag.filter (· != "!")) style text, a.skipTo rest)
      | .flowSequenceStart :: rest =>
        let (items, a) ← flowItems handles true fuel (a.skipTo rest)
        return (.sequence anchor tag items, a)
      | .flowMappingStart :: rest =>
        let (pairs, a) ← flowPairs handles true fuel (a.skipTo rest)
        return (.mapping anchor tag pairs, a)
      | .blockSequenceStart :: rest =>
        if block then
          let (items, a) ← blockItems handles fuel (a.skipTo rest)
          return (.sequence anchor tag items, a)
        else missing
      | .blockMappingStart :: rest =>
        if block then
          let (pairs, a) ← blockPairs handles fuel (a.skipTo rest)
          return (.mapping anchor tag pairs, a)
        else missing
      | .blockEntry :: _ =>
        if bare then
          let (items, a) ← bareItems handles fuel a
          return (.sequence anchor tag items, a)
        else missing
      | _ => missing

/-- Reads the items of an indented sequence, and its end. -/
def blockItems (handles : List (String × String)) :
    Nat → Ahead → Except Error (List Node × Ahead)
  | 0, _ => .error missingDash
  | fuel + 1, a =>
    match a.tokens with
    | .blockEntry :: .blockEntry :: rest => do
      let (items, a) ← blockItems handles fuel (a.skipTo (.blockEntry :: rest))
      return (empty :: items, a)
    | .blockEntry :: .blockEnd :: rest => .ok ([empty], a.skipTo rest)
    | .blockEntry :: rest => do
      let (item, a) ← read handles true false fuel (a.skipTo rest)
      let (items, a) ← blockItems handles fuel a
      return (item :: items, a)
    | .blockEnd :: rest => .ok ([], a.skipTo rest)
    | _ => .error missingDash

/-- Reads the items of a sequence that is not indented; what follows ends it. -/
def bareItems (handles : List (String × String)) :
    Nat → Ahead → Except Error (List Node × Ahead)
  | 0, _ => .error missingDash
  | fuel + 1, a =>
    match a.tokens with
    | .blockEntry :: rest => do
      let (item, a) ←
        if rest.head?.any endsBareItem then .ok (empty, a.skipTo rest)
        else read handles true false fuel (a.skipTo rest)
      let (items, a) ← bareItems handles fuel a
      return (item :: items, a)
    | _ => .ok ([], a)

/-- Reads the pairs of a block mapping, and its end. -/
def blockPairs (handles : List (String × String)) :
    Nat → Ahead → Except Error (List (Node × Node) × Ahead)
  | 0, _ => .error missingKey
  | fuel + 1, a =>
    match a.tokens with
    | .key :: rest => do
      let (key, a) ←
        if rest.head?.any endsBlockPart then .ok (empty, a.skipTo rest)
        else read handles true true fuel (a.skipTo rest)
      let (value, a) ←
        match a.tokens with
        | .value :: rest =>
          if rest.head?.any endsBlockPart then .ok (empty, a.skipTo rest)
          else read handles true true fuel (a.skipTo rest)
        | _ => .ok (empty, a)
      let (pairs, a) ← blockPairs handles fuel a
      return ((key, value) :: pairs, a)
    | .blockEnd :: rest => .ok ([], a.skipTo rest)
    | _ => .error missingKey

/-- Reads the items of a bracketed sequence, and its closing bracket. An item that is a key
stands for a mapping of one pair; a missing key takes the place of the token after it. -/
def flowItems (handles : List (String × String)) (first : Bool) :
    Nat → Ahead → Except Error (List Node × Ahead)
  | 0, _ => .error missingComma
  | fuel + 1, a => do
    let a ←
      match a.tokens with
      | .flowSequenceEnd :: _ => .ok a
      | .flowEntry :: rest => if first then .ok a else .ok (a.skipTo rest)
      | _ => if first then .ok a else .error missingComma
    match a.tokens with
    | .flowSequenceEnd :: rest => return ([], a.skipTo rest)
    | .key :: rest =>
      let (key, a) ←
        match rest with
        | .value :: rest | .flowEntry :: rest | .flowSequenceEnd :: rest => .ok (empty, a.skipTo rest)
        | _ => read handles false false fuel (a.skipTo rest)
      let (value, a) ←
        match a.tokens with
        | .value :: rest =>
          match rest with
          | .flowEntry :: _ | .flowSequenceEnd :: _ => .ok (empty, a.skipTo rest)
          | _ => read handles false false fuel (a.skipTo rest)
        | _ => .ok (empty, a)
      let (items, a) ← flowItems handles false fuel a
      return (.mapping none none [(key, value)] :: items, a)
    | _ =>
      let (item, a) ← read handles false false fuel a
      let (items, a) ← flowItems handles false fuel a
      return (item :: items, a)

/-- Reads the pairs of a mapping in braces, and its closing brace. A key may lack a value. -/
def flowPairs (handles : List (String × String)) (first : Bool) :
    Nat → Ahead → Except Error (List (Node × Node) × Ahead)
  | 0, _ => .error missingBraceComma
  | fuel + 1, a => do
    let a ←
      match a.tokens with
      | .flowMappingEnd :: _ => .ok a
      | .flowEntry :: rest => if first then .ok a else .ok (a.skipTo rest)
      | _ => if first then .ok a else .error missingBraceComma
    match a.tokens with
    | .flowMappingEnd :: rest => return ([], a.skipTo rest)
    | .key :: rest =>
      let (key, a) ←
        match rest with
        | .value :: _ | .flowEntry :: _ | .flowMappingEnd :: _ => .ok (empty, a.skipTo rest)
        | _ => read handles false false fuel (a.skipTo rest)
      let (value, a) ←
        match a.tokens with
        | .value :: rest =>
          match rest with
          | .flowEntry :: _ | .flowMappingEnd :: _ => .ok (empty, a.skipTo rest)
          | _ => read handles false false fuel (a.skipTo rest)
        | _ => .ok (empty, a)
      let (pairs, a) ← flowPairs handles false fuel a
      return ((key, value) :: pairs, a)
    | _ =>
      let (key, a) ← read handles false false fuel a
      let (pairs, a) ← flowPairs handles false fuel a
      return ((key, empty) :: pairs, a)

end

end Node

/-! ## Documents -/

/-- The content of a text: a node, or nothing at all. -/
structure Document where
  root : Option Node

namespace Document

/-- The tag handles that need no directive. -/
def defaultHandles : List (String × String) := [("!", "!"), ("!!", "tag:yaml.org,2002:")]

/-- Reads directives: at most one version, which must be 1.1 or 1.2, and tag handles, each
defined once. -/
def directives (versioned : Bool) (handles : List (String × String)) :
    List Token → Except Error (List (String × String) × List Token)
  | .version major minor :: rest =>
    if versioned then .error ⟨"found duplicate %YAML directive", none⟩
    else if major = 1 && (minor = 1 || minor = 2) then directives true handles rest
    else .error ⟨"found incompatible YAML document", none⟩
  | .tagDirective handle expansion :: rest =>
    if handles.any (·.1 == handle) then .error ⟨"found duplicate %TAG directive", none⟩
    else directives versioned (handles ++ [(handle, expansion)]) rest
  | rest => .ok (handles ++ defaultHandles, rest)

/-- Whether the content of an explicitly started document is missing in front of a token. -/
def endsContent : Token → Bool
  | .version .. | .tagDirective .. | .documentStart | .documentEnd | .streamEnd => true
  | _ => false

/-- Another document follows. -/
def several : Error :=
  ⟨"deserializing from YAML containing more than one document is not supported", none⟩

/-- Reads a document's content and checks that nothing follows it but end markers. -/
def content (handles : List (String × String)) (tokens : List Token) :
    Except Error Document := do
  let (root, a) ← Node.read handles true false (4 * tokens.length + 4) { tokens := tokens }
  match a.tokens.dropWhile (· == .documentEnd) with
  | .streamEnd :: _ => return ⟨some root⟩
  | _ => throw several

/-- Reads the document of a list of tokens. -/
def ofTokens (tokens : List Token) : Except Error Document :=
  match tokens with
  | .streamEnd :: _ => .ok ⟨none⟩
  | .version .. :: _ | .tagDirective .. :: _ | .documentStart :: _ => do
    let (handles, rest) ← directives false [] tokens
    match rest with
    | .documentStart :: rest =>
      if rest.head?.any endsContent then
        match rest.dropWhile (· == .documentEnd) with
        | .streamEnd :: _ => return ⟨some Node.empty⟩
        | _ => throw several
      else content handles rest
    | _ => throw ⟨"did not find expected <document start>", none⟩
  | _ => content defaultHandles tokens

/-- The one document of a text. -/
def read (text : String) : Except Error Document := do ofTokens (← Token.streamOf text)

/-- How many marks a document takes, at least one. -/
def size (d : Document) : Nat := (d.root.map Node.size).getD 1

end Document

/-! ## Aliases -/

/-- What the aliases of a document stand for, and how many of them may be followed while its
value is put together. -/
structure Aliases where
  targets : List (Nat × Node)
  limit : Nat

/-- The aliases of a document. Of several nodes with one number the last one is meant. -/
def Document.aliases (d : Document) : Aliases where
  targets := ((d.root.map Node.anchored).getD []).reverse
  limit := 100 * d.size

/-- The node that a node stands for: itself, unless it is an alias. The state is the number of
aliases followed so far. -/
def Aliases.follow (a : Aliases) (n : Node) : StateT Nat (Except Error) Node := do
  match n with
  | .alias number =>
    let followed ← get
    if a.limit ≤ followed then throw ⟨"repetition limit exceeded", none⟩
    set (followed + 1)
    match a.targets.lookup number with
    | some target => return target
    | none => throw Node.unknownAnchor
  | n => return n

end TracerConfig.Yaml
