import ScadaBridge.Yaml.Token

/-!
# Nodes of YAML

A document is a tree of nodes. `Node.ofTokens?` builds it from tokens. A node may have a tag and an
anchor; other places refer to the anchor by its name, which becomes a number when the tree is built,
since a name may be set again. Of several nodes whose anchors have one number the last is meant.

A text may hold one document or none, but not two.
-/

namespace ScadaBridge.Yaml

/-- What stands before the content of a node. -/
structure NodeProperties where
  /-- The number of its anchor. -/
  anchor : Option Nat
  tag : Option Tag
deriving DecidableEq, Repr

inductive Node where
  | scalar (properties : NodeProperties) (isPlain : Bool) (text : List Char)
  /-- The node whose anchor has a number. -/
  | reference (anchor : Nat)
  | sequence (properties : NodeProperties) (items : List Node)
  /-- A mapping, its entries in the order in which they stand. -/
  | mapping (properties : NodeProperties) (entries : List (Node × Node))
deriving Repr, Inhabited

namespace Node

/-- The node of a place where there is nothing. -/
def empty : Node := .scalar ⟨none, none⟩ true []

/-! ## Tags and anchors -/

/-- What the handles of tags stand for, the first entry for a handle counting. -/
abbrev Handles := List (List Char × Tag)

/-- The handles that need no directive. -/
def standardHandles : Handles :=
  [(['!'], [0x21]), (['!', '!'], Utf8.encode "tag:yaml.org,2002:")]

/-- A tag in full; none if its handle stands for nothing. -/
def fullTag? (handles : Handles) (t : WrittenTag) : Option Tag :=
  if t.handle.isEmpty then some t.suffix
  else (handles.find? fun h => h.1 == t.handle).map fun h => h.2 ++ t.suffix

/-- Tokens that are being read, with the anchors that were set. -/
structure Progress where
  /-- The tokens that are left. -/
  tokens : List Token
  /-- The anchors: names, each with the number that it has now. -/
  anchors : List (List Char × Nat)

/-- Sets an anchor. Its number is that of the different names set before. -/
def Progress.setAnchor (r : Progress) (name : List Char) : Progress :=
  { r with anchors := (name, r.anchors.length) :: r.anchors.filter fun a => a.1 != name }

def Progress.anchor? (r : Progress) (name : List Char) : Option Nat :=
  (r.anchors.find? fun a => a.1 == name).map Prod.snd

def Progress.skip (r : Progress) : Progress := { r with tokens := r.tokens.drop 1 }

/-- Whether the next token is one of these. -/
def Progress.isAt (r : Progress) (tokens : List Token) : Bool :=
  (r.tokens.head?.map tokens.contains).getD false

def anchorBefore (r : Progress) : Option Nat × Progress :=
  match r.tokens with
  | .anchor name :: rest =>
    (some r.anchors.length, Progress.setAnchor { r with tokens := rest } name)
  | _ => (none, r)

def tagBefore? (handles : Handles) (r : Progress) : Option (Option Tag × Progress) :=
  match r.tokens with
  | .tag t :: rest => (fullTag? handles t).map fun tag => (some tag, { r with tokens := rest })
  | _ => some (none, r)

/-- Reads a tag and an anchor, in either order. -/
def properties? (handles : Handles) (r : Progress) : Option (NodeProperties × Progress) :=
  match r.tokens with
  | .anchor _ :: _ =>
    let (anchor, r) := anchorBefore r
    (tagBefore? handles r).map fun (tag, r) => (⟨anchor, tag⟩, r)
  | _ =>
    (tagBefore? handles r).map fun (tag, r) =>
      let (anchor, r) := anchorBefore r
      (⟨anchor, tag⟩, r)

/-! ## Collections -/

/-- Where a node stands: in a block collection, where it may be one itself, or in a flow collection. As a
key or value of a block mapping it may be a sequence whose entries stand at the column of the key. -/
inductive Place where
  /-- An entry of a block sequence, or the whole document. -/
  | block
  /-- A key or value of a block mapping. -/
  | member
  /-- A part of a flow collection. -/
  | flow
deriving DecidableEq, Repr

mutual

def node? (handles : Handles) : Nat → Place → Progress → Option (Node × Progress)
  | 0, _, _ => none
  | fuel + 1, place, r =>
    match r.tokens with
    | .reference name :: _ => (r.anchor? name).map fun n => (.reference n, r.skip)
    | _ =>
      match properties? handles r with
      | none => none
      | some (properties, r) =>
        match r.tokens, place with
        | .scalar isPlain text :: _, _ => some (.scalar properties isPlain text, r.skip)
        | .flowSequenceStart :: _, _ =>
          (flowItems? handles fuel true r.skip).map fun (items, r) => (.sequence properties items, r)
        | .flowMappingStart :: _, _ =>
          (flowMembers? handles fuel true r.skip).map fun (entries, r) =>
            (.mapping properties entries, r)
        | .blockEntry :: _, .member =>
          (plainEntries? handles fuel r).map fun (items, r) => (.sequence properties items, r)
        | .blockSequenceStart :: _, .block | .blockSequenceStart :: _, .member =>
          (entries? handles fuel r.skip).map fun (items, r) => (.sequence properties items, r)
        | .blockMappingStart :: _, .block | .blockMappingStart :: _, .member =>
          (members? handles fuel r.skip).map fun (entries, r) => (.mapping properties entries, r)
        | _, _ =>
          if properties = ⟨none, none⟩ then none else some (.scalar properties true [], r)

/-- Reads a node, or nothing before one of these tokens. -/
def nodeBefore? (handles : Handles) : Nat → Place → List Token → Progress → Option (Node × Progress)
  | 0, _, _, _ => none
  | fuel + 1, place, ends, r =>
    if r.isAt ends then some (empty, r) else node? handles fuel place r

/-- Reads the entries of a block sequence up to its end. -/
def entries? (handles : Handles) : Nat → Progress → Option (List Node × Progress)
  | 0, _ => none
  | fuel + 1, r =>
    match r.tokens with
    | .blockEnd :: _ => some ([], r.skip)
    | .blockEntry :: _ =>
      match nodeBefore? handles fuel .block [.blockEntry, .blockEnd] r.skip with
      | none => none
      | some (item, r) => (entries? handles fuel r).map fun (items, r) => (item :: items, r)
    | _ => none

/-- Reads the entries of a sequence at the column of its key. -/
def plainEntries? (handles : Handles) : Nat → Progress → Option (List Node × Progress)
  | 0, _ => none
  | fuel + 1, r =>
    match r.tokens with
    | .blockEntry :: _ =>
      match nodeBefore? handles fuel .block [.blockEntry, .key, .value, .blockEnd] r.skip with
      | none => none
      | some (item, r) => (plainEntries? handles fuel r).map fun (items, r) => (item :: items, r)
    | _ => some ([], r)

/-- Reads the members of a block mapping up to its end. -/
def members? (handles : Handles) : Nat → Progress → Option (List (Node × Node) × Progress)
  | 0, _ => none
  | fuel + 1, r =>
    match r.tokens with
    | .blockEnd :: _ => some ([], r.skip)
    | .key :: _ =>
      match nodeBefore? handles fuel .member [.key, .value, .blockEnd] r.skip with
      | none => none
      | some (name, r) =>
        let content :=
          if r.isAt [.value] then nodeBefore? handles fuel .member [.key, .value, .blockEnd] r.skip
          else some (empty, r)
        match content with
        | none => none
        | some (content, r) =>
          (members? handles fuel r).map fun (entries, r) => ((name, content) :: entries, r)
    | _ => none

/-- Reads the items of a flow sequence up to its bracket, from the first or from a comma on. -/
def flowItems? (handles : Handles) : Nat → Bool → Progress → Option (List Node × Progress)
  | 0, _, _ => none
  | fuel + 1, isFirst, r =>
    if r.isAt [.flowSequenceEnd] then some ([], r.skip)
    else if !isFirst && !r.isAt [.flowEntry] then none
    else
      let r := if isFirst then r else r.skip
      if r.isAt [.flowSequenceEnd] then some ([], r.skip)
      else
        let item := if r.isAt [.key] then pair? handles fuel r.skip else node? handles fuel .flow r
        match item with
        | none => none
        | some (item, r) => (flowItems? handles fuel false r).map fun (items, r) => (item :: items, r)

/-- Reads a mapping of one member that is an item of a flow sequence. Where the key is missing, the token
in its place is passed over. -/
def pair? (handles : Handles) : Nat → Progress → Option (Node × Progress)
  | 0, _ => none
  | fuel + 1, r =>
    let name :=
      if r.isAt [.value, .flowEntry, .flowSequenceEnd] then some (empty, r.skip)
      else node? handles fuel .flow r
    match name with
    | none => none
    | some (name, r) =>
      let content :=
        if r.isAt [.value] then nodeBefore? handles fuel .flow [.flowEntry, .flowSequenceEnd] r.skip
        else some (empty, r)
      content.map fun (content, r) => (.mapping ⟨none, none⟩ [(name, content)], r)

/-- Reads the members of a flow mapping up to its brace, from the first or from a comma on. -/
def flowMembers? (handles : Handles) : Nat → Bool → Progress →
    Option (List (Node × Node) × Progress)
  | 0, _, _ => none
  | fuel + 1, isFirst, r =>
    if r.isAt [.flowMappingEnd] then some ([], r.skip)
    else if !isFirst && !r.isAt [.flowEntry] then none
    else
      let r := if isFirst then r else r.skip
      if r.isAt [.flowMappingEnd] then some ([], r.skip)
      else
        let isKeyed := r.isAt [.key]
        let name :=
          if isKeyed then
            nodeBefore? handles fuel .flow [.value, .flowEntry, .flowMappingEnd] r.skip
          else node? handles fuel .flow r
        match name with
        | none => none
        | some (name, r) =>
          let content :=
            if isKeyed && r.isAt [.value] then
              nodeBefore? handles fuel .flow [.flowEntry, .flowMappingEnd] r.skip
            else some (empty, r)
          match content with
          | none => none
          | some (content, r) =>
            (flowMembers? handles fuel false r).map fun (entries, r) =>
              ((name, content) :: entries, r)

end

/-! ## Documents -/

/-- Reads the directives at the front of a document: at most one for the version, which must be 1.1 or
1.2, and at most one for a handle. -/
def handles? (isVersioned : Bool) (known : Handles) : List Token → Option (Handles × List Token)
  | .directive (.version major minor) :: rest =>
    if isVersioned || major ≠ 1 || (minor ≠ 1 && minor ≠ 2) then none
    else handles? true known rest
  | .directive (.handle name start) :: rest =>
    if known.any fun h => h.1 == name then none
    else handles? isVersioned (known ++ [(name, start)]) rest
  | tokens => some (known ++ standardHandles, tokens)

/-- Whether nothing but marks of the end of a document is left. -/
def isEnd (tokens : List Token) : Bool := tokens.all fun t => t == .documentEnd

/-- The only document of a text, `none` for a text without a document. -/
def ofTokens? (tokens : List Token) : Option (Option Node) :=
  match tokens with
  | [] => some none
  | first :: _ =>
    match handles? false [] tokens with
    | none => none
    | some (handles, content) =>
      let isMarked := content.head? == some .documentStart
      let isDirected := first matches .directive _
      if isDirected && !isMarked then none
      else
        let r : Progress := ⟨if isMarked then content.drop 1 else content, []⟩
        let isEmpty :=
          isMarked && (r.tokens.head?.map fun t =>
            t == .documentStart || t == .documentEnd || t matches .directive _).getD true
        let read := if isEmpty then some (empty, r) else node? handles (4 * tokens.length + 4) .block r
        match read with
        | some (node, r) => if isEnd r.tokens then some (some node) else none
        | none => none

/-! ## References -/

mutual

/-- The nodes with anchors in a tree, with the numbers of the anchors, in the order of the text. -/
def anchored : Node → List (Nat × Node)
  | .scalar properties isPlain text =>
    (properties.anchor.map fun n => (n, Node.scalar properties isPlain text)).toList
  | .reference _ => []
  | .sequence properties items =>
    (properties.anchor.map fun n => (n, Node.sequence properties items)).toList ++ anchoredItems items
  | .mapping properties entries =>
    (properties.anchor.map fun n => (n, Node.mapping properties entries)).toList ++
      anchoredEntries entries

def anchoredItems : List Node → List (Nat × Node)
  | [] => []
  | n :: rest => anchored n ++ anchoredItems rest

/-- The nodes with anchors among the entries of a mapping. -/
def anchoredEntries : List (Node × Node) → List (Nat × Node)
  | [] => []
  | (k, v) :: rest => anchored k ++ (anchored v ++ anchoredEntries rest)

end

mutual

/-- The size of a tree: one for a scalar or a reference, two for a collection. -/
def size : Node → Nat
  | .scalar _ _ _ | .reference _ => 1
  | .sequence _ items => sizeOfItems items + 2
  | .mapping _ entries => sizeOfEntries entries + 2

def sizeOfItems : List Node → Nat
  | [] => 0
  | n :: rest => size n + sizeOfItems rest

def sizeOfEntries : List (Node × Node) → Nat
  | [] => 0
  | (k, v) :: rest => size k + size v + sizeOfEntries rest

end

end Node

end ScadaBridge.Yaml
