import ScadaBridge.Yaml.Node
import ScadaBridge.Yaml.Plain

/-!
# Reading YAML

`Yaml.read?` gives the value of the document that a text holds. A reference stands for the node with its
anchor; how often references may be followed grows with the size of the tree, and nodes may be nested
`Yaml.nestingLimit` levels deep, so a reference to a node around it is refused.

Of the tags those of the standard types decide what a scalar stands for. A private tag, which begins with
an exclamation mark, is kept with the value; it says nothing about the value.
-/

namespace ScadaBridge.Yaml

/-- The greatest number of collections inside each other. -/
def nestingLimit : Nat := 128

/-- How often references may be followed, for each unit of the size of a tree. -/
def referencesPerNode : Nat := 100

/-! ## Scalars -/

/-- The tag of a standard type. -/
def standardTag (name : String) : Tag := Utf8.encode ("tag:yaml.org,2002:" ++ name)

/-- The name in a private tag, which begins with an exclamation mark; the mark alone is its own name. -/
def privateName? : Tag → Option String
  | [0x21] => some "!"
  | 0x21 :: name => (Utf8.decode name).toOption
  | _ => none

/-- A value with its private tag, if it has one. -/
def withTag (tag : Option Tag) (v : Value) : Value :=
  match tag.bind privateName? with
  | some name => .tagged name v
  | none => v

/-- What a scalar stands for, apart from its private tag. -/
def scalar? (tag : Option Tag) (isPlain : Bool) (cs : List Char) : Option Value :=
  let untagged := if isPlain then plain cs else .text (String.ofList cs)
  match tag with
  | none => some untagged
  | some tag =>
    if tag = standardTag "bool" then (truth? (String.ofList cs)).map .bool
    else if tag = standardTag "int" then integer? cs
    else if tag = standardTag "float" then (double? cs).map .double
    else if tag = standardTag "null" then
      if nullWords.contains (String.ofList cs) then some .null else none
    else if tag.head? == some 0x21 then some untagged
    else some (.text (String.ofList cs))

/-! ## Trees -/

/-- A tree in which references are followed. -/
structure Tree where
  /-- The nodes with anchors, the last one first. -/
  anchored : List (Nat × Node)
  /-- How often references may be followed. -/
  limit : Nat

/-- A computation that counts the references that it follows, and may fail. -/
abbrev Following := StateT Nat Option

namespace Tree

/-- The tree below a node. -/
def ofNode (n : Node) : Tree := ⟨n.anchored.reverse, referencesPerNode * n.size⟩

/-- The node that is meant by a node: that with the anchor for a reference, else itself. -/
def meant (t : Tree) : Node → Following Node
  | .reference anchor => fun count =>
    if t.limit ≤ count then none
    else (t.anchored.find? fun a => a.1 == anchor).map fun a => (a.2, count + 1)
  | n => pure n

/-- The text of a node that serves as a key, which must be a scalar. -/
def key (t : Tree) (n : Node) : Following String := do
  match ← t.meant n with
  | .scalar _ _ text => return String.ofList text
  | _ => failure

/-- The value of a node, with a reader for the nodes in it; without one it must be a scalar. -/
def content (t : Tree) (nested : Option (Node → Following Value)) (n : Node) : Following Value := do
  match ← t.meant n, nested with
  | .scalar properties isPlain text, _ =>
    match scalar? properties.tag isPlain text with
    | some v => return withTag properties.tag v
    | none => failure
  | .sequence properties items, some reader =>
    return withTag properties.tag (.sequence (← items.mapM reader))
  | .mapping properties entries, some reader =>
    return withTag properties.tag
      (.mapping (← entries.mapM fun (k, v) => do return (← t.key k, ← reader v)))
  | _, _ => failure

/-- The value of a node with at most `levels` collections inside each other. -/
def value (t : Tree) : Nat → Node → Following Value
  | 0 => t.content none
  | levels + 1 => t.content (some (t.value levels))

end Tree

/-- The value of the document that a text holds, which must be a mapping; its own tag does not count. A text
that says nothing holds an empty mapping. -/
def read? (text : String) : Option Value :=
  if !text.toList.all isAllowed then none
  else
    match (Token.ofText? (unifyBreaks text.toList)).bind Node.ofTokens? with
    | none => none
    | some none | some (some (.scalar _ true [])) => some (.mapping [])
    | some (some (.mapping properties entries)) =>
      let whole : Node := .mapping { properties with tag := none } entries
      (((Tree.ofNode whole).value nestingLimit whole).run 0).map Prod.fst
    | some (some _) => none

end ScadaBridge.Yaml
