import ScadaBridge.Ordered

/-!
# Changes

What an update changed in a metric: all of it, or some children of a UDT. A `ChangeSet` names the
changed metrics of a device; it is kept in the order of the names. Changes of one metric are united.
-/

namespace ScadaBridge

inductive Change where
  /-- The metric is new, or its value changed. -/
  | whole
  /-- The listed children of a UDT changed, in the order of their names; with no child listed, its
  parameters alone. -/
  | children (changes : List (String × Change))

/-- Changes of metrics, in the order of the names. -/
abbrev ChangeSet := List (String × Change)

mutual

/-- Both changes of one metric together. -/
def Change.union (a : Change) : Change → Change
  | .whole => .whole
  | .children more =>
    match a with
    | .whole => .whole
    | .children current => .children (ChangeSet.extend current more)

/-- Both sets together. -/
def ChangeSet.extend (current : List (String × Change)) :
    List (String × Change) → List (String × Change)
  | [] => current
  | (name, change) :: rest =>
    let united :=
      match Ordered.find? Prod.fst name current with
      | some (_, known) => known.union change
      | none => change
    ChangeSet.extend (Ordered.insert Prod.fst (name, united) current) rest

end

def ChangeSet.record (set : ChangeSet) (name : String) (change : Change) : ChangeSet :=
  ChangeSet.extend set [(name, change)]

def ChangeSet.contains (set : ChangeSet) (name : String) : Bool :=
  Ordered.contains Prod.fst name set

end ScadaBridge
