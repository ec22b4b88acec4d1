import ScadaBridge.Metric.Basic
import ScadaBridge.Metric.Change

/-!
# Taking over updates

`Metric.assign` merges an incoming metric into a stored one and tells what changed. A leaf takes over
a value of its type that differs from its own; a UDT merges child by child and parameter by parameter,
takes over children and parameters that it does not have, and keeps those that the update does not
name. `Metric.compare` says how an incoming metric relates to a stored one without merging.
-/

namespace ScadaBridge

/-- What an assignment did; a change goes with `assigned` alone. -/
inductive Assignment where
  /-- The update held nothing new. -/
  | noChange
  /-- The update was refused for its type. -/
  | typeMismatch
  /-- The update changed the metric. -/
  | assigned (change : Change)

namespace Assignment

def outcome : Assignment → Outcome
  | .noChange => .noChange
  | .typeMismatch => .typeMismatch
  | .assigned _ => .assigned

def change? : Assignment → Option Change
  | .assigned change => some change
  | .noChange | .typeMismatch => none

end Assignment

namespace Leaf

def compare (stored incoming : Leaf) : Comparison :=
  if stored.declared ≠ incoming.declared then .typeMismatch
  else
    match stored.value, incoming.value with
    | some a, some b => a.compare b
    | none, none => .equal
    | _, _ => .different

def take (stored incoming : Leaf) (value : Scalar) : Leaf :=
  { stored with
    label := { stored.label with timestamp := incoming.label.timestamp }
    value := some value }

/-- Merges an incoming leaf; one without a value brings nothing. -/
def assign (stored incoming : Leaf) : Leaf × Assignment :=
  if stored.declared ≠ incoming.declared then (stored, .typeMismatch)
  else
    match incoming.value with
    | none => (stored, .noChange)
    | some b =>
      match stored.value with
      | none => (stored.take incoming b, .assigned .whole)
      | some a =>
        match a.compare b with
        | .equal => (stored, .noChange)
        | .typeMismatch => (stored, .typeMismatch)
        | .different => (stored.take incoming b, .assigned .whole)

end Leaf

/-- How the stored parameter of the same name relates to an incoming one, if there is one. -/
def compareParameter? (stored : List Parameter) (p : Parameter) : Option Comparison :=
  (Ordered.find? Parameter.name p.name stored).map fun q => q.value.compare p.value

/-- The parameters of a UDT after those of an update were merged. -/
structure MergedParameters where
  parameters : List Parameter
  changed : Bool
  /-- How many were refused for their type. -/
  mismatches : Nat

/-- Merges the parameters of an update. -/
def mergeParameters (stored : List Parameter) : List Parameter → MergedParameters
  | [] => ⟨stored, false, 0⟩
  | p :: rest =>
    match compareParameter? stored p with
    | some .equal => mergeParameters stored rest
    | some .typeMismatch =>
      let merged := mergeParameters stored rest
      { merged with mismatches := merged.mismatches + 1 }
    | some .different | none =>
      { mergeParameters (Ordered.insert Parameter.name p stored) rest with changed := true }

/-- Whether a parameter of an update is missing or has another value of the same type. -/
def parametersDiffer (stored : List Parameter) (incoming : List Parameter) : Bool :=
  incoming.any fun p =>
    match compareParameter? stored p with
    | some comparison => comparison == .different
    | none => true

/-- The children of a UDT after those of an update were merged. -/
structure MergedChildren where
  children : List Metric
  changes : ChangeSet
  /-- How many were refused for their type. -/
  mismatches : Nat

namespace Metric

mutual

/-- How a stored metric relates to an incoming one. -/
def compare (stored : Metric) : Metric → Comparison
  | .leaf b =>
    match stored with
    | .leaf a => a.compare b
    | .udt _ _ => .typeMismatch
  | .udt incoming children =>
    match stored with
    | .leaf _ => .typeMismatch
    | .udt head existing =>
      if !head.sameDefinition incoming then .typeMismatch
      else if childrenDiffer existing children ||
          parametersDiffer head.parameters incoming.parameters then .different
      else .equal

/-- Whether a child of an update is missing or differs. -/
def childrenDiffer (stored : List Metric) : List Metric → Bool
  | [] => false
  | m :: rest =>
    (match Ordered.find? name m.name stored with
      | some existing => compare existing m == .different
      | none => true) || childrenDiffer stored rest

end

/-- The UDT after an update, from its merged parts. The update changed it if any part changed, and was
refused if it has parts and all of them were. -/
def ofMerged (head : UdtHead) (existing : List Metric) (incoming : UdtHead) (count : Nat)
    (children : MergedChildren) (parameters : MergedParameters) : Metric × Assignment :=
  let mismatches := children.mismatches + parameters.mismatches
  if !children.changes.isEmpty || parameters.changed then
    (.udt { head with
        label := { head.label with timestamp := incoming.label.timestamp }
        parameters := parameters.parameters } children.children,
      .assigned (.children children.changes))
  else
    (.udt head existing,
      if 0 < mismatches && mismatches == count then .typeMismatch else .noChange)

mutual

/-- Merges an incoming metric and tells what changed. -/
def assign (stored : Metric) : Metric → Metric × Assignment
  | .leaf b =>
    match stored with
    | .leaf a =>
      match a.assign b with
      | (a', r) => (.leaf a', r)
    | .udt head existing => (.udt head existing, .typeMismatch)
  | .udt incoming children =>
    match stored with
    | .leaf a => (.leaf a, .typeMismatch)
    | .udt head existing =>
      if !head.sameDefinition incoming then (.udt head existing, .typeMismatch)
      else
        ofMerged head existing incoming (children.length + incoming.parameters.length)
          (mergeChildren existing children) (mergeParameters head.parameters incoming.parameters)

/-- Merges the children of an update. -/
def mergeChildren (stored : List Metric) : List Metric → MergedChildren
  | [] => ⟨stored, [], 0⟩
  | m :: rest =>
    match Ordered.find? name m.name stored with
    | none =>
      let merged := mergeChildren (Ordered.insert name m stored) rest
      { merged with changes := (m.name, .whole) :: merged.changes }
    | some existing =>
      match assign existing m with
      | (existing', .assigned change) =>
        let merged := mergeChildren (Ordered.insert name existing' stored) rest
        { merged with changes := (m.name, change) :: merged.changes }
      | (_, .typeMismatch) =>
        let merged := mergeChildren stored rest
        { merged with mismatches := merged.mismatches + 1 }
      | (_, .noChange) => mergeChildren stored rest

end

end Metric

end ScadaBridge
