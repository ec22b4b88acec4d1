import ScadaBridge.Settings.Layers
import ScadaBridge.Yaml.Value

/-!
# Values with their provenance

A document that is a layer of settings may tell of each value in it from which source it came. Such a
value is written as an object with two members, one for the value and one for the number of the source.
`withoutProvenance?` gives the document without the numbers. An object with a member for the value stands
for that value, whatever else is in it; a number of a source must be one wherever it stands.

In a document in YAML a private tag of a value tells the path of the member that has the value: the names
between the points, up to the first that is empty.
-/

namespace ScadaBridge.Json

namespace Provenance

/-- The name of the member that holds the value. -/
def valueMember : String := "___figment_value_value"

/-- The name of the member that holds the number of the source. -/
def sourceMember : String := "___figment_value_id"

/-- What an object with these members stands for: the last of its values, or itself if it has none. -/
def value (members : List (String × Json)) : Json :=
  match member? valueMember members.reverse with
  | some j => j
  | none => .obj members

end Provenance

mutual

/-- The document without the numbers of sources. Nothing if one of them is no natural number of 64 bits,
or if a part of the document is unreadable. -/
def withoutProvenance? : Json → Option Json
  | .arr items => (itemsWithoutProvenance? items).map .arr
  | .obj members => (membersWithoutProvenance? members).map Provenance.value
  | .unreadable => none
  | j => some j

/-- Items without the numbers of sources. -/
def itemsWithoutProvenance? : List Json → Option (List Json)
  | [] => some []
  | j :: rest =>
    match withoutProvenance? j, itemsWithoutProvenance? rest with
    | some j', some rest' => some (j' :: rest')
    | _, _ => none

/-- Members without the numbers of sources. -/
def membersWithoutProvenance? : List (String × Json) → Option (List (String × Json))
  | [] => some []
  | (name, j) :: rest =>
    if name = Provenance.sourceMember then
      if j.uint64?.isSome then membersWithoutProvenance? rest else none
    else
      match withoutProvenance? j, membersWithoutProvenance? rest with
      | some j', some rest' => some ((name, j') :: rest')
      | _, _ => none

end

/-- The settings in a layer: an object. The layer itself has no provenance, only the values in it. -/
def layer? : Json → Option Json
  | .obj members =>
    let settings := members.mapM fun m => (withoutProvenance? m.2).map fun j => (m.1, j)
    settings.bind fun members => canonical (.obj members)
  | _ => none

example : (withoutProvenance? (.obj [("a", .null), (Provenance.valueMember, .bool true),
    (Provenance.sourceMember, .ofNat 7)])).bind bool? = some true := by decide +kernel
example : (withoutProvenance? (.arr [.obj [(Provenance.sourceMember, .ofInt (-1))]])).isNone = true := by
  decide +kernel

end ScadaBridge.Json

namespace ScadaBridge.Yaml.Value

/-- Whether a value is the number of a source: an integer of 64 bits without a minus. -/
def isSource : Value → Bool
  | .integer false n => n < UInt64.size
  | _ => false

/-- The path in a private tag. -/
def path (name : String) : List String :=
  ((name.toList.splitOn '.').takeWhile fun part => !part.isEmpty).map String.ofList

mutual

/-- The document of a value without the numbers of sources. Nothing if one of them is none. -/
def withoutProvenance? : Value → Option Json
  | .null => some .null
  | .bool b => some (.bool b)
  | .integer isNegative n => some (.ofInt (if isNegative then -(n : Int) else n))
  | .double bits => some (.num (.double bits))
  | .text s => some (.str s)
  | .sequence items => (itemsWithoutProvenance? items).map .arr
  | .mapping members => (membersWithoutProvenance? members).map Json.Provenance.value
  | .tagged name content => (withoutProvenance? content).map fun j => j.nest (path name)

/-- Items without the numbers of sources. -/
def itemsWithoutProvenance? : List Value → Option (List Json)
  | [] => some []
  | v :: rest =>
    match withoutProvenance? v, itemsWithoutProvenance? rest with
    | some j, some rest' => some (j :: rest')
    | _, _ => none

/-- Members without the numbers of sources. -/
def membersWithoutProvenance? : List (String × Value) → Option (List (String × Json))
  | [] => some []
  | (name, v) :: rest =>
    if name = Json.Provenance.sourceMember then
      if v.isSource then membersWithoutProvenance? rest else none
    else
      match withoutProvenance? v, membersWithoutProvenance? rest with
      | some j, some rest' => some ((name, j) :: rest')
      | _, _ => none

end

/-- The settings in a layer, as for a document in JSON. -/
def layer? : Value → Option Json
  | .mapping members =>
    let settings := members.mapM fun m => (withoutProvenance? m.2).map fun j => (m.1, j)
    settings.bind fun members => Json.canonical (.obj members)
  | _ => none

example : path "format.json" = ["format", "json"] ∧ path "level." = ["level"] ∧ path ".x" = [] := by
  decide +kernel

end ScadaBridge.Yaml.Value
