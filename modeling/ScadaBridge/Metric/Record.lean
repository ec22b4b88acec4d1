import ScadaBridge.Metric.Assign
import ScadaBridge.Scalar.Json

/-!
# Metrics as records

On the plant bus a metric is a JSON record with the members `name`, `dataType`, `value` and
`timestamp`. The value of a UDT is an object with its children (`metrics`), its `parameters` and
either a reference to its definition (`udt_ref`) or, for a definition, its `version`.

`Metric.ofRecord` reads the value of a document, in which no name occurs twice. Children and
parameters that cannot be read are left out.
-/

namespace ScadaBridge

def Parameter.toRecord (p : Parameter) : Json :=
  .obj [("dataType", .str p.value.dataType.name), ("name", .str p.name), ("value", p.value.toJson)]

/-- Reads a parameter; nothing if it lacks a member or its value is not of its type. -/
def Parameter.ofRecord? (j : Json) : Option Parameter := do
  let name ← (← j.get? "name").text?
  let type ← DataType.ofName? (← (← j.get? "dataType").text?)
  let value ← (Scalar.ofJson type (← j.get? "value")).toOption
  return ⟨name, value⟩

/-- How the value of a UDT says what it is. -/
def UdtHead.reference (head : UdtHead) : List (String × Json) :=
  if head.isDefinition then [("version", .str head.version)]
  else [("udt_ref", .obj [("name", .str head.definition), ("version", .str head.version)])]

namespace Metric

/-- The record with these members. -/
def recordOf (label : Label) (type : DataType) (value : Json) : Json :=
  .obj [("dataType", .str type.name), ("name", .str label.name),
    ("timestamp", .ofNat label.timestamp.toNat), ("value", value)]

mutual

def toRecord : Metric → Json
  | .leaf l =>
    recordOf l.label l.declared
      (match l.value with
        | some v => v.toJson
        | none => .null)
  | .udt head children =>
    recordOf head.label .template <| .obj <|
      [("metrics", .arr (toRecords children)),
        ("parameters", .arr (head.parameters.map Parameter.toRecord))] ++ head.reference

def toRecords : List Metric → List Json
  | [] => []
  | m :: rest => toRecord m :: toRecords rest

end

/-! ## Reading -/

def recordName (members : List (String × Json)) : Except Fault String :=
  match (Json.member? "name" members).bind Json.text? with
  | some name => .ok name
  | none => .error (.malformedRecord .noName)

def recordType (name : String) (members : List (String × Json)) : Except Fault DataType :=
  match (Json.member? "dataType" members).bind Json.text? with
  | some text => DataType.ofName text
  | none => .error (.malformedRecord (.noType name))

/-- The time in a record, or else the given one. -/
def recordTime (members : List (String × Json)) (otherwise : UInt64) : UInt64 :=
  ((Json.member? "timestamp" members).bind Json.uint64?).getD otherwise

/-- The head of the UDT whose value has these members. -/
def recordHead (name : String) (timestamp : UInt64) (members : List (String × Json)) :
    Except Fault UdtHead :=
  match Json.member? "udt_ref" members with
  | some reference =>
    match (reference.get? "name").bind Json.text?, (reference.get? "version").bind Json.text? with
    | some definition, some version => .ok (.ofInstance name definition version timestamp)
    | _, _ => .error (.malformedRecord (.udtIncompleteReference name))
  | none =>
    match (Json.member? "version" members).bind Json.text? with
    | some version => .ok (.ofDefinition name version timestamp)
    | none => .error (.malformedRecord (.udtNoReference name))

/-- The parameters in the value of a UDT that can be read. -/
def recordParameters (members : List (String × Json)) : List Parameter :=
  match (Json.member? "parameters" members).bind Json.items? with
  | some items => Ordered.ofList Parameter.name (items.filterMap Parameter.ofRecord?)
  | none => []

/-- The UDT with these members in its value and these children, if it has a list of children. -/
def recordUdt (name : String) (timestamp : UInt64) (members : List (String × Json))
    (children : Option (List Metric)) : Except Fault Metric :=
  match children with
  | none => .error (.malformedRecord (.udtNoMetrics name))
  | some children =>
    match recordHead name timestamp members with
    | .error fault => .error fault
    | .ok head =>
      .ok (.udt { head with parameters := recordParameters members }
        (Ordered.ofList Metric.name children))

/-- The leaf of a type with the value of a record; null is no value. -/
def recordLeaf (name : String) (timestamp : UInt64) (type : DataType) (value : Json) :
    Except Fault Metric :=
  match value with
  | .null => .ok (.leaf (.plain name type none timestamp))
  | value =>
    match Scalar.ofJson type value with
    | .ok v => .ok (.leaf (.plain name type (some v) timestamp))
    | .error fault => .error fault

mutual

/-- Reads a record; a record without a time gets the time `otherwise`. -/
def ofRecord (otherwise : UInt64) : Json → Except Fault Metric
  | .obj members =>
    match recordName members with
    | .error fault => .error fault
    | .ok name =>
      match recordType name members with
      | .error fault => .error fault
      | .ok type =>
        match ofValueMember name type (recordTime members otherwise) members with
        | some result => result
        | none => .error (.malformedRecord (.noValue name))
  | _ => .error (.malformedRecord .notAnObject)

def ofValueMember (name : String) (type : DataType) (timestamp : UInt64) :
    List (String × Json) → Option (Except Fault Metric)
  | [] => none
  | (key, value) :: rest =>
    if key = "value" then
      some (if type = .template then ofUdtValue name timestamp value
        else recordLeaf name timestamp type value)
    else ofValueMember name type timestamp rest

def ofUdtValue (name : String) (timestamp : UInt64) : Json → Except Fault Metric
  | .obj members => recordUdt name timestamp members (childrenOfMembers timestamp members)
  | _ => .error (.malformedRecord (.udtNotAnObject name))

/-- The children in the value of a UDT, if it has a list of them. -/
def childrenOfMembers (otherwise : UInt64) : List (String × Json) → Option (List Metric)
  | [] => none
  | (key, value) :: rest =>
    if key = "metrics" then childrenOfList otherwise value else childrenOfMembers otherwise rest

def childrenOfList (otherwise : UInt64) : Json → Option (List Metric)
  | .arr items => some (ofRecords otherwise items)
  | _ => none

/-- The metrics of the records that can be read. -/
def ofRecords (otherwise : UInt64) : List Json → List Metric
  | [] => []
  | j :: rest =>
    match ofRecord otherwise j with
    | .ok m => m :: ofRecords otherwise rest
    | .error _ => ofRecords otherwise rest

end

/-- Merges a record into a metric of the same name. -/
def assignRecord (stored : Metric) (record : Json) (otherwise : UInt64) :
    Except Fault (Metric × Assignment) :=
  match ofRecord otherwise record with
  | .error fault => .error fault
  | .ok incoming =>
    if incoming.name = stored.name then .ok (stored.assign incoming)
    else .error (.malformedRecord (.otherMetric incoming.name stored.name))

end Metric

end ScadaBridge
