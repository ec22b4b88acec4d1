import ScadaBridge.Json.Record
import ScadaBridge.Wire.Basic

/-!
# Payloads in JSON

`Payload.toJson` writes a payload as a document with its fields in a fixed order; fields that are
absent, and empty property lists, are left out. `Payload.ofJson?` reads such documents, as objects or
by position. A value is an object whose one member is named for the value field, or the text `null`.
-/

namespace ScadaBridge.Wire

/-- The member of a field that is left out when absent. -/
def optionalMember (name : String) (j : Option Json) : List (String × Json) :=
  match j with
  | some j => [(name, j)]
  | none => []

mutual

/-- A value as a document. -/
def Value.toJson : Value → Json
  | .int pattern => .obj [("int_value", .ofNat pattern.toNat)]
  | .long pattern => .obj [("long_value", .ofNat pattern.toNat)]
  | .float bits => .obj [("float_value", .num (.single bits))]
  | .double bits => .obj [("double_value", .num (.double bits))]
  | .boolean b => .obj [("boolean_value", .bool b)]
  | .string s => .obj [("string_value", .str s)]
  | .template t => .obj [("template_value", t.toJson)]
  | .null => .str "null"

/-- A template body as a document. -/
def Template.toJson : Template → Json
  | ⟨version, metrics, parameters, definition, isDefinition⟩ =>
    .obj <| optionalMember "version" (version.map .str) ++
      [("metrics", .arr (metricsToJson metrics)),
        ("parameters", .arr (entriesToJson "name" parameters))] ++
      optionalMember "template_ref" (definition.map .str) ++ [("is_definition", .bool isDefinition)]

def metricsToJson : List Metric → List Json
  | [] => []
  | ⟨name, aliasNumber, timestamp, datatype, isNull, properties, value⟩ :: rest =>
    .obj ([("name", .str name)] ++
      optionalMember "alias" (aliasNumber.map fun a => .ofNat a.toNat) ++
      [("timestamp", .ofNat timestamp.toNat), ("datatype", .ofNat datatype.toNat),
        ("is_null", .bool isNull)] ++
      (if properties.isEmpty then []
        else [("properties", .arr (entriesToJson "key" properties))]) ++
      [("value", value.toJson)]) :: metricsToJson rest

/-- Entries as documents; `label` is the name of the field that holds their label. -/
def entriesToJson (label : String) : List Entry → List Json
  | [] => []
  | ⟨name, datatype, value⟩ :: rest =>
    .obj [(label, .str name), ("datatype", .ofNat datatype.toNat), ("value", value.toJson)] ::
      entriesToJson label rest

end

def Payload.toJson (p : Payload) : Json :=
  .obj <| [("timestamp", .ofNat p.timestamp.toNat)] ++
    optionalMember "seq" (p.seq.map fun s => .ofNat s.toNat) ++
    optionalMember "uuid" (p.uuid.map .str) ++ [("metrics", .arr (metricsToJson p.metrics))]

/-! ## Reading

A value may hold a template, which holds metrics with values of their own, so the reader of a value
is built level by level from the reader of what it may hold. -/

/-- Reads a value, with a reader for the template that it may hold. -/
def Value.readWith (template : Json → Option Template) (j : Json) : Option Value :=
  match j.alternative? .exact with
  | none => none
  | some (name, none) => if name = "null" then some .null else none
  | some (name, some content) =>
    if name = "null" then
      match content with
      | .null => some .null
      | _ => none
    else if name = "int_value" then content.uint32?.map .int
    else if name = "long_value" then content.uint64?.map .long
    else if name = "float_value" then content.single?.map .float
    else if name = "double_value" then content.double?.map .double
    else if name = "boolean_value" then content.bool?.map .boolean
    else if name = "string_value" then content.text?.map .string
    else if name = "template_value" then (template content).map .template
    else none

/-- Reads an entry whose label is the field `label`, with a reader for its value. -/
def Entry.readWith (value : Json → Option Value) (label : String) (j : Json) : Option Entry := do
  let fields ← j.fields? .exact [label, "datatype", "value"]
  let name ← fields.required label Json.text?
  let datatype ← fields.required "datatype" Json.uint32?
  let value ← fields.required "value" value
  return ⟨name, datatype, value⟩

/-- Reads a metric, with a reader for its value and those of its properties. -/
def Metric.readWith (value : Json → Option Value) (j : Json) : Option Metric := do
  let fields ← j.fields? .exact
    ["name", "alias", "timestamp", "datatype", "is_null", "properties", "value"]
  let name ← fields.required "name" Json.text?
  let aliasNumber ← fields.optional "alias" Json.uint64?
  let timestamp ← fields.required "timestamp" Json.uint64?
  let datatype ← fields.required "datatype" Json.uint32?
  let isNull ← fields.defaulted "is_null" Json.bool? false
  let properties ← fields.defaulted "properties" (Json.listOf? (Entry.readWith value "key")) []
  let value ← fields.required "value" value
  return ⟨name, aliasNumber, timestamp, datatype, isNull, properties, value⟩

/-- Reads a template body, with a reader for the values in it. -/
def Template.readWith (value : Json → Option Value) (j : Json) : Option Template := do
  let fields ← j.fields? .exact ["version", "metrics", "parameters", "template_ref", "is_definition"]
  let version ← fields.optional "version" Json.text?
  let metrics ← fields.defaulted "metrics" (Json.listOf? (Metric.readWith value)) []
  let parameters ← fields.defaulted "parameters" (Json.listOf? (Entry.readWith value "name")) []
  let definition ← fields.optional "template_ref" Json.text?
  let isDefinition ← fields.defaulted "is_definition" Json.bool? false
  return ⟨version, metrics, parameters, definition, isDefinition⟩

/-- Reads a value with at most `levels` templates inside each other. -/
def Value.read? : Nat → Json → Option Value
  | 0 => Value.readWith fun _ => none
  | levels + 1 => Value.readWith (Template.readWith (Value.read? levels))

/-- Reads a metric; no template in a document is nested deeper than the document. -/
def Metric.ofJson? (j : Json) : Option Metric := Metric.readWith (Value.read? j.depth) j

def Payload.ofJson? (j : Json) : Option Payload := do
  let fields ← j.fields? .exact ["timestamp", "seq", "uuid", "metrics"]
  let timestamp ← fields.required "timestamp" Json.uint64?
  let seq ← fields.optional "seq" Json.uint64?
  let uuid ← fields.optional "uuid" Json.text?
  let metrics ← fields.defaulted "metrics" (Json.listOf? Metric.ofJson?) []
  return ⟨timestamp, seq, uuid, metrics⟩

end ScadaBridge.Wire
