import ScadaBridge.Metric.Assign

/-!
# Metrics in payloads

The birth form of a metric holds everything; the data form holds what a change names, without
properties. Payloads carry milliseconds, metrics microseconds. `Metric.ofWire` reads a metric of a
payload back; parts of a template that cannot be read are left out.
-/

namespace ScadaBridge

/-- Microseconds as whole milliseconds. -/
def millis (micros : UInt64) : UInt64 := micros / 1000

/-- Milliseconds as microseconds, at most the greatest 64-bit number. -/
def micros (millis : UInt64) : UInt64 := .ofNat (min (millis.toNat * 1000) (UInt64.size - 1))

namespace Leaf

/-- The leaf in a payload, with properties if it is a birth. A value brings its own datatype code. -/
def toWire (l : Leaf) (isBirth : Bool) : Wire.Metric :=
  let plain : Wire.Metric :=
    ⟨l.label.published, none, millis l.label.timestamp, l.declared.code, true,
      if isBirth then l.properties else [], .null⟩
  match l.value with
  | some v => v.fillMetric plain
  | none => plain

end Leaf

namespace UdtHead

def wireParameters (head : UdtHead) : List Wire.Entry :=
  head.parameters.map fun p => p.value.toEntry p.name

/-- The UDT in a payload, with the given children. -/
def toWire (head : UdtHead) (children : List Wire.Metric) : Wire.Metric :=
  .plain head.label.published (millis head.label.timestamp) DataType.template.code false <|
    .template
      ⟨if head.version = "" then none else some head.version, children, head.wireParameters,
        if head.isDefinition then none else some head.definition, head.isDefinition⟩

end UdtHead

namespace Metric

mutual

/-- The whole metric in a payload. -/
def toWire (isBirth : Bool) : Metric → Wire.Metric
  | .leaf l => l.toWire isBirth
  | .udt head children => head.toWire (toWires isBirth children)

def toWires (isBirth : Bool) : List Metric → List Wire.Metric
  | [] => []
  | m :: rest => toWire isBirth m :: toWires isBirth rest

end

/-- The birth form. -/
def birth (m : Metric) : Wire.Metric := m.toWire true

mutual

/-- The data form: of a UDT the children that the change lists, and all parameters. -/
def data (m : Metric) : Change → Wire.Metric
  | .whole => m.toWire false
  | .children changes =>
    match m with
    | .leaf l => l.toWire false
    | .udt head children => head.toWire (dataOf children changes)

/-- The data forms of the listed metrics that there are. -/
def dataOf (metrics : List Metric) : List (String × Change) → List Wire.Metric
  | [] => []
  | (listed, change) :: rest =>
    match Ordered.find? name listed metrics with
    | some m => data m change :: dataOf metrics rest
    | none => dataOf metrics rest

end

/-! ## Reading -/

/-- The parameters of a template that can be read. -/
def readParameters (entries : List Wire.Entry) : List Parameter :=
  entries.filterMap fun e =>
    match Scalar.ofWire e.datatype e.value with
    | .ok v => some ⟨e.label, v⟩
    | .error _ => none

/-- The head of a template. A version or definition name that is missing is empty. -/
def readHead (name : String) (timestamp : UInt64) (version definition : Option String)
    (isDefinition : Bool) (parameters : List Wire.Entry) : UdtHead :=
  let version := version.getD ""
  let head :=
    if isDefinition then UdtHead.ofDefinition name version timestamp
    else .ofInstance name (definition.getD "") version timestamp
  { head with parameters := Ordered.ofList Parameter.name (readParameters parameters) }

def readValue (datatype : UInt32) (isNull : Bool) (value : Wire.Value) : Except Fault (Option Scalar) :=
  if isNull || value.isNull then .ok none
  else
    match Scalar.ofWire datatype value with
    | .ok v => .ok (some v)
    | .error fault => .error fault

mutual

/-- Reads a metric of a payload. -/
def ofWire : Wire.Metric → Except Fault Metric
  | ⟨name, _, timestamp, datatype, isNull, properties, value⟩ =>
    match DataType.ofCode datatype with
    | .error fault => .error fault
    | .ok .template =>
      match value with
      | .template t => .ok (ofTemplate name (micros timestamp) t)
      | other => .error (.malformedRecord (.templateValue name other))
    | .ok declared =>
      match readValue datatype isNull value with
      | .ok v => .ok (.leaf ⟨.plain name (micros timestamp), declared, v, properties⟩)
      | .error fault => .error fault

/-- The UDT of a template. -/
def ofTemplate (name : String) (timestamp : UInt64) : Wire.Template → Metric
  | ⟨version, metrics, parameters, definition, isDefinition⟩ =>
    .udt (readHead name timestamp version definition isDefinition parameters)
      (Ordered.ofList Metric.name (ofWires metrics))

/-- The metrics of a template that can be read. -/
def ofWires : List Wire.Metric → List Metric
  | [] => []
  | m :: rest =>
    match ofWire m with
    | .ok child => child :: ofWires rest
    | .error _ => ofWires rest

end

end Metric

end ScadaBridge
