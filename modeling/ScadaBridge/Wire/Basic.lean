/-!
# Decoded Sparkplug payloads

The payload of a message on the SCADA side as a tree, before it is put into bytes. A metric has one
value field; integers of up to 32 bits share one field and 64-bit ones another, as bit patterns, so
that a value can be read only together with its datatype code.
-/

namespace ScadaBridge.Wire

mutual

/-- The value field of a metric. -/
inductive Value where
  /-- An integer of up to 32 bits; negative ones by their two's complement. -/
  | int (pattern : UInt32)
  /-- A 64-bit integer; negative ones by their two's complement. -/
  | long (pattern : UInt64)
  /-- A single-precision number. -/
  | float (bits : UInt32)
  /-- A double-precision number. -/
  | double (bits : UInt64)
  | boolean (b : Bool)
  | string (s : String)
  /-- The body of a template. -/
  | template (t : Template)
  | null

/-- A property of a metric or a parameter of a template: a label with a typed value. -/
structure Entry where
  /-- What the entry is called. -/
  label : String
  datatype : UInt32
  value : Value

/-- One metric of a payload or template. -/
structure Metric where
  name : String
  /-- A number that stands for the name. -/
  aliasNumber : Option UInt64
  /-- Milliseconds since the epoch. -/
  timestamp : UInt64
  datatype : UInt32
  isNull : Bool
  properties : List Entry
  value : Value

/-- The body of a template, for definitions and instances alike. -/
structure Template where
  version : Option String
  metrics : List Metric
  parameters : List Entry
  /-- The name of the definition; instances alone have it. -/
  definition : Option String
  isDefinition : Bool

end

deriving instance Inhabited for Value

/-- A message payload. -/
structure Payload where
  /-- Milliseconds since the epoch. -/
  timestamp : UInt64
  /-- The sequence number; it is stamped when the message is rendered. -/
  seq : Option UInt64
  /-- An identifier of the payload. -/
  uuid : Option String
  metrics : List Metric

namespace Value

def text? : Value → Option String
  | .string s => some s
  | _ => none

def isNull : Value → Bool
  | .null => true
  | _ => false

end Value

def Metric.property? (m : Metric) (label : String) : Option Value :=
  (m.properties.find? fun e => e.label == label).map Entry.value

namespace Payload

/-- A payload without metrics. -/
def empty (timestamp : UInt64) : Payload := ⟨timestamp, none, none, []⟩

/-- The first metric called `name`. -/
def metric? (p : Payload) (name : String) : Option Metric :=
  p.metrics.find? fun m => m.name == name

/-- The names of the metrics, in order. -/
def metricNames (p : Payload) : List String := p.metrics.map Metric.name

end Payload

/-- A metric without alias and properties. -/
def Metric.plain (name : String) (timestamp : UInt64) (datatype : UInt32) (isNull : Bool)
    (value : Value) : Metric :=
  ⟨name, none, timestamp, datatype, isNull, [], value⟩

end ScadaBridge.Wire
