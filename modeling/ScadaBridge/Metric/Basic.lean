import ScadaBridge.Ordered
import ScadaBridge.Scalar.Wire

/-!
# Metrics

A metric is a leaf with one typed value, or a UDT that groups further metrics and has parameters. The
children and parameters of a UDT are kept in the order of their names.
-/

namespace ScadaBridge

/-- What every metric carries. -/
structure Label where
  name : String
  /-- The name on the SCADA side. -/
  published : String
  /-- Microseconds since the epoch. -/
  timestamp : UInt64
deriving DecidableEq

/-- The label of a metric that is published under its own name. -/
def Label.plain (name : String) (timestamp : UInt64) : Label := ⟨name, name, timestamp⟩

/-- A named constant of a UDT. -/
structure Parameter where
  name : String
  value : Scalar
deriving DecidableEq

/-- A metric with one value. -/
structure Leaf where
  label : Label
  declared : DataType
  /-- The value; none before the first reading. -/
  value : Option Scalar
  /-- Properties that are sent with births. -/
  properties : List Wire.Entry

/-- A UDT without its children. -/
structure UdtHead where
  label : Label
  definition : String
  version : String
  /-- Whether this is a definition itself. -/
  isDefinition : Bool
  /-- The index of the definition among the registered ones, once it is resolved. -/
  handle : Option Nat
  /-- The parameters, in the order of their names. -/
  parameters : List Parameter
deriving DecidableEq

inductive Metric where
  /-- A metric with one value. -/
  | leaf (l : Leaf)
  /-- A group of metrics, in the order of their names. -/
  | udt (head : UdtHead) (children : List Metric)

namespace Leaf

/-- A leaf without properties, published under its own name. -/
def plain (name : String) (declared : DataType) (value : Option Scalar) (timestamp : UInt64) : Leaf :=
  ⟨.plain name timestamp, declared, value, []⟩

/-- A leaf that declares the type of its value. -/
def ofValue (name : String) (value : Scalar) (timestamp : UInt64) : Leaf :=
  plain name value.dataType (some value) timestamp

end Leaf

namespace UdtHead

def ofInstance (name definition version : String) (timestamp : UInt64) : UdtHead :=
  ⟨.plain name timestamp, definition, version, false, none, []⟩

/-- The head of a definition, whose name is that of the metric. -/
def ofDefinition (name version : String) (timestamp : UInt64) : UdtHead :=
  ⟨.plain name timestamp, name, version, true, none, []⟩

/-- Whether two UDTs may belong to one definition. An empty definition name fits any other. -/
def sameDefinition (a b : UdtHead) : Bool :=
  a.definition == "" || b.definition == "" || a.definition == b.definition

def parameter? (head : UdtHead) (name : String) : Option Scalar :=
  (Ordered.find? Parameter.name name head.parameters).map Parameter.value

def setParameter (head : UdtHead) (p : Parameter) : UdtHead :=
  { head with parameters := Ordered.insert Parameter.name p head.parameters }

/-- The head as that of a definition. A definition has no handle, and is named for the metric if it
has no definition name. -/
def asDefinition (head : UdtHead) : UdtHead :=
  { head with
    isDefinition := true
    handle := none
    definition := if head.definition = "" then head.label.name else head.definition }

end UdtHead

namespace Metric

def label : Metric → Label
  | .leaf l => l.label
  | .udt head _ => head.label

def name (m : Metric) : String := m.label.name

def withLabel : Metric → Label → Metric
  | .leaf l, label => .leaf { l with label := label }
  | .udt head children, label => .udt { head with label := label } children

def atTime (m : Metric) (timestamp : UInt64) : Metric :=
  m.withLabel { m.label with timestamp := timestamp }

/-- The metric under another name on the SCADA side. -/
def publishedAs (m : Metric) (name : String) : Metric :=
  m.withLabel { m.label with published := name }

def declaredType : Metric → DataType
  | .leaf l => l.declared
  | .udt _ _ => .template

def children : Metric → List Metric
  | .leaf _ => []
  | .udt _ children => children

def value? : Metric → Option Scalar
  | .leaf l => l.value
  | .udt _ _ => none

def property? : Metric → String → Option Wire.Value
  | .leaf l, label => (l.properties.find? fun e => e.label == label).map Wire.Entry.value
  | .udt _ _, _ => none

/-- The metric with a child added or replaced; a leaf takes none. -/
def insertChild : Metric → Metric → Metric
  | .leaf l, _ => .leaf l
  | .udt head children, child => .udt head (Ordered.insert name child children)

/-- The metric with a parameter set; a leaf takes none. -/
def setParameter : Metric → Parameter → Metric
  | .leaf l, _ => .leaf l
  | .udt head children, p => .udt (head.setParameter p) children

def child? (m : Metric) (name : String) : Option Metric := Ordered.find? Metric.name name m.children

/-- The parameter called `name`; a leaf has none. -/
def parameter? : Metric → String → Option Scalar
  | .leaf _, _ => none
  | .udt head _, name => head.parameter? name

def sameIdentity (a b : Metric) : Bool := a.name == b.name && a.declaredType == b.declaredType

/-! ## Structure

Two metrics have the same structure when they agree in names, declared types, definitions and the
types of parameters at every level. -/

/-- Whether every parameter occurs in `others` with a value of the same type. -/
def parametersWithin (parameters others : List Parameter) : Bool :=
  parameters.all fun p =>
    match Ordered.find? Parameter.name p.name others with
    | some q => q.value.dataType == p.value.dataType
    | none => false

/-- Whether two UDTs agree in everything but their children. -/
def sameHead (a b : UdtHead) : Bool :=
  a.label.name == b.label.name && a.definition == b.definition && a.version == b.version &&
    a.parameters.length == b.parameters.length && parametersWithin a.parameters b.parameters

mutual

def sameStructure : Metric → Metric → Bool
  | .leaf a, .leaf b => a.label.name == b.label.name && a.declared == b.declared
  | .udt a as, .udt b bs => sameHead a b && as.length == bs.length && structuresWithin as bs
  | .leaf _, .udt _ _ | .udt _ _, .leaf _ => false

/-- Whether every metric occurs among `others` with the same structure. -/
def structuresWithin : List Metric → List Metric → Bool
  | [], _ => true
  | m :: rest, others =>
    (match Ordered.find? name m.name others with
      | some other => sameStructure m other
      | none => false) && structuresWithin rest others

end

end Metric

end ScadaBridge
