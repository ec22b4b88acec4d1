import ScadaBridge.Device.Basic
import ScadaBridge.Fault

/-!
# The catalog

The catalog lists the devices that are read through registers, each at a site, with their points. Every
point becomes a metric of its device without a value; its addressing goes into the properties. A point
whose kind of data is unknown is left out.
-/

namespace ScadaBridge

/-- The kind of registers that hold a point. -/
inductive RegisterType where
  /-- One writable bit. -/
  | coil
  /-- One bit that can only be read. -/
  | discreteInput
  /-- Writable registers. -/
  | holdingRegister
  /-- Registers that can only be read. -/
  | inputRegister
deriving DecidableEq, Repr

namespace RegisterType

def all : List RegisterType := [.coil, .discreteInput, .holdingRegister, .inputRegister]

def name : RegisterType → String
  | .coil => "COIL"
  | .discreteInput => "DISCRETE_INPUT"
  | .holdingRegister => "HOLDING_REGISTER"
  | .inputRegister => "INPUT_REGISTER"

def ofName? (s : String) : Option RegisterType := all.find? fun t => t.name == s

end RegisterType

structure CatalogPoint where
  /-- The name, which is also that of the metric. -/
  id : String
  kind : String
  /-- The number of registers. -/
  width : UInt32
  /-- The address of the first register. -/
  address : UInt32
  registers : RegisterType
  /-- How often the point is read, in milliseconds. -/
  pollInterval : UInt32
  /-- Whether the point is read ahead of others. -/
  realtime : Bool
deriving DecidableEq, Repr

structure CatalogDevice where
  site : String
  device : String
  points : List CatalogPoint
deriving DecidableEq, Repr

structure Catalog where
  devices : List CatalogDevice
deriving DecidableEq, Repr

namespace CatalogPoint

def declaredType (p : CatalogPoint) : Except Fault DataType := DataType.ofCatalog p.kind p.width

/-- An unsigned 32-bit number as a value. -/
def wordValue (n : UInt32) : Scalar := .ofPattern ⟨false, .w32⟩ n.toNat

/-- The properties of the metric of a point. -/
def properties (p : CatalogPoint) : List Wire.Entry :=
  [(wordValue p.address).toEntry "Addr", (wordValue p.width).toEntry "Width",
    (Scalar.text p.kind).toEntry "DataType", (Scalar.text p.registers.name).toEntry "Type",
    (wordValue p.pollInterval).toEntry "Pollinterval",
    (Scalar.boolean p.realtime).toEntry "Realtime"]

/-- The metric of a point, before its first reading. -/
def toMetric (p : CatalogPoint) (timestamp : UInt64) : Except Fault Metric :=
  match p.declaredType with
  | .ok type =>
    .ok (.leaf { Leaf.plain p.id type none timestamp with properties := p.properties })
  | .error fault => .error fault

end CatalogPoint

namespace CatalogDevice

/-- The device with the metrics of its usable points; of two points with one name the later counts. -/
def toDevice (c : CatalogDevice) (timestamp : UInt64) : Device :=
  c.points.foldl
    (fun d p =>
      match p.toMetric timestamp with
      | .ok m => d.addMetric m
      | .error _ => d)
    (Device.ofSite c.device c.site)

/-- The first point called `id`. -/
def point? (c : CatalogDevice) (id : String) : Option CatalogPoint :=
  c.points.find? fun p => p.id == id

end CatalogDevice

end ScadaBridge
