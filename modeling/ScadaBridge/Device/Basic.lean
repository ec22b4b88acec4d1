import ScadaBridge.Metric.Assign

/-!
# Devices

A device is a source of readings: a catalog device at a site, or a device that a vendor application
announced. It holds its metrics in the order of their names and two statuses: what was last published
about it, and what was last heard from it.
-/

namespace ScadaBridge

/-- What is known or published about a device. -/
inductive Status where
  /-- Nothing yet. -/
  | none
  /-- It delivers data. -/
  | up
  /-- It is dead. -/
  | down
deriving DecidableEq, Repr

/-- Where a device comes from. -/
inductive Origin where
  /-- Neither a site nor an application is known. -/
  | standalone (external : Bool)
  /-- The catalog, at this site. -/
  | site (name : String)
  /-- A vendor application. -/
  | vendor (app : String)
deriving DecidableEq, Repr

structure Device where
  /-- The name at its source. -/
  localName : String
  /-- The name on the SCADA side. -/
  telemetryName : String
  /-- Where it comes from. -/
  origin : Origin
  /-- The metrics, in the order of their names. -/
  metrics : List Metric
  published : Status
  /-- What was last heard from the source. -/
  known : Status
  /-- When the source was last reported dead, in microseconds since the epoch. -/
  deathTime : UInt64

namespace Device

/-- A device of which nothing is known yet. -/
def fresh (localName telemetryName : String) (origin : Origin) : Device :=
  ⟨localName, telemetryName, origin, [], .none, .none, 0⟩

/-- The telemetry name of a device within a site or application. -/
def joinedName (first second : String) : String := first ++ "-" ++ second

/-- A catalog device. -/
def ofSite (device site : String) : Device := fresh device (joinedName device site) (.site site)

/-- A device of a vendor application. -/
def ofVendor (app device : String) : Device := fresh device (joinedName app device) (.vendor app)

/-- The site of a catalog device. -/
def site? (d : Device) : Option String :=
  match d.origin with
  | .site name => some name
  | .standalone _ | .vendor _ => none

/-- The application of a vendor device. -/
def app? (d : Device) : Option String :=
  match d.origin with
  | .vendor app => some app
  | .standalone _ | .site _ => none

/-- Whether the device belongs to an application outside the catalog. -/
def isExternal (d : Device) : Bool :=
  match d.origin with
  | .standalone external => external
  | .site _ => false
  | .vendor _ => true

def metric? (d : Device) (name : String) : Option Metric := Ordered.find? Metric.name name d.metrics

def addMetric (d : Device) (m : Metric) : Device :=
  { d with metrics := Ordered.insert Metric.name m d.metrics }

def hasMetrics (d : Device) : Bool := !d.metrics.isEmpty

/-- A birth is owed when none was published, or the device was dead since. -/
def needsBirth (d : Device) : Bool := d.published != .up || d.known == .down

/-- The device after its source was reported dead. -/
def markDead (d : Device) (timestamp : UInt64) : Device := { d with deathTime := timestamp }

/-- The device after its source delivered data. -/
def markAlive (d : Device) : Device := { d with known := .up }

end Device

end ScadaBridge
