import ScadaBridge.Device.Basic
import ScadaBridge.Metric.Wire

/-!
# Messages about devices

A birth carries all metrics of a device and, for a catalog device, its site; a data message the changed
metrics; a death only its time. Building a message records in the device what it says.
-/

namespace ScadaBridge.Device

/-- The name of the metric that tells the site of a catalog device. -/
def siteMetric : String := "Properties/Site info name"

/-- A metric of a payload with one value. -/
def valueMetric (name : String) (v : Scalar) (timestamp : UInt64) : Wire.Metric :=
  v.fillMetric (.plain name timestamp 0 false .null)

/-- The metrics that tell what a device is. -/
def identityMetrics (d : Device) (timestamp : UInt64) : List Wire.Metric :=
  match d.site? with
  | some site => [valueMetric siteMetric (.text site) timestamp]
  | none => []

/-- The birth: the device is published as up. -/
def birth (d : Device) (now : UInt64) : Device × Wire.Payload :=
  ({ d with published := .up },
    { Wire.Payload.empty (millis now) with
      metrics := d.identityMetrics (millis now) ++ d.metrics.map Metric.birth })

/-- The data message of the changes, if any of them concerns a metric that there is. -/
def data (d : Device) (changes : ChangeSet) (now : UInt64) : Device × Option Wire.Payload :=
  let metrics := Metric.dataOf d.metrics changes
  if metrics.isEmpty then (d, none)
  else
    ({ d with published := .up }, some { Wire.Payload.empty (millis now) with metrics := metrics })

/-- The death: the device is known to be down. -/
def death (d : Device) : Device × Wire.Payload :=
  ({ d with known := .down }, Wire.Payload.empty (millis d.deathTime))

end ScadaBridge.Device
