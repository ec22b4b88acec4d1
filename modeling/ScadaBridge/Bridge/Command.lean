import ScadaBridge.Bridge.Basic
import ScadaBridge.Calendar
import ScadaBridge.Metric.Record
import ScadaBridge.Metric.Wire
import ScadaBridge.Scalar.Register

/-!
# Commands

A command of the SCADA side writes metrics of one device. Metrics that the device does not have, of
incompatible type or without a value are passed over; values are carried to the declared type. A vendor
device gets all of them in one message, a catalog device one write request for each.
-/

namespace ScadaBridge.Bridge

/-- The metric that a command writes, if the device accepts it: a value in the declared type, or for a
vendor device a UDT. -/
def accept? (d : Device) (now : UInt64) (metric : Wire.Metric) : Option Metric :=
  match Metric.ofWire metric with
  | .error _ => none
  | .ok m =>
    match d.checkMetric m.name m.declaredType with
    | .error _ => none
    | .ok declared =>
      match m with
      | .udt _ _ => if d.isExternal then some m else none
      | .leaf l =>
        match l.value.bind fun v => v.coerce? declared with
        | some v => some (.leaf (.ofValue m.name v now))
        | none => none

/-- The message for a vendor device. -/
def vendorCommand (d : Device) (topic : SparkplugTopic) (accepted : List Metric) (now : UInt64) :
    Outbound :=
  .bus (BusTopic.vendorCommand (d.app?.getD "") d.localName) <|
    .obj [("metrics", .arr (accepted.map Metric.toRecord)), ("sourcetopic", .str topic.text),
      ("timestamp", .ofNat (millis now).toNat)]

/-- The number of registers of a point: its property, or one. -/
def registerWidth (stored : Option Metric) : UInt32 :=
  match stored.bind fun m => m.property? "Width" with
  | some (.int width) => if width = 0 then 1 else width
  | _ => 1

/-- Whether a point is written ahead of others. -/
def isRealtime (stored : Option Metric) : Bool :=
  match stored.bind fun m => m.property? "Realtime" with
  | some (.boolean b) => b
  | _ => false

/-- The content of a write request with a register text and a sequence number. -/
def writeContent (site point registers : String) (realtime : Bool) (number : Nat) (now : UInt64) :
    Json :=
  .obj [("app_seq", .str (toString number)), ("command", .str point),
    ("realtime", .str (if realtime then "1" else "0")), ("timestamp", .str (Calendar.text now)),
    ("usec", .str (toString now.toNat)), ("value", .str registers), ("version", .str "2.0"),
    ("wellhead", .str site)]

/-- The register text that writes a metric, if it is a leaf whose value fits its registers. -/
def registersOf? (stored : Option Metric) (m : Metric) : Option String :=
  match m.value? with
  | none => none
  | some v => (v.toRegisters (registerWidth stored)).toOption

/-- The write request for an accepted metric. One that cannot be written takes no sequence number. -/
def writeRequest (b : Bridge) (d : Device) (now : UInt64) (m : Metric) : Bridge × Option Outbound :=
  let stored := d.metric? m.name
  match registersOf? stored m with
  | some registers =>
    let (number, writeSeq) := b.writeSeq.next
    let site := d.site?.getD ""
    ({ b with writeSeq := writeSeq },
      some <| .bus (BusTopic.writeRequest d.localName site m.name)
        (writeContent site m.name registers (isRealtime stored) number now))
  | none => (b, none)

def writeRequests (b : Bridge) (d : Device) (now : UInt64) : List Metric → Bridge × List Outbound
  | [] => (b, [])
  | m :: rest =>
    let (b, first) := b.writeRequest d now m
    let (b, more) := b.writeRequests d now rest
    (b, first.toList ++ more)

/-- The messages on the plant bus that a command calls for. -/
def command (b : Bridge) (now : UInt64) (topic : SparkplugTopic) (payload : Wire.Payload) :
    Bridge × Except Fault (List Outbound) :=
  match topic.kind, topic.device with
  | .deviceCommand, some name =>
    match b.device? name with
    | none => (b, .error (.unknownDevice name))
    | some d =>
      let accepted := payload.metrics.filterMap (accept? d now)
      if accepted.isEmpty then (b, .ok [])
      else if d.isExternal then (b, .ok [vendorCommand d topic accepted now])
      else
        let (b, requests) := b.writeRequests d now accepted
        (b, .ok requests)
  | _, _ => (b, .error (.invalidTopic topic.text))

end ScadaBridge.Bridge
