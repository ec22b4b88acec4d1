import ScadaBridge.Bridge.Basic
import ScadaBridge.Json.Parser
import ScadaBridge.Metric.Record
import ScadaBridge.Reading

/-!
# Messages of the plant bus

`Bridge.process` applies a message of the plant bus and tells what it calls for on the SCADA side. A
record among many that cannot be used is passed over; a message that cannot be used at all is a fault
and changes nothing.
-/

namespace ScadaBridge

/-- The metric of a record, if it can be read, its definitions are known and it fits them. -/
def Definitions.usable? (definitions : Definitions) (now : UInt64) (record : Json) : Option Metric :=
  match Metric.ofRecord now record with
  | .error _ => none
  | .ok m =>
    match m.bind definitions with
    | (_, some _) => none
    | (m', none) =>
      match m'.validate definitions with
      | .error _ => none
      | .ok () => some m'

namespace Bridge

/-- The records of a message, which `missing` reports if they are missing. -/
def recordsOf (payload : List UInt8) (missing : RecordFault) : Except Fault (List Json) :=
  match Json.read payload with
  | none => .error (.malformedRecord .notJson)
  | some message =>
    match (message.get? "metrics").bind Json.items? with
    | some records => .ok records
    | none => .error (.malformedRecord missing)

/-- The metrics of a message of a vendor application. -/
def metricsOf (b : Bridge) (payload : List UInt8) (now : UInt64) : Except Fault (List Metric) :=
  match recordsOf payload .noMetrics with
  | .error fault => .error fault
  | .ok records => .ok (records.filterMap (b.definitions.usable? now))

/-- What changed values of a device call for: the birth that it owed before, or a data message. -/
def birthOrData (owesBirth : Bool) (device : String) (changes : ChangeSet) : List Action :=
  if owesBirth then [.birth device]
  else if changes.isEmpty then []
  else [.data device changes]

/-- A vendor application announces a device. -/
def vendorBirth (b : Bridge) (app device : String) (payload : List UInt8) (now : UInt64) :
    Bridge × Except Fault (List Action) :=
  match b.metricsOf payload now with
  | .error fault => (b, .error fault)
  | .ok metrics =>
    let (b, d) := b.claimVendorDevice app device
    let b := { b with apps := b.apps.update app VendorApp.markAlive }
    let (d, outcome) := d.ingestBirth metrics now
    let actions :=
      match outcome with
      | .rebirth => [.birth d.telemetryName]
      | .dataOnly changes => birthOrData false d.telemetryName changes
    (b.putDevice d, .ok actions)

/-- A vendor application sends data of a device. -/
def vendorData (b : Bridge) (app device : String) (payload : List UInt8) (now : UInt64) :
    Bridge × Except Fault (List Action) :=
  match b.vendorDevice? app device with
  | none => (b, .error (.unknownDevice (Device.joinedName app device)))
  | some d =>
    match b.metricsOf payload now with
    | .error fault => (b, .error fault)
    | .ok metrics =>
      let (d', batch) := d.applyData metrics b.definitions now
      (b.putDevice d'.markAlive, .ok (birthOrData d.needsBirth d.telemetryName batch.changes))

/-- Declares a device dead, unless it is known to be. Its death is published if its birth was. -/
def declareDead (b : Bridge) (name : String) (timestamp : UInt64) : Bridge × List Action :=
  match b.device? name with
  | none => (b, [])
  | some d =>
    if d.known = .down then (b, [])
    else (b.putDevice (d.markDead timestamp), if d.published = .up then [.death name] else [])

def declareAllDead (b : Bridge) (timestamp : UInt64) : List String → Bridge × List Action
  | [] => (b, [])
  | name :: rest =>
    let (b, first) := b.declareDead name timestamp
    let (b, more) := b.declareAllDead timestamp rest
    (b, first ++ more)

/-- A vendor application, or one of its devices, is dead. -/
def vendorDeath (b : Bridge) (app : String) (device : Option String) (now : UInt64) :
    Bridge × Except Fault (List Action) :=
  match b.apps.get? app with
  | none => (b, .error (.unknownDevice app))
  | some known =>
    match device with
    | none =>
      let b := { b with apps := b.apps.put known.markDead }
      let (b, actions) := b.declareAllDead now known.devices
      (b, .ok actions)
    | some device =>
      match b.vendorDevice? app device with
      | none => (b, .error (.unknownDevice (Device.joinedName app device)))
      | some d =>
        let (b, actions) := b.declareDead d.telemetryName now
        (b, .ok actions)

/-- Takes over a value of a point of a catalog device. -/
def takeValue (b : Bridge) (d : Device) (point : String) (v : Scalar) (timestamp : UInt64) :
    Bridge × List Action :=
  let (d', result) := d.ingest point (.leaf (.ofValue point v timestamp)) timestamp
  let changes :=
    match result with
    | .assigned change => [(point, change)]
    | .noChange | .typeMismatch => []
  (b.putDevice d'.markAlive, birthOrData d.needsBirth d.telemetryName changes)

/-- A reading of a point of a catalog device. A reading without a time gets the present one. -/
def deviceUpdate (b : Bridge) (device site point : String) (payload : List UInt8) (now : UInt64) :
    Bridge × Except Fault (List Action) :=
  match b.catalogDevice? device site with
  | none => (b, .error (.unknownDevice (Device.joinedName device site)))
  | some d =>
    match d.metric? point with
    | none => (b, .error (.unknownMetric d.telemetryName point))
    | some m =>
      match Reading.parse payload with
      | .error fault => (b, .error fault)
      | .ok r =>
        let timestamp := if r.time = 0 then now else r.time
        match r.evaluate m.declaredType b.settings.deathErrorCodes with
        | .error fault => (b, .error fault)
        | .ok .deviceDead =>
          let (b, actions) := b.declareDead d.telemetryName timestamp
          (b, .ok actions)
        | .ok (.badRead _) => (b, .ok [])
        | .ok (.value v) =>
          let (b, actions) := b.takeValue d point v timestamp
          (b, .ok actions)

/-- The definition in a record, if it holds one. -/
def definitionOf? (now : UInt64) (record : Json) : Option Udt :=
  match Metric.ofRecord now record with
  | .ok (.udt head children) => if head.isDefinition then some ⟨head, children⟩ else none
  | .ok (.leaf _) | .error _ => none

/-- UDT definitions are announced; if there is any, the edge node is born again. -/
def announceDefinitions (b : Bridge) (payload : List UInt8) (now : UInt64) :
    Bridge × Except Fault (List Action) :=
  match recordsOf payload .noDefinitions with
  | .error fault => (b, .error fault)
  | .ok records =>
    let announced := records.filterMap (definitionOf? now)
    let definitions := announced.foldl (fun known u => (known.register u).1) b.definitions
    ({ b with definitions := definitions }, .ok (if announced.isEmpty then [] else [.nodeRebirth]))

def process (b : Bridge) (now : UInt64) (topic : String) (payload : List UInt8) :
    Bridge × Except Fault (List Action) :=
  match BusTopic.parse topic with
  | .error fault => (b, .error fault)
  | .ok (.birth app device) => b.vendorBirth app device payload now
  | .ok (.data app device) => b.vendorData app device payload now
  | .ok (.death app device) => b.vendorDeath app device now
  | .ok (.update device site point) => b.deviceUpdate device site point payload now
  | .ok .definitions => b.announceDefinitions payload now

end Bridge

end ScadaBridge
